import MiGate.Db.OutboundSubscriptions
import MiGate.Subscription.Links

namespace MiGate.Subscription

open Go Db

/-- The runes of a slug: letters, digits and what is not ASCII, one dash for each run of others.
The loop ends as soon as 48 bytes are written. -/
def slugRunes (lastDash : Bool) (written : Nat) : List Char → List Char
  | [] => []
  | rune :: rest =>
      if ('a' ≤ rune && rune ≤ 'z') || ('0' ≤ rune && rune ≤ '9') || 127 < rune.toNat then
        rune :: if 48 ≤ written + rune.utf8Size then [] else slugRunes false (written + rune.utf8Size) rest
      else if lastDash then if 48 ≤ written then [] else slugRunes true written rest
      else '-' :: if 48 ≤ written + 1 then [] else slugRunes true (written + 1) rest

def slug (value : String) : String :=
  let value := trimSpace value
  if value = "" then "node"
  else orElse (String.ofList (trimList (· == '-') (slugRunes false 0 (toLower value).toList))) "node"

/-- The numbered variants of a tag, from the given number on, until one is free. -/
def firstFreeTag (base : String) (used : List String) : Nat → Nat → String
  | 0, number => base ++ "-" ++ itoa number
  | fuel + 1, number =>
      let tag := base ++ "-" ++ itoa number
      if used.contains tag then firstFreeTag base used fuel (number + 1) else tag

/-- A tag that is not used; among one more variants than there are tags, one is free. -/
def uniqueTag (base : String) (used : List String) : String :=
  let base := orElse (trimSpace base) "sub-node"
  if used.contains base then firstFreeTag base used used.length 2 else base

def linkIdentity (platform : Platform) (link : ParsedLink) : String :=
  orElse (trimSpace link.identity) (stableIdentity platform link)

/-- The rows of a subscription among the outbounds, in the order of their sort. -/
def subscriptionRows (subscriptionID : Int) (existing : List Outbound) : List Outbound :=
  (existing.filter (isSubscriptionOutbound subscriptionID)).insertionSort sortBefore

/-- The last row written under an identity in the map `byIdentity`. -/
def rowByIdentity (subscriptionID : Int) (existing : List Outbound) (identity : String) : Option Outbound :=
  lastWrite (((existing.filter (isSubscriptionOutbound subscriptionID)).filter fun row =>
    trimSpace row.subscriptionIdentity != "").map fun row => (row.subscriptionIdentity, row)) identity

/-- The row a link takes over: the one with its identity, else the one in its place. -/
def claimedRow (subscriptionID : Int) (existing : List Outbound) (identity : String) (i : Nat) : Option Outbound :=
  match rowByIdentity subscriptionID existing identity with
  | some row => some row
  | none => (subscriptionRows subscriptionID existing)[i]?

/-- The node of one link. -/
def materializeLink (platform : Platform) (subscriptionID : Int) (existing : List Outbound) (tagPrefix : String)
    (usedTags : List String) (link : ParsedLink) (i : Nat) : MaterializedSubscriptionOutbound :=
  let identity := linkIdentity platform link
  let claimed := claimedRow subscriptionID existing identity i
  let tag := (claimed.map Outbound.tag).getD ""
  let tag := if trimSpace tag = "" then uniqueTag (tagPrefix ++ slug link.remark) usedTags else tag
  { id := (claimed.map Outbound.id).getD 0, tag, remark := firstNonEmpty [link.remark, link.address]
    protocol := link.protocol, address := link.address, port := link.port, username := link.username
    password := link.password, subscriptionIdentity := identity, rawLink := link.rawLink
    settingsJSON := link.settingsJSON, position := i }

/-- The loop over the links, with the tags used so far. -/
def materializeLinks (platform : Platform) (subscriptionID : Int) (existing : List Outbound) (tagPrefix : String)
    (usedTags : List String) : List (ParsedLink × Nat) → List MaterializedSubscriptionOutbound
  | [] => []
  | (link, i) :: rest =>
      let node := materializeLink platform subscriptionID existing tagPrefix usedTags link i
      node :: materializeLinks platform subscriptionID existing tagPrefix (node.tag :: usedTags) rest

def materialize (platform : Platform) (subscriptionID : Int) (links : List ParsedLink) (existing : List Outbound)
    (tagPrefix : String) : List MaterializedSubscriptionOutbound × List String :=
  let usedTags := (existing.map Outbound.tag).filter fun tag => trimSpace tag != ""
  (materializeLinks platform subscriptionID existing tagPrefix usedTags links.zipIdx,
    links.map (linkIdentity platform))

end MiGate.Subscription
