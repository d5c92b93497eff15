import MiGate.Config.Totality
import MiGate.Go.Host
import MiGate.Go.Split
import MiGate.Subscription.Refresh

namespace MiGate.Subscription

open Go Db Fallible

variable {platform : Platform}

/-! What two links have in common whose identities are the same. -/

/-- The text an identity is the digest of. -/
def identityText (parsed : ParsedLink) : String :=
  toLower (trimSpace parsed.protocol) ++ "|" ++ trimSpace parsed.address ++ "|" ++ itoa parsed.port ++ "|" ++
    trimSpace parsed.username ++ "|" ++ trimSpace parsed.password

theorem stableIdentity_eq (link : ParsedLink) :
    stableIdentity platform link = encodeHex (platform.sha256 (identityText link)) := rfl

/-- What the parser has checked of a link. -/
structure ParsedLink.Read (platform : Platform) (link : ParsedLink) : Prop where
  identity : link.identity = stableIdentity platform link
  protocol : link.protocol ∈ ["vless", "trojan", "shadowsocks"]
  address : HostText link.address
  port : 0 ≤ link.port
  vless : link.protocol = "vless" → link.password = ""
  trojan : link.protocol = "trojan" → link.username = ""

theorem parseURLLink_read {raw protocol : String} {link : ParsedLink} (known : protocol ∈ ["vless", "trojan"])
    (parsed : parseURLLink platform raw protocol = .ok link) : link.Read platform := by
  simp only [parseURLLink, bind_eq_ok, require_eq_ok, pure_eq_ok] at parsed
  obtain ⟨url, read, _, _, rfl⟩ := parsed
  exact {
    identity := rfl
    protocol := List.mem_append_left _ known
    address := HostText.trimSpace (hostname_host read)
    port := portNumber_nonneg _
    vless := fun isVless => if_neg (by rw [show protocol = "vless" from isVless]; decide)
    trojan := fun isTrojan => if_neg (by rw [show protocol = "trojan" from isTrojan]; decide) }

theorem ssEndpoint_address {raw : String} {url : URL} (read : parseURL raw = .ok url) :
    HostText (ssEndpoint raw url).address := by
  have plain : HostText (trimSpace url.hostname) := HostText.trimSpace (hostname_host read)
  unfold ssEndpoint
  dsimp only
  split
  · split
    · rename_i parsed found
      obtain ⟨decoded, _, given⟩ := Option.bind_eq_some_iff.mp found
      cases inner : parseURL ("ss://" ++ decoded) with
      | error reason =>
          rw [inner] at given
          cases given
      | ok other =>
          rw [inner] at given
          cases given
          exact hostname_host inner
    · exact plain
  · exact plain

theorem parseSSLink_read {raw : String} {link : ParsedLink} (parsed : parseSSLink platform raw = .ok link) :
    link.Read platform := by
  simp only [parseSSLink, bind_eq_ok, require_eq_ok] at parsed
  obtain ⟨url, read, _, checked, rest⟩ := parsed
  simp only [Bool.and_eq_true, decide_eq_true_eq] at checked
  split at rest
  · cases rest
  · simp only [bind_eq_ok, pure_eq_ok] at rest
    obtain ⟨_, _, rfl⟩ := rest
    exact {
      identity := rfl
      protocol := List.mem_cons_of_mem _ (List.mem_cons_of_mem _ List.mem_cons_self)
      address := ssEndpoint_address read
      port := le_of_lt checked.1.1.2
      vless := fun other => absurd (show "shadowsocks" = "vless" from other) (by decide)
      trojan := fun other => absurd (show "shadowsocks" = "trojan" from other) (by decide) }

theorem parseLink_read {raw : String} {link : ParsedLink} (parsed : parseLink platform raw = .ok link) : link.Read platform := by
  unfold parseLink at parsed
  dsimp only at parsed
  split at parsed
  · cases parsed
  split at parsed
  · exact parseURLLink_read (by decide) parsed
  split at parsed
  · exact parseURLLink_read (by decide) parsed
  split at parsed
  · exact parseSSLink_read parsed
  split at parsed <;> cases parsed

/-- The two links lead to one server with one credential. -/
structure SameNode (platform : Platform) (left right : ParsedLink) : Prop where
  protocol : (linkServer platform left).protocol = (linkServer platform right).protocol
  address : (linkServer platform left).address = (linkServer platform right).address
  port : (linkServer platform left).port = (linkServer platform right).port
  username : (linkServer platform left).username = (linkServer platform right).username
  password : trimSpace (linkServer platform left).password = trimSpace (linkServer platform right).password

/-- A cipher that does not hold the mark between the fields of an identity. -/
def PlainMethod (link : ParsedLink) : Prop :=
  link.protocol = "shadowsocks" → '|' ∉ link.username.toList

theorem protocol_texts : ∀ left ∈ ["vless", "trojan", "shadowsocks"], ∀ right ∈ ["vless", "trojan", "shadowsocks"],
    '|' ∉ (toLower (trimSpace left)).toList ∧
      (toLower (trimSpace left) = toLower (trimSpace right) → left = right) ∧
      (normalizeOutboundProtocol left = normalizeOutboundProtocol right → left = right) := by
  decide +kernel

/-- The text ends in the credential, which can be read from it for each protocol. -/
theorem credential_inj {left right : ParsedLink} (read : left.Read platform) (read' : right.Read platform)
    (plain : PlainMethod left) (plain' : PlainMethod right) (protocol : left.protocol = right.protocol) :
    trimSpace left.username ++ "|" ++ trimSpace left.password =
        trimSpace right.username ++ "|" ++ trimSpace right.password ↔
      trimSpace left.username = trimSpace right.username ∧ trimSpace left.password = trimSpace right.password := by
  have known := read.protocol
  simp only [List.mem_cons, List.not_mem_nil, or_false] at known
  rcases known with vless | trojan | shadowsocks
  · rw [read.vless vless, read'.vless (protocol ▸ vless), String.append_left_inj, String.append_left_inj]
    simp only [and_true]
  · rw [read.trojan trojan, read'.trojan (protocol ▸ trojan), String.append_right_inj]
    simp only [true_and]
  · have free := fun member => plain shadowsocks (trimSpace_subset left.username member)
    have free' := fun member => plain' (protocol ▸ shadowsocks) (trimSpace_subset right.username member)
    exact barred_inj free free'

theorem unbarred_itoa {value : Int} (nonneg : 0 ≤ value) : '|' ∉ (itoa value).toList :=
  fun member => absurd (isDigit_itoa nonneg '|' member) (by decide)

theorem identityText_inj {left right : ParsedLink} (read : left.Read platform) (read' : right.Read platform)
    (plain : PlainMethod left) (plain' : PlainMethod right) :
    identityText left = identityText right ↔ SameNode platform left right := by
  obtain ⟨free, same, normal⟩ := protocol_texts _ read.protocol _ read'.protocol
  have free' := (protocol_texts _ read'.protocol _ read.protocol).1
  have addresses := HostText.unbarred (HostText.trimSpace read.address)
  have addresses' := HostText.unbarred (HostText.trimSpace read'.address)
  have parts : identityText left = identityText right ↔
      toLower (trimSpace left.protocol) = toLower (trimSpace right.protocol) ∧
        trimSpace left.address = trimSpace right.address ∧ itoa left.port = itoa right.port ∧
          trimSpace left.username ++ "|" ++ trimSpace left.password =
            trimSpace right.username ++ "|" ++ trimSpace right.password := by
    rw [← barred_inj (unbarred_itoa read.port) (unbarred_itoa read'.port), ← barred_inj addresses addresses',
      ← barred_inj free free']
    simp only [identityText, String.append_assoc]
  rw [parts]
  constructor
  · intro ⟨protocol, address, port, credential⟩
    obtain ⟨username, password⟩ := (credential_inj read read' plain plain' (same protocol)).mp credential
    exact ⟨congrArg normalizeOutboundProtocol (same protocol), address, itoa_inj read.port read'.port port, username,
      password⟩
  · intro node
    have protocol := normal node.protocol
    exact ⟨congrArg (toLower ∘ trimSpace) protocol, node.address, congrArg itoa node.port,
      (credential_inj read read' plain plain' protocol).mpr ⟨node.username, node.password⟩⟩

/-- A refresh knows a parsed link by its stable identity. -/
theorem linkIdentity_parsed {raw : String} {link : ParsedLink} (parsed : parseLink platform raw = .ok link) :
    linkIdentity platform link = stableIdentity platform link := by
  have identified := (parseLink_read parsed).identity
  have spaceless : trimSpace (stableIdentity platform link) = stableIdentity platform link :=
    (spaceless_encodeHex _).trimSpace
  rw [linkIdentity, identified, spaceless, orElse]
  split <;> rfl

/-- Links have one identity just when they lead to one server with one credential; how they
reach it is no part of the identity. -/
theorem identity_names_node {rawLeft rawRight : String} {left right : ParsedLink}
    (parsed : parseLink platform rawLeft = .ok left) (parsed' : parseLink platform rawRight = .ok right)
    (apart : platform.sha256 (identityText left) = platform.sha256 (identityText right) →
      identityText left = identityText right)
    (plain : PlainMethod left) (plain' : PlainMethod right) :
    (stableIdentity platform left = stableIdentity platform right ↔ SameNode platform left right) ∧
      (linkIdentity platform left = linkIdentity platform right ↔ SameNode platform left right) := by
  have node : stableIdentity platform left = stableIdentity platform right ↔ SameNode platform left right := by
    rw [← identityText_inj (parseLink_read parsed) (parseLink_read parsed') plain plain', stableIdentity_eq,
      stableIdentity_eq]
    constructor
    · exact fun same => apart (encodeHex_inj same)
    · exact fun same => by rw [same]
  refine ⟨node, ?_⟩
  rw [linkIdentity_parsed parsed, linkIdentity_parsed parsed']
  exact node

/-- The outbounds of the two links differ in nothing but the remark and the link itself. -/
structure SameOutbound (platform : Platform) (left right : ParsedLink) : Prop where
  node : SameNode platform left right
  password : (linkServer platform left).password = (linkServer platform right).password
  settings : (linkServer platform left).settingsJSON = (linkServer platform right).settingsJSON

/-- The digest of the one text the example links have. -/
def exampleHashed : Platform :=
  { Config.examplePlatform with
    sha256 := fun text =>
      if text = "trojan|h|1||p" then
        [200, 73, 65, 145, 91, 48, 26, 228, 122, 175, 199, 253, 80, 143, 195, 142, 177, 59,
          144, 93, 222, 175, 38, 20, 224, 199, 186, 81, 231, 139, 149, 238]
      else [] }

def exampleLink (path : String) : String :=
  "trojan://p@h:1?path=" ++ path

theorem exampleLink_parsed {path : String} (listed : path ∈ ["a", "b"]) : ∃ link,
    parseLink exampleHashed (exampleLink path) = .ok link ∧ link.protocol = "trojan" ∧
      identityText link = "trojan|h|1||p" ∧
        (linkServer exampleHashed link).settingsJSON = "\x7b\"path\":\"" ++ path ++ "\"\x7d" := by
  have parsed : ∀ path ∈ ["a", "b"], (parseLink exampleHashed (exampleLink path)).toOption.map (fun link =>
      (link.protocol, identityText link, (linkServer exampleHashed link).settingsJSON)) =
        some ("trojan", "trojan|h|1||p", "\x7b\"path\":\"" ++ path ++ "\"\x7d") := by
    decide +kernel
  have found := parsed path listed
  cases result : parseLink exampleHashed (exampleLink path) with
  | error reason =>
      rw [result] at found
      cases found
  | ok link =>
      rw [result] at found
      obtain ⟨protocol, text, settings⟩ := by simpa only [Except.toOption, Option.map_some, Option.some.injEq,
        Prod.mk.injEq] using found
      exact ⟨link, rfl, protocol, text, settings⟩

/-- Two links to one server that ask for different paths are one node. -/
theorem paths_share_identity : ¬ ∀ (platform : Platform) (rawLeft rawRight : String) (left right : ParsedLink),
    parseLink platform rawLeft = .ok left → parseLink platform rawRight = .ok right →
      stableIdentity platform left = stableIdentity platform right → SameOutbound platform left right := by
  intro always
  obtain ⟨left, parsed, _, text, settings⟩ := @exampleLink_parsed "a" (by decide)
  obtain ⟨right, parsed', _, text', settings'⟩ := @exampleLink_parsed "b" (by decide)
  have identity : stableIdentity exampleHashed left = stableIdentity exampleHashed right := by
    rw [stableIdentity_eq, stableIdentity_eq, text, text']
  have same := (always exampleHashed _ _ left right parsed parsed' identity).settings
  rw [settings, settings'] at same
  exact absurd same (by decide)

theorem paths_lead_to_one_node : ∃ left right, parseLink exampleHashed (exampleLink "a") = .ok left ∧
    parseLink exampleHashed (exampleLink "b") = .ok right ∧ SameNode exampleHashed left right := by
  obtain ⟨left, parsed, protocol, text, _⟩ := @exampleLink_parsed "a" (by decide)
  obtain ⟨right, parsed', protocol', text', _⟩ := @exampleLink_parsed "b" (by decide)
  have plain : PlainMethod left := fun other => absurd (protocol.symm.trans other) (by decide)
  have plain' : PlainMethod right := fun other => absurd (protocol'.symm.trans other) (by decide)
  refine ⟨left, right, parsed, parsed', ?_⟩
  refine (identity_names_node parsed parsed' (fun _ => text.trans text'.symm) plain plain').1.mp ?_
  rw [stableIdentity_eq, stableIdentity_eq, text, text']

end MiGate.Subscription
