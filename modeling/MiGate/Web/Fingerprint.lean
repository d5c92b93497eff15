import MiGate.Db.OutboundColumns
import MiGate.Db.Precedence
import MiGate.Db.RuleScope
import MiGate.Go.JsonText
import MiGate.Singbox.Config
import MiGate.Web.RefreshSafety

namespace MiGate.Web

open Go Db Fallible Relational Transition

/-! The fingerprint of the outbounds says all that the generators look at. -/

/-! ### The text of the fingerprint -/

/-- `json.Marshal` of a snapshot. -/
def marshalSnapshot (snapshot : OutboundCoreConfigSnapshot) : List Char :=
  '\x7b' :: jsonFields
    [("id", (itoa snapshot.id).toList), ("tag", (jsonString snapshot.tag).toList),
      ("protocol", (jsonString snapshot.protocol).toList), ("address", (jsonString snapshot.address).toList),
      ("port", (itoa snapshot.port).toList), ("username", (jsonString snapshot.username).toList),
      ("password", (jsonString snapshot.password).toList), ("enabled", jsonBool snapshot.enabled),
      ("sort", (itoa snapshot.sort).toList), ("settings_json", (jsonString snapshot.settingsJSON).toList)]

/-- The string `outboundCoreConfigFingerprint` returns. -/
def fingerprintText (outbounds : List Outbound) : String :=
  String.ofList (jsonSlice marshalSnapshot (outboundCoreConfigFingerprint outbounds))

theorem marshalSnapshot_readsBack : ReadsBack marshalSnapshot fun _ => True := by
  have comma : ∀ rest : List Char, NoDigit (',' :: rest) := by
    intro rest rune first
    cases first
    decide
  intro left right leftRest rightRest _ _ same
  rw [marshalSnapshot, marshalSnapshot, List.cons_append, List.cons_append, List.cons.injEq] at same
  obtain ⟨id, same⟩ := jsonFields_first itoa_readsBack comma same.2
  obtain ⟨tag, same⟩ := jsonFields_first jsonString_readsBack (fun _ => trivial) same
  obtain ⟨protocol, same⟩ := jsonFields_first jsonString_readsBack (fun _ => trivial) same
  obtain ⟨address, same⟩ := jsonFields_first jsonString_readsBack (fun _ => trivial) same
  obtain ⟨port, same⟩ := jsonFields_first itoa_readsBack comma same
  obtain ⟨username, same⟩ := jsonFields_first jsonString_readsBack (fun _ => trivial) same
  obtain ⟨password, same⟩ := jsonFields_first jsonString_readsBack (fun _ => trivial) same
  obtain ⟨enabled, same⟩ := jsonFields_first jsonBool_readsBack (fun _ => trivial) same
  obtain ⟨sort, same⟩ := jsonFields_first itoa_readsBack comma same
  obtain ⟨settingsJSON, same⟩ := jsonFields_last jsonString_readsBack (fun _ => trivial) same
  refine ⟨?_, same⟩
  cases left
  cases right
  simp_all

theorem fingerprintText_congr {left right : List Outbound}
    (same : outboundCoreConfigFingerprint left = outboundCoreConfigFingerprint right) :
    fingerprintText left = fingerprintText right := by
  rw [fingerprintText, fingerprintText, same]

/-- Equal texts are made of equal snapshots. -/
theorem fingerprintText_inj {left right : List Outbound} (same : fingerprintText left = fingerprintText right) :
    outboundCoreConfigFingerprint left = outboundCoreConfigFingerprint right := by
  have opens : ∀ snapshot (rest tail : List Char), marshalSnapshot snapshot ++ rest ≠ ']' :: tail := by
    intro snapshot rest tail same
    rw [marshalSnapshot, List.cons_append, List.cons.injEq] at same
    exact absurd same.1 (by decide)
  have texts := String.ofList_injective same
  refine (jsonSlice_readsBack marshalSnapshot_readsBack opens _ _ [] [] trivial trivial ?_).1
  rw [List.append_nil, List.append_nil, texts]

/-! ### What the generators look at -/

/-- An outbound without the columns that no generator looks at. -/
def plain (outbound : Outbound) : Outbound :=
  { outbound with
    remark := "", source := "", subscriptionID := 0, subscriptionIdentity := "", rawLink := "", lastSeenAt := "" }

section

variable {platform : Platform} {inbounds : List Inbound} {outbounds : List Outbound} {rules : List RoutingRule}

theorem mapM_plain {β : Type} (build : Outbound → Except String β) (same : ∀ outbound, build (plain outbound) = build outbound)
    (keeps : Outbound → Bool) (kept : ∀ outbound, keeps (plain outbound) = keeps outbound) :
    ((outbounds.map plain).filter keeps).mapM build = (outbounds.filter keeps).mapM build := by
  have selected : keeps ∘ plain = keeps := funext kept
  have built : build ∘ plain = build := funext same
  rw [List.filter_map, selected, List.mapM_map, built]

theorem resolveRuleOutbound_plain (rule : RoutingRule) :
    resolveRuleOutbound rule (outbounds.map plain) = (resolveRuleOutbound rule outbounds).map plain := by
  unfold resolveRuleOutbound
  split
  · exact List.find?_map
  · rfl

/-- What is done with a resolved outbound does not depend on the other columns. -/
theorem expect_plain {β : Type} (rule : RoutingRule) (error : String) {next : Outbound → Except String β}
    (same : ∀ outbound, next (plain outbound) = next outbound) :
    (expect (resolveRuleOutbound rule (outbounds.map plain)) error >>= next) =
      (expect (resolveRuleOutbound rule outbounds) error >>= next) := by
  rw [resolveRuleOutbound_plain]
  cases resolveRuleOutbound rule outbounds with
  | none => rfl
  | some outbound => exact same outbound

theorem xray_plain (opts : Config.ManagementDirectOptions) :
    Xray.buildConfigWithOutboundsOptions platform inbounds (outbounds.map plain) rules opts =
      Xray.buildConfigWithOutboundsOptions platform inbounds outbounds rules opts := by
  have built : Xray.buildOutbounds platform (outbounds.map plain) = Xray.buildOutbounds platform outbounds := by
    unfold Xray.buildOutbounds
    rw [mapM_plain (Xray.buildOutbound platform) (fun _ => rfl) _ fun _ => rfl]
  have ruled : Xray.buildRule (Xray.ruleMaps inbounds) inbounds (outbounds.map plain) =
      Xray.buildRule (Xray.ruleMaps inbounds) inbounds outbounds := by
    funext rule
    unfold Xray.buildRule
    rw [expect_plain]
    exact fun _ => rfl
  unfold Xray.buildConfigWithOutboundsOptions
  rw [built, ruled]

theorem singbox_plain (opts : Singbox.BuildOptions) :
    Singbox.buildConfigWithOutboundsOptions platform inbounds (outbounds.map plain) rules opts =
      Singbox.buildConfigWithOutboundsOptions platform inbounds outbounds rules opts := by
  have built : Singbox.buildOutbounds platform (outbounds.map plain) = Singbox.buildOutbounds platform outbounds := by
    unfold Singbox.buildOutbounds
    rw [mapM_plain (Singbox.buildOutbound platform) (fun _ => rfl) _ fun _ => rfl]
  have ruled : Singbox.buildRule (Singbox.ruleMaps inbounds) inbounds (outbounds.map plain) =
      Singbox.buildRule (Singbox.ruleMaps inbounds) inbounds outbounds := by
    funext rule
    unfold Singbox.buildRule
    rw [expect_plain]
    exact fun _ => rfl
  unfold Singbox.buildConfigWithOutboundsOptions
  rw [built, ruled]

end

/-! ### Equal fingerprints -/

/-- The outbound a snapshot is taken of, without the other columns. -/
def OutboundCoreConfigSnapshot.outbound (snapshot : OutboundCoreConfigSnapshot) : Outbound :=
  { (default : Outbound) with
    id := snapshot.id, tag := snapshot.tag, protocol := snapshot.protocol, address := snapshot.address
    port := snapshot.port, username := snapshot.username, password := snapshot.password
    enabled := snapshot.enabled, sort := snapshot.sort, settingsJSON := snapshot.settingsJSON }

section

variable {platform : Platform} {store : Store}

theorem plain_eq {outbound : Outbound} (trimmed : outbound.Trimmed) :
    plain outbound = (outboundCoreConfigSnapshot outbound).outbound := by
  rw [outboundCoreConfigSnapshot, trimmed.tag, trimmed.protocol, trimmed.address, trimmed.username, trimmed.settingsJSON]
  rfl

/-- The listed outbounds are in the order the fingerprint sorts them into. -/
theorem listOutbounds_sorted (store : Store) :
    (listOutbounds store).insertionSort sortBefore = listOutbounds store := by
  apply List.Pairwise.insertionSort_eq
  have stored := List.pairwise_insertionSort sortBefore store.outbounds.rows
  rw [listOutbounds, List.pairwise_map]
  exact stored.imp fun before => before

/-- The fingerprint of listed outbounds says what the generators look at. -/
theorem plain_listOutbounds (trimmed : ColumnsTrimmed store.outbounds) :
    (listOutbounds store).map plain =
      (outboundCoreConfigFingerprint (listOutbounds store)).map OutboundCoreConfigSnapshot.outbound := by
  rw [outboundCoreConfigFingerprint, listOutbounds_sorted, List.map_map]
  refine List.map_congr_left fun outbound member => ?_
  obtain ⟨row, stored, rfl⟩ := mem_listOutbounds.mp member
  exact plain_eq ((trimmed row stored).congr rfl rfl rfl rfl rfl)

end

/-- Both generators give equal results for two lists of outbounds, whatever the inbounds and rules. -/
def SameConfigs (left right : List Outbound) : Prop :=
  ∀ (platform : Platform) (inbounds : List Inbound) (rules : List RoutingRule) (opts : Singbox.BuildOptions),
    Xray.buildConfigWithOutboundsOptions platform inbounds left rules opts.managementDirect =
        Xray.buildConfigWithOutboundsOptions platform inbounds right rules opts.managementDirect ∧
      Singbox.buildConfigWithOutboundsOptions platform inbounds left rules opts =
        Singbox.buildConfigWithOutboundsOptions platform inbounds right rules opts

theorem sameConfigs_of_fingerprint {left right : Store} (leftTrimmed : ColumnsTrimmed left.outbounds)
    (rightTrimmed : ColumnsTrimmed right.outbounds)
    (same : outboundCoreConfigFingerprint (listOutbounds left) = outboundCoreConfigFingerprint (listOutbounds right)) :
    SameConfigs (listOutbounds left) (listOutbounds right) := by
  have plainSame : (listOutbounds left).map plain = (listOutbounds right).map plain := by
    rw [plain_listOutbounds leftTrimmed, plain_listOutbounds rightTrimmed, same]
  intro platform inbounds rules opts
  constructor
  · rw [← xray_plain, plainSame, xray_plain]
  · rw [← singbox_plain, plainSame, singbox_plain]

theorem listOutbounds_congr {left right : Store} (same : left.outbounds = right.outbounds) :
    listOutbounds left = listOutbounds right := by
  rw [listOutbounds, same, listOutbounds]

/-- A refresh that reports no change leaves outbounds of the same fingerprint. -/
theorem refresh_unchanged {platform : Platform} {now : String} {fetched : Except String (List UInt8)} {id : Int}
    {store after : Store} {result : Refreshed} (trimmed : ColumnsTrimmed store.outbounds)
    (done : refreshOutboundSubscription platform now fetched id store = (after, .ok result))
    (unchanged : result.1.configChanged = false) :
    ColumnsTrimmed after.outbounds ∧
      outboundCoreConfigFingerprint (listOutbounds store) = outboundCoreConfigFingerprint (listOutbounds after) := by
  unfold refreshOutboundSubscription at done
  cases found : findLiveSubscription store id with
  | none => simp [found] at done
  | some subscription =>
      cases enabled : subscription.enabled with
      | false => simp [found, enabled] at done
      | true =>
          cases fetched with
          | error error => simp [found, enabled] at done
          | ok body =>
              simp only [found, enabled, Bool.not_true, Bool.false_eq_true, if_false] at done
              unfold refreshFromBody at done
              dsimp only at done
              split at done
              · simp at done
              · rename_i parsed _
                split at done
                · simp at done
                · rename_i taken materialized written
                  obtain ⟨takenTrimmed, rfl⟩ := materializeSubscriptionOutbounds_trimmed trimmed written
                  rw [Prod.mk.injEq, Except.ok.injEq] at done
                  obtain ⟨rfl, rfl⟩ := done
                  have same := not_not.mp (of_decide_eq_false unchanged)
                  split
                  · exact ⟨takenTrimmed, same⟩
                  · rw [listOutbounds_congr markFetch_outbounds, markFetch_outbounds]
                    exact ⟨takenTrimmed, same⟩

/-- Outbounds of equal fingerprints give equal results in both generators, and so does a refresh
that reports no change. -/
theorem fingerprint_covers (platform : Platform) {left right : Store}
    (leftReached : Reach (Steps (eventStep platform)) Store.initial left)
    (rightReached : Reach (Steps (eventStep platform)) Store.initial right) :
    (fingerprintText (listOutbounds left) = fingerprintText (listOutbounds right) →
        SameConfigs (listOutbounds left) (listOutbounds right)) ∧
      ∀ now fetched id after result, refreshOutboundSubscription platform now fetched id left = (after, .ok result) →
        result.1.configChanged = false → SameConfigs (listOutbounds left) (listOutbounds after) := by
  have leftTrimmed := events_trimmed leftReached
  constructor
  · intro same
    exact sameConfigs_of_fingerprint leftTrimmed (events_trimmed rightReached) (fingerprintText_inj same)
  · intro now fetched id after result done unchanged
    obtain ⟨trimmed, same⟩ := refresh_unchanged leftTrimmed done unchanged
    exact sameConfigs_of_fingerprint leftTrimmed trimmed same

def exampleCreated : List StoreEvent :=
  [.operate (.createOutbound "" { (default : CreateOutboundParams) with
    tag := "proxy", remark := "first", protocol := "socks", address := "proxy.example", port := 1080 })]

def exampleRenamed : List StoreEvent :=
  exampleCreated ++ [.operate (.updateOutbound 4 { (default : UpdateOutboundParams) with
    tag := " proxy", remark := "second", protocol := "socks", address := "proxy.example", port := 1080, enabled := true })]

/-- Another remark changes no configuration. -/
theorem fingerprint_covers_remark :
    SameConfigs (listOutbounds (arrive (eventStep Config.examplePlatform) exampleCreated Store.initial))
      (listOutbounds (arrive (eventStep Config.examplePlatform) exampleRenamed Store.initial)) :=
  (fingerprint_covers Config.examplePlatform (Reach.arrive _ _ _) (Reach.arrive _ _ _)).1
    (fingerprintText_congr (by with_unfolding_all decide))

end MiGate.Web
