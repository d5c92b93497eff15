import MiGate.Config.References
import MiGate.Db.Renames
import MiGate.Relational.Overwrite
import Mathlib.Data.List.Find

namespace MiGate.Config

open Go Db Fallible Relational Transition

/-! Which inbound a rule means that names it by a tag only.  The store and the check whether a
rule applies to a core take the first inbound that answers to the tag, and the maps of the
generators keep the last one of their core. -/

/-! ### First and last matches -/

/-- In the end a key holds what the last item with that key has written. -/
theorem lastWrite_flatMap {α κ ν : Type} [BEq κ] [LawfulBEq κ] (keys : α → List κ) (value : α → ν) (items : List α)
    (key : κ) :
    lastWrite (items.flatMap fun item => (keys item).map fun written => (written, value item)) key =
      (items.reverse.find? fun item => (keys item).contains key).map value := by
  have one : ∀ item, lastWrite ((keys item).map fun written => (written, value item)) key =
      if (keys item).contains key then some (value item) else none := by
    intro item
    split
    · rename_i held
      apply lastWrite_eq
      · exact List.mem_map_of_mem (List.contains_iff_mem.mp held)
      · intro other written
        obtain ⟨_, _, same⟩ := List.mem_map.mp written
        exact (Prod.mk.injEq .. ▸ same).2.symm
    · rename_i missing
      refine lastWrite_eq_none fun other written => missing ?_
      obtain ⟨held, member, same⟩ := List.mem_map.mp written
      rw [Prod.mk.injEq] at same
      rw [← same.1]
      exact List.contains_iff_mem.mpr member
  induction items with
  | nil => rfl
  | cons item rest ih =>
      rw [List.flatMap_cons, lastWrite_append, ih, one, List.reverse_cons, List.find?_append, Option.map_or]
      congr 1
      simp only [List.find?_cons, List.find?_nil]
      cases (keys item).contains key <;> rfl

/-- An item that is both the first and the last one selected is the only one. -/
theorem only_of_first_last {α : Type} {selected : α → Bool} {items : List α} {item : α} (distinct : items.Nodup)
    (first : items.find? selected = some item) (last : items.reverse.find? selected = some item) :
    ∀ other ∈ items, selected other = true → other = item := by
  induction items with
  | nil => cases first
  | cons head rest ih =>
      obtain ⟨absent, restDistinct⟩ := List.nodup_cons.mp distinct
      rw [List.reverse_cons, List.find?_append] at last
      intro other member chosen
      cases headChosen : selected head with
      | true =>
          rw [List.find?_cons_of_pos headChosen, Option.some.injEq] at first
          subst first
          rcases List.mem_cons.mp member with rfl | inside
          · rfl
          · have found : (rest.reverse.find? selected).isSome := by
              rw [List.find?_isSome]
              exact ⟨other, List.mem_reverse.mpr inside, chosen⟩
            rw [Option.or_of_isSome found] at last
            exact absurd (List.mem_reverse.mp (List.mem_of_find?_eq_some last)) absent
      | false =>
          rw [List.find?_cons_of_neg (by simp [headChosen])] at first
          have idle : [head].find? selected = none := by simp [headChosen]
          rw [idle, Option.or_none] at last
          refine ih restDistinct first last other ?_ chosen
          exact (List.mem_cons.mp member).resolve_left fun same => by simp [same, headChosen] at chosen

/-! ### The four readings of a tag -/

/-- A rule that names its inbound by a tag only. -/
structure NamesByTag (tag : String) (rule : RoutingRule) : Prop where
  noClient : rule.clientID ≤ 0
  noInbound : rule.inboundID ≤ 0
  tagged : rule.inboundTag = tag

/-- The inbound that decides in `RoutingRuleAppliesToCore` where a tag leads. -/
def decidingInbound (inbounds : List Inbound) (tag : String) : Option Inbound :=
  inbounds.find? fun inbound => generatedInboundTag inbound.toInboundRow == trimSpace tag ||
    trimSpace inbound.remark == trimSpace tag

/-- What the alias map of a core's generator holds for a tag. -/
def aliasOf (core : String) (inbounds : List Inbound) (tag : String) : Option String :=
  if core = coreXray then (Xray.ruleMaps inbounds).inboundTagAliases (trimSpace tag)
  else (Singbox.ruleMaps inbounds).inboundAliases (trimSpace tag)

/-- The tag an inbound has in the configuration of its core. -/
def configTag (row : InboundRow) : String :=
  if row.core = coreXray then generatedInboundTag row else Singbox.inboundStatsTag row

/-- The generator of a core emits nothing for a rule. -/
def EmitsNothing (core : String) (inbounds : List Inbound) (outbounds : List Outbound) (rule : RoutingRule) : Prop :=
  if core = coreXray then Xray.buildRule (Xray.ruleMaps inbounds) inbounds outbounds rule = .ok none
  else Singbox.buildRule (Singbox.ruleMaps inbounds) inbounds outbounds rule = .ok none

def Silent (core : String) (inbounds : List Inbound) (tag : String) : Prop :=
  ∀ outbounds rule, NamesByTag tag rule → EmitsNothing core inbounds outbounds rule

/-- All four readings lead to one inbound, and the other core has no rule for it. -/
structure Means (store : Store) (tag : String) (row : InboundRow) : Prop where
  stored : row ∈ store.inbounds.rows
  resolved : resolveRoutingInboundTag tag store = .ok row.id
  applies : decidingInbound (listInbounds store) tag = some (listed store row)
  listed : aliasOf row.core (listInbounds store) tag = some (configTag row)
  others : ∀ core ∈ [coreXray, coreSingbox], core ≠ row.core → Silent core (listInbounds store) tag

/-- All four readings find nothing. -/
structure MeansNothing (store : Store) (tag : String) : Prop where
  resolved : ∀ id, resolveRoutingInboundTag tag store ≠ .ok id
  applies : decidingInbound (listInbounds store) tag = none
  listed : ∀ core ∈ [coreXray, coreSingbox], aliasOf core (listInbounds store) tag = none
  others : ∀ core ∈ [coreXray, coreSingbox], Silent core (listInbounds store) tag

def OneMeaning (store : Store) (tag : String) : Prop :=
  (∃ row, Means store tag row) ∨ MeansNothing store tag

def answersTo (tag : String) (row : InboundRow) : Bool :=
  generatedInboundTag row == trimSpace tag || trimSpace row.remark == trimSpace tag

/-- The first inbound that answers to a tag is the only one of its core that does. -/
def Unambiguous (store : Store) (tag : String) : Prop :=
  ∀ first ∈ store.inbounds.rows.find? (answersTo tag), ∀ other ∈ store.inbounds.rows,
    answersTo tag other = true → other.core = first.core → other = first

/-- The inbounds of a store as its operations leave them, all of them enabled. -/
structure EnabledInbounds (store : Store) : Prop where
  sound : ∀ row ∈ store.inbounds.rows, row.Sound
  trimmed : ∀ row ∈ store.inbounds.rows, trimSpace row.remark = row.remark
  enabled : ∀ row ∈ store.inbounds.rows, row.enabled = true

section

variable {store : Store} {tag : String}

/-- What `RoutingRuleAppliesToCore` makes of a rule that has a tag only. -/
theorem applies_tag {inbounds : List Inbound} {rule : RoutingRule} (names : NamesByTag tag rule)
    (named : trimSpace tag ≠ "") (core : String) :
    routingRuleAppliesToCore rule inbounds core =
      (decidingInbound inbounds tag).any (inboundServes (normalizeCore core)) := by
  rw [routingRuleAppliesToCore, if_neg (by have := names.noClient; omega), if_neg (by have := names.noInbound; omega),
    names.tagged, if_neg named, decidingInbound]
  split
  · rename_i found
    rw [found]
    rfl
  · rename_i none
    rw [none]
    rfl

theorem silent_of_applies {inbounds : List Inbound} {core : String} (known : core ∈ [coreXray, coreSingbox])
    (named : trimSpace tag ≠ "")
    (idle : (decidingInbound inbounds tag).any (inboundServes core) = false) : Silent core inbounds tag := by
  intro outbounds rule names
  have normal : normalizeCore core = core := by
    have each : ∀ core ∈ [coreXray, coreSingbox], normalizeCore core = core := by with_unfolding_all decide
    exact each core known
  have skipped : routingRuleAppliesToCore rule inbounds core = false := by
    rw [applies_tag names named, normal, idle]
  rw [EmitsNothing]
  split
  · rename_i xray
    rw [Xray.buildRule, ← xray, skipped, Bool.not_false, Bool.or_true]
    rfl
  · rename_i singbox
    have same : core = coreSingbox := by simpa [singbox] using known
    rw [Singbox.buildRule, ← same, skipped, Bool.not_false, Bool.or_true]
    rfl

section

variable {row : InboundRow}

theorem listed_row (inbounds : EnabledInbounds store) (member : row ∈ store.inbounds.rows) :
    (listed store row).toInboundRow = row := by
  rw [listed, (inbounds.sound row member).loadInbound_eq]

theorem serves_listed (inbounds : EnabledInbounds store) (member : row ∈ store.inbounds.rows) (core : String) :
    inboundServes core (listed store row) = decide (row.core = core) := by
  rw [Bool.eq_iff_iff, inboundServes_listed (inbounds.sound row member), decide_eq_true_eq]
  exact and_iff_right (inbounds.enabled row member)

/-- The store takes the first inbound that answers to the tag. -/
theorem resolveRoutingInboundTag_eq (inbounds : EnabledInbounds store) (named : trimSpace tag ≠ "") (id : Int) :
    resolveRoutingInboundTag tag store = .ok id ↔
      (store.inbounds.rows.find? (answersTo tag)).map InboundRow.id = some id := by
  have same : store.inbounds.rows.find? (fun row =>
      trimSpace tag == "inbound-" ++ itoa row.id ++ "-" ++ sqlLower row.protocol || sqlTrim row.remark == trimSpace tag) =
      store.inbounds.rows.find? (answersTo tag) := by
    refine List.find?_congr fun row member => ?_
    rw [answersTo, generatedInboundTag, (supported_lower (inbounds.sound row member)).1,
      (supported_lower (inbounds.sound row member)).2, sqlTrim_of_trimmed (inbounds.trimmed row member),
      inbounds.trimmed row member, Bool.beq_comm]
  rw [resolveRoutingInboundTag, if_neg named, same]
  simp only [bind_eq_ok, expect_eq_ok, pure_eq_ok, Option.map_eq_some_iff]

/-- The first listed inbound that answers to the tag decides. -/
theorem decidingInbound_eq (inbounds : EnabledInbounds store) :
    decidingInbound (listInbounds store) tag = (store.inbounds.rows.find? (answersTo tag)).map (listed store) := by
  have same : store.inbounds.rows.find? ((fun inbound : Inbound =>
      generatedInboundTag inbound.toInboundRow == trimSpace tag || trimSpace inbound.remark == trimSpace tag) ∘
        listed store) = store.inbounds.rows.find? (answersTo tag) := by
    refine List.find?_congr fun row member => ?_
    rw [Function.comp_apply, listed_row inbounds member]
    rfl
  rw [decidingInbound, ← same]
  exact List.find?_map

theorem served_rows (inbounds : EnabledInbounds store) (core : String) :
    Xray.servedInbounds core (listInbounds store) =
      (store.inbounds.rows.filter fun row => row.core = core).map (listed store) := by
  have same : store.inbounds.rows.filter (inboundServes core ∘ listed store) =
      store.inbounds.rows.filter fun row => row.core = core :=
    List.filter_congr fun row member => serves_listed inbounds member core
  rw [← same, ← List.filter_map]
  rfl

/-- Maps that are filled inbound by inbound, under the names that answer to tags, find the last one. -/
theorem alias_last (inbounds : EnabledInbounds store) (core : String) {keys : Inbound → List String}
    {value : Inbound → String}
    (answers : ∀ row ∈ store.inbounds.rows, (keys (listed store row)).contains (trimSpace tag) = answersTo tag row)
    (values : ∀ row ∈ store.inbounds.rows, row.core = core → value (listed store row) = configTag row) :
    lastWrite ((Xray.servedInbounds core (listInbounds store)).flatMap fun inbound =>
        (keys inbound).map fun written => (written, value inbound)) (trimSpace tag) =
      ((store.inbounds.rows.filter fun row => row.core = core).reverse.find? (answersTo tag)).map configTag := by
  have members : ∀ row ∈ (store.inbounds.rows.filter fun row => row.core = core).reverse,
      row ∈ store.inbounds.rows ∧ row.core = core := by
    intro row member
    simpa using member
  have same : (store.inbounds.rows.filter fun row => row.core = core).reverse.find?
      ((fun inbound => (keys inbound).contains (trimSpace tag)) ∘ listed store) =
      (store.inbounds.rows.filter fun row => row.core = core).reverse.find? (answersTo tag) :=
    List.find?_congr fun row member => answers row (members row member).1
  rw [lastWrite_flatMap, served_rows inbounds, ← List.map_reverse, List.find?_map, same, Option.map_map]
  refine Option.map_congr fun row found => ?_
  have member := members row (List.mem_of_find?_eq_some found)
  exact values row member.1 member.2

/-- A core's alias map leads to the last inbound of the core that answers to the tag. -/
theorem aliasOf_eq (inbounds : EnabledInbounds store) {core : String} (known : core ∈ [coreXray, coreSingbox])
    (named : trimSpace tag ≠ "") :
    aliasOf core (listInbounds store) tag =
      ((store.inbounds.rows.filter fun row => row.core = core).reverse.find? (answersTo tag)).map configTag := by
  have apart : coreSingbox ≠ coreXray := by decide
  let remarks := fun inbound : Inbound => if trimSpace inbound.remark ≠ "" then [trimSpace inbound.remark] else []
  have remarked : ∀ row ∈ store.inbounds.rows,
      (remarks (listed store row)).contains (trimSpace tag) = (trimSpace row.remark == trimSpace tag) := by
    intro row member
    simp only [remarks, listed_row inbounds member]
    split
    · rw [List.contains_cons, List.contains_nil, Bool.or_false, Bool.beq_comm]
    · rename_i blank
      rw [List.contains_nil, not_not.mp blank]
      exact (beq_eq_false_iff_ne.mpr named.symm).symm
  rw [aliasOf]
  split
  · rename_i xray
    subst xray
    have filled : (Xray.ruleMaps (listInbounds store)).inboundTagAliases =
        lastWrite ((Xray.servedInbounds coreXray (listInbounds store)).flatMap fun inbound =>
          (remarks inbound ++ [generatedInboundTag inbound.toInboundRow]).map fun written =>
            (written, generatedInboundTag inbound.toInboundRow)) := by
      simp only [Xray.ruleMaps, remarks]
      congr 2
      funext inbound
      split <;> rfl
    rw [filled]
    refine alias_last inbounds coreXray (fun row member => ?_) fun row member core => ?_
    · rw [List.contains_append, remarked row member, listed_row inbounds member, Bool.or_comm, List.contains_cons,
        List.contains_nil, Bool.or_false, Bool.beq_comm]
      rfl
    · rw [listed_row inbounds member, configTag, if_pos core]
  · rename_i other
    have singbox : core = coreSingbox := by simpa [other] using known
    subst singbox
    have filled : (Singbox.ruleMaps (listInbounds store)).inboundAliases =
        lastWrite ((Xray.servedInbounds coreSingbox (listInbounds store)).flatMap fun inbound =>
          (generatedInboundTag inbound.toInboundRow :: remarks inbound).map fun written =>
            (written, Singbox.inboundStatsTag inbound.toInboundRow)) := by
      simp only [Singbox.ruleMaps, remarks]
      congr 2
      funext inbound
      split <;> rfl
    rw [filled]
    refine alias_last inbounds coreSingbox (fun row member => ?_) fun row member core => ?_
    · rw [List.contains_cons, remarked row member, listed_row inbounds member, Bool.beq_comm]
      rfl
    · rw [listed_row inbounds member, configTag, core, if_neg apart]

theorem configTag_inj {left right : InboundRow} (leftStored : left ∈ store.inbounds.rows)
    (rightStored : right ∈ store.inbounds.rows) (core : left.core = right.core)
    (same : configTag left = configTag right) : left = right := by
  have leftPositive := store.inbounds.positive left leftStored
  have rightPositive := store.inbounds.positive right rightStored
  refine Serial.eq_of_id_eq leftStored rightStored ?_
  rw [configTag, configTag, core] at same
  split at same
  · exact generatedInboundTag_inj leftPositive rightPositive same
  · exact inboundStatsTag_inj leftPositive rightPositive same

theorem core_known (inbounds : EnabledInbounds store) (member : row ∈ store.inbounds.rows) :
    row.core ∈ [coreXray, coreSingbox] := by
  rcases (inbounds.sound row member).core_cases with core | core <;> simp [core]

/-- The four readings of a tag agree exactly when no other inbound of the core of the first one
that answers to the tag answers to it too. -/
theorem oneMeaning_iff (inbounds : EnabledInbounds store) (named : trimSpace tag ≠ "") :
    OneMeaning store tag ↔ Unambiguous store tag := by
  have resolves := resolveRoutingInboundTag_eq inbounds named
  have decides : decidingInbound (listInbounds store) tag = _ := decidingInbound_eq inbounds
  cases found : store.inbounds.rows.find? (answersTo tag) with
  | none =>
      have unanswered := List.find?_eq_none.mp found
      rw [found] at decides resolves
      refine iff_of_true (.inr ⟨fun id => by simp [resolves], decides, fun core known => ?_, fun core known => ?_⟩) ?_
      · rw [aliasOf_eq inbounds known named, Option.map_eq_none_iff, List.find?_eq_none]
        intro row member
        exact unanswered row (List.mem_filter.mp (List.mem_reverse.mp member)).1
      · refine silent_of_applies known named ?_
        rw [decides]
        rfl
      · intro first firstFound
        rw [found] at firstFound
        cases firstFound
  | some first =>
      have stored := List.mem_of_find?_eq_some found
      have answers := List.find?_some found
      have known := core_known inbounds stored
      rw [found] at decides resolves
      let mine := store.inbounds.rows.filter fun row => row.core = first.core
      have firstMine : mine.find? (answersTo tag) = some first := by
        obtain ⟨_, before, after, split, unanswered⟩ := List.find?_eq_some_iff_append.mp found
        rw [List.find?_filter, List.find?_eq_some_iff_append]
        refine ⟨by simp [answers], before, after, split, fun row earlier => ?_⟩
        have unmatched := unanswered row earlier
        simp only [Bool.not_eq_true'] at unmatched
        simp [unmatched]
      have listing := aliasOf_eq inbounds known named
      constructor
      · intro meaning other otherFound row member answered core
        rw [found, Option.mem_some_iff] at otherFound
        subst otherFound
        rcases meaning with ⟨meant, means⟩ | nothing
        · have same : first = meant :=
            Serial.eq_of_id_eq stored means.stored (Option.some.inj ((resolves meant.id).mp means.resolved))
          subst same
          rw [means.listed, eq_comm, Option.map_eq_some_iff] at listing
          obtain ⟨last, lastFound, tagged⟩ := listing
          have lastMember := List.mem_filter.mp (List.mem_reverse.mp (List.mem_of_find?_eq_some lastFound))
          have lastSame := configTag_inj lastMember.1 stored (of_decide_eq_true lastMember.2) tagged
          subst lastSame
          have distinct : mine.Nodup := (List.Nodup.of_map _ store.inbounds.ids_nodup).filter _
          exact only_of_first_last distinct firstMine lastFound row
            (List.mem_filter.mpr ⟨member, decide_eq_true core⟩) answered
        · exact absurd ((resolves first.id).mpr rfl) (nothing.resolved first.id)
      · intro unambiguous
        refine .inl ⟨first, stored, (resolves first.id).mpr rfl, decides, ?_, fun core coreKnown different => ?_⟩
        · rw [listing, Option.map_eq_some_iff]
          have some : (mine.reverse.find? (answersTo tag)).isSome := by
            rw [List.find?_isSome]
            exact ⟨first, List.mem_reverse.mpr (List.mem_of_find?_eq_some firstMine), answers⟩
          obtain ⟨last, lastFound⟩ := Option.isSome_iff_exists.mp some
          have lastMember := List.mem_filter.mp (List.mem_reverse.mp (List.mem_of_find?_eq_some lastFound))
          refine ⟨last, lastFound, ?_⟩
          rw [unambiguous first found last lastMember.1 (List.find?_some lastFound) (of_decide_eq_true lastMember.2)]
        · refine silent_of_applies coreKnown named ?_
          rw [decides, Option.map_some, Option.any_some, serves_listed inbounds stored]
          exact decide_eq_false (Ne.symm different)

end

end

/-! ### Two inbounds of one remark -/

/-- Without a remark of its own an inbound is called by its protocol. -/
def exampleTwinStore : Store :=
  arrive (storeStep examplePlatform) [exampleInbound 1 "socks" 20001, exampleInbound 2 "socks" 20002] Store.initial

/-- The store takes the first of the twins, and the generator of Xray the second. -/
theorem twin_remarks_disagree :
    ¬OneMeaning exampleTwinStore "socks" ∧ resolveRoutingInboundTag "socks" exampleTwinStore = .ok 1 ∧
      aliasOf coreXray (listInbounds exampleTwinStore) "socks" = some "inbound-2-socks" := by
  have resolved : resolveRoutingInboundTag "socks" exampleTwinStore = .ok 1 := by with_unfolding_all decide
  refine ⟨fun meaning => ?_, resolved, by with_unfolding_all decide⟩
  rcases meaning with ⟨row, means⟩ | nothing
  · have first : row.id = 1 := Except.ok.inj (means.resolved.symm.trans resolved)
    have other : ∀ row ∈ exampleTwinStore.inbounds.rows, row.id = 1 →
        aliasOf row.core (listInbounds exampleTwinStore) "socks" ≠ some (configTag row) := by with_unfolding_all decide
    exact other row means.stored first means.listed
  · exact nothing.resolved 1 resolved

def exampleMixedStore : Store :=
  arrive (storeStep examplePlatform) [exampleInbound 1 "socks" 20001, exampleInbound 2 "hysteria2" 20002] Store.initial

theorem single_remark_agrees : OneMeaning exampleMixedStore "socks" := by
  have reachable : Reachable examplePlatform exampleMixedStore := Reach.arrive _ _ _
  have inbounds : EnabledInbounds exampleMixedStore :=
    ⟨reachable.inv.rows.inbounds, by with_unfolding_all decide, by with_unfolding_all decide⟩
  refine (oneMeaning_iff inbounds (by with_unfolding_all decide)).mpr ?_
  unfold Unambiguous
  with_unfolding_all decide

end MiGate.Config
