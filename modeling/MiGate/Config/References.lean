import MiGate.Singbox.Narrowing

namespace MiGate.Config

open Go Db Fallible Relational Routing

variable {platform : Platform} {store : Store}

/-! The outbound tags of a configuration, and the rules that lead to them. -/

theorem nodup_tags {α : Type} {items : List α} {tag : α → String} (id : α → Int) (ids : (items.map id).Nodup)
    (apart : ∀ left ∈ items, ∀ right ∈ items, tag left = tag right → id left = id right) :
    (items.map tag).Nodup := by
  refine List.Nodup.map_on (fun left leftMember right rightMember same => ?_) (List.Nodup.of_map id ids)
  exact List.inj_on_of_nodup_map ids leftMember rightMember (apart left leftMember right rightMember same)

theorem map_eq_of_forall₂ {α β γ : Type} {related : α → β → Prop} {items : List α} {results : List β}
    {f : α → γ} {g : β → γ} (all : List.Forall₂ related items results)
    (same : ∀ item ∈ items, ∀ result, related item result → g result = f item) :
    results.map g = items.map f := by
  induction all with
  | nil => rfl
  | cons first _ ih =>
      have rest := ih fun item member => same item (List.mem_cons_of_mem _ member)
      rw [List.map_cons, List.map_cons, same _ List.mem_cons_self _ first, rest]

theorem ensureSystemOutbound_fresh {ω : Type} {tag : ω → String} {system : ω} {outbounds : List ω}
    (fresh : tag system ∉ outbounds.map tag) :
    ensureSystemOutbound tag system outbounds = outbounds ++ [system] := by
  induction outbounds with
  | nil => rfl
  | cons first rest ih =>
      rw [List.map_cons, List.mem_cons, not_or] at fresh
      rw [ensureSystemOutbound, if_neg (Ne.symm fresh.1), ih fresh.2, List.cons_append]

def systemDirectTag : String := "migate-system-direct"

/-- The tags of the outbounds with the given identifiers, or of the one that stands for none, and
of the system outbound if there is one. -/
def outboundTags (lead : String) (ids : List Int) (system : Bool) : List String :=
  (if ids.isEmpty then [lead ++ itoa 0] else ids.map fun id => lead ++ itoa id) ++
    if system then [systemDirectTag] else []

section

variable {lead : String} {ids : List Int} {system : Bool} {first : Char}

theorem systemDirectTag_ne (leadFirst : lead.toList.head? = some first) (notSystem : first ≠ 'm') (id : Int) :
    lead ++ itoa id ≠ systemDirectTag := by
  have split : systemDirectTag = "m" ++ "igate-system-direct" := by decide
  rw [split]
  exact lead_ne leadFirst (by decide) notSystem _ _

theorem tag_mem_outboundTags (leadFirst : lead.toList.head? = some first) (notSystem : first ≠ 'm')
    (positive : ∀ id ∈ ids, 0 < id) {id : Int} (wanted : 0 < id) :
    lead ++ itoa id ∈ outboundTags lead ids system ↔ id ∈ ids := by
  have notLast : lead ++ itoa id ∉ if system then [systemDirectTag] else [] := by
    have apart := systemDirectTag_ne leadFirst notSystem id
    cases system <;> simp [apart]
  rw [outboundTags, List.mem_append, or_iff_left notLast]
  cases ids with
  | nil =>
      simp only [List.isEmpty_nil, if_true, List.mem_singleton, List.not_mem_nil, iff_false]
      intro same
      have read : lead ++ itoa id ++ "" = lead ++ itoa 0 ++ "" := by rw [same]
      have zero := numbered_inj wanted.le le_rfl endsNumber_empty endsNumber_empty read
      omega
  | cons head rest =>
      simp only [List.isEmpty_cons, Bool.false_eq_true, if_false, List.mem_map]
      constructor
      · rintro ⟨other, member, same⟩
        rw [← tag_inj (positive other member) wanted same]
        exact member
      · exact fun member => ⟨id, member, rfl⟩

theorem systemDirectTag_mem (leadFirst : lead.toList.head? = some first) (notSystem : first ≠ 'm') :
    systemDirectTag ∈ outboundTags lead ids system ↔ system = true := by
  have notBefore : systemDirectTag ∉
      if ids.isEmpty then [lead ++ itoa 0] else ids.map fun id => lead ++ itoa id := by
    split
    · exact fun member => systemDirectTag_ne leadFirst notSystem 0 (List.mem_singleton.mp member).symm
    · intro member
      obtain ⟨id, _, same⟩ := List.mem_map.mp member
      exact systemDirectTag_ne leadFirst notSystem id same
  rw [outboundTags, List.mem_append, or_iff_right notBefore]
  cases system <;> simp

theorem outboundTags_nodup (leadFirst : lead.toList.head? = some first) (notSystem : first ≠ 'm')
    (distinct : ids.Nodup) (positive : ∀ id ∈ ids, 0 < id) : (outboundTags lead ids system).Nodup := by
  unfold outboundTags
  rw [List.nodup_append']
  refine ⟨?_, ?_, ?_⟩
  · split
    · exact List.nodup_singleton _
    · refine List.Nodup.map_on (fun left leftMember right rightMember same => ?_) distinct
      exact tag_inj (positive left leftMember) (positive right rightMember) same
  · cases system <;> simp
  · intro tag before last
    cases system with
    | false => cases last
    | true =>
        rw [if_pos rfl, List.mem_singleton] at last
        rw [last] at before
        split at before
        · exact systemDirectTag_ne leadFirst notSystem 0 (List.mem_singleton.mp before).symm
        · obtain ⟨id, _, same⟩ := List.mem_map.mp before
          exact systemDirectTag_ne leadFirst notSystem id same

/-- The tags of the outbounds built, or of the one that stands for none. -/
theorem map_standIn {ω : Type} {tag : ω → String} {outbounds : List ω} {standIn : ω}
    (tags : outbounds.map tag = ids.map fun id => lead ++ itoa id) (named : tag standIn = lead ++ itoa 0) :
    (if outbounds.isEmpty then [standIn] else outbounds).map tag = outboundTags lead ids false := by
  cases outbounds with
  | nil =>
      have none : ids = [] := List.map_eq_nil_iff.mp tags.symm
      simp [outboundTags, none, named]
  | cons head rest =>
      have some : ids.isEmpty = false := by
        cases ids with
        | nil => cases tags
        | cons _ _ => rfl
      rw [List.isEmpty_cons, if_neg Bool.false_ne_true, tags]
      simp [outboundTags, some]

/-- The tags after the system outbound has been put in. -/
theorem map_ensureSystemOutbound {ω : Type} {tag : ω → String} {outbound : ω} {outbounds : List ω}
    (leadFirst : lead.toList.head? = some first) (notSystem : first ≠ 'm') (named : tag outbound = systemDirectTag)
    (tags : outbounds.map tag = outboundTags lead ids false) :
    (if system then ensureSystemOutbound tag outbound outbounds else outbounds).map tag =
      outboundTags lead ids system := by
  cases system with
  | false => exact tags
  | true =>
      have fresh : tag outbound ∉ outbounds.map tag := by
        rw [named, tags, systemDirectTag_mem leadFirst notSystem]
        exact Bool.false_ne_true
      rw [if_pos rfl, ensureSystemOutbound_fresh fresh, List.map_append, tags]
      simp [outboundTags, named]

end

theorem listOutbounds_ids : ((listOutbounds store).map Outbound.id).Nodup := by
  have loaded : (listOutbounds store).map Outbound.id =
      (store.outbounds.rows.insertionSort sortBefore).map Outbound.id := by
    rw [listOutbounds, List.map_map]
    rfl
  rw [loaded, ((List.perm_insertionSort sortBefore store.outbounds.rows).map Outbound.id).nodup_iff]
  exact store.outbounds.ids_nodup

/-- The identifiers of the outbounds a configuration keeps. -/
def keptIDs (store : Store) (kept : Outbound → Bool) : List Int :=
  ((listOutbounds store).filter kept).map Outbound.id

theorem keptIDs_nodup (kept : Outbound → Bool) : (keptIDs store kept).Nodup :=
  listOutbounds_ids.sublist (List.filter_sublist.map _)

theorem keptIDs_positive {kept : Outbound → Bool} : ∀ id ∈ keptIDs store kept, 0 < id := by
  intro id member
  obtain ⟨outbound, inside, rfl⟩ := List.mem_map.mp member
  obtain ⟨row, stored, rfl⟩ := mem_listOutbounds.mp (List.mem_of_mem_filter inside)
  exact store.outbounds.positive row stored

theorem mem_keptIDs {kept : Outbound → Bool} {id : Int} {row : Outbound}
    (found : store.outbounds.find? id = some row) : id ∈ keptIDs store kept ↔ kept (loadOutbound row) = true := by
  have named : row.id = id := Serial.id_of_find? found
  have stored := Serial.mem_of_find? found
  constructor
  · intro member
    obtain ⟨outbound, inside, same⟩ := List.mem_map.mp member
    obtain ⟨listedOutbound, chosen⟩ := List.mem_filter.mp inside
    obtain ⟨other, otherStored, rfl⟩ := mem_listOutbounds.mp listedOutbound
    have otherNamed : other.id = id := same
    rw [Serial.eq_of_id_eq otherStored stored (otherNamed.trans named.symm)] at chosen
    exact chosen
  · intro chosen
    exact List.mem_map.mpr ⟨loadOutbound row,
      List.mem_filter.mpr ⟨mem_listOutbounds.mpr ⟨row, stored, rfl⟩, chosen⟩, named⟩

theorem generatedOutboundTag_xray {id : Int} (positive : 0 < id) (fallback : String) :
    generatedOutboundTag coreXray id fallback = "xray-out-" ++ itoa id := by
  have other := coreXray_ne_coreSingbox
  simp [generatedOutboundTag, positive, other]

theorem generatedOutboundTag_singbox {id : Int} (positive : 0 < id) (fallback : String) :
    generatedOutboundTag coreSingbox id fallback = "singbox-out-" ++ itoa id := by
  simp [generatedOutboundTag, positive]

theorem listInbounds_ids : ((listInbounds store).map fun inbound => inbound.id).Nodup := by
  rw [listInbounds, List.map_map]
  exact store.inbounds.ids_nodup

theorem served_positive {core : String} {inbound : Inbound}
    (served : inbound ∈ Xray.servedInbounds core (listInbounds store)) : 0 < inbound.id := by
  obtain ⟨row, stored, _, rfl⟩ := Xray.mem_servedInbounds.mp served
  exact store.inbounds.positive row stored

theorem systemRules_target {ρ τ : Type} {direct : ManagementDirect} {ipRule domainRule : List String → List Int → ρ}
    (target : ρ → τ) (system : τ) (ip : ∀ hosts ports, target (ipRule hosts ports) = system)
    (domain : ∀ hosts ports, target (domainRule hosts ports) = system) {rule : ρ}
    (member : rule ∈ systemRules direct ipRule domainRule) : target rule = system := by
  rcases List.mem_append.mp member with first | second
  · split at first
    · cases first
    · rw [List.mem_singleton.mp first]
      exact ip _ _
  · split at second
    · cases second
    · rw [List.mem_singleton.mp second]
      exact domain _ _

/-- The outbound that a rule leads to is enabled. -/
def TargetEnabled (store : Store) (rule : RoutingRule) : Prop :=
  ∀ outbound ∈ store.outbounds.find? rule.outboundID, outbound.enabled = true

end MiGate.Config

namespace MiGate.Xray

open Go Db Fallible MiGate.Config Relational Routing

variable {platform : Platform} {store : Store} {opts : ManagementDirectOptions} {config : Config}

/-- Every rule but the one for the statistics leads to exactly one outbound, and no two inbounds
and no two outbounds share a tag. -/
structure Config.Proper (config : Config) : Prop where
  targets : ∀ rule ∈ config.rules, (rule = apiRule ∧ rule.outboundTag = config.api.tag) ∨
    (config.outbounds.map OutboundConfig.tag).count rule.outboundTag = 1
  outbounds : (config.outbounds.map OutboundConfig.tag).Nodup
  inbounds : (config.inbounds.map InboundConfig.tag).Nodup

/-- The outbounds that Xray's configuration has. -/
def keepsOutbound (outbound : Outbound) : Bool :=
  outbound.enabled && outboundSupportsCore outbound coreXray

theorem outboundLead_first : "xray-out-".toList.head? = some 'x' := by
  decide

theorem outbound_tags (built : Built platform store opts config) :
    config.outbounds.map OutboundConfig.tag =
      outboundTags "xray-out-" (keptIDs store keepsOutbound) (!(systemRoutingRules platform opts).isEmpty) := by
  obtain ⟨outbounds, builtOutbounds, placed⟩ := built.outbounds
  have tags : outbounds.map OutboundConfig.tag = outboundTags "xray-out-" (keptIDs store keepsOutbound) false := by
    simp only [buildOutbounds, bind_eq_ok, pure_eq_ok] at builtOutbounds
    obtain ⟨each, finished, rfl⟩ := builtOutbounds
    refine map_standIn ?_ (by with_unfolding_all decide)
    rw [keptIDs, List.map_map]
    refine map_eq_of_forall₂ (mapM_eq_ok.mp finished) fun outbound member result done => ?_
    have positive := keptIDs_positive _ (List.mem_map_of_mem member)
    simp only [buildOutbound, bind_eq_ok, pure_eq_ok] at done
    obtain ⟨_, _, _, _, rfl⟩ := done
    exact generatedOutboundTag_xray positive _
  have named : (freedomOutbound systemDirectOutboundTag).tag = systemDirectTag := rfl
  rw [placed, ← map_ensureSystemOutbound outboundLead_first (by decide) named tags]
  cases (systemRoutingRules platform opts).isEmpty <;> rfl

theorem inbound_tags_nodup (built : Built platform store opts config) :
    (config.inbounds.map InboundConfig.tag).Nodup := by
  obtain ⟨each, placed, related⟩ := built.inbounds
  have tags : each.map InboundConfig.tag =
      (servedInbounds coreXray (listInbounds store)).map fun inbound => generatedInboundTag inbound.toInboundRow := by
    refine map_eq_of_forall₂ related fun inbound _ result done => ?_
    simp only [buildInbound, bind_eq_ok, pure_eq_ok] at done
    obtain ⟨_, _, _, _, rfl⟩ := done
    rfl
  rw [placed, List.map_append, tags, List.nodup_append']
  refine ⟨?_, List.nodup_singleton _, ?_⟩
  · refine nodup_tags (fun inbound => inbound.id) ?_ ?_
    · exact listInbounds_ids.sublist (List.filter_sublist.map _)
    · intro left leftMember right rightMember same
      exact generatedInboundTag_inj (served_positive leftMember) (served_positive rightMember) same
  · intro tag member last
    obtain ⟨inbound, _, rfl⟩ := List.mem_map.mp member
    rw [List.map_singleton, List.mem_singleton] at last
    unfold generatedInboundTag at last
    rw [String.append_assoc, String.append_assoc] at last
    have api : apiInbound.tag = "a" ++ "pi" := by decide
    have inboundFirst : "inbound-".toList.head? = some 'i' := by decide
    have apiFirst : "a".toList.head? = some 'a' := by decide
    rw [api] at last
    exact lead_ne inboundFirst apiFirst (by decide) _ _ last


theorem systemRoutingRules_target {rule : RoutingRule} (member : rule ∈ systemRoutingRules platform opts) :
    rule.outboundTag = systemDirectTag :=
  systemRules_target RoutingRule.outboundTag systemDirectTag (fun _ _ => rfl) (fun _ _ => rfl) member

/-- The stored rules that Xray's configuration has a rule for. -/
def Emits (store : Store) (rule : Db.RoutingRule) : Prop :=
  rule.enabled = true ∧ routingRuleAppliesToCore rule (listInbounds store) coreXray = true ∧
    ClientEnabled store rule

/-- A rule that is emitted in a built configuration, with the outbound it leads to. -/
theorem emits_built (inv : StoreInv store) (built : Built platform store opts config) {rule : Db.RoutingRule}
    (listedRule : rule ∈ listRoutingRules store) (emits : Emits store rule) {outbound : Outbound}
    (found : store.outbounds.find? rule.outboundID = some outbound) :
    outboundSupportsCore outbound coreXray = true ∧ emittedRule store rule outbound ∈ config.rules := by
  obtain ⟨enabled, applies, clientEnabled⟩ := emits
  have member := mem_listRoutingRules.mp listedRule
  have supported : outboundSupportsCore outbound coreXray = true := by
    obtain ⟨emitted, done⟩ := built.succeeds rule listedRule
    simp only [buildRule, enabled, applies, Bool.not_true, Bool.or_self, Bool.false_eq_true, if_false,
      resolveRuleOutbound_eq found, bind_eq_ok, expect_eq_ok, require_eq_ok, Option.some.injEq,
      exists_eq_left'] at done
    obtain ⟨_, supports, _⟩ := done
    exact supports
  refine ⟨supported, ?_⟩
  have kept : (rule, emittedRule store rule outbound) ∈ emittedRules store (listRoutingRules store) :=
    mem_keptOf.mpr ⟨listedRule,
      (buildRule_eq_some inv member found).mpr ⟨enabled, applies, clientEnabled, supported, rfl⟩⟩
  rw [built.rules]
  exact List.mem_cons_of_mem _ (List.mem_append_right _ (List.mem_map.mpr ⟨_, kept, rfl⟩))

/-- The references of Xray's configuration are proper exactly if every rule it emits leads to an
enabled outbound. -/
theorem proper_iff (inv : StoreInv store) (built : Built platform store opts config) :
    config.Proper ↔ ∀ rule ∈ listRoutingRules store, Emits store rule → TargetEnabled store rule := by
  have tags := outbound_tags built
  have distinct : (config.outbounds.map OutboundConfig.tag).Nodup := by
    rw [tags]
    exact outboundTags_nodup outboundLead_first (by decide) (keptIDs_nodup _) keptIDs_positive
  constructor
  · intro proper rule listedRule emits outbound found
    obtain ⟨supported, emitted⟩ := emits_built inv built listedRule emits found
    have positive := Serial.pos_of_find? found
    have named : outbound.id = rule.outboundID := Serial.id_of_find? found
    have tag : (emittedRule store rule outbound).outboundTag = "xray-out-" ++ itoa rule.outboundID := by
      rw [emittedRule, named]
      exact generatedOutboundTag_xray positive _
    rcases proper.targets _ emitted with ⟨same, _⟩ | once
    · have api : apiRule.outboundTag = "a" ++ "pi" := by decide
      have apiFirst : "a".toList.head? = some 'a' := by decide
      rw [same, api] at tag
      exact absurd tag (lead_ne apiFirst outboundLead_first (by decide) _ _)
    · have present := List.count_pos_iff.mp (once ▸ Nat.one_pos)
      rw [tags, tag, tag_mem_outboundTags outboundLead_first (by decide) keptIDs_positive positive,
        mem_keptIDs found] at present
      exact (Bool.and_eq_true_iff.mp present).1
  · intro enabled
    refine ⟨?_, distinct, inbound_tags_nodup built⟩
    intro rule member
    rw [built.rules] at member
    rcases List.mem_cons.mp member with rfl | listed
    · exact .inl ⟨rfl, by rw [built.api]; rfl⟩
    · refine .inr (List.count_eq_one_of_mem distinct ?_)
      rw [tags]
      rcases List.mem_append.mp listed with system | stored
      · rw [systemRoutingRules_target system]
        refine (systemDirectTag_mem outboundLead_first (by decide)).mpr ?_
        rw [Bool.not_eq_true', ← Bool.not_eq_true, List.isEmpty_iff]
        exact List.ne_nil_of_mem system
      · obtain ⟨⟨source, emitted⟩, kept, rfl⟩ := List.mem_map.mp stored
        obtain ⟨listedRule, done⟩ := mem_keptOf.mp kept
        have storedRule := mem_listRoutingRules.mp listedRule
        obtain ⟨outbound, found⟩ := inv.target storedRule
        obtain ⟨on, applies, clientEnabled, supported, rfl⟩ := (buildRule_eq_some inv storedRule found).mp done
        have positive := Serial.pos_of_find? found
        have named : outbound.id = source.outboundID := Serial.id_of_find? found
        have tag : (emittedRule store source outbound).outboundTag = "xray-out-" ++ itoa source.outboundID := by
          rw [emittedRule, named]
          exact generatedOutboundTag_xray positive _
        rw [tag, tag_mem_outboundTags outboundLead_first (by decide) keptIDs_positive positive, mem_keptIDs found]
        exact Bool.and_eq_true_iff.mpr ⟨enabled source listedRule ⟨on, applies, clientEnabled⟩ outbound found, supported⟩

end MiGate.Xray

namespace MiGate.Singbox

open Go Db Fallible MiGate.Config Relational Routing

variable {platform : Platform} {store : Store} {opts : BuildOptions} {config : Config}

/-- Every rule leads to exactly one outbound, and no two inbounds and no two outbounds share a tag. -/
structure Config.Proper (config : Config) : Prop where
  targets : ∀ rule ∈ config.rules, (config.outbounds.map OutboundConfig.tag).count rule.outbound = 1
  outbounds : (config.outbounds.map OutboundConfig.tag).Nodup
  inbounds : (config.inbounds.map InboundConfig.tag).Nodup

/-- The outbounds that the configuration of sing-box has. -/
def keepsOutbound (outbound : Outbound) : Bool :=
  outbound.enabled && outboundSupportsCore outbound coreSingbox && !isRemovedSingboxOutbound outbound

theorem outboundLead_first : "singbox-out-".toList.head? = some 's' := by
  decide

/-- Whatever is built has the tag. -/
def Tagged (tag : String) (result : Except String OutboundConfig) : Prop :=
  ∀ built, result = .ok built → built.tag = tag

theorem Tagged.ok {tag : String} {built : OutboundConfig} (named : built.tag = tag) : Tagged tag (.ok built) := by
  intro other same
  rw [← Except.ok.inj same, named]

theorem Tagged.error {tag message : String} : Tagged tag (.error message) :=
  fun _ failed => nomatch failed

theorem Tagged.ite {tag : String} {condition : Prop} [Decidable condition] {yes no : Except String OutboundConfig}
    (yesTagged : Tagged tag yes) (noTagged : Tagged tag no) : Tagged tag (if condition then yes else no) := by
  split
  · exact yesTagged
  · exact noTagged

theorem buildOutboundOf_tag (protocol tag : String) (outbound : Outbound) :
    Tagged tag (buildOutboundOf platform protocol tag outbound) := by
  unfold buildOutboundOf
  repeat' first | exact .ok rfl | exact .error | refine .ite ?_ ?_

theorem buildOutbound_tag {outbound : Outbound} (positive : 0 < outbound.id) {built : OutboundConfig}
    (done : buildOutbound platform outbound = .ok built) : built.tag = "singbox-out-" ++ itoa outbound.id := by
  simp only [buildOutbound, bind_eq_ok] at done
  obtain ⟨_, _, made⟩ := done
  rw [← generatedOutboundTag_singbox positive outbound.tag]
  exact buildOutboundOf_tag _ _ _ built made

theorem outbound_tags (built : Built platform store opts config) :
    config.outbounds.map OutboundConfig.tag = outboundTags "singbox-out-" (keptIDs store keepsOutbound)
      (!(systemRouteRules platform opts.managementDirect).isEmpty) := by
  obtain ⟨outbounds, builtOutbounds, placed⟩ := built.outbounds
  have tags : outbounds.map OutboundConfig.tag =
      outboundTags "singbox-out-" (keptIDs store keepsOutbound) false := by
    simp only [buildOutbounds, bind_eq_ok, pure_eq_ok] at builtOutbounds
    obtain ⟨each, finished, rfl⟩ := builtOutbounds
    refine map_standIn ?_ (by with_unfolding_all decide)
    rw [keptIDs, List.map_map]
    refine map_eq_of_forall₂ (mapM_eq_ok.mp finished) fun outbound member result done => ?_
    exact buildOutbound_tag (keptIDs_positive _ (List.mem_map_of_mem member)) done
  have named : (directOutbound systemDirectOutboundTag).tag = systemDirectTag := rfl
  rw [placed, ← map_ensureSystemOutbound outboundLead_first (by decide) named tags]
  cases (systemRouteRules platform opts.managementDirect).isEmpty <;> rfl

theorem buildInbound_tag {inbound : Inbound} {i : Nat} {built : InboundConfig}
    (done : buildInbound platform inbound i = some built) : built.tag = inboundStatsTag inbound.toInboundRow := by
  simp only [buildInbound] at done
  split_ifs at done <;> cases done <;> rfl

theorem inbound_tags_nodup (built : Built platform store opts config) :
    (config.inbounds.map InboundConfig.tag).Nodup := by
  have numbered : (listInbounds store).zipIdx.map Prod.fst = listInbounds store := List.zipIdx_map_fst ..
  have distinct : (listInbounds store).zipIdx.Pairwise fun left right => left.1.id ≠ right.1.id := by
    have ids : ((listInbounds store).map fun inbound => inbound.id).Nodup := listInbounds_ids
    rw [← numbered, List.map_map, List.Nodup, List.pairwise_map] at ids
    exact ids
  have positive : ∀ pair ∈ (listInbounds store).zipIdx, 0 < pair.1.id := by
    intro pair member
    obtain ⟨row, stored, same⟩ := mem_listInbounds.mp (List.fst_mem_of_mem_zipIdx member)
    rw [← same]
    exact store.inbounds.positive row stored
  rw [built.inbounds, List.Nodup, List.pairwise_map, List.pairwise_filterMap]
  refine distinct.imp_of_mem fun {left right} leftMember rightMember different first firstBuilt second
    secondBuilt same => ?_
  rw [buildInbound_tag firstBuilt, buildInbound_tag secondBuilt] at same
  exact different (inboundStatsTag_inj (positive left leftMember) (positive right rightMember) same)


theorem systemRouteRules_target {options : ManagementDirectOptions} {rule : RouteRule}
    (member : rule ∈ systemRouteRules platform options) : rule.outbound = systemDirectTag :=
  systemRules_target RouteRule.outbound systemDirectTag (fun _ _ => rfl) (fun _ _ => rfl) member

/-- The stored rules that the configuration of sing-box has a rule for; those that lead to a DNS
outbound are left out. -/
def Emits (store : Store) (rule : RoutingRule) : Prop :=
  rule.enabled = true ∧ routingRuleAppliesToCore rule (listInbounds store) coreSingbox = true ∧
    ∀ outbound ∈ store.outbounds.find? rule.outboundID, isRemovedSingboxOutbound outbound = false

theorem emits_built (inv : StoreInv store) (built : Built platform store opts config) {rule : RoutingRule}
    (listedRule : rule ∈ listRoutingRules store) (emits : Emits store rule) {outbound : Outbound}
    (found : store.outbounds.find? rule.outboundID = some outbound) :
    outboundSupportsCore outbound coreSingbox = true ∧ emittedRule store rule outbound ∈ config.rules := by
  obtain ⟨enabled, applies, present⟩ := emits
  have member := mem_listRoutingRules.mp listedRule
  have supported : outboundSupportsCore outbound coreSingbox = true := by
    obtain ⟨emitted, done⟩ := built.succeeds rule listedRule
    simp only [buildRule, enabled, applies, Bool.not_true, Bool.or_self, Bool.false_eq_true, if_false,
      resolveRuleOutbound_eq found, bind_eq_ok, expect_eq_ok, require_eq_ok, Option.some.injEq,
      exists_eq_left'] at done
    obtain ⟨_, supports, _⟩ := done
    exact supports
  refine ⟨supported, ?_⟩
  have kept : (rule, emittedRule store rule outbound) ∈ emittedRules store (listRoutingRules store) :=
    mem_keptOf.mpr ⟨listedRule,
      (buildRule_eq_some inv member found).mpr ⟨enabled, applies, supported, present outbound found, rfl⟩⟩
  rw [built.rules]
  exact List.mem_append_right _ (List.mem_map.mpr ⟨_, kept, rfl⟩)

theorem proper_iff (inv : StoreInv store) (built : Built platform store opts config) :
    config.Proper ↔ ∀ rule ∈ listRoutingRules store, Emits store rule → TargetEnabled store rule := by
  have tags := outbound_tags built
  have distinct : (config.outbounds.map OutboundConfig.tag).Nodup := by
    rw [tags]
    exact outboundTags_nodup outboundLead_first (by decide) (keptIDs_nodup _) keptIDs_positive
  have tagOf : ∀ {rule : RoutingRule} {outbound : Outbound},
      store.outbounds.find? rule.outboundID = some outbound →
        (emittedRule store rule outbound).outbound = "singbox-out-" ++ itoa rule.outboundID := by
    intro rule outbound found
    have named : outbound.id = rule.outboundID := Serial.id_of_find? found
    rw [emittedRule, named]
    exact generatedOutboundTag_singbox (Serial.pos_of_find? found) _
  constructor
  · intro proper rule listedRule emits outbound found
    obtain ⟨supported, emitted⟩ := emits_built inv built listedRule emits found
    have once := proper.targets _ emitted
    have present := List.count_pos_iff.mp (once ▸ Nat.one_pos)
    rw [tags, tagOf found, tag_mem_outboundTags outboundLead_first (by decide) keptIDs_positive
      (Serial.pos_of_find? found), mem_keptIDs found] at present
    exact (Bool.and_eq_true_iff.mp (Bool.and_eq_true_iff.mp present).1).1
  · intro enabled
    refine ⟨?_, distinct, inbound_tags_nodup built⟩
    intro rule member
    rw [built.rules] at member
    refine List.count_eq_one_of_mem distinct ?_
    rw [tags]
    rcases List.mem_append.mp member with system | stored
    · rw [systemRouteRules_target system]
      refine (systemDirectTag_mem outboundLead_first (by decide)).mpr ?_
      rw [Bool.not_eq_true', ← Bool.not_eq_true, List.isEmpty_iff]
      exact List.ne_nil_of_mem system
    · obtain ⟨⟨source, emitted⟩, kept, rfl⟩ := List.mem_map.mp stored
      obtain ⟨listedRule, done⟩ := mem_keptOf.mp kept
      have storedRule := mem_listRoutingRules.mp listedRule
      obtain ⟨outbound, found⟩ := inv.target storedRule
      obtain ⟨on, applies, supported, present, rfl⟩ := (buildRule_eq_some inv storedRule found).mp done
      have emits : Emits store source := by
        refine ⟨on, applies, fun other same => ?_⟩
        rw [← Option.some.inj (found.symm.trans same)]
        exact present
      rw [tagOf found, tag_mem_outboundTags outboundLead_first (by decide) keptIDs_positive
        (Serial.pos_of_find? found), mem_keptIDs found]
      have on := enabled source listedRule emits outbound found
      simp only [keepsOutbound, Bool.and_eq_true, Bool.not_eq_true']
      exact ⟨⟨on, supported⟩, present⟩

end MiGate.Singbox

namespace MiGate.Config

open Go Db Fallible Relational Routing Transition

/-- In both configurations of a reachable store the references are proper exactly if the rules
they have lead to enabled outbounds. -/
theorem references_proper_iff (platform : Platform) (store : Store) (reachable : Reachable platform store) :
    (∀ opts config, Xray.buildConfigWithOutboundsOptions platform (listInbounds store) (listOutbounds store)
        (listRoutingRules store) opts = .ok config →
      (config.Proper ↔ ∀ rule ∈ listRoutingRules store, Xray.Emits store rule → TargetEnabled store rule)) ∧
    ∀ opts config, Singbox.buildConfigWithOutboundsOptions platform (listInbounds store) (listOutbounds store)
        (listRoutingRules store) opts = .ok config →
      (config.Proper ↔ ∀ rule ∈ listRoutingRules store, Singbox.Emits store rule → TargetEnabled store rule) :=
  ⟨fun _ _ done => Xray.proper_iff reachable.inv (Xray.built_of_ok done),
    fun _ _ done => Singbox.proper_iff reachable.inv (Singbox.built_of_ok done)⟩

theorem references_proper_hysteria2 :
    ∃ config, Singbox.buildConfigWithOutboundsOptions examplePlatform (listInbounds exampleHysteria2Store)
        (listOutbounds exampleHysteria2Store) (listRoutingRules exampleHysteria2Store) default = .ok config ∧
      (config.Proper ↔ ∀ rule ∈ listRoutingRules exampleHysteria2Store,
        Singbox.Emits exampleHysteria2Store rule → TargetEnabled exampleHysteria2Store rule) := by
  have reachable : Reachable examplePlatform exampleHysteria2Store := (Reach.arrive_restrict _ _ _ _).unguarded
  have built : (Singbox.buildConfigWithOutboundsOptions examplePlatform (listInbounds exampleHysteria2Store)
      (listOutbounds exampleHysteria2Store) (listRoutingRules exampleHysteria2Store) default).isOk = true := by
    with_unfolding_all decide
  obtain ⟨config, done⟩ := eq_ok_of_isOk built
  exact ⟨config, done, (references_proper_iff examplePlatform exampleHysteria2Store reachable).2 default config done⟩

/-- An inbound for each core, a rule for every connection, and its outbound switched off. -/
def exampleDanglingStore : Store :=
  arrive (storeStep examplePlatform)
    [exampleInbound 1 "socks" 20001, exampleInbound 2 "hysteria2" 20002,
      .createRoutingRule { (default : RoutingRuleParams) with outboundID := 1, enabled := true },
      .setOutboundEnabled 1 false]
    Store.initial

theorem disabled_outbound_dangles :
    (¬ ∀ (platform : Platform) (store : Store) (config : Xray.Config), Reachable platform store →
      Xray.buildConfigWithOutbounds platform (listInbounds store) (listOutbounds store) (listRoutingRules store) =
        .ok config → config.Proper) ∧
    ¬ ∀ (platform : Platform) (store : Store) (config : Singbox.Config), Reachable platform store →
      Singbox.buildConfigWithOutbounds platform (listInbounds store) (listOutbounds store)
        (listRoutingRules store) = .ok config → config.Proper := by
  have reachable : Reachable examplePlatform exampleDanglingStore := Reach.arrive _ _ _
  have disabled : ∀ rule ∈ listRoutingRules exampleDanglingStore, ¬TargetEnabled exampleDanglingStore rule := by
    unfold TargetEnabled
    with_unfolding_all decide
  constructor
  · intro claimed
    have built : (Xray.buildConfigWithOutbounds examplePlatform (listInbounds exampleDanglingStore)
        (listOutbounds exampleDanglingStore) (listRoutingRules exampleDanglingStore)).isOk = true := by
      with_unfolding_all decide
    obtain ⟨rule, member, emits⟩ : ∃ rule ∈ listRoutingRules exampleDanglingStore,
        Xray.Emits exampleDanglingStore rule := by
      unfold Xray.Emits Xray.ClientEnabled
      with_unfolding_all decide
    obtain ⟨config, done⟩ := eq_ok_of_isOk built
    have proper := claimed examplePlatform exampleDanglingStore config reachable done
    exact disabled rule member ((Xray.proper_iff reachable.inv (Xray.built_of_ok done)).mp proper rule member emits)
  · intro claimed
    have built : (Singbox.buildConfigWithOutbounds examplePlatform (listInbounds exampleDanglingStore)
        (listOutbounds exampleDanglingStore) (listRoutingRules exampleDanglingStore)).isOk = true := by
      with_unfolding_all decide
    obtain ⟨rule, member, emits⟩ : ∃ rule ∈ listRoutingRules exampleDanglingStore,
        Singbox.Emits exampleDanglingStore rule := by
      unfold Singbox.Emits
      with_unfolding_all decide
    obtain ⟨config, done⟩ := eq_ok_of_isOk built
    have proper := claimed examplePlatform exampleDanglingStore config reachable done
    exact disabled rule member
      ((Singbox.proper_iff reachable.inv (Singbox.built_of_ok done)).mp proper rule member emits)

end MiGate.Config
