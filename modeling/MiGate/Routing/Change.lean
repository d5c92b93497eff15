import MiGate.Routing.Topology
import MiGate.Transition.Reach

namespace Routing

open Transition

variable {κ π : Type} {supports : π → κ → Prop} {before : Topology κ π}

/-- The inbounds after one of them is given a core and switched on or off. -/
def setEntry (id : Int) (enabled : Bool) (core : κ) (entries : List (Entry κ)) : List (Entry κ) :=
  entries.map fun entry => if entry.id = id then ⟨id, enabled, core⟩ else entry

/-- The outbounds after one of them is given a protocol. -/
def setProtocol (id : Int) (protocol : π) (outbounds : List (Int × π)) : List (Int × π) :=
  outbounds.map fun outbound => if outbound.1 = id then (id, protocol) else outbound

/-- The elementary changes of a topology. -/
inductive Change (κ π : Type) where
  | addInbound (entry : Entry κ) (members : List (Int × Int))
  | setInbound (id : Int) (enabled : Bool) (core : κ)
  | dropInbound (id : Int) (links : List Link)
  | addClient (client : Int × Int)
  | dropClient (id : Int)
  | addOutbound (outbound : Int × π)
  | writeOutbounds (outbounds : List (Int × π))
  | dropOutbounds (outbounds : List (Int × π)) (links : List Link)
  | writeRules (links : List Link)

def Change.apply (topology : Topology κ π) : Change κ π → Topology κ π
  | addInbound entry members =>
      { topology with inbounds := topology.inbounds ++ [entry], clients := topology.clients ++ members }
  | setInbound id enabled core =>
      { topology with inbounds := setEntry id enabled core topology.inbounds }
  | dropInbound id links =>
      { topology with
        inbounds := topology.inbounds.filter fun entry => entry.id != id
        clients := topology.clients.filter fun client => client.2 != id
        rules := links }
  | addClient client => { topology with clients := topology.clients ++ [client] }
  | dropClient id =>
      { topology with
        clients := topology.clients.filter fun client => client.1 != id
        rules := topology.rules.filter fun link => link.clientID != id }
  | addOutbound outbound => { topology with outbounds := topology.outbounds ++ [outbound] }
  | writeOutbounds outbounds => { topology with outbounds := outbounds }
  | dropOutbounds outbounds links => { topology with outbounds := outbounds, rules := links }
  | writeRules links => { topology with rules := links }

/-- The outbounds that some enabled rules lead to are all supported by a core. -/
def Topology.TargetsSupport (supports : π → κ → Prop) (topology : Topology κ π) (core : κ)
    (selected : Link → Prop) : Prop :=
  ∀ link ∈ topology.rules, link.enabled = true → selected link →
    ∀ protocol, (link.outboundID, protocol) ∈ topology.outbounds → supports protocol core

/-- What is checked before a change is made. -/
def Change.Allowed (supports : π → κ → Prop) (topology : Topology κ π) : Change κ π → Prop
  | addInbound entry members =>
      entry.id ∉ topology.inboundIDs ∧ ∀ member ∈ members, member.2 = entry.id
  | dropInbound id links => links ⊆ topology.rules ∧ ∀ link ∈ links, link.inboundID ≠ id
  | addClient client => client.2 ∈ topology.inboundIDs
  | addOutbound outbound => outbound.1 ∉ topology.outboundIDs
  | dropOutbounds outbounds links =>
      outbounds ⊆ topology.outbounds ∧ links ⊆ topology.rules ∧
        ∀ link ∈ links, link.outboundID ∈ outbounds.map Prod.fst
  | writeRules links =>
      ∀ link ∈ links, link ∈ topology.rules ∨
        (link.Refers topology ∧ ∀ core, link.Applies topology core →
          ∀ protocol, (link.outboundID, protocol) ∈ topology.outbounds → supports protocol core)
  | writeOutbounds outbounds => topology.outboundIDs ⊆ outbounds.map Prod.fst
  | setInbound _ _ _ | dropClient _ => True

/-- What is not checked before a change, but keeps the rules compatible with the cores. -/
def Change.Fits (supports : π → κ → Prop) (topology : Topology κ π) : Change κ π → Prop
  | addInbound entry _ =>
      entry.enabled = true → topology.TargetsSupport supports entry.core fun link => link.inboundID = 0
  | setInbound id enabled core =>
      enabled = true → topology.TargetsSupport supports core fun link =>
        link.inboundID = 0 ∨ link.inboundID = id
  | dropInbound id _ =>
      (∃ entry ∈ topology.inbounds, entry.id ≠ id) ∨
        ∀ core, topology.TargetsSupport supports core fun link => link.inboundID = 0
  | writeOutbounds outbounds =>
      ∀ link ∈ topology.rules, link.enabled = true → ∀ protocol, (link.outboundID, protocol) ∈ outbounds →
        (link.outboundID, protocol) ∈ topology.outbounds ∨
          ∀ core, link.Applies topology core → supports protocol core
  | addClient _ | dropClient _ | addOutbound _ | dropOutbounds _ _ | writeRules _ => True

/-- The topology as a system of its own. -/
def ChangeStep (supports : π → κ → Prop) (change : Change κ π) (before after : Topology κ π) : Prop :=
  change.Allowed supports before ∧ after = change.apply before

theorem inboundIDs_setEntry {id : Int} {enabled : Bool} {core : κ} (entries : List (Entry κ)) :
    (setEntry id enabled core entries).map Entry.id = entries.map Entry.id := by
  unfold setEntry
  rw [List.map_map]
  refine List.map_congr_left fun entry _ => ?_
  by_cases named : entry.id = id
  · simp [named]
  · simp [named]

theorem outboundIDs_setProtocol {id : Int} {protocol : π} (outbounds : List (Int × π)) :
    (setProtocol id protocol outbounds).map Prod.fst = outbounds.map Prod.fst := by
  unfold setProtocol
  rw [List.map_map]
  refine List.map_congr_left fun outbound _ => ?_
  by_cases named : outbound.1 = id
  · simp [named]
  · simp [named]

theorem mem_setEntry {id : Int} {enabled : Bool} {core : κ} {entries : List (Entry κ)} {entry : Entry κ}
    (member : entry ∈ setEntry id enabled core entries) :
    (entry.id = id ∧ entry.enabled = enabled ∧ entry.core = core) ∨ entry ∈ entries := by
  obtain ⟨old, inside, rfl⟩ := List.mem_map.mp member
  by_cases named : old.id = id
  · exact .inl (by simp [named])
  · exact .inr (by simpa [named] using inside)

theorem mem_setProtocol {id : Int} {protocol : π} {outbounds : List (Int × π)} {outbound : Int × π}
    (member : outbound ∈ setProtocol id protocol outbounds) :
    outbound = (id, protocol) ∨ (outbound.1 ≠ id ∧ outbound ∈ outbounds) := by
  obtain ⟨old, inside, rfl⟩ := List.mem_map.mp member
  by_cases named : old.1 = id
  · exact .inl (by simp [named])
  · exact .inr (by simpa [named] using inside)

/-- An allowed change leaves no rule and no client that names what is gone. -/
theorem Topology.Sound.change {change : Change κ π} (sound : before.Sound)
    (allowed : change.Allowed supports before) : (change.apply before).Sound := by
  cases change with
  | addInbound entry members =>
      refine sound.extend ?_ (List.subset_append_left _ _) (List.Subset.refl _)
        (fun link member => .inl member) ?_
      · exact List.map_subset _ (List.subset_append_left _ _)
      · intro client member
        rcases List.mem_append.mp member with old | new
        · exact .inl old
        · refine .inr (List.mem_map.mpr ⟨entry, ?_, (allowed.2 client new).symm⟩)
          simp [Change.apply]
  | setInbound id enabled core =>
      refine sound.extend ?_ (List.Subset.refl _) (List.Subset.refl _) (fun link member => .inl member)
        fun client member => .inl member
      simp only [Topology.inboundIDs, Change.apply, inboundIDs_setEntry, List.Subset.refl]
  | dropInbound id links =>
      have kept : ∀ inboundID ∈ before.inboundIDs, inboundID ≠ id →
          inboundID ∈ ((Change.dropInbound id links).apply before).inboundIDs := by
        intro inboundID member other
        obtain ⟨entry, inside, rfl⟩ := List.mem_map.mp member
        exact List.mem_map_of_mem (List.mem_filter.mpr ⟨inside, by simpa using other⟩)
      constructor
      · intro link member
        obtain ⟨target, untied | ⟨inbound, client⟩⟩ := sound.rules link (allowed.1 member)
        · exact ⟨target, .inl untied⟩
        · have other := allowed.2 link member
          refine ⟨target, .inr ⟨kept _ inbound other, ?_⟩⟩
          rcases client with free | bound
          · exact .inl free
          · exact .inr (List.mem_filter.mpr ⟨bound, by simpa using other⟩)
      · intro client member
        obtain ⟨inside, other⟩ := List.mem_filter.mp member
        exact kept _ (sound.clients client inside) (by simpa using other)
  | addClient client =>
      refine sound.extend (List.Subset.refl _) (List.subset_append_left _ _) (List.Subset.refl _)
        (fun link member => .inl member) ?_
      intro other member
      rcases List.mem_append.mp member with old | new
      · exact .inl old
      · rw [List.mem_singleton.mp new]
        exact .inr allowed
  | dropClient id =>
      constructor
      · intro link member
        obtain ⟨inside, other⟩ := List.mem_filter.mp member
        obtain ⟨target, untied | ⟨inbound, client⟩⟩ := sound.rules link inside
        · exact ⟨target, .inl untied⟩
        · refine ⟨target, .inr ⟨inbound, ?_⟩⟩
          rcases client with free | bound
          · exact .inl free
          · exact .inr (List.mem_filter.mpr ⟨bound, by simpa using other⟩)
      · exact fun client member => sound.clients client (List.mem_of_mem_filter member)
  | addOutbound outbound =>
      exact sound.extend (List.Subset.refl _) (List.Subset.refl _)
        (List.map_subset _ (List.subset_append_left _ _)) (fun link member => .inl member)
        fun client member => .inl member
  | writeOutbounds outbounds =>
      exact sound.extend (List.Subset.refl _) (List.Subset.refl _) allowed (fun link member => .inl member)
        fun client member => .inl member
  | dropOutbounds outbounds links =>
      obtain ⟨_, old, led⟩ := allowed
      exact ⟨fun link member => ⟨led link member, (sound.rules link (old member)).2⟩, sound.clients⟩
  | writeRules links =>
      refine sound.extend (List.Subset.refl _) (List.Subset.refl _) (List.Subset.refl _) ?_
        fun client member => .inl member
      intro link member
      rcases allowed link member with old | ⟨refers, _⟩
      · exact .inl old
      · exact .inr refers

/-- A rule's inbound is one of the inbounds, unless the rule has none. -/
theorem Topology.Sound.bound {link : Link} (sound : before.Sound) (member : link ∈ before.rules)
    (bound : link.inboundID ≠ 0) : link.inboundID ∈ before.inboundIDs := by
  obtain ⟨_, ⟨free, _⟩ | ⟨inbound, _⟩⟩ := sound.rules link member
  · exact absurd free bound
  · exact inbound

/-- An allowed change that fits keeps every rule compatible with the cores it applies to. -/
theorem Topology.Compatible.change {change : Change κ π} (sound : before.Sound)
    (compatible : before.Compatible supports) (allowed : change.Allowed supports before)
    (fits : change.Fits supports before) : (change.apply before).Compatible supports := by
  refine compatible.keep fun link member enabled core applies protocol target => ?_
  cases change with
  | addInbound entry members =>
      by_cases global : link.inboundID = 0
      · rw [Link.applies_global global] at applies ⊢
        rcases applies with ⟨other, inside, on, served⟩ | empty
        · rcases List.mem_append.mp inside with old | new
          · exact .inl ⟨member, .inl ⟨other, old, on, served⟩, target⟩
          · rw [List.mem_singleton.mp new] at on served
            refine .inr ?_
            rw [← served]
            exact fits on link member enabled global protocol target
        · exact absurd empty (List.append_ne_nil_of_right_ne_nil _ (List.cons_ne_nil _ _))
      · rw [Link.applies_bound global] at applies ⊢
        obtain ⟨other, inside, named, on, served⟩ := applies
        rcases List.mem_append.mp inside with old | new
        · exact .inl ⟨member, ⟨other, old, named, on, served⟩, target⟩
        · rw [List.mem_singleton.mp new] at named
          have known := sound.bound member global
          rw [← named] at known
          exact absurd known allowed.1
  | setInbound id on core' =>
      by_cases global : link.inboundID = 0
      · rw [Link.applies_global global] at applies ⊢
        rcases applies with ⟨other, inside, switched, served⟩ | empty
        · rcases mem_setEntry inside with ⟨_, now, given⟩ | old
          · refine .inr ?_
            rw [← served, given]
            exact fits (now ▸ switched) link member enabled (.inl global) protocol target
          · exact .inl ⟨member, .inl ⟨other, old, switched, served⟩, target⟩
        · exact .inl ⟨member, .inr (List.map_eq_nil_iff.mp empty), target⟩
      · rw [Link.applies_bound global] at applies ⊢
        obtain ⟨other, inside, named, switched, served⟩ := applies
        rcases mem_setEntry inside with ⟨this, now, given⟩ | old
        · refine .inr ?_
          rw [← served, given]
          exact fits (now ▸ switched) link member enabled (.inr (named.symm.trans this)) protocol target
        · exact .inl ⟨member, ⟨other, old, named, switched, served⟩, target⟩
  | dropInbound id links =>
      have old := allowed.1 member
      by_cases global : link.inboundID = 0
      · rw [Link.applies_global global] at applies ⊢
        rcases applies with ⟨other, inside, on, served⟩ | empty
        · exact .inl ⟨old, .inl ⟨other, List.mem_of_mem_filter inside, on, served⟩, target⟩
        · rcases fits with ⟨other, inside, different⟩ | supported
          · have kept := List.filter_eq_nil_iff.mp empty other inside
            exact absurd (by simpa using kept) different
          · exact .inr (supported core link old enabled global protocol target)
      · rw [Link.applies_bound global] at applies ⊢
        obtain ⟨other, inside, applied⟩ := applies
        exact .inl ⟨old, ⟨other, List.mem_of_mem_filter inside, applied⟩, target⟩
  | addClient client => exact .inl ⟨member, applies, target⟩
  | dropClient id => exact .inl ⟨List.mem_of_mem_filter member, applies, target⟩
  | addOutbound outbound =>
      rcases List.mem_append.mp target with old | new
      · exact .inl ⟨member, applies, old⟩
      · have known := (sound.rules link member).1
        rw [← List.mem_singleton.mp new] at allowed
        exact absurd known allowed
  | writeOutbounds outbounds =>
      rcases fits link member enabled protocol target with old | supported
      · exact .inl ⟨member, applies, old⟩
      · exact .inr (supported core applies)
  | dropOutbounds outbounds links => exact .inl ⟨allowed.2.1 member, applies, allowed.1 target⟩
  | writeRules links =>
      rcases allowed link member with old | ⟨_, checked⟩
      · exact .inl ⟨old, applies, target⟩
      · exact .inr (checked core applies protocol target)

variable {after : Topology κ π}

theorem Topology.Sound.reach (sound : before.Sound) (reached : Reach (ChangeStep supports) before after) :
    after.Sound := by
  refine reached.invariant sound ?_
  rintro change start _ soundStart ⟨allowed, rfl⟩
  exact soundStart.change allowed

theorem Topology.Compatible.reach (sound : before.Sound) (compatible : before.Compatible supports)
    (reached : Reach (Guarded (fun change topology => change.Fits supports topology) (ChangeStep supports))
      before after) : after.Compatible supports := by
  refine reached.invariant_with (fun _ earlier => sound.reach earlier.unguarded) compatible ?_
  rintro change start _ soundStart compatibleStart ⟨fits, allowed, rfl⟩
  exact compatibleStart.change soundStart allowed fits

end Routing
