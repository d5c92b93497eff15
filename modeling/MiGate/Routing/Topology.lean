import Mathlib.Data.List.Basic

namespace Routing

/-! What routing depends on: which inbound is served by which core, which client belongs to
which inbound, which protocol an outbound speaks, and what the rules link.  A rule without an
inbound applies to every core that serves an inbound, and to every core if there is none. -/

structure Entry (κ : Type) where
  id : Int
  enabled : Bool
  core : κ

structure Link where
  enabled : Bool
  inboundID : Int
  clientID : Int
  outboundID : Int
  tagged : Bool

structure Topology (κ π : Type) where
  inbounds : List (Entry κ)
  clients : List (Int × Int)
  outbounds : List (Int × π)
  rules : List Link

variable {κ π : Type} {before after : Topology κ π}

namespace Topology

def inboundIDs (topology : Topology κ π) : List Int :=
  topology.inbounds.map Entry.id

def outboundIDs (topology : Topology κ π) : List Int :=
  topology.outbounds.map Prod.fst

end Topology

/-- Everything a rule names exists, and its client belongs to its inbound. -/
def Link.Refers (topology : Topology κ π) (link : Link) : Prop :=
  link.outboundID ∈ topology.outboundIDs ∧
    ((link.inboundID = 0 ∧ link.clientID = 0 ∧ link.tagged = false) ∨
      (link.inboundID ∈ topology.inboundIDs ∧
        (link.clientID = 0 ∨ (link.clientID, link.inboundID) ∈ topology.clients)))

def Link.Applies (topology : Topology κ π) (link : Link) (core : κ) : Prop :=
  if link.inboundID = 0 then
    (∃ entry ∈ topology.inbounds, entry.enabled = true ∧ entry.core = core) ∨ topology.inbounds = []
  else
    ∃ entry ∈ topology.inbounds, entry.id = link.inboundID ∧ entry.enabled = true ∧ entry.core = core

theorem Link.applies_global {topology : Topology κ π} {link : Link} {core : κ} (global : link.inboundID = 0) :
    link.Applies topology core ↔
      (∃ entry ∈ topology.inbounds, entry.enabled = true ∧ entry.core = core) ∨ topology.inbounds = [] := by
  simp only [Link.Applies, if_pos global]

theorem Link.applies_bound {topology : Topology κ π} {link : Link} {core : κ} (bound : link.inboundID ≠ 0) :
    link.Applies topology core ↔
      ∃ entry ∈ topology.inbounds, entry.id = link.inboundID ∧ entry.enabled = true ∧ entry.core = core := by
  simp only [Link.Applies, if_neg bound]

structure Topology.Sound (topology : Topology κ π) : Prop where
  rules : ∀ link ∈ topology.rules, link.Refers topology
  clients : ∀ client ∈ topology.clients, client.2 ∈ topology.inboundIDs

/-- Every outbound an enabled rule leads to is supported by the cores the rule applies to. -/
def Topology.Compatible (supports : π → κ → Prop) (topology : Topology κ π) : Prop :=
  ∀ link ∈ topology.rules, link.enabled = true → ∀ core, link.Applies topology core →
    ∀ protocol, (link.outboundID, protocol) ∈ topology.outbounds → supports protocol core

theorem Link.Refers.mono {link : Link} (refers : link.Refers before)
    (inbounds : before.inboundIDs ⊆ after.inboundIDs) (clients : before.clients ⊆ after.clients)
    (outbounds : before.outboundIDs ⊆ after.outboundIDs) : link.Refers after := by
  obtain ⟨target, untied | ⟨inbound, client⟩⟩ := refers
  · exact ⟨outbounds target, .inl untied⟩
  · refine ⟨outbounds target, .inr ⟨inbounds inbound, ?_⟩⟩
    rcases client with free | bound
    · exact .inl free
    · exact .inr (clients bound)

/-- A change that takes nothing away and whose new rules and clients refer to what exists. -/
theorem Topology.Sound.extend (sound : before.Sound)
    (inbounds : before.inboundIDs ⊆ after.inboundIDs) (clients : before.clients ⊆ after.clients)
    (outbounds : before.outboundIDs ⊆ after.outboundIDs)
    (newRules : ∀ link ∈ after.rules, link ∈ before.rules ∨ link.Refers after)
    (newClients : ∀ client ∈ after.clients, client ∈ before.clients ∨ client.2 ∈ after.inboundIDs) :
    after.Sound where
  rules := by
    intro link member
    rcases newRules link member with old | refers
    · exact (sound.rules link old).mono inbounds clients outbounds
    · exact refers
  clients := by
    intro client member
    rcases newClients client member with old | refers
    · exact inbounds (sound.clients client old)
    · exact refers

/-- Rules apply to the same cores as long as the inbounds stay as they are. -/
theorem Link.Applies.congr {link : Link} {core : κ} (same : after.inbounds = before.inbounds) :
    link.Applies after core ↔ link.Applies before core := by
  simp only [Link.Applies, same]

/-- Compatibility is kept by every change that neither changes what a kept rule applies to nor
what its outbound is, and adds only compatible rules. -/
theorem Topology.Compatible.keep {supports : π → κ → Prop} (compatible : before.Compatible supports)
    (kept : ∀ link ∈ after.rules, link.enabled = true → ∀ core, link.Applies after core →
      ∀ protocol, (link.outboundID, protocol) ∈ after.outbounds →
        (link ∈ before.rules ∧ link.Applies before core ∧
          (link.outboundID, protocol) ∈ before.outbounds) ∨ supports protocol core) :
    after.Compatible supports := by
  intro link member enabled core applies protocol target
  rcases kept link member enabled core applies protocol target with ⟨old, applied, targeted⟩ | supported
  · exact compatible link old enabled core applied protocol targeted
  · exact supported

end Routing
