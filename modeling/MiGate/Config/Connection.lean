import MiGate.Config.Totality

namespace MiGate.Config

open Go Db Relational Routing

/-! What a routing rule selects, whichever core carries it out. -/

/-- A connection: the inbound it arrives at, the client it authenticates as, and which entries
of a rule's lists it falls under. -/
structure Connection where
  inbound : Inbound
  client : Option Client
  domain : String → Prop
  ip : String → Prop
  protocol : String → Prop
  ruleSet : String → Prop

/-- The connections that a core serving the store can see. -/
def Connection.Arrives (store : Store) (core : String) (connection : Connection) : Prop :=
  connection.inbound ∈ Xray.servedInbounds core (listInbounds store) ∧
    ∀ client ∈ connection.client, client ∈ Xray.enabledClients connection.inbound.clients

/-- Whether a connection falls under one of the entries of a list. -/
def FallsUnder (entries : List String) (falls : String → Prop) : Prop :=
  ∃ entry ∈ entries, falls entry

/-- A list in a configuration asks nothing if it is empty. -/
def Unless (entries : List String) (falls : String → Prop) : Prop :=
  entries = [] ∨ FallsUnder entries falls

/-- The inbound and the client that a stored rule names. -/
def SelectsSource (rule : RoutingRule) (connection : Connection) : Prop :=
  (0 < rule.inboundID → connection.inbound.id = rule.inboundID) ∧
    (0 < rule.clientID → ∃ client ∈ connection.client, client.id = rule.clientID)

/-- The connections in the intersection of a stored rule's selectors, its rule set aside. -/
def SelectsStored (rule : RoutingRule) (connection : Connection) : Prop :=
  SelectsSource rule connection ∧
    (rule.domain ≠ "" → FallsUnder (splitRuleValues rule.domain) connection.domain) ∧
    (rule.ip ≠ "" → FallsUnder (splitRuleValues rule.ip) connection.ip) ∧
    (rule.protocol ≠ "" → FallsUnder (splitRuleValues rule.protocol) connection.protocol)

/-- The connections that a stored rule selects. -/
def Selects (rule : RoutingRule) (connection : Connection) : Prop :=
  SelectsStored rule connection ∧
    (rule.ruleSet ≠ "" → FallsUnder (splitRuleValues rule.ruleSet) connection.ruleSet)

/-- The lists a stored rule has, as far as they have elements and the cores know them. -/
def SelectsLists (rule : RoutingRule) (connection : Connection) : Prop :=
  Unless (splitRuleValues rule.domain) connection.domain ∧
    Unless (splitRuleValues rule.ip) connection.ip ∧
    Unless (splitRuleValues rule.protocol) connection.protocol

/-- The inbound a rule names is served by a core, and the client it names is enabled there. -/
def SourceServed (store : Store) (core : String) (rule : RoutingRule) : Prop :=
  (0 < rule.inboundID → ∃ inbound ∈ Xray.servedInbounds core (listInbounds store), inbound.id = rule.inboundID) ∧
    (0 < rule.clientID → ∃ inbound ∈ Xray.servedInbounds core (listInbounds store),
      ∃ client ∈ Xray.enabledClients inbound.clients, client.id = rule.clientID)

/-- A text of white space alone is a list without elements. -/
theorem splitRuleValues_blank {text : String} (blank : trimSpace text = "") : splitRuleValues text = [] := by
  rw [splitRuleValues, List.filter_eq_nil_iff]
  intro trimmed member
  obtain ⟨part, inside, rfl⟩ := List.mem_map.mp member
  unfold fieldsFunc at inside
  obtain ⟨runes, field, rfl⟩ := List.mem_map.mp inside
  have spaces : trimSpace (String.ofList runes) = "" := by
    rw [trimSpace_eq_empty] at blank ⊢
    rw [String.toList_ofList]
    intro rune present
    rcases mem_fieldsList field rune present with none | source
    · cases none
    · exact blank rune source
  simp [spaces]

/-- A list that is emitted only under a condition is no weaker if it has no elements otherwise. -/
theorem Unless.of_if {condition : Prop} [Decidable condition] {entries : List String} {falls : String → Prop}
    (blank : ¬condition → entries = []) (asked : Unless (if condition then entries else []) falls) :
    Unless entries falls := by
  by_cases held : condition
  · rw [if_pos held] at asked
    exact asked
  · exact .inl (blank held)

end MiGate.Config
