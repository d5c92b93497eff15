import MiGate.Go.Encoding
import MiGate.Go.Split
import MiGate.Relational.Gather
import MiGate.Xray.StatsCodec

namespace MiGate.Xray

open Go Wire Fallible

/-! From the answer of a statistics service to the counters of clients, inbounds and outbounds. -/

structure TrafficStat where
  engine : String
  scopeType : String
  scopeKey : String
  uplink : Int64
  downlink : Int64
deriving DecidableEq, Repr

def TrafficStat.scope (stat : TrafficStat) : String × String :=
  (stat.scopeType, stat.scopeKey)

def normalizedScopeType (scope : String) : String :=
  if scope = "user" then "client"
  else if scope = "inbound" ∨ scope = "outbound" ∨ scope = "core" then scope
  else ""

/-- What a name counts: the type of a scope, its key, and a direction. -/
structure StatName where
  scopeType : String
  scopeKey : String
  direction : String
deriving DecidableEq, Repr

/-- The name as the loop takes it apart; none where the loop goes on to the next statistic. -/
def statName? (name : String) : Option StatName :=
  match splitText name ">>>" with
  | [scope, key, traffic, direction] =>
      if traffic ≠ "traffic" then none
      else if normalizedScopeType scope = "" ∨ trimSpace key = "" then none
      else some ⟨normalizedScopeType scope, key, direction⟩
  | _ => none

/-- The map's key; the source joins its engine, scope type and scope key to one text. -/
def scopeOf? (entry : StatEntry) : Option (String × String) :=
  (statName? entry.name).map fun name => (name.scopeType, name.scopeKey)

def count (current : TrafficStat) (entry : StatEntry) : TrafficStat :=
  match statName? entry.name with
  | none => current
  | some name =>
      if name.direction = "uplink" then { current with uplink := entry.value }
      else if name.direction = "downlink" then { current with downlink := entry.value }
      else current

/-- The loop over the statistics; the order of the result is that of a map in the source. -/
def trafficStats (engine : String) (entries : List StatEntry) : List TrafficStat :=
  (Relational.gather scopeOf? (fun scope => ⟨engine, scope.1, scope.2, 0, 0⟩) count entries).map Prod.snd

/-- `ParseTrafficStatsQueryOutput`, given what `json.Unmarshal` reads into its payload. -/
def parseTrafficStatsQueryOutput (unmarshal : String → Except String (List StatEntry)) (engine raw : String) :
    Decoded (List TrafficStat) :=
  match unmarshal raw with
  | .error message => .error (.error message)
  | .ok entries => .ok (trafficStats engine entries)

def marshalStat (entry : StatEntry) : String :=
  "\x7b" ++ jsonString "name" ++ ":" ++ jsonString entry.name ++ "," ++ jsonString "value" ++ ":" ++
    itoa entry.value.toInt ++ "\x7d"

/-- `json.Marshal` of the statistics, for the same parser as the output of the command. -/
def marshalStats (entries : List StatEntry) : String :=
  "\x7b" ++ jsonString "stat" ++ ":[" ++ join (entries.map marshalStat) "," ++ "]\x7d"

/-- `fmt.Errorf` with a prefix and `%w`. -/
def Failure.wrap (before : String) : Failure → Failure
  | .error message => .error (before ++ message)
  | .panic => .panic

def wrapped {α : Type} (before : String) (result : Decoded α) : Decoded α :=
  result.mapError (Failure.wrap before)

/-- `queryStats` on the body of an answer without a fault. -/
def queryStats (addr : String) (body : List UInt8) : Decoded (List StatEntry) := do
  let messages ← wrapped ("stats grpc query " ++ addr ++ ": ") (decodeGRPCFrames body)
  messages.foldlM (fun stats message => do
    let decoded ← wrapped ("stats grpc query " ++ addr ++ ": decode response: ") (decodeQueryStatsResponse message)
    pure (stats ++ decoded)) []

def queryTrafficStats (unmarshal : String → Except String (List StatEntry)) (addr engine : String)
    (body : List UInt8) : Decoded (List TrafficStat) := do
  let stats ← queryStats addr body
  parseTrafficStatsQueryOutput unmarshal engine (marshalStats stats)

/-! ### The statistics of the frames -/

theorem foldlM_decoded (addr : String) (frames : List ResponseFrame) (stats : List StatEntry) :
    (frames.map fun frame => encodeResponse frame.parts).foldlM (fun stats message => do
      let decoded ← wrapped ("stats grpc query " ++ addr ++ ": decode response: ") (decodeQueryStatsResponse message)
      pure (stats ++ decoded)) stats = (Except.ok (stats ++ frameEntries frames) : Decoded (List StatEntry)) := by
  induction frames generalizing stats with
  | nil => exact congrArg Except.ok (List.append_nil stats).symm
  | cons frame rest ih =>
      have fits : (encodeResponse frame.parts).length < 2 ^ 63 := Nat.lt_trans frame.fits (by decide)
      rw [List.map_cons, List.foldlM_cons, decodeQueryStatsResponse_encode fits, wrapped, Except.mapError, ok_bind,
        pure_bind, ih, frameEntries, frameEntries, List.flatMap_cons, List.append_assoc]

theorem queryStats_encode (addr : String) (frames : List ResponseFrame) :
    queryStats addr (encodeFrames frames) = .ok (frameEntries frames) := by
  rw [queryStats, decodeGRPCFrames_encode, wrapped, Except.mapError, ok_bind, foldlM_decoded, List.nil_append]

/-! ### Names -/

def statName (scope key direction : String) : String :=
  scope ++ ">>>" ++ key ++ ">>>" ++ "traffic" ++ ">>>" ++ direction

def NoSeparator (text : String) : Prop :=
  ¬">>>".toList <:+: text.toList

/-- A key that a name can carry. -/
structure PlainKey (key : String) : Prop where
  given : trimSpace key ≠ ""
  unbroken : NoSeparator key
  last : key.toList.getLast? ≠ some '>'

variable {scope key direction : String} {name : String} {parts : StatName} {entries : List StatEntry} {entry : StatEntry}
  {engine : String} {stat : TrafficStat}

theorem separator_infix_iff {runes : List Char} :
    ">>>".toList <:+: runes ++ ['>', '>'] ↔ ">>>".toList <:+: runes ∨ runes.getLast? = some '>' := by
  have separator : ">>>".toList = ['>', '>', '>'] := by decide
  rw [separator]
  constructor
  · intro inside
    induction runes with
    | nil => exact absurd inside.length_le (by decide)
    | cons rune rest ih =>
        rw [List.cons_append] at inside
        cases List.infix_cons_iff.mp inside with
        | inl leads =>
            match rest with
            | [] => exact .inr (congrArg some (List.cons_prefix_cons.mp leads).1.symm)
            | [next] => exact .inr (congrArg some (List.cons_prefix_cons.mp (List.cons_prefix_cons.mp leads).2).1.symm)
            | next :: third :: others =>
                have long : ['>', '>', '>'].length ≤ (rune :: next :: third :: others).length :=
                  Nat.le_add_left 3 others.length
                exact .inl (List.prefix_of_prefix_length_le leads (List.prefix_append _ _) long).isInfix
        | inr later =>
            cases ih later with
            | inl within => exact .inl (List.infix_cons within)
            | inr ends =>
                cases rest with
                | nil => cases ends
                | cons next others => exact .inr (by rw [List.getLast?_cons_cons]; exact ends)
  · intro either
    cases either with
    | inl within => exact within.trans (List.prefix_append _ _).isInfix
    | inr ends =>
        obtain ⟨before, whole⟩ := List.getLast?_eq_some_iff.mp ends
        rw [whole, List.append_assoc]
        exact (List.suffix_append _ _).isInfix

theorem endsAt_iff : EndsAt ">>>".toList key.toList ↔ NoSeparator key ∧ key.toList.getLast? ≠ some '>' := by
  have shorter : ">>>".toList.dropLast = ['>', '>'] := by decide
  rw [EndsAt, shorter, separator_infix_iff, not_or, NoSeparator]

theorem normalizedScopeType_known (known : normalizedScopeType scope ≠ "") :
    scope = "user" ∨ scope = "inbound" ∨ scope = "outbound" ∨ scope = "core" := by
  unfold normalizedScopeType at known
  split at known
  · exact .inl ‹_›
  · split at known
    · exact .inr ‹_›
    · exact absurd rfl known

/-- Two scopes are not counted as one. -/
theorem normalizedScopeType_injective {other : String} (known : normalizedScopeType scope ≠ "")
    (same : normalizedScopeType scope = normalizedScopeType other) : scope = other := by
  have known' : normalizedScopeType other ≠ "" := same ▸ known
  revert same
  obtain rfl | rfl | rfl | rfl := normalizedScopeType_known known <;>
    obtain rfl | rfl | rfl | rfl := normalizedScopeType_known known' <;> decide

theorem endsAt_scope (known : normalizedScopeType scope ≠ "") : EndsAt ">>>".toList scope.toList := by
  rw [endsAt_iff]
  unfold NoSeparator
  obtain rfl | rfl | rfl | rfl := normalizedScopeType_known known <;> decide

theorem statName?_eq_some : statName? name = some parts ↔
    ∃ scope, name = statName scope parts.scopeKey parts.direction ∧ normalizedScopeType scope = parts.scopeType ∧
      parts.scopeType ≠ "" ∧ PlainKey parts.scopeKey ∧ NoSeparator parts.direction := by
  have given : ">>>".toList ≠ [] := by decide
  have traffic : EndsAt ">>>".toList "traffic".toList := by
    rw [endsAt_iff]
    unfold NoSeparator
    decide
  constructor
  · intro found
    rw [statName?] at found
    split at found
    · rename_i scope key counted direction split
      obtain ⟨whole, _, plain, _, last⟩ := (splitText_eq_four given).mp split
      split at found
      · cases found
      · rename_i named
        split at found
        · cases found
        · rename_i known
          rw [not_or] at known
          rw [not_not] at named
          rw [endsAt_iff] at plain
          rw [named] at whole
          cases found
          exact ⟨scope, whole, rfl, known.1, ⟨known.2, plain.1, plain.2⟩, last⟩
    · cases found
  · intro described
    obtain ⟨scope, rfl, type, known, plain, last⟩ := described
    have split := (splitText_eq_four given).mpr
      ⟨rfl, endsAt_scope (type ▸ known), endsAt_iff.mpr ⟨plain.unbroken, plain.last⟩, traffic, last⟩
    have counted : ¬(normalizedScopeType scope = "" ∨ trimSpace parts.scopeKey = "") := by
      rw [not_or]
      exact ⟨type ▸ known, plain.given⟩
    rw [statName?, statName, split]
    dsimp only
    rw [if_neg (not_not.mpr rfl), if_neg counted, type]

/-- A name is taken apart into what it was made from. -/
theorem statName?_iff (known : normalizedScopeType scope ≠ "") (plain : PlainKey key) (last : NoSeparator direction) :
    statName? name = some ⟨normalizedScopeType scope, key, direction⟩ ↔ name = statName scope key direction := by
  rw [statName?_eq_some]
  constructor
  · intro described
    obtain ⟨other, whole, type, _, _, _⟩ := described
    rw [normalizedScopeType_injective known type.symm]
    exact whole
  · intro whole
    exact ⟨scope, whole, rfl, known, plain, last⟩

/-! ### Counters -/

/-- The last value that a list gives a name, or zero. -/
def counter (entries : List StatEntry) (name : String) : Int64 :=
  ((entries.filter fun entry => entry.name = name).getLast?.map StatEntry.value).getD 0

/-- Some statistic belongs to the key, whatever its direction. -/
structure Counted (entries : List StatEntry) (scope key : String) : Prop where
  known : normalizedScopeType scope ≠ ""
  plain : PlainKey key
  present : ∃ entry ∈ entries, ∃ direction, NoSeparator direction ∧ entry.name = statName scope key direction

theorem counter_append (entries : List StatEntry) (entry : StatEntry) (name : String) :
    counter (entries ++ [entry]) name = if entry.name = name then entry.value else counter entries name := by
  rw [counter, List.filter_append, List.filter_singleton]
  by_cases named : entry.name = name
  · simp [named]
  · simp [named, counter]

theorem scopeOf?_eq_some {type : String} :
    scopeOf? entry = some (type, key) ↔ ∃ direction, statName? entry.name = some ⟨type, key, direction⟩ := by
  rw [scopeOf?, Option.map_eq_some_iff]
  constructor
  · intro found
    obtain ⟨⟨type, key, direction⟩, parted, same⟩ := found
    cases same
    exact ⟨direction, parted⟩
  · intro found
    obtain ⟨direction, parted⟩ := found
    exact ⟨_, parted, rfl⟩

theorem counted_iff {type : String} :
    (∃ scope, normalizedScopeType scope = type ∧ Counted entries scope key) ↔
      ∃ entry ∈ entries, scopeOf? entry = some (type, key) := by
  constructor
  · intro described
    obtain ⟨scope, rfl, counted⟩ := described
    obtain ⟨entry, member, direction, last, named⟩ := counted.present
    exact ⟨entry, member, scopeOf?_eq_some.mpr ⟨direction, (statName?_iff counted.known counted.plain last).mpr named⟩⟩
  · intro found
    obtain ⟨entry, member, belongs⟩ := found
    obtain ⟨direction, parted⟩ := scopeOf?_eq_some.mp belongs
    obtain ⟨scope, named, rfl, known, plain, last⟩ := statName?_eq_some.mp parted
    exact ⟨scope, rfl, known, plain, entry, member, direction, last, named⟩

theorem noSeparator_uplink : NoSeparator "uplink" := by
  unfold NoSeparator
  decide

theorem noSeparator_downlink : NoSeparator "downlink" := by
  unfold NoSeparator
  decide

/-- What the statistics of a key make of a fresh record. -/
theorem foldl_count (known : normalizedScopeType scope ≠ "") (plain : PlainKey key) :
    (entries.filter fun entry => scopeOf? entry = some (normalizedScopeType scope, key)).foldl count
        ⟨engine, normalizedScopeType scope, key, 0, 0⟩ =
      ⟨engine, normalizedScopeType scope, key, counter entries (statName scope key "uplink"),
        counter entries (statName scope key "downlink")⟩ := by
  induction entries using List.reverseRecOn with
  | nil => rfl
  | append_singleton earlier entry ih =>
      have up := @statName?_iff scope key "uplink" entry.name known plain noSeparator_uplink
      have down := @statName?_iff scope key "downlink" entry.name known plain noSeparator_downlink
      rw [List.filter_append, List.foldl_append, ih, counter_append, counter_append, List.filter_singleton]
      by_cases belongs : scopeOf? entry = some (normalizedScopeType scope, key)
      · obtain ⟨direction, parted⟩ := scopeOf?_eq_some.mp belongs
        rw [parted, Option.some.injEq, StatName.mk.injEq, and_iff_right rfl, and_iff_right rfl] at up down
        rw [decide_eq_true belongs, cond_true, List.foldl_cons, List.foldl_nil, count, parted]
        dsimp only
        rw [if_congr up rfl rfl, if_congr down rfl rfl]
        by_cases upward : entry.name = statName scope key "uplink"
        · have notDown : entry.name ≠ statName scope key "downlink" := by
            intro downward
            have both := (up.mpr upward).symm.trans (down.mpr downward)
            exact absurd both (by decide)
          rw [if_pos upward, if_pos upward, if_neg notDown]
        · by_cases downward : entry.name = statName scope key "downlink"
          · rw [if_neg upward, if_pos downward, if_neg upward, if_pos downward]
          · rw [if_neg upward, if_neg downward, if_neg upward, if_neg downward]
      · have notUp : entry.name ≠ statName scope key "uplink" :=
          fun upward => belongs (scopeOf?_eq_some.mpr ⟨_, up.mpr upward⟩)
        have notDown : entry.name ≠ statName scope key "downlink" :=
          fun downward => belongs (scopeOf?_eq_some.mpr ⟨_, down.mpr downward⟩)
        rw [decide_eq_false belongs, cond_false, List.foldl_nil, if_neg notUp, if_neg notDown]

theorem mem_trafficStats : stat ∈ trafficStats engine entries ↔
    ∃ scope key, Counted entries scope key ∧
      stat = ⟨engine, normalizedScopeType scope, key, counter entries (statName scope key "uplink"),
        counter entries (statName scope key "downlink")⟩ := by
  rw [trafficStats, List.mem_map]
  constructor
  · intro found
    obtain ⟨⟨⟨type, key⟩, value⟩, member, rfl⟩ := found
    obtain ⟨present, made⟩ := Relational.mem_gather.mp member
    obtain ⟨scope, rfl, counted⟩ := counted_iff.mpr present
    rw [foldl_count counted.known counted.plain] at made
    exact ⟨scope, key, counted, made⟩
  · intro described
    obtain ⟨scope, key, counted, rfl⟩ := described
    refine ⟨((normalizedScopeType scope, key), _), Relational.mem_gather.mpr ⟨?_, ?_⟩, rfl⟩
    · exact counted_iff.mp ⟨scope, rfl, counted⟩
    · exact (foldl_count counted.known counted.plain).symm

theorem scope_count (current : TrafficStat) (entry : StatEntry) : (count current entry).scope = current.scope := by
  unfold count
  split
  · rfl
  · split
    · rfl
    · split <;> rfl

theorem trafficStats_nodup : ((trafficStats engine entries).map TrafficStat.scope).Nodup := by
  have folded : ∀ (entries : List StatEntry) (current : TrafficStat),
      (entries.foldl count current).scope = current.scope := by
    intro entries
    induction entries with
    | nil => exact fun _ => rfl
    | cons entry rest ih => exact fun current => (ih (count current entry)).trans (scope_count current entry)
  have keyed : (trafficStats engine entries).map TrafficStat.scope =
      (Relational.gather scopeOf? (fun scope => ⟨engine, scope.1, scope.2, 0, 0⟩) count entries).map Prod.fst := by
    rw [trafficStats, List.map_map]
    apply List.map_congr_left
    intro held member
    have made := (Relational.mem_gather.mp member).2
    exact (congrArg TrafficStat.scope made).trans (folded _ _)
  rw [keyed]
  exact Relational.keys_gather_nodup

end MiGate.Xray
