import MiGate.Xray.TrafficStats

namespace MiGate.Xray

open Go Wire Fallible

/-! Statistics that a service writes are the counters that are read. -/

theorem length_appendVarint_le (value : UInt64) : (appendVarint value).length ≤ 10 := by
  have read := consumeVarint_append value []
  rw [List.append_nil] at read
  have size := consumeVarint_size (appendVarint value)
  rw [read] at size
  dsimp only at size
  omega

/-! ### Every list can be written -/

/-- A statistic as the service's own library lays it out. -/
def layout (entry : StatEntry) : List Field :=
  [⟨1, .bytes (bytesOfString entry.name)⟩, ⟨2, .varint entry.value.toUInt64⟩]

theorem describes_layout (entry : StatEntry) : Describes (layout entry) entry where
  name := rfl
  value := (Int64.toInt64_toUInt64 entry.value).symm

theorem length_field_bytes (number : Fin (2 ^ 29)) (content : List UInt8) :
    (Field.mk number (.bytes content)).encode.length ≤ 20 + content.length := by
  have tag := length_appendVarint_le (UInt64.ofNat (number * 8 + (Payload.bytes content).wireType))
  have size := length_appendVarint_le (UInt64.ofNat content.length)
  rw [Field.encode, Payload.encode, List.length_append, List.length_append]
  dsimp only at tag ⊢
  omega

theorem length_field_varint (number : Fin (2 ^ 29)) (value : UInt64) :
    (Field.mk number (.varint value)).encode.length ≤ 20 := by
  have tag := length_appendVarint_le (UInt64.ofNat (number * 8 + (Payload.varint value).wireType))
  have size := length_appendVarint_le value
  rw [Field.encode, Payload.encode, List.length_append]
  dsimp only at tag ⊢
  omega

/-- A frame for one statistic, whose name fits into it. -/
def frameOf (entry : StatEntry) (short : (bytesOfString entry.name).length < 2 ^ 31) : ResponseFrame where
  parts := [.stat (layout entry) entry (describes_layout entry)]
  fits := by
    have name := length_field_bytes 1 (bytesOfString entry.name)
    have value := length_field_varint 2 entry.value.toUInt64
    have whole := length_field_bytes 1 (encodeFields (layout entry))
    rw [encodeResponse, List.flatMap_singleton, ResponsePart.encode]
    have inside : (encodeFields (layout entry)).length ≤ 40 + (bytesOfString entry.name).length := by
      rw [encodeFields, layout, List.flatMap_cons, List.flatMap_singleton, List.length_append]
      omega
    omega

theorem exists_frames {entries : List StatEntry}
    (short : ∀ entry ∈ entries, (bytesOfString entry.name).length < 2 ^ 31) :
    ∃ frames, frameEntries frames = entries := by
  induction entries with
  | nil => exact ⟨[], rfl⟩
  | cons entry rest ih =>
      obtain ⟨frames, written⟩ := ih fun other member => short other (List.mem_cons_of_mem entry member)
      refine ⟨frameOf entry (short entry List.mem_cons_self) :: frames, ?_⟩
      rw [frameEntries, List.flatMap_cons]
      exact congrArg (entry :: ·) written

/-! ### The counters -/

variable {unmarshal : String → Except String (List StatEntry)} {frames : List ResponseFrame}

theorem queryTrafficStats_encode
    (reads : unmarshal (marshalStats (frameEntries frames)) = .ok (frameEntries frames)) (addr engine : String) :
    queryTrafficStats unmarshal addr engine (encodeFrames frames) = .ok (trafficStats engine (frameEntries frames)) := by
  rw [queryTrafficStats, queryStats_encode, ok_bind, parseTrafficStatsQueryOutput, reads]

/-- The integers are read as they were written; of the statistics that frames carry in whatever layout,
the ones with a key that a name can carry are counted, each key once, with the last value of either direction. -/
theorem stats_codec_round_trip (addr engine : String)
    (reads : unmarshal (marshalStats (frameEntries frames)) = .ok (frameEntries frames)) :
    (∀ value rest, consumeVarint (appendVarint value ++ rest) = (value, ((appendVarint value).length : Int))) ∧
      ∃ stats, queryTrafficStats unmarshal addr engine (encodeFrames frames) = .ok stats ∧
        (stats.map TrafficStat.scope).Nodup ∧
        ∀ stat, stat ∈ stats ↔ ∃ scope key, Counted (frameEntries frames) scope key ∧
          stat = ⟨engine, normalizedScopeType scope, key, counter (frameEntries frames) (statName scope key "uplink"),
            counter (frameEntries frames) (statName scope key "downlink")⟩ := by
  refine ⟨consumeVarint_append, trafficStats engine (frameEntries frames), ?_, ?_, ?_⟩
  · exact queryTrafficStats_encode reads addr engine
  · exact trafficStats_nodup
  · exact fun stat => mem_trafficStats

def exampleEntries : List StatEntry :=
  [⟨"user>>>c_1>>>traffic>>>uplink", 10⟩, ⟨"user>>>c_1>>>traffic>>>downlink", -1⟩]

/-- Reads what was written for the example, and nothing else. -/
def exampleUnmarshal (raw : String) : Except String (List StatEntry) :=
  if raw = marshalStats exampleEntries then .ok exampleEntries else .error "unexpected end of JSON input"

def exampleFrames : List ResponseFrame :=
  [frameOf ⟨"user>>>c_1>>>traffic>>>uplink", 10⟩ (by decide),
    frameOf ⟨"user>>>c_1>>>traffic>>>downlink", -1⟩ (by decide)]

theorem example_round_trip :
    ∃ stats, queryTrafficStats exampleUnmarshal "127.0.0.1:10085" "xray" (encodeFrames exampleFrames) = .ok stats ∧
      (⟨"xray", "client", "c_1", 10, -1⟩ : TrafficStat) ∈ stats := by
  obtain ⟨stats, read, _, counted⟩ :=
    (@stats_codec_round_trip exampleUnmarshal exampleFrames "127.0.0.1:10085" "xray" (if_pos rfl)).2
  refine ⟨stats, read, (counted _).mpr ⟨"user", "c_1", ?_, ?_⟩⟩
  · refine ⟨by with_unfolding_all decide, ⟨by with_unfolding_all decide, ?_, by with_unfolding_all decide⟩, ?_⟩
    · unfold NoSeparator
      decide
    · exact ⟨⟨"user>>>c_1>>>traffic>>>uplink", 10⟩, List.mem_cons_self, "uplink", noSeparator_uplink, by decide⟩
  · decide

/-- A key with the separator in it is not counted. -/
theorem broken_key_uncounted :
    ∃ frames, frameEntries frames = [⟨statName "user" "a>>>b" "uplink", 7⟩] ∧
      queryTrafficStats (fun _ => .ok [⟨statName "user" "a>>>b" "uplink", 7⟩]) "127.0.0.1:10085" "xray"
        (encodeFrames frames) = .ok [] := by
  refine ⟨[frameOf ⟨statName "user" "a>>>b" "uplink", 7⟩ (by decide)], rfl, ?_⟩
  rw [queryTrafficStats_encode rfl]
  exact congrArg Except.ok (show trafficStats "xray" [⟨statName "user" "a>>>b" "uplink", 7⟩] = [] by decide)

end MiGate.Xray
