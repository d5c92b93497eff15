import MiGate.Fallible.Except
import MiGate.Go.Bytes
import MiGate.Wire.Drain
import MiGate.Xray.Varint

namespace MiGate.Xray

open Go Wire Fallible

/-! The reader of the statistics service, on raw bytes. -/

/-- How a decoder ends without a result: with an error, or by a run-time error of Go. -/
inductive Failure where
  | error (message : String)
  | panic
deriving DecidableEq, Repr

abbrev Decoded (α : Type) : Type :=
  Except Failure α

/-- `raw[low:]`. -/
def sliceFrom (raw : List UInt8) (low : Int) : Decoded (List UInt8) :=
  if 0 ≤ low ∧ low ≤ raw.length then .ok (raw.drop low.toNat) else .error .panic

/-- `raw[low:high]`, where `high` is not beyond the end. -/
def slice (raw : List UInt8) (low high : Int) : Decoded (List UInt8) :=
  if 0 ≤ low ∧ low ≤ high ∧ high ≤ raw.length then .ok ((raw.take high.toNat).drop low.toNat)
  else .error .panic

/-- `int(size)`, on a machine whose words have 64 bits. -/
def toInt (size : UInt64) : Int :=
  size.toInt64.toInt

/-- The length of a part that is to be read, and where it begins. -/
def consumeSize (raw : List UInt8) (message : String) : Decoded (Int × Int) := do
  let (size, n) := consumeVarint raw
  if n ≤ 0 then .error (.error message)
  else
    let after ← sliceFrom raw n
    if (after.length : Int) < toInt size then .error (.error message) else .ok (n, toInt size)

def skipProtoField (raw : List UInt8) (wireType : UInt64) : Decoded (List UInt8) :=
  match wireType.toNat with
  | 0 =>
      let (_, n) := consumeVarint raw
      if n ≤ 0 then .error (.error "invalid varint field") else sliceFrom raw n
  | 1 => if raw.length < 8 then .error (.error "invalid fixed64 field") else sliceFrom raw 8
  | 2 => do
      let (n, size) ← consumeSize raw "invalid bytes field"
      sliceFrom raw (n + size)
  | 5 => if raw.length < 4 then .error (.error "invalid fixed32 field") else sliceFrom raw 4
  | other => .error (.error s!"unsupported protobuf wire type {other}")

/-- The number and the wire type of a field, and what follows them. -/
def consumeTag (raw : List UInt8) (message : String) : Decoded (UInt64 × UInt64 × List UInt8) := do
  let (field, n) := consumeVarint raw
  if n ≤ 0 then .error (.error message)
  else
    let raw ← sliceFrom raw n
    pure (field >>> 3, field &&& 0x7, raw)

structure StatEntry where
  name : String
  value : Int64
deriving DecidableEq, Repr

/-- One field of a statistic.  A name that is no valid text is read as `json.Marshal` writes it later. -/
def decodeStatField (stat : StatEntry) (raw : List UInt8) : Decoded (StatEntry × List UInt8) := do
  let (fieldNum, wireType, raw) ← consumeTag raw "invalid stat field"
  if fieldNum = 1 ∧ wireType = 2 then
    let (n, size) ← consumeSize raw "invalid stat name length"
    let name ← slice raw n (n + size)
    let raw ← sliceFrom raw (n + size)
    pure ({ stat with name := stringOfBytes name }, raw)
  else if fieldNum = 2 ∧ wireType = 0 then
    let (value, n) := consumeVarint raw
    if n ≤ 0 then .error (.error "invalid stat value")
    else
      let raw ← sliceFrom raw n
      pure ({ stat with value := value.toInt64 }, raw)
  else
    let raw ← skipProtoField raw wireType
    pure (stat, raw)

/-! ### Every field brings its reader on -/

/-- What is left is the end of what there was. -/
def Rest (rest raw : List UInt8) : Prop :=
  ∃ read, raw = read ++ rest

variable {raw rest : List UInt8}

theorem Rest.trans {middle : List UInt8} (first : Rest middle raw) (second : Rest rest middle) : Rest rest raw := by
  obtain ⟨before, rfl⟩ := first
  obtain ⟨after, rfl⟩ := second
  exact ⟨before ++ after, (List.append_assoc ..).symm⟩

theorem Rest.length_le (left : Rest rest raw) : rest.length ≤ raw.length := by
  obtain ⟨read, rfl⟩ := left
  rw [List.length_append]
  exact Nat.le_add_left _ _

theorem sliceFrom_eq_ok {low : Int} : sliceFrom raw low = .ok rest ↔
    0 ≤ low ∧ low ≤ raw.length ∧ rest = raw.drop low.toNat := by
  unfold sliceFrom
  split
  · rename_i inside
    rw [Except.ok.injEq]
    exact ⟨fun same => ⟨inside.1, inside.2, same.symm⟩, fun found => found.2.2.symm⟩
  · rename_i outside
    exact ⟨nofun, fun found => absurd ⟨found.1, found.2.1⟩ outside⟩

theorem Rest.of_sliceFrom {low : Int} (sliced : sliceFrom raw low = .ok rest) :
    Rest rest raw ∧ (rest.length : Int) = raw.length - low := by
  obtain ⟨positive, inside, rfl⟩ := sliceFrom_eq_ok.mp sliced
  refine ⟨⟨raw.take low.toNat, (List.take_append_drop ..).symm⟩, ?_⟩
  rw [List.length_drop]
  omega

theorem consumeTag_rest {message : String} {fieldNum wireType : UInt64}
    (read : consumeTag raw message = .ok (fieldNum, wireType, rest)) : Rest rest raw ∧ rest.length < raw.length := by
  unfold consumeTag at read
  dsimp only at read
  split at read
  · cases read
  · rename_i found
    obtain ⟨after, sliced, same⟩ := bind_eq_ok.mp read
    cases same
    obtain ⟨left, length⟩ := Rest.of_sliceFrom sliced
    refine ⟨left, ?_⟩
    omega

/-- Where a part begins, and that a part of a size that is not negative lies within what there is. -/
theorem consumeSize_spec {message : String} {n size : Int} (read : consumeSize raw message = .ok (n, size)) :
    0 < n ∧ n ≤ raw.length ∧ n + size ≤ raw.length ∧ n = (consumeVarint raw).2 ∧
      size = toInt (consumeVarint raw).1 := by
  unfold consumeSize at read
  dsimp only at read
  split at read
  · cases read
  · rename_i found
    obtain ⟨after, sliced, rest⟩ := bind_eq_ok.mp read
    split at rest
    · cases rest
    · rename_i enough
      cases rest
      obtain ⟨_, length⟩ := Rest.of_sliceFrom sliced
      have inside := (sliceFrom_eq_ok.mp sliced).2.1
      refine ⟨?_, inside, ?_, rfl, rfl⟩
      · omega
      · omega

theorem skipProtoField_rest {wireType : UInt64} (skipped : skipProtoField raw wireType = .ok rest) :
    Rest rest raw := by
  unfold skipProtoField at skipped
  split at skipped
  · dsimp only at skipped
    split at skipped
    · cases skipped
    · exact (Rest.of_sliceFrom skipped).1
  · split at skipped
    · cases skipped
    · exact (Rest.of_sliceFrom skipped).1
  · obtain ⟨_, _, sliced⟩ := bind_eq_ok.mp skipped
    exact (Rest.of_sliceFrom sliced).1
  · split at skipped
    · cases skipped
    · exact (Rest.of_sliceFrom skipped).1
  · cases skipped

theorem decodeStatField_rest {stat next : StatEntry} (read : decodeStatField stat raw = .ok (next, rest)) :
    Rest rest raw ∧ rest.length < raw.length := by
  obtain ⟨⟨fieldNum, wireType, tail⟩, tag, body⟩ := bind_eq_ok.mp read
  obtain ⟨left, shorter⟩ := consumeTag_rest tag
  have ends : Rest rest tail := by
    dsimp only at body
    split at body
    · obtain ⟨⟨n, size⟩, _, taken⟩ := bind_eq_ok.mp body
      obtain ⟨_, _, others⟩ := bind_eq_ok.mp taken
      obtain ⟨_, sliced, same⟩ := bind_eq_ok.mp others
      cases same
      exact (Rest.of_sliceFrom sliced).1
    · split at body
      · split at body
        · cases body
        · obtain ⟨_, sliced, same⟩ := bind_eq_ok.mp body
          cases same
          exact (Rest.of_sliceFrom sliced).1
      · obtain ⟨_, skipped, same⟩ := bind_eq_ok.mp body
        cases same
        exact skipProtoField_rest skipped
  exact ⟨left.trans ends, Nat.lt_of_le_of_lt ends.length_le shorter⟩

def statTurn : Turn StatEntry UInt8 Failure where
  run := decodeStatField
  advances := fun read => (decodeStatField_rest read).2

def decodeStat (raw : List UInt8) : Decoded StatEntry :=
  statTurn.drain ⟨"", 0⟩ raw

/-- One field of a response; those that are no statistic are skipped. -/
def decodeResponseField (stats : List StatEntry) (raw : List UInt8) : Decoded (List StatEntry × List UInt8) := do
  let (fieldNum, wireType, raw) ← consumeTag raw "invalid protobuf field"
  if fieldNum ≠ 1 ∨ wireType ≠ 2 then
    let raw ← skipProtoField raw wireType
    pure (stats, raw)
  else
    let (n, size) ← consumeSize raw "invalid stat message length"
    let message ← slice raw n (n + size)
    let stat ← decodeStat message
    let raw ← sliceFrom raw (n + size)
    pure (stats ++ [stat], raw)

theorem decodeResponseField_rest {stats next : List StatEntry}
    (read : decodeResponseField stats raw = .ok (next, rest)) : Rest rest raw ∧ rest.length < raw.length := by
  obtain ⟨⟨fieldNum, wireType, tail⟩, tag, body⟩ := bind_eq_ok.mp read
  obtain ⟨left, shorter⟩ := consumeTag_rest tag
  have ends : Rest rest tail := by
    dsimp only at body
    split at body
    · obtain ⟨_, skipped, same⟩ := bind_eq_ok.mp body
      cases same
      exact skipProtoField_rest skipped
    · obtain ⟨⟨n, size⟩, _, taken⟩ := bind_eq_ok.mp body
      obtain ⟨_, _, decoded⟩ := bind_eq_ok.mp taken
      obtain ⟨_, _, others⟩ := bind_eq_ok.mp decoded
      obtain ⟨_, sliced, same⟩ := bind_eq_ok.mp others
      cases same
      exact (Rest.of_sliceFrom sliced).1
  exact ⟨left.trans ends, Nat.lt_of_le_of_lt ends.length_le shorter⟩

def responseTurn : Turn (List StatEntry) UInt8 Failure where
  run := decodeResponseField
  advances := fun read => (decodeResponseField_rest read).2

def decodeQueryStatsResponse (raw : List UInt8) : Decoded (List StatEntry) :=
  responseTurn.drain [] raw

/-- `binary.BigEndian.Uint32`. -/
def bigEndian (bytes : List UInt8) : Nat :=
  bytes.foldl (fun value byte => value * 256 + byte.toNat) 0

/-- One frame: a flag, the length of its message, and the message. -/
def decodeGRPCFrame (messages : List (List UInt8)) (raw : List UInt8) :
    Decoded (List (List UInt8) × List UInt8) :=
  if raw.length < 5 then .error (.error "truncated grpc frame header")
  else if raw.headD 0 ≠ 0 then .error (.error "compressed grpc frames are not supported")
  else do
    let header ← slice raw 1 5
    let size : Int := bigEndian header
    let raw ← sliceFrom raw 5
    if (raw.length : Int) < size then .error (.error "truncated grpc frame payload")
    else
      let message ← slice raw 0 size
      let raw ← sliceFrom raw size
      pure (messages ++ [message], raw)

theorem decodeGRPCFrame_rest {messages next : List (List UInt8)}
    (read : decodeGRPCFrame messages raw = .ok (next, rest)) : Rest rest raw ∧ rest.length < raw.length := by
  unfold decodeGRPCFrame at read
  split at read
  · cases read
  · split at read
    · cases read
    · rename_i long _
      obtain ⟨header, _, body⟩ := bind_eq_ok.mp read
      obtain ⟨tail, sliced, counted⟩ := bind_eq_ok.mp body
      obtain ⟨left, length⟩ := Rest.of_sliceFrom sliced
      split at counted
      · cases counted
      · obtain ⟨_, _, taken⟩ := bind_eq_ok.mp counted
        obtain ⟨_, cut, same⟩ := bind_eq_ok.mp taken
        cases same
        have ends := (Rest.of_sliceFrom cut).1
        refine ⟨left.trans ends, ?_⟩
        have shorter := ends.length_le
        omega

def frameTurn : Turn (List (List UInt8)) UInt8 Failure where
  run := decodeGRPCFrame
  advances := fun read => (decodeGRPCFrame_rest read).2

def decodeGRPCFrames (raw : List UInt8) : Decoded (List (List UInt8)) :=
  frameTurn.drain [] raw

end MiGate.Xray
