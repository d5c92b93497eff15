import MiGate.Go.Utf8
import MiGate.Xray.Stats

namespace MiGate.Xray

open Go Wire Fallible

/-! Messages of the statistics service as their writer may lay them out, and what is read of them. -/

inductive Payload where
  | varint (value : UInt64)
  | fixed64 (word : Vector UInt8 8)
  | bytes (content : List UInt8)
  | fixed32 (word : Vector UInt8 4)

instance neZeroFieldNumbers : NeZero (2 ^ 29) := ⟨by decide⟩

/-- A field of a message; a field number takes 29 bits. -/
structure Field where
  number : Fin (2 ^ 29)
  payload : Payload

def Payload.wireType : Payload → Nat
  | .varint _ => 0
  | .fixed64 _ => 1
  | .bytes _ => 2
  | .fixed32 _ => 5

def Payload.encode : Payload → List UInt8
  | .varint value => appendVarint value
  | .fixed64 word => word.toList
  | .bytes content => appendVarint (UInt64.ofNat content.length) ++ content
  | .fixed32 word => word.toList

def Field.encode (field : Field) : List UInt8 :=
  appendVarint (UInt64.ofNat (field.number * 8 + field.payload.wireType)) ++ field.payload.encode

/-- The name a field gives a statistic, if it is the field for it. -/
def Field.name? (field : Field) : Option (List UInt8) :=
  match field.payload with
  | .bytes content => if field.number = 1 then some content else none
  | _ => none

def Field.value? (field : Field) : Option UInt64 :=
  match field.payload with
  | .varint value => if field.number = 2 then some value else none
  | _ => none

/-- Fields in any order and number stand for a statistic by the last ones of its name and its value;
what is missing is empty or zero. -/
structure Describes (fields : List Field) (stat : StatEntry) : Prop where
  name : bytesOfString stat.name = (fields.filterMap Field.name?).getLast?.getD []
  value : stat.value = ((fields.filterMap Field.value?).getLast?.getD 0).toInt64

def encodeFields (fields : List Field) : List UInt8 :=
  fields.flatMap Field.encode

/-- What a response consists of: a statistic, laid out in some way, or a field that is unknown. -/
inductive ResponsePart where
  | stat (fields : List Field) (entry : StatEntry) (describes : Describes fields entry)
  | unknown (field : Field) (other : field.name? = none)

def ResponsePart.encode : ResponsePart → List UInt8
  | .stat fields _ _ => (Field.mk 1 (.bytes (encodeFields fields))).encode
  | .unknown field _ => field.encode

def ResponsePart.entries : ResponsePart → List StatEntry
  | .stat _ entry _ => [entry]
  | .unknown _ _ => []

def encodeResponse (parts : List ResponsePart) : List UInt8 :=
  parts.flatMap ResponsePart.encode

/-- `binary.BigEndian.PutUint32`. -/
def putBigEndian (size : Nat) : List UInt8 :=
  [UInt8.ofNat (size / 2 ^ 24), UInt8.ofNat (size / 2 ^ 16), UInt8.ofNat (size / 2 ^ 8), UInt8.ofNat size]

def encodeGRPCFrame (message : List UInt8) : List UInt8 :=
  0 :: putBigEndian message.length ++ message

/-- A response that fits into a frame, whose length takes 32 bits. -/
structure ResponseFrame where
  parts : List ResponsePart
  fits : (encodeResponse parts).length < 2 ^ 32

def encodeFrames (frames : List ResponseFrame) : List UInt8 :=
  frames.flatMap fun frame => encodeGRPCFrame (encodeResponse frame.parts)

/-- The statistics that frames carry. -/
def frameEntries (frames : List ResponseFrame) : List StatEntry :=
  frames.flatMap fun frame => frame.parts.flatMap ResponsePart.entries

/-! ### Fields -/

variable {raw rest message : List UInt8} {field : Field} {text : String}

theorem sliceFrom_append (before rest : List UInt8) : sliceFrom (before ++ rest) before.length = .ok rest := by
  rw [sliceFrom_eq_ok]
  refine ⟨Int.natCast_nonneg _, ?_, ?_⟩
  · rw [List.length_append]
    omega
  · rw [Int.toNat_natCast, List.drop_left]

theorem appendVarint_ne_nil (value : UInt64) : appendVarint value ≠ [] := by
  rw [appendVarint]
  split
  · exact List.cons_ne_nil _ _
  · exact List.cons_ne_nil _ _

theorem length_appendVarint_pos (value : UInt64) : ¬((appendVarint value).length : Int) ≤ 0 := by
  have given := List.length_pos_of_ne_nil (appendVarint_ne_nil value)
  omega

theorem consumeTag_append {tag : Nat} (small : tag < 2 ^ 64) :
    consumeTag (appendVarint (UInt64.ofNat tag) ++ rest) text =
      .ok (UInt64.ofNat (tag / 8), UInt64.ofNat (tag % 8), rest) := by
  have number : UInt64.ofNat tag >>> 3 = UInt64.ofNat (tag / 8) := by
    apply UInt64.toNat_inj.mp
    rw [UInt64.toNat_shiftRight]
    simp only [UInt64.toNat_ofNat', UInt64.reduceToNat, Nat.reduceMod, Nat.shiftRight_eq_div_pow]
    omega
  have kind : UInt64.ofNat tag &&& 0x7 = UInt64.ofNat (tag % 8) := by
    apply UInt64.toNat_inj.mp
    have mask : (0x7 : UInt64).toNat = 2 ^ 3 - 1 := rfl
    rw [UInt64.toNat_and, mask, Nat.and_two_pow_sub_one_eq_mod]
    simp only [UInt64.toNat_ofNat']
    omega
  rw [consumeTag, consumeVarint_append]
  dsimp only
  rw [if_neg (length_appendVarint_pos _), sliceFrom_append, ok_bind, number, kind]
  rfl

theorem consumeSize_append {content : List UInt8} (short : content.length < 2 ^ 63) :
    consumeSize (appendVarint (UInt64.ofNat content.length) ++ (content ++ rest)) text =
      .ok ((appendVarint (UInt64.ofNat content.length)).length, content.length) := by
  have size : toInt (UInt64.ofNat content.length) = content.length := by
    have same : toInt (UInt64.ofNat content.length) = (UInt64.ofNat content.length).toBitVec.toInt := rfl
    rw [same, BitVec.toInt_eq_toNat_cond, UInt64.toNat_toBitVec, UInt64.toNat_ofNat']
    split <;> omega
  rw [consumeSize, consumeVarint_append]
  dsimp only
  rw [if_neg (length_appendVarint_pos _), sliceFrom_append, ok_bind, size, if_neg]
  rw [List.length_append]
  omega

theorem slice_append (before content rest : List UInt8) :
    slice (before ++ (content ++ rest)) before.length (before.length + content.length) = .ok content := by
  have enough : (0 : Int) ≤ before.length ∧ (before.length : Int) ≤ before.length + content.length ∧
      (before.length : Int) + content.length ≤ (before ++ (content ++ rest)).length := by
    rw [List.length_append, List.length_append]
    omega
  rw [slice, if_pos enough]
  have last : ((before.length : Int) + content.length).toNat = before.length + content.length := by omega
  rw [last, Int.toNat_natCast, List.take_length_add_append, List.drop_left, List.take_left]

/-- A part whose length is one of a Go slice. -/
def Field.Short (field : Field) : Prop :=
  ∀ content, field.payload = .bytes content → content.length < 2 ^ 63

def StatEntry.update (stat : StatEntry) (field : Field) : StatEntry where
  name := (field.name?.map stringOfBytes).getD stat.name
  value := (field.value?.map UInt64.toInt64).getD stat.value

theorem wireType_lt (payload : Payload) : payload.wireType < 8 := by
  unfold Payload.wireType
  split <;> decide

theorem consumeTag_field (field : Field) (rest : List UInt8) :
    consumeTag (field.encode ++ rest) text =
      .ok (UInt64.ofNat field.number, UInt64.ofNat field.payload.wireType, field.payload.encode ++ rest) := by
  have number := field.number.isLt
  have kind := wireType_lt field.payload
  have small : field.number * 8 + field.payload.wireType < 2 ^ 64 := by omega
  have first : (field.number * 8 + field.payload.wireType) / 8 = field.number := by omega
  have second : (field.number * 8 + field.payload.wireType) % 8 = field.payload.wireType := by omega
  rw [Field.encode, List.append_assoc, consumeTag_append small, first, second]

theorem skipProtoField_append (short : field.Short) (rest : List UInt8) :
    skipProtoField (field.payload.encode ++ rest) (UInt64.ofNat field.payload.wireType) = .ok rest := by
  cases laid : field.payload with
  | varint value =>
      have kind : (UInt64.ofNat (Payload.varint value).wireType).toNat = 0 := rfl
      simp only [skipProtoField, kind]
      rw [Payload.encode, consumeVarint_append]
      dsimp only
      rw [if_neg (length_appendVarint_pos _), sliceFrom_append]
  | fixed64 word =>
      have length : word.toList.length = 8 := Vector.length_toList
      have cut := sliceFrom_append word.toList rest
      rw [length] at cut
      have kind : (UInt64.ofNat (Payload.fixed64 word).wireType).toNat = 1 := rfl
      simp only [skipProtoField, kind]
      rw [Payload.encode, if_neg]
      · exact cut
      · rw [List.length_append, length]
        omega
  | bytes content =>
      have cut := sliceFrom_append (appendVarint (UInt64.ofNat content.length) ++ content) rest
      rw [List.length_append, List.append_assoc, Int.natCast_add] at cut
      have kind : (UInt64.ofNat (Payload.bytes content).wireType).toNat = 2 := rfl
      simp only [skipProtoField, kind]
      rw [Payload.encode, List.append_assoc, consumeSize_append (short content laid), ok_bind]
      exact cut
  | fixed32 word =>
      have length : word.toList.length = 4 := Vector.length_toList
      have cut := sliceFrom_append word.toList rest
      rw [length] at cut
      have kind : (UInt64.ofNat (Payload.fixed32 word).wireType).toNat = 5 := rfl
      simp only [skipProtoField, kind]
      rw [Payload.encode, if_neg]
      · exact cut
      · rw [List.length_append, length]
        omega

theorem number_eq_iff {number : Fin (2 ^ 29)} {wanted : Nat} (small : wanted < 2 ^ 29) :
    UInt64.ofNat number = UInt64.ofNat wanted ↔ (number : Nat) = wanted := by
  have bound := number.isLt
  constructor
  · intro same
    have codes := congrArg UInt64.toNat same
    simp only [UInt64.toNat_ofNat'] at codes
    omega
  · intro same
    rw [same]

/-- What is no name and no value is skipped. -/
theorem decodeStatField_append (short : field.Short) (stat : StatEntry) (rest : List UInt8) :
    decodeStatField stat (field.encode ++ rest) = .ok (stat.update field, rest) := by
  have one := @number_eq_iff field.number 1 (by decide)
  have two := @number_eq_iff field.number 2 (by decide)
  have isOne : (field.number : Nat) = 1 ↔ field.number = 1 := by
    rw [Fin.ext_iff]
    rfl
  have isTwo : (field.number : Nat) = 2 ↔ field.number = 2 := by
    rw [Fin.ext_iff]
    rfl
  have skipped := skipProtoField_append short rest
  rw [decodeStatField, consumeTag_field, ok_bind]
  dsimp only
  cases laid : field.payload with
  | varint value =>
      rw [laid] at skipped
      have other : ¬(UInt64.ofNat field.number = 1 ∧ UInt64.ofNat (Payload.varint value).wireType = 2) :=
        fun both => absurd both.2 (show ¬UInt64.ofNat 0 = 2 by decide)
      rw [if_neg other]
      by_cases valued : field.number = 2
      · rw [if_pos ⟨two.mpr (isTwo.mpr valued), rfl⟩, Payload.encode, consumeVarint_append]
        dsimp only
        rw [if_neg (length_appendVarint_pos _), sliceFrom_append, ok_bind, StatEntry.update, Field.name?, Field.value?,
          laid]
        dsimp only
        rw [if_pos valued]
        rfl
      · rw [if_neg fun both => valued (isTwo.mp (two.mp both.1)), skipped, ok_bind, StatEntry.update, Field.name?,
          Field.value?, laid]
        dsimp only
        rw [if_neg valued]
        rfl
  | bytes content =>
      rw [laid] at skipped
      by_cases named : field.number = 1
      · have cut := sliceFrom_append (appendVarint (UInt64.ofNat content.length) ++ content) rest
        rw [List.length_append, List.append_assoc, Int.natCast_add] at cut
        rw [if_pos ⟨one.mpr (isOne.mpr named), rfl⟩, Payload.encode, List.append_assoc,
          consumeSize_append (short content laid), ok_bind]
        dsimp only
        rw [slice_append, ok_bind, cut, ok_bind, StatEntry.update, Field.name?, Field.value?, laid]
        dsimp only
        rw [if_pos named]
        rfl
      · have notName : ¬(UInt64.ofNat field.number = 1 ∧ UInt64.ofNat (Payload.bytes content).wireType = 2) :=
          fun both => named (isOne.mp (one.mp both.1))
        have notValue : ¬(UInt64.ofNat field.number = 2 ∧ UInt64.ofNat (Payload.bytes content).wireType = 0) :=
          fun both => absurd both.2 (show ¬UInt64.ofNat 2 = 0 by decide)
        rw [if_neg notName, if_neg notValue, skipped, ok_bind, StatEntry.update, Field.name?, Field.value?, laid]
        dsimp only
        rw [if_neg named]
        rfl
  | fixed64 word =>
      rw [laid] at skipped
      have notName : ¬(UInt64.ofNat field.number = 1 ∧ UInt64.ofNat (Payload.fixed64 word).wireType = 2) :=
        fun both => absurd both.2 (show ¬UInt64.ofNat 1 = 2 by decide)
      have notValue : ¬(UInt64.ofNat field.number = 2 ∧ UInt64.ofNat (Payload.fixed64 word).wireType = 0) :=
        fun both => absurd both.2 (show ¬UInt64.ofNat 1 = 0 by decide)
      rw [if_neg notName, if_neg notValue, skipped, ok_bind, StatEntry.update, Field.name?, Field.value?, laid]
      rfl
  | fixed32 word =>
      rw [laid] at skipped
      have notName : ¬(UInt64.ofNat field.number = 1 ∧ UInt64.ofNat (Payload.fixed32 word).wireType = 2) :=
        fun both => absurd both.2 (show ¬UInt64.ofNat 5 = 2 by decide)
      have notValue : ¬(UInt64.ofNat field.number = 2 ∧ UInt64.ofNat (Payload.fixed32 word).wireType = 0) :=
        fun both => absurd both.2 (show ¬UInt64.ofNat 5 = 0 by decide)
      rw [if_neg notName, if_neg notValue, skipped, ok_bind, StatEntry.update, Field.name?, Field.value?, laid]
      rfl

/-! ### Messages -/

theorem update_name (fields : List Field) (stat : StatEntry) :
    (fields.foldl StatEntry.update stat).name =
      ((fields.filterMap Field.name?).getLast?.map stringOfBytes).getD stat.name := by
  induction fields using List.reverseRecOn with
  | nil => rfl
  | append_singleton earlier field ih =>
      rw [List.foldl_append, List.filterMap_append]
      cases named : field.name? with
      | none => simp [StatEntry.update, named, ih]
      | some content => simp [StatEntry.update, named]

theorem update_value (fields : List Field) (stat : StatEntry) :
    (fields.foldl StatEntry.update stat).value =
      ((fields.filterMap Field.value?).getLast?.map UInt64.toInt64).getD stat.value := by
  induction fields using List.reverseRecOn with
  | nil => rfl
  | append_singleton earlier field ih =>
      rw [List.foldl_append, List.filterMap_append]
      cases valued : field.value? with
      | none => simp [StatEntry.update, valued, ih]
      | some content => simp [StatEntry.update, valued]

theorem Describes.update {fields : List Field} {stat : StatEntry} (describes : Describes fields stat) :
    fields.foldl StatEntry.update ⟨"", 0⟩ = stat := by
  have name : (fields.foldl StatEntry.update ⟨"", 0⟩).name = stat.name := by
    rw [update_name, ← stringOfBytes_bytesOfString stat.name, describes.name]
    cases (fields.filterMap Field.name?).getLast? with
    | none => decide
    | some content => rfl
  have value : (fields.foldl StatEntry.update ⟨"", 0⟩).value = stat.value := by
    rw [update_value, describes.value]
    cases (fields.filterMap Field.value?).getLast? with
    | none => rfl
    | some value => rfl
  cases stat
  cases same : fields.foldl StatEntry.update ⟨"", 0⟩
  rw [same] at name value
  rw [StatEntry.mk.injEq]
  exact ⟨name, value⟩

/-- A field is not longer than the message it is part of. -/
theorem short_of_mem {fields : List Field} (small : (encodeFields fields).length < 2 ^ 63) :
    ∀ field ∈ fields, field.Short := by
  intro field member content laid
  obtain ⟨before, after, rfl⟩ := List.append_of_mem member
  have part : field.encode.length ≤ (encodeFields (before ++ field :: after)).length := by
    rw [encodeFields, List.flatMap_append, List.flatMap_cons, List.length_append, List.length_append]
    omega
  have inside : content.length ≤ field.encode.length := by
    rw [Field.encode, laid, Payload.encode, List.length_append, List.length_append]
    omega
  omega

theorem decodeStat_encodeFields {fields : List Field} {stat : StatEntry}
    (small : (encodeFields fields).length < 2 ^ 63) (describes : Describes fields stat) :
    decodeStat (encodeFields fields) = .ok stat := by
  have short := short_of_mem small
  have drained := @drain_items _ _ _ statTurn ⟨"", 0⟩ [] _ Field.encode StatEntry.update fields
    fun field member state rest => decodeStatField_append (short field member) state rest
  rw [List.append_nil, drain_nil, describes.update] at drained
  exact drained

theorem decodeResponseField_append {part : ResponsePart} (small : part.encode.length < 2 ^ 63)
    (stats : List StatEntry) (rest : List UInt8) :
    decodeResponseField stats (part.encode ++ rest) = .ok (stats ++ part.entries, rest) := by
  cases part with
  | stat fields entry describes =>
      have inside : (encodeFields fields).length < 2 ^ 63 := by
        rw [ResponsePart.encode, Field.encode, Payload.encode, List.length_append, List.length_append] at small
        omega
      have cut := sliceFrom_append (appendVarint (UInt64.ofNat (encodeFields fields).length) ++ encodeFields fields) rest
      rw [List.length_append, List.append_assoc, Int.natCast_add] at cut
      have named : ¬(UInt64.ofNat (1 : Fin (2 ^ 29)) ≠ 1 ∨
          UInt64.ofNat (Payload.bytes (encodeFields fields)).wireType ≠ 2) := by
        rw [not_or, not_not, not_not]
        exact ⟨rfl, rfl⟩
      rw [ResponsePart.encode, decodeResponseField, consumeTag_field, ok_bind]
      dsimp only
      rw [if_neg named, Payload.encode, List.append_assoc, consumeSize_append inside, ok_bind]
      dsimp only
      rw [slice_append, ok_bind, decodeStat_encodeFields inside describes, ok_bind, cut, ok_bind]
      rfl
  | unknown field other =>
      have short : field.Short := by
        intro content laid
        rw [ResponsePart.encode, Field.encode, laid, Payload.encode, List.length_append, List.length_append] at small
        omega
      have notStat : UInt64.ofNat field.number ≠ 1 ∨ UInt64.ofNat field.payload.wireType ≠ 2 := by
        cases laid : field.payload with
        | bytes content =>
            refine .inl fun same => ?_
            have one := (@number_eq_iff field.number 1 (by decide)).mp same
            have named : field.number = 1 := by
              rw [Fin.ext_iff]
              exact one
            rw [Field.name?, laid] at other
            dsimp only at other
            rw [if_pos named] at other
            cases other
        | varint value => exact .inr (show UInt64.ofNat 0 ≠ 2 by decide)
        | fixed64 word => exact .inr (show UInt64.ofNat 1 ≠ 2 by decide)
        | fixed32 word => exact .inr (show UInt64.ofNat 5 ≠ 2 by decide)
      rw [ResponsePart.encode, decodeResponseField, consumeTag_field, ok_bind]
      dsimp only
      rw [if_pos notStat, skipProtoField_append short, ok_bind, ResponsePart.entries, List.append_nil]
      rfl

theorem decodeQueryStatsResponse_encode {parts : List ResponsePart} (small : (encodeResponse parts).length < 2 ^ 63) :
    decodeQueryStatsResponse (encodeResponse parts) = .ok (parts.flatMap ResponsePart.entries) := by
  have short : ∀ part ∈ parts, part.encode.length < 2 ^ 63 := by
    intro part member
    obtain ⟨before, after, rfl⟩ := List.append_of_mem member
    rw [encodeResponse, List.flatMap_append, List.flatMap_cons, List.length_append, List.length_append] at small
    omega
  have collected : ∀ (stats : List StatEntry),
      parts.foldl (fun stats part => stats ++ part.entries) stats = stats ++ parts.flatMap ResponsePart.entries := by
    clear small short
    induction parts with
    | nil => exact fun stats => (List.append_nil stats).symm
    | cons part later ih =>
        intro stats
        rw [List.foldl_cons, ih, List.flatMap_cons, List.append_assoc]
  have drained := @drain_items _ _ _ responseTurn [] [] _ ResponsePart.encode (fun stats part => stats ++ part.entries)
    parts fun part member state rest => decodeResponseField_append (short part member) state rest
  rw [List.append_nil, drain_nil, collected, List.nil_append] at drained
  exact drained

/-! ### Frames -/

theorem bigEndian_put {size : Nat} (fits : size < 2 ^ 32) : bigEndian (putBigEndian size) = size := by
  simp only [bigEndian, putBigEndian, List.foldl_cons, List.foldl_nil, UInt8.toNat_ofNat']
  omega

theorem decodeGRPCFrame_append (fits : message.length < 2 ^ 32) (messages : List (List UInt8)) (rest : List UInt8) :
    decodeGRPCFrame messages (encodeGRPCFrame message ++ rest) = .ok (messages ++ [message], rest) := by
  have header : slice (encodeGRPCFrame message ++ rest) 1 5 = .ok (putBigEndian message.length) := by
    have cut := slice_append [0] (putBigEndian message.length) (message ++ rest)
    rw [encodeGRPCFrame, List.append_assoc]
    exact cut
  have after : sliceFrom (encodeGRPCFrame message ++ rest) 5 = .ok (message ++ rest) := by
    have cut := sliceFrom_append (0 :: putBigEndian message.length) (message ++ rest)
    rw [encodeGRPCFrame, List.append_assoc]
    exact cut
  have taken : slice (message ++ rest) 0 message.length = .ok message := by
    have cut := slice_append [] message rest
    rw [List.nil_append, List.length_nil, Int.natCast_zero, Int.zero_add] at cut
    exact cut
  have long : ¬(encodeGRPCFrame message ++ rest).length < 5 := by
    rw [encodeGRPCFrame, List.append_assoc, List.length_append]
    exact Nat.not_lt_of_le (Nat.le_add_right 5 _)
  have enough : ¬((message ++ rest).length : Int) < message.length := by
    rw [List.length_append]
    omega
  rw [decodeGRPCFrame, if_neg long, if_neg (show ¬(encodeGRPCFrame message ++ rest).headD 0 ≠ 0 from fun other => other rfl),
    header, ok_bind]
  dsimp only
  rw [after, ok_bind, bigEndian_put fits, if_neg enough, taken, ok_bind, sliceFrom_append, ok_bind]
  rfl

theorem decodeGRPCFrames_encode (frames : List ResponseFrame) :
    decodeGRPCFrames (encodeFrames frames) = .ok (frames.map fun frame => encodeResponse frame.parts) := by
  have collected : ∀ (messages : List (List UInt8)),
      frames.foldl (fun messages (frame : ResponseFrame) => messages ++ [encodeResponse frame.parts]) messages =
        messages ++ frames.map fun frame => encodeResponse frame.parts := by
    induction frames with
    | nil => exact fun messages => (List.append_nil messages).symm
    | cons frame later ih =>
        intro messages
        rw [List.foldl_cons, ih, List.map_cons, List.append_assoc, List.singleton_append]
  have drained := @drain_items _ _ _ frameTurn [] [] _ (fun frame : ResponseFrame => encodeGRPCFrame (encodeResponse frame.parts))
    (fun messages frame => messages ++ [encodeResponse frame.parts]) frames
    fun frame _ state rest => decodeGRPCFrame_append frame.fits state rest
  rw [List.append_nil, drain_nil, collected, List.nil_append] at drained
  exact drained

end MiGate.Xray
