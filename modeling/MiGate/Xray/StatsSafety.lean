import MiGate.Xray.Stats

namespace MiGate.Xray

open Go Wire Fallible

/-! Where the decoders slice out of range: at a length that is negative as an `int`. -/

/-- A length that is read as a negative one.  Where the part is only skipped, the ten greatest lengths
do no harm: they lead back into the length itself, which takes ten bytes. -/
def hostileLength (skipped : Bool) (raw : List UInt8) : Bool :=
  let (size, n) := consumeVarint raw
  0 < n && 2 ^ 63 ≤ size.toNat && (!skipped || size.toNat < 2 ^ 64 - 10)

/-- A field with such a length; a field with the number one is not skipped. -/
def hostileField (raw : List UInt8) : Bool :=
  match consumeTag raw "" with
  | .ok (fieldNum, wireType, rest) => wireType == 2 && hostileLength (fieldNum != 1) rest
  | .error _ => false

/-- No field the loop over a statistic comes to has a hostile length. -/
def CalmStat (raw : List UInt8) : Prop :=
  ∀ stat cursor, statTurn.Visits ⟨"", 0⟩ raw stat cursor → hostileField cursor = false

/-- The message of the statistic at a cursor, if there is one. -/
def statMessage (raw : List UInt8) : Option (List UInt8) :=
  match consumeTag raw "" with
  | .ok (fieldNum, wireType, rest) =>
      if fieldNum = 1 ∧ wireType = 2 then
        match consumeSize rest "" with
        | .ok (n, size) => (slice rest n (n + size)).toOption
        | .error _ => none
      else none
  | .error _ => none

/-- No field the loop over a response comes to, and none in one of its statistics, has a hostile length. -/
def CalmResponse (raw : List UInt8) : Prop :=
  ∀ stats cursor, responseTurn.Visits [] raw stats cursor →
    hostileField cursor = false ∧ ∀ message, statMessage cursor = some message → CalmStat message

variable {raw rest : List UInt8} {message : String}

theorem bind_eq_panic {α β : Type} {first : Decoded α} {next : α → Decoded β} :
    (first >>= next) = .error .panic ↔
      first = .error .panic ∨ ∃ value, first = .ok value ∧ next value = .error .panic := by
  cases first with
  | error failure => simp [bind, Except.bind]
  | ok value => simp [bind, Except.bind]

theorem toInt_eq (size : UInt64) :
    toInt size = if size.toNat < 2 ^ 63 then (size.toNat : Int) else (size.toNat : Int) - 2 ^ 64 := by
  have same : toInt size = size.toBitVec.toInt := rfl
  rw [same, BitVec.toInt_eq_toNat_cond, UInt64.toNat_toBitVec]
  split <;> split <;> omega

/-- A number is read whole, or there is none. -/
theorem sliceFrom_consumed (found : ¬(consumeVarint raw).2 ≤ 0) :
    sliceFrom raw (consumeVarint raw).2 = .ok (raw.drop (consumeVarint raw).2.toNat) := by
  rcases consumeVarint_size raw with absent | ⟨positive, _, inside⟩
  · rw [absent] at found
    exact absurd (by decide) found
  · exact sliceFrom_eq_ok.mpr ⟨Int.le_of_lt positive, inside, rfl⟩

theorem consumeTag_calm : consumeTag raw message ≠ .error .panic := by
  intro panics
  unfold consumeTag at panics
  dsimp only at panics
  split at panics
  · cases panics
  · rename_i found
    rw [sliceFrom_consumed found] at panics
    cases panics

theorem consumeSize_calm : consumeSize raw message ≠ .error .panic := by
  intro panics
  unfold consumeSize at panics
  dsimp only at panics
  split at panics
  · cases panics
  · rename_i found
    rw [sliceFrom_consumed found] at panics
    dsimp only [bind, Except.bind] at panics
    split at panics
    · cases panics
    · cases panics

theorem consumeSize_eq_ok_congr {other : String} {n size : Int} (read : consumeSize raw message = .ok (n, size)) :
    consumeSize raw other = .ok (n, size) := by
  unfold consumeSize at read ⊢
  dsimp only at read ⊢
  split at read
  · cases read
  · rename_i found
    rw [if_neg found]
    rw [sliceFrom_consumed found] at read ⊢
    dsimp only [bind, Except.bind] at read ⊢
    split at read
    · cases read
    · rename_i enough
      rw [if_neg enough]
      exact read

theorem consumeTag_eq_ok_congr {other : String} {tag : UInt64 × UInt64 × List UInt8}
    (read : consumeTag raw message = .ok tag) : consumeTag raw other = .ok tag := by
  unfold consumeTag at read ⊢
  dsimp only at read ⊢
  split at read
  · cases read
  · rename_i found
    rw [if_neg found]
    exact read

/-- A negative length passes the check against what is left. -/
theorem consumeSize_of_large (found : 0 < (consumeVarint raw).2) (large : 2 ^ 63 ≤ (consumeVarint raw).1.toNat) :
    consumeSize raw message = .ok (10, (consumeVarint raw).1.toNat - 2 ^ 64) := by
  have size : toInt (consumeVarint raw).1 = (consumeVarint raw).1.toNat - 2 ^ 64 := by
    rw [toInt_eq, if_neg (Nat.not_lt_of_le large)]
  have bound := (consumeVarint raw).1.toNat_lt
  unfold consumeSize
  dsimp only
  rw [if_neg (Int.not_le_of_gt found), sliceFrom_consumed (Int.not_le_of_gt found)]
  dsimp only [bind, Except.bind]
  rw [if_neg, size, consumeVarint_large raw large]
  omega

/-- What is read of a part panics where its length is hostile, and only there. -/
theorem skipBytes_panics : (consumeSize raw message >>= fun (n, size) => sliceFrom raw (n + size)) = .error .panic ↔
    hostileLength true raw = true := by
  simp only [hostileLength, Bool.and_eq_true, decide_eq_true_eq, Bool.not_true, Bool.false_or]
  rw [bind_eq_panic, or_iff_right consumeSize_calm]
  constructor
  · rintro ⟨⟨n, size⟩, read, panics⟩
    obtain ⟨positive, _, inside, first, second⟩ := consumeSize_spec read
    dsimp only [sliceFrom] at panics
    split at panics
    · cases panics
    · rename_i outside
      have negative : n + size < 0 := by omega
      rw [second, toInt_eq] at negative
      have bound := (consumeVarint raw).1.toNat_lt
      have large : 2 ^ 63 ≤ (consumeVarint raw).1.toNat := by
        by_contra small
        rw [if_pos (Nat.lt_of_not_le small)] at negative
        omega
      have ten := consumeVarint_large raw large
      rw [if_neg (Nat.not_lt_of_le large)] at negative
      refine ⟨⟨first ▸ positive, large⟩, ?_⟩
      omega
  · rintro ⟨⟨found, large⟩, harmful⟩
    refine ⟨_, consumeSize_of_large found large, ?_⟩
    dsimp only [sliceFrom]
    rw [if_neg]
    omega

theorem skipProtoField_panics {wireType : UInt64} :
    skipProtoField raw wireType = .error .panic ↔ wireType = 2 ∧ hostileLength true raw = true := by
  have inside : ∀ {length : Nat}, ¬raw.length < length → sliceFrom raw length = .ok (raw.drop length) := by
    intro length enough
    exact sliceFrom_eq_ok.mpr ⟨Int.natCast_nonneg _, by omega, by rw [Int.toNat_natCast]⟩
  have number : ∀ {code : Nat}, wireType.toNat = code → wireType = UInt64.ofNat code := by
    rintro code rfl
    exact UInt64.ofNat_toNat.symm
  unfold skipProtoField
  split
  · rename_i kind
    rw [number kind]
    refine iff_of_false (fun panics => ?_) (fun both => absurd both.1 (by decide))
    dsimp only at panics
    split at panics
    · cases panics
    · rename_i found
      rw [sliceFrom_consumed found] at panics
      cases panics
  · rename_i kind
    rw [number kind]
    refine iff_of_false (fun panics => ?_) (fun both => absurd both.1 (by decide))
    split at panics
    · cases panics
    · rename_i enough
      cases (inside enough).symm.trans panics
  · rename_i kind
    rw [number kind, and_iff_right (by decide)]
    exact skipBytes_panics
  · rename_i kind
    rw [number kind]
    refine iff_of_false (fun panics => ?_) (fun both => absurd both.1 (by decide))
    split at panics
    · cases panics
    · rename_i enough
      cases (inside enough).symm.trans panics
  · rename_i other _
    refine iff_of_false nofun fun both => other ?_
    rw [both.1]
    rfl

/-- A part that is read panics at every negative length, or in what is made of it. -/
theorem readBytes_panics {α : Type} {next : Int × Int → List UInt8 → Decoded α} :
    (consumeSize raw message >>= fun read => slice raw read.1 (read.1 + read.2) >>= next read) = .error .panic ↔
      hostileLength false raw = true ∨ ∃ n size part, consumeSize raw message = .ok (n, size) ∧
        slice raw n (n + size) = .ok part ∧ next (n, size) part = .error .panic := by
  simp only [hostileLength, Bool.and_eq_true, decide_eq_true_eq, Bool.not_false, Bool.true_or, and_true]
  rw [bind_eq_panic, or_iff_right consumeSize_calm]
  constructor
  · rintro ⟨⟨n, size⟩, read, panics⟩
    obtain ⟨positive, _, inside, first, second⟩ := consumeSize_spec read
    rcases bind_eq_panic.mp panics with outside | ⟨part, taken, later⟩
    · unfold slice at outside
      split at outside
      · cases outside
      · rename_i off
        have negative : size < 0 := by omega
        rw [second, toInt_eq] at negative
        refine .inl ⟨first ▸ positive, ?_⟩
        by_contra small
        rw [if_pos (Nat.lt_of_not_le small)] at negative
        omega
    · exact .inr ⟨n, size, part, read, taken, later⟩
  · rintro (⟨found, large⟩ | ⟨n, size, part, read, taken, later⟩)
    · have bound := (consumeVarint raw).1.toNat_lt
      refine ⟨_, consumeSize_of_large found large, bind_eq_panic.mpr (.inl ?_)⟩
      unfold slice
      rw [if_neg]
      omega
    · exact ⟨_, read, bind_eq_panic.mpr (.inr ⟨part, taken, later⟩)⟩

/-- What follows a part that is read lies within what there is. -/
theorem sliceFrom_after {part : List UInt8} {n size : Int} (read : consumeSize raw message = .ok (n, size))
    (taken : slice raw n (n + size) = .ok part) : ∃ rest, sliceFrom raw (n + size) = .ok rest := by
  obtain ⟨positive, _, inside, _⟩ := consumeSize_spec read
  unfold slice at taken
  split at taken
  · rename_i within
    refine ⟨_, sliceFrom_eq_ok.mpr ⟨?_, inside, rfl⟩⟩
    omega
  · cases taken

theorem decodeStatField_panics {stat : StatEntry} :
    decodeStatField stat raw = .error .panic ↔ hostileField raw = true := by
  unfold decodeStatField hostileField
  rw [bind_eq_panic, or_iff_right consumeTag_calm]
  cases tag : consumeTag raw "" with
  | error failure =>
      refine iff_of_false ?_ Bool.false_ne_true
      rintro ⟨value, read, _⟩
      rw [consumeTag_eq_ok_congr read] at tag
      cases tag
  | ok value =>
      obtain ⟨fieldNum, wireType, rest⟩ := value
      have read : consumeTag raw "invalid stat field" = .ok (fieldNum, wireType, rest) := consumeTag_eq_ok_congr tag
      simp only [read, Except.ok.injEq, exists_eq_left', Bool.and_eq_true, beq_iff_eq]
      by_cases named : fieldNum = 1 ∧ wireType = 2
      · rw [if_pos named, named.1, named.2, bne_self_eq_false, and_iff_right rfl]
        refine readBytes_panics.trans (or_iff_left ?_)
        rintro ⟨n, size, part, counted, taken, panics⟩
        obtain ⟨after, cut⟩ := sliceFrom_after counted taken
        dsimp only at panics
        rw [cut] at panics
        cases panics
      · rw [if_neg named]
        by_cases valued : fieldNum = 2 ∧ wireType = 0
        · rw [if_pos valued, valued.2]
          refine iff_of_false (fun panics => ?_) (fun both => absurd both.1 (by decide))
          split at panics
          · cases panics
          · rename_i found
            rw [sliceFrom_consumed found] at panics
            cases panics
        · rw [if_neg valued, bind_eq_panic, skipProtoField_panics]
          constructor
          · rintro (⟨bytes, hostile⟩ | ⟨_, _, ends⟩)
            · have other : (fieldNum != 1) = true := bne_iff_ne.mpr fun one => named ⟨one, bytes⟩
              rw [other]
              exact ⟨bytes, hostile⟩
            · cases ends
          · rintro ⟨bytes, hostile⟩
            have other : (fieldNum != 1) = true := bne_iff_ne.mpr fun one => named ⟨one, bytes⟩
            rw [other] at hostile
            exact .inl ⟨bytes, hostile⟩

theorem decodeStat_panics : decodeStat raw = .error .panic ↔ ¬CalmStat raw := by
  have unfinished : ∀ {cursor : List UInt8}, hostileField cursor = true → cursor ≠ [] := by
    rintro cursor hostile rfl
    cases hostile
  rw [decodeStat, drain_eq_error, CalmStat]
  constructor
  · rintro ⟨stat, cursor, visited, _, failed⟩ calm
    have hostile := decodeStatField_panics.mp failed
    rw [calm stat cursor visited] at hostile
    cases hostile
  · intro harmed
    simp only [not_forall, Bool.not_eq_false] at harmed
    obtain ⟨stat, cursor, visited, hostile⟩ := harmed
    exact ⟨stat, cursor, visited, unfinished hostile, decodeStatField_panics.mpr hostile⟩

theorem decodeResponseField_panics {stats : List StatEntry} :
    decodeResponseField stats raw = .error .panic ↔
      hostileField raw = true ∨ ∃ message, statMessage raw = some message ∧ decodeStat message = .error .panic := by
  unfold decodeResponseField hostileField statMessage
  rw [bind_eq_panic, or_iff_right consumeTag_calm]
  cases tag : consumeTag raw "" with
  | error failure =>
      refine iff_of_false ?_ (by simp)
      rintro ⟨value, read, _⟩
      rw [consumeTag_eq_ok_congr read] at tag
      cases tag
  | ok value =>
      obtain ⟨fieldNum, wireType, rest⟩ := value
      have read : consumeTag raw "invalid protobuf field" = .ok (fieldNum, wireType, rest) :=
        consumeTag_eq_ok_congr tag
      simp only [read, Except.ok.injEq, exists_eq_left', Bool.and_eq_true, beq_iff_eq]
      by_cases named : fieldNum = 1 ∧ wireType = 2
      · rw [if_neg (fun other => other.elim (absurd named.1) (absurd named.2)), if_pos named, named.1, named.2,
          bne_self_eq_false, and_iff_right rfl]
        refine readBytes_panics.trans (or_congr_right ?_)
        constructor
        · rintro ⟨n, size, part, counted, taken, panics⟩
          refine ⟨part, ?_, ?_⟩
          · rw [consumeSize_eq_ok_congr counted]
            dsimp only
            rw [taken]
            rfl
          · rcases bind_eq_panic.mp panics with failed | ⟨_, _, later⟩
            · exact failed
            · obtain ⟨after, cut⟩ := sliceFrom_after counted taken
              dsimp only at later
              rw [cut] at later
              cases later
        · rintro ⟨part, found, panics⟩
          cases counted : consumeSize rest "" with
          | error failure =>
              rw [counted] at found
              cases found
          | ok sized =>
              obtain ⟨n, size⟩ := sized
              rw [counted] at found
              dsimp only at found
              cases taken : slice rest n (n + size) with
              | error failure =>
                  rw [taken] at found
                  cases found
              | ok inner =>
                  rw [taken] at found
                  cases found
                  exact ⟨n, size, part, consumeSize_eq_ok_congr counted, taken, bind_eq_panic.mpr (.inl panics)⟩
      · rw [if_neg named, if_pos (not_and_or.mp named), bind_eq_panic, skipProtoField_panics]
        simp only [reduceCtorEq, false_and, exists_false, or_false]
        constructor
        · rintro (⟨bytes, hostile⟩ | ⟨_, _, ends⟩)
          · have other : (fieldNum != 1) = true := bne_iff_ne.mpr fun one => named ⟨one, bytes⟩
            rw [other]
            exact ⟨bytes, hostile⟩
          · cases ends
        · rintro ⟨bytes, hostile⟩
          have other : (fieldNum != 1) = true := bne_iff_ne.mpr fun one => named ⟨one, bytes⟩
          rw [other] at hostile
          exact .inl ⟨bytes, hostile⟩

theorem decodeQueryStatsResponse_panics : decodeQueryStatsResponse raw = .error .panic ↔ ¬CalmResponse raw := by
  have harms : ∀ {stats : List StatEntry} {cursor : List UInt8}, decodeResponseField stats cursor = .error .panic ↔
      ¬(hostileField cursor = false ∧ ∀ message, statMessage cursor = some message → CalmStat message) := by
    intro stats cursor
    rw [decodeResponseField_panics, not_and_or, Bool.not_eq_false]
    simp only [decodeStat_panics, not_forall, exists_prop]
  have unfinished : ∀ {stats : List StatEntry} {cursor : List UInt8},
      decodeResponseField stats cursor = .error .panic → cursor ≠ [] := by
    rintro stats cursor failed rfl
    cases failed
  rw [decodeQueryStatsResponse, drain_eq_error, CalmResponse]
  constructor
  · rintro ⟨stats, cursor, visited, _, failed⟩ calm
    exact harms.mp failed (calm stats cursor visited)
  · intro harmed
    simp only [not_forall] at harmed
    obtain ⟨stats, cursor, visited, harm⟩ := harmed
    have failed := (@harms stats cursor).mpr harm
    exact ⟨stats, cursor, visited, unfinished failed, failed⟩

theorem decodeGRPCFrame_calm {messages : List (List UInt8)} : decodeGRPCFrame messages raw ≠ .error .panic := by
  intro panics
  unfold decodeGRPCFrame at panics
  split at panics
  · cases panics
  · rename_i long
    split at panics
    · cases panics
    · have header : slice raw 1 5 = .ok ((raw.take 5).drop 1) := if_pos (by omega)
      have tail : sliceFrom raw 5 = .ok (raw.drop 5) := if_pos (by omega)
      rw [header, ok_bind] at panics
      dsimp only at panics
      rw [tail, ok_bind] at panics
      split at panics
      · cases panics
      · rename_i enough
        have message : slice (raw.drop 5) 0 (bigEndian ((raw.take 5).drop 1)) =
            .ok (((raw.drop 5).take (bigEndian ((raw.take 5).drop 1))).drop 0) :=
          if_pos ⟨Int.le_refl 0, Int.natCast_nonneg _, Int.not_lt.mp enough⟩
        have rest : sliceFrom (raw.drop 5) (bigEndian ((raw.take 5).drop 1)) =
            .ok ((raw.drop 5).drop (bigEndian ((raw.take 5).drop 1))) :=
          if_pos ⟨Int.natCast_nonneg _, Int.not_lt.mp enough⟩
        rw [message, ok_bind, rest] at panics
        cases panics

theorem decodeGRPCFrames_calm : decodeGRPCFrames raw ≠ .error .panic := by
  intro panics
  obtain ⟨messages, cursor, _, _, failed⟩ := drain_eq_error.mp panics
  exact decodeGRPCFrame_calm failed

/-- The decoders end with a result or an error exactly where no length they come to is hostile, and
each field they read brings them on within what they were given. -/
theorem stats_decoders_safe_iff (raw : List UInt8) :
    decodeGRPCFrames raw ≠ .error .panic ∧
    (∀ wireType, skipProtoField raw wireType ≠ .error .panic ↔ ¬(wireType = 2 ∧ hostileLength true raw = true)) ∧
    (decodeStat raw ≠ .error .panic ↔ CalmStat raw) ∧
    (decodeQueryStatsResponse raw ≠ .error .panic ↔ CalmResponse raw) ∧
    (∀ wireType rest, skipProtoField raw wireType = .ok rest → Rest rest raw) ∧
    (∀ messages next rest, decodeGRPCFrame messages raw = .ok (next, rest) →
      Rest rest raw ∧ rest.length < raw.length) ∧
    (∀ stat next rest, decodeStatField stat raw = .ok (next, rest) →
      Rest rest raw ∧ rest.length < raw.length) ∧
    (∀ stats next rest, decodeResponseField stats raw = .ok (next, rest) →
      Rest rest raw ∧ rest.length < raw.length) := by
  refine ⟨decodeGRPCFrames_calm, fun wireType => not_congr skipProtoField_panics, ?_, ?_, fun _ _ => skipProtoField_rest,
    fun _ _ _ => decodeGRPCFrame_rest, fun _ _ _ => decodeStatField_rest, fun _ _ _ => decodeResponseField_rest⟩
  · rw [Ne, decodeStat_panics, not_not]
  · rw [Ne, decodeQueryStatsResponse_panics, not_not]

/-- A statistic of the greatest length there is. -/
def hostileResponse : List UInt8 :=
  [0x0a, 0xff, 0xff, 0xff, 0xff, 0xff, 0xff, 0xff, 0xff, 0xff, 0x01]

theorem hostile_response_panics : ¬∀ raw, decodeQueryStatsResponse raw ≠ .error .panic := by
  intro safe
  have failed : decodeResponseField [] hostileResponse = .error .panic := by rfl
  exact safe hostileResponse (drain_failed (List.cons_ne_nil _ _) failed)

end MiGate.Xray
