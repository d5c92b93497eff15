import MiGate.Go.Host
import MiGate.Web.Revocation

namespace MiGate.Web

open Go

/-! Which session tokens pass, and until when. -/

/-! ### Numbers and bytes that are read back -/

theorem hexDigit_digitChar : ∀ code < 16, hexDigit (Nat.digitChar code) = some code := by
  decide

theorem decodeHex_encodeHex (bytes : List UInt8) : decodeHex (encodeHex bytes).toList = some bytes := by
  rw [encodeHex, String.toList_ofList]
  induction bytes with
  | nil => rfl
  | cons byte rest ih =>
      have below := byte.toNat_lt
      rw [List.flatMap_cons, List.cons_append, List.cons_append, List.nil_append, decodeHex,
        hexDigit_digitChar _ (by omega), hexDigit_digitChar _ (by omega), ih]
      have value : byte.toNat / 16 * 16 + byte.toNat % 16 = byte.toNat := by omega
      change some (UInt8.ofNat (byte.toNat / 16 * 16 + byte.toNat % 16) :: rest) = _
      rw [value, UInt8.ofNat_toNat]

theorem dot_notMem_encodeHex (bytes : List UInt8) : '.' ∉ (encodeHex bytes).toList := by
  have digits : ∀ code < 16, Nat.digitChar code ≠ '.' := by decide
  intro member
  simp only [encodeHex, String.toList_ofList, List.mem_flatMap, List.mem_cons, List.not_mem_nil, or_false] at member
  obtain ⟨byte, _, high | low⟩ := member
  · exact digits _ (by have := byte.toNat_lt; omega) high.symm
  · exact digits _ (by omega) low.symm

theorem utf8_append (left right : String) : utf8 (left ++ right) = utf8 left ++ utf8 right := by
  rw [utf8, String.toList_append, List.flatMap_append]
  rfl

theorem utf8_ascii {text : String} (ascii : ∀ rune ∈ text.toList, rune.toNat < 128) :
    utf8 text = text.toList.map fun rune => UInt8.ofNat rune.toNat := by
  rw [utf8]
  generalize text.toList = runes at ascii
  induction runes with
  | nil => rfl
  | cons rune rest ih =>
      have small : rune.val.toNat ≤ 0x7f := Nat.le_of_lt_succ (ascii rune List.mem_cons_self)
      rw [List.flatMap_cons, List.map_cons, ih fun other member => ascii other (List.mem_cons_of_mem _ member)]
      have single : String.utf8EncodeChar rune = [UInt8.ofNat rune.toNat] := by
        unfold String.utf8EncodeChar
        rw [if_pos small]
        rfl
      rw [single, List.singleton_append]

/-- The bytes of the decimal digits of a number. -/
def digitBytes (number : Nat) : List UInt8 :=
  (Nat.toDigits 10 number).map fun rune => UInt8.ofNat rune.toNat

theorem digit_ascii {rune : Char} (digit : rune.isDigit = true) : 48 ≤ rune.toNat ∧ rune.toNat ≤ 57 := by
  rw [Char.isDigit, Bool.and_eq_true, decide_eq_true_eq, decide_eq_true_eq] at digit
  exact ⟨UInt32.le_iff_toNat_le.mp digit.1, UInt32.le_iff_toNat_le.mp digit.2⟩

theorem toDigits_ascii (number : Nat) : ∀ rune ∈ Nat.toDigits 10 number, 48 ≤ rune.toNat ∧ rune.toNat ≤ 57 :=
  fun _ member => digit_ascii (Nat.isDigit_of_mem_toDigits (by decide) (by decide) member)

theorem mem_digitBytes {number : Nat} {byte : UInt8} (member : byte ∈ digitBytes number) : 48 ≤ byte ∧ byte ≤ 57 := by
  obtain ⟨rune, inside, rfl⟩ := List.mem_map.mp member
  obtain ⟨low, high⟩ := toDigits_ascii number rune inside
  have code : (UInt8.ofNat rune.toNat).toNat = rune.toNat := UInt8.toNat_ofNat_of_lt' (by change rune.toNat < 256; omega)
  rw [UInt8.le_iff_toNat_le, UInt8.le_iff_toNat_le, code]
  exact ⟨low, high⟩

theorem digitBytes_value (number : Nat) :
    (digitBytes number).foldl (fun (value : Int) (byte : UInt8) => value * 10 + (byte.toNat - 48 : Nat)) (0 : Int) = number := by
  have folded : ∀ (runes : List Char), (∀ rune ∈ runes, 48 ≤ rune.toNat ∧ rune.toNat ≤ 57) → ∀ start : Nat,
      (runes.map fun rune => UInt8.ofNat rune.toNat).foldl
        (fun (value : Int) (byte : UInt8) => value * 10 + (byte.toNat - 48 : Nat)) (start : Int) = Nat.ofDigitChars 10 runes start := by
    intro runes
    induction runes with
    | nil => exact fun _ _ => rfl
    | cons rune rest ih =>
        intro digits start
        have small := (digits rune List.mem_cons_self).2
        have code : (UInt8.ofNat rune.toNat).toNat = rune.toNat :=
          UInt8.toNat_ofNat_of_lt' (by change rune.toNat < 256; omega)
        rw [List.map_cons, List.foldl_cons, code, Nat.ofDigitChars_cons]
        have next : (start : Int) * 10 + (rune.toNat - 48 : Nat) = ((10 * start + (rune.toNat - 48) : Nat) : Int) := by
          omega
        rw [next]
        exact ih (fun other member => digits other (List.mem_cons_of_mem _ member)) _
  have whole := folded _ (toDigits_ascii number) 0
  rw [Nat.ofDigitChars_toDigits (by decide) (by decide)] at whole
  exact whole

theorem digitBytes_ne_nil (number : Nat) : digitBytes number ≠ [] :=
  fun empty => Nat.toDigits_ne_nil (List.map_eq_nil_iff.mp empty)

/-- The bytes of a number: its digits, behind a sign where it is negative. -/
theorem utf8_itoa (value : Int) :
    utf8 (itoa value) = if value < 0 then 45 :: digitBytes value.natAbs else digitBytes value.natAbs := by
  have ascii : ∀ number, ∀ rune ∈ Nat.toDigits 10 number, rune.toNat < 128 := by
    intro number rune member
    have high := (toDigits_ascii number rune member).2
    omega
  cases value with
  | ofNat number =>
      have runes := toList_itoa number
      rw [if_neg (by exact Int.not_lt.mpr (Int.natCast_nonneg number)), Int.ofNat_eq_natCast,
        utf8_ascii (runes ▸ ascii number), runes]
      rfl
  | negSucc number =>
      have runes := toList_itoa_negSucc number
      rw [if_pos (Int.negSucc_lt_zero number), utf8_ascii, runes]
      · rfl
      · rw [runes]
        intro rune member
        rcases List.mem_cons.mp member with rfl | digit
        · decide
        · exact ascii _ rune digit

/-- A number that fits 64 bits is read back. -/
theorem parseInt64_itoa {value : Int} (fits : -2 ^ 63 ≤ value ∧ value < 2 ^ 63) : parseInt64 (utf8 (itoa value)) = some value := by
  have digits : (digitBytes value.natAbs).all (fun byte => 48 ≤ byte && byte ≤ 57) = true := by
    rw [List.all_eq_true]
    intro byte member
    obtain ⟨low, high⟩ := mem_digitBytes member
    rw [decide_eq_true low, decide_eq_true high]
    rfl
  have read : ¬(digitBytes value.natAbs = [] ∨ (!(digitBytes value.natAbs).all fun byte => 48 ≤ byte && byte ≤ 57) = true) := by
    rw [digits]
    exact fun unread => unread.elim (digitBytes_ne_nil _) (by decide)
  rw [utf8_itoa]
  by_cases negative : value < 0
  · rw [if_pos negative, parseInt64]
    dsimp only
    rw [if_neg read, if_pos rfl, digitBytes_value, if_pos (by omega), Option.some.injEq]
    omega
  · have unsigned : parseInt64 (digitBytes value.natAbs) =
        if -2 ^ 63 ≤ (value.natAbs : Int) ∧ (value.natAbs : Int) < 2 ^ 63 then some (value.natAbs : Int) else none := by
      have notSign : ∀ rest, digitBytes value.natAbs ≠ 43 :: rest ∧ digitBytes value.natAbs ≠ 45 :: rest := by
        intro rest
        have low : ∀ byte ∈ digitBytes value.natAbs, 48 ≤ byte := fun byte member => (mem_digitBytes member).1
        constructor
        · intro sign
          exact absurd (low 43 (sign ▸ List.mem_cons_self)) (by decide)
        · intro sign
          exact absurd (low 45 (sign ▸ List.mem_cons_self)) (by decide)
      unfold parseInt64
      split
      rename_i parts
      split at parts
      · rename_i rest sign
        exact absurd sign (notSign _).1
      · rename_i rest sign
        exact absurd sign (notSign _).2
      · cases parts
        rw [if_neg read, digitBytes_value]
        rfl
    rw [if_neg negative, unsigned, if_pos (by omega), Option.some.injEq]
    omega

/-! ### The payload taken apart -/

variable {α : Type} [DecidableEq α] {separator : α} {before after items : List α}

theorem cut_append (absent : separator ∉ before) : cut separator (before ++ separator :: after) = (before, some after) := by
  have differ : ∀ item ∈ before, decide (item ≠ separator) = true := by
    intro item member
    exact decide_eq_true fun same => absent (same ▸ member)
  rw [cut, if_pos (List.mem_append_right _ List.mem_cons_self), List.takeWhile_append_of_pos differ,
    List.dropWhile_append_of_pos differ, List.takeWhile_cons_of_neg (by simp), List.dropWhile_cons_of_neg (by simp),
    List.append_nil, List.drop_one, List.tail_cons]

theorem cut_absent (absent : separator ∉ items) : cut separator items = (items, none) := by
  have differ : ∀ item ∈ items, decide (item ≠ separator) = true := by
    intro item member
    exact decide_eq_true fun same => absent (same ▸ member)
  rw [cut, if_neg absent, List.takeWhile_eq_self_iff.mpr differ]

/-- The field a session's expiry is looked for in. -/
def secondField (text : List UInt8) : Option (List UInt8) :=
  (cut colon text).2.map fun rest => (cut colon rest).1

theorem payloadExpiry_eq (payload : List UInt8) : payloadExpiry payload = (secondField payload).bind parseInt64 := by
  rw [payloadExpiry, secondField]
  cases (cut colon payload).2 with
  | none => rfl
  | some rest => rfl

/-- The second field of a text that a number was put behind is within the text, if it has a colon. -/
theorem secondField_append {name number rest : List UInt8} (plain : colon ∉ number) :
    secondField (name ++ colon :: (number ++ colon :: rest)) = some ((secondField name).getD number) := by
  by_cases present : colon ∈ name
  · obtain ⟨first, others, rfl, absent⟩ := List.eq_append_cons_of_mem present
    rw [secondField, secondField, List.append_assoc, List.cons_append, cut_append absent, cut_append absent]
    simp only [Option.map_some, Option.getD_some, Option.some.injEq]
    by_cases again : colon ∈ others
    · obtain ⟨second, third, rfl, apart⟩ := List.eq_append_cons_of_mem again
      rw [List.append_assoc, List.cons_append, cut_append apart, cut_append apart]
    · rw [cut_append again, cut_absent again]
  · rw [secondField, secondField, cut_append present, cut_absent present]
    simp only [Option.map_some, Option.map_none, Option.getD_none, Option.some.injEq]
    rw [cut_append plain]

/-! ### Tokens -/

/-- `signMessage` under a secret, by a keyed hash. -/
def panelCrypto (hmac : List UInt8 → List UInt8 → List UInt8) (hashToken : String → String) (secret : List UInt8) :
    SessionCrypto where
  signMessage message := encodeHex (hmac secret message)
  hashToken := hashToken

def sessionPayload (createdAt : Int) (username : String) (nonce : Vector UInt8 8) : List UInt8 :=
  utf8 (username ++ ":" ++ itoa (unix (createdAt + sessionLifetime)) ++ ":" ++ encodeHex nonce.toList)

/-- The code of a message is the code of no other message, and of no message under another secret. -/
def Unforgeable (hmac : List UInt8 → List UInt8 → List UInt8) (secret message : List UInt8) : Prop :=
  ∀ otherSecret other, hmac otherSecret other = hmac secret message → otherSecret = secret ∧ other = message

/-- The username has no second field, or it has the expiry there. -/
def ExpiryInPlace (username : String) (expiry : Int) : Prop :=
  ∀ field, secondField (utf8 username) = some field → parseInt64 field = some expiry

theorem colon_mem_utf8 {text : String} : colon ∈ utf8 text ↔ ':' ∈ text.toList := by
  rw [utf8, List.mem_flatMap]
  constructor
  · intro ⟨rune, inside, member⟩
    have code : colon.toNat = rune.toNat := byte_of_utf8EncodeChar (by decide) member
    have same : rune = ':' := by
      rw [← Char.ofNat_toNat rune, ← code]
      rfl
    exact same ▸ inside
  · intro inside
    exact ⟨':', inside, by decide⟩

theorem expiryInPlace_of_plain {username : String} {expiry : Int} (plain : ':' ∉ username.toList) :
    ExpiryInPlace username expiry := by
  intro field named
  rw [secondField, cut_absent (colon_mem_utf8.not.mpr plain)] at named
  cases named

theorem signedExpiry_issued (crypto : SessionCrypto) (createdAt : Int) (username : String) (nonce : Vector UInt8 8) :
    signedExpiry crypto (createSessionToken crypto createdAt username nonce) =
      payloadExpiry (sessionPayload createdAt username nonce) := by
  have parts : (createSessionToken crypto createdAt username nonce).toList =
      (encodeHex (sessionPayload createdAt username nonce)).toList ++
        '.' :: (crypto.signMessage (sessionPayload createdAt username nonce)).toList := by
    rw [createSessionToken, String.toList_append, String.toList_append, List.append_assoc]
    rfl
  rw [signedExpiry, parts, cut_append (dot_notMem_encodeHex _)]
  dsimp only
  rw [decodeHex_encodeHex, String.ofList_toList]
  exact if_pos rfl

theorem payloadExpiry_issued {createdAt : Int} {username : String} {nonce : Vector UInt8 8}
    (storable : -2 ^ 63 ≤ unix (createdAt + sessionLifetime) ∧ unix (createdAt + sessionLifetime) < 2 ^ 63) :
    payloadExpiry (sessionPayload createdAt username nonce) = some (unix (createdAt + sessionLifetime)) ↔
      ExpiryInPlace username (unix (createdAt + sessionLifetime)) := by
  have payload : sessionPayload createdAt username nonce = utf8 username ++
      colon :: (utf8 (itoa (unix (createdAt + sessionLifetime))) ++ colon :: utf8 (encodeHex nonce.toList)) := by
    have separator : utf8 ":" = [colon] := by decide
    rw [sessionPayload, utf8_append, utf8_append, utf8_append, utf8_append, separator, List.append_assoc, List.append_assoc,
      List.append_assoc]
    rfl
  have plain : colon ∉ utf8 (itoa (unix (createdAt + sessionLifetime))) := by
    rw [utf8_itoa]
    have digits : ∀ number, colon ∉ digitBytes number :=
      fun number member => absurd (mem_digitBytes member).2 (by decide)
    split
    · exact fun member => (List.mem_cons.mp member).elim (by decide) (digits _)
    · exact digits _
  rw [payloadExpiry_eq, payload, secondField_append plain, Option.bind_some, ExpiryInPlace]
  cases secondField (utf8 username) with
  | none =>
      rw [Option.getD_none]
      exact iff_of_true (parseInt64_itoa storable) nofun
  | some field =>
      rw [Option.getD_some]
      exact ⟨fun read other same => Option.some.inj same ▸ read, fun named => named field rfl⟩

/-- Tokens pass up to the second a username hides in their place of the expiry. -/
theorem valid_until_iff {crypto : SessionCrypto} {token : String} {expiry : Int} :
    (∀ now, validateSessionToken crypto now token = true ↔ unix now ≤ expiry) ↔ signedExpiry crypto token = some expiry := by
  have moment : ∀ at_, unix (at_ * second) = at_ := fun at_ => Int.mul_ediv_cancel _ (by decide)
  simp only [validateSessionToken_eq]
  constructor
  · intro until_
    cases signed : signedExpiry crypto token with
    | none =>
        have valid := (until_ (expiry * second)).mpr (Int.le_of_eq (moment _))
        rw [signed] at valid
        cases valid
    | some found =>
        simp only [signed, Option.any_some, decide_eq_true_eq] at until_
        have early := (until_ (found * second)).mp (Int.le_of_eq (moment _))
        have late := (until_ (expiry * second)).mpr (Int.le_of_eq (moment _))
        rw [moment] at early late
        exact congrArg some (Int.le_antisymm early late)
  · intro signed now
    rw [signed, Option.any_some, decide_eq_true_eq]

/-- A hash that keeps its key and its message apart. -/
def exampleHmac (key message : List UInt8) : List UInt8 :=
  List.replicate key.length 1 ++ 0 :: (key ++ message)

theorem exampleHmac_unforgeable (secret message : List UInt8) : Unforgeable exampleHmac secret message := by
  have marked : ∀ key other : List UInt8, (exampleHmac key other).takeWhile (· == 1) = List.replicate key.length 1 := by
    intro key other
    rw [exampleHmac, List.takeWhile_append_of_pos (by simp), List.takeWhile_cons_of_neg (by decide), List.append_nil]
  intro otherSecret other same
  have lengths := congrArg (List.length ∘ List.takeWhile (· == 1)) same
  simp only [Function.comp_apply, marked, List.length_replicate] at lengths
  rw [exampleHmac, exampleHmac, lengths, List.append_cancel_left_eq, List.cons.injEq] at same
  exact List.append_inj same.2 lengths

def exampleNonce : Vector UInt8 8 :=
  Vector.replicate 8 0

end MiGate.Web
