import MiGate.Go.Strings

namespace MiGate.Go

/-! Go's `encoding/hex`, `encoding/base64` and the part of `encoding/json` that writes lists
of strings. -/

/-- `hex.EncodeToString`. -/
def encodeHex (bytes : List UInt8) : String :=
  String.ofList (bytes.flatMap fun byte => [Nat.digitChar (byte.toNat / 16), Nat.digitChar (byte.toNat % 16)])

def base64Letters : List Char :=
  "ABCDEFGHIJKLMNOPQRSTUVWXYZabcdefghijklmnopqrstuvwxyz0123456789".toList

def base64StdAlphabet : List Char :=
  base64Letters ++ ['+', '/']

def base64URLAlphabet : List Char :=
  base64Letters ++ ['-', '_']

def encodeBase64List (alphabet padding : List Char) : List UInt8 → List Char
  | [] => []
  | [first] =>
      let letter := fun (code : Nat) => alphabet.getD code '='
      [letter (first.toNat / 4), letter (first.toNat % 4 * 16)] ++ padding ++ padding
  | [first, second] =>
      let letter := fun (code : Nat) => alphabet.getD code '='
      [letter (first.toNat / 4), letter (first.toNat % 4 * 16 + second.toNat / 16),
        letter (second.toNat % 16 * 4)] ++ padding
  | first :: second :: third :: rest =>
      let letter := fun (code : Nat) => alphabet.getD code '='
      letter (first.toNat / 4) :: letter (first.toNat % 4 * 16 + second.toNat / 16) ::
        letter (second.toNat % 16 * 4 + third.toNat / 64) :: letter (third.toNat % 64) ::
          encodeBase64List alphabet padding rest

/-- `base64.StdEncoding.EncodeToString`. -/
def encodeBase64Std (bytes : List UInt8) : String :=
  String.ofList (encodeBase64List base64StdAlphabet ['='] bytes)

/-- `base64.RawURLEncoding.EncodeToString`. -/
def encodeBase64RawURL (bytes : List UInt8) : String :=
  String.ofList (encodeBase64List base64URLAlphabet [] bytes)

/-- Joins groups of four sextets; the bits a last short group leaves over are dropped. -/
def joinSextets : List Nat → Option (List UInt8)
  | [] => some []
  | [_] => none
  | [first, second] => some [UInt8.ofNat (first * 4 + second / 16)]
  | [first, second, third] =>
      some [UInt8.ofNat (first * 4 + second / 16), UInt8.ofNat (second % 16 * 16 + third / 4)]
  | first :: second :: third :: fourth :: rest =>
      (joinSextets rest).map fun bytes =>
        UInt8.ofNat (first * 4 + second / 16) :: UInt8.ofNat (second % 16 * 16 + third / 4) ::
          UInt8.ofNat (third % 4 * 64 + fourth) :: bytes

/-- `base64.RawURLEncoding.DecodeString`, which skips line breaks. -/
def decodeBase64RawURL (text : String) : Option (List UInt8) :=
  ((text.toList.filter fun rune => rune != '\r' && rune != '\n').mapM fun rune =>
    base64URLAlphabet.idxOf? rune).bind joinSextets

/-- How `json.Marshal` writes one rune of a string. -/
def jsonRune (rune : Char) : List Char :=
  match rune.toNat with
  | 8 => [backslash, 'b']
  | 9 => [backslash, 't']
  | 10 => [backslash, 'n']
  | 12 => [backslash, 'f']
  | 13 => [backslash, 'r']
  | 34 => [backslash, doubleQuote]
  | 92 => [backslash, backslash]
  | code =>
      if code < 32 ∨ code = 38 ∨ code = 60 ∨ code = 62 then
        [backslash, 'u', '0', '0', Nat.digitChar (code / 16), Nat.digitChar (code % 16)]
      else if code = 0x2028 then [backslash, 'u', '2', '0', '2', '8']
      else if code = 0x2029 then [backslash, 'u', '2', '0', '2', '9']
      else [rune]

def jsonString (text : String) : String :=
  String.ofList (doubleQuote :: text.toList.flatMap jsonRune ++ [doubleQuote])

/-- `json.Marshal` of a list of strings. -/
def jsonStrings (texts : List String) : String :=
  "[" ++ join (texts.map jsonString) "," ++ "]"

/-- A value of type `interface{}` as the configurations hold them; an object lists its fields. -/
inductive Json where
  | string (text : String)
  | number (value : Int)
  | bool (value : Bool)
  | array (items : List Json)
  | object (fields : List (String × Json))

def Json.strings (texts : List String) : Json :=
  .array (texts.map .string)

/-- A field an object has only under a condition. -/
def fieldIf (condition : Prop) [Decidable condition] (key : String) (value : Json) : List (String × Json) :=
  if condition then [(key, value)] else []

/-- The value a map holds after a list of writes: the last one under the key. -/
def lastWrite {κ ν : Type} [BEq κ] (writes : List (κ × ν)) (key : κ) : Option ν :=
  writes.reverse.lookup key

theorem lastWrite_cons {κ ν : Type} [BEq κ] (written : κ) (value : ν) (writes : List (κ × ν)) (key : κ) :
    lastWrite ((written, value) :: writes) key =
      (lastWrite writes key).or (if key == written then some value else none) := by
  simp only [lastWrite, List.reverse_cons, List.lookup_append, List.lookup_cons, List.lookup_nil]
  cases key == written <;> rfl

theorem mem_of_lastWrite {κ ν : Type} [BEq κ] [LawfulBEq κ] {writes : List (κ × ν)} {key : κ} {value : ν}
    (last : lastWrite writes key = some value) : (key, value) ∈ writes := by
  induction writes with
  | nil => cases last
  | cons write rest ih =>
      obtain ⟨written, first⟩ := write
      rw [lastWrite_cons] at last
      cases later : lastWrite rest key with
      | some found =>
          rw [later, Option.some_or] at last
          rw [later] at ih
          exact List.mem_cons_of_mem _ (ih last)
      | none =>
          rw [later, Option.none_or] at last
          split at last
          · rename_i named
            rw [beq_iff_eq.mp named, Option.some.inj last]
            exact List.mem_cons_self
          · cases last

/-- A key under which only one value is written holds that value. -/
theorem lastWrite_eq {κ ν : Type} [BEq κ] [LawfulBEq κ] {writes : List (κ × ν)} {key : κ} {value : ν}
    (member : (key, value) ∈ writes) (only : ∀ other, (key, other) ∈ writes → other = value) :
    lastWrite writes key = some value := by
  cases last : lastWrite writes key with
  | some found => rw [only found (mem_of_lastWrite last)]
  | none =>
      have missed := List.lookup_eq_none_iff.mp last (key, value) (List.mem_reverse.mpr member)
      simp at missed

theorem lastWrite_eq_none {κ ν : Type} [BEq κ] [LawfulBEq κ] {writes : List (κ × ν)} {key : κ}
    (unwritten : ∀ value, (key, value) ∉ writes) : lastWrite writes key = none := by
  cases last : lastWrite writes key with
  | none => rfl
  | some value => exact absurd (mem_of_lastWrite last) (unwritten value)

theorem spaceless_encodeHex (bytes : List UInt8) : Spaceless (encodeHex bytes) := by
  have digits : ∀ code < 16, isSpace (Nat.digitChar code) = false := by
    decide
  intro rune member
  simp only [encodeHex, String.toList_ofList, List.mem_flatMap, List.mem_cons, List.not_mem_nil,
    or_false] at member
  obtain ⟨byte, _, high | low⟩ := member
  · rw [high]
    exact digits _ (by have := byte.toNat_lt; omega)
  · rw [low]
    exact digits _ (by omega)

theorem encodeHex_ne_empty {bytes : List UInt8} (given : bytes ≠ []) : encodeHex bytes ≠ "" := by
  cases bytes with
  | nil => exact absurd rfl given
  | cons byte rest =>
      intro empty
      have runes := congrArg String.toList empty
      simp [encodeHex] at runes

attribute [irreducible] encodeHex jsonStrings

theorem encodeHex_inj {left right : List UInt8} (same : encodeHex left = encodeHex right) : left = right := by
  have digits : ∀ code < 16, ∀ other < 16, Nat.digitChar code = Nat.digitChar other → code = other := by decide
  have runes := congrArg String.toList same
  rw [encodeHex, encodeHex, String.toList_ofList, String.toList_ofList] at runes
  clear same
  induction left generalizing right with
  | nil =>
      cases right with
      | nil => rfl
      | cons byte rest => cases runes
  | cons byte rest ih =>
      cases right with
      | nil => cases runes
      | cons other others =>
          simp only [List.flatMap_cons, List.cons_append, List.nil_append, List.cons.injEq] at runes
          obtain ⟨high, low, later⟩ := runes
          have bound := byte.toNat_lt
          have bound' := other.toNat_lt
          have highs := digits _ (by omega) _ (by omega) high
          have lows := digits _ (by omega) _ (by omega) low
          have equal : byte = other := UInt8.toNat_inj.mp (by omega)
          rw [equal, ih later]

end MiGate.Go
