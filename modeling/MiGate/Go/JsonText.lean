import MiGate.Go.Encoding

namespace MiGate.Go

/-! What `json.Marshal` writes can be read back from the front: two values followed by
something are written alike only if they are equal and followed by the same. -/

/-- A way of writing values that can be read back, whatever follows that begins in a certain way. -/
def ReadsBack {α : Type} (write : α → List Char) (follows : List Char → Prop) : Prop :=
  ∀ left right leftRest rightRest, follows leftRest → follows rightRest →
    write left ++ leftRest = write right ++ rightRest → left = right ∧ leftRest = rightRest

/-! ### Strings -/

private def hexDigitValue (rune : Char) : Nat :=
  ['0', '1', '2', '3', '4', '5', '6', '7', '8', '9', 'a', 'b', 'c', 'd', 'e', 'f'].idxOf rune

/-- Reads one rune of a string back. -/
private def readJsonRune : List Char → Option (Char × List Char)
  | '\\' :: 'u' :: first :: second :: third :: fourth :: rest =>
      some (Char.ofNat (((hexDigitValue first * 16 + hexDigitValue second) * 16 + hexDigitValue third) * 16 + hexDigitValue fourth), rest)
  | '\\' :: 'b' :: rest => some (Char.ofNat 8, rest)
  | '\\' :: 't' :: rest => some (Char.ofNat 9, rest)
  | '\\' :: 'n' :: rest => some (Char.ofNat 10, rest)
  | '\\' :: 'f' :: rest => some (Char.ofNat 12, rest)
  | '\\' :: 'r' :: rest => some (Char.ofNat 13, rest)
  | '\\' :: rune :: rest => some (rune, rest)
  | rune :: rest => some (rune, rest)
  | [] => none

private theorem hexDigitValue_digits : ∀ code < 64, (hexDigitValue (Nat.digitChar (code / 16))) * 16 +
    hexDigitValue (Nat.digitChar (code % 16)) = code := by
  decide

private theorem readJsonRune_jsonRune (rune : Char) (rest : List Char) :
    readJsonRune (jsonRune rune ++ rest) = some (rune, rest) := by
  have named : Char.ofNat rune.toNat = rune := Char.ofNat_toNat rune
  have coded : ∀ code, rune.toNat = code → Char.ofNat code = rune := fun code same => by rw [← same, named]
  unfold jsonRune
  split
  case h_8 notBackslash =>
    split
    · rename_i low
      have value := hexDigitValue_digits rune.toNat (by omega)
      have zero : hexDigitValue '0' = 0 := by decide
      simp only [List.cons_append, List.nil_append, readJsonRune, backslash, zero, Nat.zero_mul, Nat.zero_add, value, named]
    · split
      · rename_i separator
        rw [← coded _ separator]
        rfl
      · split
        · rename_i separator
          rw [← coded _ separator]
          rfl
        · have plain : rune ≠ '\\' := by
            intro same
            exact notBackslash (by rw [same]; decide)
          simp only [List.cons_append, List.nil_append]
          unfold readJsonRune
          split <;> simp_all
  all_goals
    rename_i code
    rw [← coded _ code]
    rfl

private theorem jsonRune_ne_quote (rune : Char) (rest tail : List Char) :
    jsonRune rune ++ rest ≠ doubleQuote :: tail := by
  intro same
  have reading := readJsonRune_jsonRune rune rest
  have quoted : readJsonRune (doubleQuote :: tail) = some (doubleQuote, tail) := rfl
  have escaped : jsonRune doubleQuote = [backslash, doubleQuote] := by decide
  have apart : backslash ≠ doubleQuote := by decide
  rw [same, quoted, Option.some.injEq, Prod.mk.injEq] at reading
  rw [← reading.1, escaped, List.cons_append, List.cons.injEq] at same
  exact apart same.1

private theorem jsonRunes_inj {left right leftRest rightRest : List Char}
    (same : left.flatMap jsonRune ++ doubleQuote :: leftRest = right.flatMap jsonRune ++ doubleQuote :: rightRest) :
    left = right ∧ leftRest = rightRest := by
  induction left generalizing right with
  | nil =>
      cases right with
      | nil =>
          rw [List.flatMap_nil, List.nil_append, List.nil_append, List.cons.injEq] at same
          exact ⟨rfl, same.2⟩
      | cons rune rest =>
          rw [List.flatMap_cons, List.append_assoc] at same
          exact absurd same.symm (jsonRune_ne_quote _ _ _)
  | cons first rest ih =>
      cases right with
      | nil =>
          rw [List.flatMap_cons, List.append_assoc] at same
          exact absurd same (jsonRune_ne_quote _ _ _)
      | cons other others =>
          rw [List.flatMap_cons, List.flatMap_cons, List.append_assoc, List.append_assoc] at same
          have reading := readJsonRune_jsonRune first (rest.flatMap jsonRune ++ doubleQuote :: leftRest)
          rw [same, readJsonRune_jsonRune, Option.some.injEq, Prod.mk.injEq] at reading
          obtain ⟨restSame, tails⟩ := ih reading.2.symm
          exact ⟨by rw [reading.1, restSame], tails⟩

theorem jsonString_readsBack : ReadsBack (fun text => (jsonString text).toList) fun _ => True := by
  intro left right leftRest rightRest _ _ same
  simp only [jsonString, String.toList_ofList, List.cons_append, List.cons.injEq, true_and, List.append_assoc,
    List.nil_append] at same
  obtain ⟨runes, rests⟩ := jsonRunes_inj same
  exact ⟨String.toList_inj.mp runes, rests⟩

/-! ### Numbers and truth values -/

/-- What a number does not run into. -/
def NoDigit (rest : List Char) : Prop :=
  ∀ rune ∈ rest.head?, rune.isDigit = false

private theorem natDigits_readsBack : ReadsBack (Nat.toDigits 10) NoDigit := by
  have digitsOf : ∀ (value : Nat) (rest : List Char), NoDigit rest →
      (Nat.toDigits 10 value ++ rest).takeWhile Char.isDigit = Nat.toDigits 10 value := by
    intro value rest ends
    rw [List.takeWhile_append_of_pos fun rune member => Nat.isDigit_of_mem_toDigits (by decide) (by decide) member]
    cases rest with
    | nil => simp
    | cons rune rest => simp [ends rune rfl]
  intro left right leftRest rightRest leftEnds rightEnds same
  have digits := congrArg (List.takeWhile Char.isDigit) same
  rw [digitsOf left leftRest leftEnds, digitsOf right rightRest rightEnds] at digits
  have values := congrArg (Nat.ofDigitChars 10 · 0) digits
  have equal : left = right := by simpa [Nat.ofDigitChars_toDigits] using values
  subst equal
  exact ⟨rfl, List.append_cancel_left same⟩

private theorem toDigits_ne_minus (value : Nat) (rest tail : List Char) :
    Nat.toDigits 10 value ++ rest ≠ '-' :: tail := by
  intro same
  cases digits : Nat.toDigits 10 value with
  | nil => exact Nat.toDigits_ne_nil digits
  | cons first others =>
      have digit : first.isDigit = true :=
        Nat.isDigit_of_mem_toDigits (by decide) (by decide) (digits ▸ List.mem_cons_self)
      rw [digits, List.cons_append, List.cons.injEq] at same
      rw [same.1] at digit
      exact absurd digit (by decide)

theorem itoa_readsBack : ReadsBack (fun value : Int => (itoa value).toList) NoDigit := by
  intro left right leftRest rightRest leftEnds rightEnds same
  cases left with
  | ofNat left =>
      cases right with
      | ofNat right =>
          simp only [Int.ofNat_eq_natCast, toList_itoa] at same
          obtain ⟨equal, rests⟩ := natDigits_readsBack left right _ _ leftEnds rightEnds same
          exact ⟨by rw [equal], rests⟩
      | negSucc right =>
          simp only [Int.ofNat_eq_natCast, toList_itoa, toList_itoa_negSucc] at same
          exact absurd same (toDigits_ne_minus _ _ _)
  | negSucc left =>
      cases right with
      | ofNat right =>
          simp only [Int.ofNat_eq_natCast, toList_itoa, toList_itoa_negSucc] at same
          exact absurd same.symm (toDigits_ne_minus _ _ _)
      | negSucc right =>
          simp only [toList_itoa_negSucc, List.cons_append, List.cons.injEq, true_and] at same
          obtain ⟨equal, rests⟩ := natDigits_readsBack _ _ _ _ leftEnds rightEnds same
          exact ⟨by rw [Nat.succ.inj equal], rests⟩

def jsonBool (value : Bool) : List Char :=
  if value then ['t', 'r', 'u', 'e'] else ['f', 'a', 'l', 's', 'e']

theorem jsonBool_readsBack : ReadsBack jsonBool fun _ => True := by
  intro left right leftRest rightRest _ _ same
  cases left <;> cases right <;> simp_all [jsonBool]

/-! ### Objects and lists -/

/-- The fields of an object behind its opening brace. -/
def jsonFields : List (String × List Char) → List Char
  | [] => ['\x7d']
  | [(key, value)] => (jsonString key).toList ++ ':' :: (value ++ ['\x7d'])
  | (key, value) :: rest => (jsonString key).toList ++ ':' :: (value ++ ',' :: jsonFields rest)

/-- The first of several fields can be read back, and then the others. -/
theorem jsonFields_first {α : Type} {write : α → List Char} {follows : List Char → Prop} (reads : ReadsBack write follows)
    (comma : ∀ rest, follows (',' :: rest)) {key : String} {left right : α} {next other : String × List Char}
    {leftFields rightFields : List (String × List Char)} {leftRest rightRest : List Char}
    (same : jsonFields ((key, write left) :: next :: leftFields) ++ leftRest =
      jsonFields ((key, write right) :: other :: rightFields) ++ rightRest) :
    left = right ∧ jsonFields (next :: leftFields) ++ leftRest = jsonFields (other :: rightFields) ++ rightRest := by
  simp only [jsonFields, List.append_assoc, List.cons_append] at same
  have inner := (List.cons.inj (List.append_cancel_left same)).2
  obtain ⟨equal, rests⟩ := reads left right _ _ (comma _) (comma _) inner
  exact ⟨equal, (List.cons.inj rests).2⟩

theorem jsonFields_last {α : Type} {write : α → List Char} {follows : List Char → Prop} (reads : ReadsBack write follows)
    (brace : ∀ rest, follows ('\x7d' :: rest)) {key : String} {left right : α} {leftRest rightRest : List Char}
    (same : jsonFields [(key, write left)] ++ leftRest = jsonFields [(key, write right)] ++ rightRest) :
    left = right ∧ leftRest = rightRest := by
  simp only [jsonFields, List.append_assoc, List.cons_append, List.nil_append] at same
  have inner := (List.cons.inj (List.append_cancel_left same)).2
  obtain ⟨equal, rests⟩ := reads left right _ _ (brace _) (brace _) inner
  exact ⟨equal, (List.cons.inj rests).2⟩

/-- The items of a slice behind its first one, as `json.Marshal` writes them. -/
def jsonMore {α : Type} (write : α → List Char) : List α → List Char
  | [] => [']']
  | item :: rest => ',' :: (write item ++ jsonMore write rest)

/-- `json.Marshal` of a slice. -/
def jsonSlice {α : Type} (write : α → List Char) : List α → List Char
  | [] => ['[', ']']
  | item :: rest => '[' :: (write item ++ jsonMore write rest)

section

variable {α : Type} {write : α → List Char} (reads : ReadsBack write fun _ => True)

include reads

theorem jsonMore_readsBack : ReadsBack (jsonMore write) fun _ => True := by
  intro left
  induction left with
  | nil =>
      intro right leftRest rightRest _ _ same
      cases right with
      | nil => exact ⟨rfl, (List.cons.inj same).2⟩
      | cons other others => cases (List.cons.inj same).1
  | cons item rest ih =>
      intro right leftRest rightRest _ _ same
      cases right with
      | nil => cases (List.cons.inj same).1
      | cons other others =>
          have inner := (List.cons.inj same).2
          rw [List.append_eq, List.append_eq, List.append_assoc, List.append_assoc] at inner
          obtain ⟨rfl, later⟩ := reads item other _ _ trivial trivial inner
          obtain ⟨rfl, rests⟩ := ih others leftRest rightRest trivial trivial later
          exact ⟨rfl, rests⟩

theorem jsonSlice_readsBack (opens : ∀ item rest tail, write item ++ rest ≠ ']' :: tail) :
    ReadsBack (jsonSlice write) fun _ => True := by
  intro left right leftRest rightRest _ _ same
  cases left with
  | nil =>
      cases right with
      | nil => exact ⟨rfl, List.append_cancel_left same⟩
      | cons other others =>
          have inner := (List.cons.inj same).2
          rw [List.append_eq, List.append_eq, List.append_assoc] at inner
          exact absurd inner.symm (opens _ _ _)
  | cons item rest =>
      cases right with
      | nil =>
          have inner := (List.cons.inj same).2
          rw [List.append_eq, List.append_eq, List.append_assoc] at inner
          exact absurd inner (opens _ _ _)
      | cons other others =>
          have inner := (List.cons.inj same).2
          rw [List.append_eq, List.append_eq, List.append_assoc, List.append_assoc] at inner
          obtain ⟨rfl, later⟩ := reads item other _ _ trivial trivial inner
          obtain ⟨rfl, rests⟩ := jsonMore_readsBack reads rest others _ _ trivial trivial later
          exact ⟨rfl, rests⟩

end

end MiGate.Go
