import MiGate.Go.Strings
import Mathlib.Data.List.Infix

namespace MiGate.Go

/-! `strings.Split` at a separator of several runes. -/

variable {α : Type} {separator before after text : List α}

/-- No occurrence of the separator starts in the part or the first occurrence is the one after it. -/
def EndsAt (separator before : List α) : Prop :=
  ¬separator <:+: before ++ separator.dropLast

theorem EndsAt.tail {item : α} (ends : EndsAt separator (item :: before)) : EndsAt separator before :=
  fun inside => ends (List.infix_cons inside)

theorem EndsAt.not_prefix {item : α} (given : separator ≠ []) (ends : EndsAt separator (item :: before)) :
    ¬separator <+: item :: (before ++ (separator ++ after)) := by
  intro leads
  have split : item :: (before ++ (separator ++ after)) =
      (item :: before ++ separator.dropLast) ++ (separator.getLast given :: after) := by
    conv =>
      lhs
      rw [← List.dropLast_append_getLast given]
    simp
  have long : separator.length ≤ (item :: before ++ separator.dropLast).length := by
    rw [List.length_append, List.length_cons, List.length_dropLast]
    omega
  rw [split] at leads
  exact ends (List.prefix_of_prefix_length_le leads (List.prefix_append _ _) long).isInfix

variable [DecidableEq α]

/-- Puts an item before the first of the parts. -/
def prependPart (item : α) : List (List α) → List (List α)
  | first :: others => (item :: first) :: others
  | [] => [[item]]

/-- The parts of a list between the occurrences of a separator, from the left; the items to skip
are the rest of an occurrence. -/
def splitParts (separator : List α) : Nat → List α → List (List α)
  | _, [] => [[]]
  | skip + 1, _ :: rest => splitParts separator skip rest
  | 0, item :: rest =>
      if separator.isPrefixOf (item :: rest) then [] :: splitParts separator (separator.length - 1) rest
      else prependPart item (splitParts separator 0 rest)

/-- `strings.Split`. -/
def splitText (text separator : String) : List String :=
  (splitParts separator.toList 0 text.toList).map String.ofList

theorem splitParts_skip (skip : Nat) (text : List α) :
    splitParts separator skip text = splitParts separator 0 (text.drop skip) := by
  induction text generalizing skip with
  | nil => cases skip <;> rfl
  | cons item rest ih =>
      cases skip with
      | zero => rfl
      | succ skip => exact ih skip

theorem splitParts_separator (given : separator ≠ []) :
    splitParts separator 0 (separator ++ after) = [] :: splitParts separator 0 after := by
  cases laid : separator with
  | nil => exact absurd laid given
  | cons item rest =>
      have leads : (item :: rest).isPrefixOf (item :: (rest ++ after)) = true := by
        rw [List.isPrefixOf_iff_prefix, ← List.cons_append]
        exact List.prefix_append _ _
      rw [List.cons_append, splitParts, if_pos leads, splitParts_skip, List.length_cons, Nat.add_sub_cancel,
        List.drop_left]

theorem splitParts_before (given : separator ≠ []) (ends : EndsAt separator before) :
    splitParts separator 0 (before ++ (separator ++ after)) = before :: splitParts separator 0 after := by
  induction before with
  | nil => exact splitParts_separator given
  | cons item rest ih =>
      have notHere : ¬separator.isPrefixOf (item :: (rest ++ (separator ++ after))) = true := by
        rw [List.isPrefixOf_iff_prefix]
        exact ends.not_prefix given
      rw [List.cons_append, splitParts, if_neg notHere, ih ends.tail, prependPart]

theorem splitParts_absent (absent : ¬separator <:+: text) : splitParts separator 0 text = [text] := by
  induction text with
  | nil => rfl
  | cons item rest ih =>
      have notHere : ¬separator.isPrefixOf (item :: rest) = true := by
        rw [List.isPrefixOf_iff_prefix]
        exact fun leads => absent leads.isInfix
      rw [splitParts, if_neg notHere, ih fun inside => absent (List.infix_cons inside), prependPart]

/-- Of the occurrences of a separator, one is the first. -/
theorem exists_first (given : separator ≠ []) (present : separator <:+: text) :
    ∃ before after, text = before ++ (separator ++ after) ∧ EndsAt separator before := by
  induction text with
  | nil => exact absurd (List.eq_nil_of_infix_nil present) given
  | cons item rest ih =>
      by_cases leads : separator <+: item :: rest
      · obtain ⟨after, whole⟩ := leads
        refine ⟨[], after, whole.symm, fun inside => ?_⟩
        have shorter := inside.length_le
        have positive := List.length_pos_of_ne_nil given
        rw [List.nil_append, List.length_dropLast] at shorter
        omega
      · obtain ⟨before, after, whole, ends⟩ := ih ((List.infix_cons_iff.mp present).resolve_left leads)
        refine ⟨item :: before, after, by rw [whole, List.cons_append], fun inside => ?_⟩
        rw [List.cons_append] at inside
        cases List.infix_cons_iff.mp inside with
        | inr later => exact ends later
        | inl here =>
            apply leads
            rw [whole]
            have start : item :: (before ++ separator.dropLast) <+: item :: (before ++ (separator ++ after)) := by
              rw [List.cons_prefix_cons, List.prefix_append_right_inj]
              exact ⟨rfl, (List.dropLast_prefix separator).trans (List.prefix_append _ _)⟩
            exact here.trans start

/-- The last part. -/
theorem splitParts_eq_singleton (given : separator ≠ []) {part : List α} :
    splitParts separator 0 text = [part] ↔ text = part ∧ ¬separator <:+: part := by
  constructor
  · intro alone
    by_cases present : separator <:+: text
    · obtain ⟨before, after, whole, ends⟩ := exists_first given present
      rw [whole, splitParts_before given ends, List.cons.injEq] at alone
      have some : splitParts separator 0 after ≠ [] := by
        by_cases more : separator <:+: after
        · obtain ⟨_, _, whole, ends⟩ := exists_first given more
          rw [whole, splitParts_before given ends]
          exact List.cons_ne_nil _ _
        · rw [splitParts_absent more]
          exact List.cons_ne_nil _ _
      exact absurd alone.2 some
    · rw [splitParts_absent present, List.cons.injEq, and_iff_left rfl] at alone
      exact ⟨alone, alone ▸ present⟩
  · intro described
    rw [described.1, splitParts_absent described.2]

/-- A part that others follow. -/
theorem splitParts_eq_cons (given : separator ≠ []) {part next : List α} {others : List (List α)} :
    splitParts separator 0 text = part :: next :: others ↔
      ∃ after, text = part ++ (separator ++ after) ∧ EndsAt separator part ∧
        splitParts separator 0 after = next :: others := by
  constructor
  · intro parted
    by_cases present : separator <:+: text
    · obtain ⟨before, after, whole, ends⟩ := exists_first given present
      rw [whole, splitParts_before given ends, List.cons.injEq] at parted
      exact ⟨after, parted.1 ▸ whole, parted.1 ▸ ends, parted.2⟩
    · rw [splitParts_absent present] at parted
      cases parted
  · intro described
    obtain ⟨after, whole, ends, rest⟩ := described
    rw [whole, splitParts_before given ends, rest]

/-- Four parts are those of a text in which the separators are the only ones. -/
theorem splitText_eq_four {text separator first second third fourth : String} (given : separator.toList ≠ []) :
    splitText text separator = [first, second, third, fourth] ↔
      text = first ++ separator ++ second ++ separator ++ third ++ separator ++ fourth ∧
        EndsAt separator.toList first.toList ∧ EndsAt separator.toList second.toList ∧
        EndsAt separator.toList third.toList ∧ ¬separator.toList <:+: fourth.toList := by
  have lists : splitText text separator = [first, second, third, fourth] ↔
      splitParts separator.toList 0 text.toList = [first.toList, second.toList, third.toList, fourth.toList] := by
    have back : ∀ parts : List String, (parts.map String.toList).map String.ofList = parts := by
      intro parts
      rw [List.map_map]
      exact List.map_id'' (fun part => String.ofList_toList) parts
    have forth : ∀ parts : List (List Char), (parts.map String.ofList).map String.toList = parts := by
      intro parts
      rw [List.map_map]
      exact List.map_id'' (fun part => String.toList_ofList) parts
    constructor
    · intro same
      have mapped := congrArg (List.map String.toList) same
      rw [splitText, forth] at mapped
      exact mapped
    · intro same
      rw [splitText, same]
      exact back [first, second, third, fourth]
  rw [lists, splitParts_eq_cons given]
  simp only [splitParts_eq_cons given, splitParts_eq_singleton given]
  constructor
  · intro described
    obtain ⟨_, whole, one, _, rfl, two, _, rfl, three, rfl, four⟩ := described
    refine ⟨?_, one, two, three, four⟩
    rw [← String.toList_inj, whole]
    simp only [String.toList_append, List.append_assoc]
  · intro described
    obtain ⟨whole, one, two, three, four⟩ := described
    refine ⟨_, ?_, one, _, rfl, two, _, rfl, three, rfl, four⟩
    rw [whole]
    simp only [String.toList_append, List.append_assoc]

omit [DecidableEq α] in
/-- What stands before a mark can be told from what follows, if the mark is not in it. -/
theorem marked_inj {mark : α} {left right rest rest' : List α} (free : mark ∉ left) (free' : mark ∉ right) :
    left ++ mark :: rest = right ++ mark :: rest' ↔ left = right ∧ rest = rest' := by
  constructor
  · intro same
    induction left generalizing right with
    | nil =>
        cases right with
        | nil => exact ⟨rfl, (List.cons.inj same).2⟩
        | cons item others =>
            have first : mark = item := (List.cons.inj same).1
            exact absurd (first ▸ List.mem_cons_self) free'
    | cons item others ih =>
        cases right with
        | nil =>
            have first : item = mark := (List.cons.inj same).1
            exact absurd (first ▸ List.mem_cons_self) free
        | cons other more =>
            obtain ⟨first, later⟩ := List.cons.inj same
            obtain ⟨equal, after⟩ := ih (fun inside => free (List.mem_cons_of_mem _ inside))
              (fun inside => free' (List.mem_cons_of_mem _ inside)) later
            exact ⟨by rw [first, equal], after⟩
  · intro parts
    rw [parts.1, parts.2]

theorem barred_inj {left right rest rest' : String} (free : '|' ∉ left.toList) (free' : '|' ∉ right.toList) :
    left ++ "|" ++ rest = right ++ "|" ++ rest' ↔ left = right ∧ rest = rest' := by
  have parts := @marked_inj Char '|' left.toList right.toList rest.toList rest'.toList free free'
  rw [← String.toList_inj, String.toList_append, String.toList_append, String.toList_append, String.toList_append,
    List.append_assoc, List.append_assoc]
  refine parts.trans ?_
  rw [String.toList_inj, String.toList_inj]

end MiGate.Go
