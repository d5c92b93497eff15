import Mathlib.Data.List.Forall2

namespace Fallible

/-! Computations that end in a value or an error: how a chain of them is taken apart, and the
rules by which a loop over a list keeps an invariant. -/

variable {ε α β σ : Type}

/-- Goes on only if a condition holds. -/
def require (condition : Bool) (error : ε) : Except ε Unit :=
  if condition then .ok () else .error error

/-- A check made only under a condition. -/
def onlyIf (condition : Prop) [Decidable condition] (check : Except ε Unit) : Except ε Unit :=
  if condition then check else .ok ()

/-- The value of a lookup, or an error if there is none. -/
def expect (value : Option α) (error : ε) : Except ε α :=
  match value with
  | some found => .ok found
  | none => .error error

@[simp] theorem bind_eq_ok {first : Except ε α} {rest : α → Except ε β} {result : β} :
    (first >>= rest) = .ok result ↔ ∃ value, first = .ok value ∧ rest value = .ok result := by
  cases first with
  | error error => simp [bind, Except.bind]
  | ok value => simp [bind, Except.bind]

theorem ok_bind {value : α} {rest : α → Except ε β} : (Except.ok value >>= rest) = rest value := rfl

@[simp] theorem require_eq_ok {condition : Bool} {error : ε} {done : Unit} :
    require condition error = .ok done ↔ condition = true := by
  cases condition <;> simp [require]

@[simp] theorem onlyIf_eq_ok {condition : Prop} [Decidable condition] {check : Except ε Unit} {done : Unit} :
    onlyIf condition check = .ok done ↔ (condition → check = .ok done) := by
  by_cases held : condition <;> simp [onlyIf, held]

@[simp] theorem expect_eq_ok {value : Option α} {error : ε} {found : α} :
    expect value error = .ok found ↔ value = some found := by
  cases value <;> simp [expect]

@[simp] theorem pure_eq_ok {value result : α} :
    (pure value : Except ε α) = .ok result ↔ value = result := by
  simp [pure, Except.pure]

@[simp] theorem map_eq_ok {first : Except ε α} {f : α → β} {result : β} :
    f <$> first = .ok result ↔ ∃ value, first = .ok value ∧ f value = result := by
  cases first with
  | error error => simp [Functor.map, Except.map]
  | ok value => simp [Functor.map, Except.map]

theorem map_fst_eq_ok {first : Except ε (α × β)} {result : α} :
    Prod.fst <$> first = .ok result ↔ ∃ value, first = .ok (result, value) := by
  simp only [map_eq_ok, Prod.exists, exists_and_right, exists_eq_right]

theorem eq_ok_of_isOk {value : Except ε α} (succeeded : value.isOk = true) : ∃ result, value = .ok result := by
  cases value with
  | error error => cases succeeded
  | ok result => exact ⟨result, rfl⟩

theorem mapM_eq_ok {f : α → Except ε β} {items : List α} {results : List β} :
    items.mapM f = .ok results ↔ List.Forall₂ (fun item result => f item = .ok result) items results := by
  induction items generalizing results with
  | nil => rw [List.mapM_nil, pure_eq_ok, List.forall₂_nil_left_iff, eq_comm]
  | cons item rest ih =>
      simp only [List.mapM_cons, bind_eq_ok, pure_eq_ok, ih, List.forall₂_cons_left_iff]
      constructor
      · rintro ⟨first, done, others, finished, rfl⟩
        exact ⟨first, others, done, finished, rfl⟩
      · rintro ⟨first, others, done, finished, rfl⟩
        exact ⟨first, done, others, finished, rfl⟩

theorem mapM_succeeds {f : α → Except ε β} {items : List α} {results : List β}
    (finished : items.mapM f = .ok results) : ∀ item ∈ items, ∃ result, f item = .ok result := by
  rw [mapM_eq_ok] at finished
  induction finished with
  | nil => exact fun _ member => absurd member List.not_mem_nil
  | cons done _ ih =>
      intro item member
      rcases List.mem_cons.mp member with rfl | later
      · exact ⟨_, done⟩
      · exact ih item later

theorem mapM_isOk {f : α → Except ε β} {items : List α} (succeeds : ∀ item ∈ items, ∃ result, f item = .ok result) :
    ∃ results, items.mapM f = .ok results := by
  induction items with
  | nil => exact ⟨[], rfl⟩
  | cons item rest ih =>
      obtain ⟨first, done⟩ := succeeds item (List.mem_cons_self ..)
      obtain ⟨others, finished⟩ := ih fun later member => succeeds later (List.mem_cons_of_mem _ member)
      refine ⟨first :: others, ?_⟩
      rw [mapM_eq_ok] at finished ⊢
      exact .cons done finished

/-- What a loop that may skip items keeps, each result with its item. -/
def keptOf (f : α → Except ε (Option β)) (items : List α) : List (α × β) :=
  items.filterMap fun item =>
    match f item with
    | .ok (some result) => some (item, result)
    | _ => none

theorem mem_keptOf {f : α → Except ε (Option β)} {items : List α} {item : α} {result : β} :
    (item, result) ∈ keptOf f items ↔ item ∈ items ∧ f item = .ok (some result) := by
  simp only [keptOf, List.mem_filterMap]
  constructor
  · rintro ⟨other, member, same⟩
    split at same
    · rename_i done
      rw [Option.some.injEq, Prod.mk.injEq] at same
      obtain ⟨rfl, rfl⟩ := same
      exact ⟨member, done⟩
    · cases same
  · rintro ⟨member, done⟩
    exact ⟨item, member, by simp only [done]⟩

theorem keptOf_results {f : α → Except ε (Option β)} {items : List α} {results : List (Option β)}
    (finished : items.mapM f = .ok results) : (keptOf f items).map Prod.snd = results.filterMap id := by
  rw [mapM_eq_ok] at finished
  induction finished with
  | nil => rfl
  | @cons item result rest others done _ ih =>
      unfold keptOf at ih ⊢
      cases result with
      | none => simp only [List.filterMap_cons, done, id_eq, ih]
      | some result => simp only [List.filterMap_cons, done, id_eq, List.map_cons, ih]

/-- What one round of a loop preserves, the loop preserves. -/
theorem foldlM_invariant (Inv : σ → Prop) {round : σ → α → Except ε σ} {items : List α}
    {before after : σ} (initial : Inv before)
    (preserved : ∀ item ∈ items, ∀ start next, Inv start → round start item = .ok next → Inv next)
    (finished : items.foldlM round before = .ok after) : Inv after := by
  induction items generalizing before with
  | nil =>
      cases finished
      exact initial
  | cons item rest ih =>
      rw [List.foldlM_cons, bind_eq_ok] at finished
      obtain ⟨next, first, others⟩ := finished
      have kept := preserved item (List.mem_cons_self ..) before next initial first
      exact ih kept (fun later member => preserved later (List.mem_cons_of_mem _ member)) others

/-- A loop none of whose rounds fails does not fail. -/
theorem foldlM_isOk (Inv : σ → Prop) {round : σ → α → Except ε σ} {items : List α} {before : σ}
    (initial : Inv before)
    (succeeds : ∀ item ∈ items, ∀ start, Inv start → ∃ next, round start item = .ok next ∧ Inv next) :
    ∃ after, items.foldlM round before = .ok after ∧ Inv after := by
  induction items generalizing before with
  | nil => exact ⟨before, rfl, initial⟩
  | cons item rest ih =>
      obtain ⟨next, first, kept⟩ := succeeds item (List.mem_cons_self ..) before initial
      obtain ⟨after, others, final⟩ :=
        ih kept fun later member => succeeds later (List.mem_cons_of_mem _ member)
      refine ⟨after, ?_, final⟩
      rw [List.foldlM_cons, bind_eq_ok]
      exact ⟨next, first, others⟩

end Fallible
