import MiGate.Login.Stored

namespace MiGate.Web

open Db Go Relational

/-! Failures recorded before a key was reset do not come back. -/

variable {limits : LoginLimits} {now : Int} {key : String} {keys : List String} {fails : String → Bool}
  {limiter : PersistentLoginLimiter} {bound : Nat}

/-- Neither the memory nor the store counts more than a number of failures for a key. -/
structure AtMost (key : String) (bound : Nat) (limiter : PersistentLoginLimiter) : Prop where
  memory : ∀ entry, limiter.memory key = some entry → entry.failures ≤ bound
  stored : ∀ row, limiter.store.find? key = some row → row.failures ≤ bound

namespace AtMost

theorem mono {more : Nat} (atMost : AtMost key bound limiter) (le : bound ≤ more) : AtMost key more limiter where
  memory := fun entry found => Int.le_trans (atMost.memory entry found) (Int.ofNat_le.mpr le)
  stored := fun row found => Int.le_trans (atMost.stored row found) (Int.ofNat_le.mpr le)

theorem getD_failures {entry : Option LoginLimitEntry} (atMost : ∀ found, entry = some found → found.failures ≤ bound) :
    (entry.getD .zero).failures ≤ bound := by
  cases entry with
  | none => exact Int.natCast_nonneg bound
  | some found => exact atMost found rfl

theorem seeded (atMost : AtMost key bound limiter) (now : Int) {entry : LoginLimitEntry}
    (after : limits.seeded now (storedEntry key limiter.store) (limiter.memory key) = some entry) :
    entry.failures ≤ bound := by
  unfold storedEntry at after
  cases found : limiter.store.find? key with
  | none =>
      rw [found] at after
      exact atMost.memory entry after
  | some row =>
      rw [found] at after
      simp only [LoginLimits.seeded, Option.map_some] at after
      split at after
      · exact atMost.memory entry after
      · cases after
        exact Int.max_le.mpr ⟨getD_failures atMost.memory, atMost.stored row found⟩

theorem loadKey (atMost : AtMost key bound limiter) (now : Int) (fails : Bool) (other : String) :
    AtMost key bound (limits.loadKey now fails other limiter) := by
  rcases LoginLimits.loadKey_cases now fails other limiter with ⟨skipped, -⟩ | ⟨-, -, read⟩
  · rw [skipped]
    exact atMost
  · rw [read]
    refine ⟨fun entry after => ?_, atMost.stored⟩
    dsimp only at after
    by_cases same : key = other
    · subst same
      rw [Function.update_self] at after
      exact atMost.seeded now after
    · rw [Function.update_of_ne same] at after
      exact atMost.memory entry after

theorem load (atMost : AtMost key bound limiter) : AtMost key bound (limits.load now fails keys limiter) :=
  LoginLimits.load_preserves (fun other _ _ holds => holds.loadKey now (fails other) other) atMost

theorem persistKey (atMost : AtMost key bound limiter) (now : Int) (fails : Bool) (other : String) :
    AtMost key bound (persistKey now fails other limiter) := by
  rcases persistKey_cases now fails other limiter with ⟨skipped, -⟩ | ⟨-, -, deleted⟩ | ⟨entry, present, -, -, saved⟩
  · rw [skipped]
    exact atMost
  · rw [deleted]
    refine ⟨atMost.memory, fun row found => ?_⟩
    rw [find?_deleteLoginRateLimit] at found
    split at found
    · cases found
    · exact atMost.stored row found
  · rw [saved]
    refine ⟨atMost.memory, fun row found => ?_⟩
    rw [find?_saveLoginRateLimit] at found
    split at found
    · rename_i same
      cases found
      exact atMost.memory entry (same ▸ present)
    · exact atMost.stored row found

theorem persist (atMost : AtMost key bound limiter) : AtMost key bound (persist now fails keys limiter) :=
  persist_preserves (fun other _ _ holds => holds.persistKey now (fails other) other) atMost

theorem maybePrune (atMost : AtMost key bound limiter) (now : Int) (fails : Bool) :
    AtMost key bound (limits.maybePrune now fails limiter) := by
  obtain ⟨memory, ⟨store, -⟩ | ⟨store, -⟩⟩ := LoginLimits.maybePrune_cases limits now fails limiter
  · exact ⟨memory ▸ atMost.memory, store ▸ atMost.stored⟩
  · refine ⟨memory ▸ atMost.memory, fun row found => ?_⟩
    rw [store, pruneLoginRateLimits, Table.find?_deleteWhere] at found
    exact atMost.stored row (Option.eq_some_of_filter_eq_some found)

end AtMost

/-- The failures a call records for a key. -/
def LoginCall.failuresFor (key : String) : LoginCall → Nat
  | .recordFailure keys .. => keys.count key
  | _ => 0

theorem AtMost.call (atMost : AtMost key bound limiter) (made : LoginCall) :
    AtMost key (bound + made.failuresFor key) (limiter.call limits made) := by
  cases made with
  | allow keys prunedAt loadedAt allowedAt faults =>
      have loaded : AtMost key bound
          (limits.load loadedAt faults.read keys (limits.maybePrune prunedAt faults.prune limiter)) :=
        (atMost.maybePrune prunedAt faults.prune).load
      exact ⟨fun entry after => loaded.memory entry (LoginLimits.eq_of_allow_eq_some after), loaded.stored⟩
  | recordFailure keys loadedAt recordedAt persistedAt faults =>
      have loaded : AtMost key bound (limits.load loadedAt faults.read keys limiter) := atMost.load
      refine AtMost.persist ⟨fun entry after => ?_, (loaded.mono (Nat.le_add_right _ _)).stored⟩
      dsimp only at after
      by_cases member : key ∈ keys
      · rw [LoginLimits.recordFailure_of_mem member] at after
        cases after
        have before := getD_failures loaded.memory
        simp only [LoginLimits.failed, LoginCall.failuresFor, Int.natCast_add]
        omega
      · rw [LoginLimits.recordFailure_of_notMem member] at after
        exact (loaded.mono (Nat.le_add_right _ _)).memory entry after
  | reset keys persistedAt faults =>
      refine AtMost.persist ⟨fun entry after => ?_, atMost.stored⟩
      dsimp only at after
      rw [resetEntries_eq] at after
      split at after
      · cases after
      · exact atMost.memory entry after
  | restart =>
      refine ⟨?_, atMost.stored⟩
      intro entry empty
      cases empty

theorem AtMost.calls (atMost : AtMost key bound limiter) (made : List LoginCall) :
    AtMost key (bound + (made.map (LoginCall.failuresFor key)).sum) (limiter.calls limits made) := by
  induction made generalizing limiter bound with
  | nil => exact atMost
  | cons call rest ih =>
      rw [List.map_cons, List.sum_cons, ← Nat.add_assoc]
      exact ih (atMost.call call)

/-- A reset whose delete succeeds leaves nothing of its keys. -/
theorem atMost_reset (member : key ∈ keys) {faults : StoreFaults} (deleted : faults.write key = false)
    (persistedAt : Int) (limiter : PersistentLoginLimiter) :
    AtMost key 0 (limiter.reset keys persistedAt faults) := by
  have forgotten : resetEntries keys limiter.memory key = none := by
    rw [resetEntries_eq, if_pos member]
  have absent : (limiter.reset keys persistedAt faults).store.find? key = none := by
    rw [PersistentLoginLimiter.reset, find?_persist deleted, if_pos member]
    simp only [mirroredRow, forgotten]
  constructor
  · intro entry found
    rw [PersistentLoginLimiter.reset, (persist_memory ..).1] at found
    cases forgotten.symm.trans found
  · intro row found
    cases absent.symm.trans found

end MiGate.Web
