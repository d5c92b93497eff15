import MiGate.Web.RateLimit

namespace MiGate.Web

open Go

/-! What the limiter's operations do to the entry of one key. -/

theorem sub_lt_iff {later earlier duration : Int} (positive : 0 < duration) (fits : duration < 2 ^ 63) :
    sub later earlier < duration ↔ later < earlier + duration := by
  unfold sub
  omega

variable {limits : LoginLimits} {now later : Int} {key : String} {keys : List String} {entries : LoginLimitEntries}

namespace LoginLimits

variable (limits) in
/-- Whether an entry has reached the failure limit. -/
def full (entry : LoginLimitEntry) : Bool :=
  limits.failureLimit ≤ entry.failures

variable (limits) in
def blocks (now : Int) (entry : Option LoginLimitEntry) : Bool :=
  entry.any fun entry => limits.full entry && now < entry.blockedAt + limits.cooldown

variable (limits) in
/-- What is left of an entry once a block that is over has been dropped. -/
def live (now : Int) : Option LoginLimitEntry → Option LoginLimitEntry
  | none => none
  | some entry => if limits.full entry ∧ entry.blockedAt + limits.cooldown ≤ now then none else some entry

@[simp] theorem full_zero : limits.full .zero = false := by
  have positive := limits.failureLimit_pos
  exact decide_eq_false (by simpa [LoginLimitEntry.zero] using positive)

@[simp] theorem live_none : limits.live now none = none := rfl

@[simp] theorem blocks_none : limits.blocks now none = false := rfl

theorem live_live (ordered : now ≤ later) (entry : Option LoginLimitEntry) :
    limits.live later (limits.live now entry) = limits.live later entry := by
  cases entry with
  | none => rfl
  | some entry =>
      by_cases ended : limits.full entry ∧ entry.blockedAt + limits.cooldown ≤ now
      · have stillOver : limits.full entry ∧ entry.blockedAt + limits.cooldown ≤ later :=
          ⟨ended.1, Int.le_trans ended.2 ordered⟩
        simp [live, ended, stillOver]
      · simp [live, ended]

theorem blocks_live (entry : Option LoginLimitEntry) :
    limits.blocks now (limits.live now entry) = limits.blocks now entry := by
  cases entry with
  | none => rfl
  | some entry =>
      by_cases ended : limits.full entry ∧ entry.blockedAt + limits.cooldown ≤ now
      · simp [live, blocks, ended]
      · simp [live, ended]

/-- An entry that is not blocked is below the limit once expired blocks are dropped. -/
theorem full_live {entry : Option LoginLimitEntry} (free : limits.blocks now entry = false) :
    limits.full ((limits.live now entry).getD .zero) = false := by
  cases entry with
  | none => exact full_zero
  | some entry =>
      cases reached : limits.full entry with
      | false => simp [live, reached]
      | true =>
          have ended : entry.blockedAt + limits.cooldown ≤ now := by
            simpa [blocks, reached] using free
          simp [live, reached, ended]

/-- The two tests `allow` makes of a key. -/
theorem allow_cons (now : Int) (key : String) (keys : List String) (entries : LoginLimitEntries) :
    limits.allow now (key :: keys) entries =
      if limits.blocks now (entries key) then (false, entries)
      else limits.allow now keys (Function.update entries key (limits.live now (entries key))) := by
  have running : ∀ entry : LoginLimitEntry, sub now entry.blockedAt < limits.cooldown ↔
      now < entry.blockedAt + limits.cooldown :=
    fun entry => sub_lt_iff limits.cooldown_pos limits.cooldown_lt
  have elapsed : ∀ entry : LoginLimitEntry, limits.cooldown ≤ sub now entry.blockedAt ↔
      entry.blockedAt + limits.cooldown ≤ now := by
    intro entry
    rw [← Int.not_lt, running, Int.not_lt]
  simp only [allow]
  cases stored : entries key with
  | none =>
      have unlimited : ¬limits.failureLimit ≤ LoginLimitEntry.zero.failures := of_decide_eq_false full_zero
      have same : Function.update entries key none = entries := by
        rw [← stored]
        exact Function.update_eq_self key entries
      simp [unlimited, same]
  | some entry =>
      have same : Function.update entries key (some entry) = entries := by
        rw [← stored]
        exact Function.update_eq_self key entries
      simp only [Option.getD_some, running, elapsed, blocks, Option.any_some, live, full, Bool.and_eq_true,
        decide_eq_true_eq]
      by_cases reached : limits.failureLimit ≤ entry.failures
      · by_cases ended : entry.blockedAt + limits.cooldown ≤ now
        · simp [reached, ended, Int.not_lt.mpr ended]
        · simp [reached, Int.not_le.mp ended]
      · simp [reached, same]

theorem allow_fst (keys : List String) (entries : LoginLimitEntries) :
    (limits.allow now keys entries).1 = keys.all fun key => !limits.blocks now (entries key) := by
  induction keys generalizing entries with
  | nil => rfl
  | cons key keys ih =>
      rw [allow_cons]
      cases blocked : limits.blocks now (entries key) with
      | true => simp [blocked]
      | false =>
          have free : ∀ other, limits.blocks now (Function.update entries key (limits.live now (entries key)) other) =
              limits.blocks now (entries other) := by
            intro other
            by_cases same : other = key
            · rw [same, Function.update_self, blocks_live]
            · rw [Function.update_of_ne same]
          simp [blocked, ih, free]

/-- `allow` changes entries only by dropping blocks that are over. -/
theorem live_allow (keys : List String) (entries : LoginLimitEntries) (key : String) :
    limits.live now ((limits.allow now keys entries).2 key) = limits.live now (entries key) := by
  induction keys generalizing entries with
  | nil => rfl
  | cons first keys ih =>
      rw [allow_cons]
      split
      · rfl
      · rw [ih]
        by_cases same : key = first
        · rw [same, Function.update_self, live_live (Int.le_refl now)]
        · rw [Function.update_of_ne same]

theorem allow_of_notMem (absent : key ∉ keys) (entries : LoginLimitEntries) :
    (limits.allow now keys entries).2 key = entries key := by
  induction keys generalizing entries with
  | nil => rfl
  | cons first keys ih =>
      rw [List.mem_cons, not_or] at absent
      rw [allow_cons]
      split
      · rfl
      · rw [ih absent.2, Function.update_of_ne absent.1]

theorem eq_of_live_eq_some {entry : Option LoginLimitEntry} {kept : LoginLimitEntry}
    (live : limits.live now entry = some kept) : entry = some kept := by
  cases entry with
  | none => cases live
  | some entry =>
      rw [LoginLimits.live] at live
      split at live
      · cases live
      · exact live

/-- `allow` adds and changes nothing. -/
theorem eq_of_allow_eq_some {kept : LoginLimitEntry} (after : (limits.allow now keys entries).2 key = some kept) :
    entries key = some kept := by
  induction keys generalizing entries with
  | nil => exact after
  | cons first keys ih =>
      rw [allow_cons] at after
      split at after
      · exact after
      · have before := ih after
        by_cases same : key = first
        · subst same
          rw [Function.update_self] at before
          exact eq_of_live_eq_some before
        · rwa [Function.update_of_ne same] at before

/-- A request that is let pass has dropped the expired blocks of all its keys. -/
theorem allow_of_mem (allowed : (limits.allow now keys entries).1 = true) (member : key ∈ keys) :
    (limits.allow now keys entries).2 key = limits.live now (entries key) := by
  induction keys generalizing entries with
  | nil => cases member
  | cons first keys ih =>
      rw [allow_cons] at allowed ⊢
      split at allowed
      · cases allowed
      · rename_i free
        rw [if_neg free]
        by_cases later : key ∈ keys
        · rw [ih allowed later]
          by_cases same : key = first
          · rw [same, Function.update_self, live_live (Int.le_refl now)]
          · rw [Function.update_of_ne same]
        · have same : key = first := by
            rcases List.mem_cons.mp member with same | rest
            · exact same
            · exact absurd rest later
          rw [allow_of_notMem later, same, Function.update_self]

variable (limits) in
/-- An entry after a number of failures recorded at once. -/
def failed (now : Int) (count : Nat) (entry : LoginLimitEntry) : LoginLimitEntry where
  failures := entry.failures + count
  blockedAt := if 0 < count ∧ limits.failureLimit ≤ entry.failures + count then now else entry.blockedAt

theorem failed_fail (now : Int) (count : Nat) (entry : LoginLimitEntry) :
    limits.failed now count (limits.fail now entry) = limits.failed now (count + 1) entry := by
  have sum : entry.failures + 1 + (count : Int) = entry.failures + ((count + 1 : Nat) : Int) := by
    rw [Int.natCast_add]
    omega
  simp only [failed, fail, sum, LoginLimitEntry.mk.injEq, true_and]
  split <;> split <;> try split
  all_goals omega

theorem recordFailure_of_notMem (absent : key ∉ keys) (entries : LoginLimitEntries) :
    (limits.recordFailure now keys entries).2 key = entries key := by
  induction keys generalizing entries with
  | nil => rfl
  | cons first keys ih =>
      rw [List.mem_cons, not_or] at absent
      rw [recordFailure]
      exact (ih absent.2 _).trans (Function.update_of_ne absent.1 _ _)

theorem recordFailure_of_mem (member : key ∈ keys) (entries : LoginLimitEntries) :
    (limits.recordFailure now keys entries).2 key =
      some (limits.failed now (keys.count key) ((entries key).getD .zero)) := by
  induction keys generalizing entries with
  | nil => cases member
  | cons first keys ih =>
      rw [recordFailure]
      simp only
      by_cases same : first = key
      · subst same
        rw [List.count_cons_self, ← failed_fail]
        by_cases again : first ∈ keys
        · rw [ih again, Function.update_self, Option.getD_some]
        · rw [recordFailure_of_notMem again, Function.update_self, List.count_eq_zero_of_not_mem again]
          simp [failed]
      · have later : key ∈ keys := (List.mem_cons.mp member).resolve_left (Ne.symm same)
        rw [ih later, Function.update_of_ne (Ne.symm same), List.count_cons_of_ne same]

end LoginLimits

theorem resetEntries_eq (keys : List String) (entries : LoginLimitEntries) (key : String) :
    resetEntries keys entries key = if key ∈ keys then none else entries key := by
  induction keys generalizing entries with
  | nil => rfl
  | cons first keys ih =>
      rw [resetEntries, ih]
      by_cases same : key = first
      · simp [same]
      · simp [same]

end MiGate.Web
