import MiGate.Login.Stored

namespace MiGate.Web

open Db Go Relational

/-! A block that was stored outlives restarts. -/

variable {limits : LoginLimits} {now clock : Int} {key : String} {keys : List String} {fails : String → Bool}
  {limiter : PersistentLoginLimiter}

variable (limits) in
/-- A clock reading that can be stored, and pruned by. -/
structure Storable (reading : Int) : Prop where
  positive : zeroInstant < reading
  inYears : InYears reading
  cutoff : InYears (reading - 2 * limits.cooldown)

theorem zeroInstant_inYears : InYears zeroInstant := by decide

theorem inYears_of_le {instant : Int} (lower : zeroInstant ≤ instant) (upper : instant ≤ now) (years : InYears now) :
    InYears instant :=
  ⟨Int.le_trans zeroInstant_inYears.1 lower, Int.lt_of_le_of_lt upper years.2⟩

theorem zeroInstant_le_wholeSecond {instant : Int} (lower : zeroInstant ≤ instant) :
    zeroInstant ≤ wholeSecond instant := by
  unfold zeroInstant wholeSecond second at *
  omega

theorem wholeSecond_mono {left right : Int} (le : left ≤ right) : wholeSecond left ≤ wholeSecond right := by
  unfold wholeSecond second
  omega

theorem pruneAge_eq (short : 2 * limits.cooldown < 2 ^ 63) : limits.pruneAge = -(2 * limits.cooldown) := by
  have positive := limits.cooldown_pos
  have fits : Int.bmod (-2 * limits.cooldown) (2 ^ 64) = -2 * limits.cooldown :=
    Int.bmod_eq_of_le (by omega) (by omega)
  rw [LoginLimits.pruneAge, fits]
  omega

theorem formatLoginRateLimitTime_of_pos {instant : Int} (positive : zeroInstant < instant) :
    formatLoginRateLimitTime instant = rfc3339 instant := by
  have notZero : isZero instant = false := by
    rw [isZero, beq_eq_false_iff_ne]
    omega
  simp [formatLoginRateLimitTime, notZero]

structure ProperEntry (clock : Int) (entry : LoginLimitEntry) : Prop where
  failures : 0 < entry.failures
  lower : zeroInstant ≤ entry.blockedAt
  upper : entry.blockedAt ≤ clock

structure ProperRow (clock : Int) (row : LoginRateLimitRow) : Prop where
  entry : ProperEntry clock (rowEntry row)
  whole : wholeSecond (rowEntry row).blockedAt = (rowEntry row).blockedAt
  updated : ∃ updatedAt, row.updatedAt = rfc3339 updatedAt ∧ InYears updatedAt ∧
    (rowEntry row).blockedAt ≤ updatedAt ∧ updatedAt ≤ clock

/-- What a limiter remembers and stores happened before the clock's time. -/
structure Proper (clock : Int) (limiter : PersistentLoginLimiter) : Prop where
  memory : ∀ key entry, limiter.memory key = some entry → ProperEntry clock entry
  stored : ∀ key row, limiter.store.find? key = some row → ProperRow clock row

theorem ProperEntry.later {later : Int} {entry : LoginLimitEntry} (proper : ProperEntry clock entry)
    (ordered : clock ≤ later) : ProperEntry later entry :=
  { proper with upper := Int.le_trans proper.upper ordered }

theorem ProperRow.later {later : Int} {row : LoginRateLimitRow} (proper : ProperRow clock row)
    (ordered : clock ≤ later) : ProperRow later row where
  entry := proper.entry.later ordered
  whole := proper.whole
  updated := by
    obtain ⟨updatedAt, text, years, blocked, before⟩ := proper.updated
    exact ⟨updatedAt, text, years, blocked, Int.le_trans before ordered⟩

/-- The row an entry is stored as, and what it is read back as. -/
theorem ProperEntry.row {entry : LoginLimitEntry} (proper : ProperEntry now entry) (storable : Storable limits now)
    (key : String) :
    let row : LoginRateLimitRow :=
      ⟨key, entry.failures, formatLoginRateLimitTime entry.blockedAt, formatLoginRateLimitTime now⟩
    rowEntry row = ⟨entry.failures, wholeSecond entry.blockedAt⟩ ∧ ProperRow now row := by
  intro row
  have years : InYears entry.blockedAt := inYears_of_le proper.lower proper.upper storable.inYears
  have back : rowEntry row = ⟨entry.failures, wholeSecond entry.blockedAt⟩ := by
    simp only [rowEntry, row, parse_formatLoginRateLimitTime years]
  have before : wholeSecond entry.blockedAt ≤ now := Int.le_trans (wholeSecond_le _) proper.upper
  refine ⟨back, ⟨?_, by rw [back, wholeSecond_wholeSecond], now, formatLoginRateLimitTime_of_pos storable.positive, storable.inYears, ?_, Int.le_refl now⟩⟩
  · rw [back]
    exact ⟨proper.failures, zeroInstant_le_wholeSecond proper.lower, before⟩
  · rw [back]
    exact before

theorem before_cutoff {updatedAt : Int} (years : InYears updatedAt) (storable : Storable limits now)
    (short : 2 * limits.cooldown < 2 ^ 63) (old : rfc3339 updatedAt < rfc3339 (now + limits.pruneAge)) :
    updatedAt + 2 * limits.cooldown < now := by
  rw [pruneAge_eq short, ← Int.sub_eq_add_neg, rfc3339_lt_iff years storable.cutoff] at old
  unfold second at old
  omega

namespace Proper

theorem fresh (clock : Int) : Proper clock (newPersistentLoginLimiter .empty) where
  memory := nofun
  stored := nofun

theorem later {later : Int} (proper : Proper clock limiter) (ordered : clock ≤ later) : Proper later limiter where
  memory := fun key entry found => (proper.memory key entry found).later ordered
  stored := fun key row found => (proper.stored key row found).later ordered

theorem restart (proper : Proper clock limiter) : Proper clock limiter.restart where
  memory := nofun
  stored := proper.stored

theorem seeded (proper : Proper clock limiter) {entry : LoginLimitEntry}
    (after : limits.seeded now (storedEntry key limiter.store) (limiter.memory key) = some entry) :
    ProperEntry clock entry := by
  unfold storedEntry at after
  cases found : limiter.store.find? key with
  | none =>
      rw [found] at after
      exact proper.memory key entry after
  | some row =>
      have stored := (proper.stored key row found).entry
      rw [found] at after
      simp only [LoginLimits.seeded, Option.map_some] at after
      split at after
      · exact proper.memory key entry after
      · cases after
        cases present : limiter.memory key with
        | none =>
            have zero : (0 : Int) ≤ (rowEntry row).failures := Int.le_of_lt stored.failures
            simpa [LoginLimitEntry.merge, LoginLimitEntry.zero, Int.max_eq_right zero, Int.max_eq_right stored.lower]
              using stored
        | some old =>
            have proper := proper.memory key old present
            refine ⟨?_, Int.le_trans proper.lower (Int.le_max_left _ _), Int.max_le.mpr ⟨proper.upper, stored.upper⟩⟩
            exact Int.lt_of_lt_of_le proper.failures (Int.le_max_left _ _)

theorem load (proper : Proper clock limiter) : Proper clock (limits.load now fails keys limiter) := by
  refine LoginLimits.load_preserves (fun other _ before proper => ?_) proper
  rcases LoginLimits.loadKey_cases now (fails other) other before with ⟨skipped, -⟩ | ⟨-, -, read⟩
  · rw [skipped]
    exact proper
  · rw [read]
    refine ⟨fun key entry after => ?_, proper.stored⟩
    dsimp only at after
    by_cases same : key = other
    · subst same
      rw [Function.update_self] at after
      exact proper.seeded after
    · rw [Function.update_of_ne same] at after
      exact proper.memory key entry after

theorem maybePrune (proper : Proper clock limiter) (now : Int) (fails : Bool) :
    Proper clock (limits.maybePrune now fails limiter) := by
  obtain ⟨memory, ⟨store, -⟩ | ⟨store, -⟩⟩ := LoginLimits.maybePrune_cases limits now fails limiter
  · exact ⟨memory ▸ proper.memory, store ▸ proper.stored⟩
  · refine ⟨memory ▸ proper.memory, fun key row found => ?_⟩
    rw [store, pruneLoginRateLimits, Table.find?_deleteWhere] at found
    exact proper.stored key row (Option.eq_some_of_filter_eq_some found)

theorem persist (proper : Proper now limiter) (storable : Storable limits now) :
    Proper now (persist now fails keys limiter) := by
  refine persist_preserves (fun other _ before proper => ?_) proper
  rcases persistKey_cases now (fails other) other before with ⟨skipped, -⟩ | ⟨-, -, deleted⟩ | ⟨entry, present, -, -, saved⟩
  · rw [skipped]
    exact proper
  · rw [deleted]
    refine ⟨proper.memory, fun key row found => ?_⟩
    rw [find?_deleteLoginRateLimit] at found
    split at found
    · cases found
    · exact proper.stored key row found
  · rw [saved]
    refine ⟨proper.memory, fun key row found => ?_⟩
    rw [find?_saveLoginRateLimit] at found
    split at found
    · cases found
      exact ((proper.memory other entry present).row storable other).2
    · exact proper.stored key row found

theorem failed {entry : LoginLimitEntry} {count : Nat} (counted : 0 < count)
    (proper : entry = .zero ∨ ProperEntry now entry) (positive : zeroInstant < now) :
    ProperEntry now (limits.failed now count entry) := by
  have bounds : 0 ≤ entry.failures ∧ zeroInstant ≤ entry.blockedAt ∧ entry.blockedAt ≤ now := by
    rcases proper with rfl | proper
    · exact ⟨Int.le_refl 0, Int.le_refl _, Int.le_of_lt positive⟩
    · exact ⟨Int.le_of_lt proper.failures, proper.lower, proper.upper⟩
  simp only [LoginLimits.failed]
  constructor
  · dsimp only
    omega
  · dsimp only
    split <;> omega
  · dsimp only
    split <;> omega

theorem recordFailure (proper : Proper now limiter) (positive : zeroInstant < now) :
    Proper now { limiter with memory := (limits.recordFailure now keys limiter.memory).2 } where
  memory := by
    intro key entry after
    dsimp only at after
    by_cases member : key ∈ keys
    · rw [LoginLimits.recordFailure_of_mem member] at after
      cases after
      refine failed (List.count_pos_iff.mpr member) ?_ positive
      cases present : limiter.memory key with
      | none => exact .inl rfl
      | some old => exact .inr (proper.memory key old present)
    · rw [LoginLimits.recordFailure_of_notMem member] at after
      exact proper.memory key entry after
  stored := proper.stored

theorem reset (proper : Proper clock limiter) :
    Proper clock { limiter with memory := resetEntries keys limiter.memory } where
  memory := by
    intro key entry after
    dsimp only at after
    rw [resetEntries_eq] at after
    split at after
    · cases after
    · exact proper.memory key entry after
  stored := proper.stored

end Proper

/-! ### Calls in the order of their readings -/

/-- The last reading of a call. -/
def LoginCall.finish (clock : Int) (call : LoginCall) : Int :=
  call.readings.getLastD clock

variable (limits) in
/-- A call read the clock after a time, and never backwards. -/
structure Timely (clock : Int) (call : LoginCall) : Prop where
  ordered : (clock :: call.readings).Pairwise (· ≤ ·)
  storable : ∀ reading ∈ call.readings, Storable limits reading

theorem Proper.call {call : LoginCall} (proper : Proper clock limiter) (timely : Timely limits clock call) :
    Proper (call.finish clock) (limiter.call limits call) := by
  obtain ⟨ordered, storable⟩ := timely
  cases call with
  | allow keys prunedAt loadedAt allowedAt faults =>
      simp only [LoginCall.readings, List.mem_cons, List.not_mem_nil, or_false] at ordered storable
      have upTo : clock ≤ allowedAt := List.rel_of_pairwise_cons ordered (by simp)
      have loaded : Proper allowedAt
          (limits.load loadedAt faults.read keys (limits.maybePrune prunedAt faults.prune limiter)) :=
        ((proper.maybePrune prunedAt faults.prune).load).later upTo
      exact ⟨fun key entry after => loaded.memory key entry (LoginLimits.eq_of_allow_eq_some after), loaded.stored⟩
  | recordFailure keys loadedAt recordedAt persistedAt faults =>
      simp only [LoginCall.readings, List.mem_cons, List.not_mem_nil, or_false, forall_eq_or_imp, forall_eq,
        List.pairwise_cons] at ordered storable
      have loaded : Proper recordedAt (limits.load loadedAt faults.read keys limiter) :=
        proper.load.later ordered.1.2.1
      exact ((loaded.recordFailure storable.2.1.positive).later (ordered.2.2.1)).persist storable.2.2
  | reset keys persistedAt faults =>
      simp only [LoginCall.readings, List.mem_singleton, forall_eq, List.pairwise_cons] at ordered storable
      exact (proper.later ordered.1).reset.persist storable
  | restart => exact proper.restart

variable (limits) in
/-- Calls made one after the other from a time on, and the time they end at. -/
inductive Made : Int → List LoginCall → Int → Prop where
  | done {clock finish : Int} (ordered : clock ≤ finish) : Made clock [] finish
  | call {clock finish : Int} {call : LoginCall} {calls : List LoginCall} (timely : Timely limits clock call)
      (rest : Made (call.finish clock) calls finish) : Made clock (call :: calls) finish

theorem Proper.calls {calls : List LoginCall} {finish : Int} (proper : Proper clock limiter)
    (made : Made limits clock calls finish) : Proper finish (limiter.calls limits calls) := by
  induction made generalizing limiter with
  | done ordered => exact proper.later ordered
  | call timely rest ih => exact ih (proper.call timely)

/-! ### A stored block -/

/-- The store holds a block from a time on, and so does the memory once it has read it. -/
structure HoldsBlock (limits : LoginLimits) (key : String) (since : Int) (limiter : PersistentLoginLimiter) : Prop where
  stored : ∃ row, limiter.store.find? key = some row ∧ limits.full (rowEntry row) = true ∧
    since ≤ (rowEntry row).blockedAt
  memory : limiter.loaded key = true →
    ∃ entry, limiter.memory key = some entry ∧ limits.full entry = true ∧ since ≤ entry.blockedAt

variable {since : Int}

namespace HoldsBlock

theorem restart (holds : HoldsBlock limits key since limiter) : HoldsBlock limits key since limiter.restart where
  stored := holds.stored
  memory := nofun

theorem seeded (holds : HoldsBlock limits key since limiter) (running : now < since + limits.cooldown) :
    ∃ entry, limits.seeded now (storedEntry key limiter.store) (limiter.memory key) = some entry ∧
      limits.full entry = true ∧ since ≤ entry.blockedAt := by
  obtain ⟨row, found, full, blocked⟩ := holds.stored
  have positive : ¬(rowEntry row).failures ≤ 0 := by
    have limit := limits.failureLimit_pos
    have reached : limits.failureLimit ≤ (rowEntry row).failures := of_decide_eq_true full
    omega
  have still : ¬(rowEntry row).blockedAt + limits.cooldown ≤ now := by omega
  refine ⟨((limiter.memory key).getD .zero).merge (rowEntry row),
    by simp [storedEntry, found, LoginLimits.seeded, positive, still], ?_, ?_⟩
  · have reached : limits.failureLimit ≤ (rowEntry row).failures := of_decide_eq_true full
    exact decide_eq_true (Int.le_trans reached (Int.le_max_right _ _))
  · exact Int.le_trans blocked (Int.le_max_right _ _)

theorem load (holds : HoldsBlock limits key since limiter) (running : now < since + limits.cooldown)
    (fails : String → Bool) (keys : List String) : HoldsBlock limits key since (limits.load now fails keys limiter) := by
  refine LoginLimits.load_preserves (fun other _ before holds => ?_) holds
  rcases LoginLimits.loadKey_cases now (fails other) other before with ⟨skipped, -⟩ | ⟨-, -, read⟩
  · rw [skipped]
    exact holds
  · rw [read]
    refine ⟨holds.stored, fun loaded => ?_⟩
    dsimp only at loaded ⊢
    by_cases same : key = other
    · subst same
      rw [Function.update_self]
      exact holds.seeded running
    · rw [Function.update_of_ne same] at loaded ⊢
      exact holds.memory loaded

theorem allow (holds : HoldsBlock limits key since limiter) (running : now < since + limits.cooldown)
    (keys : List String) : HoldsBlock limits key since { limiter with memory := (limits.allow now keys limiter.memory).2 } where
  stored := holds.stored
  memory := by
    intro loaded
    obtain ⟨entry, present, full, blocked⟩ := holds.memory loaded
    have live : limits.live now (some entry) = some entry := by
      simp only [LoginLimits.live, full, true_and]
      rw [if_neg (by omega)]
    have kept := @LoginLimits.live_allow limits now keys limiter.memory key
    rw [present, live] at kept
    exact ⟨entry, LoginLimits.eq_of_live_eq_some kept, full, blocked⟩

theorem recordFailure (holds : HoldsBlock limits key since limiter) (past : since ≤ now) (keys : List String) :
    HoldsBlock limits key since { limiter with memory := (limits.recordFailure now keys limiter.memory).2 } where
  stored := holds.stored
  memory := by
    intro loaded
    obtain ⟨entry, present, full, blocked⟩ := holds.memory loaded
    dsimp only
    by_cases member : key ∈ keys
    · rw [LoginLimits.recordFailure_of_mem member, present]
      have reached : limits.failureLimit ≤ entry.failures := of_decide_eq_true full
      refine ⟨_, rfl, decide_eq_true ?_, ?_⟩
      · simp only [LoginLimits.failed, Option.getD_some]
        omega
      · simp only [LoginLimits.failed, Option.getD_some]
        split
        · exact past
        · exact blocked
    · rw [LoginLimits.recordFailure_of_notMem member]
      exact ⟨entry, present, full, blocked⟩

theorem reset (holds : HoldsBlock limits key since limiter) (spared : key ∉ keys) :
    HoldsBlock limits key since { limiter with memory := resetEntries keys limiter.memory } where
  stored := holds.stored
  memory := by
    dsimp only
    rw [resetEntries_eq, if_neg spared]
    exact holds.memory

theorem persist (holds : HoldsBlock limits key since limiter) (proper : Proper now limiter)
    (storable : Storable limits now) (known : key ∈ keys → (limiter.memory key).isSome = true)
    (whole : wholeSecond since = since) : HoldsBlock limits key since (persist now fails keys limiter) := by
  refine (persist_preserves (P := fun after => HoldsBlock limits key since after ∧ Proper now after ∧
    after.memory key = limiter.memory key) (fun other member before invariant => ?_) ⟨holds, proper, rfl⟩).1
  obtain ⟨holds, proper, same⟩ := invariant
  have preserved : Proper now (persistKey now (fails other) other before) :=
    (proper.persist storable : Proper now (MiGate.Web.persist now fails [other] before))
  rcases persistKey_cases now (fails other) other before with ⟨skipped, -⟩ | ⟨absent, -, deleted⟩ |
    ⟨entry, present, loaded, -, saved⟩
  · rw [skipped]
    exact ⟨holds, proper, same⟩
  · rw [deleted] at preserved ⊢
    refine ⟨⟨?_, holds.memory⟩, preserved, same⟩
    have apart : other ≠ key := by
      rintro rfl
      rw [← same, absent] at known
      exact Bool.false_ne_true (known member)
    dsimp only
    rw [find?_deleteLoginRateLimit, if_neg apart]
    exact holds.stored
  · rw [saved] at preserved ⊢
    refine ⟨⟨?_, holds.memory⟩, preserved, same⟩
    dsimp only
    rw [find?_saveLoginRateLimit]
    by_cases named : other = key
    · subst named
      rw [if_pos rfl]
      obtain ⟨known, knownPresent, full, blocked⟩ := holds.memory loaded
      cases present.symm.trans knownPresent
      obtain ⟨back, -⟩ := (proper.memory other entry present).row storable other
      refine ⟨_, rfl, ?_, ?_⟩
      · rw [back]
        exact full
      · rw [back, ← whole]
        exact wholeSecond_mono blocked
    · rw [if_neg named]
      exact holds.stored

theorem maybePrune (holds : HoldsBlock limits key since limiter) (proper : Proper clock limiter)
    (storable : Storable limits now) (short : 2 * limits.cooldown < 2 ^ 63)
    (running : now < since + limits.cooldown) (fails : Bool) :
    HoldsBlock limits key since (limits.maybePrune now fails limiter) := by
  obtain ⟨memory, ⟨store, loaded⟩ | ⟨store, loaded⟩⟩ := LoginLimits.maybePrune_cases limits now fails limiter
  · refine ⟨store ▸ holds.stored, fun isLoaded => ?_⟩
    rw [memory]
    exact holds.memory (loaded ▸ isLoaded)
  · refine ⟨?_, fun isLoaded => by rw [loaded] at isLoaded; cases isLoaded⟩
    obtain ⟨row, found, full, blocked⟩ := holds.stored
    rw [store]
    rcases @find?_pruneLoginRateLimits _ (now + limits.pruneAge) _ _ found with kept | ⟨-, old⟩
    · exact ⟨row, kept, full, blocked⟩
    · obtain ⟨updatedAt, text, years, before, -⟩ := (proper.stored key row found).updated
      have ended := before_cutoff years storable short (text ▸ old)
      have positive := limits.cooldown_pos
      omega

end HoldsBlock

/-- A block that began in a whole second is held until its cooldown is over. -/
structure Blocked (limits : LoginLimits) (key : String) (since clock : Int) (limiter : PersistentLoginLimiter) : Prop where
  proper : Proper clock limiter
  whole : wholeSecond since = since
  past : since ≤ clock
  held : clock < since + limits.cooldown → HoldsBlock limits key since limiter

/-- Whether a call resets a key. -/
def LoginCall.resets (key : String) : LoginCall → Bool
  | .reset keys _ _ => key ∈ keys
  | _ => false

theorem Blocked.call {call : LoginCall} (blocked : Blocked limits key since clock limiter)
    (short : 2 * limits.cooldown < 2 ^ 63) (timely : Timely limits clock call) (spared : call.resets key = false) :
    Blocked limits key since (call.finish clock) (limiter.call limits call) := by
  have proper := blocked.proper.call timely
  obtain ⟨ordered, storable⟩ := timely
  cases call with
  | allow keys prunedAt loadedAt allowedAt faults =>
      simp only [LoginCall.readings, List.mem_cons, List.not_mem_nil, or_false, forall_eq_or_imp, forall_eq,
        List.pairwise_cons] at ordered storable
      refine ⟨proper, blocked.whole, Int.le_trans blocked.past ordered.1.2.2, fun running => ?_⟩
      simp only [LoginCall.finish, LoginCall.readings, List.getLastD_cons, List.getLastD_nil] at running
      have held := blocked.held (by omega)
      have pruned := held.maybePrune blocked.proper storable.1 short (by omega) faults.prune
      exact (pruned.load (by omega) faults.read keys).allow running keys
  | recordFailure keys loadedAt recordedAt persistedAt faults =>
      simp only [LoginCall.readings, List.mem_cons, List.not_mem_nil, or_false, forall_eq_or_imp, forall_eq,
        List.pairwise_cons] at ordered storable
      refine ⟨proper, blocked.whole, Int.le_trans blocked.past ordered.1.2.2, fun running => ?_⟩
      simp only [LoginCall.finish, LoginCall.readings, List.getLastD_cons, List.getLastD_nil] at running
      have past := blocked.past
      have loaded : HoldsBlock limits key since (limits.load loadedAt faults.read keys limiter) :=
        (blocked.held (by omega)).load (by omega) faults.read keys
      have loadedProper : Proper recordedAt (limits.load loadedAt faults.read keys limiter) :=
        blocked.proper.load.later ordered.1.2.1
      have recorded := loaded.recordFailure (show since ≤ recordedAt by omega) keys
      refine recorded.persist ((loadedProper.recordFailure storable.2.1.positive).later ordered.2.2.1) storable.2.2
        (fun member => ?_) blocked.whole
      dsimp only
      rw [LoginLimits.recordFailure_of_mem member]
      rfl
  | reset keys persistedAt faults =>
      simp only [LoginCall.readings, List.mem_singleton, forall_eq, List.pairwise_cons] at ordered storable
      refine ⟨proper, blocked.whole, Int.le_trans blocked.past ordered.1, fun running => ?_⟩
      simp only [LoginCall.finish, LoginCall.readings, List.getLastD_cons, List.getLastD_nil] at running
      have absent : key ∉ keys := of_decide_eq_false spared
      have kept : Proper persistedAt { limiter with memory := resetEntries keys limiter.memory } :=
        (blocked.proper.later ordered.1).reset
      exact ((blocked.held (by omega)).reset absent).persist kept storable (fun member => absurd member absent)
        blocked.whole
  | restart =>
      exact ⟨proper, blocked.whole, blocked.past, fun running => (blocked.held running).restart⟩

theorem Blocked.calls {calls : List LoginCall} {finish : Int} (blocked : Blocked limits key since clock limiter)
    (short : 2 * limits.cooldown < 2 ^ 63) (made : Made limits clock calls finish)
    (spared : ∀ call ∈ calls, call.resets key = false) :
    Blocked limits key since finish (limiter.calls limits calls) := by
  induction made generalizing limiter with
  | done ordered =>
      exact ⟨blocked.proper.later ordered, blocked.whole, Int.le_trans blocked.past ordered,
        fun running => blocked.held (Int.lt_of_le_of_lt ordered running)⟩
  | @call clock finish call calls timely rest ih =>
      have first := blocked.call short timely (spared call List.mem_cons_self)
      exact ih first fun other member => spared other (List.mem_cons_of_mem call member)

/-- A request that reads a blocked key without failing is refused. -/
theorem Blocked.allow {prunedAt loadedAt allowedAt : Int} {faults : StoreFaults}
    (blocked : Blocked limits key since clock limiter) (short : 2 * limits.cooldown < 2 ^ 63)
    (timely : Timely limits clock (.allow keys prunedAt loadedAt allowedAt faults))
    (member : key ∈ keys) (readable : faults.read key = false) (running : allowedAt < since + limits.cooldown) :
    (limiter.allow limits keys prunedAt loadedAt allowedAt faults).1 = false := by
  obtain ⟨ordered, storable⟩ := timely
  simp only [LoginCall.readings, List.mem_cons, List.not_mem_nil, or_false, forall_eq_or_imp, forall_eq,
    List.pairwise_cons] at ordered storable
  have pruned := (blocked.held (by omega)).maybePrune blocked.proper storable.1 short (by omega) faults.prune
  have loaded := pruned.load (show loadedAt < since + limits.cooldown by omega) faults.read keys
  obtain ⟨entry, present, full, began⟩ := loaded.memory (LoginLimits.loaded_load member readable loadedAt _)
  have blocks : limits.blocks allowedAt (some entry) = true := by
    simp only [LoginLimits.blocks, Option.any_some, full, Bool.true_and, decide_eq_true_eq]
    omega
  rw [PersistentLoginLimiter.allow, LoginLimits.allow_fst, List.all_eq_false]
  exact ⟨key, member, by simp [present, blocks]⟩

/-- A row that holds a block is what a restarted process starts from. -/
theorem blocked_restart {row : LoginRateLimitRow} (proper : Proper clock limiter)
    (found : limiter.store.find? key = some row) (full : limits.full (rowEntry row) = true) :
    Blocked limits key (rowEntry row).blockedAt clock limiter.restart where
  proper := proper.restart
  whole := (proper.stored key row found).whole
  past := (proper.stored key row found).entry.upper
  held := fun _ => ⟨⟨row, found, full, Int.le_refl _⟩, nofun⟩

end MiGate.Web
