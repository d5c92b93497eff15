import MiGate.Login.AfterReset
import MiGate.Login.Mirror

namespace MiGate.Web

open Db Go Relational

/-! What the persistent limiter keeps of the in-memory one, and where it departs from it. -/

/-- What a call does to a `loginLimiter` whose process never stops. -/
def LoginCall.inMemory (limits : LoginLimits) (entries : LoginLimitEntries) : LoginCall → LoginLimitEntries
  | .allow keys _ _ allowedAt _ => (limits.allow allowedAt keys entries).2
  | .recordFailure keys _ recordedAt _ _ => (limits.recordFailure recordedAt keys entries).2
  | .reset keys _ _ => resetEntries keys entries
  | .restart => entries

/-- As long as no read and no write of its keys fails, the limiter answers like one whose
memory survives restarts; whatever fails, a stored block that is read back keeps its key
refused, and after a reset that reached the store only later failures count. -/
theorem persistent_limiter_survives (limits : LoginLimits) (short : 2 * limits.cooldown < 2 ^ 63) :
    (∀ clock events, Happened limits clock events →
      Survives limits .fresh events ((newPersistentLoginLimiter .empty).events limits events).1) ∧
    (∀ clock before stopped after finish key row keys prunedAt loadedAt allowedAt faults,
      Made limits clock before stopped →
      ((newPersistentLoginLimiter .empty).calls limits before).store.find? key = some row →
      limits.full (rowEntry row) = true →
      Made limits stopped after finish → (∀ call ∈ after, call.resets key = false) →
      Timely limits finish (.allow keys prunedAt loadedAt allowedAt faults) → key ∈ keys →
      faults.read key = false → allowedAt < (rowEntry row).blockedAt + limits.cooldown →
      ((((newPersistentLoginLimiter .empty).calls limits before).restart.calls limits after).allow limits keys
        prunedAt loadedAt allowedAt faults).1 = false) ∧
    (∀ before keys persistedAt faults after key, key ∈ keys → faults.write key = false →
      AtMost key (after.map (LoginCall.failuresFor key)).sum
        ((((newPersistentLoginLimiter .empty).calls limits before).reset keys persistedAt faults).calls limits after)) := by
  refine ⟨?_, ?_, ?_⟩
  · intro clock events happened
    exact (Mirrors.fresh clock).survives short happened
  · intro clock before stopped after finish key row keys prunedAt loadedAt allowedAt faults made found full later
      spared timely member readable running
    have stored := blocked_restart ((Proper.fresh clock).calls made) found full
    exact (stored.calls short later spared).allow short timely member readable running
  · intro before keys persistedAt faults after key member written
    have reset := atMost_reset member written persistedAt ((newPersistentLoginLimiter .empty).calls limits before)
    rw [← Nat.zero_add (after.map (LoginCall.failuresFor key)).sum]
    exact reset.calls after

/-! ### Where they differ -/

def exampleLimits : LoginLimits :=
  newLoginLimits 0 0 (by decide)

def failing : StoreFaults where
  prune := false
  read _ := false
  write _ := true

def exampleFailure (at_ : Int) (faults : StoreFaults) : LoginCall :=
  .recordFailure ["k"] (at_ * second) (at_ * second) (at_ * second) faults

def exampleAllow (at_ : Int) : LoginCall :=
  .allow ["k"] (at_ * second) (at_ * second) (at_ * second) .none

/-- Four failures and a success whose delete fails; ten minutes later the rows are read again,
and one more failure blocks the key. -/
def staleCalls : List LoginCall :=
  exampleAllow 1 :: ([1, 2, 3, 4].map fun at_ => exampleFailure at_ .none) ++
    [.reset ["k"] (5 * second) failing, exampleAllow 602, exampleFailure 602 .none]

/-- Five failures that cannot be stored, and a restart. -/
def forgottenCalls : List LoginCall :=
  ([1, 2, 3, 4, 5].map fun at_ => exampleFailure at_ failing) ++ [.restart]

theorem persistent_limiter_departs :
    let persistent := fun (calls : List LoginCall) (at_ : Int) =>
      (((newPersistentLoginLimiter .empty).calls exampleLimits calls).allow exampleLimits ["k"] at_ at_ at_ .none).1
    let memory := fun (calls : List LoginCall) (at_ : Int) =>
      (exampleLimits.allow at_ ["k"] (calls.foldl (LoginCall.inMemory exampleLimits) fun _ => none)).1
    (persistent staleCalls (603 * second) = false ∧ memory staleCalls (603 * second) = true) ∧
      (persistent forgottenCalls (6 * second) = true ∧ memory forgottenCalls (6 * second) = false) := by
  decide

theorem exampleStorable {at_ : Int} (lower : 0 ≤ at_) (upper : at_ ≤ 1000) : Storable exampleLimits (at_ * second) := by
  have cooldown : exampleLimits.cooldown = 300 * second := by decide
  refine ⟨?_, ?_, ?_⟩
  · unfold zeroInstant second
    omega
  · unfold InYears second
    omega
  · rw [cooldown]
    unfold InYears second
    omega

theorem exampleFailure_timely {clock at_ : Int} (lower : 0 ≤ at_) (upper : at_ ≤ 1000) (ordered : clock ≤ at_ * second)
    (faults : StoreFaults) : Timely exampleLimits clock (exampleFailure at_ faults) where
  ordered := by simp [exampleFailure, LoginCall.readings, ordered]
  storable := by
    simp only [exampleFailure, LoginCall.readings, List.mem_cons, List.not_mem_nil, or_false, or_self]
    rintro reading rfl
    exact exampleStorable lower upper

theorem exampleAllow_timely {clock at_ : Int} (lower : 0 ≤ at_) (upper : at_ ≤ 1000) (ordered : clock ≤ at_ * second) :
    Timely exampleLimits clock (exampleAllow at_) where
  ordered := by simp [exampleAllow, LoginCall.readings, ordered]
  storable := by
    simp only [exampleAllow, LoginCall.readings, List.mem_cons, List.not_mem_nil, or_false, or_self]
    rintro reading rfl
    exact exampleStorable lower upper

def exampleAttempt (at_ : Int) : PersistentAttempt where
  keys := ["k"]
  checkedAt := at_ * second
  recordedAt := at_ * second
  correct := false
  prunedAt := at_ * second
  loadedAt := at_ * second
  reloadedAt := at_ * second
  persistedAt := at_ * second
  faults := .none

/-- A wrong login before a restart and one after it are answered as if it had not happened; a
stored block of five failures refuses the sixth attempt after a restart; and a reset that was
stored leaves one failure after it to count. -/
theorem persistent_limiter_kept :
    Survives exampleLimits .fresh [.attempt (exampleAttempt 1), .restart, .attempt (exampleAttempt 2)]
        [.failure, .failure] ∧
      ((((newPersistentLoginLimiter .empty).calls exampleLimits
        ([1, 2, 3, 4, 5].map fun at_ => exampleFailure at_ .none)).restart.calls exampleLimits []).allow exampleLimits
          ["k"] (6 * second) (6 * second) (6 * second) .none).1 = false ∧
      AtMost "k" 1 ((((newPersistentLoginLimiter .empty).calls exampleLimits [exampleFailure 1 .none]).reset ["k"]
        (2 * second) .none).calls exampleLimits [exampleFailure 3 .none]) := by
  have kept := persistent_limiter_survives exampleLimits (by decide)
  have timely : ∀ (clock at_ : Int), 0 ≤ at_ → at_ ≤ 1000 → clock ≤ at_ * second →
      AttemptTimely exampleLimits clock (exampleAttempt at_) := by
    intro clock at_ lower upper ordered
    refine ⟨by simp [PersistentAttempt.readings, exampleAttempt, ordered], ?_, fun _ _ => ⟨rfl, rfl⟩⟩
    simp only [PersistentAttempt.readings, exampleAttempt, List.mem_cons, List.not_mem_nil, or_false, or_self]
    rintro reading rfl
    exact exampleStorable lower upper
  refine ⟨?_, ?_, ?_⟩
  · exact kept.1 0 _ (.attempt (timely _ _ (by decide) (by decide) (by decide))
      (.restart (.attempt (timely _ _ (by decide) (by decide) (by decide)) .done)))
  · refine kept.2.1 0 _ (5 * second) [] (6 * second) "k"
      ⟨"k", 5, "1970-01-01T00:00:05Z", "1970-01-01T00:00:05Z"⟩ ["k"] _ _ _ .none ?_ (by decide)
      (by decide) (.done (by decide)) (fun _ member => absurd member List.not_mem_nil) ?_ (by decide) rfl (by decide)
    · have failed : ∀ (clock at_ : Int), 0 ≤ at_ ∧ at_ ≤ 1000 ∧ clock ≤ at_ * second →
          Timely exampleLimits clock (exampleFailure at_ .none) :=
        fun _ _ bounds => exampleFailure_timely bounds.1 bounds.2.1 bounds.2.2 _
      exact .call (failed 0 1 (by decide)) (.call (failed _ 2 (by decide)) (.call (failed _ 3 (by decide))
        (.call (failed _ 4 (by decide)) (.call (failed _ 5 (by decide)) (.done (by decide))))))
    · exact exampleAllow_timely (by decide) (by decide) (by decide)
  · exact kept.2.2 [exampleFailure 1 .none] ["k"] (2 * second) .none [exampleFailure 3 .none] "k" (by decide) rfl

end MiGate.Web
