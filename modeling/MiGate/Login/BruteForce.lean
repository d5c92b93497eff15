import MiGate.Lockout.Window
import MiGate.Login.Entries

namespace MiGate.Web

open Go Lockout

/-! How many wrong logins a key gets, told from what the limiter answered. -/

def LoginAttempt.readings (attempt : LoginAttempt) : List Int :=
  [attempt.checkedAt, attempt.recordedAt]

namespace LoginLimits

variable (limits : LoginLimits)

def threshold : Nat :=
  limits.failureLimit.toNat

theorem threshold_eq : (limits.threshold : Int) = limits.failureLimit :=
  Int.toNat_of_nonneg (Int.le_of_lt limits.failureLimit_pos)

theorem threshold_pos : 0 < limits.threshold := by
  have positive := limits.failureLimit_pos
  have same := limits.threshold_eq
  omega

/-- What an answered attempt means for a key: it is counted when it was evaluated and its
credentials were wrong, and the count starts again when the block is over or after a success. -/
def observe (key : String) (window : Window Int) (answered : LoginAttempt × LoginVerdict) : Window Int :=
  if key ∈ answered.1.keys then
    match answered.2 with
    | .rateLimited => window.expire answered.1.checkedAt
    | .failure =>
        (window.expire answered.1.checkedAt).record limits.threshold (answered.1.keys.count key)
          (answered.1.recordedAt + limits.cooldown)
    | .success => .fresh
  else window

/-- What some answered attempts amount to for a key. -/
def window (key : String) (answered : List (LoginAttempt × LoginVerdict)) : Window Int :=
  answered.foldl (limits.observe key) .fresh

structure Represents (entry : Option LoginLimitEntry) (window : Window Int) : Prop where
  failures : (entry.getD .zero).failures = window.failures
  blockedUntil : window.blockedUntil =
    if limits.full (entry.getD .zero) then some ((entry.getD .zero).blockedAt + limits.cooldown) else none

/-- An entry says at a time what a window says. -/
structure Remembers (clock : Int) (entry : Option LoginLimitEntry) (window : Window Int) : Prop where
  wellFormed : window.WellFormed limits.threshold
  represents : limits.Represents (limits.live clock entry) (window.expire clock)

variable {limits} {now clock : Int} {key : String} {entry : Option LoginLimitEntry} {window : Window Int}

theorem Represents.fresh : limits.Represents none .fresh where
  failures := rfl
  blockedUntil := by simp [Window.fresh]

theorem Represents.blocks (represents : limits.Represents entry window) (now : Int) :
    limits.blocks now entry = window.blocked now := by
  rw [Window.blocked, represents.blockedUntil]
  cases entry with
  | none => simp
  | some entry => cases full : limits.full entry <;> simp [LoginLimits.blocks, full]

theorem Represents.live (represents : limits.Represents entry window) (now : Int) :
    limits.Represents (limits.live now entry) (window.expire now) := by
  have expired : (window.blockedUntil.any fun until_ => until_ ≤ now) = true ↔
      limits.full (entry.getD .zero) = true ∧ (entry.getD .zero).blockedAt + limits.cooldown ≤ now := by
    rw [represents.blockedUntil]
    cases limits.full (entry.getD .zero) <;> simp
  unfold Window.expire
  cases entry with
  | none =>
      rw [if_neg (fun ended => by simpa using (expired.mp ended).1)]
      exact represents
  | some entry =>
      simp only [LoginLimits.live, expired, Option.getD_some]
      split
      · exact .fresh
      · exact represents

theorem Represents.failed (represents : limits.Represents entry window)
    (wellFormed : window.WellFormed limits.threshold) (room : window.failures < limits.threshold) {count : Nat}
    (positive : 0 < count) (now : Int) :
    limits.Represents (some (limits.failed now count (entry.getD .zero)))
      (window.record limits.threshold count (now + limits.cooldown)) where
  failures := by simp [LoginLimits.failed, Window.record, represents.failures]
  blockedUntil := by
    have none : window.blockedUntil = none := by
      rw [← Option.isNone_iff_eq_none, ← Option.not_isSome, wellFormed.blocks]
      simpa using room
    have reaches : limits.failureLimit ≤ (entry.getD .zero).failures + count ↔
        limits.threshold ≤ window.failures + count := by
      rw [represents.failures, ← limits.threshold_eq]
      omega
    simp only [Window.record, Option.getD_some, full, LoginLimits.failed, positive, true_and, reaches, none,
      decide_eq_true_eq]
    split <;> rfl

theorem Remembers.later {later : Int} (remembers : limits.Remembers clock entry window) (ordered : clock ≤ later) :
    limits.Remembers later entry window where
  wellFormed := remembers.wellFormed
  represents := by
    have represents := remembers.represents.live later
    rwa [live_live ordered, Window.expire_expire ordered] at represents

theorem Remembers.blocks (remembers : limits.Remembers clock entry window) :
    limits.blocks clock entry = window.blocked clock := by
  rw [← blocks_live, remembers.represents.blocks, Window.blocked_expire]

end LoginLimits

variable {limits : LoginLimits} {clock : Int} {key : String} {entries : LoginLimitEntries} {window : Window Int}

/-- What an attempt does, by the answer it gets. -/
inductive Answered (limits : LoginLimits) (attempt : LoginAttempt) (entries : LoginLimitEntries) :
    LoginVerdict → LoginLimitEntries → Prop where
  | rateLimited (refused : (limits.allow attempt.checkedAt attempt.keys entries).1 = false) :
      Answered limits attempt entries .rateLimited (limits.allow attempt.checkedAt attempt.keys entries).2
  | failure (allowed : (limits.allow attempt.checkedAt attempt.keys entries).1 = true) :
      Answered limits attempt entries .failure
        (limits.recordFailure attempt.recordedAt attempt.keys (limits.allow attempt.checkedAt attempt.keys entries).2).2
  | success (allowed : (limits.allow attempt.checkedAt attempt.keys entries).1 = true) :
      Answered limits attempt entries .success
        (resetEntries attempt.keys (limits.allow attempt.checkedAt attempt.keys entries).2)

theorem LoginLimiter.attempt_answered (attempt : LoginAttempt) (limiter : LoginLimiter) :
    (limiter.attempt attempt).2.toLoginLimits = limiter.toLoginLimits ∧
      Answered limiter.toLoginLimits attempt limiter.entries (limiter.attempt attempt).1
        (limiter.attempt attempt).2.entries := by
  unfold LoginLimiter.attempt
  simp only [LoginLimiter.allow, LoginLimiter.recordFailure, LoginLimiter.reset, Bool.not_eq_true']
  split
  · rename_i refused
    exact ⟨rfl, .rateLimited refused⟩
  · rename_i allowed
    split
    · exact ⟨rfl, .failure (by simpa using allowed)⟩
    · exact ⟨rfl, .success (by simpa using allowed)⟩

theorem Answered.refused {attempt : LoginAttempt} {verdict : LoginVerdict} {after : LoginLimitEntries}
    (answered : Answered limits attempt entries verdict after)
    (refused : (limits.allow attempt.checkedAt attempt.keys entries).1 = false) : verdict = .rateLimited := by
  cases answered with
  | rateLimited => rfl
  | failure allowed => exact absurd (refused.symm.trans allowed) Bool.false_ne_true
  | success allowed => exact absurd (refused.symm.trans allowed) Bool.false_ne_true

namespace LoginLimits

/-- An attempt changes the entry of a key as its answer changes the key's window. -/
theorem Remembers.answered {attempt : LoginAttempt} {verdict : LoginVerdict} {after : LoginLimitEntries}
    (remembers : limits.Remembers clock (entries key) window) (answered : Answered limits attempt entries verdict after)
    (checked : clock ≤ attempt.checkedAt) (recorded : attempt.checkedAt ≤ attempt.recordedAt) :
    limits.Remembers attempt.recordedAt (after key) (limits.observe key window (attempt, verdict)) := by
  have current := remembers.later checked
  have expired := current.wellFormed.expire limits.threshold_pos attempt.checkedAt
  by_cases member : key ∈ attempt.keys
  · simp only [observe, if_pos member]
    cases answered with
    | rateLimited refused =>
        refine (Remembers.mk expired ?_).later recorded
        rw [live_allow, Window.expire_expire (Int.le_refl _)]
        exact current.represents
    | failure allowed =>
        have free : limits.blocks attempt.checkedAt (entries key) = false := by
          rw [allow_fst, List.all_eq_true] at allowed
          simpa using allowed key member
        rw [current.blocks, ← Window.blocked_expire] at free
        have room := current.wellFormed.room free limits.threshold_pos
        have counted : 0 < attempt.keys.count key := List.count_pos_iff.mpr member
        rw [recordFailure_of_mem member, allow_of_mem allowed member]
        exact ⟨expired.record room counted, (current.represents.failed expired room counted _).live _⟩
    | success allowed =>
        rw [resetEntries_eq, if_pos member]
        exact ⟨.fresh limits.threshold_pos, Represents.fresh.live _⟩
  · simp only [observe, if_neg member]
    have unchanged : after key = entries key := by
      cases answered with
      | rateLimited => exact allow_of_notMem member entries
      | failure => rw [recordFailure_of_notMem member, allow_of_notMem member]
      | success => rw [resetEntries_eq, if_neg member, allow_of_notMem member]
    rw [unchanged]
    exact current.later recorded

/-- The readings of an attempt and of what follows it, cut where the attempt ends. -/
theorem ordered_cons {attempt : LoginAttempt} {readings : List Int}
    (ordered : (clock :: (attempt.readings ++ readings)).Pairwise (· ≤ ·)) :
    clock ≤ attempt.checkedAt ∧ attempt.checkedAt ≤ attempt.recordedAt ∧
      (attempt.recordedAt :: readings).Pairwise (· ≤ ·) := by
  simp only [LoginAttempt.readings, List.cons_append, List.nil_append] at ordered
  obtain ⟨fromClock, rest⟩ := List.pairwise_cons.mp ordered
  obtain ⟨fromCheck, tail⟩ := List.pairwise_cons.mp rest
  exact ⟨fromClock _ (by simp), fromCheck _ (by simp), tail⟩

theorem Remembers.attempts {attempts : List LoginAttempt} {limiter : LoginLimiter} {finish : Int}
    (same : limiter.toLoginLimits = limits) (remembers : limits.Remembers clock (limiter.entries key) window)
    (ordered : (clock :: (attempts.flatMap LoginAttempt.readings ++ [finish])).Pairwise (· ≤ ·)) :
    (limiter.attempts attempts).2.toLoginLimits = limits ∧
      limits.Remembers finish ((limiter.attempts attempts).2.entries key)
        ((limiter.attempts attempts).1.foldl (limits.observe key) window) := by
  induction attempts generalizing clock limiter window with
  | nil => exact ⟨same, remembers.later (List.rel_of_pairwise_cons ordered (List.mem_singleton_self finish))⟩
  | cons attempt rest ih =>
      rw [List.flatMap_cons, List.append_assoc] at ordered
      obtain ⟨checked, recorded, later⟩ := ordered_cons ordered
      obtain ⟨kept, answered⟩ := limiter.attempt_answered attempt
      rw [same] at kept answered
      exact ih kept (remembers.answered answered checked recorded) later

end LoginLimits

theorem exists_earlier {readings : List Int} (ordered : readings.Pairwise (· ≤ ·)) :
    ∃ start, (start :: readings).Pairwise (· ≤ ·) := by
  cases readings with
  | nil => exact ⟨0, List.pairwise_singleton _ _⟩
  | cons first rest =>
      refine ⟨first, ordered.cons ?_⟩
      rintro reading (_ | ⟨_, later⟩)
      · exact Int.le_refl first
      · exact List.rel_of_pairwise_cons ordered later

/-- Whatever the attempts before, at most `failureLimit` wrong logins have been evaluated for
a key since its block last ended, a key whose block is running is refused, and the limiter
still knows the failures and the block the attempts amount to. -/
theorem login_attempts_bounded {failureLimit cooldown : Int} {duration : cooldown < 2 ^ 63} {key : String}
    {attempts : List LoginAttempt} {next : LoginAttempt}
    (ordered : ((attempts ++ [next]).flatMap LoginAttempt.readings).Pairwise (· ≤ ·)) :
    let limiter := newLoginLimiter failureLimit cooldown duration
    let answered := (limiter.attempts attempts).1
    let final := (limiter.attempts attempts).2
    let window := limiter.window key answered
    window.attempts ≤ limiter.failureLimit ∧
      (key ∈ next.keys → window.blocked next.checkedAt = true → (final.attempt next).1 = .rateLimited) ∧
      final.blocks next.checkedAt (final.entries key) = window.blocked next.checkedAt ∧
      ((final.live next.checkedAt (final.entries key)).getD .zero).failures =
        (window.expire next.checkedAt).failures := by
  intro limiter answered final window
  have checked : (attempts.flatMap LoginAttempt.readings ++ [next.checkedAt]).Pairwise (· ≤ ·) := by
    refine ordered.sublist ?_
    rw [List.flatMap_append, List.flatMap_singleton]
    exact List.Sublist.append_left (List.singleton_sublist.mpr (by simp [LoginAttempt.readings])) _
  obtain ⟨start, fromStart⟩ := exists_earlier checked
  have initial : limiter.Remembers start (limiter.entries key) (.fresh : Window Int) :=
    ⟨.fresh limiter.threshold_pos, LoginLimits.Represents.fresh.live _⟩
  obtain ⟨kept, remembers⟩ := initial.attempts rfl fromStart
  have attempted : (window.attempts : Int) ≤ limiter.failureLimit := by
    rw [← limiter.threshold_eq]
    exact Int.ofNat_le.mpr remembers.wellFormed.bounded
  have blocks : limiter.blocks next.checkedAt (final.entries key) = window.blocked next.checkedAt := remembers.blocks
  refine ⟨attempted, ?_, ?_, ?_⟩
  · intro member blocked
    obtain ⟨-, outcome⟩ := final.attempt_answered next
    rw [kept] at outcome
    refine outcome.refused ?_
    rw [LoginLimits.allow_fst, List.all_eq_false]
    exact ⟨key, member, by simp [blocks, blocked]⟩
  · rw [kept]
    exact blocks
  · rw [kept]
    exact remembers.represents.failures

def exampleGuess (at_ : Int) : LoginAttempt where
  keys := ["ip:192.0.2.1", "ip_user:192.0.2.1:admin"]
  checkedAt := at_
  recordedAt := at_
  correct := false

/-- Five wrong passwords in five seconds, and the sixth is not looked at. -/
theorem sixth_guess_refused :
    let limiter := newLoginLimiter 0 0 (by decide)
    ((limiter.attempts ([1, 2, 3, 4, 5].map fun at_ => exampleGuess (at_ * second))).2.attempt
      (exampleGuess (6 * second))).1 = .rateLimited := by
  intro limiter
  have bounded := @login_attempts_bounded 0 0 (by decide) "ip:192.0.2.1"
    ([1, 2, 3, 4, 5].map fun at_ => exampleGuess (at_ * second)) (exampleGuess (6 * second)) (by decide)
  exact bounded.2.1 (by decide) (by decide)

end MiGate.Web
