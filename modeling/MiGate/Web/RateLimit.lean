import MiGate.Go.Time
import Mathlib.Logic.Function.Basic

namespace MiGate.Web

open Go

def defaultLoginFailureLimit : Int := 5

def defaultLoginCooldown : Int := 5 * minute

structure LoginLimitEntry where
  failures : Int
  blockedAt : Int
deriving DecidableEq, Repr

/-- What reading a missing key of the map gives. -/
def LoginLimitEntry.zero : LoginLimitEntry where
  failures := 0
  blockedAt := zeroInstant

abbrev LoginLimitEntries := String → Option LoginLimitEntry

/-- The settings of a limiter; its cooldown is a `time.Duration`. -/
structure LoginLimits where
  failureLimit : Int
  cooldown : Int
  failureLimit_pos : 0 < failureLimit
  cooldown_pos : 0 < cooldown
  cooldown_lt : cooldown < 2 ^ 63

structure LoginLimiter extends LoginLimits where
  entries : LoginLimitEntries

/-- The settings `newLoginLimiter` makes of what it is given. -/
def newLoginLimits (failureLimit cooldown : Int) (duration : cooldown < 2 ^ 63) : LoginLimits where
  failureLimit := if failureLimit ≤ 0 then defaultLoginFailureLimit else failureLimit
  cooldown := if cooldown ≤ 0 then defaultLoginCooldown else cooldown
  failureLimit_pos := by
    split
    · decide
    · omega
  cooldown_pos := by
    split
    · decide
    · omega
  cooldown_lt := by
    split
    · decide
    · exact duration

def newLoginLimiter (failureLimit cooldown : Int) (duration : cooldown < 2 ^ 63) : LoginLimiter where
  toLoginLimits := newLoginLimits failureLimit cooldown duration
  entries _ := none

namespace LoginLimits

variable (limits : LoginLimits)

def allow (now : Int) : List String → LoginLimitEntries → Bool × LoginLimitEntries
  | [], entries => (true, entries)
  | key :: keys, entries =>
      let entry := (entries key).getD .zero
      if limits.failureLimit ≤ entry.failures ∧ sub now entry.blockedAt < limits.cooldown then (false, entries)
      else if limits.failureLimit ≤ entry.failures ∧ limits.cooldown ≤ sub now entry.blockedAt then
        allow now keys (Function.update entries key none)
      else allow now keys entries

/-- One more failure for an entry. -/
def fail (now : Int) (entry : LoginLimitEntry) : LoginLimitEntry where
  failures := entry.failures + 1
  blockedAt := if limits.failureLimit ≤ entry.failures + 1 then now else entry.blockedAt

/-- Whether a key was just blocked, with the entries after the failure. -/
def recordFailure (now : Int) : List String → LoginLimitEntries → Bool × LoginLimitEntries
  | [], entries => (false, entries)
  | key :: keys, entries =>
      let entry := limits.fail now ((entries key).getD .zero)
      let (blocked, entries) := recordFailure now keys (Function.update entries key (some entry))
      (blocked || entry.failures == limits.failureLimit, entries)

/-- Merges persisted state into memory. -/
def seed (now : Int) (key : String) (stored : LoginLimitEntry) (entries : LoginLimitEntries) : LoginLimitEntries :=
  if stored.failures ≤ 0 ∨ limits.failureLimit ≤ stored.failures ∧ limits.cooldown ≤ sub now stored.blockedAt then
    entries
  else
    let entry := (entries key).getD .zero
    Function.update entries key (some {
      failures := if entry.failures < stored.failures then stored.failures else entry.failures
      blockedAt := if entry.blockedAt < stored.blockedAt then stored.blockedAt else entry.blockedAt })

end LoginLimits

def resetEntries : List String → LoginLimitEntries → LoginLimitEntries
  | [], entries => entries
  | key :: keys, entries => resetEntries keys (Function.update entries key none)

namespace LoginLimiter

def allow (now : Int) (keys : List String) (limiter : LoginLimiter) : Bool × LoginLimiter :=
  let (allowed, entries) := limiter.toLoginLimits.allow now keys limiter.entries
  (allowed, { limiter with entries })

def recordFailure (now : Int) (keys : List String) (limiter : LoginLimiter) : Bool × LoginLimiter :=
  let (blocked, entries) := limiter.toLoginLimits.recordFailure now keys limiter.entries
  (blocked, { limiter with entries })

def reset (keys : List String) (limiter : LoginLimiter) : LoginLimiter :=
  { limiter with entries := resetEntries keys limiter.entries }

end LoginLimiter

/-! ### Login attempts -/

inductive LoginVerdict where
  | rateLimited
  | failure
  | success
deriving DecidableEq, Repr

/-- One request to log in: the keys it is limited by, the readings of the clock when it is
admitted and when its failure is recorded, and whether its credentials are right. -/
structure LoginAttempt where
  keys : List String
  checkedAt : Int
  recordedAt : Int
  correct : Bool
deriving DecidableEq, Repr

/-- What `loginHandler` asks of its limiter. -/
def LoginLimiter.attempt (attempt : LoginAttempt) (limiter : LoginLimiter) : LoginVerdict × LoginLimiter :=
  let (allowed, limiter) := limiter.allow attempt.checkedAt attempt.keys
  if !allowed then (.rateLimited, limiter)
  else if !attempt.correct then (.failure, (limiter.recordFailure attempt.recordedAt attempt.keys).2)
  else (.success, limiter.reset attempt.keys)

/-- The verdicts of some attempts, one after the other, and the limiter after them. -/
def LoginLimiter.attempts : List LoginAttempt → LoginLimiter → List (LoginAttempt × LoginVerdict) × LoginLimiter
  | [], limiter => ([], limiter)
  | attempt :: rest, limiter =>
      let (verdict, limiter) := limiter.attempt attempt
      let (verdicts, limiter) := limiter.attempts rest
      ((attempt, verdict) :: verdicts, limiter)

end MiGate.Web
