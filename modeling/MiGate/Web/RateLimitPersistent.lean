import MiGate.Db.LoginRateLimits
import MiGate.Web.RateLimit

namespace MiGate.Web

open Db Go Relational

def loginRateLimitPruneInterval : Int := 10 * minute

/-- Which of a call's accesses to the store fail. -/
structure StoreFaults where
  prune : Bool
  read : String → Bool
  write : String → Bool

def StoreFaults.none : StoreFaults where
  prune := false
  read _ := false
  write _ := false

/-- A limiter that mirrors its memory to a store, with the rows of the store. -/
structure PersistentLoginLimiter where
  memory : LoginLimitEntries
  loaded : String → Bool
  nextPrune : Int
  store : LoginRateLimits

def newPersistentLoginLimiter (store : LoginRateLimits) : PersistentLoginLimiter where
  memory _ := none
  loaded _ := false
  nextPrune := zeroInstant
  store := store

namespace LoginLimits

variable (limits : LoginLimits)

/-- `-2*l.memory.cooldown`, as a 64-bit integer. -/
def pruneAge : Int :=
  Int.bmod (-2 * limits.cooldown) (2 ^ 64)

def maybePrune (now : Int) (fails : Bool) (limiter : PersistentLoginLimiter) : PersistentLoginLimiter :=
  if now < limiter.nextPrune then limiter
  else if fails then { limiter with nextPrune := now + loginRateLimitPruneInterval }
  else { limiter with
    nextPrune := now + loginRateLimitPruneInterval
    store := pruneLoginRateLimits (now + limits.pruneAge) limiter.store
    loaded := fun _ => false }

def loadKey (now : Int) (fails : Bool) (key : String) (limiter : PersistentLoginLimiter) : PersistentLoginLimiter :=
  if limiter.loaded key then limiter
  else if fails then limiter
  else { limiter with
    memory :=
      match getLoginRateLimit key limiter.store with
      | some rec => limits.seed now key ⟨rec.failures, rec.blockedAt⟩ limiter.memory
      | none => limiter.memory
    loaded := Function.update limiter.loaded key true }

def load (now : Int) (fails : String → Bool) : List String → PersistentLoginLimiter → PersistentLoginLimiter
  | [], limiter => limiter
  | key :: keys, limiter => load now fails keys (limits.loadKey now (fails key) key limiter)

end LoginLimits

def persistKey (now : Int) (fails : Bool) (key : String) (limiter : PersistentLoginLimiter) :
    PersistentLoginLimiter :=
  match limiter.memory key with
  | none => if fails then limiter else { limiter with store := deleteLoginRateLimit key limiter.store }
  | some entry =>
      if limiter.loaded key then
        if fails then limiter
        else { limiter with
          store := saveLoginRateLimit
            { key, failures := entry.failures, blockedAt := entry.blockedAt, updatedAt := now } limiter.store }
      else limiter

/-- Mirrors the in-memory state of some keys to the store. -/
def persist (now : Int) (fails : String → Bool) : List String → PersistentLoginLimiter → PersistentLoginLimiter
  | [], limiter => limiter
  | key :: keys, limiter => persist now fails keys (persistKey now (fails key) key limiter)

/-- One call of the limiter with its readings of the clock, or a restart of the process, which
leaves only the store. -/
inductive LoginCall where
  | allow (keys : List String) (prunedAt loadedAt allowedAt : Int) (faults : StoreFaults)
  | recordFailure (keys : List String) (loadedAt recordedAt persistedAt : Int) (faults : StoreFaults)
  | reset (keys : List String) (persistedAt : Int) (faults : StoreFaults)
  | restart

def LoginCall.readings : LoginCall → List Int
  | .allow _ prunedAt loadedAt allowedAt _ => [prunedAt, loadedAt, allowedAt]
  | .recordFailure _ loadedAt recordedAt persistedAt _ => [loadedAt, recordedAt, persistedAt]
  | .reset _ persistedAt _ => [persistedAt]
  | .restart => []

namespace PersistentLoginLimiter

variable (limits : LoginLimits)

def allow (keys : List String) (prunedAt loadedAt allowedAt : Int) (faults : StoreFaults)
    (limiter : PersistentLoginLimiter) : Bool × PersistentLoginLimiter :=
  let limiter := limits.maybePrune prunedAt faults.prune limiter
  let limiter := limits.load loadedAt faults.read keys limiter
  let (allowed, memory) := limits.allow allowedAt keys limiter.memory
  (allowed, { limiter with memory })

def recordFailure (keys : List String) (loadedAt recordedAt persistedAt : Int) (faults : StoreFaults)
    (limiter : PersistentLoginLimiter) : Bool × PersistentLoginLimiter :=
  let limiter := limits.load loadedAt faults.read keys limiter
  let (blocked, memory) := limits.recordFailure recordedAt keys limiter.memory
  (blocked, persist persistedAt faults.write keys { limiter with memory })

def reset (keys : List String) (persistedAt : Int) (faults : StoreFaults) (limiter : PersistentLoginLimiter) :
    PersistentLoginLimiter :=
  persist persistedAt faults.write keys { limiter with memory := resetEntries keys limiter.memory }

def restart (limiter : PersistentLoginLimiter) : PersistentLoginLimiter :=
  newPersistentLoginLimiter limiter.store

def call (limiter : PersistentLoginLimiter) : LoginCall → PersistentLoginLimiter
  | .allow keys prunedAt loadedAt allowedAt faults => (allow limits keys prunedAt loadedAt allowedAt faults limiter).2
  | .recordFailure keys loadedAt recordedAt persistedAt faults =>
      (recordFailure limits keys loadedAt recordedAt persistedAt faults limiter).2
  | .reset keys persistedAt faults => reset keys persistedAt faults limiter
  | .restart => restart limiter

def calls (limiter : PersistentLoginLimiter) (made : List LoginCall) : PersistentLoginLimiter :=
  made.foldl (call limits) limiter

end PersistentLoginLimiter

end MiGate.Web
