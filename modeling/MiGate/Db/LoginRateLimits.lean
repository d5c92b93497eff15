import MiGate.Go.ParseTime
import MiGate.Relational.Table

namespace MiGate.Db

open Go Relational

/-- The persisted state of a limiter's key. -/
structure LoginRateLimit where
  key : String
  failures : Int
  blockedAt : Int
  updatedAt : Int
deriving DecidableEq, Repr

/-- A row of `login_rate_limits`. -/
structure LoginRateLimitRow where
  key : String
  failures : Int
  blockedAt : String
  updatedAt : String
deriving DecidableEq, Repr

abbrev LoginRateLimits := Table LoginRateLimitRow.key

def formatLoginRateLimitTime (instant : Int) : String :=
  if isZero instant then "" else rfc3339 instant

/-- The zero time for empty or malformed values. -/
def parseLoginRateLimitTime (value : String) : Int :=
  (parseRfc3339 value).getD zeroInstant

def getLoginRateLimit (key : String) (rows : LoginRateLimits) : Option LoginRateLimit :=
  (rows.find? key).map fun row => {
    key
    failures := row.failures
    blockedAt := parseLoginRateLimitTime row.blockedAt
    updatedAt := parseLoginRateLimitTime row.updatedAt }

def saveLoginRateLimit (rec : LoginRateLimit) (rows : LoginRateLimits) : LoginRateLimits :=
  rows.upsert {
    key := rec.key
    failures := rec.failures
    blockedAt := formatLoginRateLimitTime rec.blockedAt
    updatedAt := formatLoginRateLimitTime rec.updatedAt }

def deleteLoginRateLimit (key : String) (rows : LoginRateLimits) : LoginRateLimits :=
  rows.deleteWhere fun row => row.key = key

/-- Deletes the rows last updated before the cutoff. -/
def pruneLoginRateLimits (cutoff : Int) (rows : LoginRateLimits) : LoginRateLimits :=
  rows.deleteWhere fun row => row.updatedAt < rfc3339 cutoff

/-! ### What a row says about a time -/

/-- The second a time falls in, which is what a stored time is read back as. -/
def wholeSecond (instant : Int) : Int :=
  instant / second * second

theorem parse_formatLoginRateLimitTime {instant : Int} (inYears : InYears instant) :
    parseLoginRateLimitTime (formatLoginRateLimitTime instant) = wholeSecond instant := by
  unfold formatLoginRateLimitTime
  split
  · rename_i zero
    have empty : parseLoginRateLimitTime "" = zeroInstant := by decide
    rw [empty, of_decide_eq_true zero]
    decide
  · rw [parseLoginRateLimitTime, parseRfc3339_rfc3339 inYears, Option.getD_some, wholeSecond]

theorem wholeSecond_le (instant : Int) : wholeSecond instant ≤ instant := by
  unfold wholeSecond second
  omega

theorem wholeSecond_wholeSecond (instant : Int) : wholeSecond (wholeSecond instant) = wholeSecond instant := by
  unfold wholeSecond second
  omega

end MiGate.Db
