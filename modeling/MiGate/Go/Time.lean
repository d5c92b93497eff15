import Mathlib.Algebra.Order.Ring.Rat
import Mathlib.Tactic.Positivity

namespace MiGate.Go

/-! A `time.Time` in UTC is its nanoseconds since the Unix epoch, a `time.Int` its
nanoseconds. -/

def second : Int := 1000000000

def minute : Int := 60 * second

def hour : Int := 60 * minute

/-- The zero `time.Time`, the first of January of the year 1. -/
def zeroInstant : Int := -62135596800 * second

/-- `time.Time.IsZero`. -/
def isZero (instant : Int) : Bool :=
  instant == zeroInstant

/-- `time.Time.Truncate`, which rounds down to a multiple of `step` counted from the zero time. -/
def truncate (instant : Int) (step : Int) : Int :=
  instant - (instant - zeroInstant) % step

/-- `time.Time.Sub`, which saturates at the longest duration. -/
def sub (later earlier : Int) : Int :=
  max (-2 ^ 63) (min (later - earlier) (2 ^ 63 - 1))

/-- `time.Int.Seconds`. -/
def seconds (duration : Int) : ℚ :=
  duration / second

/-- The proleptic Gregorian year, month and day of a day counted from the Unix epoch. -/
def civilDate (day : Int) : Int × Int × Int :=
  let shifted := day + 719468
  let era := shifted / 146097
  let dayOfEra := shifted % 146097
  let yearOfEra := (dayOfEra - dayOfEra / 1460 + dayOfEra / 36524 - dayOfEra / 146096) / 365
  let dayOfYear := dayOfEra - (365 * yearOfEra + yearOfEra / 4 - yearOfEra / 100)
  let shiftedMonth := (5 * dayOfYear + 2) / 153
  let month := if shiftedMonth < 10 then shiftedMonth + 3 else shiftedMonth - 9
  let year := yearOfEra + era * 400 + if month ≤ 2 then 1 else 0
  (year, month, dayOfYear - (153 * shiftedMonth + 2) / 5 + 1)

/-- A non-negative number in decimal, padded with zeros to `width` digits. -/
def padded (width : Nat) (value : Int) : List Char :=
  let digits := (toString value.natAbs).toList
  (if value < 0 then ['-'] else []) ++ List.replicate (width - digits.length) '0' ++ digits

/-- The fraction of a second with its trailing zeros dropped, and nothing when it is zero. -/
def fraction (nanos : Int) : List Char :=
  if nanos = 0 then []
  else '.' :: ((padded 9 nanos).reverse.dropWhile (· == '0')).reverse

def minuteOf (instant : Int) : Int :=
  instant / minute % 60

def secondOf (instant : Int) : Int :=
  instant / second % 60

/-- `Format(time.RFC3339Nano)` of a time in UTC. -/
def rfc3339Nano (instant : Int) : String :=
  let (year, month, day) := civilDate (instant / (24 * hour))
  String.ofList (padded 4 year ++ '-' :: padded 2 month ++ '-' :: padded 2 day ++
    'T' :: padded 2 (instant / hour % 24) ++ ':' :: padded 2 (minuteOf instant) ++
    ':' :: padded 2 (secondOf instant) ++ fraction (instant % second) ++ ['Z'])

example : rfc3339Nano 1709210096500000000 = "2024-02-29T12:34:56.5Z" := by decide

theorem sub_pos {later earlier : Int} (after : earlier < later) : 0 < sub later earlier := by
  unfold sub
  omega

theorem seconds_pos {duration : Int} (positive : 0 < duration) : 0 < seconds duration := by
  unfold seconds second
  have : (0 : ℚ) < duration := by exact_mod_cast positive
  positivity

end MiGate.Go
