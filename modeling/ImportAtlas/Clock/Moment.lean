import ImportAtlas.Clock.Calendar
import ImportAtlas.Json.Basic
import ImportAtlas.Log.Basic
import ImportAtlas.Number.Binary64

/-!
# Moments

A moment is a whole number of microseconds since the start of 1970, always in UTC.  A time given as
a number of seconds is rounded to it, a half to the even neighbour; the fraction of the seconds is
turned into microseconds in double precision.

Moments can be written for the years 1 to 9999.
-/

namespace ImportAtlas

/-- A time in UTC. -/
structure Moment where
  seconds : Int
  /-- Below one million. -/
  micros : Nat
deriving DecidableEq

inductive ClockFault where
  /-- The seconds do not fit 64 bits. -/
  | secondsOutOfRange
  /-- The year does not fit 32 bits. -/
  | yearTooLarge
  /-- The year is not among 1 to 9999. -/
  | yearOutOfRange (year : Int)
  | notANumber
deriving DecidableEq

def ClockFault.message : ClockFault → Text
  | .secondsOutOfRange => "timestamp out of range for platform time_t"
  | .yearTooLarge => "[Errno 75] Value too large for defined data type"
  | .yearOutOfRange year => "year " ++ Text.integer year ++ " is out of range"
  | .notANumber => "Invalid value NaN (not a number)"

namespace Moment

def ofSeconds (seconds : Int) : Except ClockFault Moment :=
  if -longLimit ≤ seconds && seconds < longLimit then .ok ⟨seconds, 0⟩
  else .error .secondsOutOfRange

def microsOf (part den : Nat) : Nat :=
  (Binary64.nearest? (part * 1000000) den).elim 0 fun scaled =>
    roundHalfEven scaled.num.natAbs scaled.den

/-- The moment that many microseconds before or after a whole second. -/
def ofParts (whole micros : Int) : Moment :=
  ⟨whole + micros / 1000000, (micros % 1000000).toNat⟩

def ofFraction (time : Fraction) : Except ClockFault Moment :=
  let whole := Int.tdiv time.num time.den
  let part := Int.tmod time.num time.den
  let micros : Int := microsOf part.natAbs time.den
  let moment := ofParts whole (if part < 0 then -micros else micros)
  if -longLimit ≤ moment.seconds && moment.seconds ≤ longLimit then .ok moment
  else .error .secondsOutOfRange

def ofNumber? : Json → Option (Except ClockFault Moment)
  | .integer seconds => some (ofSeconds seconds)
  | .decimal mantissa exponent =>
      match Binary64.ofDecimal? mantissa exponent with
      | some time => some (ofFraction time)
      | none => some (.error .secondsOutOfRange)
  | .infinite _ => some (.error .secondsOutOfRange)
  | .notANumber => some (.error .notANumber)
  | _ => none

def days (moment : Moment) : Int := moment.seconds / 86400

def secondOfDay (moment : Moment) : Nat := (moment.seconds % 86400).toNat

def date (moment : Moment) : Date := Date.ofDays moment.days

def hour (moment : Moment) : Nat := moment.secondOfDay / 3600

def minute (moment : Moment) : Nat := moment.secondOfDay / 60 % 60

def second (moment : Moment) : Nat := moment.secondOfDay % 60

/-- The moment, when it lies in a year that can be written.  The year is looked at in 32 bits. -/
def inRange (moment : Moment) : Except ClockFault Moment :=
  let year := moment.date.year
  if year - 1900 < -2147483648 || 2147483648 ≤ year - 1900 then .error .yearTooLarge
  else
    let year := Int.bmod year 4294967296
    if 1 ≤ year && year ≤ 9999 then .ok moment else .error (.yearOutOfRange year)

def iso (moment : Moment) : Text :=
  let date := moment.date
  Text.fixed 10 4 date.year.toNat ++ "-" ++ Text.fixed 10 2 date.month ++ "-" ++
    Text.fixed 10 2 date.day ++ "T" ++ Text.fixed 10 2 moment.hour ++ ":" ++
    Text.fixed 10 2 moment.minute ++ ":" ++ Text.fixed 10 2 moment.second ++ "+00:00"

end Moment

def LogRecord.line (moment : Moment) (record : LogRecord) : Text :=
  LogRecord.columns moment.iso record.level.name record.source.name record.message

end ImportAtlas
