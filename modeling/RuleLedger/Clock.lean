import RuleLedger.Fault

/-! Instants in milliseconds since the start of 1970, and their timestamps in universal time. -/
namespace RuleLedger

/-- A time source that always reports the same instant, so that a replay stamps what the run
stamped. -/
structure Clock where
  epochMs : Int
deriving Repr, DecidableEq

/-- A day of the proleptic Gregorian calendar. -/
structure Date where
  year : Int
  month : Nat
  day : Nat
deriving Repr, DecidableEq

namespace Date

/-- The date of a day number, day 0 being 1970-01-01. Years are counted from March, so that a leap
day ends its year; an era is 400 such years. -/
def ofDayNumber (n : Int) : Date :=
  let shifted := n + 719468
  let era := shifted / 146097
  let dayOfEra := (shifted % 146097).toNat
  let yearOfEra := (dayOfEra - dayOfEra / 1460 + dayOfEra / 36524 - dayOfEra / 146096) / 365
  let dayOfYear := dayOfEra - (365 * yearOfEra + yearOfEra / 4 - yearOfEra / 100)
  let shiftedMonth := (5 * dayOfYear + 2) / 153
  let month := if shiftedMonth < 10 then shiftedMonth + 3 else shiftedMonth - 9
  { year := era * 400 + yearOfEra + (if month ≤ 2 then 1 else 0)
    month := month
    day := dayOfYear - (153 * shiftedMonth + 2) / 5 + 1 }

end Date

/-- A number in at least `width` digits. -/
def padded (width n : Nat) : String :=
  let digits := toString n
  String.ofList (List.replicate (width - digits.length) '0') ++ digits

/-- An instant in its civil parts. -/
structure Civil where
  date : Date
  hour : Nat
  minute : Nat
  second : Nat
  millisecond : Nat
deriving Repr, DecidableEq

/-- The civil parts of a second, with a millisecond in it. -/
def Civil.ofSecond (second : Int) (millisecond : Nat) : Civil :=
  let time := (second % 86400).toNat
  { date := Date.ofDayNumber (second / 86400)
    hour := time / 3600
    minute := time / 60 % 60
    second := time % 60
    millisecond := millisecond }

/-- The seconds of an instant: its milliseconds as a double, divided by 1000 as doubles are. Far
instants are so held only roughly. -/
def seconds? (ms : Int) : Option Dyadic := do
  let d ← Dyadic.ofFloat? (← Binary64.ofInt? ms)
  let quotient ← Binary64.ofRatio? d.num (d.den * 1000)
  Dyadic.ofFloat? (Binary64.withSign d.negative quotient)

namespace Dyadic

/-- The microseconds behind the point of a time in seconds: a double again, rounded to the nearest
whole number. -/
def microseconds (d : Dyadic) : Nat :=
  ((Binary64.ofRatio? (d.num % d.den * 1000000) d.den).bind ofFloat?).elim 0
    fun m => divNearest m.num m.den

/-- The second that a time in seconds belongs to once it is rounded to microseconds. -/
def second (d : Dyadic) : Int :=
  let rest := d.signed d.microseconds
  if 1000000 ≤ rest then d.truncate + 1
  else if rest < 0 then d.truncate - 1
  else d.truncate

end Dyadic

/-- Whether a number fits a word of so many bits with a sign. -/
def fitsWord (bits : Nat) (n : Int) : Bool :=
  let bound : Nat := 1 <<< (bits - 1)
  (-bound ≤ n) && n < bound

/-- The year of a second. First the seconds and then the years since 1900 have to fit the words that
hold them; a year that is itself too large for its word wraps around. The seconds are compared with
the largest word as a double, which is one more than that word. -/
def calendarYear (second : Int) : Except TimeFault Int :=
  let year := (Date.ofDayNumber (second / 86400)).year
  if !(fitsWord 64 second || second == (1 <<< 63 : Nat)) then .error .timer
  else if !fitsWord 32 (year - 1900) then .error .calendar
  else .ok (year.bmod (1 <<< 32))

/-- The civil parts of an instant. All but the millisecond come from its seconds as a double. Only
the years 1 to 9999 have timestamps. -/
def checkRange (ms : Int) : Except TimeFault Civil :=
  match seconds? ms with
  | none => .error .tooLarge
  | some d =>
    match calendarYear d.second with
    | .error f => .error f
    | .ok year =>
      if 1 ≤ year && year ≤ 9999 then .ok (Civil.ofSecond d.second (ms % 1000).toNat)
      else .error (.year year)

/-- Year, month and day joined by dashes; the year is written without padding. -/
def Civil.dateText (c : Civil) : String :=
  toString c.date.year ++ "-" ++ padded 2 c.date.month ++ "-" ++ padded 2 c.date.day

def Civil.timeText (c : Civil) : String :=
  padded 2 c.hour ++ ":" ++ padded 2 c.minute ++ ":" ++ padded 2 c.second

/-- An instant as a date, the letter T, the time to the millisecond, and the letter Z. -/
def timestamp (ms : Int) : Except TimeFault String := do
  let c ← checkRange ms
  return c.dateText ++ "T" ++ c.timeText ++ "." ++ padded 3 c.millisecond ++ "Z"

namespace Clock

def timestamp (c : Clock) : Except TimeFault String := RuleLedger.timestamp c.epochMs

/-- The milliseconds as a double. -/
def monotonic (c : Clock) : Except NumericFault Float := (Number.int c.epochMs).toFloat

end Clock
end RuleLedger
