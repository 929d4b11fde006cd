import Proviso.Calendar.Date

/-!
A moment is a day and a time of that day, without a time zone. A second may hold the extra
second that is now and then put in: it is counted as the fraction of a second beyond one.
-/

namespace Proviso.Calendar

def nanosecondsPerSecond : Nat := 1000000000

def IsTime (hour minute second nanosecond : Nat) : Prop :=
  hour < 24 ∧ minute < 60 ∧ second < 60 ∧ nanosecond < 2 * nanosecondsPerSecond ∧
    (nanosecond < nanosecondsPerSecond ∨ second = 59)

instance (hour minute second nanosecond : Nat) :
    Decidable (IsTime hour minute second nanosecond) :=
  inferInstanceAs (Decidable (_ ∧ _))

structure Moment where
  date : Date
  hour : Nat
  minute : Nat
  second : Nat
  nanosecond : Nat
  isTime : IsTime hour minute second nanosecond
  deriving DecidableEq

namespace Moment

def of? (date : Date) (hour minute second nanosecond : Nat) : Option Moment :=
  if isTime : IsTime hour minute second nanosecond then
    some ⟨date, hour, minute, second, nanosecond, isTime⟩
  else none

def midnight (date : Date) : Moment :=
  ⟨date, 0, 0, 0, 0, by decide⟩

/-- From parts as they are written: second sixty is the extra second of second fifty-nine. -/
def ofParts? (year : Int) (month day hour minute second nanosecond : Nat) : Option Moment := do
  let date ← Date.of? year month day
  if second = 60 then of? date hour minute 59 (nanosecond + nanosecondsPerSecond)
  else of? date hour minute second nanosecond

/-! ## Order -/

def parts (moment : Moment) : List Int :=
  [moment.date.year, moment.date.month, moment.date.day,
    moment.hour, moment.minute, moment.second, moment.nanosecond]

def compareParts : List Int → List Int → Ordering
  | [], [] => .eq
  | [], _ :: _ => .lt
  | _ :: _, [] => .gt
  | first :: rest, other :: others =>
    if first < other then .lt
    else if other < first then .gt
    else compareParts rest others

def order (first second : Moment) : Ordering :=
  compareParts first.parts second.parts

/-! ## Offsets -/

def minutesPerDay : Int := 1440

/-- The moment a number of minutes earlier, less than a day in either direction. -/
def earlier? (moment : Moment) (minutes : Int) : Option Moment :=
  let total := (moment.hour * 60 + moment.minute : Int) - minutes
  let within := total % minutesPerDay
  let date :=
    if total < 0 then moment.date.previous?
    else if minutesPerDay ≤ total then moment.date.next?
    else some moment.date
  date.bind fun date =>
    of? date (within / 60).toNat (within % 60).toNat moment.second moment.nanosecond

/-! ## Writing -/

def clockText (hour minute second : Nat) : List Char :=
  Number.paddedDecimal 2 hour ++ ':' :: Number.paddedDecimal 2 minute ++
    ':' :: Number.paddedDecimal 2 second

/-- Day and time with a blank between; the fraction is left out, and the extra second is
written as second sixty. -/
def text (moment : Moment) : String :=
  String.ofList <| moment.date.text ++ ' ' ::
    clockText moment.hour moment.minute
      (moment.second + moment.nanosecond / nanosecondsPerSecond)

end Moment

end Proviso.Calendar
