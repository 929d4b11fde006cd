import Proviso.Number.Decimal
import Proviso.Calendar.Moment
import Proviso.Text.Blank

/-!
Signed lengths of time, exact to the nanosecond, up to the number of milliseconds that a
64-bit word holds in either direction.
-/

namespace Proviso.Calendar

open Proviso.Text Proviso.Number

def durationLimit : Int := (2 ^ 63 - 1) * 1000000

def IsDuration (nanoseconds : Int) : Prop :=
  -durationLimit ≤ nanoseconds ∧ nanoseconds ≤ durationLimit

instance (nanoseconds : Int) : Decidable (IsDuration nanoseconds) :=
  inferInstanceAs (Decidable (_ ∧ _))

structure Duration where
  nanoseconds : Int
  isDuration : IsDuration nanoseconds
  deriving DecidableEq

namespace Duration

def of? (nanoseconds : Int) : Option Duration :=
  if isDuration : IsDuration nanoseconds then some ⟨nanoseconds, isDuration⟩ else none

def ofSeconds? (seconds : Int) : Option Duration :=
  of? (seconds * nanosecondsPerSecond)

def add? (first second : Duration) : Option Duration :=
  of? (first.nanoseconds + second.nanoseconds)

def neg (duration : Duration) : Duration :=
  ⟨-duration.nanoseconds, by
    have := duration.isDuration
    unfold IsDuration at *
    omega⟩

/-- Whole seconds, a fraction dropped. -/
def seconds (duration : Duration) : Int :=
  Int.tdiv duration.nanoseconds nanosecondsPerSecond

/-- The sum of days, hours, minutes and seconds, if all four and every partial sum are in
range. -/
def ofClock? (days hours minutes seconds : Int) : Option Duration := do
  let days ← ofSeconds? (days * 86400)
  let hours ← ofSeconds? (hours * 3600)
  let minutes ← ofSeconds? (minutes * 60)
  let seconds ← ofSeconds? seconds
  (← (← days.add? hours).add? minutes).add? seconds

/-! ## The layout `[-]d.hh:mm:ss` -/

/-- Days are written only when there are any. -/
def text (duration : Duration) : String :=
  let total := duration.seconds.natAbs
  let days := total / 86400
  let clock := Moment.clockText (total % 86400 / 3600) (total % 3600 / 60) (total % 60)
  let sign := if duration.nanoseconds < 0 then ['-'] else []
  String.ofList <| sign ++ (if 0 < days then decimal days ++ '.' :: clock else clock)

def cutAt? (char : Char) : List Char → Option (List Char × List Char)
  | [] => none
  | first :: rest =>
    if first = char then some ([], rest)
    else (cutAt? char rest).map fun (before, after) => (first :: before, after)

def readClock? (text : List Char) : Option (Int × Int × Int) := do
  let (hours, rest) ← cutAt? ':' text
  let (minutes, seconds) ← cutAt? ':' rest
  if (cutAt? ':' seconds).isSome then none
  else
    let hours ← readInt64? hours
    let minutes ← readInt64? minutes
    let seconds ← readInt64? seconds
    if 60 ≤ minutes.toInt ∨ 60 ≤ seconds.toInt then none
    else some (hours.toInt, minutes.toInt, seconds.toInt)

/-- Without its leading minus sign, and days in front of the first point. -/
def readUnsigned? (text : List Char) : Option Duration :=
  match cutAt? '.' text with
  | some (days, clock) => do
    let days ← readInt64? days
    let (hours, minutes, seconds) ← readClock? clock
    ofClock? days.toInt hours minutes seconds
  | none => do
    let (hours, minutes, seconds) ← readClock? text
    ofClock? 0 hours minutes seconds

def read? (text : List Char) : Option Duration :=
  match trim text with
  | '-' :: rest => (readUnsigned? rest).map neg
  | text => readUnsigned? text

end Duration

end Proviso.Calendar
