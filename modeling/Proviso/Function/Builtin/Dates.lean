import Proviso.Calendar.Layout
import Proviso.Function.Basic

/-!
Functions on dates and durations.
-/

namespace Proviso.Builtin

open Calendar

def now : Function where
  name := "Now"
  signature := .fixed [] .datetime
  body moment _ := .ok (.datetime moment)

def today : Function where
  name := "Today"
  signature := .fixed [] .datetime
  body moment _ := .ok (.datetime (.midnight moment.date))

def datePart (arguments : List Value) (index : Nat) : Except FunctionFault Nat := do
  let value ← Argument.int "Date" arguments index
  if 0 ≤ value ∧ value < 2 ^ 32 then pure value.toNat else throw (.datePart value)

/-- A date from year, month and day, and a time if there are six arguments. -/
def dateOf : FunctionBody := fun arguments => do
  let year ← Argument.int "Date" arguments 0
  if year < -2 ^ 31 ∨ 2 ^ 31 ≤ year then throw (.dateYear year)
  else
    let month ← datePart arguments 1
    let day ← datePart arguments 2
    let (hour, minute, second) ←
      if arguments.length = 6 then do
        let hour ← datePart arguments 3
        let minute ← datePart arguments 4
        let second ← datePart arguments 5
        pure (hour, minute, second)
      else pure (0, 0, 0)
    match (Date.of? year month day).bind fun date => Moment.of? date hour minute second 0 with
    | some moment => pure (.datetime moment)
    | none => throw (.noDate year month day hour minute second)

def date : Function :=
  .ofBody "Date" (List.replicate 3 .int) .datetime dateOf

def dateAndTime : Function :=
  .ofBody "Date" (List.replicate 6 .int) .datetime dateOf

def toDateOf : FunctionBody := fun arguments => do
  let text ← Argument.string "ToDate" arguments 0
  match text.bind fun text => readMoment? text.toList with
  | some moment => pure (.datetime moment)
  | none => pure .null

def toDate : Function :=
  .ofBody "ToDate" [.string] (.nullable .datetime) toDateOf

def durationPart (arguments : List Value) (index seconds : Nat) :
    Except FunctionFault Duration := do
  let value ← Argument.int "TimeSpan" arguments index
  match Duration.ofSeconds? (value * seconds) with
  | some duration => pure duration
  | none => throw .durationRange

def timeSpanOf : FunctionBody := fun arguments => do
  let days ← durationPart arguments 0 86400
  let hours ← durationPart arguments 1 3600
  let minutes ← durationPart arguments 2 60
  let seconds ← durationPart arguments 3 1
  match ((days.add? hours).bind (·.add? minutes)).bind (·.add? seconds) with
  | some duration => pure (.timespan duration)
  | none => throw .durationRange

def timeSpan : Function :=
  .ofBody "TimeSpan" (List.replicate 4 .int) .timespan timeSpanOf

def dateFunctions : List Function :=
  [now, today, date, dateAndTime, toDate, timeSpan]

end Proviso.Builtin
