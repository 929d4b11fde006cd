import Proviso.Number.Decimal

/-!
Days of the Gregorian calendar, extended to all years of a fixed range before and after the
calendar's own time.
-/

namespace Proviso.Calendar

def isLeapYear (year : Int) : Bool :=
  year % 4 = 0 && (year % 100 ≠ 0 || year % 400 = 0)

def daysInMonth (year : Int) (month : Nat) : Nat :=
  match month with
  | 2 => if isLeapYear year then 29 else 28
  | 4 | 6 | 9 | 11 => 30
  | _ => 31

def firstYear : Int := -262143

def lastYear : Int := 262142

def IsDate (year : Int) (month day : Nat) : Prop :=
  firstYear ≤ year ∧ year ≤ lastYear ∧ 1 ≤ month ∧ month ≤ 12 ∧
    1 ≤ day ∧ day ≤ daysInMonth year month

instance (year : Int) (month day : Nat) : Decidable (IsDate year month day) :=
  inferInstanceAs (Decidable (_ ∧ _))

structure Date where
  year : Int
  month : Nat
  day : Nat
  isDate : IsDate year month day
  deriving DecidableEq

namespace Date

def of? (year : Int) (month day : Nat) : Option Date :=
  if isDate : IsDate year month day then some ⟨year, month, day, isDate⟩ else none

@[simp] theorem of?_self (date : Date) : of? date.year date.month date.day = some date := by
  simp [of?, date.isDate]

def next? (date : Date) : Option Date :=
  of? date.year date.month (date.day + 1) <|>
    of? date.year (date.month + 1) 1 <|>
    of? (date.year + 1) 1 1

def previous? (date : Date) : Option Date :=
  of? date.year date.month (date.day - 1) <|>
    of? date.year (date.month - 1) (daysInMonth date.year (date.month - 1)) <|>
    of? (date.year - 1) 12 31

/-- Years of the common range have four digits; beyond it a sign is written as well. -/
def yearText (year : Int) : List Char :=
  if 0 ≤ year ∧ year ≤ 9999 then Number.paddedDecimal 4 year.natAbs
  else (if year < 0 then '-' else '+') :: Number.paddedDecimal 4 year.natAbs

def text (date : Date) : List Char :=
  yearText date.year ++ '-' :: Number.paddedDecimal 2 date.month ++
    '-' :: Number.paddedDecimal 2 date.day

end Date

example : (Date.of? 1900 2 29, (Date.of? 2000 2 29).isSome) = (none, true) := by decide

end Proviso.Calendar
