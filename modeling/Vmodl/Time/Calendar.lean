/-!
# The civil calendar

Days are counted from the first of January of the year 0 of the proleptic Gregorian calendar.
-/

namespace Vmodl.Time

def isLeap (year : Int) : Bool := year % 4 == 0 && (year % 100 != 0 || year % 400 == 0)

def daysBeforeYear (year : Int) : Int :=
  365 * year + (year + 3) / 4 - (year + 99) / 100 + (year + 399) / 400

def monthLengths (year : Int) : List Nat :=
  [31, if isLeap year then 29 else 28, 31, 30, 31, 30, 31, 31, 30, 31, 30, 31]

def totalDays : List Nat → Nat
  | [] => 0
  | n :: lengths => n + totalDays lengths

structure Date where
  year : Int
  month : Nat
  day : Nat
deriving DecidableEq, Repr

namespace Date

def Valid (d : Date) : Prop :=
  1 ≤ d.month ∧ 1 ≤ d.day ∧ ∃ n ∈ (monthLengths d.year)[d.month - 1]?, d.day ≤ n

instance (d : Date) : Decidable d.Valid := inferInstanceAs (Decidable (_ ∧ _ ∧ _))

def toDays (d : Date) : Int :=
  daysBeforeYear d.year + totalDays ((monthLengths d.year).take (d.month - 1)) + d.day - 1

end Date

def yearOfDay (day : Int) : Int :=
  let guess := day * 400 / 146097
  if daysBeforeYear (guess + 1) ≤ day then guess + 1
  else if day < daysBeforeYear guess then guess - 1
  else guess

/-- The month and the day of the month, from the months that are left and their first number. -/
def monthAndDay (month rest : Nat) : List Nat → Nat × Nat
  | [] => (month, rest + 1)
  | n :: lengths => if rest < n then (month, rest + 1) else monthAndDay (month + 1) (rest - n) lengths

def Date.ofDays (day : Int) : Date :=
  let year := yearOfDay day
  let (month, day) := monthAndDay 1 (day - daysBeforeYear year).toNat (monthLengths year)
  ⟨year, month, day⟩

/-- The first of January 1970. -/
def epochDay : Int := 719528

end Vmodl.Time
