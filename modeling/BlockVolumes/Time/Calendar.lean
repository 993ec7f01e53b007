/-!
The proleptic Gregorian calendar: days counted from 1970-01-01, and back to year, month and day.
-/

namespace BlockVolumes.Calendar

structure Date where
  year : Int
  month : Nat
  day : Nat
deriving DecidableEq

def isLeap (year : Int) : Bool :=
  year % 4 == 0 && (year % 100 != 0 || year % 400 == 0)

def daysBefore (year : Int) : Int :=
  365 * year + (year + 3) / 4 - (year + 99) / 100 + (year + 399) / 400

def epoch : Int := 719528

def monthLengths (year : Int) : List Nat :=
  [31, if isLeap year then 29 else 28, 31, 30, 31, 30, 31, 31, 30, 31, 30, 31]

def monthLength (year : Int) (month : Nat) : Nat :=
  ((monthLengths year)[month - 1]?).getD 0

def Date.isValid (d : Date) : Bool :=
  1 ≤ d.month && d.month ≤ 12 && 1 ≤ d.day && d.day ≤ monthLength d.year d.month

def total (lengths : List Nat) : Nat := lengths.foldr (· + ·) 0

def daysBeforeMonth (year : Int) (month : Nat) : Nat :=
  total ((monthLengths year).take (month - 1))

def Date.toDays (d : Date) : Int :=
  daysBefore d.year + daysBeforeMonth d.year d.month + (d.day - 1 : Int) - epoch

/-- The year that holds the day `days` after the first day of year zero. The quotient by the mean
length of a year is off by at most one. -/
def yearOf (days : Int) : Int :=
  let guess := days * 400 / 146097
  if days < daysBefore guess then guess - 1
  else if days < daysBefore (guess + 1) then guess
  else guess + 1

def monthAndDay (month rest : Nat) : List Nat → Nat × Nat
  | [] => (month, rest + 1)
  | length :: lengths =>
    if rest < length then (month, rest + 1) else monthAndDay (month + 1) (rest - length) lengths

def Date.ofDays (days : Int) : Date :=
  let year := yearOf (days + epoch)
  let (month, day) := monthAndDay 1 (days + epoch - daysBefore year).toNat (monthLengths year)
  ⟨year, month, day⟩

end BlockVolumes.Calendar
