import ControlPool.Toml.Layout

/-!
# Dates and times

A date, a time of day, or both with an optional offset. Days must exist in their month; hours end
at 23, minutes at 59 and seconds at 60, the leap second.
-/

namespace ControlPool.Toml

/-- The number that two decimal digits write, if it lies between two bounds. -/
def twoDigits? (low high : Nat) : Reader Nat
  | a :: b :: rest =>
    let n := (a.toNat - '0'.toNat) * 10 + (b.toNat - '0'.toNat)
    if a.isDigit && b.isDigit && low ≤ n && n ≤ high then some (n, rest) else none
  | _ => none

/-- Whether a year has a leap day. -/
def isLeapYear (year : Nat) : Bool := year % 4 = 0 && (year % 100 ≠ 0 || year % 400 = 0)

/-- The number of days in a month. -/
def daysIn (year month : Nat) : Nat :=
  if month = 2 then if isLeapYear year then 29 else 28
  else if month = 4 ∨ month = 6 ∨ month = 9 ∨ month = 11 then 30
  else 31

/-- Drops a date. -/
def dropDate? (text : List Char) : Option (List Char) := do
  let (century, text) ← twoDigits? 0 99 text
  let (year, text) ← twoDigits? 0 99 text
  match text with
  | '-' :: text => do
    let (month, text) ← twoDigits? 1 12 text
    match text with
    | '-' :: text => do
      let (_, rest) ← twoDigits? 1 (daysIn (century * 100 + year) month) text
      return rest
    | _ => none
  | _ => none

/-- Drops the fraction of a second if there is one. -/
def dropSecondFraction : List Char → List Char
  | '.' :: c :: rest => if c.isDigit then rest.dropWhile Char.isDigit else '.' :: c :: rest
  | text => text

/-- Drops hours and minutes. -/
def dropHourMinute? (text : List Char) : Option (List Char) := do
  let (_, text) ← twoDigits? 0 23 text
  match text with
  | ':' :: text => (twoDigits? 0 59 text).map (·.2)
  | _ => none

/-- Drops a time of day. -/
def dropTime? (text : List Char) : Option (List Char) := do
  match ← dropHourMinute? text with
  | ':' :: text => (twoDigits? 0 60 text).map fun seconds => dropSecondFraction seconds.2
  | _ => none

/-- Drops an offset if there is one; an offset that begins must be complete. -/
def dropOffset? : List Char → Option (List Char)
  | 'Z' :: rest => some rest
  | 'z' :: rest => some rest
  | '+' :: rest => dropHourMinute? rest
  | '-' :: rest => dropHourMinute? rest
  | text => some text

/-- Drops the time of day and the offset after a date, if there are any. -/
def dropTimeOfDate? : List Char → Option (List Char)
  | [] => some []
  | c :: rest =>
    if c = 'T' || c = 't' || c = ' ' then
      match dropTime? rest with
      | some rest => dropOffset? rest
      | none => some (c :: rest)
    else some (c :: rest)

/-- Drops a date, a time, or both. -/
def dropMoment? (text : List Char) : Option (List Char) :=
  match dropDate? text with
  | some rest => dropTimeOfDate? rest
  | none => dropTime? text

end ControlPool.Toml
