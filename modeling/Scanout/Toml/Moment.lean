import Scanout.Toml.Scan

/-!
# Reading TOML: dates and times

A moment is a date, a time, or both with an optional distance from universal time. Every part is
checked: months, days of the month in leap years and others, hours, minutes, and seconds up to a
leap second.
-/

set_option autoImplicit false

namespace Scanout.Toml

structure Date where
  year : Nat
  month : Nat
  day : Nat
  deriving DecidableEq, Inhabited

structure Time where
  hour : Nat
  minute : Nat
  second : Nat
  nanosecond : Nat
  deriving DecidableEq, Inhabited

/-- A moment; `offset` is the distance from universal time in minutes. -/
structure Moment where
  date : Option Date := none
  time : Option Time := none
  offset : Option Int := none
  deriving DecidableEq, Inhabited

def isLeapYear (year : Nat) : Bool :=
  year % 4 == 0 && (year % 100 != 0 || year % 400 == 0)

def daysIn (year month : Nat) : Nat :=
  if month = 2 then if isLeapYear year then 29 else 28
  else if month = 4 ∨ month = 6 ∨ month = 9 ∨ month = 11 then 30
  else 31

/-- Reads two digits of a number between two bounds. -/
def pair (least greatest : Nat) : Reader Nat := fun input => do
  let (number, rest) ← exactly 10 2 input
  if least ≤ number ∧ number ≤ greatest then some (number, rest) else none

def date : Reader Date := fun input => do
  let (year, rest) ← exactly 10 4 input
  let rest ← skip? ['-'] rest
  let (month, rest) ← pair 1 12 rest
  let rest ← skip? ['-'] rest
  let (day, rest) ← pair 1 31 rest
  if day ≤ daysIn year month then some (⟨year, month, day⟩, rest) else none

/-- Nine places after the point; further ones are dropped. -/
def nanosecondsOf (places : List Char) : Nat :=
  valueOf 10 (places.take 9) * Nat.pow 10 (9 - places.length)

def secondFraction : List Char → Nat × List Char
  | '.' :: rest =>
    let places := rest.takeWhile (isDigitIn 10)
    if places.isEmpty then (0, '.' :: rest)
    else (nanosecondsOf places, rest.drop places.length)
  | input => (0, input)

def time : Reader Time := fun input => do
  let (hour, rest) ← pair 0 23 input
  let rest ← skip? [':'] rest
  let (minute, rest) ← pair 0 59 rest
  let rest ← skip? [':'] rest
  let (second, rest) ← pair 0 60 rest
  let (nanosecond, rest) := secondFraction rest
  some (⟨hour, minute, second, nanosecond⟩, rest)

def offset : Reader Int
  | 'Z' :: rest => some (0, rest)
  | 'z' :: rest => some (0, rest)
  | mark :: rest => do
    let direction ← if mark = '+' then some 1 else if mark = '-' then some (-1) else none
    let (hour, rest) ← pair 0 23 rest
    let rest ← skip? [':'] rest
    let (minute, rest) ← pair 0 59 rest
    some (direction * (60 * hour + minute : Nat), rest)
  | [] => none

def timeAfterDate : Reader Time
  | mark :: rest => if mark = 'T' ∨ mark = 't' ∨ mark = ' ' then time rest else none
  | [] => none

/-- Reads a moment that starts with a date. -/
def datedMoment : Reader Moment := fun input => do
  let (day, rest) ← date input
  match timeAfterDate rest with
  | none => some ({ date := some day }, rest)
  | some (hour, rest) =>
    match offset rest with
    | none => some ({ date := some day, time := some hour }, rest)
    | some (distance, rest) =>
      some ({ date := some day, time := some hour, offset := some distance }, rest)

def moment : Reader Moment := fun input =>
  match datedMoment input with
  | some found => some found
  | none => (time input).map fun (hour, rest) => ({ time := some hour }, rest)

end Scanout.Toml
