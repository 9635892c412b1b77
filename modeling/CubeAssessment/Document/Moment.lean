/-! # Dates and times

The date and time values of a configuration document. No setting is one; but where a setting is a
table of texts, a date stands for a table with its text under a reserved name, so the canonical
text of a moment is needed. -/

namespace CubeAssessment.Document

/-- A calendar date. -/
structure Date where
  /-- The year. -/
  year : Nat
  /-- The month, from 1. -/
  month : Nat
  /-- The day of the month, from 1. -/
  day : Nat
  deriving DecidableEq, Repr

/-- A time of day. -/
structure TimeOfDay where
  /-- The hour. -/
  hour : Nat
  /-- The minute. -/
  minute : Nat
  /-- The second; 60 is a leap second. -/
  second : Nat
  /-- The fraction of the second, in nanoseconds. -/
  nanosecond : Nat
  deriving DecidableEq, Repr

/-- The distance of local time from universal time. -/
inductive Offset where
  /-- Universal time, written `Z`. -/
  | zulu
  /-- A number of minutes. -/
  | minutes (n : Int)
  deriving DecidableEq, Repr

/-- **A date, a time of day, or both.** -/
inductive Moment where
  /-- A date. -/
  | date (date : Date)
  /-- A time of day. -/
  | time (time : TimeOfDay)
  /-- A date and a time of day, with an offset if one is given. -/
  | dateTime (date : Date) (time : TimeOfDay) (offset : Option Offset)
  deriving DecidableEq, Repr

/-- The number of days of a month. -/
def daysInMonth (year month : Nat) : Nat :=
  if month = 2 then
    if year % 4 = 0 ∧ (year % 100 ≠ 0 ∨ year % 400 = 0) then 29 else 28
  else if month = 4 ∨ month = 6 ∨ month = 9 ∨ month = 11 then 30
  else 31

/-- The digits of a number, padded with zeros to a width. -/
def padded (width n : Nat) : String :=
  let digits := Nat.toDigits 10 n
  String.ofList (List.replicate (width - digits.length) '0' ++ digits)

/-- The text of a date. -/
def Date.text (d : Date) : String :=
  padded 4 d.year ++ "-" ++ padded 2 d.month ++ "-" ++ padded 2 d.day

/-- The text of a time, its fraction without trailing zeros. -/
def TimeOfDay.text (t : TimeOfDay) : String :=
  let fraction := if t.nanosecond = 0 then ""
    else "." ++ String.ofList
      ((padded 9 t.nanosecond).toList.reverse.dropWhile (· == '0')).reverse
  padded 2 t.hour ++ ":" ++ padded 2 t.minute ++ ":" ++ padded 2 t.second ++ fraction

/-- The text of an offset. -/
def Offset.text : Offset → String
  | zulu => "Z"
  | minutes n =>
      (if n < 0 then "-" else "+") ++ padded 2 (n.natAbs / 60) ++ ":" ++ padded 2 (n.natAbs % 60)

/-- **The canonical text of a moment.** -/
def Moment.text : Moment → String
  | date d => d.text
  | time t => t.text
  | dateTime d t offset => d.text ++ "T" ++ t.text ++ (offset.map Offset.text).getD ""

end CubeAssessment.Document
