import Smsl.Toml.Digits
import Smsl.Toml.Layout
import Smsl.Toml.Value

namespace Smsl.Toml

/-!
# Dates and times

A date, a time, or both, perhaps with the distance from universal time.  Only
days that exist are read.
-/

namespace DateTime

/-- A number of a fixed count of digits within a range. -/
def field (width least most : Nat) : Reader Nat := fun text =>
  let digits := text.take width
  let value := valueOf 10 digits
  if digits.length = width ∧ digits.all Char.isDigit ∧ least ≤ value ∧ value ≤ most then
    some (value, text.drop width)
  else
    none

/-- A given character. -/
def mark (isMark : Char → Bool) : Reader Unit
  | character :: rest => if isMark character then some ((), rest) else none
  | [] => none

/-- The year has a 29th of February. -/
def isLeap (year : Nat) : Bool :=
  year % 4 == 0 && (year % 100 != 0 || year % 400 == 0)

/-- The number of days of a month. -/
def daysOf (year month : Nat) : Nat :=
  if month = 2 then
    if isLeap year then 29 else 28
  else if month = 4 ∨ month = 6 ∨ month = 9 ∨ month = 11 then
    30
  else
    31

/-- The text after a date. -/
def afterDate? (text : Text) : Option Text := do
  let (year, text) ← field 4 0 9999 text
  let (_, text) ← mark (· == '-') text
  let (month, text) ← field 2 1 12 text
  let (_, text) ← mark (· == '-') text
  let (_, text) ← field 2 1 (daysOf year month) text
  return text

/-- The text after the digits of a fraction of a second, or the same text. -/
def afterFraction : Text → Text
  | '.' :: digit :: rest =>
      if digit.isDigit then
        rest.dropWhile Char.isDigit
      else
        '.' :: digit :: rest
  | text =>
      text

/-- The text after a time of day; a minute may have a leap second. -/
def afterTime? (text : Text) : Option Text := do
  let (_, text) ← field 2 0 23 text
  let (_, text) ← mark (· == ':') text
  let (_, text) ← field 2 0 59 text
  let (_, text) ← mark (· == ':') text
  let (_, text) ← field 2 0 60 text
  return afterFraction text

/-- The text after a distance from universal time. -/
def afterOffset? (text : Text) : Option Text :=
  match mark (fun character => character == 'Z' || character == 'z') text with
  | some (_, rest) =>
      some rest
  | none => do
      let (_, text) ← mark (fun character => character == '+' || character == '-') text
      let (_, text) ← field 2 0 23 text
      let (_, text) ← mark (· == ':') text
      let (_, text) ← field 2 0 59 text
      return text

/-- The text after a time of day that follows a date, or the same text. -/
def afterTimeOfDate (text : Text) : Text :=
  let after := do
    let (_, text) ←
      mark (fun character => character == 'T' || character == 't' || character == ' ') text
    let text ← afterTime? text
    return (afterOffset? text).getD text
  after.getD text

/-- A date with or without a time, or a time alone. -/
def read : Reader Value := fun text => do
  let rest ← (afterDate? text).map afterTimeOfDate <|> afterTime? text
  return (.dateTime (String.ofList (text.take (text.length - rest.length))), rest)

end DateTime

end Smsl.Toml
