import Smsl.Toml.Digits
import Smsl.Toml.Layout
import Smsl.Toml.Value

namespace Smsl.Toml

/-!
# Numbers

Integers of 64 bits in four bases, and floats.  A number is read as far as it
goes; whatever stands behind it is judged by the line or the array around it.
-/

namespace Number

/-- The least magnitude that is out of the range of integers. -/
def integerBound : Nat := Nat.pow 2 63

/-- The least magnitude that rounds to an infinite float of 64 bits. -/
def floatBound : Nat := (Nat.pow 2 54 - 1) * Nat.pow 2 970

/-- The digits that go on a number; an underscore may stand between two of them. -/
def moreDigits (isDigit : Char → Bool) : Text → Text × Text
  | [] =>
      ([], [])
  | ['_'] =>
      ([], ['_'])
  | '_' :: digit :: rest =>
      if isDigit digit then
        let others := moreDigits isDigit rest
        (digit :: others.1, others.2)
      else
        ([], '_' :: digit :: rest)
  | digit :: rest =>
      if isDigit digit then
        let others := moreDigits isDigit rest
        (digit :: others.1, others.2)
      else
        ([], digit :: rest)

/-- One or more digits, without the underscores between them. -/
def digits (isDigit : Char → Bool) : Reader Text
  | [] =>
      none
  | first :: rest =>
      if isDigit first then
        let others := moreDigits isDigit rest
        some (first :: others.1, others.2)
      else
        none

/-- Digits that start with no zero, unless zero is the only one. -/
def leadingDigits : Reader Text
  | '0' :: rest => some (['0'], rest)
  | text => digits Char.isDigit text

/-- A sign that may be missing. -/
def sign : Text → Text × Text
  | '+' :: rest => (['+'], rest)
  | '-' :: rest => (['-'], rest)
  | text => ([], text)

/-- An integer of a base, after the letter of the base. -/
def based
    (base : Nat)
    (isDigit : Char → Bool) :
    Reader Value := fun text => do
  let (written, rest) ← digits isDigit text
  let value := valueOf base written
  if value < integerBound then
    some (.integer value, rest)
  else
    none

/-- A decimal integer within the range of 64 bits. -/
def decimal : Reader Value := fun text => do
  let signed := sign text
  let (written, rest) ← leadingDigits signed.2
  let value := valueOf 10 written
  if signed.1 = ['-'] then
    if value ≤ integerBound then
      some (.integer (-value), rest)
    else
      none
  else if value < integerBound then
    some (.integer value, rest)
  else
    none

/-- An integer. -/
def integer : Reader Value
  | '0' :: 'x' :: rest => based 16 (fun digit => (hexValue digit).isSome) rest
  | '0' :: 'o' :: rest => based 8 (fun digit => '0' ≤ digit && digit ≤ '7') rest
  | '0' :: 'b' :: rest => based 2 (fun digit => digit == '0' || digit == '1') rest
  | text => decimal text

/-- The digits behind a point. -/
def fraction : Reader Text
  | '.' :: rest => digits Char.isDigit rest
  | _ => none

/-- The sign and the digits of an exponent. -/
def exponent : Reader (Text × Text)
  | letter :: rest =>
      if letter == 'e' || letter == 'E' then
        let signed := sign rest
        (digits Char.isDigit signed.2).map fun read => ((signed.1, read.1), read.2)
      else
        none
  | [] =>
      none

/-- A number times a power of ten rounds to no finite float. -/
def overflows
    (value : Nat)
    (power : Int) :
    Bool :=
  let size : Int := (Nat.toDigits 10 value).length + power
  if value = 0 ∨ size < 309 then
    false
  else if 309 < size then
    true
  else if 0 ≤ power then
    floatBound ≤ value * Nat.pow 10 power.toNat
  else
    floatBound * Nat.pow 10 (-power).toNat ≤ value

/-- A power that is written as a sign and digits. -/
def powerOf (written : Text × Text) : Int :=
  let magnitude : Int := valueOf 10 written.2
  if written.1 = ['-'] then -magnitude else magnitude

/-- A float with a fraction or an exponent; only negative ones may be out of range. -/
def decimalFloat : Reader Value := fun text => do
  let signed := sign text
  let (whole, afterWhole) ← leadingDigits signed.2
  let part := fraction afterWhole
  let afterPart := (part.map (·.2)).getD afterWhole
  let power := exponent afterPart
  let rest := (power.map (·.2)).getD afterPart
  let places := (part.map (·.1)).getD []
  let scale := (power.map fun read => powerOf read.1).getD 0 - places.length
  if part.isNone ∧ power.isNone then
    none
  else if signed.1 ≠ ['-'] ∧ overflows (valueOf 10 (whole ++ places)) scale then
    none
  else
    some (.float (String.ofList (text.take (text.length - rest.length))), rest)

/-- A float that is infinite or no number. -/
def specialFloat : Reader Value := fun text =>
  let signed := sign text
  match signed.2 with
  | 'i' :: 'n' :: 'f' :: rest => some (.float (String.ofList (signed.1 ++ ['i', 'n', 'f'])), rest)
  | 'n' :: 'a' :: 'n' :: rest => some (.float (String.ofList (signed.1 ++ ['n', 'a', 'n'])), rest)
  | _ => none

/-- A number. -/
def read : Reader Value := fun text =>
  decimalFloat text <|> specialFloat text <|> integer text

end Number

end Smsl.Toml
