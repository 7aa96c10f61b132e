import Smsl.Text.Basic

namespace Smsl.Toml

/-!
# Digits

The numbers that digits write.  Hexadecimal digits are read in both cases.
-/

/-- The value of a hexadecimal digit. -/
def hexValue (character : Char) : Option Nat :=
  if character.isDigit then
    some (character.toNat - '0'.toNat)
  else if 'a' ≤ character && character ≤ 'f' then
    some (character.toNat - 'a'.toNat + 10)
  else if 'A' ≤ character && character ≤ 'F' then
    some (character.toNat - 'A'.toNat + 10)
  else
    none

/-- The number that digits of a base write. -/
def valueOf
    (base : Nat)
    (digits : Text) :
    Nat :=
  digits.foldl (fun value digit => base * value + (hexValue digit).getD 0) 0

end Smsl.Toml
