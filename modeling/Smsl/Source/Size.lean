namespace Smsl

/-!
# Sizes for people

A number of bytes as a short text: bytes up to 1023, and above that two decimals
of the largest unit that the size reaches.
-/

namespace Size

/-- A quotient rounded to the nearest number, and halfway to the even one. -/
def roundDiv (dividend divisor : Nat) : Nat :=
  let quotient := dividend / divisor
  let twice := 2 * (dividend % divisor)
  if twice < divisor ∨ twice = divisor ∧ quotient % 2 = 0 then
    quotient
  else
    quotient + 1

/-- A number rounded to its 53 leading binary digits. -/
def toPrecision (size : Nat) : Nat :=
  let step := Nat.pow 2 (Nat.log2 size - 52)
  roundDiv size step * step

/-- A number of hundredths with its two decimals. -/
def decimals (hundredths : Nat) : String :=
  let fraction := hundredths % 100
  toString (hundredths / 100) ++ "." ++
    (if fraction < 10 then "0" else "") ++ toString fraction

/--
A size in the first unit in which it stays below 1024, or in the last one.  The
first unit is given with its scale, and each further one is 1024 times larger.
-/
def inUnit
    (size scale : Nat)
    (unit : String) :
    List String → String
  | [] =>
      decimals (roundDiv (100 * size) scale) ++ " " ++ unit
  | larger :: rest =>
      if size < 1024 * scale then
        decimals (roundDiv (100 * size) scale) ++ " " ++ unit
      else
        inUnit size (1024 * scale) larger rest

/-- A size as a short text. -/
def describe (size : Nat) : String :=
  if toPrecision size < 1024 then
    toString size ++ " B"
  else
    inUnit (toPrecision size) 1024 "KB" ["MB", "GB"]

end Size

end Smsl
