import Smsl.Text.Basic

namespace Smsl

/-!
# Significant lines

A unit is a list of raw lines.  Every stage works on the significant ones: a raw
line loses its comment and its surrounding blanks, and counts if text remains.
Numbers are positions in the raw list, so skipped lines never renumber others.
Where a number is counted on, words of 64 bits may come to an end.
-/

/--
How line numbers are counted on: without end, or in words of 64 bits, where a build
traps behind the last word or goes on at zero.
-/
inductive Counting where
  | unbounded
  | trapping
  | wrapping
  deriving Repr, DecidableEq

namespace Counting

/-- The number of words; the last word is one less. -/
def words : Nat := 18446744073709551616

/-- The number behind a number; none where the build traps. -/
def next? : Counting → Nat → Option Nat
  | .unbounded, number =>
      some (number + 1)
  | .trapping, number =>
      if number + 1 < words then some (number + 1) else none
  | .wrapping, number =>
      some ((number + 1) % words)

end Counting

/-- A line with text, under its 1-based number in the unit. -/
structure SourceLine where
  number : Nat
  text : Text
  deriving Repr, DecidableEq

namespace SourceLine

/-- The part of a raw line before its first `//`. -/
def beforeComment : Text → Text
  | [] =>
      []
  | '/' :: '/' :: _ =>
      []
  | character :: rest =>
      character :: beforeComment rest

/-- A raw line without its comment and its surrounding blanks. -/
def sanitize (raw : Text) : Text :=
  Text.trim (beforeComment raw)

/-- The significant line that a raw line at a position stands for, if any. -/
def ofRaw?
    (raw : Text)
    (number : Nat) :
    Option SourceLine :=
  let text := sanitize raw
  if text.isEmpty then
    none
  else
    some { number, text }

/-- The significant lines of a unit, in order. -/
def significant (lines : List Text) : List SourceLine :=
  (lines.zipIdx 1).filterMap fun numbered =>
    ofRaw? numbered.1 numbered.2

end SourceLine

end Smsl
