import Smsl.Text.Basic

namespace Smsl

/-!
# Parts of a transition

A transition line is split at its separators, `:` and `->`.  A separator takes
the blanks on both of its sides with it, and empty parts at the end are dropped.
Three parts make a transition: a header with its name, an event, and a target.
-/

/-- The arrow in front of a target. -/
def transitionArrow : String := "->"

namespace TransitionParts

/-- The pieces between separators; `n` separators give `n + 1` pieces. -/
def pieces : Text → List Text
  | [] =>
      [[]]
  | ':' :: rest =>
      [] :: pieces rest
  | '-' :: '>' :: rest =>
      [] :: pieces rest
  | character :: rest =>
      Text.consFirst character (pieces rest)

/-- Drop the blanks next to a separator, for pieces that follow one. -/
def trimFollowing : List Text → List Text
  | [] =>
      []
  | [last] =>
      [Text.trimStart last]
  | piece :: next :: rest =>
      Text.trim piece :: trimFollowing (next :: rest)

/-- Drop the blanks next to a separator; the two ends of the line stay as they are. -/
def trimJoints : List Text → List Text
  | [] =>
      []
  | [only] =>
      [only]
  | first :: next :: rest =>
      Text.trimEnd first :: trimFollowing (next :: rest)

/-- Drop the empty parts at the end. -/
def dropTrailingEmpty (parts : List Text) : List Text :=
  (parts.reverse.dropWhile List.isEmpty).reverse

/-- The parts of a line, split at its separators. -/
def split (line : Text) : List Text :=
  dropTrailingEmpty (trimJoints (pieces line))

end TransitionParts

/-- A transition line in parts: at least three of them. -/
structure TransitionParts where
  header : Text
  eventPart : Text
  targetPart : Text
  others : List Text
  deriving Repr, DecidableEq

namespace TransitionParts

/-- The parts of a line, if there are at least three. -/
def ofText? (line : Text) : Option TransitionParts :=
  match split line with
  | header :: eventPart :: targetPart :: others =>
      some { header, eventPart, targetPart, others }
  | _ =>
      none

/-- The name of the transition: the second field of the header. -/
def name? (parts : TransitionParts) : Option Text :=
  (Text.fields parts.header)[1]?

/-- The event of the transition. -/
def event (parts : TransitionParts) : Text :=
  Text.trim parts.eventPart

/-- The target of the transition: the third part without its final brace. -/
def target (parts : TransitionParts) : Text :=
  Text.trim (Text.withoutEnd ['\x7b'] (Text.trim parts.targetPart))

/-- The last part. -/
def last (parts : TransitionParts) : Text :=
  parts.others.getLastD parts.targetPart

/-- The number of parts. -/
def size (parts : TransitionParts) : Nat :=
  3 + parts.others.length

end TransitionParts

end Smsl
