import Smsl.Text.Basic

namespace Smsl

/-!
# Kinds of statements

A line is dispatched by its leading text alone: every stage that works on whole
lines asks for the kind first and so agrees with the others on what a line is.
-/

/-- The kinds of statements. -/
inductive StatementKind where
  | stateDeclaration
  | transitionDeclaration
  | action
  | marker
  | brace
  | unrecognized
  deriving Repr, DecidableEq

namespace StatementKind

/-- The name of a kind. -/
def name : StatementKind → String
  | .stateDeclaration => "StateDeclaration"
  | .transitionDeclaration => "TransitionDeclaration"
  | .action => "Action"
  | .marker => "Marker"
  | .brace => "Brace"
  | .unrecognized => "Unrecognized"

/-- The kind of a line, by its leading text. -/
def ofText (line : Text) : StatementKind :=
  if Text.startsWith "state ".toList line then
    .stateDeclaration
  else if Text.startsWith "transition".toList line then
    .transitionDeclaration
  else if Text.startsWith "action".toList line then
    .action
  else if line = "start;".toList ∨ line = "end;".toList then
    .marker
  else if line = "\x7b".toList ∨ line = "\x7d".toList then
    .brace
  else
    .unrecognized

end StatementKind

end Smsl
