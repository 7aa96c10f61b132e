import Smsl.Line
import Smsl.Log.Event
import Smsl.Quadruple.Basic
import Smsl.Statement.Kind
import Smsl.Statement.Transition

namespace Smsl

/-!
# Generation

Action and transition lines are lowered to quadruples, one each, in order.  The
lines are read anew, so code is generated for any unit; a line that cannot be
lowered is reported and skipped.
-/

/-- What can be wrong with a line that is to be lowered. -/
inductive GenerationError where
  | invalidActionFormat (line : Nat)
  | invalidTransitionFormat (line : Nat)
  deriving Repr, DecidableEq

namespace GenerationError

/-- The name of the kind of an error. -/
def name : GenerationError → String
  | .invalidActionFormat _ => "InvalidActionFormat"
  | .invalidTransitionFormat _ => "InvalidTransitionFormat"

/-- The line that cannot be lowered. -/
def line : GenerationError → Nat
  | .invalidActionFormat line => line
  | .invalidTransitionFormat line => line

/-- The code of an error. -/
def code : GenerationError → Code
  | .invalidActionFormat _ => Code.invalidAction
  | .invalidTransitionFormat _ => Code.invalidTransition

/-- The wording of an error. -/
def message : GenerationError → String
  | .invalidActionFormat line =>
      "Line " ++ toString line ++ ": Invalid action format"
  | .invalidTransitionFormat line =>
      "Line " ++ toString line ++ ": Invalid transition format"

/-- The event that an error is logged as. -/
def event (error : GenerationError) : Log.Event :=
  (Log.Event.error error.code error.message).atLine error.line

end GenerationError

/-- The generated instructions, and the lines that gave none. -/
structure Generation where
  quadruples : List Quadruple
  errors : List GenerationError
  deriving Repr, DecidableEq

namespace Generation

/-- Lower an action line: the second field names the action, without its semicolon. -/
def lowerAction (line : SourceLine) : Except GenerationError Quadruple :=
  match (Text.fields line.text)[1]? with
  | some field =>
      .ok (Quadruple.action (String.ofList (Text.trim (Text.withoutEnd [';'] field))))
  | none =>
      .error (.invalidActionFormat line.number)

/-- Lower a transition line: a header without a name gives an empty name. -/
def lowerTransition (line : SourceLine) : Except GenerationError Quadruple :=
  match TransitionParts.ofText? line.text with
  | some parts =>
      .ok <|
        Quadruple.transition
          (String.ofList (parts.name?.getD []))
          (String.ofList parts.event)
          (String.ofList parts.target)
  | none =>
      .error (.invalidTransitionFormat line.number)

/-- Lower a line, if it is an action or a transition. -/
def lower? (line : SourceLine) : Option (Except GenerationError Quadruple) :=
  match StatementKind.ofText line.text with
  | .action =>
      some (lowerAction line)
  | .transitionDeclaration =>
      some (lowerTransition line)
  | .stateDeclaration =>
      none
  | .marker =>
      none
  | .brace =>
      none
  | .unrecognized =>
      none

/-- The instruction of a line that could be lowered. -/
def quadruple? : Except GenerationError Quadruple → Option Quadruple
  | .ok quadruple => some quadruple
  | .error _ => none

/-- The error of a line that could not be lowered. -/
def error? : Except GenerationError Quadruple → Option GenerationError
  | .ok _ => none
  | .error error => some error

/-- Generate code for the raw lines of a unit. -/
def ofLines (lines : List Text) : Generation :=
  let lowered := (SourceLine.significant lines).filterMap lower?
  { quadruples := lowered.filterMap quadruple?
    errors := lowered.filterMap error? }

/-- The event at the end of a generation. -/
def completion (generation : Generation) : Log.Event :=
  (Log.Event.success Code.intermediateCodeGenerated "Intermediate code generated").withValues
    [("quadruples", toString generation.quadruples.length),
     ("errors", toString generation.errors.length)]

/-- The events of a generation, in order. -/
def events (generation : Generation) : List Log.Event :=
  generation.errors.map GenerationError.event ++ [generation.completion]

end Generation

end Smsl
