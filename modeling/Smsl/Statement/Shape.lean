import Smsl.Diagnostic
import Smsl.Line
import Smsl.Log.Event
import Smsl.Statement.Kind
import Smsl.Statement.Transition
import Smsl.Token.Basic

namespace Smsl

/-!
# Shapes of statements

There is no grammar beyond the line: each significant line has one of five
shapes, or it is rejected with a reason.
-/

/-- The accepted shapes. -/
inductive StatementShape where
  | stateDeclaration
  | transitionDeclaration
  | action
  | marker
  | brace
  deriving Repr, DecidableEq

/-- The name of a shape. -/
def StatementShape.name : StatementShape → String
  | .stateDeclaration => "StateDeclaration"
  | .transitionDeclaration => "TransitionDeclaration"
  | .action => "Action"
  | .marker => "Marker"
  | .brace => "Brace"

/-- Why a line has no shape. -/
inductive Rejection where
  | noForm
  | stateForm
  | transitionParts
  | transitionHeader
  | transitionBrace
  | actionForm
  deriving Repr, DecidableEq

/-- The wording of a rejection. -/
def Rejection.reason : Rejection → String
  | .noForm =>
      "line matches no statement form"
  | .stateForm =>
      "state declaration must be `state <name> \x7b`"
  | .transitionParts =>
      "transition needs `<header>: <event> -> <target>` parts"
  | .transitionHeader =>
      "transition header must be `transition <name>`"
  | .transitionBrace =>
      "transition must end with `\x7b`"
  | .actionForm =>
      "action statement must be `action <name>;`"

namespace StatementShape

/-- A keyword as a field. -/
def keywordField (keyword : Keyword) : Text :=
  keyword.spelling.toList

/-- A state declaration has three fields: the keyword, a name, and a brace. -/
def ofStateLine (line : Text) : Except Rejection StatementShape :=
  match Text.fields line with
  | [keyword, _, opening] =>
      if keyword = keywordField .state ∧ opening = ['\x7b'] then
        .ok .stateDeclaration
      else
        .error .stateForm
  | _ =>
      .error .stateForm

/--
A transition has at least three parts; its header is the keyword and a name, and
its last part ends with a brace.
-/
def ofTransitionLine (line : Text) : Except Rejection StatementShape :=
  match TransitionParts.ofText? line with
  | none =>
      .error .transitionParts
  | some parts =>
      match Text.fields parts.header with
      | [keyword, _] =>
          if keyword = keywordField .transition then
            if Text.endsWithChar '\x7b' parts.last then
              .ok .transitionDeclaration
            else
              .error .transitionBrace
          else
            .error .transitionHeader
      | _ =>
          .error .transitionHeader

/-- An action has two fields: the keyword, and a name with a semicolon. -/
def ofActionLine (line : Text) : Except Rejection StatementShape :=
  match Text.fields line with
  | [keyword, name] =>
      if keyword = keywordField .action ∧ Text.endsWithChar ';' name then
        .ok .action
      else
        .error .actionForm
  | _ =>
      .error .actionForm

/-- The shape of a line. -/
def ofText (line : Text) : Except Rejection StatementShape :=
  match StatementKind.ofText line with
  | .stateDeclaration =>
      ofStateLine line
  | .transitionDeclaration =>
      ofTransitionLine line
  | .action =>
      ofActionLine line
  | .marker =>
      .ok .marker
  | .brace =>
      .ok .brace
  | .unrecognized =>
      .error .noForm

end StatementShape

/-- A line without a shape. -/
structure StatementError where
  line : Nat
  rejection : Rejection
  deriving Repr, DecidableEq

namespace StatementError

/-- The wording of an error; the reason is told apart. -/
def message (line : Nat) : String :=
  "Line " ++ toString line ++ ": Syntax Error [Error]"

/-- The diagnostic for a line that was rejected for a reason. -/
def diagnosticFor
    (line : Nat)
    (reason : String) :
    Diagnostic :=
  (Diagnostic.ofStage .syntactic (some line) Code.invalidStatement (message line)).withDetail
    reason

/-- The error as a diagnostic of the syntactic stage. -/
def toDiagnostic (error : StatementError) : Diagnostic :=
  diagnosticFor error.line error.rejection.reason

/-- The event that an error is logged as. -/
def event (error : StatementError) : Log.Event :=
  (Log.Event.debug "Statement rejected").withValues
    [("line", toString error.line), ("reason", error.rejection.reason)]

end StatementError

/-- A line with a shape. -/
structure Statement where
  line : Nat
  shape : StatementShape
  deriving Repr, DecidableEq

/-- The accepted and the rejected lines of a unit, each in order. -/
structure StatementCheck where
  statements : List Statement
  errors : List StatementError
  deriving Repr, DecidableEq

namespace StatementCheck

/-- The verdict on one significant line. -/
def judge (line : SourceLine) : Except StatementError Statement :=
  match StatementShape.ofText line.text with
  | .ok shape =>
      .ok { line := line.number, shape }
  | .error rejection =>
      .error { line := line.number, rejection }

/-- The statement of a verdict that accepts. -/
def accepted? : Except StatementError Statement → Option Statement
  | .ok statement => some statement
  | .error _ => none

/-- The error of a verdict that rejects. -/
def rejected? : Except StatementError Statement → Option StatementError
  | .ok _ => none
  | .error error => some error

/-- Judge every significant line of a unit. -/
def ofLines (lines : List Text) : StatementCheck :=
  let verdicts := (SourceLine.significant lines).map judge
  { statements := verdicts.filterMap accepted?
    errors := verdicts.filterMap rejected? }

/-- The diagnostics of the syntactic stage. -/
def diagnostics (check : StatementCheck) : List Diagnostic :=
  check.errors.map StatementError.toDiagnostic

/-- A line was rejected. -/
def hasErrors (check : StatementCheck) : Bool :=
  !check.errors.isEmpty

/-- The event at the end of a check that rejected nothing. -/
def completion (check : StatementCheck) : Log.Event :=
  (Log.Event.success Code.statementsValid "All statements valid").withValue
    "statements" (toString check.statements.length)

/-- The events of a check, in order. -/
def events (check : StatementCheck) : List Log.Event :=
  check.errors.map StatementError.event ++
    if check.hasErrors then [] else [check.completion]

end StatementCheck

end Smsl
