import Smsl.Code
import Smsl.Json

namespace Smsl

/-!
# Diagnostics

What the stages report about a program.  A stage never stops at a bad line: it
records a diagnostic and goes on.  Lists of diagnostics are ordered by line, and
those without a line come last.
-/

/-- The analysis stages, in the order in which they run. -/
inductive Stage where
  | lexical
  | syntactic
  | semantic
  deriving Repr, DecidableEq

/-- The name of a stage. -/
def Stage.name : Stage → String
  | .lexical => "Lexical"
  | .syntactic => "Syntax"
  | .semantic => "Semantic"

/-- One reported problem; only an unreadable source has no stage. -/
structure Diagnostic where
  stage : Option Stage
  line : Option Nat
  code : Code
  message : String
  detail : Option String
  deriving Repr, DecidableEq

namespace Diagnostic

/-- A problem found by a stage. -/
def ofStage
    (stage : Stage)
    (line : Option Nat)
    (code : Code)
    (message : String) :
    Diagnostic where
  stage := some stage
  line := line
  code := code
  message := message
  detail := none

/-- A source that cannot be read. -/
def unreadable
    (code : Code)
    (message : String) :
    Diagnostic where
  stage := none
  line := none
  code := code
  message := message
  detail := none

/-- The same diagnostic with an explanation. -/
def withDetail
    (diagnostic : Diagnostic)
    (detail : String) :
    Diagnostic :=
  { diagnostic with detail := some detail }

/-- The category of the diagnostic's code. -/
def category (diagnostic : Diagnostic) : Category :=
  diagnostic.code.category

/-- A diagnostic may stand before another: by line, and without a line last. -/
def atOrBefore (first second : Diagnostic) : Bool :=
  match first.line, second.line with
  | _, none =>
      true
  | none, some _ =>
      false
  | some firstLine, some secondLine =>
      firstLine ≤ secondLine

/-- Put a diagnostic in front of the first one that it may stand before. -/
def insertByLine
    (diagnostic : Diagnostic) :
    List Diagnostic → List Diagnostic
  | [] =>
      [diagnostic]
  | first :: rest =>
      if diagnostic.atOrBefore first then
        diagnostic :: first :: rest
      else
        first :: insertByLine diagnostic rest

/-- Order by line; diagnostics of one line, or without any, keep their order. -/
def sortByLine (diagnostics : List Diagnostic) : List Diagnostic :=
  diagnostics.foldr insertByLine []

/-- The diagnostic as a JSON object; the detail appears only when there is one. -/
def toJson (diagnostic : Diagnostic) : Json :=
  .object <|
    [("stage", Json.orNull (diagnostic.stage.map fun stage => .string stage.name)),
     ("line", Json.orNull (diagnostic.line.map .number)),
     ("code", .string diagnostic.code.text),
     ("message", .string diagnostic.message)] ++
      Json.optional "detail" (diagnostic.detail.map .string)

end Diagnostic

end Smsl
