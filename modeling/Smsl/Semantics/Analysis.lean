import Smsl.Log.Event
import Smsl.Semantics.Walk

namespace Smsl

/-!
# Semantic analysis

After the walk over a unit, every reference is checked against all declared
states, so a state may be used before its declaration, and every state is
checked for content.  The diagnostics are ordered by line.
-/

/-- What the analysis walks over. -/
inductive SemanticInput where
  | lines
  | tokens
  deriving Repr, DecidableEq

/-- The name of an input. -/
def SemanticInput.name : SemanticInput → String
  | .lines => "lines"
  | .tokens => "tokens"

namespace Walk

/-- The referenced names that are not declared. -/
def undefinedReferences (walk : Walk) : List String :=
  walk.references.names.filter fun name => !walk.table.contains name

/-- The declared states without content. -/
def emptyStates (walk : Walk) : List StateRecord :=
  walk.table.records.filter fun record => !record.hasContent

/-- All errors of a unit: those of the walk, then the references, then the states. -/
def allErrors (walk : Walk) : List SemanticError :=
  walk.errors.toList ++
    walk.undefinedReferences.map .undefinedStateReference ++
    walk.emptyStates.map fun record =>
      .stateWithoutContent record.declarationLine record.name

end Walk

/-- The result of the analysis; errors are in the order in which they were found. -/
structure Analysis where
  states : List StateRecord
  undefinedReferences : List String
  errors : List SemanticError
  deriving Repr, DecidableEq

namespace Analysis

/-- The result of a walk. -/
def ofWalk (walk : Walk) : Analysis where
  states := walk.table.records
  undefinedReferences := walk.undefinedReferences
  errors := walk.allErrors

/-- What a unit says about states, by lines or by tokens. -/
def facts
    (input : SemanticInput)
    (lines : List Text)
    (tokens : List Token) :
    List (Nat × StateFact) :=
  match input with
  | .lines => StateFact.ofLines lines
  | .tokens => StateFact.ofTokens tokens

/-- Analyze a unit, given as raw lines and as tokens. -/
def ofUnit
    (policy : AttributionPolicy)
    (input : SemanticInput)
    (lines : List Text)
    (tokens : List Token) :
    Analysis :=
  ofWalk (Walk.ofFacts policy (facts input lines tokens))

/-- What raw lines or any tokens say about states, as far as a build can count lines. -/
def facts?
    (counting : Counting)
    (input : SemanticInput)
    (lines : List Text)
    (tokens : List Token) :
    Option (List (Nat × StateFact)) :=
  match input with
  | .lines => some (StateFact.ofLines lines)
  | .tokens => StateFact.ofTokens? counting tokens

/-- Analyze raw lines or any tokens; none where the count of a line number traps. -/
def ofUnit?
    (counting : Counting)
    (policy : AttributionPolicy)
    (input : SemanticInput)
    (lines : List Text)
    (tokens : List Token) :
    Option Analysis :=
  (facts? counting input lines tokens).map fun facts =>
    ofWalk (Walk.ofFacts policy facts)

/-- Analyze a unit by lines, with content from the line below a declaration. -/
def ofLines (lines : List Text) : Analysis :=
  ofUnit .adjacentDeclaration .lines lines []

/-- The diagnostics of the semantic stage, ordered by line. -/
def diagnostics (analysis : Analysis) : List Diagnostic :=
  Diagnostic.sortByLine (analysis.errors.map SemanticError.toDiagnostic)

/-- The analysis found something wrong. -/
def hasErrors (analysis : Analysis) : Bool :=
  !analysis.errors.isEmpty

/-- The record of a state. -/
def state?
    (analysis : Analysis)
    (name : String) :
    Option StateRecord :=
  analysis.states.find? fun record => record.name == name

/-- The event that an error is logged as; only repeated declarations are. -/
def errorEvent? : SemanticError → Option Log.Event
  | .duplicateState line name =>
      some <|
        (Log.Event.debug "Duplicate state declaration").withValues
          [("line", toString line), ("state", name)]
  | .invalidTransitionFormat .. =>
      none
  | .undefinedStateReference .. =>
      none
  | .stateWithoutContent .. =>
      none

/-- The event at the end of an analysis that found nothing wrong. -/
def completion
    (input : SemanticInput)
    (analysis : Analysis) :
    Log.Event :=
  (Log.Event.success Code.semanticAnalysisComplete "Semantic analysis complete").withValues
    [("states", toString analysis.states.length), ("input", input.name)]

/-- The events of an analysis, in order. -/
def events
    (input : SemanticInput)
    (analysis : Analysis) :
    List Log.Event :=
  analysis.errors.filterMap errorEvent? ++
    if analysis.hasErrors then [] else [analysis.completion input]

end Analysis

end Smsl
