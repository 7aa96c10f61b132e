import Smsl.Diagnostic

namespace Smsl

/-!
# States and references

The state table holds one record for each declared state, in the order of first
declaration, and finds it by name through an index of positions.  The reference
set holds the targets of transitions, each once, in the order of first reference.
-/

/-- A declared state. -/
structure StateRecord where
  name : String
  declarationLine : Nat
  hasContent : Bool
  deriving Repr, DecidableEq

/-- The record as a JSON object. -/
def StateRecord.toJson (record : StateRecord) : Json :=
  .object
    [("name", .string record.name),
     ("declaration_line", .number record.declarationLine),
     ("has_content", .bool record.hasContent)]

/-- What can be wrong with the states of a unit. -/
inductive SemanticError where
  | duplicateState (line : Nat) (name : String)
  | invalidTransitionFormat (line : Nat)
  | undefinedStateReference (name : String)
  | stateWithoutContent (line : Nat) (name : String)
  deriving Repr, DecidableEq

namespace SemanticError

/-- The line at which an error was found; an undefined reference has none. -/
def line? : SemanticError → Option Nat
  | .duplicateState line _ => some line
  | .invalidTransitionFormat line => some line
  | .undefinedStateReference _ => none
  | .stateWithoutContent line _ => some line

/-- The code of an error. -/
def code : SemanticError → Code
  | .duplicateState .. => Code.duplicateState
  | .invalidTransitionFormat .. => Code.invalidTransitionFormat
  | .undefinedStateReference .. => Code.undefinedStateReference
  | .stateWithoutContent .. => Code.stateWithoutContent

/-- The wording of an error. -/
def message : SemanticError → String
  | .duplicateState line name =>
      "Line " ++ toString line ++
        ": Semantic Error - Duplicate State Declaration: '" ++ name ++ "'"
  | .invalidTransitionFormat line =>
      "Line " ++ toString line ++ ": Semantic Error - Invalid Transition Format"
  | .undefinedStateReference name =>
      "Semantic Error - Undefined State Reference: '" ++ name ++ "'"
  | .stateWithoutContent line name =>
      "Line " ++ toString line ++
        ": Semantic Error - State with No Content: '" ++ name ++ "'"

/-- The error as a diagnostic of the semantic stage. -/
def toDiagnostic (error : SemanticError) : Diagnostic :=
  Diagnostic.ofStage .semantic error.line? error.code error.message

end SemanticError

/--
The declared states, in the order of first declaration, with an index from their
names to their positions.
-/
structure StateTable where
  records : List StateRecord
  index : List (String × Nat)
  deriving Repr, DecidableEq

namespace StateTable

/-- The table without states. -/
def empty : StateTable where
  records := []
  index := []

/-- The position at which the index has a name. -/
def position?
    (table : StateTable)
    (name : String) :
    Option Nat :=
  table.index.lookup name

/-- The record with a name. -/
def get?
    (table : StateTable)
    (name : String) :
    Option StateRecord := do
  let position ← table.position? name
  table.records[position]?

/-- A state with this name is declared. -/
def contains
    (table : StateTable)
    (name : String) :
    Bool :=
  (table.position? name).isSome

/-- Declare a state without content; a declared name is refused and changes nothing. -/
def declare
    (table : StateTable)
    (name : String)
    (line : Nat) :
    Except SemanticError StateTable :=
  if table.contains name then
    .error (.duplicateState line name)
  else
    .ok
      { records :=
          table.records ++
            [{ name := name, declarationLine := line, hasContent := false }]
        index := (name, table.records.length) :: table.index }

/-- Give content to the state with a name, if it is declared. -/
def markContent
    (table : StateTable)
    (name : String) :
    StateTable :=
  match table.position? name with
  | some position =>
      { table with
        records :=
          table.records.modify position fun record =>
            { record with hasContent := true } }
  | none =>
      table

/-- Give content to every declared state. -/
def markAllContent (table : StateTable) : StateTable :=
  { table with
    records :=
      table.records.map fun record =>
        { record with hasContent := true } }

/-- The number of declared states. -/
def size (table : StateTable) : Nat :=
  table.records.length

/-- No state is declared. -/
def isEmpty (table : StateTable) : Bool :=
  table.records.isEmpty

end StateTable

/-- The referenced names, in the order of first reference, and the names seen so far. -/
structure ReferenceSet where
  names : List String
  seen : List String
  deriving Repr, DecidableEq

namespace ReferenceSet

/-- The set without names. -/
def empty : ReferenceSet where
  names := []
  seen := []

/-- Add a name at the end unless it was seen. -/
def insert
    (references : ReferenceSet)
    (name : String) :
    ReferenceSet :=
  if references.seen.contains name then
    references
  else
    { names := references.names ++ [name]
      seen := name :: references.seen }

/-- The number of names. -/
def size (references : ReferenceSet) : Nat :=
  references.names.length

/-- There is no name. -/
def isEmpty (references : ReferenceSet) : Bool :=
  references.names.isEmpty

end ReferenceSet

end Smsl
