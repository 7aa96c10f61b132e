import Smsl.Json

namespace Smsl

/-!
# Quadruples

The intermediate code is a flat list of instructions with four fields.
-/

/-- The operations of the intermediate code. -/
inductive Operation where
  | action
  | transition
  deriving Repr, DecidableEq

namespace Operation

/-- The name of an operation. -/
def name : Operation → String
  | .action => "ACTION"
  | .transition => "TRANSITION"

/-- The operation with a name. -/
def ofName? (name : String) : Option Operation :=
  [Operation.action, .transition].find? fun operation => operation.name = name

end Operation

/-- One instruction: an action with its name, or a transition with name, event and target. -/
structure Quadruple where
  operation : Operation
  arg1 : String
  arg2 : String
  arg3 : String
  deriving Repr, DecidableEq

namespace Quadruple

/-- The instruction to act. -/
def action (name : String) : Quadruple where
  operation := .action
  arg1 := name
  arg2 := ""
  arg3 := ""

/-- The instruction to change state. -/
def transition (name event target : String) : Quadruple where
  operation := .transition
  arg1 := name
  arg2 := event
  arg3 := target

/-- The instruction acts. -/
def isAction (quadruple : Quadruple) : Bool :=
  quadruple.operation = .action

/-- The instruction changes state. -/
def isTransition (quadruple : Quadruple) : Bool :=
  quadruple.operation = .transition

/-- The four fields with commas between them. -/
def render (quadruple : Quadruple) : String :=
  quadruple.operation.name ++ "," ++ quadruple.arg1 ++ "," ++ quadruple.arg2 ++ "," ++
    quadruple.arg3

/-- The instruction as a JSON object. -/
def toJson (quadruple : Quadruple) : Json :=
  .object
    [("operation", .string quadruple.operation.name),
     ("arg1", .string quadruple.arg1),
     ("arg2", .string quadruple.arg2),
     ("arg3", .string quadruple.arg3)]

end Quadruple

end Smsl
