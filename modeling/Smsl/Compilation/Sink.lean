import Smsl.Diagnostic
import Smsl.Quadruple.Basic
import Smsl.Token.Basic

namespace Smsl

/-!
# Sinks

A compilation hands each result on as a delivery.  A sink takes deliveries one
by one, and may refuse one.  The memory sink takes and keeps all of them.
-/

/-- The two tables of quadruples. -/
inductive QuadrupleTable where
  | intermediate
  | optimized
  deriving Repr, DecidableEq

namespace QuadrupleTable

/-- The name of a table. -/
def name : QuadrupleTable → String
  | .intermediate => "intermediate"
  | .optimized => "optimized"

/-- The title of a table. -/
def title : QuadrupleTable → String
  | .intermediate => "Intermediate Code"
  | .optimized => "Optimized Code"

end QuadrupleTable

/-- A result that is handed on; diagnostics without a stage tell an unreadable source. -/
inductive Delivery where
  | tokens (tokens : List Token)
  | diagnostics (stage : Option Stage) (diagnostics : List Diagnostic)
  | quadruples (table : QuadrupleTable) (quadruples : List Quadruple)
  deriving Repr, DecidableEq

/-- A sink that refused a delivery, with the reason and what it holds then. -/
structure Refusal (σ : Type) where
  reason : String
  sink : σ
  deriving Repr, DecidableEq

/-- A way to take deliveries into a state, or to refuse one. -/
structure Sink (σ : Type) where
  accept : σ → Delivery → Except (Refusal σ) σ

/-- Everything that was delivered: the last tokens, and the other deliveries in order. -/
structure MemorySink where
  tokens : List Token
  diagnostics : List (Option Stage × List Diagnostic)
  tables : List (QuadrupleTable × List Quadruple)
  deriving Repr, DecidableEq

namespace MemorySink

/-- Nothing was delivered. -/
def empty : MemorySink where
  tokens := []
  diagnostics := []
  tables := []

/-- Keep a delivery. -/
def keep
    (memory : MemorySink) :
    Delivery → MemorySink
  | .tokens tokens =>
      { memory with tokens := tokens }
  | .diagnostics stage diagnostics =>
      { memory with diagnostics := memory.diagnostics ++ [(stage, diagnostics)] }
  | .quadruples table quadruples =>
      { memory with tables := memory.tables ++ [(table, quadruples)] }

/-- The sink that refuses nothing. -/
def sink : Sink MemorySink where
  accept memory delivery := .ok (memory.keep delivery)

/-- The first diagnostics delivered for a stage, or none. -/
def stage
    (memory : MemorySink)
    (stage : Option Stage) :
    List Diagnostic :=
  ((memory.diagnostics.find? fun delivered => delivered.1 = stage).map (·.2)).getD []

/-- The stages for which diagnostics were delivered, in order. -/
def stagesReported (memory : MemorySink) : List (Option Stage) :=
  memory.diagnostics.map (·.1)

/-- The first table of a kind, if one was delivered. -/
def table?
    (memory : MemorySink)
    (table : QuadrupleTable) :
    Option (List Quadruple) :=
  (memory.tables.find? fun delivered => delivered.1 = table).map (·.2)

end MemorySink

end Smsl
