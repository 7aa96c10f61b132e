import Smsl.Diagnostic
import Smsl.Log.Event
import Smsl.Quadruple.Optimization
import Smsl.Semantics.StateTable

namespace Smsl

/-!
# Reports

Everything that one compilation produced, stage by stage, and the verdict on it.
-/

/-- The verdict on a unit. -/
inductive CompilationStatus where
  | compiled
  | diagnostics
  | sourceUnreadable
  deriving Repr, DecidableEq

/-- The name of a verdict. -/
def CompilationStatus.name : CompilationStatus → String
  | .compiled => "compiled"
  | .diagnostics => "diagnostics"
  | .sourceUnreadable => "source_unreadable"

/-- What a compilation produced; stages that did not run left nothing. -/
structure Report where
  unit : String
  haltedAt : Option Stage
  tokenCount : Nat
  lexical : List Diagnostic
  syntactic : List Diagnostic
  semantic : List Diagnostic
  unreadable : Option Diagnostic
  generationErrors : List String
  states : List StateRecord
  intermediate : List Quadruple
  optimized : List Quadruple
  optimization : Option OptimizationStats
  deriving Repr, DecidableEq

namespace Report

/-- The report before anything has run. -/
def initial (unit : String) : Report where
  unit := unit
  haltedAt := none
  tokenCount := 0
  lexical := []
  syntactic := []
  semantic := []
  unreadable := none
  generationErrors := []
  states := []
  intermediate := []
  optimized := []
  optimization := none

/-- All diagnostics, in the order of the stages. -/
def allDiagnostics (report : Report) : List Diagnostic :=
  report.unreadable.toList ++ report.lexical ++ report.syntactic ++ report.semantic

/-- The number of diagnostics. -/
def diagnosticCount (report : Report) : Nat :=
  report.allDiagnostics.length

/-- There is a diagnostic, or a line that could not be lowered. -/
def hasDiagnostics (report : Report) : Bool :=
  0 < report.diagnosticCount || !report.generationErrors.isEmpty

/-- Code was generated and optimized. -/
def generatedCode (report : Report) : Bool :=
  report.optimization.isSome

/-- The verdict. -/
def status (report : Report) : CompilationStatus :=
  if report.unreadable.isSome then
    .sourceUnreadable
  else if report.hasDiagnostics then
    .diagnostics
  else
    .compiled

/-- The event at the end of a compilation; its duration is set when it is written. -/
def summary (report : Report) : Log.Event :=
  match report.status with
  | .compiled =>
      (Log.Event.success Code.compilationComplete "Compilation complete").withValues
        [("unit", report.unit),
         ("tokens", toString report.tokenCount),
         ("quadruples", toString report.optimized.length),
         (Log.Event.durationName, "")]
  | .diagnostics | .sourceUnreadable =>
      (Log.Event.info "Compilation finished with diagnostics").withValues
        [("unit", report.unit),
         ("diagnostics", toString report.diagnosticCount),
         ("halted_at", (report.haltedAt.map Stage.name).getD "none"),
         (Log.Event.durationName, "")]

/-- The report as a JSON object, with the time of the compilation. -/
def toJson
    (report : Report)
    (compiledAt : String) :
    Json :=
  .object <|
    [("unit", .string report.unit),
     ("compiled_at", .string compiledAt),
     ("status", .string report.status.name),
     ("halted_at", Json.orNull (report.haltedAt.map fun stage => .string stage.name)),
     ("token_count", .number report.tokenCount),
     ("lexical", .array (report.lexical.map Diagnostic.toJson)),
     ("syntax", .array (report.syntactic.map Diagnostic.toJson)),
     ("semantic", .array (report.semantic.map Diagnostic.toJson))] ++
    Json.optional "io_failure" (report.unreadable.map Diagnostic.toJson) ++
    [("generation_errors", .array (report.generationErrors.map .string)),
     ("states", .array (report.states.map StateRecord.toJson)),
     ("intermediate", .array (report.intermediate.map Quadruple.toJson)),
     ("optimized", .array (report.optimized.map Quadruple.toJson))] ++
    Json.optional "optimization" (report.optimization.map OptimizationStats.toJson)

end Report

end Smsl
