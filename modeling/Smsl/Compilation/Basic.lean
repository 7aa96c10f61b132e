import Smsl.Compilation.Report
import Smsl.Compilation.Sink
import Smsl.Log.Journal
import Smsl.Preferences.Basic
import Smsl.Quadruple.Generation
import Smsl.Semantics.Analysis
import Smsl.Statement.Shape
import Smsl.Token.Scan

namespace Smsl

/-!
# Compilation

A compilation is first planned and then carried out.  The plan is a script of
events to log and results to deliver, with the report that they amount to; it
depends on the source and the preferences only.  Carrying out the script feeds
the events to a journal and the results to a sink, and ends early if the sink
refuses one.
-/

/-- One step of a script: an event to log or a result to deliver. -/
inductive ScriptStep where
  | log (event : Log.Event)
  | deliver (delivery : Delivery)
  deriving Repr, DecidableEq

/-- A value together with the steps that lead to it. -/
structure Script (α : Type) where
  steps : List ScriptStep
  result : α

namespace Script

/-- A value that takes no steps. -/
def pure (result : α) : Script α where
  steps := []
  result := result

/-- Go on from the value of a script. -/
def bind
    (script : Script α)
    (next : α → Script β) :
    Script β where
  steps := script.steps ++ (next script.result).steps
  result := (next script.result).result

instance : Monad Script where
  pure := Script.pure
  bind := Script.bind

/-- Log events. -/
def log (events : List Log.Event) : Script Unit where
  steps := events.map .log
  result := ()

/-- Deliver a result. -/
def deliver (delivery : Delivery) : Script Unit where
  steps := [.deliver delivery]
  result := ()

end Script

/-- A unit as it comes from its source: the lines, or why there are none. -/
structure LoadedUnit where
  name : String
  events : List Log.Event
  lines : Except Diagnostic (List Text)

namespace LoadedUnit

/-- A unit held in memory. -/
def ofText
    (name : String)
    (text : Text) :
    LoadedUnit where
  name := name
  events := []
  lines := .ok (Text.lines text)

end LoadedUnit

namespace Compilation

/-- A stage with this many diagnostics ends the run. -/
def halts
    (preferences : Preferences)
    (diagnosticCount : Nat) :
    Bool :=
  0 < diagnosticCount && preferences.pipeline.stopOnErrors

/-- The event of a run that a stage ends. -/
def haltEvent
    (stage : Stage)
    (diagnosticCount : Nat) :
    Log.Event :=
  (Log.Event.debug "Stopping after stage with diagnostics").withValues
    [("stage", stage.name), ("diagnostics", toString diagnosticCount)]

/-- End the run at a stage if its diagnostics ask for it, or else go on. -/
def proceed
    (preferences : Preferences)
    (stage : Stage)
    (diagnosticCount : Nat)
    (report : Report)
    (next : Report → Script Report) :
    Script Report := do
  if halts preferences diagnosticCount then
    Script.log [haltEvent stage diagnosticCount]
    return { report with haltedAt := some stage }
  else
    next report

/-- Generate and optimize code. -/
def planCode
    (preferences : Preferences)
    (lines : List Text)
    (report : Report) :
    Script Report := do
  let policy := preferences.optimizer.policy
  let generation := Generation.ofLines lines
  Script.log generation.events
  Script.deliver (.quadruples .intermediate generation.quadruples)
  let optimization := Optimization.ofQuadruples policy generation.quadruples
  Script.log (optimization.events policy)
  Script.deliver (.quadruples .optimized optimization.quadruples)
  return { report with
    generationErrors := generation.errors.map GenerationError.message
    intermediate := generation.quadruples
    optimized := optimization.quadruples
    optimization := some optimization.stats }

/-- Check the states of a unit, then generate code. -/
def planSemantic
    (preferences : Preferences)
    (lines : List Text)
    (tokens : List Token)
    (report : Report) :
    Script Report := do
  let input := preferences.semantic.input
  let analysis := Analysis.ofUnit preferences.semantic.attribution input lines tokens
  Script.log (analysis.events input)
  Script.deliver (.diagnostics (some .semantic) analysis.diagnostics)
  let extended :=
    { report with
      states := analysis.states
      semantic := analysis.diagnostics }
  proceed preferences .semantic analysis.diagnostics.length extended
    (planCode preferences lines)

/-- Check the statements of a unit, then its states. -/
def planSyntactic
    (preferences : Preferences)
    (lines : List Text)
    (tokens : List Token)
    (report : Report) :
    Script Report := do
  let check := StatementCheck.ofLines lines
  Script.log check.events
  Script.deliver (.diagnostics (some .syntactic) check.diagnostics)
  proceed preferences .syntactic check.diagnostics.length
    { report with syntactic := check.diagnostics }
    (planSemantic preferences lines tokens)

/-- Scan a unit, then check its statements. -/
def planLexical
    (preferences : Preferences)
    (lines : List Text)
    (report : Report) :
    Script Report := do
  let scan := Scan.ofLines .standard preferences.lexical.detailedMetrics lines
  Script.log scan.events
  Script.deliver (.tokens scan.tokens)
  Script.deliver (.diagnostics (some .lexical) scan.diagnostics)
  proceed preferences .lexical scan.diagnostics.length
    { report with
      tokenCount := scan.tokens.length
      lexical := scan.diagnostics }
    (planSyntactic preferences lines scan.tokens)

/-- Tell that a source cannot be read. -/
def planUnreadable
    (failure : Diagnostic)
    (report : Report) :
    Script Report := do
  Script.deliver (.diagnostics none [failure])
  return { report with unreadable := some failure }

/-- The event at the start of a compilation. -/
def startEvent
    (preferences : Preferences)
    (unit : String) :
    Log.Event :=
  (Log.Event.info "Starting compilation").withValues
    [("unit", unit),
     ("stop_on_errors", Json.boolText preferences.pipeline.stopOnErrors)]

/-- The stages of a compilation, after the unit was loaded. -/
def planStages
    (preferences : Preferences)
    (unit : LoadedUnit) :
    Script Report :=
  match unit.lines with
  | .ok lines =>
      planLexical preferences lines (Report.initial unit.name)
  | .error failure =>
      planUnreadable failure (Report.initial unit.name)

/-- The whole compilation of a unit. -/
def plan
    (preferences : Preferences)
    (unit : LoadedUnit) :
    Script Report := do
  Script.log [startEvent preferences unit.name]
  Script.log unit.events
  let report ← planStages preferences unit
  Script.log [report.summary]
  return report

/-- Carry out steps: log events, deliver results, and stop at a refusal. -/
def carryOut
    (sink : Sink σ) :
    List ScriptStep → σ → Log.Journal → Except (Refusal σ) σ × Log.Journal
  | [], state, journal =>
      (.ok state, journal)
  | .log event :: rest, state, journal =>
      carryOut sink rest state (journal.record event)
  | .deliver delivery :: rest, state, journal =>
      match sink.accept state delivery with
      | .ok next => carryOut sink rest next journal
      | .error refusal => (.error refusal, journal)

/-- A finished compilation: its report and what the sink holds. -/
structure Outcome (σ : Type) where
  report : Report
  sink : σ

/-- Compile a unit into a sink, with every event under the unit's name. -/
def run
    (preferences : Preferences)
    (unit : LoadedUnit)
    (sink : Sink σ)
    (state : σ)
    (journal : Log.Journal) :
    Except (Refusal σ) (Outcome σ) × Log.Journal :=
  let script := plan preferences unit
  let performed :=
    Log.Journal.within unit.name (carryOut sink script.steps state) journal
  (performed.1.map fun final => { report := script.result, sink := final },
    performed.2)

/-- The wording of a refusal as a failed run. -/
def refusalMessage (reason : String) : String :=
  "Writing compilation output failed: " ++ reason

end Compilation

end Smsl
