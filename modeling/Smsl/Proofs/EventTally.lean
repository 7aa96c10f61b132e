import Smsl.Compilation.Basic
import Smsl.Proofs.ClippedMessages
import Smsl.Proofs.DiagnosticOrder

namespace Smsl

/-!
# What events tell

Some codes and messages tell what a compilation did: a stage found nothing, a
statement was rejected, a state was declared twice, a line gave no code, a stage
ended the run.  This module adds up what a list of events tells, and says what
the events of each part of a compilation add up to.
-/

namespace Log

/-- The number of events with a message. -/
def mentions
    (message : String)
    (events : List Event) :
    Nat :=
  events.countP fun event => event.message = message

/-- A clipped message begins like the message. -/
theorem head?_clip
    {message : String}
    {first : Char}
    (begins : message.toList.head? = some first) :
    (clip message).toList.head? = some first := by
  unfold clip
  split
  · exact begins
  · obtain ⟨rest, shape⟩ := List.head?_eq_some_iff.mp begins
    have fits : first.utf8Size ≤ Limits.maxLogMessageLength :=
      Nat.le_trans first.utf8Size_le_four (by decide)
    rw [shape]
    simp [Text.head?_firstWithin first rest fits]

end Log

namespace Compilation

/-- The codes that tell how far a run came, in the order of the stages. -/
def tellingCodes : List Code :=
  [Code.tokenizationComplete, Code.statementsValid, Code.semanticAnalysisComplete,
    Code.invalidAction, Code.invalidTransition, Code.intermediateCodeGenerated,
    Code.optimizationComplete, Code.compilationComplete]

/-- The telling codes of events, in order. -/
def toldCodes (events : List Log.Event) : List Code :=
  (events.map Log.Event.code).filter fun code => code ∈ tellingCodes

/-- The event is an error about a line that could not be lowered. -/
def tellsFailure (event : Log.Event) : Bool :=
  event.isError && (event.code = Code.invalidAction || event.code = Code.invalidTransition)

/-- The event is about a stage that ends the run. -/
def tellsStop (event : Log.Event) : Bool :=
  event.level = .debug && event.message = "Stopping after stage with diagnostics"

end Compilation

theorem GenerationError.code_cases (error : GenerationError) :
    error.code = Code.invalidAction ∨ error.code = Code.invalidTransition := by
  cases error with
  | invalidActionFormat =>
      exact .inl rfl
  | invalidTransitionFormat =>
      exact .inr rfl

/-- The message about a line begins with the line, however much of it is kept. -/
theorem GenerationError.head?_eventMessage (error : GenerationError) :
    error.event.message.toList.head? = some 'L' := by
  have begins : error.message.toList.head? = some 'L' := by
    cases error <;> simp [message, String.toList_append]
  exact Log.head?_clip begins

/-! What events tell, added up. -/

/-- The telling codes of events, and how many events tell of something else. -/
structure Tally where
  codes : List Code := []
  failures : Nat := 0
  stops : Nat := 0
  rejections : Nat := 0
  duplicates : Nat := 0
  deriving Repr, DecidableEq

namespace Tally

/-- What earlier and later events tell together. -/
def add (earlier later : Tally) : Tally where
  codes := earlier.codes ++ later.codes
  failures := earlier.failures + later.failures
  stops := earlier.stops + later.stops
  rejections := earlier.rejections + later.rejections
  duplicates := earlier.duplicates + later.duplicates

/-- What events tell. -/
def ofEvents (events : List Log.Event) : Tally where
  codes := Compilation.toldCodes events
  failures := events.countP Compilation.tellsFailure
  stops := events.countP Compilation.tellsStop
  rejections := Log.mentions "Statement rejected" events
  duplicates := Log.mentions "Duplicate state declaration" events

theorem ofEvents_append
    (earlier later : List Log.Event) :
    ofEvents (earlier ++ later) = (ofEvents earlier).add (ofEvents later) := by
  simp [ofEvents, add, Compilation.toldCodes, Log.mentions]

theorem ofEvents_cons
    (event : Log.Event)
    (later : List Log.Event) :
    ofEvents (event :: later) = (ofEvents [event]).add (ofEvents later) :=
  ofEvents_append [event] later

/-- The values of an event tell nothing. -/
theorem ofEvents_withValues
    (event : Log.Event)
    (pairs : List (String × String)) :
    ofEvents [event.withValues pairs] = ofEvents [event] :=
  rfl

theorem ofEvents_withValue
    (event : Log.Event)
    (name value : String) :
    ofEvents [event.withValue name value] = ofEvents [event] :=
  rfl

theorem ofEvents_tag
    (journal : Log.Journal)
    (event : Log.Event) :
    ofEvents [journal.tag event] = ofEvents [event] := by
  unfold Log.Journal.tag
  split
  · exact ofEvents_withValue event _ _
  · rfl

/-- A tag changes nothing about what events tell. -/
theorem ofEvents_map_tag
    (journal : Log.Journal)
    (events : List Log.Event) :
    ofEvents (events.map journal.tag) = ofEvents events := by
  induction events with
  | nil =>
      rfl
  | cons event later inductionHypothesis =>
      rw [List.map_cons, ofEvents_cons, ofEvents_tag, inductionHypothesis, ← ofEvents_cons]

/-- Events that tell nothing one by one tell nothing. -/
theorem ofEvents_eq_nothing
    {events : List Log.Event}
    (quiet : ∀ event ∈ events, ofEvents [event] = {}) :
    ofEvents events = {} := by
  induction events with
  | nil =>
      rfl
  | cons event later inductionHypothesis =>
      have further :=
        inductionHypothesis fun other member => quiet other (List.mem_cons_of_mem _ member)
      rw [ofEvents_cons, quiet event List.mem_cons_self, further]
      rfl

/-! What each part of a run tells. -/

theorem ofEvents_startEvent
    (preferences : Preferences)
    (unit : String) :
    ofEvents [Compilation.startEvent preferences unit] = {} := by
  rw [Compilation.startEvent, ofEvents_withValues]
  decide

theorem ofEvents_scan (scan : Scan) :
    ofEvents scan.events = { codes := [Code.tokenizationComplete] } := by
  have quiet :
      ∀ event ∈ scan.errors.filterMap LexicalError.event?, ofEvents [event] = {} := by
    intro event member
    obtain ⟨error, _, isEvent⟩ := List.mem_filterMap.mp member
    cases error with
    | unknownLexeme line lexeme =>
        cases isEvent
        rw [ofEvents_withValues]
        decide
    | lexemeTooLong =>
        cases isEvent
    | tooManyTokens line max =>
        cases isEvent
        rw [ofEvents_withValues]
        decide
  rw [Scan.events, ofEvents_append, ofEvents_eq_nothing quiet, Scan.completion,
    ofEvents_withValues]
  decide

/-- The check tells of each rejected statement, or that there is none. -/
theorem ofEvents_check (check : StatementCheck) :
    ofEvents check.events =
      { codes := if check.diagnostics = [] then [Code.statementsValid] else []
        rejections := check.diagnostics.length } := by
  have rejected :
      ∀ errors : List StatementError,
        ofEvents (errors.map StatementError.event) = { rejections := errors.length } := by
    intro errors
    induction errors with
    | nil =>
        rfl
    | cons error rest inductionHypothesis =>
        have told : ofEvents [error.event] = { rejections := 1 } := by
          rw [StatementError.event, ofEvents_withValues]
          decide
        rw [List.map_cons, ofEvents_cons, inductionHypothesis, told]
        simp [add, Nat.add_comm]
  have completed : ofEvents [check.completion] = { codes := [Code.statementsValid] } := by
    rw [StatementCheck.completion, ofEvents_withValue]
    decide
  have noErrors : check.diagnostics = [] ↔ check.errors = [] := List.map_eq_nil_iff
  have sameLength : check.diagnostics.length = check.errors.length := List.length_map _
  rw [StatementCheck.events, ofEvents_append, rejected, sameLength]
  by_cases clean : check.errors = []
  · simp [StatementCheck.hasErrors, clean, noErrors, completed, add]
  · have nothing : ofEvents [] = {} := rfl
    simp [StatementCheck.hasErrors, clean, noErrors, nothing, add]

theorem ofEvents_errorEvent? (error : SemanticError) :
    ofEvents (Analysis.errorEvent? error).toList =
      { duplicates := if error.code = Code.duplicateState then 1 else 0 } := by
  cases error with
  | duplicateState line name =>
      rw [Analysis.errorEvent?, Option.toList_some, ofEvents_withValues, SemanticError.code]
      decide
  | invalidTransitionFormat | undefinedStateReference | stateWithoutContent =>
      rfl

/-- The analysis tells of each repeated declaration, or that nothing is wrong. -/
theorem ofEvents_analysis
    (input : SemanticInput)
    (analysis : Analysis) :
    ofEvents (analysis.events input) =
      { codes := if analysis.diagnostics = [] then [Code.semanticAnalysisComplete] else []
        duplicates :=
          analysis.diagnostics.countP fun diagnostic =>
            diagnostic.code = Code.duplicateState } := by
  have repeated :
      ∀ errors : List SemanticError,
        ofEvents (errors.filterMap Analysis.errorEvent?) =
          { duplicates := errors.countP fun error => error.code = Code.duplicateState } := by
    intro errors
    rw [List.filterMap_eq_flatMap_toList]
    induction errors with
    | nil =>
        rfl
    | cons error rest inductionHypothesis =>
        rw [List.flatMap_cons, ofEvents_append, inductionHypothesis, ofEvents_errorEvent?]
        simp [add, List.countP_cons, Nat.add_comm]
  have completed :
      ofEvents [analysis.completion input] = { codes := [Code.semanticAnalysisComplete] } := by
    rw [Analysis.completion, ofEvents_withValues]
    decide
  have sorted : analysis.diagnostics.Perm (analysis.errors.map SemanticError.toDiagnostic) :=
    Diagnostic.sortByLine_perm _
  have sameCount :
      (analysis.diagnostics.countP fun diagnostic =>
          diagnostic.code = Code.duplicateState) =
        analysis.errors.countP fun error => error.code = Code.duplicateState := by
    rw [sorted.countP_eq, List.countP_map]
    rfl
  have noErrors : analysis.diagnostics = [] ↔ analysis.errors = [] := by
    rw [← List.length_eq_zero_iff, sorted.length_eq, List.length_map, List.length_eq_zero_iff]
  rw [Analysis.events, ofEvents_append, repeated, sameCount]
  by_cases clean : analysis.errors = []
  · simp [Analysis.hasErrors, clean, noErrors, completed, add]
  · have nothing : ofEvents [] = {} := rfl
    simp [Analysis.hasErrors, clean, noErrors, nothing, add]

theorem ofEvents_haltEvent
    (stage : Stage)
    (diagnosticCount : Nat) :
    ofEvents [Compilation.haltEvent stage diagnosticCount] = { stops := 1 } := by
  rw [Compilation.haltEvent, ofEvents_withValues]
  decide

theorem ofEvents_failure (error : GenerationError) :
    ofEvents [error.event] = { codes := [error.code], failures := 1 } := by
  have otherMessage :
      ∀ message : String,
        message.toList.head? ≠ some 'L' → error.event.message ≠ message := by
    intro message beginsOtherwise same
    rw [← same] at beginsOtherwise
    exact beginsOtherwise error.head?_eventMessage
  have notRejected : error.event.message ≠ "Statement rejected" :=
    otherMessage _ (by decide)
  have notRepeated : error.event.message ≠ "Duplicate state declaration" :=
    otherMessage _ (by decide)
  have isLevel : error.event.level = .error := rfl
  have isCode : error.event.code = error.code := rfl
  have telling : error.code ∈ Compilation.tellingCodes := by
    rcases error.code_cases with action | transition
    · simp [action, Compilation.tellingCodes]
    · simp [transition, Compilation.tellingCodes]
  simp [ofEvents, Compilation.toldCodes, Compilation.tellsFailure, Compilation.tellsStop,
    Log.mentions, Log.Event.isError, isLevel, isCode, error.code_cases, telling, notRejected,
    notRepeated]

/-- The generation tells of each line that it could not lower, and that it is done. -/
theorem ofEvents_generation (generation : Generation) :
    ofEvents generation.events =
      { codes :=
          generation.errors.map GenerationError.code ++ [Code.intermediateCodeGenerated]
        failures := generation.errors.length } := by
  have failed :
      ∀ errors : List GenerationError,
        ofEvents (errors.map GenerationError.event) =
          { codes := errors.map GenerationError.code
            failures := errors.length } := by
    intro errors
    induction errors with
    | nil =>
        rfl
    | cons error rest inductionHypothesis =>
        rw [List.map_cons, ofEvents_cons, inductionHypothesis, ofEvents_failure]
        simp [add, Nat.add_comm]
  have completed :
      ofEvents [generation.completion] = { codes := [Code.intermediateCodeGenerated] } := by
    rw [Generation.completion, ofEvents_withValues]
    decide
  rw [Generation.events, ofEvents_append, failed, completed]
  simp [add]

theorem ofEvents_optimization
    (policy : OptimizerPolicy)
    (optimization : Optimization) :
    ofEvents (optimization.events policy) = { codes := [Code.optimizationComplete] } := by
  rw [Optimization.events, Optimization.completion, ofEvents_withValues]
  decide

theorem ofEvents_summary (report : Report) :
    ofEvents [report.summary] =
      { codes := if report.status = .compiled then [Code.compilationComplete] else [] } := by
  unfold Report.summary
  cases report.status with
  | compiled =>
      rw [ofEvents_withValues]
      decide
  | diagnostics | sourceUnreadable =>
      rw [ofEvents_withValues]
      decide

end Tally

end Smsl
