import Smsl.Compilation.Basic

namespace Smsl

/-!
# Reports of compilations

The report of a run depends on the unit and the preferences only.  A run that no
stage ends has the report in which every stage has run; so has every run whose
verdict is that the unit compiled, and then no stage found anything.
-/

namespace Compilation

/-- What the scanner makes of a unit. -/
def scanOf
    (preferences : Preferences)
    (lines : List Text) :
    Scan :=
  Scan.ofLines .standard preferences.lexical.detailedMetrics lines

/-- What the analysis makes of a unit. -/
def analysisOf
    (preferences : Preferences)
    (lines : List Text) :
    Analysis :=
  Analysis.ofUnit preferences.semantic.attribution preferences.semantic.input lines
    (scanOf preferences lines).tokens

/-- The report after the lexical stage. -/
def scannedReport
    (preferences : Preferences)
    (name : String)
    (lines : List Text) :
    Report :=
  { Report.initial name with
    tokenCount := (scanOf preferences lines).tokens.length
    lexical := (scanOf preferences lines).diagnostics }

/-- The report after the syntactic stage. -/
def checkedReport
    (preferences : Preferences)
    (name : String)
    (lines : List Text) :
    Report :=
  { scannedReport preferences name lines with
    syntactic := (StatementCheck.ofLines lines).diagnostics }

/-- The report after the semantic stage. -/
def analyzedReport
    (preferences : Preferences)
    (name : String)
    (lines : List Text) :
    Report :=
  { checkedReport preferences name lines with
    states := (analysisOf preferences lines).states
    semantic := (analysisOf preferences lines).diagnostics }

/-- The report after code was generated and optimized. -/
def fullReport
    (preferences : Preferences)
    (name : String)
    (lines : List Text) :
    Report :=
  let generation := Generation.ofLines lines
  let optimization :=
    Optimization.ofQuadruples preferences.optimizer.policy generation.quadruples
  { analyzedReport preferences name lines with
    generationErrors := generation.errors.map GenerationError.message
    intermediate := generation.quadruples
    optimized := optimization.quadruples
    optimization := some optimization.stats }

theorem proceed_result
    (preferences : Preferences)
    (stage : Stage)
    (diagnosticCount : Nat)
    (report : Report)
    (next : Report → Script Report) :
    (proceed preferences stage diagnosticCount report next).result =
      if halts preferences diagnosticCount then
        { report with haltedAt := some stage }
      else
        (next report).result := by
  unfold proceed
  split <;> rfl

/-! Each stage hands its report on, unless it ends the run. -/

theorem planSemantic_result
    (preferences : Preferences)
    (name : String)
    (lines : List Text) :
    (planSemantic preferences lines (scanOf preferences lines).tokens
        (checkedReport preferences name lines)).result =
      if halts preferences (analysisOf preferences lines).diagnostics.length then
        { analyzedReport preferences name lines with haltedAt := some .semantic }
      else
        fullReport preferences name lines :=
  proceed_result preferences .semantic _ (analyzedReport preferences name lines)
    (planCode preferences lines)

theorem planSyntactic_result
    (preferences : Preferences)
    (name : String)
    (lines : List Text) :
    (planSyntactic preferences lines (scanOf preferences lines).tokens
        (scannedReport preferences name lines)).result =
      if halts preferences (StatementCheck.ofLines lines).diagnostics.length then
        { checkedReport preferences name lines with haltedAt := some .syntactic }
      else
        (planSemantic preferences lines (scanOf preferences lines).tokens
          (checkedReport preferences name lines)).result :=
  proceed_result preferences .syntactic _ (checkedReport preferences name lines)
    (planSemantic preferences lines (scanOf preferences lines).tokens)

theorem planLexical_result
    (preferences : Preferences)
    (name : String)
    (lines : List Text) :
    (planLexical preferences lines (Report.initial name)).result =
      if halts preferences (scanOf preferences lines).diagnostics.length then
        { scannedReport preferences name lines with haltedAt := some .lexical }
      else
        (planSyntactic preferences lines (scanOf preferences lines).tokens
          (scannedReport preferences name lines)).result :=
  proceed_result preferences .lexical _ (scannedReport preferences name lines)
    (planSyntactic preferences lines (scanOf preferences lines).tokens)

theorem plan_result
    (preferences : Preferences)
    {unit : LoadedUnit}
    {lines : List Text}
    (readable : unit.lines = .ok lines) :
    (plan preferences unit).result =
      (planLexical preferences lines (Report.initial unit.name)).result := by
  have stages : (plan preferences unit).result = (planStages preferences unit).result := rfl
  rw [stages, planStages, readable]

theorem plan_result_of_unreadable
    (preferences : Preferences)
    {unit : LoadedUnit}
    {failure : Diagnostic}
    (unreadable : unit.lines = .error failure) :
    (plan preferences unit).result =
      { Report.initial unit.name with unreadable := some failure } := by
  have stages : (plan preferences unit).result = (planStages preferences unit).result := rfl
  rw [stages, planStages, unreadable]
  rfl

/-- An ungated run of a readable unit goes through every stage. -/
theorem plan_result_of_ungated
    {preferences : Preferences}
    (ungated : preferences.pipeline.stopOnErrors = false)
    {unit : LoadedUnit}
    {lines : List Text}
    (readable : unit.lines = .ok lines) :
    (plan preferences unit).result = fullReport preferences unit.name lines := by
  have neverHalts : ∀ count, halts preferences count = false := by
    intro count
    simp [halts, ungated]
  simp [plan_result preferences readable, planLexical_result, planSyntactic_result,
    planSemantic_result, neverHalts]

/-- A report with the best verdict has nothing to tell. -/
theorem status_eq_compiled_iff
    {report : Report} :
    report.status = .compiled ↔
      report.unreadable = none ∧
        report.lexical = [] ∧
          report.syntactic = [] ∧
            report.semantic = [] ∧
              report.generationErrors = [] := by
  cases unreadable : report.unreadable with
  | some failure =>
      simp [Report.status, unreadable]
  | none =>
      simp [Report.status, Report.hasDiagnostics, Report.diagnosticCount,
        Report.allDiagnostics, unreadable, and_assoc]

/-- A stage whose diagnostics its report shows does not end a run that compiles. -/
theorem goes_on_of_compiled
    {preferences : Preferences}
    {diagnostics : List Diagnostic}
    {ended next : Report}
    (shown : ended.status = .compiled → diagnostics = [])
    (compiled :
      (if halts preferences diagnostics.length then ended else next).status = .compiled) :
    (if halts preferences diagnostics.length then ended else next) = next := by
  by_cases halted : halts preferences diagnostics.length = true
  · rw [if_pos halted] at compiled
    rw [shown compiled] at halted
    simp [halts] at halted
  · exact if_neg halted

/-- A unit that compiles has gone through every stage. -/
theorem plan_result_of_compiled
    {preferences : Preferences}
    {unit : LoadedUnit}
    {lines : List Text}
    (readable : unit.lines = .ok lines)
    (compiled : (plan preferences unit).result.status = .compiled) :
    (plan preferences unit).result = fullReport preferences unit.name lines := by
  have scanShown :
      { scannedReport preferences unit.name lines with
        haltedAt := some Stage.lexical }.status = .compiled →
        (scanOf preferences lines).diagnostics = [] :=
    fun ended => (status_eq_compiled_iff.mp ended).2.1
  have checkShown :
      { checkedReport preferences unit.name lines with
        haltedAt := some Stage.syntactic }.status = .compiled →
        (StatementCheck.ofLines lines).diagnostics = [] :=
    fun ended => (status_eq_compiled_iff.mp ended).2.2.1
  have analysisShown :
      { analyzedReport preferences unit.name lines with
        haltedAt := some Stage.semantic }.status = .compiled →
        (analysisOf preferences lines).diagnostics = [] :=
    fun ended => (status_eq_compiled_iff.mp ended).2.2.2.1
  rw [plan_result preferences readable, planLexical_result] at compiled ⊢
  have scanned := goes_on_of_compiled scanShown compiled
  rw [scanned, planSyntactic_result] at compiled
  rw [scanned, planSyntactic_result]
  have checked := goes_on_of_compiled checkShown compiled
  rw [checked, planSemantic_result] at compiled
  rw [checked, planSemantic_result]
  exact goes_on_of_compiled analysisShown compiled

/-! The report of a run, and runs that nothing refuses. -/

/-- A run that is not refused has the planned report. -/
theorem run_report
    {preferences : Preferences}
    {unit : LoadedUnit}
    {sink : Sink σ}
    {state : σ}
    {journal : Log.Journal}
    {outcome : Outcome σ}
    (finished : (run preferences unit sink state journal).1 = .ok outcome) :
    outcome.report = (plan preferences unit).result := by
  simp only [run] at finished
  cases performed :
      (Log.Journal.within unit.name
        (carryOut sink (plan preferences unit).steps state) journal).1 with
  | error refusal =>
      simp [performed, Except.map] at finished
  | ok final =>
      simp only [performed, Except.map, Except.ok.injEq] at finished
      rw [← finished]

/-- A sink takes every delivery in every state. -/
def AcceptsAll (sink : Sink σ) : Prop :=
  ∀ state delivery, ∃ next, sink.accept state delivery = .ok next

theorem memory_acceptsAll : AcceptsAll MemorySink.sink :=
  fun memory delivery => ⟨memory.keep delivery, rfl⟩

theorem carryOut_of_acceptsAll
    {sink : Sink σ}
    (acceptsAll : AcceptsAll sink)
    (steps : List ScriptStep)
    (state : σ)
    (journal : Log.Journal) :
    ∃ final, (carryOut sink steps state journal).1 = .ok final := by
  induction steps generalizing state journal with
  | nil =>
      exact ⟨state, rfl⟩
  | cons step rest inductionHypothesis =>
      cases step with
      | log event =>
          exact inductionHypothesis state (journal.record event)
      | deliver delivery =>
          obtain ⟨next, accepted⟩ := acceptsAll state delivery
          obtain ⟨final, finished⟩ := inductionHypothesis next journal
          exact ⟨final, by simpa [carryOut, accepted] using finished⟩

/-- A run that nothing refuses finishes with the planned report. -/
theorem run_of_acceptsAll
    (preferences : Preferences)
    (unit : LoadedUnit)
    {sink : Sink σ}
    (acceptsAll : AcceptsAll sink)
    (state : σ)
    (journal : Log.Journal) :
    ∃ outcome,
      (run preferences unit sink state journal).1 = .ok outcome ∧
        outcome.report = (plan preferences unit).result := by
  obtain ⟨final, finished⟩ :=
    carryOut_of_acceptsAll acceptsAll (plan preferences unit).steps state
      (journal.setUnit unit.name)
  refine ⟨{ report := (plan preferences unit).result, sink := final }, ?_, rfl⟩
  simp [run, Log.Journal.within, finished, Except.map]

end Compilation

end Smsl
