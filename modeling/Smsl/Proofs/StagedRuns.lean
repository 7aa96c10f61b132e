import Smsl.Proofs.CompilationReport

namespace Smsl

/-!
# Staged runs

A readable unit goes through the lexical, the syntactic and the semantic stage,
and then to code.  A run ends at the first stage that finds something, if it is
gated, or else after the code.  This module says at which stage a run ends, with
which report, and what it has delivered by then, and that a memory sink and the
report tell the same story in every case.
-/

/-- The stages, in the order in which they run. -/
def Stage.inOrder : List Stage :=
  [.lexical, .syntactic, .semantic]

/-- The stages up to and with a stage. -/
def Stage.upTo : Stage → List Stage
  | .lexical => [.lexical]
  | .syntactic => [.lexical, .syntactic]
  | .semantic => [.lexical, .syntactic, .semantic]

/-- The diagnostics that a report has for a stage. -/
def Report.ofStage (report : Report) : Stage → List Diagnostic
  | .lexical => report.lexical
  | .syntactic => report.syntactic
  | .semantic => report.semantic

/-! What a script delivers. -/

/-- The delivery that a step makes, if it makes one. -/
def ScriptStep.delivery? : ScriptStep → Option Delivery
  | .log _ => none
  | .deliver delivery => some delivery

namespace Script

/-- What a script delivers, in order. -/
def deliveries (script : Script α) : List Delivery :=
  script.steps.filterMap ScriptStep.delivery?

@[simp] theorem deliveries_pure (result : α) :
    (Pure.pure result : Script α).deliveries = [] :=
  rfl

@[simp] theorem deliveries_log (events : List Log.Event) :
    (log events).deliveries = [] := by
  simp [deliveries, log, List.filterMap_map, ScriptStep.delivery?]

@[simp] theorem deliveries_deliver (delivery : Delivery) :
    (deliver delivery).deliveries = [delivery] :=
  rfl

@[simp] theorem deliveries_bind
    (script : Script α)
    (next : α → Script β) :
    (script >>= next).deliveries =
      script.deliveries ++ (next script.result).deliveries :=
  List.filterMap_append

end Script

namespace Compilation

/-- A memory sink ends up with what is delivered; logging leaves it alone. -/
theorem carryOut_memory
    (steps : List ScriptStep)
    (memory : MemorySink)
    (journal : Log.Journal) :
    (carryOut MemorySink.sink steps memory journal).1 =
      .ok ((steps.filterMap ScriptStep.delivery?).foldl MemorySink.keep memory) := by
  induction steps generalizing memory journal with
  | nil =>
      rfl
  | cons step rest inductionHypothesis =>
      cases step with
      | log event =>
          exact inductionHypothesis memory (journal.record event)
      | deliver delivery =>
          exact inductionHypothesis (memory.keep delivery) journal

theorem run_memory
    (preferences : Preferences)
    (unit : LoadedUnit)
    (memory : MemorySink)
    (journal : Log.Journal) :
    (run preferences unit MemorySink.sink memory journal).1 =
      .ok
        { report := (plan preferences unit).result
          sink := (plan preferences unit).deliveries.foldl MemorySink.keep memory } := by
  simp only [run, Log.Journal.within, carryOut_memory]
  rfl

/-! What each stage delivers before it hands on. -/

/-- What a stage finds in a unit. -/
def findings
    (preferences : Preferences)
    (lines : List Text) :
    Stage → List Diagnostic
  | .lexical => (scanOf preferences lines).diagnostics
  | .syntactic => (StatementCheck.ofLines lines).diagnostics
  | .semantic => (analysisOf preferences lines).diagnostics

/-- The delivery of what a stage finds. -/
def told
    (preferences : Preferences)
    (lines : List Text)
    (stage : Stage) :
    Delivery :=
  .diagnostics (some stage) (findings preferences lines stage)

/-- The delivery of the tokens of a unit. -/
def tokensTold
    (preferences : Preferences)
    (lines : List Text) :
    Delivery :=
  .tokens (scanOf preferences lines).tokens

/-- The deliveries of the two tables of a unit. -/
def tablesTold
    (preferences : Preferences)
    (name : String)
    (lines : List Text) :
    List Delivery :=
  [.quadruples .intermediate (fullReport preferences name lines).intermediate,
    .quadruples .optimized (fullReport preferences name lines).optimized]

/-- The stage ends the run of a unit. -/
def endsAt
    (preferences : Preferences)
    (lines : List Text)
    (stage : Stage) :
    Bool :=
  halts preferences (findings preferences lines stage).length

theorem proceed_deliveries
    (preferences : Preferences)
    (stage : Stage)
    (diagnosticCount : Nat)
    (report : Report)
    (next : Report → Script Report) :
    (proceed preferences stage diagnosticCount report next).deliveries =
      if halts preferences diagnosticCount then [] else (next report).deliveries := by
  unfold proceed
  split <;> simp

theorem planCode_deliveries
    (preferences : Preferences)
    (name : String)
    (lines : List Text)
    (report : Report) :
    (planCode preferences lines report).deliveries = tablesTold preferences name lines := by
  simp [planCode, tablesTold, fullReport]

theorem planSemantic_deliveries
    (preferences : Preferences)
    (name : String)
    (lines : List Text) :
    (planSemantic preferences lines (scanOf preferences lines).tokens
        (checkedReport preferences name lines)).deliveries =
      told preferences lines .semantic ::
        if endsAt preferences lines .semantic then
          []
        else
          tablesTold preferences name lines := by
  have handsOn :=
    proceed_deliveries preferences .semantic (findings preferences lines .semantic).length
      (analyzedReport preferences name lines) (planCode preferences lines)
  rw [planCode_deliveries preferences name] at handsOn
  rw [endsAt, ← handsOn]
  simp only [planSemantic, Script.deliveries_bind, Script.deliveries_log,
    Script.deliveries_deliver]
  rfl

theorem planSyntactic_deliveries
    (preferences : Preferences)
    (name : String)
    (lines : List Text) :
    (planSyntactic preferences lines (scanOf preferences lines).tokens
        (scannedReport preferences name lines)).deliveries =
      told preferences lines .syntactic ::
        if endsAt preferences lines .syntactic then
          []
        else
          (planSemantic preferences lines (scanOf preferences lines).tokens
            (checkedReport preferences name lines)).deliveries := by
  rw [endsAt, ← proceed_deliveries preferences .syntactic]
  simp only [planSyntactic, Script.deliveries_bind, Script.deliveries_log,
    Script.deliveries_deliver]
  rfl

theorem planLexical_deliveries
    (preferences : Preferences)
    (name : String)
    (lines : List Text) :
    (planLexical preferences lines (Report.initial name)).deliveries =
      tokensTold preferences lines ::
        told preferences lines .lexical ::
          if endsAt preferences lines .lexical then
            []
          else
            (planSyntactic preferences lines (scanOf preferences lines).tokens
              (scannedReport preferences name lines)).deliveries := by
  rw [endsAt, ← proceed_deliveries preferences .lexical]
  simp only [planLexical, Script.deliveries_bind, Script.deliveries_log,
    Script.deliveries_deliver]
  rfl

theorem plan_deliveries
    (preferences : Preferences)
    {unit : LoadedUnit}
    {lines : List Text}
    (readable : unit.lines = .ok lines) :
    (plan preferences unit).deliveries =
      (planLexical preferences lines (Report.initial unit.name)).deliveries := by
  simp [plan, planStages, readable]

/-! How a run over readable lines ends. -/

/-- The report as it stands after a stage. -/
def reportAfter
    (preferences : Preferences)
    (name : String)
    (lines : List Text) :
    Stage → Report
  | .lexical => scannedReport preferences name lines
  | .syntactic => checkedReport preferences name lines
  | .semantic => analyzedReport preferences name lines

/-- How a run over readable lines can end, with its report and its deliveries. -/
inductive Ends
    (preferences : Preferences)
    (name : String)
    (lines : List Text) :
    Report → List Delivery → Prop where
  | atStage
      (stage : Stage) :
      (∀ earlier ∈ stage.upTo, earlier ≠ stage → endsAt preferences lines earlier = false) →
      endsAt preferences lines stage = true →
      Ends preferences name lines
        { reportAfter preferences name lines stage with haltedAt := some stage }
        (tokensTold preferences lines :: stage.upTo.map (told preferences lines))
  | afterCode :
      (∀ stage, endsAt preferences lines stage = false) →
      Ends preferences name lines
        (fullReport preferences name lines)
        (tokensTold preferences lines ::
          (Stage.inOrder.map (told preferences lines) ++
            tablesTold preferences name lines))

/-- A run over readable lines ends at a stage or after the code. -/
theorem plan_ends
    (preferences : Preferences)
    {unit : LoadedUnit}
    {lines : List Text}
    (readable : unit.lines = .ok lines) :
    Ends preferences unit.name lines
      (plan preferences unit).result (plan preferences unit).deliveries := by
  have gates :
      halts preferences (scanOf preferences lines).diagnostics.length =
          endsAt preferences lines .lexical ∧
        halts preferences (StatementCheck.ofLines lines).diagnostics.length =
          endsAt preferences lines .syntactic ∧
        halts preferences (analysisOf preferences lines).diagnostics.length =
          endsAt preferences lines .semantic :=
    ⟨rfl, rfl, rfl⟩
  rw [plan_result preferences readable, plan_deliveries preferences readable,
    planLexical_result, planLexical_deliveries preferences unit.name,
    planSyntactic_result, planSyntactic_deliveries, planSemantic_result,
    planSemantic_deliveries, gates.1, gates.2.1, gates.2.2]
  cases lexical : endsAt preferences lines .lexical with
  | true =>
      exact .atStage .lexical (by simp [Stage.upTo]) lexical
  | false =>
      cases syntactic : endsAt preferences lines .syntactic with
      | true =>
          exact .atStage .syntactic (by simp [Stage.upTo, lexical]) syntactic
      | false =>
          cases semantic : endsAt preferences lines .semantic with
          | true =>
              exact .atStage .semantic (by simp [Stage.upTo, lexical, syntactic]) semantic
          | false =>
              refine .afterCode ?_
              intro stage
              cases stage <;> assumption

/-- A stage ends a run exactly if the run is gated and the stage finds something. -/
theorem endsAt_eq_true_iff
    {preferences : Preferences}
    {lines : List Text}
    {stage : Stage} :
    endsAt preferences lines stage = true ↔
      findings preferences lines stage ≠ [] ∧ preferences.pipeline.stopOnErrors = true := by
  simp [endsAt, halts, List.length_pos_iff]

/-- A stage that does not end a gated run finds nothing. -/
theorem findings_eq_nil
    {preferences : Preferences}
    {lines : List Text}
    {stage : Stage}
    (gated : preferences.pipeline.stopOnErrors = true)
    (goesOn : endsAt preferences lines stage = false) :
    findings preferences lines stage = [] := by
  have notEnding : ¬ endsAt preferences lines stage = true := by simp [goesOn]
  rw [endsAt_eq_true_iff] at notEnding
  simpa [gated] using notEnding

/-- The report after a stage has what the stages up to it found. -/
theorem ofStage_reportAfter
    (preferences : Preferences)
    (name : String)
    (lines : List Text)
    (last stage : Stage) :
    (reportAfter preferences name lines last).ofStage stage =
      if stage ∈ last.upTo then findings preferences lines stage else [] := by
  cases last <;> cases stage <;> rfl

theorem ofStage_fullReport
    (preferences : Preferences)
    (name : String)
    (lines : List Text)
    (stage : Stage) :
    (fullReport preferences name lines).ofStage stage =
      findings preferences lines stage := by
  cases stage <;> rfl

/-! The report and the sink together. -/

/-- An unreadable source is all that the sink and the report tell. -/
structure ToldUnreadable
    (failure : Diagnostic)
    (report : Report)
    (memory : MemorySink) :
    Prop where
  unreadable :
    report.unreadable = some failure
  diagnostics :
    memory.diagnostics = [(none, [failure])]
  tokens :
    memory.tokens = []
  tables :
    memory.tables = []
  status :
    report.status = .sourceUnreadable
  findings :
    ∀ stage, report.ofStage stage = []
  haltedAt :
    report.haltedAt = none
  generatedCode :
    report.generatedCode = false

/--
The stages that were called, the report and the sink of a run over readable
lines fit together.
-/
structure Staged
    (preferences : Preferences)
    (lines : List Text)
    (called : List Stage)
    (report : Report)
    (memory : MemorySink) :
    Prop where
  readable :
    report.unreadable = none
  tokens :
    memory.tokens = (scanOf preferences lines).tokens
  inOrder :
    called <+: Stage.inOrder
  diagnostics :
    memory.diagnostics = called.map fun stage => (some stage, report.ofStage stage)
  found :
    ∀ stage ∈ called, report.ofStage stage = findings preferences lines stage
  haltedAt_iff :
    preferences.pipeline.stopOnErrors = true →
    ∀ stage,
      report.haltedAt = some stage ↔
        called.getLast? = some stage ∧ report.ofStage stage ≠ []
  halted :
    ∀ stage,
      report.haltedAt = some stage →
      (∀ other, other ≠ stage → report.ofStage other = []) ∧
        (stage ≠ .semantic → report.states = []) ∧
          memory.tables = []
  finished :
    report.haltedAt = none →
    called = Stage.inOrder ∧
      memory.tables =
        [(.intermediate, report.intermediate), (.optimized, report.optimized)]
  clean :
    preferences.pipeline.stopOnErrors = true →
    report.haltedAt = none →
    ∀ stage, report.ofStage stage = []
  ungated :
    preferences.pipeline.stopOnErrors = false →
    report.haltedAt = none
  generatedCode_iff :
    report.generatedCode = true ↔ report.haltedAt = none

/-- A memory sink keeps what stages find in the order in which it is told. -/
theorem keep_told
    (preferences : Preferences)
    (lines : List Text)
    (stages : List Stage)
    (memory : MemorySink) :
    (stages.map (told preferences lines)).foldl MemorySink.keep memory =
      { memory with
        diagnostics :=
          memory.diagnostics ++
            stages.map fun stage => (some stage, findings preferences lines stage) } := by
  induction stages generalizing memory with
  | nil =>
      simp
  | cons stage rest inductionHypothesis =>
      rw [List.map_cons, List.foldl_cons, inductionHypothesis]
      simp [told, MemorySink.keep]

theorem ofStage_haltedAt
    (report : Report)
    (haltedAt : Option Stage)
    (stage : Stage) :
    { report with haltedAt := haltedAt }.ofStage stage = report.ofStage stage := by
  cases stage <;> rfl

/-- A run that ends at a stage has called the stages up to it. -/
theorem staged_atStage
    {preferences : Preferences}
    (name : String)
    {lines : List Text}
    {stage : Stage}
    (goneOn :
      ∀ earlier ∈ stage.upTo,
        earlier ≠ stage → endsAt preferences lines earlier = false)
    (ends : endsAt preferences lines stage = true) :
    Staged preferences lines stage.upTo
      { reportAfter preferences name lines stage with haltedAt := some stage }
      ((tokensTold preferences lines :: stage.upTo.map (told preferences lines)).foldl
        MemorySink.keep MemorySink.empty) := by
  obtain ⟨found, gated⟩ := endsAt_eq_true_iff.mp ends
  have isLast : stage.upTo.getLast? = some stage := by
    cases stage <;> rfl
  have isMember : stage ∈ stage.upTo :=
    List.mem_of_getLast? isLast
  rw [List.foldl_cons, keep_told]
  refine
    { readable := ?_
      tokens := rfl
      inOrder := ?_
      diagnostics := ?_
      found := ?_
      haltedAt_iff := ?_
      halted := ?_
      finished := ?_
      clean := ?_
      ungated := ?_
      generatedCode_iff := ?_ }
  · cases stage <;> rfl
  · cases stage <;> decide
  · refine List.map_congr_left ?_
    intro called isCalled
    rw [ofStage_haltedAt, ofStage_reportAfter, if_pos isCalled]
  · intro called isCalled
    rw [ofStage_haltedAt, ofStage_reportAfter, if_pos isCalled]
  · intro _ other
    simp only [ofStage_haltedAt, ofStage_reportAfter, isLast, Option.some.injEq]
    constructor
    · rintro rfl
      exact ⟨rfl, by rwa [if_pos isMember]⟩
    · exact fun halted => halted.1
  · rintro _ ⟨⟩
    refine ⟨?_, ?_, rfl⟩
    -- An earlier stage found nothing, or the run had ended there; a later one never ran.
    · intro other isOther
      rw [ofStage_haltedAt, ofStage_reportAfter]
      split
      · rename_i isCalled
        exact findings_eq_nil gated (goneOn other isCalled isOther)
      · rfl
    · intro notSemantic
      cases stage with
      | lexical | syntactic => rfl
      | semantic => exact absurd rfl notSemantic
  · rintro ⟨⟩
  · rintro _ ⟨⟩
  · intro ungated
    rw [gated] at ungated
    cases ungated
  · cases stage <;> exact ⟨nofun, nofun⟩

/-- A run that ends after the code has called every stage. -/
theorem staged_afterCode
    {preferences : Preferences}
    (name : String)
    {lines : List Text}
    (goneOn : ∀ stage, endsAt preferences lines stage = false) :
    Staged preferences lines Stage.inOrder
      (fullReport preferences name lines)
      ((tokensTold preferences lines ::
        (Stage.inOrder.map (told preferences lines) ++
          tablesTold preferences name lines)).foldl
            MemorySink.keep MemorySink.empty) := by
  rw [List.foldl_cons, List.foldl_append, keep_told]
  refine
    { readable := rfl
      tokens := rfl
      inOrder := List.prefix_refl _
      diagnostics := rfl
      found := fun stage _ => ofStage_fullReport preferences name lines stage
      haltedAt_iff := ?_
      halted := nofun
      finished := fun _ => ⟨rfl, rfl⟩
      clean := ?_
      ungated := fun _ => rfl
      generatedCode_iff := ⟨fun _ => rfl, fun _ => rfl⟩ }
  · intro gated stage
    constructor
    · nofun
    · rintro ⟨_, found⟩
      rw [ofStage_fullReport, findings_eq_nil gated (goneOn stage)] at found
      exact absurd rfl found
  · intro gated _ stage
    rw [ofStage_fullReport, findings_eq_nil gated (goneOn stage)]

/-- Code was generated exactly if both tables were delivered. -/
theorem Staged.generatedCode_iff_tables
    {preferences : Preferences}
    {lines : List Text}
    {called : List Stage}
    {report : Report}
    {memory : MemorySink}
    (staged : Staged preferences lines called report memory) :
    report.generatedCode = true ↔
      memory.tables =
        [(.intermediate, report.intermediate), (.optimized, report.optimized)] := by
  rw [staged.generatedCode_iff]
  constructor
  · intro finished
    exact (staged.finished finished).2
  · intro delivered
    cases halted : report.haltedAt with
    | none =>
        rfl
    | some stage =>
        rw [(staged.halted stage halted).2.2] at delivered
        cases delivered

theorem toldUnreadable_of_plan
    (preferences : Preferences)
    {unit : LoadedUnit}
    {failure : Diagnostic}
    (unreadable : unit.lines = .error failure) :
    ToldUnreadable failure
      (plan preferences unit).result
      ((plan preferences unit).deliveries.foldl MemorySink.keep MemorySink.empty) := by
  have isDelivered :
      (plan preferences unit).deliveries = [.diagnostics none [failure]] := by
    simp [plan, planStages, unreadable, planUnreadable]
  rw [plan_result_of_unreadable preferences unreadable, isDelivered]
  refine ⟨rfl, rfl, rfl, rfl, rfl, ?_, rfl, rfl⟩
  intro stage
  cases stage <;> rfl

/-- However a run over readable lines ends, its parts fit together. -/
theorem Ends.staged
    {preferences : Preferences}
    {name : String}
    {lines : List Text}
    {report : Report}
    {deliveries : List Delivery}
    (ends : Ends preferences name lines report deliveries) :
    ∃ called,
      Staged preferences lines called report
        (deliveries.foldl MemorySink.keep MemorySink.empty) := by
  cases ends with
  | atStage stage goneOn halts =>
      exact ⟨stage.upTo, staged_atStage name goneOn halts⟩
  | afterCode goneOn =>
      exact ⟨Stage.inOrder, staged_afterCode name goneOn⟩

/--
The staged contract.  An unreadable source is told once and nothing else is; over
readable lines the sink holds, for the stages that were called, the lists of the
report, a gated run ends at the first stage with a diagnostic, and every other
run delivers both tables.  Code was generated exactly if the tables were
delivered, and the unit compiled exactly if there is nothing to tell.
-/
theorem run_staged
    (preferences : Preferences)
    (unit : LoadedUnit)
    (journal : Log.Journal) :
    ∃ report memory,
      (run preferences unit MemorySink.sink MemorySink.empty journal).1 =
          .ok { report := report, sink := memory } ∧
        (match unit.lines with
          | .error failure => ToldUnreadable failure report memory
          | .ok lines => ∃ called, Staged preferences lines called report memory) ∧
        (report.generatedCode = true ↔
          memory.tables =
            [(.intermediate, report.intermediate), (.optimized, report.optimized)]) ∧
        (report.status = .compiled ↔
          report.unreadable = none ∧
            (∀ stage, report.ofStage stage = []) ∧ report.generationErrors = []) := by
  refine ⟨_, _, run_memory preferences unit MemorySink.empty journal, ?_, ?_, ?_⟩
  · split
    · rename_i failure unreadable
      exact toldUnreadable_of_plan preferences unreadable
    · rename_i lines readable
      exact (plan_ends preferences readable).staged
  · cases loaded : unit.lines with
    | error failure =>
        have told := toldUnreadable_of_plan preferences loaded
        simp [told.generatedCode, told.tables]
    | ok lines =>
        obtain ⟨called, staged⟩ := (plan_ends preferences loaded).staged
        exact staged.generatedCode_iff_tables
  · rw [status_eq_compiled_iff]
    constructor
    · rintro ⟨readable, lexical, syntactic, semantic, lowered⟩
      refine ⟨readable, ?_, lowered⟩
      intro stage
      cases stage <;> assumption
    · rintro ⟨readable, clean, lowered⟩
      exact ⟨readable, clean .lexical, clean .syntactic, clean .semantic, lowered⟩

end Compilation

end Smsl
