import Smsl.Proofs.EventTally
import Smsl.Proofs.GatedRuns
import Smsl.Proofs.LoggedRuns

namespace Smsl

/-!
# What the log tells of a run

Every stage logs on its own what it did, and the report is filled elsewhere.
The log still tells the truth about the report: from the codes and the messages
of its events one can read off which stages ran and found nothing, how many
statements were rejected and states declared twice, whether a stage ended the
run, whether code was generated, and whether the unit compiled.
-/

namespace Compilation

/-- The stage that a delivery is from, if it hands on what a stage found. -/
def stageOf? : Delivery → Option Stage
  | .diagnostics stage _ => stage
  | .tokens _ => none
  | .quadruples _ _ => none

/--
The telling codes that are due to a report, in the order of the stages: one of
the scan, one of the check and one of the analysis if they were called and found
nothing, those of the code with its failures if there is code, and one of the
whole if the unit compiled.
-/
def reportCodes
    (called : List Stage)
    (failures : List Code)
    (report : Report) :
    List Code :=
  [Code.tokenizationComplete] ++
    (if .syntactic ∈ called ∧ report.syntactic = [] then [Code.statementsValid] else []) ++
    (if .semantic ∈ called ∧ report.semantic = [] then
      [Code.semanticAnalysisComplete]
    else
      []) ++
    (if report.generatedCode = true then
      failures ++ [Code.intermediateCodeGenerated, Code.optimizationComplete]
    else
      []) ++
    (if report.status = .compiled then [Code.compilationComplete] else [])

/-- The events of a run tell the truth about its report. -/
structure TellsOfRun
    (called : List Stage)
    (report : Report)
    (events : List Log.Event) :
    Prop where
  codes :
    ∃ failures : List Code,
      failures.length = report.generationErrors.length ∧
        (∀ code ∈ failures, code = Code.invalidAction ∨ code = Code.invalidTransition) ∧
        toldCodes events = reportCodes called failures report
  failures :
    events.countP tellsFailure = report.generationErrors.length
  last :
    events.getLast?.map Log.Event.code = some Code.compilationComplete ↔
      report.status = .compiled
  stops :
    events.countP tellsStop = if report.haltedAt.isSome then 1 else 0
  rejections :
    Log.mentions "Statement rejected" events = report.syntactic.length
  duplicates :
    Log.mentions "Duplicate state declaration" events =
      report.semantic.countP fun diagnostic => diagnostic.code = Code.duplicateState

/-- What the events of a stage tell. -/
def stageTally
    (preferences : Preferences)
    (lines : List Text) :
    Stage → Tally
  | .lexical =>
      { codes := [Code.tokenizationComplete] }
  | .syntactic =>
      { codes :=
          if findings preferences lines .syntactic = [] then [Code.statementsValid] else []
        rejections := (findings preferences lines .syntactic).length }
  | .semantic =>
      { codes :=
          if findings preferences lines .semantic = [] then
            [Code.semanticAnalysisComplete]
          else
            []
        duplicates :=
          (findings preferences lines .semantic).countP fun diagnostic =>
            diagnostic.code = Code.duplicateState }

theorem ofEvents_stageEvents
    (preferences : Preferences)
    (lines : List Text)
    (stage : Stage) :
    Tally.ofEvents (stageEvents preferences lines stage) =
      stageTally preferences lines stage := by
  cases stage with
  | lexical =>
      exact Tally.ofEvents_scan _
  | syntactic =>
      exact Tally.ofEvents_check _
  | semantic =>
      exact Tally.ofEvents_analysis _ _

theorem ofEvents_codeEvents
    (preferences : Preferences)
    (lines : List Text) :
    Tally.ofEvents (codeEvents preferences lines) =
      { codes :=
          (Generation.ofLines lines).errors.map GenerationError.code ++
            [Code.intermediateCodeGenerated, Code.optimizationComplete]
        failures := (Generation.ofLines lines).errors.length } := by
  rw [codeEvents, Tally.ofEvents_append, Tally.ofEvents_generation,
    Tally.ofEvents_optimization]
  simp [Tally.add]

/-- What all events of a run tell: the stages, its end, and the summary. -/
theorem ofEvents_plan
    (preferences : Preferences)
    {unit : LoadedUnit}
    {lines : List Text}
    (readable : unit.lines = .ok lines)
    (silent : unit.events = []) :
    Tally.ofEvents (plan preferences unit).events =
      (Tally.ofEvents
        ((calledStages (plan preferences unit).result).flatMap
          (stageEvents preferences lines))).add
        ((Tally.ofEvents
          (closingEvents preferences lines (plan preferences unit).result)).add
            { codes :=
                if (plan preferences unit).result.status = .compiled then
                  [Code.compilationComplete]
                else
                  [] }) := by
  rw [plan_events preferences readable, silent, List.nil_append, Tally.ofEvents_cons,
    Tally.ofEvents_startEvent, Tally.ofEvents_append, Tally.ofEvents_append,
    Tally.ofEvents_summary]
  simp [Tally.add]

/-- What the events of a run have to tell, given its report. -/
def reportTally
    (called : List Stage)
    (failures : List Code)
    (report : Report) :
    Tally where
  codes := reportCodes called failures report
  failures := report.generationErrors.length
  stops := if report.haltedAt.isSome then 1 else 0
  rejections := report.syntactic.length
  duplicates :=
    report.semantic.countP fun diagnostic => diagnostic.code = Code.duplicateState

theorem tally_atStage
    {preferences : Preferences}
    (name : String)
    {lines : List Text}
    {stage : Stage}
    (ends : endsAt preferences lines stage = true) :
    (Tally.ofEvents (stage.upTo.flatMap (stageEvents preferences lines))).add
        (Tally.ofEvents [endEvent preferences lines stage]) =
      reportTally stage.upTo []
        { reportAfter preferences name lines stage with haltedAt := some stage } := by
  have found : findings preferences lines stage ≠ [] := (endsAt_eq_true_iff.mp ends).1
  have verdict :
      { reportAfter preferences name lines stage with haltedAt := some stage }.status =
        .diagnostics :=
    ((agreesAsFar_atStage name ends).halted rfl).1
  simp only [reportTally, reportCodes, verdict]
  cases stage with
  | lexical =>
      simp [Stage.upTo, ofEvents_stageEvents, stageTally, endEvent, Tally.ofEvents_haltEvent,
        Tally.add, reportAfter, scannedReport, Report.initial, Report.generatedCode]
  | syntactic =>
      have nothing : (StatementCheck.ofLines lines).diagnostics ≠ [] := found
      simp [Stage.upTo, Tally.ofEvents_append, ofEvents_stageEvents, stageTally, endEvent,
        Tally.ofEvents_haltEvent, Tally.add, reportAfter, checkedReport, scannedReport,
        Report.initial, Report.generatedCode, findings, nothing]
  | semantic =>
      have nothing : (analysisOf preferences lines).diagnostics ≠ [] := found
      by_cases accepted : (StatementCheck.ofLines lines).diagnostics = [] <;>
        simp [Stage.upTo, Tally.ofEvents_append, ofEvents_stageEvents, stageTally, endEvent,
          Tally.ofEvents_haltEvent, Tally.add, reportAfter, analyzedReport, checkedReport,
          scannedReport, Report.initial, Report.generatedCode, findings, nothing, accepted]

theorem tally_afterCode
    (preferences : Preferences)
    (name : String)
    (lines : List Text) :
    (Tally.ofEvents (Stage.inOrder.flatMap (stageEvents preferences lines))).add
        ((Tally.ofEvents (codeEvents preferences lines)).add
          { codes :=
              if (fullReport preferences name lines).status = .compiled then
                [Code.compilationComplete]
              else
                [] }) =
      reportTally Stage.inOrder ((Generation.ofLines lines).errors.map GenerationError.code)
        (fullReport preferences name lines) := by
  have checked :
      (fullReport preferences name lines).syntactic = findings preferences lines .syntactic :=
    rfl
  have analyzed :
      (fullReport preferences name lines).semantic = findings preferences lines .semantic :=
    rfl
  have generated : (fullReport preferences name lines).generatedCode = true := rfl
  have finished : (fullReport preferences name lines).haltedAt = none := rfl
  have failed :
      (fullReport preferences name lines).generationErrors.length =
        (Generation.ofLines lines).errors.length :=
    List.length_map _
  by_cases accepted : findings preferences lines .syntactic = [] <;>
    by_cases sound : findings preferences lines .semantic = [] <;>
      simp [Stage.inOrder, Tally.ofEvents_append, ofEvents_stageEvents, stageTally,
        ofEvents_codeEvents, Tally.add, reportTally, reportCodes, checked, analyzed,
        generated, finished, failed, accepted, sound]

/-- However a run ends, its events tell what its report has. -/
theorem Ends.tally
    {preferences : Preferences}
    {name : String}
    {lines : List Text}
    {report : Report}
    {deliveries : List Delivery}
    (ends : Ends preferences name lines report deliveries) :
    ∃ failures : List Code,
      failures.length = report.generationErrors.length ∧
        (∀ code ∈ failures, code = Code.invalidAction ∨ code = Code.invalidTransition) ∧
        (Tally.ofEvents ((calledStages report).flatMap (stageEvents preferences lines))).add
            ((Tally.ofEvents (closingEvents preferences lines report)).add
              { codes :=
                  if report.status = .compiled then [Code.compilationComplete] else [] }) =
          reportTally (deliveries.filterMap stageOf?) failures report := by
  cases ends with
  | atStage stage _ halts =>
      have told :
          (tokensTold preferences lines :: stage.upTo.map (told preferences lines)).filterMap
              stageOf? =
            stage.upTo := by
        cases stage <;> rfl
      have verdict :
          { reportAfter preferences name lines stage with haltedAt := some stage }.status =
            .diagnostics :=
        ((agreesAsFar_atStage name halts).halted rfl).1
      refine ⟨[], ?_, nofun, ?_⟩
      · cases stage <;> rfl
      · rw [told, ← tally_atStage name halts, verdict]
        simp [calledStages, closingEvents, Tally.add]
  | afterCode _ =>
      refine ⟨(Generation.ofLines lines).errors.map GenerationError.code, ?_, ?_,
        tally_afterCode preferences name lines⟩
      · exact (List.length_map _).trans (List.length_map _).symm
      · intro code member
        obtain ⟨error, _, rfl⟩ := List.mem_map.mp member
        exact error.code_cases

theorem summary_code_iff (report : Report) :
    report.summary.code = Code.compilationComplete ↔ report.status = .compiled := by
  have plain : Code.plainInfo ≠ Code.compilationComplete := by
    decide
  unfold Report.summary
  cases report.status with
  | compiled =>
      exact ⟨fun _ => rfl, fun _ => rfl⟩
  | diagnostics | sourceUnreadable =>
      exact ⟨fun same => absurd same plain, nofun⟩

/-- Events that add up to what a report has tell the truth about it. -/
theorem tellsOfRun_of_tally
    {called : List Stage}
    {failures : List Code}
    {report : Report}
    {events : List Log.Event}
    (sameLength : failures.length = report.generationErrors.length)
    (areFailures :
      ∀ code ∈ failures, code = Code.invalidAction ∨ code = Code.invalidTransition)
    (told : Tally.ofEvents events = reportTally called failures report)
    (isLast : events.getLast?.map Log.Event.code = some report.summary.code) :
    TellsOfRun called report events where
  codes := ⟨failures, sameLength, areFailures, congrArg Tally.codes told⟩
  failures := congrArg Tally.failures told
  last := by
    rw [isLast, Option.some.injEq]
    exact summary_code_iff report
  stops := congrArg Tally.stops told
  rejections := congrArg Tally.rejections told
  duplicates := congrArg Tally.duplicates told

/--
The log tells the truth about a run over a unit in memory that nothing refuses.
A service at the most talkative level holds events from which the report can be
read off; and if units are tagged, every event tells the unit.
-/
theorem log_tells_of_run
    (preferences : Preferences)
    (name : String)
    (text : Text)
    {sink : Sink σ}
    (acceptsAll : AcceptsAll sink)
    (state : σ)
    (journal : Log.Journal) :
    ∃ (outcome : Outcome σ) (recorded : List Log.Event),
      (run preferences (LoadedUnit.ofText name text) sink state journal).1 = .ok outcome ∧
        (run preferences (LoadedUnit.ofText name text) sink state journal).2.events.toList =
          journal.events.toList ++ recorded ∧
        TellsOfRun
          ((plan preferences (LoadedUnit.ofText name text)).deliveries.filterMap stageOf?)
          outcome.report
          (recorded.foldl Log.Service.log (Log.Service.empty .debug)).events ∧
        (journal.tagsUnits = true →
          ∀ event ∈ (recorded.foldl Log.Service.log (Log.Service.empty .debug)).events,
            event.context.lookup "source" = some name) := by
  have readable : (LoadedUnit.ofText name text).lines = .ok (Text.lines text) := rfl
  obtain ⟨outcome, finished, isReport⟩ :=
    run_of_acceptsAll preferences (LoadedUnit.ofText name text) acceptsAll state journal
  obtain ⟨failures, sameLength, areFailures, tally⟩ := (plan_ends preferences readable).tally
  refine ⟨outcome, _, finished,
    run_events preferences (LoadedUnit.ofText name text) acceptsAll state journal, ?_, ?_⟩
  · rw [Log.Service.events_debug, isReport]
    refine tellsOfRun_of_tally sameLength areFailures ?_ ?_
    · rw [Tally.ofEvents_map_tag, ofEvents_plan preferences readable rfl, tally]
    · rw [List.getLast?_map, getLast?_plan_events, Option.map_some, Option.map_some,
        Log.Journal.code_tag]
  · intro tags event member
    rw [Log.Service.events_debug] at member
    obtain ⟨untagged, _, rfl⟩ := List.mem_map.mp member
    exact Log.Journal.lookup_tag (journal.setUnit name) tags rfl untagged

/--
The log of an ungated run over a state declared twice and an action without a
name, under a journal that tags units.
-/
theorem log_tells_of_run_of_faulty_unit :
    ∃ (outcome : Outcome MemorySink) (recorded : List Log.Event),
      (run (Environment.empty.preferences.gate false)
          (LoadedUnit.ofText "unit" "state A \x7b\nstate A \x7b\naction\n".toList)
          MemorySink.sink MemorySink.empty (Log.Journal.empty true)).1 = .ok outcome ∧
        (run (Environment.empty.preferences.gate false)
            (LoadedUnit.ofText "unit" "state A \x7b\nstate A \x7b\naction\n".toList)
            MemorySink.sink MemorySink.empty (Log.Journal.empty true)).2.events.toList =
          recorded ∧
        recorded.countP tellsFailure = 1 ∧
        Log.mentions "Statement rejected" recorded = 1 ∧
        Log.mentions "Duplicate state declaration" recorded = 1 ∧
        ∀ event ∈ recorded, event.context.lookup "source" = some "unit" := by
  obtain ⟨outcome, recorded, finished, isRecorded, tells, tagged⟩ :=
    log_tells_of_run (Environment.empty.preferences.gate false) "unit"
      "state A \x7b\nstate A \x7b\naction\n".toList memory_acceptsAll MemorySink.empty
      (Log.Journal.empty true)
  rw [Log.Service.events_debug] at tells tagged
  have isReport := run_report finished
  refine ⟨outcome, recorded, finished, isRecorded, ?_, ?_, ?_, tagged rfl⟩
  · rw [tells.failures, isReport]
    decide +kernel
  · rw [tells.rejections, isReport]
    decide +kernel
  · rw [tells.duplicates, isReport]
    decide +kernel

end Compilation

end Smsl
