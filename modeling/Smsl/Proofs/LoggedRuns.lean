import Smsl.Log.Service
import Smsl.Proofs.StagedRuns

namespace Smsl

/-!
# Events of a run

A run that nothing refuses adds the events of its script to the journal, each
tagged with the unit.  This module says which events these are: the events of
the stages that were called, then the event of a stage that ended the run or the
events of the code, between an event at the start and the summary at the end.
-/

/-- The event that a step logs, if it logs one. -/
def ScriptStep.event? : ScriptStep → Option Log.Event
  | .log event => some event
  | .deliver _ => none

namespace Script

/-- What a script logs, in order. -/
def events (script : Script α) : List Log.Event :=
  script.steps.filterMap ScriptStep.event?

@[simp] theorem events_pure (result : α) :
    (Pure.pure result : Script α).events = [] :=
  rfl

@[simp] theorem events_log (events : List Log.Event) :
    (log events).events = events := by
  simp [Script.events, log, List.filterMap_map, Function.comp_def, ScriptStep.event?]

@[simp] theorem events_deliver (delivery : Delivery) :
    (deliver delivery).events = [] :=
  rfl

@[simp] theorem events_bind
    (script : Script α)
    (next : α → Script β) :
    (script >>= next).events = script.events ++ (next script.result).events :=
  List.filterMap_append

end Script

/-! The journal and the service. -/

namespace Log

/-- A value that is set for a name is found under it. -/
theorem Context.lookup_insert
    (name value : String)
    (context : Context) :
    (context.insert name value).lookup name = some value := by
  induction context with
  | nil =>
      simp [insert]
  | cons first rest inductionHypothesis =>
      simp only [insert]
      split
      · simp
      · rename_i differs
        split
        · simp
        · rw [List.lookup_cons, beq_eq_false_iff_ne.mpr differs]
          exact inductionHypothesis

/-- An event of a journal that tags units tells the unit. -/
theorem Journal.lookup_tag
    (journal : Journal)
    (tags : journal.tagsUnits = true)
    {unit : String}
    (isUnit : journal.unit = some unit)
    (event : Event) :
    (journal.tag event).context.lookup unitName = some unit := by
  simp only [tag, tags, isUnit]
  exact Context.lookup_insert unitName unit event.context

theorem Journal.code_tag
    (journal : Journal)
    (event : Event) :
    (journal.tag event).code = event.code := by
  unfold tag
  split <;> rfl

/-- A service at the most talkative level holds all events. -/
theorem Service.events_debug (events : List Event) :
    (events.foldl log (empty .debug)).events = events := by
  have extended :
      ∀ service : Service, service.minimum = .debug →
        (events.foldl log service).events = service.events ++ events := by
    induction events with
    | nil =>
        intro service _
        exact (List.append_nil _).symm
    | cons event rest inductionHypothesis =>
        intro service talkative
        have passes : service.shouldLog event.level = true := by
          unfold shouldLog
          rw [talkative]
          cases event.level <;> rfl
        have logged :
            service.log event = { service with events := service.events ++ [event] } :=
          if_pos passes
        have further :=
          inductionHypothesis { service with events := service.events ++ [event] } talkative
        rw [List.foldl_cons, logged, further, List.append_assoc]
        rfl
  exact extended (empty .debug) rfl

end Log

namespace Compilation

/-- Carrying out steps that nothing refuses adds their events to the journal. -/
theorem carryOut_events
    {sink : Sink σ}
    (acceptsAll : AcceptsAll sink)
    (steps : List ScriptStep)
    (state : σ)
    (journal : Log.Journal) :
    (carryOut sink steps state journal).2.events.toList =
      journal.events.toList ++ (steps.filterMap ScriptStep.event?).map journal.tag := by
  induction steps generalizing state journal with
  | nil =>
      simp [carryOut]
  | cons step rest inductionHypothesis =>
      cases step with
      | log event =>
          have sameTag : (journal.record event).tag = journal.tag := rfl
          have recorded :
              (journal.record event).events.toList =
                journal.events.toList ++ [journal.tag event] :=
            Array.toList_push
          simp only [carryOut, inductionHypothesis, recorded, sameTag, ScriptStep.event?,
            List.filterMap_cons, List.map_cons, List.append_assoc, List.singleton_append]
      | deliver delivery =>
          obtain ⟨next, accepted⟩ := acceptsAll state delivery
          have handedOn :
              carryOut sink (.deliver delivery :: rest) state journal =
                carryOut sink rest next journal := by
            simp only [carryOut, accepted]
          rw [handedOn]
          exact inductionHypothesis next journal

/-- A run that nothing refuses logs the events of its script under its unit. -/
theorem run_events
    (preferences : Preferences)
    (unit : LoadedUnit)
    {sink : Sink σ}
    (acceptsAll : AcceptsAll sink)
    (state : σ)
    (journal : Log.Journal) :
    (run preferences unit sink state journal).2.events.toList =
      journal.events.toList ++
        (plan preferences unit).events.map (journal.setUnit unit.name).tag :=
  carryOut_events acceptsAll (plan preferences unit).steps state (journal.setUnit unit.name)

/-! What each stage logs before it hands on. -/

/-- The events of a stage. -/
def stageEvents
    (preferences : Preferences)
    (lines : List Text) :
    Stage → List Log.Event
  | .lexical => (scanOf preferences lines).events
  | .syntactic => (StatementCheck.ofLines lines).events
  | .semantic => (analysisOf preferences lines).events preferences.semantic.input

/-- The events of generation and optimization. -/
def codeEvents
    (preferences : Preferences)
    (lines : List Text) :
    List Log.Event :=
  (Generation.ofLines lines).events ++
    (Optimization.ofQuadruples preferences.optimizer.policy
      (Generation.ofLines lines).quadruples).events preferences.optimizer.policy

/-- The event of a stage that ends a run. -/
def endEvent
    (preferences : Preferences)
    (lines : List Text)
    (stage : Stage) :
    Log.Event :=
  haltEvent stage (findings preferences lines stage).length

theorem proceed_events
    (preferences : Preferences)
    (stage : Stage)
    (diagnosticCount : Nat)
    (report : Report)
    (next : Report → Script Report) :
    (proceed preferences stage diagnosticCount report next).events =
      if halts preferences diagnosticCount then
        [haltEvent stage diagnosticCount]
      else
        (next report).events := by
  unfold proceed
  split <;> simp

theorem planCode_events
    (preferences : Preferences)
    (lines : List Text)
    (report : Report) :
    (planCode preferences lines report).events = codeEvents preferences lines := by
  simp [planCode, codeEvents]

theorem planSemantic_events
    (preferences : Preferences)
    (name : String)
    (lines : List Text) :
    (planSemantic preferences lines (scanOf preferences lines).tokens
        (checkedReport preferences name lines)).events =
      stageEvents preferences lines .semantic ++
        if endsAt preferences lines .semantic then
          [endEvent preferences lines .semantic]
        else
          codeEvents preferences lines := by
  have handsOn :=
    proceed_events preferences .semantic (findings preferences lines .semantic).length
      (analyzedReport preferences name lines) (planCode preferences lines)
  rw [planCode_events] at handsOn
  rw [endsAt, endEvent, ← handsOn]
  simp only [planSemantic, Script.events_bind, Script.events_log, Script.events_deliver]
  rfl

theorem planSyntactic_events
    (preferences : Preferences)
    (name : String)
    (lines : List Text) :
    (planSyntactic preferences lines (scanOf preferences lines).tokens
        (scannedReport preferences name lines)).events =
      stageEvents preferences lines .syntactic ++
        if endsAt preferences lines .syntactic then
          [endEvent preferences lines .syntactic]
        else
          (planSemantic preferences lines (scanOf preferences lines).tokens
            (checkedReport preferences name lines)).events := by
  rw [endsAt, endEvent, ← proceed_events preferences .syntactic]
  simp only [planSyntactic, Script.events_bind, Script.events_log, Script.events_deliver]
  rfl

theorem planLexical_events
    (preferences : Preferences)
    (name : String)
    (lines : List Text) :
    (planLexical preferences lines (Report.initial name)).events =
      stageEvents preferences lines .lexical ++
        if endsAt preferences lines .lexical then
          [endEvent preferences lines .lexical]
        else
          (planSyntactic preferences lines (scanOf preferences lines).tokens
            (scannedReport preferences name lines)).events := by
  rw [endsAt, endEvent, ← proceed_events preferences .lexical]
  simp only [planLexical, Script.events_bind, Script.events_log, Script.events_deliver]
  rfl

/-- The stages that a run over readable lines has called, by its report. -/
def calledStages (report : Report) : List Stage :=
  match report.haltedAt with
  | some stage => stage.upTo
  | none => Stage.inOrder

/-- The events after those of the stages: of the stage that ends the run, or of the code. -/
def closingEvents
    (preferences : Preferences)
    (lines : List Text)
    (report : Report) :
    List Log.Event :=
  match report.haltedAt with
  | some stage => [endEvent preferences lines stage]
  | none => codeEvents preferences lines

theorem planLexical_events_eq
    (preferences : Preferences)
    (name : String)
    (lines : List Text) :
    (planLexical preferences lines (Report.initial name)).events =
      (calledStages (planLexical preferences lines (Report.initial name)).result).flatMap
          (stageEvents preferences lines) ++
        closingEvents preferences lines
          (planLexical preferences lines (Report.initial name)).result := by
  have gates :
      halts preferences (scanOf preferences lines).diagnostics.length =
          endsAt preferences lines .lexical ∧
        halts preferences (StatementCheck.ofLines lines).diagnostics.length =
          endsAt preferences lines .syntactic ∧
        halts preferences (analysisOf preferences lines).diagnostics.length =
          endsAt preferences lines .semantic :=
    ⟨rfl, rfl, rfl⟩
  rw [planLexical_result, planLexical_events preferences name, planSyntactic_result,
    planSyntactic_events, planSemantic_result, planSemantic_events, gates.1, gates.2.1,
    gates.2.2]
  cases endsAt preferences lines .lexical with
  | true =>
      simp [calledStages, closingEvents, Stage.upTo]
  | false =>
      cases endsAt preferences lines .syntactic with
      | true =>
          simp [calledStages, closingEvents, Stage.upTo]
      | false =>
          cases endsAt preferences lines .semantic with
          | true =>
              simp [calledStages, closingEvents, Stage.upTo]
          | false =>
              have finished : (fullReport preferences name lines).haltedAt = none := rfl
              simp [calledStages, closingEvents, finished, Stage.inOrder]

/-- The events of a run over readable lines. -/
theorem plan_events
    (preferences : Preferences)
    {unit : LoadedUnit}
    {lines : List Text}
    (readable : unit.lines = .ok lines) :
    (plan preferences unit).events =
      startEvent preferences unit.name ::
        (unit.events ++
          ((calledStages (plan preferences unit).result).flatMap
              (stageEvents preferences lines) ++
            closingEvents preferences lines (plan preferences unit).result ++
            [(plan preferences unit).result.summary])) := by
  rw [plan_result preferences readable, ← planLexical_events_eq]
  simp [plan, planStages, readable]

/-- The last event of a run is its summary. -/
theorem getLast?_plan_events
    (preferences : Preferences)
    (unit : LoadedUnit) :
    (plan preferences unit).events.getLast? = some (plan preferences unit).result.summary := by
  have steps :
      (plan preferences unit).events =
        startEvent preferences unit.name ::
          (unit.events ++ (planStages preferences unit).events) ++
            [(plan preferences unit).result.summary] := by
    have sameResult : (plan preferences unit).result = (planStages preferences unit).result :=
      rfl
    rw [sameResult]
    simp [plan]
  rw [steps, List.getLast?_concat]

end Compilation

end Smsl
