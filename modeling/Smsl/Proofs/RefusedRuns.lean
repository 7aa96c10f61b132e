import Smsl.Proofs.EventTally
import Smsl.Proofs.LoggedRuns

namespace Smsl

/-!
# Refused deliveries

The steps of a run are carried out until a sink refuses a delivery.  The run is
then over: the delivery is the last that the sink is handed, and the journal holds
the events of the steps before it.  The summary of a run is not among them, since
no step logs one but the last.
-/

/-- The sink that also notes each delivery which it is handed, taken or refused. -/
def Sink.noting (sink : Sink σ) : Sink (σ × List Delivery) where
  accept noted delivery :=
    match sink.accept noted.1 delivery with
    | .ok next =>
        .ok (next, noted.2 ++ [delivery])
    | .error refusal =>
        .error
          { reason := refusal.reason
            sink := (refusal.sink, noted.2 ++ [delivery]) }

/-- The events of a journal are recorded one behind the other, under its unit. -/
theorem Log.Journal.foldl_record
    (events : List Event)
    (journal : Journal) :
    events.foldl record journal =
      { journal with events := journal.events ++ (events.map journal.tag).toArray } := by
  induction events generalizing journal with
  | nil =>
      simp
  | cons event rest inductionHypothesis =>
      have sameTag : (journal.record event).tag = journal.tag := rfl
      rw [List.foldl_cons, inductionHypothesis, sameTag]
      simp [record, keep]

namespace Compilation

section Steps

variable {sink : Sink σ}

/-- Steps that end well are followed by the others. -/
theorem carryOut_append
    {first : List ScriptStep}
    {state middle : σ}
    {journal reached : Log.Journal}
    (done : carryOut sink first state journal = (.ok middle, reached))
    (second : List ScriptStep) :
    carryOut sink (first ++ second) state journal =
      carryOut sink second middle reached := by
  induction first generalizing state journal with
  | nil =>
      cases done
      rfl
  | cons step rest inductionHypothesis =>
      cases step with
      | log event =>
          exact inductionHypothesis done
      | deliver delivery =>
          simp only [List.cons_append, carryOut] at done ⊢
          cases accepted : sink.accept state delivery with
          | ok next =>
              rw [accepted] at done
              exact inductionHypothesis done
          | error refusal =>
              rw [accepted] at done
              cases done

/-- Steps end well, or break off at the first delivery that is refused. -/
theorem carryOut_cases
    (sink : Sink σ)
    (steps : List ScriptStep)
    (state : σ)
    (journal : Log.Journal) :
    (∃ final,
      carryOut sink steps state journal =
        (.ok final, (steps.filterMap ScriptStep.event?).foldl Log.Journal.record journal)) ∨
    (∃ before last after middle refusal,
      steps = before ++ .deliver last :: after ∧
      carryOut sink before state journal =
        (.ok middle,
          (before.filterMap ScriptStep.event?).foldl Log.Journal.record journal) ∧
      sink.accept middle last = .error refusal) := by
  induction steps generalizing state journal with
  | nil =>
      exact .inl ⟨state, rfl⟩
  | cons step rest inductionHypothesis =>
      cases step with
      | log event =>
          obtain ⟨final, done⟩ | ⟨before, last, after, middle, refusal, isSplit, done, refused⟩ :=
            inductionHypothesis state (journal.record event)
          · exact .inl ⟨final, done⟩
          · exact
              .inr ⟨.log event :: before, last, after, middle, refusal,
                congrArg _ isSplit, done, refused⟩
      | deliver delivery =>
          cases accepted : sink.accept state delivery with
          | error refusal =>
              exact .inr ⟨[], delivery, rest, state, refusal, rfl, rfl, accepted⟩
          | ok next =>
              obtain ⟨final, done⟩ |
                ⟨before, last, after, middle, refusal, isSplit, done, refused⟩ :=
                inductionHypothesis next journal
              · refine .inl ⟨final, ?_⟩
                simp only [carryOut, accepted]
                exact done
              · refine
                  .inr ⟨.deliver delivery :: before, last, after, middle, refusal,
                    congrArg _ isSplit, ?_, refused⟩
                simp only [carryOut, accepted]
                exact done

/-- A refused delivery is the last thing that happens. -/
theorem carryOut_refused
    {before : List ScriptStep}
    {last : Delivery}
    {state middle : σ}
    {journal reached : Log.Journal}
    {refusal : Refusal σ}
    (done : carryOut sink before state journal = (.ok middle, reached))
    (refused : sink.accept middle last = .error refusal)
    (after : List ScriptStep) :
    carryOut sink (before ++ .deliver last :: after) state journal =
      (.error refusal, reached) := by
  rw [carryOut_append done]
  simp only [carryOut, refused]

/-- Steps that end well leave their events in the journal, whatever the sink. -/
theorem carryOut_of_ok
    {steps : List ScriptStep}
    {state final : σ}
    {journal : Log.Journal}
    (finished : (carryOut sink steps state journal).1 = .ok final) :
    carryOut sink steps state journal =
      (.ok final, (steps.filterMap ScriptStep.event?).foldl Log.Journal.record journal) := by
  obtain ⟨_, done⟩ | ⟨before, last, after, middle, refusal, isSplit, done, refused⟩ :=
    carryOut_cases sink steps state journal
  · rw [done] at finished ⊢
    cases finished
    rfl
  · rw [isSplit, carryOut_refused done refused] at finished
    cases finished

/-- Taking notes changes nothing, and the notes hold what was delivered. -/
theorem carryOut_noting
    {steps : List ScriptStep}
    {state final : σ}
    {journal reached : Log.Journal}
    (done : carryOut sink steps state journal = (.ok final, reached))
    (noted : List Delivery) :
    carryOut sink.noting steps (state, noted) journal =
      (.ok (final, noted ++ steps.filterMap ScriptStep.delivery?), reached) := by
  induction steps generalizing state journal noted with
  | nil =>
      cases done
      simp [carryOut]
  | cons step rest inductionHypothesis =>
      cases step with
      | log event =>
          exact inductionHypothesis done noted
      | deliver delivery =>
          cases accepted : sink.accept state delivery with
          | error refusal =>
              simp only [carryOut, accepted] at done
              cases done
          | ok next =>
              have taken :
                  sink.noting.accept (state, noted) delivery =
                    .ok (next, noted ++ [delivery]) := by
                simp only [Sink.noting, accepted]
              simp only [carryOut, accepted] at done
              simp only [carryOut, taken, inductionHypothesis done, ScriptStep.delivery?,
                List.filterMap_cons, List.append_assoc, List.singleton_append]

/-- The notes end with the delivery that was refused. -/
theorem carryOut_noting_refused
    {before : List ScriptStep}
    {last : Delivery}
    {state middle : σ}
    {journal reached : Log.Journal}
    {refusal : Refusal σ}
    (done : carryOut sink before state journal = (.ok middle, reached))
    (refused : sink.accept middle last = .error refusal)
    (after : List ScriptStep) :
    carryOut sink.noting (before ++ .deliver last :: after) (state, []) journal =
      (.error
        { reason := refusal.reason
          sink := (refusal.sink, before.filterMap ScriptStep.delivery? ++ [last]) },
        reached) := by
  apply carryOut_refused (carryOut_noting done [])
  simp only [Sink.noting, refused, List.nil_append]

end Steps

/-- A run ends as its steps do, and leaves no unit set. -/
theorem run_of_carryOut
    {preferences : Preferences}
    {unit : LoadedUnit}
    {sink : Sink σ}
    {state : σ}
    {journal reached : Log.Journal}
    {result : Except (Refusal σ) σ}
    (carriedOut :
      carryOut sink (plan preferences unit).steps state (journal.setUnit unit.name) =
        (result, reached)) :
    run preferences unit sink state journal =
      (result.map fun final => { report := (plan preferences unit).result, sink := final },
        reached.clearUnit) := by
  simp only [run, Log.Journal.within, carriedOut]

/-! The summary of a run. -/

/-- The event is a summary: it tells how a compilation ended. -/
def isSummary (event : Log.Event) : Bool :=
  event.message ∈ ["Compilation complete", "Compilation finished with diagnostics"]

theorem isSummary_withValues
    (event : Log.Event)
    (pairs : List (String × String)) :
    isSummary (event.withValues pairs) = isSummary event :=
  rfl

theorem isSummary_withValue
    (event : Log.Event)
    (name value : String) :
    isSummary (event.withValue name value) = isSummary event :=
  rfl

theorem not_summary_scan
    (scan : Scan)
    {event : Log.Event}
    (member : event ∈ scan.events) :
    isSummary event = false := by
  rcases List.mem_append.mp member with ofError | ofCompletion
  · obtain ⟨error, _, isEvent⟩ := List.mem_filterMap.mp ofError
    cases error with
    | unknownLexeme line lexeme =>
        cases isEvent
        rw [isSummary_withValues]
        decide
    | lexemeTooLong =>
        cases isEvent
    | tooManyTokens line max =>
        cases isEvent
        rw [isSummary_withValues]
        decide
  · rw [List.mem_singleton.mp ofCompletion, Scan.completion, isSummary_withValues]
    decide

theorem not_summary_check
    (check : StatementCheck)
    {event : Log.Event}
    (member : event ∈ check.events) :
    isSummary event = false := by
  rcases List.mem_append.mp member with ofError | ofCompletion
  · obtain ⟨error, _, rfl⟩ := List.mem_map.mp ofError
    rw [StatementError.event, isSummary_withValues]
    decide
  · have isCompletion : event = check.completion := by
      split at ofCompletion
      · cases ofCompletion
      · exact List.mem_singleton.mp ofCompletion
    rw [isCompletion, StatementCheck.completion, isSummary_withValue]
    decide

theorem not_summary_analysis
    (input : SemanticInput)
    (analysis : Analysis)
    {event : Log.Event}
    (member : event ∈ analysis.events input) :
    isSummary event = false := by
  rcases List.mem_append.mp member with ofError | ofCompletion
  · obtain ⟨error, _, isEvent⟩ := List.mem_filterMap.mp ofError
    cases error with
    | duplicateState line name =>
        cases isEvent
        rw [isSummary_withValues]
        decide
    | invalidTransitionFormat | undefinedStateReference | stateWithoutContent =>
        cases isEvent
  · have isCompletion : event = analysis.completion input := by
      split at ofCompletion
      · cases ofCompletion
      · exact List.mem_singleton.mp ofCompletion
    rw [isCompletion, Analysis.completion, isSummary_withValues]
    decide

theorem not_summary_generation
    (generation : Generation)
    {event : Log.Event}
    (member : event ∈ generation.events) :
    isSummary event = false := by
  rcases List.mem_append.mp member with ofError | ofCompletion
  · obtain ⟨error, _, rfl⟩ := List.mem_map.mp ofError
    -- The message holds the line, so that only its first letter is known.
    apply decide_eq_false
    intro isOne
    have begins := error.head?_eventMessage
    rcases List.mem_cons.mp isOne with complete | finished
    · rw [complete] at begins
      revert begins
      decide
    · rw [List.mem_singleton.mp finished] at begins
      revert begins
      decide
  · rw [List.mem_singleton.mp ofCompletion, Generation.completion, isSummary_withValues]
    decide

theorem not_summary_optimization
    (policy : OptimizerPolicy)
    (optimization : Optimization)
    {event : Log.Event}
    (member : event ∈ optimization.events policy) :
    isSummary event = false := by
  rw [List.mem_singleton.mp member, Optimization.completion, isSummary_withValues]
  decide

/-- No stage sums up a run, and neither does the end of one. -/
theorem not_summary_stages
    (preferences : Preferences)
    (unit : LoadedUnit)
    {event : Log.Event}
    (member : event ∈ (planStages preferences unit).events) :
    isSummary event = false := by
  cases readable : unit.lines with
  | error failure =>
      simp [planStages, readable, planUnreadable] at member
  | ok lines =>
      simp only [planStages, readable, planLexical_events_eq, List.mem_append,
        List.mem_flatMap] at member
      rcases member with ⟨stage, _, ofStage⟩ | atEnd
      · cases stage with
        | lexical =>
            exact not_summary_scan _ ofStage
        | syntactic =>
            exact not_summary_check _ ofStage
        | semantic =>
            exact not_summary_analysis _ _ ofStage
      · unfold closingEvents at atEnd
        split at atEnd
        · rw [List.mem_singleton.mp atEnd, endEvent, haltEvent, isSummary_withValues]
          decide
        · rcases List.mem_append.mp atEnd with generated | optimized
          · exact not_summary_generation _ generated
          · exact not_summary_optimization _ _ optimized

/-- A compilation up to its summary. -/
def planBody
    (preferences : Preferences)
    (unit : LoadedUnit) :
    Script Report := do
  Script.log [startEvent preferences unit.name]
  Script.log unit.events
  planStages preferences unit

/-- The last step of a compilation logs its summary. -/
theorem plan_steps
    (preferences : Preferences)
    (unit : LoadedUnit) :
    (plan preferences unit).steps =
      (planBody preferences unit).steps ++ [.log (plan preferences unit).result.summary] := by
  have unfolded :
      (plan preferences unit).steps =
        (Script.log [startEvent preferences unit.name]).steps ++
          ((Script.log unit.events).steps ++
            ((planStages preferences unit).steps ++
              [.log (plan preferences unit).result.summary])) :=
    rfl
  have bodySteps :
      (planBody preferences unit).steps =
        (Script.log [startEvent preferences unit.name]).steps ++
          ((Script.log unit.events).steps ++ (planStages preferences unit).steps) :=
    rfl
  rw [unfolded, bodySteps, List.append_assoc, List.append_assoc]

/-- Up to its end a compilation logs no summary but what came with the unit. -/
theorem mem_unit_events_of_summary
    (preferences : Preferences)
    (unit : LoadedUnit)
    {event : Log.Event}
    (member : event ∈ (planBody preferences unit).events)
    (sumsUp : isSummary event = true) :
    event ∈ unit.events := by
  simp only [planBody, Script.events_bind, Script.events_log, List.mem_append,
    List.mem_singleton] at member
  rcases member with isStart | ofUnit | ofStage
  · have notOne : isSummary (Log.Event.info "Starting compilation") = false := by
      decide
    rw [isStart, startEvent, isSummary_withValues, notOne] at sumsUp
    cases sumsUp
  · exact ofUnit
  · rw [not_summary_stages preferences unit ofStage] at sumsUp
    cases sumsUp

/-- A run that a sink breaks off ends at a delivery, and no summary was logged before it. -/
theorem exists_refused_delivery
    {preferences : Preferences}
    {unit : LoadedUnit}
    {sink : Sink σ}
    {state : σ}
    {journal : Log.Journal}
    {refusal : Refusal σ}
    (brokenOff :
      (carryOut sink (plan preferences unit).steps state journal).1 = .error refusal) :
    ∃ before last after middle,
      (plan preferences unit).steps =
        before ++
          .deliver last :: (after ++ [.log (plan preferences unit).result.summary]) ∧
      carryOut sink before state journal =
        (.ok middle,
          (before.filterMap ScriptStep.event?).foldl Log.Journal.record journal) ∧
      sink.accept middle last = .error refusal ∧
      ∀ event ∈ before.filterMap ScriptStep.event?,
        isSummary event = true → event ∈ unit.events := by
  rw [plan_steps] at brokenOff
  obtain ⟨_, done⟩ | ⟨before, last, after, middle, other, isSplit, done, refused⟩ :=
    carryOut_cases sink (planBody preferences unit).steps state journal
  · rw [carryOut_append done] at brokenOff
    cases brokenOff
  · have steps :
        (planBody preferences unit).steps ++
            [.log (plan preferences unit).result.summary] =
          before ++
            .deliver last :: (after ++ [.log (plan preferences unit).result.summary]) := by
      rw [isSplit, List.append_assoc]
      rfl
    rw [steps, carryOut_refused done refused] at brokenOff
    cases brokenOff
    refine ⟨before, last, after, middle, (plan_steps preferences unit).trans steps, done,
      refused, ?_⟩
    intro event member
    apply mem_unit_events_of_summary preferences unit
    rw [Script.events, isSplit, List.filterMap_append]
    exact List.mem_append_left _ member

end Compilation

end Smsl
