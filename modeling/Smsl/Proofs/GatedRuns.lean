import Smsl.Proofs.LineStages

namespace Smsl

/-!
# Gated and ungated runs

A gated run ends at the first stage that finds something, and an ungated one
goes through all stages.  As far as the gated run comes, both tell the same: a
gated run that is not ended has the report of the ungated one, and one that is
ended has what the stages up to its end found, under the same verdict.
-/

/-- The preferences with the gate behind each stage closed or open. -/
def Preferences.gate
    (preferences : Preferences)
    (closed : Bool) :
    Preferences :=
  { preferences with
    pipeline := { preferences.pipeline with stopOnErrors := closed } }

/-- A gated report and an ungated one agree as far as the gated run came. -/
structure Report.AgreesAsFar
    (gated ungated : Report) :
    Prop where
  finished :
    gated.status = .compiled ∨ gated.status = .sourceUnreadable → ungated = gated
  tokenCount :
    gated.haltedAt.isSome = true → ungated.tokenCount = gated.tokenCount
  findings :
    ∀ last, gated.haltedAt = some last →
      ∀ stage ∈ last.upTo, ungated.ofStage stage = gated.ofStage stage
  halted :
    gated.haltedAt.isSome = true →
      gated.status = .diagnostics ∧
        ungated.status = .diagnostics ∧ ungated.generatedCode = true
  halted_of_diagnostics :
    gated.status = .diagnostics → gated.haltedAt.isSome = true
  compiled_iff :
    gated.status = .compiled ↔ ungated.status = .compiled

namespace Compilation

/-- A diagnostic of a stage is the verdict on a readable unit. -/
theorem status_eq_diagnostics
    {report : Report}
    (readable : report.unreadable = none)
    (stage : Stage)
    (found : report.ofStage stage ≠ []) :
    report.status = .diagnostics := by
  cases verdict : report.status with
  | diagnostics =>
      rfl
  | compiled =>
      obtain ⟨_, lexical, syntactic, semantic, _⟩ := status_eq_compiled_iff.mp verdict
      cases stage <;> contradiction
  | sourceUnreadable =>
      simp only [Report.status, readable, Option.isSome_none, Bool.false_eq_true,
        ↓reduceIte] at verdict
      split at verdict <;> cases verdict

/-- A report that a gated run is ended with is part of the full one. -/
theorem agreesAsFar_atStage
    {preferences : Preferences}
    (name : String)
    {lines : List Text}
    {stage : Stage}
    (ends : endsAt preferences lines stage = true) :
    Report.AgreesAsFar
      { reportAfter preferences name lines stage with haltedAt := some stage }
      (fullReport preferences name lines) := by
  have found : findings preferences lines stage ≠ [] := (endsAt_eq_true_iff.mp ends).1
  have isMember : stage ∈ stage.upTo := by
    cases stage <;> decide
  have gatedStatus :
      { reportAfter preferences name lines stage with haltedAt := some stage }.status =
        .diagnostics := by
    have readable :
        { reportAfter preferences name lines stage with
          haltedAt := some stage }.unreadable = none := by
      cases stage <;> rfl
    apply status_eq_diagnostics readable stage
    rwa [ofStage_haltedAt, ofStage_reportAfter, if_pos isMember]
  have ungatedStatus : (fullReport preferences name lines).status = .diagnostics := by
    apply status_eq_diagnostics rfl stage
    rwa [ofStage_fullReport]
  refine
    { finished := ?_
      tokenCount := ?_
      findings := ?_
      halted := fun _ => ⟨gatedStatus, ungatedStatus, rfl⟩
      halted_of_diagnostics := fun _ => rfl
      compiled_iff := ?_ }
  · rw [gatedStatus]
    rintro (compiled | unreadable)
    · cases compiled
    · cases unreadable
  · intro _
    cases stage <;> rfl
  · intro last isLast earlier isEarlier
    cases isLast
    rw [ofStage_fullReport, ofStage_haltedAt, ofStage_reportAfter, if_pos isEarlier]
  · rw [gatedStatus, ungatedStatus]

/-- A gated run that comes to the code has nothing to tell. -/
theorem compiled_of_afterCode
    {preferences : Preferences}
    (gated : preferences.pipeline.stopOnErrors = true)
    (name : String)
    {lines : List Text}
    (goneOn : ∀ stage, endsAt preferences lines stage = false) :
    (fullReport preferences name lines).status = .compiled := by
  have clean : ∀ stage, (fullReport preferences name lines).ofStage stage = [] := by
    intro stage
    rw [ofStage_fullReport]
    exact findings_eq_nil gated (goneOn stage)
  have lowered : (fullReport preferences name lines).generationErrors = [] := by
    by_contra failed
    have ends : Ends preferences name lines (fullReport preferences name lines) _ :=
      .afterCode goneOn
    exact ends.syntactic_ne_nil failed (clean .syntactic)
  exact status_eq_compiled_iff.mpr
    ⟨rfl, clean .lexical, clean .syntactic, clean .semantic, lowered⟩

theorem Ends.agreesAsFar
    {preferences : Preferences}
    (gated : preferences.pipeline.stopOnErrors = true)
    {name : String}
    {lines : List Text}
    {report : Report}
    {deliveries : List Delivery}
    (ends : Ends preferences name lines report deliveries) :
    report.AgreesAsFar (fullReport preferences name lines) := by
  cases ends with
  | atStage stage _ halts =>
      exact agreesAsFar_atStage name halts
  | afterCode goneOn =>
      have compiled := compiled_of_afterCode gated name goneOn
      refine ⟨fun _ => rfl, fun _ => rfl, fun _ _ _ _ => rfl, nofun, ?_, Iff.rfl⟩
      intro diagnostics
      rw [compiled] at diagnostics
      cases diagnostics

/-- The planned reports of the two runs agree as far as the gated one comes. -/
theorem plan_agreesAsFar
    (preferences : Preferences)
    (unit : LoadedUnit) :
    (plan (preferences.gate true) unit).result.AgreesAsFar
      (plan (preferences.gate false) unit).result := by
  cases loaded : unit.lines with
  | error failure =>
      rw [plan_result_of_unreadable _ loaded, plan_result_of_unreadable _ loaded]
      exact ⟨fun _ => rfl, nofun, nofun, nofun, nofun, Iff.rfl⟩
  | ok lines =>
      -- The full report does not depend on the gate.
      have ungated :
          (plan (preferences.gate false) unit).result =
            fullReport (preferences.gate true) unit.name lines :=
        plan_result_of_ungated rfl loaded
      rw [ungated]
      exact (plan_ends (preferences.gate true) loaded).agreesAsFar rfl

/--
A gated and an ungated run of one unit agree wherever both run.  If the gated run
compiles the unit or cannot read it, the reports are the same.  If a stage ends
it, both have the same tokens and the same diagnostics up to that stage, both
have diagnostics for a verdict, and the ungated run has generated code.
-/
theorem gated_run_agrees_with_ungated
    (preferences : Preferences)
    (unit : LoadedUnit)
    {gatedSink : Sink σ}
    {ungatedSink : Sink τ}
    (gatedAccepts : AcceptsAll gatedSink)
    (ungatedAccepts : AcceptsAll ungatedSink)
    (gatedState : σ)
    (ungatedState : τ)
    (gatedJournal ungatedJournal : Log.Journal) :
    ∃ gated ungated,
      (run (preferences.gate true) unit gatedSink gatedState gatedJournal).1 = .ok gated ∧
        (run (preferences.gate false) unit ungatedSink ungatedState ungatedJournal).1 =
          .ok ungated ∧
        gated.report.AgreesAsFar ungated.report := by
  obtain ⟨gated, gatedFinished, gatedReport⟩ :=
    run_of_acceptsAll (preferences.gate true) unit gatedAccepts gatedState gatedJournal
  obtain ⟨ungated, ungatedFinished, ungatedReport⟩ :=
    run_of_acceptsAll (preferences.gate false) unit ungatedAccepts ungatedState
      ungatedJournal
  refine ⟨gated, ungated, gatedFinished, ungatedFinished, ?_⟩
  rw [gatedReport, ungatedReport]
  exact plan_agreesAsFar preferences unit

/-- A unit whose gated run ends at the syntactic stage, with a line that gives no code. -/
theorem gated_run_agrees_with_ungated_of_rejected_line :
    ∃ gated ungated : Outcome MemorySink,
      (run (Environment.empty.preferences.gate true)
          (LoadedUnit.ofText "unit" "state A \x7b\naction\n".toList)
          MemorySink.sink MemorySink.empty (Log.Journal.empty true)).1 = .ok gated ∧
        (run (Environment.empty.preferences.gate false)
            (LoadedUnit.ofText "unit" "state A \x7b\naction\n".toList)
            MemorySink.sink MemorySink.empty (Log.Journal.empty true)).1 = .ok ungated ∧
        gated.report.AgreesAsFar ungated.report ∧
        gated.report.haltedAt = some .syntactic ∧
        ungated.report.generationErrors.length = 1 := by
  obtain ⟨gated, ungated, gatedFinished, ungatedFinished, agrees⟩ :=
    gated_run_agrees_with_ungated Environment.empty.preferences
      (LoadedUnit.ofText "unit" "state A \x7b\naction\n".toList)
      memory_acceptsAll memory_acceptsAll MemorySink.empty MemorySink.empty
      (Log.Journal.empty true) (Log.Journal.empty true)
  refine ⟨gated, ungated, gatedFinished, ungatedFinished, agrees, ?_, ?_⟩
  · rw [run_report gatedFinished]
    decide +kernel
  · rw [run_report ungatedFinished]
    decide +kernel

end Compilation

end Smsl
