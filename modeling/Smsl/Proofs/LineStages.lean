import Smsl.Proofs.CompiledUnits
import Smsl.Proofs.LineVerdict
import Smsl.Proofs.StagedRuns

namespace Smsl

/-!
# Stages that read lines

The check of statements, the analysis by lines and the generator each read every
line anew, accepted or not.  They agree all the same: a transition that the
analysis calls badly formed is one that the generator cannot lower, a line that
cannot be lowered is rejected, and the targets that the analysis looks up are
those of the generated code.
-/

/-- The line of a diagnostic of a badly formed transition. -/
def Diagnostic.badTransitionLine? (diagnostic : Diagnostic) : Option Nat :=
  if diagnostic.code = Code.invalidTransitionFormat then
    diagnostic.line
  else
    none

/-- The line of a transition that cannot be lowered. -/
def GenerationError.transitionLine? : GenerationError → Option Nat
  | .invalidActionFormat _ => none
  | .invalidTransitionFormat line => some line

/-- The target of a transition instruction. -/
def Quadruple.target? (quadruple : Quadruple) : Option String :=
  if quadruple.isTransition then
    some quadruple.arg3
  else
    none

namespace StatementKind

/-- Lines of this kind are to be lowered. -/
def isLowered (kind : StatementKind) : Bool :=
  kind = .action ∨ kind = .transitionDeclaration

end StatementKind

namespace Generation

/-- A line stands for an instruction. -/
inductive Lowers (line : SourceLine) : Quadruple → Prop where
  | action
      {field : Text} :
      StatementKind.ofText line.text = .action →
      (Text.fields line.text)[1]? = some field →
      Lowers line
        (Quadruple.action (String.ofList (Text.trim (Text.withoutEnd [';'] field))))
  | transition
      {parts : TransitionParts} :
      StatementKind.ofText line.text = .transitionDeclaration →
      TransitionParts.ofText? line.text = some parts →
      Lowers line
        (Quadruple.transition (String.ofList (parts.name?.getD []))
          (String.ofList parts.event) (String.ofList parts.target))

/-- A line should stand for an instruction, but a part of it is missing. -/
inductive Lacks (line : SourceLine) : GenerationError → Prop where
  | action :
      StatementKind.ofText line.text = .action →
      (Text.fields line.text)[1]? = none →
      Lacks line (.invalidActionFormat line.number)
  | transition :
      StatementKind.ofText line.text = .transitionDeclaration →
      TransitionParts.ofText? line.text = none →
      Lacks line (.invalidTransitionFormat line.number)

/-- The error that a line is lowered to, if it is. -/
def failed? (line : SourceLine) : Option GenerationError :=
  (lower? line).bind error?

theorem errors_ofLines (lines : List Text) :
    (ofLines lines).errors = (SourceLine.significant lines).filterMap failed? := by
  simp only [ofLines, List.filterMap_filterMap]
  rfl

/-- What a line of each kind is lowered to. -/
theorem lowered_cases (line : SourceLine) :
    (∃ quadruple,
      StatementKind.isLowered (StatementKind.ofText line.text) = true ∧
        Lowers line quadruple ∧ lowered? line = some quadruple ∧ failed? line = none) ∨
    (∃ error,
      StatementKind.isLowered (StatementKind.ofText line.text) = true ∧
        Lacks line error ∧ lowered? line = none ∧ failed? line = some error) ∨
    (StatementKind.isLowered (StatementKind.ofText line.text) = false ∧
      lowered? line = none ∧ failed? line = none) := by
  cases kind : StatementKind.ofText line.text with
  | action =>
      cases field : (Text.fields line.text)[1]? with
      | some name =>
          refine .inl ⟨_, rfl, .action kind field, ?_⟩
          simp [lowered?, failed?, lower?, kind, lowerAction, field, quadruple?, error?]
      | none =>
          refine .inr (.inl ⟨_, rfl, .action kind field, ?_⟩)
          simp [lowered?, failed?, lower?, kind, lowerAction, field, quadruple?, error?]
  | transitionDeclaration =>
      cases isParts : TransitionParts.ofText? line.text with
      | some parts =>
          refine .inl ⟨_, rfl, .transition kind isParts, ?_⟩
          simp [lowered?, failed?, lower?, kind, lowerTransition, isParts, quadruple?, error?]
      | none =>
          refine .inr (.inl ⟨_, rfl, .transition kind isParts, ?_⟩)
          simp [lowered?, failed?, lower?, kind, lowerTransition, isParts, quadruple?, error?]
  | stateDeclaration | marker | brace | unrecognized =>
      refine .inr (.inr ⟨rfl, ?_⟩)
      simp [lowered?, failed?, lower?, kind]

/-- Every line that is to be lowered gives an instruction or an error. -/
theorem length_quadruples_add_length_errors (lines : List Text) :
    (ofLines lines).quadruples.length + (ofLines lines).errors.length =
      ((SourceLine.significant lines).filter fun line =>
        (StatementKind.ofText line.text).isLowered).length := by
  rw [quadruples_ofLines, errors_ofLines]
  induction SourceLine.significant lines with
  | nil =>
      rfl
  | cons line rest inductionHypothesis =>
      rcases lowered_cases line with
          ⟨quadruple, isLowered, _, lowered, notFailed⟩ |
          ⟨error, isLowered, _, notLowered, failed⟩ |
          ⟨isOther, notLowered, notFailed⟩
      · simp only [List.filterMap_cons, lowered, notFailed, List.filter_cons, isLowered,
          List.length_cons, ↓reduceIte]
        omega
      · simp only [List.filterMap_cons, notLowered, failed, List.filter_cons, isLowered,
          List.length_cons, ↓reduceIte]
        omega
      · simpa [List.filterMap_cons, notLowered, notFailed, List.filter_cons, isOther]
          using inductionHypothesis

/-- The instructions stand for significant lines, in the order of these. -/
theorem quadruples_in_order (lines : List Text) :
    ∃ origins : List SourceLine,
      origins.Sublist (SourceLine.significant lines) ∧
        List.Forall₂ Lowers origins (ofLines lines).quadruples := by
  rw [quadruples_ofLines]
  induction SourceLine.significant lines with
  | nil =>
      exact ⟨[], .slnil, .nil⟩
  | cons line rest inductionHypothesis =>
      obtain ⟨origins, inOrder, lowers⟩ := inductionHypothesis
      rcases lowered_cases line with
          ⟨quadruple, _, isLine, lowered, _⟩ |
          ⟨_, _, _, notLowered, _⟩ | ⟨_, notLowered, _⟩
      · refine ⟨line :: origins, inOrder.cons_cons line, ?_⟩
        simpa [List.filterMap_cons, lowered] using ⟨isLine, lowers⟩
      · refine ⟨origins, inOrder.cons line, ?_⟩
        simpa [List.filterMap_cons, notLowered] using lowers
      · refine ⟨origins, inOrder.cons line, ?_⟩
        simpa [List.filterMap_cons, notLowered] using lowers

/-- A line that lacks a part is rejected. -/
theorem Lacks.rejected
    {line : SourceLine}
    {error : GenerationError}
    (lacks : Lacks line error) :
    (∃ rejection, StatementShape.ofText line.text = .error rejection) ∧
      error.line = line.number := by
  cases lacks with
  | action isKind noField =>
      refine ⟨⟨.actionForm, ?_⟩, rfl⟩
      rw [StatementShape.ofText, isKind]
      simp only [StatementShape.ofActionLine]
      split
      · rename_i isFields
        simp [isFields] at noField
      · rfl
  | transition isKind noParts =>
      refine ⟨⟨.transitionParts, ?_⟩, rfl⟩
      simp [StatementShape.ofText, isKind, StatementShape.ofTransitionLine, noParts]

theorem lacks_of_mem_errors
    {lines : List Text}
    {error : GenerationError}
    (member : error ∈ (ofLines lines).errors) :
    ∃ line ∈ SourceLine.significant lines, Lacks line error := by
  rw [errors_ofLines] at member
  obtain ⟨line, isLine, failed⟩ := List.mem_filterMap.mp member
  refine ⟨line, isLine, ?_⟩
  rcases lowered_cases line with
      ⟨_, _, _, _, notFailed⟩ | ⟨_, _, lacks, _, isError⟩ | ⟨_, _, notFailed⟩
  · rw [notFailed] at failed
    cases failed
  · rw [isError] at failed
    cases failed
    exact lacks
  · rw [notFailed] at failed
    cases failed

/-- The transitions that cannot be lowered are those with fewer than three parts. -/
theorem transitionLines_errors (lines : List Text) :
    (ofLines lines).errors.filterMap GenerationError.transitionLine? =
      SourceLine.shortTransitions lines := by
  rw [errors_ofLines, List.filterMap_filterMap, SourceLine.shortTransitions_eq,
    SourceLine.ofKind, List.filterMap_filter]
  refine List.filterMap_congr ?_
  intro line _
  cases kind : StatementKind.ofText line.text with
  | action =>
      cases field : (Text.fields line.text)[1]? <;>
        simp [failed?, lower?, kind, lowerAction, field, error?,
          GenerationError.transitionLine?]
  | transitionDeclaration =>
      cases isParts : TransitionParts.ofText? line.text <;>
        simp [failed?, lower?, kind, lowerTransition, isParts, error?,
          GenerationError.transitionLine?]
  | stateDeclaration | marker | brace | unrecognized =>
      simp [failed?, lower?, kind]

/-- The targets of the generated transitions are those of the transition lines. -/
theorem targets_quadruples (lines : List Text) :
    (ofLines lines).quadruples.filterMap Quadruple.target? = SourceLine.targets lines := by
  rw [quadruples_ofLines, List.filterMap_filterMap, SourceLine.targets, SourceLine.ofKind,
    List.filterMap_filter]
  refine List.filterMap_congr ?_
  intro line _
  cases kind : StatementKind.ofText line.text with
  | action =>
      cases field : (Text.fields line.text)[1]? <;>
        simp [lowered?, lower?, kind, lowerAction, field, quadruple?, Quadruple.target?,
          Quadruple.isTransition, Quadruple.action]
  | transitionDeclaration =>
      cases isParts : TransitionParts.ofText? line.text <;>
        simp [lowered?, lower?, kind, lowerTransition, isParts, quadruple?,
          Quadruple.target?, Quadruple.isTransition, Quadruple.transition]
  | stateDeclaration | marker | brace | unrecognized =>
      simp [lowered?, lower?, kind]

end Generation

/-- A line without a shape has a diagnostic. -/
theorem StatementCheck.exists_diagnostic
    {lines : List Text}
    {line : SourceLine}
    (isLine : line ∈ SourceLine.significant lines)
    {rejection : Rejection}
    (rejected : StatementShape.ofText line.text = .error rejection) :
    ∃ diagnostic ∈ (ofLines lines).diagnostics, diagnostic.line = some line.number := by
  have isError : { line := line.number, rejection } ∈ (ofLines lines).errors := by
    simp only [ofLines, List.filterMap_map, List.mem_filterMap, Function.comp_apply]
    exact ⟨line, isLine, by simp [judge, rejected, rejected?]⟩
  exact ⟨_, List.mem_map_of_mem isError, rfl⟩

/-- Only an error of that kind is told as a badly formed transition. -/
theorem SemanticError.badTransitionLine?_toDiagnostic (error : SemanticError) :
    error.toDiagnostic.badTransitionLine? =
      match error with
      | .invalidTransitionFormat line => some line
      | _ => none := by
  cases error with
  | invalidTransitionFormat line =>
      rfl
  | duplicateState _ _ | undefinedStateReference _ | stateWithoutContent _ _ =>
      exact if_neg (by simp only [toDiagnostic, Diagnostic.ofStage, code]; decide)

/-- The analysis finds fault with the transitions that have fewer than three parts. -/
theorem Analysis.badTransitionLines_ofUnit
    (policy : AttributionPolicy)
    (lines : List Text)
    (tokens : List Token) :
    (ofUnit policy .lines lines tokens).diagnostics.filterMap
        Diagnostic.badTransitionLine? =
      SourceLine.shortTransitions lines := by
  have ofTargets :
      ((LineReading.ofTexts.facts lines).undefined.map
          SemanticError.undefinedStateReference).filterMap
        (Diagnostic.badTransitionLine? ∘ SemanticError.toDiagnostic) = [] := by
    rw [List.filterMap_map, List.filterMap_eq_nil_iff]
    intro target _
    exact SemanticError.badTransitionLine?_toDiagnostic (.undefinedStateReference target)
  rw [diagnostics_ofUnit_lines, List.filterMap_map, StateFacts.errors, List.filterMap_append,
    ofTargets, List.append_nil, ← LineReading.badLines_ofTexts, List.filterMap_filterMap]
  refine List.filterMap_congr ?_
  rintro ⟨number, fact⟩ _
  cases fact with
  | declares name =>
      simp only [StateFacts.lineError?, StateFacts.badLine?]
      split
      · exact SemanticError.badTransitionLine?_toDiagnostic (.duplicateState number name)
      · split
        · rfl
        · exact SemanticError.badTransitionLine?_toDiagnostic
            (.stateWithoutContent number name)
  | badTransition =>
      exact SemanticError.badTransitionLine?_toDiagnostic (.invalidTransitionFormat number)
  | refersTo _ | acts _ =>
      rfl

namespace Compilation

/-- A line that cannot be lowered was rejected before. -/
theorem exists_rejection
    {lines : List Text}
    {error : GenerationError}
    (member : error ∈ (Generation.ofLines lines).errors) :
    ∃ diagnostic ∈ (StatementCheck.ofLines lines).diagnostics,
      diagnostic.line = some error.line := by
  obtain ⟨line, isLine, lacks⟩ := Generation.lacks_of_mem_errors member
  obtain ⟨⟨rejection, rejected⟩, sameLine⟩ := lacks.rejected
  rw [sameLine]
  exact StatementCheck.exists_diagnostic isLine rejected

/-- A report of a run has generation errors only beside syntactic diagnostics. -/
theorem Ends.syntactic_ne_nil
    {preferences : Preferences}
    {name : String}
    {lines : List Text}
    {report : Report}
    {deliveries : List Delivery}
    (ends : Ends preferences name lines report deliveries)
    (failed : report.generationErrors ≠ []) :
    report.syntactic ≠ [] := by
  cases ends with
  | atStage stage _ _ =>
      cases stage <;> exact absurd rfl failed
  | afterCode _ =>
      have nonempty : (Generation.ofLines lines).errors ≠ [] := by
        intro noErrors
        exact failed (by simp [fullReport, noErrors])
      obtain ⟨error, member⟩ := List.exists_mem_of_ne_nil _ nonempty
      obtain ⟨diagnostic, isDiagnostic, _⟩ := exists_rejection member
      exact List.ne_nil_of_mem isDiagnostic

/--
The stages that read lines agree on every unit, accepted or not: the analysis
and the generator find fault with the same transitions; a line that cannot be
lowered is rejected, so no run tells of one without a syntactic diagnostic; the
undefined references are the targets of the generated transitions that are not
declared; and every action and transition line gives an instruction, in order,
or an error.
-/
theorem line_stages_agree
    (lines : List Text)
    (policy : AttributionPolicy)
    (tokens : List Token) :
    (Analysis.ofUnit policy .lines lines tokens).diagnostics.filterMap
        Diagnostic.badTransitionLine? =
        (Generation.ofLines lines).errors.filterMap GenerationError.transitionLine? ∧
      (∀ error ∈ (Generation.ofLines lines).errors,
        ∃ diagnostic ∈ (StatementCheck.ofLines lines).diagnostics,
          diagnostic.line = some error.line) ∧
      (∀ (preferences : Preferences) (unit : LoadedUnit) (σ : Type) (sink : Sink σ)
        (state : σ) (journal : Log.Journal) (outcome : Outcome σ),
        unit.lines = .ok lines →
        (run preferences unit sink state journal).1 = .ok outcome →
        outcome.report.generationErrors ≠ [] →
        outcome.report.syntactic ≠ []) ∧
      (Analysis.ofUnit policy .lines lines tokens).undefinedReferences =
        ((Generation.ofLines lines).quadruples.filterMap
          Quadruple.target?).eraseDups.filter
            (fun target =>
              target ∉
                (Analysis.ofUnit policy .lines lines tokens).states.map
                  StateRecord.name) ∧
      (Generation.ofLines lines).quadruples.length +
          (Generation.ofLines lines).errors.length =
        ((SourceLine.significant lines).filter fun line =>
          (StatementKind.ofText line.text).isLowered).length ∧
      ∃ origins : List SourceLine,
        origins.Sublist (SourceLine.significant lines) ∧
          List.Forall₂ Generation.Lowers origins (Generation.ofLines lines).quadruples := by
  refine ⟨?_, fun error member => exists_rejection member, ?_, ?_,
    Generation.length_quadruples_add_length_errors lines,
    Generation.quadruples_in_order lines⟩
  · rw [Analysis.badTransitionLines_ofUnit, Generation.transitionLines_errors]
  · intro preferences unit σ sink state journal outcome readable finished failed
    rw [run_report finished] at failed ⊢
    exact (plan_ends preferences readable).syntactic_ne_nil failed
  · rw [Analysis.undefinedReferences_ofUnit_lines, LineReading.undefined_ofTexts,
      Generation.targets_quadruples, Analysis.names_ofUnit_lines]
    simp only [List.mem_eraseDups]

/-- An action without a name and a transition of two parts, in a run that goes on. -/
theorem line_stages_agree_of_short_lines :
    ∃ outcome : Outcome MemorySink,
      (run
          { Environment.empty.preferences with pipeline := { stopOnErrors := false } }
          (LoadedUnit.ofText "unit"
            "action\ntransition t: e\ntransition t: e -> A \x7b".toList)
          MemorySink.sink MemorySink.empty (Log.Journal.empty true)).1 = .ok outcome ∧
        outcome.report.generationErrors =
          ["Line 1: Invalid action format", "Line 2: Invalid transition format"] ∧
        outcome.report.syntactic ≠ [] := by
  obtain ⟨outcome, finished, isReport⟩ :=
    run_of_acceptsAll
      { Environment.empty.preferences with pipeline := { stopOnErrors := false } }
      (LoadedUnit.ofText "unit" "action\ntransition t: e\ntransition t: e -> A \x7b".toList)
      memory_acceptsAll MemorySink.empty (Log.Journal.empty true)
  have failed :
      outcome.report.generationErrors =
        ["Line 1: Invalid action format", "Line 2: Invalid transition format"] := by
    rw [isReport]
    decide +kernel
  have agree :=
    line_stages_agree
      (["action", "transition t: e", "transition t: e -> A \x7b"].map String.toList)
      .adjacentDeclaration []
  have readable :
      (LoadedUnit.ofText "unit"
          "action\ntransition t: e\ntransition t: e -> A \x7b".toList).lines =
        .ok (["action", "transition t: e", "transition t: e -> A \x7b"].map String.toList) :=
    congrArg Except.ok (by decide +kernel)
  exact ⟨outcome, finished, failed,
    agree.2.2.1 _ _ _ _ _ _ outcome readable finished (by simp [failed])⟩

end Compilation

end Smsl
