import Mathlib.Data.List.Basic
import Smsl.Preferences.Environment
import Smsl.Proofs.AcceptedLines
import Smsl.Proofs.CompilationReport
import Smsl.Proofs.OptimizedCode
import Smsl.Proofs.UnitFacts

namespace Smsl

/-!
# Units that compile

The analysis, the generator and the optimizer read a unit on their own.  When
the verdict is that it compiled, what they found fits together: the code has an
instruction for every action and transition, and leads only to declared states.
-/

namespace Generation

/-- The instruction that a line is lowered to, if it is. -/
def lowered? (line : SourceLine) : Option Quadruple :=
  (lower? line).bind quadruple?

theorem quadruples_ofLines (lines : List Text) :
    (ofLines lines).quadruples = (SourceLine.significant lines).filterMap lowered? := by
  simp only [ofLines, List.filterMap_filterMap]
  rfl

/-- Accepted lines are lowered exactly if they are actions or transitions. -/
theorem isSome_lowered?_of_reads
    {line : SourceLine}
    {shape : StatementShape}
    (reads : shape.Reads line.text) :
    (lowered? line).isSome =
      decide (shape = .action ∨ shape = .transitionDeclaration) := by
  cases reads with
  | stateDeclaration name isKind isFields =>
      simp [lowered?, lower?, isKind]
  | transitionDeclaration parts name isKind isParts isHeader closes =>
      simp [lowered?, lower?, isKind, lowerTransition, isParts, quadruple?]
  | action field isKind isFields closes =>
      simp [lowered?, lower?, isKind, lowerAction, isFields, quadruple?]
  | marker isKind =>
      simp [lowered?, lower?, isKind]
  | brace isKind =>
      simp [lowered?, lower?, isKind]

/-- A transition instruction comes from the parts of a transition line. -/
theorem lowered?_eq_transition
    {line : SourceLine}
    {quadruple : Quadruple}
    (lowered : lowered? line = some quadruple)
    (isTransition : quadruple.operation = .transition) :
    StatementKind.ofText line.text = .transitionDeclaration ∧
      ∃ parts,
        TransitionParts.ofText? line.text = some parts ∧
          quadruple.arg1 = String.ofList (parts.name?.getD []) ∧
            quadruple.arg3 = String.ofList parts.target := by
  cases isKind : StatementKind.ofText line.text with
  | transitionDeclaration =>
      refine ⟨rfl, ?_⟩
      cases isParts : TransitionParts.ofText? line.text with
      | none =>
          simp [lowered?, lower?, isKind, lowerTransition, isParts, quadruple?] at lowered
      | some parts =>
          simp only [lowered?, lower?, isKind, lowerTransition, isParts, Option.bind_some,
            quadruple?, Option.some.injEq] at lowered
          rw [← lowered]
          exact ⟨parts, rfl, rfl, rfl⟩
  | action =>
      simp only [lowered?, lower?, isKind, lowerAction, Option.bind_some] at lowered
      split at lowered
      · cases lowered
        cases isTransition
      · cases lowered
  | stateDeclaration | marker | brace | unrecognized =>
      simp [lowered?, lower?, isKind] at lowered

/-- A unit without rejected lines has an instruction for each action and transition. -/
theorem length_quadruples
    {lines : List Text}
    (accepted : (StatementCheck.ofLines lines).diagnostics = []) :
    (ofLines lines).quadruples.length =
      (StatementCheck.ofLines lines).statements.countP fun statement =>
        statement.shape = .action ∨ statement.shape = .transitionDeclaration := by
  rw [quadruples_ofLines, StatementCheck.statements_ofLines, List.countP_filterMap,
    List.length_filterMap_eq_countP]
  refine List.countP_congr ?_
  intro line member
  obtain ⟨shape, isShape⟩ := StatementCheck.diagnostics_eq_nil_iff.mp accepted line member
  have isStatement :
      StatementCheck.statement? line = some { line := line.number, shape } :=
    StatementCheck.statement?_eq_some_iff.mpr ⟨isShape, rfl⟩
  rw [isSome_lowered?_of_reads (StatementShape.reads_of_ofText isShape), isStatement]
  rfl

/-- The target of a transition instruction is what the line refers to. -/
theorem refersTo_of_mem
    {lines : List Text}
    {quadruple : Quadruple}
    (member : quadruple ∈ (ofLines lines).quadruples)
    (isTransition : quadruple.operation = .transition) :
    ∃ number, (number, .refersTo quadruple.arg3) ∈ StateFact.ofLines lines := by
  rw [quadruples_ofLines] at member
  obtain ⟨line, isLine, lowered⟩ := List.mem_filterMap.mp member
  obtain ⟨isKind, parts, isParts, _, isTarget⟩ :=
    lowered?_eq_transition lowered isTransition
  obtain ⟨above, isPair⟩ := SourceLine.exists_withAbove isLine
  refine ⟨line.number, ?_⟩
  rw [StateFact.ofLines_eq_ofReading, StateFact.mem_ofReading_iff]
  refine ⟨above, line, isPair, ?_, rfl⟩
  simp [StateFact.byText, isKind, isParts, isTarget]

/-- In a unit without rejected lines every transition instruction has a name. -/
theorem arg1_ne_empty_of_mem
    {lines : List Text}
    (accepted : (StatementCheck.ofLines lines).diagnostics = [])
    {quadruple : Quadruple}
    (member : quadruple ∈ (ofLines lines).quadruples)
    (isTransition : quadruple.operation = .transition) :
    quadruple.arg1 ≠ "" := by
  rw [quadruples_ofLines] at member
  obtain ⟨line, isLine, lowered⟩ := List.mem_filterMap.mp member
  obtain ⟨isKind, parts, isParts, isName, _⟩ :=
    lowered?_eq_transition lowered isTransition
  obtain ⟨shape, isShape⟩ := StatementCheck.diagnostics_eq_nil_iff.mp accepted line isLine
  cases StatementShape.reads_of_ofText isShape with
  | transitionDeclaration readParts name _ readsParts isHeader _ =>
      rw [isParts] at readsParts
      cases readsParts
      have isField : name ∈ Text.fields parts.header := by simp [isHeader]
      have nonempty := (Text.mem_fields isField).2
      rw [isName, TransitionParts.name?, isHeader]
      intro empty
      apply nonempty
      simpa using congrArg String.toList empty
  | stateDeclaration _ otherKind _ | action _ otherKind _ _ | marker otherKind
  | brace otherKind =>
      rw [isKind] at otherKind
      cases otherKind

end Generation

namespace Compilation

/-- The analysis of a unit by lines has nothing to tell but what its facts say. -/
theorem analysisOf_lines
    {preferences : Preferences}
    (byLines : preferences.semantic.input = .lines)
    (lines : List Text) :
    analysisOf preferences lines =
      Analysis.ofWalk
        (Walk.ofFacts preferences.semantic.attribution (StateFact.ofLines lines)) := by
  rw [analysisOf, Analysis.ofUnit, byLines]
  rfl

/--
The verdict that a unit compiled, by lines, is sound: its states have different
names and content, its transitions have names and lead to its states, no line
failed to be lowered, and there is an instruction for every accepted action and
transition.
-/
theorem compiled_by_lines_sound
    (preferences : Preferences)
    (byLines : preferences.semantic.input = .lines)
    (name : String)
    (text : Text)
    (sink : Sink σ)
    (state : σ)
    (journal : Log.Journal)
    (outcome : Outcome σ)
    (finished :
      (run preferences (LoadedUnit.ofText name text) sink state journal).1 = .ok outcome)
    (compiled : outcome.report.status = .compiled) :
    (outcome.report.states.map StateRecord.name).Nodup ∧
      (∀ record ∈ outcome.report.states, record.hasContent = true) ∧
      (∀ quadruple ∈ outcome.report.intermediate ++ outcome.report.optimized,
        quadruple.operation = .transition →
        (∃ record ∈ outcome.report.states, record.name = quadruple.arg3) ∧
          quadruple.arg1 ≠ "") ∧
      outcome.report.generationErrors = [] ∧
      outcome.report.intermediate.length =
        ((StatementCheck.ofLines (Text.lines text)).statements.filter
          fun statement =>
            statement.shape = .action ∨
              statement.shape = .transitionDeclaration).length := by
  have isReport :
      outcome.report = fullReport preferences name (Text.lines text) := by
    rw [run_report finished] at compiled ⊢
    exact plan_result_of_compiled rfl compiled
  rw [isReport] at compiled ⊢
  obtain ⟨_, _, accepted, analyzed, lowered⟩ := status_eq_compiled_iff.mp compiled
  have ordered := StateFact.ofLines_ordered (Text.lines text)
  have isStates :
      (fullReport preferences name (Text.lines text)).states =
        StateFacts.states preferences.semantic.attribution
          (StateFact.ofLines (Text.lines text)) := by
    rw [← StateFacts.ofFacts_states _ ordered, ← analysisOf_lines byLines]
    rfl
  have noErrors :
      StateFacts.errors preferences.semantic.attribution
        (StateFact.ofLines (Text.lines text)) = [] := by
    have noDiagnostics : (analysisOf preferences (Text.lines text)).diagnostics = [] :=
      analyzed
    rw [analysisOf_lines byLines, StateFacts.ofFacts_diagnostics _ ordered] at noDiagnostics
    exact List.map_eq_nil_iff.mp noDiagnostics
  have isSound :
      ∀ quadruple ∈ (Generation.ofLines (Text.lines text)).quadruples,
        quadruple.operation = .transition →
        (∃ record ∈ (fullReport preferences name (Text.lines text)).states,
          record.name = quadruple.arg3) ∧
          quadruple.arg1 ≠ "" := by
    intro quadruple member isTransition
    obtain ⟨number, refers⟩ := Generation.refersTo_of_mem member isTransition
    rw [isStates]
    exact ⟨StateFacts.declared_of_errors_eq_nil noErrors refers,
      Generation.arg1_ne_empty_of_mem accepted member isTransition⟩
  refine ⟨?_, ?_, ?_, lowered, ?_⟩
  · rw [isStates]
    exact List.pairwise_map.mpr (StateFacts.states_pairwise _ ordered)
  · intro record member
    rw [isStates] at member
    exact StateFacts.hasContent_of_errors_eq_nil noErrors member
  · intro quadruple member isTransition
    rcases List.mem_append.mp member with isGenerated | isOptimized
    · exact isSound quadruple isGenerated isTransition
    · obtain ⟨original, isGenerated, renames⟩ := Optimization.mem_ofQuadruples isOptimized
      rw [renames.operation] at isTransition
      obtain ⟨declared, named⟩ := isSound original isGenerated isTransition
      rw [renames.arg3]
      exact ⟨declared, renames.arg1_ne_empty named⟩
  · rw [← List.countP_eq_length_filter]
    exact Generation.length_quadruples accepted

/-- A unit that compiles, with two transitions that are merged. -/
theorem compiled_by_lines_sound_of_merged_unit :
    ∃ outcome : Outcome MemorySink,
      (run
          { Environment.empty.preferences with
            optimizer := { policy := .deduplicateAndMerge } }
          (LoadedUnit.ofText "unit"
            ("state A \x7b\naction x;\n\x7d\ntransition t: e -> A \x7b\n\x7d\n" ++
              "transition u : e -> A\x7b\n\x7d\n").toList)
          MemorySink.sink MemorySink.empty (Log.Journal.empty true)).1 = .ok outcome ∧
        outcome.report.status = .compiled ∧
          outcome.report.intermediate.length = 3 ∧
            ∀ quadruple ∈ outcome.report.intermediate ++ outcome.report.optimized,
              quadruple.operation = .transition →
              (∃ record ∈ outcome.report.states, record.name = quadruple.arg3) ∧
                quadruple.arg1 ≠ "" := by
  obtain ⟨outcome, finished, isReport⟩ :=
    run_of_acceptsAll
      { Environment.empty.preferences with
        optimizer := { policy := .deduplicateAndMerge } }
      (LoadedUnit.ofText "unit"
        ("state A \x7b\naction x;\n\x7d\ntransition t: e -> A \x7b\n\x7d\n" ++
          "transition u : e -> A\x7b\n\x7d\n").toList)
      memory_acceptsAll MemorySink.empty (Log.Journal.empty true)
  have compiled : outcome.report.status = .compiled := by
    rw [isReport]
    decide +kernel
  have sound :=
    compiled_by_lines_sound _ rfl _ _ _ _ _ outcome finished compiled
  refine ⟨outcome, finished, compiled, ?_, sound.2.2.1⟩
  rw [sound.2.2.2.2]
  decide +kernel

end Compilation

end Smsl
