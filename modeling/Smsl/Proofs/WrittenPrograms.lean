import Smsl.Proofs.WrittenClauses

namespace Smsl

/-!
# Written programs

A program is a list of clauses, written one to a line.  Compiling the text gives
back what the clauses amount to: no stage before the analysis has anything to
tell, the code is that of the clauses, and by lines as well as by tokens the
analysis comes to the verdict on what the clauses say about states.
-/

/-- Clauses in order. -/
abbrev Program := List Clause

namespace Program

/-- The text of a program; the last line feed may be left out. -/
def render (ended : Bool) : Program → Text
  | [] =>
      []
  | [last] =>
      last.render ++ if ended then ['\n'] else []
  | clause :: next :: rest =>
      clause.render ++ '\n' :: render ended (next :: rest)

/-- The number of tokens that a program is written with. -/
def tokenCount : Program → Nat
  | [] =>
      0
  | clause :: rest =>
      clause.tokenCount + tokenCount rest

/-- What clauses from a line on say about states, below a clause. -/
def factsFrom
    (above : Option Clause)
    (start : Nat) :
    Program → StateFacts
  | [] =>
      []
  | clause :: rest =>
      ((clause.fact? above).map fun fact => (start, fact)).toList ++
        factsFrom (some clause) (start + 1) rest

/-- What a program says about states, line by line. -/
def facts (program : Program) : StateFacts :=
  factsFrom none 1 program

/-! The lines of a program. -/

theorem lines_render
    (ended : Bool)
    (program : Program) :
    Text.lines (render ended program) = program.map Clause.render := by
  have noFeed :
      ∀ (clause : Clause), ∀ character ∈ clause.render, (character == '\n') = false := by
    intro clause character member
    simpa using Clause.ne_of_mem_render member (by decide)
  have noReturn : ∀ clause : Clause, clause.render.getLast? ≠ some '\r' := by
    intro clause isReturn
    exact Clause.ne_of_mem_render (List.mem_of_getLast? isReturn) (by decide) rfl
  induction program with
  | nil =>
      rfl
  | cons clause rest inductionHypothesis =>
      cases rest with
      | nil =>
          cases ended with
          | true =>
              exact Text.lines_append (noFeed clause) (noReturn clause) []
          | false =>
              obtain ⟨first, further, begins, _⟩ := clause.render_begins
              have whole : render false [clause] = clause.render := by
                simp [render]
              rw [whole]
              exact Text.lines_of_none (noFeed clause) (by simp [begins])
      | cons next further =>
          rw [render, Text.lines_append (noFeed clause) (noReturn clause),
            inductionHypothesis]
          rfl

theorem significantFrom_render
    (start : Nat)
    (clause : Clause)
    (rest : Program) :
    SourceLine.significantFrom start (List.map Clause.render (clause :: rest)) =
      { number := start, text := clause.render } ::
        SourceLine.significantFrom (start + 1) (rest.map Clause.render) := by
  rw [List.map_cons, SourceLine.significantFrom_cons, Clause.ofRaw?_render]
  rfl

theorem exists_clause
    {start : Nat}
    {program : Program}
    {line : SourceLine}
    (member : line ∈ SourceLine.significantFrom start (program.map Clause.render)) :
    ∃ clause ∈ program, line.text = clause.render := by
  induction program generalizing start with
  | nil =>
      cases member
  | cons clause rest inductionHypothesis =>
      rw [significantFrom_render] at member
      rcases List.mem_cons.mp member with rfl | later
      · exact ⟨clause, by simp, rfl⟩
      · obtain ⟨found, isFound, same⟩ := inductionHypothesis later
        exact ⟨found, by simp [isFound], same⟩

/-! The stages before the analysis. -/

theorem length_lexemes
    (start : Nat)
    (program : Program) :
    ((SourceLine.significantFrom start (program.map Clause.render)).flatMap
      PlacedLexeme.ofLine).length = program.tokenCount := by
  induction program generalizing start with
  | nil =>
      rfl
  | cons clause rest inductionHypothesis =>
      rw [significantFrom_render, List.flatMap_cons, List.length_append,
        inductionHypothesis (start + 1), PlacedLexeme.ofLine, Clause.ofText_render,
        List.length_map, Clause.length_lexemes]
      rfl

/-- A program that fits the token limit is scanned without errors. -/
theorem scan_errors
    {program : Program}
    (fits : program.tokenCount ≤ Limits.maxTokenCount)
    (detailed : Bool) :
    (Scan.ofLines .standard detailed (program.map Clause.render)).errors = [] := by
  have allTaken :
      (PlacedLexeme.ofLines (program.map Clause.render)).length ≤
        ScanLimits.standard.maxTokenCount := by
    rw [PlacedLexeme.ofLines, SourceLine.significant_eq_from, length_lexemes]
    exact fits
  rw [Scan.ofLines_errors, List.take_of_length_le allTaken, List.drop_eq_nil_of_le allTaken]
  simp only [List.head?_nil, Option.toList_none, List.map_nil, List.append_nil,
    List.filterMap_eq_nil_iff]
  intro placed member
  obtain ⟨line, isLine, isPlaced⟩ := List.mem_flatMap.mp member
  obtain ⟨clause, _, same⟩ := exists_clause isLine
  rw [PlacedLexeme.ofLine, same, Clause.ofText_render] at isPlaced
  obtain ⟨lexeme, isLexeme, rfl⟩ := List.mem_map.mp isPlaced
  exact Clause.error?_of_mem_lexemes isLexeme line.number

theorem check_diagnostics (program : Program) :
    (StatementCheck.ofLines (program.map Clause.render)).diagnostics = [] := by
  rw [StatementCheck.diagnostics_eq_nil_iff]
  intro line member
  obtain ⟨clause, _, same⟩ := exists_clause member
  exact ⟨clause.shape, by rw [same, Clause.ofText_shape]⟩

theorem lowered_render
    (start : Nat)
    (program : Program) :
    (SourceLine.significantFrom start (program.map Clause.render)).filterMap
        Generation.lower? =
      (program.filterMap Clause.quadruple?).map .ok := by
  induction program generalizing start with
  | nil =>
      rfl
  | cons clause rest inductionHypothesis =>
      rw [significantFrom_render, List.filterMap_cons, Clause.lower?_render,
        inductionHypothesis (start + 1), List.filterMap_cons]
      cases clause.quadruple? <;> rfl

/-- The generator makes the instructions of the clauses, in order. -/
theorem generation_render (program : Program) :
    Generation.ofLines (program.map Clause.render) =
      { quadruples := program.filterMap Clause.quadruple?, errors := [] } := by
  rw [Generation.ofLines, SourceLine.significant_eq_from, lowered_render]
  simp [List.filterMap_map, Function.comp_def, Generation.quadruple?, Generation.error?]

/-! The analysis. -/

/-- A reading that takes clauses at their word finds what the program says. -/
theorem ofReading_render
    {reading : Option SourceLine → SourceLine → Option StateFact}
    (faithful :
      ∀ (above : Option Clause) (clause : Clause) (number : Nat),
        reading (above.map fun upper => { number, text := upper.render })
            { number := number + 1, text := clause.render } =
          clause.fact? above)
    (program : Program) :
    StateFact.ofReading reading (program.map Clause.render) = program.facts := by
  have below :
      ∀ (rest : Program) (above : Option Clause) (number : Nat),
        (SourceLine.withAbove
            (above.map fun upper => { number, text := upper.render }) (number + 1)
            (rest.map Clause.render)).filterMap
          (fun pair => (reading pair.1 pair.2).map fun fact => (pair.2.number, fact)) =
        factsFrom above (number + 1) rest := by
    intro rest
    induction rest with
    | nil =>
        intro above number
        rfl
    | cons clause rest inductionHypothesis =>
        intro above number
        have further := inductionHypothesis (some clause) (number + 1)
        rw [List.map_cons, SourceLine.withAbove_of_some (clause.ofRaw?_render (number + 1)),
          List.filterMap_cons, faithful, factsFrom, ← further]
        cases clause.fact? above <;> rfl
  exact below program none 0

/-- By lines and by tokens the analysis goes by what the clauses say. -/
theorem analysis_facts
    {program : Program}
    (fits : program.tokenCount ≤ Limits.maxTokenCount)
    (detailed : Bool)
    (input : SemanticInput) :
    Analysis.facts input (program.map Clause.render)
        (Scan.ofLines .standard detailed (program.map Clause.render)).tokens =
      program.facts := by
  cases input with
  | lines =>
      rw [Analysis.facts, StateFact.ofLines_eq_ofReading]
      exact ofReading_render Clause.byText_render program
  | tokens =>
      have complete :
          (Scan.ofLines .standard detailed (program.map Clause.render)).Complete := by
        intro line max member
        rw [scan_errors fits] at member
        cases member
      rw [Analysis.facts, StateFact.ofTokens_eq_ofReading complete]
      exact ofReading_render Clause.byTokens_render program

theorem facts_ordered (program : Program) :
    program.facts.Ordered := by
  rw [← ofReading_render Clause.byText_render]
  exact StateFact.ofReading_ordered _ _

/--
Compiling the text of a program without stopping at errors reports what its
clauses amount to: nothing from the scanner, the check and the generator, the
instructions of the clauses, and, whatever the analysis walks over, the records
and the errors that the clauses give rise to.
-/
theorem run_render
    (preferences : Preferences)
    (ungated : preferences.pipeline.stopOnErrors = false)
    (program : Program)
    (fits : program.tokenCount ≤ Limits.maxTokenCount)
    (ended : Bool)
    (name : String)
    (sink : Sink σ)
    (acceptsAll : Compilation.AcceptsAll sink)
    (state : σ)
    (journal : Log.Journal) :
    ∃ outcome,
      (Compilation.run preferences (LoadedUnit.ofText name (render ended program)) sink
          state journal).1 = .ok outcome ∧
        outcome.report.lexical = [] ∧
        outcome.report.syntactic = [] ∧
        outcome.report.generationErrors = [] ∧
        outcome.report.intermediate = program.filterMap Clause.quadruple? ∧
        outcome.report.states =
          program.facts.states preferences.semantic.attribution ∧
        outcome.report.semantic =
          (program.facts.errors preferences.semantic.attribution).map
            SemanticError.toDiagnostic := by
  obtain ⟨outcome, finished, planned⟩ :=
    Compilation.run_of_acceptsAll preferences
      (LoadedUnit.ofText name (render ended program)) acceptsAll state journal
  have readable :
      (LoadedUnit.ofText name (render ended program)).lines =
        .ok (program.map Clause.render) :=
    congrArg Except.ok (lines_render ended program)
  rw [Compilation.plan_result_of_ungated ungated readable] at planned
  have analysis :
      Compilation.analysisOf preferences (program.map Clause.render) =
        Analysis.ofWalk (Walk.ofFacts preferences.semantic.attribution program.facts) :=
    congrArg (fun facts => Analysis.ofWalk (Walk.ofFacts _ facts))
      (analysis_facts fits preferences.lexical.detailedMetrics preferences.semantic.input)
  have ordered := facts_ordered program
  refine ⟨outcome, finished, ?_⟩
  rw [planned]
  simp only [Compilation.fullReport, Compilation.analyzedReport, Compilation.checkedReport,
    Compilation.scannedReport, generation_render, check_diagnostics, analysis,
    StateFacts.ofFacts_states _ ordered, StateFacts.ofFacts_diagnostics _ ordered,
    Compilation.scanOf, Scan.diagnostics, scan_errors fits]
  simp

/-- A state with content and a transition to a state that is not declared. -/
theorem run_render_of_undeclared_target :
    ∃ outcome : Compilation.Outcome MemorySink,
      (Compilation.run
          { Environment.empty.preferences with
            pipeline := { stopOnErrors := false }
            semantic := { attribution := .adjacentDeclaration, input := .tokens } }
          (LoadedUnit.ofText "unit"
            (render true
              [.state (.ofLetter 'a' rfl), .action (.ofLetter 'b' rfl),
                .transition (.ofLetter 't' rfl) (.ofLetter 'e' rfl) (.ofLetter 'c' rfl)]))
          MemorySink.sink MemorySink.empty (Log.Journal.empty true)).1 = .ok outcome ∧
        outcome.report.intermediate =
          [Quadruple.action "b", Quadruple.transition "t" "e" "c"] ∧
        outcome.report.states =
          [{ name := "a", declarationLine := 1, hasContent := true }] ∧
        outcome.report.semantic =
          [SemanticError.toDiagnostic (.undefinedStateReference "c")] := by
  obtain ⟨outcome, finished, _, _, _, intermediate, states, semantic⟩ :=
    run_render
      { Environment.empty.preferences with
        pipeline := { stopOnErrors := false }
        semantic := { attribution := .adjacentDeclaration, input := .tokens } }
      rfl
      [.state (.ofLetter 'a' rfl), .action (.ofLetter 'b' rfl),
        .transition (.ofLetter 't' rfl) (.ofLetter 'e' rfl) (.ofLetter 'c' rfl)]
      (by decide) true "unit" MemorySink.sink Compilation.memory_acceptsAll
      MemorySink.empty (Log.Journal.empty true)
  exact ⟨outcome, finished, intermediate, states, semantic⟩

end Program

end Smsl
