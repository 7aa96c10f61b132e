import Smsl.Proofs.Renumbering

namespace Smsl

/-!
# Stages that work line by line

The scanner, the check of statements and the generator keep nothing from one
line to the next.  What they make of two units one after the other is what they
make of the first, followed by what they make of the second with all its line
numbers moved on.
-/

namespace SourceLine

theorem significantFrom_append
    (start : Nat)
    (first second : List Text) :
    significantFrom start (first ++ second) =
      significantFrom start first ++ significantFrom (start + first.length) second := by
  simp only [significantFrom, List.zipIdx_append, List.filterMap_append]

/-- Counting from a later number renumbers the significant lines. -/
theorem significantFrom_shift
    (start count : Nat)
    (lines : List Text) :
    significantFrom (start + count) lines =
      (significantFrom start lines).map (renumber (.shift count)) := by
  induction lines generalizing start with
  | nil =>
      rfl
  | cons raw rest inductionHypothesis =>
      have further := inductionHypothesis (start + 1)
      rw [Nat.add_right_comm] at further
      rw [significantFrom_cons, significantFrom_cons, further, List.map_append]
      congr 1
      simp only [ofRaw?]
      split <;> rfl

theorem significant_append
    (first second : List Text) :
    significant (first ++ second) =
      significant first ++ (significant second).map (renumber (.shift first.length)) := by
  rw [significant_eq_from, significantFrom_append, significantFrom_shift]
  rfl

end SourceLine

/-! What the stages make of two units in a row. -/

theorem StatementCheck.statements_append
    (first second : List Text) :
    (ofLines (first ++ second)).statements =
      (ofLines first).statements ++
        (ofLines second).statements.map (Statement.renumber (.shift first.length)) := by
  simp only [statements_ofLines, SourceLine.significant_append, List.filterMap_append,
    SourceLine.filterMap_renumber (statement?_renumber _)]

theorem StatementCheck.diagnostics_append
    (first second : List Text) :
    (ofLines (first ++ second)).diagnostics =
      (ofLines first).diagnostics ++
        (ofLines second).diagnostics.map (Diagnostic.renumber (.shift first.length)) := by
  simp only [diagnostics, errors_ofLines, SourceLine.significant_append,
    List.filterMap_append, SourceLine.filterMap_renumber (error?_renumber _),
    List.map_append, List.map_map]
  congr 1
  exact List.map_congr_left fun error _ => error.toDiagnostic_renumber _

theorem Generation.quadruples_append
    (first second : List Text) :
    (ofLines (first ++ second)).quadruples =
      (ofLines first).quadruples ++ (ofLines second).quadruples := by
  simp only [quadruples_ofLines, SourceLine.significant_append, List.filterMap_append,
    List.filterMap_map]
  congr 1
  exact List.filterMap_congr fun line _ => lowered?_renumber _ line

theorem Generation.errors_append
    (first second : List Text) :
    (ofLines (first ++ second)).errors =
      (ofLines first).errors ++
        (ofLines second).errors.map (GenerationError.renumber (.shift first.length)) := by
  simp only [errors_ofLines, SourceLine.significant_append, List.filterMap_append,
    SourceLine.filterMap_renumber (failed?_renumber _)]

theorem PlacedLexeme.ofLines_append
    (first second : List Text) :
    ofLines (first ++ second) =
      ofLines first ++ (ofLines second).map (renumber (.shift first.length)) := by
  simp only [ofLines, SourceLine.significant_append, List.flatMap_append,
    flatMap_ofLine_renumber]

/-! The counts of a scan. -/

namespace ScanMetrics

/-- The counts after more tokens, given by their kinds. -/
def recordAll
    (detailed : Bool)
    (kinds : List TokenKind)
    (metrics : ScanMetrics) :
    ScanMetrics :=
  kinds.foldl (fun counts kind => counts.record detailed kind) metrics

/-- An entry of the counts by kind: none for a kind that does not occur. -/
def counted? : Nat → Option Nat
  | 0 => none
  | count + 1 => some (count + 1)

theorem counted?_add (first second : Nat) :
    counted? (first + second) = Option.merge (· + ·) (counted? first) (counted? second) := by
  cases first <;> cases second <;> simp [counted?, ← Nat.add_assoc]

theorem lookup_increment
    (kind other : TokenKind)
    (counts : List (TokenKind × Nat)) :
    (increment kind counts).lookup other =
      Option.merge (· + ·) (counts.lookup other) (counted? (if other = kind then 1 else 0)) := by
  induction counts with
  | nil =>
      by_cases same : other = kind
      · simp [increment, same, counted?]
      · simp [increment, List.lookup_cons, beq_eq_false_iff_ne.mpr same, same, counted?]
  | cons first rest inductionHypothesis =>
      obtain ⟨present, count⟩ := first
      by_cases isPresent : other = present
      · by_cases isKind : present = kind <;>
          simp [increment, isPresent, isKind, counted?]
      · have passed : (other == present) = false := beq_eq_false_iff_ne.mpr isPresent
        by_cases isKind : present = kind
        · simp [increment, List.lookup_cons, ← isKind, passed, isPresent, counted?]
        · simpa [increment, List.lookup_cons, isKind, passed] using inductionHypothesis

section RecordAll

variable (detailed : Bool)
variable (kinds : List TokenKind)
variable (metrics : ScanMetrics)

theorem recordAll_totalTokens :
    (recordAll detailed kinds metrics).totalTokens = metrics.totalTokens + kinds.length := by
  induction kinds generalizing metrics with
  | nil =>
      rfl
  | cons kind rest inductionHypothesis =>
      have further := inductionHypothesis (metrics.record detailed kind)
      rw [List.length_cons, Nat.add_comm rest.length, ← Nat.add_assoc]
      exact further

theorem recordAll_unknownLexemes :
    (recordAll detailed kinds metrics).unknownLexemes =
      metrics.unknownLexemes + kinds.count .unknown := by
  induction kinds generalizing metrics with
  | nil =>
      rfl
  | cons kind rest inductionHypothesis =>
      have further := inductionHypothesis (metrics.record detailed kind)
      have unfolded :
          recordAll detailed (kind :: rest) metrics =
            recordAll detailed rest (metrics.record detailed kind) := rfl
      rw [unfolded, further]
      by_cases isUnknown : kind = .unknown
      · simp only [record, isUnknown, ↓reduceIte, List.count_cons_self]
        omega
      · simp [record, isUnknown]

theorem recordAll_skippedLines :
    (recordAll detailed kinds metrics).skippedLines = metrics.skippedLines := by
  induction kinds generalizing metrics with
  | nil =>
      rfl
  | cons kind rest inductionHypothesis =>
      exact inductionHypothesis (metrics.record detailed kind)

/-- Counts by kind grow by the tokens of the kind, if they are kept. -/
theorem lookup_recordAll (kind : TokenKind) :
    (recordAll detailed kinds metrics).tokensByKind.lookup kind =
      Option.merge (· + ·) (metrics.tokensByKind.lookup kind)
        (counted? (if detailed then kinds.count kind else 0)) := by
  induction kinds generalizing metrics with
  | nil =>
      simp [recordAll, counted?]
  | cons first rest inductionHypothesis =>
      have unfolded :
          recordAll detailed (first :: rest) metrics =
            recordAll detailed rest (metrics.record detailed first) := rfl
      rw [unfolded, inductionHypothesis]
      cases detailed with
      | false =>
          simp [record]
      | true =>
          have counted :
              (first :: rest).count kind = (if kind = first then 1 else 0) + rest.count kind := by
            by_cases same : kind = first
            · simp [same, Nat.add_comm]
            · simp [same, List.count_cons_of_ne (Ne.symm same)]
          simp only [record, ↓reduceIte, lookup_increment, counted, counted?_add]
          exact Std.Associative.assoc _ _ _

end RecordAll

end ScanMetrics

/-- The counts of a scan are those of the kinds of its tokens. -/
theorem ScanState.run_metrics
    (limits : ScanLimits)
    (detailed : Bool)
    (state : ScanState)
    (placed : List PlacedLexeme) :
    (run limits detailed state placed).metrics =
      state.metrics.recordAll detailed
        ((placed.take (limits.maxTokenCount - state.tokens.size)).map
          fun lexeme => (lexeme.toToken limits).kind) := by
  induction placed generalizing state with
  | nil =>
      simp [run, ScanMetrics.recordAll]
  | cons next rest inductionHypothesis =>
      by_cases full : limits.maxTokenCount ≤ state.tokens.size
      · simp [run, full, Nat.sub_eq_zero_of_le full, ScanMetrics.recordAll]
      · have room :
            limits.maxTokenCount - state.tokens.size =
              limits.maxTokenCount - (state.tokens.size + 1) + 1 := by
          omega
        simp only [run, full, ↓reduceIte, inductionHypothesis]
        rw [room]
        simp [push, ScanMetrics.recordAll]

namespace Scan

theorem ofLines_metrics
    (limits : ScanLimits)
    (detailed : Bool)
    (lines : List Text) :
    (ofLines limits detailed lines).metrics =
      (ScanMetrics.initial (lines.length - (SourceLine.significant lines).length)).recordAll
        detailed ((ofLines limits detailed lines).tokens.map Token.kind) := by
  rw [ofLines_tokens, List.map_map]
  simp only [ofLines, ScanState.run_metrics]
  rfl

/-- A scan that the limit did not stop notes what is wrong with every lexeme. -/
theorem Complete.errors_eq
    {limits : ScanLimits}
    {detailed : Bool}
    {lines : List Text}
    (complete : (ofLines limits detailed lines).Complete) :
    (ofLines limits detailed lines).errors =
      (PlacedLexeme.ofLines lines).filterMap (PlacedLexeme.error? limits) := by
  have fits := complete_iff.mp complete
  rw [ofLines_errors, List.take_of_length_le fits, List.drop_eq_nil_of_le fits]
  exact List.append_nil _

/-- Counts that are the sums of two others, also kind by kind. -/
structure AddsUp
    (first second whole : ScanMetrics) :
    Prop where
  totalTokens :
    whole.totalTokens = first.totalTokens + second.totalTokens
  unknownLexemes :
    whole.unknownLexemes = first.unknownLexemes + second.unknownLexemes
  skippedLines :
    whole.skippedLines = first.skippedLines + second.skippedLines
  tokensByKind :
    ∀ kind,
      whole.tokensByKind.lookup kind =
        Option.merge (· + ·) (first.tokensByKind.lookup kind)
          (second.tokensByKind.lookup kind)

section Append

variable {limits : ScanLimits}
variable {detailed : Bool}
variable {first second : List Text}
variable (complete : (ofLines limits detailed (first ++ second)).Complete)

include complete

/-- A limit that two units in a row keep is kept by each of them. -/
theorem Complete.parts :
    (ofLines limits detailed first).Complete ∧ (ofLines limits detailed second).Complete := by
  have fits := complete_iff.mp complete
  rw [PlacedLexeme.ofLines_append, List.length_append, List.length_map] at fits
  exact ⟨complete_iff.mpr (by omega), complete_iff.mpr (by omega)⟩

theorem Complete.tokens_append :
    (ofLines limits detailed (first ++ second)).tokens =
      (ofLines limits detailed first).tokens ++
        (ofLines limits detailed second).tokens.map (Token.renumber (.shift first.length)) := by
  rw [complete.tokens_eq, complete.parts.1.tokens_eq, complete.parts.2.tokens_eq,
    PlacedLexeme.ofLines_append, List.map_append, List.map_map, List.map_map]
  congr 1
  exact List.map_congr_left fun placed _ => placed.toToken_renumber _ limits

theorem Complete.diagnostics_append :
    (ofLines limits detailed (first ++ second)).diagnostics =
      (ofLines limits detailed first).diagnostics ++
        (ofLines limits detailed second).diagnostics.map
          (Diagnostic.renumber (.shift first.length)) := by
  have moves :
      ∀ placed : PlacedLexeme,
        ((placed.renumber (.shift first.length)).error? limits).map
            LexicalError.toDiagnostic =
          ((placed.error? limits).map LexicalError.toDiagnostic).map
            (Diagnostic.renumber (.shift first.length)) := by
    intro placed
    rw [PlacedLexeme.error?_renumber, Option.map_map, Option.map_map]
    exact congrArg (fun told => (placed.error? limits).map told)
      (funext fun error => error.toDiagnostic_renumber _)
  simp only [diagnostics, complete.errors_eq, complete.parts.1.errors_eq,
    complete.parts.2.errors_eq, PlacedLexeme.ofLines_append, List.filterMap_append,
    List.map_append, List.filterMap_map, List.map_filterMap]
  congr 1
  exact List.filterMap_congr fun placed _ => moves placed

theorem Complete.kinds_append :
    (ofLines limits detailed (first ++ second)).tokens.map Token.kind =
      (ofLines limits detailed first).tokens.map Token.kind ++
        (ofLines limits detailed second).tokens.map Token.kind := by
  rw [complete.tokens_append, List.map_append, List.map_map]
  rfl

theorem Complete.metrics_append :
    AddsUp (ofLines limits detailed first).metrics (ofLines limits detailed second).metrics
      (ofLines limits detailed (first ++ second)).metrics := by
  simp only [ofLines_metrics, complete.kinds_append]
  refine ⟨?_, ?_, ?_, ?_⟩
  · simp [ScanMetrics.recordAll_totalTokens, ScanMetrics.initial]
  · simp [ScanMetrics.recordAll_unknownLexemes, ScanMetrics.initial]
  · have fewerFirst := SourceLine.length_significant_le first
    have fewerSecond := SourceLine.length_significant_le second
    simp only [ScanMetrics.recordAll_skippedLines, ScanMetrics.initial,
      SourceLine.significant_append, List.length_append, List.length_map]
    omega
  · intro kind
    simp only [ScanMetrics.lookup_recordAll, ScanMetrics.initial, List.lookup_nil,
      Option.merge_none_left, List.count_append, ← ScanMetrics.counted?_add]
    cases detailed <;> rfl

end Append

end Scan

/-! Every significant line is judged once. -/

namespace StatementCheck

/-- A line is accepted or rejected, under its own number. -/
theorem verdict_cases (line : SourceLine) :
    (∃ statement,
      statement? line = some statement ∧
        error? line = none ∧ statement.line = line.number) ∨
    (∃ error,
      statement? line = none ∧
        error? line = some error ∧ error.line = line.number) := by
  cases verdict : StatementShape.ofText line.text with
  | ok shape =>
      refine .inl ⟨{ line := line.number, shape }, ?_⟩
      simp [statement?, error?, judge, verdict, accepted?, rejected?]
  | error rejection =>
      refine .inr ⟨{ line := line.number, rejection }, ?_⟩
      simp [statement?, error?, judge, verdict, accepted?, rejected?]

/--
A check accepts or rejects every significant line, once and no other, and lists
both kinds in order.
-/
structure JudgesOnce
    (lines : List Text)
    (check : StatementCheck) :
    Prop where
  once :
    (check.statements.map Statement.line ++ check.errors.map StatementError.line).Perm
      ((SourceLine.significant lines).map SourceLine.number)
  distinct :
    ((SourceLine.significant lines).map SourceLine.number).Nodup
  told :
    check.diagnostics.map Diagnostic.line =
      check.errors.map fun error => some error.line
  statementsIncrease :
    (check.statements.map Statement.line).Pairwise (· < ·)
  errorsIncrease :
    (check.errors.map StatementError.line).Pairwise (· < ·)

theorem lines_perm (lines : List SourceLine) :
    ((lines.filterMap statement?).map Statement.line ++
        (lines.filterMap error?).map StatementError.line).Perm
      (lines.map SourceLine.number) := by
  induction lines with
  | nil =>
      exact .refl _
  | cons line rest inductionHypothesis =>
      rcases verdict_cases line with
          ⟨statement, accepted, notRejected, isLine⟩ | ⟨error, notAccepted, rejected, isLine⟩
      · simp only [List.filterMap_cons, accepted, notRejected, List.map_cons, isLine,
          List.cons_append]
        exact inductionHypothesis.cons line.number
      · simp only [List.filterMap_cons, notAccepted, rejected, List.map_cons, isLine]
        exact List.perm_middle.trans (inductionHypothesis.cons line.number)

/-- What is read off some of the lines, under their numbers, comes in their order. -/
theorem pairwise_of_numbered
    {read : SourceLine → Option α}
    {number : α → Nat}
    (numbered : ∀ line result, read line = some result → number result = line.number)
    (lines : List Text) :
    (((SourceLine.significant lines).filterMap read).map number).Pairwise (· < ·) := by
  rw [List.pairwise_map, List.pairwise_filterMap]
  refine (SourceLine.significantFrom_pairwise 1 lines).imp ?_
  intro first second less firstResult isFirst secondResult isSecond
  rw [numbered first firstResult isFirst, numbered second secondResult isSecond]
  exact less

theorem judgesOnce_ofLines (lines : List Text) :
    JudgesOnce lines (ofLines lines) := by
  have statementLine :
      ∀ line statement, statement? line = some statement → statement.line = line.number :=
    fun _ _ accepted => (statement?_eq_some_iff.mp accepted).2
  have errorLine :
      ∀ line error, error? line = some error → error.line = line.number := by
    intro line error rejected
    rcases verdict_cases line with ⟨_, _, notRejected, _⟩ | ⟨other, _, isError, isLine⟩
    · rw [notRejected] at rejected
      cases rejected
    · rw [isError] at rejected
      cases rejected
      exact isLine
  refine ⟨?_, ?_, ?_, ?_, ?_⟩
  · rw [statements_ofLines, errors_ofLines]
    exact lines_perm (SourceLine.significant lines)
  · have increasing := SourceLine.significantFrom_pairwise 1 lines
    rw [List.nodup_iff_pairwise_ne, List.pairwise_map]
    exact increasing.imp Nat.ne_of_lt
  · rw [diagnostics, List.map_map]
    rfl
  · rw [statements_ofLines]
    exact pairwise_of_numbered statementLine lines
  · rw [errors_ofLines]
    exact pairwise_of_numbered errorLine lines

end StatementCheck

namespace Compilation

/--
The check of statements, the generator and, as long as the token limit stops
nothing, the scanner are local to lines: two units in a row give the results of
the first and then those of the second under moved line numbers.  The check
judges every significant line once.
-/
theorem stages_line_local
    (first second : List Text) :
    (StatementCheck.ofLines (first ++ second)).statements =
        (StatementCheck.ofLines first).statements ++
          (StatementCheck.ofLines second).statements.map
            (Statement.renumber (.shift first.length)) ∧
      (StatementCheck.ofLines (first ++ second)).diagnostics =
        (StatementCheck.ofLines first).diagnostics ++
          (StatementCheck.ofLines second).diagnostics.map
            (Diagnostic.renumber (.shift first.length)) ∧
      (Generation.ofLines (first ++ second)).quadruples =
        (Generation.ofLines first).quadruples ++ (Generation.ofLines second).quadruples ∧
      (Generation.ofLines (first ++ second)).errors =
        (Generation.ofLines first).errors ++
          (Generation.ofLines second).errors.map
            (GenerationError.renumber (.shift first.length)) ∧
      (∀ (limits : ScanLimits) (detailed : Bool),
        (Scan.ofLines limits detailed (first ++ second)).Complete →
        (Scan.ofLines limits detailed (first ++ second)).tokens =
            (Scan.ofLines limits detailed first).tokens ++
              (Scan.ofLines limits detailed second).tokens.map
                (Token.renumber (.shift first.length)) ∧
          (Scan.ofLines limits detailed (first ++ second)).diagnostics =
            (Scan.ofLines limits detailed first).diagnostics ++
              (Scan.ofLines limits detailed second).diagnostics.map
                (Diagnostic.renumber (.shift first.length)) ∧
          Scan.AddsUp
            (Scan.ofLines limits detailed first).metrics
            (Scan.ofLines limits detailed second).metrics
            (Scan.ofLines limits detailed (first ++ second)).metrics) ∧
      ∀ lines, StatementCheck.JudgesOnce lines (StatementCheck.ofLines lines) :=
  ⟨StatementCheck.statements_append first second,
    StatementCheck.diagnostics_append first second,
    Generation.quadruples_append first second,
    Generation.errors_append first second,
    fun _ _ complete =>
      ⟨complete.tokens_append, complete.diagnostics_append, complete.metrics_append⟩,
    StatementCheck.judgesOnce_ofLines⟩

/-- Two units with skipped and rejected lines, under a token limit that they just meet. -/
theorem stages_line_local_of_rejected_lines :
    (Scan.ofLines { maxLexemeLength := 6, maxTokenCount := 6 } true
        (["// a".toList, "state A \x7b".toList] ++ ["".toList, "action a $".toList])).Complete ∧
      (Scan.ofLines { maxLexemeLength := 6, maxTokenCount := 6 } true
          (["// a".toList, "state A \x7b".toList] ++
            ["".toList, "action a $".toList])).diagnostics =
        (Scan.ofLines { maxLexemeLength := 6, maxTokenCount := 6 } true
            ["".toList, "action a $".toList]).diagnostics.map
          (Diagnostic.renumber (.shift 2)) ∧
      (StatementCheck.ofLines
          (["// a".toList, "state A \x7b".toList] ++
            ["".toList, "action a $".toList])).diagnostics.map Diagnostic.message =
        ["Line 4: Syntax Error [Error]"] := by
  have complete :
      (Scan.ofLines { maxLexemeLength := 6, maxTokenCount := 6 } true
        (["// a".toList, "state A \x7b".toList] ++
          ["".toList, "action a $".toList])).Complete :=
    Scan.complete_iff.mpr (by decide +kernel)
  have isLocal :=
    stages_line_local ["// a".toList, "state A \x7b".toList]
      ["".toList, "action a $".toList]
  have noneBefore :
      (Scan.ofLines { maxLexemeLength := 6, maxTokenCount := 6 } true
        ["// a".toList, "state A \x7b".toList]).diagnostics = [] := by
    decide +kernel
  have scanned := (isLocal.2.2.2.2.1 _ _ complete).2.1
  rw [noneBefore, List.nil_append] at scanned
  refine ⟨complete, scanned, ?_⟩
  rw [isLocal.2.1]
  decide +kernel

end Compilation

end Smsl
