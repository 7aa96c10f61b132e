import Mathlib.Data.List.Forall2
import Smsl.Proofs.LineLocality
import Smsl.Proofs.SpelledLines

namespace Smsl

/-!
# Accounts of a scan

The counts of a scan and its errors are kept apart from its tokens, one lexeme
at a time.  At the end, whether the token limit stopped the scan or not, the
counts are those of the tokens, and there is one error for each token of the
unknown kind, in order, that tells what is wrong with it.
-/

namespace Token

/-- The tokens of the unknown kind, in order. -/
def unknowns (tokens : List Token) : List Token :=
  tokens.filter fun token => token.kind = .unknown

/--
An error that tells what is wrong with a token: no pattern matches its lexeme,
or one does but the lexeme has too many characters.
-/
inductive Blamed (limits : ScanLimits) (token : Token) : LexicalError → Prop where
  | unmatched :
      (∀ pattern : Pattern, ¬ pattern.Matches token.lexeme.toList) →
      Blamed limits token (.unknownLexeme token.line token.lexeme)
  | tooLong
      {pattern : Pattern} :
      pattern.Matches token.lexeme.toList →
      limits.maxLexemeLength < token.lexeme.length →
      Blamed limits token
        (.lexemeTooLong token.line token.lexeme.length limits.maxLexemeLength)

end Token

/-! One lexeme: its token and its error. -/

/-- A lexeme that no pattern matches in its place is matched by none on its own. -/
theorem Lexeme.Unmatched.not_matches
    {run rest : Text}
    (unmatched : Unmatched run rest)
    (pattern : Pattern) :
    ¬ pattern.Matches run := by
  intro matched
  exact unmatched.noMatch [] run rfl unmatched.nonempty
    ⟨pattern, run, matched, List.prefix_append run rest⟩

theorem Lexeme.kind_ne_unknown
    {lexeme : Lexeme}
    {pattern : Pattern}
    (isPattern : lexeme.pattern = some pattern) :
    lexeme.kind ≠ .unknown := by
  cases pattern with
  | word =>
      simp only [kind, isPattern]
      split
      · intro isUnknown
        cases isUnknown
      · intro isUnknown
        cases isUnknown
  | number | quoted | arrow | punctuation =>
      simp [kind, isPattern]

namespace PlacedLexeme

/-- The token of a lexeme is unknown exactly if there is an error, which tells why. -/
theorem token_cases
    (limits : ScanLimits)
    {placed : PlacedLexeme}
    {rest : Text}
    (bounded : placed.lexeme.Bounded rest) :
    (∃ error,
      placed.error? limits = some error ∧
        (placed.toToken limits).kind = .unknown ∧
          (placed.toToken limits).Blamed limits error) ∨
      (placed.error? limits = none ∧ (placed.toToken limits).kind ≠ .unknown) := by
  have isText : (placed.toToken limits).lexeme.toList = placed.lexeme.text :=
    String.toList_ofList
  have isLength : (placed.toToken limits).lexeme.length = placed.lexeme.text.length :=
    String.length_ofList
  cases isPattern : placed.lexeme.pattern with
  | none =>
      have unmatched : Lexeme.Unmatched placed.lexeme.text rest := by
        simpa only [Lexeme.Bounded, isPattern] using bounded
      refine .inl ⟨.unknownLexeme placed.line (String.ofList placed.lexeme.text), ?_, ?_, ?_⟩
      · simp [error?, isPattern]
      · simp [toToken, error?, isPattern]
      · refine Token.Blamed.unmatched ?_
        rw [isText]
        exact unmatched.not_matches
  | some pattern =>
      have matched : pattern.Matches placed.lexeme.text := by
        simp only [Lexeme.Bounded, isPattern] at bounded
        exact bounded.1
      by_cases tooLong : limits.maxLexemeLength < placed.lexeme.text.length
      · refine .inl ⟨.lexemeTooLong placed.line placed.lexeme.text.length
          limits.maxLexemeLength, ?_, ?_, ?_⟩
        · simp [error?, isPattern, tooLong]
        · simp [toToken, error?, isPattern, tooLong]
        · rw [← isLength] at tooLong ⊢
          exact Token.Blamed.tooLong (isText ▸ matched) tooLong
      · refine .inr ⟨?_, ?_⟩
        · simp [error?, isPattern, tooLong]
        · simpa [toToken, error?, isPattern, tooLong] using Lexeme.kind_ne_unknown isPattern

/-- The errors of lexemes are those of their unknown tokens, one for each and in order. -/
theorem errors_blamed
    (limits : ScanLimits)
    {placed : List PlacedLexeme}
    (bounded : ∀ lexeme ∈ placed, ∃ rest, lexeme.lexeme.Bounded rest) :
    List.Forall₂ (Token.Blamed limits)
      (Token.unknowns (placed.map (toToken limits)))
      (placed.filterMap (error? limits)) := by
  induction placed with
  | nil =>
      exact .nil
  | cons first others inductionHypothesis =>
      have further := inductionHypothesis fun lexeme member =>
        bounded lexeme (List.mem_cons_of_mem first member)
      obtain ⟨rest, firstBounded⟩ := bounded first List.mem_cons_self
      rw [Token.unknowns] at further ⊢
      rcases token_cases limits firstBounded with
          ⟨error, isError, isUnknown, blamed⟩ | ⟨noError, known⟩
      · rw [List.map_cons, List.filter_cons_of_pos (by simpa using isUnknown),
          List.filterMap_cons_some isError]
        exact .cons blamed further
      · rw [List.map_cons, List.filter_cons_of_neg (by simpa using known),
          List.filterMap_cons_none noError]
        exact further

end PlacedLexeme

/-! Counts by kind. -/

/-- Kinds have labels of their own, so counts by label are counts by kind. -/
theorem TokenKind.label_injective : Function.Injective label := by
  have found : ∀ kind, all.find? (fun other => other.label = kind.label) = some kind := by
    intro kind
    cases kind with
    | keyword word =>
        cases word <;> rfl
    | identifier | number | string | symbol | unknown =>
        rfl
  intro first second same
  have sameFound := found first
  rw [same, found second] at sameFound
  exact (Option.some.inj sameFound).symm

namespace ScanMetrics

/-- Counting a token adds a kind only if it is new. -/
theorem keys_increment
    (kind : TokenKind)
    (counts : List (TokenKind × Nat)) :
    (increment kind counts).map Prod.fst =
      if kind ∈ counts.map Prod.fst then
        counts.map Prod.fst
      else
        counts.map Prod.fst ++ [kind] := by
  induction counts with
  | nil =>
      rfl
  | cons first rest inductionHypothesis =>
      by_cases isFirst : first.1 = kind
      · simp [increment, isFirst]
      · simp only [increment, isFirst, ↓reduceIte, List.map_cons, inductionHypothesis,
          List.mem_cons, Ne.symm isFirst, false_or]
        split
        · rfl
        · rfl

/-- The counts by kind, added up. -/
def sum (counts : List (TokenKind × Nat)) : Nat :=
  counts.foldr (fun entry total => entry.2 + total) 0

theorem sum_cons
    (entry : TokenKind × Nat)
    (rest : List (TokenKind × Nat)) :
    sum (entry :: rest) = entry.2 + sum rest :=
  rfl

theorem sum_increment
    (kind : TokenKind)
    (counts : List (TokenKind × Nat)) :
    sum (increment kind counts) = sum counts + 1 := by
  induction counts with
  | nil =>
      rfl
  | cons first rest inductionHypothesis =>
      by_cases isFirst : first.1 = kind
      · simp only [increment, isFirst, ↓reduceIte, sum_cons]
        omega
      · simp only [increment, isFirst, ↓reduceIte, sum_cons, inductionHypothesis]
        omega

/-- The kinds that are counted are listed once each. -/
def Distinct (metrics : ScanMetrics) : Prop :=
  (metrics.tokensByKind.map Prod.fst).Nodup

theorem Distinct.record
    {metrics : ScanMetrics}
    (distinct : metrics.Distinct)
    (detailed : Bool)
    (kind : TokenKind) :
    (metrics.record detailed kind).Distinct := by
  cases detailed with
  | false =>
      exact distinct
  | true =>
      simp only [Distinct, ScanMetrics.record, ↓reduceIte, keys_increment]
      split
      · exact distinct
      · rename_i isNew
        exact List.Nodup.append distinct (List.nodup_singleton kind)
          (List.disjoint_singleton.mpr isNew)

section RecordAll

variable (detailed : Bool)
variable (kinds : List TokenKind)

theorem Distinct.recordAll
    {metrics : ScanMetrics}
    (distinct : metrics.Distinct) :
    (metrics.recordAll detailed kinds).Distinct := by
  induction kinds generalizing metrics with
  | nil =>
      exact distinct
  | cons kind rest inductionHypothesis =>
      exact inductionHypothesis (distinct.record detailed kind)

theorem sum_recordAll (metrics : ScanMetrics) :
    sum (metrics.recordAll detailed kinds).tokensByKind =
      sum metrics.tokensByKind + if detailed then kinds.length else 0 := by
  induction kinds generalizing metrics with
  | nil =>
      simp [recordAll]
  | cons kind rest inductionHypothesis =>
      have further := inductionHypothesis (metrics.record detailed kind)
      have unfolded :
          metrics.recordAll detailed (kind :: rest) =
            (metrics.record detailed kind).recordAll detailed rest := rfl
      rw [unfolded, further]
      cases detailed with
      | false =>
          rfl
      | true =>
          simp only [record, ↓reduceIte, sum_increment, List.length_cons]
          omega

end RecordAll

/-- Where kinds are listed once, an entry is what a look-up finds. -/
theorem Distinct.mem_iff_lookup
    {metrics : ScanMetrics}
    (distinct : metrics.Distinct)
    {kind : TokenKind}
    {count : Nat} :
    (kind, count) ∈ metrics.tokensByKind ↔
      metrics.tokensByKind.lookup kind = some count := by
  rw [List.lookup_eq_some_iff]
  constructor
  · intro member
    obtain ⟨above, below, shape⟩ := List.append_of_mem member
    refine ⟨above, below, shape, ?_⟩
    intro entry isAbove
    rw [Distinct, shape, List.map_append, List.map_cons] at distinct
    have apart := (List.nodup_append.mp distinct).2.2 entry.1 (List.mem_map_of_mem isAbove)
      kind List.mem_cons_self
    exact bne_iff_ne.mpr apart.symm
  · rintro ⟨above, below, shape, _⟩
    rw [shape]
    simp

theorem counted?_eq_some_iff
    {number count : Nat} :
    counted? number = some count ↔ 0 < count ∧ count = number := by
  cases number with
  | zero =>
      constructor
      · nofun
      · rintro ⟨positive, isZero⟩
        omega
  | succ number =>
      simp only [counted?, Option.some.injEq]
      omega

end ScanMetrics

namespace Scan

section Metrics

variable (limits : ScanLimits)
variable (detailed : Bool)
variable (lines : List Text)

theorem totalTokens_ofLines :
    (ofLines limits detailed lines).metrics.totalTokens =
      (ofLines limits detailed lines).tokens.length := by
  rw [ofLines_metrics, ScanMetrics.recordAll_totalTokens, List.length_map]
  exact Nat.zero_add _

theorem length_tokens_le :
    (ofLines limits detailed lines).tokens.length ≤ limits.maxTokenCount := by
  rw [ofLines_tokens, List.length_map, List.length_take]
  exact Nat.min_le_left _ _

theorem unknownLexemes_ofLines :
    (ofLines limits detailed lines).metrics.unknownLexemes =
      (Token.unknowns (ofLines limits detailed lines).tokens).length := by
  rw [ofLines_metrics, ScanMetrics.recordAll_unknownLexemes, Token.unknowns,
    ← List.countP_eq_length_filter, List.count, List.countP_map]
  exact Nat.zero_add _

theorem skippedLines_ofLines :
    (ofLines limits detailed lines).metrics.skippedLines =
      lines.length - (SourceLine.significant lines).length := by
  rw [ofLines_metrics, ScanMetrics.recordAll_skippedLines]
  rfl

theorem distinct_ofLines :
    (ofLines limits detailed lines).metrics.Distinct := by
  rw [ofLines_metrics]
  exact ScanMetrics.Distinct.recordAll detailed _ List.nodup_nil

/-- An entry of the counts by kind is a kind that occurs, with its number of tokens. -/
theorem mem_tokensByKind_iff
    {kind : TokenKind}
    {count : Nat} :
    (kind, count) ∈ (ofLines limits detailed lines).metrics.tokensByKind ↔
      0 < count ∧
        count =
          if detailed then
            (ofLines limits detailed lines).tokens.countP fun token => token.kind = kind
          else
            0 := by
  rw [(distinct_ofLines limits detailed lines).mem_iff_lookup, ofLines_metrics,
    ScanMetrics.lookup_recordAll, ← ScanMetrics.counted?_eq_some_iff, List.count,
    List.countP_map, ScanMetrics.initial, List.lookup_nil, Option.merge_none_left]
  rfl

theorem sum_tokensByKind :
    ScanMetrics.sum (ofLines limits detailed lines).metrics.tokensByKind =
      if detailed then (ofLines limits detailed lines).tokens.length else 0 := by
  rw [ofLines_metrics, ScanMetrics.sum_recordAll, List.length_map]
  exact Nat.zero_add _

/-- What a scan notes about the lexemes that it takes blames their unknown tokens. -/
theorem taken_errors_blamed :
    List.Forall₂ (Token.Blamed limits)
      (Token.unknowns (ofLines limits detailed lines).tokens)
      (((PlacedLexeme.ofLines lines).take limits.maxTokenCount).filterMap
        (PlacedLexeme.error? limits)) := by
  rw [ofLines_tokens]
  refine PlacedLexeme.errors_blamed limits ?_
  intro placed isTaken
  exact PlacedLexeme.exists_bounded (List.mem_of_mem_take isTaken)

end Metrics

/--
What a scan tells of its tokens: how many there are, of which kinds, how many
lines were skipped, and what is wrong with the tokens of the unknown kind.
-/
structure Accounts
    (limits : ScanLimits)
    (detailed : Bool)
    (lines : List Text)
    (scan : Scan) :
    Prop where
  total :
    scan.metrics.totalTokens = scan.tokens.length
  withinLimit :
    scan.tokens.length ≤ limits.maxTokenCount
  unknown :
    scan.metrics.unknownLexemes = (Token.unknowns scan.tokens).length
  skipped :
    scan.metrics.skippedLines + (SourceLine.significant lines).length = lines.length
  oneEntryEach :
    (scan.metrics.tokensByKind.map fun entry => entry.1.label).Nodup
  entries :
    detailed = true →
    ∀ kind count,
      (kind, count) ∈ scan.metrics.tokensByKind ↔
        0 < count ∧ count = scan.tokens.countP fun token => token.kind = kind
  entriesSum :
    detailed = true →
    ScanMetrics.sum scan.metrics.tokensByKind = scan.metrics.totalTokens
  noEntries :
    detailed = false →
    scan.metrics.tokensByKind = []
  told :
    ∃ blames ending,
      scan.errors = blames ++ ending ∧
        scan.diagnostics = (blames ++ ending).map LexicalError.toDiagnostic ∧
          List.Forall₂ (Token.Blamed limits) (Token.unknowns scan.tokens) blames ∧
            (ending = [] ∨ ∃ line, ending = [.tooManyTokens line limits.maxTokenCount])

/-- Every scan accounts for its tokens, under all limits. -/
theorem accounts_ofLines
    (limits : ScanLimits)
    (detailed : Bool)
    (lines : List Text) :
    Accounts limits detailed lines (ofLines limits detailed lines) where
  total := totalTokens_ofLines limits detailed lines
  withinLimit := length_tokens_le limits detailed lines
  unknown := unknownLexemes_ofLines limits detailed lines
  skipped := by
    rw [skippedLines_ofLines]
    exact Nat.sub_add_cancel (SourceLine.length_significant_le lines)
  oneEntryEach := by
    have distinct := distinct_ofLines limits detailed lines
    have labels := distinct.map TokenKind.label_injective
    rwa [List.map_map] at labels
  entries := by
    rintro rfl kind count
    exact mem_tokensByKind_iff limits true lines
  entriesSum := by
    rintro rfl
    rw [sum_tokensByKind, totalTokens_ofLines]
    rfl
  noEntries := by
    rintro rfl
    rw [List.eq_nil_iff_forall_not_mem]
    rintro ⟨kind, count⟩ member
    obtain ⟨positive, isZero⟩ := (mem_tokensByKind_iff limits false lines).mp member
    exact absurd isZero (Nat.ne_of_gt positive)
  told := by
    refine ⟨_, _, ofLines_errors limits detailed lines, ?_,
      taken_errors_blamed limits detailed lines, ?_⟩
    · rw [diagnostics, ofLines_errors]
    · cases (PlacedLexeme.ofLines lines).drop limits.maxTokenCount with
      | nil =>
          exact .inl rfl
      | cons left rest =>
          exact .inr ⟨left.line, rfl⟩

-- The limit stops a scan behind a lexeme that is too long and an unknown one.
example :
    (ofLines { maxLexemeLength := 4, maxTokenCount := 3 } true
        ["state $$".toList, [], "end;".toList]) =
      { tokens :=
          [{ line := 1, lexeme := "state", kind := .unknown },
           { line := 1, lexeme := "$$", kind := .unknown },
           { line := 3, lexeme := "end", kind := .keyword .finish }]
        errors :=
          [.lexemeTooLong 1 5 4, .unknownLexeme 1 "$$", .tooManyTokens 3 3]
        metrics :=
          { totalTokens := 3
            unknownLexemes := 2
            skippedLines := 1
            tokensByKind := [(.unknown, 2), (.keyword .finish, 1)] } } := by
  decide +kernel

end Scan

end Smsl
