import Smsl.Proofs.ScanAccounts

namespace Smsl

/-!
# Scans cut short by the token limit

A scan under a token limit is compared with a scan of the same unit that no
limit stops.  Both make the same tokens and errors of the lexemes that they
take, so the limited scan is a prefix of the other one, with one more error at
the first token that is missing.
-/

theorem LexicalError.code_eq_tooManyTokens_iff
    {error : LexicalError} :
    error.code = Code.tooManyTokens ↔ ∃ line max, error = .tooManyTokens line max := by
  cases error with
  | unknownLexeme =>
      simp [code, Code.unknownLexeme, Code.tooManyTokens]
  | lexemeTooLong =>
      simp [code, Code.lexemeTooLong, Code.tooManyTokens]
  | tooManyTokens =>
      simp [code]

namespace Scan

/-- A scan shows the code of the token limit exactly if the limit stopped it. -/
theorem exists_limit_diagnostic_iff
    {scan : Scan} :
    (∃ diagnostic ∈ scan.diagnostics, diagnostic.code = Code.tooManyTokens) ↔
      ¬ scan.Complete := by
  constructor
  · rintro ⟨diagnostic, member, isCode⟩ complete
    obtain ⟨error, isError, rfl⟩ := List.mem_map.mp member
    obtain ⟨line, max, rfl⟩ := LexicalError.code_eq_tooManyTokens_iff.mp isCode
    exact complete line max isError
  · intro stopped
    by_contra noDiagnostic
    apply stopped
    intro line max isError
    exact noDiagnostic ⟨_, List.mem_map_of_mem isError, rfl⟩

/--
A scan that is another one up to a token limit.  Behind the errors of the tokens
that are kept, it has one error for the first token that is not, if there is one.
-/
structure Truncates
    (limits : ScanLimits)
    (whole part : Scan) :
    Prop where
  tokens :
    part.tokens = whole.tokens.take limits.maxTokenCount
  stopped_iff :
    (∃ diagnostic ∈ part.diagnostics, diagnostic.code = Code.tooManyTokens) ↔
      limits.maxTokenCount < whole.tokens.length
  told :
    ∃ told stop,
      part.errors = told ++ stop ∧
        part.diagnostics = (told ++ stop).map LexicalError.toDiagnostic ∧
          told <+: whole.errors ∧
            List.Forall₂ (Token.Blamed limits)
              (Token.unknowns (whole.tokens.take limits.maxTokenCount)) told ∧
              (∀ error ∈ told, error.code ≠ Code.tooManyTokens) ∧
                stop =
                  (whole.tokens[limits.maxTokenCount]?.map fun next =>
                    .tooManyTokens next.line limits.maxTokenCount).toList
  totalTokens :
    part.metrics.totalTokens = (whole.tokens.take limits.maxTokenCount).length
  unknownLexemes :
    part.metrics.unknownLexemes =
      (Token.unknowns (whole.tokens.take limits.maxTokenCount)).length
  skippedLines :
    part.metrics.skippedLines = whole.metrics.skippedLines

section Limited

variable {maxLexemeLength enough : Nat}
variable {detailed : Bool}
variable {lines : List Text}
variable
  (complete :
    (ofLines { maxLexemeLength, maxTokenCount := enough } detailed lines).Complete)
variable (limit : Nat)

include complete

theorem Complete.tokens_take :
    (ofLines { maxLexemeLength, maxTokenCount := limit } detailed lines).tokens =
      (ofLines { maxLexemeLength, maxTokenCount := enough } detailed lines).tokens.take
        limit := by
  rw [ofLines_tokens, complete.tokens_eq, ← List.map_take]
  rfl

theorem Complete.stopped_iff :
    ¬ (ofLines { maxLexemeLength, maxTokenCount := limit } detailed lines).Complete ↔
      limit <
        (ofLines { maxLexemeLength, maxTokenCount := enough } detailed lines).tokens.length := by
  rw [complete_iff, complete.tokens_eq, List.length_map, Nat.not_le]

/-- The lexeme that stops a limited scan gives the first token that it lacks. -/
theorem Complete.stop_eq :
    ((PlacedLexeme.ofLines lines).drop limit).head?.toList.map
        (fun left => LexicalError.tooManyTokens left.line limit) =
      ((ofLines { maxLexemeLength, maxTokenCount := enough } detailed lines).tokens[limit]?.map
        fun next => LexicalError.tooManyTokens next.line limit).toList := by
  rw [complete.tokens_eq, List.getElem?_map, List.head?_drop, Option.map_map]
  cases (PlacedLexeme.ofLines lines)[limit]? with
  | none =>
      rfl
  | some left =>
      rfl

end Limited

/--
A scan under a token limit has the first tokens of the scan that no limit stops,
with their errors and their counts.  It tells of the limit exactly if a token is
missing, once and last, at the line of the first one that is.
-/
theorem limited_scan_truncates
    (maxLexemeLength enough limit : Nat)
    (detailed : Bool)
    (lines : List Text)
    (complete :
      (ofLines { maxLexemeLength, maxTokenCount := enough } detailed lines).Complete) :
    Truncates { maxLexemeLength, maxTokenCount := limit }
      (ofLines { maxLexemeLength, maxTokenCount := enough } detailed lines)
      (ofLines { maxLexemeLength, maxTokenCount := limit } detailed lines) where
  tokens := complete.tokens_take limit
  stopped_iff := exists_limit_diagnostic_iff.trans (complete.stopped_iff limit)
  told := by
    refine ⟨_, _, ofLines_errors _ detailed lines, ?_, ?_, ?_, ?_, complete.stop_eq limit⟩
    · rw [diagnostics, ofLines_errors]
    · rw [complete.errors_eq]
      exact (List.take_prefix limit (PlacedLexeme.ofLines lines)).filterMap _
    · rw [← complete.tokens_take limit]
      exact taken_errors_blamed _ detailed lines
    · intro error member sameCode
      obtain ⟨line, max, rfl⟩ := LexicalError.code_eq_tooManyTokens_iff.mp sameCode
      obtain ⟨placed, _, isError⟩ := List.mem_filterMap.mp member
      exact PlacedLexeme.error?_ne_tooManyTokens isError
  totalTokens := by
    rw [totalTokens_ofLines, complete.tokens_take limit]
  unknownLexemes := by
    rw [unknownLexemes_ofLines, complete.tokens_take limit]
  skippedLines := by
    rw [skippedLines_ofLines, skippedLines_ofLines]

/-- A limit that is reached with the last token of a line, before a line that is skipped. -/
theorem limited_scan_truncates_of_full_line :
    (ofLines { maxLexemeLength := 5, maxTokenCount := 6 } true
        ["state $ \x7b".toList, "// a".toList, "@ action; ".toList]).Complete ∧
      Truncates { maxLexemeLength := 5, maxTokenCount := 3 }
        (ofLines { maxLexemeLength := 5, maxTokenCount := 6 } true
          ["state $ \x7b".toList, "// a".toList, "@ action; ".toList])
        (ofLines { maxLexemeLength := 5, maxTokenCount := 3 } true
          ["state $ \x7b".toList, "// a".toList, "@ action; ".toList]) ∧
      (ofLines { maxLexemeLength := 5, maxTokenCount := 3 } true
          ["state $ \x7b".toList, "// a".toList, "@ action; ".toList]).errors =
        [.unknownLexeme 1 "$", .tooManyTokens 3 3] := by
  have complete :
      (ofLines { maxLexemeLength := 5, maxTokenCount := 6 } true
        ["state $ \x7b".toList, "// a".toList, "@ action; ".toList]).Complete :=
    complete_iff.mpr (by decide +kernel)
  refine ⟨complete, limited_scan_truncates 5 6 3 true _ complete, ?_⟩
  decide +kernel

end Scan

end Smsl
