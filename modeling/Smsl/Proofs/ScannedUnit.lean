import Mathlib.Data.List.Forall2
import Smsl.Proofs.Segmentation
import Smsl.Proofs.SignificantLines

namespace Smsl

/-!
# Tokens of a scanned unit

A scan takes the lexemes of all significant lines in order, as many as the token
limit allows.  When the limit stops nothing, the tokens of each raw line are the
lexemes of its only segmentation, each under the kind that its text calls for.
-/

namespace ScanState

/-- A scan makes tokens of as many lexemes as the limit leaves room for. -/
theorem run_tokens
    (limits : ScanLimits)
    (detailed : Bool)
    (state : ScanState)
    (placed : List PlacedLexeme) :
    (run limits detailed state placed).tokens.toList =
      state.tokens.toList ++
        (placed.take (limits.maxTokenCount - state.tokens.size)).map
          (PlacedLexeme.toToken limits) := by
  induction placed generalizing state with
  | nil =>
      simp [run]
  | cons next rest inductionHypothesis =>
      by_cases full : limits.maxTokenCount ≤ state.tokens.size
      · simp [run, full, Nat.sub_eq_zero_of_le full]
      · have room :
            limits.maxTokenCount - state.tokens.size =
              limits.maxTokenCount - (state.tokens.size + 1) + 1 := by
          omega
        simp only [run, full, ↓reduceIte, inductionHypothesis]
        rw [room]
        simp [push]

/-- A scan notes what is wrong with each lexeme taken, then that one was left over. -/
theorem run_errors
    (limits : ScanLimits)
    (detailed : Bool)
    (state : ScanState)
    (placed : List PlacedLexeme) :
    (run limits detailed state placed).errors.toList =
      state.errors.toList ++
        (placed.take (limits.maxTokenCount - state.tokens.size)).filterMap
          (PlacedLexeme.error? limits) ++
        (placed.drop (limits.maxTokenCount - state.tokens.size)).head?.toList.map
          (fun left => .tooManyTokens left.line limits.maxTokenCount) := by
  induction placed generalizing state with
  | nil =>
      simp [run]
  | cons next rest inductionHypothesis =>
      by_cases full : limits.maxTokenCount ≤ state.tokens.size
      · simp [run, full, Nat.sub_eq_zero_of_le full]
      · have room :
            limits.maxTokenCount - state.tokens.size =
              limits.maxTokenCount - (state.tokens.size + 1) + 1 := by
          omega
        simp only [run, full, ↓reduceIte, inductionHypothesis]
        rw [room]
        cases wrong : next.error? limits with
        | none =>
            simp [push, wrong]
        | some error =>
            simp [push, wrong]

end ScanState

namespace PlacedLexeme

/-- The lexemes of all significant lines of a unit. -/
def ofLines (lines : List Text) : List PlacedLexeme :=
  (SourceLine.significant lines).flatMap ofLine

/-- No lexeme is wrong in the way that the token limit is. -/
theorem error?_ne_tooManyTokens
    {limits : ScanLimits}
    {placed : PlacedLexeme}
    {line max : Nat} :
    placed.error? limits ≠ some (.tooManyTokens line max) := by
  simp only [error?]
  split_ifs <;> simp

end PlacedLexeme

namespace Scan

/-- The token limit stopped nothing. -/
def Complete (scan : Scan) : Prop :=
  ∀ line max, LexicalError.tooManyTokens line max ∉ scan.errors

theorem ofLines_tokens
    (limits : ScanLimits)
    (detailed : Bool)
    (lines : List Text) :
    (ofLines limits detailed lines).tokens =
      ((PlacedLexeme.ofLines lines).take limits.maxTokenCount).map
        (PlacedLexeme.toToken limits) := by
  simp [ofLines, ScanState.run_tokens, PlacedLexeme.ofLines]

theorem ofLines_errors
    (limits : ScanLimits)
    (detailed : Bool)
    (lines : List Text) :
    (ofLines limits detailed lines).errors =
      ((PlacedLexeme.ofLines lines).take limits.maxTokenCount).filterMap
          (PlacedLexeme.error? limits) ++
        ((PlacedLexeme.ofLines lines).drop limits.maxTokenCount).head?.toList.map
          (fun left => .tooManyTokens left.line limits.maxTokenCount) := by
  simp [ofLines, ScanState.run_errors, PlacedLexeme.ofLines]

/-- The limit stops nothing exactly when it allows a token for every lexeme. -/
theorem complete_iff
    {limits : ScanLimits}
    {detailed : Bool}
    {lines : List Text} :
    (ofLines limits detailed lines).Complete ↔
      (PlacedLexeme.ofLines lines).length ≤ limits.maxTokenCount := by
  constructor
  · intro complete
    by_contra tooMany
    cases left : (PlacedLexeme.ofLines lines).drop limits.maxTokenCount with
    | nil =>
        exact tooMany (List.drop_eq_nil_iff.mp left)
    | cons next rest =>
        apply complete next.line limits.maxTokenCount
        simp [ofLines_errors, left]
  · intro fits line max member
    rw [ofLines_errors, List.drop_eq_nil_of_le fits] at member
    simp only [List.head?_nil, Option.toList_none, List.map_nil, List.append_nil,
      List.mem_filterMap] at member
    obtain ⟨placed, _, wrong⟩ := member
    exact PlacedLexeme.error?_ne_tooManyTokens wrong

/-- A scan that the limit did not stop has a token for every lexeme. -/
theorem Complete.tokens_eq
    {limits : ScanLimits}
    {detailed : Bool}
    {lines : List Text}
    (complete : (ofLines limits detailed lines).Complete) :
    (ofLines limits detailed lines).tokens =
      (PlacedLexeme.ofLines lines).map (PlacedLexeme.toToken limits) := by
  rw [ofLines_tokens, List.take_of_length_le (complete_iff.mp complete)]

end Scan

namespace PlacedLexeme

/-- Picking the lexemes of a number picks the lines of that number. -/
theorem filter_line_flatMap
    (number : Nat)
    (lines : List SourceLine) :
    (lines.flatMap ofLine).filter (fun placed => placed.line = number) =
      (lines.filter fun line => line.number = number).flatMap ofLine := by
  induction lines with
  | nil =>
      rfl
  | cons line rest inductionHypothesis =>
      rw [List.flatMap_cons, List.filter_append, inductionHypothesis]
      by_cases sameNumber : line.number = number
      · simp [ofLine, sameNumber]
      · simp [ofLine, sameNumber]

/-- The lexemes of a line number are those of the raw line that it counts. -/
theorem filter_line_ofLines
    {lines : List Text}
    {index : Nat}
    {raw : Text}
    (found : lines[index]? = some raw) :
    (ofLines lines).filter (fun placed => placed.line = index + 1) =
      (Lexeme.ofText (SourceLine.sanitize raw)).map
        (fun lexeme => { line := index + 1, lexeme }) := by
  have numbered := SourceLine.filter_number_significantFrom 1 found
  rw [Nat.add_comm 1 index, ← SourceLine.significant_eq_from] at numbered
  rw [ofLines, filter_line_flatMap, numbered]
  cases isLine : SourceLine.ofRaw? raw (index + 1) with
  | none =>
      have empty : SourceLine.sanitize raw = [] :=
        SourceLine.ofRaw?_eq_none_iff.mp isLine
      rw [empty, Lexeme.ofText_of_allBlank Text.allBlank_nil]
      rfl
  | some line =>
      rw [(SourceLine.ofRaw?_eq_some_iff.mp isLine).2]
      simp [ofLine]

/-- A token stays on the line of its lexeme. -/
theorem filter_line_map_toToken
    (limits : ScanLimits)
    (number : Nat)
    (placed : List PlacedLexeme) :
    (placed.map (toToken limits)).filter (fun token => token.line = number) =
      (placed.filter fun lexeme => lexeme.line = number).map (toToken limits) := by
  rw [List.filter_map]
  rfl

end PlacedLexeme

namespace Pattern

/-- The kind of a lexeme of a pattern that is not a keyword. -/
def plainKind : Pattern → TokenKind
  | .word => .identifier
  | .number => .number
  | .quoted => .string
  | .arrow => .symbol
  | .punctuation => .symbol

end Pattern

namespace Keyword

/-- Looking a word up finds the keyword that is spelled like it. -/
theorem ofSpelling?_eq_some_iff
    {word : String}
    {keyword : Keyword} :
    ofSpelling? word = some keyword ↔ word = keyword.spelling := by
  constructor
  · intro found
    have spelled := List.find?_some found
    simp only [decide_eq_true_eq] at spelled
    exact spelled.symm
  · rintro rfl
    cases keyword <;> rfl

/-- A keyword is a word. -/
theorem spelling_matches (keyword : Keyword) :
    Pattern.word.Matches keyword.spelling.toList := by
  cases keyword <;> exact .word (by decide) (List.all_eq_true.mp (by decide))

end Keyword

namespace Lexeme

/-- The token that a lexeme stands for under the limits. -/
structure Classified
    (limits : ScanLimits)
    (lexeme : Lexeme)
    (token : Token) :
    Prop where
  text :
    token.lexeme = String.ofList lexeme.text
  keyword :
    ∀ pattern word,
      lexeme.pattern = some pattern →
      lexeme.text.length ≤ limits.maxLexemeLength →
      lexeme.text = word.spelling.toList →
      token.kind = .keyword word
  plain :
    ∀ pattern,
      lexeme.pattern = some pattern →
      lexeme.text.length ≤ limits.maxLexemeLength →
      (∀ word : Keyword, lexeme.text ≠ word.spelling.toList) →
      token.kind = pattern.plainKind
  tooLong :
    ∀ pattern,
      lexeme.pattern = some pattern →
      limits.maxLexemeLength < lexeme.text.length →
      token.kind = .unknown
  unmatched :
    lexeme.pattern = none →
    token.kind = .unknown

/-- The pattern of a lexeme in a segmentation matches its text. -/
theorem Segmentation.pattern_matches
    {text : Text}
    {lexemes : List Lexeme}
    (segmentation : Segmentation text lexemes)
    {lexeme : Lexeme}
    (member : lexeme ∈ lexemes)
    {pattern : Pattern}
    (isPattern : lexeme.pattern = some pattern) :
    pattern.Matches lexeme.text := by
  obtain ⟨_, _, _, bounded⟩ := segmentation.exists_place member
  simp only [Bounded, isPattern] at bounded
  exact bounded.1

/-- The kind of a lexeme whose pattern matches its text. -/
theorem kind_of_pattern
    {lexeme : Lexeme}
    {pattern : Pattern}
    (isPattern : lexeme.pattern = some pattern)
    (matched : pattern.Matches lexeme.text) :
    (∀ word : Keyword, lexeme.text = word.spelling.toList → lexeme.kind = .keyword word) ∧
      ((∀ word : Keyword, lexeme.text ≠ word.spelling.toList) →
        lexeme.kind = pattern.plainKind) := by
  constructor
  · intro word spelled
    have isWord : pattern = .word :=
      matched.unique (spelled ▸ word.spelling_matches)
    have found : Keyword.ofSpelling? (String.ofList lexeme.text) = some word := by
      rw [Keyword.ofSpelling?_eq_some_iff, spelled, String.ofList_toList]
    simp [kind, isPattern, isWord, found]
  · intro notKeyword
    cases pattern with
    | word =>
        have missing : Keyword.ofSpelling? (String.ofList lexeme.text) = none := by
          rw [Option.eq_none_iff_forall_ne_some]
          intro word found
          apply notKeyword word
          rw [← Keyword.ofSpelling?_eq_some_iff.mp found, String.toList_ofList]
        simp [kind, isPattern, missing, Pattern.plainKind]
    | number | quoted | arrow | punctuation =>
        simp [kind, isPattern, Pattern.plainKind]

/-- A lexeme of a segmentation is scanned as the token that it stands for. -/
theorem toToken_classified
    (limits : ScanLimits)
    (line : Nat)
    {lexeme : Lexeme}
    (matched : ∀ pattern, lexeme.pattern = some pattern → pattern.Matches lexeme.text) :
    Classified limits lexeme
      (PlacedLexeme.toToken limits { line, lexeme }) := by
  refine ⟨rfl, ?_, ?_, ?_, ?_⟩
  · intro pattern word isPattern fits spelled
    have kinds := kind_of_pattern isPattern (matched pattern isPattern)
    simp [PlacedLexeme.toToken, PlacedLexeme.error?, isPattern, Nat.not_lt.mpr fits,
      kinds.1 word spelled]
  · intro pattern isPattern fits notKeyword
    have kinds := kind_of_pattern isPattern (matched pattern isPattern)
    simp [PlacedLexeme.toToken, PlacedLexeme.error?, isPattern, Nat.not_lt.mpr fits,
      kinds.2 notKeyword]
  · intro pattern isPattern tooLong
    simp [PlacedLexeme.toToken, PlacedLexeme.error?, isPattern, tooLong]
  · intro isPattern
    simp [PlacedLexeme.toToken, PlacedLexeme.error?, isPattern]

end Lexeme

namespace Scan

/--
When the token limit stops nothing, the tokens of every raw line of a unit are
the lexemes of a segmentation of its sanitized text, each classified by its
text, and the text has no other segmentation.
-/
theorem tokens_form_only_segmentation
    (limits : ScanLimits)
    (detailed : Bool)
    (lines : List Text)
    (complete : (ofLines limits detailed lines).Complete)
    (index : Nat)
    (raw : Text)
    (found : lines[index]? = some raw) :
    ∃ lexemes,
      Lexeme.Segmentation (SourceLine.sanitize raw) lexemes ∧
        List.Forall₂ (Lexeme.Classified limits) lexemes
          ((ofLines limits detailed lines).tokens.filter
            fun token => token.line = index + 1) ∧
          ∀ others,
            Lexeme.Segmentation (SourceLine.sanitize raw) others →
            others = lexemes := by
  have segmentation := Lexeme.segmentation_ofText (SourceLine.sanitize raw)
  refine ⟨Lexeme.ofText (SourceLine.sanitize raw), segmentation, ?_, ?_⟩
  · have tokensOfLine :
        (ofLines limits detailed lines).tokens.filter
            (fun token => token.line = index + 1) =
          (Lexeme.ofText (SourceLine.sanitize raw)).map
            (fun lexeme =>
              PlacedLexeme.toToken limits { line := index + 1, lexeme }) := by
      rw [complete.tokens_eq, PlacedLexeme.filter_line_map_toToken,
        PlacedLexeme.filter_line_ofLines found, List.map_map]
      rfl
    rw [tokensOfLine, List.forall₂_map_right_iff, List.forall₂_same]
    intro lexeme member
    exact Lexeme.toToken_classified limits (index + 1)
      (fun _ isPattern => segmentation.pattern_matches member isPattern)
  · intro others otherSegmentation
    exact otherSegmentation.eq_ofText

/-- A line with every kind of lexeme, under limits that it just meets. -/
theorem tokens_form_only_segmentation_of_mixed_line :
    (ofLines { maxLexemeLength := 3, maxTokenCount := 6 } true
        ["a1 -- \x22x y\x22->\x27b // c".toList]).Complete ∧
      ∃ lexemes,
        Lexeme.Segmentation
            (SourceLine.sanitize "a1 -- \x22x y\x22->\x27b // c".toList) lexemes ∧
          List.Forall₂
            (Lexeme.Classified { maxLexemeLength := 3, maxTokenCount := 6 }) lexemes
            ((ofLines { maxLexemeLength := 3, maxTokenCount := 6 } true
              ["a1 -- \x22x y\x22->\x27b // c".toList]).tokens.filter
                fun token => token.line = 0 + 1) ∧
            ∀ others,
              Lexeme.Segmentation
                (SourceLine.sanitize "a1 -- \x22x y\x22->\x27b // c".toList) others →
              others = lexemes := by
  have complete :
      (ofLines { maxLexemeLength := 3, maxTokenCount := 6 } true
        ["a1 -- \x22x y\x22->\x27b // c".toList]).Complete :=
    complete_iff.mpr (by decide +kernel)
  exact ⟨complete, tokens_form_only_segmentation _ _ _ complete 0 _ rfl⟩

end Scan

end Smsl
