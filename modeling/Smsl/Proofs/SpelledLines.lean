import Smsl.Proofs.TokenGroups
import Smsl.Proofs.WrittenLexemes

namespace Smsl

/-!
# Lines spelled by their tokens

The tokens of a scan that the limit did not stop hold all the text of the
significant lines.  Put back in order, with blanks or nothing around them, the
lexemes of a line spell it, and a blank inside a lexeme stands in quotes.
-/

/-- Lexemes in order, with blanks or nothing in front of, between and behind them. -/
def Text.SpelledBy
    (text : Text)
    (lexemes : List Text) :
    Prop :=
  ∃ (leading : Text) (gaps : List Text),
    AllBlank leading ∧
      (∀ gap ∈ gaps, AllBlank gap) ∧
        gaps.length = lexemes.length ∧
          text = leading ++ (List.zipWith (· ++ ·) lexemes gaps).flatten

/-- Of all patterns only that of quoted strings lets a blank in. -/
theorem Pattern.Matches.eq_quoted_of_blank
    {pattern : Pattern}
    {lexeme : Text}
    (matched : Matches pattern lexeme)
    {blank : Char}
    (member : blank ∈ lexeme)
    (isBlank : Text.isBlank blank = true) :
    pattern = .quoted := by
  have visible : Text.isBlank blank = false → pattern = .quoted := by
    intro notBlank
    rw [isBlank] at notBlank
    cases notBlank
  cases matched with
  | word starts inside =>
      exact visible ((Matches.word starts inside).noBlank blank member)
  | number digit inside =>
      apply visible
      have isDigit : blank.isDigit = true := by
        rcases List.mem_cons.mp member with rfl | later
        · exact digit
        · exact inside blank later
      rw [isDigit_iff_toNat] at isDigit
      exact isBlank_eq_false_of_visible (by omega) (by omega)
  | quoted =>
      rfl
  | arrow =>
      apply visible
      rcases List.mem_pair.mp member with rfl | rfl
      · decide
      · decide
  | punctuation isSymbol =>
      apply visible
      obtain rfl := List.mem_singleton.mp member
      exact (Matches.punctuation isSymbol).first_not_blank

namespace Lexeme

/-- The lexemes of a segmentation spell the text. -/
theorem Segmentation.spelledBy
    {text : Text}
    {lexemes : List Lexeme}
    (segmentation : Segmentation text lexemes) :
    Text.SpelledBy text (lexemes.map Lexeme.text) := by
  induction segmentation with
  | @blank gap allBlank =>
      refine ⟨gap, [], allBlank, ?_, rfl, ?_⟩
      · intro other member
        cases member
      · exact (List.append_nil gap).symm
  | @lexeme gap rest first _ allBlank _ _ inductionHypothesis =>
      obtain ⟨leading, gaps, leadingBlank, gapsBlank, sameLength, shape⟩ := inductionHypothesis
      refine ⟨gap, leading :: gaps, allBlank, ?_, ?_, ?_⟩
      · intro other member
        rcases List.mem_cons.mp member with rfl | later
        · exact leadingBlank
        · exact gapsBlank other later
      · simpa using sameLength
      · rw [shape]
        simp

/-- A lexeme in its place that holds a blank is a quoted string. -/
theorem Bounded.quoted_of_blank
    {lexeme : Lexeme}
    {rest : Text}
    (bounded : lexeme.Bounded rest)
    {blank : Char}
    (member : blank ∈ lexeme.text)
    (isBlank : Text.isBlank blank = true) :
    Pattern.quoted.Matches lexeme.text := by
  obtain ⟨text, pattern⟩ := lexeme
  cases pattern with
  | some pattern =>
      have matched : pattern.Matches text := bounded.1
      obtain rfl := matched.eq_quoted_of_blank member isBlank
      exact matched
  | none =>
      have unmatched : Unmatched text rest := bounded
      have notBlank := unmatched.notBlank blank member
      rw [isBlank] at notBlank
      cases notBlank

end Lexeme

namespace PlacedLexeme

/-- Every lexeme of a unit comes from one of its significant lines. -/
theorem exists_line
    {lines : List Text}
    {placed : PlacedLexeme}
    (member : placed ∈ ofLines lines) :
    ∃ line ∈ SourceLine.significant lines,
      placed.line = line.number ∧ placed.lexeme ∈ Lexeme.ofText line.text := by
  obtain ⟨line, isLine, inLine⟩ := List.mem_flatMap.mp member
  obtain ⟨lexeme, isLexeme, rfl⟩ := List.mem_map.mp inLine
  exact ⟨line, isLine, rfl, isLexeme⟩

/-- Every lexeme of a unit obeys its boundary rule. -/
theorem exists_bounded
    {lines : List Text}
    {placed : PlacedLexeme}
    (member : placed ∈ ofLines lines) :
    ∃ rest, placed.lexeme.Bounded rest := by
  obtain ⟨line, _, _, isLexeme⟩ := exists_line member
  obtain ⟨_, rest, _, bounded⟩ :=
    (Lexeme.segmentation_ofText line.text).exists_place isLexeme
  exact ⟨rest, bounded⟩

end PlacedLexeme

namespace Scan

/-- Every token of a scan stands for a lexeme of the unit. -/
theorem exists_placed
    {limits : ScanLimits}
    {detailed : Bool}
    {lines : List Text}
    {token : Token}
    (member : token ∈ (ofLines limits detailed lines).tokens) :
    ∃ placed ∈ PlacedLexeme.ofLines lines, placed.toToken limits = token := by
  rw [ofLines_tokens] at member
  obtain ⟨placed, isTaken, isToken⟩ := List.mem_map.mp member
  exact ⟨placed, List.mem_of_mem_take isTaken, isToken⟩

/-- A scan that the limit did not stop has the lexemes of a significant line under its number. -/
theorem Complete.tokens_of_line
    {limits : ScanLimits}
    {detailed : Bool}
    {lines : List Text}
    (complete : (ofLines limits detailed lines).Complete)
    {line : SourceLine}
    (isLine : line ∈ SourceLine.significant lines) :
    (ofLines limits detailed lines).tokens.filter (fun token => token.line = line.number) =
      (PlacedLexeme.ofLine line).map (PlacedLexeme.toToken limits) := by
  obtain ⟨index, raw, found, isSignificant⟩ := SourceLine.mem_significant_iff.mp isLine
  obtain ⟨_, rfl⟩ := SourceLine.ofRaw?_eq_some_iff.mp isSignificant
  rw [complete.tokens_eq, PlacedLexeme.filter_line_map_toToken,
    PlacedLexeme.filter_line_ofLines found]
  rfl

/-- Tokens that hold the text of the significant lines of a unit, whole and in order. -/
structure SpellsLines
    (lines : List Text)
    (tokens : List Token) :
    Prop where
  inOrder :
    tokens.Pairwise fun first second => first.line ≤ second.line
  lineHasToken_iff :
    ∀ number,
      (∃ token ∈ tokens, token.line = number) ↔
        ∃ line ∈ SourceLine.significant lines, line.number = number
  nonempty :
    ∀ token ∈ tokens, token.lexeme ≠ ""
  spelled :
    ∀ line ∈ SourceLine.significant lines,
      Text.SpelledBy line.text
        ((tokens.filter fun token => token.line = line.number).map
          fun token => token.lexeme.toList)
  blanksQuoted :
    ∀ token ∈ tokens,
      ∀ character ∈ token.lexeme.toList,
        Text.isBlank character = true →
        Pattern.quoted.Matches token.lexeme.toList

section Lines

variable {limits : ScanLimits}
variable {detailed : Bool}
variable {lines : List Text}

theorem Complete.spelled
    (complete : (ofLines limits detailed lines).Complete)
    {line : SourceLine}
    (isLine : line ∈ SourceLine.significant lines) :
    Text.SpelledBy line.text
      (((ofLines limits detailed lines).tokens.filter
        fun token => token.line = line.number).map fun token => token.lexeme.toList) := by
  have lexemes :
      ((PlacedLexeme.ofLine line).map (PlacedLexeme.toToken limits)).map
          (fun token => token.lexeme.toList) =
        (Lexeme.ofText line.text).map Lexeme.text := by
    rw [PlacedLexeme.ofLine, List.map_map, List.map_map]
    exact List.map_congr_left fun lexeme _ => String.toList_ofList
  rw [complete.tokens_of_line isLine, lexemes]
  exact (Lexeme.segmentation_ofText line.text).spelledBy

/-- A significant line has a token, since blanks alone do not spell it. -/
theorem Complete.exists_token
    (complete : (ofLines limits detailed lines).Complete)
    {line : SourceLine}
    (isLine : line ∈ SourceLine.significant lines) :
    ∃ token ∈ (ofLines limits detailed lines).tokens, token.line = line.number := by
  by_contra noToken
  have nothing :
      (ofLines limits detailed lines).tokens.filter
        (fun token => token.line = line.number) = [] := by
    rw [List.filter_eq_nil_iff]
    intro token member isThere
    exact noToken ⟨token, member, of_decide_eq_true isThere⟩
  have spelled := complete.spelled isLine
  rw [nothing] at spelled
  obtain ⟨leading, gaps, leadingBlank, _, _, shape⟩ := spelled
  obtain ⟨index, raw, _, isSignificant⟩ := SourceLine.mem_significant_iff.mp isLine
  obtain ⟨first, rest, begins, notBlank⟩ := SourceLine.begins_of_ofRaw? isSignificant
  have inLeading : first ∈ leading := by
    have whole : line.text = leading := by simpa using shape
    rw [← whole, begins]
    exact List.mem_cons_self
  have isBlank := leadingBlank first inLeading
  rw [notBlank] at isBlank
  cases isBlank

theorem exists_line_of_token
    {token : Token}
    (member : token ∈ (ofLines limits detailed lines).tokens) :
    ∃ line ∈ SourceLine.significant lines, line.number = token.line := by
  obtain ⟨placed, isPlaced, rfl⟩ := exists_placed member
  obtain ⟨line, isLine, isNumber, _⟩ := PlacedLexeme.exists_line isPlaced
  exact ⟨line, isLine, isNumber.symm⟩

theorem lexeme_ne_empty
    {token : Token}
    (member : token ∈ (ofLines limits detailed lines).tokens) :
    token.lexeme ≠ "" := by
  obtain ⟨placed, isPlaced, rfl⟩ := exists_placed member
  obtain ⟨rest, bounded⟩ := PlacedLexeme.exists_bounded isPlaced
  obtain ⟨first, tail, shape, _⟩ := bounded.begins
  intro empty
  have noText : (PlacedLexeme.toToken limits placed).lexeme.toList = [] := by
    rw [empty]
    rfl
  rw [PlacedLexeme.toToken, String.toList_ofList, shape] at noText
  cases noText

theorem quoted_of_blank
    {token : Token}
    (member : token ∈ (ofLines limits detailed lines).tokens)
    {character : Char}
    (inLexeme : character ∈ token.lexeme.toList)
    (isBlank : Text.isBlank character = true) :
    Pattern.quoted.Matches token.lexeme.toList := by
  obtain ⟨placed, isPlaced, rfl⟩ := exists_placed member
  obtain ⟨rest, bounded⟩ := PlacedLexeme.exists_bounded isPlaced
  rw [PlacedLexeme.toToken, String.toList_ofList] at inLexeme ⊢
  exact bounded.quoted_of_blank inLexeme isBlank

end Lines

/--
When the token limit stops nothing, the tokens of a unit come in order of their
lines, exactly the significant lines have any, no lexeme is empty, the lexemes
of a line spell it with blanks or nothing around them, and only a quoted string
holds a blank.
-/
theorem tokens_spell_lines
    (limits : ScanLimits)
    (detailed : Bool)
    (lines : List Text)
    (complete : (ofLines limits detailed lines).Complete) :
    SpellsLines lines (ofLines limits detailed lines).tokens where
  inOrder := tokens_ordered limits detailed lines
  lineHasToken_iff := by
    intro number
    constructor
    · rintro ⟨token, member, rfl⟩
      exact exists_line_of_token member
    · rintro ⟨line, isLine, rfl⟩
      exact complete.exists_token isLine
  nonempty := fun _ member => lexeme_ne_empty member
  spelled := fun _ isLine => complete.spelled isLine
  blanksQuoted := fun _ member _ inLexeme isBlank => quoted_of_blank member inLexeme isBlank

/-- A unit with skipped lines, a quoted blank and text that no pattern matches. -/
theorem tokens_spell_lines_of_mixed_unit :
    (ofLines { maxLexemeLength := 3, maxTokenCount := 6 } false
        ["// a".toList, "\tx--\x22y  z\x22->$ // b".toList, [], "\x27".toList]).Complete ∧
      SpellsLines
        ["// a".toList, "\tx--\x22y  z\x22->$ // b".toList, [], "\x27".toList]
        (ofLines { maxLexemeLength := 3, maxTokenCount := 6 } false
          ["// a".toList, "\tx--\x22y  z\x22->$ // b".toList, [], "\x27".toList]).tokens ∧
      (ofLines { maxLexemeLength := 3, maxTokenCount := 6 } false
          ["// a".toList, "\tx--\x22y  z\x22->$ // b".toList, [],
            "\x27".toList]).tokens.map (fun token => (token.line, token.lexeme)) =
        [(2, "x"), (2, "--"), (2, "\x22y  z\x22"), (2, "->"), (2, "$"), (4, "\x27")] := by
  have complete :
      (ofLines { maxLexemeLength := 3, maxTokenCount := 6 } false
        ["// a".toList, "\tx--\x22y  z\x22->$ // b".toList, [], "\x27".toList]).Complete :=
    complete_iff.mpr (by decide +kernel)
  refine ⟨complete, tokens_spell_lines _ _ _ complete, ?_⟩
  decide +kernel

end Scan

end Smsl
