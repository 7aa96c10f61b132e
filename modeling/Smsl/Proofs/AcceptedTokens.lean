import Smsl.Proofs.AcceptedLines
import Smsl.Proofs.UnitFacts
import Smsl.Proofs.WrittenLexemes

namespace Smsl

/-!
# Tokens of accepted lines

A line that is scanned and accepted has the keyword of its shape as its first
token.  What follows need not be what the text of the line reads like: a name
may be cut into several tokens, and the last arrow may stand behind the target.
-/

namespace TokenLine

/-- The tokens of a line whose lexemes nothing is wrong with. -/
def plain (line : SourceLine) : TokenLine where
  number := line.number
  tokens := (Lexeme.ofText line.text).map (Token.ofLexeme line.number)

end TokenLine

namespace Scan

theorem complete_of_clean
    {limits : ScanLimits}
    {detailed : Bool}
    {lines : List Text}
    (clean : (ofLines limits detailed lines).diagnostics = []) :
    (ofLines limits detailed lines).Complete := by
  have noErrors : (ofLines limits detailed lines).errors = [] :=
    List.map_eq_nil_iff.mp clean
  intro line max member
  rw [noErrors] at member
  cases member

/-- After a scan without diagnostics nothing is wrong with any lexeme. -/
theorem error?_of_clean
    {limits : ScanLimits}
    {detailed : Bool}
    {lines : List Text}
    (clean : (ofLines limits detailed lines).diagnostics = [])
    {placed : PlacedLexeme}
    (member : placed ∈ PlacedLexeme.ofLines lines) :
    placed.error? limits = none := by
  have noErrors : (ofLines limits detailed lines).errors = [] :=
    List.map_eq_nil_iff.mp clean
  have allTaken := complete_iff.mp (complete_of_clean clean)
  rw [ofLines_errors, List.take_of_length_le allTaken] at noErrors
  exact List.filterMap_eq_nil_iff.mp (List.append_eq_nil_iff.mp noErrors).1 placed member

theorem ofLine_eq_plain
    {limits : ScanLimits}
    {detailed : Bool}
    {lines : List Text}
    (clean : (ofLines limits detailed lines).diagnostics = [])
    {line : SourceLine}
    (member : line ∈ SourceLine.significant lines) :
    TokenLine.ofLine limits line = TokenLine.plain line := by
  rw [TokenLine.ofLine, TokenLine.plain, PlacedLexeme.ofLine, List.map_map]
  refine congrArg (TokenLine.mk line.number) (List.map_congr_left ?_)
  intro lexeme isLexeme
  refine PlacedLexeme.toToken_eq_ofLexeme (error?_of_clean clean ?_)
  exact List.mem_flatMap.mpr ⟨line, member, List.mem_map.mpr ⟨lexeme, isLexeme, rfl⟩⟩

end Scan

namespace StateFact

/-- What a line says about states, by tokens that nothing is wrong with. -/
def byPlainTokens
    (above : Option SourceLine)
    (line : SourceLine) :
    Option StateFact :=
  ofTokenLine? (above.map TokenLine.plain) (TokenLine.plain line)

/-- After a scan without diagnostics the walk by tokens reads plain tokens. -/
theorem ofTokens_of_clean
    {limits : ScanLimits}
    {detailed : Bool}
    {lines : List Text}
    (clean : (Scan.ofLines limits detailed lines).diagnostics = []) :
    ofTokens (Scan.ofLines limits detailed lines).tokens =
      ofReading byPlainTokens lines := by
  rw [ofTokens_eq_ofReading (Scan.complete_of_clean clean)]
  refine List.filterMap_congr ?_
  rintro ⟨above, line⟩ member
  have isLine := SourceLine.mem_significant_of_withAbove member
  rw [byTokens, byPlainTokens, Scan.ofLine_eq_plain clean isLine]
  cases above with
  | none =>
      rfl
  | some upper =>
      have isUpper := (SourceLine.above_of_withAbove member).1
      rw [Option.map_some, Option.map_some, Scan.ofLine_eq_plain clean isUpper]

end StateFact

/-! The first lexemes of an accepted line. -/

namespace Lexeme

/-- A keyword before a blank, after any blanks, is read whole. -/
theorem ofText_keyword_field
    {gap rest : Text}
    (allBlank : Text.AllBlank gap)
    (keyword : Keyword)
    (begins : ∀ next ∈ rest.head?, Text.isBlank next = true) :
    ofText (gap ++ (StatementShape.keywordField keyword ++ rest)) =
      word keyword.spelling.toList :: ofText rest := by
  rw [ofText_gap allBlank]
  refine ofText_word keyword.spelling_matches ?_
  intro next isNext
  exact Pattern.continuesWord_of_blank (begins next isNext)

theorem ofText_of_fields
    {text : Text}
    {keyword : Keyword}
    {more : List Text}
    (isFields : Text.fields text = StatementShape.keywordField keyword :: more) :
    ∃ rest,
      ofText text = word keyword.spelling.toList :: ofText rest ∧
        Text.fields rest = more := by
  obtain ⟨gap, rest, allBlank, rfl, begins, isRest⟩ := Text.fields_eq_cons isFields
  exact ⟨rest, ofText_keyword_field allBlank keyword begins, isRest⟩

/-- A state line is its keyword, what its name is cut into, and a brace. -/
theorem ofText_state_line
    {text name : Text}
    (isFields :
      Text.fields text = [StatementShape.keywordField .state, name, ['\x7b']]) :
    ∃ rest,
      ofText text = word Keyword.state.spelling.toList :: ofText (name ++ rest) ∧
        (∀ next ∈ rest.head?, Text.isBlank next = true) ∧ ofText rest = [mark '\x7b'] := by
  obtain ⟨afterKeyword, isText, isFurther⟩ := ofText_of_fields isFields
  obtain ⟨gap, rest, allBlank, rfl, begins, isRest⟩ := Text.fields_eq_cons isFurther
  obtain ⟨restGap, after, restBlank, rfl, _, isAfter⟩ := Text.fields_eq_cons isRest
  refine ⟨_, ?_, begins, ?_⟩
  · rw [isText, ofText_gap allBlank]
  · rw [ofText_gap restBlank, List.singleton_append, ofText_mark (by decide),
      ofText_of_allBlank (Text.allBlank_of_fields_eq_nil isAfter)]

end Lexeme

namespace TransitionParts

/-- The first piece of a line is what the line begins with. -/
theorem pieces_begins (text : Text) :
    ∃ first others, pieces text = first :: others ∧ first <+: text := by
  fun_induction pieces text with
  | case1 =>
      exact ⟨[], [], rfl, List.nil_prefix⟩
  | case2 rest =>
      exact ⟨[], pieces rest, rfl, List.nil_prefix⟩
  | case3 rest =>
      exact ⟨[], pieces rest, rfl, List.nil_prefix⟩
  | case4 character rest _ _ inductionHypothesis =>
      obtain ⟨first, others, isPieces, leading⟩ := inductionHypothesis
      refine ⟨character :: first, others, ?_, List.cons_prefix_cons.mpr ⟨rfl, leading⟩⟩
      rw [isPieces]
      rfl

theorem dropTrailingEmpty_prefix (parts : List Text) :
    dropTrailingEmpty parts <+: parts := by
  have trailing := List.dropWhile_suffix List.isEmpty (l := parts.reverse)
  simpa [dropTrailingEmpty] using List.reverse_prefix.mpr trailing

/-- A line in parts splits into these parts. -/
theorem split_of_ofText?
    {text : Text}
    {parts : TransitionParts}
    (isParts : ofText? text = some parts) :
    split text =
      parts.header :: parts.eventPart :: parts.targetPart :: parts.others := by
  unfold ofText? at isParts
  split at isParts
  · rename_i shape
    cases isParts
    exact shape
  · cases isParts

/-- A line in parts begins with its header. -/
theorem header_prefix
    {text : Text}
    {parts : TransitionParts}
    (isParts : ofText? text = some parts) :
    parts.header <+: text := by
  obtain ⟨first, others, isPieces, leading⟩ := pieces_begins text
  have kept := dropTrailingEmpty_prefix (trimJoints (pieces text))
  rw [← split, split_of_ofText? isParts, isPieces] at kept
  cases others with
  | nil =>
      have tooMany := kept.length_le
      simp [trimJoints] at tooMany
  | cons next rest =>
      rw [trimJoints] at kept
      obtain ⟨isHeader, _⟩ := List.cons_prefix_cons.mp kept
      obtain ⟨gap, _, whole⟩ := Text.trimEnd_append first
      rw [isHeader]
      exact List.IsPrefix.trans ⟨gap, whole⟩ leading

end TransitionParts

namespace Lexeme

/-- A transition line begins with its keyword. -/
theorem ofText_transition_line
    {text name : Text}
    {parts : TransitionParts}
    (isParts : TransitionParts.ofText? text = some parts)
    (isHeader :
      Text.fields parts.header = [StatementShape.keywordField .transition, name]) :
    ∃ rest, ofText text = word Keyword.transition.spelling.toList :: ofText rest := by
  obtain ⟨after, whole⟩ := TransitionParts.header_prefix isParts
  obtain ⟨gap, rest, allBlank, shape, begins, isRest⟩ := Text.fields_eq_cons isHeader
  have nonempty : rest ≠ [] := by
    rintro rfl
    cases isRest
  refine ⟨rest ++ after, ?_⟩
  rw [← whole, shape, List.append_assoc, List.append_assoc]
  refine ofText_keyword_field allBlank .transition ?_
  rw [List.head?_append_of_ne_nil _ nonempty]
  exact begins

end Lexeme

/-! The first token of an accepted line. -/

namespace StatementShape

/-- The kinds that the first token of a line of a shape may have. -/
def leadingKinds : StatementShape → List TokenKind
  | .stateDeclaration => [.keyword .state]
  | .transitionDeclaration => [.keyword .transition]
  | .action => [.keyword .action]
  | .marker => [.keyword .start, .keyword .finish]
  | .brace => [.symbol]

end StatementShape

theorem StatementKind.text_of_marker
    {text : Text}
    (isMarker : ofText text = .marker) :
    text = "start;".toList ∨ text = "end;".toList := by
  unfold ofText at isMarker
  split_ifs at isMarker with _ _ _ found
  exact found

theorem StatementKind.text_of_brace
    {text : Text}
    (isBrace : ofText text = .brace) :
    text = "\x7b".toList ∨ text = "\x7d".toList := by
  unfold ofText at isBrace
  split_ifs at isBrace with _ _ _ _ found
  exact found

namespace TokenLine

theorem tokens_of_ofText
    {line : SourceLine}
    {lexeme : Lexeme}
    {lexemes : List Lexeme}
    (isText : Lexeme.ofText line.text = lexeme :: lexemes) :
    (plain line).tokens =
      Token.ofLexeme line.number lexeme ::
        lexemes.map (Token.ofLexeme line.number) := by
  rw [plain, isText, List.map_cons]

/-- An accepted line begins with a token that tells its shape. -/
theorem leading_token_of_reads
    {line : SourceLine}
    {shape : StatementShape}
    (reads : shape.Reads line.text) :
    ∃ first rest,
      (plain line).tokens = first :: rest ∧ first.kind ∈ shape.leadingKinds := by
  have keyword :
      ∀ {keyword : Keyword} {lexemes : List Lexeme},
        Lexeme.ofText line.text = .word keyword.spelling.toList :: lexemes →
        .keyword keyword ∈ shape.leadingKinds →
        ∃ first rest,
          (plain line).tokens = first :: rest ∧ first.kind ∈ shape.leadingKinds := by
    intro keyword lexemes isText leads
    refine ⟨_, _, tokens_of_ofText isText, ?_⟩
    have isKeyword :
        (Token.ofLexeme line.number (.word keyword.spelling.toList)).kind =
          .keyword keyword :=
      Lexeme.kind_keyword keyword
    rw [isKeyword]
    exact leads
  cases reads with
  | stateDeclaration name _ isFields =>
      obtain ⟨rest, isText, _⟩ := Lexeme.ofText_of_fields isFields
      exact keyword isText (by decide)
  | transitionDeclaration parts name _ isParts isHeader _ =>
      obtain ⟨rest, isText⟩ := Lexeme.ofText_transition_line isParts isHeader
      exact keyword isText (by decide)
  | action field _ isFields _ =>
      obtain ⟨rest, isText, _⟩ := Lexeme.ofText_of_fields isFields
      exact keyword isText (by decide)
  | marker isMarker =>
      rcases StatementKind.text_of_marker isMarker with isStart | isEnd
      · have isText :
            Lexeme.ofText line.text =
              .word Keyword.start.spelling.toList :: Lexeme.ofText [';'] := by
          rw [isStart]
          exact Lexeme.ofText_word_before Keyword.start.spelling_matches (by decide) []
        exact keyword isText (by decide)
      · have isText :
            Lexeme.ofText line.text =
              .word Keyword.finish.spelling.toList :: Lexeme.ofText [';'] := by
          rw [isEnd]
          exact Lexeme.ofText_word_before Keyword.finish.spelling_matches (by decide) []
        exact keyword isText (by decide)
  | brace isBrace =>
      rcases StatementKind.text_of_brace isBrace with isOpening | isClosing
      · have isText :
            Lexeme.ofText line.text = .mark '\x7b' :: Lexeme.ofText [] := by
          rw [isOpening]
          exact Lexeme.ofText_mark (by decide) []
        exact ⟨_, _, tokens_of_ofText isText, List.mem_singleton.mpr rfl⟩
      · have isText :
            Lexeme.ofText line.text = .mark '\x7d' :: Lexeme.ofText [] := by
          rw [isClosing]
          exact Lexeme.ofText_mark (by decide) []
        exact ⟨_, _, tokens_of_ofText isText, List.mem_singleton.mpr rfl⟩

end TokenLine

end Smsl
