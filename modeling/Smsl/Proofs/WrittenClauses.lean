import Smsl.Proofs.AcceptedLines
import Smsl.Proofs.CompiledUnits
import Smsl.Proofs.SeparatedParts
import Smsl.Proofs.UnitFacts
import Smsl.Proofs.WrittenLexemes

namespace Smsl

/-!
# Written clauses

A clause is a statement apart from any text.  Written in the canonical way it is
one line, and every stage reads off that line what the clause says: the scanner
its tokens, the check its shape, the analysis what it says about states, and the
generator its instruction.
-/

/-- A name: a word that is no keyword and that is not too long. -/
structure Identifier where
  text : Text
  isName : Lexeme.IsName text
  fits : text.length ≤ Limits.maxLexemeLength

/-- The name as a string. -/
def Identifier.name (identifier : Identifier) : String :=
  String.ofList identifier.text

/-- The name of one letter. -/
def Identifier.ofLetter
    (letter : Char)
    (starts : Pattern.startsWord letter = true) :
    Identifier where
  text := [letter]
  isName := by
    refine ⟨.word starts (by simp), ?_⟩
    intro keyword same
    have sameLength := congrArg List.length same
    cases keyword <;> simp [Keyword.spelling] at sameLength
  fits := by simp [Limits.maxLexemeLength]

/-- A statement, apart from any text. -/
inductive Clause where
  | start
  | finish
  | opening
  | closing
  | state (name : Identifier)
  | action (name : Identifier)
  | transition (name event target : Identifier)

namespace Clause

/-- The line that a clause is written as. -/
def render : Clause → Text
  | .start =>
      "start;".toList
  | .finish =>
      "end;".toList
  | .opening =>
      "\x7b".toList
  | .closing =>
      "\x7d".toList
  | .state name =>
      "state ".toList ++ (name.text ++ " \x7b".toList)
  | .action name =>
      "action ".toList ++ (name.text ++ ";".toList)
  | .transition name event target =>
      "transition ".toList ++ (name.text ++
        (": ".toList ++ (event.text ++
          (" -> ".toList ++ (target.text ++ " \x7b".toList)))))

/-- The number of tokens that a clause is written with. -/
def tokenCount : Clause → Nat
  | .start => 2
  | .finish => 2
  | .opening => 1
  | .closing => 1
  | .state _ => 3
  | .action _ => 3
  | .transition .. => 7

/-- The shape of the line that a clause is written as. -/
def shape : Clause → StatementShape
  | .start => .marker
  | .finish => .marker
  | .opening => .brace
  | .closing => .brace
  | .state _ => .stateDeclaration
  | .action _ => .action
  | .transition .. => .transitionDeclaration

/-- The state that a clause declares. -/
def declared? : Clause → Option String
  | .state name => some name.name
  | _ => none

/-- What a clause says about states, after the clause before it. -/
def fact?
    (above : Option Clause) :
    Clause → Option StateFact
  | .state name =>
      some (.declares name.name)
  | .transition _ _ target =>
      some (.refersTo target.name)
  | .action _ =>
      some (.acts (above.bind declared?))
  | _ =>
      none

/-- The instruction for a clause: actions and transitions have one. -/
def quadruple? : Clause → Option Quadruple
  | .action name =>
      some (Quadruple.action name.name)
  | .transition name event target =>
      some (Quadruple.transition name.name event.name target.name)
  | _ =>
      none

/-! The characters of a written clause. -/

/-- A character of a written clause. -/
def isWritten (character : Char) : Bool :=
  Pattern.continuesWord character ||
    [' ', ';', ':', '-', '>', '\x7b', '\x7d'].contains character

end Clause

theorem Identifier.text_written (identifier : Identifier) :
    identifier.text.all Clause.isWritten = true := by
  rw [List.all_eq_true]
  intro character member
  simp [Clause.isWritten, identifier.isName.isWord.continuesWord character member]

theorem Identifier.text_ne_nil (identifier : Identifier) :
    identifier.text ≠ [] :=
  identifier.isName.isWord.ne_nil

theorem Identifier.noBlank (identifier : Identifier) :
    Text.NoBlank identifier.text :=
  identifier.isName.isWord.noBlank

namespace Clause

theorem render_state (name : Identifier) :
    render (.state name) = "state ".toList ++ (name.text ++ " \x7b".toList) :=
  rfl

theorem render_action (name : Identifier) :
    render (.action name) = "action ".toList ++ (name.text ++ ";".toList) :=
  rfl

theorem render_transition (name event target : Identifier) :
    render (.transition name event target) =
      "transition ".toList ++ (name.text ++
        (": ".toList ++ (event.text ++
          (" -> ".toList ++ (target.text ++ " \x7b".toList))))) :=
  rfl

theorem render_written (clause : Clause) :
    clause.render.all isWritten = true := by
  cases clause with
  | start | finish | opening | closing =>
      decide
  | state name =>
      rw [render_state, List.all_append, List.all_append, name.text_written]
      decide
  | action name =>
      rw [render_action, List.all_append, List.all_append, name.text_written]
      decide
  | transition name event target =>
      rw [render_transition]
      simp only [List.all_append, name.text_written, event.text_written,
        target.text_written]
      decide

/-- A character that no clause is written with is in none. -/
theorem ne_of_mem_render
    {clause : Clause}
    {character other : Char}
    (member : character ∈ clause.render)
    (notWritten : isWritten other = false) :
    character ≠ other := by
  rintro rfl
  have written := List.all_eq_true.mp clause.render_written character member
  rw [notWritten] at written
  cases written

theorem render_begins (clause : Clause) :
    ∃ first rest, clause.render = first :: rest ∧ Text.isBlank first = false := by
  cases clause with
  | start | finish | opening | closing | state | action | transition =>
      exact ⟨_, _, rfl, by decide⟩

theorem render_ends (clause : Clause) :
    ∃ before last, clause.render = before ++ [last] ∧ Text.isBlank last = false := by
  cases clause with
  | start =>
      exact ⟨"start".toList, ';', rfl, by decide⟩
  | finish =>
      exact ⟨"end".toList, ';', rfl, by decide⟩
  | opening | closing =>
      exact ⟨[], _, rfl, by decide⟩
  | state name =>
      refine ⟨"state ".toList ++ (name.text ++ [' ']), '\x7b', ?_, by decide⟩
      simp [render_state]
  | action name =>
      refine ⟨"action ".toList ++ name.text, ';', ?_, by decide⟩
      simp [render_action]
  | transition name event target =>
      refine ⟨"transition ".toList ++ (name.text ++ (": ".toList ++ (event.text ++
        (" -> ".toList ++ (target.text ++ [' ']))))), '\x7b', ?_, by decide⟩
      simp [render_transition]

/-- A written clause has no comment and no blanks around it. -/
theorem sanitize_render (clause : Clause) :
    SourceLine.sanitize clause.render = clause.render := by
  have uncommented : SourceLine.beforeComment clause.render = clause.render :=
    SourceLine.beforeComment_of_noSlash fun member =>
      ne_of_mem_render member (by decide) rfl
  obtain ⟨first, rest, begins, firstVisible⟩ := clause.render_begins
  obtain ⟨before, last, ends, lastVisible⟩ := clause.render_ends
  rw [SourceLine.sanitize, uncommented]
  refine Text.trim_eq_self ?_ ?_
  · rw [begins]
    simpa using firstVisible
  · rw [ends]
    simpa using lastVisible

theorem ofRaw?_render
    (clause : Clause)
    (number : Nat) :
    SourceLine.ofRaw? clause.render number = some { number, text := clause.render } := by
  obtain ⟨first, rest, begins, _⟩ := clause.render_begins
  rw [SourceLine.ofRaw?_eq_some_iff, sanitize_render]
  exact ⟨by simp [begins], rfl⟩

/-! What the scanner reads off a clause. -/

/-- A keyword as a lexeme. -/
def keywordLexeme (keyword : Keyword) : Lexeme :=
  .word keyword.spelling.toList

/-- The lexemes that a clause is written with. -/
def lexemes : Clause → List Lexeme
  | .start =>
      [keywordLexeme .start, .mark ';']
  | .finish =>
      [keywordLexeme .finish, .mark ';']
  | .opening =>
      [.mark '\x7b']
  | .closing =>
      [.mark '\x7d']
  | .state name =>
      [keywordLexeme .state, .word name.text, .mark '\x7b']
  | .action name =>
      [keywordLexeme .action, .word name.text, .mark ';']
  | .transition name event target =>
      [keywordLexeme .transition, .word name.text, .mark ':', .word event.text, .arrow,
        .word target.text, .mark '\x7b']

theorem length_lexemes (clause : Clause) :
    clause.lexemes.length = clause.tokenCount := by
  cases clause <;> rfl

theorem ofText_keyword
    (keyword : Keyword)
    {next : Char}
    (stops : Pattern.continuesWord next = false)
    (rest : Text) :
    Lexeme.ofText (keyword.spelling.toList ++ next :: rest) =
      keywordLexeme keyword :: Lexeme.ofText (next :: rest) :=
  Lexeme.ofText_word_before keyword.spelling_matches stops rest

theorem ofText_name
    (name : Identifier)
    {next : Char}
    (stops : Pattern.continuesWord next = false)
    (rest : Text) :
    Lexeme.ofText (name.text ++ next :: rest) =
      .word name.text :: Lexeme.ofText (next :: rest) :=
  Lexeme.ofText_word_before name.isName.isWord stops rest

theorem ofText_space (rest : Text) :
    Lexeme.ofText (' ' :: rest) = Lexeme.ofText rest :=
  Lexeme.ofText_blank (by decide) rest

theorem ofText_final
    {character : Char}
    (isMark : Pattern.isPunctuation character = true) :
    Lexeme.ofText [character] = [.mark character] := by
  rw [Lexeme.ofText_mark isMark, Lexeme.ofText_nil]

/-- The scanner cuts a written clause into its lexemes. -/
theorem ofText_render (clause : Clause) :
    Lexeme.ofText clause.render = clause.lexemes := by
  cases clause with
  | start =>
      have written : render .start = Keyword.start.spelling.toList ++ [';'] := rfl
      rw [written, ofText_keyword .start (by decide), ofText_final (by decide)]
      rfl
  | finish =>
      have written : render .finish = Keyword.finish.spelling.toList ++ [';'] := rfl
      rw [written, ofText_keyword .finish (by decide), ofText_final (by decide)]
      rfl
  | opening =>
      exact ofText_final (by decide)
  | closing =>
      exact ofText_final (by decide)
  | state name =>
      have written :
          render (.state name) =
            Keyword.state.spelling.toList ++ ' ' :: (name.text ++ [' ', '\x7b']) := rfl
      rw [written, ofText_keyword .state (by decide), ofText_space,
        ofText_name name (by decide), ofText_space, ofText_final (by decide)]
      rfl
  | action name =>
      have written :
          render (.action name) =
            Keyword.action.spelling.toList ++ ' ' :: (name.text ++ [';']) := rfl
      rw [written, ofText_keyword .action (by decide), ofText_space,
        ofText_name name (by decide), ofText_final (by decide)]
      rfl
  | transition name event target =>
      have written :
          render (.transition name event target) =
            Keyword.transition.spelling.toList ++ ' ' :: (name.text ++
              ':' :: ' ' :: (event.text ++
                ' ' :: '-' :: '>' :: ' ' :: (target.text ++ [' ', '\x7b']))) := rfl
      rw [written, ofText_keyword .transition (by decide), ofText_space,
        ofText_name name (by decide), Lexeme.ofText_mark (by decide), ofText_space,
        ofText_name event (by decide), ofText_space, Lexeme.ofText_arrow,
        ofText_space, ofText_name target (by decide), ofText_space,
        ofText_final (by decide)]
      rfl

theorem keyword_fits (keyword : Keyword) :
    keyword.spelling.toList.length ≤ Limits.maxLexemeLength := by
  cases keyword <;> decide

theorem length_lexeme_le
    {clause : Clause}
    {lexeme : Lexeme}
    (member : lexeme ∈ clause.lexemes) :
    lexeme.pattern ≠ none ∧ lexeme.text.length ≤ Limits.maxLexemeLength := by
  have word :
      ∀ {text : Text}, text.length ≤ Limits.maxLexemeLength →
        (Lexeme.word text).pattern ≠ none ∧
          (Lexeme.word text).text.length ≤ Limits.maxLexemeLength :=
    fun fits => ⟨by simp [Lexeme.word], fits⟩
  have mark :
      ∀ character,
        (Lexeme.mark character).pattern ≠ none ∧
          (Lexeme.mark character).text.length ≤ Limits.maxLexemeLength :=
    fun _ => ⟨by simp [Lexeme.mark], by simp [Lexeme.mark, Limits.maxLexemeLength]⟩
  have arrow :
      Lexeme.arrow.pattern ≠ none ∧
        Lexeme.arrow.text.length ≤ Limits.maxLexemeLength := by
    decide
  cases clause with
  | start | finish =>
      simp only [lexemes, List.mem_cons, List.not_mem_nil, or_false] at member
      rcases member with rfl | rfl
      · exact word (keyword_fits _)
      · exact mark _
  | opening | closing =>
      simp only [lexemes, List.mem_cons, List.not_mem_nil, or_false] at member
      rw [member]
      exact mark _
  | state name | action name =>
      simp only [lexemes, List.mem_cons, List.not_mem_nil, or_false] at member
      rcases member with rfl | rfl | rfl
      · exact word (keyword_fits _)
      · exact word name.fits
      · exact mark _
  | transition name event target =>
      simp only [lexemes, List.mem_cons, List.not_mem_nil, or_false] at member
      rcases member with rfl | rfl | rfl | rfl | rfl | rfl | rfl
      · exact word (keyword_fits _)
      · exact word name.fits
      · exact mark _
      · exact word event.fits
      · exact arrow
      · exact word target.fits
      · exact mark _

/-- Nothing is wrong with the lexemes of a clause. -/
theorem error?_of_mem_lexemes
    {clause : Clause}
    {lexeme : Lexeme}
    (member : lexeme ∈ clause.lexemes)
    (line : Nat) :
    PlacedLexeme.error? .standard { line, lexeme } = none := by
  obtain ⟨hasPattern, fits⟩ := length_lexeme_le member
  have notTooLong : ¬ ScanLimits.standard.maxLexemeLength < lexeme.text.length :=
    Nat.not_lt.mpr fits
  simp [PlacedLexeme.error?, hasPattern, notTooLong]

/-- The tokens that a clause is written with. -/
def tokens
    (line : Nat)
    (clause : Clause) :
    List Token :=
  clause.lexemes.map (Token.ofLexeme line)

theorem ofLine_render
    (clause : Clause)
    (number : Nat) :
    TokenLine.ofLine .standard { number, text := clause.render } =
      { number, tokens := clause.tokens number } := by
  rw [TokenLine.ofLine, PlacedLexeme.ofLine, ofText_render, tokens, List.map_map]
  refine congrArg (TokenLine.mk number) (List.map_congr_left ?_)
  intro lexeme member
  exact PlacedLexeme.toToken_eq_ofLexeme (error?_of_mem_lexemes member number)

/-! What the analysis reads off a clause. -/

/-- The token of a keyword. -/
def keywordToken
    (line : Nat)
    (keyword : Keyword) :
    Token where
  line := line
  lexeme := keyword.spelling
  kind := .keyword keyword

/-- The token of a name. -/
def nameToken
    (line : Nat)
    (name : Identifier) :
    Token where
  line := line
  lexeme := name.name
  kind := .identifier

/-- The token of a symbol. -/
def symbolToken
    (line : Nat)
    (symbol : String) :
    Token where
  line := line
  lexeme := symbol
  kind := .symbol

theorem ofLexeme_keyword
    (line : Nat)
    (keyword : Keyword) :
    Token.ofLexeme line (keywordLexeme keyword) = keywordToken line keyword := by
  rw [Token.ofLexeme, keywordLexeme, Lexeme.kind_keyword, Lexeme.word, String.ofList_toList]
  rfl

theorem ofLexeme_name
    (line : Nat)
    (name : Identifier) :
    Token.ofLexeme line (.word name.text) = nameToken line name := by
  rw [Token.ofLexeme, Lexeme.kind_name name.isName]
  rfl

theorem tokens_state
    (line : Nat)
    (name : Identifier) :
    tokens line (.state name) =
      [keywordToken line .state, nameToken line name, symbolToken line "\x7b"] := by
  rw [tokens, lexemes, List.map_cons, List.map_cons, ofLexeme_keyword, ofLexeme_name]
  rfl

theorem tokens_action
    (line : Nat)
    (name : Identifier) :
    tokens line (.action name) =
      [keywordToken line .action, nameToken line name, symbolToken line ";"] := by
  rw [tokens, lexemes, List.map_cons, List.map_cons, ofLexeme_keyword, ofLexeme_name]
  rfl

theorem tokens_transition
    (line : Nat)
    (name event target : Identifier) :
    tokens line (.transition name event target) =
      [keywordToken line .transition, nameToken line name, symbolToken line ":",
        nameToken line event, symbolToken line transitionArrow, nameToken line target,
        symbolToken line "\x7b"] := by
  simp only [tokens, lexemes, List.map_cons, List.map_nil, ofLexeme_keyword, ofLexeme_name]
  rfl

theorem declaredBy?_tokens
    (clause : Clause)
    (number : Nat) :
    StateFact.declaredBy? { number, tokens := clause.tokens number } =
      clause.declared? := by
  cases clause with
  | start | finish | opening | closing | transition =>
      rfl
  | action name =>
      rw [tokens_action]
      rfl
  | state name =>
      rw [tokens_state]
      rfl

/-- By tokens a clause says what it says. -/
theorem byTokens_render
    (above : Option Clause)
    (clause : Clause)
    (number : Nat) :
    StateFact.byTokens .standard
        (above.map fun upper => { number, text := upper.render })
        { number := number + 1, text := clause.render } =
      clause.fact? above := by
  have neighbour :
      (above.map fun upper => SourceLine.mk number upper.render).map
          (TokenLine.ofLine .standard) =
        above.map fun upper => { number, tokens := upper.tokens number } := by
    simp [Function.comp_def, ofLine_render]
  rw [StateFact.byTokens, neighbour, ofLine_render]
  cases clause with
  | start | finish | opening | closing =>
      rfl
  | state name =>
      rw [tokens_state]
      rfl
  | action name =>
      rw [tokens_action]
      cases above with
      | none =>
          rfl
      | some upper =>
          have directlyAbove := upper.declaredBy?_tokens number
          simp [StateFact.ofTokenLine?, StateFact.ofNeighbours?, keywordToken,
            Option.filter_some, directlyAbove, fact?]
  | transition name event target =>
      rw [tokens_transition]
      rfl

theorem fields_state (name : Identifier) :
    Text.fields (render (.state name)) =
      [StatementShape.keywordField .state, name.text, ['\x7b']] := by
  have written :
      render (.state name) =
        StatementShape.keywordField .state ++ ' ' :: (name.text ++ ' ' :: ['\x7b']) := rfl
  rw [written, StatementShape.fields_keyword,
    Text.fields_append name.noBlank name.text_ne_nil (by decide)]
  rfl

theorem fields_action (name : Identifier) :
    Text.fields (render (.action name)) =
      [StatementShape.keywordField .action, name.text ++ [';']] := by
  have written :
      render (.action name) =
        StatementShape.keywordField .action ++ ' ' :: (name.text ++ [';']) := rfl
  have noBlank : Text.NoBlank (name.text ++ [';']) := by
    intro character member
    rcases List.mem_append.mp member with inName | isMark
    · exact name.noBlank character inName
    · rw [List.mem_singleton.mp isMark]
      decide
  rw [written, StatementShape.fields_keyword, Text.fields_of_word noBlank (by simp)]

theorem declaredOn?_render (clause : Clause) :
    StateFact.declaredOn? clause.render = clause.declared? := by
  cases clause with
  | start | finish | opening | closing | action | transition =>
      rfl
  | state name =>
      refine StateFact.declaredOn?_eq_some_iff.mpr ?_
      have same : name.name.toList = name.text := String.toList_ofList
      rw [same]
      exact ⟨rfl, name.noBlank, name.text_ne_nil⟩

end Clause

/-! The parts of a written transition. -/

namespace TransitionParts

/-- A character that begins no separator. -/
def isPlain (character : Char) : Bool :=
  character != ':' && character != '-'

theorem unmarked_of_plain
    {piece : Text}
    (plain : piece.all isPlain = true) :
    Unmarked piece := by
  rw [List.all_eq_true] at plain
  refine ⟨?_, ?_⟩
  · intro member
    exact absurd (plain ':' member) (by decide)
  · intro arrow
    exact absurd (plain '-' (arrow.subset (by simp))) (by decide)

end TransitionParts

namespace Clause

theorem name_plain (name : Identifier) :
    name.text.all TransitionParts.isPlain = true := by
  rw [List.all_eq_true]
  intro character member
  have continues := name.isName.isWord.continuesWord character member
  simp only [TransitionParts.isPlain, Bool.and_eq_true, bne_iff_ne]
  constructor
  · rintro rfl
    exact absurd continues (by decide)
  · rintro rfl
    exact absurd continues (by decide)

/-- The pieces of a written transition. -/
theorem pieces_transition (name event target : Identifier) :
    TransitionParts.pieces (render (.transition name event target)) =
      ["transition ".toList ++ name.text, ' ' :: (event.text ++ [' ']),
        ' ' :: (target.text ++ " \x7b".toList)] := by
  have written :
      render (.transition name event target) =
        ("transition ".toList ++ name.text) ++
          (TransitionParts.Mark.colon.text ++ ((' ' :: (event.text ++ [' '])) ++
            (TransitionParts.Mark.arrow.text ++
              (' ' :: (target.text ++ " \x7b".toList))))) := by
    simp [render_transition, TransitionParts.Mark.text]
  have headerPlain :
      ("transition ".toList ++ name.text).all TransitionParts.isPlain = true := by
    rw [List.all_append, name_plain]
    decide
  have eventPlain : (' ' :: (event.text ++ [' '])).all TransitionParts.isPlain = true := by
    rw [List.all_cons, List.all_append, name_plain]
    decide
  have targetPlain :
      (' ' :: (target.text ++ " \x7b".toList)).all TransitionParts.isPlain = true := by
    rw [List.all_cons, List.all_append, name_plain]
    decide
  rw [written,
    TransitionParts.pieces_append_mark (TransitionParts.unmarked_of_plain headerPlain),
    TransitionParts.pieces_append_mark (TransitionParts.unmarked_of_plain eventPlain),
    TransitionParts.pieces_of_unmarked (TransitionParts.unmarked_of_plain targetPlain)]

theorem head?_name_visible (name : Identifier) :
    ∀ first ∈ name.text.head?, Text.isBlank first = false :=
  fun first isFirst => name.noBlank first (List.mem_of_mem_head? isFirst)

theorem getLast?_name_visible (name : Identifier) :
    ∀ last ∈ name.text.getLast?, Text.isBlank last = false :=
  fun last isLast => name.noBlank last (List.mem_of_mem_getLast? isLast)

/-- The parts of a written transition. -/
def parts (name event target : Identifier) : TransitionParts where
  header := "transition ".toList ++ name.text
  eventPart := event.text
  targetPart := target.text ++ " \x7b".toList
  others := []

theorem ofText?_transition (name event target : Identifier) :
    TransitionParts.ofText? (render (.transition name event target)) =
      some (parts name event target) := by
  have header :
      Text.trimEnd ("transition ".toList ++ name.text) =
        "transition ".toList ++ name.text := by
    refine Text.trimEnd_of_ends ?_
    rw [List.getLast?_append_of_ne_nil _ name.text_ne_nil]
    exact getLast?_name_visible name
  have middle : Text.trim (' ' :: (event.text ++ [' '])) = event.text :=
    Text.trim_of_padded (Text.allBlank_singleton (by decide))
      (Text.allBlank_singleton (by decide)) (head?_name_visible event)
      (getLast?_name_visible event)
  have last :
      Text.trimStart (' ' :: (target.text ++ " \x7b".toList)) =
        target.text ++ " \x7b".toList := by
    have begins :
        ∀ first ∈ (target.text ++ " \x7b".toList).head?, Text.isBlank first = false := by
      rw [List.head?_append_of_ne_nil _ target.text_ne_nil]
      exact head?_name_visible target
    have gap : Text.AllBlank [' '] := Text.allBlank_singleton (by decide)
    exact (Text.trimStart_gap gap _).trans (Text.trimStart_of_begins begins)
  have split :
      TransitionParts.split (render (.transition name event target)) =
        ["transition ".toList ++ name.text, event.text, target.text ++ " \x7b".toList] := by
    rw [TransitionParts.split, pieces_transition, TransitionParts.trimJoints,
      TransitionParts.trimFollowing, TransitionParts.trimFollowing, header, middle, last]
    simp [TransitionParts.dropTrailingEmpty]
  rw [TransitionParts.ofText?, split]
  rfl

theorem fields_header (name event target : Identifier) :
    Text.fields (parts name event target).header =
      [StatementShape.keywordField .transition, name.text] := by
  have written :
      (parts name event target).header =
        StatementShape.keywordField .transition ++ ' ' :: name.text := rfl
  rw [written, StatementShape.fields_keyword,
    Text.fields_of_word name.noBlank name.text_ne_nil]

theorem parts_name? (name event target : Identifier) :
    (parts name event target).name? = some name.text := by
  rw [TransitionParts.name?, fields_header]
  rfl

theorem parts_event (name event target : Identifier) :
    (parts name event target).event = event.text :=
  Text.trim_of_word event.noBlank

theorem parts_target (name event target : Identifier) :
    (parts name event target).target = target.text := by
  have written :
      (parts name event target).targetPart = target.text ++ ([' '] ++ ['\x7b']) := rfl
  have outer :
      Text.trim (target.text ++ ([' '] ++ ['\x7b'])) =
        target.text ++ ([' '] ++ ['\x7b']) := by
    refine Text.trim_eq_self ?_ ?_
    · rw [List.head?_append_of_ne_nil _ target.text_ne_nil]
      exact head?_name_visible target
    · simp
      decide
  have inner : Text.trim (target.text ++ [' ']) = target.text := by
    have padded : Text.trim ([] ++ (target.text ++ [' '])) = target.text :=
      Text.trim_of_padded Text.allBlank_nil (Text.allBlank_singleton (by decide))
        (head?_name_visible target) (getLast?_name_visible target)
    exact padded
  rw [TransitionParts.target, written, outer, ← List.append_assoc, Text.withoutEnd_append,
    inner]

theorem parts_last (name event target : Identifier) :
    Text.endsWithChar '\x7b' (parts name event target).last = true := by
  have written :
      (parts name event target).last = target.text ++ [' ', '\x7b'] := rfl
  simp [written, Text.endsWithChar]

/-! What the other stages read off a clause. -/

/-- The check finds the shape of a clause. -/
theorem ofText_shape (clause : Clause) :
    StatementShape.ofText clause.render = .ok clause.shape := by
  cases clause with
  | start | finish | opening | closing =>
      rfl
  | state name =>
      have isKind : StatementKind.ofText (render (.state name)) = .stateDeclaration := rfl
      simp [StatementShape.ofText, isKind, StatementShape.ofStateLine, fields_state, shape]
  | action name =>
      have isKind : StatementKind.ofText (render (.action name)) = .action := rfl
      simp [StatementShape.ofText, isKind, StatementShape.ofActionLine, fields_action, shape,
        Text.endsWithChar]
  | transition name event target =>
      have isKind :
          StatementKind.ofText (render (.transition name event target)) =
            .transitionDeclaration := rfl
      simp [StatementShape.ofText, isKind, StatementShape.ofTransitionLine,
        ofText?_transition, fields_header, parts_last, shape]

/-- By lines a clause says what it says. -/
theorem byText_render
    (above : Option Clause)
    (clause : Clause)
    (number : Nat) :
    StateFact.byText
        (above.map fun upper => { number, text := upper.render })
        { number := number + 1, text := clause.render } =
      clause.fact? above := by
  cases clause with
  | start | finish | opening | closing =>
      rfl
  | state name =>
      have isKind : StatementKind.ofText (render (.state name)) = .stateDeclaration := rfl
      simp [StateFact.byText, isKind, fields_state, fact?, Identifier.name]
  | action name =>
      have isKind : StatementKind.ofText (render (.action name)) = .action := rfl
      cases above with
      | none =>
          simp [StateFact.byText, isKind, fact?]
      | some upper =>
          simp [StateFact.byText, isKind, fact?, declaredOn?_render]
  | transition name event target =>
      have isKind :
          StatementKind.ofText (render (.transition name event target)) =
            .transitionDeclaration := rfl
      simp [StateFact.byText, isKind, ofText?_transition, parts_target, fact?,
        Identifier.name]

/-- The generator lowers a clause to its instruction. -/
theorem lower?_render
    (clause : Clause)
    (number : Nat) :
    Generation.lower? { number, text := clause.render } =
      clause.quadruple?.map .ok := by
  cases clause with
  | start | finish | opening | closing =>
      rfl
  | state name =>
      rfl
  | action name =>
      have isKind : StatementKind.ofText (render (.action name)) = .action := rfl
      simp [Generation.lower?, isKind, Generation.lowerAction, fields_action, quadruple?,
        Text.withoutEnd_append, Text.trim_of_word name.noBlank, Identifier.name]
  | transition name event target =>
      have isKind :
          StatementKind.ofText (render (.transition name event target)) =
            .transitionDeclaration := rfl
      simp [Generation.lower?, isKind, Generation.lowerTransition, ofText?_transition,
        parts_name?, parts_event, parts_target, quadruple?, Identifier.name]

end Clause

end Smsl
