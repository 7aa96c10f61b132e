import Smsl.Proofs.AcceptedTokens
import Smsl.Proofs.LineReadings

namespace Smsl

/-!
# Analysis by lines and by tokens

On a unit that is scanned and accepted without diagnostics the two walks see the
same statements, but they read names, targets and neighbours off them in their
own ways.  This module says exactly when the two analyses agree.  They need not:
a state name of several tokens, a line with more than one arrow, and a state
line with unusual blanks are all accepted.
-/

namespace LineReading

/-- The reading of the texts of lines. -/
def ofTexts : LineReading where
  name? line :=
    (Text.fields line.text)[1]?.map String.ofList
  target? line :=
    (TransitionParts.ofText? line.text).map fun parts => String.ofList parts.target
  adjacent? line :=
    StateFact.declaredOn? line.text

/-- The reading of the tokens of lines. -/
def ofTokens : LineReading where
  name? line :=
    (TokenLine.plain line).tokens.tail.head?.bind StateFact.identifier?
  target? line :=
    StateFact.targetOf? (TokenLine.plain line).tokens
  adjacent? line :=
    StateFact.declaredBy? (TokenLine.plain line)

theorem fact?_ofTexts
    (above : Option SourceLine)
    (line : SourceLine) :
    ofTexts.fact? above line = StateFact.byText above line := by
  rw [fact?, StateFact.byText]
  cases StatementKind.ofText line.text with
  | stateDeclaration =>
      simp only [ofTexts, Option.map_map]
      rfl
  | transitionDeclaration =>
      cases isParts : TransitionParts.ofText? line.text <;> simp [ofTexts, isParts]
  | action | marker | brace | unrecognized =>
      rfl

theorem facts_ofTexts (lines : List Text) :
    ofTexts.facts lines = StateFact.ofLines lines := by
  rw [StateFact.ofLines_eq_ofReading, facts]
  refine congrArg (StateFact.ofReading · lines) ?_
  funext above line
  exact fact?_ofTexts above line

/-- By tokens an accepted line is told by its first token as by its text. -/
theorem fact?_ofTokens
    {above : Option SourceLine}
    {line : SourceLine}
    (directlyAbove : ∀ upper ∈ above, upper.number + 1 = line.number)
    {shape : StatementShape}
    (reads : shape.Reads line.text) :
    ofTokens.fact? above line = StateFact.byPlainTokens above line := by
  obtain ⟨first, rest, isTokens, leads⟩ := TokenLine.leading_token_of_reads reads
  have neighbour :
      (above.map TokenLine.plain).filter
          (fun upper => upper.number + 1 == (TokenLine.plain line).number) =
        above.map TokenLine.plain := by
    cases above with
    | none =>
        rfl
    | some upper =>
        have sameNumber :
            (TokenLine.plain upper).number + 1 = (TokenLine.plain line).number :=
          directlyAbove upper rfl
        simp [Option.filter_some, sameNumber]
  rw [StateFact.byPlainTokens, StateFact.ofTokenLine?, neighbour, StateFact.ofNeighbours?, fact?]
  simp only [ofTokens, isTokens]
  cases reads with
  | stateDeclaration _ isKind _ =>
      have isFirst : first.kind = .keyword .state := List.mem_singleton.mp leads
      simp [isKind, isFirst]
  | transitionDeclaration _ _ isKind _ _ _ =>
      have isFirst : first.kind = .keyword .transition := List.mem_singleton.mp leads
      cases StateFact.targetOf? (first :: rest) <;> simp only [isKind, isFirst]
  | action _ isKind _ _ =>
      have isFirst : first.kind = .keyword .action := List.mem_singleton.mp leads
      have sameNeighbour :
          (above.map TokenLine.plain).bind StateFact.declaredBy? =
            above.bind fun upper => StateFact.declaredBy? (TokenLine.plain upper) := by
        cases above <;> rfl
      simp only [isKind, isFirst, sameNeighbour]
  | marker isKind =>
      have isFirst : first.kind = .keyword .start ∨ first.kind = .keyword .finish := by
        simpa [StatementShape.leadingKinds] using leads
      rcases isFirst with isFirst | isFirst
      · simp [isKind, isFirst]
      · simp [isKind, isFirst]
  | brace isKind =>
      have isFirst : first.kind = .symbol := List.mem_singleton.mp leads
      simp [isKind, isFirst]

/-- Every significant line has a shape. -/
def Accepted (lines : List Text) : Prop :=
  ∀ line ∈ SourceLine.significant lines, ∃ shape : StatementShape, shape.Reads line.text

theorem accepted_of_check
    {lines : List Text}
    (checked : (StatementCheck.ofLines lines).diagnostics = []) :
    Accepted lines := by
  intro line member
  obtain ⟨shape, isShape⟩ := StatementCheck.diagnostics_eq_nil_iff.mp checked line member
  exact ⟨shape, StatementShape.reads_of_ofText isShape⟩

theorem facts_ofTokens
    {limits : ScanLimits}
    {detailed : Bool}
    {lines : List Text}
    (scanned : (Scan.ofLines limits detailed lines).diagnostics = [])
    (accepted : Accepted lines) :
    ofTokens.facts lines =
      StateFact.ofTokens (Scan.ofLines limits detailed lines).tokens := by
  rw [StateFact.ofTokens_of_clean scanned, facts]
  refine List.filterMap_congr ?_
  rintro ⟨above, line⟩ member
  obtain ⟨shape, reads⟩ := accepted line (SourceLine.mem_significant_of_withAbove member)
  have directlyAbove : ∀ upper ∈ above, upper.number + 1 = line.number := by
    rintro upper rfl
    exact (SourceLine.above_of_withAbove member).2
  rw [fact?_ofTokens directlyAbove reads]

/-! Accepted lines by each reading. -/

/-- An accepted state line has a name between its keyword and its brace. -/
theorem fields_of_state
    {line : SourceLine}
    {shape : StatementShape}
    (reads : shape.Reads line.text)
    (isKind : StatementKind.ofText line.text = .stateDeclaration) :
    ∃ name,
      Text.fields line.text = [StatementShape.keywordField .state, name, ['\x7b']] := by
  cases reads with
  | stateDeclaration name _ isFields =>
      exact ⟨name, isFields⟩
  | transitionDeclaration _ _ otherKind _ _ _ | action _ otherKind _ _ | marker otherKind
  | brace otherKind =>
      rw [isKind] at otherKind
      cases otherKind

theorem total_ofTexts
    {lines : List Text}
    (accepted : Accepted lines) :
    ofTexts.Total lines := by
  constructor
  · intro line member
    obtain ⟨isLine, isKind⟩ := SourceLine.mem_ofKind_iff.mp member
    obtain ⟨shape, reads⟩ := accepted line isLine
    obtain ⟨name, isFields⟩ := fields_of_state reads isKind
    simp [ofTexts, isFields]
  · intro line member
    obtain ⟨isLine, isKind⟩ := SourceLine.mem_ofKind_iff.mp member
    obtain ⟨shape, reads⟩ := accepted line isLine
    cases reads with
    | transitionDeclaration parts _ _ isParts _ _ =>
        simp [ofTexts, isParts]
    | stateDeclaration _ otherKind _ | action _ otherKind _ _ | marker otherKind
    | brace otherKind =>
        rw [isKind] at otherKind
        cases otherKind

/-- A line that is spelled exactly so is a state line with the name as a field. -/
theorem fields_of_declaredOn?
    {text : Text}
    {name : String}
    (declared : StateFact.declaredOn? text = some name) :
    StatementKind.ofText text = .stateDeclaration ∧
      Text.fields text =
        [StatementShape.keywordField .state, name.toList, ['\x7b']] := by
  obtain ⟨rfl, noBlank, nonempty⟩ := StateFact.declaredOn?_eq_some_iff.mp declared
  have written :
      "state ".toList ++ (name.toList ++ " \x7b".toList) =
        StatementShape.keywordField .state ++ ' ' :: (name.toList ++ ' ' :: ['\x7b']) := rfl
  refine ⟨rfl, ?_⟩
  rw [written, StatementShape.fields_keyword,
    Text.fields_append noBlank nonempty (by decide)]
  rfl

theorem grounded_ofTexts (lines : List Text) :
    ofTexts.Grounded lines := by
  intro line _ name isAdjacent
  obtain ⟨isKind, isFields⟩ := fields_of_declaredOn? isAdjacent
  exact ⟨isKind, by simp [ofTexts, isFields]⟩

/-- A line gives its name to the action below if it is a keyword, a name, and a brace. -/
theorem declaredBy?_eq_some
    {line : TokenLine}
    {name : String}
    (declared : StateFact.declaredBy? line = some name) :
    ∃ keyword nameToken opening,
      line.tokens = [keyword, nameToken, opening] ∧
        keyword.kind = .keyword .state ∧ StateFact.identifier? nameToken = some name := by
  unfold StateFact.declaredBy? at declared
  split at declared
  · rename_i keyword nameToken opening isTokens
    split at declared
    · rename_i isForm
      simp only [Bool.and_eq_true, decide_eq_true_eq] at isForm
      exact ⟨keyword, nameToken, opening, isTokens, isForm.1, declared⟩
    · cases declared
  · cases declared

theorem grounded_ofTokens
    {lines : List Text}
    (accepted : Accepted lines) :
    ofTokens.Grounded lines := by
  intro line member name isAdjacent
  obtain ⟨shape, reads⟩ := accepted line member
  obtain ⟨first, rest, isTokens, leads⟩ := TokenLine.leading_token_of_reads reads
  obtain ⟨keyword, nameToken, opening, isLine, isKeyword, isName⟩ :=
    declaredBy?_eq_some isAdjacent
  rw [isTokens] at isLine
  cases isLine
  rw [isKeyword] at leads
  constructor
  · cases reads with
    | stateDeclaration _ isKind _ =>
        exact isKind
    | transitionDeclaration | action | marker | brace =>
        exact absurd leads (by decide)
  · simp [ofTokens, isTokens, isName]

/-- A state line with a proper name is three tokens. -/
theorem tokens_of_isName
    {line : SourceLine}
    {name : Text}
    (isFields :
      Text.fields line.text = [StatementShape.keywordField .state, name, ['\x7b']])
    (isName : Lexeme.IsName name) :
    (TokenLine.plain line).tokens =
      [Token.ofLexeme line.number (.word Keyword.state.spelling.toList),
        Token.ofLexeme line.number (.word name),
        Token.ofLexeme line.number (.mark '\x7b')] := by
  obtain ⟨rest, isText, begins, isRest⟩ := Lexeme.ofText_state_line isFields
  have whole : Lexeme.ofText (name ++ rest) = [.word name, .mark '\x7b'] := by
    rw [← isRest]
    refine Lexeme.ofText_word isName.isWord ?_
    intro next isNext
    exact Pattern.continuesWord_of_blank (begins next isNext)
  rw [TokenLine.tokens_of_ofText isText, whole]
  rfl

theorem identifier?_of_isName
    {name : Text}
    (isName : Lexeme.IsName name)
    (number : Nat) :
    StateFact.identifier? (Token.ofLexeme number (.word name)) =
      some (String.ofList name) := by
  rw [StateFact.identifier?, Token.ofLexeme, Lexeme.kind_name isName]
  rfl

/-- By tokens a state line has its name exactly if the name is proper. -/
theorem name?_ofTokens_eq_iff
    {line : SourceLine}
    {name : Text}
    (isFields :
      Text.fields line.text = [StatementShape.keywordField .state, name, ['\x7b']]) :
    ofTokens.name? line = some (String.ofList name) ↔ Lexeme.IsName name := by
  constructor
  · intro isName
    obtain ⟨rest, isText, _⟩ := Lexeme.ofText_state_line isFields
    have isTokens := TokenLine.tokens_of_ofText isText
    cases cut : Lexeme.ofText (name ++ rest) with
    | nil =>
        simp [ofTokens, isTokens, cut] at isName
    | cons lexeme more =>
        simp only [ofTokens, isTokens, cut, List.map_cons, List.tail_cons, List.head?_cons,
          Option.bind_some, StateFact.identifier?] at isName
        split at isName
        · rename_i isIdentifier
          have isLexeme : lexeme ∈ Lexeme.ofText (name ++ rest) := by simp [cut]
          have sameText : lexeme.text = name :=
            String.ofList_injective (Option.some.inj isName)
          rw [← sameText]
          exact Lexeme.isName_of_kind isLexeme isIdentifier
        · cases isName
  · intro isName
    simp [ofTokens, tokens_of_isName isFields isName, identifier?_of_isName isName]

/-- A state line with a proper name gives it to the action below, by tokens. -/
theorem adjacent?_ofTokens
    {line : SourceLine}
    {name : Text}
    (isFields :
      Text.fields line.text = [StatementShape.keywordField .state, name, ['\x7b']])
    (isName : Lexeme.IsName name) :
    ofTokens.adjacent? line = some (String.ofList name) := by
  have isKeyword :
      (Token.ofLexeme line.number (.word Keyword.state.spelling.toList)).kind =
        .keyword .state :=
    Lexeme.kind_keyword .state
  have isBrace :
      (Token.ofLexeme line.number (.mark '\x7b')).isSymbol "\x7b" = true :=
    rfl
  simp [ofTokens, StateFact.declaredBy?, tokens_of_isName isFields isName, isKeyword,
    isBrace, identifier?_of_isName isName]

/-- All state lines have proper names. -/
def ProperNames (lines : List Text) : Prop :=
  ∀ line ∈ SourceLine.ofKind .stateDeclaration lines,
    ∀ name, (Text.fields line.text)[1]? = some name → Lexeme.IsName name

theorem properNames_iff
    {lines : List Text}
    (accepted : Accepted lines) :
    ProperNames lines ↔
      ∀ line ∈ SourceLine.ofKind .stateDeclaration lines,
        ofTokens.name? line = ofTexts.name? line := by
  refine forall₂_congr ?_
  intro line member
  obtain ⟨isLine, isKind⟩ := SourceLine.mem_ofKind_iff.mp member
  obtain ⟨shape, reads⟩ := accepted line isLine
  obtain ⟨name, isFields⟩ := fields_of_state reads isKind
  have byText : ofTexts.name? line = some (String.ofList name) := by
    simp [ofTexts, isFields]
  rw [byText, name?_ofTokens_eq_iff isFields]
  simp [isFields]

theorem actsFor_ofTokens
    {lines : List Text}
    (proper : ProperNames lines)
    {name : String}
    (acts : ofTexts.ActsFor lines name) :
    ofTokens.ActsFor lines name := by
  obtain ⟨upper, line, isPair, isAction, isAdjacent⟩ := acts
  obtain ⟨isKind, isFields⟩ := fields_of_declaredOn? isAdjacent
  have isUpper := (SourceLine.above_of_withAbove isPair).1
  have isName : Lexeme.IsName name.toList :=
    proper upper (SourceLine.mem_ofKind_iff.mpr ⟨isUpper, isKind⟩) name.toList
      (by simp [isFields])
  refine ⟨upper, line, isPair, isAction, ?_⟩
  rw [adjacent?_ofTokens isFields isName, String.ofList_toList]

end LineReading

namespace Analysis

/-- Two analyses tell the same. -/
structure Alike (first second : Analysis) : Prop where
  states :
    first.states = second.states
  undefinedReferences :
    first.undefinedReferences = second.undefinedReferences
  diagnostics :
    first.diagnostics = second.diagnostics

/-- Analyses of readings tell the same exactly if the verdicts are the same. -/
theorem alike_iff
    (policy : AttributionPolicy)
    {first second : StateFacts}
    (firstOrdered : first.Ordered)
    (secondOrdered : second.Ordered) :
    Alike (ofWalk (Walk.ofFacts policy first)) (ofWalk (Walk.ofFacts policy second)) ↔
      first.states policy = second.states policy ∧
        first.undefined = second.undefined ∧
          first.errors policy = second.errors policy := by
  have undefinedOf :
      ∀ {facts : StateFacts}, facts.Ordered →
        (ofWalk (Walk.ofFacts policy facts)).undefinedReferences = facts.undefined :=
    fun ordered => StateFacts.ofFacts_undefinedReferences policy ordered
  constructor
  · rintro ⟨sameStates, sameUndefined, sameDiagnostics⟩
    rw [StateFacts.ofFacts_states policy firstOrdered,
      StateFacts.ofFacts_states policy secondOrdered] at sameStates
    rw [undefinedOf firstOrdered, undefinedOf secondOrdered] at sameUndefined
    rw [StateFacts.ofFacts_diagnostics policy firstOrdered,
      StateFacts.ofFacts_diagnostics policy secondOrdered] at sameDiagnostics
    exact ⟨sameStates, sameUndefined,
      SemanticError.toDiagnostic_injective.list_map sameDiagnostics⟩
  · rintro ⟨sameStates, sameUndefined, sameErrors⟩
    refine ⟨?_, ?_, ?_⟩
    · rw [StateFacts.ofFacts_states policy firstOrdered,
        StateFacts.ofFacts_states policy secondOrdered, sameStates]
    · rw [undefinedOf firstOrdered, undefinedOf secondOrdered, sameUndefined]
    · rw [StateFacts.ofFacts_diagnostics policy firstOrdered,
        StateFacts.ofFacts_diagnostics policy secondOrdered, sameErrors]

/--
On a unit that is scanned and accepted without diagnostics the analyses by lines
and by tokens tell the same exactly if every state name is a proper one, every
transition has an identifier directly behind its last arrow, the third parts and
the last arrows lead to the same undeclared targets, and, where only actions
directly below declarations count, no state owes its content to a declaration
that is spelled in another way.
-/
theorem alike_by_lines_and_tokens_iff
    (policy : AttributionPolicy)
    (limits : ScanLimits)
    (detailed : Bool)
    (lines : List Text)
    (scanned : (Scan.ofLines limits detailed lines).diagnostics = [])
    (checked : (StatementCheck.ofLines lines).diagnostics = []) :
    Alike
        (ofUnit policy .lines lines (Scan.ofLines limits detailed lines).tokens)
        (ofUnit policy .tokens lines (Scan.ofLines limits detailed lines).tokens) ↔
      LineReading.ProperNames lines ∧
        (∀ line ∈ SourceLine.ofKind .transitionDeclaration lines,
          LineReading.ofTokens.target? line ≠ none) ∧
        LineReading.ofTexts.undeclared lines = LineReading.ofTokens.undeclared lines ∧
        (policy = .adjacentDeclaration →
          ∀ name,
            LineReading.ofTokens.ActsFor lines name →
            LineReading.ofTexts.ActsFor lines name) := by
  have accepted := LineReading.accepted_of_check checked
  have total := LineReading.total_ofTexts accepted
  have groundedTexts := LineReading.grounded_ofTexts lines
  have groundedTokens := LineReading.grounded_ofTokens accepted
  have byLines :
      ofUnit policy .lines lines (Scan.ofLines limits detailed lines).tokens =
        ofWalk (Walk.ofFacts policy (LineReading.ofTexts.facts lines)) := by
    rw [LineReading.facts_ofTexts]
    rfl
  have byTokens :
      ofUnit policy .tokens lines (Scan.ofLines limits detailed lines).tokens =
        ofWalk (Walk.ofFacts policy (LineReading.ofTokens.facts lines)) := by
    rw [LineReading.facts_ofTokens scanned accepted]
    rfl
  rw [byLines, byTokens,
    alike_iff policy (LineReading.facts_ordered _ lines)
      (LineReading.facts_ordered _ lines)]
  constructor
  · rintro ⟨sameStates, sameUndefined, sameErrors⟩
    have agree :=
      LineReading.agree_of_same_verdict total groundedTexts groundedTokens sameStates
        sameUndefined sameErrors
    refine ⟨(LineReading.properNames_iff accepted).mpr agree.names, agree.targets,
      agree.undeclared, ?_⟩
    intro isAdjacent name acts
    exact (agree.content isAdjacent name).mpr acts
  · rintro ⟨proper, targets, undeclared, content⟩
    have agree :
        LineReading.Agree policy LineReading.ofTexts LineReading.ofTokens lines := by
      refine ⟨(LineReading.properNames_iff accepted).mp proper, targets, undeclared, ?_⟩
      intro isAdjacent name
      exact ⟨LineReading.actsFor_ofTokens proper, content isAdjacent name⟩
    exact agree.same_verdict total groundedTexts groundedTokens

/-- A unit on which the analyses tell the same, although a line has two arrows. -/
theorem alike_by_lines_and_tokens_iff_of_declared_targets :
    LineReading.ProperNames
        (["state A \x7b", "action a;", "transition t: e -> A -> A \x7b"].map String.toList) ∧
      (∀ line ∈
          SourceLine.ofKind .transitionDeclaration
            (["state A \x7b", "action a;", "transition t: e -> A -> A \x7b"].map
              String.toList),
        LineReading.ofTokens.target? line ≠ none) := by
  have alike :=
    (alike_by_lines_and_tokens_iff .adjacentDeclaration .standard false
      (["state A \x7b", "action a;", "transition t: e -> A -> A \x7b"].map String.toList)
      (by decide +kernel) (by decide +kernel)).mp
      ⟨by decide +kernel, by decide +kernel, by decide +kernel⟩
  exact ⟨alike.1, alike.2.1⟩

/-- With a second arrow the analyses refer to different states. -/
theorem not_alike_by_lines_and_tokens_of_second_arrow :
    (Scan.ofLines .standard false
        ["transition t: e -> A -> B \x7b".toList]).diagnostics = [] ∧
      (StatementCheck.ofLines ["transition t: e -> A -> B \x7b".toList]).diagnostics = [] ∧
        ¬ Alike
          (ofUnit .adjacentDeclaration .lines ["transition t: e -> A -> B \x7b".toList]
            (Scan.ofLines .standard false
              ["transition t: e -> A -> B \x7b".toList]).tokens)
          (ofUnit .adjacentDeclaration .tokens ["transition t: e -> A -> B \x7b".toList]
            (Scan.ofLines .standard false
              ["transition t: e -> A -> B \x7b".toList]).tokens) := by
  refine ⟨by decide +kernel, by decide +kernel, ?_⟩
  intro alike
  exact absurd alike.undefinedReferences (by decide +kernel)

end Analysis

end Smsl
