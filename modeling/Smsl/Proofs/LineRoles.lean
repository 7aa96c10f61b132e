import Smsl.Proofs.InputAgreement
import Smsl.Proofs.PrintedTokens

namespace Smsl

/-!
# What the walks take lines for

The walk by lines tells a statement by the text that its line begins with, and
the walk by tokens by the kind of its first token.  An accepted line begins with
a token that tells its shape, whatever blank stands behind the keyword and
whatever follows further on.  So both walks take the same lines of an accepted
unit for declarations, transitions and actions, and part only in what they then
read off them.
-/

/-- What a walk takes a line for. -/
inductive LineRole where
  | declaration
  | transition
  | action
  deriving Repr, DecidableEq

namespace LineRole

/-- What the walk by lines takes a line for, by its kind. -/
def ofKind? : StatementKind → Option LineRole
  | .stateDeclaration => some .declaration
  | .transitionDeclaration => some .transition
  | .action => some .action
  | .marker => none
  | .brace => none
  | .unrecognized => none

/-- What a line is taken for by the kind of its first token. -/
def ofLeading? : TokenKind → Option LineRole
  | .keyword .state => some .declaration
  | .keyword .transition => some .transition
  | .keyword .action => some .action
  | _ => none

/-- What the walk by tokens takes a line of tokens for. -/
def ofTokens? (tokens : List Token) : Option LineRole :=
  tokens.head?.bind fun first => ofLeading? first.kind

/-- What the walk by lines takes the lines of a unit for, with their numbers. -/
def byLines (lines : List Text) : List (Nat × LineRole) :=
  (SourceLine.significant lines).filterMap fun line =>
    (ofKind? (StatementKind.ofText line.text)).map fun role => (line.number, role)

/-- What the walk by tokens takes the lines of a unit for, with their numbers. -/
def byTokens (tokens : List Token) : List (Nat × LineRole) :=
  (TokenLine.group tokens).filterMap fun line =>
    (ofTokens? line.tokens).map fun role => (line.number, role)

/-- What a line was taken for when a fact was read off it. -/
def ofFact : StateFact → LineRole
  | .declares _ => .declaration
  | .refersTo _ => .transition
  | .badTransition => .transition
  | .acts _ => .action

/-- What the lines were taken for that facts were read off. -/
def ofFacts (facts : StateFacts) : List (Nat × LineRole) :=
  facts.map fun fact => (fact.1, ofFact fact.2)

/-- A declaration, from which a walk may fail to read a name. -/
def isDeclaration (numbered : Nat × LineRole) : Bool :=
  numbered.2 = .declaration

/-! Each walk reads facts off the lines that it takes for something, and only off these. -/

/-- The walk by lines reads a fact off a line for what its kind makes of it. -/
theorem ofKind?_of_fact
    {raw : Array Text}
    {line : SourceLine}
    {fact : StateFact}
    (isFact : StateFact.ofLine? raw line = some fact) :
    ofKind? (StatementKind.ofText line.text) = some (ofFact fact) := by
  unfold StateFact.ofLine? at isFact
  cases kind : StatementKind.ofText line.text with
  | stateDeclaration =>
      simp only [kind, Option.map_eq_some_iff] at isFact
      obtain ⟨name, _, rfl⟩ := isFact
      rfl
  | transitionDeclaration =>
      simp only [kind] at isFact
      split at isFact
      · cases isFact
        rfl
      · cases isFact
        rfl
  | action =>
      simp only [kind] at isFact
      cases isFact
      rfl
  | marker | brace | unrecognized =>
      simp only [kind] at isFact
      cases isFact

/-- The walk by tokens reads a fact off a line for what its first token makes of it. -/
theorem ofTokens?_of_fact
    {previous : Option TokenLine}
    {line : TokenLine}
    {fact : StateFact}
    (isFact : StateFact.ofTokenLine? previous line = some fact) :
    ofTokens? line.tokens = some (ofFact fact) := by
  unfold StateFact.ofTokenLine? StateFact.ofNeighbours? at isFact
  split at isFact
  · cases isFact
  · rename_i first rest isTokens
    rw [isTokens, ofTokens?, List.head?_cons, Option.bind_some]
    split at isFact
    · rename_i isState
      obtain ⟨name, _, rfl⟩ := Option.map_eq_some_iff.mp isFact
      rw [isState]
      rfl
    · rename_i isTransition
      rw [isTransition]
      split at isFact
      · cases isFact
        rfl
      · cases isFact
        rfl
    · rename_i isAction
      cases isFact
      rw [isAction]
      rfl
    · cases isFact

/-- The walk by tokens reads a fact off every line that it takes for no declaration. -/
theorem exists_fact_of_ofTokens?
    {line : TokenLine}
    {role : LineRole}
    (isRole : ofTokens? line.tokens = some role)
    (notDeclaration : role ≠ .declaration)
    (previous : Option TokenLine) :
    ∃ fact, StateFact.ofTokenLine? previous line = some fact := by
  obtain ⟨first, isFirst, leads⟩ := Option.bind_eq_some_iff.mp isRole
  obtain ⟨rest, isTokens⟩ := List.head?_eq_some_iff.mp isFirst
  unfold ofLeading? at leads
  unfold StateFact.ofTokenLine? StateFact.ofNeighbours?
  split at leads
  · cases leads
    exact absurd rfl notDeclaration
  · rename_i isTransition
    simp only [isTokens, isTransition]
    split
    · exact ⟨_, rfl⟩
    · exact ⟨_, rfl⟩
  · rename_i isAction
    simp only [isTokens, isAction]
    exact ⟨_, rfl⟩
  · cases leads

theorem byTokens_eq_withPrevious (tokens : List Token) :
    byTokens tokens =
      (StateFact.withPrevious tokens).filterMap fun pair =>
        (ofTokens? pair.2.tokens).map fun role => (pair.2.number, role) := by
  rw [byTokens, ← StateFact.map_snd_withPrevious, List.filterMap_map]
  rfl

theorem ofFacts_ofTokens (tokens : List Token) :
    ofFacts (StateFact.ofTokens tokens) =
      (StateFact.withPrevious tokens).filterMap fun pair =>
        (StateFact.ofTokenLine? pair.1 pair.2).map fun fact =>
          (pair.2.number, ofFact fact) := by
  rw [ofFacts, StateFact.ofTokens_eq, List.map_filterMap]
  refine List.filterMap_congr ?_
  intro pair _
  rw [Option.map_map]
  rfl

/-- What is picked from the images of a list is a part of them. -/
theorem filterMap_sublist
    {items : List α}
    {picked all : α → Option β}
    (isPicked : ∀ item ∈ items, ∀ image, picked item = some image → all item = some image) :
    (items.filterMap picked).Sublist (items.filterMap all) := by
  have same :
      items.filterMap picked =
        (items.filter fun item => (picked item).isSome).filterMap all := by
    rw [List.filterMap_filter]
    refine List.filterMap_congr ?_
    intro item member
    cases isImage : picked item with
    | none =>
        rfl
    | some image =>
        exact (isPicked item member image isImage).symm
  rw [same]
  exact List.filter_sublist.filterMap all

/-- The walk by tokens reads no fact off a line that it takes for something else. -/
theorem ofFacts_ofTokens_sublist (tokens : List Token) :
    (ofFacts (StateFact.ofTokens tokens)).Sublist (byTokens tokens) := by
  rw [ofFacts_ofTokens, byTokens_eq_withPrevious]
  refine filterMap_sublist ?_
  intro pair _ image isPicked
  obtain ⟨fact, isFact, rfl⟩ := Option.map_eq_some_iff.mp isPicked
  rw [ofTokens?_of_fact isFact]
  rfl

/-- All that the walk by tokens passes over are declarations. -/
theorem filter_ofFacts_ofTokens (tokens : List Token) :
    (ofFacts (StateFact.ofTokens tokens)).filter (fun numbered => !isDeclaration numbered) =
      (byTokens tokens).filter fun numbered => !isDeclaration numbered := by
  rw [ofFacts_ofTokens, byTokens_eq_withPrevious, List.filter_filterMap, List.filter_filterMap]
  refine List.filterMap_congr ?_
  rintro ⟨previous, line⟩ _
  cases isFact : StateFact.ofTokenLine? previous line with
  | some fact =>
      rw [ofTokens?_of_fact isFact]
      rfl
  | none =>
      cases isRole : ofTokens? line.tokens with
      | none =>
          rfl
      | some role =>
          by_cases declares : role = .declaration
          · subst declares
            rfl
          · obtain ⟨fact, found⟩ := exists_fact_of_ofTokens? isRole declares previous
            rw [isFact] at found
            cases found

/-- The walk by lines reads a fact off every accepted line that it takes for something. -/
theorem ofFacts_ofLines
    {lines : List Text}
    (accepted : LineReading.Accepted lines) :
    ofFacts (StateFact.ofLines lines) = byLines lines := by
  rw [ofFacts, StateFact.ofLines, List.map_filterMap]
  refine List.filterMap_congr ?_
  intro line member
  obtain ⟨shape, reads⟩ := accepted line member
  cases isFact : StateFact.ofLine? lines.toArray line with
  | some fact =>
      rw [ofKind?_of_fact isFact]
      rfl
  | none =>
      -- Only a state line without a second field gives no fact, and that is not accepted.
      unfold StateFact.ofLine? at isFact
      cases reads with
      | stateDeclaration name isKind isFields =>
          simp [isKind, isFields] at isFact
      | transitionDeclaration parts name isKind isParts _ _ =>
          simp [isKind, isParts] at isFact
      | action field isKind _ _ =>
          simp [isKind] at isFact
      | marker isKind =>
          rw [isKind]
          rfl
      | brace isKind =>
          rw [isKind]
          rfl

end LineRole

/-! The first token of an accepted line, under the limits of the build. -/

/-- A statement begins with a keyword or a symbol. -/
theorem StatementShape.leadingKinds_cases
    {shape : StatementShape}
    {kind : TokenKind}
    (leads : kind ∈ shape.leadingKinds) :
    (∃ keyword, kind = .keyword keyword) ∨ kind = .symbol := by
  cases shape with
  | stateDeclaration | transitionDeclaration | action =>
      exact .inl ⟨_, List.mem_singleton.mp leads⟩
  | marker =>
      rcases List.mem_cons.mp leads with isStart | isEnd
      · exact .inl ⟨_, isStart⟩
      · exact .inl ⟨_, List.mem_singleton.mp isEnd⟩
  | brace =>
      exact .inr (List.mem_singleton.mp leads)

namespace Lexeme

/-- A lexeme that is scanned as a keyword is spelled like it. -/
theorem eq_word_of_kind_keyword
    {lexeme : Lexeme}
    {keyword : Keyword}
    (isKeyword : lexeme.kind = .keyword keyword) :
    lexeme = word keyword.spelling.toList := by
  obtain ⟨text, pattern⟩ := lexeme
  unfold kind at isKeyword
  split at isKeyword
  · rename_i isPattern
    split at isKeyword
    · rename_i found
      cases isKeyword
      have isSpelled := Keyword.ofSpelling?_eq_some_iff.mp found
      have sameText : text = keyword.spelling.toList := by
        rw [← isSpelled, String.toList_ofList]
      cases isPattern
      rw [sameText]
      rfl
    · cases isKeyword
  all_goals cases isKeyword

/-- A lexeme of a line that is scanned as a symbol is an arrow or a punctuation mark. -/
theorem eq_symbol_of_kind
    {text : Text}
    {lexeme : Lexeme}
    (member : lexeme ∈ ofText text)
    (isSymbol : lexeme.kind = .symbol) :
    lexeme = arrow ∨ ∃ character, lexeme = mark character := by
  have matched :
      ∀ pattern, lexeme.pattern = some pattern → pattern.Matches lexeme.text :=
    fun _ isPattern => (segmentation_ofText text).pattern_matches member isPattern
  obtain ⟨spelled, pattern⟩ := lexeme
  unfold kind at isSymbol
  split at isSymbol
  · split at isSymbol
    · cases isSymbol
    · cases isSymbol
  · cases isSymbol
  · cases isSymbol
  · rename_i isArrow
    cases isArrow
    cases matched .arrow rfl
    exact .inl rfl
  · rename_i isMark
    cases isMark
    cases matched .punctuation rfl
    exact .inr ⟨_, rfl⟩
  · cases isSymbol

/-- Nothing is wrong with a lexeme that a statement begins with. -/
theorem error?_of_leading
    {text : Text}
    {lexeme : Lexeme}
    (member : lexeme ∈ ofText text)
    {shape : StatementShape}
    (leads : lexeme.kind ∈ shape.leadingKinds)
    (line : Nat) :
    PlacedLexeme.error? .standard { line, lexeme } = none := by
  rcases StatementShape.leadingKinds_cases leads with ⟨keyword, isKeyword⟩ | isSymbol
  · rw [eq_word_of_kind_keyword isKeyword]
    cases keyword <;> rfl
  · rcases eq_symbol_of_kind member isSymbol with rfl | ⟨character, rfl⟩
    · rfl
    · rfl

end Lexeme

namespace TokenLine

/-- Under the limits of the build an accepted line begins with a token that tells its shape. -/
theorem leading_token_ofLine
    {line : SourceLine}
    {shape : StatementShape}
    (reads : shape.Reads line.text) :
    ∃ first rest,
      (ofLine .standard line).tokens = first :: rest ∧ first.kind ∈ shape.leadingKinds := by
  obtain ⟨first, rest, isTokens, leads⟩ := leading_token_of_reads reads
  rw [plain] at isTokens
  obtain ⟨lexeme, lexemes, isText, rfl, _⟩ := List.map_eq_cons_iff.mp isTokens
  have member : lexeme ∈ Lexeme.ofText line.text := by simp [isText]
  have fine := Lexeme.error?_of_leading member leads line.number
  refine ⟨Token.ofLexeme line.number lexeme,
    (lexemes.map fun other => { line := line.number, lexeme := other }).map
      (PlacedLexeme.toToken .standard), ?_, leads⟩
  rw [ofLine, PlacedLexeme.ofLine, isText, List.map_cons, List.map_cons,
    PlacedLexeme.toToken_eq_ofLexeme fine]

end TokenLine

namespace LineRole

/-- The first token of an accepted line is taken for what the line is. -/
theorem ofTokens?_of_reads
    {line : SourceLine}
    {shape : StatementShape}
    (reads : shape.Reads line.text) :
    ofTokens? (TokenLine.ofLine .standard line).tokens =
      ofKind? (StatementKind.ofText line.text) := by
  obtain ⟨first, rest, isTokens, leads⟩ := TokenLine.leading_token_ofLine reads
  rw [isTokens, ofTokens?, List.head?_cons, Option.bind_some]
  cases reads with
  | stateDeclaration _ isKind _ | transitionDeclaration _ _ isKind _ _ _
  | action _ isKind _ _ | brace isKind =>
      rw [List.mem_singleton.mp leads, isKind]
      rfl
  | marker isKind =>
      rw [isKind]
      rcases List.mem_cons.mp leads with isStart | isEnd
      · rw [isStart]
        rfl
      · rw [List.mem_singleton.mp isEnd]
        rfl

/-- On an accepted unit both walks take the same lines for the same. -/
theorem byLines_eq_byTokens
    {detailed : Bool}
    {lines : List Text}
    (accepted : LineReading.Accepted lines)
    (complete : (Scan.ofLines .standard detailed lines).Complete) :
    byLines lines = byTokens (Scan.ofLines .standard detailed lines).tokens := by
  rw [byTokens, TokenLine.group_tokens complete, List.filterMap_map]
  refine List.filterMap_congr ?_
  intro line member
  obtain ⟨shape, reads⟩ := accepted line member
  rw [Function.comp_apply, ofTokens?_of_reads reads]
  rfl

end LineRole

namespace Scan

/-- The first token of an accepted line that is scanned alone. -/
theorem head?_tokens_of_accepted
    (detailed : Bool)
    {raw : Text}
    {shape : StatementShape}
    (accepted : StatementShape.ofText (SourceLine.sanitize raw) = .ok shape) :
    ∃ first,
      (ofLines .standard detailed [raw]).tokens.head? = some first ∧
        first.kind ∈ shape.leadingKinds := by
  let line : SourceLine := { number := 1, text := SourceLine.sanitize raw }
  have reads : shape.Reads line.text := StatementShape.reads_of_ofText accepted
  obtain ⟨first, rest, isTokens, leads⟩ := TokenLine.leading_token_ofLine reads
  have scanned :
      (ofLines .standard detailed [raw]).tokens =
        (first :: rest).take Limits.maxTokenCount := by
    rw [ofLines_tokens, PlacedLexeme.ofLines_singleton, List.map_take, ← isTokens]
    rfl
  refine ⟨first, ?_, leads⟩
  rw [scanned]
  rfl

end Scan

/-! Both walks over an accepted unit. -/

/--
Two walks over a unit, by its lines and by its tokens, take the same lines for
declarations, transitions and actions.  Every one of these lines gives a fact by
lines; by tokens no other line does, and only declarations may give none.
-/
structure WalkedAlike
    (lines : List Text)
    (tokens : List Token) :
    Prop where
  roles :
    LineRole.byLines lines = LineRole.byTokens tokens
  readByLines :
    LineRole.ofFacts (StateFact.ofLines lines) = LineRole.byLines lines
  readByTokens :
    (LineRole.ofFacts (StateFact.ofTokens tokens)).Sublist (LineRole.byTokens tokens)
  unreadByTokens :
    (LineRole.ofFacts (StateFact.ofTokens tokens)).filter
        (fun numbered => !LineRole.isDeclaration numbered) =
      (LineRole.byTokens tokens).filter fun numbered => !LineRole.isDeclaration numbered

/--
Under the limits of the build the first token of an accepted line tells its
shape, and the walks by lines and by tokens over an accepted unit that the token
limit does not cut take the same lines for the same statements.
-/
theorem StatementShape.told_by_first_token
    (detailed : Bool) :
    (∀ raw shape,
        StatementShape.ofText (SourceLine.sanitize raw) = .ok shape →
        ∃ first,
          (Scan.ofLines .standard detailed [raw]).tokens.head? = some first ∧
            first.kind ∈ shape.leadingKinds) ∧
      ∀ lines,
        (StatementCheck.ofLines lines).diagnostics = [] →
        (Scan.ofLines .standard detailed lines).Complete →
        WalkedAlike lines (Scan.ofLines .standard detailed lines).tokens := by
  constructor
  · intro raw shape accepted
    exact Scan.head?_tokens_of_accepted detailed accepted
  · intro lines checked complete
    have accepted := LineReading.accepted_of_check checked
    exact
      { roles := LineRole.byLines_eq_byTokens accepted complete
        readByLines := LineRole.ofFacts_ofLines accepted
        readByTokens := LineRole.ofFacts_ofTokens_sublist _
        unreadByTokens := LineRole.filter_ofFacts_ofTokens _ }

/--
A unit with wide blanks behind its keywords, a name that is no identifier, and a
lexeme that no pattern matches.
-/
theorem StatementShape.told_by_first_token_of_wide_blanks :
    (∃ first,
        (Scan.ofLines .standard false ["action\u3000a$; // c".toList]).tokens.head? =
            some first ∧
          first.kind ∈ StatementShape.action.leadingKinds) ∧
      WalkedAlike
        (["state 1 \x7b", "action\u3000a$;", "transition\u00a0t: e -> A \x7b", "end;",
          "\x7d"].map String.toList)
        (Scan.ofLines .standard false
          (["state 1 \x7b", "action\u3000a$;", "transition\u00a0t: e -> A \x7b", "end;",
            "\x7d"].map String.toList)).tokens := by
  obtain ⟨ofLine, ofUnit⟩ := StatementShape.told_by_first_token false
  refine ⟨ofLine _ .action (by decide +kernel), ofUnit _ (by decide +kernel) ?_⟩
  exact Scan.complete_iff.mpr (by decide +kernel)

end Smsl
