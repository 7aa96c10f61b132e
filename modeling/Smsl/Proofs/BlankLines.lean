import Smsl.Proofs.LineLocality
import Smsl.Proofs.SanitizedLines
import Smsl.Proofs.TokenGroups

namespace Smsl

/-!
# Lines without text

A line of which no text is left moves the numbers of the lines below it and
changes nothing else that the stages make of a unit, with one exception: it may
stand between the declaration of a state and the action directly below that
gives content to this state.
-/

namespace SourceLine

theorem number_lt
    {start : Nat}
    {lines : List Text}
    {line : SourceLine}
    (member : line ∈ significantFrom start lines) :
    line.number < start + lines.length := by
  obtain ⟨index, raw, found, isLine⟩ := mem_significantFrom_iff.mp member
  obtain ⟨inside, _⟩ := List.getElem?_eq_some_iff.mp found
  rw [(ofRaw?_eq_some_iff.mp isLine).2]
  exact Nat.add_lt_add_left inside start

/-- A line without text only moves the significant lines below it. -/
theorem significant_insert
    (before after : List Text)
    {blank : Text}
    (empty : sanitize blank = []) :
    significant (before ++ blank :: after) =
      (significant (before ++ after)).map (renumber (.gapAfter before.length)) := by
  have skipped : ofRaw? blank (1 + before.length) = none := ofRaw?_eq_none_iff.mpr empty
  have upper :
      (significantFrom 1 before).map (renumber (.gapAfter before.length)) =
        significantFrom 1 before := by
    refine (List.map_congr_left ?_).trans (List.map_id _)
    intro line member
    have above : line.number ≤ before.length := by
      have less := number_lt member
      omega
    simp [renumber, Renumbering.gapAfter, above]
  have lower :
      (significantFrom (1 + before.length) after).map (renumber (.gapAfter before.length)) =
        significantFrom (1 + before.length + 1) after := by
    rw [significantFrom_shift (1 + before.length) 1]
    refine List.map_congr_left ?_
    intro line member
    have below : ¬ line.number ≤ before.length := by
      have least := start_le_number member
      omega
    simp [renumber, Renumbering.gapAfter, Renumbering.shift, below]
  rw [significant_eq_from, significant_eq_from, significantFrom_append, significantFrom_append,
    significantFrom_cons, skipped, List.map_append, upper, lower]
  rfl

end SourceLine

/-! What the stages make of moved lines. -/

section Moved

variable {renumbering : Renumbering}
variable {lines others : List Text}
variable
  (moved :
    SourceLine.significant others =
      (SourceLine.significant lines).map (SourceLine.renumber renumbering))
include moved

theorem PlacedLexeme.ofLines_moved :
    ofLines others = (ofLines lines).map (renumber renumbering) := by
  rw [ofLines, moved, flatMap_ofLine_renumber, ofLines]

theorem Scan.tokens_moved
    (limits : ScanLimits)
    (detailed : Bool) :
    (ofLines limits detailed others).tokens =
      (ofLines limits detailed lines).tokens.map (Token.renumber renumbering) := by
  rw [ofLines_tokens, ofLines_tokens, PlacedLexeme.ofLines_moved moved, ← List.map_take,
    List.map_map, List.map_map]
  exact List.map_congr_left fun placed _ => placed.toToken_renumber renumbering limits

theorem Scan.diagnostics_moved
    (limits : ScanLimits)
    (detailed : Bool) :
    (ofLines limits detailed others).diagnostics =
      (ofLines limits detailed lines).diagnostics.map (Diagnostic.renumber renumbering) := by
  have errors :
      (ofLines limits detailed others).errors =
        (ofLines limits detailed lines).errors.map (LexicalError.renumber renumbering) := by
    simp only [ofLines_errors, PlacedLexeme.ofLines_moved moved, ← List.map_take,
      ← List.map_drop, List.filterMap_map, List.map_append, List.map_filterMap,
      Function.comp_def, PlacedLexeme.error?_renumber, List.head?_map]
    cases ((PlacedLexeme.ofLines lines).drop limits.maxTokenCount).head? <;> rfl
  rw [diagnostics, diagnostics, errors, List.map_map, List.map_map]
  exact List.map_congr_left fun error _ => error.toDiagnostic_renumber renumbering

theorem StatementCheck.statements_moved :
    (ofLines others).statements =
      (ofLines lines).statements.map (Statement.renumber renumbering) := by
  rw [statements_ofLines, statements_ofLines, moved,
    SourceLine.filterMap_renumber (statement?_renumber renumbering)]

theorem StatementCheck.diagnostics_moved :
    (ofLines others).diagnostics =
      (ofLines lines).diagnostics.map (Diagnostic.renumber renumbering) := by
  rw [diagnostics, diagnostics, errors_ofLines, errors_ofLines, moved,
    SourceLine.filterMap_renumber (error?_renumber renumbering), List.map_map, List.map_map]
  exact List.map_congr_left fun error _ => error.toDiagnostic_renumber renumbering

theorem Generation.quadruples_moved :
    (ofLines others).quadruples = (ofLines lines).quadruples := by
  rw [quadruples_ofLines, quadruples_ofLines, moved, List.filterMap_map]
  exact List.filterMap_congr fun line _ => lowered?_renumber renumbering line

theorem Generation.errors_moved :
    (ofLines others).errors =
      (ofLines lines).errors.map (GenerationError.renumber renumbering) := by
  rw [errors_ofLines, errors_ofLines, moved,
    SourceLine.filterMap_renumber (failed?_renumber renumbering)]

end Moved

/-! What the lines say about states. -/

namespace StateFact

/-- A line without text takes away only the declaration above the line directly below. -/
theorem declaredAbove?_insert
    (before after : List Text)
    {blank : Text}
    (empty : SourceLine.sanitize blank = [])
    (number : Nat) :
    declaredAbove? (before ++ blank :: after).toArray
        ((Renumbering.gapAfter before.length).apply number) =
      if number = before.length + 1 then
        none
      else
        declaredAbove? (before ++ after).toArray number := by
  have cut : before.length = (before.map SourceLine.sanitize).length := by
    rw [List.length_map]
  simp only [declaredAbove?_eq, List.map_append, List.map_cons, empty]
  rw [cut]
  generalize before.map SourceLine.sanitize = upper
  generalize after.map SourceLine.sanitize = lower
  rcases Nat.lt_trichotomy number (upper.length + 1) with above | rfl | below
  · have kept : (Renumbering.gapAfter upper.length).apply number = number :=
      if_pos (Nat.lt_succ_iff.mp above)
    rw [kept, if_neg (Nat.ne_of_lt above)]
    by_cases first : number < 2
    · rw [if_pos first, if_pos first]
    · have inside : number - 2 < upper.length := by
        omega
      rw [List.getElem?_append_left inside, List.getElem?_append_left inside]
  · have moved :
        (Renumbering.gapAfter upper.length).apply (upper.length + 1) = upper.length + 2 :=
      if_neg (by omega)
    simp [moved, declaredOn?_nil]
  · obtain ⟨further, rfl⟩ := Nat.exists_eq_add_of_le below
    have moved :
        (Renumbering.gapAfter upper.length).apply (upper.length + 1 + 1 + further) =
          upper.length + (further + 1) + 2 := by
      simp only [Renumbering.gapAfter]
      split_ifs <;> omega
    have old : upper.length + 1 + 1 + further = upper.length + further + 2 := by
      omega
    rw [moved, old, if_neg (by omega), if_neg (by omega), if_neg (by omega), Nat.add_sub_cancel,
      Nat.add_sub_cancel, List.getElem?_append_right (by omega),
      List.getElem?_append_right (by omega), Nat.add_sub_cancel_left, Nat.add_sub_cancel_left,
      List.getElem?_cons_succ]

theorem ofLine?_insert
    (before after : List Text)
    {blank : Text}
    (empty : SourceLine.sanitize blank = [])
    (line : SourceLine) :
    ofLine? (before ++ blank :: after).toArray (line.renumber (.gapAfter before.length)) =
      (ofLine? (before ++ after).toArray line).map fun fact =>
        if line.number = before.length + 1 then fact.detached else fact := by
  have sameText : (line.renumber (.gapAfter before.length)).text = line.text := rfl
  have moved :
      (line.renumber (.gapAfter before.length)).number =
        (Renumbering.gapAfter before.length).apply line.number := rfl
  simp only [ofLine?, sameText]
  cases StatementKind.ofText line.text with
  | stateDeclaration =>
      cases (Text.fields line.text)[1]? <;> simp [detached]
  | transitionDeclaration =>
      cases TransitionParts.ofText? line.text <;> simp [detached]
  | action =>
      simp only [moved, declaredAbove?_insert before after empty, Option.map_some]
      split_ifs <;> rfl
  | marker | brace | unrecognized =>
      rfl

/-- A line without text parts what the lines say about states. -/
theorem ofLines_insert
    (before after : List Text)
    {blank : Text}
    (empty : SourceLine.sanitize blank = []) :
    ofLines (before ++ blank :: after) =
      StateFacts.part before.length (ofLines (before ++ after)) := by
  simp only [ofLines, SourceLine.significant_insert before after empty, List.filterMap_map,
    StateFacts.part, List.map_filterMap]
  refine List.filterMap_congr ?_
  intro line _
  simp only [Function.comp_apply, ofLine?_insert before after empty, Option.map_map]
  rfl

/-- Only an action line acts, for the declaration directly above. -/
theorem acts_of_ofLine?
    {lines : Array Text}
    {line : SourceLine}
    {adjacent : Option String}
    (isFact : ofLine? lines line = some (.acts adjacent)) :
    StatementKind.ofText line.text = .action ∧
      declaredAbove? lines line.number = adjacent := by
  unfold ofLine? at isFact
  cases kind : StatementKind.ofText line.text with
  | stateDeclaration =>
      simp [kind] at isFact
  | transitionDeclaration =>
      cases parts : TransitionParts.ofText? line.text <;> simp [kind, parts] at isFact
  | action =>
      simpa [kind] using isFact
  | marker | brace | unrecognized =>
      simp [kind] at isFact

theorem acts_of_ofTokenLine?
    {previous : Option TokenLine}
    {line : TokenLine}
    {adjacent : Option String}
    (isFact : ofTokenLine? previous line = some (.acts adjacent)) :
    line.tokens.head?.map Token.kind = some (.keyword .action) ∧
      (previous.filter fun above => above.number + 1 == line.number).bind declaredBy? =
        adjacent := by
  unfold ofTokenLine? ofNeighbours? at isFact
  obtain ⟨number, tokens⟩ := line
  cases tokens with
  | nil =>
      cases isFact
  | cons first rest =>
      cases kind : first.kind with
      | keyword word =>
          cases word with
          | state =>
              cases declared : rest.head?.bind identifier? <;> simp [kind, declared] at isFact
          | transition =>
              cases target : targetOf? (first :: rest) <;> simp [kind, target] at isFact
          | action =>
              simpa [kind] using isFact
          | event | start | finish =>
              simp [kind] at isFact
      | identifier | number | string | symbol | unknown =>
          simp [kind] at isFact

end StateFact

/-! The exception. -/

namespace Analysis

/--
A line without text that is put after the lines of the first list separates a
declaration from an action: content goes by adjacent declarations, the line
above is read as the declaration of a state, and the line below as an action.
-/
def Separates
    (policy : AttributionPolicy)
    (input : SemanticInput)
    (before after : List Text)
    (tokens : List Token)
    (name : String) :
    Prop :=
  policy = .adjacentDeclaration ∧
    match input with
    | .lines =>
        ∃ upper ∈ before.getLast?, ∃ lower ∈ after.head?,
          StateFact.declaredOn? (SourceLine.sanitize upper) = some name ∧
            StatementKind.ofText (SourceLine.sanitize lower) = .action
    | .tokens =>
        ∃ upper ∈ TokenLine.group tokens, ∃ lower ∈ TokenLine.group tokens,
          upper.number = before.length ∧
            lower.number = before.length + 1 ∧
              StateFact.declaredBy? upper = some name ∧
                lower.tokens.head?.map Token.kind = some (.keyword .action)

/-- Only one state can be separated from its action. -/
theorem Separates.name_unique
    {policy : AttributionPolicy}
    {input : SemanticInput}
    {before after : List Text}
    {tokens : List Token}
    (ordered : tokens.Pairwise fun first second => first.line ≤ second.line)
    {name other : String}
    (separated : Separates policy input before after tokens name)
    (otherSeparated : Separates policy input before after tokens other) :
    other = name := by
  cases input with
  | lines =>
      obtain ⟨_, upper, isUpper, _, _, isName, _⟩ := separated
      obtain ⟨_, otherUpper, isOther, _, _, isOtherName, _⟩ := otherSeparated
      cases Option.some.inj (isUpper.symm.trans isOther)
      exact Option.some.inj (isOtherName.symm.trans isName)
  | tokens =>
      obtain ⟨_, upper, isUpper, _, _, number, _, isName, _⟩ := separated
      obtain ⟨_, otherUpper, isOther, _, _, otherNumber, _, isOtherName, _⟩ := otherSeparated
      cases TokenLine.eq_of_number_eq ordered isUpper isOther (number.trans otherNumber.symm)
      exact Option.some.inj (isOtherName.symm.trans isName)

theorem separates_by_lines
    {before after : List Text}
    {name : String}
    (member : (before.length + 1, .acts (some name)) ∈ StateFact.ofLines (before ++ after)) :
    ∃ upper ∈ before.getLast?, ∃ lower ∈ after.head?,
      StateFact.declaredOn? (SourceLine.sanitize upper) = some name ∧
        StatementKind.ofText (SourceLine.sanitize lower) = .action := by
  obtain ⟨line, isLine, found⟩ := List.mem_filterMap.mp member
  obtain ⟨fact, isFact, same⟩ := Option.map_eq_some_iff.mp found
  obtain ⟨number, rfl⟩ := Prod.mk.inj same
  obtain ⟨isAction, isAbove⟩ := StateFact.acts_of_ofLine? isFact
  obtain ⟨index, lower, foundLower, isLower⟩ := SourceLine.mem_significant_iff.mp isLine
  have shape := (SourceLine.ofRaw?_eq_some_iff.mp isLower).2
  rw [shape] at isAction number
  obtain rfl : index = before.length := Nat.succ.inj number
  have isHead : after.head? = some lower := by
    rw [List.getElem?_append_right (Nat.le_refl _), Nat.sub_self] at foundLower
    rwa [List.head?_eq_getElem?]
  rw [shape, StateFact.declaredAbove?_eq] at isAbove
  cases before using List.reverseRecOn with
  | nil =>
      cases isAbove
  | append_singleton further upper =>
      refine ⟨upper, List.getLast?_concat, lower, isHead, ?_, isAction⟩
      simpa using isAbove

theorem separates_by_tokens
    {count : Nat}
    {tokens : List Token}
    {name : String}
    (member : (count + 1, .acts (some name)) ∈ StateFact.ofTokens tokens) :
    ∃ upper ∈ TokenLine.group tokens, ∃ lower ∈ TokenLine.group tokens,
      upper.number = count ∧
        lower.number = count + 1 ∧
          StateFact.declaredBy? upper = some name ∧
            lower.tokens.head?.map Token.kind = some (.keyword .action) := by
  rw [StateFact.ofTokens_eq] at member
  obtain ⟨⟨previous, lower⟩, isPair, found⟩ := List.mem_filterMap.mp member
  obtain ⟨fact, isFact, same⟩ := Option.map_eq_some_iff.mp found
  obtain ⟨number, rfl⟩ := Prod.mk.inj same
  obtain ⟨isAction, isAbove⟩ := StateFact.acts_of_ofTokenLine? isFact
  obtain ⟨upper, isUpper, declared⟩ := Option.bind_eq_some_iff.mp isAbove
  obtain ⟨rfl, adjacent⟩ := Option.filter_eq_some_iff.mp isUpper
  obtain ⟨previousMember, lowerMember⟩ := List.of_mem_zip isPair
  have upperMember : upper ∈ TokenLine.group tokens := by
    simpa using previousMember
  have upperNumber : upper.number = count := by
    have consecutive := beq_iff_eq.mp adjacent
    omega
  exact ⟨upper, upperMember, lower, lowerMember, upperNumber, number, declared, isAction⟩

/-- What a line without text parts is a declaration from an action directly below. -/
theorem separates_of_parts
    {policy : AttributionPolicy}
    {input : SemanticInput}
    {before after : List Text}
    {tokens : List Token}
    {name : String}
    (parted :
      StateFacts.Parts policy before.length (facts input (before ++ after) tokens) name) :
    Separates policy input before after tokens name := by
  obtain ⟨adjacent, member⟩ := parted
  cases input with
  | lines =>
      exact ⟨adjacent, separates_by_lines member⟩
  | tokens =>
      exact ⟨adjacent, separates_by_tokens member⟩

/-- The facts of a unit with a line without text more, by lines and by tokens. -/
theorem facts_insert
    (input : SemanticInput)
    (before after : List Text)
    {blank : Text}
    (empty : SourceLine.sanitize blank = [])
    (tokens : List Token) :
    facts input (before ++ blank :: after)
        (tokens.map (Token.renumber (.gapAfter before.length))) =
      StateFacts.part before.length (facts input (before ++ after) tokens) := by
  cases input with
  | lines =>
      exact StateFact.ofLines_insert before after empty
  | tokens =>
      exact StateFact.ofTokens_gap before.length tokens

theorem facts_ordered
    (input : SemanticInput)
    (lines : List Text)
    {tokens : List Token}
    (ordered : tokens.Pairwise fun first second => first.line ≤ second.line) :
    StateFacts.Ordered (facts input lines tokens) := by
  cases input with
  | lines =>
      exact StateFact.ofLines_ordered lines
  | tokens =>
      exact StateFact.ofTokens_ordered ordered

end Analysis

namespace StageResults

/-- All stages but the analysis give the same results under new line numbers. -/
structure Moves
    (renumbering : Renumbering)
    (first second : StageResults) :
    Prop where
  tokens :
    second.scan.tokens = first.scan.tokens.map (Token.renumber renumbering)
  lexical :
    second.scan.diagnostics = first.scan.diagnostics.map (Diagnostic.renumber renumbering)
  statements :
    second.check.statements = first.check.statements.map (Statement.renumber renumbering)
  syntactic :
    second.check.diagnostics = first.check.diagnostics.map (Diagnostic.renumber renumbering)
  intermediate :
    second.generation.quadruples = first.generation.quadruples
  failed :
    second.generation.errors = first.generation.errors.map (GenerationError.renumber renumbering)
  optimized :
    second.optimization = first.optimization

theorem moves_insert
    (limits : ScanLimits)
    (preferences : Preferences)
    (before after : List Text)
    {blank : Text}
    (empty : SourceLine.sanitize blank = []) :
    Moves (.gapAfter before.length)
      (ofLines limits preferences (before ++ after))
      (ofLines limits preferences (before ++ blank :: after)) :=
  have moved := SourceLine.significant_insert before after empty
  { tokens := Scan.tokens_moved moved limits _
    lexical := Scan.diagnostics_moved moved limits _
    statements := StatementCheck.statements_moved moved
    syntactic := StatementCheck.diagnostics_moved moved
    intermediate := Generation.quadruples_moved moved
    failed := Generation.errors_moved moved
    optimized :=
      congrArg (Optimization.ofQuadruples preferences.optimizer.policy)
        (Generation.quadruples_moved moved) }

/-- A line without text separates a state from its action, as the preferences read lines. -/
def Separates
    (limits : ScanLimits)
    (preferences : Preferences)
    (before after : List Text)
    (name : String) :
    Prop :=
  Analysis.Separates preferences.semantic.attribution preferences.semantic.input before after
    (ofLines limits preferences (before ++ after)).scan.tokens name

/--
Putting a line without text between the lines of a unit moves the numbers of the
lines below it on by one.  Under these numbers all stages give the results that
they gave, except that a state may lose its content when the line separates its
declaration from an action directly below.  A comment after a blank leaves a
line as it is, nothing more is left to take from a line without its comment and
blanks, and only what is left of the lines counts for any stage.
-/
theorem blank_lines_only_move
    (limits : ScanLimits)
    (preferences : Preferences)
    (before after : List Text)
    {blank : Text}
    (empty : SourceLine.sanitize blank = []) :
    Moves (.gapAfter before.length)
        (ofLines limits preferences (before ++ after))
        (ofLines limits preferences (before ++ blank :: after)) ∧
      ((∀ name, ¬ Separates limits preferences before after name) →
        Analysis.Moves (.gapAfter before.length)
          (ofLines limits preferences (before ++ after)).analysis
          (ofLines limits preferences (before ++ blank :: after)).analysis) ∧
      (∀ name, Separates limits preferences before after name →
        Analysis.MovesExcept (.gapAfter before.length) name
          (ofLines limits preferences (before ++ after)).analysis
          (ofLines limits preferences (before ++ blank :: after)).analysis) ∧
      (∀ raw text : Text,
        SourceLine.sanitize (raw ++ " //".toList ++ text) = SourceLine.sanitize raw ∧
          SourceLine.sanitize (SourceLine.sanitize raw) = SourceLine.sanitize raw) ∧
      ∀ raw other : Text,
        SourceLine.sanitize raw = SourceLine.sanitize other →
        ofLines limits preferences (before ++ raw :: after) =
          ofLines limits preferences (before ++ other :: after) := by
  have moves := moves_insert limits preferences before after empty
  have ordered :=
    Scan.tokens_ordered limits preferences.lexical.detailedMetrics (before ++ after)
  have factsOrdered :=
    Analysis.facts_ordered preferences.semantic.input (before ++ after) ordered
  have analysisInsert :
      (ofLines limits preferences (before ++ blank :: after)).analysis =
        Analysis.ofWalk
          (Walk.ofFacts preferences.semantic.attribution
            (StateFacts.part before.length
              (Analysis.facts preferences.semantic.input (before ++ after)
                (ofLines limits preferences (before ++ after)).scan.tokens))) := by
    rw [← Analysis.facts_insert _ before after empty, ← moves.tokens]
    rfl
  refine ⟨moves, ?_, ?_, ?_, ?_⟩
  · intro kept
    rw [analysisInsert]
    exact StateFacts.moves_part factsOrdered fun name parted =>
      kept name (Analysis.separates_of_parts parted)
  · intro name separated
    rw [analysisInsert]
    exact StateFacts.movesExcept_part factsOrdered fun other parted =>
      separated.name_unique ordered (Analysis.separates_of_parts parted)
  · intro raw text
    exact ⟨SourceLine.sanitize_append_comment raw text, SourceLine.sanitize_sanitize raw⟩
  · intro raw other alike
    refine ofLines_congr limits preferences ?_
    rw [List.map_append, List.map_append, List.map_cons, List.map_cons, alike]

/-- A comment between a declaration and its action, which takes the content of the state. -/
theorem blank_lines_only_move_of_parted_action :
    SourceLine.sanitize "  // note".toList = [] ∧
      Separates .standard Environment.empty.preferences
        ["state A \x7b".toList] ["action a;".toList] "A" ∧
      Analysis.MovesExcept (.gapAfter 1) "A"
        (ofLines .standard Environment.empty.preferences
          (["state A \x7b".toList] ++ ["action a;".toList])).analysis
        (ofLines .standard Environment.empty.preferences
          (["state A \x7b".toList] ++ "  // note".toList :: ["action a;".toList])).analysis ∧
      (ofLines .standard Environment.empty.preferences
          (["state A \x7b".toList] ++
            "  // note".toList :: ["action a;".toList])).analysis.diagnostics.map
        Diagnostic.line = [some 1] := by
  have empty : SourceLine.sanitize "  // note".toList = [] := by
    decide +kernel
  have separated :
      Separates .standard Environment.empty.preferences
        ["state A \x7b".toList] ["action a;".toList] "A" :=
    ⟨rfl, "state A \x7b".toList, rfl, "action a;".toList, rfl, by decide +kernel,
      by decide +kernel⟩
  have moves :=
    blank_lines_only_move .standard Environment.empty.preferences
      ["state A \x7b".toList] ["action a;".toList] empty
  refine ⟨empty, separated, moves.2.2.1 "A" separated, ?_⟩
  decide +kernel

end StageResults

end Smsl
