import Smsl.Proofs.CountedLines
import Smsl.Proofs.PartedFacts

namespace Smsl

/-!
# Groups of tokens under new line numbers

The walk over tokens sees them in groups, one for each line.  New numbers for
the lines give the same groups under the new numbers, and the tokens of a scan,
even of one that the limit stopped, give groups in strictly increasing order.
A gap between two lines therefore parts what the tokens say about states.
-/

/-- The same tokens under the new number of their line. -/
def TokenLine.renumber
    (renumbering : Renumbering)
    (line : TokenLine) :
    TokenLine where
  number := renumbering.apply line.number
  tokens := line.tokens.map (Token.renumber renumbering)

namespace TokenLine

/-- Renumbered runs are maximal among the renumbered tokens. -/
theorem MaximalRuns.renumber
    (renumbering : Renumbering)
    {tokens : List Token}
    {groups : List TokenLine}
    (maximal : MaximalRuns tokens groups) :
    MaximalRuns (tokens.map (Token.renumber renumbering))
      (groups.map (TokenLine.renumber renumbering)) where
  whole := by
    rw [← maximal.whole, List.flatMap_map, List.map_flatMap]
    rfl
  nonempty := by
    intro moved member
    obtain ⟨line, isLine, rfl⟩ := List.mem_map.mp member
    simpa [TokenLine.renumber] using maximal.nonempty line isLine
  sameLine := by
    intro moved member token isToken
    obtain ⟨line, isLine, rfl⟩ := List.mem_map.mp member
    obtain ⟨original, isOriginal, rfl⟩ := List.mem_map.mp isToken
    exact congrArg renumbering.apply (maximal.sameLine line isLine original isOriginal)
  apart := by
    rw [List.isChain_map]
    refine maximal.apart.imp ?_
    intro upper lower different sameNumber
    exact different (renumbering.apply_inj.mp sameNumber)

/-- Renumbered tokens form the renumbered groups. -/
theorem group_renumber
    (renumbering : Renumbering)
    (tokens : List Token) :
    group (tokens.map (Token.renumber renumbering)) =
      (group tokens).map (renumber renumbering) :=
  group_eq_of_maximalRuns ((maximalRuns_group tokens).renumber renumbering)

/-- A number picks one group. -/
theorem eq_of_number_eq
    {tokens : List Token}
    (ordered : tokens.Pairwise fun first second => first.line ≤ second.line)
    {first second : TokenLine}
    (isFirst : first ∈ group tokens)
    (isSecond : second ∈ group tokens)
    (sameNumber : first.number = second.number) :
    first = second := by
  have distinct : ((group tokens).map number).Nodup :=
    List.pairwise_map.mpr ((group_increasing ordered).imp Nat.ne_of_lt)
  exact List.inj_on_of_nodup_map distinct isFirst isSecond sameNumber

end TokenLine

theorem PlacedLexeme.line_of_mem
    {line : SourceLine}
    {placed : PlacedLexeme}
    (member : placed ∈ ofLine line) :
    placed.line = line.number := by
  obtain ⟨lexeme, _, rfl⟩ := List.mem_map.mp member
  rfl

/-- The tokens of a scan are in order of their lines, also if the limit stopped it. -/
theorem Scan.tokens_ordered
    (limits : ScanLimits)
    (detailed : Bool)
    (lines : List Text) :
    (ofLines limits detailed lines).tokens.Pairwise
      fun first second => first.line ≤ second.line := by
  have placed :
      (PlacedLexeme.ofLines lines).Pairwise fun first second => first.line ≤ second.line := by
    rw [PlacedLexeme.ofLines, List.pairwise_flatMap]
    refine ⟨?_, (SourceLine.significantFrom_pairwise 1 lines).imp ?_⟩
    · intro line _
      refine List.pairwise_of_forall_mem_list ?_
      intro first isFirst second isSecond
      rw [PlacedLexeme.line_of_mem isFirst, PlacedLexeme.line_of_mem isSecond]
    · intro upper lower less first isFirst second isSecond
      rw [PlacedLexeme.line_of_mem isFirst, PlacedLexeme.line_of_mem isSecond]
      exact Nat.le_of_lt less
  rw [ofLines_tokens, List.pairwise_map]
  exact placed.sublist (List.take_sublist _ _)

namespace StateFact

/-! What a group says about states. -/

theorem identifier?_renumber
    (renumbering : Renumbering)
    (token : Token) :
    identifier? (token.renumber renumbering) = identifier? token :=
  rfl

theorem declaredBy?_renumber
    (renumbering : Renumbering)
    (line : TokenLine) :
    declaredBy? (line.renumber renumbering) = declaredBy? line := by
  obtain ⟨number, tokens⟩ := line
  rcases tokens with _ | ⟨keyword, _ | ⟨name, _ | ⟨opening, _ | ⟨other, rest⟩⟩⟩⟩ <;> rfl

theorem afterLastArrow?_renumber
    (renumbering : Renumbering)
    (tokens : List Token) :
    afterLastArrow? (tokens.map (Token.renumber renumbering)) =
      (afterLastArrow? tokens).map (List.map (Token.renumber renumbering)) := by
  induction tokens with
  | nil =>
      rfl
  | cons token rest inductionHypothesis =>
      have sameSymbol :
          (token.renumber renumbering).isSymbol transitionArrow =
            token.isSymbol transitionArrow := rfl
      simp only [List.map_cons, afterLastArrow?, inductionHypothesis, sameSymbol]
      cases afterLastArrow? rest with
      | none =>
          by_cases arrow : token.isSymbol transitionArrow = true <;> simp [arrow]
      | some after =>
          rfl

theorem targetOf?_renumber
    (renumbering : Renumbering)
    (tokens : List Token) :
    targetOf? (tokens.map (Token.renumber renumbering)) = targetOf? tokens := by
  simp only [targetOf?, afterLastArrow?_renumber]
  cases afterLastArrow? tokens with
  | none =>
      rfl
  | some after =>
      cases after <;> rfl

/-- A gap takes away only the declaration above the line directly below it. -/
theorem declaredDirectlyAbove?_gap
    (count : Nat)
    (previous : Option TokenLine)
    (number : Nat) :
    ((previous.map (TokenLine.renumber (.gapAfter count))).filter fun above =>
        above.number + 1 == (Renumbering.gapAfter count).apply number).bind declaredBy? =
      if number = count + 1 then
        none
      else
        (previous.filter fun above => above.number + 1 == number).bind declaredBy? := by
  cases previous with
  | none =>
      simp
  | some above =>
      have consecutive :
          (above.renumber (.gapAfter count)).number + 1 =
              (Renumbering.gapAfter count).apply number ↔
            above.number + 1 = number ∧ above.number ≠ count :=
        Renumbering.gapAfter_consecutive_iff
      simp only [Option.map_some, Option.filter_some, beq_iff_eq, consecutive]
      by_cases adjacent : above.number + 1 = number
      · by_cases parted : above.number = count
        · simp [← adjacent, parted]
        · simp [← adjacent, parted, declaredBy?_renumber]
      · simp [adjacent]

/-- A group says the same with a gap, and an action directly below it is detached. -/
theorem ofTokenLine?_gap
    (count : Nat)
    (previous : Option TokenLine)
    (line : TokenLine) :
    ofTokenLine? (previous.map (TokenLine.renumber (.gapAfter count)))
        (line.renumber (.gapAfter count)) =
      (ofTokenLine? previous line).map fun fact =>
        if line.number = count + 1 then fact.detached else fact := by
  obtain ⟨number, tokens⟩ := line
  cases tokens with
  | nil =>
      rfl
  | cons first rest =>
      have sameKind : (first.renumber (.gapAfter count)).kind = first.kind := rfl
      have sameTarget := targetOf?_renumber (.gapAfter count) (first :: rest)
      simp only [List.map_cons] at sameTarget
      simp only [ofTokenLine?, ofNeighbours?, TokenLine.renumber, List.map_cons, sameKind,
        sameTarget]
      cases kind : first.kind with
      | keyword word =>
          cases word with
          | state =>
              cases rest with
              | nil =>
                  rfl
              | cons name further =>
                  cases declared : identifier? name <;>
                    simp [identifier?_renumber, declared, detached]
          | transition =>
              cases targetOf? (first :: rest) <;> simp [detached]
          | action =>
              simp only [declaredDirectlyAbove?_gap, Option.map_some]
              split_ifs <;> rfl
          | event | start | finish =>
              rfl
      | identifier | number | string | symbol | unknown =>
          rfl

/-- A gap between two lines parts what the tokens say about states. -/
theorem ofTokens_gap
    (count : Nat)
    (tokens : List Token) :
    ofTokens (tokens.map (Token.renumber (.gapAfter count))) =
      StateFacts.part count (ofTokens tokens) := by
  have moved :
      none ::
          ((TokenLine.group tokens).map (TokenLine.renumber (.gapAfter count))).map some =
        (none :: (TokenLine.group tokens).map some).map
          (Option.map (TokenLine.renumber (.gapAfter count))) := by
    simp
  simp only [ofTokens_eq, withPrevious, TokenLine.group_renumber, moved, List.zip_map,
    StateFacts.part, List.filterMap_map, List.map_filterMap]
  refine List.filterMap_congr ?_
  rintro ⟨previous, line⟩ _
  simp only [Function.comp_apply, Prod.map_fst, Prod.map_snd, ofTokenLine?_gap,
    Option.map_map]
  rfl

theorem ofTokens_ordered
    {tokens : List Token}
    (ordered : tokens.Pairwise fun first second => first.line ≤ second.line) :
    StateFacts.Ordered (ofTokens tokens) := by
  have numbers := TokenLine.group_increasing ordered
  rw [← map_snd_withPrevious, List.pairwise_map] at numbers
  rw [StateFacts.Ordered, ofTokens_eq, List.pairwise_filterMap]
  refine numbers.imp ?_
  intro first second less firstFact isFirst secondFact isSecond
  obtain ⟨_, _, rfl⟩ := Option.map_eq_some_iff.mp isFirst
  obtain ⟨_, _, rfl⟩ := Option.map_eq_some_iff.mp isSecond
  exact less

end StateFact

end Smsl
