import Smsl.Proofs.CountedLines
import Smsl.Proofs.StateVerdict

namespace Smsl

/-!
# Facts of a unit, by lines and by tokens

Both ways of walking over a unit read a fact off each significant line and its
neighbour above.  By lines the fact comes from the two texts, and by tokens from
the two lists of tokens; the lists of facts differ only where a reading does.
-/

namespace StateFact

/-- The facts that a reading of lines and their neighbours gives. -/
def ofReading
    (reading : Option SourceLine → SourceLine → Option StateFact)
    (lines : List Text) :
    StateFacts :=
  (SourceLine.withAbove none 1 lines).filterMap fun pair =>
    (reading pair.1 pair.2).map fun fact => (pair.2.number, fact)

theorem mem_ofReading_iff
    {reading : Option SourceLine → SourceLine → Option StateFact}
    {lines : List Text}
    {number : Nat}
    {fact : StateFact} :
    (number, fact) ∈ ofReading reading lines ↔
      ∃ above line,
        (above, line) ∈ SourceLine.withAbove none 1 lines ∧
          reading above line = some fact ∧ line.number = number := by
  simp only [ofReading, List.mem_filterMap, Prod.exists, Option.map_eq_some_iff,
    Prod.mk.injEq]
  constructor
  · rintro ⟨above, line, member, found, isFact, sameNumber, rfl⟩
    exact ⟨above, line, member, isFact, sameNumber⟩
  · rintro ⟨above, line, member, isFact, sameNumber⟩
    exact ⟨above, line, member, fact, isFact, sameNumber, rfl⟩

/-- Facts come in order of their lines, whatever the reading. -/
theorem ofReading_ordered
    (reading : Option SourceLine → SourceLine → Option StateFact)
    (lines : List Text) :
    (ofReading reading lines).Ordered := by
  have numbers := SourceLine.significantFrom_pairwise 1 lines
  rw [← SourceLine.map_snd_withAbove none, List.pairwise_map] at numbers
  rw [StateFacts.Ordered, ofReading, List.pairwise_filterMap]
  refine numbers.imp ?_
  intro first second less firstFact isFirst secondFact isSecond
  obtain ⟨_, _, rfl⟩ := Option.map_eq_some_iff.mp isFirst
  obtain ⟨_, _, rfl⟩ := Option.map_eq_some_iff.mp isSecond
  exact less

/-! The reading by text. -/

/-- What a line says about states, by its text and the text directly above. -/
def byText
    (above : Option SourceLine)
    (line : SourceLine) :
    Option StateFact :=
  match StatementKind.ofText line.text with
  | .stateDeclaration =>
      (Text.fields line.text)[1]?.map fun name =>
        .declares (String.ofList name)
  | .transitionDeclaration =>
      match TransitionParts.ofText? line.text with
      | some parts => some (.refersTo (String.ofList parts.target))
      | none => some .badTransition
  | .action =>
      some (.acts (above.bind fun upper => declaredOn? upper.text))
  | .marker =>
      none
  | .brace =>
      none
  | .unrecognized =>
      none

theorem declaredOn?_nil : declaredOn? [] = none :=
  rfl

/-- A line declares a name to the line below if it is spelled exactly so. -/
theorem declaredOn?_eq_some_iff
    {text : Text}
    {name : String} :
    declaredOn? text = some name ↔
      text = "state ".toList ++ (name.toList ++ " \x7b".toList) ∧
        Text.NoBlank name.toList ∧ name.toList ≠ [] := by
  have spelled :
      declaredOn? text = some name ↔
        ∃ rest, List.isPrefixOf? "state ".toList text = some rest ∧
          ∃ word, List.isSuffixOf? " \x7b".toList rest = some word ∧
            (if word.isEmpty || word.any Text.isBlank then
              none
            else
              some (String.ofList word)) = some name := by
    unfold declaredOn?
    simp only [Option.bind_eq_bind, Option.bind_eq_some_iff]
    rfl
  rw [spelled]
  simp only [List.isPrefixOf?_eq_some_iff_append_eq, List.isSuffixOf?_eq_some_iff_append_eq]
  constructor
  · rintro ⟨rest, rfl, word, rfl, isName⟩
    split at isName
    · cases isName
    · rename_i proper
      cases isName
      simp only [Bool.or_eq_true, List.isEmpty_iff, List.any_eq_true, not_or, not_exists,
        not_and, Bool.not_eq_true] at proper
      have same : (String.ofList word).toList = word := String.toList_ofList
      rw [same]
      exact ⟨rfl, proper.2, proper.1⟩
  · rintro ⟨rfl, noBlank, nonempty⟩
    refine ⟨_, rfl, name.toList, rfl, ?_⟩
    have proper : (name.toList.isEmpty || name.toList.any Text.isBlank) = false := by
      simp only [Bool.or_eq_false_iff, List.isEmpty_eq_false_iff, List.any_eq_false,
        Bool.not_eq_true]
      exact ⟨nonempty, noBlank⟩
    simp [proper]

/-- The raw line above a line, looked up by number, is its neighbour. -/
theorem declaredAbove?_append
    (earlier rest : List Text)
    (raw : Text) :
    declaredAbove? (earlier ++ raw :: rest).toArray (earlier.length + 1) =
      (earlier.getLast?.bind fun upper =>
        SourceLine.ofRaw? upper earlier.length).bind
          fun upper => declaredOn? upper.text := by
  cases earlier using List.reverseRecOn with
  | nil =>
      rfl
  | append_singleton before upper =>
      simp only [declaredAbove?, List.length_append, List.length_cons, List.length_nil,
        Nat.zero_add, List.getElem?_toArray]
      cases significant : SourceLine.ofRaw? upper (before.length + 1) with
      | none =>
          have empty := SourceLine.ofRaw?_eq_none_iff.mp significant
          simp [empty, declaredOn?_nil, significant]
      | some line =>
          have isLine := (SourceLine.ofRaw?_eq_some_iff.mp significant).2
          simp [isLine, significant]

theorem ofLine?_eq_byText
    (earlier rest : List Text)
    {raw : Text}
    {line : SourceLine}
    (significant : SourceLine.ofRaw? raw (earlier.length + 1) = some line) :
    ofLine? (earlier ++ raw :: rest).toArray line =
      byText
        (earlier.getLast?.bind fun upper => SourceLine.ofRaw? upper earlier.length)
        line := by
  have number : line.number = earlier.length + 1 := by
    rw [(SourceLine.ofRaw?_eq_some_iff.mp significant).2]
  cases kind : StatementKind.ofText line.text with
  | transitionDeclaration =>
      cases parts : TransitionParts.ofText? line.text <;>
        simp only [ofLine?, byText, kind, parts]
  | action =>
      simp only [ofLine?, byText, kind, number, declaredAbove?_append]
  | stateDeclaration | marker | brace | unrecognized =>
      simp only [ofLine?, byText, kind]

/-- The walk by lines reads texts. -/
theorem ofLines_eq_ofReading (lines : List Text) :
    ofLines lines = ofReading byText lines := by
  have suffix :
      ∀ rest earlier : List Text,
        lines = earlier ++ rest →
        ((SourceLine.significantFrom (earlier.length + 1) rest).filterMap fun line =>
            (ofLine? lines.toArray line).map fun fact => (line.number, fact)) =
          (SourceLine.withAbove
            (earlier.getLast?.bind fun upper => SourceLine.ofRaw? upper earlier.length)
            (earlier.length + 1) rest).filterMap
              fun pair => (byText pair.1 pair.2).map fun fact => (pair.2.number, fact) := by
    intro rest
    induction rest with
    | nil =>
        intro earlier _
        rfl
    | cons raw rest inductionHypothesis =>
        intro earlier shape
        have further := inductionHypothesis (earlier ++ [raw]) (by simp [shape])
        simp only [List.length_append, List.length_cons, List.length_nil, Nat.zero_add,
          List.getLast?_append, List.getLast?_singleton, Option.some_or,
          Option.bind_some] at further
        rw [SourceLine.significantFrom_cons]
        cases significant : SourceLine.ofRaw? raw (earlier.length + 1) with
        | none =>
            rw [SourceLine.withAbove_of_none significant]
            simpa [significant] using further
        | some line =>
            have same := ofLine?_eq_byText earlier rest significant
            rw [← shape] at same
            rw [SourceLine.withAbove_of_some significant]
            rw [significant] at further
            simp only [Option.toList_some, List.singleton_append, List.filterMap_cons, same,
              further]
  exact suffix lines [] rfl

theorem ofLines_ordered (lines : List Text) :
    StateFacts.Ordered (ofLines lines) := by
  rw [ofLines_eq_ofReading]
  exact ofReading_ordered byText lines

end StateFact

/-! The reading by tokens. -/

namespace StateFact

/-- What a line says about states, by its tokens and those directly above. -/
def byTokens
    (limits : ScanLimits)
    (above : Option SourceLine)
    (line : SourceLine) :
    Option StateFact :=
  ofTokenLine? (above.map (TokenLine.ofLine limits)) (TokenLine.ofLine limits line)

/-- Of the tokens before a line only those directly above count. -/
theorem ofTokenLine?_filter
    (previous : Option TokenLine)
    (line : TokenLine) :
    ofTokenLine? (previous.filter fun above => above.number + 1 == line.number) line =
      ofTokenLine? previous line := by
  unfold ofTokenLine?
  simp only [Option.filter_filter, Bool.and_self]

/-- The walk by tokens reads tokens, as far as the scan is complete. -/
theorem ofTokens_eq_ofReading
    {limits : ScanLimits}
    {detailed : Bool}
    {lines : List Text}
    (complete : (Scan.ofLines limits detailed lines).Complete) :
    ofTokens (Scan.ofLines limits detailed lines).tokens =
      ofReading (byTokens limits) lines := by
  have suffix :
      ∀ (rest : List Text) (start : Nat) (previous : Option SourceLine),
        (∀ line ∈ previous, line.number < start) →
        let groups := (SourceLine.significantFrom start rest).map (TokenLine.ofLine limits)
        (((previous.map (TokenLine.ofLine limits)) :: groups.map some).zip groups).filterMap
            (fun pair => (ofTokenLine? pair.1 pair.2).map fun fact => (pair.2.number, fact)) =
          (SourceLine.withAbove (previous.filter fun line => line.number + 1 == start)
            start rest).filterMap
              fun pair =>
                (byTokens limits pair.1 pair.2).map fun fact => (pair.2.number, fact) := by
    intro rest
    induction rest with
    | nil =>
        intro start previous _
        rfl
    | cons raw rest inductionHypothesis =>
        intro start previous earlier
        simp only
        rw [SourceLine.significantFrom_cons]
        cases significant : SourceLine.ofRaw? raw start with
        | none =>
            have notDirectlyAbove :
                previous.filter (fun line => line.number + 1 == start + 1) = none := by
              rw [Option.filter_eq_none_iff]
              intro line isPrevious
              have isAbove := earlier line isPrevious
              simp only [beq_iff_eq]
              omega
            have further :=
              inductionHypothesis (start + 1) previous
                (fun line isPrevious => Nat.lt_succ_of_lt (earlier line isPrevious))
            rw [notDirectlyAbove] at further
            rw [SourceLine.withAbove_of_none significant]
            exact further
        | some line =>
            have number : line.number = start := by
              rw [(SourceLine.ofRaw?_eq_some_iff.mp significant).2]
            have further :=
              inductionHypothesis (start + 1) (some line) (by simp [number])
            have directlyAbove :
                (some line).filter (fun line => line.number + 1 == start + 1) =
                  some line := by
              simp [number]
            have sameFact :
                ofTokenLine? (previous.map (TokenLine.ofLine limits))
                    (TokenLine.ofLine limits line) =
                  byTokens limits
                    (previous.filter fun line => line.number + 1 == start) line := by
              have counted : (TokenLine.ofLine limits line).number = start := number
              rw [byTokens, ← ofTokenLine?_filter, counted, Option.filter_map]
              rfl
            rw [directlyAbove] at further
            rw [SourceLine.withAbove_of_some significant, Option.toList_some,
              List.singleton_append, List.map_cons, List.map_cons, List.zip_cons_cons,
              List.filterMap_cons, List.filterMap_cons, sameFact]
            simp only [Option.map_some] at further
            rw [further]
            rfl
  rw [ofTokens_eq, withPrevious, TokenLine.group_tokens complete]
  exact suffix lines 1 none (by simp)

end StateFact

end Smsl
