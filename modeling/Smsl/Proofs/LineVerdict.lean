import Mathlib.Data.List.Nodup
import Mathlib.Order.Bounds.Basic
import Smsl.Proofs.InputAgreement

namespace Smsl

/-!
# The verdict by lines

What the analysis by lines tells, said of the lines alone.  The states are the
second fields of the state lines, each at its first line; every line has one
diagnostic at most, which says that a name is declared again, that a transition
has too few parts, or that a state stays without content; and the undeclared
targets follow, each once, in the order of first reference.
-/

namespace SourceLine

/-- The second fields of the state lines, each under the number of its line. -/
def declarations (lines : List Text) : List (Nat × String) :=
  (ofKind .stateDeclaration lines).filterMap fun line =>
    (Text.fields line.text)[1]?.map fun name => (line.number, String.ofList name)

/-- The declared names, line by line. -/
def declaredNames (lines : List Text) : List String :=
  (declarations lines).map Prod.snd

/-- The targets of the transition lines with at least three parts. -/
def targets (lines : List Text) : List String :=
  (ofKind .transitionDeclaration lines).filterMap fun line =>
    (TransitionParts.ofText? line.text).map fun parts => String.ofList parts.target

/-- The numbers of the transition lines with fewer than three parts. -/
def shortTransitions (lines : List Text) : List Nat :=
  ((ofKind .transitionDeclaration lines).filter fun line =>
    (TransitionParts.split line.text).length < 3).map SourceLine.number

end SourceLine

/-- A line falls short of a transition if it has fewer than three parts. -/
theorem TransitionParts.ofText?_eq_none_iff (line : Text) :
    ofText? line = none ↔ (split line).length < 3 := by
  unfold ofText?
  split
  · rename_i isSplit
    simp [isSplit]
  · rename_i notThree
    match isSplit : split line with
    | [] | [_] | [_, _] =>
        simp
    | header :: eventPart :: targetPart :: others =>
        exact (notThree _ _ _ _ isSplit).elim

/-- The transitions with fewer than three parts are those that give no parts. -/
theorem SourceLine.shortTransitions_eq (lines : List Text) :
    shortTransitions lines =
      (ofKind .transitionDeclaration lines).filterMap fun line =>
        match TransitionParts.ofText? line.text with
        | none => some line.number
        | some _ => none := by
  rw [shortTransitions, ← List.filterMap_eq_filter, List.map_filterMap]
  refine List.filterMap_congr ?_
  intro line _
  have tooFew := TransitionParts.ofText?_eq_none_iff line.text
  cases parts : TransitionParts.ofText? line.text with
  | none =>
      simp [Option.guard, tooFew.mp parts]
  | some found =>
      have enough : ¬ (TransitionParts.split line.text).length < 3 := by
        simp [← tooFew, parts]
      simp [Option.guard, enough]

namespace StateFacts

/-- The declaration that a fact is. -/
def declaration? : Nat × StateFact → Option (Nat × String)
  | (line, .declares name) => some (line, name)
  | _ => none

/-- The line of a transition without a target. -/
def badLine? : Nat × StateFact → Option Nat
  | (line, .badTransition) => some line
  | _ => none

theorem mem_declarations_iff
    {facts : StateFacts}
    {line : Nat}
    {name : String} :
    (line, name) ∈ facts.filterMap declaration? ↔ (line, .declares name) ∈ facts := by
  rw [List.mem_filterMap]
  constructor
  · rintro ⟨⟨number, fact⟩, member, isDeclaration⟩
    cases fact with
    | declares declared =>
        cases isDeclaration
        exact member
    | refersTo _ | badTransition | acts _ =>
        cases isDeclaration
  · intro member
    exact ⟨_, member, rfl⟩

theorem declares_eq_true_iff
    {facts : StateFacts}
    {name : String} :
    facts.declares name = true ↔
      name ∈ (facts.filterMap declaration?).map Prod.snd := by
  simp only [declares, List.any_eq_true, decide_eq_true_eq, Prod.exists, List.mem_map,
    exists_eq_right, mem_declarations_iff]

theorem declaresAbove_eq_true_iff
    {facts : StateFacts}
    {line : Nat}
    {name : String} :
    facts.declaresAbove line name = true ↔
      ∃ earlier < line, (earlier, name) ∈ facts.filterMap declaration? := by
  simp only [declaresAbove, List.any_eq_true, Bool.and_eq_true, decide_eq_true_eq,
    Prod.exists, mem_declarations_iff]
  constructor
  · rintro ⟨earlier, fact, member, less, rfl⟩
    exact ⟨earlier, less, member⟩
  · rintro ⟨earlier, less, member⟩
    exact ⟨earlier, _, member, less, rfl⟩

/-- The records have the declared names, each where it is declared first. -/
theorem map_name_states
    (policy : AttributionPolicy)
    {facts : StateFacts}
    (ordered : facts.Ordered) :
    (states policy facts).map StateRecord.name =
      ((facts.filterMap declaration?).map Prod.snd).eraseDups := by
  -- From the right, since a record depends on the facts above it.
  induction facts using List.reverseRecOn with
  | nil =>
      rfl
  | append_singleton earlier last inductionHypothesis =>
      obtain ⟨line, fact⟩ := last
      obtain ⟨earlierOrdered, _, allAbove⟩ := List.pairwise_append.mp ordered
      have isAbove : AllAbove earlier line :=
        fun previous member => allAbove previous member (line, fact) (by simp)
      have sameNames :
          ((states policy earlier).map (refresh policy fact)).map StateRecord.name =
            (states policy earlier).map StateRecord.name := by
        rw [List.map_map]
        rfl
      rw [states_append policy isAbove, List.map_append, sameNames,
        inductionHypothesis earlierOrdered, List.filterMap_append, List.map_append,
        List.eraseDups_append]
      cases fact with
      | declares name =>
          rw [record?_last_declares policy isAbove]
          by_cases known : name ∈ (earlier.filterMap declaration?).map Prod.snd
          · simp only [declares_eq_true_iff.mpr known]
            simp [declaration?, List.removeAll, known]
          · have isNew : declares earlier name = false := by
              simpa using fun declared => known (declares_eq_true_iff.mp declared)
            simp [isNew, declaration?, List.removeAll, known, List.eraseDups_cons]
      | refersTo _ | badTransition | acts _ =>
          simp [record?, declaration?, List.filterMap_cons, List.removeAll]

/-- A record stands at the first declaration of its name. -/
theorem isLeast_declarationLine
    {policy : AttributionPolicy}
    {facts : StateFacts}
    {record : StateRecord}
    (member : record ∈ states policy facts) :
    IsLeast
      {number | (number, record.name) ∈ facts.filterMap declaration?}
      record.declarationLine := by
  obtain ⟨⟨line, fact⟩, isFact, called⟩ := List.mem_filterMap.mp member
  obtain ⟨rfl, rfl, notAbove, _⟩ := record?_eq_some_iff.mp called
  refine ⟨mem_declarations_iff.mpr isFact, ?_⟩
  intro number isDeclaration
  by_contra less
  have above := declaresAbove_eq_true_iff.mpr ⟨number, Nat.lt_of_not_le less, isDeclaration⟩
  rw [above] at notAbove
  cases notAbove

/-- A record shows whether its state has content. -/
theorem hasContent_of_mem_states
    {policy : AttributionPolicy}
    {facts : StateFacts}
    {record : StateRecord}
    (member : record ∈ states policy facts) :
    facts.hasContent policy record.declarationLine record.name = record.hasContent := by
  obtain ⟨⟨line, fact⟩, _, called⟩ := List.mem_filterMap.mp member
  obtain ⟨_, rfl, _, content⟩ := record?_eq_some_iff.mp called
  exact content

/-- The errors of lines, by the declarations, the bad lines and the records. -/
inductive LineError
    (declarations : List (Nat × String))
    (badLines : List Nat)
    (records : List StateRecord) :
    SemanticError → Prop where
  | duplicateState
      {line earlier : Nat}
      {name : String} :
      (line, name) ∈ declarations →
      (earlier, name) ∈ declarations →
      earlier < line →
      LineError declarations badLines records (.duplicateState line name)
  | invalidTransitionFormat
      {line : Nat} :
      line ∈ badLines →
      LineError declarations badLines records (.invalidTransitionFormat line)
  | stateWithoutContent
      {record : StateRecord} :
      record ∈ records →
      record.hasContent = false →
      LineError declarations badLines records
        (.stateWithoutContent record.declarationLine record.name)

theorem mem_badLines_iff
    {facts : StateFacts}
    {line : Nat} :
    line ∈ facts.filterMap badLine? ↔ (line, .badTransition) ∈ facts := by
  rw [List.mem_filterMap]
  constructor
  · rintro ⟨⟨number, fact⟩, member, isBad⟩
    cases fact with
    | badTransition =>
        cases isBad
        exact member
    | declares _ | refersTo _ | acts _ =>
        cases isBad
  · intro member
    exact ⟨_, member, rfl⟩

/-- The errors of lines are the ones that are called for. -/
theorem mem_lineErrors_iff
    (policy : AttributionPolicy)
    (facts : StateFacts)
    (error : SemanticError) :
    error ∈ facts.filterMap (lineError? policy facts) ↔
      LineError (facts.filterMap declaration?) (facts.filterMap badLine?)
        (states policy facts) error := by
  rw [List.mem_filterMap]
  constructor
  · rintro ⟨⟨line, fact⟩, member, found⟩
    cases fact with
    | declares name =>
        have isDeclaration := mem_declarations_iff.mpr member
        simp only [lineError?] at found
        split at found
        · rename_i above
          obtain ⟨earlier, less, declared⟩ := declaresAbove_eq_true_iff.mp above
          cases found
          exact .duplicateState isDeclaration declared less
        · rename_i isFirst
          split at found
          · cases found
          · rename_i empty
            cases found
            have isRecord :
                { name := name, declarationLine := line, hasContent := false } ∈
                  states policy facts :=
              List.mem_filterMap.mpr
                ⟨_, member, record?_eq_some_iff.mpr
                  ⟨rfl, rfl, by simpa using isFirst, by simpa using empty⟩⟩
            exact .stateWithoutContent isRecord rfl
    | badTransition =>
        cases found
        exact .invalidTransitionFormat (mem_badLines_iff.mpr member)
    | refersTo _ | acts _ =>
        cases found
  · intro called
    cases called with
    | @duplicateState line earlier name isDeclaration declared less =>
        have above := declaresAbove_eq_true_iff.mpr ⟨earlier, less, declared⟩
        exact ⟨_, mem_declarations_iff.mp isDeclaration, by simp [lineError?, above]⟩
    | invalidTransitionFormat isBad =>
        exact ⟨_, mem_badLines_iff.mp isBad, rfl⟩
    | @stateWithoutContent record isRecord empty =>
        obtain ⟨⟨line, fact⟩, member, isCalled⟩ := List.mem_filterMap.mp isRecord
        obtain ⟨rfl, rfl, isFirst, content⟩ := record?_eq_some_iff.mp isCalled
        refine ⟨_, member, ?_⟩
        simp [lineError?, isFirst, content, empty]

/-- Every error of a line has the number of its fact, and the numbers increase. -/
theorem line?_lineErrors
    (policy : AttributionPolicy)
    {facts : StateFacts}
    (ordered : facts.Ordered) :
    ∃ numbers : List Nat,
      (facts.filterMap (lineError? policy facts)).map SemanticError.line? =
          numbers.map some ∧
        numbers.Pairwise (· < ·) := by
  refine
    ⟨facts.filterMap fun fact => (lineError? policy facts fact).map fun _ => fact.1, ?_, ?_⟩
  · rw [List.map_filterMap, List.map_filterMap]
    refine List.filterMap_congr ?_
    intro fact _
    cases found : lineError? policy facts fact with
    | none =>
        rfl
    | some error =>
        exact congrArg some (line?_of_lineError? found)
  · rw [List.pairwise_filterMap]
    refine ordered.imp ?_
    intro first second less firstNumber isFirst secondNumber isSecond
    obtain ⟨_, _, rfl⟩ := Option.map_eq_some_iff.mp isFirst
    obtain ⟨_, _, rfl⟩ := Option.map_eq_some_iff.mp isSecond
    exact less

/-- Each undeclared target is listed once. -/
theorem nodup_undefined (facts : StateFacts) :
    facts.undefined.Nodup := by
  have nodup : ∀ names : List String, names.eraseDups.Nodup := by
    intro names
    induction names using List.reverseRecOn with
    | nil =>
        exact .nil
    | append_singleton earlier last inductionHypothesis =>
        rw [List.eraseDups_append]
        by_cases known : last ∈ earlier
        · simpa [List.removeAll, known] using inductionHypothesis
        · have isNew : ∀ name ∈ earlier, name ≠ last := by
            rintro name member rfl
            exact known member
          simpa [List.removeAll, known, List.eraseDups_cons, List.nodup_append]
            using ⟨inductionHypothesis, isNew⟩
  exact (nodup _).filter _

/-- No error is found twice. -/
theorem nodup_errors
    (policy : AttributionPolicy)
    {facts : StateFacts}
    (ordered : facts.Ordered) :
    (errors policy facts).Nodup := by
  -- Errors of lines have different numbers, and errors of targets have none.
  obtain ⟨numbers, isNumbers, increasing⟩ := line?_lineErrors policy ordered
  have ofLines : (facts.filterMap (lineError? policy facts)).Nodup := by
    refine List.Nodup.of_map SemanticError.line? ?_
    have distinct : numbers.Nodup := increasing.imp Nat.ne_of_lt
    rw [isNumbers]
    exact distinct.map (Option.some_injective Nat)
  have ofTargets : (facts.undefined.map SemanticError.undefinedStateReference).Nodup :=
    (nodup_undefined facts).map fun _ _ same => SemanticError.undefinedStateReference.inj same
  refine List.nodup_append.mpr ⟨ofLines, ofTargets, ?_⟩
  rintro error isOfLine _ isOfTarget rfl
  obtain ⟨fact, _, found⟩ := List.mem_filterMap.mp isOfLine
  obtain ⟨target, _, rfl⟩ := List.mem_map.mp isOfTarget
  cases line?_of_lineError? found

end StateFacts

namespace LineReading

theorem declarations_ofTexts (lines : List Text) :
    (ofTexts.facts lines).filterMap StateFacts.declaration? =
      SourceLine.declarations lines := by
  refine filterMap_facts_of_kind ?_ lines
  intro above line
  cases kind : StatementKind.ofText line.text with
  | stateDeclaration =>
      cases name : (Text.fields line.text)[1]? <;>
        simp [fact?, kind, ofTexts, name, StateFacts.declaration?]
  | transitionDeclaration =>
      cases parts : TransitionParts.ofText? line.text <;>
        simp [fact?, kind, ofTexts, parts, StateFacts.declaration?]
  | action | marker | brace | unrecognized =>
      simp [fact?, kind, StateFacts.declaration?]

theorem badLines_ofTexts (lines : List Text) :
    (ofTexts.facts lines).filterMap StateFacts.badLine? =
      SourceLine.shortTransitions lines := by
  rw [SourceLine.shortTransitions_eq]
  refine filterMap_facts_of_kind ?_ lines
  intro above line
  cases kind : StatementKind.ofText line.text with
  | stateDeclaration =>
      cases name : (Text.fields line.text)[1]? <;>
        simp [fact?, kind, ofTexts, name, StateFacts.badLine?]
  | transitionDeclaration =>
      cases parts : TransitionParts.ofText? line.text <;>
        simp [fact?, kind, ofTexts, parts, StateFacts.badLine?]
  | action | marker | brace | unrecognized =>
      simp [fact?, kind, StateFacts.badLine?]

theorem targets_ofTexts (lines : List Text) :
    (ofTexts.facts lines).targets = SourceLine.targets lines :=
  targets_eq ofTexts lines

/-- The undefined targets of a unit are those that no state line declares. -/
theorem undefined_ofTexts (lines : List Text) :
    (ofTexts.facts lines).undefined =
      (SourceLine.targets lines).eraseDups.filter
        fun target => target ∉ SourceLine.declaredNames lines := by
  rw [StateFacts.undefined, targets_ofTexts]
  refine List.filter_congr ?_
  intro target _
  rw [Bool.eq_iff_iff]
  simp [← StateFacts.declares_eq_true_iff, SourceLine.declaredNames,
    ← declarations_ofTexts]

/-- By lines a state has content from an action below, directly or anywhere. -/
theorem hasContent_ofTexts_iff
    {policy : AttributionPolicy}
    {lines : List Text}
    {number : Nat}
    {name : String}
    (noBlank : Text.NoBlank name.toList)
    (nonempty : name.toList ≠ []) :
    (ofTexts.facts lines).hasContent policy number name = true ↔
      ∃ action ∈ SourceLine.ofKind .action lines,
        number < action.number ∧
          (policy = .adjacentDeclaration →
            ∃ above ∈ SourceLine.significant lines,
              above.number + 1 = action.number ∧
                above.text = "state ".toList ++ (name.toList ++ " \x7b".toList)) := by
  rw [StateFacts.hasContent_iff]
  constructor
  · rintro ⟨_, adjacent, member, below, counts⟩
    obtain ⟨above, action, isPair, isAction, isAdjacent, rfl⟩ := mem_acts_iff.mp member
    have isLine := SourceLine.mem_significant_of_withAbove isPair
    refine ⟨action, SourceLine.mem_ofKind_iff.mpr ⟨isLine, isAction⟩, below, ?_⟩
    intro isPolicy
    rw [counts isPolicy] at isAdjacent
    obtain ⟨upper, rfl, spelled⟩ := Option.bind_eq_some_iff.mp isAdjacent
    obtain ⟨isUpper, directlyAbove⟩ := SourceLine.above_of_withAbove isPair
    exact ⟨upper, isUpper, directlyAbove, (StateFact.declaredOn?_eq_some_iff.mp spelled).1⟩
  · rintro ⟨action, isAction, below, counts⟩
    obtain ⟨isLine, isKind⟩ := SourceLine.mem_ofKind_iff.mp isAction
    cases policy with
    | anyAction =>
        obtain ⟨above, isPair⟩ := SourceLine.exists_withAbove isLine
        exact ⟨action.number, above.bind ofTexts.adjacent?,
          mem_acts_iff.mpr ⟨above, action, isPair, isKind, rfl, rfl⟩, below, nofun⟩
    | adjacentDeclaration =>
        obtain ⟨upper, isUpper, directlyAbove, spelled⟩ := counts rfl
        have isPair := SourceLine.mem_withAbove_of_consecutive isUpper isLine directlyAbove
        have isAdjacent : ofTexts.adjacent? upper = some name :=
          StateFact.declaredOn?_eq_some_iff.mpr ⟨spelled, noBlank, nonempty⟩
        exact ⟨action.number, some name,
          mem_acts_iff.mpr ⟨some upper, action, isPair, isKind, isAdjacent, rfl⟩, below,
          fun _ => rfl⟩

end LineReading

namespace SourceLine

/-- A declared name is a word. -/
theorem word_of_mem_declarations
    {lines : List Text}
    {number : Nat}
    {name : String}
    (member : (number, name) ∈ declarations lines) :
    Text.NoBlank name.toList ∧ name.toList ≠ [] := by
  obtain ⟨line, _, isName⟩ := List.mem_filterMap.mp member
  obtain ⟨field, found, isPair⟩ := Option.map_eq_some_iff.mp isName
  cases isPair
  rw [String.toList_ofList]
  exact Text.mem_fields (List.mem_of_getElem? found)

end SourceLine

namespace Analysis

/-- An analysis tells of the states and errors that the lines of a unit call for. -/
structure TellsOfLines
    (policy : AttributionPolicy)
    (lines : List Text)
    (analysis : Analysis) :
    Prop where
  names :
    analysis.states.map StateRecord.name = (SourceLine.declaredNames lines).eraseDups
  firstLine :
    ∀ record ∈ analysis.states,
      IsLeast
        {number | (number, record.name) ∈ SourceLine.declarations lines}
        record.declarationLine
  content :
    ∀ record ∈ analysis.states,
      record.hasContent = true ↔
        ∃ action ∈ SourceLine.ofKind .action lines,
          record.declarationLine < action.number ∧
            (policy = .adjacentDeclaration →
              ∃ above ∈ SourceLine.significant lines,
                above.number + 1 = action.number ∧
                  above.text =
                    "state ".toList ++ (record.name.toList ++ " \x7b".toList))
  undefinedReferences :
    analysis.undefinedReferences =
      (SourceLine.targets lines).eraseDups.filter
        fun target => target ∉ SourceLine.declaredNames lines
  diagnostics :
    ∃ numbered : List SemanticError,
      analysis.diagnostics =
          (numbered ++
            analysis.undefinedReferences.map SemanticError.undefinedStateReference).map
              SemanticError.toDiagnostic ∧
        (∀ error,
          error ∈ numbered ↔
            StateFacts.LineError (SourceLine.declarations lines)
              (SourceLine.shortTransitions lines) analysis.states error) ∧
        ∃ numbers : List Nat,
          numbered.map SemanticError.line? = numbers.map some ∧
            numbers.Pairwise (· < ·)
  noRepeats :
    analysis.diagnostics.Nodup

section ByLines

variable (policy : AttributionPolicy)
variable (lines : List Text)
variable (tokens : List Token)

/-- The analysis by lines walks over what the texts say. -/
theorem ofUnit_lines :
    ofUnit policy .lines lines tokens =
      ofWalk (Walk.ofFacts policy (LineReading.ofTexts.facts lines)) := by
  rw [LineReading.facts_ofTexts]
  rfl

theorem states_ofUnit_lines :
    (ofUnit policy .lines lines tokens).states =
      (LineReading.ofTexts.facts lines).states policy := by
  rw [ofUnit_lines]
  exact StateFacts.ofFacts_states policy (LineReading.facts_ordered _ lines)

theorem diagnostics_ofUnit_lines :
    (ofUnit policy .lines lines tokens).diagnostics =
      ((LineReading.ofTexts.facts lines).errors policy).map SemanticError.toDiagnostic := by
  rw [ofUnit_lines]
  exact StateFacts.ofFacts_diagnostics policy (LineReading.facts_ordered _ lines)

theorem names_ofUnit_lines :
    (ofUnit policy .lines lines tokens).states.map StateRecord.name =
      (SourceLine.declaredNames lines).eraseDups := by
  rw [states_ofUnit_lines,
    StateFacts.map_name_states policy (LineReading.facts_ordered _ lines),
    LineReading.declarations_ofTexts]
  rfl

theorem undefinedReferences_ofUnit_lines :
    (ofUnit policy .lines lines tokens).undefinedReferences =
      (LineReading.ofTexts.facts lines).undefined := by
  rw [ofUnit_lines]
  exact StateFacts.ofFacts_undefinedReferences policy (LineReading.facts_ordered _ lines)

end ByLines

/--
The analysis by lines is exact: its states are the declared names, each with its
first line; its diagnostics are one for every repeated declaration, every
transition with too few parts and every state without content, by increasing
line, and then one for every undeclared target, in the order of first reference.
-/
theorem tellsOfLines_ofUnit
    (policy : AttributionPolicy)
    (lines : List Text)
    (tokens : List Token) :
    TellsOfLines policy lines (ofUnit policy .lines lines tokens) := by
  have ordered := LineReading.facts_ordered LineReading.ofTexts lines
  have isDeclarations := LineReading.declarations_ofTexts lines
  have isStates := states_ofUnit_lines policy lines tokens
  have isDiagnostics := diagnostics_ofUnit_lines policy lines tokens
  have isUndefined := undefinedReferences_ofUnit_lines policy lines tokens
  refine ⟨names_ofUnit_lines policy lines tokens, ?_, ?_, ?_, ?_, ?_⟩
  · intro record member
    rw [isStates] at member
    rw [← isDeclarations]
    exact StateFacts.isLeast_declarationLine member
  · intro record member
    rw [isStates] at member
    have isFirst := StateFacts.isLeast_declarationLine member
    rw [isDeclarations] at isFirst
    obtain ⟨noBlank, nonempty⟩ := SourceLine.word_of_mem_declarations isFirst.1
    rw [← LineReading.hasContent_ofTexts_iff noBlank nonempty,
      StateFacts.hasContent_of_mem_states member]
  · rw [isUndefined, LineReading.undefined_ofTexts]
  · refine
      ⟨(LineReading.ofTexts.facts lines).filterMap
          (StateFacts.lineError? policy (LineReading.ofTexts.facts lines)),
        ?_, ?_, StateFacts.line?_lineErrors policy ordered⟩
    · rw [isDiagnostics, isUndefined]
      rfl
    · intro error
      rw [StateFacts.mem_lineErrors_iff, isDeclarations, LineReading.badLines_ofTexts,
        isStates]
  · rw [isDiagnostics]
    exact (StateFacts.nodup_errors policy ordered).map
      SemanticError.toDiagnostic_injective

end Analysis

end Smsl
