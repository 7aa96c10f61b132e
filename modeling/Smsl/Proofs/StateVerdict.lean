import Mathlib.Data.List.Induction
import Smsl.Proofs.DiagnosticOrder
import Smsl.Proofs.StateIndex
import Smsl.Semantics.Analysis

namespace Smsl

/-!
# What the facts of a unit amount to

The analysis walks over the facts of a unit and collects a table, a set of
references and a list of errors, which it then completes and sorts.  This module
says what comes out without a walk: the first declaration of a name is its
record, a later one is an error, an action gives content to declarations above
it, and a target that is declared nowhere is undefined.
-/

/-- What the lines of a unit say about states, each fact under its line number. -/
abbrev StateFacts := List (Nat × StateFact)

namespace StateFacts

/-- Facts come in order of their lines, and a line has one at most. -/
def Ordered (facts : StateFacts) : Prop :=
  facts.Pairwise fun first second => first.1 < second.1

/-- A state with this name is declared somewhere. -/
def declares
    (facts : StateFacts)
    (name : String) :
    Bool :=
  facts.any fun fact => fact.2 = .declares name

/-- A state with this name is declared above a line. -/
def declaresAbove
    (facts : StateFacts)
    (line : Nat)
    (name : String) :
    Bool :=
  facts.any fun fact => fact.1 < line && fact.2 = .declares name

/-- A fact is an action that counts for a state. -/
def countsFor
    (policy : AttributionPolicy)
    (name : String) :
    StateFact → Bool
  | .acts adjacent =>
      match policy with
      | .adjacentDeclaration => adjacent = some name
      | .anyAction => true
  | _ =>
      false

/-- An action below a line counts for a state. -/
def hasContent
    (policy : AttributionPolicy)
    (facts : StateFacts)
    (line : Nat)
    (name : String) :
    Bool :=
  facts.any fun fact => line < fact.1 && countsFor policy name fact.2

/-- The record that a fact calls for: only a first declaration does. -/
def record?
    (policy : AttributionPolicy)
    (facts : StateFacts) :
    Nat × StateFact → Option StateRecord
  | (line, .declares name) =>
      if facts.declaresAbove line name then
        none
      else
        some
          { name := name
            declarationLine := line
            hasContent := facts.hasContent policy line name }
  | _ =>
      none

/-- The records of the declared states. -/
def states
    (policy : AttributionPolicy)
    (facts : StateFacts) :
    List StateRecord :=
  facts.filterMap (record? policy facts)

/-- The target that a fact refers to. -/
def target? : Nat × StateFact → Option String
  | (_, .refersTo target) => some target
  | _ => none

/-- The targets of all transitions, in order. -/
def targets (facts : StateFacts) : List String :=
  facts.filterMap target?

/-- The targets that are declared nowhere, each at its first reference. -/
def undefined (facts : StateFacts) : List String :=
  (targets facts).eraseDups.filter fun name => !facts.declares name

/-- The error that a fact is on its own line. -/
def lineError?
    (policy : AttributionPolicy)
    (facts : StateFacts) :
    Nat × StateFact → Option SemanticError
  | (line, .declares name) =>
      if facts.declaresAbove line name then
        some (.duplicateState line name)
      else if facts.hasContent policy line name then
        none
      else
        some (.stateWithoutContent line name)
  | (line, .badTransition) =>
      some (.invalidTransitionFormat line)
  | _ =>
      none

/-- All errors: line by line, and then the undefined targets. -/
def errors
    (policy : AttributionPolicy)
    (facts : StateFacts) :
    List SemanticError :=
  facts.filterMap (lineError? policy facts) ++
    facts.undefined.map .undefinedStateReference

/-! Adding a fact at the end. -/

/-- All facts are on lines above a number. -/
def AllAbove
    (facts : StateFacts)
    (line : Nat) :
    Prop :=
  ∀ fact ∈ facts, fact.1 < line

theorem declaresAbove_append
    {facts : StateFacts}
    {line above : Nat}
    (notBelow : above ≤ line)
    (fact : StateFact)
    (name : String) :
    declaresAbove (facts ++ [(line, fact)]) above name =
      declaresAbove facts above name := by
  have notAbove : ¬ line < above := Nat.not_lt.mpr notBelow
  simp [declaresAbove, notAbove]

theorem declaresAbove_of_allAbove
    {facts : StateFacts}
    {line : Nat}
    (allAbove : facts.AllAbove line)
    (name : String) :
    declaresAbove facts line name = declares facts name := by
  rw [Bool.eq_iff_iff]
  simp only [declaresAbove, declares, List.any_eq_true, Bool.and_eq_true, decide_eq_true_eq]
  constructor
  · rintro ⟨fact, member, _, isDeclaration⟩
    exact ⟨fact, member, isDeclaration⟩
  · rintro ⟨fact, member, isDeclaration⟩
    exact ⟨fact, member, allAbove fact member, isDeclaration⟩

theorem hasContent_append
    (policy : AttributionPolicy)
    (facts : StateFacts)
    {line above : Nat}
    (below : above < line)
    (fact : StateFact)
    (name : String) :
    hasContent policy (facts ++ [(line, fact)]) above name =
      (hasContent policy facts above name || countsFor policy name fact) := by
  simp [hasContent, below]

theorem hasContent_of_allAbove
    (policy : AttributionPolicy)
    {facts : StateFacts}
    {line : Nat}
    (allAbove : facts.AllAbove line)
    (name : String) :
    hasContent policy facts line name = false := by
  simp only [hasContent, List.any_eq_false, Bool.and_eq_true, decide_eq_true_eq]
  rintro fact member ⟨below, _⟩
  exact Nat.lt_asymm below (allAbove fact member)

/-- The records so far, with content where one more fact gives it. -/
def refresh
    (policy : AttributionPolicy)
    (fact : StateFact)
    (record : StateRecord) :
    StateRecord :=
  { record with hasContent := record.hasContent || countsFor policy record.name fact }

/-- One more fact on a line below gives content, and may add a record. -/
theorem states_append
    (policy : AttributionPolicy)
    {facts : StateFacts}
    {line : Nat}
    (allAbove : facts.AllAbove line)
    (fact : StateFact) :
    states policy (facts ++ [(line, fact)]) =
      (states policy facts).map (refresh policy fact) ++
        (record? policy (facts ++ [(line, fact)]) (line, fact)).toList := by
  have earlier :
      ∀ previous ∈ facts,
        record? policy (facts ++ [(line, fact)]) previous =
          (record? policy facts previous).map (refresh policy fact) := by
    rintro ⟨above, previous⟩ member
    have isAbove : above < line := allAbove _ member
    cases previous with
    | declares name =>
        simp only [record?, declaresAbove_append (Nat.le_of_lt isAbove),
          hasContent_append policy facts isAbove]
        split <;> rfl
    | refersTo _ | badTransition | acts _ =>
        rfl
  rw [states, List.filterMap_append, states, List.map_filterMap,
    List.filterMap_congr earlier]
  cases added : record? policy (facts ++ [(line, fact)]) (line, fact) <;>
    simp [added]

/-- A declaration on the last line adds a record if its name is new. -/
theorem record?_last_declares
    (policy : AttributionPolicy)
    {facts : StateFacts}
    {line : Nat}
    (allAbove : facts.AllAbove line)
    (name : String) :
    record? policy (facts ++ [(line, .declares name)]) (line, .declares name) =
      if facts.declares name then
        none
      else
        some { name := name, declarationLine := line, hasContent := false } := by
  have noContent :
      hasContent policy (facts ++ [(line, .declares name)]) line name = false := by
    have before := hasContent_of_allAbove policy allAbove name
    simpa [hasContent] using before
  simp only [record?, declaresAbove_append (Nat.le_refl line),
    declaresAbove_of_allAbove allAbove, noContent]

theorem refresh_of_not_countsFor
    {policy : AttributionPolicy}
    {fact : StateFact}
    (counts : ∀ name, countsFor policy name fact = false)
    (records : List StateRecord) :
    records.map (refresh policy fact) = records := by
  have unchanged : ∀ record ∈ records, refresh policy fact record = record := by
    intro record _
    simp [refresh, counts]
  simpa using List.map_congr_left unchanged

/-- A record comes from a first declaration, and shows its content. -/
theorem record?_eq_some_iff
    {policy : AttributionPolicy}
    {facts : StateFacts}
    {line : Nat}
    {fact : StateFact}
    {record : StateRecord} :
    record? policy facts (line, fact) = some record ↔
      fact = .declares record.name ∧
        record.declarationLine = line ∧
          facts.declaresAbove line record.name = false ∧
            facts.hasContent policy line record.name = record.hasContent := by
  obtain ⟨name, declarationLine, hasContent⟩ := record
  cases fact with
  | declares declared =>
      by_cases above : facts.declaresAbove line declared
      · simp only [record?, above, ↓reduceIte, reduceCtorEq, StateFact.declares.injEq,
          false_iff, not_and]
        rintro rfl _ notAbove
        simp [above] at notAbove
      · simp only [record?, above, Bool.false_eq_true, ↓reduceIte, Option.some.injEq,
          StateRecord.mk.injEq, StateFact.declares.injEq]
        constructor
        · rintro ⟨rfl, rfl, rfl⟩
          exact ⟨rfl, rfl, by simpa using above, rfl⟩
        · rintro ⟨rfl, rfl, _, rfl⟩
          exact ⟨rfl, rfl, rfl⟩
  | refersTo _ | badTransition | acts _ =>
      simp [record?]

/-- A name is declared exactly if it has a record. -/
theorem any_states
    (policy : AttributionPolicy)
    (facts : StateFacts)
    (name : String) :
    (states policy facts).any (fun record => record.name == name) =
      facts.declares name := by
  have first :
      ∀ line,
        (line, .declares name) ∈ facts →
        ∃ record ∈ states policy facts, record.name = name := by
    intro line
    induction line using Nat.strongRecOn with
    | ind line inductionHypothesis =>
        intro member
        by_cases above : facts.declaresAbove line name
        · obtain ⟨⟨earlier, fact⟩, earlierMember, isEarlier⟩ := List.any_eq_true.mp above
          simp only [Bool.and_eq_true, decide_eq_true_eq] at isEarlier
          obtain ⟨less, rfl⟩ := isEarlier
          exact inductionHypothesis earlier less earlierMember
        · refine
            ⟨{ name := name
               declarationLine := line
               hasContent := facts.hasContent policy line name },
              List.mem_filterMap.mpr ⟨_, member, ?_⟩, rfl⟩
          simp [record?, above]
  rw [Bool.eq_iff_iff]
  simp only [List.any_eq_true, declares, beq_iff_eq, decide_eq_true_eq]
  constructor
  · rintro ⟨record, member, rfl⟩
    obtain ⟨⟨line, fact⟩, factMember, isRecord⟩ := List.mem_filterMap.mp member
    exact ⟨(line, fact), factMember, (record?_eq_some_iff.mp isRecord).1⟩
  · rintro ⟨⟨line, fact⟩, member, rfl⟩
    exact first line member

/-! The walk, one fact at a time. -/

/-- The error that shows as soon as a fact is seen. -/
def immediate?
    (facts : StateFacts) :
    Nat × StateFact → Option SemanticError
  | (line, .declares name) =>
      if facts.declaresAbove line name then
        some (.duplicateState line name)
      else
        none
  | (line, .badTransition) =>
      some (.invalidTransitionFormat line)
  | _ =>
      none

/-- A walk has collected what the facts so far amount to. -/
structure Collected
    (policy : AttributionPolicy)
    (facts : StateFacts)
    (walk : Walk) :
    Prop where
  inStep :
    walk.InStep
  records :
    walk.table.records = states policy facts
  references :
    walk.references.names = (targets facts).eraseDups
  errors :
    walk.errors.toList = facts.filterMap (immediate? facts)

theorem immediate_append
    {facts : StateFacts}
    {line : Nat}
    (allAbove : facts.AllAbove line)
    (fact : StateFact) :
    (facts ++ [(line, fact)]).filterMap (immediate? (facts ++ [(line, fact)])) =
      facts.filterMap (immediate? facts) ++
        (immediate? (facts ++ [(line, fact)]) (line, fact)).toList := by
  have earlier :
      ∀ previous ∈ facts,
        immediate? (facts ++ [(line, fact)]) previous = immediate? facts previous := by
    rintro ⟨above, previous⟩ member
    have isAbove : above < line := allAbove _ member
    cases previous with
    | declares name =>
        simp only [immediate?, declaresAbove_append (Nat.le_of_lt isAbove)]
    | refersTo _ | badTransition | acts _ =>
        rfl
  rw [List.filterMap_append, List.filterMap_congr earlier]
  cases added : immediate? (facts ++ [(line, fact)]) (line, fact) <;>
    simp [added]

theorem targets_append
    (facts : StateFacts)
    (line : Nat)
    (fact : StateFact) :
    targets (facts ++ [(line, fact)]) =
      targets facts ++ (target? (line, fact)).toList := by
  cases fact <;> simp [targets, target?]

theorem collected_nil (policy : AttributionPolicy) :
    Collected policy [] Walk.empty :=
  ⟨Walk.inStep_empty, rfl, rfl, rfl⟩

theorem Collected.contains_eq
    {policy : AttributionPolicy}
    {facts : StateFacts}
    {walk : Walk}
    (collected : Collected policy facts walk)
    (name : String) :
    walk.table.contains name = facts.declares name := by
  rw [collected.inStep.table.contains_eq_any, collected.records, any_states]

theorem Collected.declare
    {policy : AttributionPolicy}
    {facts : StateFacts}
    {walk : Walk}
    (collected : Collected policy facts walk)
    {line : Nat}
    (allAbove : facts.AllAbove line)
    (name : String) :
    Collected policy (facts ++ [(line, .declares name)])
      (walk.step policy line (.declares name)) := by
  have unchanged :
      (states policy facts).map (refresh policy (.declares name)) =
        states policy facts :=
    refresh_of_not_countsFor (fun _ => rfl) _
  have earlierDeclaration :
      declaresAbove (facts ++ [(line, .declares name)]) line name =
        facts.declares name := by
    rw [declaresAbove_append (Nat.le_refl line), declaresAbove_of_allAbove allAbove]
  have inStep := collected.inStep.step policy line (.declares name)
  by_cases known : facts.declares name
  · have stepped :
        walk.step policy line (.declares name) =
          walk.report (.duplicateState line name) := by
      simp [Walk.step, Walk.declare, StateTable.declare, collected.contains_eq, known]
    rw [stepped] at inStep ⊢
    refine ⟨inStep, ?_, ?_, ?_⟩
    · rw [states_append policy allAbove, record?_last_declares policy allAbove, unchanged]
      simpa [known, Walk.report] using collected.records
    · simpa [targets_append, target?, Walk.report] using collected.references
    · rw [immediate_append allAbove]
      simp [immediate?, earlierDeclaration, known, Walk.report, collected.errors]
  · have stepped :
        walk.step policy line (.declares name) =
          { walk with
            table := walk.table.withRecord (StateTable.declaredRecord name line) } := by
      have isNew : walk.table.contains name = false := by
        simp [collected.contains_eq, known]
      simp [Walk.step, Walk.declare, StateTable.declare_of_new isNew]
    rw [stepped] at inStep ⊢
    refine ⟨inStep, ?_, ?_, ?_⟩
    · rw [states_append policy allAbove, record?_last_declares policy allAbove, unchanged]
      simp [known, collected.records, StateTable.withRecord, StateTable.declaredRecord]
    · simpa [targets_append, target?] using collected.references
    · rw [immediate_append allAbove]
      simp [immediate?, earlierDeclaration, known, collected.errors]

theorem Collected.refer
    {policy : AttributionPolicy}
    {facts : StateFacts}
    {walk : Walk}
    (collected : Collected policy facts walk)
    {line : Nat}
    (allAbove : facts.AllAbove line)
    (target : String) :
    Collected policy (facts ++ [(line, .refersTo target)])
      (walk.step policy line (.refersTo target)) := by
  refine ⟨collected.inStep.step policy line _, ?_, ?_, ?_⟩
  · rw [states_append policy allAbove, refresh_of_not_countsFor (fun _ => rfl)]
    simpa [record?, Walk.step] using collected.records
  · have added : targets (facts ++ [(line, .refersTo target)]) = targets facts ++ [target] :=
      targets_append facts line (.refersTo target)
    rw [added, eraseDups_append_name]
    simp only [Walk.step, collected.inStep.references.names_insert, collected.references,
      List.mem_eraseDups]
  · rw [immediate_append allAbove]
    simpa [immediate?, Walk.step] using collected.errors

theorem Collected.reportBadTransition
    {policy : AttributionPolicy}
    {facts : StateFacts}
    {walk : Walk}
    (collected : Collected policy facts walk)
    {line : Nat}
    (allAbove : facts.AllAbove line) :
    Collected policy (facts ++ [(line, .badTransition)])
      (walk.step policy line .badTransition) := by
  refine ⟨collected.inStep.step policy line _, ?_, ?_, ?_⟩
  · rw [states_append policy allAbove, refresh_of_not_countsFor (fun _ => rfl)]
    simpa [record?, Walk.step, Walk.report] using collected.records
  · simpa [targets_append, target?, Walk.step, Walk.report] using collected.references
  · rw [immediate_append allAbove]
    simp [immediate?, Walk.step, Walk.report, collected.errors]

/-- An action gives content to the records that it counts for. -/
theorem giveContent_records
    (policy : AttributionPolicy)
    {walk : Walk}
    (inStep : walk.InStep)
    (adjacent : Option String) :
    (walk.giveContent policy adjacent).table.records =
      walk.table.records.map (refresh policy (.acts adjacent)) := by
  cases policy with
  | adjacentDeclaration =>
      cases adjacent with
      | none =>
          rw [refresh_of_not_countsFor (fun _ => by simp [countsFor])]
          rfl
      | some name =>
          simp only [Walk.giveContent, inStep.table.records_markContent]
          refine List.map_congr_left ?_
          intro record _
          by_cases sameName : record.name = name
          · simp [StateTable.fill, refresh, countsFor, sameName]
          · have otherName : ¬ name = record.name := fun same => sameName same.symm
            simp [StateTable.fill, refresh, countsFor, sameName, otherName]
  | anyAction =>
      simp only [Walk.giveContent, StateTable.markAllContent]
      refine List.map_congr_left ?_
      intro record _
      simp [refresh, countsFor]

theorem Collected.act
    {policy : AttributionPolicy}
    {facts : StateFacts}
    {walk : Walk}
    (collected : Collected policy facts walk)
    {line : Nat}
    (allAbove : facts.AllAbove line)
    (adjacent : Option String) :
    Collected policy (facts ++ [(line, .acts adjacent)])
      (walk.step policy line (.acts adjacent)) := by
  have others :
      (walk.giveContent policy adjacent).references = walk.references ∧
        (walk.giveContent policy adjacent).errors = walk.errors := by
    cases policy <;> cases adjacent <;> exact ⟨rfl, rfl⟩
  refine ⟨collected.inStep.step policy line _, ?_, ?_, ?_⟩
  · rw [states_append policy allAbove]
    simp [Walk.step, giveContent_records policy collected.inStep, record?, collected.records]
  · simpa [targets_append, target?, Walk.step, others.1] using collected.references
  · rw [immediate_append allAbove]
    simpa [immediate?, Walk.step, others.2] using collected.errors

/-- Taking in one more fact collects it. -/
theorem Collected.step
    {policy : AttributionPolicy}
    {facts : StateFacts}
    {walk : Walk}
    (collected : Collected policy facts walk)
    {line : Nat}
    (allAbove : facts.AllAbove line)
    (fact : StateFact) :
    Collected policy (facts ++ [(line, fact)]) (walk.step policy line fact) := by
  cases fact with
  | declares name =>
      exact collected.declare allAbove name
  | refersTo target =>
      exact collected.refer allAbove target
  | badTransition =>
      exact collected.reportBadTransition allAbove
  | acts adjacent =>
      exact collected.act allAbove adjacent

/-- A walk over ordered facts collects what they amount to. -/
theorem collected_ofFacts
    (policy : AttributionPolicy)
    {facts : StateFacts}
    (ordered : facts.Ordered) :
    Collected policy facts (Walk.ofFacts policy facts) := by
  induction facts using List.reverseRecOn with
  | nil =>
      exact collected_nil policy
  | append_singleton earlier last inductionHypothesis =>
      obtain ⟨earlierOrdered, _, allAbove⟩ := List.pairwise_append.mp ordered
      have walked := (inductionHypothesis earlierOrdered).step
        (fun fact member => allAbove fact member last (by simp)) last.2
      simpa [Walk.ofFacts] using walked

/-! The errors of a whole unit, in order. -/

/-- The error of a first declaration whose state stays without content. -/
def emptyState?
    (policy : AttributionPolicy)
    (facts : StateFacts)
    (fact : Nat × StateFact) :
    Option SemanticError :=
  (record? policy facts fact).bind fun record =>
    if record.hasContent then
      none
    else
      some (.stateWithoutContent record.declarationLine record.name)

theorem emptyStates_eq
    {policy : AttributionPolicy}
    {facts : StateFacts}
    {walk : Walk}
    (collected : Collected policy facts walk) :
    (walk.emptyStates.map fun record =>
        SemanticError.stateWithoutContent record.declarationLine record.name) =
      facts.filterMap (emptyState? policy facts) := by
  rw [Walk.emptyStates, collected.records, states, List.filter_filterMap,
    List.map_filterMap]
  refine List.filterMap_congr ?_
  intro fact _
  cases called : record? policy facts fact with
  | none =>
      simp [emptyState?, called]
  | some record =>
      by_cases content : record.hasContent = true
      · simp [emptyState?, called, content]
      · simp [emptyState?, called, content]

/-- A line has the error that shows at once, or lacks content, or neither. -/
theorem lineError?_eq
    (policy : AttributionPolicy)
    (facts : StateFacts)
    (fact : Nat × StateFact) :
    lineError? policy facts fact = immediate? facts fact ∧
        emptyState? policy facts fact = none ∨
      lineError? policy facts fact = emptyState? policy facts fact ∧
        immediate? facts fact = none := by
  obtain ⟨line, fact⟩ := fact
  cases fact with
  | declares name =>
      by_cases above : facts.declaresAbove line name
      · exact .inl (by simp [lineError?, immediate?, emptyState?, record?, above])
      · exact .inr (by simp [lineError?, immediate?, emptyState?, record?, above])
  | refersTo _ | badTransition | acts _ =>
      exact .inl ⟨rfl, rfl⟩

/-- The errors of the walk and those of the states are the errors of the lines. -/
theorem lineErrors_perm
    (policy : AttributionPolicy)
    (facts whole : StateFacts) :
    (facts.filterMap (immediate? whole) ++
        facts.filterMap (emptyState? policy whole)).Perm
      (facts.filterMap (lineError? policy whole)) := by
  induction facts with
  | nil =>
      exact .nil
  | cons fact rest inductionHypothesis =>
      rcases lineError?_eq policy whole fact with
          ⟨sameError, noOther⟩ | ⟨sameError, noOther⟩
      · cases found : immediate? whole fact with
        | none =>
            simpa [sameError, noOther, found] using inductionHypothesis
        | some error =>
            simpa [sameError, noOther, found] using inductionHypothesis
      · cases found : emptyState? policy whole fact with
        | none =>
            simpa [sameError, noOther, found] using inductionHypothesis
        | some error =>
            have moved :
                (rest.filterMap (immediate? whole) ++
                    error :: rest.filterMap (emptyState? policy whole)).Perm
                  (error ::
                    (rest.filterMap (immediate? whole) ++
                      rest.filterMap (emptyState? policy whole))) :=
              List.perm_middle
            simpa [sameError, noOther, found] using
              moved.trans (inductionHypothesis.cons error)

/-- An error of a line comes from a declaration or a bad transition there. -/
theorem lineError?_cases
    {policy : AttributionPolicy}
    {facts : StateFacts}
    {line : Nat}
    {fact : StateFact}
    {error : SemanticError}
    (found : lineError? policy facts (line, fact) = some error) :
    (∃ name,
      fact = .declares name ∧
        (error = .duplicateState line name ∨ error = .stateWithoutContent line name)) ∨
      (fact = .badTransition ∧ error = .invalidTransitionFormat line) := by
  cases fact with
  | declares name =>
      refine .inl ⟨name, rfl, ?_⟩
      simp only [lineError?] at found
      split at found
      · exact .inl (Option.some.inj found).symm
      · split at found
        · cases found
        · exact .inr (Option.some.inj found).symm
  | badTransition =>
      exact .inr ⟨rfl, (Option.some.inj found).symm⟩
  | refersTo _ | acts _ =>
      cases found

/-- An error of a line has the number of that line. -/
theorem line?_of_lineError?
    {policy : AttributionPolicy}
    {facts : StateFacts}
    {fact : Nat × StateFact}
    {error : SemanticError}
    (found : lineError? policy facts fact = some error) :
    error.line? = some fact.1 := by
  rcases lineError?_cases found with ⟨name, _, rfl | rfl⟩ | ⟨_, rfl⟩ <;> rfl

/-- The diagnostics of the lines come in strictly increasing order. -/
theorem lineErrors_increasing
    (policy : AttributionPolicy)
    {facts : StateFacts}
    (ordered : facts.Ordered) :
    ((facts.filterMap (lineError? policy facts)).map SemanticError.toDiagnostic).Pairwise
      fun first second =>
        ∃ firstLine secondLine,
          first.line = some firstLine ∧
            second.line = some secondLine ∧ firstLine < secondLine := by
  rw [List.pairwise_map, List.pairwise_filterMap]
  refine ordered.imp ?_
  intro first second less firstError isFirst secondError isSecond
  exact ⟨first.1, second.1, line?_of_lineError? isFirst, line?_of_lineError? isSecond, less⟩

theorem ofFacts_states
    (policy : AttributionPolicy)
    {facts : StateFacts}
    (ordered : facts.Ordered) :
    (Analysis.ofWalk (Walk.ofFacts policy facts)).states = states policy facts :=
  (collected_ofFacts policy ordered).records

theorem ofFacts_undefinedReferences
    (policy : AttributionPolicy)
    {facts : StateFacts}
    (ordered : facts.Ordered) :
    (Walk.ofFacts policy facts).undefinedReferences = facts.undefined := by
  have collected := collected_ofFacts policy ordered
  simp [Walk.undefinedReferences, collected.references, collected.contains_eq, undefined]

/-- The diagnostics of an analysis are the errors that its facts amount to. -/
theorem ofFacts_diagnostics
    (policy : AttributionPolicy)
    {facts : StateFacts}
    (ordered : facts.Ordered) :
    (Analysis.ofWalk (Walk.ofFacts policy facts)).diagnostics =
      (errors policy facts).map SemanticError.toDiagnostic := by
  have collected := collected_ofFacts policy ordered
  have allErrors :
      (Walk.ofFacts policy facts).allErrors =
        facts.filterMap (immediate? facts) ++
          facts.undefined.map .undefinedStateReference ++
            facts.filterMap (emptyState? policy facts) := by
    rw [Walk.allErrors, collected.errors, ofFacts_undefinedReferences policy ordered,
      emptyStates_eq collected]
  have same := lineErrors_perm policy facts facts
  have numbered :
      ∀ error ∈ facts.filterMap (immediate? facts) ++
          facts.filterMap (emptyState? policy facts),
        error.toDiagnostic.isNumbered = true := by
    intro error member
    obtain ⟨fact, _, found⟩ := List.mem_filterMap.mp (same.mem_iff.mp member)
    simp [Diagnostic.isNumbered, SemanticError.toDiagnostic, Diagnostic.ofStage,
      line?_of_lineError? found]
  rw [Analysis.diagnostics, Analysis.ofWalk, allErrors, errors, List.map_append,
    List.map_append, List.map_append]
  refine Diagnostic.sortByLine_append_append ?_ ?_ ?_ ?_
    (lineErrors_increasing policy ordered)
  · intro diagnostic member
    obtain ⟨error, isError, rfl⟩ := List.mem_map.mp member
    exact numbered error (List.mem_append_left _ isError)
  · intro diagnostic member
    obtain ⟨error, isError, rfl⟩ := List.mem_map.mp member
    obtain ⟨name, _, rfl⟩ := List.mem_map.mp isError
    rfl
  · intro diagnostic member
    obtain ⟨error, isError, rfl⟩ := List.mem_map.mp member
    exact numbered error (List.mem_append_right _ isError)
  · rw [← List.map_append]
    exact same.map SemanticError.toDiagnostic

/-! What the records are like, and what they are like without errors. -/

/-- No two records have the same name. -/
theorem states_pairwise
    (policy : AttributionPolicy)
    {facts : StateFacts}
    (ordered : facts.Ordered) :
    (states policy facts).Pairwise fun first second => first.name ≠ second.name := by
  rw [states, List.pairwise_filterMap]
  refine ordered.imp_of_mem ?_
  rintro ⟨firstLine, firstFact⟩ ⟨secondLine, secondFact⟩ isFirst isSecond less
  intro first firstRecord second secondRecord sameName
  obtain ⟨declaresFirst, _, _, _⟩ := record?_eq_some_iff.mp firstRecord
  obtain ⟨_, _, notAbove, _⟩ := record?_eq_some_iff.mp secondRecord
  have above : facts.declaresAbove secondLine second.name = true := by
    refine List.any_eq_true.mpr ⟨(firstLine, firstFact), isFirst, ?_⟩
    simp [declaresFirst, sameName, less]
  rw [above] at notAbove
  cases notAbove

/-- Without errors every state has content. -/
theorem hasContent_of_errors_eq_nil
    {policy : AttributionPolicy}
    {facts : StateFacts}
    (noErrors : errors policy facts = [])
    {record : StateRecord}
    (member : record ∈ states policy facts) :
    record.hasContent = true := by
  obtain ⟨⟨line, fact⟩, isFact, isRecord⟩ := List.mem_filterMap.mp member
  obtain ⟨rfl, _, notAbove, content⟩ := record?_eq_some_iff.mp isRecord
  have fine :=
    List.filterMap_eq_nil_iff.mp (List.append_eq_nil_iff.mp noErrors).1 _ isFact
  by_contra empty
  simp [lineError?, notAbove, content, empty] at fine

/-- Without errors every target is a declared state. -/
theorem declared_of_errors_eq_nil
    {policy : AttributionPolicy}
    {facts : StateFacts}
    (noErrors : errors policy facts = [])
    {line : Nat}
    {target : String}
    (refers : (line, .refersTo target) ∈ facts) :
    ∃ record ∈ states policy facts, record.name = target := by
  have fine := List.map_eq_nil_iff.mp (List.append_eq_nil_iff.mp noErrors).2
  have isTarget : target ∈ (targets facts).eraseDups :=
    List.mem_eraseDups.mpr (List.mem_filterMap.mpr ⟨_, refers, rfl⟩)
  have declared : facts.declares target = true := by
    simpa using List.filter_eq_nil_iff.mp fine target isTarget
  rw [← any_states policy] at declared
  simpa using List.any_eq_true.mp declared

/-! What records and errors tell about the facts. -/

/-- A declaration shows as a record or as a duplicate. -/
theorem mem_declares_iff
    (policy : AttributionPolicy)
    {facts : StateFacts}
    {line : Nat}
    {name : String} :
    (line, .declares name) ∈ facts ↔
      (∃ record ∈ states policy facts,
        record.name = name ∧ record.declarationLine = line) ∨
      .duplicateState line name ∈ errors policy facts := by
  constructor
  · intro member
    by_cases above : facts.declaresAbove line name
    · refine .inr (List.mem_append_left _ (List.mem_filterMap.mpr ⟨_, member, ?_⟩))
      simp [lineError?, above]
    · refine .inl
        ⟨{ name := name
           declarationLine := line
           hasContent := facts.hasContent policy line name },
          List.mem_filterMap.mpr ⟨_, member, ?_⟩, rfl, rfl⟩
      simp [record?, above]
  · rintro (⟨record, isRecord, rfl, rfl⟩ | isError)
    · obtain ⟨⟨number, fact⟩, member, called⟩ := List.mem_filterMap.mp isRecord
      obtain ⟨rfl, sameLine, _, _⟩ := record?_eq_some_iff.mp called
      rwa [sameLine]
    · rcases List.mem_append.mp isError with ofLine | ofTarget
      · obtain ⟨⟨number, fact⟩, member, found⟩ := List.mem_filterMap.mp ofLine
        rcases lineError?_cases found with
            ⟨declared, rfl, isDuplicate | isEmpty⟩ | ⟨_, isBad⟩
        · cases isDuplicate
          exact member
        · cases isEmpty
        · cases isBad
      · obtain ⟨target, _, isError⟩ := List.mem_map.mp ofTarget
        cases isError

/-- A bad transition shows as an error. -/
theorem mem_badTransition_iff
    (policy : AttributionPolicy)
    {facts : StateFacts}
    {line : Nat} :
    (line, .badTransition) ∈ facts ↔
      .invalidTransitionFormat line ∈ errors policy facts := by
  constructor
  · intro member
    exact List.mem_append_left _ (List.mem_filterMap.mpr ⟨_, member, rfl⟩)
  · intro isError
    rcases List.mem_append.mp isError with ofLine | ofTarget
    · obtain ⟨⟨number, fact⟩, member, found⟩ := List.mem_filterMap.mp ofLine
      rcases lineError?_cases found with
          ⟨declared, _, isDuplicate | isEmpty⟩ | ⟨rfl, isBad⟩
      · cases isDuplicate
      · cases isEmpty
      · cases isBad
        exact member
    · obtain ⟨target, _, isError⟩ := List.mem_map.mp ofTarget
      cases isError

/-- Content comes from an action further down that counts. -/
theorem hasContent_iff
    {policy : AttributionPolicy}
    {facts : StateFacts}
    {line : Nat}
    {name : String} :
    facts.hasContent policy line name = true ↔
      ∃ number adjacent,
        (number, .acts adjacent) ∈ facts ∧
          line < number ∧ (policy = .adjacentDeclaration → adjacent = some name) := by
  simp only [hasContent, List.any_eq_true, Bool.and_eq_true, decide_eq_true_eq, Prod.exists]
  constructor
  · rintro ⟨number, fact, member, below, counts⟩
    cases fact with
    | acts adjacent =>
        refine ⟨number, adjacent, member, below, ?_⟩
        rintro rfl
        simpa [countsFor] using counts
    | declares _ | refersTo _ | badTransition =>
        cases counts
  · rintro ⟨number, adjacent, member, below, counts⟩
    refine ⟨number, .acts adjacent, member, below, ?_⟩
    cases policy with
    | adjacentDeclaration =>
        simp [countsFor, counts rfl]
    | anyAction =>
        rfl

end StateFacts

end Smsl
