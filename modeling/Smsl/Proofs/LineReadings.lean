import Smsl.Proofs.UnitFacts

namespace Smsl

/-!
# Readings of lines

A reading finds three things on lines of known kinds: the name that a state line
declares, the target of a transition line, and the state that a line gives an
action directly below it.  Two readings of a unit come to the same verdict
exactly when they agree on what the verdict depends on.
-/

/-- How errors are worded tells them apart. -/
theorem SemanticError.quoted_name_inj
    {before name other : String}
    (same : before ++ name ++ "'" = before ++ other ++ "'") :
    name = other := by
  have sameFront := (String.append_left_inj _).mp same
  exact (String.append_right_inj _).mp sameFront

/-- Different errors give different diagnostics. -/
theorem SemanticError.toDiagnostic_injective :
    Function.Injective SemanticError.toDiagnostic := by
  intro first second same
  have sameLine : first.line? = second.line? := congrArg Diagnostic.line same
  have sameCode : first.code = second.code := congrArg Diagnostic.code same
  have sameMessage : first.message = second.message := congrArg Diagnostic.message same
  cases first with
  | duplicateState line name =>
      cases second with
      | duplicateState otherLine otherName =>
          cases sameLine
          rw [quoted_name_inj sameMessage]
      | invalidTransitionFormat | undefinedStateReference | stateWithoutContent =>
          simp only [code] at sameCode
          exact absurd sameCode (by decide)
  | invalidTransitionFormat line =>
      cases second with
      | invalidTransitionFormat _ =>
          cases sameLine
          rfl
      | duplicateState | undefinedStateReference | stateWithoutContent =>
          simp only [code] at sameCode
          exact absurd sameCode (by decide)
  | undefinedStateReference name =>
      cases second with
      | undefinedStateReference otherName =>
          rw [quoted_name_inj sameMessage]
      | duplicateState | invalidTransitionFormat | stateWithoutContent =>
          simp only [code] at sameCode
          exact absurd sameCode (by decide)
  | stateWithoutContent line name =>
      cases second with
      | stateWithoutContent otherLine otherName =>
          cases sameLine
          rw [quoted_name_inj sameMessage]
      | duplicateState | invalidTransitionFormat | undefinedStateReference =>
          simp only [code] at sameCode
          exact absurd sameCode (by decide)

/-- The significant lines of a kind. -/
def SourceLine.ofKind
    (kind : StatementKind)
    (lines : List Text) :
    List SourceLine :=
  (significant lines).filter fun line => StatementKind.ofText line.text = kind

theorem SourceLine.mem_ofKind_iff
    {kind : StatementKind}
    {lines : List Text}
    {line : SourceLine} :
    line ∈ ofKind kind lines ↔
      line ∈ significant lines ∧ StatementKind.ofText line.text = kind := by
  simp [ofKind]

/-- What is read off lines of known kinds. -/
structure LineReading where
  name? : SourceLine → Option String
  target? : SourceLine → Option String
  adjacent? : SourceLine → Option String

namespace LineReading

/-- What a line says about states by a reading. -/
def fact?
    (reading : LineReading)
    (above : Option SourceLine)
    (line : SourceLine) :
    Option StateFact :=
  match StatementKind.ofText line.text with
  | .stateDeclaration =>
      (reading.name? line).map .declares
  | .transitionDeclaration =>
      match reading.target? line with
      | some target => some (.refersTo target)
      | none => some .badTransition
  | .action =>
      some (.acts (above.bind reading.adjacent?))
  | .marker =>
      none
  | .brace =>
      none
  | .unrecognized =>
      none

/-- What a unit says about states by a reading. -/
def facts
    (reading : LineReading)
    (lines : List Text) :
    StateFacts :=
  StateFact.ofReading reading.fact? lines

/-- The names of all state lines. -/
def names
    (reading : LineReading)
    (lines : List Text) :
    List String :=
  (SourceLine.ofKind .stateDeclaration lines).filterMap reading.name?

/-- The targets of all transition lines that no state line names, each once. -/
def undeclared
    (reading : LineReading)
    (lines : List Text) :
    List String :=
  ((SourceLine.ofKind .transitionDeclaration lines).filterMap
    reading.target?).eraseDups.filter fun target => !(reading.names lines).contains target

/-- An action stands directly below a line that gives it a state. -/
def ActsFor
    (reading : LineReading)
    (lines : List Text)
    (name : String) :
    Prop :=
  ∃ above line,
    (some above, line) ∈ SourceLine.withAbove none 1 lines ∧
      StatementKind.ofText line.text = .action ∧ reading.adjacent? above = some name

/-! What single lines say. -/

theorem fact?_eq_declares_iff
    {reading : LineReading}
    {above : Option SourceLine}
    {line : SourceLine}
    {name : String} :
    reading.fact? above line = some (.declares name) ↔
      StatementKind.ofText line.text = .stateDeclaration ∧
        reading.name? line = some name := by
  cases kind : StatementKind.ofText line.text with
  | transitionDeclaration =>
      cases target : reading.target? line <;> simp [fact?, kind, target]
  | stateDeclaration | action | marker | brace | unrecognized =>
      simp [fact?, kind]

theorem fact?_eq_badTransition_iff
    {reading : LineReading}
    {above : Option SourceLine}
    {line : SourceLine} :
    reading.fact? above line = some .badTransition ↔
      StatementKind.ofText line.text = .transitionDeclaration ∧
        reading.target? line = none := by
  cases kind : StatementKind.ofText line.text with
  | transitionDeclaration =>
      cases target : reading.target? line <;> simp [fact?, kind, target]
  | stateDeclaration | action | marker | brace | unrecognized =>
      simp [fact?, kind]

theorem fact?_eq_acts_iff
    {reading : LineReading}
    {above : Option SourceLine}
    {line : SourceLine}
    {adjacent : Option String} :
    reading.fact? above line = some (.acts adjacent) ↔
      StatementKind.ofText line.text = .action ∧
        above.bind reading.adjacent? = adjacent := by
  cases kind : StatementKind.ofText line.text with
  | transitionDeclaration =>
      cases target : reading.target? line <;> simp [fact?, kind, target]
  | stateDeclaration | action | marker | brace | unrecognized =>
      simp [fact?, kind]

/-! What units say. -/

theorem facts_ordered
    (reading : LineReading)
    (lines : List Text) :
    (reading.facts lines).Ordered :=
  StateFact.ofReading_ordered reading.fact? lines

/-- A fact that a line states whatever stands above it is stated by the unit's lines of one
kind. -/
theorem mem_facts_iff_of_kind
    {reading : LineReading}
    {fact : StateFact}
    {kind : StatementKind}
    {states : SourceLine → Prop}
    (stated : ∀ above line, reading.fact? above line = some fact ↔
      StatementKind.ofText line.text = kind ∧ states line)
    {lines : List Text}
    {number : Nat} :
    (number, fact) ∈ reading.facts lines ↔
      ∃ line ∈ SourceLine.ofKind kind lines, states line ∧ line.number = number := by
  rw [facts, StateFact.mem_ofReading_iff]
  simp only [stated, SourceLine.mem_ofKind_iff]
  constructor
  · rintro ⟨above, line, member, ⟨isKind, holds⟩, isNumber⟩
    have isLine := SourceLine.mem_significant_of_withAbove member
    exact ⟨line, ⟨isLine, isKind⟩, holds, isNumber⟩
  · rintro ⟨line, ⟨member, isKind⟩, holds, isNumber⟩
    obtain ⟨above, isPair⟩ := SourceLine.exists_withAbove member
    exact ⟨above, line, isPair, ⟨isKind, holds⟩, isNumber⟩

theorem mem_declares_iff
    {reading : LineReading}
    {lines : List Text}
    {number : Nat}
    {name : String} :
    (number, .declares name) ∈ reading.facts lines ↔
      ∃ line ∈ SourceLine.ofKind .stateDeclaration lines,
        reading.name? line = some name ∧ line.number = number :=
  mem_facts_iff_of_kind fun _ _ => fact?_eq_declares_iff

theorem mem_badTransition_iff
    {reading : LineReading}
    {lines : List Text}
    {number : Nat} :
    (number, .badTransition) ∈ reading.facts lines ↔
      ∃ line ∈ SourceLine.ofKind .transitionDeclaration lines,
        reading.target? line = none ∧ line.number = number :=
  mem_facts_iff_of_kind fun _ _ => fact?_eq_badTransition_iff

theorem mem_acts_iff
    {reading : LineReading}
    {lines : List Text}
    {number : Nat}
    {adjacent : Option String} :
    (number, .acts adjacent) ∈ reading.facts lines ↔
      ∃ above line,
        (above, line) ∈ SourceLine.withAbove none 1 lines ∧
          StatementKind.ofText line.text = .action ∧
            above.bind reading.adjacent? = adjacent ∧ line.number = number := by
  rw [facts, StateFact.mem_ofReading_iff]
  simp only [fact?_eq_acts_iff, and_assoc]

theorem declares_eq
    (reading : LineReading)
    (lines : List Text)
    (name : String) :
    (reading.facts lines).declares name = (reading.names lines).contains name := by
  rw [Bool.eq_iff_iff]
  simp only [StateFacts.declares, List.any_eq_true, decide_eq_true_eq, Prod.exists,
    List.contains_iff_mem, names, List.mem_filterMap]
  constructor
  · rintro ⟨number, fact, member, rfl⟩
    obtain ⟨line, isLine, isName, _⟩ := mem_declares_iff.mp member
    exact ⟨line, isLine, isName⟩
  · rintro ⟨line, isLine, isName⟩
    exact ⟨line.number, _, mem_declares_iff.mpr ⟨line, isLine, isName, rfl⟩, rfl⟩

theorem filterMap_facts
    (reading : LineReading)
    (lines : List Text)
    (project : Nat × StateFact → Option β) :
    (reading.facts lines).filterMap project =
      (SourceLine.withAbove none 1 lines).filterMap fun pair =>
        (reading.fact? pair.1 pair.2).bind fun fact => project (pair.2.number, fact) := by
  rw [facts, StateFact.ofReading, List.filterMap_filterMap]
  refine List.filterMap_congr ?_
  intro pair _
  cases reading.fact? pair.1 pair.2 <;> rfl

/-- What is read off the facts of one kind of lines is read off these lines. -/
theorem filterMap_facts_of_kind
    {reading : LineReading}
    {project : Nat × StateFact → Option β}
    {kind : StatementKind}
    {extract : SourceLine → Option β}
    (extracted :
      ∀ above line,
        ((reading.fact? above line).bind fun fact => project (line.number, fact)) =
          if StatementKind.ofText line.text = kind then extract line else none)
    (lines : List Text) :
    (reading.facts lines).filterMap project =
      (SourceLine.ofKind kind lines).filterMap extract := by
  rw [filterMap_facts, SourceLine.ofKind, List.filterMap_filter,
    SourceLine.significant_eq_from, ← SourceLine.map_snd_withAbove none, List.filterMap_map]
  refine List.filterMap_congr ?_
  rintro ⟨above, line⟩ _
  simp only [extracted, Function.comp_apply, decide_eq_true_eq]

theorem targets_eq
    (reading : LineReading)
    (lines : List Text) :
    (reading.facts lines).targets =
      (SourceLine.ofKind .transitionDeclaration lines).filterMap reading.target? := by
  refine filterMap_facts_of_kind ?_ lines
  intro above line
  cases kind : StatementKind.ofText line.text with
  | transitionDeclaration =>
      cases target : reading.target? line <;>
        simp [fact?, kind, target, StateFacts.target?]
  | stateDeclaration =>
      cases name : reading.name? line <;> simp [fact?, kind, name, StateFacts.target?]
  | action | marker | brace | unrecognized =>
      simp [fact?, kind, StateFacts.target?]

theorem undefined_eq
    (reading : LineReading)
    (lines : List Text) :
    (reading.facts lines).undefined = reading.undeclared lines := by
  simp only [StateFacts.undefined, targets_eq, declares_eq, undeclared]

/-! Two readings of a unit. -/

/-- Every state line has a name and every transition line a target. -/
structure Total
    (reading : LineReading)
    (lines : List Text) :
    Prop where
  name :
    ∀ line ∈ SourceLine.ofKind .stateDeclaration lines, reading.name? line ≠ none
  target :
    ∀ line ∈ SourceLine.ofKind .transitionDeclaration lines, reading.target? line ≠ none

/-- Only a state line gives the action below it a state, and it gives its own. -/
def Grounded
    (reading : LineReading)
    (lines : List Text) :
    Prop :=
  ∀ line ∈ SourceLine.significant lines, ∀ name,
    reading.adjacent? line = some name →
    StatementKind.ofText line.text = .stateDeclaration ∧ reading.name? line = some name

/-- What a verdict depends on is read alike. -/
structure Agree
    (policy : AttributionPolicy)
    (first second : LineReading)
    (lines : List Text) :
    Prop where
  names :
    ∀ line ∈ SourceLine.ofKind .stateDeclaration lines,
      second.name? line = first.name? line
  targets :
    ∀ line ∈ SourceLine.ofKind .transitionDeclaration lines, second.target? line ≠ none
  undeclared :
    first.undeclared lines = second.undeclared lines
  content :
    policy = .adjacentDeclaration →
    ∀ name, first.ActsFor lines name ↔ second.ActsFor lines name

/-- By adjacency a state has content if an action stands directly below its name. -/
theorem hasContent_adjacent_iff
    {reading : LineReading}
    {lines : List Text}
    (grounded : reading.Grounded lines)
    {number : Nat}
    {name : String}
    (isFirst : (reading.facts lines).declaresAbove number name = false) :
    (reading.facts lines).hasContent .adjacentDeclaration number name = true ↔
      reading.ActsFor lines name := by
  rw [StateFacts.hasContent_iff]
  constructor
  · rintro ⟨actionNumber, adjacent, member, _, counts⟩
    obtain ⟨above, line, isPair, isAction, isAdjacent, _⟩ := mem_acts_iff.mp member
    rw [counts rfl] at isAdjacent
    obtain ⟨upper, rfl, isName⟩ := Option.bind_eq_some_iff.mp isAdjacent
    exact ⟨upper, line, isPair, isAction, isName⟩
  · rintro ⟨upper, line, isPair, isAction, isName⟩
    obtain ⟨isUpper, directlyAbove⟩ := SourceLine.above_of_withAbove isPair
    obtain ⟨isKind, declaresName⟩ := grounded upper isUpper name isName
    have declared : (upper.number, .declares name) ∈ reading.facts lines :=
      mem_declares_iff.mpr
        ⟨upper, SourceLine.mem_ofKind_iff.mpr ⟨isUpper, isKind⟩, declaresName, rfl⟩
    have notAbove : ¬ upper.number < number := by
      intro less
      have above := List.any_eq_false.mp isFirst _ declared
      simp [less] at above
    refine ⟨line.number, some name, ?_, by omega, fun _ => rfl⟩
    exact mem_acts_iff.mpr ⟨some upper, line, isPair, isAction, isName, rfl⟩

/-- Where any action counts the reading does not matter. -/
theorem hasContent_any_eq
    (first second : LineReading)
    (lines : List Text)
    (number : Nat)
    (name : String) :
    (first.facts lines).hasContent .anyAction number name =
      (second.facts lines).hasContent .anyAction number name := by
  have onlyActions :
      ∀ reading : LineReading,
        (reading.facts lines).hasContent .anyAction number name = true ↔
          ∃ above line,
            (above, line) ∈ SourceLine.withAbove none 1 lines ∧
              StatementKind.ofText line.text = .action ∧ number < line.number := by
    intro reading
    rw [StateFacts.hasContent_iff]
    constructor
    · rintro ⟨actionNumber, adjacent, member, below, _⟩
      obtain ⟨above, line, isPair, isAction, _, rfl⟩ := mem_acts_iff.mp member
      exact ⟨above, line, isPair, isAction, below⟩
    · rintro ⟨above, line, isPair, isAction, below⟩
      refine ⟨line.number, above.bind reading.adjacent?, ?_, below, nofun⟩
      exact mem_acts_iff.mpr ⟨above, line, isPair, isAction, rfl, rfl⟩
  rw [Bool.eq_iff_iff, onlyActions first, onlyActions second]

/-- Readings with the same records give actions the same declared states. -/
theorem actsFor_of_states_eq
    {first second : LineReading}
    {lines : List Text}
    (firstGrounded : first.Grounded lines)
    (secondGrounded : second.Grounded lines)
    (sameStates :
      (first.facts lines).states .adjacentDeclaration =
        (second.facts lines).states .adjacentDeclaration)
    {name : String}
    (acts : first.ActsFor lines name) :
    second.ActsFor lines name := by
  have declared : (first.facts lines).declares name = true := by
    obtain ⟨upper, line, isPair, _, isName⟩ := acts
    obtain ⟨isUpper, _⟩ := SourceLine.above_of_withAbove isPair
    obtain ⟨isKind, declaresName⟩ := firstGrounded upper isUpper name isName
    rw [declares_eq, List.contains_iff_mem, names, List.mem_filterMap]
    exact ⟨upper, SourceLine.mem_ofKind_iff.mpr ⟨isUpper, isKind⟩, declaresName⟩
  rw [← StateFacts.any_states .adjacentDeclaration, List.any_eq_true] at declared
  obtain ⟨record, isRecord, sameName⟩ := declared
  obtain rfl : record.name = name := by simpa using sameName
  have content : record.hasContent = true := by
    obtain ⟨⟨number, fact⟩, _, called⟩ := List.mem_filterMap.mp isRecord
    obtain ⟨_, _, isFirst, hasContent⟩ := StateFacts.record?_eq_some_iff.mp called
    rw [← hasContent]
    exact (hasContent_adjacent_iff firstGrounded isFirst).mpr acts
  rw [sameStates] at isRecord
  obtain ⟨⟨number, fact⟩, _, called⟩ := List.mem_filterMap.mp isRecord
  obtain ⟨_, _, isFirst, hasContent⟩ := StateFacts.record?_eq_some_iff.mp called
  rw [content] at hasContent
  exact (hasContent_adjacent_iff secondGrounded isFirst).mp hasContent

/-- Readings that come to the same verdict read alike what it depends on. -/
theorem agree_of_same_verdict
    {policy : AttributionPolicy}
    {first second : LineReading}
    {lines : List Text}
    (total : first.Total lines)
    (firstGrounded : first.Grounded lines)
    (secondGrounded : second.Grounded lines)
    (sameStates :
      (first.facts lines).states policy = (second.facts lines).states policy)
    (sameUndefined : (first.facts lines).undefined = (second.facts lines).undefined)
    (sameErrors :
      (first.facts lines).errors policy = (second.facts lines).errors policy) :
    Agree policy first second lines := by
  refine ⟨?_, ?_, ?_, ?_⟩
  · intro line member
    obtain ⟨name, isName⟩ := Option.ne_none_iff_exists'.mp (total.name line member)
    have declared : (line.number, .declares name) ∈ first.facts lines :=
      mem_declares_iff.mpr ⟨line, member, isName, rfl⟩
    rw [StateFacts.mem_declares_iff policy, sameStates, sameErrors,
      ← StateFacts.mem_declares_iff policy] at declared
    obtain ⟨other, isOther, otherName, sameNumber⟩ := mem_declares_iff.mp declared
    have same : other = line :=
      SourceLine.eq_of_number_eq (SourceLine.mem_ofKind_iff.mp isOther).1
        (SourceLine.mem_ofKind_iff.mp member).1 sameNumber
    rw [isName, ← same, otherName]
  · intro line member noTarget
    have isBad : (line.number, .badTransition) ∈ second.facts lines :=
      mem_badTransition_iff.mpr ⟨line, member, noTarget, rfl⟩
    rw [StateFacts.mem_badTransition_iff policy, ← sameErrors,
      ← StateFacts.mem_badTransition_iff policy] at isBad
    obtain ⟨other, isOther, otherTarget, _⟩ := mem_badTransition_iff.mp isBad
    exact total.target other isOther otherTarget
  · rw [← undefined_eq, ← undefined_eq, sameUndefined]
  · rintro rfl name
    exact ⟨actsFor_of_states_eq firstGrounded secondGrounded sameStates,
      actsFor_of_states_eq secondGrounded firstGrounded sameStates.symm⟩

section Agreement

variable {policy : AttributionPolicy}
variable {first second : LineReading}
variable {lines : List Text}

theorem Agree.mem_declares_iff
    (agree : Agree policy first second lines)
    {number : Nat}
    {name : String} :
    (number, .declares name) ∈ first.facts lines ↔
      (number, .declares name) ∈ second.facts lines := by
  rw [LineReading.mem_declares_iff, LineReading.mem_declares_iff]
  refine exists_congr fun line => and_congr_right fun member => ?_
  rw [agree.names line member]

theorem Agree.declaresAbove_eq
    (agree : Agree policy first second lines)
    (number : Nat)
    (name : String) :
    (first.facts lines).declaresAbove number name =
      (second.facts lines).declaresAbove number name := by
  have onlyDeclarations :
      ∀ facts : StateFacts,
        facts.declaresAbove number name = true ↔
          ∃ above < number, (above, .declares name) ∈ facts := by
    intro facts
    simp only [StateFacts.declaresAbove, List.any_eq_true, Bool.and_eq_true,
      decide_eq_true_eq, Prod.exists]
    constructor
    · rintro ⟨above, fact, member, less, rfl⟩
      exact ⟨above, less, member⟩
    · rintro ⟨above, less, member⟩
      exact ⟨above, _, member, less, rfl⟩
  rw [Bool.eq_iff_iff, onlyDeclarations, onlyDeclarations]
  simp only [agree.mem_declares_iff]

/-- Readings that agree find content for the same first declarations. -/
theorem Agree.hasContent_eq
    (agree : Agree policy first second lines)
    (firstGrounded : first.Grounded lines)
    (secondGrounded : second.Grounded lines)
    {number : Nat}
    {name : String}
    (isFirst : (first.facts lines).declaresAbove number name = false) :
    (first.facts lines).hasContent policy number name =
      (second.facts lines).hasContent policy number name := by
  cases policy with
  | anyAction =>
      exact hasContent_any_eq first second lines number name
  | adjacentDeclaration =>
      have isFirstToo : (second.facts lines).declaresAbove number name = false := by
        rw [← agree.declaresAbove_eq]
        exact isFirst
      rw [Bool.eq_iff_iff, hasContent_adjacent_iff firstGrounded isFirst,
        hasContent_adjacent_iff secondGrounded isFirstToo]
      exact agree.content rfl name

/-- What is said of declarations alone is the same by readings that agree. -/
theorem Agree.filterMap_eq
    (agree : Agree policy first second lines)
    (total : first.Total lines)
    {project other : Nat × StateFact → Option β}
    (silentReference :
      ∀ number target,
        project (number, .refersTo target) = none ∧
          other (number, .refersTo target) = none)
    (silentAction :
      ∀ number adjacent,
        project (number, .acts adjacent) = none ∧ other (number, .acts adjacent) = none)
    (same :
      ∀ number name, project (number, .declares name) = other (number, .declares name)) :
    (first.facts lines).filterMap project = (second.facts lines).filterMap other := by
  rw [filterMap_facts, filterMap_facts]
  refine List.filterMap_congr ?_
  rintro ⟨above, line⟩ member
  have isLine := SourceLine.mem_significant_of_withAbove member
  cases kind : StatementKind.ofText line.text with
  | stateDeclaration =>
      have sameName :=
        agree.names line (SourceLine.mem_ofKind_iff.mpr ⟨isLine, kind⟩)
      cases isName : first.name? line with
      | none =>
          simp [fact?, kind, sameName, isName]
      | some name =>
          simp [fact?, kind, sameName, isName, same]
  | transitionDeclaration =>
      have isTransition := SourceLine.mem_ofKind_iff.mpr ⟨isLine, kind⟩
      obtain ⟨target, isTarget⟩ :=
        Option.ne_none_iff_exists'.mp (total.target line isTransition)
      obtain ⟨otherTarget, isOtherTarget⟩ :=
        Option.ne_none_iff_exists'.mp (agree.targets line isTransition)
      simp [fact?, kind, isTarget, isOtherTarget, silentReference]
  | action =>
      simp [fact?, kind, silentAction]
  | marker | brace | unrecognized =>
      simp [fact?, kind]

/-- Readings that agree come to the same verdict. -/
theorem Agree.same_verdict
    (agree : Agree policy first second lines)
    (total : first.Total lines)
    (firstGrounded : first.Grounded lines)
    (secondGrounded : second.Grounded lines) :
    (first.facts lines).states policy = (second.facts lines).states policy ∧
      (first.facts lines).undefined = (second.facts lines).undefined ∧
        (first.facts lines).errors policy = (second.facts lines).errors policy := by
  have sameUndefined : (first.facts lines).undefined = (second.facts lines).undefined := by
    rw [undefined_eq, undefined_eq, agree.undeclared]
  have sameContent :
      ∀ number name,
        (first.facts lines).declaresAbove number name = false →
        (first.facts lines).hasContent policy number name =
          (second.facts lines).hasContent policy number name :=
    fun _ _ isFirst => agree.hasContent_eq firstGrounded secondGrounded isFirst
  refine ⟨?_, sameUndefined, ?_⟩
  · refine agree.filterMap_eq total (fun _ _ => ⟨rfl, rfl⟩) (fun _ _ => ⟨rfl, rfl⟩) ?_
    intro number name
    rw [StateFacts.record?, StateFacts.record?, ← agree.declaresAbove_eq]
    cases isFirst : (first.facts lines).declaresAbove number name with
    | true =>
        rfl
    | false =>
        rw [sameContent number name isFirst]
  · rw [StateFacts.errors, StateFacts.errors, sameUndefined]
    refine congrArg (· ++ _) ?_
    refine agree.filterMap_eq total (fun _ _ => ⟨rfl, rfl⟩) (fun _ _ => ⟨rfl, rfl⟩) ?_
    intro number name
    rw [StateFacts.lineError?, StateFacts.lineError?, ← agree.declaresAbove_eq]
    cases isFirst : (first.facts lines).declaresAbove number name with
    | true =>
        rfl
    | false =>
        rw [sameContent number name isFirst]

end Agreement

end LineReading

end Smsl
