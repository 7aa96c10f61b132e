import Mathlib.Data.List.Forall2
import Smsl.Proofs.Renumbering
import Smsl.Proofs.StateVerdict

namespace Smsl

/-!
# Facts on both sides of a gap

A gap between two lines moves all facts below it on by one line, and it parts an
action directly below it from a declaration directly above.  Nothing else that
the facts amount to changes: at most the state of that declaration is left
without content, and then only when actions count for adjacent declarations.
-/

/-- The fact as it is without a declaration directly above. -/
def StateFact.detached : StateFact → StateFact
  | .acts _ => .acts none
  | .declares name => .declares name
  | .refersTo target => .refersTo target
  | .badTransition => .badTransition

/-- Two records of a state agree, on its content unless the state is an exception. -/
structure StateRecord.AgreesExcept
    (exception : String → Prop)
    (first second : StateRecord) :
    Prop where
  sameName :
    first.name = second.name
  sameLine :
    first.declarationLine = second.declarationLine
  sameContent :
    ¬ exception first.name → first.hasContent = second.hasContent

theorem StateRecord.AgreesExcept.eq
    {exception : String → Prop}
    {first second : StateRecord}
    (agrees : AgreesExcept exception first second)
    (regular : ¬ exception first.name) :
    first = second := by
  have content := agrees.sameContent regular
  obtain ⟨name, line, _⟩ := first
  obtain ⟨_, _, _⟩ := second
  obtain ⟨rfl, rfl, _⟩ := agrees
  rw [StateRecord.mk.injEq]
  exact ⟨rfl, rfl, content⟩

theorem StateRecord.AgreesExcept.mono
    {fewer more : String → Prop}
    (included : ∀ name, fewer name → more name)
    {first second : StateRecord}
    (agrees : AgreesExcept fewer first second) :
    AgreesExcept more first second :=
  ⟨agrees.sameName, agrees.sameLine,
    fun regular => agrees.sameContent fun excepted => regular (included _ excepted)⟩

/-- The error tells that one of some states has no content. -/
def SemanticError.tellsEmpty
    (exception : String → Bool) :
    SemanticError → Bool
  | .stateWithoutContent _ name => exception name
  | .duplicateState .. => false
  | .invalidTransitionFormat .. => false
  | .undefinedStateReference .. => false

/-- The diagnostic tells that a state has no content. -/
def Diagnostic.tellsEmpty
    (name : String)
    (diagnostic : Diagnostic) :
    Bool :=
  diagnostic.line.any fun line =>
    diagnostic = (SemanticError.stateWithoutContent line name).toDiagnostic

theorem SemanticError.tellsEmpty_toDiagnostic
    (name : String)
    (error : SemanticError) :
    error.toDiagnostic.tellsEmpty name = error.tellsEmpty (· == name) := by
  have sameLine : error.toDiagnostic.line = error.line? := rfl
  simp only [Diagnostic.tellsEmpty, sameLine, toDiagnostic_injective.eq_iff]
  cases error <;> simp [line?, tellsEmpty]
  rfl

namespace StateFacts

/-- A fact with a gap after a number of lines. -/
def partFact
    (count : Nat)
    (fact : Nat × StateFact) :
    Nat × StateFact :=
  ((Renumbering.gapAfter count).apply fact.1,
    if fact.1 = count + 1 then fact.2.detached else fact.2)

/-- The facts with a gap after a number of lines. -/
def part
    (count : Nat)
    (facts : StateFacts) :
    StateFacts :=
  facts.map (partFact count)

/-- A gap parts an action from the declaration of a state that it counts for. -/
def Parts
    (policy : AttributionPolicy)
    (count : Nat)
    (facts : StateFacts)
    (name : String) :
    Prop :=
  policy = .adjacentDeclaration ∧ (count + 1, .acts (some name)) ∈ facts

theorem part_ordered
    (count : Nat)
    {facts : StateFacts}
    (ordered : facts.Ordered) :
    (facts.part count).Ordered :=
  List.pairwise_map.mpr (ordered.imp (Renumbering.gapAfter count).increasing)

/-- A gap only changes actions. -/
theorem partFact_cases
    (count : Nat)
    (fact : Nat × StateFact) :
    (partFact count fact).2 = fact.2 ∨
      fact.1 = count + 1 ∧
        ∃ adjacent, fact.2 = .acts adjacent ∧ (partFact count fact).2 = .acts none := by
  obtain ⟨line, fact⟩ := fact
  by_cases below : line = count + 1
  · cases fact with
    | acts adjacent =>
        exact .inr ⟨below, adjacent, rfl, by simp [partFact, below, StateFact.detached]⟩
    | declares | refersTo | badTransition =>
        exact .inl (by simp [partFact, below, StateFact.detached])
  · exact .inl (by simp [partFact, below])

theorem declares_partFact_iff
    {count : Nat}
    {fact : Nat × StateFact}
    {name : String} :
    (partFact count fact).2 = .declares name ↔ fact.2 = .declares name := by
  rcases partFact_cases count fact with same | ⟨_, adjacent, acts, detached⟩
  · rw [same]
  · simp [acts, detached]

theorem partFact_declares
    (count line : Nat)
    (name : String) :
    partFact count (line, .declares name) =
      ((Renumbering.gapAfter count).apply line, .declares name) :=
  Prod.ext rfl (declares_partFact_iff.mpr rfl)

theorem target?_partFact
    (count : Nat)
    (fact : Nat × StateFact) :
    target? (partFact count fact) = target? fact := by
  obtain ⟨line, fact⟩ := fact
  by_cases below : line = count + 1 <;>
    cases fact <;>
      simp [partFact, below, StateFact.detached, target?]

theorem declares_part
    (count : Nat)
    (facts : StateFacts)
    (name : String) :
    (facts.part count).declares name = facts.declares name := by
  simp only [declares, part, List.any_map, Function.comp_def, declares_partFact_iff]

theorem undefined_part
    (count : Nat)
    (facts : StateFacts) :
    (facts.part count).undefined = facts.undefined := by
  have sameTargets : (facts.part count).targets = facts.targets := by
    simp only [targets, part, List.filterMap_map, Function.comp_def, target?_partFact]
  simp only [undefined, sameTargets, declares_part]

theorem declaresAbove_part
    (count : Nat)
    (facts : StateFacts)
    (line : Nat)
    (name : String) :
    (facts.part count).declaresAbove ((Renumbering.gapAfter count).apply line) name =
      facts.declaresAbove line name := by
  simp only [declaresAbove, part, List.any_map, Function.comp_def, declares_partFact_iff]
  simp only [partFact, Renumbering.apply_lt_iff]

theorem countsFor_partFact
    {policy : AttributionPolicy}
    {count : Nat}
    {facts : StateFacts}
    {name : String}
    (kept : ¬ facts.Parts policy count name)
    {fact : Nat × StateFact}
    (member : fact ∈ facts) :
    countsFor policy name (partFact count fact).2 = countsFor policy name fact.2 := by
  rcases partFact_cases count fact with same | ⟨below, adjacent, acts, detached⟩
  · rw [same]
  · rw [detached, acts]
    cases policy with
    | anyAction =>
        rfl
    | adjacentDeclaration =>
        have notAdjacent : adjacent ≠ some name := by
          rintro rfl
          refine kept ⟨rfl, ?_⟩
          rw [← below, ← acts]
          exact member
        simp [countsFor, notAdjacent]

/-- A state that the gap does not part from an action keeps its content. -/
theorem hasContent_part
    {policy : AttributionPolicy}
    {count : Nat}
    {facts : StateFacts}
    {name : String}
    (kept : ¬ facts.Parts policy count name)
    (line : Nat) :
    (facts.part count).hasContent policy ((Renumbering.gapAfter count).apply line) name =
      facts.hasContent policy line name := by
  rw [Bool.eq_iff_iff]
  simp only [hasContent, part, List.any_map, List.any_eq_true, Function.comp_apply,
    Bool.and_eq_true, decide_eq_true_eq]
  refine exists_congr fun fact => and_congr_right fun member => ?_
  rw [countsFor_partFact kept member]
  simp only [partFact, Renumbering.apply_lt_iff]

/-! States and errors of the parted facts. -/

/-- A declaration calls for the same record, under its new number. -/
theorem record?_partFact
    (policy : AttributionPolicy)
    (count : Nat)
    (facts : StateFacts)
    (fact : Nat × StateFact) :
    Option.Rel (StateRecord.AgreesExcept (facts.Parts policy count))
      ((record? policy facts fact).map (StateRecord.renumber (.gapAfter count)))
      (record? policy (facts.part count) (partFact count fact)) := by
  obtain ⟨line, fact⟩ := fact
  cases fact with
  | declares name =>
      rw [partFact_declares]
      by_cases above : facts.declaresAbove line name
      · simp [record?, declaresAbove_part, above]
      · simp only [record?, declaresAbove_part, above]
        exact .some ⟨rfl, rfl, fun kept => (hasContent_part kept line).symm⟩
  | refersTo | badTransition | acts =>
      by_cases below : line = count + 1 <;>
        simp [record?, partFact, below, StateFact.detached]

theorem states_part
    (policy : AttributionPolicy)
    (count : Nat)
    (facts : StateFacts) :
    List.Forall₂ (StateRecord.AgreesExcept (facts.Parts policy count))
      ((states policy facts).map (StateRecord.renumber (.gapAfter count)))
      (states policy (facts.part count)) := by
  rw [states, states, part, List.filterMap_map, List.map_filterMap]
  refine List.rel_filterMap ?_ (List.forall₂_same.mpr fun _ _ => rfl)
  rintro fact _ rfl
  exact record?_partFact policy count facts fact

/-- An error of a line stays, under its new number, unless the gap is the reason for it. -/
theorem lineError?_partFact
    {policy : AttributionPolicy}
    {count : Nat}
    {facts : StateFacts}
    {exception : String → Bool}
    (covers : ∀ name, facts.Parts policy count name → exception name = true)
    (fact : Nat × StateFact) :
    (lineError? policy (facts.part count) (partFact count fact)).filter
        (fun error => !error.tellsEmpty exception) =
      ((lineError? policy facts fact).filter
        (fun error => !error.tellsEmpty exception)).map
          (SemanticError.renumber (.gapAfter count)) := by
  obtain ⟨line, fact⟩ := fact
  cases fact with
  | declares name =>
      rw [partFact_declares]
      simp only [lineError?, declaresAbove_part]
      by_cases above : facts.declaresAbove line name = true
      · simp only [above, ↓reduceIte]
        rfl
      · have told :
            ∀ number,
              (SemanticError.stateWithoutContent number name).tellsEmpty exception =
                exception name :=
          fun _ => rfl
        by_cases excepted : exception name = true
        · simp only [above, Bool.false_eq_true, ↓reduceIte]
          split_ifs <;> simp [Option.filter_some, told, excepted]
        · have kept : ¬ facts.Parts policy count name :=
            fun parted => excepted (covers name parted)
          rw [hasContent_part kept]
          by_cases content : facts.hasContent policy line name = true <;>
            simp [above, content, Option.filter_some, told, excepted, SemanticError.renumber]
  | badTransition =>
      by_cases below : line = count + 1 <;>
        simp only [partFact, below, ↓reduceIte] <;>
          rfl
  | refersTo | acts =>
      by_cases below : line = count + 1 <;>
        simp [lineError?, partFact, below, StateFact.detached]

theorem errors_part
    {policy : AttributionPolicy}
    {count : Nat}
    {facts : StateFacts}
    {exception : String → Bool}
    (covers : ∀ name, facts.Parts policy count name → exception name = true) :
    (errors policy (facts.part count)).filter (fun error => !error.tellsEmpty exception) =
      ((errors policy facts).filter fun error => !error.tellsEmpty exception).map
        (SemanticError.renumber (.gapAfter count)) := by
  have undefinedSpared :
      (facts.undefined.map SemanticError.undefinedStateReference).filter
          (fun error => !error.tellsEmpty exception) =
        facts.undefined.map .undefinedStateReference := by
    refine List.filter_eq_self.mpr ?_
    intro error member
    obtain ⟨name, _, rfl⟩ := List.mem_map.mp member
    rfl
  rw [errors, errors, undefined_part, List.filter_append, List.filter_append, List.map_append,
    undefinedSpared, List.map_map]
  refine congrArg₂ (· ++ ·) ?_ rfl
  rw [List.filter_filterMap, List.filter_filterMap, List.map_filterMap, part,
    List.filterMap_map]
  exact List.filterMap_congr fun fact _ => lineError?_partFact covers fact

end StateFacts

/-! What the analysis makes of parted facts. -/

namespace Analysis

/-- The analysis says the same under new line numbers. -/
structure Moves
    (renumbering : Renumbering)
    (first second : Analysis) :
    Prop where
  states :
    second.states = first.states.map (StateRecord.renumber renumbering)
  undefinedReferences :
    second.undefinedReferences = first.undefinedReferences
  diagnostics :
    second.diagnostics = first.diagnostics.map (Diagnostic.renumber renumbering)

/-- The analysis says the same under new line numbers, but for the content of a state. -/
structure MovesExcept
    (renumbering : Renumbering)
    (name : String)
    (first second : Analysis) :
    Prop where
  states :
    List.Forall₂ (StateRecord.AgreesExcept (· = name))
      (first.states.map (StateRecord.renumber renumbering)) second.states
  undefinedReferences :
    second.undefinedReferences = first.undefinedReferences
  diagnostics :
    (second.diagnostics.filter fun diagnostic => !diagnostic.tellsEmpty name) =
      (first.diagnostics.filter fun diagnostic => !diagnostic.tellsEmpty name).map
        (Diagnostic.renumber renumbering)

end Analysis

namespace StateFacts

theorem diagnostics_renumber
    (renumbering : Renumbering)
    (errors : List SemanticError) :
    (errors.map (SemanticError.renumber renumbering)).map SemanticError.toDiagnostic =
      (errors.map SemanticError.toDiagnostic).map (Diagnostic.renumber renumbering) := by
  rw [List.map_map, List.map_map]
  exact List.map_congr_left fun error _ => error.toDiagnostic_renumber renumbering

theorem undefinedReferences_part
    (policy : AttributionPolicy)
    (count : Nat)
    {facts : StateFacts}
    (ordered : facts.Ordered) :
    (Walk.ofFacts policy (facts.part count)).undefinedReferences =
      (Walk.ofFacts policy facts).undefinedReferences := by
  rw [ofFacts_undefinedReferences policy ordered,
    ofFacts_undefinedReferences policy (part_ordered count ordered), undefined_part]

/-- A gap that parts no action from its declaration only moves what the analysis says. -/
theorem moves_part
    {policy : AttributionPolicy}
    {count : Nat}
    {facts : StateFacts}
    (ordered : facts.Ordered)
    (kept : ∀ name, ¬ facts.Parts policy count name) :
    Analysis.Moves (.gapAfter count)
      (Analysis.ofWalk (Walk.ofFacts policy facts))
      (Analysis.ofWalk (Walk.ofFacts policy (facts.part count))) where
  states := by
    rw [ofFacts_states policy ordered, ofFacts_states policy (part_ordered count ordered)]
    have same :
        List.Forall₂ Eq
          ((states policy facts).map (StateRecord.renumber (.gapAfter count)))
          (states policy (facts.part count)) :=
      (states_part policy count facts).imp fun _ _ agrees => agrees.eq (kept _)
    exact (List.forall₂_eq_eq_eq ▸ same).symm
  undefinedReferences := undefinedReferences_part policy count ordered
  diagnostics := by
    have allSpared :
        ∀ errors : List SemanticError,
          (errors.filter fun error => !error.tellsEmpty fun _ => false) = errors := by
      intro errors
      refine List.filter_eq_self.mpr ?_
      intro error _
      cases error <;> rfl
    have same :=
      errors_part (fun name parted => (kept name parted).elim : ∀ name,
        facts.Parts policy count name → (fun _ => false) name = true)
    rw [allSpared, allSpared] at same
    rw [ofFacts_diagnostics policy ordered,
      ofFacts_diagnostics policy (part_ordered count ordered), same,
      diagnostics_renumber]

/-- A gap that parts an action from a declaration can take the content of that state only. -/
theorem movesExcept_part
    {policy : AttributionPolicy}
    {count : Nat}
    {facts : StateFacts}
    {name : String}
    (ordered : facts.Ordered)
    (only : ∀ other, facts.Parts policy count other → other = name) :
    Analysis.MovesExcept (.gapAfter count) name
      (Analysis.ofWalk (Walk.ofFacts policy facts))
      (Analysis.ofWalk (Walk.ofFacts policy (facts.part count))) where
  states := by
    rw [ofFacts_states policy ordered, ofFacts_states policy (part_ordered count ordered)]
    exact (states_part policy count facts).imp fun _ _ agrees => agrees.mono only
  undefinedReferences := undefinedReferences_part policy count ordered
  diagnostics := by
    have same :=
      errors_part (fun other parted => beq_iff_eq.mpr (only other parted) : ∀ other,
        facts.Parts policy count other → (other == name) = true)
    simp only [ofFacts_diagnostics policy ordered,
      ofFacts_diagnostics policy (part_ordered count ordered), List.filter_map,
      Function.comp_def, SemanticError.tellsEmpty_toDiagnostic]
    rw [same, diagnostics_renumber]

end StateFacts

end Smsl
