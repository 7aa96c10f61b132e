import Mathlib.Data.List.Forall2
import Mathlib.Data.List.Sort
import Smsl.Proofs.CountedLines
import Smsl.Proofs.DiagnosticOrder
import Smsl.Proofs.StateIndex

namespace Smsl

/-!
# Strictness of the attribution policies

Whatever a unit says about states, in whichever order and under whichever
numbers, the two policies tell the same of it except for content: what has
content from the declaration above an action has content where any action
counts.  So the lenient policy reports a part of what the strict one reports, and
leaves out nothing but states without content.  Numbers at the end of the words do
not change that: both policies count on alike, and trap at the same tokens.
-/

namespace Diagnostic

/-! Ordering part of a list. -/

theorem insertByLine_eq_orderedInsert
    (diagnostic : Diagnostic)
    (diagnostics : List Diagnostic) :
    insertByLine diagnostic diagnostics =
      diagnostics.orderedInsert (fun first second => first.atOrBefore second = true)
        diagnostic := by
  induction diagnostics with
  | nil =>
      rfl
  | cons first rest inductionHypothesis =>
      rw [insertByLine, List.orderedInsert_cons, inductionHypothesis]

/-- A part of a list is ordered as it is within the list. -/
theorem sortByLine_sublist
    {part whole : List Diagnostic}
    (isPart : part.Sublist whole) :
    (sortByLine part).Sublist (sortByLine whole) := by
  have : IsTrans Diagnostic (fun first second => first.atOrBefore second = true) :=
    ⟨fun _ _ _ => atOrBefore_trans⟩
  induction isPart with
  | slnil =>
      exact .slnil
  | @cons part whole diagnostic _ inductionHypothesis =>
      have inserted :
          (sortByLine whole).Sublist (insertByLine diagnostic (sortByLine whole)) := by
        rw [insertByLine_eq_orderedInsert]
        exact List.sublist_orderedInsert _ _
      exact inductionHypothesis.trans inserted
  | @cons_cons part whole diagnostic _ inductionHypothesis =>
      have inserted :=
        inductionHypothesis.orderedInsert_sublist diagnostic (sortByLine_sorted whole)
      rw [← insertByLine_eq_orderedInsert, ← insertByLine_eq_orderedInsert] at inserted
      exact inserted

end Diagnostic

/-- Two records of one declaration, where content in the first is content in the second. -/
structure StateRecord.AsStrictAs
    (strict lenient : StateRecord) :
    Prop where
  name :
    strict.name = lenient.name
  declarationLine :
    strict.declarationLine = lenient.declarationLine
  content :
    strict.hasContent = true → lenient.hasContent = true

namespace Walk

/-- Two walks that have collected the same, but for content that the second alone found. -/
structure AsStrictAs
    (strict lenient : Walk) :
    Prop where
  inStep :
    strict.InStep ∧ lenient.InStep
  records :
    List.Forall₂ StateRecord.AsStrictAs strict.table.records lenient.table.records
  references :
    strict.references = lenient.references
  errors :
    strict.errors = lenient.errors

namespace AsStrictAs

variable {strict lenient : Walk}

theorem contains_eq
    (asStrict : AsStrictAs strict lenient)
    (name : String) :
    strict.table.contains name = lenient.table.contains name := by
  have anyNamed :
      ∀ {first second : List StateRecord},
        List.Forall₂ StateRecord.AsStrictAs first second →
        first.any (fun record => record.name == name) =
          second.any (fun record => record.name == name) := by
    intro first second related
    induction related with
    | nil =>
        rfl
    | cons same _ inductionHypothesis =>
        rw [List.any_cons, List.any_cons, same.name, inductionHypothesis]
  rw [asStrict.inStep.1.table.contains_eq_any, asStrict.inStep.2.table.contains_eq_any]
  exact anyNamed asStrict.records

/-! One fact under the two policies. -/

theorem inStep_step
    (asStrict : AsStrictAs strict lenient)
    (line : Nat)
    (fact : StateFact) :
    (strict.step .adjacentDeclaration line fact).InStep ∧
      (lenient.step .anyAction line fact).InStep :=
  ⟨asStrict.inStep.1.step _ line fact, asStrict.inStep.2.step _ line fact⟩

theorem declare
    (asStrict : AsStrictAs strict lenient)
    (name : String)
    (line : Nat) :
    AsStrictAs (strict.step .adjacentDeclaration line (.declares name))
      (lenient.step .anyAction line (.declares name)) := by
  have inStep := asStrict.inStep_step line (.declares name)
  cases known : lenient.table.contains name with
  | true =>
      have knownToo : strict.table.contains name = true := by
        rw [asStrict.contains_eq, known]
      simp only [Walk.step, Walk.declare, StateTable.declare, known, knownToo, if_true]
        at inStep ⊢
      exact ⟨inStep, asStrict.records, asStrict.references, by simp [report, asStrict.errors]⟩
  | false =>
      have isNew : strict.table.contains name = false := by
        rw [asStrict.contains_eq, known]
      simp only [Walk.step, Walk.declare, StateTable.declare, known, isNew,
        Bool.false_eq_true, if_false] at inStep ⊢
      refine ⟨inStep, ?_, asStrict.references, asStrict.errors⟩
      exact List.rel_append asStrict.records (.cons ⟨rfl, rfl, id⟩ .nil)

/-- An action gives content to all declared states where it may give it to one. -/
theorem act
    (asStrict : AsStrictAs strict lenient)
    (line : Nat)
    (adjacent : Option String) :
    AsStrictAs (strict.step .adjacentDeclaration line (.acts adjacent))
      (lenient.step .anyAction line (.acts adjacent)) := by
  have inStep := asStrict.inStep_step line (.acts adjacent)
  cases adjacent with
  | none =>
      refine ⟨inStep, ?_, asStrict.references, asStrict.errors⟩
      refine List.forall₂_map_right_iff.mpr (asStrict.records.imp ?_)
      intro record other same
      exact ⟨same.name, same.declarationLine, fun _ => rfl⟩
  | some name =>
      refine ⟨inStep, ?_, asStrict.references, asStrict.errors⟩
      simp only [Walk.step, giveContent, asStrict.inStep.1.table.records_markContent]
      refine List.forall₂_map_left_iff.mpr
        (List.forall₂_map_right_iff.mpr (asStrict.records.imp ?_))
      intro record other same
      exact
        ⟨(StateTable.name_fill _ _).trans same.name,
          (StateTable.declarationLine_fill _ _).trans same.declarationLine, fun _ => rfl⟩

theorem step
    (asStrict : AsStrictAs strict lenient)
    (line : Nat)
    (fact : StateFact) :
    AsStrictAs (strict.step .adjacentDeclaration line fact)
      (lenient.step .anyAction line fact) := by
  have inStep := asStrict.inStep_step line fact
  cases fact with
  | declares name =>
      exact asStrict.declare name line
  | refersTo target =>
      exact ⟨inStep, asStrict.records, by simp [Walk.step, asStrict.references],
        asStrict.errors⟩
  | badTransition =>
      exact ⟨inStep, asStrict.records, asStrict.references,
        by simp [Walk.step, report, asStrict.errors]⟩
  | acts adjacent =>
      exact asStrict.act line adjacent

end AsStrictAs

/-- The walks over any facts under the two policies differ in content only. -/
theorem asStrictAs_ofFacts (facts : List (Nat × StateFact)) :
    AsStrictAs (ofFacts .adjacentDeclaration facts) (ofFacts .anyAction facts) := by
  have further :
      ∀ {strict lenient : Walk},
        AsStrictAs strict lenient →
        AsStrictAs
          (facts.foldl (fun walk fact => walk.step .adjacentDeclaration fact.1 fact.2) strict)
          (facts.foldl (fun walk fact => walk.step .anyAction fact.1 fact.2) lenient) := by
    induction facts with
    | nil =>
        exact id
    | cons fact rest inductionHypothesis =>
        intro strict lenient asStrict
        exact inductionHypothesis (asStrict.step fact.1 fact.2)
  exact further ⟨⟨inStep_empty, inStep_empty⟩, .nil, rfl, rfl⟩

/-- The error of a state that stays without content. -/
def emptyStateError (record : StateRecord) : SemanticError :=
  .stateWithoutContent record.declarationLine record.name

namespace AsStrictAs

variable {strict lenient : Walk}

/-! What is made of the two walks. -/

theorem undefinedReferences_eq
    (asStrict : AsStrictAs strict lenient) :
    strict.undefinedReferences = lenient.undefinedReferences := by
  simp only [undefinedReferences, asStrict.references, asStrict.contains_eq]

/-- The states without content under the lenient policy have none under the strict one. -/
theorem emptyStates_sublist
    (asStrict : AsStrictAs strict lenient) :
    (lenient.emptyStates.map emptyStateError).Sublist
      (strict.emptyStates.map emptyStateError) := by
  have ofRecords :
      ∀ {first second : List StateRecord},
        List.Forall₂ StateRecord.AsStrictAs first second →
        ((second.filter fun record => !record.hasContent).map emptyStateError).Sublist
          ((first.filter fun record => !record.hasContent).map emptyStateError) := by
    intro first second related
    induction related with
    | nil =>
        exact .slnil
    | @cons record other _ _ same _ inductionHypothesis =>
        cases content : other.hasContent with
        | true =>
            simp only [List.filter_cons, content, Bool.not_true, Bool.false_eq_true, if_false]
            split
            · exact inductionHypothesis.cons _
            · exact inductionHypothesis
        | false =>
            have noContent : record.hasContent = false := by
              cases found : record.hasContent with
              | true =>
                  rw [same.content found] at content
                  cases content
              | false =>
                  rfl
            simp only [List.filter_cons, content, noContent, Bool.not_false, if_true,
              List.map_cons, emptyStateError, same.name, same.declarationLine]
            exact inductionHypothesis.cons_cons _
  exact ofRecords asStrict.records

theorem allErrors_sublist
    (asStrict : AsStrictAs strict lenient) :
    lenient.allErrors.Sublist strict.allErrors := by
  rw [allErrors, allErrors, asStrict.errors, asStrict.undefinedReferences_eq]
  exact (List.Sublist.refl _).append asStrict.emptyStates_sublist

/-- What the lenient policy does not report are states without content. -/
theorem allErrors_perm
    (asStrict : AsStrictAs strict lenient) :
    ∃ missing : List SemanticError,
      strict.allErrors.Perm (lenient.allErrors ++ missing) ∧
        ∀ error ∈ missing,
          ∃ record ∈ strict.table.records,
            record.hasContent = false ∧ error = emptyStateError record := by
  obtain ⟨missing, isMissing⟩ := asStrict.emptyStates_sublist.exists_perm_append
  refine ⟨missing, ?_, ?_⟩
  · rw [allErrors, allErrors, asStrict.errors, asStrict.undefinedReferences_eq,
      List.append_assoc _ _ missing]
    exact isMissing.append_left _
  · intro error member
    have reported := isMissing.mem_iff.mpr (List.mem_append_right _ member)
    obtain ⟨record, isEmpty, rfl⟩ := List.mem_map.mp reported
    obtain ⟨isRecord, noContent⟩ := List.mem_filter.mp isEmpty
    exact ⟨record, isRecord, by simpa using noContent, rfl⟩

end AsStrictAs

end Walk

namespace Analysis

/--
An analysis reports what another does and states without content besides; it
finds content only where the other does.
-/
structure AsStrictAs
    (strict lenient : Analysis) :
    Prop where
  states :
    List.Forall₂ StateRecord.AsStrictAs strict.states lenient.states
  undefinedReferences :
    strict.undefinedReferences = lenient.undefinedReferences
  diagnostics :
    lenient.diagnostics.Sublist strict.diagnostics
  missing :
    ∃ missing : List Diagnostic,
      strict.diagnostics.Perm (lenient.diagnostics ++ missing) ∧
        ∀ diagnostic ∈ missing,
          ∃ record ∈ strict.states,
            record.hasContent = false ∧
              diagnostic =
                SemanticError.toDiagnostic
                  (.stateWithoutContent record.declarationLine record.name)

/-- Whatever is said about states, counting any action is never stricter. -/
theorem asStrictAs_ofFacts (facts : List (Nat × StateFact)) :
    AsStrictAs (ofWalk (Walk.ofFacts .adjacentDeclaration facts))
      (ofWalk (Walk.ofFacts .anyAction facts)) := by
  have walks := Walk.asStrictAs_ofFacts facts
  refine ⟨walks.records, walks.undefinedReferences_eq, ?_, ?_⟩
  · exact Diagnostic.sortByLine_sublist (walks.allErrors_sublist.map _)
  · obtain ⟨missing, sameErrors, areEmpty⟩ := walks.allErrors_perm
    refine ⟨missing.map SemanticError.toDiagnostic, ?_, ?_⟩
    · have reported := sameErrors.map SemanticError.toDiagnostic
      rw [List.map_append] at reported
      exact (Diagnostic.sortByLine_perm _).trans
        (reported.trans ((Diagnostic.sortByLine_perm _).symm.append_right _))
    · intro diagnostic member
      obtain ⟨error, isMissing, rfl⟩ := List.mem_map.mp member
      obtain ⟨record, isRecord, noContent, rfl⟩ := areEmpty error isMissing
      exact ⟨record, isRecord, noContent, rfl⟩

/--
Counting any action is never stricter than counting the one below a declaration:
by lines or by any tokens, the states and the undefined references are the same,
no state loses its content, and the diagnostics are a part of those under the
strict policy, from which only states without content are missing.  This is so
however line numbers are counted on: a build that goes on at zero behind the last
word has both analyses, and one that traps has neither, exactly if an action among
the tokens follows a line with the last number.
-/
theorem asStrictAs_ofUnit
    (counting : Counting)
    (input : SemanticInput)
    (lines : List Text)
    (tokens : List Token) :
    Option.Rel AsStrictAs (ofUnit? counting .adjacentDeclaration input lines tokens)
        (ofUnit? counting .anyAction input lines tokens) ∧
      ∀ policy : AttributionPolicy,
        ofUnit? counting policy input lines tokens = none ↔
          counting = .trapping ∧ input = .tokens ∧ StateFact.CountsPastLastWord tokens := by
  constructor
  · cases told : facts? counting input lines tokens with
    | none =>
        simp only [ofUnit?, told, Option.map_none]
        exact .none
    | some facts =>
        simp only [ofUnit?, told, Option.map_some]
        exact .some (asStrictAs_ofFacts facts)
  · intro policy
    exact ofUnit?_eq_none_iff

/-! A declaration with the last number and an action with number zero. -/

/-- Behind the last word a wrapping build goes on at zero, directly below the declaration. -/
example :
    (ofUnit? .wrapping .adjacentDeclaration .tokens []
          [⟨18446744073709551615, "state", .keyword .state⟩,
            ⟨18446744073709551615, "A", .identifier⟩,
            ⟨18446744073709551615, "\x7b", .symbol⟩,
            ⟨0, "action", .keyword .action⟩,
            ⟨0, "a", .identifier⟩,
            ⟨0, ";", .symbol⟩]).map (fun analysis => analysis.states) =
      some [⟨"A", 18446744073709551615, true⟩] := by
  decide +kernel

example :
    ofUnit? .trapping .adjacentDeclaration .tokens []
        [⟨18446744073709551615, "state", .keyword .state⟩,
          ⟨18446744073709551615, "A", .identifier⟩,
          ⟨18446744073709551615, "\x7b", .symbol⟩,
          ⟨0, "action", .keyword .action⟩,
          ⟨0, "a", .identifier⟩,
          ⟨0, ";", .symbol⟩] =
      none := by
  decide +kernel

end Analysis

end Smsl
