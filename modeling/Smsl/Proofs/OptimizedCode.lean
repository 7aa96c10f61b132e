import Mathlib.Data.List.Forall2
import Smsl.Quadruple.Optimization

namespace Smsl

/-!
# Where optimized quadruples come from

Every pass keeps quadruples of its input.  Merging alone changes one, and then
only its name, which is put behind the name of an earlier transition.
-/

namespace Quadruple

/-- A quadruple is another one, perhaps with its name behind an earlier name. -/
structure Renames
    (renamed original : Quadruple) :
    Prop where
  operation :
    renamed.operation = original.operation
  arg1 :
    renamed.arg1 = original.arg1 ∨
      ∃ first, renamed.arg1 = first ++ "_" ++ original.arg1
  arg2 :
    renamed.arg2 = original.arg2
  arg3 :
    renamed.arg3 = original.arg3

theorem Renames.refl (quadruple : Quadruple) :
    quadruple.Renames quadruple :=
  ⟨rfl, .inl rfl, rfl, rfl⟩

/-- A name is never emptied. -/
theorem Renames.arg1_ne_empty
    {renamed original : Quadruple}
    (renames : renamed.Renames original)
    (named : original.arg1 ≠ "") :
    renamed.arg1 ≠ "" := by
  rcases renames.arg1 with same | ⟨first, behind⟩
  · rwa [same]
  · intro empty
    rw [behind] at empty
    have length := congrArg String.length empty
    simp at length

end Quadruple

namespace Pass

theorem collapseAfter_sublist
    (kept : Quadruple)
    (quadruples : List Quadruple) :
    (collapseAfter kept quadruples).Sublist quadruples := by
  induction quadruples generalizing kept with
  | nil =>
      exact .slnil
  | cons next rest inductionHypothesis =>
      simp only [collapseAfter]
      split
      · exact (inductionHypothesis kept).cons next
      · exact (inductionHypothesis next).cons_cons next

theorem collapsed_sublist (quadruples : List Quadruple) :
    (collapsed quadruples).Sublist quadruples := by
  cases quadruples with
  | nil =>
      exact .slnil
  | cons first rest =>
      exact (collapseAfter_sublist first rest).cons_cons first

theorem fresh_sublist
    (seen quadruples : List Quadruple) :
    (fresh seen quadruples).Sublist quadruples := by
  induction quadruples generalizing seen with
  | nil =>
      exact .slnil
  | cons next rest inductionHypothesis =>
      simp only [fresh]
      split
      · exact (inductionHypothesis seen).cons next
      · exact (inductionHypothesis (next :: seen)).cons_cons next

/-- Merging gives every quadruple its own name or one that ends in it. -/
theorem mergeAfter_renames
    (firsts quadruples : List Quadruple) :
    List.Forall₂ Quadruple.Renames
      (mergeAfter firsts quadruples).quadruples quadruples := by
  induction quadruples generalizing firsts with
  | nil =>
      exact .nil
  | cons next rest inductionHypothesis =>
      unfold mergeAfter
      split
      · split
        · rename_i name _
          exact .cons ⟨rfl, .inr ⟨name, rfl⟩, rfl, rfl⟩ (inductionHypothesis firsts)
        · exact .cons (.refl next) (inductionHypothesis (next :: firsts))
      · exact .cons (.refl next) (inductionHypothesis firsts)

end Pass

namespace Optimization

/-- Every optimized quadruple comes from one of the given ones. -/
theorem mem_ofQuadruples
    {policy : OptimizerPolicy}
    {quadruples : List Quadruple}
    {optimized : Quadruple}
    (member : optimized ∈ (ofQuadruples policy quadruples).quadruples) :
    ∃ original ∈ quadruples, optimized.Renames original := by
  have kept :
      (Pass.fresh [] (Pass.collapsed quadruples)).Sublist quadruples :=
    (Pass.fresh_sublist [] _).trans (Pass.collapsed_sublist quadruples)
  cases policy with
  | deduplicate =>
      exact ⟨optimized, kept.subset member, .refl optimized⟩
  | deduplicateAndMerge =>
      have renames := Pass.mergeAfter_renames [] (Pass.fresh [] (Pass.collapsed quadruples))
      obtain ⟨sameLength, pairwise⟩ := List.forall₂_iff_get.mp renames
      obtain ⟨position, inside, rfl⟩ := List.getElem_of_mem member
      have alsoInside := sameLength ▸ inside
      exact ⟨_, kept.subset (List.getElem_mem alsoInside),
        pairwise position inside alsoInside⟩

end Optimization

end Smsl
