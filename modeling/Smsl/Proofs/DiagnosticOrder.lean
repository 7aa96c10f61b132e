import Mathlib.Data.List.Basic
import Smsl.Diagnostic

namespace Smsl

/-!
# Diagnostics in order

Ordering by line leaves the diagnostics without a line at the end, in the order
in which they were found.  Those with a line are sorted; where no two share a
line, they come out in the only order that increases.
-/

namespace Diagnostic

/-- The diagnostic has a line. -/
def isNumbered (diagnostic : Diagnostic) : Bool :=
  diagnostic.line.isSome

theorem atOrBefore_of_not_numbered
    {first second : Diagnostic}
    (unnumbered : second.isNumbered = false) :
    first.atOrBefore second = true := by
  simp only [isNumbered, Option.isSome_eq_false_iff, Option.isNone_iff_eq_none]
    at unnumbered
  simp [atOrBefore, unnumbered]

theorem not_atOrBefore_of_numbered
    {first second : Diagnostic}
    (firstUnnumbered : first.isNumbered = false)
    (secondNumbered : second.isNumbered = true) :
    first.atOrBefore second = false := by
  simp only [isNumbered, Option.isSome_eq_false_iff, Option.isNone_iff_eq_none]
    at firstUnnumbered
  obtain ⟨line, isLine⟩ := Option.isSome_iff_exists.mp secondNumbered
  simp [atOrBefore, firstUnnumbered, isLine]

theorem atOrBefore_total
    (first second : Diagnostic) :
    first.atOrBefore second = true ∨ second.atOrBefore first = true := by
  cases firstLine : first.line with
  | none =>
      simp [atOrBefore, firstLine]
  | some firstNumber =>
      cases secondLine : second.line with
      | none =>
          simp [atOrBefore, firstLine, secondLine]
      | some secondNumber =>
          simp only [atOrBefore, firstLine, secondLine, decide_eq_true_eq]
          exact Nat.le_total firstNumber secondNumber

theorem atOrBefore_trans
    {first second third : Diagnostic}
    (firstSecond : first.atOrBefore second = true)
    (secondThird : second.atOrBefore third = true) :
    first.atOrBefore third = true := by
  cases firstLine : first.line <;>
    cases secondLine : second.line <;>
      cases thirdLine : third.line <;>
        simp_all [atOrBefore]
  omega

/-! Insertion, one diagnostic at a time. -/

theorem insertByLine_perm
    (diagnostic : Diagnostic)
    (diagnostics : List Diagnostic) :
    (insertByLine diagnostic diagnostics).Perm (diagnostic :: diagnostics) := by
  induction diagnostics with
  | nil =>
      exact .refl _
  | cons first rest inductionHypothesis =>
      simp only [insertByLine]
      split
      · exact .refl _
      · exact (inductionHypothesis.cons first).trans (.swap diagnostic first rest)

theorem insertByLine_sorted
    (diagnostic : Diagnostic)
    {diagnostics : List Diagnostic}
    (sorted : diagnostics.Pairwise fun first second => first.atOrBefore second = true) :
    (insertByLine diagnostic diagnostics).Pairwise
      fun first second => first.atOrBefore second = true := by
  induction diagnostics with
  | nil =>
      simp [insertByLine]
  | cons first rest inductionHypothesis =>
      obtain ⟨firstLeast, restSorted⟩ := List.pairwise_cons.mp sorted
      simp only [insertByLine]
      split
      · rename_i leads
        refine List.pairwise_cons.mpr ⟨?_, sorted⟩
        intro later member
        rcases List.mem_cons.mp member with isFirst | inRest
        · rwa [isFirst]
        · exact atOrBefore_trans leads (firstLeast later inRest)
      · rename_i follows
        have firstLeads : first.atOrBefore diagnostic = true :=
          (atOrBefore_total first diagnostic).resolve_right follows
        refine List.pairwise_cons.mpr ⟨?_, inductionHypothesis restSorted⟩
        intro later member
        rcases List.mem_cons.mp ((insertByLine_perm diagnostic rest).mem_iff.mp member) with
            isInserted | inRest
        · rwa [isInserted]
        · exact firstLeast later inRest

/-- A numbered diagnostic finds its place before all unnumbered ones. -/
theorem insertByLine_append_of_numbered
    (diagnostic : Diagnostic)
    (numbered : List Diagnostic)
    {unnumbered : List Diagnostic}
    (noLines : ∀ other ∈ unnumbered, other.isNumbered = false) :
    insertByLine diagnostic (numbered ++ unnumbered) =
      insertByLine diagnostic numbered ++ unnumbered := by
  induction numbered with
  | nil =>
      cases unnumbered with
      | nil =>
          rfl
      | cons first rest =>
          simp [insertByLine, atOrBefore_of_not_numbered (noLines first (by simp))]
  | cons first rest inductionHypothesis =>
      simp only [List.cons_append, insertByLine, inductionHypothesis]
      split <;> rfl

/-- An unnumbered diagnostic finds its place right after the numbered ones. -/
theorem insertByLine_append_of_not_numbered
    {diagnostic : Diagnostic}
    (noLine : diagnostic.isNumbered = false)
    {numbered unnumbered : List Diagnostic}
    (lines : ∀ other ∈ numbered, other.isNumbered = true)
    (noLines : ∀ other ∈ unnumbered, other.isNumbered = false) :
    insertByLine diagnostic (numbered ++ unnumbered) =
      numbered ++ diagnostic :: unnumbered := by
  induction numbered with
  | nil =>
      cases unnumbered with
      | nil =>
          rfl
      | cons first rest =>
          simp [insertByLine, atOrBefore_of_not_numbered (noLines first (by simp))]
  | cons first rest inductionHypothesis =>
      have stays :=
        not_atOrBefore_of_numbered noLine (lines first (by simp))
      have further := inductionHypothesis
        (fun other member => lines other (by simp [member]))
      simp [insertByLine, stays, further]

/-! The whole list. -/

theorem sortByLine_perm (diagnostics : List Diagnostic) :
    (sortByLine diagnostics).Perm diagnostics := by
  induction diagnostics with
  | nil =>
      exact .refl _
  | cons first rest inductionHypothesis =>
      exact (insertByLine_perm first (sortByLine rest)).trans
        (inductionHypothesis.cons first)

theorem sortByLine_sorted (diagnostics : List Diagnostic) :
    (sortByLine diagnostics).Pairwise
      fun first second => first.atOrBefore second = true := by
  induction diagnostics with
  | nil =>
      exact .nil
  | cons first rest inductionHypothesis =>
      exact insertByLine_sorted first inductionHypothesis

/-- Ordering sorts the numbered diagnostics and appends the others unchanged. -/
theorem sortByLine_eq_append (diagnostics : List Diagnostic) :
    sortByLine diagnostics =
      sortByLine (diagnostics.filter isNumbered) ++
        diagnostics.filter fun diagnostic => !diagnostic.isNumbered := by
  have unnumbered :
      ∀ (rest : List Diagnostic),
        ∀ other ∈ rest.filter (fun diagnostic => !diagnostic.isNumbered),
          other.isNumbered = false := by
    intro rest other member
    simpa using (List.mem_filter.mp member).2
  induction diagnostics with
  | nil =>
      rfl
  | cons first rest inductionHypothesis =>
      have unfolded :
          sortByLine (first :: rest) = insertByLine first (sortByLine rest) := rfl
      rw [unfolded, inductionHypothesis]
      cases numbered : first.isNumbered with
      | true =>
          rw [insertByLine_append_of_numbered first _ (unnumbered rest)]
          simp [numbered, sortByLine]
      | false =>
          have lines :
              ∀ other ∈ sortByLine (rest.filter isNumbered),
                other.isNumbered = true := by
            intro other member
            have inFiltered := (sortByLine_perm _).mem_iff.mp member
            exact (List.mem_filter.mp inFiltered).2
          rw [insertByLine_append_of_not_numbered numbered lines (unnumbered rest)]
          simp [numbered]

/-- Diagnostics on distinct lines have one increasing order only. -/
theorem sortByLine_eq_of_increasing
    {diagnostics ordered : List Diagnostic}
    (same : diagnostics.Perm ordered)
    (increasing :
      ordered.Pairwise fun first second =>
        ∃ firstLine secondLine,
          first.line = some firstLine ∧
            second.line = some secondLine ∧ firstLine < secondLine) :
    sortByLine diagnostics = ordered := by
  have orderedSorted :
      ordered.Pairwise fun first second => first.atOrBefore second = true := by
    refine increasing.imp ?_
    rintro first second ⟨firstLine, secondLine, isFirst, isSecond, less⟩
    simp [atOrBefore, isFirst, isSecond, Nat.le_of_lt less]
  have notBefore :
      ordered.Pairwise fun first second => ¬ second.atOrBefore first = true := by
    refine increasing.imp ?_
    rintro first second ⟨firstLine, secondLine, isFirst, isSecond, less⟩
    simp [atOrBefore, isFirst, isSecond, less]
  have antisymmetric :
      ∀ ⦃first⦄, first ∈ ordered →
        ∀ ⦃second⦄, second ∈ ordered →
          first.atOrBefore second = true →
          second.atOrBefore first = true →
          first = second :=
    List.Pairwise.forall_of_forall_of_flip
      (fun _ _ _ _ => rfl)
      (notBefore.imp fun later _ before => (later before).elim)
      (notBefore.imp fun later before _ => (later before).elim)
  have samePerm := (sortByLine_perm diagnostics).trans same
  exact List.Perm.eq_of_pairwise
    (fun first second firstMember secondMember =>
      antisymmetric (samePerm.mem_iff.mp firstMember) secondMember)
    (sortByLine_sorted diagnostics) orderedSorted samePerm

/-- Numbered diagnostics found before and after unnumbered ones come first, in order. -/
theorem sortByLine_append_append
    {before loose after ordered : List Diagnostic}
    (beforeNumbered : ∀ diagnostic ∈ before, diagnostic.isNumbered = true)
    (looseUnnumbered : ∀ diagnostic ∈ loose, diagnostic.isNumbered = false)
    (afterNumbered : ∀ diagnostic ∈ after, diagnostic.isNumbered = true)
    (same : (before ++ after).Perm ordered)
    (increasing :
      ordered.Pairwise fun first second =>
        ∃ firstLine secondLine,
          first.line = some firstLine ∧
            second.line = some secondLine ∧ firstLine < secondLine) :
    sortByLine (before ++ loose ++ after) = ordered ++ loose := by
  have numbered :
      (before ++ loose ++ after).filter isNumbered = before ++ after := by
    have noLoose : loose.filter isNumbered = [] :=
      List.filter_eq_nil_iff.mpr (by simpa using looseUnnumbered)
    rw [List.filter_append, List.filter_append, List.filter_eq_self.mpr beforeNumbered,
      List.filter_eq_self.mpr afterNumbered, noLoose, List.append_nil]
  have unnumbered :
      ((before ++ loose ++ after).filter fun diagnostic => !diagnostic.isNumbered) =
        loose := by
    have allLoose : (loose.filter fun diagnostic => !diagnostic.isNumbered) = loose :=
      List.filter_eq_self.mpr (by simpa using looseUnnumbered)
    have noBefore : (before.filter fun diagnostic => !diagnostic.isNumbered) = [] :=
      List.filter_eq_nil_iff.mpr (by simpa using beforeNumbered)
    have noAfter : (after.filter fun diagnostic => !diagnostic.isNumbered) = [] :=
      List.filter_eq_nil_iff.mpr (by simpa using afterNumbered)
    rw [List.filter_append, List.filter_append, allLoose, noBefore, noAfter,
      List.append_nil, List.nil_append]
  rw [sortByLine_eq_append, numbered, unnumbered,
    sortByLine_eq_of_increasing same increasing]

end Diagnostic

end Smsl
