import Mathlib.Data.List.Nodup
import Mathlib.Data.List.Sort
import Smsl.Proofs.CompleteCode
import Smsl.Proofs.OptimizedCode

namespace Smsl

/-!
# Distinct code

Deduplication leaves the distinct quadruples, each where it occurs first.  The
first pass compares names only, with the last quadruple that it kept; but where
actions carry nothing but a name, as generated ones do, that quadruple equals the
one directly above, so the pass takes away only copies of what is kept anyway.
-/

namespace Quadruple

/-- An action carries nothing but its name. -/
def Plain (quadruple : Quadruple) : Prop :=
  quadruple.isAction = true → quadruple.arg2 = "" ∧ quadruple.arg3 = ""

instance : DecidablePred Plain :=
  fun quadruple =>
    inferInstanceAs
      (Decidable (quadruple.isAction = true → quadruple.arg2 = "" ∧ quadruple.arg3 = ""))

theorem Plain.eq_action
    {quadruple : Quadruple}
    (plain : quadruple.Plain)
    (isAction : quadruple.isAction = true) :
    quadruple = action quadruple.arg1 := by
  obtain ⟨noEvent, noTarget⟩ := plain isAction
  obtain ⟨operation, arg1, arg2, arg3⟩ := quadruple
  simp_all [Quadruple.isAction, action]

end Quadruple

/-- Generated code is plain. -/
theorem Generation.plain_of_mem_quadruples
    {lines : List Text}
    {quadruple : Quadruple}
    (member : quadruple ∈ (ofLines lines).quadruples) :
    quadruple.Plain := by
  obtain ⟨line, _, lowers⟩ := lowers_of_mem_quadruples member
  intro isAction
  cases lowers with
  | action _ _ =>
      exact ⟨rfl, rfl⟩
  | transition _ _ =>
      cases isAction

namespace Pass

/-- Quadruples are the distinct ones among given quadruples, by first occurrence. -/
structure FirstOccurrences
    (given kept : List Quadruple) :
    Prop where
  mem_iff :
    ∀ quadruple, quadruple ∈ kept ↔ quadruple ∈ given
  ordered :
    kept.Pairwise fun first second => given.idxOf first < given.idxOf second

namespace FirstOccurrences

theorem nodup
    {given kept : List Quadruple}
    (occurrences : FirstOccurrences given kept) :
    kept.Nodup := by
  refine occurrences.ordered.imp ?_
  rintro first _ less rfl
  exact Nat.lt_irrefl _ less

/-- There is one list of first occurrences. -/
theorem unique
    {given first second : List Quadruple}
    (isFirst : FirstOccurrences given first)
    (isSecond : FirstOccurrences given second) :
    first = second := by
  have sameMembers : first.Perm second := by
    rw [List.perm_ext_iff_of_nodup isFirst.nodup isSecond.nodup]
    intro quadruple
    rw [isFirst.mem_iff, isSecond.mem_iff]
  refine List.Perm.eq_of_pairwise ?_ isFirst.ordered isSecond.ordered sameMembers
  intro earlier later _ _ less greater
  exact (Nat.lt_asymm less greater).elim

/-- Distinct quadruples are their own first occurrences. -/
theorem of_nodup
    {quadruples : List Quadruple}
    (distinct : quadruples.Nodup) :
    FirstOccurrences quadruples quadruples := by
  refine ⟨fun _ => Iff.rfl, List.pairwise_iff_getElem.mpr ?_⟩
  intro earlier later isEarlier isLater less
  rwa [distinct.idxOf_getElem earlier isEarlier, distinct.idxOf_getElem later isLater]

end FirstOccurrences

/-! The pass that drops copies. -/

theorem mem_fresh_iff
    {seen quadruples : List Quadruple}
    {quadruple : Quadruple} :
    quadruple ∈ fresh seen quadruples ↔ quadruple ∈ quadruples ∧ quadruple ∉ seen := by
  induction quadruples generalizing seen with
  | nil =>
      simp [fresh]
  | cons next rest inductionHypothesis =>
      by_cases known : next ∈ seen
      · simp only [fresh, List.contains_iff_mem, known, ↓reduceIte, inductionHypothesis,
          List.mem_cons]
        constructor
        · rintro ⟨member, isNew⟩
          exact ⟨.inr member, isNew⟩
        · rintro ⟨rfl | member, isNew⟩
          · exact (isNew known).elim
          · exact ⟨member, isNew⟩
      · simp only [fresh, List.contains_iff_mem, known, ↓reduceIte, inductionHypothesis,
          List.mem_cons, not_or]
        constructor
        · rintro (rfl | ⟨member, _, isNew⟩)
          · exact ⟨.inl rfl, known⟩
          · exact ⟨.inr member, isNew⟩
        · rintro ⟨rfl | member, isNew⟩
          · exact .inl rfl
          · by_cases same : quadruple = next
            · exact .inl same
            · exact .inr ⟨member, same, isNew⟩

/-- What was not seen before comes in the order of first occurrence. -/
theorem fresh_ordered (seen quadruples : List Quadruple) :
    (fresh seen quadruples).Pairwise fun first second =>
      quadruples.idxOf first < quadruples.idxOf second := by
  induction quadruples generalizing seen with
  | nil =>
      exact .nil
  | cons next rest inductionHypothesis =>
      have differs :
          ∀ known, next ∈ known → ∀ quadruple ∈ fresh known rest, next ≠ quadruple := by
        rintro known isKnown quadruple member rfl
        exact (mem_fresh_iff.mp member).2 isKnown
      -- Below the first quadruple, every other one moves by one position.
      have moved :
          ∀ known, next ∈ known →
            (fresh known rest).Pairwise fun first second =>
              (next :: rest).idxOf first < (next :: rest).idxOf second := by
        intro known isKnown
        refine (inductionHypothesis known).imp_of_mem ?_
        intro first second isFirst isSecond less
        rw [List.idxOf_cons_ne rest (differs known isKnown first isFirst),
          List.idxOf_cons_ne rest (differs known isKnown second isSecond)]
        exact Nat.succ_lt_succ less
      simp only [fresh]
      split
      · rename_i known
        exact moved seen (List.contains_iff_mem.mp known)
      · refine .cons ?_ (moved (next :: seen) List.mem_cons_self)
        intro quadruple member
        rw [List.idxOf_cons_self,
          List.idxOf_cons_ne rest (differs _ List.mem_cons_self quadruple member)]
        exact Nat.succ_pos _

theorem firstOccurrences_fresh (quadruples : List Quadruple) :
    FirstOccurrences quadruples (fresh [] quadruples) := by
  refine ⟨?_, fresh_ordered [] quadruples⟩
  intro quadruple
  simp [mem_fresh_iff]

theorem fresh_of_nodup
    {quadruples : List Quadruple}
    (distinct : quadruples.Nodup) :
    fresh [] quadruples = quadruples :=
  (firstOccurrences_fresh quadruples).unique (.of_nodup distinct)

/-! The pass that collapses repeated actions. -/

/-- Among plain quadruples an action that repeats another one equals it. -/
theorem repeats_iff
    {kept next : Quadruple}
    (keptPlain : kept.Plain)
    (nextPlain : next.Plain) :
    repeats kept next = true ↔ next.isAction = true ∧ kept = next := by
  constructor
  · intro repeated
    simp only [repeats, Bool.and_eq_true, decide_eq_true_eq] at repeated
    obtain ⟨⟨keptAction, nextAction⟩, sameName⟩ := repeated
    refine ⟨nextAction, ?_⟩
    calc
      kept = .action kept.arg1 := keptPlain.eq_action keptAction
      _ = .action next.arg1 := by rw [sameName]
      _ = next := (nextPlain.eq_action nextAction).symm
  · rintro ⟨isAction, rfl⟩
    simp [repeats, isAction]

/-- The number of actions that equal the quadruple directly above. -/
def repeatedActions (quadruples : List Quadruple) : Nat :=
  (quadruples.zip quadruples.tail).countP fun neighbours =>
    neighbours.2.isAction && neighbours.1 = neighbours.2

/-- After a quadruple was seen, collapsing its repetitions makes no difference. -/
theorem fresh_collapseAfter
    {seen rest : List Quadruple}
    {kept : Quadruple}
    (isSeen : kept ∈ seen)
    (plain : ∀ quadruple ∈ kept :: rest, quadruple.Plain) :
    fresh seen (collapseAfter kept rest) = fresh seen rest := by
  induction rest generalizing seen kept with
  | nil =>
      rfl
  | cons next rest inductionHypothesis =>
      obtain ⟨keptPlain, restPlain⟩ := List.forall_mem_cons.mp plain
      have isRepetition := repeats_iff keptPlain (restPlain next List.mem_cons_self)
      by_cases repeated : repeats kept next = true
      · obtain ⟨_, rfl⟩ := isRepetition.mp repeated
        simp only [collapseAfter, repeated, ↓reduceIte, fresh, List.contains_iff_mem, isSeen]
        exact inductionHypothesis isSeen restPlain
      · simp only [collapseAfter, repeated, Bool.false_eq_true, ↓reduceIte, fresh]
        split
        · rename_i known
          exact inductionHypothesis (List.contains_iff_mem.mp known) restPlain
        · rw [inductionHypothesis List.mem_cons_self restPlain]

/-- Of plain quadruples the second pass alone keeps the same. -/
theorem fresh_collapsed
    {quadruples : List Quadruple}
    (plain : ∀ quadruple ∈ quadruples, quadruple.Plain) :
    fresh [] (collapsed quadruples) = fresh [] quadruples := by
  cases quadruples with
  | nil =>
      rfl
  | cons first rest =>
      simp [collapsed, fresh, fresh_collapseAfter List.mem_cons_self plain]

theorem length_collapseAfter
    {rest : List Quadruple}
    {kept : Quadruple}
    (plain : ∀ quadruple ∈ kept :: rest, quadruple.Plain) :
    (collapseAfter kept rest).length + repeatedActions (kept :: rest) = rest.length := by
  induction rest generalizing kept with
  | nil =>
      rfl
  | cons next rest inductionHypothesis =>
      obtain ⟨keptPlain, restPlain⟩ := List.forall_mem_cons.mp plain
      have isRepetition := repeats_iff keptPlain (restPlain next List.mem_cons_self)
      have further := inductionHypothesis restPlain
      by_cases repeated : repeats kept next = true
      · -- What was kept is the quadruple directly above, so the next pair is counted right.
        obtain ⟨isAction, rfl⟩ := isRepetition.mp repeated
        simp only [repeatedActions, List.tail_cons] at further
        simp only [collapseAfter, repeated, ↓reduceIte, repeatedActions, List.tail_cons,
          List.zip_cons_cons, List.countP_cons, isAction, decide_true, Bool.and_self,
          List.length_cons]
        omega
      · have differs : (next.isAction && decide (kept = next)) = false := by
          simpa [isRepetition] using repeated
        simp only [repeatedActions, List.tail_cons] at further
        simp only [collapseAfter, repeated, Bool.false_eq_true, ↓reduceIte, repeatedActions,
          List.tail_cons, List.zip_cons_cons, List.countP_cons, differs, List.length_cons]
        omega

/-- Collapsing removes the actions that equal the quadruple directly above. -/
theorem length_collapsed
    {quadruples : List Quadruple}
    (plain : ∀ quadruple ∈ quadruples, quadruple.Plain) :
    (collapsed quadruples).length + repeatedActions quadruples = quadruples.length := by
  cases quadruples with
  | nil =>
      rfl
  | cons first rest =>
      have further := length_collapseAfter plain
      simp only [collapsed, List.length_cons]
      omega

theorem repeatedActions_of_nodup
    {quadruples : List Quadruple}
    (distinct : quadruples.Nodup) :
    repeatedActions quadruples = 0 := by
  refine List.countP_eq_zero.mpr ?_
  rintro ⟨above, below⟩ areNeighbours isRepetition
  simp only [Bool.and_eq_true, decide_eq_true_eq] at isRepetition
  obtain ⟨position, found⟩ := List.mem_iff_getElem?.mp areNeighbours
  obtain ⟨foundAbove, foundBelow⟩ := List.getElem?_zip_eq_some.mp found
  rw [List.getElem?_tail] at foundBelow
  obtain ⟨inside, _⟩ := List.getElem?_eq_some_iff.mp foundBelow
  refine List.nodup_iff_getElem?_ne_getElem?.mp distinct position (position + 1)
    (Nat.lt_succ_self position) inside ?_
  rw [foundAbove, foundBelow, isRepetition.2]

theorem collapsed_of_nodup
    {quadruples : List Quadruple}
    (plain : ∀ quadruple ∈ quadruples, quadruple.Plain)
    (distinct : quadruples.Nodup) :
    collapsed quadruples = quadruples := by
  refine (collapsed_sublist quadruples).eq_of_length ?_
  have further := length_collapsed plain
  rwa [repeatedActions_of_nodup distinct] at further

end Pass

namespace Optimization

theorem firstOccurrences_deduplicated
    (quadruples : List Quadruple) :
    Pass.FirstOccurrences (Pass.collapsed quadruples)
      (ofQuadruples .deduplicate quadruples).quadruples :=
  Pass.firstOccurrences_fresh (Pass.collapsed quadruples)

/-- Distinct plain quadruples are left as they are. -/
theorem deduplicated_of_nodup
    {quadruples : List Quadruple}
    (plain : ∀ quadruple ∈ quadruples, quadruple.Plain)
    (distinct : quadruples.Nodup) :
    ofQuadruples .deduplicate quadruples =
      { before := quadruples.length
        quadruples := quadruples
        stats :=
          { repeatedActionsRemoved := 0
            duplicatesRemoved := 0
            transitionsRenamed := 0 } } := by
  simp [ofQuadruples, Pass.collapseRepeatedActions, Pass.eliminateDuplicates,
    Pass.collapsed_of_nodup plain distinct, Pass.fresh_of_nodup distinct]

/-- An optimization is the deduplication of given quadruples. -/
structure Deduplicates
    (given : List Quadruple)
    (optimization : Optimization) :
    Prop where
  firstOccurrences :
    Pass.FirstOccurrences given optimization.quadruples
  sameWithoutCollapse :
    optimization.quadruples = (Pass.eliminateDuplicates given).quadruples
  repeatedActions :
    optimization.stats.repeatedActionsRemoved = Pass.repeatedActions given
  removed :
    optimization.stats.repeatedActionsRemoved + optimization.stats.duplicatesRemoved +
        optimization.quadruples.length =
      given.length
  settled :
    ofQuadruples .deduplicate optimization.quadruples =
      { before := optimization.quadruples.length
        quadruples := optimization.quadruples
        stats :=
          { repeatedActionsRemoved := 0
            duplicatesRemoved := 0
            transitionsRenamed := 0 } }

/--
Plain code is reduced to its distinct quadruples, by first occurrence, as by the
second pass alone; the first pass removes the actions that equal the quadruple
directly above, what is removed adds up, and optimizing again changes nothing.
-/
theorem deduplicates_plain_code
    (quadruples : List Quadruple)
    (plain : ∀ quadruple ∈ quadruples, quadruple.Plain) :
    Deduplicates quadruples (ofQuadruples .deduplicate quadruples) := by
  have isFresh :
      (ofQuadruples .deduplicate quadruples).quadruples = Pass.fresh [] quadruples :=
    Pass.fresh_collapsed plain
  have collapse := Pass.length_collapsed plain
  have fewer := (Pass.fresh_sublist [] (Pass.collapsed quadruples)).length_le
  have occurrences := Pass.firstOccurrences_fresh quadruples
  refine ⟨?_, isFresh, ?_, ?_, ?_⟩
  · rw [isFresh]
    exact occurrences
  · simp only [ofQuadruples, Pass.collapseRepeatedActions]
    omega
  · simp only [ofQuadruples, Pass.collapseRepeatedActions, Pass.eliminateDuplicates]
    omega
  · rw [isFresh]
    refine deduplicated_of_nodup ?_ occurrences.nodup
    intro quadruple member
    exact plain quadruple ((occurrences.mem_iff quadruple).mp member)

/-- Generated code with repeated actions, next to each other and apart, and a copy. -/
theorem deduplicates_plain_code_of_generated_code :
    ∃ code,
      code =
          (Generation.ofLines
            ["action a;".toList, "action a;".toList, "transition t: e -> A \x7b".toList,
              "action a;".toList, "transition t: e -> A \x7b".toList]).quadruples ∧
        code =
          [Quadruple.action "a", Quadruple.action "a", Quadruple.transition "t" "e" "A",
            Quadruple.action "a", Quadruple.transition "t" "e" "A"] ∧
        (∀ quadruple ∈ code, quadruple.Plain) ∧
          Deduplicates code (ofQuadruples .deduplicate code) := by
  refine ⟨_, rfl, by decide +kernel, ?_, deduplicates_plain_code _ ?_⟩
  · exact fun _ member => Generation.plain_of_mem_quadruples member
  · exact fun _ member => Generation.plain_of_mem_quadruples member

end Optimization

end Smsl
