import Mathlib.Data.Finset.Card
import Mathlib.Data.Finset.Dedup
import Mathlib.Data.List.Forall2
import Smsl.Proofs.DistinctCode

namespace Smsl

/-!
# Merged transitions

Merging goes down a list and remembers the first transition of every event and
target; a later one gets its name put behind that of the first.  What becomes of
a quadruple therefore depends on the given quadruples above it alone.  From this
follow which names change and how, that no two inputs are merged alike, and that
merging distinct quadruples leaves them distinct.
-/

namespace Quadruple

/-- The event and the target of a transition. -/
def key (quadruple : Quadruple) : String × String :=
  (quadruple.arg2, quadruple.arg3)

/-- The quadruples agree but for their names, and in all if they act. -/
structure AgreesButName
    (original renamed : Quadruple) :
    Prop where
  operation :
    renamed.operation = original.operation
  arg2 :
    renamed.arg2 = original.arg2
  arg3 :
    renamed.arg3 = original.arg3
  action :
    original.isAction = true → renamed = original

theorem AgreesButName.refl (quadruple : Quadruple) :
    quadruple.AgreesButName quadruple :=
  ⟨rfl, rfl, rfl, fun _ => rfl⟩

/-- A transition under its name behind another one. -/
def behind
    (first : Quadruple)
    (quadruple : Quadruple) :
    Quadruple :=
  { quadruple with arg1 := first.arg1 ++ "_" ++ quadruple.arg1 }

theorem behind_injective (first : Quadruple) :
    Function.Injective (behind first) := by
  intro one other same
  obtain ⟨operation, arg1, arg2, arg3⟩ := one
  obtain ⟨otherOperation, otherArg1, otherArg2, otherArg3⟩ := other
  simp only [behind, mk.injEq, String.append_right_inj] at same
  simp only [mk.injEq]
  exact same

/-- A name behind another one is longer than that one. -/
theorem behind_ne (first quadruple : Quadruple) :
    first.behind quadruple ≠ first := by
  intro same
  have sameLength := congrArg (fun renamed => renamed.arg1.length) same
  simp only [behind, String.length_append] at sameLength
  have separator : "_".length = 1 := rfl
  omega

end Quadruple

namespace Pass

/-- The first transition with the event and target of a transition. -/
def firstAlike?
    (quadruples : List Quadruple)
    (quadruple : Quadruple) :
    Option Quadruple :=
  quadruples.find? fun first =>
    first.isTransition && quadruple.isTransition && first.key = quadruple.key

theorem firstAlike?_append
    (above below : List Quadruple)
    (quadruple : Quadruple) :
    firstAlike? (above ++ below) quadruple =
      (firstAlike? above quadruple).or (firstAlike? below quadruple) :=
  List.find?_append

theorem firstAlike?_of_not_transition
    (quadruples : List Quadruple)
    {quadruple : Quadruple}
    (isOther : quadruple.isTransition = false) :
    firstAlike? quadruples quadruple = none := by
  simp [firstAlike?, isOther]

/-- The search goes by kind, event and target alone. -/
theorem firstAlike?_congr
    (quadruples : List Quadruple)
    {one other : Quadruple}
    (sameKind : one.isTransition = other.isTransition)
    (sameKey : one.key = other.key) :
    firstAlike? quadruples one = firstAlike? quadruples other := by
  rw [firstAlike?, sameKind, sameKey, firstAlike?]

theorem firstAlike?_cons_self
    {first : Quadruple}
    (isTransition : first.isTransition = true)
    (below : List Quadruple) :
    firstAlike? (first :: below) first = some first := by
  simp [firstAlike?, isTransition]

/-- What merging makes of a quadruple below others. -/
def mergedBelow
    (above : List Quadruple)
    (quadruple : Quadruple) :
    Quadruple :=
  match firstAlike? above quadruple with
  | some first => first.behind quadruple
  | none => quadruple

theorem mergedBelow_of_none
    {above : List Quadruple}
    {quadruple : Quadruple}
    (isNew : firstAlike? above quadruple = none) :
    mergedBelow above quadruple = quadruple := by
  simp [mergedBelow, isNew]

theorem mergedBelow_of_some
    {above : List Quadruple}
    {first quadruple : Quadruple}
    (isKnown : firstAlike? above quadruple = some first) :
    mergedBelow above quadruple = first.behind quadruple := by
  simp [mergedBelow, isKnown]

theorem agrees_mergedBelow
    (above : List Quadruple)
    (quadruple : Quadruple) :
    quadruple.AgreesButName (mergedBelow above quadruple) := by
  cases isKnown : firstAlike? above quadruple with
  | none =>
      rw [mergedBelow_of_none isKnown]
      exact .refl quadruple
  | some first =>
      rw [mergedBelow_of_some isKnown]
      refine ⟨rfl, rfl, rfl, ?_⟩
      intro isAction
      have isOther : quadruple.isTransition = false := by
        simp only [Quadruple.isAction, decide_eq_true_eq] at isAction
        simp [Quadruple.isTransition, isAction]
      rw [firstAlike?_of_not_transition above isOther] at isKnown
      cases isKnown

/-! Going down the list, one quadruple at a time. -/

/-- The remembered transitions name the first one above for every transition. -/
def Remembers
    (firsts above : List Quadruple) :
    Prop :=
  ∀ quadruple : Quadruple,
    quadruple.isTransition = true →
    firstName? firsts quadruple.arg2 quadruple.arg3 =
      (firstAlike? above quadruple).map Quadruple.arg1

theorem remembers_nil : Remembers [] [] :=
  fun _ _ => rfl

/-- An action, or a transition like an earlier one, need not be remembered. -/
theorem Remembers.skip
    {firsts above : List Quadruple}
    (remembers : Remembers firsts above)
    {next : Quadruple}
    (notFirst : next.isTransition = true → (firstAlike? above next).isSome = true) :
    Remembers firsts (above ++ [next]) := by
  intro quadruple isTransition
  rw [remembers quadruple isTransition, firstAlike?_append]
  cases isKnown : firstAlike? above quadruple with
  | some first =>
      rfl
  | none =>
      have differs : firstAlike? [next] quadruple = none := by
        refine List.find?_eq_none.mpr ?_
        intro only isOnly isAlike
        cases List.mem_singleton.mp isOnly
        simp only [Bool.and_eq_true, decide_eq_true_eq] at isAlike
        obtain ⟨⟨nextTransition, _⟩, sameKey⟩ := isAlike
        have sameKind : next.isTransition = quadruple.isTransition := by
          rw [nextTransition, isTransition]
        have known := notFirst nextTransition
        rw [firstAlike?_congr above sameKind sameKey, isKnown] at known
        cases known
      rw [differs]
      rfl

/-- A transition unlike all earlier ones is remembered. -/
theorem Remembers.add
    {firsts above : List Quadruple}
    (remembers : Remembers firsts above)
    {next : Quadruple}
    (isNext : next.isTransition = true)
    (isNew : firstAlike? above next = none) :
    Remembers (next :: firsts) (above ++ [next]) := by
  intro quadruple isTransition
  rw [firstAlike?_append]
  by_cases sameKey : next.key = quadruple.key
  · have sameKind : next.isTransition = quadruple.isTransition := by
      rw [isNext, isTransition]
    rw [← firstAlike?_congr above sameKind sameKey, isNew,
      ← firstAlike?_congr [next] sameKind sameKey, firstAlike?_cons_self isNext]
    obtain ⟨sameEvent, sameTarget⟩ := Prod.mk.inj sameKey
    simp [firstName?, sameEvent, sameTarget]
  · have isOther :
        (next.arg2 = quadruple.arg2 && next.arg3 = quadruple.arg3) = false := by
      simpa [Quadruple.key] using sameKey
    have differs : firstAlike? [next] quadruple = none := by
      simp [firstAlike?, sameKey]
    rw [differs, Option.or_none, ← remembers quadruple isTransition]
    simp [firstName?, isOther]

/-- One quadruple is merged below those above it, counted, and perhaps remembered. -/
theorem mergeAfter_step
    {firsts above : List Quadruple}
    (remembers : Remembers firsts above)
    (next : Quadruple)
    (rest : List Quadruple) :
    ∃ memory,
      Remembers memory (above ++ [next]) ∧
        (mergeAfter firsts (next :: rest)).quadruples =
            mergedBelow above next :: (mergeAfter memory rest).quadruples ∧
          (mergeAfter firsts (next :: rest)).changed =
            (mergeAfter memory rest).changed +
              if (firstAlike? above next).isSome then 1 else 0 := by
  by_cases isTransition : next.isTransition = true
  · have remembered := remembers next isTransition
    cases isKnown : firstAlike? above next with
    | some first =>
        rw [isKnown, Option.map_some] at remembered
        refine ⟨firsts, remembers.skip fun _ => by rw [isKnown]; rfl, ?_, ?_⟩
        · rw [mergedBelow_of_some isKnown]
          simp [mergeAfter, isTransition, remembered, Quadruple.behind]
        · simp [mergeAfter, isTransition, remembered]
    | none =>
        rw [isKnown, Option.map_none] at remembered
        refine ⟨next :: firsts, remembers.add isTransition isKnown, ?_, ?_⟩
        · rw [mergedBelow_of_none isKnown]
          simp [mergeAfter, isTransition, remembered]
        · simp [mergeAfter, isTransition, remembered]
  · have isOther : next.isTransition = false := by simpa using isTransition
    have unknown := firstAlike?_of_not_transition above isOther
    refine ⟨firsts, remembers.skip fun transition => (isTransition transition).elim, ?_, ?_⟩
    · rw [mergedBelow_of_none unknown]
      simp [mergeAfter, isOther]
    · simp [mergeAfter, isOther, unknown]

/-- At every position stands what merging makes of the quadruple there. -/
theorem getElem?_mergeAfter
    {firsts above : List Quadruple}
    (remembers : Remembers firsts above)
    (rest : List Quadruple)
    (position : Nat) :
    (mergeAfter firsts rest).quadruples[position]? =
      rest[position]?.map (mergedBelow (above ++ rest.take position)) := by
  induction rest generalizing firsts above position with
  | nil =>
      rfl
  | cons next rest inductionHypothesis =>
      obtain ⟨memory, further, isMerged, _⟩ := mergeAfter_step remembers next rest
      rw [isMerged]
      cases position with
      | zero =>
          simp
      | succ position =>
          simpa using inductionHypothesis further position

theorem getElem?_mergeTransitions
    (quadruples : List Quadruple)
    (position : Nat) :
    (mergeTransitions quadruples).quadruples[position]? =
      quadruples[position]?.map (mergedBelow (quadruples.take position)) :=
  getElem?_mergeAfter remembers_nil quadruples position

theorem agrees_mergeAfter
    {firsts above : List Quadruple}
    (remembers : Remembers firsts above)
    (rest : List Quadruple) :
    List.Forall₂ Quadruple.AgreesButName rest (mergeAfter firsts rest).quadruples := by
  induction rest generalizing firsts above with
  | nil =>
      exact .nil
  | cons next rest inductionHypothesis =>
      obtain ⟨memory, further, isMerged, _⟩ := mergeAfter_step remembers next rest
      rw [isMerged]
      exact .cons (agrees_mergedBelow above next) (inductionHypothesis further)

theorem agrees_mergeTransitions (quadruples : List Quadruple) :
    List.Forall₂ Quadruple.AgreesButName quadruples (mergeTransitions quadruples).quadruples :=
  agrees_mergeAfter remembers_nil quadruples

/-! How many names change. -/

/-- The events and targets of transitions. -/
def keys (quadruples : List Quadruple) : Finset (String × String) :=
  ((quadruples.filter Quadruple.isTransition).map Quadruple.key).toFinset

theorem isSome_firstAlike?_iff
    {quadruples : List Quadruple}
    {quadruple : Quadruple}
    (isTransition : quadruple.isTransition = true) :
    (firstAlike? quadruples quadruple).isSome = true ↔ quadruple.key ∈ keys quadruples := by
  simp [firstAlike?, keys, isTransition, and_assoc]

/-- A transition has a new key or is a later one. -/
theorem card_keys_append
    (above : List Quadruple)
    (next : Quadruple) :
    (keys (above ++ [next])).card + (if (firstAlike? above next).isSome then 1 else 0) =
      (keys above).card + if next.isTransition then 1 else 0 := by
  by_cases isTransition : next.isTransition = true
  · have added : keys (above ++ [next]) = insert next.key (keys above) := by
      simp [keys, isTransition]
    rw [added]
    by_cases known : next.key ∈ keys above
    · simp [isSome_firstAlike?_iff isTransition, known, isTransition]
    · simp [isSome_firstAlike?_iff isTransition, known, isTransition]
  · have isOther : next.isTransition = false := by simpa using isTransition
    have unchanged : keys (above ++ [next]) = keys above := by
      simp [keys, isOther]
    simp [unchanged, firstAlike?_of_not_transition above isOther, isOther]

theorem changed_mergeAfter
    {firsts above : List Quadruple}
    (remembers : Remembers firsts above)
    (rest : List Quadruple) :
    (mergeAfter firsts rest).changed + (keys (above ++ rest)).card =
      (keys above).card + rest.countP Quadruple.isTransition := by
  induction rest generalizing firsts above with
  | nil =>
      simp [mergeAfter]
  | cons next rest inductionHypothesis =>
      obtain ⟨memory, further, _, isCounted⟩ := mergeAfter_step remembers next rest
      have later := inductionHypothesis further
      have here := card_keys_append above next
      rw [List.append_assoc, List.singleton_append] at later
      rw [isCounted, List.countP_cons]
      omega

theorem changed_mergeTransitions (quadruples : List Quadruple) :
    (mergeTransitions quadruples).changed + (keys quadruples).card =
      quadruples.countP Quadruple.isTransition := by
  have counted := changed_mergeAfter remembers_nil quadruples
  have noKeys : (keys []).card = 0 := rfl
  rwa [List.nil_append, noKeys, Nat.zero_add] at counted

/-! Which names change, by position. -/

/-- A position holds the first transition with its event and target. -/
structure FirstTransition
    (quadruples : List Quadruple)
    (position : Nat)
    (first : Quadruple) :
    Prop where
  found :
    quadruples[position]? = some first
  isTransition :
    first.isTransition = true
  isNew :
    ∀ above ∈ quadruples.take position,
      above.isTransition = true → above.key ≠ first.key

/-- Above a later position stand what is above an earlier one, and the quadruple there. -/
theorem take_eq_of_lt
    {quadruples : List Quadruple}
    {earlier later : Nat}
    (less : earlier < later)
    {quadruple : Quadruple}
    (found : quadruples[earlier]? = some quadruple) :
    ∃ between,
      quadruples.take later = quadruples.take earlier ++ quadruple :: between := by
  have above : (quadruples.take later)[earlier]? = some quadruple := by
    rw [List.getElem?_take_of_lt less, found]
  obtain ⟨inside, isQuadruple⟩ := List.getElem?_eq_some_iff.mp above
  refine ⟨(quadruples.take later).drop (earlier + 1), ?_⟩
  rw [← isQuadruple, List.cons_getElem_drop_succ]
  have same : quadruples.take earlier = (quadruples.take later).take earlier := by
    rw [List.take_take, Nat.min_eq_left (Nat.le_of_lt less)]
  rw [same, List.take_append_drop]

theorem FirstTransition.firstAlike?_above
    {quadruples : List Quadruple}
    {position : Nat}
    {first : Quadruple}
    (isFirst : FirstTransition quadruples position first) :
    firstAlike? (quadruples.take position) first = none := by
  refine List.find?_eq_none.mpr ?_
  intro above member isAlike
  simp only [Bool.and_eq_true, decide_eq_true_eq] at isAlike
  exact isFirst.isNew above member isAlike.1.1 isAlike.2

/-- Below the first transition of a key it is the one that is found. -/
theorem FirstTransition.firstAlike?_below
    {quadruples : List Quadruple}
    {position later : Nat}
    {first : Quadruple}
    (isFirst : FirstTransition quadruples position first)
    (below : position < later) :
    firstAlike? (quadruples.take later) first = some first := by
  obtain ⟨between, isAbove⟩ := take_eq_of_lt below isFirst.found
  rw [isAbove, firstAlike?_append, isFirst.firstAlike?_above,
    firstAlike?_cons_self isFirst.isTransition, Option.none_or]

/-! Names are not lost. -/

/-- What is merged to the same is of one kind, with one event and target. -/
theorem alike_of_mergedBelow_eq
    {oneAbove otherAbove : List Quadruple}
    {one other : Quadruple}
    (same : mergedBelow oneAbove one = mergedBelow otherAbove other) :
    one.isTransition = other.isTransition ∧ one.key = other.key := by
  have agreesOne := agrees_mergedBelow oneAbove one
  have agreesOther := agrees_mergedBelow otherAbove other
  constructor
  · rw [Quadruple.isTransition, ← agreesOne.operation, same, agreesOther.operation,
      Quadruple.isTransition]
  · rw [Quadruple.key, ← agreesOne.arg2, ← agreesOne.arg3, same, agreesOther.arg2,
      agreesOther.arg3, Quadruple.key]

theorem mergedBelow_injective (above : List Quadruple) :
    Function.Injective (mergedBelow above) := by
  intro one other same
  obtain ⟨sameKind, sameKey⟩ := alike_of_mergedBelow_eq same
  have sameFirst := firstAlike?_congr above sameKind sameKey
  cases isKnown : firstAlike? above one with
  | none =>
      rw [isKnown] at sameFirst
      rwa [mergedBelow_of_none isKnown, mergedBelow_of_none sameFirst.symm] at same
  | some first =>
      rw [isKnown] at sameFirst
      rw [mergedBelow_of_some isKnown, mergedBelow_of_some sameFirst.symm] at same
      exact Quadruple.behind_injective first same

/-- The given quadruples can be told from the merged ones. -/
theorem mergeTransitions_injective :
    Function.Injective fun quadruples => (mergeTransitions quadruples).quadruples := by
  intro one other same
  have here :
      ∀ position,
        one.take position = other.take position → one[position]? = other[position]? := by
    intro position sameAbove
    have merged := congrArg (fun quadruples => quadruples[position]?) same
    simp only [getElem?_mergeTransitions, sameAbove] at merged
    exact Option.map_injective (mergedBelow_injective _) merged
  -- Downwards: once all above is recovered, so is the first name of every key.
  have above : ∀ position, one.take position = other.take position := by
    intro position
    induction position with
    | zero =>
        rfl
    | succ position inductionHypothesis =>
        rw [List.take_add_one, List.take_add_one, inductionHypothesis,
          here position inductionHypothesis]
  exact List.ext_getElem? fun position => here position (above position)

/-- A pass changes the names of later transitions, and nothing else. -/
structure MergesNames
    (given : List Quadruple)
    (pass : Pass) :
    Prop where
  length :
    pass.quadruples.length = given.length
  agree :
    List.Forall₂ Quadruple.AgreesButName given pass.quadruples
  first :
    ∀ position first,
      FirstTransition given position first → pass.quadruples[position]? = some first
  later :
    ∀ position first later quadruple,
      FirstTransition given position first →
      position < later →
      given[later]? = some quadruple →
      quadruple.isTransition = true →
      quadruple.key = first.key →
      pass.quadruples[later]? =
        some { quadruple with arg1 := first.arg1 ++ "_" ++ quadruple.arg1 }
  changed :
    pass.changed + (keys given).card = given.countP Quadruple.isTransition

/--
Merging changes names only: it keeps actions and the first transition of every
event and target, puts the name of every later one behind the original name of
that first one, and counts the latter; and no two lists are merged alike.
-/
theorem mergeTransitions_changes_names_only :
    (∀ quadruples, MergesNames quadruples (mergeTransitions quadruples)) ∧
      Function.Injective fun quadruples => (mergeTransitions quadruples).quadruples := by
  refine ⟨?_, mergeTransitions_injective⟩
  intro quadruples
  have agree := agrees_mergeTransitions quadruples
  refine ⟨agree.length_eq.symm, agree, ?_, ?_, changed_mergeTransitions quadruples⟩
  · intro position first isFirst
    rw [getElem?_mergeTransitions, isFirst.found, Option.map_some,
      mergedBelow_of_none isFirst.firstAlike?_above]
  · intro position first later quadruple isFirst below found isTransition sameKey
    have sameKind : quadruple.isTransition = first.isTransition := by
      rw [isTransition, isFirst.isTransition]
    have isKnown : firstAlike? (quadruples.take later) quadruple = some first := by
      rw [firstAlike?_congr _ sameKind sameKey, isFirst.firstAlike?_below below]
    rw [getElem?_mergeTransitions, found, Option.map_some, mergedBelow_of_some isKnown]
    rfl

-- A name that another one is merged to is itself merged to a new one.
example :
    (mergeTransitions
        [.transition "a" "e" "S", .transition "b" "e" "S",
          .transition "a_b" "e" "S"]).quadruples =
      [.transition "a" "e" "S", .transition "a_b" "e" "S",
        .transition "a_a_b" "e" "S"] := by
  decide

/-! Distinct quadruples stay distinct. -/

/-- A quadruple below another one is merged to the same only if it is the same. -/
theorem eq_of_mergedBelow_eq
    {above between : List Quadruple}
    {upper lower : Quadruple}
    (same : mergedBelow above upper = mergedBelow (above ++ upper :: between) lower) :
    upper = lower := by
  obtain ⟨sameKind, sameKey⟩ := alike_of_mergedBelow_eq same
  -- Unless the upper one is the first of its key, both are merged as at the lower place.
  refine mergedBelow_injective (above ++ upper :: between) (Eq.trans ?_ same)
  cases isKnown : firstAlike? above upper with
  | some first =>
      have stillKnown : firstAlike? (above ++ upper :: between) upper = some first := by
        rw [firstAlike?_append, isKnown, Option.some_or]
      rw [mergedBelow_of_some isKnown, mergedBelow_of_some stillKnown]
  | none =>
      by_cases isTransition : upper.isTransition = true
      · have isFirst : firstAlike? (above ++ upper :: between) lower = some upper := by
          rw [← firstAlike?_congr _ sameKind sameKey, firstAlike?_append, isKnown,
            firstAlike?_cons_self isTransition, Option.none_or]
        rw [mergedBelow_of_none isKnown, mergedBelow_of_some isFirst] at same
        exact (Quadruple.behind_ne upper lower same.symm).elim
      · have isOther : upper.isTransition = false := by simpa using isTransition
        rw [mergedBelow_of_none isKnown,
          mergedBelow_of_none (firstAlike?_of_not_transition _ isOther)]

theorem nodup_mergeTransitions
    {quadruples : List Quadruple}
    (distinct : quadruples.Nodup) :
    (mergeTransitions quadruples).quadruples.Nodup := by
  refine List.nodup_iff_getElem?_ne_getElem?.mpr ?_
  intro earlier later less inside same
  rw [← (agrees_mergeTransitions quadruples).length_eq] at inside
  have foundUpper := List.getElem?_eq_getElem (Nat.lt_trans less inside)
  have foundLower := List.getElem?_eq_getElem inside
  obtain ⟨between, isAbove⟩ := take_eq_of_lt less foundUpper
  rw [getElem?_mergeTransitions, getElem?_mergeTransitions, foundUpper, foundLower,
    Option.map_some, Option.map_some, Option.some.injEq, isAbove] at same
  have sameGiven := eq_of_mergedBelow_eq same
  refine List.nodup_iff_getElem?_ne_getElem?.mp distinct earlier later less inside ?_
  rw [foundUpper, foundLower, sameGiven]

end Pass

namespace Optimization

/--
Merging after deduplication brings back no copy: the optimized quadruples are
distinct, as many as without merging, and but for the names of transitions they
are the same at every position.
-/
theorem merged_code_distinct (quadruples : List Quadruple) :
    (ofQuadruples .deduplicateAndMerge quadruples).quadruples.Nodup ∧
      (ofQuadruples .deduplicateAndMerge quadruples).quadruples.length =
          (ofQuadruples .deduplicate quadruples).quadruples.length ∧
        List.Forall₂ Quadruple.AgreesButName
          (ofQuadruples .deduplicate quadruples).quadruples
          (ofQuadruples .deduplicateAndMerge quadruples).quadruples := by
  have isMerged :
      (ofQuadruples .deduplicateAndMerge quadruples).quadruples =
        (Pass.mergeTransitions (ofQuadruples .deduplicate quadruples).quadruples).quadruples :=
    rfl
  have agree := Pass.agrees_mergeTransitions (ofQuadruples .deduplicate quadruples).quadruples
  rw [isMerged]
  refine ⟨?_, agree.length_eq.symm, agree⟩
  exact Pass.nodup_mergeTransitions (firstOccurrences_deduplicated quadruples).nodup

end Optimization

end Smsl
