import Smsl.Proofs.LoggedRuns

namespace Smsl.Log

/-!
# Nested scopes

A scope sets its unit and unsets it when it is left.  It does not remember the
unit that was set before, so that scopes bracket only if none stands inside
another: behind an inner scope the events of the outer one go untagged.  This
module says what it means for a program of log calls and scopes to be bracketed,
and which programs are.
-/

namespace Step

/-- The step is a scope. -/
def isScope : Step → Bool
  | .within .. => true
  | _ => false

/-- The step is not a scope with a scope inside. -/
def isFlat : Step → Bool
  | .within _ steps => !steps.any isScope
  | _ => true

/-- Log calls under the current unit, and scopes of such steps. -/
inductive LogsInScopes : Step → Prop where
  | record (event : Event) :
      LogsInScopes (.record event)
  | within
      (unit : String)
      (steps : List Step)
      (inner : ∀ step ∈ steps, LogsInScopes step) :
      LogsInScopes (.within unit steps)

mutual

/--
Inside a scope the step logs under the scope's unit, and every scope that it opens
is bracketed and leaves the unit that was set before it.
-/
def Bracketed
    (journal : Journal)
    (scope : Option String) :
    Step → Prop
  | .record event =>
      ∀ unit ∈ scope, (journal.tag event).context.lookup Journal.unitName = some unit
  | .within unit steps =>
      AllBracketed (journal.setUnit unit) (some unit) steps ∧
        (perform journal (.within unit steps)).2.unit = journal.unit
  | _ =>
      True

/-- Every step of a program is bracketed, from the journal that it starts with. -/
def AllBracketed
    (journal : Journal)
    (scope : Option String) :
    List Step → Prop
  | [] =>
      True
  | step :: rest =>
      Bracketed journal scope step ∧ AllBracketed (perform journal step).2 scope rest

end

/-! What one step does to the unit. -/

/-- A scope leaves no unit set. -/
theorem unit_perform_within
    (journal : Journal)
    (unit : String)
    (steps : List Step) :
    (perform journal (.within unit steps)).2.unit = none := by
  rw [perform]
  rfl

/-- A log call leaves the unit as it was, and a scope leaves none. -/
theorem LogsInScopes.unit_perform
    {step : Step}
    (logs : LogsInScopes step)
    (journal : Journal) :
    (perform journal step).2.unit = if step.isScope then none else journal.unit := by
  cases logs with
  | record event =>
      rw [perform]
      rfl
  | within unit steps inner =>
      exact unit_perform_within journal unit steps

mutual

/-- Whether units are tagged is never changed. -/
theorem tagsUnits_perform
    (journal : Journal)
    (step : Step) :
    (perform journal step).2.tagsUnits = journal.tagsUnits := by
  cases step with
  | within unit steps =>
      rw [perform]
      exact tagsUnits_performAll (journal.setUnit unit) steps
  | setUnit unit | clearUnit | record event | keep event =>
      rw [perform]
      rfl

theorem tagsUnits_performAll
    (journal : Journal)
    (steps : List Step) :
    (performAll journal steps).2.tagsUnits = journal.tagsUnits := by
  cases steps with
  | nil =>
      rw [performAll]
  | cons step rest =>
      rw [performAll]
      exact
        (tagsUnits_performAll (perform journal step).2 rest).trans
          (tagsUnits_perform journal step)

end

/-- A program leaves the unit as it was unless a scope is among its steps. -/
theorem unit_performAll
    {steps : List Step}
    (logs : ∀ step ∈ steps, LogsInScopes step)
    (journal : Journal) :
    (performAll journal steps).2.unit =
      if steps.any isScope then none else journal.unit := by
  induction steps generalizing journal with
  | nil =>
      rw [performAll]
      rfl
  | cons step rest inductionHypothesis =>
      have restLogs : ∀ other ∈ rest, LogsInScopes other :=
        fun other member => logs other (List.mem_cons_of_mem _ member)
      have first := (logs step List.mem_cons_self).unit_perform journal
      simp only [performAll, inductionHypothesis restLogs, first, List.any_cons]
      by_cases opens : step.isScope <;> simp [opens]

theorem performAll_append
    (journal : Journal)
    (first second : List Step) :
    (performAll journal (first ++ second)).2 =
      (performAll (performAll journal first).2 second).2 := by
  induction first generalizing journal with
  | nil =>
      rw [List.nil_append, performAll]
  | cons step rest inductionHypothesis =>
      simp only [List.cons_append, performAll, inductionHypothesis]

/-! Which programs are bracketed. -/

/-- The program of a scope is bracketed exactly if it opens no scope. -/
theorem allBracketed_inside_iff
    {journal : Journal}
    (tags : journal.tagsUnits = true)
    {unit : String}
    (isUnit : journal.unit = some unit)
    {steps : List Step}
    (logs : ∀ step ∈ steps, LogsInScopes step) :
    AllBracketed journal (some unit) steps ↔ steps.any isScope = false := by
  induction steps generalizing journal with
  | nil =>
      simp [AllBracketed]
  | cons step rest inductionHypothesis =>
      have restLogs : ∀ other ∈ rest, LogsInScopes other :=
        fun other member => logs other (List.mem_cons_of_mem _ member)
      cases logs step List.mem_cons_self with
      | record event =>
          have sameTags := (tagsUnits_perform journal (.record event)).trans tags
          have sameUnit := ((LogsInScopes.record event).unit_perform journal).trans isUnit
          have tagged := journal.lookup_tag tags isUnit event
          rw [AllBracketed, inductionHypothesis sameTags sameUnit restLogs, List.any_cons]
          simp [Bracketed, isScope, tagged]
      | within innerUnit innerSteps inner =>
          -- The inner scope unsets the unit of the outer one.
          have unsets := unit_perform_within journal innerUnit innerSteps
          rw [AllBracketed, Bracketed, unsets, isUnit, List.any_cons]
          simp [isScope]

/-- A program is bracketed exactly if its scopes are flat and no unit is set where one opens. -/
theorem allBracketed_iff
    {journal : Journal}
    (tags : journal.tagsUnits = true)
    {steps : List Step}
    (logs : ∀ step ∈ steps, LogsInScopes step) :
    AllBracketed journal none steps ↔
      steps.all isFlat = true ∧ (journal.unit = none ∨ steps.any isScope = false) := by
  induction steps generalizing journal with
  | nil =>
      simp [AllBracketed]
  | cons step rest inductionHypothesis =>
      have restLogs : ∀ other ∈ rest, LogsInScopes other :=
        fun other member => logs other (List.mem_cons_of_mem _ member)
      have sameTags := (tagsUnits_perform journal step).trans tags
      have after := (logs step List.mem_cons_self).unit_perform journal
      rw [AllBracketed, inductionHypothesis sameTags restLogs, after, List.all_cons,
        List.any_cons]
      cases logs step List.mem_cons_self with
      | record event =>
          simp [Bracketed, isScope, isFlat]
      | within unit inside inner =>
          have enteredTags : (journal.setUnit unit).tagsUnits = true := tags
          have opens : (Step.within unit inside).isScope = true := rfl
          have flat : (Step.within unit inside).isFlat = !inside.any isScope := rfl
          rw [Bracketed, allBracketed_inside_iff enteredTags rfl inner, unit_perform_within,
            opens, flat]
          simp only [Bool.and_eq_true, Bool.not_eq_true', Bool.true_or, Bool.true_eq_false,
            if_true, true_or, or_false, and_true]
          constructor
          · rintro ⟨⟨noneInside, unset⟩, flatRest⟩
            exact ⟨⟨noneInside, flatRest⟩, unset.symm⟩
          · rintro ⟨⟨noneInside, flatRest⟩, unset⟩
            exact ⟨⟨noneInside, unset.symm⟩, flatRest⟩

/-- A log call behind others in a scope is tagged unless a scope was opened there before it. -/
theorem back?_performAll_record
    {journal : Journal}
    (tags : journal.tagsUnits = true)
    {unit : String}
    (isUnit : journal.unit = some unit)
    {front : List Step}
    (logs : ∀ step ∈ front, LogsInScopes step)
    (event : Event) :
    (performAll journal (front ++ [.record event])).2.events.back? =
      some
        (if front.any isScope then
          event
        else
          event.withValue Journal.unitName unit) := by
  have sameTags := (tagsUnits_performAll journal front).trans tags
  have unitThen := unit_performAll logs journal
  rw [performAll_append]
  have pushed :
      (performAll (performAll journal front).2 [.record event]).2.events.back? =
        some ((performAll journal front).2.tag event) := by
    rw [performAll, perform, performAll]
    exact Array.back?_push
  rw [pushed, Journal.tag, sameTags, unitThen, isUnit]
  by_cases opened : front.any isScope <;> simp [opened]

/--
A program of log calls and scopes is bracketed exactly if no scope stands inside
another and no unit is set where one opens.  As the program of a scope it tags what
is logged behind it exactly if it opens no scope, and a scope leaves no unit set.
-/
theorem bracketed_iff_scopes_are_flat
    {journal : Journal}
    (tags : journal.tagsUnits = true)
    {steps : List Step}
    (logs : ∀ step ∈ steps, LogsInScopes step) :
    (AllBracketed journal none steps ↔
      steps.all isFlat = true ∧ (journal.unit = none ∨ steps.any isScope = false)) ∧
    (∀ unit event,
      (performAll (journal.setUnit unit) (steps ++ [.record event])).2.events.back? =
        some
          (if steps.any isScope then
            event
          else
            event.withValue Journal.unitName unit)) ∧
    (∀ unit, (perform journal (.within unit steps)).2.unit = none) := by
  refine ⟨allBracketed_iff tags logs, ?_, fun unit => unit_perform_within journal unit steps⟩
  intro unit event
  have enteredTags : (journal.setUnit unit).tagsUnits = true := tags
  exact back?_performAll_record enteredTags rfl logs event

/-- Two scopes one after the other are bracketed if no unit is set before them. -/
theorem bracketed_iff_scopes_are_flat_of_two_scopes :
    AllBracketed (Journal.empty true) none
        [.within "first" [.record (Event.info "inside")], .within "second" []] ∧
      ¬ AllBracketed ((Journal.empty true).setUnit "before") none
        [.within "first" [.record (Event.info "inside")], .within "second" []] := by
  have logs :
      ∀ step ∈ [Step.within "first" [.record (Event.info "inside")], .within "second" []],
        LogsInScopes step := by
    intro step member
    rcases List.mem_cons.mp member with rfl | other
    · refine .within _ _ ?_
      intro inner isInner
      rw [List.mem_singleton.mp isInner]
      exact .record _
    · rw [List.mem_singleton.mp other]
      exact .within _ _ nofun
  constructor
  · rw [(bracketed_iff_scopes_are_flat rfl logs).1]
    exact ⟨rfl, .inl rfl⟩
  · rw [(bracketed_iff_scopes_are_flat rfl logs).1]
    decide

/-- Behind an inner scope the outer one is not bracketed: what is logged there has no unit. -/
theorem not_bracketed_of_inner_scope :
    (∀ step ∈ [Step.within "outer" [.within "inner" [], .record (Event.info "behind")]],
      LogsInScopes step) ∧
    ¬ AllBracketed (Journal.empty true) none
      [.within "outer" [.within "inner" [], .record (Event.info "behind")]] ∧
    (performAll (Journal.empty true)
        [.within "outer" [.within "inner" [], .record (Event.info "behind")]]).2.events =
      #[Event.info "behind"] := by
  have logs :
      ∀ step ∈ [Step.within "outer" [.within "inner" [], .record (Event.info "behind")]],
        LogsInScopes step := by
    intro step member
    rw [List.mem_singleton.mp member]
    refine .within _ _ ?_
    intro inner isInner
    rcases List.mem_cons.mp isInner with rfl | other
    · exact .within _ _ nofun
    · rw [List.mem_singleton.mp other]
      exact .record _
  refine ⟨logs, ?_, ?_⟩
  · rw [allBracketed_iff rfl logs]
    decide
  · simp only [performAll, perform, Journal.within]
    rfl

end Step

end Smsl.Log
