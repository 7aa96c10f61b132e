import Smsl.Proofs.LineStages

namespace Smsl

/-!
# Complete code

An instruction is complete if it has a name and, for a transition, an event and a
target.  A unit that compiles need not have complete code: the check of statements
counts fields and parts and does not ask whether a part is empty.  This module
says exactly which lines give an incomplete instruction.
-/

namespace Quadruple

/-- Nothing that an instruction needs is empty. -/
def Complete (quadruple : Quadruple) : Prop :=
  quadruple.arg1 ≠ "" ∧
    (quadruple.operation = .transition → quadruple.arg2 ≠ "" ∧ quadruple.arg3 ≠ "")

instance (quadruple : Quadruple) : Decidable quadruple.Complete :=
  inferInstanceAs (Decidable (_ ∧ (_ → _)))

/-- Merging leaves a complete instruction complete. -/
theorem Renames.complete
    {renamed original : Quadruple}
    (renames : renamed.Renames original)
    (complete : original.Complete) :
    renamed.Complete := by
  refine ⟨renames.arg1_ne_empty complete.1, ?_⟩
  rw [renames.operation, renames.arg2, renames.arg3]
  exact complete.2

end Quadruple

namespace TransitionParts

/-- The parts of a line are its first pieces without the blanks around them. -/
theorem pieces_of_ofText?
    {text : Text}
    {parts : TransitionParts}
    (isParts : ofText? text = some parts) :
    ∃ header event target others,
      pieces text = header :: event :: target :: others ∧
        parts.eventPart = Text.trim event ∧
          Text.trim parts.targetPart = Text.trim target := by
  have kept := dropTrailingEmpty_prefix (trimJoints (pieces text))
  rw [← split, split_of_ofText? isParts] at kept
  rcases isPieces : pieces text with
      _ | ⟨header, _ | ⟨event, _ | ⟨target, others⟩⟩⟩
  -- Fewer pieces than three leave no room for three parts.
  iterate 3
    · have tooMany := kept.length_le
      simp [isPieces, trimJoints, trimFollowing] at tooMany
  · refine ⟨header, event, target, others, rfl, ?_⟩
    rw [isPieces] at kept
    cases others with
    | nil =>
        simp only [trimJoints, trimFollowing, List.cons_prefix_cons] at kept
        obtain ⟨_, isEvent, isTarget, _⟩ := kept
        rw [isTarget, Text.trim_trimStart]
        exact ⟨isEvent, rfl⟩
    | cons next rest =>
        simp only [trimJoints, trimFollowing, List.cons_prefix_cons] at kept
        obtain ⟨_, isEvent, isTarget, _⟩ := kept
        rw [isTarget, Text.trim_trim]
        exact ⟨isEvent, rfl⟩

/-- Nothing is left of a target if there is nothing, or a lone brace. -/
theorem target_eq_nil_iff {parts : TransitionParts} :
    parts.target = [] ↔
      Text.trim parts.targetPart = [] ∨ Text.trim parts.targetPart = ['\x7b'] := by
  rw [target]
  by_cases ends : (Text.trim parts.targetPart).getLast? = some '\x7b'
  · obtain ⟨front, shape⟩ := List.getLast?_eq_some_iff.mp ends
    rw [shape, Text.withoutEnd_append, Text.trim_eq_nil_iff]
    constructor
    · intro noFields
      have allBlank := Text.allBlank_of_fields_eq_nil noFields
      cases front with
      | nil =>
          exact .inr rfl
      | cons first rest =>
          have visible := Text.trim_begins shape
          rw [allBlank first (by simp)] at visible
          cases visible
    · rintro (isEmpty | isBrace)
      · simp at isEmpty
      · obtain rfl : front = [] := by simpa using isBrace
        rfl
  · rw [Text.withoutEnd_of_ends ends, Text.trim_trim]
    constructor
    · exact .inl
    · rintro (isEmpty | isBrace)
      · exact isEmpty
      · simp [isBrace] at ends

/-- The event of a transition is empty if nothing but blanks stands for it. -/
theorem event_eq_nil_iff
    {parts : TransitionParts}
    {event : Text}
    (isEvent : parts.eventPart = Text.trim event) :
    parts.event = [] ↔ Text.fields event = [] := by
  rw [TransitionParts.event, isEvent, Text.trim_trim, Text.trim_eq_nil_iff]

end TransitionParts

/-- A line of an action or a transition leaves a part of it empty. -/
inductive SourceLine.Omits (line : SourceLine) : Prop where
  | actionName :
      StatementKind.ofText line.text = .action →
      Text.fields line.text = [StatementShape.keywordField .action, [';']] →
      Omits line
  | event
      {header event target : Text}
      {others : List Text} :
      StatementKind.ofText line.text = .transitionDeclaration →
      TransitionParts.pieces line.text = header :: event :: target :: others →
      Text.fields event = [] →
      Omits line
  | target
      {header event target : Text}
      {others : List Text} :
      StatementKind.ofText line.text = .transitionDeclaration →
      TransitionParts.pieces line.text = header :: event :: target :: others →
      Text.fields target = [] ∨ Text.fields target = [['\x7b']] →
      Omits line

namespace Generation

theorem lowers_of_mem_quadruples
    {lines : List Text}
    {quadruple : Quadruple}
    (member : quadruple ∈ (ofLines lines).quadruples) :
    ∃ line ∈ SourceLine.significant lines, Lowers line quadruple := by
  rw [quadruples_ofLines] at member
  obtain ⟨line, isLine, lowered⟩ := List.mem_filterMap.mp member
  refine ⟨line, isLine, ?_⟩
  rcases lowered_cases line with
      ⟨_, _, lowers, isQuadruple, _⟩ | ⟨_, _, _, notLowered, _⟩ | ⟨_, notLowered, _⟩
  · rw [isQuadruple] at lowered
    cases lowered
    exact lowers
  · rw [notLowered] at lowered
    cases lowered
  · rw [notLowered] at lowered
    cases lowered

/-- An accepted action has a name unless its field is a lone semicolon. -/
theorem complete_action_iff
    {line : SourceLine}
    {field : Text}
    (isKind : StatementKind.ofText line.text = .action)
    (isFields : Text.fields line.text = [StatementShape.keywordField .action, field])
    (closes : Text.endsWithChar ';' field = true) :
    (Quadruple.action
        (String.ofList (Text.trim (Text.withoutEnd [';'] field)))).Complete ↔
      ¬ line.Omits := by
  have isField : field ∈ Text.fields line.text := by simp [isFields]
  obtain ⟨name, rfl⟩ : ∃ name, field = name ++ [';'] :=
    List.getLast?_eq_some_iff.mp (by simpa [Text.endsWithChar] using closes)
  have noBlank : Text.NoBlank name := by
    intro character member
    exact (Text.mem_fields isField).1 character (by simp [member])
  rw [Text.withoutEnd_append, Text.trim_of_word noBlank]
  have omits_iff : line.Omits ↔ name = [] := by
    constructor
    · rintro (⟨_, sameFields⟩ | ⟨otherKind, _, _⟩ | ⟨otherKind, _, _⟩)
      · rw [isFields] at sameFields
        simpa using sameFields
      · rw [isKind] at otherKind
        cases otherKind
      · rw [isKind] at otherKind
        cases otherKind
    · rintro rfl
      exact .actionName isKind isFields
  simp [omits_iff, Quadruple.Complete, Quadruple.action]

/-- An accepted transition is complete unless its event or its target is empty. -/
theorem complete_transition_iff
    {line : SourceLine}
    {parts : TransitionParts}
    {name : Text}
    (isKind : StatementKind.ofText line.text = .transitionDeclaration)
    (isParts : TransitionParts.ofText? line.text = some parts)
    (isHeader :
      Text.fields parts.header = [StatementShape.keywordField .transition, name]) :
    (Quadruple.transition (String.ofList (parts.name?.getD []))
        (String.ofList parts.event) (String.ofList parts.target)).Complete ↔
      ¬ line.Omits := by
  obtain ⟨header, event, target, others, isPieces, isEvent, isTarget⟩ :=
    TransitionParts.pieces_of_ofText? isParts
  have isName : parts.name?.getD [] ≠ [] := by
    have isField : name ∈ Text.fields parts.header := by simp [isHeader]
    simpa [TransitionParts.name?, isHeader] using (Text.mem_fields isField).2
  have visibleBrace : Text.NoBlank ['\x7b'] := by
    simp only [Text.NoBlank, List.mem_singleton, forall_eq]
    decide
  have omits_iff : line.Omits ↔ parts.event = [] ∨ parts.target = [] := by
    rw [TransitionParts.event_eq_nil_iff isEvent, TransitionParts.target_eq_nil_iff,
      isTarget, Text.trim_eq_nil_iff, Text.trim_eq_word_iff visibleBrace (by simp)]
    constructor
    · rintro (⟨otherKind, _⟩ | ⟨_, samePieces, noEvent⟩ | ⟨_, samePieces, noTarget⟩)
      · rw [isKind] at otherKind
        cases otherKind
      · rw [isPieces] at samePieces
        cases samePieces
        exact .inl noEvent
      · rw [isPieces] at samePieces
        cases samePieces
        exact .inr noTarget
    · rintro (noEvent | noTarget)
      · exact .event isKind isPieces noEvent
      · exact .target isKind isPieces noTarget
  simp [omits_iff, Quadruple.Complete, Quadruple.transition, isName]

/-- The instruction of an accepted line is complete unless the line omits a part. -/
theorem Lowers.complete_iff
    {line : SourceLine}
    {quadruple : Quadruple}
    (lowers : Lowers line quadruple)
    {shape : StatementShape}
    (reads : shape.Reads line.text) :
    quadruple.Complete ↔ ¬ line.Omits := by
  cases lowers with
  | @action field isKind found =>
      cases reads with
      | action readField _ isFields closes =>
          obtain rfl : readField = field := by simpa [isFields] using found
          exact complete_action_iff isKind isFields closes
      | stateDeclaration _ otherKind _ | transitionDeclaration _ _ otherKind _ _ _
      | marker otherKind | brace otherKind =>
          rw [isKind] at otherKind
          cases otherKind
  | @transition parts isKind isParts =>
      cases reads with
      | transitionDeclaration readParts name _ readsParts isHeader _ =>
          rw [isParts] at readsParts
          cases readsParts
          exact complete_transition_iff isKind isParts isHeader
      | stateDeclaration _ otherKind _ | action _ otherKind _ _ | marker otherKind
      | brace otherKind =>
          rw [isKind] at otherKind
          cases otherKind

/-- A line that omits a part is an action or a transition. -/
theorem isLowered_of_omits
    {line : SourceLine}
    (omits : line.Omits) :
    (StatementKind.ofText line.text).isLowered = true := by
  cases omits with
  | actionName isKind _ | event isKind _ _ | target isKind _ _ =>
      rw [isKind]
      rfl

/-- The code of an accepted unit is complete exactly if no line omits a part. -/
theorem complete_quadruples_iff
    {lines : List Text}
    (accepted : (StatementCheck.ofLines lines).diagnostics = []) :
    (∀ quadruple ∈ (ofLines lines).quadruples, quadruple.Complete) ↔
      ∀ line ∈ SourceLine.significant lines, ¬ line.Omits := by
  have readable := LineReading.accepted_of_check accepted
  constructor
  · intro complete line isLine omits
    obtain ⟨shape, reads⟩ := readable line isLine
    rcases lowered_cases line with
        ⟨quadruple, _, lowers, lowered, _⟩ | ⟨error, _, lacks, _, _⟩ | ⟨isOther, _, _⟩
    · have member : quadruple ∈ (ofLines lines).quadruples := by
        rw [quadruples_ofLines]
        exact List.mem_filterMap.mpr ⟨line, isLine, lowered⟩
      exact (lowers.complete_iff reads).mp (complete quadruple member) omits
    -- A line that cannot be lowered would not have been accepted.
    · obtain ⟨⟨rejection, rejected⟩, _⟩ := lacks.rejected
      obtain ⟨shape, isShape⟩ :=
        StatementCheck.diagnostics_eq_nil_iff.mp accepted line isLine
      rw [rejected] at isShape
      cases isShape
    · rw [isLowered_of_omits omits] at isOther
      cases isOther
  · intro nothingOmitted quadruple member
    obtain ⟨line, isLine, lowers⟩ := lowers_of_mem_quadruples member
    obtain ⟨shape, reads⟩ := readable line isLine
    exact (lowers.complete_iff reads).mpr (nothingOmitted line isLine)

end Generation

namespace Compilation

/-- What optimization keeps holds of all code once it holds of the generated code. -/
theorem forall_code
    {preferences : Preferences}
    {name : String}
    {lines : List Text}
    {holds : Quadruple → Prop}
    (kept :
      ∀ renamed original : Quadruple,
        renamed.Renames original → holds original → holds renamed)
    (generated : ∀ quadruple ∈ (Generation.ofLines lines).quadruples, holds quadruple) :
    ∀ quadruple ∈ (fullReport preferences name lines).intermediate ++
        (fullReport preferences name lines).optimized,
      holds quadruple := by
  intro quadruple member
  rcases List.mem_append.mp member with isGenerated | isOptimized
  · exact generated quadruple isGenerated
  · obtain ⟨original, isGenerated, renames⟩ := Optimization.mem_ofQuadruples isOptimized
    exact kept quadruple original renames (generated original isGenerated)

/-- By lines a declared target is not empty. -/
theorem arg3_ne_empty_of_mem
    {preferences : Preferences}
    (byLines : preferences.semantic.input = .lines)
    {lines : List Text}
    (analyzed : (analysisOf preferences lines).diagnostics = [])
    {quadruple : Quadruple}
    (member : quadruple ∈ (Generation.ofLines lines).quadruples)
    (isTransition : quadruple.operation = .transition) :
    quadruple.arg3 ≠ "" := by
  have noErrors :
      (LineReading.ofTexts.facts lines).errors preferences.semantic.attribution = [] := by
    rw [analysisOf, byLines, Analysis.diagnostics_ofUnit_lines] at analyzed
    exact List.map_eq_nil_iff.mp analyzed
  obtain ⟨number, refers⟩ := Generation.refersTo_of_mem member isTransition
  rw [← LineReading.facts_ofTexts] at refers
  obtain ⟨record, isRecord, isTarget⟩ :=
    StateFacts.declared_of_errors_eq_nil noErrors refers
  have isFirst := (StateFacts.isLeast_declarationLine isRecord).1
  rw [LineReading.declarations_ofTexts] at isFirst
  -- A declared name is a field of its line, and no field is empty.
  have nonempty := (SourceLine.word_of_mem_declarations isFirst).2
  rw [isTarget] at nonempty
  intro empty
  exact nonempty (by simp [empty])

/--
What a unit that compiles has for certain, and when its code is complete: every
transition has a name and, by lines, a target; and nothing that an instruction
needs is empty exactly if no line is an action whose field is a lone semicolon or
a transition with blanks only for its event, or blanks and at most a brace for
its target.
-/
theorem compiled_code_complete_iff
    (preferences : Preferences)
    (name : String)
    (text : Text)
    (sink : Sink σ)
    (state : σ)
    (journal : Log.Journal)
    (outcome : Outcome σ)
    (finished :
      (run preferences (LoadedUnit.ofText name text) sink state journal).1 = .ok outcome)
    (compiled : outcome.report.status = .compiled) :
    (∀ quadruple ∈ outcome.report.intermediate ++ outcome.report.optimized,
      quadruple.operation = .transition →
      quadruple.arg1 ≠ "" ∧
        (preferences.semantic.input = .lines → quadruple.arg3 ≠ "")) ∧
      ((∀ quadruple ∈ outcome.report.intermediate ++ outcome.report.optimized,
          quadruple.Complete) ↔
        ∀ line ∈ SourceLine.significant (Text.lines text), ¬ line.Omits) := by
  have isReport :
      outcome.report = fullReport preferences name (Text.lines text) := by
    rw [run_report finished] at compiled ⊢
    exact plan_result_of_compiled rfl compiled
  rw [isReport] at compiled ⊢
  obtain ⟨_, _, accepted, analyzed, _⟩ := status_eq_compiled_iff.mp compiled
  constructor
  · refine forall_code ?_ ?_
    · intro renamed original renames named isTransition
      rw [renames.operation] at isTransition
      obtain ⟨hasName, hasTarget⟩ := named isTransition
      rw [renames.arg3]
      exact ⟨renames.arg1_ne_empty hasName, hasTarget⟩
    · intro quadruple member isTransition
      exact ⟨Generation.arg1_ne_empty_of_mem accepted member isTransition,
        fun byLines => arg3_ne_empty_of_mem byLines analyzed member isTransition⟩
  · rw [← Generation.complete_quadruples_iff accepted]
    constructor
    · intro complete quadruple member
      exact complete quadruple (List.mem_append_left _ member)
    · exact forall_code fun _ _ renames complete => renames.complete complete

/-- A unit that compiles to complete code. -/
theorem compiled_code_complete_iff_of_named_parts :
    ∃ outcome : Outcome MemorySink,
      (run Environment.empty.preferences
          (LoadedUnit.ofText "unit"
            "state A \x7b\naction a;\n\x7d\ntransition t: e -> A \x7b\n\x7d\n".toList)
          MemorySink.sink MemorySink.empty (Log.Journal.empty true)).1 = .ok outcome ∧
        outcome.report.status = .compiled ∧
          ∀ line ∈
              SourceLine.significant
                (Text.lines
                  "state A \x7b\naction a;\n\x7d\ntransition t: e -> A \x7b\n\x7d\n".toList),
            ¬ line.Omits := by
  obtain ⟨outcome, finished, isReport⟩ :=
    run_of_acceptsAll Environment.empty.preferences
      (LoadedUnit.ofText "unit"
        "state A \x7b\naction a;\n\x7d\ntransition t: e -> A \x7b\n\x7d\n".toList)
      memory_acceptsAll MemorySink.empty (Log.Journal.empty true)
  have compiled : outcome.report.status = .compiled := by
    rw [isReport]
    decide +kernel
  have complete :
      ∀ quadruple ∈ outcome.report.intermediate ++ outcome.report.optimized,
        quadruple.Complete := by
    rw [isReport]
    decide +kernel
  exact ⟨outcome, finished, compiled,
    (compiled_code_complete_iff _ _ _ _ _ _ outcome finished compiled).2.mp complete⟩

/--
Units that compile, in gated runs, to an action without a name, to a transition
without an event and, by tokens, to a transition without a target.
-/
theorem not_complete_of_omitted_parts :
    (∃ outcome : Outcome MemorySink,
      (run
          { Environment.empty.preferences with pipeline := { stopOnErrors := true } }
          (LoadedUnit.ofText "unit" "action ;\n".toList)
          MemorySink.sink MemorySink.empty (Log.Journal.empty true)).1 = .ok outcome ∧
        outcome.report.status = .compiled ∧
          outcome.report.intermediate = [Quadruple.action ""]) ∧
      (∃ outcome : Outcome MemorySink,
        (run
            { Environment.empty.preferences with pipeline := { stopOnErrors := true } }
            (LoadedUnit.ofText "unit"
              "state A \x7b\naction a;\ntransition t: -> A \x7b\n".toList)
            MemorySink.sink MemorySink.empty (Log.Journal.empty true)).1 = .ok outcome ∧
          outcome.report.status = .compiled ∧
            outcome.report.intermediate =
              [Quadruple.action "a", Quadruple.transition "t" "" "A"]) ∧
      ∃ outcome : Outcome MemorySink,
        (run
            { Environment.empty.preferences with
              pipeline := { stopOnErrors := true }
              semantic := { attribution := .adjacentDeclaration, input := .tokens } }
            (LoadedUnit.ofText "unit"
              "state A \x7b\naction a;\ntransition t: e: -> A \x7b\n".toList)
            MemorySink.sink MemorySink.empty (Log.Journal.empty true)).1 = .ok outcome ∧
          outcome.report.status = .compiled ∧
            outcome.report.intermediate =
              [Quadruple.action "a", Quadruple.transition "t" "e" ""] := by
  refine ⟨⟨_, run_memory _ _ _ _, ?_⟩, ⟨_, run_memory _ _ _ _, ?_⟩,
    ⟨_, run_memory _ _ _ _, ?_⟩⟩
  · decide +kernel
  · decide +kernel
  · decide +kernel

end Compilation

end Smsl
