import Mathlib.Data.List.DropRight
import Smsl.Proofs.ContentAttribution
import Smsl.Proofs.SeparatedParts

namespace Smsl

/-!
# The grammar of statements

The check of a line looks at its leading text and counts fields and parts.  What
it accepts is a grammar: each shape is a way to put a line together from
keywords, blanks, names, parts and separators, and no line can be put together
in two of these ways.
-/

/-! Leading texts. -/

namespace StatementKind

theorem ofText_eq_stateDeclaration_iff (text : Text) :
    ofText text = .stateDeclaration ↔ "state ".toList <+: text := by
  constructor
  · intro isState
    unfold ofText at isState
    split_ifs at isState with starts
    exact List.isPrefixOf_iff_prefix.mp starts
  · rintro ⟨rest, rfl⟩
    rfl

theorem ofText_eq_transitionDeclaration_iff (text : Text) :
    ofText text = .transitionDeclaration ↔ "transition".toList <+: text := by
  constructor
  · intro isTransition
    unfold ofText at isTransition
    split_ifs at isTransition with isState starts
    exact List.isPrefixOf_iff_prefix.mp starts
  · rintro ⟨rest, rfl⟩
    rfl

end StatementKind

/-! Empty parts at the end. -/

namespace TransitionParts

/-- Only empty parts are dropped. -/
theorem dropTrailingEmpty_append (parts : List Text) :
    ∃ dropped,
      parts = dropTrailingEmpty parts ++ dropped ∧ ∀ part ∈ dropped, part = [] := by
  refine ⟨parts.rtakeWhile List.isEmpty, List.rdropWhile_append_rtakeWhile.symm, ?_⟩
  intro part member
  exact List.isEmpty_iff.mp (List.mem_rtakeWhile_imp member)

/-- All empty parts at the end are dropped. -/
theorem dropTrailingEmpty_of_nonempty
    (front : List Text)
    {last : Text}
    (nonempty : last ≠ [])
    {closing : List Text}
    (empty : ∀ part ∈ closing, part = []) :
    dropTrailingEmpty (front ++ last :: closing) = front ++ [last] := by
  have isEmpty : ∀ part ∈ closing.reverse, part.isEmpty = true := by
    intro part member
    simp [empty part (List.mem_reverse.mp member)]
  simp [dropTrailingEmpty, List.dropWhile_append_of_pos isEmpty, nonempty]

/-- The last part of a line in parts ends what the line splits into. -/
theorem getLast?_split
    {line : Text}
    {parts : TransitionParts}
    (isParts : ofText? line = some parts) :
    (split line).getLast? = some parts.last := by
  rw [split_of_ofText? isParts, last]
  cases parts.others with
  | nil =>
      rfl
  | cons other more =>
      simp [List.getLast?_cons]

/-- The part that an empty text is. -/
def Part.empty : Part where
  text := []
  unmarked := unmarked_nil
  trimmed := ⟨by simp, by simp⟩

/-- A separator with nothing behind it. -/
def Separator.alone (separator : Separator) : SeparatedPart where
  separator := separator
  part := .empty

theorem Separator.text_alone (separator : Separator) :
    separator.alone.text = separator.text :=
  List.append_nil _

theorem split_written
    (first : Part)
    (behind : List SeparatedPart) :
    split (written first behind) = dropTrailingEmpty (texts first behind) := by
  rw [split, trimJoints_pieces_written]

/-- Separators at the end of a line leave no parts behind. -/
theorem split_closed
    (first : Part)
    (behind : List SeparatedPart)
    (last : SeparatedPart)
    (nonempty : last.part.text ≠ [])
    (closing : List Separator) :
    split (written first (behind ++ last :: closing.map Separator.alone)) =
      texts first behind ++ [last.part.text] := by
  have isTexts :
      texts first (behind ++ last :: closing.map Separator.alone) =
        texts first behind ++ last.part.text :: closing.map fun _ => [] := by
    simp [texts, Separator.alone, Part.empty, Function.comp_def]
  rw [split_written, isTexts, dropTrailingEmpty_of_nonempty _ nonempty]
  intro part member
  obtain ⟨_, _, rfl⟩ := List.mem_map.mp member
  rfl

end TransitionParts

namespace StatementShape

/-- How a line of each shape is put together. -/
inductive Form (line : Text) : StatementShape → Prop where
  | stateDeclaration
      (gap name between : Text) :
      Text.AllBlank gap →
      Text.NoBlank name →
      name ≠ [] →
      Text.AllBlank between →
      between ≠ [] →
      line = "state ".toList ++ (gap ++ (name ++ (between ++ ['\x7b']))) →
      Form line .stateDeclaration
  | transitionDeclaration
      (gap name : Text)
      (behind : List TransitionParts.SeparatedPart)
      (last : TransitionParts.SeparatedPart)
      (closing : List TransitionParts.Separator) :
      Text.AllBlank gap →
      gap ≠ [] →
      Text.NoBlank name →
      name ≠ [] →
      TransitionParts.Unmarked name →
      behind ≠ [] →
      last.part.text.getLast? = some '\x7b' →
      line =
        "transition".toList ++
          (gap ++
            (name ++
              (behind.flatMap TransitionParts.SeparatedPart.text ++
                (last.text ++ closing.flatMap TransitionParts.Separator.text)))) →
      Form line .transitionDeclaration
  | action
      (gap field : Text) :
      Text.AllBlank gap →
      gap ≠ [] →
      Text.NoBlank field →
      field.getLast? = some ';' →
      line = "action".toList ++ (gap ++ field) →
      Form line .action
  | marker :
      line = "start;".toList ∨ line = "end;".toList →
      Form line .marker
  | brace :
      line = ['\x7b'] ∨ line = ['\x7d'] →
      Form line .brace

/-! What a line reads like decides whether it is accepted. -/

theorem ofText_of_reads
    {line : Text}
    {shape : StatementShape}
    (reads : shape.Reads line) :
    ofText line = .ok shape := by
  cases reads with
  | stateDeclaration name isKind isFields =>
      simp [ofText, isKind, ofStateLine, isFields]
  | transitionDeclaration parts name isKind isParts isHeader closes =>
      simp [ofText, isKind, ofTransitionLine, isParts, isHeader, closes]
  | action field isKind isFields closes =>
      simp [ofText, isKind, ofActionLine, isFields, closes]
  | marker isKind | brace isKind =>
      simp [ofText, isKind]

theorem ofText_eq_ok_iff_reads
    {line : Text}
    {shape : StatementShape} :
    ofText line = .ok shape ↔ shape.Reads line :=
  ⟨reads_of_ofText, ofText_of_reads⟩

/-! Forms of lines that are read. -/

section Sound

variable {line : Text}
variable (trimmed : Text.Trimmed line)

include trimmed

theorem form_of_state_fields
    {name : Text}
    (isKind : StatementKind.ofText line = .stateDeclaration)
    (isFields : Text.fields line = [keywordField .state, name, ['\x7b']]) :
    Form line .stateDeclaration := by
  obtain ⟨gap, rest, blankGap, separates, rfl, restTrimmed, isRest⟩ :=
    trimmed.exists_gap isFields
  obtain ⟨between, brace, blankBetween, isBetween, rfl, braceTrimmed, isBrace⟩ :=
    restTrimmed.exists_gap isRest
  obtain ⟨noBlank, nonempty⟩ := Text.mem_fields (isRest ▸ List.mem_cons_self)
  obtain rfl := braceTrimmed.eq_of_fields isBrace
  obtain ⟨blank, more, rfl⟩ := List.exists_cons_of_ne_nil separates
  -- The leading text asks for a space right behind the keyword.
  obtain ⟨further, shape⟩ := (StatementKind.ofText_eq_stateDeclaration_iff _).mp isKind
  obtain ⟨rfl, _⟩ := List.cons.inj ((List.append_right_inj "state".toList).mp shape)
  have blankMore : Text.AllBlank more :=
    fun character member => blankGap character (List.mem_cons_of_mem _ member)
  exact .stateDeclaration more name between blankMore noBlank nonempty blankBetween isBetween
    rfl

theorem form_of_action_fields
    {field : Text}
    (isFields : Text.fields line = [keywordField .action, field])
    (closes : Text.endsWithChar ';' field = true) :
    Form line .action := by
  obtain ⟨gap, rest, allBlank, separates, rfl, restTrimmed, isRest⟩ :=
    trimmed.exists_gap isFields
  obtain rfl := restTrimmed.eq_of_fields isRest
  obtain ⟨noBlank, _⟩ := Text.mem_fields (isRest ▸ List.mem_singleton_self rest)
  exact .action gap rest allBlank separates noBlank (by simpa [Text.endsWithChar] using closes)
    rfl

/-- A line in parts with a proper header and a brace at the end of its last part. -/
theorem form_of_transition_parts
    {parts : TransitionParts}
    {name : Text}
    (isParts : TransitionParts.ofText? line = some parts)
    (isHeader : Text.fields parts.header = [keywordField .transition, name])
    (closes : Text.endsWithChar '\x7b' parts.last = true) :
    Form line .transitionDeclaration := by
  obtain ⟨first, behind, rfl⟩ := TransitionParts.exists_written trimmed
  have isSplit := TransitionParts.split_of_ofText? isParts
  have isLast := TransitionParts.getLast?_split isParts
  rw [TransitionParts.split_written] at isSplit isLast
  -- What the split drops are the separators at the end of the line.
  obtain ⟨dropped, whole, areEmpty⟩ :=
    TransitionParts.dropTrailingEmpty_append (TransitionParts.texts first behind)
  rw [isSplit, TransitionParts.texts, List.cons_append, List.cons.injEq] at whole
  obtain ⟨isFirst, areParts⟩ := whole
  obtain ⟨front, closing, rfl, isFront, rfl⟩ := List.map_eq_append_iff.mp areParts
  have atLeastTwo : 2 ≤ front.length := by
    rw [← List.length_map, isFront]
    simp
  rcases List.eq_nil_or_concat' front with rfl | ⟨between, last, rfl⟩
  · simp at atLeastTwo
  · rw [isSplit, ← isFront] at isLast
    have isLastPart : last.part.text = parts.last := by
      simpa [List.getLast?_cons] using isLast
    have headerTrimmed := first.trimmed
    rw [isFirst] at headerTrimmed
    obtain ⟨gap, rest, allBlank, separates, isText, restTrimmed, isRest⟩ :=
      headerTrimmed.exists_gap isHeader
    obtain rfl := restTrimmed.eq_of_fields isRest
    obtain ⟨noBlank, nonempty⟩ := Text.mem_fields (isRest ▸ List.mem_singleton_self rest)
    have unmarked : TransitionParts.Unmarked rest := by
      refine first.unmarked.of_infix ?_
      rw [isFirst, isText]
      exact ((List.suffix_append gap rest).trans (List.suffix_append _ _)).isInfix
    have noParts :
        closing.flatMap TransitionParts.SeparatedPart.text =
          (closing.map TransitionParts.SeparatedPart.separator).flatMap
            TransitionParts.Separator.text := by
      rw [List.flatMap_map]
      refine List.flatMap_congr ?_
      intro separated member
      have isEmpty := areEmpty _ (List.mem_map_of_mem member)
      rw [TransitionParts.SeparatedPart.text, isEmpty, List.append_nil]
    refine .transitionDeclaration gap rest between last
      (closing.map TransitionParts.SeparatedPart.separator) allBlank separates noBlank nonempty
      unmarked ?_ ?_ ?_
    · rintro rfl
      simp at atLeastTwo
    · rw [isLastPart]
      simpa [Text.endsWithChar] using closes
    · rw [TransitionParts.written, isFirst, isText, ← noParts]
      simp [keywordField, Keyword.spelling]

end Sound

theorem form_of_reads
    {line : Text}
    {shape : StatementShape}
    (trimmed : Text.Trimmed line)
    (reads : shape.Reads line) :
    Form line shape := by
  cases reads with
  | stateDeclaration name isKind isFields =>
      exact form_of_state_fields trimmed isKind isFields
  | transitionDeclaration parts name _ isParts isHeader closes =>
      exact form_of_transition_parts trimmed isParts isHeader closes
  | action field _ isFields closes =>
      exact form_of_action_fields trimmed isFields closes
  | marker isKind =>
      exact .marker (StatementKind.text_of_marker isKind)
  | brace isKind =>
      exact .brace (StatementKind.text_of_brace isKind)

/-! Lines put together in a form are read. -/

theorem fields_keyword_gap
    (keyword : Keyword)
    {gap : Text}
    (allBlank : Text.AllBlank gap)
    (separates : gap ≠ [])
    (rest : Text) :
    Text.fields (keywordField keyword ++ (gap ++ rest)) =
      keywordField keyword :: Text.fields rest :=
  Text.fields_word_gap keyword.spelling_matches.noBlank keyword.spelling_matches.ne_nil
    allBlank separates rest

/-- The header of a transition is a part. -/
theorem exists_header
    {gap name : Text}
    (allBlank : Text.AllBlank gap)
    (separates : gap ≠ [])
    (noBlank : Text.NoBlank name)
    (nonempty : name ≠ [])
    (unmarked : TransitionParts.Unmarked name) :
    ∃ header : TransitionParts.Part,
      header.text = "transition".toList ++ (gap ++ name) := by
  have plain : TransitionParts.Unmarked "transition".toList :=
    ⟨by decide, by decide⟩
  have behind : TransitionParts.Unmarked (gap ++ name) := by
    simpa using unmarked.padded allBlank Text.allBlank_nil
  refine
    ⟨⟨"transition".toList ++ (gap ++ name),
      plain.append behind (TransitionParts.apart_of_blank_after _ ?_), ⟨?_, ?_⟩⟩, rfl⟩
  · rw [List.head?_append_of_ne_nil _ separates]
    exact fun next isNext => allBlank next (List.mem_of_mem_head? isNext)
  · intro first isFirst
    cases isFirst
    decide
  · rw [← List.append_assoc, List.getLast?_append_of_ne_nil _ nonempty]
    exact fun last isLast => noBlank last (List.mem_of_mem_getLast? isLast)

theorem reads_of_transition_form
    {gap name : Text}
    {behind : List TransitionParts.SeparatedPart}
    {last : TransitionParts.SeparatedPart}
    (closing : List TransitionParts.Separator)
    (allBlank : Text.AllBlank gap)
    (separates : gap ≠ [])
    (noBlank : Text.NoBlank name)
    (nonempty : name ≠ [])
    (unmarked : TransitionParts.Unmarked name)
    (more : behind ≠ [])
    (closes : last.part.text.getLast? = some '\x7b') :
    Reads
      ("transition".toList ++
        (gap ++
          (name ++
            (behind.flatMap TransitionParts.SeparatedPart.text ++
              (last.text ++ closing.flatMap TransitionParts.Separator.text)))))
      .transitionDeclaration := by
  obtain ⟨header, isHeader⟩ := exists_header allBlank separates noBlank nonempty unmarked
  have lastNonempty : last.part.text ≠ [] := by
    intro isEmpty
    simp [isEmpty] at closes
  have isWritten :
      "transition".toList ++
          (gap ++
            (name ++
              (behind.flatMap TransitionParts.SeparatedPart.text ++
                (last.text ++ closing.flatMap TransitionParts.Separator.text)))) =
        TransitionParts.written header
          (behind ++ last :: closing.map TransitionParts.Separator.alone) := by
    simp [TransitionParts.written, isHeader, List.flatMap_map,
      TransitionParts.Separator.text_alone]
  have isKind := (StatementKind.ofText_eq_transitionDeclaration_iff _).mpr
    (List.prefix_append "transition".toList
      (gap ++
        (name ++
          (behind.flatMap TransitionParts.SeparatedPart.text ++
            (last.text ++ closing.flatMap TransitionParts.Separator.text)))))
  rw [isWritten] at isKind ⊢
  have isSplit := TransitionParts.split_closed header behind last lastNonempty closing
  cases isParts :
      TransitionParts.ofText?
        (TransitionParts.written header
          (behind ++ last :: closing.map TransitionParts.Separator.alone)) with
  | none =>
      have tooFew := (TransitionParts.ofText?_eq_none_iff _).mp isParts
      have atLeastOne := List.length_pos_of_ne_nil more
      rw [isSplit] at tooFew
      simp [TransitionParts.texts] at tooFew
      omega
  | some parts =>
      have isLast := TransitionParts.getLast?_split isParts
      rw [isSplit, List.getLast?_concat, Option.some.injEq] at isLast
      rw [TransitionParts.split_of_ofText? isParts, TransitionParts.texts, List.cons_append,
        List.cons.injEq] at isSplit
      refine .transitionDeclaration parts name isKind isParts ?_ ?_
      · rw [isSplit.1, isHeader, ← Text.fields_of_word noBlank nonempty]
        exact fields_keyword_gap .transition allBlank separates name
      · rw [← isLast]
        simpa [Text.endsWithChar] using closes

theorem reads_of_form
    {line : Text}
    {shape : StatementShape}
    (form : Form line shape) :
    shape.Reads line := by
  cases form with
  | stateDeclaration gap name between blankGap noBlank nonempty blankBetween isBetween isLine =>
      have isKind := (StatementKind.ofText_eq_stateDeclaration_iff line).mpr ⟨_, isLine.symm⟩
      refine .stateDeclaration name isKind ?_
      have blankSpace : Text.AllBlank (' ' :: gap) :=
        List.forall_mem_cons.mpr ⟨by decide, blankGap⟩
      calc
        Text.fields line
          = Text.fields
              (keywordField .state ++ ((' ' :: gap) ++ (name ++ (between ++ ['\x7b'])))) := by
            rw [isLine]
            rfl
        _ = keywordField .state :: name :: Text.fields ['\x7b'] := by
            rw [fields_keyword_gap .state blankSpace (by simp),
              Text.fields_word_gap noBlank nonempty blankBetween isBetween]
        _ = [keywordField .state, name, ['\x7b']] := rfl
  | transitionDeclaration gap name behind last closing allBlank separates noBlank nonempty
      unmarked more closes isLine =>
      rw [isLine]
      exact reads_of_transition_form closing allBlank separates noBlank nonempty unmarked more
        closes
  | action gap field allBlank separates noBlank closes isLine =>
      have isKind := (StatementKind.ofText_eq_action_iff line).mpr ⟨_, isLine.symm⟩
      have nonempty : field ≠ [] := by
        rintro rfl
        cases closes
      refine .action field isKind ?_ (by simpa [Text.endsWithChar] using closes)
      rw [isLine, ← Text.fields_of_word noBlank nonempty]
      exact fields_keyword_gap .action allBlank separates field
  | marker isMarker =>
      rcases isMarker with rfl | rfl
      · exact .marker rfl
      · exact .marker rfl
  | brace isBrace =>
      rcases isBrace with rfl | rfl
      · exact .brace rfl
      · exact .brace rfl

theorem ofText_eq_ok_iff_form
    {line : Text}
    (trimmed : Text.Trimmed line)
    (shape : StatementShape) :
    ofText line = .ok shape ↔ Form line shape := by
  rw [ofText_eq_ok_iff_reads]
  exact ⟨form_of_reads trimmed, reads_of_form⟩

/--
The check of a line accepts exactly its grammar: a trimmed line has a shape if and
only if it is put together in the form of that shape, it is rejected if and only
if it has no form, and it never has two.
-/
theorem accepts_exactly_forms
    (line : Text)
    (trimmed : Text.trim line = line) :
    (∀ shape, ofText line = .ok shape ↔ Form line shape) ∧
      ((∃ rejection, ofText line = .error rejection) ↔ ∀ shape, ¬ Form line shape) ∧
        ∀ first second, Form line first → Form line second → first = second := by
  have accepts := ofText_eq_ok_iff_form (Text.trimmed_iff.mpr trimmed)
  refine ⟨accepts, ?_, ?_⟩
  · constructor
    · rintro ⟨rejection, isRejected⟩ shape form
      rw [← accepts, isRejected] at form
      cases form
    · intro noForm
      cases verdict : ofText line with
      | ok shape =>
          exact (noForm shape ((accepts shape).mp verdict)).elim
      | error rejection =>
          exact ⟨rejection, rfl⟩
  · intro first second isFirst isSecond
    rw [← accepts] at isFirst isSecond
    rw [isFirst] at isSecond
    exact Except.ok.inj isSecond

/-- A transition with an empty part, a dash before an arrow, and separators at its end. -/
theorem accepts_exactly_forms_of_odd_transition :
    Text.trim "transition t : -> x--> B\t\x7b : ->".toList =
        "transition t : -> x--> B\t\x7b : ->".toList ∧
      Form "transition t : -> x--> B\t\x7b : ->".toList .transitionDeclaration := by
  have trimmed :
      Text.trim "transition t : -> x--> B\t\x7b : ->".toList =
        "transition t : -> x--> B\t\x7b : ->".toList := by
    decide +kernel
  have accepted :
      ofText "transition t : -> x--> B\t\x7b : ->".toList = .ok .transitionDeclaration := by
    decide +kernel
  exact ⟨trimmed, ((accepts_exactly_forms _ trimmed).1 _).mp accepted⟩

end StatementShape

end Smsl
