import Smsl.Proofs.StatementGrammar

namespace Smsl

/-!
# Blanks between fields

Which blanks stand between the fields of a line, and how many, has no say in the
verdict on the line, but for one place: a state declaration is known by the space
behind its keyword, and by no other blank.
-/

namespace Text

/-! Fields of trimmed texts. -/

/-- A word and what begins with a blank share no field. -/
theorem fields_word_append
    {word rest : Text}
    (noBlank : NoBlank word)
    (begins : ∀ next ∈ rest.head?, isBlank next = true) :
    fields (word ++ rest) = fields word ++ fields rest := by
  by_cases empty : word = []
  · subst empty
    rfl
  · rw [fields_word_before noBlank empty begins, fields_of_word noBlank empty]
    rfl

section SameFields

variable {text other : Text}
variable (trimmed : Trimmed text)
variable (otherTrimmed : Trimmed other)
variable (same : fields text = fields other)

include trimmed otherTrimmed same

/-- The fields of a trimmed text decide how it ends. -/
theorem getLast?_of_fields :
    text.getLast? = other.getLast? := by
  induction isFields : fields text generalizing text other with
  | nil =>
      rw [trimmed.eq_nil_iff.mpr isFields, otherTrimmed.eq_nil_iff.mpr (same ▸ isFields)]
  | cons field more inductionHypothesis =>
      cases more with
      | nil =>
          rw [trimmed.eq_of_fields isFields, otherTrimmed.eq_of_fields (same ▸ isFields)]
      | cons next further =>
          obtain ⟨_, rest, _, _, rfl, restTrimmed, isRest⟩ := trimmed.exists_gap isFields
          obtain ⟨_, otherRest, _, _, rfl, otherRestTrimmed, isOtherRest⟩ :=
            otherTrimmed.exists_gap (same ▸ isFields)
          have nonempty : rest ≠ [] := by
            simp [restTrimmed.eq_nil_iff, isRest]
          have otherNonempty : otherRest ≠ [] := by
            simp [otherRestTrimmed.eq_nil_iff, isOtherRest]
          rw [← List.append_assoc, ← List.append_assoc,
            List.getLast?_append_of_ne_nil _ nonempty,
            List.getLast?_append_of_ne_nil _ otherNonempty]
          exact inductionHypothesis restTrimmed otherRestTrimmed
            (isRest.trans isOtherRest.symm) isRest

theorem endsWithChar_of_fields (character : Char) :
    endsWithChar character text = endsWithChar character other := by
  rw [endsWithChar, endsWithChar, getLast?_of_fields trimmed otherTrimmed same]

/-- The fields of a trimmed text decide which words it begins with. -/
theorem prefix_of_fields
    {word : Text}
    (noBlank : NoBlank word)
    (isPrefix : word <+: text) :
    word <+: other := by
  cases isFields : fields text with
  | nil =>
      rw [trimmed.eq_nil_iff.mpr isFields] at isPrefix
      rw [List.prefix_nil.mp isPrefix]
      exact List.nil_prefix
  | cons field more =>
      obtain ⟨rest, rfl, begins, _⟩ := trimmed.eq_append_of_fields isFields
      obtain ⟨otherRest, rfl, _, _⟩ := otherTrimmed.eq_append_of_fields (same ▸ isFields)
      refine List.IsPrefix.trans ?_ (List.prefix_append field otherRest)
      rcases List.prefix_or_prefix_of_prefix isPrefix (List.prefix_append field rest) with
        inField | ⟨beyond, rfl⟩
      · exact inField
      · -- A word that is longer than the field would hold the blank behind it.
        rw [List.prefix_append_right_inj] at isPrefix
        cases beyond with
        | nil =>
            simp
        | cons next further =>
            obtain ⟨after, rfl⟩ := isPrefix
            have visible := noBlank next (by simp)
            rw [begins next rfl] at visible
            cases visible

end SameFields

theorem startsWith_of_fields
    {text other word : Text}
    (trimmed : Trimmed text)
    (otherTrimmed : Trimmed other)
    (same : fields text = fields other)
    (noBlank : NoBlank word) :
    startsWith word text = startsWith word other := by
  rw [Bool.eq_iff_iff, startsWith, startsWith, List.isPrefixOf_iff_prefix,
    List.isPrefixOf_iff_prefix]
  exact
    ⟨prefix_of_fields trimmed otherTrimmed same noBlank,
      prefix_of_fields otherTrimmed trimmed same.symm noBlank⟩

end Text

/-! Fields of parts. -/

namespace TransitionParts

/-- The fields of each piece of a text. -/
def pieceFields (text : Text) : List (List Text) :=
  (pieces text).map Text.fields

theorem pieceFields_gap
    {gap : Text}
    (allBlank : Text.AllBlank gap)
    (text : Text) :
    pieceFields (gap ++ text) = pieceFields text := by
  obtain ⟨first, others, isPieces, _⟩ := pieces_begins text
  have blankLast : ∀ last ∈ gap.getLast?, Text.isBlank last = true :=
    fun last isLast => allBlank last (List.mem_of_mem_getLast? isLast)
  have apart := apart_of_blank_before blankLast text
  rw [pieceFields, pieces_unmarked_append (unmarked_of_allBlank allBlank) apart isPieces,
    pieceFields, isPieces, List.map_cons, Text.fields_gap allBlank, List.map_cons]

/-- A word without marks brings its fields to the first piece of what follows. -/
theorem pieceFields_unmarked
    {word rest : Text}
    (unmarked : Unmarked word)
    (noBlank : Text.NoBlank word)
    (begins : ∀ next ∈ rest.head?, Text.isBlank next = true) :
    pieceFields (word ++ rest) =
      (pieceFields rest).modifyHead (Text.fields word ++ ·) := by
  obtain ⟨first, others, isPieces, isPrefix⟩ := pieces_begins rest
  have firstBegins : ∀ next ∈ first.head?, Text.isBlank next = true := by
    intro next isNext
    obtain ⟨after, rfl⟩ := isPrefix
    exact begins next (by rw [List.head?_append, Option.mem_def.mp isNext]; rfl)
  have apart := apart_of_blank_after word begins
  rw [pieceFields, pieces_unmarked_append unmarked apart isPieces, pieceFields, isPieces,
    List.map_cons, Text.fields_word_append noBlank firstBegins]
  rfl

/-- Marks cut a word, and the last of its pieces meets the first of what follows. -/
theorem pieceFields_word
    {word rest other : Text}
    (noBlank : Text.NoBlank word)
    (begins : ∀ next ∈ rest.head?, Text.isBlank next = true)
    (otherBegins : ∀ next ∈ other.head?, Text.isBlank next = true)
    (same : pieceFields rest = pieceFields other) :
    pieceFields (word ++ rest) = pieceFields (word ++ other) := by
  obtain ⟨first, behind, unmarked, unmarkedBehind, rfl⟩ := exists_marks word
  -- By the marks in the word: only the piece behind the last one meets what follows.
  induction behind generalizing first with
  | nil =>
      rw [List.flatMap_nil, List.append_nil] at noBlank ⊢
      rw [pieceFields_unmarked unmarked noBlank begins,
        pieceFields_unmarked unmarked noBlank otherBegins, same]
  | cons marked more inductionHypothesis =>
      have unmarkedMore := List.forall_mem_cons.mp unmarkedBehind
      have noBlankMore :
          Text.NoBlank
            (marked.2 ++ more.flatMap fun marked => marked.1.text ++ marked.2) := by
        intro character member
        exact noBlank character (by simpa using .inr (.inr (by simpa using member)))
      have further := inductionHypothesis marked.2 unmarkedMore.1 unmarkedMore.2 noBlankMore
      simp only [pieceFields, List.flatMap_cons, List.append_assoc] at further ⊢
      rw [pieces_append_mark unmarked, pieces_append_mark unmarked, List.map_cons, further,
        List.map_cons]

/-- The fields of a text decide the fields of its pieces. -/
theorem pieceFields_of_fields
    {text other : Text}
    (same : Text.fields text = Text.fields other) :
    pieceFields text = pieceFields other := by
  induction isFields : Text.fields text generalizing text other with
  | nil =>
      have allBlank := Text.allBlank_of_fields_eq_nil isFields
      have otherBlank := Text.allBlank_of_fields_eq_nil (same ▸ isFields)
      rw [pieceFields, pieces_of_unmarked (unmarked_of_allBlank allBlank), pieceFields,
        pieces_of_unmarked (unmarked_of_allBlank otherBlank), List.map_singleton, same,
        List.map_singleton]
  | cons field more inductionHypothesis =>
      obtain ⟨noBlank, _⟩ := Text.mem_fields (isFields ▸ List.mem_cons_self)
      obtain ⟨gap, rest, allBlank, rfl, begins, isRest⟩ := Text.fields_eq_cons isFields
      obtain ⟨otherGap, otherRest, otherBlank, rfl, otherBegins, isOtherRest⟩ :=
        Text.fields_eq_cons (same ▸ isFields)
      rw [pieceFields_gap allBlank, pieceFields_gap otherBlank]
      exact pieceFields_word noBlank begins otherBegins
        (inductionHypothesis (isRest.trans isOtherRest.symm) isRest)

theorem map_fields_trimFollowing (pieces : List Text) :
    (trimFollowing pieces).map Text.fields = pieces.map Text.fields := by
  fun_induction trimFollowing pieces with
  | case1 =>
      rfl
  | case2 last =>
      simp [Text.fields_trimStart]
  | case3 piece next rest inductionHypothesis =>
      rw [List.map_cons, inductionHypothesis, Text.fields_trim]
      rfl

/-- Dropping the blanks next to separators keeps all fields. -/
theorem map_fields_trimJoints (pieces : List Text) :
    (trimJoints pieces).map Text.fields = pieces.map Text.fields := by
  fun_cases trimJoints pieces with
  | case1 =>
      rfl
  | case2 only =>
      rfl
  | case3 first next rest =>
      rw [List.map_cons, map_fields_trimFollowing, Text.fields_trimEnd]
      rfl

/-- The parts of a trimmed line are trimmed. -/
theorem trimmed_of_mem_trimJoints
    {line part : Text}
    (trimmed : Text.Trimmed line)
    (member : part ∈ trimJoints (pieces line)) :
    Text.Trimmed part := by
  obtain ⟨first, behind, rfl⟩ := exists_written trimmed
  rw [trimJoints_pieces_written] at member
  rcases List.mem_cons.mp member with rfl | later
  · exact first.trimmed
  · obtain ⟨separated, _, rfl⟩ := List.mem_map.mp later
    exact separated.part.trimmed

/-- A trimmed part is empty exactly if it has no fields. -/
theorem map_fields_dropTrailingEmpty
    {parts : List Text}
    (trimmed : ∀ part ∈ parts, Text.Trimmed part) :
    (dropTrailingEmpty parts).map Text.fields =
      (parts.map Text.fields).rdropWhile List.isEmpty := by
  induction parts using List.reverseRecOn with
  | nil =>
      rfl
  | append_singleton front last inductionHypothesis =>
      have lastTrimmed := trimmed last (by simp)
      have frontCut :=
        inductionHypothesis fun part member => trimmed part (List.mem_append_left _ member)
      have isCut :
          dropTrailingEmpty (front ++ [last]) =
            (front ++ [last]).rdropWhile List.isEmpty := rfl
      rw [isCut, List.map_append, List.map_singleton]
      by_cases empty : last = []
      · have noFields := lastTrimmed.eq_nil_iff.mp empty
        rw [List.rdropWhile_concat_pos _ _ _ (by simp [empty]),
          List.rdropWhile_concat_pos _ _ _ (by simp [noFields])]
        exact frontCut
      · have someFields : ¬ Text.fields last = [] := fun none =>
          empty (lastTrimmed.eq_nil_iff.mpr none)
        rw [List.rdropWhile_concat_neg _ _ _ (by simp [empty]),
          List.rdropWhile_concat_neg _ _ _ (by simp [someFields]),
          List.map_append, List.map_singleton]

theorem map_fields_split
    {line : Text}
    (trimmed : Text.Trimmed line) :
    (split line).map Text.fields = (pieceFields line).rdropWhile List.isEmpty := by
  have allTrimmed : ∀ part ∈ trimJoints (pieces line), Text.Trimmed part :=
    fun _ member => trimmed_of_mem_trimJoints trimmed member
  rw [split, map_fields_dropTrailingEmpty allTrimmed, map_fields_trimJoints, pieceFields]

theorem trimmed_of_mem_split
    {line part : Text}
    (trimmed : Text.Trimmed line)
    (member : part ∈ split line) :
    Text.Trimmed part := by
  have kept := dropTrailingEmpty_prefix (trimJoints (pieces line))
  exact trimmed_of_mem_trimJoints trimmed (kept.subset member)

end TransitionParts

/-! Verdicts. -/

/-- The fields and the text that opens a state declaration decide the kind of a line. -/
theorem StatementKind.ofText_of_fields
    {line other : Text}
    (trimmed : Text.Trimmed line)
    (otherTrimmed : Text.Trimmed other)
    (same : Text.fields line = Text.fields other)
    (sameOpening :
      Text.startsWith "state ".toList line = Text.startsWith "state ".toList other) :
    ofText line = ofText other := by
  have sameStart (word : Text) (noBlank : Text.NoBlank word) :
      Text.startsWith word line = Text.startsWith word other :=
    Text.startsWith_of_fields trimmed otherTrimmed same noBlank
  have sameWord (word : Text) (noBlank : Text.NoBlank word) (nonempty : word ≠ []) :
      line = word ↔ other = word := by
    rw [trimmed.eq_word_iff noBlank nonempty, otherTrimmed.eq_word_iff noBlank nonempty, same]
  unfold ofText
  simp only [sameOpening,
    sameStart "transition".toList (by decide),
    sameStart "action".toList (by decide),
    sameWord "start;".toList (by decide) (by decide),
    sameWord "end;".toList (by decide) (by decide),
    sameWord "\x7b".toList (by decide) (by decide),
    sameWord "\x7d".toList (by decide) (by decide)]

namespace StatementShape

/-- A transition is judged by the fields of its header and by how its last part ends. -/
theorem ofTransitionLine_of_fields
    {line other : Text}
    (trimmed : Text.Trimmed line)
    (otherTrimmed : Text.Trimmed other)
    (same : Text.fields line = Text.fields other) :
    ofTransitionLine line = ofTransitionLine other := by
  have sameParts :
      (TransitionParts.split line).map Text.fields =
        (TransitionParts.split other).map Text.fields := by
    rw [TransitionParts.map_fields_split trimmed,
      TransitionParts.map_fields_split otherTrimmed,
      TransitionParts.pieceFields_of_fields same]
  have sameNumber :
      (TransitionParts.split line).length = (TransitionParts.split other).length := by
    simpa using congrArg List.length sameParts
  cases isParts : TransitionParts.ofText? line with
  | none =>
      have isOther : TransitionParts.ofText? other = none := by
        rw [TransitionParts.ofText?_eq_none_iff, ← sameNumber,
          ← TransitionParts.ofText?_eq_none_iff]
        exact isParts
      rw [ofTransitionLine, isParts, ofTransitionLine, isOther]
  | some parts =>
      obtain ⟨otherParts, isOther⟩ :
          ∃ otherParts, TransitionParts.ofText? other = some otherParts := by
        rw [← Option.ne_none_iff_exists', ne_eq, TransitionParts.ofText?_eq_none_iff,
          ← sameNumber, ← TransitionParts.ofText?_eq_none_iff, isParts]
        simp
      have isLast := TransitionParts.getLast?_split isParts
      have isOtherLast := TransitionParts.getLast?_split isOther
      have sameLast : Text.fields parts.last = Text.fields otherParts.last := by
        have sameEnd := congrArg List.getLast? sameParts
        simpa [List.getLast?_map, isLast, isOtherLast] using sameEnd
      have lastTrimmed : Text.Trimmed parts.last :=
        TransitionParts.trimmed_of_mem_split trimmed (List.mem_of_getLast? isLast)
      have otherLastTrimmed : Text.Trimmed otherParts.last :=
        TransitionParts.trimmed_of_mem_split otherTrimmed (List.mem_of_getLast? isOtherLast)
      have sameHeader : Text.fields parts.header = Text.fields otherParts.header := by
        rw [TransitionParts.split_of_ofText? isParts, TransitionParts.split_of_ofText? isOther,
          List.map_cons, List.map_cons] at sameParts
        exact (List.cons.inj sameParts).1
      simp only [ofTransitionLine, isParts, isOther, sameHeader,
        Text.endsWithChar_of_fields lastTrimmed otherLastTrimmed sameLast]

/-- The fields and the text that opens a state declaration decide the verdict on a line. -/
theorem ofText_of_fields
    {line other : Text}
    (trimmed : Text.Trimmed line)
    (otherTrimmed : Text.Trimmed other)
    (same : Text.fields line = Text.fields other)
    (sameOpening :
      Text.startsWith "state ".toList line = Text.startsWith "state ".toList other) :
    ofText line = ofText other := by
  simp only [ofText, StatementKind.ofText_of_fields trimmed otherTrimmed same sameOpening,
    ofStateLine, ofActionLine, same, ofTransitionLine_of_fields trimmed otherTrimmed same]

/-- A line with the fields of a state declaration. -/
def HasStateFields (line : Text) : Prop :=
  ∃ name, Text.fields line = [keywordField .state, name, ['\x7b']]

/-- Only a state line is opened like a state declaration. -/
theorem fields_of_opening
    {line : Text}
    (opening : Text.startsWith "state ".toList line = true) :
    ∃ more, Text.fields line = keywordField .state :: more := by
  obtain ⟨rest, rfl⟩ := List.isPrefixOf_iff_prefix.mp opening
  exact ⟨Text.fields rest,
    fields_keyword_gap .state (Text.allBlank_singleton (by decide)) (by simp) rest⟩

/-- A state line has no kind unless a space follows its keyword. -/
theorem ofText_of_unopened
    {line : Text}
    {more : List Text}
    (trimmed : Text.Trimmed line)
    (isFields : Text.fields line = keywordField .state :: more)
    (unopened : Text.startsWith "state ".toList line = false) :
    ofText line = .error .noForm := by
  obtain ⟨rest, rfl, _, _⟩ := trimmed.eq_append_of_fields isFields
  have isKind : StatementKind.ofText (keywordField .state ++ rest) = .unrecognized := by
    unfold StatementKind.ofText
    rw [unopened]
    simp [keywordField, Keyword.spelling, Text.startsWith, List.isPrefixOf]
  simp [ofText, isKind]

theorem ofText_of_opened
    {line : Text}
    (opening : Text.startsWith "state ".toList line = true) :
    ofText line = ofStateLine line := by
  have isKind := (StatementKind.ofText_eq_stateDeclaration_iff line).mpr
    (List.isPrefixOf_iff_prefix.mp opening)
  simp [ofText, isKind]

/-- A line with the fields of a state declaration is one if a space follows its keyword. -/
theorem ofText_of_hasStateFields
    {line : Text}
    (trimmed : Text.Trimmed line)
    (hasStateFields : HasStateFields line) :
    ofText line =
      if Text.startsWith "state ".toList line then
        .ok .stateDeclaration
      else
        .error .noForm := by
  obtain ⟨name, isFields⟩ := hasStateFields
  split
  · rename_i opening
    simp [ofText_of_opened opening, ofStateLine, isFields]
  · rename_i unopened
    exact ofText_of_unopened trimmed isFields (by simpa using unopened)

/-- No other line whose first field is the keyword of states has a shape. -/
theorem ofText_ne_ok_of_state_keyword
    {line : Text}
    {more : List Text}
    (trimmed : Text.Trimmed line)
    (isFields : Text.fields line = keywordField .state :: more)
    (otherFields : ¬ HasStateFields line)
    (shape : StatementShape) :
    ofText line ≠ .ok shape := by
  intro accepted
  cases opening : Text.startsWith "state ".toList line with
  | false =>
      rw [ofText_of_unopened trimmed isFields opening] at accepted
      cases accepted
  | true =>
      have isKind := (StatementKind.ofText_eq_stateDeclaration_iff line).mpr
        (List.isPrefixOf_iff_prefix.mp opening)
      rw [ofText_of_opened opening] at accepted
      cases reads_of_ofStateLine isKind accepted with
      | stateDeclaration name _ isState =>
          exact otherFields ⟨name, isState⟩
      | transitionDeclaration _ _ notState | action _ notState | marker notState
      | brace notState =>
          simp [isKind] at notState

/--
Trimmed lines with the same fields are accepted alike, in the same shape, unless
the fields are those of a state declaration: such a line is accepted exactly if
a space stands directly behind its keyword.
-/
theorem accepted_alike_of_same_fields
    (line other : Text)
    (trimmed : Text.trim line = line)
    (otherTrimmed : Text.trim other = other)
    (same : Text.fields line = Text.fields other) :
    (¬ HasStateFields line → ∀ shape, ofText line = .ok shape ↔ ofText other = .ok shape) ∧
      (HasStateFields line →
        ∀ text ∈ [line, other],
          ofText text =
            if Text.startsWith "state ".toList text then
              .ok .stateDeclaration
            else
              .error .noForm) := by
  have isTrimmed := Text.trimmed_iff.mpr trimmed
  have isOtherTrimmed := Text.trimmed_iff.mpr otherTrimmed
  have sameForm : HasStateFields line ↔ HasStateFields other := by
    rw [HasStateFields, HasStateFields, same]
  refine ⟨?_, ?_⟩
  · intro otherFields shape
    by_cases keyword : ∃ more, Text.fields line = keywordField .state :: more
    · obtain ⟨more, isFields⟩ := keyword
      have rejected := ofText_ne_ok_of_state_keyword isTrimmed isFields otherFields shape
      have otherRejected := ofText_ne_ok_of_state_keyword isOtherTrimmed (same ▸ isFields)
        (sameForm.not.mp otherFields) shape
      exact iff_of_false rejected otherRejected
    · have unopened : Text.startsWith "state ".toList line = false :=
        Bool.eq_false_iff.mpr fun opening => keyword (fields_of_opening opening)
      have otherUnopened : Text.startsWith "state ".toList other = false :=
        Bool.eq_false_iff.mpr fun opening => keyword (same ▸ fields_of_opening opening)
      rw [ofText_of_fields isTrimmed isOtherTrimmed same
        (unopened.trans otherUnopened.symm)]
  · intro hasStateFields text member
    rcases List.mem_pair.mp member with rfl | rfl
    · exact ofText_of_hasStateFields isTrimmed hasStateFields
    · exact ofText_of_hasStateFields isOtherTrimmed (sameForm.mp hasStateFields)

/-- Tabs and wide spaces between the fields of a transition. -/
theorem accepted_alike_of_same_fields_of_wide_transition :
    Text.fields "transition t: e -> B \x7b".toList =
        Text.fields "transition\tt: \u3000e\u00a0->\t B\u2003\x7b".toList ∧
      ofText "transition\tt: \u3000e\u00a0->\t B\u2003\x7b".toList =
        .ok .transitionDeclaration := by
  have same :
      Text.fields "transition t: e -> B \x7b".toList =
        Text.fields "transition\tt: \u3000e\u00a0->\t B\u2003\x7b".toList := by
    decide +kernel
  have otherFields : ¬ HasStateFields "transition t: e -> B \x7b".toList := by
    rintro ⟨name, isFields⟩
    have sixFields : (Text.fields "transition t: e -> B \x7b".toList).length = 6 := by
      decide +kernel
    rw [isFields] at sixFields
    cases sixFields
  have alike := accepted_alike_of_same_fields "transition t: e -> B \x7b".toList
    "transition\tt: \u3000e\u00a0->\t B\u2003\x7b".toList (by decide +kernel)
    (by decide +kernel) same
  exact ⟨same, (alike.1 otherFields _).mp (by decide +kernel)⟩

/-- A tab behind the keyword of a state declaration: the same fields, but no shape. -/
theorem not_accepted_alike_of_tab_after_state :
    ¬ ∀ line other : Text,
        SourceLine.sanitize line = line →
        SourceLine.sanitize other = other →
        Text.fields line = Text.fields other →
        ∀ shape, ofText line = .ok shape ↔ ofText other = .ok shape := by
  intro alike
  have accepted : ofText "state A \x7b".toList = .ok .stateDeclaration := by
    decide +kernel
  have rejected : ofText "state\tA \x7b".toList = .error .noForm := by
    decide +kernel
  have otherwise :=
    (alike "state A \x7b".toList "state\tA \x7b".toList (by decide +kernel)
      (by decide +kernel) (by decide +kernel) .stateDeclaration).mp accepted
  rw [rejected] at otherwise
  cases otherwise

end StatementShape

end Smsl
