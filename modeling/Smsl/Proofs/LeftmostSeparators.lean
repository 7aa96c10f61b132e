import Smsl.Proofs.FieldSpacing

namespace Smsl

/-!
# Separators found from the left

A line is split by searching it from the left for a mark with all the blanks around
it, and going on behind them.  The parts between such separators are those of the
one way to write the line, so that splitting is a faithful decomposition: it loses
marks and blanks, and empty parts at the end.
-/

/-- Trimming only takes blanks off the start of a text. -/
theorem Text.trimStart_append (text : Text) :
    ∃ gap, AllBlank gap ∧ gap ++ trimStart text = text :=
  ⟨text.takeWhile isBlank, fun _ member => List.mem_takeWhile_imp member,
    List.takeWhile_append_dropWhile⟩

/-- Blanks come off the end of a text behind its first character, unless there is nothing else. -/
theorem Text.trimEnd_cons
    {first : Char}
    {rest : Text}
    (visible : ¬ AllBlank (first :: rest)) :
    trimEnd (first :: rest) = first :: trimEnd rest := by
  rw [trimEnd, trimEnd, List.reverse_cons, List.dropWhile_append]
  split
  case isTrue nothing =>
      have blankRest : AllBlank rest := by
        intro character member
        have dropped := List.dropWhile_eq_nil_iff.mp (List.isEmpty_iff.mp nothing)
        exact dropped character (List.mem_reverse.mpr member)
      have visibleFirst : isBlank first = false := by
        by_contra blank
        exact visible (List.forall_mem_cons.mpr ⟨by simpa using blank, blankRest⟩)
      simp [visibleFirst, List.isEmpty_iff.mp nothing]
  case isFalse something =>
      simp

namespace TransitionParts

/-- What is left of a text that begins with a separator: blanks, a mark, and blanks. -/
def behindSeparator? (text : Text) : Option Text :=
  match Text.trimStart text with
  | ':' :: rest =>
      some (Text.trimStart rest)
  | '-' :: '>' :: rest =>
      some (Text.trimStart rest)
  | _ =>
      none

theorem behindSeparator?_eq_some_iff
    {text rest : Text} :
    behindSeparator? text = some rest ↔
      ∃ (gap : Text) (mark : Mark) (tail : Text),
        Text.AllBlank gap ∧ text = gap ++ (mark.text ++ tail) ∧ rest = Text.trimStart tail := by
  constructor
  · intro isBehind
    obtain ⟨gap, allBlank, whole⟩ := Text.trimStart_append text
    unfold behindSeparator? at isBehind
    split at isBehind
    case h_1 tail shape =>
        rw [shape] at whole
        exact ⟨gap, .colon, tail, allBlank, whole.symm, (Option.some.inj isBehind).symm⟩
    case h_2 tail shape =>
        rw [shape] at whole
        exact ⟨gap, .arrow, tail, allBlank, whole.symm, (Option.some.inj isBehind).symm⟩
    case h_3 =>
        cases isBehind
  · rintro ⟨gap, mark, tail, allBlank, rfl, rfl⟩
    rw [behindSeparator?, Text.trimStart_gap allBlank]
    cases mark <;> rfl

theorem length_behindSeparator?_lt
    {text rest : Text}
    (isBehind : behindSeparator? text = some rest) :
    rest.length < text.length := by
  obtain ⟨gap, mark, tail, _, rfl, rfl⟩ := behindSeparator?_eq_some_iff.mp isBehind
  have shorter : (Text.trimStart tail).length ≤ tail.length :=
    (List.dropWhile_suffix _).length_le
  cases mark <;> simp [Mark.text] <;> omega

/-- The parts between separators, the separators found one after the other from the left. -/
def betweenSeparators (text : Text) : List Text :=
  match _ : behindSeparator? text with
  | some rest =>
      [] :: betweenSeparators rest
  | none =>
      match text with
      | [] =>
          [[]]
      | character :: rest =>
          Text.consFirst character (betweenSeparators rest)
termination_by text.length
decreasing_by
  · exact length_behindSeparator?_lt (by assumption)
  · simp

/-- Blanks behind a mark belong to the separator. -/
theorem trimFollowing_pieces (text : Text) :
    trimFollowing (pieces text) = trimJoints (pieces (Text.trimStart text)) := by
  obtain ⟨gap, allBlank, whole⟩ := Text.trimStart_append text
  obtain ⟨first, others, isPieces, leading⟩ := pieces_begins (Text.trimStart text)
  have begins : Text.trimStart first = first := by
    apply Text.trimStart_of_begins
    intro character isFirst
    obtain ⟨rest, rfl⟩ := List.head?_eq_some_iff.mp isFirst
    obtain ⟨further, shape⟩ := leading
    exact Text.trimStart_begins shape.symm
  have isWhole : pieces text = (gap ++ first) :: others := by
    rw [← whole]
    refine pieces_unmarked_append (unmarked_of_allBlank allBlank) ?_ isPieces
    exact apart_of_blank_before
      (fun last isLast => allBlank last (List.mem_of_mem_getLast? isLast)) _
  rw [isWhole, isPieces]
  cases others with
  | nil =>
      simp [trimFollowing, trimJoints, Text.trimStart_gap allBlank, begins]
  | cons next more =>
      simp [trimFollowing, trimJoints, Text.trim, Text.trimStart_gap allBlank, begins]

theorem trimJoints_cons
    (piece : Text)
    {others : List Text}
    (more : others ≠ []) :
    trimJoints (piece :: others) = Text.trimEnd piece :: trimFollowing others := by
  cases others with
  | nil =>
      exact (more rfl).elim
  | cons next rest =>
      rfl

/-- Behind the first of several pieces comes a mark. -/
theorem exists_mark_of_pieces
    {text first next : Text}
    {others : List Text}
    (isPieces : pieces text = first :: next :: others) :
    ∃ (mark : Mark) (tail : Text), text = first ++ (mark.text ++ tail) := by
  obtain ⟨leading, behind, unmarked, _, whole⟩ := exists_marks text
  cases behind with
  | nil =>
      rw [List.flatMap_nil, List.append_nil] at whole
      rw [whole, pieces_of_unmarked unmarked] at isPieces
      cases isPieces
  | cons marked more =>
      rw [List.flatMap_cons, List.append_assoc] at whole
      rw [whole, pieces_append_mark unmarked] at isPieces
      obtain ⟨rfl, _⟩ := List.cons.inj isPieces
      exact ⟨_, _, whole⟩

/-- A character at which no separator begins stays in the first part. -/
theorem trimJoints_pieces_cons
    {character : Char}
    {rest : Text}
    (noSeparator : behindSeparator? (character :: rest) = none) :
    trimJoints (pieces (character :: rest)) =
      Text.consFirst character (trimJoints (pieces rest)) := by
  have noneBegins :
      ∀ (gap : Text) (mark : Mark) (tail : Text), Text.AllBlank gap →
        character :: rest ≠ gap ++ (mark.text ++ tail) := by
    intro gap mark tail allBlank shape
    have found := behindSeparator?_eq_some_iff.mpr ⟨gap, mark, tail, allBlank, shape, rfl⟩
    rw [noSeparator] at found
    cases found
  have isPieces : pieces (character :: rest) = Text.consFirst character (pieces rest) := by
    apply pieces_of_opens_none
    · rintro rfl
      exact noneBegins [] .colon rest Text.allBlank_nil rfl
    · rintro ⟨rfl, isNext⟩
      obtain ⟨further, rfl⟩ := List.head?_eq_some_iff.mp isNext
      exact noneBegins [] .arrow further Text.allBlank_nil rfl
  obtain ⟨first, others, isRest, _⟩ := pieces_begins rest
  rw [isPieces, isRest]
  cases others with
  | nil =>
      rfl
  | cons next more =>
      have visible : ¬ Text.AllBlank (character :: first) := by
        intro allBlank
        obtain ⟨mark, tail, shape⟩ := exists_mark_of_pieces isRest
        exact noneBegins (character :: first) mark tail allBlank (by rw [shape]; rfl)
      simp [Text.consFirst, trimJoints, Text.trimEnd_cons visible]

/-- Trimming the pieces of a text at their joints gives the parts between its separators. -/
theorem trimJoints_pieces_eq_between (text : Text) :
    trimJoints (pieces text) = betweenSeparators text := by
  fun_induction betweenSeparators text with
  | case1 text rest isBehind inductionHypothesis =>
      obtain ⟨gap, mark, tail, allBlank, rfl, rfl⟩ := behindSeparator?_eq_some_iff.mp isBehind
      have nothing : Text.trimEnd gap = [] := Text.trimEnd_gap allBlank []
      rw [pieces_append_mark (unmarked_of_allBlank allBlank),
        trimJoints_cons gap (pieces_ne_nil tail), nothing, trimFollowing_pieces,
        inductionHypothesis]
  | case2 noSeparator =>
      rfl
  | case3 character rest noSeparator inductionHypothesis =>
      rw [trimJoints_pieces_cons noSeparator, inductionHypothesis]

/-! The number of parts. -/

/-- The number of marks in a text, each searched behind the one before. -/
def markCount : Text → Nat
  | [] =>
      0
  | ':' :: rest =>
      markCount rest + 1
  | '-' :: '>' :: rest =>
      markCount rest + 1
  | _ :: rest =>
      markCount rest

theorem length_pieces (text : Text) :
    (pieces text).length = markCount text + 1 := by
  fun_induction pieces text with
  | case1 =>
      rfl
  | case2 rest inductionHypothesis | case3 rest inductionHypothesis =>
      rw [List.length_cons, inductionHypothesis, markCount]
  | case4 character rest notColon notArrow inductionHypothesis =>
      obtain ⟨first, others, isPieces, _⟩ := pieces_begins rest
      rw [markCount, ← inductionHypothesis, isPieces]
      · rfl
      · exact notColon
      · exact notArrow

theorem length_trimFollowing (parts : List Text) :
    (trimFollowing parts).length = parts.length := by
  fun_induction trimFollowing parts with
  | case1 | case2 =>
      rfl
  | case3 piece next rest inductionHypothesis =>
      simp [inductionHypothesis]

theorem length_trimJoints (parts : List Text) :
    (trimJoints parts).length = parts.length := by
  unfold trimJoints
  split
  · rfl
  · rfl
  · simp [length_trimFollowing]

/-! What is kept of the parts. -/

/-- The parts up to the last one that is not empty, or none if all are. -/
structure UpToLastNonempty
    (parts kept : List Text) :
    Prop where
  rest :
    ∃ dropped, parts = kept ++ dropped ∧ ∀ part ∈ dropped, part = []
  ends :
    ∀ last ∈ kept.getLast?, last ≠ []

theorem upToLastNonempty_dropTrailingEmpty (parts : List Text) :
    UpToLastNonempty parts (dropTrailingEmpty parts) := by
  refine ⟨dropTrailingEmpty_append parts, ?_⟩
  intro last isLast isEmpty
  have kept := List.head?_dropWhile_not List.isEmpty parts.reverse
  rw [dropTrailingEmpty, List.getLast?_reverse] at isLast
  rw [Option.mem_def.mp isLast, isEmpty] at kept
  cases kept

/-- A line is put together from some parts, and splits into them. -/
structure SplitsInto
    (line : Text)
    (parts : List Text) :
    Prop where
  exists_written :
    ∃ first behind, line = written first behind ∧ texts first behind = parts
  unique :
    ∀ first behind, line = written first behind → texts first behind = parts
  count :
    parts.length = markCount line + 1
  leftmost :
    betweenSeparators line = parts
  kept :
    UpToLastNonempty parts (split line)
  event :
    ∀ transition, ofText? line = some transition →
      transition.event = transition.eventPart
  target :
    ∀ transition, ofText? line = some transition →
      Text.trim transition.targetPart = transition.targetPart

/--
A line without comment and surrounding blanks is put together in one way from
parts, with a separator in front of each further one, and there is one such
separator for each mark in the line.  Searching for separators from the left finds
these parts, and splitting keeps them up to the last one that is not empty; what it
keeps needs no trimming.
-/
theorem sanitized_line_splits_into_parts (raw : Text) :
    ∃ parts, SplitsInto (SourceLine.sanitize raw) parts := by
  have trimmed : Text.Trimmed (SourceLine.sanitize raw) :=
    Text.trimmed_trim (SourceLine.beforeComment raw)
  generalize SourceLine.sanitize raw = line at trimmed ⊢
  obtain ⟨first, behind, rfl⟩ := exists_written trimmed
  have isTexts := trimJoints_pieces_written first behind
  have keptTrimmed :
      ∀ transition, ofText? (written first behind) = some transition →
        ∀ part ∈ [transition.eventPart, transition.targetPart], Text.trim part = part := by
    intro transition isTransition part member
    apply Text.trimmed_iff.mp
    apply trimmed_of_mem_split trimmed
    rw [split_of_ofText? isTransition]
    simp only [List.mem_cons, List.not_mem_nil, or_false] at member
    rcases member with rfl | rfl <;> simp
  refine ⟨texts first behind, ⟨first, behind, rfl, rfl⟩, ?_, ?_, ?_, ?_, ?_, ?_⟩
  · intro other others same
    rw [← isTexts, same, trimJoints_pieces_written]
  · rw [← isTexts, length_trimJoints, length_pieces]
  · rw [← trimJoints_pieces_eq_between, isTexts]
  · rw [split_written]
    exact upToLastNonempty_dropTrailingEmpty _
  · intro transition isTransition
    exact keptTrimmed transition isTransition _ (by simp)
  · intro transition isTransition
    exact keptTrimmed transition isTransition _ (by simp)

end TransitionParts

end Smsl
