import Mathlib.Data.List.Infix
import Smsl.Proofs.AcceptedTokens

namespace Smsl

/-!
# Parts behind separators

A line that neither begins nor ends with a blank is a part with further parts
behind it, each after a separator: a mark with the blanks around it.  There is
one such way to read a line, and splitting the line finds it.
-/

namespace TransitionParts

/-- What stands between two parts. -/
inductive Mark where
  | colon
  | arrow
  deriving Repr, DecidableEq

/-- How a mark is written. -/
def Mark.text : Mark → Text
  | .colon => [':']
  | .arrow => ['-', '>']

/-- A text in which no mark occurs. -/
structure Unmarked (text : Text) : Prop where
  noColon : ':' ∉ text
  noArrow : ¬ ['-', '>'] <:+: text

/-- A mark with the blanks on both sides of it. -/
structure Separator where
  before : Text
  mark : Mark
  after : Text
  blankBefore : Text.AllBlank before
  blankAfter : Text.AllBlank after

def Separator.text (separator : Separator) : Text :=
  separator.before ++ (separator.mark.text ++ separator.after)

/-- A part of a line: no mark is in it and no blank at either end; it may be empty. -/
structure Part where
  text : Text
  unmarked : Unmarked text
  trimmed : Text.Trimmed text

/-- A part with the separator in front of it. -/
structure SeparatedPart where
  separator : Separator
  part : Part

def SeparatedPart.text (separated : SeparatedPart) : Text :=
  separated.separator.text ++ separated.part.text

/-- A first part and all parts behind it, as one text. -/
def written
    (first : Part)
    (behind : List SeparatedPart) :
    Text :=
  first.text ++ behind.flatMap SeparatedPart.text

/-- The texts of a first part and of all parts behind it. -/
def texts
    (first : Part)
    (behind : List SeparatedPart) :
    List Text :=
  first.text :: behind.map fun separated => separated.part.text

theorem written_cons
    (first : Part)
    (separated : SeparatedPart)
    (behind : List SeparatedPart) :
    written first (separated :: behind) =
      first.text ++ (separated.separator.text ++ written separated.part behind) := by
  simp [written, SeparatedPart.text]

/-! Texts without marks. -/

theorem unmarked_nil : Unmarked [] :=
  ⟨by simp, by simp⟩

theorem unmarked_cons_iff
    {character : Char}
    {rest : Text} :
    Unmarked (character :: rest) ↔
      character ≠ ':' ∧ ¬ (character = '-' ∧ rest.head? = some '>') ∧ Unmarked rest := by
  have arrowFirst :
      ['-', '>'] <+: character :: rest ↔ character = '-' ∧ rest.head? = some '>' := by
    rw [List.cons_prefix_cons, List.head?_eq_some_iff, eq_comm]
    refine and_congr_right fun _ => ?_
    exact ⟨fun ⟨further, shape⟩ => ⟨further, shape.symm⟩,
      fun ⟨further, shape⟩ => ⟨further, shape.symm⟩⟩
  constructor
  · rintro ⟨noColon, noArrow⟩
    rw [List.infix_cons_iff, not_or, arrowFirst] at noArrow
    rw [List.mem_cons, not_or] at noColon
    exact ⟨Ne.symm noColon.1, noArrow.1, noColon.2, noArrow.2⟩
  · rintro ⟨notColon, notArrow, unmarked⟩
    refine ⟨?_, ?_⟩
    · rw [List.mem_cons, not_or]
      exact ⟨Ne.symm notColon, unmarked.noColon⟩
    · rw [List.infix_cons_iff, not_or, arrowFirst]
      exact ⟨notArrow, unmarked.noArrow⟩

theorem Unmarked.of_infix
    {inner text : Text}
    (unmarked : Unmarked text)
    (isInfix : inner <:+: text) :
    Unmarked inner :=
  ⟨fun member => unmarked.noColon (isInfix.subset member),
    fun arrow => unmarked.noArrow (arrow.trans isInfix)⟩

theorem unmarked_of_allBlank
    {gap : Text}
    (allBlank : Text.AllBlank gap) :
    Unmarked gap := by
  refine ⟨?_, ?_⟩
  · intro member
    exact absurd (allBlank _ member) (by decide)
  · intro arrow
    exact absurd (allBlank '-' (arrow.subset (by simp))) (by decide)

/-- No arrow arises where two texts meet. -/
def Apart
    (first second : Text) :
    Prop :=
  ¬ (first.getLast? = some '-' ∧ second.head? = some '>')

theorem apart_of_blank_before
    {first : Text}
    (blank : ∀ last ∈ first.getLast?, Text.isBlank last = true)
    (second : Text) :
    Apart first second := by
  rintro ⟨isLast, _⟩
  exact absurd (blank '-' isLast) (by decide)

theorem apart_of_blank_after
    (first : Text)
    {second : Text}
    (blank : ∀ next ∈ second.head?, Text.isBlank next = true) :
    Apart first second := by
  rintro ⟨_, isNext⟩
  exact absurd (blank '>' isNext) (by decide)

theorem Apart.tail
    {character : Char}
    {rest second : Text}
    (apart : Apart (character :: rest) second) :
    Apart rest second := by
  rintro ⟨isLast, isNext⟩
  cases rest with
  | nil =>
      cases isLast
  | cons next further =>
      exact apart ⟨isLast, isNext⟩

theorem Apart.opens_no_arrow
    {character : Char}
    {rest second : Text}
    (apart : Apart (character :: rest) second)
    (notArrow : ¬ (character = '-' ∧ rest.head? = some '>')) :
    ¬ (character = '-' ∧ (rest ++ second).head? = some '>') := by
  rintro ⟨rfl, isNext⟩
  cases rest with
  | nil =>
      exact apart ⟨rfl, isNext⟩
  | cons next further =>
      exact notArrow ⟨rfl, isNext⟩

theorem Unmarked.append
    {first second : Text}
    (unmarked : Unmarked first)
    (unmarkedToo : Unmarked second)
    (apart : Apart first second) :
    Unmarked (first ++ second) := by
  induction first with
  | nil =>
      exact unmarkedToo
  | cons character rest inductionHypothesis =>
      obtain ⟨notColon, notArrow, unmarkedRest⟩ := unmarked_cons_iff.mp unmarked
      exact unmarked_cons_iff.mpr
        ⟨notColon, apart.opens_no_arrow notArrow,
          inductionHypothesis unmarkedRest apart.tail⟩

/-- Blanks around a text bring no mark. -/
theorem Unmarked.padded
    {before text after : Text}
    (unmarked : Unmarked text)
    (blankBefore : Text.AllBlank before)
    (blankAfter : Text.AllBlank after) :
    Unmarked (before ++ (text ++ after)) := by
  have behind : Unmarked (text ++ after) :=
    unmarked.append (unmarked_of_allBlank blankAfter)
      (apart_of_blank_after _ fun next isNext =>
        blankAfter next (List.mem_of_mem_head? isNext))
  exact (unmarked_of_allBlank blankBefore).append behind
    (apart_of_blank_before (fun last isLast =>
      blankBefore last (List.mem_of_mem_getLast? isLast)) _)

/-! Pieces between marks. -/

/-- A character that opens no mark belongs to the first piece. -/
theorem pieces_of_opens_none
    {character : Char}
    {rest : Text}
    (notColon : character ≠ ':')
    (notArrow : ¬ (character = '-' ∧ rest.head? = some '>')) :
    pieces (character :: rest) = Text.consFirst character (pieces rest) := by
  rw [pieces]
  · exact notColon
  · rintro further rfl rfl
    exact notArrow ⟨rfl, rfl⟩

/-- A text without marks goes to the first piece of what it is put in front of. -/
theorem pieces_unmarked_append
    {piece text first : Text}
    {others : List Text}
    (unmarked : Unmarked piece)
    (apart : Apart piece text)
    (isPieces : pieces text = first :: others) :
    pieces (piece ++ text) = (piece ++ first) :: others := by
  induction piece with
  | nil =>
      exact isPieces
  | cons character rest inductionHypothesis =>
      obtain ⟨notColon, notArrow, unmarkedRest⟩ := unmarked_cons_iff.mp unmarked
      rw [List.cons_append,
        pieces_of_opens_none notColon (apart.opens_no_arrow notArrow),
        inductionHypothesis unmarkedRest apart.tail]
      rfl

theorem pieces_of_unmarked
    {text : Text}
    (unmarked : Unmarked text) :
    pieces text = [text] := by
  have isPieces : pieces (text ++ []) = [text ++ []] :=
    pieces_unmarked_append unmarked (by simp [Apart]) rfl
  simpa using isPieces

/-- A mark ends a piece. -/
theorem pieces_append_mark
    {piece : Text}
    (unmarked : Unmarked piece)
    (mark : Mark)
    (rest : Text) :
    pieces (piece ++ (mark.text ++ rest)) = piece :: pieces rest := by
  have apart : Apart piece (mark.text ++ rest) := by
    cases mark <;> simp [Apart, Mark.text]
  have isPieces : pieces (mark.text ++ rest) = [] :: pieces rest := by
    cases mark <;> simp [Mark.text, pieces]
  rw [pieces_unmarked_append unmarked apart isPieces, List.append_nil]

/-- Every text is a piece with further pieces behind it, each after a mark. -/
theorem exists_marks (text : Text) :
    ∃ (first : Text) (behind : List (Mark × Text)),
      Unmarked first ∧
        (∀ marked ∈ behind, Unmarked marked.2) ∧
          text = first ++ behind.flatMap (fun marked => marked.1.text ++ marked.2) := by
  -- The cases are those of the cut into pieces: a mark opens a new piece.
  fun_induction pieces text with
  | case1 =>
      exact ⟨[], [], unmarked_nil, by simp, rfl⟩
  | case2 rest inductionHypothesis =>
      obtain ⟨first, behind, unmarked, unmarkedBehind, rfl⟩ := inductionHypothesis
      refine ⟨[], (.colon, first) :: behind, unmarked_nil, ?_, by simp [Mark.text]⟩
      exact List.forall_mem_cons.mpr ⟨unmarked, unmarkedBehind⟩
  | case3 rest inductionHypothesis =>
      obtain ⟨first, behind, unmarked, unmarkedBehind, rfl⟩ := inductionHypothesis
      refine ⟨[], (.arrow, first) :: behind, unmarked_nil, ?_, by simp [Mark.text]⟩
      exact List.forall_mem_cons.mpr ⟨unmarked, unmarkedBehind⟩
  | case4 character rest notColon notArrow inductionHypothesis =>
      obtain ⟨first, behind, unmarked, unmarkedBehind, whole⟩ := inductionHypothesis
      refine ⟨character :: first, behind, ?_, unmarkedBehind, by rw [List.cons_append, ← whole]⟩
      refine unmarked_cons_iff.mpr ⟨fun isColon => notColon isColon, ?_, unmarked⟩
      rintro ⟨rfl, isNext⟩
      obtain ⟨further, rfl⟩ := List.head?_eq_some_iff.mp isNext
      exact notArrow _ rfl whole

/-! Parts read off a written line. -/

theorem trimFollowing_cons
    (piece : Text)
    {others : List Text}
    (more : others ≠ []) :
    trimFollowing (piece :: others) = Text.trim piece :: trimFollowing others := by
  cases others with
  | nil =>
      exact (more rfl).elim
  | cons next rest =>
      rfl

theorem pieces_ne_nil (text : Text) :
    pieces text ≠ [] := by
  obtain ⟨first, others, isPieces, _⟩ := pieces_begins text
  simp [isPieces]

/-- The pieces of a written line, after any blanks: the first reaches to the first mark. -/
theorem pieces_written_cons
    {gap : Text}
    (allBlank : Text.AllBlank gap)
    (first : Part)
    (separated : SeparatedPart)
    (behind : List SeparatedPart) :
    pieces (gap ++ written first (separated :: behind)) =
      (gap ++ (first.text ++ separated.separator.before)) ::
        pieces (separated.separator.after ++ written separated.part behind) := by
  have unmarked := first.unmarked.padded allBlank separated.separator.blankBefore
  rw [← pieces_append_mark unmarked separated.separator.mark, written_cons, Separator.text]
  simp only [List.append_assoc]

theorem trimFollowing_pieces_written
    {gap : Text}
    (allBlank : Text.AllBlank gap)
    (first : Part)
    (behind : List SeparatedPart) :
    trimFollowing (pieces (gap ++ written first behind)) = texts first behind := by
  induction behind generalizing gap first with
  | nil =>
      have unmarked : Unmarked (gap ++ first.text) := by
        simpa using first.unmarked.padded allBlank Text.allBlank_nil
      simp only [written, List.flatMap_nil, List.append_nil, pieces_of_unmarked unmarked,
        trimFollowing, Text.trimStart_gap allBlank,
        Text.trimStart_of_begins first.trimmed.begins]
      rfl
  | cons separated further inductionHypothesis =>
      rw [pieces_written_cons allBlank, trimFollowing_cons _ (pieces_ne_nil _),
        inductionHypothesis separated.separator.blankAfter,
        Text.trim_of_padded allBlank separated.separator.blankBefore first.trimmed.begins
          first.trimmed.ends]
      rfl

/-- Splitting a written line at its separators gives back its parts. -/
theorem trimJoints_pieces_written
    (first : Part)
    (behind : List SeparatedPart) :
    trimJoints (pieces (written first behind)) = texts first behind := by
  cases behind with
  | nil =>
      simp only [written, List.flatMap_nil, List.append_nil,
        pieces_of_unmarked first.unmarked, trimJoints]
      rfl
  | cons separated further =>
      have following :=
        trimFollowing_pieces_written separated.separator.blankAfter separated.part further
      have isPieces := pieces_written_cons Text.allBlank_nil first separated further
      rw [List.nil_append, List.nil_append] at isPieces
      obtain ⟨next, others, isFurther⟩ := List.exists_cons_of_ne_nil
        (pieces_ne_nil (separated.separator.after ++ written separated.part further))
      rw [isFurther] at following isPieces
      rw [isPieces, trimJoints, following,
        Text.trimEnd_gap separated.separator.blankBefore,
        Text.trimEnd_of_ends first.trimmed.ends]
      rfl

/-! Every line is written. -/

/-- The pieces behind a mark are written as parts, after the blanks behind the mark. -/
theorem exists_written_following
    {first : Text}
    {behind : List (Mark × Text)}
    (unmarked : Unmarked first)
    (unmarkedBehind : ∀ marked ∈ behind, Unmarked marked.2)
    (ends :
      ∀ last ∈ (first ++
          behind.flatMap fun marked => marked.1.text ++ marked.2).getLast?,
        Text.isBlank last = false) :
    ∃ (gap : Text) (part : Part) (further : List SeparatedPart),
      Text.AllBlank gap ∧
        first ++ behind.flatMap (fun marked => marked.1.text ++ marked.2) =
          gap ++ written part further := by
  induction behind generalizing first with
  | nil =>
      rw [List.flatMap_nil, List.append_nil] at ends ⊢
      have whole : first.takeWhile Text.isBlank ++ Text.trimStart first = first :=
        List.takeWhile_append_dropWhile
      refine
        ⟨first.takeWhile Text.isBlank,
          { text := Text.trimStart first
            unmarked := unmarked.of_infix (List.dropWhile_suffix _).isInfix
            trimmed := ⟨?_, ?_⟩ },
          [], ?_, ?_⟩
      · intro character isFirst
        obtain ⟨rest, shape⟩ := List.head?_eq_some_iff.mp isFirst
        exact Text.trimStart_begins shape
      · rw [← whole] at ends
        exact Text.ends_of_append _ ends
      · intro character member
        exact List.mem_takeWhile_imp member
      · simp [written, whole]
  | cons marked more inductionHypothesis =>
      obtain ⟨mark, second⟩ := marked
      have endsLater :
          ∀ last ∈ (second ++
              more.flatMap fun marked => marked.1.text ++ marked.2).getLast?,
            Text.isBlank last = false := by
        refine Text.ends_of_append (first ++ mark.text) ?_
        simpa using ends
      obtain ⟨gap, part, further, allBlank, isFurther⟩ :=
        inductionHypothesis (unmarkedBehind (mark, second) (by simp))
          (fun marked member => unmarkedBehind marked (by simp [member])) endsLater
      obtain ⟨before, after, blankBefore, blankAfter, whole⟩ := Text.exists_gaps first
      have isInner : Text.trim first <:+: first :=
        ⟨before, after, by rw [List.append_assoc, whole]⟩
      refine
        ⟨before,
          { text := Text.trim first
            unmarked := unmarked.of_infix isInner
            trimmed := Text.trimmed_trim first },
          { separator :=
              { before := after, mark := mark, after := gap
                blankBefore := blankAfter, blankAfter := allBlank }
            part := part } :: further,
          blankBefore, ?_⟩
      rw [written_cons, Separator.text]
      simp only [List.flatMap_cons, List.append_assoc] at isFurther ⊢
      rw [← isFurther]
      nth_rewrite 1 [← whole]
      simp only [List.append_assoc]

/-- A line that neither begins nor ends with a blank is written as parts. -/
theorem exists_written
    {line : Text}
    (trimmed : Text.Trimmed line) :
    ∃ (first : Part) (behind : List SeparatedPart), line = written first behind := by
  obtain ⟨first, behind, unmarked, unmarkedBehind, whole⟩ := exists_marks line
  have ends := trimmed.ends
  rw [whole] at ends
  obtain ⟨gap, part, further, allBlank, isWritten⟩ :=
    exists_written_following unmarked unmarkedBehind ends
  rw [isWritten] at whole
  cases gap with
  | nil =>
      exact ⟨part, further, whole⟩
  | cons blank rest =>
      have visible := trimmed.begins blank (by simp [whole])
      rw [allBlank blank (by simp)] at visible
      cases visible

end TransitionParts

end Smsl
