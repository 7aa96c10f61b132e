import Smsl.Proofs.PatternMatch
import Smsl.Proofs.TextCuts
import Smsl.Token.Scan

namespace Smsl

/-!
# Segmentation of a line

A segmentation cuts a line into lexemes and blanks.  Each lexeme obeys the
boundary rule of its kind: a matched one is the longest match at its place, and
an unmatched one runs on until the line ends, a blank follows, or a match
starts.  Every line has exactly one segmentation, and the scanner finds it.
-/

namespace Lexeme

/--
A run that no pattern matches anywhere, up to the end of the line, a blank, or a
place where a pattern matches.
-/
structure Unmatched
    (run rest : Text) :
    Prop where
  nonempty :
    run ≠ []
  notBlank :
    ∀ character ∈ run, Text.isBlank character = false
  noMatch :
    ∀ before after,
      run = before ++ after →
      after ≠ [] →
      ¬ Pattern.StartsMatch (after ++ rest)
  ends :
    rest = [] ∨
      (∃ blank after, rest = blank :: after ∧ Text.isBlank blank = true) ∨
        Pattern.StartsMatch rest

/-- The boundary rule for a lexeme in front of the rest of a line. -/
def Bounded
    (lexeme : Lexeme)
    (rest : Text) :
    Prop :=
  match lexeme.pattern with
  | some pattern =>
      pattern.Matches lexeme.text ∧
        Pattern.Outlasts lexeme.text (lexeme.text ++ rest)
  | none =>
      Unmatched lexeme.text rest

/-- A line as lexemes with blanks, or nothing, around them. -/
inductive Segmentation : Text → List Lexeme → Prop where
  | blank
      {gap : Text} :
      Text.AllBlank gap →
      Segmentation gap []
  | lexeme
      {gap rest : Text}
      {lexeme : Lexeme}
      {lexemes : List Lexeme} :
      Text.AllBlank gap →
      lexeme.Bounded rest →
      Segmentation rest lexemes →
      Segmentation (gap ++ (lexeme.text ++ rest)) (lexeme :: lexemes)

/-! The run of an unmatched lexeme. -/

/-- A run stops exactly where the boundary rule lets it end. -/
theorem runContinues_eq_false_iff
    {text : Text} :
    runContinues text = false ↔
      text = [] ∨
        (∃ blank after, text = blank :: after ∧ Text.isBlank blank = true) ∨
          Pattern.StartsMatch text := by
  cases text with
  | nil =>
      simp [runContinues]
  | cons first rest =>
      have isMatch :
          (Pattern.longest? (first :: rest)).isNone = false ↔
            Pattern.StartsMatch (first :: rest) := by
        rw [← Bool.not_eq_true, Option.isNone_iff_eq_none,
          Pattern.longest?_eq_none_iff, not_not]
      simp only [runContinues, Bool.and_eq_false_iff, Bool.not_eq_false', isMatch]
      constructor
      · rintro (isBlank | starts)
        · exact .inr (.inl ⟨first, rest, rfl, isBlank⟩)
        · exact .inr (.inr starts)
      · rintro (empty | ⟨blank, after, shape, isBlank⟩ | starts)
        · cases empty
        · cases shape
          exact .inl isBlank
        · exact .inr starts

/-- A run goes on exactly at a character that is neither blank nor starts a match. -/
theorem runContinues_cons_iff
    {first : Char}
    {rest : Text} :
    runContinues (first :: rest) = true ↔
      Text.isBlank first = false ∧ ¬ Pattern.StartsMatch (first :: rest) := by
  simp [runContinues, Pattern.longest?_eq_none_iff]

/-- The run that the scanner takes, and the rest, make up the text. -/
theorem spanUnmatched_append (text : Text) :
    (spanUnmatched text).1 ++ (spanUnmatched text).2 = text := by
  induction text with
  | nil =>
      rfl
  | cons first rest inductionHypothesis =>
      unfold spanUnmatched
      split
      · simpa using inductionHypothesis
      · rfl

/-- The scanner ends a run only where it has to. -/
theorem runContinues_spanUnmatched (text : Text) :
    runContinues (spanUnmatched text).2 = false := by
  induction text with
  | nil =>
      rfl
  | cons first rest inductionHypothesis =>
      unfold spanUnmatched
      split
      · exact inductionHypothesis
      · rename_i stops
        simpa using stops

/-- No character in the run that the scanner takes is a blank or starts a match. -/
theorem spanUnmatched_run
    {text before after : Text}
    {first : Char}
    (shape : (spanUnmatched text).1 = before ++ first :: after) :
    Text.isBlank first = false ∧
      ¬ Pattern.StartsMatch (first :: after ++ (spanUnmatched text).2) := by
  induction text generalizing before with
  | nil =>
      simp [spanUnmatched] at shape
  | cons character rest inductionHypothesis =>
      unfold spanUnmatched at shape ⊢
      split at shape
      · rename_i continues
        simp only [continues, ↓reduceIte]
        cases before with
        | nil =>
            simp only [List.nil_append, List.cons.injEq] at shape
            obtain ⟨rfl, runShape⟩ := shape
            rw [← runShape, List.cons_append, spanUnmatched_append]
            exact runContinues_cons_iff.mp continues
        | cons head tail =>
            simp only [List.cons_append, List.cons.injEq] at shape
            exact inductionHypothesis shape.2
      · simp at shape

/-- A run that obeys the boundary rule is the one that the scanner takes. -/
theorem spanUnmatched_of_run
    {run rest : Text}
    (notBlank : ∀ character ∈ run, Text.isBlank character = false)
    (noMatch :
      ∀ before after,
        run = before ++ after →
        after ≠ [] →
        ¬ Pattern.StartsMatch (after ++ rest))
    (ends : runContinues rest = false) :
    spanUnmatched (run ++ rest) = (run, rest) := by
  induction run with
  | nil =>
      cases rest with
      | nil =>
          rfl
      | cons first after =>
          simp [spanUnmatched, ends]
  | cons first tail inductionHypothesis =>
      have continues : runContinues (first :: (tail ++ rest)) = true := by
        rw [runContinues_cons_iff]
        exact ⟨notBlank first (by simp), noMatch [] (first :: tail) rfl (by simp)⟩
      have further := inductionHypothesis
        (fun character member => notBlank character (by simp [member]))
        (fun before after shape =>
          noMatch (first :: before) after (by simp [shape]))
      simp [spanUnmatched, continues, further]

/-! The lexeme at the start of a text. -/

/-- A lexeme that obeys its boundary rule begins with a character that is not blank. -/
theorem Bounded.begins
    {lexeme : Lexeme}
    {rest : Text}
    (bounded : lexeme.Bounded rest) :
    ∃ first tail,
      lexeme.text = first :: tail ∧ Text.isBlank first = false := by
  obtain ⟨text, pattern⟩ := lexeme
  cases pattern with
  | some pattern =>
      have matched : pattern.Matches text := bounded.1
      cases text with
      | nil =>
          exact (matched.ne_nil rfl).elim
      | cons first tail =>
          exact ⟨first, tail, rfl, matched.first_not_blank⟩
  | none =>
      have unmatched : Unmatched text rest := bounded
      cases text with
      | nil =>
          exact (unmatched.nonempty rfl).elim
      | cons first tail =>
          exact ⟨first, tail, rfl, unmatched.notBlank first (by simp)⟩

/-- The lexeme that the scanner cuts off, and the rest, make up the text. -/
theorem first_append
    (character : Char)
    (rest : Text) :
    (first character rest).1.text ++ (first character rest).2 = character :: rest := by
  unfold first
  split
  · exact List.take_append_drop _ _
  · simp [spanUnmatched_append]

/-- The lexeme that the scanner cuts off obeys its boundary rule. -/
theorem first_bounded
    {character : Char}
    (notBlank : Text.isBlank character = false)
    (rest : Text) :
    (first character rest).1.Bounded (first character rest).2 := by
  cases found : Pattern.longest? (character :: rest) with
  | some best =>
      obtain ⟨pattern, length⟩ := best
      obtain ⟨lexeme, after, shape, rfl, matched, outlasts⟩ :=
        Pattern.longest?_eq_some found
      have cut :
          first character rest =
            ({ text := lexeme, pattern := some pattern }, after) := by
        simp only [first, found]
        rw [shape, List.take_left, List.drop_left]
      rw [cut]
      exact ⟨matched, shape ▸ outlasts⟩
  | none =>
      have cut :
          first character rest =
            ({ text := character :: (spanUnmatched rest).1, pattern := none },
              (spanUnmatched rest).2) := by
        simp only [first, found]
      rw [cut]
      refine ⟨by simp, ?_, ?_, ?_⟩
      · intro next member
        rcases List.mem_cons.mp member with isFirst | inRun
        · rwa [isFirst]
        · obtain ⟨before, after, shape⟩ := List.append_of_mem inRun
          exact (spanUnmatched_run shape).1
      · intro before after shape nonempty
        cases before with
        | nil =>
            simp only [List.nil_append] at shape
            rw [← shape, List.cons_append, spanUnmatched_append]
            exact Pattern.longest?_eq_none_iff.mp found
        | cons head tail =>
            simp only [List.cons_append, List.cons.injEq] at shape
            obtain ⟨next, others, rfl⟩ := List.exists_cons_of_ne_nil nonempty
            exact (spanUnmatched_run shape.2).2
      · exact runContinues_eq_false_iff.mp (runContinues_spanUnmatched rest)

/-- A lexeme that obeys its boundary rule is the one that the scanner cuts off. -/
theorem first_of_bounded
    {lexeme : Lexeme}
    {rest tail : Text}
    {character : Char}
    (bounded : lexeme.Bounded rest)
    (shape : lexeme.text = character :: tail) :
    first character (tail ++ rest) = (lexeme, rest) := by
  obtain ⟨text, pattern⟩ := lexeme
  simp only at shape
  subst shape
  cases pattern with
  | some pattern =>
      have found :=
        Pattern.longest?_of_outlasts bounded.1 bounded.2
      simp only [List.cons_append] at found
      simp [first, found]
  | none =>
      have unmatched : Unmatched (character :: tail) rest := bounded
      have found : Pattern.longest? (character :: (tail ++ rest)) = none :=
        Pattern.longest?_eq_none_iff.mpr
          (unmatched.noMatch [] (character :: tail) rfl (by simp))
      have run : spanUnmatched (tail ++ rest) = (tail, rest) :=
        spanUnmatched_of_run
          (fun next member => unmatched.notBlank next (by simp [member]))
          (fun before after runShape =>
            unmatched.noMatch (character :: before) after (by simp [runShape]))
          (runContinues_eq_false_iff.mpr unmatched.ends)
      simp [first, found, run]

/-! The lexemes of a whole text. -/

theorem ofText_of_allBlank
    {gap : Text}
    (allBlank : Text.AllBlank gap) :
    ofText gap = [] := by
  have nothing : Text.trimStart gap = [] :=
    List.dropWhile_eq_nil_iff.mpr allBlank
  rw [ofText]
  split
  · rfl
  · rename_i found
    simp [nothing] at found

theorem ofText_of_trimStart
    {text rest : Text}
    {character : Char}
    (trimmed : Text.trimStart text = character :: rest) :
    ofText text = (first character rest).1 :: ofText (first character rest).2 := by
  rw [ofText]
  split
  · rename_i found
    simp [trimmed] at found
  · rename_i found
    rw [trimmed] at found
    cases found
    rfl

/-- The scanner cuts off any leading lexeme that obeys its boundary rule. -/
theorem ofText_append
    {gap rest : Text}
    {lexeme : Lexeme}
    (allBlank : Text.AllBlank gap)
    (bounded : lexeme.Bounded rest) :
    ofText (gap ++ (lexeme.text ++ rest)) = lexeme :: ofText rest := by
  obtain ⟨character, tail, shape, notBlank⟩ := bounded.begins
  have trimmed :
      Text.trimStart (gap ++ (lexeme.text ++ rest)) = character :: (tail ++ rest) := by
    rw [Text.trimStart, List.dropWhile_append_of_pos allBlank, shape]
    simp [notBlank]
  rw [ofText_of_trimStart trimmed, first_of_bounded bounded shape]

/-- Every lexeme of a segmentation has its place in the text. -/
theorem Segmentation.exists_place
    {text : Text}
    {lexemes : List Lexeme}
    (segmentation : Segmentation text lexemes)
    {lexeme : Lexeme}
    (member : lexeme ∈ lexemes) :
    ∃ before rest,
      text = before ++ (lexeme.text ++ rest) ∧ lexeme.Bounded rest := by
  induction segmentation with
  | blank =>
      cases member
  | @lexeme gap rest first _ _ bounded _ inductionHypothesis =>
      rcases List.mem_cons.mp member with rfl | later
      · exact ⟨gap, rest, rfl, bounded⟩
      · obtain ⟨before, after, shape, laterBounded⟩ := inductionHypothesis later
        refine ⟨gap ++ (first.text ++ before), after, ?_, laterBounded⟩
        rw [shape]
        simp only [List.append_assoc]

/-- A segmentation is what the scanner finds. -/
theorem Segmentation.eq_ofText
    {text : Text}
    {lexemes : List Lexeme}
    (segmentation : Segmentation text lexemes) :
    lexemes = ofText text := by
  induction segmentation with
  | blank allBlank =>
      exact (ofText_of_allBlank allBlank).symm
  | lexeme allBlank bounded _ inductionHypothesis =>
      rw [ofText_append allBlank bounded, ← inductionHypothesis]

/-- The scanner finds a segmentation. -/
theorem segmentation_ofText (text : Text) :
    Segmentation text (ofText text) := by
  have parts : text.takeWhile Text.isBlank ++ Text.trimStart text = text :=
    List.takeWhile_append_dropWhile
  have leading : Text.AllBlank (text.takeWhile Text.isBlank) := by
    intro character member
    exact List.mem_takeWhile_imp member
  cases trimmed : Text.trimStart text with
  | nil =>
      rw [trimmed, List.append_nil] at parts
      rw [parts] at leading
      rw [ofText_of_allBlank leading]
      exact .blank leading
  | cons character rest =>
      have notBlank := Text.trimStart_begins trimmed
      have shorter : (first character rest).2.length < text.length := by
        have cut := length_first_lt character rest
        have suffix : (Text.trimStart text).length ≤ text.length :=
          (List.dropWhile_sublist _).length_le
        rw [trimmed] at suffix
        omega
      rw [ofText_of_trimStart trimmed]
      have whole :=
        Segmentation.lexeme leading (first_bounded notBlank rest)
          (segmentation_ofText (first character rest).2)
      rwa [first_append, ← trimmed, parts] at whole
termination_by text.length

end Lexeme

end Smsl
