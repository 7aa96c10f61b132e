import Smsl.Proofs.SanitizedLines
import Smsl.Proofs.SpelledLines

namespace Smsl

/-!
# Printed tokens scanned again

The tokens of a line, printed with one space between neighbours, are scanned as
the same tokens.  The space moves what stands to the right of a lexeme, and only
two kinds of characters look there: a dash at its neighbour, and a quote at the
whole rest of the line.  Neither finds anything new.
-/

namespace Pattern

theorem isBlank_mark
    {mark : Char}
    (isMark : mark = '\x22' ∨ mark = '\x27') :
    Text.isBlank mark = false := by
  rcases isMark with rfl | rfl
  · rfl
  · rfl

/-- Only dashes and quotes depend on the rest of a text to start a match. -/
theorem startsMatch_cons_iff
    {first : Char}
    {rest : Text} :
    StartsMatch (first :: rest) ↔
      startsWord first = true ∨
        first.isDigit = true ∨
          isPunctuation first = true ∨
            (first = '-' ∧ ['>'] <+: rest) ∨
              ((first = '\x22' ∨ first = '\x27') ∧ first ∈ rest) := by
  constructor
  · rintro ⟨pattern, lexeme, matched, leading⟩
    cases matched with
    | word starts _ =>
        obtain ⟨rfl, _⟩ := List.cons_prefix_cons.mp leading
        exact .inl starts
    | number digit _ =>
        obtain ⟨rfl, _⟩ := List.cons_prefix_cons.mp leading
        exact .inr (.inl digit)
    | quoted isMark _ =>
        obtain ⟨rfl, closed⟩ := List.cons_prefix_cons.mp leading
        have closes := closed.subset (List.mem_append_right _ List.mem_cons_self)
        exact .inr (.inr (.inr (.inr ⟨isMark, closes⟩)))
    | arrow =>
        obtain ⟨rfl, head⟩ := List.cons_prefix_cons.mp leading
        exact .inr (.inr (.inr (.inl ⟨rfl, head⟩)))
    | punctuation isSymbol =>
        obtain ⟨rfl, _⟩ := List.cons_prefix_cons.mp leading
        exact .inr (.inr (.inl isSymbol))
  · rintro (starts | digit | isSymbol | ⟨rfl, head⟩ | ⟨isMark, closes⟩)
    · exact ⟨.word, [first], .word starts (by simp), rest, rfl⟩
    · exact ⟨.number, [first], .number digit (by simp), rest, rfl⟩
    · exact ⟨.punctuation, [first], .punctuation isSymbol, rest, rfl⟩
    · exact ⟨.arrow, ['-', '>'], .arrow, List.cons_prefix_cons.mpr ⟨rfl, head⟩⟩
    · obtain ⟨inner, after, rfl, fresh⟩ := List.eq_append_cons_of_mem closes
      exact ⟨.quoted, first :: (inner ++ [first]), .quoted isMark fresh, after, by simp⟩

/-- In front of a blank, or at the end, no match goes on. -/
theorem Matches.outlasts_before_blank
    {pattern : Pattern}
    {lexeme rest : Text}
    (matched : Matches pattern lexeme)
    (stops : ∀ next ∈ rest.head?, Text.isBlank next = true) :
    Outlasts lexeme (lexeme ++ rest) := by
  have wordStops : ∀ next ∈ rest.head?, Pattern.continuesWord next = false :=
    fun next isNext => continuesWord_of_blank (stops next isNext)
  intro otherPattern other isOther leading
  obtain rfl := matched.pattern_eq isOther leading
  cases matched with
  | word starts inside =>
      exact length_le_of_stop (Matches.word starts inside).continuesWord
        isOther.continuesWord wordStops leading
  | number digit inside =>
      have digitStops : ∀ next ∈ rest.head?, next.isDigit = false := by
        intro next isNext
        have notWord := wordStops next isNext
        rw [Pattern.continuesWord, Bool.or_eq_false_iff] at notWord
        exact notWord.2
      cases isOther with
      | number otherDigit otherInside =>
          exact length_le_of_stop (List.forall_mem_cons.mpr ⟨digit, inside⟩)
            (List.forall_mem_cons.mpr ⟨otherDigit, otherInside⟩) digitStops leading
  | quoted isMark fresh =>
      cases isOther with
      | quoted _ otherFresh =>
          obtain ⟨after, same⟩ := leading
          simp only [List.cons_append, List.append_assoc, List.nil_append,
            List.cons.injEq] at same
          obtain ⟨rfl, sameRest⟩ := same
          have sameLength := quoted_length_unique otherFresh fresh sameRest
          simp [sameLength]
  | arrow =>
      cases isOther
      exact Nat.le_refl 2
  | punctuation =>
      cases isOther
      exact Nat.le_refl 1

end Pattern

/-- A text with a character at both ends that is not blank. -/
structure Text.Tight (text : Text) : Prop where
  nonempty :
    text ≠ []
  begins :
    ∀ first ∈ text.head?, isBlank first = false
  ends :
    ∀ last ∈ text.getLast?, isBlank last = false

namespace Lexeme

/-- A lexeme in its place has no blank at its ends, even if it has blanks inside. -/
theorem Bounded.tight
    {lexeme : Lexeme}
    {rest : Text}
    (bounded : lexeme.Bounded rest) :
    Text.Tight lexeme.text := by
  obtain ⟨character, tail, shape, notBlank⟩ := bounded.begins
  refine ⟨?_, ?_, ?_⟩
  · rw [shape]
    exact List.cons_ne_nil character tail
  · intro first isFirst
    rw [shape] at isFirst
    cases isFirst
    exact notBlank
  · intro last isLast
    rw [← Bool.not_eq_true]
    intro isBlank
    have quoted := bounded.quoted_of_blank (List.mem_of_mem_getLast? isLast) isBlank
    generalize lexeme.text = text at quoted isLast
    cases quoted with
    | quoted isMark _ =>
        rw [← List.cons_append, List.getLast?_concat] at isLast
        cases isLast
        rw [Pattern.isBlank_mark isMark] at isBlank
        cases isBlank

section BeforeBlank

variable {rest other : Text}
variable (stops : ∀ next ∈ other.head?, Text.isBlank next = true)
variable (inside : ∀ character ∈ other, Text.isBlank character = true ∨ character ∈ rest)

include stops inside

/--
A run stays unmatched in front of another rest that starts with a blank and has,
but for blanks, only characters of the old one.
-/
theorem Unmatched.before_blank
    {run : Text}
    (unmatched : Unmatched run rest) :
    Unmatched run other where
  nonempty := unmatched.nonempty
  notBlank := unmatched.notBlank
  noMatch := by
    intro before after shape nonempty starts
    apply unmatched.noMatch before after shape nonempty
    obtain ⟨first, tail, rfl⟩ := List.exists_cons_of_ne_nil nonempty
    rw [List.cons_append, Pattern.startsMatch_cons_iff] at starts ⊢
    rcases starts with
        starts | digit | isSymbol | ⟨isDash, head⟩ | ⟨isMark, closes⟩
    · exact .inl starts
    · exact .inr (.inl digit)
    · exact .inr (.inr (.inl isSymbol))
    · -- A dash at the end of the run now has a blank behind it, or nothing.
      refine .inr (.inr (.inr (.inl ⟨isDash, ?_⟩)))
      cases tail with
      | nil =>
          obtain ⟨further, rfl⟩ := head
          have isBlank := stops '>' rfl
          cases isBlank
      | cons next further =>
          simpa using head
    · -- A quote in the run was open, and the new rest does not close it either.
      refine .inr (.inr (.inr (.inr ⟨isMark, ?_⟩)))
      rcases List.mem_append.mp closes with inRun | inOther
      · exact List.mem_append_left rest inRun
      · rcases inside first inOther with isBlank | inRest
        · rw [Pattern.isBlank_mark isMark] at isBlank
          cases isBlank
        · exact List.mem_append_right tail inRest
  ends := by
    cases other with
    | nil =>
        exact .inl rfl
    | cons blank after =>
        exact .inr (.inl ⟨blank, after, rfl, stops blank rfl⟩)

theorem Bounded.before_blank
    {lexeme : Lexeme}
    (bounded : lexeme.Bounded rest) :
    lexeme.Bounded other := by
  obtain ⟨text, pattern⟩ := lexeme
  cases pattern with
  | some pattern =>
      have matched : pattern.Matches text := bounded.1
      exact ⟨matched, matched.outlasts_before_blank stops⟩
  | none =>
      have unmatched : Unmatched text rest := bounded
      exact unmatched.before_blank stops inside

end BeforeBlank

end Lexeme

/-! Texts with spaces between them. -/

namespace Text

/-- Texts one after the other, with one space between neighbours. -/
def spaced (texts : List Text) : Text :=
  [' '].intercalate texts

/-- Texts one after the other, each behind a space. -/
def behindSpaces (texts : List Text) : Text :=
  texts.flatMap fun text => ' ' :: text

theorem spaced_cons
    (first : Text)
    (rest : List Text) :
    spaced (first :: rest) = first ++ behindSpaces rest := by
  induction rest generalizing first with
  | nil =>
      simp [spaced, behindSpaces]
  | cons next further inductionHypothesis =>
      have later := inductionHypothesis next
      rw [spaced] at later ⊢
      rw [List.intercalate_cons_cons, later]
      simp [behindSpaces]

theorem behindSpaces_cons
    (first : Text)
    (rest : List Text) :
    behindSpaces (first :: rest) = [' '] ++ (first ++ behindSpaces rest) := by
  simp [behindSpaces]

theorem head?_behindSpaces
    (texts : List Text) :
    ∀ next ∈ (behindSpaces texts).head?, isBlank next = true := by
  cases texts with
  | nil =>
      nofun
  | cons first rest =>
      intro next isNext
      cases isNext
      rfl

theorem mem_behindSpaces
    {texts : List Text}
    {character : Char}
    (member : character ∈ behindSpaces texts) :
    isBlank character = true ∨ ∃ text ∈ texts, character ∈ text := by
  obtain ⟨text, isText, inside⟩ := List.mem_flatMap.mp member
  rcases List.mem_cons.mp inside with rfl | inText
  · exact .inl rfl
  · exact .inr ⟨text, isText, inText⟩

/-- Tight texts stay tight when they are spaced. -/
theorem trim_spaced
    {texts : List Text}
    (tight : ∀ text ∈ texts, Tight text) :
    trim (spaced texts) = spaced texts := by
  refine trim_eq_self ?_ ?_
  · cases texts with
    | nil =>
        nofun
    | cons first rest =>
        have isTight := tight first List.mem_cons_self
        rw [spaced_cons, List.head?_append_of_ne_nil _ isTight.nonempty]
        exact isTight.begins
  · rcases List.eq_nil_or_concat' texts with rfl | ⟨before, last, rfl⟩
    · nofun
    · have isTight : Tight last := tight last (by simp)
      have closing : ∃ leading, spaced (before ++ [last]) = leading ++ last := by
        cases before with
        | nil =>
            exact ⟨[], by simp [spaced]⟩
        | cons first between =>
            refine ⟨first ++ behindSpaces between ++ [' '], ?_⟩
            rw [List.cons_append, spaced_cons]
            simp [behindSpaces]
      obtain ⟨leading, shape⟩ := closing
      rw [shape, List.getLast?_append_of_ne_nil leading isTight.nonempty]
      exact isTight.ends

end Text

namespace SourceLine

/-- No comment opens across a place where a blank stands. -/
theorem no_comment_append
    {text rest : Text}
    (noComment : ¬ ['/', '/'] <:+: text)
    (noLater : ¬ ['/', '/'] <:+: rest)
    (stops : ∀ next ∈ rest.head?, Text.isBlank next = true) :
    ¬ ['/', '/'] <:+: text ++ rest := by
  rw [List.infix_append_iff]
  rintro (inText | inRest | ⟨upper, lower, shape, isSuffix, isPrefix⟩)
  · exact noComment inText
  · exact noLater inRest
  · cases lower with
    | nil =>
        rw [List.append_nil] at shape
        rw [← shape] at isSuffix
        exact noComment isSuffix.isInfix
    | cons next further =>
        obtain ⟨after, rfl⟩ := isPrefix
        have isBlank := stops next rfl
        have isSlash : next ∈ ['/', '/'] := by
          rw [shape]
          simp
        simp only [List.mem_cons, List.not_mem_nil, or_false, or_self] at isSlash
        rw [isSlash] at isBlank
        cases isBlank

theorem no_comment_behindSpaces
    {texts : List Text}
    (noComment : ∀ text ∈ texts, ¬ ['/', '/'] <:+: text) :
    ¬ ['/', '/'] <:+: Text.behindSpaces texts := by
  induction texts with
  | nil =>
      simp [Text.behindSpaces]
  | cons first rest inductionHypothesis =>
      have later := inductionHypothesis fun text isText =>
        noComment text (List.mem_cons_of_mem first isText)
      have inFirst := no_comment_append (noComment first List.mem_cons_self) later
        (Text.head?_behindSpaces rest)
      rw [Text.behindSpaces_cons, List.singleton_append, List.infix_cons_iff]
      rintro (opening | inside)
      · exact absurd (List.cons_prefix_cons.mp opening).1 (by decide)
      · exact inFirst inside

theorem no_comment_spaced
    {texts : List Text}
    (noComment : ∀ text ∈ texts, ¬ ['/', '/'] <:+: text) :
    ¬ ['/', '/'] <:+: Text.spaced texts := by
  cases texts with
  | nil =>
      simp [Text.spaced]
  | cons first rest =>
      intro comment
      apply no_comment_behindSpaces noComment
      rw [Text.behindSpaces_cons, ← Text.spaced_cons]
      exact comment.trans (List.suffix_append _ _).isInfix

end SourceLine

namespace Lexeme

/-- The text of lexemes that are printed with one space between neighbours. -/
def printed (lexemes : List Lexeme) : Text :=
  Text.spaced (lexemes.map Lexeme.text)

/-- Lexemes of a text, each behind a space, are again in their places. -/
theorem Segmentation.behindSpaces
    {text : Text}
    {lexemes : List Lexeme}
    (segmentation : Segmentation text lexemes) :
    Segmentation (Text.behindSpaces (lexemes.map Lexeme.text)) lexemes := by
  induction segmentation with
  | blank =>
      exact .blank Text.allBlank_nil
  | @lexeme gap rest first lexemes _ bounded segmentation inductionHypothesis =>
      have inside :
          ∀ character ∈ Text.behindSpaces (lexemes.map Lexeme.text),
            Text.isBlank character = true ∨ character ∈ rest := by
        intro character member
        rcases Text.mem_behindSpaces member with isBlank | ⟨_, isText, inText⟩
        · exact .inl isBlank
        · obtain ⟨lexeme, isLexeme, rfl⟩ := List.mem_map.mp isText
          obtain ⟨before, after, shape, _⟩ := segmentation.exists_place isLexeme
          rw [shape]
          exact .inr (by simp [inText])
      rw [List.map_cons, Text.behindSpaces_cons]
      exact .lexeme (Text.allBlank_singleton rfl)
        (bounded.before_blank (Text.head?_behindSpaces _) inside) inductionHypothesis

/-- Printed lexemes of a text are scanned as the same lexemes. -/
theorem ofText_printed (text : Text) :
    ofText (printed (ofText text)) = ofText text := by
  have again := (segmentation_ofText text).behindSpaces.eq_ofText
  cases shape : ofText text with
  | nil =>
      exact ofText_nil
  | cons first rest =>
      rw [shape, List.map_cons, Text.behindSpaces_cons, ← Text.spaced_cons,
        ofText_gap (Text.allBlank_singleton rfl)] at again
      exact again.symm

/-- Printed lexemes of a line have no comment and no surrounding blanks. -/
theorem sanitize_printed (raw : Text) :
    SourceLine.sanitize (printed (ofText (SourceLine.sanitize raw))) =
      printed (ofText (SourceLine.sanitize raw)) := by
  have segmentation := segmentation_ofText (SourceLine.sanitize raw)
  have noComment :
      ¬ ['/', '/'] <:+: printed (ofText (SourceLine.sanitize raw)) := by
    refine SourceLine.no_comment_spaced ?_
    intro text isText comment
    obtain ⟨lexeme, isLexeme, rfl⟩ := List.mem_map.mp isText
    obtain ⟨before, after, shape, _⟩ := segmentation.exists_place isLexeme
    apply SourceLine.sanitize_no_comment raw
    rw [shape, ← List.append_assoc]
    exact comment.trans (List.infix_append before lexeme.text after)
  rw [SourceLine.sanitize, SourceLine.beforeComment_eq_self noComment]
  refine Text.trim_spaced ?_
  intro text isText
  obtain ⟨lexeme, isLexeme, rfl⟩ := List.mem_map.mp isText
  obtain ⟨_, _, _, bounded⟩ := segmentation.exists_place isLexeme
  exact bounded.tight

/-- A line without lexemes has no text left. -/
theorem ofText_sanitize_eq_nil_iff
    {raw : Text} :
    ofText (SourceLine.sanitize raw) = [] ↔ SourceLine.sanitize raw = [] := by
  constructor
  · intro nothing
    cases shape : SourceLine.sanitize raw with
    | nil =>
        rfl
    | cons first rest =>
        have notBlank := Text.trim_begins shape
        have kept : Text.trimStart (first :: rest) = first :: rest := by
          simp [Text.trimStart, notBlank]
        rw [shape, ofText_of_trimStart kept] at nothing
        cases nothing
  · intro empty
    rw [empty, ofText_nil]

end Lexeme

/-! Units of one line. -/

theorem SourceLine.significant_singleton (raw : Text) :
    significant [raw] = (ofRaw? raw 1).toList := by
  rw [significant_eq_from, significantFrom_cons]
  exact List.append_nil _

theorem PlacedLexeme.ofLines_singleton (raw : Text) :
    ofLines [raw] =
      (Lexeme.ofText (SourceLine.sanitize raw)).map fun lexeme => { line := 1, lexeme } := by
  rw [ofLines, SourceLine.significant_singleton]
  cases isLine : SourceLine.ofRaw? raw 1 with
  | none =>
      have empty := SourceLine.ofRaw?_eq_none_iff.mp isLine
      rw [Lexeme.ofText_sanitize_eq_nil_iff.mpr empty]
      rfl
  | some line =>
      rw [(SourceLine.ofRaw?_eq_some_iff.mp isLine).2]
      exact List.append_nil _

/-- The tokens of a line as text: their lexemes with one space between neighbours. -/
def Token.printed (tokens : List Token) : Text :=
  (" ".intercalate (tokens.map Token.lexeme)).toList

namespace Scan

/-- The scan of a single line depends on the lexemes of what is left of it only. -/
theorem ofLines_singleton_congr
    (limits : ScanLimits)
    (detailed : Bool)
    {raw other : Text}
    (alike :
      Lexeme.ofText (SourceLine.sanitize raw) = Lexeme.ofText (SourceLine.sanitize other)) :
    ofLines limits detailed [raw] = ofLines limits detailed [other] := by
  have samePlaced : PlacedLexeme.ofLines [raw] = PlacedLexeme.ofLines [other] := by
    rw [PlacedLexeme.ofLines_singleton, PlacedLexeme.ofLines_singleton, alike]
  have sameEmpty : SourceLine.sanitize raw = [] ↔ SourceLine.sanitize other = [] := by
    rw [← Lexeme.ofText_sanitize_eq_nil_iff, alike, Lexeme.ofText_sanitize_eq_nil_iff]
  have sameCount :
      (SourceLine.significant [raw]).length = (SourceLine.significant [other]).length := by
    simp only [SourceLine.significant_singleton, SourceLine.ofRaw?, List.isEmpty_iff, sameEmpty]
    split
    · rfl
    · rfl
  rw [PlacedLexeme.ofLines, PlacedLexeme.ofLines] at samePlaced
  simp only [ofLines, samePlaced, sameCount, List.length_singleton]

theorem Complete.printed_tokens
    {limits : ScanLimits}
    {detailed : Bool}
    {raw : Text}
    (complete : (ofLines limits detailed [raw]).Complete) :
    Token.printed (ofLines limits detailed [raw]).tokens =
      Lexeme.printed (Lexeme.ofText (SourceLine.sanitize raw)) := by
  rw [Token.printed, complete.tokens_eq, PlacedLexeme.ofLines_singleton, String.toList_intercalate,
    List.map_map, List.map_map, List.map_map]
  exact congrArg Text.spaced (List.map_congr_left fun _ _ => String.toList_ofList)

/--
When the token limit stops nothing, the tokens of a line that are printed with
one space between neighbours give the same scan again: the same lexemes under
the same kinds, and the same errors.
-/
theorem printed_tokens_scan_alike
    (limits : ScanLimits)
    (detailed : Bool)
    (raw : Text)
    (complete : (ofLines limits detailed [raw]).Complete) :
    ofLines limits detailed [Token.printed (ofLines limits detailed [raw]).tokens] =
      ofLines limits detailed [raw] := by
  rw [complete.printed_tokens]
  apply ofLines_singleton_congr
  rw [Lexeme.sanitize_printed, Lexeme.ofText_printed]

/-- A line with unknown runs, an open quote, lone dashes and lexemes that are too long. -/
theorem printed_tokens_scan_alike_of_faulty_line :
    (ofLines { maxLexemeLength := 5, maxTokenCount := 10 } true
        ["a-->\x22x  y\x22$-  \x27b- longer; // c".toList]).Complete ∧
      Token.printed (ofLines { maxLexemeLength := 5, maxTokenCount := 10 } true
          ["a-->\x22x  y\x22$-  \x27b- longer; // c".toList]).tokens =
        "a - -> \x22x  y\x22 $- \x27 b - longer ;".toList ∧
      ofLines { maxLexemeLength := 5, maxTokenCount := 10 } true
          [Token.printed (ofLines { maxLexemeLength := 5, maxTokenCount := 10 } true
            ["a-->\x22x  y\x22$-  \x27b- longer; // c".toList]).tokens] =
        ofLines { maxLexemeLength := 5, maxTokenCount := 10 } true
          ["a-->\x22x  y\x22$-  \x27b- longer; // c".toList] := by
  have complete :
      (ofLines { maxLexemeLength := 5, maxTokenCount := 10 } true
        ["a-->\x22x  y\x22$-  \x27b- longer; // c".toList]).Complete :=
    complete_iff.mpr (by decide +kernel)
  refine ⟨complete, ?_, printed_tokens_scan_alike _ _ _ complete⟩
  decide +kernel

end Scan

end Smsl
