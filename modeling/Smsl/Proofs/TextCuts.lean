import Mathlib.Data.List.Basic
import Mathlib.Data.List.TakeWhile
import Smsl.Text.Basic

namespace Smsl

/-!
# Cuts of texts

What trimming, splitting, fields and lines give for texts that are put together
from words, blanks and line feeds, and how fields lie in the text they come from.
-/

namespace Text

/-- Only blanks, or nothing at all. -/
def AllBlank (gap : Text) : Prop :=
  ∀ character ∈ gap, isBlank character = true

theorem allBlank_nil : AllBlank [] := by
  simp [AllBlank]

theorem allBlank_singleton
    {blank : Char}
    (isBlank : isBlank blank = true) :
    AllBlank [blank] := by
  simp [AllBlank, isBlank]

/-- A text without blanks. -/
def NoBlank (word : Text) : Prop :=
  ∀ character ∈ word, isBlank character = false

instance (word : Text) : Decidable (NoBlank word) :=
  List.decidableBAll (fun character => isBlank character = false) word

/-! Trimming. -/

theorem trimStart_begins
    {text rest : Text}
    {first : Char}
    (trimmed : trimStart text = first :: rest) :
    isBlank first = false := by
  have notBlank := List.head?_dropWhile_not isBlank text
  rw [trimStart] at trimmed
  rw [trimmed] at notBlank
  simpa using notBlank

theorem trimStart_gap
    {gap : Text}
    (allBlank : AllBlank gap)
    (text : Text) :
    trimStart (gap ++ text) = trimStart text :=
  List.dropWhile_append_of_pos allBlank

theorem trimEnd_gap
    {gap : Text}
    (allBlank : AllBlank gap)
    (text : Text) :
    trimEnd (text ++ gap) = trimEnd text := by
  have reversed : ∀ character ∈ gap.reverse, isBlank character = true := by
    intro character member
    exact allBlank character (List.mem_reverse.mp member)
  rw [trimEnd, trimEnd, List.reverse_append, List.dropWhile_append_of_pos reversed]

theorem trimStart_of_begins
    {text : Text}
    (begins : ∀ first ∈ text.head?, isBlank first = false) :
    trimStart text = text := by
  cases text with
  | nil =>
      rfl
  | cons first rest =>
      have notBlank : isBlank first = false := begins first (by simp)
      simp [trimStart, notBlank]

theorem trimEnd_of_ends
    {text : Text}
    (ends : ∀ last ∈ text.getLast?, isBlank last = false) :
    trimEnd text = text := by
  have begins : ∀ first ∈ text.reverse.head?, isBlank first = false := by
    intro first isFirst
    exact ends first (by simpa using isFirst)
  have kept := trimStart_of_begins begins
  rw [trimStart] at kept
  rw [trimEnd, kept, List.reverse_reverse]

/-- Trimming only takes blanks off the end of a text. -/
theorem trimEnd_append (text : Text) :
    ∃ gap, AllBlank gap ∧ trimEnd text ++ gap = text := by
  refine ⟨(text.reverse.takeWhile isBlank).reverse, ?_, ?_⟩
  · intro character member
    exact List.mem_takeWhile_imp (List.mem_reverse.mp member)
  · rw [trimEnd, ← List.reverse_append, List.takeWhile_append_dropWhile,
      List.reverse_reverse]

/-- A trimmed text begins with no blank. -/
theorem trim_begins
    {text rest : Text}
    {first : Char}
    (trimmed : trim text = first :: rest) :
    isBlank first = false := by
  obtain ⟨gap, _, shape⟩ := trimEnd_append (trimStart text)
  have cut : trimEnd (trimStart text) = first :: rest := trimmed
  rw [cut] at shape
  exact trimStart_begins shape.symm

/-- Trimming finds a text that neither begins nor ends with a blank. -/
theorem trim_of_padded
    {before text after : Text}
    (blankBefore : AllBlank before)
    (blankAfter : AllBlank after)
    (begins : ∀ first ∈ text.head?, isBlank first = false)
    (ends : ∀ last ∈ text.getLast?, isBlank last = false) :
    trim (before ++ (text ++ after)) = text := by
  rw [trim, trimStart_gap blankBefore]
  cases text with
  | nil =>
      have nothing : trimStart after = [] := List.dropWhile_eq_nil_iff.mpr blankAfter
      rw [List.nil_append, nothing]
      rfl
  | cons first rest =>
      have kept : trimStart (first :: rest ++ after) = first :: rest ++ after :=
        trimStart_of_begins (by simpa using begins)
      rw [kept, trimEnd_gap blankAfter, trimEnd_of_ends ends]

theorem trim_eq_self
    {text : Text}
    (begins : ∀ first ∈ text.head?, isBlank first = false)
    (ends : ∀ last ∈ text.getLast?, isBlank last = false) :
    trim text = text := by
  have padded : trim ([] ++ (text ++ [])) = text :=
    trim_of_padded allBlank_nil allBlank_nil begins ends
  simpa using padded

theorem trim_of_word
    {word : Text}
    (noBlank : NoBlank word) :
    trim word = word := by
  refine trim_eq_self ?_ ?_
  · intro first isFirst
    exact noBlank first (List.mem_of_mem_head? isFirst)
  · intro last isLast
    exact noBlank last (List.mem_of_mem_getLast? isLast)

/-- A trimmed text ends with no blank. -/
theorem trim_ends (text : Text) :
    ∀ last ∈ (trim text).getLast?, isBlank last = false := by
  intro last isLast
  have notBlank := List.head?_dropWhile_not isBlank (trimStart text).reverse
  rw [trim, trimEnd, List.getLast?_reverse] at isLast
  rw [isLast] at notBlank
  simpa using notBlank

/-- A text is its trimmed text between two gaps. -/
theorem exists_gaps (text : Text) :
    ∃ before after,
      AllBlank before ∧ AllBlank after ∧ before ++ (trim text ++ after) = text := by
  obtain ⟨after, blankAfter, ending⟩ := trimEnd_append (trimStart text)
  refine ⟨text.takeWhile isBlank, after, ?_, blankAfter, ?_⟩
  · intro character member
    exact List.mem_takeWhile_imp member
  · rw [trim, ending]
    exact List.takeWhile_append_dropWhile

theorem trim_trimStart (text : Text) :
    trim (trimStart text) = trim text := by
  rw [trim, trim, trimStart_of_begins]
  intro first isFirst
  obtain ⟨rest, shape⟩ := List.head?_eq_some_iff.mp isFirst
  exact trimStart_begins shape

/-! Splitting. -/

theorem splitWhen_cons
    (separates : Char → Bool)
    (character : Char)
    (rest : Text) :
    splitWhen separates (character :: rest) =
      if separates character then
        [] :: splitWhen separates rest
      else
        consFirst character (splitWhen separates rest) :=
  rfl

/-- A text without separators is one piece. -/
theorem splitWhen_of_none
    {separates : Char → Bool}
    {piece : Text}
    (none : ∀ character ∈ piece, separates character = false) :
    splitWhen separates piece = [piece] := by
  induction piece with
  | nil =>
      rfl
  | cons first rest inductionHypothesis =>
      rw [splitWhen_cons, none first (by simp),
        inductionHypothesis fun character member => none character (by simp [member])]
      rfl

/-- A separator ends a piece. -/
theorem splitWhen_append
    {separates : Char → Bool}
    {piece : Text}
    (none : ∀ character ∈ piece, separates character = false)
    {separator : Char}
    (isSeparator : separates separator = true)
    (rest : Text) :
    splitWhen separates (piece ++ separator :: rest) =
      piece :: splitWhen separates rest := by
  induction piece with
  | nil =>
      rw [List.nil_append, splitWhen_cons, isSeparator]
      rfl
  | cons first further inductionHypothesis =>
      rw [List.cons_append, splitWhen_cons, none first (by simp),
        inductionHypothesis fun character member => none character (by simp [member])]
      rfl

/-! Fields. -/

theorem fields_blank
    {blank : Char}
    (isBlank : isBlank blank = true)
    (rest : Text) :
    fields (blank :: rest) = fields rest := by
  simp [fields, splitWhen_cons, isBlank]

theorem fields_of_word
    {word : Text}
    (noBlank : NoBlank word)
    (nonempty : word ≠ []) :
    fields word = [word] := by
  simp [fields, splitWhen_of_none noBlank, nonempty]

/-- A blank ends a field. -/
theorem fields_append
    {word : Text}
    (noBlank : NoBlank word)
    (nonempty : word ≠ [])
    {blank : Char}
    (isBlank : isBlank blank = true)
    (rest : Text) :
    fields (word ++ blank :: rest) = word :: fields rest := by
  simp [fields, splitWhen_append noBlank isBlank, nonempty]

/-- A word that a blank follows, or nothing at all, is a field. -/
theorem fields_word_before
    {word rest : Text}
    (noBlank : NoBlank word)
    (nonempty : word ≠ [])
    (begins : ∀ next ∈ rest.head?, isBlank next = true) :
    fields (word ++ rest) = word :: fields rest := by
  cases rest with
  | nil =>
      rw [List.append_nil, fields_of_word noBlank nonempty]
      rfl
  | cons next further =>
      have nextBlank := begins next rfl
      rw [fields_append noBlank nonempty nextBlank, fields_blank nextBlank]

theorem splitWhen_pieces
    {separates : Char → Bool}
    {text piece : Text}
    (member : piece ∈ splitWhen separates text) :
    ∀ character ∈ piece, separates character = false := by
  induction text generalizing piece with
  | nil =>
      simp only [splitWhen, List.foldr_nil, List.mem_singleton] at member
      simp [member]
  | cons first rest inductionHypothesis =>
      rw [splitWhen_cons] at member
      split at member
      · rcases List.mem_cons.mp member with rfl | later
        · simp
        · exact inductionHypothesis later
      · rename_i goesOn
        have notSeparator : separates first = false := by simpa using goesOn
        cases pieces : splitWhen separates rest with
        | nil =>
            rw [pieces] at member
            simp only [consFirst, List.mem_singleton] at member
            simp [member, notSeparator]
        | cons head tail =>
            rw [pieces] at member inductionHypothesis
            rcases List.mem_cons.mp member with rfl | later
            · have further := inductionHypothesis (List.mem_cons_self)
              simpa [notSeparator] using further
            · exact inductionHypothesis (List.mem_cons_of_mem head later)

/-- A field is a word. -/
theorem mem_fields
    {text field : Text}
    (member : field ∈ fields text) :
    NoBlank field ∧ field ≠ [] := by
  rw [fields, List.mem_filter] at member
  exact ⟨splitWhen_pieces member.1, by simpa using member.2⟩

/-- Only blanks have no fields. -/
theorem allBlank_of_fields_eq_nil
    {text : Text}
    (noFields : fields text = []) :
    AllBlank text := by
  induction text with
  | nil =>
      exact allBlank_nil
  | cons first rest inductionHypothesis =>
      by_cases blank : isBlank first = true
      · rw [fields_blank blank] at noFields
        intro character member
        rcases List.mem_cons.mp member with rfl | later
        · exact blank
        · exact inductionHypothesis noFields character later
      · have notBlank : isBlank first = false := by simpa using blank
        cases pieces : splitWhen isBlank rest <;>
          simp [fields, splitWhen_cons, notBlank, pieces, consFirst] at noFields

/-- A text that begins with no blank begins with a word, up to a blank. -/
theorem exists_word
    {first : Char}
    (notBlank : isBlank first = false)
    (tail : Text) :
    ∃ word rest,
      first :: tail = word ++ rest ∧
        NoBlank word ∧ word ≠ [] ∧ ∀ next ∈ rest.head?, isBlank next = true := by
  refine
    ⟨(first :: tail).takeWhile fun character => !isBlank character,
      (first :: tail).dropWhile fun character => !isBlank character,
      List.takeWhile_append_dropWhile.symm, ?_, ?_, ?_⟩
  · intro character member
    simpa using List.mem_takeWhile_imp member
  · simp [notBlank]
  · intro next isNext
    have stops :=
      List.head?_dropWhile_not (fun character => !isBlank character) (first :: tail)
    rw [isNext] at stops
    simpa using stops

/-- A text with fields begins with the first one, after blanks and before blanks. -/
theorem fields_eq_cons
    {text field : Text}
    {more : List Text}
    (isFields : fields text = field :: more) :
    ∃ gap rest,
      AllBlank gap ∧
        text = gap ++ (field ++ rest) ∧
          (∀ next ∈ rest.head?, isBlank next = true) ∧ fields rest = more := by
  induction text with
  | nil =>
      cases isFields
  | cons first tail inductionHypothesis =>
      by_cases blank : isBlank first = true
      · rw [fields_blank blank] at isFields
        obtain ⟨gap, rest, allBlank, rfl, begins, isRest⟩ := inductionHypothesis isFields
        refine ⟨first :: gap, rest, ?_, rfl, begins, isRest⟩
        intro character member
        rcases List.mem_cons.mp member with rfl | later
        · exact blank
        · exact allBlank character later
      · obtain ⟨word, rest, parts, noBlank, nonempty, begins⟩ :=
          exists_word (by simpa using blank) tail
        have isWord : fields (first :: tail) = word :: fields rest := by
          rw [parts, fields_word_before noBlank nonempty begins]
        rw [isWord] at isFields
        cases isFields
        exact ⟨[], rest, allBlank_nil, parts, begins, rfl⟩

theorem fields_gap
    {gap : Text}
    (allBlank : AllBlank gap)
    (text : Text) :
    fields (gap ++ text) = fields text := by
  induction gap with
  | nil =>
      rfl
  | cons first rest inductionHypothesis =>
      rw [List.cons_append, fields_blank (allBlank first (by simp)),
        inductionHypothesis fun character member => allBlank character (by simp [member])]

theorem fields_of_allBlank
    {gap : Text}
    (allBlank : AllBlank gap) :
    fields gap = [] := by
  rw [← List.append_nil gap, fields_gap allBlank]
  rfl

theorem fields_append_gap
    (text : Text)
    {gap : Text}
    (allBlank : AllBlank gap) :
    fields (text ++ gap) = fields text := by
  induction isFields : fields text generalizing text with
  | nil =>
      rw [fields_gap (allBlank_of_fields_eq_nil isFields), fields_of_allBlank allBlank]
  | cons field more inductionHypothesis =>
      obtain ⟨noBlank, nonempty⟩ := mem_fields (isFields ▸ List.mem_cons_self)
      obtain ⟨before, rest, blankBefore, rfl, begins, isRest⟩ := fields_eq_cons isFields
      have beginsToo : ∀ next ∈ (rest ++ gap).head?, isBlank next = true := by
        cases rest with
        | nil =>
            exact fun next isNext => allBlank next (List.mem_of_mem_head? isNext)
        | cons blank further =>
            exact begins
      rw [List.append_assoc, List.append_assoc, fields_gap blankBefore,
        fields_word_before noBlank nonempty beginsToo, inductionHypothesis rest isRest]

/-! Trimming keeps the fields of a text. -/

theorem fields_trimStart (text : Text) :
    fields (trimStart text) = fields text := by
  have allBlank : AllBlank (text.takeWhile isBlank) :=
    fun character member => List.mem_takeWhile_imp member
  rw [← fields_gap allBlank (trimStart text), trimStart, List.takeWhile_append_dropWhile]

theorem fields_trimEnd (text : Text) :
    fields (trimEnd text) = fields text := by
  obtain ⟨gap, allBlank, whole⟩ := trimEnd_append text
  rw [← fields_append_gap (trimEnd text) allBlank, whole]

theorem fields_trim (text : Text) :
    fields (trim text) = fields text := by
  rw [trim, fields_trimEnd, fields_trimStart]

/-- A text has no fields exactly if nothing is left of it when it is trimmed. -/
theorem trim_eq_nil_iff {text : Text} :
    trim text = [] ↔ fields text = [] := by
  constructor
  · intro empty
    rw [← fields_trim, empty]
    rfl
  · intro noFields
    have padded : trim ([] ++ ([] ++ text)) = [] :=
      trim_of_padded allBlank_nil (allBlank_of_fields_eq_nil noFields) (by simp) (by simp)
    simpa using padded

/-- A text has one field exactly if that field is left of it when it is trimmed. -/
theorem trim_eq_word_iff
    {text word : Text}
    (noBlank : NoBlank word)
    (nonempty : word ≠ []) :
    trim text = word ↔ fields text = [word] := by
  constructor
  · intro isWord
    rw [← fields_trim, isWord, fields_of_word noBlank nonempty]
  · intro isField
    obtain ⟨gap, rest, allBlank, rfl, _, noMore⟩ := fields_eq_cons isField
    refine trim_of_padded allBlank (allBlank_of_fields_eq_nil noMore) ?_ ?_
    · intro first isFirst
      exact noBlank first (List.mem_of_mem_head? isFirst)
    · intro last isLast
      exact noBlank last (List.mem_of_mem_getLast? isLast)

/-! Trimmed texts. -/

/-- A text that neither begins nor ends with a blank. -/
structure Trimmed (text : Text) : Prop where
  begins :
    ∀ first ∈ text.head?, isBlank first = false
  ends :
    ∀ last ∈ text.getLast?, isBlank last = false

theorem trimmed_trim (text : Text) :
    Trimmed (trim text) := by
  refine ⟨?_, trim_ends text⟩
  intro first isFirst
  obtain ⟨rest, shape⟩ := List.head?_eq_some_iff.mp isFirst
  exact trim_begins shape

theorem trimmed_iff {text : Text} :
    Trimmed text ↔ trim text = text := by
  constructor
  · intro trimmed
    exact trim_eq_self trimmed.begins trimmed.ends
  · intro same
    rw [← same]
    exact trimmed_trim text

theorem trim_trim (text : Text) :
    trim (trim text) = trim text :=
  trimmed_iff.mp (trimmed_trim text)

theorem Trimmed.eq_nil_iff
    {text : Text}
    (trimmed : Trimmed text) :
    text = [] ↔ fields text = [] := by
  rw [← trim_eq_nil_iff, trimmed_iff.mp trimmed]

theorem Trimmed.eq_word_iff
    {text word : Text}
    (trimmed : Trimmed text)
    (noBlank : NoBlank word)
    (nonempty : word ≠ []) :
    text = word ↔ fields text = [word] := by
  rw [← trim_eq_word_iff noBlank nonempty, trimmed_iff.mp trimmed]

/-- What ends a text with no blank at its end has no blank there. -/
theorem ends_of_append
    (first : Text)
    {second : Text}
    (ends : ∀ last ∈ (first ++ second).getLast?, isBlank last = false) :
    ∀ last ∈ second.getLast?, isBlank last = false := by
  intro last isLast
  refine ends last ?_
  rw [List.getLast?_append, Option.mem_def.mp isLast]
  rfl

/-- A word before blanks is a field. -/
theorem fields_word_gap
    {word gap : Text}
    (noBlank : NoBlank word)
    (nonempty : word ≠ [])
    (allBlank : AllBlank gap)
    (separates : gap ≠ [])
    (rest : Text) :
    fields (word ++ (gap ++ rest)) = word :: fields rest := by
  have begins : ∀ next ∈ (gap ++ rest).head?, isBlank next = true := by
    rw [List.head?_append_of_ne_nil _ separates]
    exact fun next isNext => allBlank next (List.mem_of_mem_head? isNext)
  rw [fields_word_before noBlank nonempty begins, fields_gap allBlank]

/-- A trimmed text begins with its first field, and a blank ends it if more follows. -/
theorem Trimmed.eq_append_of_fields
    {text field : Text}
    {more : List Text}
    (trimmed : Trimmed text)
    (isFields : fields text = field :: more) :
    ∃ rest,
      text = field ++ rest ∧
        (∀ next ∈ rest.head?, isBlank next = true) ∧ fields rest = more := by
  obtain ⟨gap, rest, allBlank, rfl, begins, isRest⟩ := fields_eq_cons isFields
  cases gap with
  | nil =>
      exact ⟨rest, rfl, begins, isRest⟩
  | cons blank further =>
      have visible := trimmed.begins blank rfl
      rw [allBlank blank (by simp)] at visible
      cases visible

/-- A trimmed text with one field is that field. -/
theorem Trimmed.eq_of_fields
    {text field : Text}
    (trimmed : Trimmed text)
    (isField : fields text = [field]) :
    text = field := by
  obtain ⟨noBlank, nonempty⟩ := mem_fields (isField ▸ List.mem_singleton_self field)
  exact (trimmed.eq_word_iff noBlank nonempty).mpr isField

/-- A trimmed text with more fields is its first field, blanks, and a trimmed text. -/
theorem Trimmed.exists_gap
    {text field next : Text}
    {more : List Text}
    (trimmed : Trimmed text)
    (isFields : fields text = field :: next :: more) :
    ∃ gap rest,
      AllBlank gap ∧
        gap ≠ [] ∧
          text = field ++ (gap ++ rest) ∧ Trimmed rest ∧ fields rest = next :: more := by
  obtain ⟨behind, rfl, begins, isBehind⟩ := trimmed.eq_append_of_fields isFields
  obtain ⟨gap, rest, allBlank, rfl, _, _⟩ := fields_eq_cons isBehind
  obtain ⟨noBlank, nonempty⟩ := mem_fields (isBehind ▸ List.mem_cons_self)
  obtain ⟨first, further, rfl⟩ := List.exists_cons_of_ne_nil nonempty
  have visible : isBlank first = false := noBlank first (by simp)
  refine ⟨gap, first :: further ++ rest, allBlank, ?_, rfl, ⟨?_, ?_⟩, ?_⟩
  · rintro rfl
    rw [begins first rfl] at visible
    cases visible
  · simpa using visible
  · have ends := trimmed.ends
    rw [← List.append_assoc] at ends
    exact ends_of_append _ ends
  · rwa [fields_gap allBlank] at isBehind

/-! Final words. -/

theorem withoutEnd_append
    (text word : Text) :
    withoutEnd word (text ++ word) = text := by
  have found : List.isSuffixOf? word (text ++ word) = some text :=
    List.isSuffixOf?_eq_some_iff_append_eq.mpr rfl
  simp [withoutEnd, stripEnd?, found]

theorem withoutEnd_of_ends
    {text : Text}
    {character : Char}
    (ends : text.getLast? ≠ some character) :
    withoutEnd [character] text = text := by
  have missing : List.isSuffixOf? [character] text = none := by
    rw [Option.eq_none_iff_forall_ne_some]
    intro rest found
    apply ends
    rw [← List.isSuffixOf?_eq_some_iff_append_eq.mp found]
    simp
  simp [withoutEnd, stripEnd?, missing]

/-! Lines. -/

theorem splitWhen_ne_nil
    (separates : Char → Bool)
    (text : Text) :
    splitWhen separates text ≠ [] := by
  cases text with
  | nil =>
      simp [splitWhen]
  | cons first rest =>
      rw [splitWhen_cons]
      split
      · simp
      · cases splitWhen separates rest <;> simp [consFirst]

/-- A line feed ends a line. -/
theorem lines_append
    {line : Text}
    (noFeed : ∀ character ∈ line, (character == '\n') = false)
    (noReturn : line.getLast? ≠ some '\r')
    (rest : Text) :
    lines (line ++ '\n' :: rest) = line :: lines rest := by
  have whole : withoutEnd ['\r'] line = line := withoutEnd_of_ends noReturn
  cases pieces : splitWhen (· == '\n') rest with
  | nil =>
      exact (splitWhen_ne_nil _ _ pieces).elim
  | cons head tail =>
      simp [lines, splitWhen_append noFeed, pieces, whole]

theorem lines_of_none
    {line : Text}
    (noFeed : ∀ character ∈ line, (character == '\n') = false)
    (nonempty : line ≠ []) :
    lines line = [line] := by
  simp [lines, splitWhen_of_none noFeed, nonempty]

end Text

end Smsl
