import Mathlib.Data.List.TakeWhile
import Smsl.Proofs.ScannedUnit
import Smsl.Statement.Shape

namespace Smsl

/-!
# Lexemes of written text

The scanner reads back text that is written as words, marks and arrows: a word
is read whole unless it is continued, a mark or an arrow always, and blanks are
skipped wherever they stand.
-/

namespace Pattern

theorem continuesWord_iff_toNat
    {character : Char} :
    continuesWord character = true ↔
      (65 ≤ character.toNat ∧ character.toNat ≤ 90) ∨
        (97 ≤ character.toNat ∧ character.toNat ≤ 122) ∨
          character.toNat = 95 ∨
            (48 ≤ character.toNat ∧ character.toNat ≤ 57) := by
  rw [continuesWord, Bool.or_eq_true, startsWord_iff_toNat, isDigit_iff_toNat]
  omega

theorem Matches.continuesWord
    {word : Text}
    (isWord : Matches .word word) :
    ∀ character ∈ word, continuesWord character = true := by
  cases isWord with
  | word starts inside =>
      intro character member
      rcases List.mem_cons.mp member with rfl | later
      · simp [Pattern.continuesWord, starts]
      · exact inside character later

/-- A word has no blanks. -/
theorem Matches.noBlank
    {word : Text}
    (isWord : Matches .word word) :
    Text.NoBlank word := by
  intro character member
  have continues := continuesWord_iff_toNat.mp (isWord.continuesWord character member)
  exact isBlank_eq_false_of_visible (by omega) (by omega)

/-- Whatever matches where a pattern matches belongs to the same pattern. -/
theorem Matches.pattern_eq
    {pattern otherPattern : Pattern}
    {lexeme other rest : Text}
    (isMatch : Matches pattern lexeme)
    (isOther : Matches otherPattern other)
    (leading : other <+: lexeme ++ rest) :
    pattern = otherPattern := by
  cases lexeme with
  | nil =>
      exact (isMatch.ne_nil rfl).elim
  | cons first tail =>
      cases other with
      | nil =>
          exact (isOther.ne_nil rfl).elim
      | cons otherFirst otherTail =>
          obtain ⟨rfl, _⟩ := List.cons_prefix_cons.mp leading
          exact Option.some.inj (isMatch.ofFirst?_eq.symm.trans isOther.ofFirst?_eq)

/-- No word goes on with a blank. -/
theorem continuesWord_of_blank
    {blank : Char}
    (isBlank : Text.isBlank blank = true) :
    continuesWord blank = false := by
  rw [Bool.eq_false_iff]
  intro continues
  rw [continuesWord_iff_toNat] at continues
  have visible : Text.isBlank blank = false :=
    isBlank_eq_false_of_visible (by omega) (by omega)
  rw [isBlank] at visible
  cases visible

/-- A prefix of one class ends where the class does. -/
theorem length_le_of_stop
    {inClass : Char → Bool}
    {lexeme other rest : Text}
    (inside : ∀ character ∈ lexeme, inClass character = true)
    (otherInside : ∀ character ∈ other, inClass character = true)
    (stops : ∀ next ∈ rest.head?, inClass next = false)
    (leading : other <+: lexeme ++ rest) :
    other.length ≤ lexeme.length := by
  have ends : rest.takeWhile inClass = [] := by
    cases rest with
    | nil =>
        rfl
    | cons next _ =>
        simp [stops next (by simp)]
  have bound := length_le_takeWhile otherInside leading
  rwa [List.takeWhile_append_of_pos inside, ends, List.append_nil] at bound

end Pattern

namespace Lexeme

/-- A word as a lexeme. -/
def word (text : Text) : Lexeme where
  text := text
  pattern := some .word

/-- A symbol of one character as a lexeme. -/
def mark (character : Char) : Lexeme where
  text := [character]
  pattern := some .punctuation

/-- The arrow as a lexeme. -/
def arrow : Lexeme where
  text := ['-', '>']
  pattern := some .arrow

theorem bounded_word
    {text rest : Text}
    (isWord : Pattern.word.Matches text)
    (ends : ∀ next ∈ rest.head?, Pattern.continuesWord next = false) :
    (word text).Bounded rest := by
  refine ⟨isWord, ?_⟩
  intro pattern other isMatch leading
  obtain rfl := isWord.pattern_eq isMatch leading
  exact Pattern.length_le_of_stop isWord.continuesWord isMatch.continuesWord ends leading

theorem bounded_mark
    {character : Char}
    (isMark : Pattern.isPunctuation character = true)
    (rest : Text) :
    (mark character).Bounded rest := by
  have isPunctuation : Pattern.punctuation.Matches [character] := .punctuation isMark
  refine ⟨isPunctuation, ?_⟩
  intro pattern other isMatch leading
  obtain rfl := isPunctuation.pattern_eq isMatch leading
  cases isMatch
  exact Nat.le_refl 1

theorem bounded_arrow (rest : Text) :
    arrow.Bounded rest := by
  refine ⟨.arrow, ?_⟩
  intro pattern other isMatch leading
  obtain rfl := Pattern.Matches.arrow.pattern_eq isMatch leading
  cases isMatch
  exact Nat.le_refl 2

/-! Reading written text back. -/

theorem ofText_nil : ofText [] = [] :=
  ofText_of_allBlank Text.allBlank_nil

theorem ofText_gap
    {gap : Text}
    (allBlank : Text.AllBlank gap)
    (text : Text) :
    ofText (gap ++ text) = ofText text := by
  have trimmed := Text.trimStart_gap allBlank text
  cases found : Text.trimStart text with
  | nil =>
      have blank : Text.AllBlank text := List.dropWhile_eq_nil_iff.mp found
      have bothBlank : Text.AllBlank (gap ++ text) :=
        List.dropWhile_eq_nil_iff.mp (trimmed.trans found)
      rw [ofText_of_allBlank blank, ofText_of_allBlank bothBlank]
  | cons first rest =>
      rw [ofText_of_trimStart found, ofText_of_trimStart (trimmed.trans found)]

theorem ofText_blank
    {blank : Char}
    (isBlank : Text.isBlank blank = true)
    (text : Text) :
    ofText (blank :: text) = ofText text :=
  ofText_gap (Text.allBlank_singleton isBlank) text

theorem ofText_word
    {text rest : Text}
    (isWord : Pattern.word.Matches text)
    (ends : ∀ next ∈ rest.head?, Pattern.continuesWord next = false) :
    ofText (text ++ rest) = word text :: ofText rest :=
  ofText_append Text.allBlank_nil (bounded_word isWord ends)

theorem ofText_word_before
    {text : Text}
    (isWord : Pattern.word.Matches text)
    {next : Char}
    (stops : Pattern.continuesWord next = false)
    (rest : Text) :
    ofText (text ++ next :: rest) = word text :: ofText (next :: rest) :=
  ofText_word isWord (by simpa using stops)

theorem ofText_mark
    {character : Char}
    (isMark : Pattern.isPunctuation character = true)
    (rest : Text) :
    ofText (character :: rest) = mark character :: ofText rest :=
  ofText_append Text.allBlank_nil (bounded_mark isMark rest)

theorem ofText_arrow (rest : Text) :
    ofText ('-' :: '>' :: rest) = arrow :: ofText rest :=
  ofText_append Text.allBlank_nil (bounded_arrow rest)

/-! The kinds of written lexemes. -/

/-- A word that is no keyword. -/
structure IsName (text : Text) : Prop where
  isWord : Pattern.word.Matches text
  notKeyword : ∀ keyword : Keyword, text ≠ keyword.spelling.toList

theorem kind_keyword (keyword : Keyword) :
    (word keyword.spelling.toList).kind = .keyword keyword :=
  (kind_of_pattern rfl keyword.spelling_matches).1 keyword rfl

theorem kind_name
    {text : Text}
    (isName : IsName text) :
    (word text).kind = .identifier := by
  have isPattern : (word text).pattern = some .word := rfl
  exact (kind_of_pattern isPattern isName.isWord).2 isName.notKeyword

/-- A lexeme that is scanned as an identifier is a name. -/
theorem isName_of_kind
    {text : Text}
    {lexeme : Lexeme}
    (member : lexeme ∈ ofText text)
    (isIdentifier : lexeme.kind = .identifier) :
    IsName lexeme.text := by
  have isPattern : lexeme.pattern = some .word := by
    cases found : lexeme.pattern with
    | none =>
        simp [kind, found] at isIdentifier
    | some pattern =>
        cases pattern with
        | word =>
            rfl
        | number | quoted | arrow | punctuation =>
            simp [kind, found] at isIdentifier
  have isWord := (segmentation_ofText text).pattern_matches member isPattern
  refine ⟨isWord, ?_⟩
  intro keyword spelled
  have isKeyword := (kind_of_pattern isPattern isWord).1 keyword spelled
  rw [isIdentifier] at isKeyword
  cases isKeyword

end Lexeme

/-- A keyword before a blank is a field. -/
theorem StatementShape.fields_keyword
    (keyword : Keyword)
    (rest : Text) :
    Text.fields (keywordField keyword ++ ' ' :: rest) =
      keywordField keyword :: Text.fields rest :=
  Text.fields_append keyword.spelling_matches.noBlank keyword.spelling_matches.ne_nil
    (by decide) rest

/-- The token of a lexeme that nothing is wrong with. -/
def Token.ofLexeme
    (line : Nat)
    (lexeme : Lexeme) :
    Token where
  line := line
  lexeme := String.ofList lexeme.text
  kind := lexeme.kind

theorem PlacedLexeme.toToken_eq_ofLexeme
    {limits : ScanLimits}
    {placed : PlacedLexeme}
    (fine : placed.error? limits = none) :
    placed.toToken limits = Token.ofLexeme placed.line placed.lexeme := by
  simp [toToken, fine, Token.ofLexeme]

end Smsl
