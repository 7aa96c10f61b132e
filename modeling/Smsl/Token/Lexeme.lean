import Smsl.Token.Basic

namespace Smsl

/-!
# Lexemes

A line is cut into lexemes from left to right.  Five patterns describe the
vocabulary; where one of them matches, the lexeme is the longest match, and the
earlier pattern wins a tie.  Where none matches, the lexeme runs up to the next
blank or the next place where a pattern matches.  Blanks between lexemes are
skipped.
-/

/-- The patterns of the vocabulary, in order of preference. -/
inductive Pattern where
  | word
  | number
  | quoted
  | arrow
  | punctuation
  deriving Repr, DecidableEq

namespace Pattern

/-- All patterns, in order of preference. -/
def all : List Pattern :=
  [.word, .number, .quoted, .arrow, .punctuation]

/-- A character that can start a word: an ASCII letter or an underscore. -/
def startsWord (character : Char) : Bool :=
  character.isAlpha || character == '_'

/-- A character that can continue a word: one that can start it, or an ASCII digit. -/
def continuesWord (character : Char) : Bool :=
  startsWord character || character.isDigit

/-- A symbol of one character. -/
def isPunctuation (character : Char) : Bool :=
  ['\x7b', '\x7d', '(', ')', ';', ',', ':'].contains character

/-- The length of a quoted string after its opening quote, if the quote is closed. -/
def closedLength?
    (mark : Char)
    (rest : Text) :
    Option Nat :=
  let inner := rest.takeWhile fun character => character != mark
  if inner.length < rest.length then
    some (inner.length + 1)
  else
    none

/-- The length of the longest match of a pattern at the start of a text. -/
def matchLength? : Pattern → Text → Option Nat
  | .word, first :: rest =>
      if startsWord first then
        some (1 + (rest.takeWhile continuesWord).length)
      else
        none
  | .number, first :: rest =>
      if first.isDigit then
        some (1 + (rest.takeWhile Char.isDigit).length)
      else
        none
  | .quoted, first :: rest =>
      if first == '\x22' || first == '\x27' then
        (closedLength? first rest).map (1 + ·)
      else
        none
  | .arrow, '-' :: '>' :: _ =>
      some 2
  | .punctuation, first :: _ =>
      if isPunctuation first then
        some 1
      else
        none
  | _, _ =>
      none

/-- The better of the best match so far and the match of one more pattern. -/
def better
    (text : Text)
    (best : Option (Pattern × Nat))
    (pattern : Pattern) :
    Option (Pattern × Nat) :=
  match pattern.matchLength? text, best with
  | none, _ =>
      best
  | some length, none =>
      some (pattern, length)
  | some length, some (_, bestLength) =>
      if bestLength < length then
        some (pattern, length)
      else
        best

/-- The longest match at the start of a text; earlier patterns win ties. -/
def longest? (text : Text) : Option (Pattern × Nat) :=
  all.foldl (better text) none

/-- Every match takes at least one character. -/
theorem matchLength?_pos
    {pattern : Pattern}
    {text : Text}
    {length : Nat}
    (isMatch : pattern.matchLength? text = some length) :
    0 < length := by
  cases text with
  | nil =>
      cases pattern <;> simp [matchLength?] at isMatch
  | cons first rest =>
      cases pattern with
      | word =>
          simp only [matchLength?] at isMatch
          split at isMatch
          · simp only [Option.some.injEq] at isMatch
            omega
          · simp at isMatch
      | number =>
          simp only [matchLength?] at isMatch
          split at isMatch
          · simp only [Option.some.injEq] at isMatch
            omega
          · simp at isMatch
      | quoted =>
          simp only [matchLength?] at isMatch
          split at isMatch
          · simp only [Option.map_eq_some_iff] at isMatch
            obtain ⟨inner, _, total⟩ := isMatch
            omega
          · simp at isMatch
      | arrow =>
          unfold matchLength? at isMatch
          split at isMatch
          all_goals simp_all
          all_goals omega
      | punctuation =>
          simp only [matchLength?] at isMatch
          split at isMatch
          · simp only [Option.some.injEq] at isMatch
            omega
          · simp at isMatch

/-- Every longest match takes at least one character. -/
theorem longest?_pos
    {text : Text}
    {pattern : Pattern}
    {length : Nat}
    (isLongest : longest? text = some (pattern, length)) :
    0 < length := by
  have keepsPositive :
      ∀ (patterns : List Pattern) (best : Option (Pattern × Nat)),
        (∀ found, best = some found → 0 < found.2) →
        ∀ found, patterns.foldl (better text) best = some found →
          0 < found.2 := by
    intro patterns
    induction patterns with
    | nil =>
        intro best positive found isBest
        exact positive found isBest
    | cons pattern rest inductionHypothesis =>
        intro best positive found isBest
        refine inductionHypothesis (better text best pattern) ?_ found isBest
        intro step isStep
        unfold better at isStep
        split at isStep
        · exact positive step isStep
        · rename_i matchFound
          simp only [Option.some.injEq] at isStep
          subst isStep
          exact matchLength?_pos matchFound
        · rename_i matchFound
          split at isStep
          · simp only [Option.some.injEq] at isStep
            subst isStep
            exact matchLength?_pos matchFound
          · exact positive step isStep
  exact keepsPositive all none (by simp) (pattern, length) isLongest

end Pattern

/-- A piece of a line, with the pattern that matched it, if one did. -/
structure Lexeme where
  text : Text
  pattern : Option Pattern
  deriving Repr, DecidableEq

namespace Lexeme

/-- A lexeme that no pattern matches may go on at the start of this text. -/
def runContinues : Text → Bool
  | [] =>
      false
  | first :: rest =>
      !Text.isBlank first && (Pattern.longest? (first :: rest)).isNone

/-- The run of characters at which no lexeme ends and none starts, and the rest. -/
def spanUnmatched : Text → Text × Text
  | [] =>
      ([], [])
  | first :: rest =>
      if runContinues (first :: rest) then
        let further := spanUnmatched rest
        (first :: further.1, further.2)
      else
        ([], first :: rest)

/-- The lexeme at the start of a text that starts with no blank, and the rest. -/
def first
    (character : Char)
    (rest : Text) :
    Lexeme × Text :=
  match Pattern.longest? (character :: rest) with
  | some (pattern, length) =>
      ({ text := (character :: rest).take length, pattern := some pattern },
        (character :: rest).drop length)
  | none =>
      let run := spanUnmatched rest
      ({ text := character :: run.1, pattern := none }, run.2)

/-- The rest after a run is no longer than the text. -/
theorem length_spanUnmatched_le (text : Text) :
    (spanUnmatched text).2.length ≤ text.length := by
  induction text with
  | nil =>
      simp [spanUnmatched]
  | cons character rest inductionHypothesis =>
      unfold spanUnmatched
      split
      · simp only [List.length_cons]
        omega
      · simp

/-- Cutting off a lexeme shortens the text. -/
theorem length_first_lt
    (character : Char)
    (rest : Text) :
    (first character rest).2.length < (character :: rest).length := by
  unfold first
  split
  · rename_i pattern length isLongest
    have positive := Pattern.longest?_pos isLongest
    simp only [List.length_drop, List.length_cons]
    omega
  · have bound := length_spanUnmatched_le rest
    simp only [List.length_cons]
    omega

/-- The lexemes of a line, from left to right. -/
def ofText (text : Text) : List Lexeme :=
  match _found : Text.trimStart text with
  | [] =>
      []
  | character :: rest =>
      let next := first character rest
      next.1 :: ofText next.2
termination_by text.length
decreasing_by
  have shorter := length_first_lt character rest
  have trimmed : (Text.trimStart text).length ≤ text.length :=
    (List.dropWhile_sublist _).length_le
  rw [_found] at trimmed
  exact Nat.lt_of_lt_of_le shorter trimmed

/-- The kind of a lexeme that is not too long. -/
def kind (lexeme : Lexeme) : TokenKind :=
  match lexeme.pattern with
  | some .word =>
      match Keyword.ofSpelling? (String.ofList lexeme.text) with
      | some keyword => .keyword keyword
      | none => .identifier
  | some .number =>
      .number
  | some .quoted =>
      .string
  | some .arrow =>
      .symbol
  | some .punctuation =>
      .symbol
  | none =>
      .unknown

end Lexeme

end Smsl
