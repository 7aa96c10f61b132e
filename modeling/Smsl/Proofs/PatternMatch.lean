import Mathlib.Data.List.TakeWhile
import Smsl.Token.Lexeme

namespace Smsl

/-!
# Longest matches

A pattern stands for a set of texts.  The scanner only ever asks for the length
of the longest match of a pattern at the start of a text.  This module says
which texts a pattern stands for, without any length, and proves that
`Pattern.longest?` finds the longest prefix that belongs to any pattern.
-/

namespace Pattern

/-- The texts that a pattern stands for. -/
inductive Matches : Pattern → Text → Prop where
  | word
      {first : Char}
      {rest : Text} :
      startsWord first = true →
      (∀ character ∈ rest, continuesWord character = true) →
      Matches .word (first :: rest)
  | number
      {first : Char}
      {rest : Text} :
      first.isDigit = true →
      (∀ character ∈ rest, character.isDigit = true) →
      Matches .number (first :: rest)
  | quoted
      {mark : Char}
      {inner : Text} :
      mark = '\x22' ∨ mark = '\x27' →
      mark ∉ inner →
      Matches .quoted (mark :: (inner ++ [mark]))
  | arrow :
      Matches .arrow ['-', '>']
  | punctuation
      {character : Char} :
      isPunctuation character = true →
      Matches .punctuation [character]

/-- Some pattern matches at the start of a text. -/
def StartsMatch (text : Text) : Prop :=
  ∃ pattern lexeme, Matches pattern lexeme ∧ lexeme <+: text

/-- A prefix of a text is as long as any prefix that a pattern matches. -/
def Outlasts
    (lexeme text : Text) :
    Prop :=
  ∀ pattern other,
    Matches pattern other →
    other <+: text →
    other.length ≤ lexeme.length

/-! Each pattern has its own first characters, so no text has two patterns. -/

/-- The pattern that a first character belongs to. -/
def ofFirst? (character : Char) : Option Pattern :=
  if startsWord character then
    some .word
  else if character.isDigit then
    some .number
  else if character == '\x22' || character == '\x27' then
    some .quoted
  else if character == '-' then
    some .arrow
  else if isPunctuation character then
    some .punctuation
  else
    none

theorem startsWord_iff_toNat
    {character : Char} :
    startsWord character = true ↔
      (65 ≤ character.toNat ∧ character.toNat ≤ 90) ∨
        (97 ≤ character.toNat ∧ character.toNat ≤ 122) ∨
          character.toNat = 95 := by
  have underscore : character = '_' ↔ character.toNat = 95 := by
    rw [← Char.toNat_inj]
    rfl
  have letter :
      character.isAlpha = true ↔
        (65 ≤ character.toNat ∧ character.toNat ≤ 90) ∨
          (97 ≤ character.toNat ∧ character.toNat ≤ 122) := by
    have ranges :
        character.isAlpha =
          (decide (65 ≤ character.val ∧ character.val ≤ 90) ||
            (decide (97 ≤ character.val) && decide (character.val ≤ 122))) :=
      rfl
    simp [ranges, UInt32.le_iff_toNat_le, ← Char.toNat_val]
  simp only [startsWord, Bool.or_eq_true, beq_iff_eq, letter, underscore]
  omega

theorem isDigit_iff_toNat
    {character : Char} :
    character.isDigit = true ↔
      48 ≤ character.toNat ∧ character.toNat ≤ 57 :=
  Char.isDigit_iff_toNat

theorem isPunctuation_iff
    {character : Char} :
    isPunctuation character = true ↔
      character ∈ ['\x7b', '\x7d', '(', ')', ';', ',', ':'] := by
  simp [isPunctuation]

/-- A text that a pattern matches begins with a character of that pattern. -/
theorem Matches.ofFirst?_eq
    {pattern : Pattern}
    {first : Char}
    {rest : Text}
    (isMatch : Matches pattern (first :: rest)) :
    ofFirst? first = some pattern := by
  cases isMatch with
  | word starts _ =>
      simp [ofFirst?, starts]
  | number digit _ =>
      have notWord : ¬ startsWord first = true := by
        rw [startsWord_iff_toNat]
        rw [isDigit_iff_toNat] at digit
        omega
      simp [ofFirst?, notWord, digit]
  | quoted mark _ =>
      rcases mark with rfl | rfl
      · rfl
      · rfl
  | arrow =>
      rfl
  | punctuation isSymbol =>
      rw [isPunctuation_iff] at isSymbol
      simp only [List.mem_cons, List.not_mem_nil, or_false] at isSymbol
      rcases isSymbol with rfl | rfl | rfl | rfl | rfl | rfl | rfl <;> rfl

/-- No text is matched by nothing at all. -/
theorem Matches.ne_nil
    {pattern : Pattern}
    {lexeme : Text}
    (isMatch : Matches pattern lexeme) :
    lexeme ≠ [] := by
  cases isMatch <;> simp

/-- A text has one pattern at most. -/
theorem Matches.unique
    {first second : Pattern}
    {lexeme : Text}
    (isFirst : Matches first lexeme)
    (isSecond : Matches second lexeme) :
    first = second := by
  cases lexeme with
  | nil =>
      exact (isFirst.ne_nil rfl).elim
  | cons character rest =>
      have same := isFirst.ofFirst?_eq.symm.trans isSecond.ofFirst?_eq
      exact Option.some.inj same

/-- The visible characters among the first 128 are not blank. -/
theorem isBlank_eq_false_of_visible
    {character : Char}
    (visible : 33 ≤ character.toNat)
    (narrow : character.toNat < 128) :
    Text.isBlank character = false := by
  simp only [Text.isBlank, narrow, ↓reduceIte, Bool.or_eq_false_iff,
    Bool.and_eq_false_imp, decide_eq_true_eq, decide_eq_false_iff_not, beq_eq_false_iff_ne]
  omega

/-- No pattern begins with a blank. -/
theorem Matches.first_not_blank
    {pattern : Pattern}
    {first : Char}
    {rest : Text}
    (isMatch : Matches pattern (first :: rest)) :
    Text.isBlank first = false := by
  cases isMatch with
  | word starts _ =>
      rw [startsWord_iff_toNat] at starts
      exact isBlank_eq_false_of_visible (by omega) (by omega)
  | number digit _ =>
      rw [isDigit_iff_toNat] at digit
      exact isBlank_eq_false_of_visible (by omega) (by omega)
  | quoted mark _ =>
      rcases mark with rfl | rfl <;> decide
  | arrow =>
      decide
  | punctuation isSymbol =>
      rw [isPunctuation_iff] at isSymbol
      simp only [List.mem_cons, List.not_mem_nil, or_false] at isSymbol
      rcases isSymbol with rfl | rfl | rfl | rfl | rfl | rfl | rfl <;> decide

/-! The length that the scanner computes for one pattern. -/

/-- A prefix whose characters all belong to a class lies in the leading run of the class. -/
theorem length_le_takeWhile
    {inClass : Char → Bool}
    {run text : Text}
    (inside : ∀ character ∈ run, inClass character = true)
    (leading : run <+: text) :
    run.length ≤ (text.takeWhile inClass).length := by
  obtain ⟨rest, rfl⟩ := leading
  rw [List.takeWhile_append_of_pos inside]
  simp

/-- A text with a closing mark is closed at the first one. -/
theorem closedLength?_append
    {mark : Char}
    {inner : Text}
    (fresh : mark ∉ inner)
    (after : Text) :
    closedLength? mark (inner ++ mark :: after) = some (inner.length + 1) := by
  have inside : ∀ character ∈ inner, (character != mark) = true := by
    intro character member
    simp only [bne_iff_ne]
    rintro rfl
    exact fresh member
  simp [closedLength?, List.takeWhile_append_of_pos inside]

/-- A text that is found closed has a closing mark. -/
theorem closedLength?_eq_some
    {mark : Char}
    {rest : Text}
    {length : Nat}
    (closed : closedLength? mark rest = some length) :
    ∃ inner after,
      mark ∉ inner ∧
        rest = inner ++ mark :: after ∧
          length = inner.length + 1 := by
  by_cases member : mark ∈ rest
  · obtain ⟨inner, after, shape, fresh⟩ := List.eq_append_cons_of_mem member
    subst shape
    rw [closedLength?_append fresh after] at closed
    exact ⟨inner, after, fresh, rfl, (Option.some.inj closed).symm⟩
  · have all : rest.takeWhile (fun character => character != mark) = rest := by
      rw [List.takeWhile_eq_self_iff]
      intro character inRest
      simp only [bne_iff_ne]
      rintro rfl
      exact member inRest
    simp [closedLength?, all] at closed

/-- Two quoted prefixes of one text close at the same mark. -/
theorem quoted_length_unique
    {mark : Char}
    {first second afterFirst afterSecond : Text}
    (firstOpen : mark ∉ first)
    (secondOpen : mark ∉ second)
    (same : first ++ mark :: afterFirst = second ++ mark :: afterSecond) :
    first.length = second.length := by
  have lengths := closedLength?_append firstOpen afterFirst
  rw [same, closedLength?_append secondOpen afterSecond] at lengths
  simpa using lengths.symm

/-- The longest match of one pattern at the start of a text has this length. -/
def HasLongest
    (pattern : Pattern)
    (text : Text)
    (length : Nat) :
    Prop :=
  ∃ lexeme,
    Matches pattern lexeme ∧
      lexeme <+: text ∧
        lexeme.length = length ∧
          ∀ other, Matches pattern other → other <+: text → other.length ≤ length

theorem word_hasLongest
    {first : Char}
    (starts : startsWord first = true)
    (rest : Text) :
    HasLongest .word (first :: rest)
      (1 + (rest.takeWhile continuesWord).length) := by
  refine ⟨first :: rest.takeWhile continuesWord, .word starts ?_, ?_, ?_, ?_⟩
  · intro character member
    exact List.mem_takeWhile_imp member
  · simpa using List.takeWhile_prefix continuesWord
  · simp [Nat.add_comm]
  · intro other isMatch leading
    cases isMatch with
    | word _ inside =>
        have tail := (List.cons_prefix_cons.mp leading).2
        have bound := length_le_takeWhile inside tail
        simp only [List.length_cons]
        omega

theorem number_hasLongest
    {first : Char}
    (digit : first.isDigit = true)
    (rest : Text) :
    HasLongest .number (first :: rest)
      (1 + (rest.takeWhile Char.isDigit).length) := by
  refine ⟨first :: rest.takeWhile Char.isDigit, .number digit ?_, ?_, ?_, ?_⟩
  · intro character member
    exact List.mem_takeWhile_imp member
  · simpa using List.takeWhile_prefix Char.isDigit
  · simp [Nat.add_comm]
  · intro other isMatch leading
    cases isMatch with
    | number _ inside =>
        have tail := (List.cons_prefix_cons.mp leading).2
        have bound := length_le_takeWhile inside tail
        simp only [List.length_cons]
        omega

theorem quoted_hasLongest
    {mark : Char}
    (isMark : mark = '\x22' ∨ mark = '\x27')
    {inner : Text}
    (fresh : mark ∉ inner)
    (after : Text) :
    HasLongest .quoted (mark :: (inner ++ mark :: after)) (1 + (inner.length + 1)) := by
  refine ⟨mark :: (inner ++ [mark]), .quoted isMark fresh, ⟨after, by simp⟩,
    by simp; omega, ?_⟩
  intro other isMatch leading
  cases isMatch with
  | quoted _ otherFresh =>
      obtain ⟨otherAfter, same⟩ := leading
      simp only [List.cons_append, List.append_assoc, List.nil_append,
        List.cons.injEq] at same
      obtain ⟨rfl, sameRest⟩ := same
      have lengths := quoted_length_unique otherFresh fresh sameRest
      simp only [List.length_cons, List.length_append, List.length_nil]
      omega

theorem arrow_hasLongest (rest : Text) :
    HasLongest .arrow ('-' :: '>' :: rest) 2 := by
  refine ⟨['-', '>'], .arrow, ⟨rest, rfl⟩, rfl, ?_⟩
  intro other isMatch _
  cases isMatch
  exact Nat.le_refl 2

theorem punctuation_hasLongest
    {character : Char}
    (isSymbol : isPunctuation character = true)
    (rest : Text) :
    HasLongest .punctuation (character :: rest) 1 := by
  refine ⟨[character], .punctuation isSymbol, ⟨rest, rfl⟩, rfl, ?_⟩
  intro other isMatch _
  cases isMatch
  exact Nat.le_refl 1

/-- The length that the scanner computes is that of the longest match. -/
theorem matchLength?_hasLongest
    {pattern : Pattern}
    {text : Text}
    {length : Nat}
    (found : pattern.matchLength? text = some length) :
    HasLongest pattern text length := by
  unfold matchLength? at found
  split at found
  · rename_i first rest
    split at found
    · rename_i starts
      cases found
      exact word_hasLongest starts rest
    · cases found
  · rename_i first rest
    split at found
    · rename_i digit
      cases found
      exact number_hasLongest digit rest
    · cases found
  · rename_i first rest
    split at found
    · rename_i isMark
      obtain ⟨inside, closed, rfl⟩ := Option.map_eq_some_iff.mp found
      obtain ⟨inner, after, fresh, rfl, rfl⟩ := closedLength?_eq_some closed
      exact quoted_hasLongest (by simpa using isMark) fresh after
    · cases found
  · rename_i rest
    cases found
    exact arrow_hasLongest rest
  · rename_i first rest
    split at found
    · rename_i isSymbol
      cases found
      exact punctuation_hasLongest isSymbol rest
    · cases found
  · cases found

/-- Where no length is computed, the pattern matches nothing. -/
theorem matchLength?_isSome
    {pattern : Pattern}
    {lexeme text : Text}
    (isMatch : Matches pattern lexeme)
    (leading : lexeme <+: text) :
    (pattern.matchLength? text).isSome := by
  obtain ⟨rest, rfl⟩ := leading
  cases isMatch with
  | word starts _ =>
      simp [matchLength?, starts]
  | number digit _ =>
      simp [matchLength?, digit]
  | quoted mark fresh =>
      have closed := closedLength?_append fresh rest
      rcases mark with rfl | rfl <;> simp [matchLength?, closed]
  | arrow =>
      rfl
  | punctuation isSymbol =>
      simp [matchLength?, isSymbol]

/-! The best of all patterns, kept while they are tried one after the other. -/

/-- The best match is as long as that of any pattern tried so far. -/
def BestOf
    (text : Text)
    (tried : List Pattern) :
    Option (Pattern × Nat) → Prop
  | none =>
      ∀ pattern ∈ tried, pattern.matchLength? text = none
  | some (best, bestLength) =>
      best.matchLength? text = some bestLength ∧
        ∀ pattern ∈ tried, ∀ length,
          pattern.matchLength? text = some length → length ≤ bestLength

/-- Trying one more pattern keeps the best match. -/
theorem better_bestOf
    {text : Text}
    {tried : List Pattern}
    {best : Option (Pattern × Nat)}
    (isBest : BestOf text tried best)
    (pattern : Pattern) :
    BestOf text (tried ++ [pattern]) (better text best pattern) := by
  cases found : pattern.matchLength? text with
  | none =>
      cases best with
      | none =>
          simpa [better, BestOf, or_imp, forall_and, found] using isBest
      | some _ =>
          simpa [better, BestOf, or_imp, forall_and, found] using isBest
  | some length =>
      cases best with
      | none =>
          simp only [BestOf] at isBest
          have untried :
              ∀ other ∈ tried, ∀ otherLength,
                other.matchLength? text = some otherLength → otherLength ≤ length := by
            intro other member otherLength otherFound
            simp [isBest other member] at otherFound
          simpa [better, BestOf, or_imp, forall_and, found] using untried
      | some previous =>
          simp only [BestOf] at isBest
          by_cases longer : previous.2 < length
          · have dominated :
                ∀ other ∈ tried, ∀ otherLength,
                  other.matchLength? text = some otherLength → otherLength ≤ length := by
              intro other member otherLength otherFound
              exact (isBest.2 other member otherLength otherFound).trans longer.le
            simpa [better, BestOf, or_imp, forall_and, found, longer] using dominated
          · have notLonger : length ≤ previous.2 := Nat.le_of_not_lt longer
            simpa [better, BestOf, or_imp, forall_and, found, longer, notLonger]
              using isBest

/-- Trying a list of patterns keeps the best match. -/
theorem foldl_better_bestOf
    {text : Text}
    (patterns : List Pattern)
    {tried : List Pattern}
    {best : Option (Pattern × Nat)}
    (isBest : BestOf text tried best) :
    BestOf text (tried ++ patterns) (patterns.foldl (better text) best) := by
  induction patterns generalizing tried best with
  | nil =>
      simpa using isBest
  | cons pattern rest inductionHypothesis =>
      have further := inductionHypothesis (better_bestOf isBest pattern)
      simpa using further

theorem longest?_bestOf (text : Text) :
    BestOf text all (longest? text) := by
  have start : BestOf text [] none := by
    intro pattern member
    cases member
  exact foldl_better_bestOf all start

theorem mem_all (pattern : Pattern) :
    pattern ∈ all := by
  cases pattern <;> decide

/-- The scanner finds the longest match of all patterns. -/
theorem longest?_eq_some
    {text : Text}
    {pattern : Pattern}
    {length : Nat}
    (found : longest? text = some (pattern, length)) :
    ∃ lexeme rest,
      text = lexeme ++ rest ∧
        lexeme.length = length ∧
          Matches pattern lexeme ∧
            Outlasts lexeme text := by
  have isBest := longest?_bestOf text
  rw [found] at isBest
  obtain ⟨isMatch, longestOfAll⟩ := isBest
  obtain ⟨lexeme, matched, ⟨rest, shape⟩, lexemeLength, _⟩ :=
    matchLength?_hasLongest isMatch
  refine ⟨lexeme, rest, shape.symm, lexemeLength, matched, ?_⟩
  intro other otherLexeme otherMatched leading
  obtain ⟨otherLength, otherFound⟩ :=
    Option.isSome_iff_exists.mp (matchLength?_isSome otherMatched leading)
  obtain ⟨_, _, _, _, longestOfOther⟩ := matchLength?_hasLongest otherFound
  have bound := longestOfAll other (mem_all other) otherLength otherFound
  have otherBound := longestOfOther otherLexeme otherMatched leading
  omega

/-- Where the scanner finds no match, there is none. -/
theorem longest?_eq_none_iff
    {text : Text} :
    longest? text = none ↔ ¬ StartsMatch text := by
  have isBest := longest?_bestOf text
  constructor
  · rintro nothing ⟨pattern, lexeme, matched, leading⟩
    rw [nothing] at isBest
    have found := matchLength?_isSome matched leading
    rw [isBest pattern (mem_all pattern)] at found
    cases found
  · intro noMatch
    cases found : longest? text with
    | none =>
        rfl
    | some best =>
        obtain ⟨lexeme, rest, shape, _, matched, _⟩ := longest?_eq_some found
        exact (noMatch ⟨best.1, lexeme, matched, rest, shape.symm⟩).elim

/-- A prefix that a pattern matches and that outlasts all others is what is found. -/
theorem longest?_of_outlasts
    {pattern : Pattern}
    {lexeme rest : Text}
    (matched : Matches pattern lexeme)
    (outlasts : Outlasts lexeme (lexeme ++ rest)) :
    longest? (lexeme ++ rest) = some (pattern, lexeme.length) := by
  cases found : longest? (lexeme ++ rest) with
  | none =>
      exact (longest?_eq_none_iff.mp found
        ⟨pattern, lexeme, matched, rest, rfl⟩).elim
  | some best =>
      obtain ⟨other, after, shape, otherLength, otherMatched, otherOutlasts⟩ :=
        longest?_eq_some found
      have lengths : lexeme.length = other.length :=
        Nat.le_antisymm
          (otherOutlasts pattern lexeme matched ⟨rest, rfl⟩)
          (outlasts best.1 other otherMatched ⟨after, shape.symm⟩)
      have same : lexeme = other := List.append_inj_left shape lengths
      subst same
      rw [matched.unique otherMatched, otherLength]

end Pattern

end Smsl
