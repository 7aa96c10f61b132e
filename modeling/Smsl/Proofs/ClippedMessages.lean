import Mathlib.Data.List.Infix
import Mathlib.Data.String.Basic
import Smsl.Log.Event

namespace Smsl

/-!
# Clipped messages

A log message that is too long is cut at the last byte within the limit at which a
character ends, and dots mark the cut.  Characters take one to four bytes, so the
search for that byte goes back by three at most, and what is kept is the longest
run of whole characters that fits.
-/

namespace Text

/-! Leading characters of a size. -/

theorem firstBytes?_zero (text : Text) :
    firstBytes? text 0 = some [] := by
  cases text <;> rfl

/-- A text can be cut at some byte exactly if some leading characters take that many. -/
theorem firstBytes?_eq_some_iff
    {text start : Text}
    {bytes : Nat} :
    firstBytes? text bytes = some start ↔ start <+: text ∧ String.utf8Len start = bytes := by
  fun_induction firstBytes? text bytes generalizing start with
  | case1 text =>
      simp only [Option.some.injEq, String.utf8Len_eq_zero]
      constructor
      · rintro rfl
        exact ⟨List.nil_prefix, rfl⟩
      · rintro ⟨_, rfl⟩
        rfl
  | case2 bytes =>
      simp only [reduceCtorEq, false_iff]
      rintro ⟨isStart, size⟩
      obtain rfl := List.prefix_nil.mp isStart
      cases size
  | case3 character rest bytes fits inductionHypothesis =>
      simp only [Option.map_eq_some_iff, inductionHypothesis]
      constructor
      · rintro ⟨tail, ⟨isTail, size⟩, rfl⟩
        refine ⟨List.cons_prefix_cons.mpr ⟨rfl, isTail⟩, ?_⟩
        rw [String.utf8Len_cons]
        omega
      · rintro ⟨isStart, size⟩
        cases start with
        | nil =>
            cases size
        | cons first tail =>
            obtain ⟨rfl, isTail⟩ := List.cons_prefix_cons.mp isStart
            rw [String.utf8Len_cons] at size
            exact ⟨tail, ⟨isTail, by omega⟩, rfl⟩
  | case4 character rest bytes tooWide =>
      simp only [reduceCtorEq, false_iff]
      rintro ⟨isStart, size⟩
      cases start with
      | nil =>
          cases size
      | cons first tail =>
          obtain ⟨rfl, _⟩ := List.cons_prefix_cons.mp isStart
          rw [String.utf8Len_cons] at size
          omega

/-- Of two runs of leading characters, the one of fewer bytes begins the other. -/
theorem prefix_of_utf8Len_le
    {text start other : Text}
    (isStart : start <+: text)
    (isOther : other <+: text)
    (smaller : String.utf8Len other ≤ String.utf8Len start) :
    other <+: start := by
  rcases List.prefix_or_prefix_of_prefix isOther isStart with inside | beyond
  · exact inside
  · obtain ⟨gap, rfl⟩ := beyond
    rw [String.utf8Len_append] at smaller
    have nothing : gap = [] := String.utf8Len_eq_zero.mp (by omega)
    rw [nothing, List.append_nil]

/-- Some character ends at most three bytes before any byte of a text. -/
theorem exists_start_near
    {text : Text}
    {limit : Nat}
    (reaches : limit ≤ String.utf8Len text) :
    ∃ start,
      start <+: text ∧ String.utf8Len start ≤ limit ∧ limit ≤ String.utf8Len start + 3 := by
  induction text generalizing limit with
  | nil =>
      exact ⟨[], List.nil_prefix, Nat.zero_le _, Nat.le_trans reaches (Nat.zero_le _)⟩
  | cons character rest inductionHypothesis =>
      have narrow := character.utf8Size_le_four
      rw [String.utf8Len_cons] at reaches
      by_cases fits : character.utf8Size ≤ limit
      · obtain ⟨start, isStart, within, near⟩ :=
          @inductionHypothesis (limit - character.utf8Size) (by omega)
        refine ⟨character :: start, List.cons_prefix_cons.mpr ⟨rfl, isStart⟩, ?_, ?_⟩
        all_goals rw [String.utf8Len_cons]; omega
      · refine ⟨[], List.nil_prefix, Nat.zero_le _, ?_⟩
        rw [String.utf8Len_nil]
        omega

/-! The search for the cut. -/

/-- The search goes back over bytes at which no character ends, to one at which one does. -/
structure SearchesBack
    (text : Text)
    (limit back : Nat)
    (start : Text) :
    Prop where
  within :
    back ≤ limit
  passes :
    ∀ passed < back, firstBytes? text (limit - passed) = none
  finds :
    firstBytes? text (limit - back) = some start

/-- The search ends, at the start of the text at the latest. -/
theorem exists_searchesBack
    (text : Text)
    (limit : Nat) :
    ∃ back, SearchesBack text limit back (firstWithin text limit) := by
  induction limit with
  | zero =>
      exact ⟨0, Nat.le_refl 0, by simp, firstBytes?_zero text⟩
  | succ limit inductionHypothesis =>
      rw [firstWithin]
      split
      case h_1 start found =>
          exact ⟨0, Nat.zero_le _, by simp, found⟩
      case h_2 missing =>
          obtain ⟨back, within, passes, finds⟩ := inductionHypothesis
          refine ⟨back + 1, Nat.succ_le_succ within, ?_, by simpa using finds⟩
          intro passed isPassed
          cases passed with
          | zero =>
              exact missing
          | succ earlier =>
              simpa using passes earlier (by omega)

-- The second byte is inside a character, so the cut is before that character.
example : firstWithin ['a', 'é', 'b'] 2 = ['a'] := by
  decide

/-- What is found holds every run of leading characters within the limit. -/
theorem SearchesBack.longest
    {text start other : Text}
    {limit back : Nat}
    (searches : SearchesBack text limit back start)
    (isOther : other <+: text)
    (fits : String.utf8Len other ≤ limit) :
    other <+: start := by
  obtain ⟨isStart, size⟩ := firstBytes?_eq_some_iff.mp searches.finds
  apply prefix_of_utf8Len_le isStart isOther
  have found : firstBytes? text (String.utf8Len other) = some other :=
    firstBytes?_eq_some_iff.mpr ⟨isOther, rfl⟩
  by_contra larger
  -- Otherwise the search has passed the byte at which the other run ends.
  have passed := searches.passes (limit - String.utf8Len other) (by omega)
  rw [Nat.sub_sub_self fits, found] at passed
  cases passed

/-- Within a text the search goes back by three bytes at most. -/
theorem SearchesBack.back_le
    {text start : Text}
    {limit back : Nat}
    (searches : SearchesBack text limit back start)
    (reaches : limit ≤ String.utf8Len text) :
    back ≤ 3 := by
  obtain ⟨near, isNear, fits, isClose⟩ := exists_start_near reaches
  obtain ⟨_, size⟩ := firstBytes?_eq_some_iff.mp searches.finds
  have inside := String.utf8Len_le_of_prefix (searches.longest isNear fits)
  have within := searches.within
  omega

/-- The longest run of leading characters within a limit begins like the text. -/
theorem head?_firstWithin
    (first : Char)
    (rest : Text)
    {limit : Nat}
    (fits : first.utf8Size ≤ limit) :
    (firstWithin (first :: rest) limit).head? = some first := by
  obtain ⟨back, searches⟩ := exists_searchesBack (first :: rest) limit
  have begins : [first] <+: firstWithin (first :: rest) limit :=
    searches.longest (by simp) (by simpa using fits)
  obtain ⟨further, shape⟩ := begins
  rw [← shape]
  rfl

end Text

namespace Log

/-- The longest run of leading characters of a message within some bytes. -/
structure LongestWithin
    (limit : Nat)
    (message start : String) :
    Prop where
  begins :
    start.toList <+: message.toList
  fits :
    start.utf8ByteSize ≤ limit
  longest :
    ∀ other : String, other.toList <+: message.toList → other.utf8ByteSize ≤ limit →
      other.toList <+: start.toList

/-- How a message is kept: unchanged, or cut at the last character that fits. -/
structure Clips
    (message kept : String) :
    Prop where
  short :
    message.utf8ByteSize ≤ Limits.maxLogMessageLength → kept = message
  long :
    Limits.maxLogMessageLength < message.utf8ByteSize →
      ∃ (start : String) (back : Nat),
        Text.SearchesBack message.toList Limits.maxLogMessageLength back start.toList ∧
          back ≤ 3 ∧
            kept = start ++ "..." ∧
              LongestWithin Limits.maxLogMessageLength message start ∧
                4093 ≤ start.utf8ByteSize ∧ kept.utf8ByteSize ≤ 4099

theorem longestWithin_of_search
    {message start : String}
    {limit back : Nat}
    (searches : Text.SearchesBack message.toList limit back start.toList) :
    LongestWithin limit message start := by
  obtain ⟨isStart, size⟩ := Text.firstBytes?_eq_some_iff.mp searches.finds
  rw [String.utf8Len_toList] at size
  refine ⟨isStart, by omega, ?_⟩
  intro other isOther fits
  exact searches.longest isOther (by rwa [String.utf8Len_toList])

/--
Every event keeps its message as it is if it fits the limit.  Otherwise the search
for the end of a character ends at most three bytes before the limit, and the
event keeps the longest run of whole characters that fits, with dots behind it.
-/
theorem clips_message
    (level : Level)
    (code : Code)
    (message : String) :
    Clips message (Event.ofLevel level code message).message := by
  refine ⟨fun fits => if_pos fits, fun tooLong => ?_⟩
  obtain ⟨back, searches⟩ :=
    Text.exists_searchesBack message.toList Limits.maxLogMessageLength
  generalize isStart : Text.firstWithin message.toList Limits.maxLogMessageLength = found
    at searches
  have kept :
      (Event.ofLevel level code message).message = String.ofList found ++ "..." := by
    rw [← isStart]
    exact if_neg (Nat.not_le_of_lt tooLong)
  rw [← String.toList_ofList (l := found)] at searches
  have back_le : back ≤ 3 := by
    apply searches.back_le
    rw [String.utf8Len_toList]
    exact Nat.le_of_lt tooLong
  obtain ⟨_, size⟩ := Text.firstBytes?_eq_some_iff.mp searches.finds
  rw [String.utf8Len_toList] at size
  have limit : Limits.maxLogMessageLength = 4096 := rfl
  have dots : "...".utf8ByteSize = 3 := rfl
  refine
    ⟨String.ofList found, back, searches, back_le, kept, longestWithin_of_search searches, ?_, ?_⟩
  · omega
  · rw [kept, String.utf8ByteSize_append]
    omega

end Log

end Smsl
