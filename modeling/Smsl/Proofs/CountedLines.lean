import Smsl.Proofs.LineGroups
import Smsl.Semantics.Analysis

namespace Smsl

/-!
# Counting on from line to line

At an action the walk over tokens counts on from the number of the line before it.
Below the last word all builds count alike, so they read the tokens of any unit as a
build that counts without end.  Only a trapping build ends without an analysis, and
exactly if it is given tokens where an action follows a line with the last number.
-/

namespace Counting

theorem next?_of_lt
    {number : Nat}
    (fits : number + 1 < words)
    (counting : Counting) :
    counting.next? number = some (number + 1) := by
  cases counting with
  | unbounded =>
      rfl
  | trapping =>
      exact if_pos fits
  | wrapping =>
      rw [next?, Nat.mod_eq_of_lt fits]

/-- Only a trapping build stops, and only behind the last word. -/
theorem next?_eq_none_iff
    {counting : Counting}
    {number : Nat} :
    counting.next? number = none ↔ counting = .trapping ∧ words ≤ number + 1 := by
  cases counting with
  | unbounded | trapping | wrapping =>
      simp [next?]

end Counting

namespace StateFact

/-! Reading items that may trap. -/

theorem filterMapM_of_forall
    {read : α → Option (Option β)}
    {fact? : α → Option β}
    {items : List α}
    (reads : ∀ item ∈ items, read item = some (fact? item)) :
    items.filterMapM read = some (items.filterMap fact?) := by
  induction items with
  | nil =>
      rfl
  | cons item rest inductionHypothesis =>
      have further :=
        inductionHypothesis fun other member => reads other (List.mem_cons_of_mem item member)
      rw [List.filterMapM_cons, reads item List.mem_cons_self, further, List.filterMap_cons]
      cases fact? item with
      | none =>
          rfl
      | some fact =>
          rfl

theorem filterMapM_eq_none_iff
    {read : α → Option (Option β)}
    {items : List α} :
    items.filterMapM read = none ↔ ∃ item ∈ items, read item = none := by
  induction items with
  | nil =>
      simp
  | cons item rest inductionHypothesis =>
      rw [List.filterMapM_cons, List.exists_mem_cons_iff, ← inductionHypothesis]
      cases read item with
      | none =>
          simp
      | some fact? =>
          cases fact? <;> cases rest.filterMapM read <;> simp

/-! One line of tokens and the line before it. -/

/-- What a line of tokens says, given the line before it and numbers without end. -/
def ofTokenLine?
    (previous : Option TokenLine)
    (line : TokenLine) :
    Option StateFact :=
  ofNeighbours? (previous.filter fun above => above.number + 1 == line.number) line

/-- Only an action says something else under another line. -/
theorem ofNeighbours?_of_not_isAction
    {line : TokenLine}
    (notAction : isAction line = false)
    (above other : Option TokenLine) :
    ofNeighbours? above line = ofNeighbours? other line := by
  obtain ⟨number, tokens⟩ := line
  cases tokens with
  | nil =>
      rfl
  | cons first rest =>
      cases kind : first.kind with
      | keyword word =>
          cases word with
          | action =>
              simp [isAction, kind] at notAction
          | state | transition | event | start | finish =>
              simp only [ofNeighbours?, kind]
      | identifier | number | string | symbol | unknown =>
          simp only [ofNeighbours?, kind]

/-- A build reads a line by the line before it if it can count on from there. -/
theorem read_of_counts
    {counting : Counting}
    {previous : Option TokenLine}
    (counts : ∀ above ∈ previous, counting.next? above.number = some (above.number + 1))
    (line : TokenLine) :
    (directlyAbove? counting previous line).map (fun above => ofNeighbours? above line) =
      some (ofTokenLine? previous line) := by
  cases action : isAction line with
  | false =>
      simp only [directlyAbove?, action, Option.map_some, ofTokenLine?]
      exact congrArg some (ofNeighbours?_of_not_isAction action _ _)
  | true =>
      cases previous with
      | none =>
          simp only [directlyAbove?, action]
          rfl
      | some above =>
          simp only [directlyAbove?, action, counts above rfl]
          by_cases below : above.number + 1 = line.number <;>
            simp [ofTokenLine?, Option.filter_some, below]

/-- A build stops at a line exactly if that is an action and the count from above traps. -/
theorem directlyAbove?_eq_none_iff
    {counting : Counting}
    {previous : Option TokenLine}
    {line : TokenLine} :
    directlyAbove? counting previous line = none ↔
      isAction line = true ∧ ∃ above ∈ previous, counting.next? above.number = none := by
  cases action : isAction line with
  | false =>
      simp [directlyAbove?, action]
  | true =>
      cases previous with
      | none =>
          simp [directlyAbove?, action]
      | some above =>
          cases next : counting.next? above.number <;>
            simp [directlyAbove?, action, next]

/-! All lines of tokens. -/

theorem map_snd_withPrevious (tokens : List Token) :
    (withPrevious tokens).map Prod.snd = TokenLine.group tokens :=
  List.map_snd_zip (by simp)

/-- A line is before another if it stands at the position before. -/
theorem mem_withPrevious_iff
    {tokens : List Token}
    {above line : TokenLine} :
    (some above, line) ∈ withPrevious tokens ↔
      ∃ position,
        (TokenLine.group tokens)[position]? = some above ∧
          (TokenLine.group tokens)[position + 1]? = some line := by
  rw [List.mem_iff_getElem?]
  constructor
  · rintro ⟨position, isPair⟩
    obtain ⟨isPrevious, isLine⟩ := List.getElem?_zip_eq_some.mp isPair
    cases position with
    | zero =>
        cases isPrevious
    | succ position =>
        exact ⟨position, by simpa using isPrevious, isLine⟩
  · rintro ⟨position, isAbove, isLine⟩
    refine ⟨position + 1, List.getElem?_zip_eq_some.mpr ⟨?_, isLine⟩⟩
    simpa using isAbove

/-- A build that can count on from every line reads the lines as one without end. -/
theorem ofTokens?_of_counts
    {counting : Counting}
    {tokens : List Token}
    (counts :
      ∀ line ∈ TokenLine.group tokens,
        counting.next? line.number = some (line.number + 1)) :
    ofTokens? counting tokens =
      some
        ((withPrevious tokens).filterMap fun pair =>
          (ofTokenLine? pair.1 pair.2).map fun fact => (pair.2.number, fact)) := by
  refine filterMapM_of_forall ?_
  rintro ⟨previous, line⟩ member
  have countsAbove :
      ∀ above ∈ previous, counting.next? above.number = some (above.number + 1) := by
    rintro above rfl
    obtain ⟨position, isAbove, _⟩ := mem_withPrevious_iff.mp member
    exact counts above (List.mem_of_getElem? isAbove)
  obtain ⟨above, isAbove, isRead⟩ := Option.map_eq_some_iff.mp (read_of_counts countsAbove line)
  simp [isAbove, ← isRead]

theorem ofTokens_eq (tokens : List Token) :
    ofTokens tokens =
      (withPrevious tokens).filterMap fun pair =>
        (ofTokenLine? pair.1 pair.2).map fun fact => (pair.2.number, fact) := by
  rw [ofTokens, ofTokens?_of_counts fun _ _ => rfl, Option.getD_some]

theorem ofTokens?_unbounded (tokens : List Token) :
    ofTokens? .unbounded tokens = some (ofTokens tokens) := by
  rw [ofTokens_eq]
  exact ofTokens?_of_counts fun _ _ => rfl

/-- All builds read tokens alike whose lines are below the last word. -/
theorem ofTokens?_of_lt
    {tokens : List Token}
    (fits : ∀ token ∈ tokens, token.line + 1 < Counting.words)
    (counting : Counting) :
    ofTokens? counting tokens = some (ofTokens tokens) := by
  rw [ofTokens_eq]
  refine ofTokens?_of_counts ?_
  intro line isLine
  obtain ⟨token, _, isToken, sameLine⟩ :=
    (TokenLine.maximalRuns_group tokens).exists_token isLine
  rw [← sameLine]
  exact Counting.next?_of_lt (fits token isToken) counting

/--
Among the lines of tokens an action follows a line with the last number, so that there
is no word behind it.
-/
def CountsPastLastWord (tokens : List Token) : Prop :=
  ∃ position above line,
    (TokenLine.group tokens)[position]? = some above ∧
      (TokenLine.group tokens)[position + 1]? = some line ∧
        isAction line = true ∧
          Counting.words ≤ above.number + 1

/-- Only a trapping build does not read tokens, if it has to count past the last word. -/
theorem ofTokens?_eq_none_iff
    {counting : Counting}
    {tokens : List Token} :
    ofTokens? counting tokens = none ↔
      counting = .trapping ∧ CountsPastLastWord tokens := by
  have stops :
      ofTokens? counting tokens = none ↔
        ∃ pair ∈ withPrevious tokens, directlyAbove? counting pair.1 pair.2 = none := by
    simp only [ofTokens?, filterMapM_eq_none_iff, Option.map_eq_none_iff]
  rw [stops]
  constructor
  · rintro ⟨⟨previous, line⟩, member, isNone⟩
    obtain ⟨action, above, rfl, traps⟩ := directlyAbove?_eq_none_iff.mp isNone
    obtain ⟨isTrapping, past⟩ := Counting.next?_eq_none_iff.mp traps
    obtain ⟨position, isAbove, isLine⟩ := mem_withPrevious_iff.mp member
    exact ⟨isTrapping, position, above, line, isAbove, isLine, action, past⟩
  · rintro ⟨isTrapping, position, above, line, isAbove, isLine, action, past⟩
    have traps := Counting.next?_eq_none_iff.mpr ⟨isTrapping, past⟩
    exact
      ⟨(some above, line), mem_withPrevious_iff.mpr ⟨position, isAbove, isLine⟩,
        directlyAbove?_eq_none_iff.mpr ⟨action, above, rfl, traps⟩⟩

end StateFact

namespace Scan

/-- The tokens of a unit are numbered by its lines. -/
theorem line_le_length
    {limits : ScanLimits}
    {detailed : Bool}
    {lines : List Text}
    {token : Token}
    (isToken : token ∈ (ofLines limits detailed lines).tokens) :
    token.line ≤ lines.length := by
  rw [ofLines_tokens] at isToken
  obtain ⟨placed, isPlaced, rfl⟩ := List.mem_map.mp isToken
  obtain ⟨line, isLine, onLine⟩ := List.mem_flatMap.mp (List.mem_of_mem_take isPlaced)
  obtain ⟨lexeme, _, rfl⟩ := List.mem_map.mp onLine
  obtain ⟨index, raw, isRaw, significant⟩ := SourceLine.mem_significant_iff.mp isLine
  have number : line.number = index + 1 := by
    rw [(SourceLine.ofRaw?_eq_some_iff.mp significant).2]
  have inBounds := (List.getElem?_eq_some_iff.mp isRaw).1
  change line.number ≤ lines.length
  omega

end Scan

namespace Analysis

/-- Only a trapping build ends without an analysis, and only of tokens. -/
theorem ofUnit?_eq_none_iff
    {counting : Counting}
    {policy : AttributionPolicy}
    {input : SemanticInput}
    {lines : List Text}
    {tokens : List Token} :
    ofUnit? counting policy input lines tokens = none ↔
      counting = .trapping ∧ input = .tokens ∧ StateFact.CountsPastLastWord tokens := by
  cases input with
  | lines =>
      simp [ofUnit?, facts?]
  | tokens =>
      simp [ofUnit?, facts?, StateFact.ofTokens?_eq_none_iff]

/-- A build that reads the tokens of a unit as they are analyzes the unit. -/
theorem ofUnit?_of_reads
    {counting : Counting}
    {tokens : List Token}
    (reads : StateFact.ofTokens? counting tokens = some (StateFact.ofTokens tokens))
    (policy : AttributionPolicy)
    (input : SemanticInput)
    (lines : List Text) :
    ofUnit? counting policy input lines tokens = some (ofUnit policy input lines tokens) := by
  cases input with
  | lines =>
      rfl
  | tokens =>
      simp [ofUnit?, ofUnit, facts?, facts, reads]

/-- Without an end of the numbers the analysis is that of the unit. -/
theorem ofUnit?_unbounded
    (policy : AttributionPolicy)
    (input : SemanticInput)
    (lines : List Text)
    (tokens : List Token) :
    ofUnit? .unbounded policy input lines tokens = some (ofUnit policy input lines tokens) :=
  ofUnit?_of_reads (StateFact.ofTokens?_unbounded tokens) policy input lines

/-- A unit shorter than there are words is analyzed alike by all builds. -/
theorem ofUnit?_of_scan
    {lines : List Text}
    (fits : lines.length + 1 < Counting.words)
    (counting : Counting)
    (policy : AttributionPolicy)
    (input : SemanticInput)
    (limits : ScanLimits)
    (detailed : Bool) :
    ofUnit? counting policy input lines (Scan.ofLines limits detailed lines).tokens =
      some (ofUnit policy input lines (Scan.ofLines limits detailed lines).tokens) := by
  refine ofUnit?_of_reads (StateFact.ofTokens?_of_lt ?_ counting) policy input lines
  intro token isToken
  exact Nat.lt_of_le_of_lt (Nat.succ_le_succ (Scan.line_le_length isToken)) fits

end Analysis

end Smsl
