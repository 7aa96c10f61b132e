import Smsl.Line
import Smsl.Proofs.TextCuts

namespace Smsl

/-!
# Significant lines and their neighbours

The significant lines of a unit come in order of their numbers, and a number
leads back to the raw line that it counts.  Each significant line is also listed
with the significant line directly above it, if the raw line there is one.
-/

namespace SourceLine

/-- The significant lines among raw lines that are counted from a given number. -/
def significantFrom
    (start : Nat)
    (lines : List Text) :
    List SourceLine :=
  (lines.zipIdx start).filterMap fun numbered =>
    ofRaw? numbered.1 numbered.2

theorem significant_eq_from (lines : List Text) :
    significant lines = significantFrom 1 lines :=
  rfl

theorem significantFrom_cons
    (start : Nat)
    (raw : Text)
    (rest : List Text) :
    significantFrom start (raw :: rest) =
      (ofRaw? raw start).toList ++ significantFrom (start + 1) rest := by
  cases found : ofRaw? raw start <;>
    simp [significantFrom, found]

theorem length_significant_le (lines : List Text) :
    (significant lines).length ≤ lines.length := by
  have bound : (significant lines).length ≤ (lines.zipIdx 1).length :=
    List.length_filterMap_le _ _
  rwa [List.length_zipIdx] at bound

/-- A line without slashes has no comment. -/
theorem beforeComment_of_noSlash
    {raw : Text}
    (noSlash : '/' ∉ raw) :
    beforeComment raw = raw := by
  induction raw with
  | nil =>
      rfl
  | cons first rest inductionHypothesis =>
      have notFirst : first ≠ '/' := by
        rintro rfl
        exact noSlash List.mem_cons_self
      have notLater : '/' ∉ rest := by
        intro member
        exact noSlash (List.mem_cons_of_mem first member)
      unfold beforeComment
      split
      · contradiction
      · rename_i isSlash
        exact (notFirst (List.cons.inj isSlash).1).elim
      · rename_i shape
        cases shape
        rw [inductionHypothesis notLater]

/-- A raw line is significant if text remains, and then under its own number. -/
theorem ofRaw?_eq_some_iff
    {raw : Text}
    {number : Nat}
    {line : SourceLine} :
    ofRaw? raw number = some line ↔
      sanitize raw ≠ [] ∧ line = { number, text := sanitize raw } := by
  by_cases empty : sanitize raw = []
  · simp [ofRaw?, empty]
  · simp only [ofRaw?, List.isEmpty_iff, empty, ↓reduceIte, Option.some.injEq, ne_eq,
      not_false_eq_true, true_and]
    exact eq_comm

theorem ofRaw?_eq_none_iff
    {raw : Text}
    {number : Nat} :
    ofRaw? raw number = none ↔ sanitize raw = [] := by
  simp [ofRaw?]

/-- A significant line begins with no blank. -/
theorem begins_of_ofRaw?
    {raw : Text}
    {number : Nat}
    {line : SourceLine}
    (significant : ofRaw? raw number = some line) :
    ∃ first rest, line.text = first :: rest ∧ Text.isBlank first = false := by
  obtain ⟨nonempty, rfl⟩ := ofRaw?_eq_some_iff.mp significant
  obtain ⟨first, rest, shape⟩ := List.exists_cons_of_ne_nil nonempty
  exact ⟨first, rest, shape, Text.trim_begins shape⟩

/-- Numbers begin at the start and lead back to raw lines. -/
theorem mem_significantFrom_iff
    {start : Nat}
    {lines : List Text}
    {line : SourceLine} :
    line ∈ significantFrom start lines ↔
      ∃ index raw,
        lines[index]? = some raw ∧ ofRaw? raw (start + index) = some line := by
  simp only [significantFrom, List.mem_filterMap, Prod.exists,
    List.mk_mem_zipIdx_iff_le_and_getElem?_sub]
  constructor
  · rintro ⟨raw, number, ⟨atLeast, found⟩, isLine⟩
    exact ⟨number - start, raw, found, by rwa [Nat.add_sub_cancel' atLeast]⟩
  · rintro ⟨index, raw, found, isLine⟩
    exact ⟨raw, start + index, ⟨by omega, by simpa using found⟩, isLine⟩

theorem mem_significant_iff
    {lines : List Text}
    {line : SourceLine} :
    line ∈ significant lines ↔
      ∃ index raw,
        lines[index]? = some raw ∧ ofRaw? raw (index + 1) = some line := by
  simp only [significant_eq_from, mem_significantFrom_iff, Nat.add_comm]

theorem start_le_number
    {start : Nat}
    {lines : List Text}
    {line : SourceLine}
    (member : line ∈ significantFrom start lines) :
    start ≤ line.number := by
  obtain ⟨index, raw, _, isLine⟩ := mem_significantFrom_iff.mp member
  rw [(ofRaw?_eq_some_iff.mp isLine).2]
  exact Nat.le_add_right start index

/-- Significant lines come in order of their numbers. -/
theorem significantFrom_pairwise
    (start : Nat)
    (lines : List Text) :
    (significantFrom start lines).Pairwise
      (fun first second => first.number < second.number) := by
  induction lines generalizing start with
  | nil =>
      exact .nil
  | cons raw rest inductionHypothesis =>
      rw [significantFrom_cons]
      cases found : ofRaw? raw start with
      | none =>
          exact inductionHypothesis (start + 1)
      | some line =>
          have number : line.number = start := by
            rw [(ofRaw?_eq_some_iff.mp found).2]
          refine .cons ?_ (inductionHypothesis (start + 1))
          intro later member
          rw [number]
          exact start_le_number member

/-- A number picks out the line that it counts. -/
theorem filter_number_significantFrom
    (start : Nat)
    {lines : List Text}
    {index : Nat}
    {raw : Text}
    (found : lines[index]? = some raw) :
    (significantFrom start lines).filter
        (fun line => line.number = start + index) =
      (ofRaw? raw (start + index)).toList := by
  induction lines generalizing start index with
  | nil =>
      simp at found
  | cons first rest inductionHypothesis =>
      rw [significantFrom_cons, List.filter_append]
      cases index with
      | zero =>
          simp only [List.getElem?_cons_zero, Option.some.injEq] at found
          subst found
          have later :
              (significantFrom (start + 1) rest).filter
                (fun line => line.number = start + 0) = [] := by
            rw [List.filter_eq_nil_iff]
            intro line member
            have bound := start_le_number member
            simp only [decide_eq_true_eq]
            omega
          rw [later, List.append_nil]
          cases isLine : ofRaw? first start with
          | none =>
              simp
          | some line =>
              have number : line.number = start := by
                rw [(ofRaw?_eq_some_iff.mp isLine).2]
              simp [number]
      | succ before =>
          have earlier :
              (ofRaw? first start).toList.filter
                (fun line => line.number = start + (before + 1)) = [] := by
            rw [List.filter_eq_nil_iff]
            intro line member
            have isLine : ofRaw? first start = some line := by simpa using member
            rw [(ofRaw?_eq_some_iff.mp isLine).2]
            simp
          have further := inductionHypothesis (start + 1) (by simpa using found)
          rw [earlier, List.nil_append]
          simpa [Nat.add_assoc, Nat.add_comm 1] using further

/-! Each significant line with the one directly above it. -/

/--
The significant lines among raw lines that are counted from a number, each with
the significant line directly above it; the one above the first is given.
-/
def withAbove
    (above : Option SourceLine)
    (start : Nat) :
    List Text → List (Option SourceLine × SourceLine)
  | [] =>
      []
  | raw :: rest =>
      match ofRaw? raw start with
      | none =>
          withAbove none (start + 1) rest
      | some line =>
          (above, line) :: withAbove (some line) (start + 1) rest

theorem withAbove_of_none
    {raw : Text}
    {start : Nat}
    (insignificant : ofRaw? raw start = none)
    (above : Option SourceLine)
    (rest : List Text) :
    withAbove above start (raw :: rest) = withAbove none (start + 1) rest := by
  simp [withAbove, insignificant]

theorem withAbove_of_some
    {raw : Text}
    {start : Nat}
    {line : SourceLine}
    (significant : ofRaw? raw start = some line)
    (above : Option SourceLine)
    (rest : List Text) :
    withAbove above start (raw :: rest) =
      (above, line) :: withAbove (some line) (start + 1) rest := by
  simp [withAbove, significant]

/-- The lines that are listed with their neighbours are the significant ones. -/
theorem map_snd_withAbove
    (above : Option SourceLine)
    (start : Nat)
    (lines : List Text) :
    (withAbove above start lines).map Prod.snd = significantFrom start lines := by
  induction lines generalizing above start with
  | nil =>
      rfl
  | cons raw rest inductionHypothesis =>
      rw [significantFrom_cons]
      cases found : ofRaw? raw start with
      | none =>
          rw [withAbove_of_none found]
          exact inductionHypothesis none (start + 1)
      | some line =>
          rw [withAbove_of_some found, List.map_cons,
            inductionHypothesis (some line) (start + 1)]
          rfl

theorem exists_withAbove
    {lines : List Text}
    {line : SourceLine}
    (member : line ∈ significant lines) :
    ∃ above, (above, line) ∈ withAbove none 1 lines := by
  rw [significant_eq_from, ← map_snd_withAbove none] at member
  simpa using member

theorem mem_significant_of_withAbove
    {lines : List Text}
    {above : Option SourceLine}
    {line : SourceLine}
    (member : (above, line) ∈ withAbove none 1 lines) :
    line ∈ significant lines := by
  rw [significant_eq_from, ← map_snd_withAbove none]
  exact List.mem_map_of_mem member

/-- A neighbour is given, or it is the raw line one position higher up. -/
theorem mem_withAbove_iff
    {given : Option SourceLine}
    {start : Nat}
    {lines : List Text}
    {above : Option SourceLine}
    {line : SourceLine} :
    (above, line) ∈ withAbove given start lines ↔
      (∃ raw, lines[0]? = some raw ∧ ofRaw? raw start = some line ∧ above = given) ∨
        ∃ index upper raw,
          lines[index]? = some upper ∧
            lines[index + 1]? = some raw ∧
              ofRaw? raw (start + (index + 1)) = some line ∧
                above = ofRaw? upper (start + index) := by
  induction lines generalizing given start with
  | nil =>
      simp [withAbove]
  | cons first rest inductionHypothesis =>
      have later :
          (above, line) ∈ withAbove (ofRaw? first start) (start + 1) rest ↔
            ∃ index upper raw,
              (first :: rest)[index]? = some upper ∧
                (first :: rest)[index + 1]? = some raw ∧
                  ofRaw? raw (start + (index + 1)) = some line ∧
                    above = ofRaw? upper (start + index) := by
        rw [inductionHypothesis]
        constructor
        · rintro (⟨raw, found, isLine, isAbove⟩ |
            ⟨index, upper, raw, foundUpper, found, isLine, isAbove⟩)
          · exact ⟨0, first, raw, rfl, by simpa using found, by simpa using isLine,
              by simpa using isAbove⟩
          · refine ⟨index + 1, upper, raw, by simpa using foundUpper,
              by simpa using found, ?_, ?_⟩
            · rwa [Nat.add_assoc, Nat.add_comm 1] at isLine
            · rwa [Nat.add_assoc, Nat.add_comm 1] at isAbove
        · rintro ⟨index, upper, raw, foundUpper, found, isLine, isAbove⟩
          cases index with
          | zero =>
              simp only [List.getElem?_cons_zero, Option.some.injEq] at foundUpper
              subst foundUpper
              exact .inl ⟨raw, by simpa using found, isLine, isAbove⟩
          | succ index =>
              refine .inr ⟨index, upper, raw, by simpa using foundUpper,
                by simpa using found, ?_, ?_⟩
              · rwa [Nat.add_assoc, Nat.add_comm 1]
              · rwa [Nat.add_assoc, Nat.add_comm 1]
      rw [← later]
      cases isFirst : ofRaw? first start with
      | none =>
          rw [withAbove_of_none isFirst]
          simp [isFirst]
      | some firstLine =>
          rw [withAbove_of_some isFirst]
          simp [isFirst, and_comm, eq_comm]

/-- A neighbour above is a significant line, one number lower. -/
theorem above_of_withAbove
    {lines : List Text}
    {above line : SourceLine}
    (member : (some above, line) ∈ withAbove none 1 lines) :
    above ∈ significant lines ∧ above.number + 1 = line.number := by
  rcases mem_withAbove_iff.mp member with
      ⟨_, _, _, isNone⟩ | ⟨index, upper, raw, foundUpper, _, isLine, isAbove⟩
  · cases isNone
  · refine ⟨mem_significantFrom_iff.mpr ⟨index, upper, foundUpper, isAbove.symm⟩, ?_⟩
    rw [(ofRaw?_eq_some_iff.mp isLine).2, (ofRaw?_eq_some_iff.mp isAbove.symm).2]
    exact Nat.add_assoc 1 index 1

/-- The significant line one number lower is the neighbour above. -/
theorem mem_withAbove_of_consecutive
    {lines : List Text}
    {above line : SourceLine}
    (isAbove : above ∈ significant lines)
    (isLine : line ∈ significant lines)
    (consecutive : above.number + 1 = line.number) :
    (some above, line) ∈ withAbove none 1 lines := by
  obtain ⟨index, raw, found, significant⟩ := mem_significant_iff.mp isLine
  obtain ⟨upperIndex, upper, foundUpper, upperSignificant⟩ :=
    mem_significant_iff.mp isAbove
  have isNumber : line.number = index + 1 := by
    rw [(ofRaw?_eq_some_iff.mp significant).2]
  have isUpperNumber : above.number = upperIndex + 1 := by
    rw [(ofRaw?_eq_some_iff.mp upperSignificant).2]
  obtain rfl : index = upperIndex + 1 := by omega
  refine mem_withAbove_iff.mpr (.inr ⟨upperIndex, upper, raw, foundUpper, found, ?_, ?_⟩)
  · rwa [Nat.add_comm 1]
  · rw [Nat.add_comm 1, upperSignificant]

/-- A number counts one line. -/
theorem eq_of_number_eq
    {lines : List Text}
    {first second : SourceLine}
    (isFirst : first ∈ significant lines)
    (isSecond : second ∈ significant lines)
    (sameNumber : first.number = second.number) :
    first = second := by
  obtain ⟨firstIndex, firstRaw, foundFirst, firstLine⟩ := mem_significant_iff.mp isFirst
  obtain ⟨secondIndex, secondRaw, foundSecond, secondLine⟩ :=
    mem_significant_iff.mp isSecond
  have isFirstNumber : first.number = firstIndex + 1 := by
    rw [(ofRaw?_eq_some_iff.mp firstLine).2]
  have isSecondNumber : second.number = secondIndex + 1 := by
    rw [(ofRaw?_eq_some_iff.mp secondLine).2]
  have sameIndex : firstIndex = secondIndex := by
    omega
  subst sameIndex
  rw [foundFirst] at foundSecond
  cases foundSecond
  rw [firstLine] at secondLine
  exact Option.some.inj secondLine

end SourceLine

end Smsl
