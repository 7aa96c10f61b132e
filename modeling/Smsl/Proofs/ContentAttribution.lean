import Smsl.Proofs.LineVerdict

namespace Smsl

/-!
# Where content comes from

An analysis by lines skips what is not significant, looks up the line above an
action by its number among the raw lines, and gives content to the first record
of a name.  What this amounts to can be read off the raw lines: an action counts
for the state on the line directly above it if that line is spelled exactly as a
declaration, whether it declares the state first or again; or, where any action
counts, for every state that is declared further up.
-/

namespace SourceLine

/-- What remains of the raw line with a number, counted from 1. -/
def textAt?
    (lines : List Text)
    (number : Nat) :
    Option Text :=
  if number = 0 then
    none
  else
    lines[number - 1]?.map sanitize

/-- What remains of the line with a number starts with `action`. -/
def ActsAt
    (lines : List Text)
    (number : Nat) :
    Prop :=
  ∃ text, textAt? lines number = some text ∧ "action".toList <+: text

/-- The text of a line that reads `state`, a name and a brace, one space apart. -/
def declarationOf (name : String) : Text :=
  "state ".toList ++ (name.toList ++ " \x7b".toList)

/-- The significant lines are the raw lines of which text remains. -/
theorem mem_significant_iff_textAt?
    {lines : List Text}
    {line : SourceLine} :
    line ∈ significant lines ↔
      textAt? lines line.number = some line.text ∧ line.text ≠ [] := by
  rw [mem_significant_iff]
  constructor
  · rintro ⟨index, raw, found, isLine⟩
    obtain ⟨remains, rfl⟩ := ofRaw?_eq_some_iff.mp isLine
    exact ⟨by simp [textAt?, found], remains⟩
  · rintro ⟨isText, remains⟩
    obtain ⟨number, text⟩ := line
    cases number with
    | zero =>
        cases isText
    | succ index =>
        obtain ⟨raw, found, rfl⟩ := Option.map_eq_some_iff.mp isText
        exact ⟨index, raw, found, ofRaw?_eq_some_iff.mpr ⟨remains, rfl⟩⟩

theorem number_pos
    {lines : List Text}
    {line : SourceLine}
    (member : line ∈ significant lines) :
    1 ≤ line.number :=
  start_le_number member

end SourceLine

/-- A line is an action by its leading text, since no other statement starts so. -/
theorem StatementKind.ofText_eq_action_iff (text : Text) :
    ofText text = .action ↔ "action".toList <+: text := by
  constructor
  · intro isAction
    unfold ofText at isAction
    split_ifs at isAction with isState isTransition starts
    exact List.isPrefixOf_iff_prefix.mp starts
  · rintro ⟨rest, rfl⟩
    rfl

namespace SourceLine

/-- The lines that start with `action` are the significant lines that act. -/
theorem actsAt_iff
    {lines : List Text}
    {number : Nat} :
    ActsAt lines number ↔
      ∃ text, { number, text } ∈ ofKind .action lines := by
  simp only [ActsAt, mem_ofKind_iff, mem_significant_iff_textAt?,
    StatementKind.ofText_eq_action_iff]
  constructor
  · rintro ⟨text, isText, starts⟩
    refine ⟨text, ⟨isText, ?_⟩, starts⟩
    rintro rfl
    cases starts with
    | intro rest shape => cases shape
  · rintro ⟨text, ⟨isText, _⟩, starts⟩
    exact ⟨text, isText, starts⟩

end SourceLine

namespace LineReading

/-- By lines an action stands below a declaration of a name as it is spelled. -/
theorem actsFor_ofTexts_iff
    {lines : List Text}
    {name : String}
    (noBlank : Text.NoBlank name.toList)
    (nonempty : name.toList ≠ []) :
    ofTexts.ActsFor lines name ↔
      ∃ number,
        2 ≤ number ∧
          SourceLine.ActsAt lines number ∧
            SourceLine.textAt? lines (number - 1) =
              some (SourceLine.declarationOf name) := by
  constructor
  · rintro ⟨upper, line, isPair, isAction, isAdjacent⟩
    have isLine := SourceLine.mem_significant_of_withAbove isPair
    obtain ⟨isUpper, directlyAbove⟩ := SourceLine.above_of_withAbove isPair
    have spelled : upper.text = SourceLine.declarationOf name :=
      (StateFact.declaredOn?_eq_some_iff.mp isAdjacent).1
    have atLeast := SourceLine.number_pos isUpper
    refine ⟨line.number, by omega, ?_, ?_⟩
    · exact SourceLine.actsAt_iff.mpr
        ⟨line.text, SourceLine.mem_ofKind_iff.mpr ⟨isLine, isAction⟩⟩
    · rw [← directlyAbove, Nat.add_sub_cancel, ← spelled]
      exact (SourceLine.mem_significant_iff_textAt?.mp isUpper).1
  · rintro ⟨number, atLeast, acts, spelled⟩
    obtain ⟨text, isAction⟩ := SourceLine.actsAt_iff.mp acts
    obtain ⟨isLine, isKind⟩ := SourceLine.mem_ofKind_iff.mp isAction
    have isUpper :
        { number := number - 1, text := SourceLine.declarationOf name } ∈
          SourceLine.significant lines :=
      SourceLine.mem_significant_iff_textAt?.mpr ⟨spelled, nofun⟩
    refine ⟨_, _, SourceLine.mem_withAbove_of_consecutive isUpper isLine ?_, isKind, ?_⟩
    · exact Nat.sub_add_cancel (Nat.le_of_succ_le atLeast)
    · exact StateFact.declaredOn?_eq_some_iff.mpr ⟨rfl, noBlank, nonempty⟩

end LineReading

/-- The lines of a unit give content to a state under a policy. -/
def AttributionPolicy.GivesContent
    (lines : List Text)
    (record : StateRecord) :
    AttributionPolicy → Prop
  | .adjacentDeclaration =>
      ∃ number,
        2 ≤ number ∧
          SourceLine.ActsAt lines number ∧
            SourceLine.textAt? lines (number - 1) =
              some (SourceLine.declarationOf record.name)
  | .anyAction =>
      ∃ number, record.declarationLine < number ∧ SourceLine.ActsAt lines number

namespace LineReading

/-- A record shows content exactly if the lines give it. -/
theorem hasContent_iff_givesContent
    {policy : AttributionPolicy}
    {lines : List Text}
    {record : StateRecord}
    (member : record ∈ (ofTexts.facts lines).states policy) :
    record.hasContent = true ↔ policy.GivesContent lines record := by
  have declared :
      (record.declarationLine, record.name) ∈ SourceLine.declarations lines := by
    rw [← declarations_ofTexts]
    exact (StateFacts.isLeast_declarationLine member).1
  obtain ⟨noBlank, nonempty⟩ := SourceLine.word_of_mem_declarations declared
  obtain ⟨⟨line, fact⟩, _, called⟩ := List.mem_filterMap.mp member
  obtain ⟨_, isLine, notAbove, content⟩ := StateFacts.record?_eq_some_iff.mp called
  rw [← content]
  cases policy with
  | adjacentDeclaration =>
      rw [hasContent_adjacent_iff (grounded_ofTexts lines) notAbove]
      exact actsFor_ofTexts_iff noBlank nonempty
  | anyAction =>
      rw [hasContent_ofTexts_iff noBlank nonempty, ← isLine]
      constructor
      · rintro ⟨action, isAction, below, _⟩
        exact ⟨action.number, below, SourceLine.actsAt_iff.mpr ⟨action.text, isAction⟩⟩
      · rintro ⟨number, below, acts⟩
        obtain ⟨text, isAction⟩ := SourceLine.actsAt_iff.mp acts
        exact ⟨_, isAction, below, nofun⟩

end LineReading

namespace Analysis

/--
The declared names have a record each, and a record has content exactly if an
action stands directly below a line that declares its name in so many words or,
where any action counts, below the line of the record.
-/
theorem content_by_text
    (policy : AttributionPolicy)
    (lines : List Text)
    (tokens : List Token) :
    (∀ name,
      name ∈ SourceLine.declaredNames lines ↔
        ∃ record ∈ (ofUnit policy .lines lines tokens).states, record.name = name) ∧
      ∀ record ∈ (ofUnit policy .lines lines tokens).states,
        record.hasContent = true ↔ policy.GivesContent lines record := by
  constructor
  · intro name
    rw [← List.mem_eraseDups, ← names_ofUnit_lines policy lines tokens, List.mem_map]
  · intro record member
    rw [states_ofUnit_lines] at member
    exact LineReading.hasContent_iff_givesContent member

-- A declaration that is refused, below a blank line, still lends its name to an action.
example :
    (ofUnit .adjacentDeclaration .lines
        ["state A  \x7b".toList, [], "state A \x7b // again".toList, "action a;".toList]
        []).states =
      [{ name := "A", declarationLine := 1, hasContent := true }] := by
  decide +kernel

end Analysis

end Smsl
