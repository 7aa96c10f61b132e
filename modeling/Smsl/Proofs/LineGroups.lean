import Mathlib.Data.List.SplitBy
import Smsl.Proofs.ScannedUnit
import Smsl.Proofs.SignificantLines

namespace Smsl

/-!
# Tokens grouped by line

The walk over a list of tokens closes a group where the line number changes and
behind the last token.  Whatever the order of the tokens, it stays in bounds, and
its groups are the only division of the tokens into maximal runs.  Every
significant line has a token, so the groups of a scan that the token limit did not
stop are the significant lines.
-/

namespace TokenLine

/-- A division of tokens into maximal runs with one line number. -/
structure MaximalRuns
    (tokens : List Token)
    (groups : List TokenLine) :
    Prop where
  whole :
    groups.flatMap TokenLine.tokens = tokens
  nonempty :
    ∀ line ∈ groups, line.tokens ≠ []
  sameLine :
    ∀ line ∈ groups, ∀ token ∈ line.tokens, token.line = line.number
  apart :
    groups.IsChain fun upper lower => upper.number ≠ lower.number

/-- The group of a run of tokens, named by its first one. -/
def ofRun? : List Token → Option TokenLine
  | [] =>
      none
  | first :: rest =>
      some { number := first.line, tokens := first :: rest }

/-- Groups in order whose neighbours differ are in strictly increasing order. -/
theorem increasing_of_apart
    {groups : List TokenLine}
    (ordered : groups.Pairwise fun upper lower => upper.number ≤ lower.number)
    (apart : groups.IsChain fun upper lower => upper.number ≠ lower.number) :
    groups.Pairwise fun upper lower => upper.number < lower.number := by
  induction groups with
  | nil =>
      exact .nil
  | cons upper rest inductionHypothesis =>
      obtain ⟨below, further⟩ := List.pairwise_cons.mp ordered
      refine List.pairwise_cons.mpr ⟨?_, inductionHypothesis further apart.tail⟩
      intro lower member
      cases rest with
      | nil =>
          cases member
      | cons next others =>
          have nextBelow : upper.number < next.number :=
            Nat.lt_of_le_of_ne (below next List.mem_cons_self)
              (List.isChain_cons_cons.mp apart).1
          rcases List.mem_cons.mp member with rfl | later
          · exact nextBelow
          · exact Nat.lt_of_lt_of_le nextBelow ((List.pairwise_cons.mp further).1 lower later)

namespace MaximalRuns

theorem nil : MaximalRuns [] [] where
  whole := rfl
  nonempty := by simp
  sameLine := by simp
  apart := .nil

theorem singleton
    {line : TokenLine}
    (nonempty : line.tokens ≠ [])
    (sameLine : ∀ token ∈ line.tokens, token.line = line.number) :
    MaximalRuns line.tokens [line] where
  whole := List.flatMap_singleton TokenLine.tokens line
  nonempty := by simpa using nonempty
  sameLine := by simpa using sameLine
  apart := .singleton line

/-- Two divisions make one if the groups at the joint are of different lines. -/
theorem append
    {first second : List Token}
    {upper lower : List TokenLine}
    (above : MaximalRuns first upper)
    (below : MaximalRuns second lower)
    (joint :
      ∀ last ∈ upper.getLast?, ∀ next ∈ lower.head?, last.number ≠ next.number) :
    MaximalRuns (first ++ second) (upper ++ lower) where
  whole := by
    rw [List.flatMap_append, above.whole, below.whole]
  nonempty := by
    intro line member
    rcases List.mem_append.mp member with isUpper | isLower
    · exact above.nonempty line isUpper
    · exact below.nonempty line isLower
  sameLine := by
    intro line member
    rcases List.mem_append.mp member with isUpper | isLower
    · exact above.sameLine line isUpper
    · exact below.sameLine line isLower
  apart := List.isChain_append.mpr ⟨above.apart, below.apart, joint⟩

variable {tokens : List Token}
variable {groups : List TokenLine}

/-- The tokens of the groups are the runs of tokens that stand on one line. -/
theorem splitBy_eq
    (maximal : MaximalRuns tokens groups) :
    (tokens.splitBy fun first second => first.line == second.line) =
      groups.map TokenLine.tokens := by
  refine List.splitBy_eq_iff.mpr ⟨?_, ?_, ?_, ?_⟩
  · rw [← List.flatMap_def, maximal.whole]
  · intro member
    obtain ⟨line, isLine, empty⟩ := List.mem_map.mp member
    exact maximal.nonempty line isLine empty
  · intro run member
    obtain ⟨line, isLine, rfl⟩ := List.mem_map.mp member
    refine (List.pairwise_of_forall_mem_list ?_).isChain
    intro first isFirst second isSecond
    rw [beq_iff_eq, maximal.sameLine line isLine first isFirst,
      maximal.sameLine line isLine second isSecond]
  · rw [List.isChain_map]
    refine maximal.apart.imp_of_mem_imp ?_
    intro upper lower isUpper isLower different
    have upperNonempty := maximal.nonempty upper isUpper
    have lowerNonempty := maximal.nonempty lower isLower
    refine ⟨upperNonempty, lowerNonempty, ?_⟩
    rw [beq_eq_false_iff_ne, maximal.sameLine upper isUpper _ (List.getLast_mem _),
      maximal.sameLine lower isLower _ (List.head_mem _)]
    exact different

/-- The groups are named by the first tokens of the runs. -/
theorem filterMap_ofRun?
    (maximal : MaximalRuns tokens groups) :
    (tokens.splitBy fun first second => first.line == second.line).filterMap ofRun? =
      groups := by
  have named : ∀ line ∈ groups, (ofRun? ∘ TokenLine.tokens) line = some line := by
    rintro ⟨number, run⟩ isLine
    cases run with
    | nil =>
        exact absurd rfl (maximal.nonempty _ isLine)
    | cons first rest =>
        have isNumber : first.line = number :=
          maximal.sameLine _ isLine first List.mem_cons_self
        simp [ofRun?, isNumber]
  rw [maximal.splitBy_eq, List.filterMap_map, List.filterMap_congr named, List.filterMap_some]

/-- Tokens have one division into maximal runs. -/
theorem unique
    {others : List TokenLine}
    (maximal : MaximalRuns tokens groups)
    (alsoMaximal : MaximalRuns tokens others) :
    groups = others :=
  maximal.filterMap_ofRun?.symm.trans alsoMaximal.filterMap_ofRun?

theorem exists_token
    (maximal : MaximalRuns tokens groups)
    {line : TokenLine}
    (isLine : line ∈ groups) :
    ∃ token ∈ line.tokens, token ∈ tokens ∧ token.line = line.number := by
  obtain ⟨token, isToken⟩ := List.exists_mem_of_ne_nil _ (maximal.nonempty line isLine)
  refine ⟨token, isToken, ?_, maximal.sameLine line isLine token isToken⟩
  rw [← maximal.whole]
  exact List.mem_flatMap.mpr ⟨line, isLine, isToken⟩

/-- The groups of tokens in order of their lines are in strictly increasing order. -/
theorem increasing
    (maximal : MaximalRuns tokens groups)
    (ordered : tokens.Pairwise fun first second => first.line ≤ second.line) :
    groups.Pairwise fun upper lower => upper.number < lower.number := by
  refine increasing_of_apart ?_ maximal.apart
  rw [← maximal.whole, List.pairwise_flatMap] at ordered
  refine List.Pairwise.imp_of_mem ?_ ordered.2
  intro upper lower isUpper isLower across
  obtain ⟨first, isFirst, _, upperLine⟩ := maximal.exists_token isUpper
  obtain ⟨second, isSecond, _, lowerLine⟩ := maximal.exists_token isLower
  rw [← upperLine, ← lowerLine]
  exact across first isFirst second isSecond

end MaximalRuns

end TokenLine

namespace Grouping

/-! The walk. -/

/-- The tokens between two parts of a list are found by the lengths of the parts. -/
theorem between?_append
    (before run rest : List Token) :
    between? (before ++ run ++ rest).toArray before.length (before ++ run).length =
      some run := by
  have inBounds :
      before.length ≤ (before ++ run).length ∧
        (before ++ run).length ≤ (before ++ run ++ rest).toArray.size := by
    simp
  rw [between?, if_pos inBounds]
  simp

/--
The walk has passed some tokens and an open group behind them.  Those tokens are
grouped, and the last of their groups is of another line than the open one.
-/
structure Opened
    (before : List Token)
    (line : TokenLine)
    (grouping : Grouping) :
    Prop where
  start :
    grouping.start = before.length
  closed :
    TokenLine.MaximalRuns before grouping.groups.toList
  current :
    TokenLine.MaximalRuns line.tokens [line]
  apart :
    ∀ last ∈ grouping.groups.toList.getLast?, last.number ≠ line.number

namespace Opened

theorem initial (first : Token) :
    Opened [] { number := first.line, tokens := [first] } Grouping.initial where
  start := rfl
  closed := .nil
  current := .singleton (by simp) (by simp)
  apart := by simp [Grouping.initial]

variable {before : List Token}
variable {line : TokenLine}
variable {grouping : Grouping}

/-- The start of the open group is in bounds, at a token of its line. -/
theorem exists_first
    (opened : Opened before line grouping)
    (rest : List Token) :
    ∃ first,
      (before ++ line.tokens ++ rest).toArray[grouping.start]? = some first ∧
        first.line = line.number := by
  have isLine : line ∈ [line] := List.mem_singleton_self line
  obtain ⟨first, others, shape⟩ :=
    List.exists_cons_of_ne_nil (opened.current.nonempty line isLine)
  refine ⟨first, ?_, opened.current.sameLine line isLine first (by simp [shape])⟩
  simp [opened.start, shape]

/-- The open group is closed with all its tokens. -/
theorem close?_eq
    (opened : Opened before line grouping)
    (rest : List Token) :
    close? (before ++ line.tokens ++ rest).toArray grouping (before ++ line.tokens).length =
      some (grouping.push line (before ++ line.tokens).length) := by
  obtain ⟨first, isFirst, sameLine⟩ := opened.exists_first rest
  have isRun := between?_append before line.tokens rest
  rw [← opened.start] at isRun
  simp only [close?, isFirst, isRun, sameLine, Option.bind_eq_bind, Option.bind_some]
  rfl

/-- The tokens passed are grouped once the open group is closed. -/
theorem closed_push
    (opened : Opened before line grouping)
    (position : Nat) :
    TokenLine.MaximalRuns (before ++ line.tokens)
      (grouping.push line position).groups.toList := by
  rw [push, Array.toList_push]
  refine opened.closed.append opened.current ?_
  intro last isLast next isNext
  cases isNext
  exact opened.apart last isLast

/-- Behind the last token the walk closes the open group. -/
theorem step?_last
    (opened : Opened before line grouping) :
    ∃ final,
      step? (before ++ line.tokens).toArray grouping (before ++ line.tokens).length =
          some final ∧
        TokenLine.MaximalRuns (before ++ line.tokens) final.groups.toList := by
  have closes := opened.close?_eq []
  rw [List.append_nil] at closes
  refine ⟨_, ?_, opened.closed_push (before ++ line.tokens).length⟩
  have ends :
      endsBefore? (before ++ line.tokens).toArray grouping (before ++ line.tokens).length =
        some true := if_pos rfl
  simp only [step?, ends, closes, Option.bind_eq_bind, Option.bind_some, ↓reduceIte]

/-- The open group ends before a token exactly if that is of another line. -/
theorem endsBefore?_next
    (opened : Opened before line grouping)
    (next : Token)
    (rest : List Token) :
    endsBefore? (before ++ line.tokens ++ next :: rest).toArray grouping
        (before ++ line.tokens).length =
      some (next.line != line.number) := by
  obtain ⟨first, isFirst, sameLine⟩ := opened.exists_first (next :: rest)
  have inBounds :
      (before ++ line.tokens).length ≠ (before ++ line.tokens ++ next :: rest).toArray.size := by
    simp
  have isNext :
      (before ++ line.tokens ++ next :: rest).toArray[(before ++ line.tokens).length]? =
        some next := by
    simp
  rw [endsBefore?, if_neg inBounds]
  simp only [isNext, isFirst, sameLine, Option.bind_eq_bind, Option.bind_some]
  rfl

/-- A token of its line joins the open group. -/
theorem extend
    (opened : Opened before line grouping)
    {next : Token}
    (sameLine : next.line = line.number) :
    Opened before { line with tokens := line.tokens ++ [next] } grouping where
  start := opened.start
  closed := opened.closed
  current := by
    refine .singleton (by simp) ?_
    intro token member
    rcases List.mem_append.mp member with earlier | isNext
    · exact opened.current.sameLine line (List.mem_singleton_self line) token earlier
    · rw [List.mem_singleton.mp isNext, sameLine]
  apart := opened.apart

/-- A token of another line opens a group of its own. -/
theorem reopen
    (opened : Opened before line grouping)
    {next : Token}
    (otherLine : next.line ≠ line.number) :
    Opened (before ++ line.tokens) { number := next.line, tokens := [next] }
      (grouping.push line (before ++ line.tokens).length) where
  start := rfl
  closed := opened.closed_push _
  current := .singleton (by simp) (by simp)
  apart := by
    intro last isLast
    rw [push, Array.toList_push, List.getLast?_concat] at isLast
    cases isLast
    exact otherLine.symm

/-- At a token the walk extends the open group, or closes it and opens another. -/
theorem step?_next
    (opened : Opened before line grouping)
    (next : Token)
    (rest : List Token) :
    ∃ earlier current advanced,
      step? (before ++ line.tokens ++ next :: rest).toArray grouping
            (before ++ line.tokens).length =
          some advanced ∧
        Opened earlier current advanced ∧
          earlier ++ current.tokens = before ++ line.tokens ++ [next] := by
  have ends := opened.endsBefore?_next next rest
  have closes := opened.close?_eq (next :: rest)
  by_cases sameLine : next.line = line.number
  · refine ⟨before, _, grouping, ?_, opened.extend sameLine, ?_⟩
    · simp only [step?, ends, sameLine, bne_self_eq_false, Option.bind_eq_bind,
        Option.bind_some, Bool.false_eq_true, ↓reduceIte]
      rfl
    · exact (List.append_assoc before line.tokens [next]).symm
  · refine ⟨before ++ line.tokens, _, _, ?_, opened.reopen sameLine, rfl⟩
    simp only [step?, ends, closes, bne_iff_ne.mpr sameLine, Option.bind_eq_bind,
      Option.bind_some, ↓reduceIte]

/-- The walk over the rest of the tokens stays in bounds and groups them all. -/
theorem walk
    (opened : Opened before line grouping)
    (rest : List Token) :
    ∃ final,
      (List.range' (before ++ line.tokens).length (rest.length + 1)).foldlM
            (step? (before ++ line.tokens ++ rest).toArray) grouping =
          some final ∧
        TokenLine.MaximalRuns (before ++ line.tokens ++ rest) final.groups.toList := by
  -- By induction on the tokens ahead; the step at the next one leaves some group open.
  induction rest generalizing before line grouping with
  | nil =>
      obtain ⟨final, steps, maximal⟩ := opened.step?_last
      refine ⟨final, ?_, by rwa [List.append_nil]⟩
      rw [List.append_nil, List.length_nil, List.range'_one, List.foldlM_cons, steps]
      rfl
  | cons next rest inductionHypothesis =>
      obtain ⟨earlier, current, advanced, steps, openedNext, passed⟩ :=
        opened.step?_next next rest
      obtain ⟨final, walks, maximal⟩ := inductionHypothesis openedNext
      have position :
          (earlier ++ current.tokens).length = (before ++ line.tokens).length + 1 := by
        rw [passed, List.length_append, List.length_singleton]
      rw [position, passed, ← List.append_cons] at walks
      rw [passed, ← List.append_cons] at maximal
      refine ⟨final, ?_, maximal⟩
      rw [List.length_cons, List.range'_succ, List.foldlM_cons, steps]
      exact walks

end Opened

end Grouping

namespace TokenLine

/-- The walk stays in bounds on every list of tokens, and its groups are maximal runs. -/
theorem exists_group?
    (tokens : List Token) :
    ∃ groups, group? tokens = some groups ∧ MaximalRuns tokens groups := by
  cases tokens with
  | nil =>
      exact ⟨[], rfl, .nil⟩
  | cons first rest =>
      obtain ⟨final, walks, maximal⟩ := (Grouping.Opened.initial first).walk rest
      have walked :
          (List.range' 1 (first :: rest).length).foldlM
              (Grouping.step? (first :: rest).toArray) Grouping.initial =
            some final := walks
      refine ⟨final.groups.toList, ?_, maximal⟩
      rw [group?, walked]
      rfl

theorem group?_eq_some
    (tokens : List Token) :
    group? tokens = some (group tokens) := by
  obtain ⟨groups, walks, _⟩ := exists_group? tokens
  rw [group, walks, Option.getD_some]

theorem maximalRuns_group
    (tokens : List Token) :
    MaximalRuns tokens (group tokens) := by
  obtain ⟨groups, walks, maximal⟩ := exists_group? tokens
  rwa [group, walks, Option.getD_some]

/-- The groups of tokens are their division into maximal runs. -/
theorem group_eq_of_maximalRuns
    {tokens : List Token}
    {groups : List TokenLine}
    (maximal : MaximalRuns tokens groups) :
    group tokens = groups :=
  (maximalRuns_group tokens).unique maximal

/-- Tokens in order of their lines form groups in strictly increasing order. -/
theorem group_increasing
    {tokens : List Token}
    (ordered : tokens.Pairwise fun first second => first.line ≤ second.line) :
    (group tokens).Pairwise fun upper lower => upper.number < lower.number :=
  (maximalRuns_group tokens).increasing ordered

/-! The tokens of a unit, line by line. -/

/-- The tokens of a significant line. -/
def ofLine
    (limits : ScanLimits)
    (line : SourceLine) :
    TokenLine where
  number := line.number
  tokens := (PlacedLexeme.ofLine line).map (PlacedLexeme.toToken limits)

theorem line_of_mem
    {limits : ScanLimits}
    {line : SourceLine}
    {token : Token}
    (member : token ∈ (ofLine limits line).tokens) :
    token.line = line.number := by
  simp only [ofLine, PlacedLexeme.ofLine, List.map_map, List.mem_map] at member
  obtain ⟨lexeme, _, rfl⟩ := member
  rfl

/-- A line that begins with no blank has a token. -/
theorem tokens_ne_nil
    (limits : ScanLimits)
    {line : SourceLine}
    {first : Char}
    {rest : Text}
    (begins : line.text = first :: rest)
    (notBlank : Text.isBlank first = false) :
    (ofLine limits line).tokens ≠ [] := by
  have trimmed : Text.trimStart line.text = first :: rest := by
    simp [begins, Text.trimStart, notBlank]
  simp [ofLine, PlacedLexeme.ofLine, Lexeme.ofText_of_trimStart trimmed]

/-- The tokens of one line, before those of lines further down, are a group. -/
theorem group_append
    {limits : ScanLimits}
    {line : SourceLine}
    (nonempty : (ofLine limits line).tokens ≠ [])
    {rest : List Token}
    (below : ∀ token ∈ rest, line.number < token.line) :
    group ((ofLine limits line).tokens ++ rest) = ofLine limits line :: group rest := by
  have upper : MaximalRuns (ofLine limits line).tokens [ofLine limits line] :=
    .singleton nonempty fun _ => line_of_mem
  have lower := maximalRuns_group rest
  refine group_eq_of_maximalRuns (upper.append lower ?_)
  intro last isLast next isNext
  cases isLast
  obtain ⟨token, _, isToken, sameLine⟩ := lower.exists_token (List.mem_of_mem_head? isNext)
  rw [← sameLine]
  exact Nat.ne_of_lt (below token isToken)

/-- The groups of tokens are the significant lines. -/
theorem group_flatMap
    (limits : ScanLimits)
    (start : Nat)
    (lines : List Text) :
    group
        ((SourceLine.significantFrom start lines).flatMap
          fun line => (ofLine limits line).tokens) =
      (SourceLine.significantFrom start lines).map (ofLine limits) := by
  induction lines generalizing start with
  | nil =>
      rfl
  | cons raw rest inductionHypothesis =>
      rw [SourceLine.significantFrom_cons]
      cases significant : SourceLine.ofRaw? raw start with
      | none =>
          exact inductionHypothesis (start + 1)
      | some line =>
          obtain ⟨first, further, begins, notBlank⟩ :=
            SourceLine.begins_of_ofRaw? significant
          have number : line.number = start := by
            rw [(SourceLine.ofRaw?_eq_some_iff.mp significant).2]
          have below :
              ∀ token ∈
                (SourceLine.significantFrom (start + 1) rest).flatMap
                  (fun line => (ofLine limits line).tokens),
                line.number < token.line := by
            intro token member
            obtain ⟨lower, isLower, isToken⟩ := List.mem_flatMap.mp member
            rw [line_of_mem isToken, number]
            exact SourceLine.start_le_number isLower
          rw [Option.toList_some, List.singleton_append, List.flatMap_cons,
            group_append (tokens_ne_nil limits begins notBlank) below,
            inductionHypothesis (start + 1), List.map_cons]

/-- A scan that the limit did not stop has the significant lines as groups. -/
theorem group_tokens
    {limits : ScanLimits}
    {detailed : Bool}
    {lines : List Text}
    (complete : (Scan.ofLines limits detailed lines).Complete) :
    group (Scan.ofLines limits detailed lines).tokens =
      (SourceLine.significant lines).map (ofLine limits) := by
  rw [complete.tokens_eq, PlacedLexeme.ofLines, List.map_flatMap]
  exact group_flatMap limits 1 lines

/--
Whatever the order of the tokens, the walk never leaves their bounds, and it divides
them into maximal runs with one line number.  The groups of a scan that the limit did
not stop have the numbers of the significant lines, in strictly increasing order.
-/
theorem group_divides_into_maximal_runs
    (tokens : List Token)
    (limits : ScanLimits)
    (detailed : Bool)
    (lines : List Text) :
    group? tokens = some (group tokens) ∧
      MaximalRuns tokens (group tokens) ∧
        ((Scan.ofLines limits detailed lines).Complete →
          (group (Scan.ofLines limits detailed lines).tokens).map number =
              (SourceLine.significant lines).map SourceLine.number ∧
            (group (Scan.ofLines limits detailed lines).tokens).Pairwise
              fun upper lower => upper.number < lower.number) := by
  refine ⟨group?_eq_some tokens, maximalRuns_group tokens, ?_⟩
  intro complete
  rw [group_tokens complete]
  constructor
  · rw [List.map_map]
    rfl
  · exact List.pairwise_map.mpr (SourceLine.significantFrom_pairwise 1 lines)

/-- Tokens of a line that comes back, and a unit with exactly as many tokens as allowed. -/
theorem group_divides_into_maximal_runs_of_returning_line :
    group?
          [⟨2, "b", .identifier⟩, ⟨1, "a", .identifier⟩, ⟨1, ";", .symbol⟩,
            ⟨2, "c", .identifier⟩] =
        some
          [⟨2, [⟨2, "b", .identifier⟩]⟩,
            ⟨1, [⟨1, "a", .identifier⟩, ⟨1, ";", .symbol⟩]⟩,
            ⟨2, [⟨2, "c", .identifier⟩]⟩] ∧
      (Scan.ofLines { maxLexemeLength := 5, maxTokenCount := 7 } false
          ["// a".toList, "state A \x7b".toList, "".toList, " action go; // b".toList,
            "\x7d".toList]).Complete ∧
        (group
            (Scan.ofLines { maxLexemeLength := 5, maxTokenCount := 7 } false
              ["// a".toList, "state A \x7b".toList, "".toList, " action go; // b".toList,
                "\x7d".toList]).tokens).map number =
          [2, 4, 5] := by
  obtain ⟨walks, _, ofScan⟩ :=
    group_divides_into_maximal_runs
      [⟨2, "b", .identifier⟩, ⟨1, "a", .identifier⟩, ⟨1, ";", .symbol⟩,
        ⟨2, "c", .identifier⟩]
      { maxLexemeLength := 5, maxTokenCount := 7 } false
      ["// a".toList, "state A \x7b".toList, "".toList, " action go; // b".toList,
        "\x7d".toList]
  have complete :
      (Scan.ofLines { maxLexemeLength := 5, maxTokenCount := 7 } false
        ["// a".toList, "state A \x7b".toList, "".toList, " action go; // b".toList,
          "\x7d".toList]).Complete :=
    Scan.complete_iff.mpr (by decide +kernel)
  refine ⟨walks.trans ?_, complete, (ofScan complete).1.trans ?_⟩
  · decide +kernel
  · decide +kernel

end TokenLine

end Smsl
