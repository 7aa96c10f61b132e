import Smsl.Preferences.Basic
import Smsl.Proofs.SignificantLines
import Smsl.Quadruple.Generation
import Smsl.Quadruple.Optimization
import Smsl.Semantics.Analysis
import Smsl.Statement.Shape
import Smsl.Token.Scan

namespace Smsl

/-!
# Lines without their comments and blanks

A comment after a blank changes nothing about a line, and a line that lost its
comment and its surrounding blanks has nothing left to lose.  All stages see raw
lines in that form only, so two units whose lines agree in it give the same
results.
-/

/-! Comments and blanks. -/

theorem Text.trim_append_gap
    (text : Text)
    {gap : Text}
    (blank : AllBlank gap) :
    trim (text ++ gap) = trim text := by
  obtain ⟨before, after, blankBefore, blankAfter, whole⟩ := exists_gaps text
  have blankEnd : AllBlank (after ++ gap) := by
    intro character member
    rcases List.mem_append.mp member with inAfter | inGap
    · exact blankAfter character inAfter
    · exact blank character inGap
  calc
    trim (text ++ gap) = trim (before ++ (trim text ++ (after ++ gap))) := by
      rw [← List.append_assoc (trim text), ← List.append_assoc before, whole]
    _ = trim text :=
      trim_of_padded blankBefore blankEnd (trimmed_trim text).begins (trim_ends text)

namespace SourceLine

/-- A character belongs to the line unless it opens a comment. -/
theorem beforeComment_cons
    {character : Char}
    {rest : Text}
    (noComment : ¬ ['/', '/'] <+: character :: rest) :
    beforeComment (character :: rest) = character :: beforeComment rest := by
  refine beforeComment.eq_3 character rest ?_
  rintro further rfl rfl
  exact noComment ⟨further, rfl⟩

theorem beforeComment_of_opening
    {raw : Text}
    (comment : ['/', '/'] <+: raw) :
    beforeComment raw = [] := by
  obtain ⟨rest, rfl⟩ := comment
  rfl

theorem beforeComment_isPrefix (raw : Text) :
    beforeComment raw <+: raw := by
  induction raw with
  | nil =>
      exact List.prefix_refl _
  | cons character rest inductionHypothesis =>
      by_cases comment : ['/', '/'] <+: character :: rest
      · rw [beforeComment_of_opening comment]
        exact List.nil_prefix
      · rw [beforeComment_cons comment]
        exact List.prefix_cons_inj character |>.mpr inductionHypothesis

/-- What comes before the first comment holds no comment. -/
theorem beforeComment_no_comment (raw : Text) :
    ¬ ['/', '/'] <:+: beforeComment raw := by
  induction raw with
  | nil =>
      simp [beforeComment]
  | cons character rest inductionHypothesis =>
      by_cases comment : ['/', '/'] <+: character :: rest
      · simp [beforeComment_of_opening comment]
      · rw [beforeComment_cons comment, List.infix_cons_iff]
        rintro (opening | later)
        · exact comment
            (opening.trans ((List.prefix_cons_inj character).mpr (beforeComment_isPrefix rest)))
        · exact inductionHypothesis later

theorem beforeComment_eq_self
    {raw : Text}
    (noComment : ¬ ['/', '/'] <:+: raw) :
    beforeComment raw = raw := by
  induction raw with
  | nil =>
      rfl
  | cons character rest inductionHypothesis =>
      rw [List.infix_cons_iff, not_or] at noComment
      rw [beforeComment_cons noComment.1, inductionHypothesis noComment.2]

/-- A comment after a blank adds at most that blank to what comes before it. -/
theorem beforeComment_append_comment
    (raw text : Text) :
    beforeComment (raw ++ ' ' :: '/' :: '/' :: text) = beforeComment raw ∨
      beforeComment (raw ++ ' ' :: '/' :: '/' :: text) = beforeComment raw ++ [' '] := by
  induction raw with
  | nil =>
      exact .inr rfl
  | cons character rest inductionHypothesis =>
      by_cases comment : ['/', '/'] <+: character :: rest
      · have longer : ['/', '/'] <+: (character :: rest) ++ ' ' :: '/' :: '/' :: text :=
          comment.trans (List.prefix_append _ _)
        exact .inl (by rw [beforeComment_of_opening comment, beforeComment_of_opening longer])
      · have noComment :
            ¬ ['/', '/'] <+: character :: (rest ++ ' ' :: '/' :: '/' :: text) := by
          cases rest with
          | nil =>
              simp
          | cons next further =>
              simpa using comment
        rw [List.cons_append, beforeComment_cons noComment, beforeComment_cons comment]
        rcases inductionHypothesis with same | blankMore
        · exact .inl (by rw [same])
        · exact .inr (by rw [blankMore, List.cons_append])

/-- A comment after a blank changes nothing. -/
theorem sanitize_append_comment
    (raw text : Text) :
    sanitize (raw ++ " //".toList ++ text) = sanitize raw := by
  have shape : raw ++ " //".toList ++ text = raw ++ ' ' :: '/' :: '/' :: text := by
    simp
  rw [sanitize, sanitize, shape]
  rcases beforeComment_append_comment raw text with same | blankMore
  · rw [same]
  · rw [blankMore, Text.trim_append_gap _ (Text.allBlank_singleton (by decide))]

theorem sanitize_no_comment (raw : Text) :
    ¬ ['/', '/'] <:+: sanitize raw := by
  intro comment
  obtain ⟨before, after, _, _, whole⟩ := Text.exists_gaps (beforeComment raw)
  have joined : before ++ sanitize raw ++ after = beforeComment raw :=
    (List.append_assoc _ _ _).trans whole
  exact beforeComment_no_comment raw (comment.trans ⟨before, after, joined⟩)

/-- Nothing is left to take from a line that lost its comment and its blanks. -/
theorem sanitize_sanitize (raw : Text) :
    sanitize (sanitize raw) = sanitize raw := by
  calc
    sanitize (sanitize raw) = Text.trim (sanitize raw) := by
      rw [sanitize, beforeComment_eq_self (sanitize_no_comment raw)]
    _ = sanitize raw := Text.trim_trim _

/-! What the stages see of the lines. -/

theorem significant_congr
    {lines others : List Text}
    (alike : lines.map sanitize = others.map sanitize) :
    significant lines = significant others := by
  have ofSanitized :
      ∀ raw : List Text,
        significant raw =
          ((raw.map sanitize).zipIdx 1).filterMap fun numbered =>
            if numbered.1.isEmpty then
              none
            else
              some { number := numbered.2, text := numbered.1 } := by
    intro raw
    rw [List.zipIdx_map, List.filterMap_map]
    rfl
  rw [ofSanitized, ofSanitized, alike]

end SourceLine

/-- What is declared above a line depends on what is left of the raw line there. -/
theorem StateFact.declaredAbove?_eq
    (lines : List Text)
    (number : Nat) :
    declaredAbove? lines.toArray number =
      if number < 2 then
        none
      else
        (lines.map SourceLine.sanitize)[number - 2]?.bind declaredOn? := by
  by_cases first : number < 2
  · simp [declaredAbove?, first]
  · rw [declaredAbove?, if_neg first, if_neg first, List.getElem?_toArray,
      List.getElem?_map, Option.bind_map]
    rfl

theorem StateFact.ofLines_congr
    {lines others : List Text}
    (alike : lines.map SourceLine.sanitize = others.map SourceLine.sanitize) :
    ofLines lines = ofLines others := by
  simp only [ofLines, SourceLine.significant_congr alike, ofLine?, declaredAbove?_eq, alike]

/-- What the stages make of a unit, each from its lines and tokens alone. -/
structure StageResults where
  scan : Scan
  check : StatementCheck
  analysis : Analysis
  generation : Generation
  optimization : Optimization

namespace StageResults

/-- The results of all stages for the raw lines of a unit. -/
def ofLines
    (limits : ScanLimits)
    (preferences : Preferences)
    (lines : List Text) :
    StageResults where
  scan := Scan.ofLines limits preferences.lexical.detailedMetrics lines
  check := StatementCheck.ofLines lines
  analysis :=
    Analysis.ofUnit preferences.semantic.attribution preferences.semantic.input lines
      (Scan.ofLines limits preferences.lexical.detailedMetrics lines).tokens
  generation := Generation.ofLines lines
  optimization :=
    Optimization.ofQuadruples preferences.optimizer.policy
      (Generation.ofLines lines).quadruples

/-- The results of all stages depend on what is left of the lines only. -/
theorem ofLines_congr
    (limits : ScanLimits)
    (preferences : Preferences)
    {lines others : List Text}
    (alike : lines.map SourceLine.sanitize = others.map SourceLine.sanitize) :
    ofLines limits preferences lines = ofLines limits preferences others := by
  have sameLength : lines.length = others.length := by
    simpa using congrArg List.length alike
  have sameLines := SourceLine.significant_congr alike
  have sameScan :
      ∀ detailed, Scan.ofLines limits detailed lines = Scan.ofLines limits detailed others := by
    intro detailed
    simp only [Scan.ofLines, sameLines, sameLength]
  have sameFacts :
      ∀ input tokens, Analysis.facts input lines tokens = Analysis.facts input others tokens := by
    intro input tokens
    cases input with
    | lines =>
        exact StateFact.ofLines_congr alike
    | tokens =>
        rfl
  have sameGeneration : Generation.ofLines lines = Generation.ofLines others := by
    simp only [Generation.ofLines, sameLines]
  simp only [ofLines, sameScan, StatementCheck.ofLines, sameLines, Analysis.ofUnit, sameFacts,
    sameGeneration]

end StageResults

end Smsl
