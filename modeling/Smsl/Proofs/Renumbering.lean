import Smsl.Proofs.LineStages
import Smsl.Proofs.ScannedUnit

namespace Smsl

/-!
# Renumbering

Putting lines in front of a unit or between its lines moves the numbers of the
lines further down, and keeps the order of all.  This module says what such a
change of numbers does to everything that carries a line number, also inside the
wording of a diagnostic, and that each stage reads a line under any number alike.
-/

/-- A change of line numbers that keeps their order. -/
structure Renumbering where
  apply : Nat → Nat
  increasing : ∀ {first second : Nat}, first < second → apply first < apply second

namespace Renumbering

/-- All numbers move on by a number of lines. -/
def shift (count : Nat) : Renumbering where
  apply line := line + count
  increasing less := Nat.add_lt_add_right less count

/-- The numbers after a number of lines move on by one. -/
def gapAfter (count : Nat) : Renumbering where
  apply line := if line ≤ count then line else line + 1
  increasing less := by
    split_ifs <;> omega

theorem apply_le_iff
    (renumbering : Renumbering)
    {first second : Nat} :
    renumbering.apply first ≤ renumbering.apply second ↔ first ≤ second := by
  constructor
  · intro moved
    by_contra less
    exact absurd (renumbering.increasing (Nat.not_le.mp less)) (Nat.not_lt.mpr moved)
  · intro atMost
    rcases Nat.eq_or_lt_of_le atMost with rfl | less
    · exact Nat.le_refl _
    · exact Nat.le_of_lt (renumbering.increasing less)

theorem apply_lt_iff
    (renumbering : Renumbering)
    {first second : Nat} :
    renumbering.apply first < renumbering.apply second ↔ first < second := by
  rw [← Nat.not_le, ← Nat.not_le, renumbering.apply_le_iff]

theorem apply_inj
    (renumbering : Renumbering)
    {first second : Nat} :
    renumbering.apply first = renumbering.apply second ↔ first = second := by
  rw [Nat.le_antisymm_iff, Nat.le_antisymm_iff, renumbering.apply_le_iff,
    renumbering.apply_le_iff]

/-- A gap parts only the two lines on its sides. -/
theorem gapAfter_consecutive_iff
    {count first second : Nat} :
    (gapAfter count).apply first + 1 = (gapAfter count).apply second ↔
      first + 1 = second ∧ first ≠ count := by
  simp only [gapAfter]
  split_ifs <;> omega

end Renumbering

/-! What carries a line number. -/

/-- The same line under its new number. -/
def SourceLine.renumber
    (renumbering : Renumbering)
    (line : SourceLine) :
    SourceLine :=
  { line with number := renumbering.apply line.number }

/-- The same lexeme under the new number of its line. -/
def PlacedLexeme.renumber
    (renumbering : Renumbering)
    (placed : PlacedLexeme) :
    PlacedLexeme :=
  { placed with line := renumbering.apply placed.line }

/-- The same token under the new number of its line. -/
def Token.renumber
    (renumbering : Renumbering)
    (token : Token) :
    Token :=
  { token with line := renumbering.apply token.line }

/-- The same statement under the new number of its line. -/
def Statement.renumber
    (renumbering : Renumbering)
    (statement : Statement) :
    Statement :=
  { statement with line := renumbering.apply statement.line }

/-- The same rejection under the new number of its line. -/
def StatementError.renumber
    (renumbering : Renumbering)
    (error : StatementError) :
    StatementError :=
  { error with line := renumbering.apply error.line }

/-- The same state under the new number of its declaration. -/
def StateRecord.renumber
    (renumbering : Renumbering)
    (record : StateRecord) :
    StateRecord :=
  { record with declarationLine := renumbering.apply record.declarationLine }

/-- The same lexical error under the new number of its line. -/
def LexicalError.renumber (renumbering : Renumbering) : LexicalError → LexicalError
  | .unknownLexeme line lexeme => .unknownLexeme (renumbering.apply line) lexeme
  | .lexemeTooLong line length max => .lexemeTooLong (renumbering.apply line) length max
  | .tooManyTokens line max => .tooManyTokens (renumbering.apply line) max

/-- The same generation error under the new number of its line. -/
def GenerationError.renumber (renumbering : Renumbering) : GenerationError → GenerationError
  | .invalidActionFormat line => .invalidActionFormat (renumbering.apply line)
  | .invalidTransitionFormat line => .invalidTransitionFormat (renumbering.apply line)

/-- The same semantic error under the new number of its line, if it has one. -/
def SemanticError.renumber (renumbering : Renumbering) : SemanticError → SemanticError
  | .duplicateState line name => .duplicateState (renumbering.apply line) name
  | .invalidTransitionFormat line => .invalidTransitionFormat (renumbering.apply line)
  | .undefinedStateReference name => .undefinedStateReference name
  | .stateWithoutContent line name => .stateWithoutContent (renumbering.apply line) name

/-! Diagnostics, whose wording opens with their line. -/

namespace Diagnostic

/-- How a wording opens that names a line. -/
def opening (line : Nat) : String :=
  "Line " ++ toString line

/-- A wording with the line that it opens with under its new number. -/
def renumberMessage
    (renumbering : Renumbering)
    (line : Nat)
    (message : String) :
    String :=
  match Text.stripStart? (opening line).toList message.toList with
  | some rest => opening (renumbering.apply line) ++ String.ofList rest
  | none => message

/-- The same diagnostic under the new number of its line, also in its wording. -/
def renumber
    (renumbering : Renumbering)
    (diagnostic : Diagnostic) :
    Diagnostic :=
  match diagnostic.line with
  | some line =>
      { diagnostic with
        line := some (renumbering.apply line)
        message := renumberMessage renumbering line diagnostic.message }
  | none =>
      diagnostic

theorem renumberMessage_opening
    (renumbering : Renumbering)
    (line : Nat)
    (rest : String) :
    renumberMessage renumbering line (opening line ++ rest) =
      opening (renumbering.apply line) ++ rest := by
  have stripped :
      Text.stripStart? (opening line).toList (opening line ++ rest).toList =
        some rest.toList :=
    List.isPrefixOf?_eq_some_iff_append_eq.mpr String.toList_append.symm
  simp only [renumberMessage, stripped, String.ofList_toList]

end Diagnostic

theorem Diagnostic.opening_quoted
    (line : Nat)
    (before quoted : String) :
    opening line ++ before ++ quoted ++ "'" = opening line ++ (before ++ quoted ++ "'") := by
  simp only [String.append_assoc]

/-- A wording that opens with its line changes with the number, and nowhere else. -/
theorem Diagnostic.ofStage_renumber
    (renumbering : Renumbering)
    (stage : Stage)
    (line : Nat)
    (code : Code)
    {message : Nat → String}
    {rest : String}
    (worded : ∀ number, message number = opening number ++ rest) :
    ofStage stage (some (renumbering.apply line)) code (message (renumbering.apply line)) =
      (ofStage stage (some line) code (message line)).renumber renumbering := by
  simp only [renumber, ofStage, worded, renumberMessage_opening]

theorem LexicalError.toDiagnostic_renumber
    (renumbering : Renumbering)
    (error : LexicalError) :
    (error.renumber renumbering).toDiagnostic =
      error.toDiagnostic.renumber renumbering := by
  cases error with
  | unknownLexeme line lexeme =>
      have worded :
          ∀ number,
            (unknownLexeme number lexeme).message =
              Diagnostic.opening number ++
                (": Lexical Error - Unknown lexeme '" ++ lexeme ++ "'") :=
        fun number => Diagnostic.opening_quoted number _ lexeme
      exact Diagnostic.ofStage_renumber renumbering .lexical line _ worded
  | lexemeTooLong line length max =>
      have worded :
          ∀ number,
            (lexemeTooLong number length max).message =
              Diagnostic.opening number ++
                (": Lexical Error - Lexeme too long (" ++ toString length ++
                  " characters, max " ++ toString max ++ ")") := by
        intro number
        simp only [message, Diagnostic.opening, String.append_assoc]
      exact Diagnostic.ofStage_renumber renumbering .lexical line _ worded
  | tooManyTokens line max =>
      have worded :
          ∀ number,
            (tooManyTokens number max).message =
              Diagnostic.opening number ++
                (": Lexical Error - Too many tokens (max " ++ toString max ++ ")") := by
        intro number
        simp only [message, Diagnostic.opening, String.append_assoc]
      exact Diagnostic.ofStage_renumber renumbering .lexical line _ worded

theorem StatementError.toDiagnostic_renumber
    (renumbering : Renumbering)
    (error : StatementError) :
    (error.renumber renumbering).toDiagnostic =
      error.toDiagnostic.renumber renumbering :=
  congrArg (fun diagnostic => diagnostic.withDetail error.rejection.reason)
    (Diagnostic.ofStage_renumber renumbering .syntactic error.line Code.invalidStatement
      (fun number => (rfl : message number = Diagnostic.opening number ++ _)))

theorem SemanticError.toDiagnostic_renumber
    (renumbering : Renumbering)
    (error : SemanticError) :
    (error.renumber renumbering).toDiagnostic =
      error.toDiagnostic.renumber renumbering := by
  cases error with
  | duplicateState line name =>
      have worded :
          ∀ number,
            (duplicateState number name).message =
              Diagnostic.opening number ++
                (": Semantic Error - Duplicate State Declaration: '" ++ name ++ "'") :=
        fun number => Diagnostic.opening_quoted number _ name
      exact Diagnostic.ofStage_renumber renumbering .semantic line _ worded
  | invalidTransitionFormat line =>
      have worded :
          ∀ number,
            (invalidTransitionFormat number).message =
              Diagnostic.opening number ++ ": Semantic Error - Invalid Transition Format" :=
        fun _ => rfl
      exact Diagnostic.ofStage_renumber renumbering .semantic line _ worded
  | undefinedStateReference name =>
      rfl
  | stateWithoutContent line name =>
      have worded :
          ∀ number,
            (stateWithoutContent number name).message =
              Diagnostic.opening number ++
                (": Semantic Error - State with No Content: '" ++ name ++ "'") :=
        fun number => Diagnostic.opening_quoted number _ name
      exact Diagnostic.ofStage_renumber renumbering .semantic line _ worded

/-! Each stage reads a line under its new number as it reads the old one. -/

namespace PlacedLexeme

theorem ofLine_renumber
    (renumbering : Renumbering)
    (line : SourceLine) :
    ofLine (line.renumber renumbering) = (ofLine line).map (renumber renumbering) := by
  simp only [ofLine, SourceLine.renumber, List.map_map]
  rfl

theorem error?_renumber
    (renumbering : Renumbering)
    (limits : ScanLimits)
    (placed : PlacedLexeme) :
    (placed.renumber renumbering).error? limits =
      (placed.error? limits).map (LexicalError.renumber renumbering) := by
  by_cases unmatched : placed.lexeme.pattern.isNone
  · simp [error?, renumber, unmatched, LexicalError.renumber]
  · by_cases tooLong : limits.maxLexemeLength < placed.lexeme.text.length <;>
      simp [error?, renumber, unmatched, tooLong, LexicalError.renumber]

theorem toToken_renumber
    (renumbering : Renumbering)
    (limits : ScanLimits)
    (placed : PlacedLexeme) :
    (placed.renumber renumbering).toToken limits =
      (placed.toToken limits).renumber renumbering := by
  simp only [toToken, error?_renumber, Option.isSome_map]
  rfl

/-- The lexemes of renumbered lines. -/
theorem flatMap_ofLine_renumber
    (renumbering : Renumbering)
    (lines : List SourceLine) :
    (lines.map (SourceLine.renumber renumbering)).flatMap ofLine =
      (lines.flatMap ofLine).map (renumber renumbering) := by
  simp only [List.flatMap_map, List.map_flatMap, ofLine_renumber]

end PlacedLexeme

/-- Reading renumbered lines one by one gives renumbered results. -/
theorem SourceLine.filterMap_renumber
    {renumbering : Renumbering}
    {read : SourceLine → Option α}
    {move : α → α}
    (moves : ∀ line, read (line.renumber renumbering) = (read line).map move)
    (lines : List SourceLine) :
    (lines.map (renumber renumbering)).filterMap read = (lines.filterMap read).map move := by
  rw [List.filterMap_map, List.map_filterMap]
  exact List.filterMap_congr fun line _ => moves line

namespace StatementCheck

theorem statement?_renumber
    (renumbering : Renumbering)
    (line : SourceLine) :
    statement? (line.renumber renumbering) =
      (statement? line).map (Statement.renumber renumbering) := by
  cases verdict : StatementShape.ofText line.text <;>
    simp [statement?, judge, SourceLine.renumber, verdict, accepted?, Statement.renumber]

/-- The error of a line, if it has no shape. -/
def error? (line : SourceLine) : Option StatementError :=
  rejected? (judge line)

theorem errors_ofLines (lines : List Text) :
    (ofLines lines).errors = (SourceLine.significant lines).filterMap error? := by
  simp only [ofLines, List.filterMap_map]
  rfl

theorem error?_renumber
    (renumbering : Renumbering)
    (line : SourceLine) :
    error? (line.renumber renumbering) =
      (error? line).map (StatementError.renumber renumbering) := by
  cases verdict : StatementShape.ofText line.text <;>
    simp [error?, judge, SourceLine.renumber, verdict, rejected?, StatementError.renumber]

end StatementCheck

namespace Generation

theorem lowered?_renumber
    (renumbering : Renumbering)
    (line : SourceLine) :
    lowered? (line.renumber renumbering) = lowered? line := by
  cases kind : StatementKind.ofText line.text with
  | action =>
      cases field : (Text.fields line.text)[1]? <;>
        simp [lowered?, lower?, SourceLine.renumber, kind, lowerAction, field, quadruple?]
  | transitionDeclaration =>
      cases parts : TransitionParts.ofText? line.text <;>
        simp [lowered?, lower?, SourceLine.renumber, kind, lowerTransition, parts, quadruple?]
  | stateDeclaration | marker | brace | unrecognized =>
      simp [lowered?, lower?, SourceLine.renumber, kind]

theorem failed?_renumber
    (renumbering : Renumbering)
    (line : SourceLine) :
    failed? (line.renumber renumbering) =
      (failed? line).map (GenerationError.renumber renumbering) := by
  cases kind : StatementKind.ofText line.text with
  | action =>
      cases field : (Text.fields line.text)[1]? <;>
        simp [failed?, lower?, SourceLine.renumber, kind, lowerAction, field, error?,
          GenerationError.renumber]
  | transitionDeclaration =>
      cases parts : TransitionParts.ofText? line.text <;>
        simp [failed?, lower?, SourceLine.renumber, kind, lowerTransition, parts, error?,
          GenerationError.renumber]
  | stateDeclaration | marker | brace | unrecognized =>
      simp [failed?, lower?, SourceLine.renumber, kind]

end Generation

end Smsl
