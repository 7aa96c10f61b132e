import Smsl.Diagnostic
import Smsl.Limits
import Smsl.Line
import Smsl.Log.Event
import Smsl.Token.Lexeme

namespace Smsl

/-!
# Scanning a unit

The scanner turns the significant lines of a unit into tokens.  Lexemes that no
pattern matches and lexemes that are too long become tokens of the unknown kind
and an error each.  When the unit has as many tokens as allowed, the next lexeme
stops the scan with one last error.
-/

/-- The limits of a scan. -/
structure ScanLimits where
  maxLexemeLength : Nat
  maxTokenCount : Nat
  deriving Repr, DecidableEq

/-- The limits of the build. -/
def ScanLimits.standard : ScanLimits where
  maxLexemeLength := Limits.maxLexemeLength
  maxTokenCount := Limits.maxTokenCount

/-- What can be wrong with the lexemes of a unit. -/
inductive LexicalError where
  | unknownLexeme (line : Nat) (lexeme : String)
  | lexemeTooLong (line : Nat) (length : Nat) (max : Nat)
  | tooManyTokens (line : Nat) (max : Nat)
  deriving Repr, DecidableEq

namespace LexicalError

/-- The line at which an error was found. -/
def line : LexicalError → Nat
  | .unknownLexeme line _ => line
  | .lexemeTooLong line _ _ => line
  | .tooManyTokens line _ => line

/-- The code of an error. -/
def code : LexicalError → Code
  | .unknownLexeme .. => Code.unknownLexeme
  | .lexemeTooLong .. => Code.lexemeTooLong
  | .tooManyTokens .. => Code.tooManyTokens

/-- The wording of an error. -/
def message : LexicalError → String
  | .unknownLexeme line lexeme =>
      "Line " ++ toString line ++ ": Lexical Error - Unknown lexeme '" ++ lexeme ++ "'"
  | .lexemeTooLong line length max =>
      "Line " ++ toString line ++ ": Lexical Error - Lexeme too long (" ++
        toString length ++ " characters, max " ++ toString max ++ ")"
  | .tooManyTokens line max =>
      "Line " ++ toString line ++ ": Lexical Error - Too many tokens (max " ++
        toString max ++ ")"

/-- The error as a diagnostic of the lexical stage. -/
def toDiagnostic (error : LexicalError) : Diagnostic :=
  Diagnostic.ofStage .lexical (some error.line) error.code error.message

/-- The event that an error is logged as; lexemes that are too long are not logged. -/
def event? : LexicalError → Option Log.Event
  | .unknownLexeme line lexeme =>
      some <|
        (Log.Event.debug "Unknown lexeme").withValues
          [("line", toString line), ("lexeme", lexeme)]
  | .lexemeTooLong .. =>
      none
  | .tooManyTokens line max =>
      some <|
        (Log.Event.warning "Token limit reached, scanning stopped").withValues
          [("line", toString line), ("max_tokens", toString max)]

end LexicalError

/-- Counts over the tokens of a scan; counts by kind are kept only on request. -/
structure ScanMetrics where
  totalTokens : Nat
  unknownLexemes : Nat
  skippedLines : Nat
  tokensByKind : List (TokenKind × Nat)
  deriving Repr, DecidableEq

namespace ScanMetrics

/-- The counts before any token, for a number of lines without text. -/
def initial (skippedLines : Nat) : ScanMetrics where
  totalTokens := 0
  unknownLexemes := 0
  skippedLines := skippedLines
  tokensByKind := []

/-- Count one more token of a kind. -/
def increment
    (kind : TokenKind) :
    List (TokenKind × Nat) → List (TokenKind × Nat)
  | [] =>
      [(kind, 1)]
  | first :: rest =>
      if first.1 = kind then
        (kind, first.2 + 1) :: rest
      else
        first :: increment kind rest

/-- The counts after one more token. -/
def record
    (detailed : Bool)
    (kind : TokenKind)
    (metrics : ScanMetrics) :
    ScanMetrics where
  totalTokens := metrics.totalTokens + 1
  unknownLexemes :=
    if kind = .unknown then metrics.unknownLexemes + 1 else metrics.unknownLexemes
  skippedLines := metrics.skippedLines
  tokensByKind :=
    if detailed then increment kind metrics.tokensByKind else metrics.tokensByKind

end ScanMetrics

/-- A lexeme under its line number. -/
structure PlacedLexeme where
  line : Nat
  lexeme : Lexeme
  deriving Repr, DecidableEq

namespace PlacedLexeme

/-- The lexemes of a significant line. -/
def ofLine (line : SourceLine) : List PlacedLexeme :=
  (Lexeme.ofText line.text).map fun lexeme =>
    { line := line.number, lexeme }

/-- What is wrong with a lexeme under the limits, if anything. -/
def error?
    (limits : ScanLimits)
    (placed : PlacedLexeme) :
    Option LexicalError :=
  let length := placed.lexeme.text.length
  if placed.lexeme.pattern.isNone then
    some (.unknownLexeme placed.line (String.ofList placed.lexeme.text))
  else if limits.maxLexemeLength < length then
    some (.lexemeTooLong placed.line length limits.maxLexemeLength)
  else
    none

/-- The token of a lexeme: of the unknown kind if something is wrong with it. -/
def toToken
    (limits : ScanLimits)
    (placed : PlacedLexeme) :
    Token where
  line := placed.line
  lexeme := String.ofList placed.lexeme.text
  kind :=
    if (placed.error? limits).isSome then
      .unknown
    else
      placed.lexeme.kind

end PlacedLexeme

/-- How far a scan has come. -/
structure ScanState where
  tokens : Array Token
  errors : Array LexicalError
  metrics : ScanMetrics
  deriving Repr, DecidableEq

namespace ScanState

/-- Take one lexeme as a token. -/
def push
    (limits : ScanLimits)
    (detailed : Bool)
    (state : ScanState)
    (placed : PlacedLexeme) :
    ScanState :=
  let token := placed.toToken limits
  { tokens := state.tokens.push token
    errors :=
      match placed.error? limits with
      | some error => state.errors.push error
      | none => state.errors
    metrics := state.metrics.record detailed token.kind }

/-- Take lexemes as long as the token limit allows. -/
def run
    (limits : ScanLimits)
    (detailed : Bool) :
    ScanState → List PlacedLexeme → ScanState
  | state, [] =>
      state
  | state, placed :: rest =>
      if limits.maxTokenCount ≤ state.tokens.size then
        { state with
          errors := state.errors.push (.tooManyTokens placed.line limits.maxTokenCount) }
      else
        run limits detailed (state.push limits detailed placed) rest

end ScanState

/-- The tokens of a unit and what the scanner found wrong, in order. -/
structure Scan where
  tokens : List Token
  errors : List LexicalError
  metrics : ScanMetrics
  deriving Repr, DecidableEq

namespace Scan

/-- Scan the raw lines of a unit. -/
def ofLines
    (limits : ScanLimits)
    (detailed : Bool)
    (lines : List Text) :
    Scan :=
  let significant := SourceLine.significant lines
  let initial : ScanState :=
    { tokens := #[]
      errors := #[]
      metrics := ScanMetrics.initial (lines.length - significant.length) }
  let final := initial.run limits detailed (significant.flatMap PlacedLexeme.ofLine)
  { tokens := final.tokens.toList
    errors := final.errors.toList
    metrics := final.metrics }

/-- The diagnostics of the lexical stage. -/
def diagnostics (scan : Scan) : List Diagnostic :=
  scan.errors.map LexicalError.toDiagnostic

/-- The scanner found something wrong. -/
def hasErrors (scan : Scan) : Bool :=
  !scan.errors.isEmpty

/-- The event at the end of a scan. -/
def completion (scan : Scan) : Log.Event :=
  (Log.Event.success Code.tokenizationComplete "Tokenization completed").withValues
    [("tokens", toString scan.metrics.totalTokens),
     ("unknown_lexemes", toString scan.metrics.unknownLexemes),
     ("diagnostics", toString scan.errors.length),
     ("skipped_lines", toString scan.metrics.skippedLines)]

/-- The events of a scan, in order. -/
def events (scan : Scan) : List Log.Event :=
  scan.errors.filterMap LexicalError.event? ++ [scan.completion]

end Scan

end Smsl
