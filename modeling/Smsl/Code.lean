namespace Smsl

/-!
# Codes

Every diagnostic and every log event carries a code.  The registry says of each
error code which part of the compiler it belongs to, how severe it is, whether
work can go on, and what a user should do.
-/

/-- A code of an error, a success, or a plain log line. -/
structure Code where
  text : String
  deriving Repr, DecidableEq

/-- The part of the compiler that a code belongs to. -/
inductive Category where
  | system
  | source
  | lexical
  | syntactic
  | semantic
  | generation
  | success
  | unknown
  deriving Repr, DecidableEq

/-- The name of a category. -/
def Category.name : Category → String
  | .system => "System"
  | .source => "Source"
  | .lexical => "Lexical"
  | .syntactic => "Syntax"
  | .semantic => "Semantic"
  | .generation => "Generation"
  | .success => "Success"
  | .unknown => "Unknown"

/-- How grave an error is. -/
inductive Severity where
  | critical
  | high
  | medium
  | low
  deriving Repr, DecidableEq

/-- The name of a severity. -/
def Severity.name : Severity → String
  | .critical => "Critical"
  | .high => "High"
  | .medium => "Medium"
  | .low => "Low"

/-- What the registry knows about an error code. -/
structure CodeEntry where
  code : Code
  category : Category
  severity : Severity
  recoverable : Bool
  requiresHalt : Bool
  description : String
  recommendedAction : String
  deriving Repr, DecidableEq

namespace Code

/-- The compiler itself failed. -/
def internalError : Code := ⟨"ERR001"⟩

/-- The compiler could not start. -/
def initializationFailure : Code := ⟨"ERR002"⟩

/-- The preferences are unreadable or wrong. -/
def configurationError : Code := ⟨"ERR003"⟩

/-- The source file does not exist. -/
def fileNotFound : Code := ⟨"E005"⟩

/-- The source file has another extension. -/
def invalidExtension : Code := ⟨"E006"⟩

/-- The source file has too many bytes. -/
def fileTooLarge : Code := ⟨"E007"⟩

/-- The source file may not be read. -/
def permissionDenied : Code := ⟨"E009"⟩

/-- The source file is not UTF-8. -/
def invalidEncoding : Code := ⟨"E010"⟩

/-- Reading the source file failed. -/
def ioError : Code := ⟨"E011"⟩

/-- The source path does not name a regular file. -/
def invalidPath : Code := ⟨"E012"⟩

/-- The source file has too many lines. -/
def tooManyLines : Code := ⟨"E013"⟩

/-- No pattern matches a piece of text. -/
def unknownLexeme : Code := ⟨"E020"⟩

/-- A lexeme has too many characters. -/
def lexemeTooLong : Code := ⟨"E023"⟩

/-- A unit has too many tokens. -/
def tooManyTokens : Code := ⟨"E027"⟩

/-- A line has none of the statement shapes. -/
def invalidStatement : Code := ⟨"E043"⟩

/-- A state is declared again. -/
def duplicateState : Code := ⟨"E090"⟩

/-- A transition leads to a state that is never declared. -/
def undefinedStateReference : Code := ⟨"E110"⟩

/-- No action is attributed to a state. -/
def stateWithoutContent : Code := ⟨"E120"⟩

/-- A transition line has too few parts. -/
def invalidTransitionFormat : Code := ⟨"E121"⟩

/-- An action line cannot be lowered. -/
def invalidAction : Code := ⟨"E150"⟩

/-- A transition line cannot be lowered. -/
def invalidTransition : Code := ⟨"E151"⟩

/-- A unit compiled without diagnostics. -/
def compilationComplete : Code := ⟨"I001"⟩

/-- Logging is set up. -/
def initializationCompleted : Code := ⟨"I004"⟩

/-- A source file was read. -/
def sourceLoaded : Code := ⟨"I006"⟩

/-- A unit was scanned. -/
def tokenizationComplete : Code := ⟨"I020"⟩

/-- Every statement of a unit has a shape. -/
def statementsValid : Code := ⟨"I041"⟩

/-- The semantic analysis found nothing. -/
def semanticAnalysisComplete : Code := ⟨"I070"⟩

/-- Quadruples were generated. -/
def intermediateCodeGenerated : Code := ⟨"I090"⟩

/-- Quadruples were optimized. -/
def optimizationComplete : Code := ⟨"I091"⟩

/-- Plain information. -/
def plainInfo : Code := ⟨"I000"⟩

/-- A plain warning. -/
def plainWarning : Code := ⟨"W000"⟩

/-- Plain debugging output. -/
def plainDebug : Code := ⟨"D000"⟩

/-- The error codes with their classification. -/
def registry : List CodeEntry :=
  [{ code := internalError
     category := .system
     severity := .critical
     recoverable := false
     requiresHalt := true
     description := "Critical internal compiler error"
     recommendedAction := "File a bug report with the failing input" },
   { code := initializationFailure
     category := .system
     severity := .critical
     recoverable := false
     requiresHalt := true
     description := "Compiler initialization failure"
     recommendedAction := "Check logging and runtime configuration" },
   { code := configurationError
     category := .system
     severity := .high
     recoverable := false
     requiresHalt := true
     description := "Invalid or unreadable configuration file"
     recommendedAction := "Fix the TOML preferences file or remove it" },
   { code := fileNotFound
     category := .source
     severity := .medium
     recoverable := false
     requiresHalt := true
     description := "Source file not found"
     recommendedAction := "Verify the file path exists and is accessible" },
   { code := invalidExtension
     category := .source
     severity := .low
     recoverable := true
     requiresHalt := false
     description := "Source file does not have the .smsl extension"
     recommendedAction := "Rename the file or disable the extension requirement" },
   { code := fileTooLarge
     category := .source
     severity := .high
     recoverable := false
     requiresHalt := true
     description := "Source file exceeds the configured size limit"
     recommendedAction := "Split the state machine or raise max_file_size in the build profile" },
   { code := permissionDenied
     category := .source
     severity := .high
     recoverable := false
     requiresHalt := true
     description := "Permission denied reading source"
     recommendedAction := "Check file permissions" },
   { code := invalidEncoding
     category := .source
     severity := .medium
     recoverable := false
     requiresHalt := true
     description := "Source is not valid UTF-8"
     recommendedAction := "Re-encode the source file as UTF-8" },
   { code := ioError
     category := .source
     severity := .high
     recoverable := false
     requiresHalt := true
     description := "I/O error while reading source"
     recommendedAction := "Check file system health and retry" },
   { code := invalidPath
     category := .source
     severity := .medium
     recoverable := false
     requiresHalt := true
     description := "Invalid source path"
     recommendedAction := "Provide a path to a regular file" },
   { code := tooManyLines
     category := .source
     severity := .high
     recoverable := false
     requiresHalt := true
     description := "Source exceeds the configured line limit"
     recommendedAction := "Split the state machine or raise max_line_count in the build profile" },
   { code := unknownLexeme
     category := .lexical
     severity := .medium
     recoverable := true
     requiresHalt := false
     description := "Unknown lexeme"
     recommendedAction := "Remove characters that are not part of the SMSL vocabulary" },
   { code := lexemeTooLong
     category := .lexical
     severity := .medium
     recoverable := true
     requiresHalt := false
     description := "Lexeme exceeds the configured length limit"
     recommendedAction := "Shorten the identifier or string literal" },
   { code := tooManyTokens
     category := .lexical
     severity := .high
     recoverable := false
     requiresHalt := true
     description := "Token count exceeds the configured limit"
     recommendedAction := "Split the state machine into smaller units" },
   { code := invalidStatement
     category := .syntactic
     severity := .high
     recoverable := true
     requiresHalt := false
     description := "Statement does not match any SMSL statement shape"
     recommendedAction := "Use state, transition, action, start;/end; or a brace line" },
   { code := duplicateState
     category := .semantic
     severity := .high
     recoverable := true
     requiresHalt := false
     description := "State declared more than once"
     recommendedAction := "Rename or remove the repeated declaration" },
   { code := undefinedStateReference
     category := .semantic
     severity := .high
     recoverable := true
     requiresHalt := false
     description := "Transition targets a state that is never declared"
     recommendedAction := "Declare the target state or fix the reference" },
   { code := stateWithoutContent
     category := .semantic
     severity := .medium
     recoverable := true
     requiresHalt := false
     description := "State has no action attributed to it"
     recommendedAction := "Add an action directly after the state declaration" },
   { code := invalidTransitionFormat
     category := .semantic
     severity := .high
     recoverable := true
     requiresHalt := false
     description := "Transition statement cannot be split into name, event and target"
     recommendedAction := "Use `transition <name>: <event> -> <target> \x7b`" },
   { code := invalidAction
     category := .generation
     severity := .medium
     recoverable := true
     requiresHalt := false
     description := "Action statement has no action name"
     recommendedAction := "Use `action <name>;`" },
   { code := invalidTransition
     category := .generation
     severity := .medium
     recoverable := true
     requiresHalt := false
     description := "Transition statement cannot be lowered to a quadruple"
     recommendedAction := "Use `transition <name>: <event> -> <target> \x7b`" }]

/-- The registry entry of a code. -/
def entry? (code : Code) : Option CodeEntry :=
  registry.find? fun entry => entry.code = code

/-- The severity of a code; codes outside the registry count as medium. -/
def severity (code : Code) : Severity :=
  (code.entry?.map (·.severity)).getD .medium

/-- Work can go on after this code; so it is outside the registry. -/
def isRecoverable (code : Code) : Bool :=
  (code.entry?.map (·.recoverable)).getD true

/-- The code asks for an immediate stop; none outside the registry does. -/
def requiresHalt (code : Code) : Bool :=
  (code.entry?.map (·.requiresHalt)).getD false

/-- One line on what the code means. -/
def description (code : Code) : String :=
  (code.entry?.map (·.description)).getD "Unknown error"

/-- One line on what a user should do. -/
def recommendedAction (code : Code) : String :=
  (code.entry?.map (·.recommendedAction)).getD "No specific action available"

/-- The category of a code; outside the registry, codes with an `I` are successes. -/
def category (code : Code) : Category :=
  match code.entry? with
  | some entry =>
      entry.category
  | none =>
      if code.text.toList.head? == some 'I' then
        .success
      else
        .unknown

end Code

end Smsl
