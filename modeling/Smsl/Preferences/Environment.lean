import Smsl.Preferences.Basic
import Smsl.Text.LowerCase

namespace Smsl

/-!
# Preferences from the environment

Each preference has a default, and a variable of the environment that replaces
it.  A variable with a value that is not understood counts as absent.
-/

namespace Word

/-- A word as it is compared: in lower case. -/
def folded (word : String) : String :=
  String.ofList (Text.lowerCase word.toList)

/-- A word as it is compared: in lower case, without surrounding blanks. -/
def trimmed (word : String) : String :=
  String.ofList (Text.lowerCase (Text.trim word.toList))

end Word

/-- The policy that a word names. -/
def AttributionPolicy.ofWord? (word : String) : Option AttributionPolicy :=
  let name := Word.trimmed word
  if name = "adjacent" || name = "adjacent-declaration" then
    some .adjacentDeclaration
  else if name = "any" || name = "any-action" then
    some .anyAction
  else
    none

/-- The input that a word names. -/
def SemanticInput.ofWord? (word : String) : Option SemanticInput :=
  let name := Word.trimmed word
  if name = "lines" then
    some .lines
  else if name = "tokens" then
    some .tokens
  else
    none

/-- The policy that a word names. -/
def OptimizerPolicy.ofWord? (word : String) : Option OptimizerPolicy :=
  let name := Word.trimmed word
  if name = "dedup" || name = "deduplicate" then
    some .deduplicate
  else if name = "merge" || name = "deduplicate-and-merge" then
    some .deduplicateAndMerge
  else
    none

/-- The level that a word or a digit names; blanks are not trimmed. -/
def Log.Level.ofWord? (word : String) : Option Log.Level :=
  let name := Word.folded word
  if name = "error" || name = "0" then
    some .error
  else if name = "warning" || name = "warn" || name = "1" then
    some .warning
  else if name = "info" || name = "2" then
    some .info
  else if name = "debug" || name = "3" then
    some .debug
  else
    none

/-- The variables of the environment that replace defaults. -/
inductive Variable where
  | requireExtension
  | logPerformance
  | detailedMetrics
  | attribution
  | semanticInput
  | optimizerPolicy
  | stopOnErrors
  | structuredLogging
  | minimumLevel
  | tagsUnits
  deriving Repr, DecidableEq

namespace Variable

/-- All variables. -/
def all : List Variable :=
  [.requireExtension, .logPerformance, .detailedMetrics, .attribution, .semanticInput,
    .optimizerPolicy, .stopOnErrors, .structuredLogging, .minimumLevel, .tagsUnits]

/-- The name of a variable. -/
def name : Variable → String
  | .requireExtension => "SMSL_REQUIRE_SMSL_EXTENSION"
  | .logPerformance => "SMSL_ENABLE_PERFORMANCE_LOGGING"
  | .detailedMetrics => "SMSL_LEXICAL_DETAILED_METRICS"
  | .attribution => "SMSL_SEMANTIC_ATTRIBUTION"
  | .semanticInput => "SMSL_SEMANTIC_INPUT"
  | .optimizerPolicy => "SMSL_OPTIMIZER_POLICY"
  | .stopOnErrors => "SMSL_PIPELINE_STOP_ON_ERRORS"
  | .structuredLogging => "SMSL_LOGGING_USE_STRUCTURED"
  | .minimumLevel => "SMSL_LOGGING_MIN_LEVEL"
  | .tagsUnits => "SMSL_LOGGING_INCLUDE_SOURCE_CONTEXT"

/-- The variable with a name. -/
def ofName? (name : String) : Option Variable :=
  all.find? fun candidate => candidate.name = name

end Variable

/-- The values of the variables that are set. -/
structure Environment where
  value? : Variable → Option String

namespace Environment

/-- The environment in which nothing is set. -/
def empty : Environment where
  value? _ := none

/-- The environment with the given values. -/
def ofList (values : List (Variable × String)) : Environment where
  value? name := (values.find? fun pair => pair.1 = name).map (·.2)

/-- A truth value: only `true` and `false` are understood. -/
def truth? (text : String) : Option Bool :=
  if text = "true" then
    some true
  else if text = "false" then
    some false
  else
    none

/-- The value of a variable as it is understood, or the default. -/
def read
    (environment : Environment)
    (name : Variable)
    (understand : String → Option α)
    (standard : α) :
    α :=
  ((environment.value? name).bind understand).getD standard

/-- The preferences that an environment gives. -/
def preferences (environment : Environment) : Preferences where
  source :=
    { requireExtension := environment.read .requireExtension truth? false
      logPerformance := environment.read .logPerformance truth? true }
  lexical :=
    { detailedMetrics := environment.read .detailedMetrics truth? true }
  semantic :=
    { attribution :=
        environment.read .attribution AttributionPolicy.ofWord? .adjacentDeclaration
      input := environment.read .semanticInput SemanticInput.ofWord? .lines }
  optimizer :=
    { policy := environment.read .optimizerPolicy OptimizerPolicy.ofWord? .deduplicate }
  pipeline :=
    { stopOnErrors := environment.read .stopOnErrors truth? true }
  logging :=
    { structured := environment.read .structuredLogging truth? false
      minimum := environment.read .minimumLevel Log.Level.ofWord? .warning
      tagsUnits := environment.read .tagsUnits truth? true }

end Environment

end Smsl
