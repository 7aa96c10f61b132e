import Smsl.Json
import Smsl.Log.Event
import Smsl.Quadruple.Optimization
import Smsl.Semantics.Analysis

namespace Smsl

/-!
# Preferences

What a user can choose about a compilation, section by section.
-/

/-- How source files are read. -/
structure SourcePreferences where
  requireExtension : Bool
  logPerformance : Bool
  deriving Repr, DecidableEq

/-- How units are scanned. -/
structure LexicalPreferences where
  detailedMetrics : Bool
  deriving Repr, DecidableEq

/-- How states are checked. -/
structure SemanticPreferences where
  attribution : AttributionPolicy
  input : SemanticInput
  deriving Repr, DecidableEq

/-- How quadruples are optimized. -/
structure OptimizerPreferences where
  policy : OptimizerPolicy
  deriving Repr, DecidableEq

/-- Whether the first stage with diagnostics is the last one. -/
structure PipelinePreferences where
  stopOnErrors : Bool
  deriving Repr, DecidableEq

/-- How events are logged. -/
structure LoggingPreferences where
  structured : Bool
  minimum : Log.Level
  tagsUnits : Bool
  deriving Repr, DecidableEq

/-- All preferences of a compilation. -/
structure Preferences where
  source : SourcePreferences
  lexical : LexicalPreferences
  semantic : SemanticPreferences
  optimizer : OptimizerPreferences
  pipeline : PipelinePreferences
  logging : LoggingPreferences
  deriving Repr, DecidableEq

/-- One line on the logging preferences and the build. -/
def LoggingPreferences.summary (preferences : LoggingPreferences) : String :=
  "min_level=" ++ preferences.minimum.label ++
    " structured=" ++ Json.boolText preferences.structured ++
    " source_context=" ++ Json.boolText preferences.tagsUnits ++
    " profile=" ++ Limits.profile

/-- The preferences as a JSON object, section by section. -/
def Preferences.toJson (preferences : Preferences) : Json :=
  .object
    [("source", .object
        [("require_smsl_extension", .bool preferences.source.requireExtension),
         ("enable_performance_logging", .bool preferences.source.logPerformance)]),
     ("lexical", .object
        [("collect_detailed_metrics", .bool preferences.lexical.detailedMetrics)]),
     ("semantic", .object
        [("attribution", .string preferences.semantic.attribution.name),
         ("input", .string preferences.semantic.input.name)]),
     ("optimizer", .object
        [("policy", .string preferences.optimizer.policy.name)]),
     ("pipeline", .object
        [("stop_on_errors", .bool preferences.pipeline.stopOnErrors)]),
     ("logging", .object
        [("use_structured_logging", .bool preferences.logging.structured),
         ("min_log_level", .string preferences.logging.minimum.name),
         ("include_source_context", .bool preferences.logging.tagsUnits)])]

end Smsl
