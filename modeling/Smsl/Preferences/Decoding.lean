import Smsl.Preferences.Environment
import Smsl.Toml.Document

namespace Smsl

/-!
# Preferences from a document

A document gives each section as a table of fields, or as an array of them in
the order of their declaration.  What it does not mention keeps its default, and
what it mentions without need is ignored.
-/

namespace Preferences

/-- The fields of a section: by name, or by position. -/
inductive Fields where
  | named (entries : Toml.Entries)
  | placed (items : List Toml.Value)

namespace Fields

/-- The fields that a value gives; a date has none that is known. -/
def ofValue? : Toml.Value → Option Fields
  | .table _ entries =>
      some (.named entries)
  | .array items =>
      some (.placed items)
  | .tables elements =>
      some (.placed (elements.map (.table .header)))
  | .dateTime _ =>
      some (.named [])
  | _ =>
      none

/-- The value of a field. -/
def get?
    (fields : Fields)
    (name : String)
    (position : Nat) :
    Option Toml.Value :=
  match fields with
  | .named entries => entries.get? name
  | .placed items => items[position]?

/-- The meaning of a field, or its default if it is missing; a wrong value fails. -/
def read
    (fields : Fields)
    (name : String)
    (position : Nat)
    (understand : Toml.Value → Option α)
    (standard : α) :
    Option α :=
  match fields.get? name position with
  | some value => understand value
  | none => some standard

end Fields

/-- A truth value. -/
def truth? : Toml.Value → Option Bool
  | .boolean value => some value
  | _ => none

/-- A table or an array without content. -/
def isEmptyValue : Toml.Value → Bool
  | .table _ [] => true
  | .array [] => true
  | _ => false

/-- One of several names, as a string or as the only field of a table, without content. -/
def choice?
    (names : List (String × α)) :
    Toml.Value → Option α
  | .string text =>
      (names.find? fun named => named.1 = text).map (·.2)
  | .table _ [(name, content)] =>
      if isEmptyValue content then
        (names.find? fun named => named.1 = name).map (·.2)
      else
        none
  | _ =>
      none

/-- The names of attribution policies. -/
def attributionNames : List (String × AttributionPolicy) :=
  [("adjacent-declaration", .adjacentDeclaration), ("adjacent", .adjacentDeclaration),
    ("any-action", .anyAction), ("any", .anyAction)]

/-- The names of semantic inputs. -/
def inputNames : List (String × SemanticInput) :=
  [("lines", .lines), ("tokens", .tokens)]

/-- The names of optimizer policies. -/
def policyNames : List (String × OptimizerPolicy) :=
  [("deduplicate", .deduplicate), ("dedup", .deduplicate),
    ("deduplicate-and-merge", .deduplicateAndMerge), ("merge", .deduplicateAndMerge)]

/-- The names of log levels. -/
def levelNames : List (String × Log.Level) :=
  [("error", .error), ("warning", .warning), ("warn", .warning), ("info", .info),
    ("debug", .debug)]

/-- The source section, on top of its defaults. -/
def source?
    (standard : SourcePreferences)
    (value : Toml.Value) :
    Option SourcePreferences := do
  let fields ← Fields.ofValue? value
  let requireExtension ←
    fields.read "require_smsl_extension" 0 truth? standard.requireExtension
  let logPerformance ←
    fields.read "enable_performance_logging" 1 truth? standard.logPerformance
  return { requireExtension, logPerformance }

/-- The lexical section, on top of its defaults. -/
def lexical?
    (standard : LexicalPreferences)
    (value : Toml.Value) :
    Option LexicalPreferences := do
  let fields ← Fields.ofValue? value
  let detailedMetrics ←
    fields.read "collect_detailed_metrics" 0 truth? standard.detailedMetrics
  return { detailedMetrics }

/-- The semantic section, on top of its defaults. -/
def semantic?
    (standard : SemanticPreferences)
    (value : Toml.Value) :
    Option SemanticPreferences := do
  let fields ← Fields.ofValue? value
  let attribution ←
    fields.read "attribution" 0 (choice? attributionNames) standard.attribution
  let input ← fields.read "input" 1 (choice? inputNames) standard.input
  return { attribution, input }

/-- The optimizer section, on top of its defaults. -/
def optimizer?
    (standard : OptimizerPreferences)
    (value : Toml.Value) :
    Option OptimizerPreferences := do
  let fields ← Fields.ofValue? value
  let policy ← fields.read "policy" 0 (choice? policyNames) standard.policy
  return { policy }

/-- The pipeline section, on top of its defaults. -/
def pipeline?
    (standard : PipelinePreferences)
    (value : Toml.Value) :
    Option PipelinePreferences := do
  let fields ← Fields.ofValue? value
  let stopOnErrors ← fields.read "stop_on_errors" 0 truth? standard.stopOnErrors
  return { stopOnErrors }

/-- The logging section, on top of its defaults. -/
def logging?
    (standard : LoggingPreferences)
    (value : Toml.Value) :
    Option LoggingPreferences := do
  let fields ← Fields.ofValue? value
  let structured ←
    fields.read "use_structured_logging" 0 truth? standard.structured
  let minimum ← fields.read "min_log_level" 1 (choice? levelNames) standard.minimum
  let tagsUnits ←
    fields.read "include_source_context" 2 truth? standard.tagsUnits
  return { structured, minimum, tagsUnits }

/-- The preferences of a document, on top of their defaults. -/
def ofDocument?
    (standard : Preferences)
    (document : Toml.Entries) :
    Option Preferences := do
  let fields := Fields.named document
  let source ← fields.read "source" 0 (source? standard.source) standard.source
  let lexical ← fields.read "lexical" 1 (lexical? standard.lexical) standard.lexical
  let semantic ← fields.read "semantic" 2 (semantic? standard.semantic) standard.semantic
  let optimizer ← fields.read "optimizer" 3 (optimizer? standard.optimizer) standard.optimizer
  let pipeline ← fields.read "pipeline" 4 (pipeline? standard.pipeline) standard.pipeline
  let logging ← fields.read "logging" 5 (logging? standard.logging) standard.logging
  return { source, lexical, semantic, optimizer, pipeline, logging }

/-- The preferences that a text gives, on top of their defaults. -/
def ofText?
    (standard : Preferences)
    (text : String) :
    Option Preferences :=
  (Toml.Document.ofText? text.toList).bind (ofDocument? standard)

end Preferences

end Smsl
