import Smsl.Code
import Smsl.Json
import Smsl.Limits
import Smsl.Text.Encoding

namespace Smsl.Log

/-!
# Log events

An event has a level, a code, a message, perhaps a source line, and a context of
named values in the order of their names.  It is written as one line of text or
as one line of JSON with sorted keys.
-/

/-- Log levels, from the gravest to the most talkative. -/
inductive Level where
  | error
  | warning
  | info
  | debug
  deriving Repr, DecidableEq

namespace Level

/-- The word for a level in preferences. -/
def name : Level → String
  | .error => "error"
  | .warning => "warning"
  | .info => "info"
  | .debug => "debug"

/-- The label of a level in log lines. -/
def label : Level → String
  | .error => "ERROR"
  | .warning => "WARN"
  | .info => "INFO"
  | .debug => "DEBUG"

/-- The rank of a level; graver levels have smaller ranks. -/
def rank : Level → Nat
  | .error => 0
  | .warning => 1
  | .info => 2
  | .debug => 3

/-- An event of this level passes a filter set to the given level. -/
def passes (level minimum : Level) : Bool :=
  level.rank ≤ minimum.rank

end Level

/-- Named values, sorted by name, each name once. -/
abbrev Context := List (String × String)

namespace Context

/-- Set the value of a name, in place of an earlier one. -/
def insert
    (name value : String) :
    Context → Context
  | [] =>
      [(name, value)]
  | first :: rest =>
      if name = first.1 then
        (name, value) :: rest
      else if name < first.1 then
        (name, value) :: first :: rest
      else
        first :: insert name value rest

/-- Set the values of several names, one after the other. -/
def insertAll
    (pairs : List (String × String))
    (context : Context) :
    Context :=
  pairs.foldl (fun extended pair => insert pair.1 pair.2 extended) context

end Context

/-- A message as it is kept: long ones are cut at a character and end in dots. -/
def clip (message : String) : String :=
  if message.utf8ByteSize ≤ Limits.maxLogMessageLength then
    message
  else
    String.ofList (Text.firstWithin message.toList Limits.maxLogMessageLength) ++ "..."

/-- One log event; `timestamp` counts seconds and is set when the event is written. -/
structure Event where
  timestamp : Nat
  level : Level
  code : Code
  message : String
  line : Option Nat
  context : Context
  deriving Repr, DecidableEq

namespace Event

/-- An event of a level, with its message clipped. -/
def ofLevel
    (level : Level)
    (code : Code)
    (message : String) :
    Event where
  timestamp := 0
  level := level
  code := code
  message := clip message
  line := none
  context := []

/-- An error under its code. -/
def error (code : Code) (message : String) : Event :=
  ofLevel .error code message

/-- A success: information under a success code. -/
def success (code : Code) (message : String) : Event :=
  ofLevel .info code message

/-- A warning. -/
def warning (message : String) : Event :=
  ofLevel .warning Code.plainWarning message

/-- Information. -/
def info (message : String) : Event :=
  ofLevel .info Code.plainInfo message

/-- Debugging output. -/
def debug (message : String) : Event :=
  ofLevel .debug Code.plainDebug message

/-- The event at a source line. -/
def atLine (event : Event) (line : Nat) : Event :=
  { event with line := some line }

/-- The event with one more named value. -/
def withValue (event : Event) (name value : String) : Event :=
  { event with context := event.context.insert name value }

/-- The event with more named values, one after the other. -/
def withValues
    (event : Event)
    (pairs : List (String × String)) :
    Event :=
  { event with context := event.context.insertAll pairs }

/-- The name under which an event tells how long something took. -/
def durationName : String := "duration_ms"

/--
The event at the moment of writing: with the clock's seconds, and with the
measured time wherever the event tells a duration.
-/
def stamp
    (event : Event)
    (timestamp : Nat)
    (duration : String) :
    Event :=
  { event with
    timestamp := timestamp
    context := event.context.map fun pair =>
      if pair.1 = durationName then (pair.1, duration) else pair }

/-- The event is an error. -/
def isError (event : Event) : Bool :=
  event.level = .error

/-- The category of the event's code. -/
def category (event : Event) : Category :=
  event.code.category

/-- The severity of the event's code. -/
def severity (event : Event) : Severity :=
  event.code.severity

/-- The event as one line of text. -/
def format (event : Event) : String :=
  let place :=
    match event.line with
    | some line => " (line " ++ toString line ++ ")"
    | none => ""
  let values :=
    if event.context.isEmpty then
      ""
    else
      " \x7b" ++
        String.intercalate ", "
          (event.context.map fun pair => pair.1 ++ "=" ++ pair.2) ++
        "\x7d"
  "[" ++ event.level.label ++ "] " ++ event.code.text ++ " - " ++
    event.message ++ place ++ values

/-- What the registry says about the code of an error, with sorted keys. -/
def errorFacts (code : Code) : Json :=
  .object
    [("description", .string code.description),
     ("recommended_action", .string code.recommendedAction),
     ("recoverable", .bool code.isRecoverable),
     ("requires_halt", .bool code.requiresHalt),
     ("severity", .string code.severity.name)]

/-- The event as a JSON object with sorted keys. -/
def toJson (event : Event) : Json :=
  let context :=
    if event.context.isEmpty then
      none
    else
      some (.object (event.context.map fun pair => (pair.1, .string pair.2)))
  let facts :=
    if event.isError then
      some (errorFacts event.code)
    else
      none
  .object <|
    [("category", .string event.category.name),
     ("code", .string event.code.text)] ++
    Json.optional "context" context ++
    Json.optional "error_metadata" facts ++
    [("level", .string event.level.label)] ++
    Json.optional "line" (event.line.map .number) ++
    [("message", .string event.message),
     ("timestamp", .number event.timestamp)]

/-- The event as one line of JSON. -/
def formatJson (event : Event) : String :=
  event.toJson.compact

end Event

end Smsl.Log
