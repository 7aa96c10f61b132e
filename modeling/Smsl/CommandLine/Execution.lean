import Smsl.CommandLine.Options
import Smsl.Compilation.Console
import Smsl.Preferences.File
import Smsl.Source.File

namespace Smsl

/-!
# Execution of a command line

A command line compiles one file.  What it prints depends on the result and on
the moment at which it is printed.
-/

namespace CommandLine

/-- A moment on the clock, and how long the run took. -/
structure Moment where
  seconds : Nat
  instant : String
  duration : String
  deriving Repr, DecidableEq

/-- A compilation that ran to its end: the report, and what the console shows. -/
structure Finished where
  report : Report
  console : Option Writer

/-- The result of a command line. -/
inductive Execution where
  | misconfigured (error : PreferencesError)
  | failed
      (options : Options)
      (logging : LoggingPreferences)
      (journal : Log.Journal)
      (refusal : Refusal Writer)
  | finished
      (options : Options)
      (logging : LoggingPreferences)
      (journal : Log.Journal)
      (result : Finished)

/-- The preferences of a command line: defaults, then a file, then options. -/
def preferencesFor
    (environment : Environment)
    (disk : Disk)
    (options : Options) :
    Except PreferencesError Preferences := do
  let standard := environment.preferences
  let loaded ←
    match options.preferencesFile with
    | some path => Preferences.load standard path (disk.find path)
    | none => .ok standard
  return options.adjust loaded

/-- Compile for the console. -/
def compileTable
    (options : Options)
    (preferences : Preferences)
    (unit : LoadedUnit)
    (journal : Log.Journal) :
    Except (Refusal Writer) Finished × Log.Journal :=
  let console : ConsoleOptions :=
    { showTokens := options.showTokens
      showParseTrees := options.showParseTrees }
  let ran := Compilation.run preferences unit console.sink (Writer.empty none) journal
  (ran.1.map fun outcome => { report := outcome.report, console := some outcome.sink },
    ran.2)

/-- Compile for a report alone. -/
def compileJson
    (preferences : Preferences)
    (unit : LoadedUnit)
    (journal : Log.Journal) :
    Except (Refusal Writer) Finished × Log.Journal :=
  let ran := Compilation.run preferences unit MemorySink.sink MemorySink.empty journal
  match ran.1 with
  | .ok outcome =>
      (.ok { report := outcome.report, console := none }, ran.2)
  | .error refusal =>
      (.error { reason := refusal.reason, sink := Writer.empty none }, ran.2)

/-- Run a command line. -/
def execute
    (environment : Environment)
    (disk : Disk)
    (options : Options) :
    Execution :=
  match preferencesFor environment disk options with
  | .error error =>
      .misconfigured error
  | .ok preferences =>
      let source := FileSource.ofPath options.file preferences.source
      let unit := source.load (disk.find options.file)
      let journal := Log.Journal.empty preferences.logging.tagsUnits
      let ran :=
        match options.format with
        | .table => compileTable options preferences unit journal
        | .json => compileJson preferences unit journal
      match ran.1 with
      | .ok result => .finished options preferences.logging ran.2 result
      | .error refusal => .failed options preferences.logging ran.2 refusal

/-- The exit code of a verdict. -/
def exitCodeOf : CompilationStatus → Nat
  | .compiled => 0
  | .diagnostics => 1
  | .sourceUnreadable => 2

/-- The line that tells a failed run. -/
def failureLine (message : String) : String :=
  programName ++ ": " ++ message

/-- The event at the start of logging. -/
def loggingEvent : Log.Event :=
  Log.Event.success Code.initializationCompleted "Global logging system initialized"

/-- The event of a run that failed. -/
def failureEvent (message : String) : Log.Event :=
  Log.Event.error Code.internalError message

/-- The lines of the events that are grave enough. -/
def eventLines
    (logging : LoggingPreferences)
    (moment : Moment)
    (events : List Log.Event) :
    List String :=
  (events.filter fun event => event.level.passes logging.minimum).map fun event =>
    let stamped := event.stamp moment.seconds moment.duration
    if logging.structured then stamped.formatJson else stamped.format

/-- The log of a run, with a line on the logging itself if the run is verbose. -/
def logLines
    (options : Options)
    (logging : LoggingPreferences)
    (moment : Moment)
    (events : List Log.Event) :
    List String :=
  eventLines logging moment [loggingEvent] ++
    (if 0 < options.verbosity then ["Logging: " ++ logging.summary] else []) ++
    eventLines logging moment events

/-- Lines as text. -/
def unlines (lines : List String) : String :=
  String.join (lines.map fun line => line ++ "\n")

namespace Execution

/-- The exit code of a run. -/
def exitCode : Execution → Nat
  | .misconfigured _ => 2
  | .failed .. => 2
  | .finished _ _ _ result => exitCodeOf result.report.status

/-- The text that a run writes to its output. -/
def output (moment : Moment) : Execution → String
  | .misconfigured _ =>
      ""
  | .failed _ _ _ refusal =>
      refusal.sink.text
  | .finished _ _ _ result =>
      match result.console with
      | some writer => writer.text
      | none => (result.report.toJson moment.instant).pretty ++ "\n"

/-- The text that a run writes to its log. -/
def log (moment : Moment) : Execution → String
  | .misconfigured error =>
      unlines
        ["[ERROR] FALLBACK: [" ++ Code.internalError.text ++ "] " ++ error.message,
         failureLine error.message]
  | .failed options logging journal refusal =>
      let message := Compilation.refusalMessage refusal.reason
      unlines <|
        logLines options logging moment journal.events.toList ++
          eventLines logging moment [failureEvent message] ++
          [failureLine message]
  | .finished options logging journal _ =>
      unlines (logLines options logging moment journal.events.toList)

end Execution

end CommandLine

end Smsl
