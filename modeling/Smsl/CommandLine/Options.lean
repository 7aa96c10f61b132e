import Smsl.Preferences.Basic

namespace Smsl

/-!
# Options of the command line

Arguments are taken one after the other.  A name with two dashes is a flag, or
an option whose value stands behind an equals sign or is the next argument; one
dash leads letters; anything else is the file to compile.  After a lone `--`
everything is a file.  Only the verbosity may be given more than once.
-/

namespace CommandLine

/-- The layouts of the output. -/
inductive Format where
  | table
  | json
  deriving Repr, DecidableEq

/-- What a complete command line asks for. -/
structure Options where
  file : String
  attribution : Option AttributionPolicy
  semanticInput : Option SemanticInput
  optimizer : Option OptimizerPolicy
  keepGoing : Bool
  format : Format
  showTokens : Bool
  showParseTrees : Bool
  preferencesFile : Option String
  verbosity : Nat
  deriving Repr, DecidableEq

/-- The options that take a value. -/
inductive ValueOption where
  | attribution
  | semanticInput
  | optimizer
  | format
  | preferencesFile
  deriving Repr, DecidableEq

/-- The option with a name. -/
def ValueOption.ofName? (name : String) : Option ValueOption :=
  match name with
  | "attribution" => some .attribution
  | "semantic-input" => some .semanticInput
  | "optimizer" => some .optimizer
  | "format" => some .format
  | "config" => some .preferencesFile
  | _ => none

/-- The flags. -/
inductive Flag where
  | keepGoing
  | showTokens
  | showParseTrees
  | verbose
  | version
  | help
  deriving Repr, DecidableEq

namespace Flag

/-- The flag with a name. -/
def ofName? (name : String) : Option Flag :=
  match name with
  | "keep-going" => some .keepGoing
  | "show-tokens" => some .showTokens
  | "show-parse-trees" => some .showParseTrees
  | "verbose" => some .verbose
  | "version" => some .version
  | "help" => some .help
  | _ => none

/-- The flag with a letter. -/
def ofLetter? (letter : Char) : Option Flag :=
  match letter with
  | 'v' => some .verbose
  | 'V' => some .version
  | 'h' => some .help
  | _ => none

end Flag

/-- Why the arguments are not taken to the end. -/
inductive Stop where
  | usageError
  | version
  | help
  deriving Repr, DecidableEq

/-- What the arguments so far have set. -/
structure Draft where
  pending : Option ValueOption
  filesOnly : Bool
  file : Option String
  attribution : Option AttributionPolicy
  semanticInput : Option SemanticInput
  optimizer : Option OptimizerPolicy
  format : Option Format
  preferencesFile : Option String
  keepGoing : Bool
  showTokens : Bool
  showParseTrees : Bool
  verbosity : Nat
  deriving Repr, DecidableEq

namespace Draft

/-- Nothing is set. -/
def empty : Draft where
  pending := none
  filesOnly := false
  file := none
  attribution := none
  semanticInput := none
  optimizer := none
  format := none
  preferencesFile := none
  keepGoing := false
  showTokens := false
  showParseTrees := false
  verbosity := 0

/-- A value for something that is not set yet. -/
def once
    (earlier : Option α)
    (value : Option α) :
    Except Stop (Option α) :=
  match earlier, value with
  | none, some given => .ok (some given)
  | _, _ => .error .usageError

/-- A flag that is not set yet. -/
def raise (earlier : Bool) : Except Stop Bool :=
  if earlier then
    .error .usageError
  else
    .ok true

/-- The policy of a value. -/
def attribution? : String → Option AttributionPolicy
  | "adjacent" => some .adjacentDeclaration
  | "any-action" => some .anyAction
  | _ => none

/-- The input of a value. -/
def semanticInput? : String → Option SemanticInput
  | "lines" => some .lines
  | "tokens" => some .tokens
  | _ => none

/-- The optimizer policy of a value. -/
def optimizer? : String → Option OptimizerPolicy
  | "dedup" => some .deduplicate
  | "merge" => some .deduplicateAndMerge
  | _ => none

/-- The layout of a value. -/
def format? : String → Option Format
  | "table" => some .table
  | "json" => some .json
  | _ => none

/-- The path of a value: any but the empty one. -/
def path? (value : String) : Option String :=
  if value = "" then none else some value

/-- Set an option. -/
def setOption
    (draft : Draft)
    (value : String) :
    ValueOption → Except Stop Draft
  | .attribution => do
      let attribution ← once draft.attribution (attribution? value)
      return { draft with attribution }
  | .semanticInput => do
      let semanticInput ← once draft.semanticInput (semanticInput? value)
      return { draft with semanticInput }
  | .optimizer => do
      let optimizer ← once draft.optimizer (optimizer? value)
      return { draft with optimizer }
  | .format => do
      let format ← once draft.format (format? value)
      return { draft with format }
  | .preferencesFile => do
      let preferencesFile ← once draft.preferencesFile (path? value)
      return { draft with preferencesFile }

/-- Set a flag, or stop for one that asks for something else. -/
def setFlag
    (draft : Draft) :
    Flag → Except Stop Draft
  | .keepGoing => do
      let keepGoing ← raise draft.keepGoing
      return { draft with keepGoing }
  | .showTokens => do
      let showTokens ← raise draft.showTokens
      return { draft with showTokens }
  | .showParseTrees => do
      let showParseTrees ← raise draft.showParseTrees
      return { draft with showParseTrees }
  | .verbose =>
      .ok { draft with verbosity := draft.verbosity + 1 }
  | .version =>
      .error .version
  | .help =>
      .error .help

/-- Set the file. -/
def setFile
    (draft : Draft)
    (path : String) :
    Except Stop Draft := do
  let file ← once draft.file (some path)
  return { draft with file }

/-- The name in front of an equals sign, and the value behind it. -/
def splitValue (text : Text) : Text × Option Text :=
  match text.dropWhile (· != '=') with
  | _ :: value => (text.takeWhile (· != '='), some value)
  | [] => (text, none)

/-- Take an argument with two dashes, given without them. -/
def takeLong
    (draft : Draft)
    (text : Text) :
    Except Stop Draft :=
  let parts := splitValue text
  let name := String.ofList parts.1
  match ValueOption.ofName? name, Flag.ofName? name, parts.2 with
  | some option, _, some value => draft.setOption (String.ofList value) option
  | some option, _, none => .ok { draft with pending := some option }
  | none, some flag, none => draft.setFlag flag
  | none, _, _ => .error .usageError

/-- Take a letter of an argument with one dash. -/
def takeLetter
    (draft : Draft)
    (letter : Char) :
    Except Stop Draft :=
  match Flag.ofLetter? letter with
  | some flag => draft.setFlag flag
  | none => .error .usageError

/-- No option waits for its value. -/
def settled (draft : Draft) : Except Stop Draft :=
  if draft.pending.isSome then
    .error .usageError
  else
    .ok draft

/-- Take an argument without dashes: the value that an option waits for, or the file. -/
def takePlain
    (draft : Draft)
    (argument : String) :
    Except Stop Draft :=
  match draft.pending with
  | some option => setOption { draft with pending := none } argument option
  | none => draft.setFile argument

/-- Take the next argument. -/
def take
    (draft : Draft)
    (argument : String) :
    Except Stop Draft := do
  if draft.filesOnly then
    let ready ← draft.settled
    ready.setFile argument
  else
    match argument.toList with
    | ['-', '-'] =>
        return { draft with filesOnly := true }
    | '-' :: '-' :: text =>
        let ready ← draft.settled
        ready.takeLong text
    | '-' :: letter :: letters =>
        let ready ← draft.settled
        (letter :: letters).foldlM takeLetter ready
    | _ =>
        draft.takePlain argument

/-- The options that a draft amounts to; the file is required. -/
def complete (draft : Draft) : Except Stop Options := do
  let ready ← draft.settled
  match ready.file with
  | some file =>
      return {
        file
        attribution := ready.attribution
        semanticInput := ready.semanticInput
        optimizer := ready.optimizer
        keepGoing := ready.keepGoing
        format := ready.format.getD .table
        showTokens := ready.showTokens
        showParseTrees := ready.showParseTrees
        preferencesFile := ready.preferencesFile
        verbosity := ready.verbosity }
  | none =>
      .error .usageError

end Draft

/-- Read the arguments of a command line. -/
def parse (arguments : List String) : Except Stop Options := do
  let draft ← arguments.foldlM Draft.take Draft.empty
  draft.complete

/-- The name of the program. -/
def programName : String := "smslc"

/-- The name and the version of the program. -/
def versionText : String := programName ++ " 0.1.0"

/-- One line on the use of the program. -/
def usageText : String := "Usage: " ++ programName ++ " [OPTIONS] <FILE>"

/-- The preferences under the options of a command line. -/
def Options.adjust
    (options : Options)
    (preferences : Preferences) :
    Preferences :=
  { preferences with
    semantic :=
      { attribution := options.attribution.getD preferences.semantic.attribution
        input := options.semanticInput.getD preferences.semantic.input }
    optimizer := { policy := options.optimizer.getD preferences.optimizer.policy }
    pipeline :=
      { stopOnErrors := !options.keepGoing && preferences.pipeline.stopOnErrors }
    logging :=
      { preferences.logging with
        minimum :=
          match options.verbosity with
          | 0 => preferences.logging.minimum
          | 1 => .info
          | _ => .debug } }

end CommandLine

end Smsl
