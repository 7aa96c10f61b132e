import Smsl.CommandLine.Execution
import Std.Time.DateTime
import Std.Time.Format

namespace Smsl.Program

/-!
# The command line program

Looks up the environment, the files and the clock, and prints what the command
line comes to.
-/

/-- Why the system refused a path. -/
def absenceOf : IO.Error → Absence
  | .inappropriateType _ _ _ => .notDirectory
  | .permissionDenied _ _ _ => .denied
  | .invalidArgument _ _ _ => .nameTooLong
  | _ => .missing

/-- Why a path that cannot be resolved leads nowhere. -/
def absenceAt (path : String) : IO Absence := do
  try
    let _ ← IO.FS.readBinFile path
    return .missing
  catch error =>
    return absenceOf error

/-- What a path leads to; whatever is no regular file counts as a directory. -/
def probe (path : String) : IO Lookup := do
  try
    let resolved ← IO.FS.realPath path
    let metadata ← resolved.metadata
    if metadata.type == .file then
      let contents ← IO.FS.readBinFile resolved
      return .file { name := (Disk.parts resolved.toString).getLastD "", contents }
    else
      return .directory
  catch _ =>
    return .absent (← absenceAt path)

/-- The disk as far as a command line looks at it. -/
def diskFor (options : CommandLine.Options) : IO Disk := do
  let paths := options.file :: options.preferencesFile.toList
  let found ← paths.mapM fun path => return (path, ← probe path)
  return {
    find := fun path =>
      ((found.find? fun entry => entry.1 = path).map (·.2)).getD (.absent .missing) }

/-- The variables that are set. -/
def currentEnvironment : IO Environment := do
  let values ← Variable.all.mapM fun name => return (name, ← IO.getEnv name.name)
  return { value? := fun name => (values.find? fun entry => entry.1 = name).bind (·.2) }

/-- The moment, for a run that began at a count of nanoseconds. -/
def currentMoment (began : Nat) : IO CommandLine.Moment := do
  let elapsed := (← IO.monoNanosNow) - began
  let now ← Std.Time.Timestamp.now
  let date := Std.Time.DateTime.ofTimestampWithZone now Std.Time.TimeZone.UTC
  return {
    seconds := now.toSecondsSinceUnixEpoch.val.toNat
    instant := date.format "uuuu-MM-dd'T'HH:mm:ss.SSSSSSSSS'Z'"
    duration := Size.decimals (Size.roundDiv elapsed 10000) }

/-- Run the program on its arguments. -/
def run (arguments : List String) : IO UInt32 := do
  match CommandLine.parse arguments with
  | .error .usageError =>
      IO.eprintln CommandLine.usageText
      return 2
  | .error .version =>
      IO.println CommandLine.versionText
      return 0
  | .error .help =>
      IO.println CommandLine.usageText
      return 0
  | .ok options =>
      let began ← IO.monoNanosNow
      let execution :=
        CommandLine.execute (← currentEnvironment) (← diskFor options) options
      let code := UInt32.ofNat execution.exitCode
      let moment ← currentMoment began
      IO.eprint (execution.log moment)
      IO.print (execution.output moment)
      return code

end Smsl.Program

/-- Run the program. -/
def main (arguments : List String) : IO UInt32 :=
  Smsl.Program.run arguments
