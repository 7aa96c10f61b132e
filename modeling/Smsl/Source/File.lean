import Smsl.Compilation.Basic
import Smsl.Source.Disk
import Smsl.Source.Error
import Smsl.Source.Size
import Smsl.Text.LowerCase

namespace Smsl

/-!
# Source files

A source file is read under limits on its bytes and its lines, and perhaps only
with the right extension.  The checks run in a fixed order, and the first one
that fails is the error.
-/

/-- A source file to be read: its path, its limits, and the preferences for it. -/
structure FileSource where
  path : String
  maxFileSize : Nat
  maxLineCount : Nat
  preferences : SourcePreferences
  deriving Repr, DecidableEq

/-- A failed read: the error, and the event that tells it. -/
structure ReadFailure where
  error : SourceError
  event : Log.Event
  deriving Repr, DecidableEq

/-- A read of a file: its events in order, and the lines or the error. -/
structure FileReading where
  events : List Log.Event
  lines : Except SourceError (List Text)

namespace FileSource

/-- The extension of source files. -/
def standardExtension : Text :=
  "smsl".toList

/-- A source file under the limits of the build. -/
def ofPath
    (path : String)
    (preferences : SourcePreferences) :
    FileSource where
  path := path
  maxFileSize := Limits.maxFileSize
  maxLineCount := Limits.maxLineCount
  preferences := preferences

/-- The same source under other limits, which never exceed those of the build. -/
def withLimits
    (source : FileSource)
    (maxFileSize maxLineCount : Nat) :
    FileSource :=
  { source with
    maxFileSize := min maxFileSize Limits.maxFileSize
    maxLineCount := min maxLineCount Limits.maxLineCount }

/-- The same source with or without the need of an extension. -/
def withExtensionRequired
    (source : FileSource)
    (required : Bool) :
    FileSource :=
  { source with
    preferences := { source.preferences with requireExtension := required } }

/-- A failure, told with named values. -/
def fail
    (error : SourceError)
    (message : String)
    (values : List (String × String)) :
    ReadFailure where
  error := error
  event := (Log.Event.error error.code message).withValues values

/-- The file that the path leads to. -/
def locate
    (source : FileSource)
    (found : Lookup) :
    Except ReadFailure StoredFile :=
  if source.path = "" then
    .error (fail (.invalidPath source.path) "Empty file path provided" [])
  else
    match found with
    | .absent _ =>
        .error (fail (.fileNotFound source.path) "File not found" [("path", source.path)])
    | .directory =>
        .error (fail (.invalidPath source.path) "Path is not a file" [("path", source.path)])
    | .file file =>
        .ok file

/-- The extension of a file in lower case. -/
def extensionOf? (file : StoredFile) : Option Text :=
  file.extension?.map Text.lowerCase

/-- Check the size and the extension of a file. -/
def checkLimits
    (source : FileSource)
    (file : StoredFile) :
    Except ReadFailure Unit :=
  if source.maxFileSize < file.size then
    .error <|
      fail (.fileTooLarge file.size source.maxFileSize) "File exceeds maximum size limit"
        [("file", source.path),
         ("size_bytes", toString file.size),
         ("limit_bytes", toString source.maxFileSize)]
  else if source.preferences.requireExtension ∧
      extensionOf? file ≠ some standardExtension then
    .error <|
      fail (.invalidExtension (extensionOf? file)) "File does not have the .smsl extension"
        [("file", source.path)]
  else
    .ok ()

/-- The lines of a file, if they are text and not too many. -/
def decode
    (source : FileSource)
    (file : StoredFile) :
    Except ReadFailure (List Text) :=
  match Text.decode? file.contents with
  | none =>
      .error <|
        fail (.invalidEncoding source.path) "File is not valid UTF-8"
          [("file", source.path),
           ("valid_up_to", toString (Text.validLength file.contents))]
  | some text =>
      let lines := Text.lines text
      if source.maxLineCount < lines.length then
        .error <|
          fail (.tooManyLines lines.length source.maxLineCount)
            "File exceeds maximum line count"
            [("file", source.path),
             ("lines", toString lines.length),
             ("max_lines", toString source.maxLineCount)]
      else
        .ok lines

/-- The lines of a located file. -/
def linesOf
    (source : FileSource)
    (file : StoredFile) :
    Except ReadFailure (List Text) := do
  source.checkLimits file
  source.decode file

/-- The event at the start of a read. -/
def startEvent (source : FileSource) : Log.Event :=
  (Log.Event.debug "Reading source file").withValue "file" source.path

/-- The event about a file that was found. -/
def metadataEvent
    (source : FileSource)
    (file : StoredFile) :
    Log.Event :=
  (Log.Event.debug "File metadata collected").withValues
    [("size_human", Size.describe file.size),
     ("extension", String.ofList ((extensionOf? file).getD "none".toList)),
     ("max_size_bytes", toString source.maxFileSize)]

/-- The event about a file that was read; its duration is set when it is written. -/
def loadedEvent
    (source : FileSource)
    (file : StoredFile)
    (lineCount : Nat) :
    Log.Event :=
  let event :=
    (Log.Event.success Code.sourceLoaded "Source file loaded").withValue "file" source.path
  if source.preferences.logPerformance then
    event.withValues
      [("size_human", Size.describe file.size),
       ("lines", toString lineCount),
       (Log.Event.durationName, "")]
  else
    event

/-- Read the file that the path was found to lead to. -/
def read
    (source : FileSource)
    (found : Lookup) :
    FileReading :=
  match source.locate found with
  | .error failure =>
      { events := [source.startEvent, failure.event]
        lines := .error failure.error }
  | .ok file =>
      let before := [source.startEvent, source.metadataEvent file]
      match source.linesOf file with
      | .error failure =>
          { events := before ++ [failure.event]
            lines := .error failure.error }
      | .ok lines =>
          { events := before ++ [source.loadedEvent file lines.length]
            lines := .ok lines }

/-- The unit in a file. -/
def load
    (source : FileSource)
    (found : Lookup) :
    LoadedUnit :=
  let reading := source.read found
  { name := source.path
    events := reading.events
    lines := reading.lines.mapError SourceError.toDiagnostic }

end FileSource

end Smsl
