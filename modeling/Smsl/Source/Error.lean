import Smsl.Diagnostic
import Smsl.Text.Quoted

namespace Smsl

/-!
# Source errors

Why a source file cannot be compiled.
-/

/-- What can be wrong with a source file. -/
inductive SourceError where
  | fileNotFound (path : String)
  | invalidExtension (extension : Option Text)
  | fileTooLarge (size max : Nat)
  | permissionDenied (path : String)
  | invalidEncoding (path : String)
  | ioError (message : String)
  | invalidPath (path : String)
  | tooManyLines (lines max : Nat)
  deriving Repr, DecidableEq

namespace SourceError

/-- The name of the kind of an error. -/
def name : SourceError → String
  | .fileNotFound _ => "FileNotFound"
  | .invalidExtension _ => "InvalidExtension"
  | .fileTooLarge .. => "FileTooLarge"
  | .permissionDenied _ => "PermissionDenied"
  | .invalidEncoding _ => "InvalidEncoding"
  | .ioError _ => "IoError"
  | .invalidPath _ => "InvalidPath"
  | .tooManyLines .. => "TooManyLines"

/-- The code of an error. -/
def code : SourceError → Code
  | .fileNotFound _ => Code.fileNotFound
  | .invalidExtension _ => Code.invalidExtension
  | .fileTooLarge .. => Code.fileTooLarge
  | .permissionDenied _ => Code.permissionDenied
  | .invalidEncoding _ => Code.invalidEncoding
  | .ioError _ => Code.ioError
  | .invalidPath _ => Code.invalidPath
  | .tooManyLines .. => Code.tooManyLines

/-- An extension as it is shown, or that there is none. -/
def shownExtension : Option Text → String
  | some extension => "Some(" ++ String.ofList (Text.quoted extension) ++ ")"
  | none => "None"

/-- The wording of an error. -/
def message : SourceError → String
  | .fileNotFound path =>
      "File not found: " ++ path
  | .invalidExtension extension =>
      "Invalid file extension: expected .smsl, found " ++ shownExtension extension
  | .fileTooLarge size max =>
      "File too large: " ++ toString size ++ " bytes (max: " ++ toString max ++ ")"
  | .permissionDenied path =>
      "Permission denied: " ++ path
  | .invalidEncoding path =>
      "Invalid UTF-8 encoding in file: " ++ path
  | .ioError message =>
      "I/O error reading file: " ++ message
  | .invalidPath path =>
      "Invalid file path: " ++ path
  | .tooManyLines lines max =>
      "File exceeds maximum line count: " ++ toString lines ++ " (max: " ++
        toString max ++ ")"

/-- The category of the error's code. -/
def category (error : SourceError) : Category :=
  error.code.category

/-- Work can go on after this error. -/
def isRecoverable (error : SourceError) : Bool :=
  error.code.isRecoverable

/-- The error as the diagnostic of an unreadable source. -/
def toDiagnostic (error : SourceError) : Diagnostic :=
  Diagnostic.unreadable error.code error.message

end SourceError

end Smsl
