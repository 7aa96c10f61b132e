import Smsl.Text.Encoding

namespace Smsl

/-!
# Files on a disk

What a path leads to.  A path is followed part by part from the working
directory, or from the root if it starts with a slash.
-/

/-- Why a path leads nowhere. -/
inductive Absence where
  | missing
  | notDirectory
  | nameTooLong
  | nulCharacter
  | denied
  deriving Repr, DecidableEq

/-- The wording of the system for an absence. -/
def Absence.message : Absence → String
  | .missing => "No such file or directory (os error 2)"
  | .notDirectory => "Not a directory (os error 20)"
  | .nameTooLong => "File name too long (os error 36)"
  | .nulCharacter => "file name contained an unexpected NUL byte"
  | .denied => "Permission denied (os error 13)"

/-- A file, with its name in its directory. -/
structure StoredFile where
  name : String
  contents : ByteArray

namespace StoredFile

/-- The number of bytes of a file. -/
def size (file : StoredFile) : Nat :=
  file.contents.size

/-- The pieces of a name between its points. -/
def nameParts (file : StoredFile) : List Text :=
  Text.splitWhen (· == '.') file.name.toList

/-- The part of a name behind its last point, if something stands in front of the point. -/
def extension? (file : StoredFile) : Option Text :=
  match file.nameParts with
  | [] => none
  | [_] => none
  | [[], _] => none
  | parts => parts.getLast?

end StoredFile

/-- What a path leads to. -/
inductive Lookup where
  | absent (absence : Absence)
  | directory
  | file (file : StoredFile)

/-- The answers of a disk. -/
structure Disk where
  find : String → Lookup

namespace Disk

/-- A place on a disk: the names of the directories that lead to it, the nearest first. -/
abbrev Place := List String

/-- What stands at a place. -/
inductive Node where
  | directory
  | file (contents : ByteArray)

/-- What stands at places; the root is a directory. -/
abbrev Tree := List (Place × Node)

/-- What stands at a place of a tree. -/
def node?
    (tree : Tree)
    (place : Place) :
    Option Node :=
  if place.isEmpty then
    some .directory
  else
    (tree.find? fun entry => entry.1 = place).map (·.2)

/-- The most bytes that a name may have. -/
def nameLimit : Nat := 255

/-- The place one part further, from a place that has to be a directory. -/
def enter
    (tree : Tree)
    (place : Place)
    (part : String) :
    Except Absence Place :=
  match node? tree place with
  | none =>
      .error .missing
  | some (.file _) =>
      .error .notDirectory
  | some .directory =>
      if part = "" ∨ part = "." then
        .ok place
      else if part = ".." then
        .ok place.tail
      else if nameLimit < part.utf8ByteSize then
        .error .nameTooLong
      else
        .ok (part :: place)

/-- The parts of a path between its slashes. -/
def parts (path : String) : List String :=
  (Text.splitWhen (· == '/') path.toList).map String.ofList

/-- The place that a path leads to. -/
def follow
    (tree : Tree)
    (start : Place)
    (path : String) :
    Except Absence Place :=
  let origin := if path.toList.head? = some '/' then [] else start
  (parts path).foldlM (enter tree) origin

/-- The number of bytes that is too many for a path. -/
def pathLimit : Nat := 4096

/-- What a path leads to in a tree, from a working directory. -/
def lookup
    (tree : Tree)
    (start : Place)
    (path : String) :
    Lookup :=
  if path = "" then
    .absent .missing
  else if path.toList.contains '\x00' then
    .absent .nulCharacter
  else if pathLimit ≤ path.utf8ByteSize then
    .absent .nameTooLong
  else
    match follow tree start path with
    | .error absence =>
        .absent absence
    | .ok place =>
        match node? tree place with
        | none => .absent .missing
        | some .directory => .directory
        | some (.file contents) => .file { name := place.headD "", contents }

/-- The directories that a place lies in. -/
def ancestors : Place → List Place
  | [] => []
  | _ :: place => place :: ancestors place

/-- The place of a path that names no parent directory. -/
def placeOf
    (start : Place)
    (path : String) :
    Place :=
  ((parts path).filter fun part => part ≠ "" ∧ part ≠ ".").reverse ++ start

/-- The working directory of a disk that is made of a list of files. -/
def workingDirectory : Place :=
  ["work"]

/-- The disk with directories and files in its working directory. -/
def ofContents
    (directories : List String)
    (files : List (String × ByteArray)) :
    Disk :=
  let filePlaces := files.map fun file => (placeOf workingDirectory file.1, file.2)
  let directoryPlaces :=
    workingDirectory :: directories.map (placeOf workingDirectory) ++
      filePlaces.map (·.1.tail)
  let tree : Tree :=
    filePlaces.reverse.map (fun file => (file.1, .file file.2)) ++
      (directoryPlaces.flatMap fun place => place :: ancestors place).map
        fun place => (place, .directory)
  { find := lookup tree workingDirectory }

end Disk

end Smsl
