import Smsl.Toml.Scalar

namespace Smsl.Toml

/-!
# Entries of a document

A document is read line by line into entries: headers, double headers, and keys
with their values.  Brackets nest up to a fixed depth, and a key has fewer parts
than that.
-/

/-- The number of parts that is too many for a key, and of brackets for a value. -/
def depthLimit : Nat := 80

/-- A character of a key without quotes. -/
def isBare (character : Char) : Bool :=
  character.isAlphanum || character == '-' || character == '_'

/-- One part of a key. -/
def keyPart : Reader Text
  | '\x22' :: rest => QuotedString.basicBody rest
  | '\x27' :: rest => QuotedString.literalBody rest
  | text => QuotedString.run isBare text

/-- One part of a key with the blanks around it. -/
def spacedKeyPart : Reader String := fun text =>
  (keyPart (dropBlanks text)).map fun read =>
    (String.ofList read.1, dropBlanks read.2)

/-- A further part of a key, behind a point. -/
def furtherKeyPart : Reader String
  | '.' :: rest => spacedKeyPart rest
  | _ => none

/-- A key, with points between its parts and blanks around them. -/
def key : Reader (List String) := fun text => do
  let (first, rest) ← spacedKeyPart text
  let others := many furtherKeyPart rest
  let parts := first :: others.1
  if parts.length < depthLimit then
    some (parts, others.2)
  else
    none

/-- A key and its value. -/
def pair (value : Reader Value) : Reader (List String × Value) := fun text => do
  let (path, rest) ← key text
  match rest with
  | '=' :: rest => (value (dropBlanks rest)).map fun read => ((path, read.1), read.2)
  | _ => none

/--
The items of an array up to its closing bracket.  A comma stands between two
items and may stand behind the last one.
-/
def arrayItems
    (item : Reader Value)
    (text : Text) :
    Option (List Value × Text) :=
  match dropLayout text with
  | ']' :: rest =>
      some ([], rest)
  | start =>
      match item start with
      | none =>
          none
      | some (first, rest) =>
          match dropLayout rest with
          | ']' :: rest =>
              some ([first], rest)
          | ',' :: rest =>
              if rest.length < text.length then
                (arrayItems item rest).map fun read => (first :: read.1, read.2)
              else
                none
          | _ =>
              none
termination_by text.length

/-- The pairs of a table in braces up to its closing brace. -/
def bracedPairs
    (item : Reader Value)
    (text : Text) :
    Option (List (List String × Value) × Text) :=
  match pair item text with
  | none =>
      none
  | some (first, rest) =>
      match dropBlanks rest with
      | '\x7d' :: rest =>
          some ([first], rest)
      | ',' :: rest =>
          if rest.length < text.length then
            (bracedPairs item rest).map fun read => (first :: read.1, read.2)
          else
            none
      | _ =>
          none
termination_by text.length

/-- The table that pairs make, if they do not contradict each other. -/
def tableOf? (pairs : List (List String × Value)) : Option Entries :=
  pairs.foldlM (fun entries added => Entries.insert added.2 added.1 entries) []

/-- A table in braces, after the opening one. -/
def bracedTable (item : Reader Value) : Reader Value := fun text => do
  let (pairs, rest) ←
    match dropBlanks text with
    | '\x7d' :: rest => some ([], rest)
    | _ => bracedPairs item text
  let entries ← tableOf? pairs
  return (.table .braces entries, rest)

/-- A value in which brackets nest up to a depth. -/
def value : Nat → Reader Value
  | 0, text =>
      scalar text
  | depth + 1, text =>
      match text with
      | '[' :: rest =>
          (arrayItems (value depth) rest).map fun read => (.array read.1, read.2)
      | '\x7b' :: rest =>
          bracedTable (value depth) rest
      | _ =>
          scalar text

/-- An entry of a document. -/
inductive Entry where
  | table (path : List String)
  | element (path : List String)
  | pair (path : List String) (value : Value)

namespace Entry

/-- A header that ends with a text, after its opening brackets. -/
def header (closing : Text) : Reader (List String) := fun text => do
  let (path, rest) ← key text
  let rest ← Text.stripStart? closing rest
  return (path, rest)

/-- The entry at the start of a line. -/
def read : Reader Entry
  | '[' :: '[' :: rest =>
      (header [']', ']'] rest).map fun read => (.element read.1, read.2)
  | '[' :: rest =>
      (header [']'] rest).map fun read => (.table read.1, read.2)
  | text =>
      (Toml.pair (value (depthLimit - 1)) text).map fun read =>
        (.pair read.1.1 read.1.2, read.2)

/-- A line, with the entry that it holds, if any. -/
def line : Reader (Option Entry) := fun text =>
  match afterLine? text with
  | some rest =>
      some (none, rest)
  | none => do
      let (entry, rest) ← read (dropBlanks text)
      let rest ← afterLine? rest
      return (some entry, rest)

/-- The entries of a text; all of it must be read. -/
def ofText? (text : Text) : Option (List Entry) :=
  let lines := many line text
  if lines.2.isEmpty then
    some (lines.1.filterMap id)
  else
    none

end Entry

end Smsl.Toml
