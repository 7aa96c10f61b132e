import Smsl.Text.Basic

namespace Smsl.Toml

/-!
# Readers and layout

A reader takes a leading part of a text.  This module has the readers for what
stands between values: blanks, comments, and the ends of lines.
-/

/-- Takes a leading part of a text and gives its value and the rest, or refuses. -/
abbrev Reader (α : Type) := Text → Option (α × Text)

/-- Read items as long as one is there and shortens the text. -/
def many
    (item : Reader α)
    (text : Text) :
    List α × Text :=
  match item text with
  | none =>
      ([], text)
  | some (first, rest) =>
      if rest.length < text.length then
        let others := many item rest
        (first :: others.1, others.2)
      else
        ([], text)
termination_by text.length

/-- A blank within a line. -/
def isBlank (character : Char) : Bool :=
  character == ' ' || character == '\t'

/-- A character that may stand in a comment: a tab, or no control character. -/
def isPlain (character : Char) : Bool :=
  character == '\t' ||
    (0x20 ≤ character.toNat && character.toNat != 0x7F)

/-- Drop the leading blanks. -/
def dropBlanks (text : Text) : Text :=
  text.dropWhile isBlank

/-- The text after a line ending, if it starts with one. -/
def afterNewline? : Text → Option Text
  | '\n' :: rest =>
      some rest
  | '\r' :: '\n' :: rest =>
      some rest
  | _ =>
      none

/-- Drop blanks and line endings. -/
def dropBlankLines : Text → Text
  | [] =>
      []
  | '\r' :: '\n' :: rest =>
      dropBlankLines rest
  | character :: rest =>
      if isBlank character || character == '\n' then
        dropBlankLines rest
      else
        character :: rest

/-- Drop a comment up to the end of its line, if one starts here. -/
def dropComment : Text → Text
  | '#' :: rest =>
      rest.dropWhile isPlain
  | text =>
      text

/-- The text after the rest of a line that holds a comment at most. -/
def afterLine? (text : Text) : Option Text :=
  match dropComment (dropBlanks text) with
  | [] => some []
  | rest => afterNewline? rest

/-- One line, or the blanks of one, that holds a comment at most. -/
def emptyLine : Reader Unit := fun text =>
  (afterNewline? (dropComment (dropBlanks text))).map fun rest => ((), rest)

/-- Drop blanks, comments and line endings between the items of an array. -/
def dropLayout (text : Text) : Text :=
  dropBlanks (many emptyLine text).2

end Smsl.Toml
