import Smsl.Toml.Digits
import Smsl.Toml.Layout

namespace Smsl.Toml

/-!
# Strings

A string stands between single or double quotes, or between three of them, where
it may have several lines.  Double quotes allow escapes.
-/

namespace QuotedString

/-- The character with a code, unless the code is no character's. -/
def charOf? (code : Nat) : Option Char :=
  if code.isValidChar then
    some (Char.ofNat code)
  else
    none

/-- A character by a fixed number of hexadecimal digits. -/
def coded (width : Nat) : Reader Char := fun text => do
  let digits := text.take width
  if digits.length = width ∧ digits.all (fun digit => (hexValue digit).isSome) then
    let character ← charOf? (valueOf 16 digits)
    return (character, text.drop width)
  else
    none

/-- The character that an escape stands for, after the backslash. -/
def escape : Reader Char
  | 'b' :: rest => some ('\x08', rest)
  | 't' :: rest => some ('\t', rest)
  | 'n' :: rest => some ('\n', rest)
  | 'f' :: rest => some ('\x0c', rest)
  | 'r' :: rest => some ('\r', rest)
  | '\x22' :: rest => some ('\x22', rest)
  | '\\' :: rest => some ('\\', rest)
  | 'u' :: rest => coded 4 rest
  | 'U' :: rest => coded 8 rest
  | _ => none

/-- A run of one or more characters of a class. -/
def run (isMember : Char → Bool) : Reader Text := fun text =>
  let taken := text.takeWhile isMember
  if taken.isEmpty then
    none
  else
    some (taken, text.dropWhile isMember)

/-- A character that stands for itself between double quotes. -/
def isUnescaped (character : Char) : Bool :=
  isPlain character && character != '\x22' && character != '\\'

/-- A character that stands for itself between single quotes. -/
def isLiteral (character : Char) : Bool :=
  isPlain character && character != '\x27'

/-- A piece of a string between double quotes. -/
def basicPiece : Reader Text
  | '\\' :: rest => (escape rest).map fun read => ([read.1], read.2)
  | text => run isUnescaped text

/-- A string between double quotes, after the first one. -/
def basicBody : Reader Text := fun text =>
  let pieces := many basicPiece text
  match pieces.2 with
  | '\x22' :: rest => some (pieces.1.flatten, rest)
  | _ => none

/-- A string between single quotes, after the first one. -/
def literalBody : Reader Text := fun text =>
  match text.dropWhile isLiteral with
  | '\x27' :: rest => some (text.takeWhile isLiteral, rest)
  | _ => none

/-- One or two quotes inside a string that ends with three. -/
def fewMarks (mark : Char) : Reader Text := fun text =>
  let marks := text.takeWhile (· == mark)
  if marks.length = 1 ∨ marks.length = 2 then
    some (marks, text.drop marks.length)
  else
    none

/-- A line ending inside a string, which is a line feed however it is written. -/
def lineEnding : Reader Text := fun text =>
  (afterNewline? text).map fun rest => (['\n'], rest)

/-- The end of a line that a backslash joins to the next text. -/
def joint : Reader Text
  | '\\' :: rest => (afterNewline? (dropBlanks rest)).map fun after => ([], dropBlankLines after)
  | _ => none

/-- A piece of a string between three double quotes. -/
def basicBlockPiece : Reader Text := fun text =>
  joint text <|> basicPiece text <|> lineEnding text <|> fewMarks '\x22' text

/-- A piece of a string between three single quotes. -/
def literalBlockPiece : Reader Text := fun text =>
  run isLiteral text <|> lineEnding text <|> fewMarks '\x27' text

/--
A string between three quotes, after the first three.  A line ending right there
is dropped, and up to two quotes may stand in front of the closing ones.
-/
def blockBody
    (mark : Char)
    (piece : Reader Text) :
    Reader Text := fun text =>
  let pieces := many piece ((afterNewline? text).getD text)
  let marks := (pieces.2.takeWhile (· == mark)).length
  if marks < 3 then
    none
  else
    let kept := min (marks - 3) 2
    some (pieces.1.flatten ++ List.replicate kept mark, pieces.2.drop (kept + 3))

/-- A string in one of its four forms. -/
def read : Reader Text
  | '\x22' :: '\x22' :: '\x22' :: rest => blockBody '\x22' basicBlockPiece rest
  | '\x22' :: rest => basicBody rest
  | '\x27' :: '\x27' :: '\x27' :: rest => blockBody '\x27' literalBlockPiece rest
  | '\x27' :: rest => literalBody rest
  | _ => none

end QuotedString

end Smsl.Toml
