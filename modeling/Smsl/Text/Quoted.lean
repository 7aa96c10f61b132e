import Smsl.Text.PrintTable

namespace Smsl.Text

/-!
# Quoted text

A text between quotes in which everything shows: quotes, backslashes and the
usual controls are escaped by a letter, and characters that would not show, or
that would join the one before them, by their code in braces.
-/

/-- A character that is written by its code. -/
def needsCode (character : Char) : Bool :=
  if character.toNat < 0x80 then
    character.toNat < 0x20 || character.toNat == 0x7F
  else
    extenderRanges.contains character || unprintableRanges.contains character

/-- A character written by its code. -/
def codeEscape (character : Char) : Text :=
  "\\u\x7b".toList ++ Nat.toDigits 16 character.toNat ++ "\x7d".toList

/-- A character as it stands between quotes. -/
def quotedChar (character : Char) : Text :=
  if character == '\x00' then
    ['\\', '0']
  else if character == '\t' then
    ['\\', 't']
  else if character == '\r' then
    ['\\', 'r']
  else if character == '\n' then
    ['\\', 'n']
  else if character == '\\' then
    ['\\', '\\']
  else if character == '\x22' then
    ['\\', '\x22']
  else if needsCode character then
    codeEscape character
  else
    [character]

/-- A text between quotes. -/
def quoted (text : Text) : Text :=
  '\x22' :: text.flatMap quotedChar ++ ['\x22']

end Smsl.Text
