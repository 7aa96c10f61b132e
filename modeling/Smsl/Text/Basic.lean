namespace Smsl

/-!
# Source text

Text that is scanned is a list of characters, so that every scanner is a
recursion on the list.  This module holds the classes and cuts that all stages
share: blank characters, trimming, splitting into pieces, whitespace-separated
fields, and the lines of a unit.
-/

/-- Text as the sequence of its characters. -/
abbrev Text := List Char

namespace Text

/-- Closed ranges of code points, as a table of a character class. -/
abbrev CodeRanges := List (Nat × Nat)

/-- A character lies in one of the ranges of a class table. -/
def CodeRanges.contains
    (ranges : CodeRanges)
    (character : Char) :
    Bool :=
  ranges.any fun range =>
    range.1 ≤ character.toNat && character.toNat ≤ range.2

/-- The blank characters beyond the first 128 code points. -/
def wideBlanks : CodeRanges :=
  [(0x85, 0x85), (0xA0, 0xA0), (0x1680, 0x1680), (0x2000, 0x200A),
    (0x2028, 0x2029), (0x202F, 0x202F), (0x205F, 0x205F), (0x3000, 0x3000)]

/--
A blank character: one with the Unicode property `White_Space`.  These are the
only characters that separate fields and that trimming removes.
-/
def isBlank (character : Char) : Bool :=
  let code := character.toNat
  if code < 0x80 then
    (0x09 ≤ code && code ≤ 0x0D) || code == 0x20
  else
    wideBlanks.contains character

/-- Drop the leading blanks. -/
def trimStart (text : Text) : Text :=
  text.dropWhile isBlank

/-- Drop the trailing blanks. -/
def trimEnd (text : Text) : Text :=
  (text.reverse.dropWhile isBlank).reverse

/-- Drop the blanks on both sides. -/
def trim (text : Text) : Text :=
  trimEnd (trimStart text)

/-- Put a character in front of the first piece, opening a piece if there is none. -/
def consFirst
    (character : Char) :
    List Text → List Text
  | [] =>
      [[character]]
  | first :: rest =>
      (character :: first) :: rest

/-- Split at every character of a class; `n` such characters give `n + 1` pieces. -/
def splitWhen
    (separates : Char → Bool)
    (text : Text) :
    List Text :=
  text.foldr
    (fun character pieces =>
      if separates character then
        [] :: pieces
      else
        consFirst character pieces)
    [[]]

/-- The maximal runs of characters that are not blank. -/
def fields (text : Text) : List Text :=
  (splitWhen isBlank text).filter fun piece => !piece.isEmpty

/-- The rest after a leading word, if the text starts with it. -/
def stripStart?
    (word : Text)
    (text : Text) :
    Option Text :=
  List.isPrefixOf? word text

/-- The part before a final word, if the text ends with it. -/
def stripEnd?
    (word : Text)
    (text : Text) :
    Option Text :=
  List.isSuffixOf? word text

/-- The text without one final occurrence of a word. -/
def withoutEnd
    (word : Text)
    (text : Text) :
    Text :=
  (stripEnd? word text).getD text

/-- The text starts with a word. -/
def startsWith
    (word : Text)
    (text : Text) :
    Bool :=
  word.isPrefixOf text

/-- The last character of the text is the given one. -/
def endsWithChar
    (character : Char)
    (text : Text) :
    Bool :=
  text.getLast? == some character

/--
The lines of a unit.  A line feed ends a line, and one carriage return before it
belongs to the ending.  Text after the last line feed is a line only if there is
any, and it keeps a final carriage return.
-/
def lines (text : Text) : List Text :=
  let pieces := splitWhen (· == '\n') text
  pieces.dropLast.map (withoutEnd ['\r']) ++
    pieces.getLast?.toList.filter fun piece => !piece.isEmpty

end Text

end Smsl
