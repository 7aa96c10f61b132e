import Smsl.Text.Basic

namespace Smsl.Text

/-!
# Bytes of text

Text is stored as UTF-8.  A text that is not valid is valid up to some byte, and a
valid one can be cut at the bytes at which a character ends.
-/

/-- The position of the first byte, from a position on, at which no character starts. -/
def validEnd
    (bytes : ByteArray)
    (position : Nat) :
    Nat :=
  if position < bytes.size then
    match bytes.utf8DecodeChar? position with
    | some character => validEnd bytes (position + character.utf8Size)
    | none => position
  else
    position
termination_by bytes.size - position
decreasing_by
  have positive := character.utf8Size_pos
  omega

/-- The number of leading bytes that are valid. -/
def validLength (bytes : ByteArray) : Nat :=
  validEnd bytes 0

/-- The text that bytes are the UTF-8 form of. -/
def decode? (bytes : ByteArray) : Option Text :=
  (String.fromUTF8? bytes).map String.toList

/-- The leading characters that take exactly some bytes, unless a character goes on there. -/
def firstBytes? : Text → Nat → Option Text
  | _, 0 =>
      some []
  | [], _ + 1 =>
      none
  | character :: rest, bytes + 1 =>
      if character.utf8Size ≤ bytes + 1 then
        (firstBytes? rest (bytes + 1 - character.utf8Size)).map (character :: ·)
      else
        none

/--
The leading characters up to some byte, or up to the last one before it at which a
character ends: the search goes back byte by byte.
-/
def firstWithin (text : Text) : Nat → Text
  | 0 =>
      []
  | bytes + 1 =>
      match firstBytes? text (bytes + 1) with
      | some start => start
      | none => firstWithin text bytes

end Smsl.Text
