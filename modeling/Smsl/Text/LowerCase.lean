import Smsl.Text.CaseTable

namespace Smsl.Text

/-!
# Lower case

The lower-case form of a text under the full Unicode mapping.  Two letters need
more than a table: the capital I with a dot keeps its dot as a mark of its own,
and the capital sigma has a second form at the end of a word.
-/

/-- The lower-case letter of a character beyond the first 128, by the table. -/
def tableLower (character : Char) : Char :=
  let code := character.toNat
  match lowerRuns.find? fun run =>
      run.1 ≤ code && code ≤ run.2.1 && (code - run.1) % run.2.2.1 == 0 with
  | some run => Char.ofNat (run.2.2.2 + (code - run.1))
  | none => character

/-- The lower-case form of a character, away from its neighbours. -/
def lowerChar (character : Char) : Text :=
  if character.toNat < 0x80 then
    [character.toLower]
  else if character == '\u0130' then
    ['i', '\u0307']
  else
    [tableLower character]

/-- Beyond the characters that case rules look through, the next one has case. -/
def startsCased (text : Text) : Bool :=
  match text.dropWhile caseIgnorableRanges.contains with
  | [] => false
  | character :: _ => casedRanges.contains character

/-- The form of a capital sigma between what is before it, reversed, and after it. -/
def lowerSigma (before after : Text) : Char :=
  if startsCased before && !startsCased after then
    '\u03C2'
  else
    '\u03C3'

/-- The lower-case form of a text that follows a reversed one. -/
def lowerAfter : Text → Text → Text
  | _, [] =>
      []
  | before, character :: rest =>
      let lowered :=
        if character == '\u03A3' then
          [lowerSigma before rest]
        else
          lowerChar character
      lowered ++ lowerAfter (character :: before) rest

/-- The lower-case form of a text. -/
def lowerCase (text : Text) : Text :=
  lowerAfter [] text

end Smsl.Text
