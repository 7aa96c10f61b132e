namespace Smsl

/-!
# JSON documents

Values of the report and of structured log lines, with the two layouts in use:
one line without blanks, and one member a line with two blanks of indentation.
Members keep the order in which they are given.
-/

/-- A JSON document whose numbers are natural. -/
inductive Json where
  | null
  | bool (value : Bool)
  | number (value : Nat)
  | string (value : String)
  | array (items : List Json)
  | object (members : List (String × Json))

namespace Json

/-- One lower-case hexadecimal digit. -/
def hexDigit (value : Nat) : Char :=
  (Nat.toDigits 16 value).headD '0'

/--
The characters that stand for one character inside a quoted string.  Quotes and
backslashes are escaped, and so are the characters below the blank: five of them
by a letter, the others by their code.
-/
def escapeChar (character : Char) : List Char :=
  if character == '\x22' then
    ['\\', '\x22']
  else if character == '\\' then
    ['\\', '\\']
  else if character == '\x08' then
    ['\\', 'b']
  else if character == '\t' then
    ['\\', 't']
  else if character == '\n' then
    ['\\', 'n']
  else if character == '\x0c' then
    ['\\', 'f']
  else if character == '\r' then
    ['\\', 'r']
  else if character.toNat < 0x20 then
    ['\\', 'u', '0', '0',
      hexDigit (character.toNat / 16), hexDigit (character.toNat % 16)]
  else
    [character]

/-- A string between quotes, with its escapes. -/
def quote (text : String) : String :=
  "\x22" ++ String.ofList (text.toList.flatMap escapeChar) ++ "\x22"

/-- A member that is written only when it has a value. -/
def optional
    (name : String)
    (value : Option Json) :
    List (String × Json) :=
  value.toList.map fun present => (name, present)

/-- A value, or `null` when there is none. -/
def orNull (value : Option Json) : Json :=
  value.getD .null

/-- The text of a truth value. -/
def boolText (value : Bool) : String :=
  if value then "true" else "false"

/-- The value of a member is smaller than the list of members. -/
theorem sizeOf_member_lt
    {members : List (String × Json)}
    {member : String × Json}
    (isMember : member ∈ members) :
    sizeOf member.2 < sizeOf members := by
  have smaller := List.sizeOf_lt_of_mem isMember
  rcases member with ⟨name, value⟩
  simp only [Prod.mk.sizeOf_spec] at smaller
  show sizeOf value < sizeOf members
  omega

/-- The layout on one line. -/
def compact : Json → String
  | .null =>
      "null"
  | .bool value =>
      boolText value
  | .number value =>
      toString value
  | .string value =>
      quote value
  | .array items =>
      "[" ++ String.intercalate "," (items.map compact) ++ "]"
  | .object members =>
      let written := members.map fun member =>
        quote member.1 ++ ":" ++ compact member.2
      "\x7b" ++ String.intercalate "," written ++ "\x7d"
termination_by document => sizeOf document
decreasing_by
  · have smaller := List.sizeOf_lt_of_mem ‹_ ∈ items›
    simp only [Json.array.sizeOf_spec]
    omega
  · have smaller := sizeOf_member_lt ‹_ ∈ members›
    simp only [Json.object.sizeOf_spec]
    omega

/-- The blanks in front of a line at a nesting depth. -/
def indentation (depth : Nat) : String :=
  String.ofList (List.replicate (2 * depth) ' ')

/-- Bracketed entries, each on a line of its own one level deeper. -/
def block
    (opening closing : String)
    (depth : Nat)
    (entries : List String) :
    String :=
  if entries.isEmpty then
    opening ++ closing
  else
    let separator := "\n" ++ indentation (depth + 1)
    opening ++ separator ++
      String.intercalate ("," ++ separator) entries ++
      "\n" ++ indentation depth ++ closing

/-- The layout with one entry a line, for a value at a nesting depth. -/
def prettyAt (depth : Nat) : Json → String
  | .null =>
      "null"
  | .bool value =>
      boolText value
  | .number value =>
      toString value
  | .string value =>
      quote value
  | .array items =>
      block "[" "]" depth (items.map (prettyAt (depth + 1)))
  | .object members =>
      block "\x7b" "\x7d" depth <|
        members.map fun member =>
          quote member.1 ++ ": " ++ prettyAt (depth + 1) member.2
termination_by document => sizeOf document
decreasing_by
  · have smaller := List.sizeOf_lt_of_mem ‹_ ∈ items›
    simp only [Json.array.sizeOf_spec]
    omega
  · have smaller := sizeOf_member_lt ‹_ ∈ members›
    simp only [Json.object.sizeOf_spec]
    omega

/-- The layout with one entry a line. -/
def pretty (document : Json) : String :=
  prettyAt 0 document

end Json

end Smsl
