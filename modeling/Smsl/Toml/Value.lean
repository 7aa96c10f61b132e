namespace Smsl.Toml

/-!
# TOML values and tables

A document is a tree of tables.  Headers and dotted keys add to the tree, and
how a table came to be decides what may still be added to it: a table gets one
header at most, a dotted key never reaches into a table with a header of its
own, and a table in braces is complete.
-/

/-- How a table came to be. -/
inductive TableOrigin where
  | header
  | implied
  | dotted
  | braces
  deriving Repr, DecidableEq

/--
A value.  Floats and dates are kept as they are written; `tables` is an array
whose elements were opened by double headers one after the other.
-/
inductive Value where
  | string (text : String)
  | boolean (value : Bool)
  | integer (value : Int)
  | float (written : String)
  | dateTime (written : String)
  | array (items : List Value)
  | table (origin : TableOrigin) (entries : List (String × Value))
  | tables (elements : List (List (String × Value)))

/-- The named values of a table. -/
abbrev Entries := List (String × Value)

namespace Entries

/-- The value of a name. -/
def get?
    (name : String)
    (entries : Entries) :
    Option Value :=
  (entries.find? fun entry => entry.1 = name).map (·.2)

/-- Give a name a value, in place of an earlier one. -/
def set
    (name : String)
    (value : Value) :
    Entries → Entries
  | [] =>
      [(name, value)]
  | first :: rest =>
      if first.1 = name then
        (name, value) :: rest
      else
        first :: set name value rest

/-- Change the last element of an array of tables. -/
def changeLast
    (change : Entries → Option Entries)
    (elements : List Entries) :
    Option Value := do
  let last ← elements.getLast?
  let changed ← change last
  return .tables (elements.dropLast ++ [changed])

/--
Change the table that a header path leads to.  Tables that are missing on the
way are implied, and an array of tables stands for its last element.
-/
def changeAt
    (change : Entries → Option Entries) :
    List String → Entries → Option Entries
  | [], entries =>
      change entries
  | name :: path, entries =>
      let changed : Option Value :=
        match get? name entries with
        | none =>
            (changeAt change path []).map (.table .implied)
        | some (.table .braces _) =>
            none
        | some (.table origin inner) =>
            (changeAt change path inner).map (.table origin)
        | some (.tables elements) =>
            changeLast (changeAt change path) elements
        | some _ =>
            none
      changed.map fun value => set name value entries

/-- Open a table by its header: it is new, or it was only implied before. -/
def openTable
    (name : String)
    (entries : Entries) :
    Option Entries :=
  match get? name entries with
  | none =>
      some (set name (.table .header []) entries)
  | some (.table .implied inner) =>
      some (set name (.table .header inner) entries)
  | some _ =>
      none

/-- Open one more element of an array of tables. -/
def openElement
    (name : String)
    (entries : Entries) :
    Option Entries :=
  match get? name entries with
  | none =>
      some (set name (.tables [[]]) entries)
  | some (.tables elements) =>
      some (set name (.tables (elements ++ [[]])) entries)
  | some _ =>
      none

/--
Add a value under a dotted key.  The last name must be free.  On the way, dotted
tables are entered and made; implied tables and arrays of tables are entered
only if the key goes on below the next name.
-/
def insert
    (value : Value) :
    List String → Entries → Option Entries
  | [], _ =>
      none
  | [name], entries =>
      match get? name entries with
      | none => some (set name value entries)
      | some _ => none
  | name :: next :: rest, entries =>
      let changed : Option Value :=
        match get? name entries with
        | none =>
            (insert value (next :: rest) []).map (.table .dotted)
        | some (.table .dotted inner) =>
            (insert value (next :: rest) inner).map (.table .dotted)
        | some (.table .implied inner) =>
            if rest.isEmpty then
              none
            else
              (insert value (next :: rest) inner).map (.table .implied)
        | some (.tables elements) =>
            if rest.isEmpty then
              none
            else
              changeLast (insert value (next :: rest)) elements
        | some _ =>
            none
      changed.map fun inner => set name inner entries

end Entries

end Smsl.Toml
