import Smsl.Toml.Entry

namespace Smsl.Toml

/-!
# Documents

The entries of a document are added to its root table one after the other.  A
header names the table that the keys below it belong to.
-/

/-- The tables of a document so far, and the path of the open one. -/
structure Document where
  root : Entries
  current : List String

namespace Document

/-- The document without entries. -/
def empty : Document where
  root := []
  current := []

/-- Open what a header names, by a way to open the last name of its path. -/
def openAt
    (document : Document)
    (path : List String)
    (openName : String → Entries → Option Entries) :
    Option Document := do
  let name ← path.getLast?
  let root ← Entries.changeAt (openName name) path.dropLast document.root
  return { root := root, current := path }

/-- Add an entry, unless it contradicts the ones before it. -/
def add
    (document : Document) :
    Entry → Option Document
  | .table path =>
      document.openAt path Entries.openTable
  | .element path =>
      document.openAt path Entries.openElement
  | .pair path value => do
      let root ← Entries.changeAt (Entries.insert value path) document.current document.root
      return { document with root := root }

/-- A text without the mark of its byte order. -/
def withoutMark : Text → Text
  | '\uFEFF' :: rest => rest
  | text => text

/-- The root table of a text, if the text is a document. -/
def ofText? (text : Text) : Option Entries := do
  let entries ← Entry.ofText? (withoutMark text)
  let document ← entries.foldlM add empty
  return document.root

end Document

end Smsl.Toml
