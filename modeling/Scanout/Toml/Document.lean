import Scanout.Toml.Value

/-!
# TOML documents

A document is a sequence of lines: empty lines, headers, and keys with their values. Each line is
read and carried out at once, on the table that the last header has opened.
-/

set_option autoImplicit false

namespace Scanout.Toml

inductive Line where
  | empty
  | tableHeader (path : List String)
  | elementHeader (path : List String)
  | entry (path : List String) (value : Value)

def header (closing : List Char) (make : List String → Line) : Reader Line := fun input => do
  let (path, rest) ← key input
  let rest ← skip? closing rest
  some (make path, rest)

/-- Reads what a line says, without its end. -/
def content : Reader Line
  | '[' :: '[' :: rest => header [']', ']'] .elementHeader rest
  | '[' :: rest => header [']'] .tableHeader rest
  | '#' :: rest => some (.empty, '#' :: rest)
  | '\n' :: rest => some (.empty, '\n' :: rest)
  | '\r' :: rest => some (.empty, '\r' :: rest)
  | input => (keyValue (value depthLimit) input).map fun ((path, found), rest) =>
    (.entry path found, rest)

def line : Reader Line := fun input => do
  let (found, rest) ← content (skipBlanks input)
  let rest ← finishLine? rest
  some (found, rest)

/-- A document that has been read in part: its entries, and the table that entries go to. -/
structure Draft where
  entries : Entries := []
  current : List String := []
  deriving Inhabited

def Draft.enter (draft : Draft) (path : List String) (change : String → Entries.Change) :
    Option Draft := do
  let key ← path.getLast?
  let entries ← Entries.descend false path.dropLast (change key) .header draft.entries
  some { entries := entries, current := path }

def Draft.apply (draft : Draft) : Line → Option Draft
  | .empty => some draft
  | .tableHeader path => draft.enter path Entries.openTable
  | .elementHeader path => draft.enter path Entries.openElement
  | .entry path value => do
    let entries ←
      Entries.descend false draft.current (Entries.assign path value) .header draft.entries
    some { draft with entries := entries }

def linesFrom : Nat → Draft → List Char → Option Draft
  | 0, _, _ => none
  | fuel + 1, draft, input =>
    if (skipBlanks input).isEmpty then some draft
    else do
      let (found, rest) ← line input
      let draft ← draft.apply found
      linesFrom fuel draft rest

def dropMark : List Char → List Char
  | '\ufeff' :: rest => rest
  | input => input

/-- The table that a document writes, or nothing if it is not a document. -/
def document? (text : String) : Option Entries :=
  let input := dropMark text.toList
  (linesFrom (input.length + 1) {} input).map (·.entries)

end Scanout.Toml
