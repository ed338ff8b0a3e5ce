import Scanout.Toml.Moment
import Scanout.Toml.Number
import Scanout.Toml.Text

/-!
# TOML values and tables

A table remembers how it came about, because that decides what may be added to it later: a table in
braces is closed, a header may be used once, tables that a longer header implies may still get a
header of their own, and tables that a dotted key makes may only be extended by dotted keys.
-/

set_option autoImplicit false

namespace Scanout.Toml

inductive Origin where
  /-- Written in braces. -/
  | closed
  /-- Opened by a header, or the whole document. -/
  | header
  /-- On the way to a table with a header. -/
  | implied
  /-- On the way of a dotted key. -/
  | dotted
  deriving DecidableEq, Inhabited

inductive Value where
  | string (text : String)
  | integer (number : Int)
  | float (number : Float)
  | boolean (value : Bool)
  | moment (moment : Moment)
  | array (elements : List Value)
  | table (origin : Origin) (entries : List (String × Value))
  /-- Tables that each have a header in double brackets. -/
  | tables (elements : List (List (String × Value)))
  deriving Inhabited

/-- The entries of a table, in order of definition. -/
abbrev Entries := List (String × Value)

namespace Entries

/-- The entries with a value in place of the one with this key, or behind all others. -/
def put (key : String) (value : Value) : Entries → Entries
  | [] => [(key, value)]
  | entry :: rest => if entry.1 = key then (key, value) :: rest else entry :: put key value rest

/-- A change of a table, if the table allows it. -/
abbrev Change := Origin → Entries → Option Entries

/-- Makes a change in the table under a key. A table that is missing is made on the way. The last
one of several tables is the one that is meant. -/
def within (isDotted : Bool) (key : String) (change : Change) : Change := fun _ entries =>
  match entries.lookup key with
  | none =>
    let origin := if isDotted then Origin.dotted else Origin.implied
    (change origin []).map fun inner => put key (.table origin inner) entries
  | some (.table origin inner) =>
    if origin = .closed ∨ (isDotted ∧ origin = .header) then none
    else (change origin inner).map fun inner => put key (.table origin inner) entries
  | some (.tables elements) =>
    (change .header (elements.getLast?.getD [])).map fun inner =>
      put key (.tables (elements.dropLast ++ [inner])) entries
  | some _ => none

def descend (isDotted : Bool) : List String → Change → Change
  | [], change => change
  | key :: path, change => within isDotted key (descend isDotted path change)

/-- Adds a new value. Plain keys may not extend the table of a dotted key, nor the other way
round. -/
def define (isDotted : Bool) (key : String) (value : Value) : Change := fun origin entries =>
  if (origin == .dotted) != isDotted then none
  else if (entries.lookup key).isSome then none
  else some (entries ++ [(key, value)])

def assign (path : List String) (value : Value) : Change :=
  match path.getLast? with
  | none => fun _ _ => none
  | some key =>
    descend true path.dropLast (define (decide (1 < path.length)) key value)

def openTable (key : String) : Change := fun _ entries =>
  match entries.lookup key with
  | none => some (put key (.table .header []) entries)
  | some (.table .implied inner) => some (put key (.table .header inner) entries)
  | some _ => none

/-- Opens another table of a header in double brackets. -/
def openElement (key : String) : Change := fun _ entries =>
  match entries.lookup key with
  | none => some (put key (.tables [[]]) entries)
  | some (.tables elements) => some (put key (.tables (elements ++ [[]])) entries)
  | some _ => none

end Entries

/-- The greatest depth of values in brackets or braces. -/
def depthLimit : Nat := 79

def elements (value : Reader Value) : Nat → Reader (List Value)
  | 0, _ => none
  | fuel + 1, input =>
    match skipFiller input with
    | ']' :: rest => some ([], rest)
    | input => do
      let (first, rest) ← value input
      match skipFiller rest with
      | ']' :: rest => some ([first], rest)
      | ',' :: rest =>
        let (others, rest) ← elements value fuel rest
        some (first :: others, rest)
      | _ => none

def keyValue (value : Reader Value) : Reader (List String × Value) := fun input => do
  let (path, rest) ← key input
  let rest ← skip? ['='] rest
  let (found, rest) ← value (skipBlanks rest)
  some ((path, found), rest)

def members (value : Reader Value) : Nat → Entries → Reader Entries
  | 0, _, _ => none
  | fuel + 1, entries, input => do
    let ((path, found), rest) ← keyValue value input
    let entries ← Entries.assign path found .header entries
    match skipBlanks rest with
    | '}' :: rest => some (entries, rest)
    | ',' :: rest => members value fuel entries rest
    | _ => none

def closedTable (value : Reader Value) : Reader Value := fun input =>
  match skipBlanks input with
  | '}' :: rest => some (.table .closed [], rest)
  | input => (members value (input.length + 1) [] input).map fun (entries, rest) =>
    (.table .closed entries, rest)

def numeric : Reader Value := fun input =>
  match moment input with
  | some (found, rest) => some (.moment found, rest)
  | none =>
    match real input with
    | some (found, rest) => some (.float found, rest)
    | none => (whole input).map fun (found, rest) => (.integer found, rest)

/-- Reads a value that is neither an array nor a table. -/
def scalar : Reader Value
  | '"' :: rest => (string ('"' :: rest)).map fun (text, rest) => (.string text, rest)
  | '\'' :: rest => (string ('\'' :: rest)).map fun (text, rest) => (.string text, rest)
  | 't' :: 'r' :: 'u' :: 'e' :: rest => some (.boolean true, rest)
  | 'f' :: 'a' :: 'l' :: 's' :: 'e' :: rest => some (.boolean false, rest)
  | input => numeric input

/-- Reads a value in which arrays and tables are at most `depth` deep. -/
def value : Nat → Reader Value
  | 0, '[' :: _ => none
  | 0, '{' :: _ => none
  | depth + 1, '[' :: rest =>
    (elements (value depth) (rest.length + 1) rest).map fun (found, rest) => (.array found, rest)
  | depth + 1, '{' :: rest => closedTable (value depth) rest
  | _, input => scalar input

end Scanout.Toml
