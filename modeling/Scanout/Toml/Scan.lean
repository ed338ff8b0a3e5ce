/-!
# Reading TOML: blanks, lines and digits

A reader takes something from the front of a text and hands back the rest, or finds nothing. This
module has the readers that all others use.
-/

set_option autoImplicit false

namespace Scanout.Toml

/-- Takes something from the front of a text. -/
abbrev Reader (α : Type) := List Char → Option (α × List Char)

def isBlank (c : Char) : Bool := c == ' ' || c == '\t'

/-- The text behind the blanks at its front. -/
def skipBlanks (input : List Char) : List Char := input.dropWhile isBlank

def newline? : List Char → Option (List Char)
  | '\n' :: rest => some rest
  | '\r' :: '\n' :: rest => some rest
  | _ => none

/-- Control characters other than the tab are not allowed in comments and strings. -/
def isPlain (c : Char) : Bool := c == '\t' || (0x20 ≤ c.toNat && c.toNat != 0x7f)

def skipComment : List Char → List Char
  | '#' :: rest => rest.dropWhile isPlain
  | input => input

def lineEnd? : List Char → Option (List Char)
  | [] => some []
  | input => newline? input

/-- The text behind a line that holds nothing more than blanks and a comment. -/
def finishLine? (input : List Char) : Option (List Char) :=
  lineEnd? (skipComment (skipBlanks input))

/-- The text behind blanks, comments and line breaks, of which there are at most `fuel`. -/
def skipFillerFrom : Nat → List Char → List Char
  | 0, input => skipBlanks input
  | fuel + 1, input =>
    let behind := skipBlanks input
    match newline? (skipComment behind) with
    | none => behind
    | some rest => skipFillerFrom fuel rest

def skipFiller (input : List Char) : List Char := skipFillerFrom input.length input

def skip? : List Char → List Char → Option (List Char)
  | [], input => some input
  | expected :: more, c :: rest => if c = expected then skip? more rest else none
  | _ :: _, [] => none

/-- The digits of a number and the text behind them; one underscore may stand between two digits. -/
def moreDigits (isDigit : Char → Bool) : List Char → List Char × List Char
  | '_' :: c :: rest =>
    if isDigit c then
      let (digits, behind) := moreDigits isDigit rest
      (c :: digits, behind)
    else ([], '_' :: c :: rest)
  | c :: rest =>
    if isDigit c then
      let (digits, behind) := moreDigits isDigit rest
      (c :: digits, behind)
    else ([], c :: rest)
  | [] => ([], [])

def digits (isDigit : Char → Bool) : Reader (List Char)
  | c :: rest =>
    if isDigit c then
      let (others, behind) := moreDigits isDigit rest
      some (c :: others, behind)
    else none
  | [] => none

def digitValue (c : Char) : Nat :=
  if '0' ≤ c ∧ c ≤ '9' then c.toNat - '0'.toNat
  else if 'a' ≤ c ∧ c ≤ 'f' then c.toNat - 'a'.toNat + 10
  else if 'A' ≤ c ∧ c ≤ 'F' then c.toNat - 'A'.toNat + 10
  else 16

def isDigitIn (base : Nat) (c : Char) : Bool := digitValue c < base

def valueOf (base : Nat) (digits : List Char) : Nat :=
  digits.foldl (fun value digit => value * base + digitValue digit) 0

/-- Reads exactly `count` digits to base `base`. -/
def exactly (base count : Nat) : Reader Nat := fun input =>
  let front := input.take count
  if front.length = count ∧ front.all (isDigitIn base) then
    some (valueOf base front, input.drop count)
  else none

end Scanout.Toml
