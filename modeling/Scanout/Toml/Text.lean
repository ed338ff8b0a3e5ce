import Scanout.Toml.Scan

/-!
# Reading TOML: strings and keys

A string stands between quotes or apostrophes, on one line or, with the mark written three times, on
several. Between quotes a backslash starts an escape. Line breaks inside a string are read as line
feeds.
-/

set_option autoImplicit false

namespace Scanout.Toml

/-- Reads the character that four or eight hexadecimal digits stand for. Surrogates are none. -/
def codePoint (count : Nat) : Reader Char := fun input => do
  let (code, rest) ← exactly 16 count input
  if code < 0xd800 ∨ (0xdfff < code ∧ code < 0x110000) then some (Char.ofNat code, rest) else none

/-- Reads what stands behind the backslash of an escape. -/
def escape : Reader Char
  | 'b' :: rest => some ('\x08', rest)
  | 'f' :: rest => some ('\x0c', rest)
  | 'n' :: rest => some ('\n', rest)
  | 'r' :: rest => some ('\r', rest)
  | 't' :: rest => some ('\t', rest)
  | 'u' :: rest => codePoint 4 rest
  | 'U' :: rest => codePoint 8 rest
  | '\\' :: rest => some ('\\', rest)
  | '"' :: rest => some ('"', rest)
  | _ => none

/-- Reads a quoted string of one line behind its opening mark. -/
def quotedBody : Nat → Reader (List Char)
  | 0, _ => none
  | _ + 1, [] => none
  | _ + 1, '"' :: rest => some ([], rest)
  | fuel + 1, '\\' :: rest => do
    let (c, rest) ← escape rest
    let (others, rest) ← quotedBody fuel rest
    some (c :: others, rest)
  | fuel + 1, c :: rest => do
    if isPlain c then
      let (others, rest) ← quotedBody fuel rest
      some (c :: others, rest)
    else none

def literalBody : Reader (List Char)
  | [] => none
  | '\'' :: rest => some ([], rest)
  | c :: rest => do
    if isPlain c then
      let (others, rest) ← literalBody rest
      some (c :: others, rest)
    else none

def markCount (mark : Char) (input : List Char) : Nat := (input.takeWhile (· == mark)).length

/-- The end of a string of several lines at its front: three marks, before which up to two more
belong to the string. -/
def closing? (mark : Char) (input : List Char) : Option (List Char × List Char) :=
  let count := markCount mark input
  if 3 ≤ count ∧ count ≤ 5 then some (List.replicate (count - 3) mark, input.drop count) else none

def skipBreaks : List Char → List Char
  | ' ' :: rest => skipBreaks rest
  | '\t' :: rest => skipBreaks rest
  | '\n' :: rest => skipBreaks rest
  | '\r' :: '\n' :: rest => skipBreaks rest
  | input => input

/-- The text behind the end of a line that a backslash continues. -/
def continuation? (input : List Char) : Option (List Char) :=
  (newline? (skipBlanks input)).map skipBreaks

/-- Reads a quoted string of several lines behind its opening mark. -/
def quotedLines : Nat → Reader (List Char)
  | 0, _ => none
  | fuel + 1, input =>
    match closing? '"' input with
    | some found => some found
    | none =>
      match newline? input with
      | some rest => do
        let (others, rest) ← quotedLines fuel rest
        some ('\n' :: others, rest)
      | none =>
        match input with
        | [] => none
        | '\\' :: rest =>
          match continuation? rest with
          | some rest => quotedLines fuel rest
          | none => do
            let (c, rest) ← escape rest
            let (others, rest) ← quotedLines fuel rest
            some (c :: others, rest)
        | c :: rest => do
          if isPlain c ∧ markCount '"' input < 3 then
            let (others, rest) ← quotedLines fuel rest
            some (c :: others, rest)
          else none

def literalLines : Nat → Reader (List Char)
  | 0, _ => none
  | fuel + 1, input =>
    match closing? '\'' input with
    | some found => some found
    | none =>
      match newline? input with
      | some rest => do
        let (others, rest) ← literalLines fuel rest
        some ('\n' :: others, rest)
      | none =>
        match input with
        | [] => none
        | c :: rest => do
          if isPlain c ∧ markCount '\'' input < 3 then
            let (others, rest) ← literalLines fuel rest
            some (c :: others, rest)
          else none

def dropNewline (input : List Char) : List Char := (newline? input).getD input

def lineString : Reader String
  | '"' :: rest => (quotedBody (rest.length + 1) rest).map fun (text, rest) =>
    (String.ofList text, rest)
  | '\'' :: rest => (literalBody rest).map fun (text, rest) => (String.ofList text, rest)
  | _ => none

def string : Reader String
  | '"' :: '"' :: '"' :: rest =>
    let body := dropNewline rest
    (quotedLines (body.length + 1) body).map fun (text, rest) => (String.ofList text, rest)
  | '\'' :: '\'' :: '\'' :: rest =>
    let body := dropNewline rest
    (literalLines (body.length + 1) body).map fun (text, rest) => (String.ofList text, rest)
  | input => lineString input

def isBare (c : Char) : Bool :=
  ('a' ≤ c && c ≤ 'z') || ('A' ≤ c && c ≤ 'Z') || ('0' ≤ c && c ≤ '9') || c == '_' || c == '-'

def keyPart : Reader String := fun input =>
  match lineString input with
  | some found => some found
  | none =>
    let bare := input.takeWhile isBare
    if bare.isEmpty then none else some (String.ofList bare, input.drop bare.length)

/-- Reads at most `fuel` parts of a key, with dots between them and blanks around them. -/
def keyParts : Nat → Reader (List String)
  | 0, _ => none
  | fuel + 1, input => do
    let (part, rest) ← keyPart (skipBlanks input)
    match skipBlanks rest with
    | '.' :: rest =>
      let (others, rest) ← keyParts fuel rest
      some (part :: others, rest)
    | rest => some ([part], rest)

/-- The number of parts that a key cannot reach. -/
def keyLimit : Nat := 80

def key : Reader (List String) := fun input => do
  let (parts, rest) ← keyParts (input.length + 1) input
  if parts.length < keyLimit then some (parts, rest) else none

end Scanout.Toml
