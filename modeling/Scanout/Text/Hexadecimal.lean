/-!
# Hexadecimal text

Lower-case digits without leading zeros for numbers, two digits for each byte of a byte string.
-/

set_option autoImplicit false

namespace Scanout.Text

/-- A number in hexadecimal digits, without leading zeros. -/
def hexadecimal (n : Nat) : String := String.ofList (Nat.toDigits 16 n)

def markedHexadecimal (n : Nat) : String := "0x" ++ hexadecimal n

def byteDigits (byte : UInt8) : List Char :=
  [Nat.digitChar (byte.toNat / 16), Nat.digitChar (byte.toNat % 16)]

/-- A byte string, two digits for each byte. -/
def bytesHexadecimal (bytes : List UInt8) : String := String.ofList (bytes.flatMap byteDigits)

/-- A number in at least `places` hexadecimal digits, with zeros in front. -/
def paddedHexadecimal (places n : Nat) : String :=
  let digits := hexadecimal n
  String.ofList (List.replicate (places - digits.length) '0') ++ digits

def digitValue? (digit : Char) : Option Nat :=
  if '0' ≤ digit ∧ digit ≤ '9' then some (digit.toNat - '0'.toNat)
  else if 'a' ≤ digit ∧ digit ≤ 'f' then some (digit.toNat - 'a'.toNat + 10)
  else if 'A' ≤ digit ∧ digit ≤ 'F' then some (digit.toNat - 'A'.toNat + 10)
  else none

def ofHexadecimal? (digits : List Char) : Option Nat :=
  digits.foldlM (fun value digit => (digitValue? digit).map fun unit => value * 16 + unit) 0

/-- The byte string that pairs of hexadecimal digits write. -/
def bytesOfHexadecimal? : List Char → Option (List UInt8)
  | [] => some []
  | [_] => none
  | high :: low :: rest => do
    let byte ← ofHexadecimal? [high, low]
    let bytes ← bytesOfHexadecimal? rest
    some (UInt8.ofNat byte :: bytes)

end Scanout.Text
