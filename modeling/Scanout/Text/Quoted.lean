import Scanout.Text.Hexadecimal
import Scanout.Text.Invisible

/-!
# Quoted text

A text between double quotes. The quote, the backslash and four control characters have short
escapes; every other character without a glyph is written as its code point. An apostrophe is
written as it is.
-/

set_option autoImplicit false

namespace Scanout.Text

/-- One character of a quoted text. -/
def quotedCharacter (character : Char) : List Char :=
  if character = '"' then ['\\', '"']
  else if character = '\\' then ['\\', '\\']
  else if character = '\n' then ['\\', 'n']
  else if character = '\r' then ['\\', 'r']
  else if character = '\t' then ['\\', 't']
  else if character.toNat = 0 then ['\\', '0']
  else if isInvisible character then
    ['\\', 'u', '\x7b'] ++ Nat.toDigits 16 character.toNat ++ ['\x7d']
  else [character]

def quoted (text : String) : String :=
  "\"" ++ String.ofList (text.toList.flatMap quotedCharacter) ++ "\""

end Scanout.Text
