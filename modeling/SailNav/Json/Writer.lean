import SailNav.Json.Basic

/-!
# Writing JSON

`SailNav.Json.write` writes a value on one line, without spaces, and in ASCII: a character outside
ASCII is written as the `\u` escapes of its UTF-16 units, and so is every control character.
-/

namespace SailNav

namespace Json

/-- A hexadecimal digit. -/
def hexDigit (n : Nat) : Char := Char.ofNat (if n < 10 then 48 + n else 87 + n)

/-- The escape of a UTF-16 unit. -/
def writeUnit (text : String) (unit : Nat) : String :=
  ((((text ++ "\\u").push (hexDigit (unit / 0x1000 % 16))).push (hexDigit (unit / 0x100 % 16))).push
    (hexDigit (unit / 0x10 % 16))).push (hexDigit (unit % 16))

/-- A text with one character of a string written after it. -/
def writeChar (text : String) (c : Char) : String :=
  if c = '"' then text ++ "\\\""
  else if c = '\\' then text ++ "\\\\"
  else if 0x20 ≤ c.toNat ∧ c.toNat < 0x7F then text.push c
  else if c.toNat < 0x10000 then writeUnit text c.toNat
  else
    let n := c.toNat - 0x10000
    writeUnit (writeUnit text (0xD800 + n / 0x400)) (0xDC00 + n % 0x400)

/-- A text with a string written after it. -/
def writeString (text : String) (value : String) : String :=
  (value.toList.foldl writeChar (text.push '"')).push '"'

mutual

/-- A text with a value written after it. -/
def writeValue (text : String) : Json → String
  | null => text ++ "null"
  | bool b => text ++ (if b then "true" else "false")
  | int n => text ++ toString n
  | real s => text ++ s
  | str s => writeString text s
  | arr items => (writeItems (text.push '[') true items).push ']'
  | obj members => (writeMembers (text.push '\x7b') true members).push '\x7d'

/-- A text with the items of an array written after it. -/
def writeItems (text : String) (first : Bool) : List Json → String
  | [] => text
  | item :: rest =>
    writeItems (writeValue (if first then text else text.push ',') item) false rest

/-- A text with the members of an object written after it. -/
def writeMembers (text : String) (first : Bool) : List (String × Json) → String
  | [] => text
  | (key, value) :: rest =>
    let text := writeString (if first then text else text.push ',') key
    writeMembers (writeValue (text.push ':') value) false rest

end

/-- The text of a value. -/
def write (json : Json) : String := writeValue "" json

end Json

end SailNav
