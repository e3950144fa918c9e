/-!
# Percent encoding

A URL is a text of ASCII characters. Whatever else it has to name is written byte by byte, each byte
of the UTF-8 form as a percent sign and two hexadecimal digits. Which ASCII characters are written
this way too depends on the part of the URL, and an `SailNav.Url.EncodeSet` says which;
characters outside ASCII always are.
-/

namespace SailNav

namespace Url

/-- The ASCII characters that are percent-encoded in some part of a URL. -/
abbrev EncodeSet := Char → Bool

namespace EncodeSet

/-- The set with the characters of a string added. -/
def adding (s : EncodeSet) (chars : String) : EncodeSet := fun c => s c || chars.toList.contains c

/-- Control characters. -/
def control : EncodeSet := fun c => c.toNat < 0x20 || c.toNat == 0x7F

def fragment : EncodeSet := control.adding " \"<>`"

def query : EncodeSet := control.adding " \"#<>"

/-- The query of a URL with one of the special schemes. -/
def specialQuery : EncodeSet := query.adding "'"

def path : EncodeSet := fragment.adding "#?\x7b\x7d"

def userinfo : EncodeSet := path.adding "/:;=@[\\]^|"

/-- A name that becomes one segment of a path. -/
def segment : EncodeSet := path.adding "/%\\"

end EncodeSet

/-- A hexadecimal digit, in upper case. -/
def upperHexDigit (n : Nat) : Char := Char.ofNat (if n < 10 then 48 + n else 55 + n)

/-- A byte, percent-encoded. -/
def encodeByte (b : UInt8) : List Char :=
  ['%', upperHexDigit (b.toNat / 16), upperHexDigit (b.toNat % 16)]

/-- A character, percent-encoded where it has to be. -/
def encodeChar (s : EncodeSet) (c : Char) : List Char :=
  if c.toNat < 0x80 && !s c then [c] else (String.utf8EncodeChar c).flatMap encodeByte

/-- A text, percent-encoded where it has to be. -/
def encode (s : EncodeSet) (text : List Char) : String :=
  String.ofList (text.flatMap (encodeChar s))

/-- Bytes, percent-encoded where they are not ASCII characters that stand for themselves. -/
def encodeBytes (s : EncodeSet) (bytes : List UInt8) : String :=
  String.ofList (bytes.flatMap fun b =>
    let c := Char.ofNat b.toNat
    if b < 0x80 && !s c then [c] else encodeByte b)

/-- The value of a hexadecimal digit. -/
def hexValue? (c : Char) : Option Nat :=
  if '0' ≤ c ∧ c ≤ '9' then some (c.toNat - 48)
  else if 'a' ≤ c ∧ c ≤ 'f' then some (c.toNat - 87)
  else if 'A' ≤ c ∧ c ≤ 'F' then some (c.toNat - 55)
  else none

/-- The byte that two hexadecimal digits write. -/
def hexByte? (a b : Char) : Option UInt8 := do
  let high ← hexValue? a
  let low ← hexValue? b
  return (high * 16 + low).toUInt8

/-- Decodes a text on top of the bytes `taken`, which are backwards. -/
def decodeOnto (taken : List UInt8) : List Char → List UInt8
  | '%' :: a :: b :: rest =>
    match hexByte? a b with
    | some byte => decodeOnto (byte :: taken) rest
    | none => decodeOnto (0x25 :: taken) (a :: b :: rest)
  | c :: rest => decodeOnto ((String.utf8EncodeChar c).reverse ++ taken) rest
  | [] => taken.reverse

/-- The bytes that a percent-encoded text stands for. A percent sign without two hexadecimal digits
behind it stands for itself. -/
def decode (text : List Char) : List UInt8 := decodeOnto [] text

end Url

end SailNav
