/-!
# Reading bytes as UTF-8

A name may come as bytes that are no UTF-8, for instance from a URL. To show it, the bytes are read
as far as they go: every well-formed sequence is its character, and of the rest every longest start
of a sequence, or else a single byte, is shown as the replacement character `U+FFFD`.
-/

namespace SailNav

namespace Text

/-- The character that stands for bytes without meaning. -/
def replacement : Char := '\ufffd'

/-- What a byte of a multi-byte sequence promises when it is the first: the bits it carries, the
number of bytes that follow, and the range of the next one. -/
def leadByte? (b : Nat) : Option (Nat × Nat × Nat × Nat) :=
  if 0xC2 ≤ b ∧ b ≤ 0xDF then some (b - 0xC0, 1, 0x80, 0xBF)
  else if b = 0xE0 then some (0, 2, 0xA0, 0xBF)
  else if b = 0xED then some (0xD, 2, 0x80, 0x9F)
  else if 0xE1 ≤ b ∧ b ≤ 0xEF then some (b - 0xE0, 2, 0x80, 0xBF)
  else if b = 0xF0 then some (0, 3, 0x90, 0xBF)
  else if 0xF1 ≤ b ∧ b ≤ 0xF3 then some (b - 0xF0, 3, 0x80, 0xBF)
  else if b = 0xF4 then some (4, 3, 0x80, 0x8F)
  else none

/-- Reads the bytes that follow a first byte: the code point, if all of them are there, and what
stands behind those that are. -/
def followingBytes (code need low high : Nat) : List UInt8 → Option Nat × List UInt8
  | [] => (if need = 0 then some code else none, [])
  | b :: rest =>
    match need with
    | 0 => (some code, b :: rest)
    | need + 1 =>
      if low ≤ b.toNat ∧ b.toNat ≤ high then
        followingBytes (code * 64 + (b.toNat - 0x80)) need 0x80 0xBF rest
      else (none, b :: rest)

theorem length_followingBytes (code need low high : Nat) (bytes : List UInt8) :
    (followingBytes code need low high bytes).2.length ≤ bytes.length := by
  induction bytes generalizing code need low high with
  | nil => simp [followingBytes]
  | cons b rest ih =>
    unfold followingBytes
    split
    · simp
    · split
      · have := ih (code * 64 + (b.toNat - 0x80)) ‹Nat› 0x80 0xBF
        simp only [List.length_cons]
        omega
      · simp

/-- The characters of a sequence of bytes, on top of those `taken`, which are backwards. -/
def readBytesOnto (taken : List Char) : List UInt8 → List Char
  | [] => taken.reverse
  | b :: rest =>
    if b < 0x80 then readBytesOnto (Char.ofNat b.toNat :: taken) rest
    else
      match leadByte? b.toNat with
      | none => readBytesOnto (replacement :: taken) rest
      | some (code, need, low, high) =>
        let c :=
          match (followingBytes code need low high rest).1 with
          | some code => Char.ofNat code
          | none => replacement
        readBytesOnto (c :: taken) (followingBytes code need low high rest).2
termination_by bytes => bytes.length
decreasing_by
  · simp
  · simp
  · have := length_followingBytes code need low high rest
    simp only [List.length_cons]
    omega

/-- The text of a sequence of bytes, whatever the bytes are. -/
def ofBytes (bytes : List UInt8) : String :=
  match String.fromUTF8? (ByteArray.mk bytes.toArray) with
  | some text => text
  | none => String.ofList (readBytesOnto [] bytes)

/-- The bytes of the UTF-8 form of a text. -/
def toBytes (text : String) : List UInt8 := text.toList.flatMap String.utf8EncodeChar

end Text

end SailNav
