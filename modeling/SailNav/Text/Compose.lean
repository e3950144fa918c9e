import SailNav.Text.Blank
import SailNav.Text.CompositeTable
import SailNav.Text.MarkTable

/-!
# Composition

Many characters can be written in several ways: as one character, or as a letter with marks behind
it, and marks that do not touch one another in any order. `SailNav.Text.compose` writes a text in
the way that uses composite characters wherever it can, so texts that are seen alike become equal.
It takes every character apart, puts the marks in order, and puts the characters together again.

A syllable of Hangul is composed of two or three letters, and its code point is computed from
theirs.
-/

namespace SailNav

namespace Text

/-- Whether a character is a mark, which belongs to the character before it. -/
def isMark (c : Char) : Bool := inRanges markRanges c.toNat

/-- The combining class of a character. Characters of class zero do not change places. -/
def combiningClass (c : Char) : Nat :=
  match combiningClasses.find? fun (first, last, _) => first ≤ c.toNat && c.toNat ≤ last with
  | some (_, _, k) => k
  | none => 0

/-! ### Composites -/

/-- Whether a character is a syllable of Hangul. -/
def isSyllable (c : Char) : Bool := 0xAC00 ≤ c.toNat && c.toNat ≤ 0xD7A3

/-- The two characters that a character is composed of. -/
def parts? (c : Char) : Option (Char × Char) :=
  if isSyllable c then
    let i := c.toNat - 0xAC00
    if i % 28 = 0 then
      some (Char.ofNat (0x1100 + i / 588), Char.ofNat (0x1161 + i % 588 / 28))
    else some (Char.ofNat (c.toNat - i % 28), Char.ofNat (0x11A7 + i % 28))
  else
    (composites.find? fun (whole, _, _) => whole == c.toNat).map fun (_, a, b) =>
      (Char.ofNat a, Char.ofNat b)

/-- The character that two characters in a row compose. -/
def whole? (a b : Char) : Option Char :=
  if 0x1100 ≤ a.toNat ∧ a.toNat ≤ 0x1112 ∧ 0x1161 ≤ b.toNat ∧ b.toNat ≤ 0x1175 then
    some (Char.ofNat (0xAC00 + (a.toNat - 0x1100) * 588 + (b.toNat - 0x1161) * 28))
  else if isSyllable a ∧ (a.toNat - 0xAC00) % 28 = 0 ∧ 0x11A8 ≤ b.toNat ∧ b.toNat ≤ 0x11C2 then
    some (Char.ofNat (a.toNat + (b.toNat - 0x11A7)))
  else
    (composites.find? fun (_, first, second) => first == a.toNat && second == b.toNat).map
      fun (whole, _, _) => Char.ofNat whole

/-! ### The three steps -/

/-- A character taken apart, and its first part again, so many times. -/
def partsOf : (times : Nat) → Char → List Char
  | 0, c => [c]
  | times + 1, c =>
    match parts? c with
    | some (a, b) => partsOf times a ++ [b]
    | none => [c]

/-- A text taken apart. No character has to be taken apart more than four times. -/
def decompose (text : List Char) : List Char := text.flatMap (partsOf 4)

/-- Puts a character with its class behind others, which are backwards: in front of those of higher
classes, as long as it is a mark itself. -/
def insertByClass (item : Nat × Char) : List (Nat × Char) → List (Nat × Char)
  | [] => [item]
  | before :: rest =>
    if 0 < item.1 ∧ item.1 < before.1 then before :: insertByClass item rest
    else item :: before :: rest

/-- Characters with their classes, the marks in a row in the order of their classes. -/
def sortMarks (text : List Char) : List (Nat × Char) :=
  (text.foldl (fun taken c => insertByClass (combiningClass c, c) taken) []).reverse

/-- What is known while a text is put together. The lists are backwards. -/
structure Composing where
  /-- What does not change any more. -/
  done : List Char
  /-- The last character of class zero, which may still take marks in. -/
  base : Option Char
  /-- The marks that stand behind the base. -/
  marks : List (Nat × Char)

namespace Composing

/-- What is composed so far, backwards. -/
def taken (s : Composing) : List Char := s.marks.map Prod.snd ++ s.base.toList ++ s.done

/-- Whether a character of a class reaches the base past the marks in between. -/
def reaches (s : Composing) (k : Nat) : Bool :=
  match s.marks with
  | [] => true
  | (last, _) :: _ => last < k

/-- Takes the next character, with its class. -/
def step (s : Composing) (item : Nat × Char) : Composing :=
  match if s.reaches item.1 then s.base.bind fun a => whole? a item.2 else none with
  | some whole => { s with base := some whole }
  | none =>
    if item.1 = 0 then ⟨s.taken, some item.2, []⟩ else { s with marks := item :: s.marks }

end Composing

/-- A text with composite characters wherever there are some. -/
def compose (text : List Char) : List Char :=
  if text.all fun c => c.toNat < 0x80 then text
  else ((sortMarks (decompose text)).foldl Composing.step ⟨[], none, []⟩).taken.reverse

end Text

end SailNav
