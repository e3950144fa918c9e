import SailNav.Text.Compose
import SailNav.Text.Lowercase
import SailNav.Text.Split
import SailNav.Url.Domain.DirectionTable
import SailNav.Url.Domain.ImageTable
import SailNav.Url.Domain.JoiningTable
import SailNav.Url.Domain.RefusedTable
import SailNav.Url.Domain.SequenceTable
import SailNav.Url.Punycode

/-!
# Domains

The ASCII form of the name of a machine. Variants of a letter are the same in a domain, so every
character is first replaced by its image (`imagesOf?`) and the text is composed. The labels between
the dots are then written in ASCII, those with other characters by punycode behind the tag `xn--`
(`toAscii?`).

A label with the tag has to be the form of some label, and a label must not begin with a mark,
contain a joiner between letters that are not joined, or mix the directions of writing.
-/

namespace SailNav

namespace Url

namespace Domain

/-! ### Characters -/

/-- The entry of a code point in a table of rows. -/
def entryIn? {α : Type} (rows : List (Nat × List α)) (n : Nat) : Option α :=
  rows.findSome? fun (first, images) => if first ≤ n then images[n - first]? else none

/-- What stands in a domain for a character that does not stand for itself. -/
def replacement? (n : Nat) : Option (List Nat) :=
  if Text.inRanges ignoredRanges n then some []
  else
    let one := (Text.imageIn? imageRuns n).orElse fun _ =>
      (entryIn? letterImages n).orElse fun _ =>
        (entryIn? ideographImages n).orElse fun _ => entryIn? variantImages n
    match one with
    | some image => some [image]
    | none => (entryIn? letterSequences n).orElse fun _ => entryIn? variantSequences n

/-- The characters that stand in a domain for a character, if a domain can contain it. -/
def imagesOf? (c : Char) : Option (List Char) :=
  if c.toNat < 0x80 then some [c.toLower]
  else
    match replacement? c.toNat with
    | some images => some (images.map Char.ofNat)
    | none => if Text.inRanges refusedRanges c.toNat then none else some [c]

/-- ASCII characters that no domain contains. -/
def isForbidden (c : Char) : Bool :=
  c.toNat ≤ 0x20 || c.toNat == 0x7F || "#%/:<>?@[\\]^|".toList.contains c

/-- A text with the images of its characters, composed. -/
def images? (text : List Char) : Option (List Char) := do
  let composed := Text.compose (← text.mapM imagesOf?).flatten
  if composed.any isForbidden then none else some composed

/-! ### Joiners -/

/-- Whether the letter next to a joiner, marks passed over, is one of some ranges. -/
def meets (ranges : List (Nat × Nat)) (text : List Char) : Bool :=
  match text.find? fun c => !Text.inRanges transparentRanges c.toNat with
  | some c => Text.inRanges ranges c.toNat
  | none => false

/-- Whether a joiner may stand between two texts; the text before it is given backwards. A joiner
may follow a sign that takes the vowel from a letter, and the one that separates may stand between
letters that would be joined. -/
def joinerFits (c : Char) (before after : List Char) : Bool :=
  match before with
  | [] => false
  | previous :: _ =>
    Text.combiningClass previous == 9 ||
      c == '\u200c' && meets (joinedBothRanges ++ joinedAfterRanges) before &&
        meets (joinedBothRanges ++ joinedBeforeRanges) after

/-- Whether all joiners of a text fit, behind a text that is given backwards. -/
def joinersFit (before : List Char) : List Char → Bool
  | [] => true
  | c :: after =>
    (!(c == '\u200c' || c == '\u200d') || joinerFits c before after) &&
      joinersFit (c :: before) after

/-! ### Directions -/

/-- The part that a character takes in the direction of writing. -/
inductive Direction where
  | leftToRight
  | rightToLeft
  | arabicNumber
  | number
  /-- The direction of the character before it. -/
  | carried
  | neutral
  deriving DecidableEq, Repr, Inhabited

def directionOf (c : Char) : Direction :=
  let n := c.toNat
  if Text.inRanges rightToLeftRanges n then .rightToLeft
  else if Text.inRanges arabicNumberRanges n then .arabicNumber
  else if Text.inRanges numberRanges n then .number
  else if Text.inRanges carriedRanges n then .carried
  else if Text.inRanges neutralRanges n then .neutral
  else .leftToRight

/-- Whether a character makes a domain one in which directions are mixed. -/
def Direction.turns (d : Direction) : Bool := d == .rightToLeft || d == .arabicNumber

/-- Whether a label of a domain with mixed directions has one direction itself. -/
def hasDirection (label : List Direction) : Bool :=
  match label with
  | [] => true
  | first :: _ =>
    let last := ((label.reverse.dropWhile (· == .carried)).head?).getD first
    match first with
    | .leftToRight =>
      !label.any Direction.turns && (last == .leftToRight || last == .number)
    | .rightToLeft =>
      !label.contains .leftToRight && (last.turns || last == .number) &&
        !(label.contains .number && label.contains .arabicNumber)
    | _ => false

/-- Whether every label of a domain has one direction, if that matters. -/
def directionsFit (labels : List (List Char)) : Bool :=
  let directions := labels.map fun label => label.map directionOf
  !directions.any (·.any Direction.turns) || directions.all hasDirection

/-! ### Labels -/

/-- The tag of a label that is written by punycode. -/
def tag : List Char := "xn--".toList

/-- The longest label, in characters, that is not ASCII, and the longest form of one. -/
def longestLabel : Nat := 1000
def longestForm : Nat := 2000

def isAscii (text : List Char) : Bool := text.all fun c => c.toNat < 0x80

/-- The label that a form of a label stands for: the label that has this form if it bears the tag,
else itself. -/
def labelOf? (form : List Char) : Option (List Char) :=
  if tag.isPrefixOf form then
    let code := form.drop tag.length
    if isAscii code ∧ form.getLast? ≠ some '-' ∧ code.length ≤ longestForm then do
      let label ← Punycode.decode? code
      if images? label = some label ∧ !label.contains '.' then some label else none
    else none
  else some form

/-- Whether a label may stand in a domain, apart from its directions. -/
def fits (label : List Char) : Bool :=
  isAscii label ||
    !label.head?.any Text.isMark && joinersFit [] label && label.length ≤ longestLabel

/-- The ASCII form of a label. -/
def formOf (label : List Char) : List Char :=
  if isAscii label then label else tag ++ Punycode.encode label

/-- The ASCII form of a domain, if the text is one. -/
def toAscii? (text : List Char) : Option (List Char) := do
  let labels ← (Text.splitOn '.' (← images? text)).mapM labelOf?
  if labels.all fits ∧ directionsFit labels then
    some (List.intersperse ['.'] (labels.map formOf)).flatten
  else none

end Domain

end Url

end SailNav
