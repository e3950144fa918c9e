import SailNav.Text.Blank
import SailNav.Text.CaseTable

/-!
# Lower case

The full lower-case form of a text. Nearly every character is changed on its own, by the table
`lowercaseRuns`; one capital has a form of two characters, the dotted `İ`; and one looks at its
neighbours, the capital sigma, which is written `ς` at the end of a word and `σ` elsewhere.
A text may therefore grow, and the form of a text is not the list of the forms of its
characters.

A sigma ends a word when there is a cased character before it and none after it, characters with
the property `Case_Ignorable` being passed over on both sides (`endsWord`).
-/

namespace SailNav

namespace Text

/-! ### One character -/

/-- The image of a code point by a table of runs. -/
def imageIn? (runs : List (Nat × Nat × Nat × Nat)) (n : Nat) : Option Nat :=
  (runs.find? fun (first, last, step, _) =>
    first ≤ n && n ≤ last && (n - first) % step == 0).map
      fun (first, _, _, image) => image + (n - first)

/-- The lower-case form of a character that does not look at its neighbours. -/
def lowercaseChar (c : Char) : Char :=
  if c.toNat < 0x80 then c.toLower
  else
    match imageIn? lowercaseRuns c.toNat with
    | some n => Char.ofNat n
    | none => c

/-- Characters that have a case. -/
def isCased (c : Char) : Bool := inRanges casedRanges c.toNat

/-- Characters passed over in the search for a cased neighbour. -/
def isCaseIgnorable (c : Char) : Bool := inRanges caseIgnorableRanges c.toNat

/-! ### The sigma at the end of a word -/

/-- Whether the first character of a text that is not case-ignorable is cased. -/
def startsCased (text : List Char) : Bool :=
  match text.find? (!isCaseIgnorable ·) with
  | some c => isCased c
  | none => false

/-- Whether a letter between two texts ends a word. The text before it is given backwards. -/
def endsWord (before after : List Char) : Bool := startsCased before && !startsCased after

/-- The lower-case form of a character, given the text before it backwards and the text after
it. -/
def lowercaseBetween (before : List Char) (c : Char) (after : List Char) : List Char :=
  if c = 'Σ' then [if endsWord before after then 'ς' else 'σ']
  else if c = 'İ' then ['i', '\u0307']
  else [lowercaseChar c]

/-- The lower-case form of a text, put on top of the form of the text before it; both `before`
and the result are backwards. -/
def lowercaseOnto : (before form : List Char) → List Char → List Char
  | _, form, [] => form
  | before, form, c :: after =>
    lowercaseOnto (c :: before) ((lowercaseBetween before c after).reverse ++ form) after

/-- The lower-case form of a text. -/
def lowercase (text : List Char) : List Char := (lowercaseOnto [] [] text).reverse

/-! ### Searching -/

/-- Whether one text occurs in another. -/
def occursIn (part : List Char) : List Char → Bool
  | [] => part.isEmpty
  | c :: text => part.isPrefixOf (c :: text) || occursIn part text

end Text

end SailNav
