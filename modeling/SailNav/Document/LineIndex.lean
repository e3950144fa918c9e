import SailNav.Text.Measure
import SailNav.Document.Position

/-!
# The lines of a text

A line ends behind its line feed, and the last line ends with the text; so there is always one
line more than there are line feeds. A line is kept with the byte offset at which it starts, and
that is all it takes to go from byte offsets to positions and back.

Both ways have to clamp, since not every offset is a position and not every position an offset. An
offset inside a character goes to the start of the character, and one past the end to the end of
the text (`LineIndex.positionOf`). A column inside a character outside the basic plane goes to the
end of the character, and one past the *content* of its line, that is, without the carriage
returns and line feeds at its end, goes to the end of the content (`LineIndex.offsetOf?`). Only a
position on a line that does not exist has no offset.
-/

namespace SailNav

/-- A line of a text, with its line feed, and the byte offset at which it starts. -/
structure Line where
  start : Nat
  text : List Char
  deriving DecidableEq, Repr, Inhabited

namespace Line

/-- Whether a character belongs to the end of a line. -/
def isEnding (c : Char) : Bool := c == '\n' || c == '\r'

/-- The line without the carriage returns and line feeds at its end. -/
def content (l : Line) : List Char := (l.text.reverse.dropWhile isEnding).reverse

end Line

/-- The lines of a text. -/
structure LineIndex where
  lines : List Line
  deriving DecidableEq, Repr, Inhabited

namespace LineIndex

/-- Cuts off lines: `current` is what was read of a line that starts at `start`, backwards, and
`taken` are the lines before it, backwards. -/
def cut (taken : List Line) (start : Nat) (current : List Char) : List Char → List Line
  | [] => (⟨start, current.reverse⟩ :: taken).reverse
  | '\n' :: rest =>
    let line := ('\n' :: current).reverse
    cut (⟨start, line⟩ :: taken) (start + Text.byteLength line) [] rest
  | c :: rest => cut taken start (c :: current) rest

/-- The lines of a text. -/
def ofText (text : String) : LineIndex := ⟨cut [] 0 [] text.toList⟩

def count (x : LineIndex) : Nat := x.lines.length

/-! ### From positions to offsets -/

/-- Number of bytes of the shortest prefix of a text that has at least `units` UTF-16 units, or of
the whole text if it has fewer; `bytes` is added to it. -/
def bytesForUnits (bytes : Nat) : (units : Nat) → List Char → Nat
  | _, [] => bytes
  | 0, _ => bytes
  | units + 1, c :: rest => bytesForUnits (bytes + c.utf8Size) (units + 1 - Text.unitSize c) rest

/-- The byte offset of a position, when its line exists. -/
def offsetOf? (x : LineIndex) (p : Position) : Option Nat :=
  x.lines[p.line]?.map fun l => bytesForUnits l.start p.column l.content

/-! ### From offsets to positions -/

/-- The number of the last line that starts at or before an offset, with the line itself: at least
the line `best`, the first of `lines` having the number `next`. -/
def lastStarting (offset : Nat) (best : Nat × Line) (next : Nat) : List Line → Nat × Line
  | [] => best
  | l :: rest => if l.start ≤ offset then lastStarting offset (next, l) (next + 1) rest else best

/-- The line that an offset lies in, with its number. -/
def lineAt (x : LineIndex) (offset : Nat) : Nat × Line :=
  lastStarting offset (0, ⟨0, []⟩) 0 x.lines

/-- The position of a byte offset. -/
def positionOf (x : LineIndex) (offset : Nat) : Position :=
  let (number, line) := x.lineAt offset
  ⟨number, Text.unitLength (Text.splitBytes (offset - line.start) line.text).1⟩

/-- The range of positions of a span. -/
def rangeOf (x : LineIndex) (first last : Nat) : Range := ⟨x.positionOf first, x.positionOf last⟩

end LineIndex

end SailNav
