import SailNav.Document.LineIndex

/-!
# Documents

A document is a text that is open in an editor, with the version that the editor gave it. It
changes by edits: an edit replaces the whole text, or the part in a range of positions. The edits of
a batch follow one upon another, so each is to be understood on the text as the edits before it left
it. An edit whose range does not fit that text, because a line is missing or the range ends before
it starts, is left out, and the others still count.
-/

namespace SailNav

/-- A replacement of a part of a text, or of the whole of it. -/
structure Edit where
  range : Option Range
  text : String
  deriving DecidableEq, Repr, Inhabited

/-- A text open in an editor. Its lines are kept with it, so that they are found once for each
version of the text. -/
structure Document where
  text : String
  version : Int
  lines : LineIndex
  deriving DecidableEq, Repr, Inhabited

namespace Document

/-- A document with a text. -/
def ofText (text : String) (version : Int) : Document := ⟨text, version, .ofText text⟩

def offsetOf? (d : Document) (p : Position) : Option Nat := d.lines.offsetOf? p

/-- A text with the bytes from one offset up to another replaced. -/
def splice (text : String) (first last : Nat) (new : String) : String :=
  let chars := text.toList
  String.ofList (Text.splitBytes first chars).1 ++ new ++
    String.ofList (Text.splitBytes last chars).2

/-- The document with another text. -/
def withText (d : Document) (text : String) : Document := .ofText text d.version

/-- The document after one edit. -/
def edit (d : Document) (e : Edit) : Document :=
  match e.range with
  | none => d.withText e.text
  | some range =>
    match d.offsetOf? range.start, d.offsetOf? range.stop with
    | some first, some last =>
      if first ≤ last then d.withText (splice d.text first last e.text) else d
    | _, _ => d

/-- The document after a batch of edits that lead to a version. -/
def change (d : Document) (edits : List Edit) (version : Int) : Document :=
  { edits.foldl edit d with version := version }

end Document

end SailNav
