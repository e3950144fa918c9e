import SailNav.Document.Basic
import SailNav.Table
import SailNav.Url.FilePath

/-!
# The open documents

The documents that are open in the editor, under the URLs by which the editor knows them. The URL
decides, not the file: two URLs of one file are two documents.
-/

namespace SailNav

/-- The documents open in an editor. -/
structure DocumentStore where
  documents : Table Url Document
  deriving DecidableEq, Repr, Inhabited

namespace DocumentStore

def empty : DocumentStore := ⟨.empty⟩

def get? (s : DocumentStore) (u : Url) : Option Document := s.documents.get? u

def text? (s : DocumentStore) (u : Url) : Option String := (s.get? u).map Document.text

def isOpen (s : DocumentStore) (u : Url) : Bool := s.documents.contains u

/-- Whether the editor has the file of a path open, under the URL that is made of the path. -/
def isOpenAt (s : DocumentStore) (p : Path) : Bool := (Url.ofPath? p).any s.isOpen

/-- The store with a document opened, in place of one that was open under its URL. -/
def openDocument (s : DocumentStore) (u : Url) (text : String) (version : Int) : DocumentStore :=
  ⟨s.documents.put u (.ofText text version)⟩

/-- The store with a document changed, if it is open. -/
def change (s : DocumentStore) (u : Url) (edits : List Edit) (version : Int) : DocumentStore :=
  match s.get? u with
  | some d => ⟨s.documents.put u (d.change edits version)⟩
  | none => s

def close (s : DocumentStore) (u : Url) : DocumentStore := ⟨s.documents.erase u⟩

/-- The URLs of the open documents, in the order of their texts. -/
def openUrls (s : DocumentStore) : List Url :=
  s.documents.keys.mergeSort fun u v => u.text ≤ v.text

/-! ### Which text a document has -/

variable {s : DocumentStore} {u v : Url}

/-- Opening a document gives it its text and changes no other. -/
theorem text?_openDocument (text : String) (version : Int) :
    (s.openDocument u text version).text? v = if u = v then some text else s.text? v := by
  unfold text? get? openDocument
  dsimp only
  rw [Table.get?_put]
  split <;> rfl

/-- Closing a document takes its text away and changes no other. -/
theorem text?_close : (s.close u).text? v = if u = v then none else s.text? v := by
  unfold text? get? close
  dsimp only
  rw [Table.get?_erase]
  split <;> rfl

/-- A document that has a text is open. -/
theorem isOpen_of_text? {text : String} (h : s.text? u = some text) : s.isOpen u = true := by
  obtain ⟨document, hget, -⟩ := Option.map_eq_some_iff.1 h
  exact Option.isSome_iff_exists.2 ⟨document, hget⟩

/-- A document is open exactly when it has a text. -/
theorem isOpen_iff : s.isOpen u = true ↔ ∃ text, s.text? u = some text := by
  constructor
  · intro h
    obtain ⟨document, hdocument⟩ := Option.isSome_iff_exists.1 h
    exact ⟨document.text, Option.map_eq_some_iff.2 ⟨document, hdocument, rfl⟩⟩
  · rintro ⟨text, htext⟩
    exact isOpen_of_text? htext

/-- A document is open at every path that is made into its URL. -/
theorem isOpenAt_of_text? {p : Path} {text : String} (hp : Url.ofPath? p = some u)
    (h : s.text? u = some text) : s.isOpenAt p = true := by
  rw [isOpenAt, hp, Option.any_some]
  exact isOpen_of_text? h

/-- Changing a document changes no other. -/
theorem text?_change_of_ne (h : u ≠ v) (edits : List Edit) (version : Int) :
    (s.change u edits version).text? v = s.text? v := by
  unfold change
  split
  · exact congrArg (Option.map Document.text) (Table.get?_put_of_ne _ h _)
  · rfl

/-- Changing a document that is not open changes nothing. -/
theorem change_of_text?_eq_none {edits : List Edit} {version : Int}
    (h : (s.change u edits version).text? u = none) : s.change u edits version = s := by
  unfold change at h ⊢
  split at h
  · simp [text?, get?] at h
  · rfl

end DocumentStore

end SailNav
