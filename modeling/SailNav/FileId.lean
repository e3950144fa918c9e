import SailNav.Disk.Basic
import SailNav.Url.FilePath

/-!
# The identity of a document

A document that is a file is known by its path, as the disk knows it, so that every spelling of the
path leads to the same document. A document that is no file is known by its URL.
-/

namespace SailNav

/-- The identity of a document: the path of a file, or a URL. -/
structure FileId where
  text : String
  deriving DecidableEq, Repr, Inhabited

namespace FileId

/-- The identity of the file that a path leads to. -/
def ofPath (d : Disk) (p : Path) : FileId := ⟨(d.normalize p).display⟩

/-- The identity of the document that a URL names. -/
def ofUrl (d : Disk) (u : Url) : FileId :=
  match u.toPath? with
  | some p => ofPath d p
  | none => ⟨u.text⟩

/-- The path of a file, by its identity. -/
def toPath? (f : FileId) : Option Path :=
  let p := Path.ofString f.text
  if p.isAbsolute then some p else none

/-- The URL of a document, by its identity. -/
def toUrl? (f : FileId) : Option Url :=
  match f.toPath? with
  | some p => Url.ofPath? p
  | none => Url.parse? f.text

end FileId

end SailNav
