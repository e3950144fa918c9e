import SailNav.Definition.Extract
import SailNav.Document.LineIndex
import SailNav.Index.Basic
import SailNav.Token.Cursor

/-!
# The analysis of a workspace

What is known of every tracked file: a *snapshot* of one version of its text, with tokens and lines,
and its sites in the index. Both are always of the same version, and are replaced together
(`SailNav.Analysis.install`). Where the text comes from, an editor or a disk, makes no
difference here.
-/

namespace SailNav

/-- One version of a file. -/
structure Snapshot where
  text : String
  tokens : TokenStream
  lines : LineIndex
  deriving DecidableEq, Repr, Inhabited

/-- A version of a file that is read but not yet installed. -/
structure ParsedFile where
  snapshot : Snapshot
  definitions : List Definition
  deriving DecidableEq, Repr, Inhabited

namespace ParsedFile

/-- Reads a text. -/
def ofText (text : String) : ParsedFile :=
  let tokens := tokenize text
  ⟨⟨text, tokens, .ofText text⟩, extract tokens⟩

end ParsedFile

/-- The tracked files. -/
structure Analysis where
  files : Table FileId Snapshot
  index : Index

namespace Analysis

def empty : Analysis := ⟨.empty, .empty⟩

def snapshot? (a : Analysis) (file : FileId) : Option Snapshot := a.files.get? file

def isTracked (a : Analysis) (file : FileId) : Bool := a.files.contains file

/-- The tracked files, in the order of discovery. -/
def trackedFiles (a : Analysis) : List FileId := a.index.fileIds

/-! ### Changing a file -/

/-- The analysis with a version of a file installed. -/
def install (a : Analysis) (file : FileId) (parsed : ParsedFile) : Analysis where
  files := a.files.put file parsed.snapshot
  index := a.index.upsert file parsed.definitions

/-- Installs a version of a file unless it is to be skipped. -/
def installUnless (a : Analysis) (file : FileId) (parsed : ParsedFile) (skip : Bool) : Analysis :=
  if skip then a else a.install file parsed

/-- The analysis with a file tracked with a text. -/
def track (a : Analysis) (file : FileId) (text : String) : Analysis :=
  a.install file (.ofText text)

/-- The analysis without a file. Both the snapshot and the sites are given up, whether or not there
is a snapshot. -/
def close (a : Analysis) (file : FileId) : Analysis where
  files := a.files.erase file
  index := a.index.remove file

end Analysis

end SailNav
