import Std.Data.TreeMap
import SailNav.Index.Site
import SailNav.Text.Lowercase
import SailNav.Table

/-!
# The index of a workspace

The index answers two questions: where a name may be defined, and what a file defines. It keeps the
sites twice, by file and by name, and every change replaces all sites of one file in both. The sites
of a name are answered in the order of discovery, so the first of them is the definition discovered
first. They are kept the other way round, the latest first, because a site that comes in is mostly
the latest.

A file gets its ordinal when it is first indexed and keeps it as long as it is indexed. Indexing it
again therefore never changes its place among the other files; removing it does, since it comes back
as a new file.
-/

namespace SailNav

/-- What the index knows of a file. -/
structure IndexedFile where
  ordinal : Nat
  /-- In the order of the text. -/
  sites : List Site
  deriving DecidableEq, Repr, Inhabited

/-- The definitions of the files of a workspace. -/
structure Index where
  /-- The sites of every name that has some, the latest first. -/
  byName : Std.TreeMap String (List Site)
  files : Table FileId IndexedFile
  /-- The ordinal of the next new file. -/
  nextOrdinal : Nat

namespace Index

def empty : Index := ⟨{}, .empty, 0⟩

/-! ### The sites of a name -/

/-- Sites, the latest first, with one more at its place. -/
def insertSite (s : Site) (sites : List Site) : List Site :=
  sites.takeWhile s.precedes ++ s :: sites.dropWhile s.precedes

/-- Sites without those of the file with an ordinal, and nothing when none is left. -/
def removeOrdinal (ordinal : Nat) (sites : List Site) : Option (List Site) :=
  match sites.filter fun s => s.ordinal != ordinal with
  | [] => none
  | rest => some rest

/-- The names with a site added. -/
def attach (byName : Std.TreeMap String (List Site)) (s : Site) : Std.TreeMap String (List Site) :=
  byName.alter s.name fun sites => some (insertSite s (sites.getD []))

/-- The names without the sites that a name has in the file of a site. -/
def detach (byName : Std.TreeMap String (List Site)) (s : Site) : Std.TreeMap String (List Site) :=
  byName.alter s.name fun sites => sites.bind (removeOrdinal s.ordinal)

/-! ### Changing a file -/

/-- The names without the sites of a file. -/
def namesWithout (x : Index) (file : FileId) : Std.TreeMap String (List Site) :=
  match x.files.get? file with
  | some f => f.sites.foldl detach x.byName
  | none => x.byName

/-- The ordinal of a file, its own or else the next. -/
def ordinalOf (x : Index) (file : FileId) : Nat :=
  match x.files.get? file with
  | some f => f.ordinal
  | none => x.nextOrdinal

/-- The index with the definitions of a file replaced. -/
def upsert (x : Index) (file : FileId) (definitions : List Definition) : Index :=
  let ordinal := x.ordinalOf file
  let sites := Site.ofFile file ordinal definitions
  { byName := sites.foldl attach (x.namesWithout file)
    files := x.files.put file ⟨ordinal, sites⟩
    nextOrdinal := if x.files.contains file then x.nextOrdinal else x.nextOrdinal + 1 }

/-- The index without a file. -/
def remove (x : Index) (file : FileId) : Index :=
  { x with byName := x.namesWithout file, files := x.files.erase file }

/-! ### Asking -/

/-- The sites of a name, in the order of discovery. -/
def lookup (x : Index) (name : String) : List Site := ((x.byName.get? name).getD []).reverse

/-- The sites of a file, in the order of its text. -/
def sitesOf (x : Index) (file : FileId) : List Site :=
  match x.files.get? file with
  | some f => f.sites
  | none => []

/-- Whether a name contains a query, upper and lower case being the same. -/
def nameMatches (query : String) (name : String) : Bool :=
  Text.occursIn (Text.lowercase query.toList) (Text.lowercase name.toList)

/-- The first sites whose name contains a query: by name, and then in the order of discovery. -/
def search (x : Index) (query : String) (limit : Nat) : List Site :=
  let hits := x.byName.toList.filter fun entry => nameMatches query entry.1
  (hits.flatMap fun entry => entry.2.reverse).take limit

def containsFile (x : Index) (file : FileId) : Bool := x.files.contains file

/-- The files of the index, in the order of discovery. -/
def fileIds (x : Index) : List FileId := x.files.keys

def fileCount (x : Index) : Nat := x.files.size

def siteCount (x : Index) : Nat :=
  x.files.entries.foldl (fun n e => n + e.2.sites.length) 0

end Index

end SailNav
