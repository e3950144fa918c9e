import SailNav.Disk.Walk

/-!
# The source files of a workspace

A workspace is the files below its roots. Its source files are those whose names end in `.sail`,
found by a walk from every root. The walk stays out of hidden directories, of directories that hold
what tools have made, and of everything that the settings exclude.

A file found by several ways is one file. The files come in the order of their locations, so neither
the order of the roots nor that of the names in a directory makes a difference.
-/

namespace SailNav

namespace Workspace

/-! ### What is left out -/

/-- Names of directories that hold what tools have made. -/
def toolDirectories : List String := ["target", "build", "_build", "node_modules", "_opam", "out"]

/-- Whether a directory of this name is left out. -/
def isUnwanted (name : String) : Bool := name.toList.head? == some '.' || name ∈ toolDirectories

/-- The paths that the settings exclude. A path that is not absolute counts in every root. -/
def excludedPaths (d : Disk) (roots : List Path) (excluded : List String) : List Path :=
  (excluded.flatMap fun text =>
    let p := Path.ofString text
    if p.isAbsolute then [p] else roots.map (·.join p)).map d.normalize

/-- Whether a location is at or below one of some paths. -/
def isBelow (paths : List Path) (l : Location) : Bool := paths.any l.path.startsWith

/-! ### What is found -/

/-- The files of a workspace. -/
structure Discovery where
  /-- In order and without repetition. -/
  files : List Location
  /-- The source files that are too large, each time one was found, with their sizes. -/
  tooLarge : List (Path × Nat)
  deriving DecidableEq, Repr, Inhabited

/-- The size of the file at a location. -/
def sizeAt (d : Disk) (l : Location) : Nat :=
  match d.entry? l with
  | some (.file content) => content.size
  | _ => 0

/-- The source files that a walk from every root comes across. -/
def sourceVisits (d : Disk) (roots excluded : List Path) : List Disk.Visit :=
  (roots.flatMap fun root => d.walk (isBelow excluded) isUnwanted root).filter
    fun v => v.path.isSailFile

/-- Whether a location comes before another or is the same: the first names that differ decide, and
a directory comes before what is in it. -/
def comesBefore : Location → Location → Bool
  | [], _ => true
  | _ :: _, [] => false
  | a :: k, b :: l => if a = b then comesBefore k l else decide (a < b)

/-- Locations in order and without repetition. -/
def sorted (ls : List Location) : List Location := (ls.mergeSort comesBefore).eraseReps

/-- The source files below some roots. -/
def discover (d : Disk) (roots excluded : List Path) (limit : Nat) : Discovery :=
  let (tooLarge, wanted) :=
    (sourceVisits d roots excluded).partition fun v => limit < sizeAt d v.location
  ⟨sorted (wanted.map Disk.Visit.location),
   tooLarge.map fun v => (v.path, sizeAt d v.location)⟩

/-- Whether the file of a path is below one of some roots. -/
def isUnder (d : Disk) (roots : List Path) (p : Path) : Bool :=
  let p := d.normalize p
  roots.any fun root => p.startsWith (d.normalize root)

end Workspace

end SailNav
