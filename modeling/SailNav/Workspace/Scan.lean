import SailNav.Analysis.Basic
import SailNav.Document.Store
import SailNav.Progress.Basic
import SailNav.Settings.Basic
import SailNav.Workspace.Discover

/-!
# Scanning a workspace

A scan reads every source file of a workspace and puts what it finds into the analysis, in the order
in which the files were discovered. A file that is open in the editor stays as the editor has it,
and a file that cannot be read is passed over.

What is found of a file (`SailNav.Workspace.read`) depends on the disk and on what is open, and not
on the files before it.
-/

namespace SailNav

namespace Workspace

/-! ### What is found -/

/-- What a scan finds of a file. -/
inductive Finding where
  | fresh (text : String)
  /-- The editor has the file open. -/
  | held
  | failed (cause : LoadError)
  deriving DecidableEq, Repr, Inhabited

/-- What a scan finds of the file at a location. -/
def read (d : Disk) (documents : DocumentStore) (limit : Nat) (l : Location) : Finding :=
  match d.load l.path limit with
  | .error cause => .failed cause
  | .ok text => if documents.isOpenAt l.path then .held else .fresh text

/-- The source files of a workspace as the settings have it. -/
def discoverWith (d : Disk) (settings : IndexingSettings) (roots : List Path) : Discovery :=
  discover d roots (excludedPaths d roots settings.excludePaths) settings.maxFileSizeBytes

/-- What a scan finds of each of some files. -/
def readAll (d : Disk) (documents : DocumentStore) (limit : Nat) (files : List Location) :
    List (Location × Finding) :=
  files.map fun l => (l, read d documents limit l)

end Workspace

namespace Analysis

/-- The analysis with a finding in it. -/
def accept (d : Disk) (a : Analysis) (found : Location × Workspace.Finding) : Analysis :=
  match found.2 with
  | .fresh text => a.track (.ofPath d found.1.path) text
  | _ => a

/-- The analysis with all findings of a scan in it. -/
def acceptAll (d : Disk) (a : Analysis) (found : List (Location × Workspace.Finding)) : Analysis :=
  found.foldl (accept d) a

end Analysis

namespace Workspace

/-! ### What is told of it -/

/-- After how many files a scan reports. -/
def reportEvery : Nat := 5

/-- How many of some findings are of a kind. -/
def countOf (found : List (Location × Finding)) (kind : Finding → Bool) : Nat :=
  found.countP fun f => kind f.2

def Finding.isFresh : Finding → Bool
  | fresh _ => true
  | _ => false

def Finding.isHeld : Finding → Bool
  | held => true
  | _ => false

/-- How far a scan has come. -/
def progressText (part whole : Nat) : String := toString part ++ " / " ++ toString whole ++ " files"

/-- What happens when a file is found, as the file of a number among all files. -/
def foundEffects (token : ProgressToken) (whole : Nat) (found : Location × Finding)
    (number : Nat) : List Effect :=
  let failure :=
    match found.2 with
    | .failed cause => [.log (.scanFailed found.1.path cause)]
    | _ => []
  let report :=
    if number % reportEvery = 0 ∨ number = whole then
      token.report (some (progressText number whole)) (some (percentOf number whole))
    else []
  failure ++ report

/-- What happens in a scan that comes across files. `after` is the analysis at its end. -/
def scanEffects (token : ProgressToken) (found : List (Location × Finding)) (after : Analysis) :
    List Effect :=
  let whole := found.length
  let indexed := countOf found Finding.isFresh
  [.log (.scanBegun whole)] ++
    token.start (some (progressText 0 whole)) ++
    (found.zipIdx 1).flatMap (fun (f, number) => foundEffects token whole f number) ++
    [.log (.scanEnded indexed (countOf found Finding.isHeld) after.index.siteCount
      after.index.fileCount)] ++
    token.finish (some (toString indexed ++ " file(s) indexed"))

end Workspace

end SailNav
