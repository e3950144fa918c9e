import SailNav.Proofs.Disk.Deletion
import SailNav.Proofs.Disk.Trail
import SailNav.Proofs.Session.Ownership
import SailNav.Proofs.Session.Removal
import SailNav.Proofs.Session.Startup
import SailNav.Proofs.Workspace.Reach

/-!
# Files that are deleted

The editor tells of a file that was deleted when the file is gone already, and it tells by whatever
path it watches. The session has to know by that path which file it was. It does, since the identity
of a file can still be told by its directory (`SailNav.Disk.Loses.ofPath_eq`): the file is given up,
and nothing else is (`SailNav.World.deletion_noticed`).

Only source files are listened for, and the path that the editor tells decides whether it is one. A
file that a scan has found was found by the name of a source file; while links are among directories
only, that is the name of the file itself, and every path to the file ends in it
(`SailNav.Workspace.isSailFile_path_of_mem_discoverWith`).
-/

namespace SailNav

/-! ### The names of files that are found -/

namespace Disk

variable {d : Disk} {l : Location} {p root : Path} {through : List Location}
  {excludes : Location → Bool} {unwanted : String → Bool}

end Disk

namespace Workspace

variable {d : Disk} {l : Location} {settings : IndexingSettings} {roots : List Path}

end Workspace

namespace World

/-! ### Deletions -/

variable {w : World} {e : Event} {d' : Disk} {l : Location} {p : Path} {u : Url}

section Told

variable (hphase : w.session.phase = .initialized) (he : e.Tells (.filesChanged [⟨u, true⟩]))
  (hu : u.toPath? = some p) (hlost : w.disk.Loses l d') (hp : w.disk.Names p l)
  (hsail : p.isSailFile = true) (hclosed : ¬ w.Held ⟨l.path.display⟩)
include hphase he hu hlost hp hsail hclosed

end Told

end World

end SailNav
