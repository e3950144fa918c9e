import Mathlib.Data.List.Sort
import SailNav.Proofs.Disk.Trail
import SailNav.Proofs.Workspace.Discover

/-!
# Which files are in a workspace

The source files of a workspace are told by the trails from its roots: a file is one exactly when
some trail ends there by a name that ends in `.sail`, and the file is not too large
(`SailNav.Workspace.discover_exact`). This holds on every disk, with links that go in circles or
lead nowhere.

A list in strict order is known by its members, so nothing else about the roots matters: not their
order, not how often each is there, and not whether one is inside of another. It does not matter
either in which order directories give their names.
-/

namespace SailNav

namespace Workspace

variable {d d' : Disk} {l m : Location} {roots others excluded : List Path} {limit : Nat}

/-- **A source file of a workspace**: a trail from one of the roots ends there, out of all that is
excluded and of directories that are not wanted, in the name of a source file, and the file is not
too large. -/
def IsSource (d : Disk) (roots excluded : List Path) (limit : Nat) (l : Location) : Prop :=
  ∃ root ∈ roots, ∃ through p content, d.Trail (isBelow excluded) isUnwanted root through p l ∧
    p.isSailFile = true ∧ d.entry? l = some (.file content) ∧ content.size ≤ limit

/-- More roots give more source files. -/
theorem IsSource.mono (h : roots ⊆ others) (hl : IsSource d roots excluded limit l) :
    IsSource d others excluded limit l := by
  obtain ⟨root, hroot, hl⟩ := hl
  exact ⟨root, h hroot, hl⟩

/-- The source files of a workspace depend only on what is at each location of the disk. -/
theorem IsSource.congr (h : ∀ l, d'.entry? l = d.entry? l)
    (hl : IsSource d roots excluded limit l) : IsSource d' roots excluded limit l := by
  obtain ⟨root, hroot, through, p, content, htrail, hsail, hfile, hsize⟩ := hl
  exact ⟨root, hroot, through, p, content, htrail.congr h, hsail, h l ▸ hfile, hsize⟩

end Workspace

end SailNav
