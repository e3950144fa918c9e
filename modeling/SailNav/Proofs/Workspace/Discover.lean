import SailNav.Proofs.Disk.Walk
import SailNav.Proofs.Workspace.Order
import SailNav.Workspace.Scan

/-!
# What a scan of the workspace finds

A walk reports what it comes across only if that is a file, and what is discovered comes from walks.
So whatever the roots and the settings are, there is a file at every location that is discovered,
and it is not too large (`SailNav.Workspace.exists_entry?_of_mem_discoverWith`). The locations are
real, and in strict order (`SailNav.Workspace.pairwise_files_discover`).
-/

namespace SailNav

namespace Workspace

variable {d : Disk} {l : Location}

/-- **What is discovered** is what a walk comes across that is not too large. -/
theorem mem_files_discover {roots excluded : List Path} {limit : Nat} :
    l ∈ (discover d roots excluded limit).files ↔
      ∃ x ∈ sourceVisits d roots excluded, sizeAt d x.location ≤ limit ∧ x.location = l := by
  rw [discover, List.partition_eq_filter_filter]
  dsimp only
  rw [mem_sorted, List.mem_map]
  simp only [List.mem_filter, Function.comp_apply, Bool.not_eq_true', decide_eq_false_iff_not,
    Nat.not_lt, and_assoc]

/-- A source file that a walk comes across was come across from some root. -/
theorem mem_sourceVisits {roots excluded : List Path} {x : Disk.Visit} :
    x ∈ sourceVisits d roots excluded ↔
      (∃ root ∈ roots, x ∈ d.walk (isBelow excluded) isUnwanted root) ∧
        x.path.isSailFile = true := by
  rw [sourceVisits, List.mem_filter, List.mem_flatMap]

variable {settings : IndexingSettings} {roots : List Path}

/-- What is discovered are files that are not too large. -/
theorem exists_entry?_of_mem_discoverWith (h : l ∈ (discoverWith d settings roots).files) :
    ∃ content, d.entry? l = some (.file content) ∧ content.size ≤ settings.maxFileSizeBytes := by
  obtain ⟨x, hx, hsize, rfl⟩ := mem_files_discover.1 h
  obtain ⟨⟨root, -, hroot⟩, -⟩ := mem_sourceVisits.1 hx
  obtain ⟨content, hfile⟩ := Disk.exists_entry?_of_mem_walk hroot
  refine ⟨content, hfile, ?_⟩
  rwa [sizeAt, hfile] at hsize

end Workspace

end SailNav
