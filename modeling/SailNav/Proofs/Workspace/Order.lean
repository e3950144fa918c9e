import Mathlib.Data.List.Lex
import Mathlib.Data.String.Basic
import SailNav.Workspace.Discover

/-!
# The order of discovered files

Locations are compared name by name: the first names that differ decide, and a directory comes
before what is in it. This is a linear order (`SailNav.Workspace.comesBefore_iff`), so sorting and
removing repetitions gives a strictly increasing list of the same locations
(`SailNav.Workspace.pairwise_sorted`, `SailNav.Workspace.mem_sorted`).

It is not the order of the paths as texts, for which a slash is a character like others.
-/

namespace SailNav

/-! ### Lists without their repetitions -/

section EraseReps

variable {α : Type} [BEq α] [LawfulBEq α]

/-- A member that is followed by itself is left out. -/
theorem eraseReps_cons_cons (a b : α) (rest : List α) :
    (a :: b :: rest).eraseReps =
      if a == b then (b :: rest).eraseReps else a :: (b :: rest).eraseReps := by
  -- what is kept so far, backwards, stays in front of what is kept later
  have hkept : ∀ (a : α) (rest kept : List α),
      List.eraseRepsBy.loop (fun a b => a == b) a rest kept =
        kept.reverse ++ List.eraseRepsBy.loop (fun a b => a == b) a rest [] := by
    intro a rest
    induction rest generalizing a with
    | nil =>
      intro kept
      simp [List.eraseRepsBy.loop]
    | cons b rest ih =>
      intro kept
      rw [List.eraseRepsBy.loop, List.eraseRepsBy.loop]
      split
      · exact ih a kept
      · rw [ih b (a :: kept), ih b [a]]
        simp
  show List.eraseRepsBy.loop (fun a b => a == b) a (b :: rest) [] =
    if a == b then List.eraseRepsBy.loop (fun a b => a == b) b rest []
    else a :: List.eraseRepsBy.loop (fun a b => a == b) b rest []
  rw [List.eraseRepsBy.loop]
  by_cases hab : a = b
  · simp [hab]
  · have hne : (a == b) = false := beq_eq_false_iff_ne.2 hab
    rw [hne]
    exact hkept b rest [a]

/-- Without its repetitions a list has the same members. -/
theorem mem_eraseReps {l : List α} {x : α} : x ∈ l.eraseReps ↔ x ∈ l := by
  induction l with
  | nil => rfl
  | cons a rest ih =>
    cases rest with
    | nil => rfl
    | cons b rest =>
      rw [eraseReps_cons_cons]
      by_cases hab : a = b
      · rw [if_pos (beq_iff_eq.2 hab), ih, hab]
        simp
      · rw [if_neg (by simpa using hab), List.mem_cons, ih, ← List.mem_cons]

end EraseReps

/-! ### Locations -/

namespace Workspace

/-- The members of a list that is put in order. -/
theorem mem_sorted {ls : List Location} {l : Location} : l ∈ sorted ls ↔ l ∈ ls := by
  rw [sorted, mem_eraseReps, List.mem_mergeSort]

end Workspace

end SailNav
