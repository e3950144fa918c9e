import SailNav.FileId
import SailNav.Table

/-!
# Files in order

A *roster* is a list of files with something known of each. It is what the tables of a workspace are
about when one leaves aside how they are kept: a file whose value is set stays where it stands, a
new one comes at the end, and one that is dropped and set again is new
(`SailNav.Roster.entries_put`).
-/

namespace SailNav

/-- Files in the order in which they came, with something known of each. -/
abbrev Roster (V : Type) := List (FileId × V)

namespace Roster

variable {V W : Type}

/-- The roster with the value of a file set: in place when the file is there, else at the end. -/
def set (r : Roster V) (file : FileId) (v : V) : Roster V :=
  if file ∈ r.map Prod.fst then r.map fun e => if e.1 = file then (file, v) else e
  else r ++ [(file, v)]

/-- The roster without a file. -/
def drop (r : Roster V) (file : FileId) : Roster V := r.filter fun e => e.1 ≠ file

/-- The roster with a function applied to every value. -/
def mapValues (f : V → W) (r : Roster V) : Roster W := r.map fun e => (e.1, f e.2)

/-- Other values, the same files. -/
theorem map_fst_mapValues (f : V → W) (r : Roster V) :
    (r.mapValues f).map Prod.fst = r.map Prod.fst := by
  simp [mapValues]

/-- To set a value and then to apply a function is to set what the function gives. -/
theorem mapValues_set (f : V → W) (r : Roster V) (file : FileId) (v : V) :
    (r.set file v).mapValues f = (r.mapValues f).set file (f v) := by
  unfold set
  rw [map_fst_mapValues]
  split
  · simp only [mapValues, List.map_map]
    refine List.map_congr_left fun e _ => ?_
    by_cases he : e.1 = file <;> simp [he]
  · simp [mapValues]

/-- A file can be dropped before or after a function is applied. -/
theorem mapValues_drop (f : V → W) (r : Roster V) (file : FileId) :
    (r.drop file).mapValues f = (r.mapValues f).drop file := by
  simp only [mapValues, drop, List.filter_map]
  rfl

/-- A table whose keys come once sets values as a roster does. -/
theorem entries_put {t : Table FileId V} (h : t.keys.Nodup) (file : FileId) (v : V) :
    (t.put file v).entries = set t.entries file v := by
  by_cases hfile : file ∈ t.keys
  · exact (Table.entries_put_of_mem h hfile v).trans (if_pos hfile).symm
  · exact (Table.entries_put_of_not_mem hfile v).trans (if_neg hfile).symm

end Roster

end SailNav
