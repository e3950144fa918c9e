import SailNav.Disk.Basic

/-!
# Walking a disk

A walk goes from a directory to everything in it, and on to everything in the directories it finds
there. Links are followed, so a walk can come to one place by several ways, and could go in circles.
It does not: a link is not followed to a directory that the walk is already inside of.

Why that is enough (`SailNav.Disk.filesBelow` ends): every link that is followed adds a directory to
those the walk is inside of, and between two links the walk goes down the tree.
-/

namespace SailNav

namespace Disk

/-! ### What is in a directory -/

/-- Something in a directory, links followed. -/
structure Child where
  name : String
  /-- Where it really is. -/
  location : Location
  /-- Whether a link stands in the directory in its place. -/
  linked : Bool
  deriving DecidableEq, Repr, Inhabited

/-- What stands under a name in the directory at a location, unless a link there leads nowhere. -/
def child? (d : Disk) (l : Location) (name : String) : Option Child :=
  match d.entry? (l ++ [name]) with
  | none => none
  | some (.link _) => (d.resolve (Location.path (l ++ [name]))).toOption.map (⟨name, ·, true⟩)
  | some _ => some ⟨name, l ++ [name], false⟩

/-- Everything in the directory at a location. -/
def children (d : Disk) (l : Location) : List Child := (d.namesIn l).filterMap (d.child? l)

/-- What is no link is in the directory itself. -/
theorem location_of_mem_children {d : Disk} {l : Location} {c : Child} (h : c ∈ d.children l)
    (hc : c.linked = false) : c.location = l ++ [c.name] := by
  obtain ⟨name, -, h⟩ := List.mem_filterMap.1 h
  unfold child? at h
  split at h
  · simp at h
  · obtain ⟨m, -, rfl⟩ := Option.map_eq_some_iff.1 h
    simp at hc
  · simp only [Option.some.injEq] at h
    subst h
    rfl

/-! ### Why a walk ends -/

/-- All directories of a disk. -/
def directories (d : Disk) : List Location :=
  [] :: (d.table.entries.filter fun e => e.2.isDirectory).map Prod.fst

/-- The length of the longest location of a disk. -/
def depth (d : Disk) : Nat := d.table.entries.foldr (fun e n => max e.1.length n) 0

theorem mem_entries_of_entry? {d : Disk} {l : Location} {e : Entry} (h : d.entry? l = some e)
    (hl : l ≠ []) : (l, e) ∈ d.table.entries := by
  unfold entry? at h
  split at h
  · exact absurd rfl hl
  · obtain ⟨⟨k, v⟩, hf, rfl⟩ := Option.map_eq_some_iff.1 h
    have hk := List.find?_some hf
    have hm := List.mem_of_find?_eq_some hf
    simp only [decide_eq_true_eq] at hk
    subst hk
    exact hm

theorem mem_directories {d : Disk} {l : Location} (h : d.entry? l = some .directory) :
    l ∈ d.directories := by
  by_cases hl : l = []
  · simp [directories, hl]
  · refine List.mem_cons_of_mem _ (List.mem_map.2 ⟨(l, .directory), ?_, rfl⟩)
    simpa [Entry.isDirectory] using mem_entries_of_entry? h hl

theorem length_le_depth {d : Disk} {l : Location} {e : Entry} (h : d.entry? l = some e) :
    l.length ≤ d.depth := by
  by_cases hl : l = []
  · simp [hl]
  · have hm := mem_entries_of_entry? h hl
    unfold depth
    generalize d.table.entries = entries at hm
    induction entries with
    | nil => simp at hm
    | cons x rest ih =>
      rcases List.mem_cons.1 hm with rfl | hm
      · exact Nat.le_max_left _ _
      · exact Nat.le_trans (ih hm) (Nat.le_max_right _ _)

/-- The directories that a walk is not inside of. -/
def outside (d : Disk) (above : List Location) : Nat := d.directories.countP fun l => l ∉ above

theorem outside_cons_le (d : Disk) (above : List Location) (l : Location) :
    d.outside (l :: above) ≤ d.outside above :=
  List.countP_mono_left fun m _ h => by simp_all

/-- Going inside a directory leaves one less outside. -/
theorem outside_cons_lt {d : Disk} {above : List Location} {l : Location}
    (hl : l ∈ d.directories) (h : l ∉ above) : d.outside (l :: above) < d.outside above := by
  unfold outside
  generalize d.directories = all at hl
  induction all with
  | nil => simp at hl
  | cons x rest ih =>
    have le : rest.countP (fun m => decide (m ∉ l :: above)) ≤
        rest.countP (fun m => decide (m ∉ above)) :=
      List.countP_mono_left fun m _ h => by simp_all
    rcases List.mem_cons.1 hl with rfl | hl
    · rw [List.countP_cons, List.countP_cons]
      simp only [List.mem_cons, true_or, not_true, decide_false, h, not_false_iff, decide_true]
      simp only [List.mem_cons] at le
      simp only [Bool.false_eq_true, if_false, if_true]
      omega
    · have lt := ih hl
      rw [List.countP_cons, List.countP_cons]
      have : (if decide (x ∉ l :: above) = true then 1 else 0) ≤
          (if decide (x ∉ above) = true then 1 else 0) := by
        by_cases hx : x ∈ above <;> simp [hx]
        split <;> omega
      omega

/-! ### The walk -/

/-- Something that a walk came across. -/
structure Visit where
  /-- The way of the walk. -/
  path : Path
  /-- Where that leads. -/
  location : Location
  deriving DecidableEq, Repr, Inhabited

/-- The visit of something in the directory of a visit. -/
def Visit.enter (v : Visit) (c : Child) : Visit := ⟨v.path.join (.ofString c.name), c.location⟩

/-- The files that a walk comes across inside the directory of a visit. `above` holds the
directories that the walk is inside of, that one included. A file or directory at an excluded
location is left out, and so is a directory under a name that is not wanted. -/
def filesBelow (d : Disk) (excludes : Location → Bool) (unwanted : String → Bool)
    (above : List Location) (v : Visit) : List Visit :=
  (d.children v.location).attach.flatMap fun ⟨c, _⟩ =>
    if excludes c.location then []
    else
      match _ : d.entry? c.location with
      | some (.file _) => [v.enter c]
      | some .directory =>
        if _ : unwanted c.name ∨ c.linked ∧ c.location ∈ above then []
        else filesBelow d excludes unwanted (c.location :: above) (v.enter c)
      | _ => []
termination_by (d.outside above, d.depth + 1 - v.location.length)
decreasing_by
  rename_i hc _ he hn
  by_cases hl : c.linked
  · refine Prod.Lex.left _ _ (outside_cons_lt (mem_directories he) fun hm => hn (Or.inr ⟨hl, hm⟩))
  · have hloc := location_of_mem_children hc (by simpa using hl)
    have hlen : c.location.length = v.location.length + 1 := by simp [hloc]
    have hle := length_le_depth he
    rcases Nat.lt_or_eq_of_le (outside_cons_le d above c.location) with h | h
    · exact Prod.Lex.left _ _ h
    · rw [h]
      refine Prod.Lex.right _ ?_
      show d.depth + 1 - c.location.length < d.depth + 1 - v.location.length
      omega

/-- The files that a walk from a path comes across: the file at the path, or the files inside the
directory at the path. The name of what is at the path itself is not looked at. -/
def walk (d : Disk) (excludes : Location → Bool) (unwanted : String → Bool) (p : Path) :
    List Visit :=
  match d.resolve p with
  | .error _ => []
  | .ok l =>
    if excludes l then []
    else
      match d.entry? l with
      | some (.file _) => [⟨p, l⟩]
      | some .directory => d.filesBelow excludes unwanted [l] ⟨p, l⟩
      | _ => []

end Disk

end SailNav
