import SailNav.Proofs.Disk.Tree
import SailNav.Disk.Walk
import SailNav.Workspace.Load

/-!
# Paths of locations

A location is where something really is, and its path should lead there. It does if the location is
*real*, that is, if it stands in directories all the way down from the root
(`SailNav.Disk.resolve_path_eq_ok_iff`), unless the path is too long for the system to take: links
can lead to a location that is deeper than any path can reach. Whatever a path leads to is real
(`SailNav.Disk.isReal_of_resolve`).

Hence what is read of a real file, and the identity by which it is known, do not depend on the way
on which it was found (`SailNav.Disk.load_path_eq_ok_iff`, `SailNav.Disk.normalize_path_of_isReal`).
-/

namespace SailNav

/-! ### Names that a disk can take -/

instance : DecidablePred Path.IsName := fun bytes =>
  inferInstanceAs (Decidable (Path.slash ∉ bytes ∧ Path.component? bytes = some (.name bytes)))

/-- **A location is proper**: its names are names, and the system takes them. -/
def Location.IsProper (l : Location) : Prop :=
  ∀ name ∈ l, Path.IsName (Text.toBytes name) ∧ 0 ∉ Text.toBytes name ∧
    (Text.toBytes name).length ≤ Disk.nameLimit

/-- The path of a location is not longer than the system takes it. -/
def Location.IsShort (l : Location) : Prop := l.path.bytes.length ≤ Disk.pathLimit

instance : DecidablePred Location.IsShort := fun l =>
  inferInstanceAs (Decidable (l.path.bytes.length ≤ Disk.pathLimit))

namespace Location

variable {l : Location}

instance : DecidablePred Location.IsProper := fun l =>
  inferInstanceAs (Decidable (∀ name ∈ l, Path.IsName (Text.toBytes name) ∧
    0 ∉ Text.toBytes name ∧ (Text.toBytes name).length ≤ Disk.nameLimit))

theorem IsProper.isName (h : l.IsProper) : ∀ name ∈ l, Path.IsName (Text.toBytes name) :=
  fun name hname => (h name hname).1

/-- A part of a proper location is proper. -/
theorem IsProper.of_prefix (h : l.IsProper) {k : Location} (hk : k <+: l) : k.IsProper :=
  fun name hname => h name (hk.subset hname)

/-- The path to something above is not longer. -/
theorem IsShort.of_prefix (h : l.IsShort) {k : Location} (hk : k <+: l) : k.IsShort := by
  refine Nat.le_trans ?_ h
  rcases eq_or_ne k [] with rfl | hnil
  · cases l with
    | nil => exact Nat.le_refl _
    | cons name rest => exact Nat.succ_le_of_lt (Nat.zero_lt_succ _)
  · have hnil' : l ≠ [] := fun heq => hnil (List.prefix_nil.1 (heq ▸ hk))
    rw [path_eq_ofNames hnil, path_eq_ofNames hnil']
    exact (Path.sublist_ofNames (hk.sublist.map _)).length_le

/-- The steps of the path of a proper location are its names. -/
theorem IsProper.waysOf_path (h : l.IsProper) :
    Disk.waysOf l.path = if l = [] then [.ok .here] else l.map fun name => .ok (.name name) := by
  rw [Disk.waysOf_of_isAbsolute (isAbsolute_path l), pieces_path h.isName]
  split
  · rfl
  · rw [List.map_map]
    refine List.map_congr_left fun name hname => ?_
    obtain ⟨hisName, -, hlength⟩ := h name hname
    rw [Function.comp_apply, Disk.wayOf_toBytes hisName, if_neg (Nat.not_lt.2 hlength)]

/-- No path of a proper location has a NUL. -/
theorem IsProper.zero_notMem (h : l.IsProper) : 0 ∉ l.path.bytes := by
  rcases eq_or_ne l [] with rfl | hnil
  · decide
  · rw [path_eq_ofNames hnil, Path.ofNames, List.flatMap_map, List.mem_flatMap]
    rintro ⟨name, hname, hmem⟩
    rcases List.mem_cons.1 hmem with heq | hmem
    · exact absurd heq (by decide)
    · exact (h name hname).2.1 hmem

end Location

namespace Disk

variable {d : Disk} {l m at_ : Location} {links : Nat} {limit : Nat} {text : String}

/-- **A disk is proper**: everything on it is at a proper location. -/
def IsProper (d : Disk) : Prop := ∀ l e, d.entry? l = some e → l.IsProper

/-- A disk is proper if the locations of its entries are. -/
theorem isProper_of_entries (h : ∀ x ∈ d.table.entries, x.1.IsProper) : d.IsProper := by
  intro l e hentry
  rcases eq_or_ne l [] with rfl | hnil
  · exact fun name hname => absurd hname List.not_mem_nil
  · have hmem := mem_entries_of_entry? hentry hnil
    exact h _ hmem

/-- A proper disk without links in its table is a tree. -/
theorem IsProper.isTree (hd : d.IsProper)
    (h : ∀ x ∈ d.table.entries, ∀ target, x.2 ≠ .link target) : d.IsTree where
  no_link l target hentry := by
    rcases eq_or_ne l [] with rfl | hnil
    · cases hentry
    · have hmem := mem_entries_of_entry? hentry hnil
      exact h _ hmem target rfl
  isName l e hentry := (hd l e hentry).isName

/-! ### Real locations -/

/-- **A location is real**: everything above it is a directory. -/
def IsReal (d : Disk) (l : Location) : Prop :=
  ∀ k, k <+: l → k ≠ l → d.entry? k = some .directory

/-- Something that is no link is at a location. -/
def Bears (d : Disk) (l : Location) : Prop :=
  ∃ e, d.entry? l = some e ∧ ∀ target, e ≠ .link target

theorem bears_of_directory (h : d.entry? l = some .directory) : d.Bears l :=
  ⟨.directory, h, fun _ heq => by cases heq⟩

theorem bears_of_file {content : ByteArray} (h : d.entry? l = some (.file content)) : d.Bears l :=
  ⟨.file content, h, fun _ heq => by cases heq⟩

/-- The root is real. -/
theorem isReal_nil : d.IsReal [] := fun _ hk hne => absurd (List.prefix_nil.1 hk) hne

/-- What stands in a real directory is real. -/
theorem IsReal.concat (h : d.IsReal l) (hl : d.entry? l = some .directory) (name : String) :
    d.IsReal (l ++ [name]) := by
  intro k hk hne
  rcases List.prefix_concat_iff.1 hk with rfl | hk
  · exact absurd rfl hne
  · rcases eq_or_ne k l with rfl | hkl
    · exact hl
    · exact h k hk hkl

/-- Everything above a real location is real. -/
theorem IsReal.of_prefix (h : d.IsReal l) {k : Location} (hk : k <+: l) : d.IsReal k := by
  intro j hj hne
  refine h j (hj.trans hk) fun heq => hne ?_
  exact hj.eq_of_length_le (heq ▸ hk.length_le)

/-- The directory above a real directory is a directory. -/
theorem IsReal.entry?_dropLast (h : d.IsReal l) (hl : d.entry? l = some .directory) :
    d.entry? l.dropLast = some .directory := by
  rcases eq_or_ne l.dropLast l with heq | hne
  · rw [heq, hl]
  · exact h _ (List.dropLast_prefix l) hne

/-- **A disk is closed**: whatever is on it stands in directories. -/
def IsClosed (d : Disk) : Prop := ∀ l e, d.entry? l = some e → d.IsReal l

/-- Names lead down to a real location. -/
theorem follow_names {names : Location} (hreal : d.IsReal (at_ ++ names))
    (hbears : d.Bears (at_ ++ names)) :
    d.follow true links at_ (names.map fun name => .ok (.name name)) =
      .ok (.there (at_ ++ names)) := by
  induction names generalizing at_ with
  | nil => rw [List.map_nil, follow, List.append_nil]
  | cons name rest ih =>
    have happend : at_ ++ name :: rest = at_ ++ [name] ++ rest := by simp
    rw [happend] at hreal hbears ⊢
    rw [List.map_cons]
    rcases List.eq_nil_or_concat rest with rfl | ⟨init, last, hrest⟩
    · -- the last name may be that of a file
      rw [List.append_nil] at hbears ⊢
      obtain ⟨e, hentry, hlink⟩ := hbears
      cases e with
      | directory => rw [follow_name_of_directory hentry, List.map_nil, follow]
      | file content =>
        rw [follow_name_of_file hentry, List.map_nil]
        rfl
      | link target => exact absurd rfl (hlink target)
    · have hdirectory : d.entry? (at_ ++ [name]) = some .directory := by
        refine hreal _ (List.prefix_append _ _) fun heq => ?_
        rw [hrest] at heq
        simpa using congrArg List.length heq
      rw [follow_name_of_directory hdirectory, ih hreal hbears]

/-- **Whatever a way leads to is real**, and no link. -/
theorem isReal_of_follow {ways : List (Except IoError Way)} (hreal : d.IsReal at_)
    (hat : d.entry? at_ = some .directory) (h : d.follow true links at_ ways = .ok (.there l)) :
    d.IsReal l ∧ d.Bears l := by
  rw [follow_iff] at h
  induction h with
  | arrived => exact ⟨hreal, bears_of_directory hat⟩
  | here _ ih => exact ih hreal hat
  | up _ ih => exact ih (hreal.of_prefix (List.dropLast_prefix _)) (hreal.entry?_dropLast hat)
  | enter hentry _ ih => exact ih (hreal.concat hat _) hentry
  | file hentry => exact ⟨hreal.concat hat _, bears_of_file hentry⟩
  | link hentry _ ih =>
    split at ih
    · exact ih isReal_nil rfl
    · exact ih hreal hat

/-- **Whatever a path leads to is real**, and no link. -/
theorem isReal_of_resolve {p : Path} (h : d.resolve p = .ok l) : d.IsReal l ∧ d.Bears l := by
  obtain ⟨-, -, -, hfollow⟩ := resolve_eq_ok_iff.1 h
  exact isReal_of_follow isReal_nil rfl hfollow

/-! ### The path of a real location -/

/-- **The path of a real location leads there**, and is too long otherwise. -/
theorem resolve_path_eq_ok_iff (hl : l.IsProper) (hreal : d.IsReal l) (hbears : d.Bears l) :
    d.resolve l.path = .ok m ↔ l.IsShort ∧ m = l := by
  have hfollow : d.follow true linkLimit [] (waysOf l.path) = .ok (.there l) := by
    rw [hl.waysOf_path]
    split
    · next hnil => rw [hnil, follow, follow]
    · exact follow_names hreal hbears
  rw [resolve_eq_ok_iff, hfollow]
  constructor
  · rintro ⟨-, -, hshort, heq⟩
    exact ⟨hshort, (Arrival.there.inj (Except.ok.inj heq)).symm⟩
  · rintro ⟨hshort, rfl⟩
    refine ⟨hl.zero_notMem, fun hempty => ?_, hshort, rfl⟩
    have habsolute := Location.isAbsolute_path m
    rw [Path.isAbsolute, hempty] at habsolute
    cases habsolute

/-- **A text is loaded** from a file that is not too large and holds a text. -/
theorem load_eq_ok_iff {p : Path} : d.load p limit = .ok text ↔
    ∃ content, d.stat p = .ok (.file content) ∧ content.size ≤ limit ∧
      String.fromUTF8? content = some text := by
  rw [load]
  rcases hstat : d.stat p with cause | (_ | content | target)
  · simp
  · simp
  · rcases Nat.lt_or_ge limit content.size with hlarge | hsmall
    · simp [hlarge, Nat.not_le.2 hlarge]
    · rcases htext : String.fromUTF8? content with _ | t <;>
        simp [Nat.not_lt.2 hsmall, hsmall, htext]
  · simp

/-- A path leads to something if it can be followed to where that is. -/
theorem stat_eq_ok_iff {p : Path} {e : Entry} :
    d.stat p = .ok e ↔ ∃ l, d.resolve p = .ok l ∧ d.entry? l = some e := by
  unfold stat
  cases hresolve : d.resolve p with
  | error cause => simp [bind, Except.bind]
  | ok l => cases hentry : d.entry? l <;> simp [bind, Except.bind, hentry]

/-- What can be loaded is a file. -/
theorem isFile_of_load {p : Path} (h : d.load p limit = .ok text) : d.isFile p = true := by
  obtain ⟨content, hstat, -⟩ := load_eq_ok_iff.1 h
  rw [isFile, hstat]

/-- **A real file is loaded** if its path is not too long, it is not too large and holds a text. -/
theorem load_path_eq_ok_iff (hl : l.IsProper) (hreal : d.IsReal l) {content : ByteArray}
    (hfile : d.entry? l = some (.file content)) :
    d.load l.path limit = .ok text ↔
      l.IsShort ∧ content.size ≤ limit ∧ String.fromUTF8? content = some text := by
  have hstat {e : Entry} : d.stat l.path = .ok e ↔ l.IsShort ∧ e = .file content := by
    rw [stat_eq_ok_iff]
    constructor
    · rintro ⟨m, hresolve, hentry⟩
      obtain ⟨hshort, rfl⟩ := (resolve_path_eq_ok_iff hl hreal (bears_of_file hfile)).1 hresolve
      exact ⟨hshort, Option.some.inj (hentry.symm.trans hfile)⟩
    · rintro ⟨hshort, rfl⟩
      exact ⟨l, (resolve_path_eq_ok_iff hl hreal (bears_of_file hfile)).2 ⟨hshort, rfl⟩, hfile⟩
  rw [load_eq_ok_iff]
  constructor
  · rintro ⟨content', hcontent, hsize, htext⟩
    obtain ⟨hshort, heq⟩ := hstat.1 hcontent
    obtain rfl := Entry.file.inj heq
    exact ⟨hshort, hsize, htext⟩
  · rintro ⟨hshort, hsize, htext⟩
    exact ⟨content, hstat.2 ⟨hshort, rfl⟩, hsize, htext⟩

end Disk

end SailNav
