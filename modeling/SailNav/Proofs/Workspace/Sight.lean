import SailNav.Proofs.Disk.Change
import SailNav.Proofs.Workspace.Discover

/-!
# What is in sight of a scan

On a closed tree a scan finds the source files that are not too large, that are below a root behind
wanted names, and that the settings do not exclude (`SailNav.Workspace.mem_files_iff`). Whether a
file is below a root and whether it is excluded can still depend on the rest of the disk, since a
root or an excluded path may go up from a directory that is not there yet. If they only go down, it
does not: disks with one file in the same place show it alike
(`SailNav.Workspace.GoDown.mem_files_of_file`), and a file behind wanted names below a root is found
wherever it comes to be (`SailNav.Workspace.InSight.mem_files`). So what a disk offers of a file
(`SailNav.Workspace.Offers`) is a matter of the file alone.
-/

namespace SailNav

/-- Whether a path is that of a source file is told by its last component. -/
theorem Path.isSailFile_congr {p q : Path} (h : p.components.getLast? = q.components.getLast?) :
    p.isSailFile = q.isSailFile := by
  rw [isSailFile, fileName?, h, isSailFile, fileName?]

namespace Workspace

variable {d d' : Disk} {l : Location} {roots : List Path} {settings : IndexingSettings}

/-! ### What is excluded -/

/-- What is in an excluded directory is excluded. -/
theorem isBelow_of_prefix {paths : List Path} {k : Location}
    (hl : ∀ name ∈ l, Path.IsName (Text.toBytes name)) (hk : k <+: l)
    (h : isBelow paths l = false) : isBelow paths k = false := by
  rw [Bool.eq_false_iff] at h ⊢
  intro hbelow
  obtain ⟨p, hp, hstarts⟩ := List.any_eq_true.1 hbelow
  refine h (List.any_eq_true.2 ⟨p, hp, ?_⟩)
  have hkl : k.path.components <+: l.path.components := by
    rw [(Location.spells_path hl).components,
      (Location.spells_path fun name hname => hl name (hk.subset hname)).components]
    exact (List.prefix_cons_inj _).2 (hk.map _)
  rw [Path.startsWith, List.isPrefixOf_iff_prefix] at hstarts ⊢
  exact hstarts.trans hkl

/-- The excluded paths as the settings spell them. -/
def spelledExclusions (roots : List Path) (excluded : List String) : List Path :=
  excluded.flatMap fun text =>
    let p := Path.ofString text
    if p.isAbsolute then [p] else roots.map (·.join p)

theorem excludedPaths_eq (d : Disk) (roots : List Path) (excluded : List String) :
    excludedPaths d roots excluded = (spelledExclusions roots excluded).map d.normalize := rfl

/-- **Nothing goes up**: neither a root nor an excluded path. -/
structure GoDown (roots : List Path) (excluded : List String) : Prop where
  roots : ∀ root ∈ roots, root.GoesDown
  excluded : ∀ text ∈ excluded, .up ∉ (Path.ofString text).components

/-- The excluded paths go down if they do as they are written, and the roots do. -/
theorem GoDown.spelledExclusions {excluded : List String} (h : GoDown roots excluded) :
    ∀ p ∈ spelledExclusions roots excluded, p.GoesDown := by
  intro p hp
  obtain ⟨text, htext, hp⟩ := List.mem_flatMap.1 hp
  have hup := h.excluded text htext
  dsimp only at hp
  split at hp
  · next habsolute =>
    rw [List.mem_singleton.1 hp]
    exact ⟨habsolute, hup⟩
  · next hrelative =>
    obtain ⟨root, hroot, rfl⟩ := List.mem_map.1 hp
    obtain ⟨habsolute, hrootUp⟩ := h.roots root hroot
    refine ⟨Path.isAbsolute_join habsolute _, ?_⟩
    rw [Path.components_join habsolute (Bool.eq_false_iff.2 hrelative), List.mem_append, not_or]
    refine ⟨hrootUp, fun hmem => hup ?_⟩
    -- a dot at the start of the path is all that its components have besides
    unfold Path.components
    rw [if_neg hrelative]
    split
    · exact List.mem_cons_of_mem _ hmem
    · exact hmem

/-- **What is excluded does not depend on the disk** if nothing goes up. -/
theorem GoDown.isBelow_excludedPaths {excluded : List String} (h : GoDown roots excluded)
    (hd : d.IsTree) (l : Location) :
    isBelow (excludedPaths d roots excluded) l =
      isBelow (Workspace.spelledExclusions roots excluded) l := by
  have hstarts : ∀ p ∈ Workspace.spelledExclusions roots excluded,
      l.path.startsWith (d.normalize p) = l.path.startsWith p := fun p hp => by
    rw [Path.startsWith, hd.components_normalize (h.spelledExclusions p hp), Path.startsWith]
  rw [excludedPaths_eq, isBelow, isBelow, List.any_map, Bool.eq_iff_iff, List.any_eq_true,
    List.any_eq_true]
  exact exists_congr fun p => and_congr_right fun hp => by rw [Function.comp_apply, hstarts p hp]

/-! ### What is found -/

/-- **What a scan finds on a closed tree.** -/
theorem mem_files_iff (hd : d.IsTree) (hclosed : d.IsClosed) :
    l ∈ (discoverWith d settings roots).files ↔ ∃ content,
      d.entry? l = some (.file content) ∧ content.size ≤ settings.maxFileSizeBytes ∧
        isBelow (excludedPaths d roots settings.excludePaths) l = false ∧
          ∃ root ∈ roots, ∃ r names, d.resolve root = .ok r ∧ l = r ++ names ∧
            (∀ name ∈ names.dropLast, isUnwanted name = false) ∧
              ((⟨root, r⟩ : Disk.Visit).down names).path.isSailFile = true := by
  have hexcludes : ∀ k l e, d.entry? l = some e → k <+: l →
      isBelow (excludedPaths d roots settings.excludePaths) l = false →
        isBelow (excludedPaths d roots settings.excludePaths) k = false :=
    fun k l e hentry hk => isBelow_of_prefix (hd.isName l e hentry) hk
  rw [discoverWith, mem_files_discover]
  constructor
  · rintro ⟨x, hx, hsize, rfl⟩
    obtain ⟨⟨root, hroot, hwalk⟩, hsail⟩ := mem_sourceVisits.1 hx
    obtain ⟨r, names, content, hresolve, rfl, hfile, hexcluded, hwanted⟩ :=
      (hd.mem_walk_iff hclosed hexcludes).1 hwalk
    rw [sizeAt, hfile] at hsize
    exact ⟨content, hfile, hsize, hexcluded, root, hroot, r, names, hresolve,
      Disk.Visit.location_down _ names, hwanted, hsail⟩
  · rintro ⟨content, hfile, hsize, hexcluded, root, hroot, r, names, hresolve, rfl, hwanted, hsail⟩
    have hlocation : ((⟨root, r⟩ : Disk.Visit).down names).location = r ++ names :=
      Disk.Visit.location_down _ names
    refine ⟨(⟨root, r⟩ : Disk.Visit).down names, mem_sourceVisits.2 ⟨⟨root, hroot, ?_⟩, hsail⟩, ?_,
      hlocation⟩
    · refine (hd.mem_walk_iff hclosed hexcludes).2
        ⟨r, names, content, hresolve, rfl, ?_, ?_, hwanted⟩
      · rw [hlocation, hfile]
      · rw [hlocation, hexcluded]
    · rw [sizeAt, hlocation, hfile]
      exact hsize

/-- What a walk from an absolute root comes across has the path of a source file if its location
has. -/
theorem isSailFile_down {root : Path} (hroot : root.isAbsolute = true) {r : Location}
    {names : List String} (hl : ∀ name ∈ r ++ names, Path.IsName (Text.toBytes name))
    (hnames : names ≠ [] ∨ root.Spells r) :
    ((⟨root, r⟩ : Disk.Visit).down names).path.isSailFile =
      (Location.path (r ++ names)).isSailFile := by
  have hdown := Disk.Visit.components_path_down (v := ⟨root, r⟩) hroot
    fun name hname => hl name (List.mem_append_right _ hname)
  refine Path.isSailFile_congr ?_
  rw [hdown, (Location.spells_path hl).components]
  rcases List.eq_nil_or_concat names with rfl | ⟨init, last, rfl⟩
  · rw [(hnames.resolve_left (absurd rfl)).components]
    simp
  · -- both end in the last name
    simp only [List.concat_eq_append, ← List.append_assoc, List.map_append, List.map_singleton,
      ← List.cons_append, List.getLast?_concat]

/-- **What a scan finds on a closed tree if nothing goes up.** -/
theorem GoDown.mem_files_iff (h : GoDown roots settings.excludePaths) (hd : d.IsTree)
    (hclosed : d.IsClosed) :
    l ∈ (discoverWith d settings roots).files ↔ ∃ content,
      d.entry? l = some (.file content) ∧ content.size ≤ settings.maxFileSizeBytes ∧
        l.path.isSailFile = true ∧
          isBelow (Workspace.spelledExclusions roots settings.excludePaths) l = false ∧
            ∃ root ∈ roots, ∃ r names, d.resolve root = .ok r ∧ l = r ++ names ∧
              ∀ name ∈ names.dropLast, isUnwanted name = false := by
  rw [Workspace.mem_files_iff hd hclosed]
  refine exists_congr fun content => and_congr_right fun hfile => and_congr_right fun _ => ?_
  rw [h.isBelow_excludedPaths hd]
  have hsail {root : Path} (hroot : root ∈ roots) {r : Location} {names : List String}
      (hresolve : d.resolve root = .ok r) (hl : l = r ++ names) :
      ((⟨root, r⟩ : Disk.Visit).down names).path.isSailFile = l.path.isSailFile := by
    rw [hl]
    exact isSailFile_down (h.roots root hroot).isAbsolute (hl ▸ hd.isName l _ hfile)
      (Or.inr (hd.spells_of_resolve (h.roots root hroot) hresolve))
  constructor
  · rintro ⟨hexcluded, root, hroot, r, names, hresolve, hl, hwanted, hsource⟩
    exact ⟨hsail hroot hresolve hl ▸ hsource, hexcluded, root, hroot, r, names, hresolve, hl,
      hwanted⟩
  · rintro ⟨hsource, hexcluded, root, hroot, r, names, hresolve, hl, hwanted⟩
    exact ⟨hexcluded, root, hroot, r, names, hresolve, hl, hwanted,
      (hsail hroot hresolve hl).trans hsource⟩

/-! ### What is in sight -/

/-- **A file is found alike on closed trees** that have it in the same place, if nothing goes up. -/
theorem GoDown.mem_files_of_file (h : GoDown roots settings.excludePaths) (hd : d.IsTree)
    (hclosed : d.IsClosed) (hd' : d'.IsTree) (hclosed' : d'.IsClosed) {content : ByteArray}
    (hfile : d.entry? l = some (.file content)) (hfile' : d'.entry? l = some (.file content))
    (hl : l ∈ (discoverWith d settings roots).files) :
    l ∈ (discoverWith d' settings roots).files := by
  rw [h.mem_files_iff hd hclosed] at hl
  rw [h.mem_files_iff hd' hclosed']
  obtain ⟨content', hentry, hsize, hsail, hexcluded, root, hroot, r, names, hresolve, rfl,
    hwanted⟩ := hl
  obtain rfl := Entry.file.inj (Option.some.inj (hentry.symm.trans hfile))
  refine ⟨content', hfile', hsize, hsail, hexcluded, root, hroot, r, names, ?_, rfl, hwanted⟩
  exact hd.resolve_of_matches (h.roots root hroot) hresolve fun k hk =>
    hclosed.matches_of_files hclosed' hfile hfile' k (hk.trans (List.prefix_append r names))

/-- **A location is in sight of some roots**: behind wanted names it is below a root that is not too
long. -/
def InSight (roots : List Path) (l : Location) : Prop :=
  ∃ root ∈ roots, root.bytes.length ≤ Disk.pathLimit ∧ ∃ r names, root.Spells r ∧
    l = r ++ names ∧ names ≠ [] ∧ ∀ name ∈ names.dropLast, isUnwanted name = false

/-- **A source file in sight is found** on a closed tree, unless it is too large or excluded. -/
theorem InSight.mem_files (h : InSight roots l) (hdown : GoDown roots settings.excludePaths)
    (hd : d.IsTree) (hclosed : d.IsClosed) (hl : l.IsProper) {content : ByteArray}
    (hfile : d.entry? l = some (.file content)) (hsize : content.size ≤ settings.maxFileSizeBytes)
    (hsail : l.path.isSailFile = true)
    (hexcluded : isBelow (spelledExclusions roots settings.excludePaths) l = false) :
    l ∈ (discoverWith d settings roots).files := by
  obtain ⟨root, hroot, hshort, r, names, hspells, rfl, hnames, hwanted⟩ := h
  have hbelow := List.prefix_append r names
  have hreal := hclosed _ _ hfile
  have hdirectory := hreal r hbelow fun heq => hnames (by simpa using heq)
  exact (hdown.mem_files_iff hd hclosed).2 ⟨content, hfile, hsize, hsail, hexcluded, root, hroot, r,
    names, Disk.resolve_of_spells hspells (hl.of_prefix hbelow) (hreal.of_prefix hbelow) hdirectory
      hshort, rfl, hwanted⟩

/-- **A disk offers a text for a file**: a scan finds the file and reads the text. -/
def Offers (d : Disk) (settings : IndexingSettings) (roots : List Path) (file : FileId)
    (text : String) : Prop :=
  ∃ l ∈ (discoverWith d settings roots).files, file = ⟨l.path.display⟩ ∧
    d.load l.path settings.maxFileSizeBytes = .ok text

variable {file : FileId} {text : String}

/-- **Of a source file in sight a disk offers what can be read**, if the file is not excluded. -/
theorem InSight.offers_iff (h : InSight roots l) (hdown : GoDown roots settings.excludePaths)
    (hd : d.IsTree) (hclosed : d.IsClosed) (hl : l.IsProper) (hsail : l.path.isSailFile = true)
    (hexcluded : isBelow (spelledExclusions roots settings.excludePaths) l = false) :
    Offers d settings roots ⟨l.path.display⟩ text ↔
      d.load l.path settings.maxFileSizeBytes = .ok text := by
  have hspells := Location.spells_path hl.isName
  constructor
  · rintro ⟨k, hk, hdisplay, hload⟩
    obtain ⟨content, hfile, -⟩ := exists_entry?_of_mem_discoverWith hk
    rwa [hspells.location_eq_of_display_eq (Location.spells_path (hd.isName k _ hfile))
      (FileId.mk.inj hdisplay)]
  · intro hload
    obtain ⟨content, hstat, hsize, -⟩ := Disk.load_eq_ok_iff.1 hload
    obtain ⟨m, hresolve, hfile⟩ := Disk.stat_eq_ok_iff.1 hstat
    obtain rfl := hd.eq_of_resolve hspells hresolve
    exact ⟨m, h.mem_files hdown hd hclosed hl hfile hsize hsail hexcluded, rfl, hload⟩

/-- **What happens at one location concerns no other file**: of that the disks offer the same, if
nothing goes up. -/
theorem GoDown.offers_iff_of_ne (h : GoDown roots settings.excludePaths) (hd : d.IsTree)
    (hclosed : d.IsClosed) (halters : Disk.Alters l d d') (hfile : file ≠ ⟨l.path.display⟩) :
    Offers d' settings roots file text ↔ Offers d settings roots file text := by
  have honly : ∀ {d d' : Disk}, d.IsTree → d.IsClosed → d'.IsTree → d'.IsClosed →
      (∀ m, m ≠ l → ∀ content, d.entry? m = some (.file content) →
        d'.entry? m = some (.file content)) →
      Offers d settings roots file text → Offers d' settings roots file text := by
    rintro d d' hd hclosed hd' hclosed' hsame ⟨k, hk, rfl, hload⟩
    obtain ⟨content, hentry, -⟩ := exists_entry?_of_mem_discoverWith hk
    have hentry' := hsame k (fun heq => hfile (by rw [heq])) content hentry
    exact ⟨k, h.mem_files_of_file hd hclosed hd' hclosed' hentry hentry' hk, rfl,
      hd.load_path_of_file hclosed hclosed' hentry hentry' hload⟩
  exact ⟨honly halters.isTree halters.isClosed hd hclosed fun m hm content =>
      (halters.files m hm content).1,
    honly hd hclosed halters.isTree halters.isClosed fun m hm content =>
      (halters.files m hm content).2⟩

end Workspace

end SailNav
