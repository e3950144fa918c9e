import SailNav.Proofs.Disk.Location

/-!
# Paths that only go down

A path with two dots in it means something only as long as the directory before the dots is there:
where it leads to depends on more than what is there. A path that *goes down*
(`SailNav.Path.GoesDown`) has no such component. On a disk without links it leads nowhere but to the
location that its names make (`SailNav.Disk.IsTree.spells_of_resolve`), and it does so on every disk
that has directories and files in the same places on the way
(`SailNav.Disk.IsTree.resolve_of_matches`). The path by which it is known has the same components,
whatever is there (`SailNav.Disk.IsTree.components_normalize`).
-/

namespace SailNav

namespace Path

/-- **A path goes down**: it is absolute, and no component of it goes up. -/
structure GoesDown (p : Path) : Prop where
  isAbsolute : p.isAbsolute = true
  up_notMem : .up ∉ p.components

/-! ### Components -/

/-- What stands before a slash and what stands behind it are cut on their own. -/
theorem pieces_append_slash (front behind : List UInt8) :
    pieces (front ++ slash :: behind) = pieces front ++ pieces behind := by
  rw [pieces_eq_splitOn, pieces_eq_splitOn, pieces_eq_splitOn]
  induction front with
  | nil => exact List.splitOn_append_cons_self_of_not_mem List.not_mem_nil behind
  | cons b rest ih =>
    rw [List.cons_append, List.splitOn_cons_eq_if_modifyHead,
      List.splitOn_cons_eq_if_modifyHead, ih]
    obtain ⟨first, others, hrest⟩ := List.exists_cons_of_ne_nil (List.splitOn_ne_nil slash rest)
    split
    · rfl
    · rw [hrest]
      rfl

theorem components_eq_of_isAbsolute {p : Path} (h : p.isAbsolute = true) :
    p.components = .root :: (pieces p.bytes).filterMap component? := by
  rw [components, if_pos h]

/-- **The components of a path that is followed inside a directory.** -/
theorem components_join {p q : Path} (hp : p.isAbsolute = true) (hq : q.isAbsolute = false) :
    (p.join q).components = p.components ++ (pieces q.bytes).filterMap component? := by
  rw [components_eq_of_isAbsolute (isAbsolute_join hp q), components_eq_of_isAbsolute hp, join, hq,
    if_neg Bool.false_ne_true, List.cons_append, ← List.filterMap_append]
  refine congrArg _ ?_
  split
  · next hend =>
    rcases hend with hnil | hslash
    · rw [isAbsolute, hnil] at hp
      cases hp
    · -- the slash at the end is followed by a piece that means nothing
      obtain ⟨front, hfront⟩ := List.getLast?_eq_some_iff.1 hslash
      have hnothing : (pieces []).filterMap component? = [] := rfl
      rw [hfront, List.append_assoc, List.singleton_append, pieces_append_slash,
        pieces_append_slash, List.filterMap_append, List.filterMap_append, List.filterMap_append,
        hnothing, List.append_nil]
  · rw [pieces_append_slash]

/-- A component goes up if its piece does. -/
theorem component?_of_wayOf {piece : List UInt8} (h : Disk.wayOf piece = .ok .up) :
    component? piece = some .up := by
  unfold Disk.wayOf at h
  unfold component?
  split at h
  · cases h
  · next hmeaningful =>
    rw [if_neg hmeaningful]
    split at h
    · next hup => rw [if_pos hup]
    · split at h
      · cases h
      · split at h <;> cases h

/-- A name is a path of one component. -/
theorem IsName.component?_eq {bytes : List UInt8} (h : IsName bytes) :
    (pieces bytes).filterMap component? = [.name bytes] := by
  rw [pieces_eq_splitOn, List.splitOn_eq_singleton h.1, List.filterMap_cons, h.2,
    List.filterMap_nil]

/-- **The path to a name in a directory.** -/
theorem components_join_name {p : Path} (hp : p.isAbsolute = true) {name : String}
    (h : IsName (Text.toBytes name)) :
    (p.join (.ofString name)).components = p.components ++ [.name (Text.toBytes name)] :=
  (components_join (q := ofString name) hp h.isAbsolute_eq_false).trans
    (congrArg _ h.component?_eq)

/-- A part of a path is written with the components that it has. -/
theorem components_ofComponents {cs : List Component}
    (h : ∀ c ∈ cs, slash ∉ c.bytes ∧ component? c.bytes = some c) :
    (ofComponents (.root :: cs)).isAbsolute = true ∧
      (ofComponents (.root :: cs)).components = .root :: cs := by
  cases cs with
  | nil => exact ⟨rfl, rfl⟩
  | cons c rest =>
    have habsolute : (ofNames ((c :: rest).map Component.bytes)).isAbsolute = true := rfl
    have hslash : ∀ name ∈ (c :: rest).map Component.bytes, slash ∉ name := by
      intro name hname
      obtain ⟨c', hc', rfl⟩ := List.mem_map.1 hname
      exact (h c' hc').1
    rw [ofComponents_root_cons, components_of_isAbsolute habsolute, pieces_ofNames hslash]
    refine ⟨rfl, congrArg _ ?_⟩
    rw [List.drop_one, List.tail_cons, List.filterMap_map]
    exact (List.filterMap_congr fun c' hc' => (h c' hc').2).trans List.filterMap_some

/-- A component below the root is read from a piece. -/
theorem component?_of_mem_components {p : Path} (hp : p.isAbsolute = true) {c : Component}
    (h : c ∈ p.components.drop 1) : slash ∉ c.bytes ∧ component? c.bytes = some c := by
  rw [components_of_isAbsolute hp, List.drop_one, List.tail_cons] at h
  obtain ⟨piece, hmem, hpiece⟩ := List.mem_filterMap.1 h
  rw [bytes_of_component? hpiece]
  exact ⟨slash_notMem_of_mem_pieces (List.mem_of_mem_drop hmem), hpiece⟩

/-- **A path that ends in a name** has a directory that goes down if it does. -/
theorem GoesDown.parent {p : Path} (hp : p.GoesDown) {name : List UInt8}
    (hname : p.fileName? = some name) :
    ∃ directory, p.parent? = some directory ∧ directory.GoesDown ∧ IsName name ∧
      p.components = directory.components ++ [.name name] := by
  have hlast : p.components.getLast? = some (.name name) := by
    unfold fileName? at hname
    split at hname
    · next heq => rw [heq, Option.some.inj hname]
    · cases hname
  obtain ⟨init, hinit⟩ := List.getLast?_eq_some_iff.1 hlast
  obtain ⟨cs, rfl⟩ : ∃ cs, init = .root :: cs := by
    rw [components_of_isAbsolute hp.isAbsolute] at hinit
    cases init with
    | nil => cases (List.cons.inj hinit).1
    | cons c cs => exact ⟨cs, by rw [(List.cons.inj hinit).1]⟩
  have hread : ∀ c ∈ cs, slash ∉ c.bytes ∧ component? c.bytes = some c := fun c hc =>
    component?_of_mem_components hp.isAbsolute (by
      rw [hinit]
      exact List.mem_append_left _ hc)
  obtain ⟨habsolute, hcomponents⟩ := components_ofComponents hread
  refine ⟨.ofComponents (.root :: cs), (parent?_of_components hinit).1,
    ⟨habsolute, fun hup => hp.up_notMem ?_⟩, ?_, ?_⟩
  · rw [hinit]
    rw [hcomponents] at hup
    exact List.mem_append_left _ hup
  · exact isName_of_mem_components (p := p) (hinit ▸ List.mem_append_right _ (by simp))
  · rw [hinit, hcomponents]

end Path

/-- A path that spells a location goes down. -/
theorem Path.Spells.goesDown {p : Path} {l : Location} (h : p.Spells l) : p.GoesDown := by
  refine ⟨h.isAbsolute, fun hup => ?_⟩
  rw [h.components] at hup
  simp at hup

namespace Disk

/-- A component that does not go up is a name. The step to it can be made unless the system does not
take the name. -/
theorem wayOf_of_component?_eq_some {piece : List UInt8} {c : Path.Component}
    (h : Path.component? piece = some c) (hup : c ≠ .up) :
    (∃ e, wayOf piece = .error e) ∨
      ∃ text, c = .name (Text.toBytes text) ∧ wayOf piece = .ok (.name text) := by
  unfold Path.component? at h
  unfold wayOf
  split at h
  · cases h
  · next hmeaningful =>
    rw [if_neg hmeaningful]
    split at h
    · exact absurd (Option.some.inj h).symm hup
    · next hnotUp =>
      obtain rfl := Option.some.inj h
      rw [if_neg hnotUp]
      split
      · exact Or.inl ⟨_, rfl⟩
      · split
        · next text htext =>
          exact Or.inr ⟨text, by rw [Text.fromUTF8?_eq_some_iff.1 htext], rfl⟩
        · exact Or.inl ⟨_, rfl⟩

variable {d d' : Disk} {links : Nat} {at_ l : Location} {ways : List (Except IoError Way)}

/-- **Two disks match at a location**: where the first has a directory or a file, the second has
one, too. -/
def Matches (d d' : Disk) (l : Location) : Prop :=
  (d.entry? l = some .directory → d'.entry? l = some .directory) ∧
    ∀ content, d.entry? l = some (.file content) → ∃ other, d'.entry? l = some (.file other)

namespace IsTree

/-- Steps that do not go up lead to something below. -/
theorem prefix_of_follow (hd : d.IsTree) (hup : .ok .up ∉ ways)
    (h : d.follow true links at_ ways = .ok (.there l)) : at_ <+: l := by
  induction ways generalizing at_ with
  | nil =>
    rw [follow] at h
    exact Arrival.there.inj (Except.ok.inj h) ▸ List.prefix_rfl
  | cons way rest ih =>
    rw [List.mem_cons, not_or] at hup
    cases way with
    | error e =>
      rw [follow] at h
      cases h
    | ok step =>
      cases step with
      | here =>
        rw [follow] at h
        exact ih hup.2 h
      | up => exact absurd rfl hup.1
      | name text =>
        rcases hd.follow_name_cases h with ⟨-, h⟩ | ⟨-, -, rfl⟩
        · exact (List.prefix_append at_ [text]).trans (ih hup.2 h)
        · exact List.prefix_append at_ [text]

/-- **Steps that do not go up lead to the same place on disks that match on the way.** -/
theorem follow_of_matches (hd : d.IsTree) (hup : .ok .up ∉ ways)
    (h : d.follow true links at_ ways = .ok (.there l)) (hmatch : ∀ k, k <+: l → d.Matches d' k) :
    d'.follow true links at_ ways = .ok (.there l) := by
  induction ways generalizing at_ with
  | nil =>
    rw [follow] at h ⊢
    exact h
  | cons way rest ih =>
    have hnot := hup
    rw [List.mem_cons, not_or] at hnot
    cases way with
    | error e =>
      rw [follow] at h
      cases h
    | ok step =>
      cases step with
      | here =>
        rw [follow] at h ⊢
        exact ih hnot.2 h
      | up => exact absurd rfl hnot.1
      | name text =>
        rcases hd.follow_name_cases h with ⟨hentry, h⟩ | ⟨⟨content, hentry⟩, rfl, rfl⟩
        · have hbelow := hd.prefix_of_follow hnot.2 h
          rw [follow_name_of_directory ((hmatch _ hbelow).1 hentry)]
          exact ih hnot.2 h
        · obtain ⟨other, hother⟩ := (hmatch (at_ ++ [text]) List.prefix_rfl).2 _ hentry
          rw [follow_name_of_file hother, if_pos List.isEmpty_nil]

/-- A path that goes down has no step that goes up. -/
theorem up_notMem_waysOf {p : Path} (hp : p.GoesDown) : .ok .up ∉ waysOf p := by
  rw [waysOf_of_isAbsolute hp.isAbsolute]
  intro hmem
  obtain ⟨piece, hpiece, hway⟩ := List.mem_map.1 hmem
  refine hp.up_notMem ?_
  rw [Path.components_of_isAbsolute hp.isAbsolute]
  exact List.mem_cons_of_mem _
    (List.mem_filterMap.2 ⟨piece, hpiece, Path.component?_of_wayOf hway⟩)

/-- **A path that goes down leads to the same place on disks that match on the way.** -/
theorem resolve_of_matches (hd : d.IsTree) {p : Path} (hp : p.GoesDown) (h : d.resolve p = .ok l)
    (hmatch : ∀ k, k <+: l → d.Matches d' k) : d'.resolve p = .ok l := by
  obtain ⟨hnul, hempty, hshort, hfollow⟩ := resolve_eq_ok_iff.1 h
  exact resolve_eq_ok_iff.2
    ⟨hnul, hempty, hshort, hd.follow_of_matches (up_notMem_waysOf hp) hfollow hmatch⟩

/-- Pieces that do not go up make the names that they lead down by. -/
theorem exists_names_of_follow (hd : d.IsTree) {pieces : List (List UInt8)}
    (hup : .up ∉ pieces.filterMap Path.component?)
    (h : d.follow true links at_ (pieces.map wayOf) = .ok (.there l)) :
    ∃ names : Location, l = at_ ++ names ∧
      pieces.filterMap Path.component? = names.map fun name => .name (Text.toBytes name) := by
  induction pieces generalizing at_ with
  | nil =>
    rw [List.map_nil, follow] at h
    exact ⟨[], by rw [List.append_nil, Arrival.there.inj (Except.ok.inj h)], rfl⟩
  | cons piece rest ih =>
    rw [List.map_cons] at h
    cases hpiece : Path.component? piece with
    | none =>
      rw [List.filterMap_cons_none hpiece] at hup ⊢
      rw [wayOf_of_component?_eq_none hpiece, follow] at h
      exact ih hup h
    | some c =>
      rw [List.filterMap_cons_some hpiece, List.mem_cons, not_or] at hup
      rw [List.filterMap_cons_some hpiece]
      rcases wayOf_of_component?_eq_some hpiece (Ne.symm hup.1) with
        ⟨e, hway⟩ | ⟨text, rfl, hway⟩
      · rw [hway, follow] at h
        cases h
      · rw [hway] at h
        rcases hd.follow_name_cases h with ⟨-, h⟩ | ⟨-, hnil, rfl⟩
        · obtain ⟨names, rfl, hnames⟩ := ih hup.2 h
          exact ⟨text :: names, by simp, by rw [hnames]; rfl⟩
        · rw [List.map_eq_nil_iff.1 hnil]
          exact ⟨[text], rfl, rfl⟩

/-- **A path that goes down leads nowhere but to the location that it spells.** -/
theorem spells_of_resolve (hd : d.IsTree) {p : Path} (hp : p.GoesDown) (h : d.resolve p = .ok l) :
    p.Spells l := by
  obtain ⟨-, -, -, hfollow⟩ := resolve_eq_ok_iff.1 h
  have hcomponents := Path.components_of_isAbsolute hp.isAbsolute
  rw [waysOf_of_isAbsolute hp.isAbsolute] at hfollow
  obtain ⟨names, hl, hnames⟩ := hd.exists_names_of_follow (fun hmem => hp.up_notMem
    (hcomponents ▸ List.mem_cons_of_mem _ hmem)) hfollow
  rw [List.nil_append] at hl
  exact ⟨hp.isAbsolute, by rw [hcomponents, hnames, hl]⟩

/-- **A path that goes down is known by a path with the same components.** -/
theorem components_normalize (hd : d.IsTree) {p : Path} (hp : p.GoesDown) :
    (d.normalize p).components = p.components := by
  unfold normalize
  cases hresolve : d.resolve p with
  | ok l =>
    have hspells := hd.spells_of_resolve hp hresolve
    exact (Location.spells_path hspells.isName).components.trans hspells.components.symm
  | error e =>
    dsimp only
    split
    · next directory name hparent hname =>
      obtain ⟨directory', hparent', hdown, hisName, hcomponents⟩ := hp.parent hname
      obtain rfl := Option.some.inj (hparent.symm.trans hparent')
      split
      · rfl
      · cases habove : d.resolve directory with
        | error e => rfl
        | ok l =>
          have hspells := hd.spells_of_resolve hdown habove
          dsimp only
          rw [Path.components_join (Location.isAbsolute_path l) hisName.isAbsolute_eq_false,
            (Location.spells_path hspells.isName).components, ← hspells.components, hcomponents]
          exact congrArg _ hisName.component?_eq
    · rfl

/-- The path of a location on a tree goes down. -/
theorem goesDown_path (hd : d.IsTree) {e : Entry} (h : d.entry? l = some e) : l.path.GoesDown :=
  (Location.spells_path (hd.isName l e h)).goesDown

end IsTree

/-! ### Closed disks -/

/-- Closed disks with a file at one place match on the way to it. -/
theorem IsClosed.matches_of_files (hclosed : d.IsClosed) (hclosed' : d'.IsClosed)
    {content content' : ByteArray} (hfile : d.entry? l = some (.file content))
    (hfile' : d'.entry? l = some (.file content')) : ∀ k, k <+: l → d.Matches d' k := by
  intro k hk
  rcases eq_or_ne k l with rfl | hne
  · exact ⟨fun h => (by cases h.symm.trans hfile), fun _ _ => ⟨content', hfile'⟩⟩
  · have hdirectory := hclosed _ _ hfile k hk hne
    exact ⟨fun _ => hclosed' _ _ hfile' k hk hne, fun _ h => by cases h.symm.trans hdirectory⟩

/-- **A file is read alike on closed trees** that have it in the same place. -/
theorem IsTree.load_path_of_file (hd : d.IsTree) (hclosed : d.IsClosed) (hclosed' : d'.IsClosed)
    {content : ByteArray} (hfile : d.entry? l = some (.file content))
    (hfile' : d'.entry? l = some (.file content)) {limit : Nat} {text : String}
    (h : d.load l.path limit = .ok text) : d'.load l.path limit = .ok text := by
  obtain ⟨content', hstat, hsize, htext⟩ := load_eq_ok_iff.1 h
  obtain ⟨m, hresolve, hentry⟩ := stat_eq_ok_iff.1 hstat
  obtain rfl := hd.eq_of_resolve (Location.spells_path (hd.isName l _ hfile)) hresolve
  obtain rfl := Entry.file.inj (Option.some.inj (hentry.symm.trans hfile))
  have hresolve' := hd.resolve_of_matches (hd.goesDown_path hfile) hresolve
    (hclosed.matches_of_files hclosed' hfile hfile')
  exact load_eq_ok_iff.2 ⟨content', stat_eq_ok_iff.2 ⟨m, hresolve', hfile'⟩, hsize, htext⟩

/-- Pieces that name directories lead down to the last of them. -/
theorem follow_pieces {pieces : List (List UInt8)} {names : Location}
    (hpieces : pieces.filterMap Path.component? = names.map fun name => .name (Text.toBytes name))
    (hproper : Location.IsProper names)
    (hdirectories : ∀ k, k <+: at_ ++ names → d.entry? k = some .directory) :
    d.follow true links at_ (pieces.map wayOf) = .ok (.there (at_ ++ names)) := by
  induction pieces generalizing at_ names with
  | nil =>
    obtain rfl := List.map_eq_nil_iff.1 hpieces.symm
    rw [List.map_nil, follow, List.append_nil]
  | cons piece rest ih =>
    rw [List.map_cons]
    cases hpiece : Path.component? piece with
    | none =>
      rw [List.filterMap_cons_none hpiece] at hpieces
      rw [wayOf_of_component?_eq_none hpiece, follow]
      exact ih hpieces hproper hdirectories
    | some c =>
      rw [List.filterMap_cons_some hpiece] at hpieces
      obtain ⟨name, names, rfl, rfl, hrest⟩ := List.map_eq_cons_iff.1 hpieces.symm
      obtain ⟨hisName, -, hlength⟩ := hproper name List.mem_cons_self
      obtain rfl := Path.bytes_of_component? hpiece
      have happend : at_ ++ name :: names = at_ ++ [name] ++ names := by simp
      rw [happend] at hdirectories ⊢
      have hway := wayOf_toBytes hisName
      rw [if_neg (Nat.not_lt.2 hlength)] at hway
      rw [Path.Component.bytes, hway,
        follow_name_of_directory (hdirectories _ (List.prefix_append _ _))]
      exact ih hrest.symm (fun n hn => hproper n (List.mem_cons_of_mem name hn)) hdirectories

/-- **A path that spells a real directory leads there**, unless it is too long. -/
theorem resolve_of_spells {p : Path} (hp : p.Spells l) (hl : l.IsProper) (hreal : d.IsReal l)
    (hdirectory : d.entry? l = some .directory) (hshort : p.bytes.length ≤ pathLimit) :
    d.resolve p = .ok l := by
  have hcomponents := hp.components
  rw [Path.components_of_isAbsolute hp.isAbsolute, List.cons.injEq] at hcomponents
  refine resolve_eq_ok_iff.2 ⟨fun hnul => ?_, fun hempty => ?_, hshort, ?_⟩
  · -- a NUL stands neither in a name nor in a piece that means nothing
    rw [← (Path.ofNames_pieces hp.isAbsolute).2, Path.ofNames, List.mem_flatMap] at hnul
    obtain ⟨piece, hpiece, hnul⟩ := hnul
    have hin : 0 ∈ piece := (List.mem_cons.1 hnul).resolve_left (by decide)
    cases hmeaning : Path.component? piece with
    | none =>
      unfold Path.component? at hmeaning
      split at hmeaning
      · next hnothing =>
        rcases hnothing with rfl | rfl
        · cases hin
        · exact absurd hin (by decide)
      · split at hmeaning <;> cases hmeaning
    | some c =>
      have hmem := List.mem_filterMap.2 ⟨piece, hpiece, hmeaning⟩
      rw [hcomponents.2] at hmem
      obtain ⟨name, hname, rfl⟩ := List.mem_map.1 hmem
      rw [← Path.bytes_of_component? hmeaning] at hin
      exact (hl name hname).2.1 hin
  · have habsolute := hp.isAbsolute
    rw [Path.isAbsolute, hempty] at habsolute
    cases habsolute
  · rw [waysOf_of_isAbsolute hp.isAbsolute]
    refine follow_pieces hcomponents.2 hl fun k hk => ?_
    rcases eq_or_ne k l with rfl | hne
    · exact hdirectory
    · exact hreal k hk hne

end Disk

end SailNav
