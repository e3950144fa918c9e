import Mathlib.Data.List.Basic
import SailNav.Proofs.Disk.Resolve

/-!
# Disks without links

On a disk without links a path leads nowhere but to the location that it spells: the names between
its slashes (`SailNav.Disk.IsTree.eq_of_resolve`). So the path by which a file is known can be told
without a look at what is on the disk (`SailNav.Disk.IsTree.normalize_path`), and a file that is
known by one path has one URL (`SailNav.Disk.IsTree.ofPath?_eq`).

A path that goes up spells no location here, and neither does one with a name that is no text.
-/

namespace SailNav

/-! ### Paths that spell locations -/

namespace Path

/-- A path that is a text is shown as the text. -/
@[simp] theorem display_ofString (text : String) : (ofString text).display = text :=
  Text.ofBytes_toBytes text

/-- Bytes are the name of something: neither nothing nor dots, and without a slash. -/
def IsName (bytes : List UInt8) : Prop := slash ∉ bytes ∧ component? bytes = some (.name bytes)

/-- A name is not empty. -/
theorem IsName.ne_nil {bytes : List UInt8} (h : IsName bytes) : bytes ≠ [] := by
  rintro rfl
  cases h.2

theorem IsName.isAbsolute_eq_false {bytes : List UInt8} (h : IsName bytes) :
    (⟨bytes⟩ : Path).isAbsolute = false := by
  rw [isAbsolute, beq_eq_false_iff_ne]
  exact fun hhead => h.1 (List.mem_of_mem_head? hhead)

/-- A name among the components of a path is a name. -/
theorem isName_of_mem_components {p : Path} {bytes : List UInt8}
    (h : Component.name bytes ∈ p.components) : IsName bytes := by
  have hpieces : Component.name bytes ∈ (pieces p.bytes).filterMap component? := by
    unfold components at h
    dsimp only at h
    split at h
    · simpa using h
    · split at h
      · simpa using h
      · exact h
  obtain ⟨piece, hmem, hpiece⟩ := List.mem_filterMap.1 hpieces
  obtain rfl : bytes = piece := bytes_of_component? hpiece
  exact ⟨slash_notMem_of_mem_pieces hmem, hpiece⟩

/-- **A path spells a location**: it is absolute, and the names between its slashes are those of the
location. -/
structure Spells (p : Path) (l : Location) : Prop where
  isAbsolute : p.isAbsolute = true
  components : p.components = .root :: l.map fun name => .name (Text.toBytes name)

/-- The names of a location that is spelled are names. -/
theorem Spells.isName {p : Path} {l : Location} (h : p.Spells l) :
    ∀ name ∈ l, IsName (Text.toBytes name) := by
  intro name hname
  refine isName_of_mem_components (p := p) ?_
  rw [h.components]
  exact List.mem_cons_of_mem _ (List.mem_map_of_mem hname)

/-- The path of the components of a path is that of the location that it spells. -/
theorem Spells.ofComponents_eq {p : Path} {l : Location} (h : p.Spells l) :
    Path.ofComponents p.components = l.path := by
  rw [h.components]
  cases l with
  | nil => rfl
  | cons name rest =>
    rw [List.map_cons, ofComponents_root_cons, ofNames, List.flatMap_map, List.flatMap_cons,
      List.flatMap_map]
    rfl

/-- Names that are texts make a path that is a text. -/
theorem exists_ofString_of_names {names : List (List UInt8)}
    (h : ∀ bytes ∈ names, ∃ text, bytes = Text.toBytes text) :
    ∃ text, ofNames names = .ofString text := by
  induction names with
  | nil => exact ⟨"", rfl⟩
  | cons bytes rest ih =>
    obtain ⟨text, rfl⟩ := h bytes List.mem_cons_self
    obtain ⟨others, hothers⟩ := ih fun b hb => h b (List.mem_cons_of_mem _ hb)
    refine ⟨"/" ++ text ++ others, congrArg Path.mk ?_⟩
    have hslash : Text.toBytes "/" = [slash] := by decide
    change slash :: (Text.toBytes text ++ (ofNames rest).bytes) = _
    rw [hothers, Text.toBytes_append, Text.toBytes_append, hslash, List.append_assoc]
    rfl

/-- **A path that spells a location is a text.** -/
theorem Spells.exists_ofString {p : Path} {l : Location} (h : p.Spells l) :
    ∃ text, p = .ofString text := by
  obtain ⟨-, hnames⟩ := ofNames_pieces h.isAbsolute
  have hcomponents := h.components
  rw [components_of_isAbsolute h.isAbsolute, List.cons.injEq] at hcomponents
  rw [← hnames]
  refine exists_ofString_of_names fun piece hpiece => ?_
  cases hmeaning : component? piece with
  | none =>
    -- nothing and a dot are texts, too
    unfold component? at hmeaning
    split at hmeaning
    · next hdot =>
      rcases hdot with rfl | rfl
      · exact ⟨"", rfl⟩
      · exact ⟨".", by decide⟩
    · split at hmeaning <;> cases hmeaning
  | some c =>
    have hmem : c ∈ ((pieces p.bytes).drop 1).filterMap component? :=
      List.mem_filterMap.2 ⟨piece, hpiece, hmeaning⟩
    rw [hcomponents.2] at hmem
    obtain ⟨name, -, rfl⟩ := List.mem_map.1 hmem
    exact ⟨name, (bytes_of_component? hmeaning).symm⟩

end Path

namespace Location

/-- The path of a location, by its names. -/
theorem path_eq_ofNames {l : Location} (h : l ≠ []) : l.path = .ofNames (l.map Text.toBytes) := by
  cases l with
  | nil => exact absurd rfl h
  | cons name rest => exact congrArg Path.mk (List.flatMap_map ..).symm

variable {l : Location} (h : ∀ name ∈ l, Path.IsName (Text.toBytes name))
include h

/-- The path of a location has its names for pieces. -/
theorem pieces_path : (Path.pieces l.path.bytes).drop 1 =
    if l = [] then [[]] else l.map Text.toBytes := by
  split
  · next hnil => rw [hnil]; rfl
  · next hnil =>
    rw [path_eq_ofNames hnil, Path.pieces_ofNames]
    · rfl
    · intro bytes hbytes
      obtain ⟨name, hname, rfl⟩ := List.mem_map.1 hbytes
      exact (h name hname).1

/-- **The path of a location spells it.** -/
theorem spells_path : l.path.Spells l := by
  refine ⟨isAbsolute_path l, ?_⟩
  rw [Path.components_of_isAbsolute (isAbsolute_path l), pieces_path h]
  split
  · next hnil => rw [hnil]; rfl
  · rw [List.filterMap_map]
    refine congrArg _ ?_
    rw [← List.filterMap_eq_map]
    exact List.filterMap_congr fun name hname => (h name hname).2

omit h in
/-- The path of a location ends in its last name. -/
theorem bytes_path_concat (l : Location) (name : String) :
    (Location.path (l ++ [name])).bytes =
      (Path.ofNames (l.map Text.toBytes)).bytes ++ Path.slash :: Text.toBytes name := by
  rw [path_eq_ofNames (List.append_ne_nil_of_right_ne_nil l (List.cons_ne_nil name []))]
  simp [Path.ofNames]

/-- **The path to a name in the directory at a location.** -/
theorem join_path {name : String} (hname : Path.IsName (Text.toBytes name)) :
    l.path.join ⟨Text.toBytes name⟩ = Location.path (l ++ [name]) := by
  rw [Path.join, hname.isAbsolute_eq_false, if_neg Bool.false_ne_true]
  rcases List.eq_nil_or_concat l with rfl | ⟨init, last, rfl⟩
  · have hroot : (Location.path []).bytes = [] ∨
        (Location.path []).bytes.getLast? = some Path.slash := Or.inr rfl
    rw [if_pos hroot]
    exact congrArg Path.mk (congrArg (Path.slash :: ·) (List.append_nil _).symm)
  · rw [List.concat_eq_append] at h ⊢
    have hlast := h last (by simp)
    -- the path does not end in a slash, since it ends in a name
    have hend : ¬ ((Location.path (init ++ [last])).bytes = [] ∨
        (Location.path (init ++ [last])).bytes.getLast? = some Path.slash) := by
      rw [bytes_path_concat, not_or]
      refine ⟨List.append_ne_nil_of_right_ne_nil _ (List.cons_ne_nil _ _), fun hgetLast => ?_⟩
      obtain hnil | ⟨before, b, hbytes⟩ := List.eq_nil_or_concat (Text.toBytes last)
      · exact hlast.ne_nil hnil
      · rw [hbytes, List.concat_eq_append, ← List.cons_append, ← List.append_assoc,
          List.getLast?_concat, Option.some.injEq] at hgetLast
        refine hlast.1 ?_
        rw [hbytes, List.concat_eq_append, hgetLast]
        exact List.mem_append_right _ (List.mem_singleton_self _)
    rw [if_neg hend]
    have hwhole : Location.path (init ++ [last] ++ [name]) =
        ⟨(Path.ofNames ((init ++ [last]).map Text.toBytes)).bytes ++
          Path.slash :: Text.toBytes name⟩ := congrArg Path.mk (bytes_path_concat _ _)
    rw [hwhole, bytes_path_concat]
    simp [Path.ofNames]

end Location

/-! ### Paths that spell locations, as they are shown and where they stand -/

namespace Path.Spells

variable {p q : Path} {l m init : Location} {last : String}

/-- Paths that spell locations are told apart by how they are shown. -/
theorem eq_of_display_eq (hp : p.Spells l) (hq : q.Spells m) (h : p.display = q.display) :
    p = q := by
  obtain ⟨s, hs⟩ := hp.exists_ofString
  obtain ⟨t, ht⟩ := hq.exists_ofString
  rw [hs, ht, Path.display_ofString, Path.display_ofString] at h
  rw [hs, ht, h]

/-- A path spells one location. -/
theorem location_eq (hp : p.Spells l) (hq : p.Spells m) : l = m := by
  have hcomponents := hp.components.symm.trans hq.components
  rw [List.cons.injEq] at hcomponents
  refine List.map_injective_iff.2 (fun a b hab => ?_) hcomponents.2
  have hbytes := congrArg Text.ofBytes (Path.Component.name.inj hab)
  rwa [Text.ofBytes_toBytes, Text.ofBytes_toBytes] at hbytes

/-- **Locations are told apart by how their paths are shown.** -/
theorem location_eq_of_display_eq (hp : p.Spells l) (hq : q.Spells m)
    (h : p.display = q.display) : l = m :=
  hp.location_eq (hp.eq_of_display_eq hq h ▸ hq)

/-- The root stands nowhere. -/
theorem parent?_nil (hp : p.Spells []) : p.parent? = none := by
  rw [Path.parent?, hp.components]
  rfl

theorem components_concat (hp : p.Spells (init ++ [last])) : p.components =
    (.root :: init.map fun name => .name (Text.toBytes name)) ++ [.name (Text.toBytes last)] := by
  rw [hp.components, List.map_append]
  rfl

/-- A path stands in the directory that the names before the last spell. -/
theorem parent?_concat (hp : p.Spells (init ++ [last])) :
    p.parent? = some (Location.path init) := by
  have hspells := Location.spells_path (l := init)
    fun name hname => hp.isName name (List.mem_append_left _ hname)
  rw [← hspells.ofComponents_eq, hspells.components]
  exact (Path.parent?_of_components hp.components_concat).1

/-- It ends in the last name. -/
theorem fileName?_concat (hp : p.Spells (init ++ [last])) :
    p.fileName? = some (Text.toBytes last) :=
  (Path.parent?_of_components hp.components_concat).2

end Path.Spells

/-! ### Disks -/

namespace Disk

/-- The step to a name, unless that is too long. -/
theorem wayOf_toBytes {name : String} (h : Path.IsName (Text.toBytes name)) :
    wayOf (Text.toBytes name) =
      if nameLimit < (Text.toBytes name).length then .error .nameTooLong else .ok (.name name) := by
  have hname := h.2
  unfold Path.component? at hname
  unfold wayOf
  split at hname
  · cases hname
  · next hmeaningful =>
    rw [if_neg hmeaningful]
    split at hname
    · cases hname
    · next hup =>
      rw [if_neg hup, Text.fromUTF8?_eq_some_iff.2 rfl]

/-- **A disk is a tree**: there are no links on it, and what is on it goes by names. -/
structure IsTree (d : Disk) : Prop where
  no_link : ∀ l target, d.entry? l ≠ some (.link target)
  isName : ∀ l e, d.entry? l = some e → ∀ name ∈ l, Path.IsName (Text.toBytes name)

/-- The empty disk is a tree. -/
theorem isTree_empty : empty.IsTree := by
  have hroot : ∀ l e, empty.entry? l = some e → l = [] ∧ e = .directory := by
    intro l e h
    cases l with
    | nil => exact ⟨rfl, (Option.some.inj h).symm⟩
    | cons name rest => cases h
  constructor
  · intro l target h
    cases (hroot l _ h).2
  · intro l e h name hname
    rw [(hroot l e h).1] at hname
    cases hname

namespace IsTree

variable {d : Disk} (hd : d.IsTree)
include hd

/-- **How a step to a name leads somewhere**: into a directory and on from there, or to a file that
ends the way. -/
theorem follow_name_cases {links : Nat} {at_ l : Location} {text : String}
    {rest : List (Except IoError Way)}
    (h : d.follow true links at_ (.ok (.name text) :: rest) = .ok (.there l)) :
    (d.entry? (at_ ++ [text]) = some .directory ∧
        d.follow true links (at_ ++ [text]) rest = .ok (.there l)) ∨
      (∃ content, d.entry? (at_ ++ [text]) = some (.file content)) ∧ rest = [] ∧
        l = at_ ++ [text] := by
  cases hentry : d.entry? (at_ ++ [text]) with
  | none =>
    rw [follow_name_of_none hentry] at h
    split at h <;> cases h
  | some entry =>
    cases entry with
    | directory =>
      rw [follow_name_of_directory hentry] at h
      exact Or.inl ⟨rfl, h⟩
    | file content =>
      rw [follow_name_of_file hentry] at h
      split at h
      · next hempty =>
        exact Or.inr ⟨⟨content, rfl⟩, List.isEmpty_iff.1 hempty,
          (Arrival.there.inj (Except.ok.inj h)).symm⟩
      · cases h
    | link target => exact absurd hentry (hd.no_link _ _)

/-- Names lead nowhere but to the location that they make. -/
theorem eq_append_of_follow {names : Location}
    (hnames : ∀ name ∈ names, Path.IsName (Text.toBytes name)) {links : Nat} {at_ l : Location}
    (h : d.follow true links at_ (names.map fun name => wayOf (Text.toBytes name)) =
      .ok (.there l)) : l = at_ ++ names := by
  induction names generalizing at_ with
  | nil =>
    rw [List.map_nil, follow] at h
    rw [List.append_nil, Arrival.there.inj (Except.ok.inj h)]
  | cons name rest ih =>
    have hrest := fun n hn => hnames n (List.mem_cons_of_mem name hn)
    rw [List.map_cons, wayOf_toBytes (hnames name List.mem_cons_self)] at h
    by_cases hlong : nameLimit < (Text.toBytes name).length
    · rw [if_pos hlong, follow] at h
      cases h
    rw [if_neg hlong] at h
    rcases hd.follow_name_cases h with ⟨-, h⟩ | ⟨-, hnil, rfl⟩
    · rw [ih hrest h, List.append_assoc, List.singleton_append]
    · rw [List.map_eq_nil_iff.1 hnil]

/-- **A path leads nowhere but to the location that it spells.** -/
theorem eq_of_resolve {p : Path} {l m : Location} (hp : p.Spells m) (h : d.resolve p = .ok l) :
    l = m := by
  have hpath := resolve_ofComponents hp.isAbsolute h
  rw [hp.ofComponents_eq] at hpath
  obtain ⟨-, -, -, hfollow⟩ := resolve_eq_ok_iff.1 hpath
  rw [waysOf_of_isAbsolute (Location.isAbsolute_path m), Location.pieces_path hp.isName] at hfollow
  split at hfollow
  · next hnil =>
    -- the root has a piece that stays where it is
    have hways : ([[]] : List (List UInt8)).map wayOf = [.ok .here] := rfl
    rw [hways, follow, follow] at hfollow
    rw [hnil, Arrival.there.inj (Except.ok.inj hfollow)]
  · rw [List.map_map] at hfollow
    exact hd.eq_append_of_follow hp.isName hfollow

/-- A path is known by itself or by the location that it spells. -/
theorem normalize_eq_or {p : Path} {m : Location} (hp : p.Spells m) :
    d.normalize p = p ∨ d.normalize p = m.path := by
  unfold normalize
  cases hresolve : d.resolve p with
  | ok l => exact Or.inr (congrArg Location.path (hd.eq_of_resolve hp hresolve))
  | error e =>
    dsimp only
    rcases List.eq_nil_or_concat m with rfl | ⟨init, last, rfl⟩
    · rw [hp.parent?_nil]
      exact Or.inl rfl
    · rw [List.concat_eq_append] at hp ⊢
      have hnames := hp.isName
      have hinit : ∀ name ∈ init, Path.IsName (Text.toBytes name) :=
        fun name hname => hnames name (List.mem_append_left _ hname)
      have hspells := Location.spells_path hinit
      rw [hp.parent?_concat, hp.fileName?_concat]
      dsimp only
      split
      · exact Or.inl rfl
      · cases hdirectory : d.resolve (Location.path init) with
        | error e => exact Or.inl rfl
        | ok l =>
          refine Or.inr ?_
          dsimp only
          rw [hd.eq_of_resolve hspells hdirectory]
          exact Location.join_path hinit (hnames last (by simp))

/-- **The path of a location is that by which it is known.** -/
theorem normalize_path {m : Location} (hm : ∀ name ∈ m, Path.IsName (Text.toBytes name)) :
    d.normalize m.path = m.path := by
  rcases hd.normalize_eq_or (Location.spells_path hm) with h | h
  · exact h
  · exact h

/-- **Paths by which one file is known have one URL**, if they spell locations. -/
theorem ofPath?_eq {q : Path} {l m : Location}
    (hl : ∀ name ∈ l, Path.IsName (Text.toBytes name)) (hq : q.Spells m)
    (h : FileId.ofPath d q = ⟨l.path.display⟩) : Url.ofPath? q = Url.ofPath? l.path := by
  -- the file is known by a path with the same components
  obtain ⟨x, hx, hnormal⟩ : ∃ x : Path, x.Spells m ∧ d.normalize q = x := by
    rcases hd.normalize_eq_or hq with hself | hpath
    · exact ⟨q, hq, hself⟩
    · exact ⟨m.path, Location.spells_path hq.isName, hpath⟩
  have hsame : x = l.path := by
    rw [FileId.ofPath, hnormal] at h
    exact hx.eq_of_display_eq (Location.spells_path hl) (congrArg FileId.text h)
  rw [← hsame, Url.ofPath?, Url.ofPath?, if_pos hq.isAbsolute, if_pos hx.isAbsolute, hq.components,
    hx.components]

end IsTree

end Disk

end SailNav
