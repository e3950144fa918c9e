import SailNav.Proofs.Session.Frame

/-!
# Touches that come to nothing

A file that is tracked and is given a text again keeps its place among the files, whatever texts it
had in between: it is never taken out, so its ordinal is never given away. So some touches that give
texts to tracked files, and in the end the texts that the files had, leave the analysis as it was,
down to the ordinals, the positions and the next ordinal (`SailNav.Analysis.UpToDate.same_foldl`).
In particular the same touches a second time change nothing
(`SailNav.Analysis.UpToDate.same_again`).

The analysis is then the same in all it keeps. Only the search tree of the names may be balanced in
another way, so of this it is said that the entries are the same (`SailNav.Analysis.Same`).
-/

namespace SailNav

/-! ### Tables with the same keys -/

/-- The entries of a table, key by key. -/
theorem Table.entries_eq_filterMap {K V : Type} [DecidableEq K] {t : Table K V}
    (ht : t.keys.Nodup) :
    t.entries = t.keys.filterMap fun k => (t.get? k).map fun v => (k, v) := by
  rw [keys, List.filterMap_map]
  refine (List.filterMap_some.symm).trans (List.filterMap_congr fun e he => ?_)
  have hget : t.get? e.1 = some e.2 := get?_of_mem_entries ht he
  rw [Function.comp_apply, hget]
  rfl

/-- A table is known by its keys in their order and by the value of each. -/
theorem Table.eq_of_get?_eq {K V : Type} [DecidableEq K] {t u : Table K V} (ht : t.keys.Nodup)
    (hkeys : u.keys = t.keys) (hget : ∀ k ∈ t.keys, u.get? k = t.get? k) : u = t := by
  have hentries : u.entries = t.entries := by
    rw [entries_eq_filterMap (hkeys ▸ ht), entries_eq_filterMap ht, hkeys]
    exact List.filterMap_congr fun k hk => by rw [hget k hk]
  rcases t with ⟨entries⟩
  exact congrArg Table.mk hentries

/-! ### Files that keep their places -/

/-- **The files of an index keep their places**: they are the same in the same order, with the same
ordinals, and a new file would get the same ordinal. -/
structure Index.KeepsPlaces (x y : Index) : Prop where
  keys : y.files.keys = x.files.keys
  ordinalOf : ∀ file, y.ordinalOf file = x.ordinalOf file
  nextOrdinal : y.nextOrdinal = x.nextOrdinal

namespace Index.KeepsPlaces

variable {x y z : Index}

theorem refl (x : Index) : x.KeepsPlaces x := ⟨rfl, fun _ => rfl, rfl⟩

theorem trans (h : x.KeepsPlaces y) (h' : y.KeepsPlaces z) : x.KeepsPlaces z where
  keys := h'.keys.trans h.keys
  ordinalOf file := (h'.ordinalOf file).trans (h.ordinalOf file)
  nextOrdinal := h'.nextOrdinal.trans h.nextOrdinal

/-- A file that is indexed again keeps its place, and so do the others. -/
theorem upsert {file : FileId} (h : file ∈ x.files.keys) (ds : List Definition) :
    x.KeepsPlaces (x.upsert file ds) where
  keys := by
    show (x.files.put file _).keys = _
    rw [Table.keys_put, if_pos h]
  ordinalOf g := by
    have hfiles : (x.upsert file ds).files = x.files.put file _ := rfl
    unfold Index.ordinalOf
    rw [hfiles, Table.get?_put]
    by_cases hg : file = g
    · rw [if_pos hg, ← hg]
      rfl
    · rw [if_neg hg, Index.upsert, if_pos (Table.contains_iff.2 h)]
  nextOrdinal := if_pos (Table.contains_iff.2 h)

end Index.KeepsPlaces

namespace Analysis

/-- **Two analyses are the same**: they have the same snapshots in the same order, the same sites
with the same ordinals and positions, the same next ordinal, and under every name the same sites. -/
structure Same (a b : Analysis) : Prop where
  files : b.files = a.files
  indexed : b.index.files = a.index.files
  nextOrdinal : b.index.nextOrdinal = a.index.nextOrdinal
  byName : b.index.byName.Equiv a.index.byName

namespace Same

variable {a b : Analysis}

theorem refl (a : Analysis) : a.Same a := ⟨rfl, rfl, rfl, .rfl⟩

theorem snapshot? (h : a.Same b) (file : FileId) : b.snapshot? file = a.snapshot? file := by
  rw [Analysis.snapshot?, h.files, Analysis.snapshot?]

theorem trackedFiles (h : a.Same b) : b.trackedFiles = a.trackedFiles := by
  rw [Analysis.trackedFiles, Index.fileIds, h.indexed, Analysis.trackedFiles, Index.fileIds]

/-- The sites of every name are the same, in the same order. -/
theorem lookup (h : a.Same b) (name : String) : b.index.lookup name = a.index.lookup name := by
  rw [Index.lookup, Std.TreeMap.get?_eq_getElem?, h.byName.getElem?_eq, Index.lookup,
    Std.TreeMap.get?_eq_getElem?]

/-- Searches find the same. -/
theorem search (h : a.Same b) (query : String) (limit : Nat) :
    b.index.search query limit = a.index.search query limit := by
  rw [Index.search, h.byName.toList_eq, Index.search]

end Same

namespace UpToDate

variable {a b : Analysis}

/-- What is indexed of a file is read off its text and its ordinal. -/
theorem indexed?_eq (h : a.UpToDate) {file : FileId} {text : String}
    (htext : a.textOf? file = some text) :
    a.index.files.get? file =
      some ⟨a.index.ordinalOf file,
        Site.ofFile file (a.index.ordinalOf file) (definitionsIn text)⟩ := by
  have hmem : (file, definitionsIn text) ∈ a.index.roster := by
    rw [h.roster]
    exact List.mem_map_of_mem (mem_texts_of_textOf? htext)
  obtain ⟨⟨file', f⟩, hentry, heq⟩ := List.mem_map.1 hmem
  obtain ⟨rfl, hdefinitions⟩ := Prod.mk.inj heq
  obtain ⟨ds, hds⟩ := h.filed.sited _ hentry
  have hordinal := h.filed.ordinalOf_eq hentry
  rw [hds, Site.map_definition_ofFile] at hdefinitions
  rw [Table.get?_of_mem_entries h.filed.nodup hentry, hordinal, ← hdefinitions, ← hds]

/-- **An analysis is known by the places of its files and their texts.** -/
theorem same (ha : a.UpToDate) (hb : b.UpToDate) (hplaces : a.index.KeepsPlaces b.index)
    (htext : ∀ file, b.textOf? file = a.textOf? file) : a.Same b := by
  have htracked {file : FileId} (hfile : file ∈ a.files.keys) :
      ∃ text, a.textOf? file = some text := by
    obtain ⟨s, hs⟩ := Option.isSome_iff_exists.1 (Table.contains_iff.2 hfile)
    exact ⟨s.text, by rw [textOf?, snapshot?, hs, Option.map_some]⟩
  have hindexed : b.index.files = a.index.files := by
    refine Table.eq_of_get?_eq ha.filed.nodup hplaces.keys fun file hfile => ?_
    obtain ⟨text, hatext⟩ := htracked (ha.keys_eq ▸ hfile)
    rw [hb.indexed?_eq ((htext file).trans hatext), ha.indexed?_eq hatext, hplaces.ordinalOf]
  refine ⟨?_, hindexed, hplaces.nextOrdinal, ?_⟩
  · have hkeys : b.files.keys = a.files.keys := by rw [← hb.keys_eq, hplaces.keys, ha.keys_eq]
    refine Table.eq_of_get?_eq ha.nodup hkeys fun file hfile => ?_
    obtain ⟨text, hatext⟩ := htracked hfile
    have hmem := mem_texts_of_textOf? hatext
    have hmem' := mem_texts_of_textOf? ((htext file).trans hatext)
    exact (hb.snapshot?_eq hmem').trans (ha.snapshot?_eq hmem).symm
  · refine .of_forall_constGet?_eq fun name => ?_
    rw [hb.named name, ha.named name, Index.sites, hindexed, Index.sites]

/-- A touch that gives a tracked file a text leaves all files at their places. -/
theorem keepsPlaces_touch (h : a.UpToDate) {t : Touch} (htext : t.text.isSome = true)
    (hfile : a.isTracked t.file = true) : a.index.KeepsPlaces (a.touch t).index := by
  obtain ⟨text, ht⟩ := Option.isSome_iff_exists.1 htext
  rw [isTracked, Table.contains_iff, ← h.keys_eq] at hfile
  rw [Analysis.touch, ht]
  exact .upsert hfile _

/-- So do several such touches. -/
theorem keepsPlaces_foldl (h : a.UpToDate) {ts : List Touch}
    (hts : ∀ t ∈ ts, t.text.isSome = true ∧ a.isTracked t.file = true) :
    a.index.KeepsPlaces (ts.foldl Analysis.touch a).index := by
  induction ts generalizing a with
  | nil => exact .refl _
  | cons t rest ih =>
    obtain ⟨⟨htext, hfile⟩, hrest⟩ := List.forall_mem_cons.1 hts
    have hplaces := h.keepsPlaces_touch htext hfile
    refine hplaces.trans (ih (h.touch t) fun u hu => ⟨(hrest u hu).1, ?_⟩)
    -- the files that are tracked are the same after the first touch
    have hkeys : (a.touch t).files.keys = a.files.keys := by
      rw [← (h.touch t).keys_eq, hplaces.keys, h.keys_eq]
    rw [isTracked, Table.contains_iff, hkeys, ← Table.contains_iff]
    exact (hrest u hu).2

/-- **Touches that come to nothing**: they give texts to tracked files, and the last touch of each
file gives it the text that it had. -/
theorem same_foldl (h : a.UpToDate) {ts : List Touch}
    (hts : ∀ t ∈ ts, t.text.isSome = true ∧ a.isTracked t.file = true)
    (hlast : ∀ file t, Touch.last? ts file = some t → t.text = a.textOf? file) :
    a.Same (ts.foldl Analysis.touch a) := by
  refine h.same (h.foldl_touch ts) (h.keepsPlaces_foldl hts) fun file => ?_
  rw [textOf?_foldl_touch]
  rcases ht : Touch.last? ts file with _ | t
  · rfl
  · exact hlast file t ht

end UpToDate

end Analysis

end SailNav
