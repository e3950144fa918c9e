import Mathlib.Data.List.Nodup
import SailNav.Index.Basic
import SailNav.Proofs.Index.Roster

/-!
# The index as an ordered list of files

An index keeps its sites twice and numbers its files. Seen from outside it is something much
simpler, a list of files with their definitions (`SailNav.Roster`): a file that is indexed again
has its definitions replaced where it stands, a new one comes at the end, and one that is removed is
gone. Whatever an index is asked, the answer is that of the list (`SailNav.Index.Refines`).

The invariant has two halves, and they are kept apart because only one of them speaks of names.

* `SailNav.Index.Filed` is about the files: their ordinals go up along the list and stay below the
  next one, and the sites of a file are made from its definitions. So the sites of all files, read
  along the list, are in the order of discovery.
* `SailNav.Index.Named` is about the names: under a name stand the sites of that name, the latest
  first, and a name without sites is no key.

For the second half the order of the sites does all the work. Taking a file out and putting it in
again leaves the right sites under a name, in whatever order; both lists are sorted by discovery,
and two sorted lists of the same sites are equal.
-/

namespace SailNav

/-! ### Changes of an index -/

/-- A change of one file of an index. -/
inductive IndexChange where
  /-- The definitions of the file are replaced. -/
  | upsert (file : FileId) (definitions : List Definition)
  | remove (file : FileId)

namespace IndexChange

/-- The file that is changed. -/
def file : IndexChange → FileId
  | upsert file _ => file
  | remove file => file

/-- The roster of definitions after a change. -/
def onRoster (r : Roster (List Definition)) : IndexChange → Roster (List Definition)
  | upsert file definitions => r.set file definitions
  | remove file => r.drop file

/-- The index after a change. -/
def onIndex (x : Index) : IndexChange → Index
  | upsert file definitions => x.upsert file definitions
  | remove file => x.remove file

end IndexChange

namespace Index

/-- The index that some changes lead to. -/
def ofChanges (changes : List IndexChange) : Index := changes.foldl IndexChange.onIndex empty

/-- **What an index is about**: its files in order, with their definitions. -/
def roster (x : Index) : Roster (List Definition) :=
  x.files.entries.map fun e => (e.1, e.2.sites.map Site.definition)

/-- The sites of all files, file after file. -/
def sites (x : Index) : List Site := x.files.entries.flatMap fun e => e.2.sites

/-! ### Files and ordinals -/

/-- **The files of an index are in order**: no file comes twice, the ordinals go up and are below
the next one, and the sites of a file are those of some definitions. -/
structure Filed (x : Index) : Prop where
  nodup : x.files.keys.Nodup
  ordered : (x.files.entries.map fun e => e.2.ordinal).Pairwise (· < ·)
  below : ∀ e ∈ x.files.entries, e.2.ordinal < x.nextOrdinal
  sited : ∀ e ∈ x.files.entries, ∃ ds, e.2.sites = Site.ofFile e.1 e.2.ordinal ds

/-- An index without files is in order. -/
theorem filed_empty : empty.Filed where
  nodup := List.nodup_nil
  ordered := .nil
  below := by simp [empty, Table.empty]
  sited := by simp [empty, Table.empty]

/-- A file that is not there is given the next ordinal. -/
theorem ordinalOf_of_not_mem {x : Index} {file : FileId} (h : file ∉ x.files.keys) :
    x.ordinalOf file = x.nextOrdinal := by
  rw [ordinalOf, Table.get?_eq_none_iff.2 h]

namespace Filed

variable {x : Index}

/-- A file that is there has the ordinal that is kept with it. -/
theorem ordinalOf_eq (h : x.Filed) {e : FileId × IndexedFile} (he : e ∈ x.files.entries) :
    x.ordinalOf e.1 = e.2.ordinal := by
  rw [ordinalOf, Table.get?_of_mem_entries h.nodup he]

/-- A site knows the file that it stands under, and its ordinal. -/
theorem file_of_mem (h : x.Filed) {e : FileId × IndexedFile} (he : e ∈ x.files.entries) {s : Site}
    (hs : s ∈ e.2.sites) : s.file = e.1 ∧ s.ordinal = e.2.ordinal := by
  obtain ⟨ds, hds⟩ := h.sited e he
  have hmem := Site.mem_ofFile (hds ▸ hs)
  exact ⟨hmem.1, hmem.2.1⟩

/-- Two files have two ordinals. -/
theorem eq_of_ordinal (h : x.Filed) {d e : FileId × IndexedFile} (hd : d ∈ x.files.entries)
    (he : e ∈ x.files.entries) (hde : d.2.ordinal = e.2.ordinal) : d = e := by
  have hn : (x.files.entries.map fun e => e.2.ordinal).Nodup := h.ordered.imp Nat.ne_of_lt
  exact List.inj_on_of_nodup_map hn hd he hde

/-- The sites of a file are those with its ordinal. -/
theorem ordinal_eq_iff (h : x.Filed) {s : Site} (hs : s ∈ x.sites) (file : FileId) :
    s.ordinal = x.ordinalOf file ↔ s.file = file := by
  obtain ⟨e, he, hse⟩ := List.mem_flatMap.1 hs
  obtain ⟨hfile, hordinal⟩ := h.file_of_mem he hse
  constructor
  · intro ho
    by_cases hk : file ∈ x.files.keys
    · -- two files with one ordinal are the same
      obtain ⟨d, hd, rfl⟩ := List.mem_map.1 hk
      rw [h.ordinalOf_eq hd, hordinal] at ho
      rw [hfile, h.eq_of_ordinal he hd ho]
    · -- the next ordinal is that of no site
      rw [ordinalOf_of_not_mem hk, hordinal] at ho
      exact absurd ho (Nat.ne_of_lt (h.below e he))
  · rintro rfl
    rw [hfile, h.ordinalOf_eq he, hordinal]

/-- **The sites of all files are in the order of discovery.** -/
theorem pairwise_sites (h : x.Filed) : x.sites.Pairwise fun s t => s.precedes t = true := by
  refine List.pairwise_flatMap.2 ⟨fun e he => ?_, ?_⟩
  · -- in one file the positions decide
    obtain ⟨ds, hds⟩ := h.sited e he
    rw [hds]
    exact Site.pairwise_ofFile e.1 e.2.ordinal ds
  · -- between two files the ordinals do
    refine (List.pairwise_map.1 h.ordered).imp_of_mem fun hd he hde s hs t ht => ?_
    rw [Site.precedes_iff, (h.file_of_mem hd hs).2, (h.file_of_mem he ht).2]
    exact Or.inl hde

/-- Removing a file leaves the others in order. -/
theorem remove (h : x.Filed) (file : FileId) : (x.remove file).Filed where
  nodup := Table.nodup_keys_erase h.nodup file
  ordered := h.ordered.sublist (List.filter_sublist.map _)
  below e he := h.below e (List.mem_of_mem_filter he)
  sited e he := h.sited e (List.mem_of_mem_filter he)

/-- Indexing a file leaves all files in order. -/
theorem upsert (h : x.Filed) (file : FileId) (ds : List Definition) : (x.upsert file ds).Filed := by
  have hnodup : (x.upsert file ds).files.keys.Nodup := Table.nodup_keys_put h.nodup file _
  by_cases hk : file ∈ x.files.keys
  · -- the file keeps its place and its ordinal, so the ordinals are what they were
    have hentries : (x.upsert file ds).files.entries = _ := Table.entries_put_of_mem h.nodup hk _
    have hnext : (x.upsert file ds).nextOrdinal = x.nextOrdinal :=
      if_pos (Table.contains_iff.2 hk)
    have hordinals : (x.upsert file ds).files.entries.map (fun e => e.2.ordinal) =
        x.files.entries.map fun e => e.2.ordinal := by
      rw [hentries, List.map_map]
      refine List.map_congr_left fun e he => ?_
      by_cases hfile : e.1 = file
      · simp [← hfile, h.ordinalOf_eq he]
      · simp [hfile]
    refine ⟨hnodup, hordinals ▸ h.ordered, fun e he => ?_, fun e he => ?_⟩
    · have hmem := List.mem_map_of_mem (f := fun e => e.2.ordinal) he
      rw [hordinals] at hmem
      obtain ⟨d, hd, hde⟩ := List.mem_map.1 hmem
      rw [hnext, ← hde]
      exact h.below d hd
    · rw [hentries] at he
      obtain ⟨d, hd, rfl⟩ := List.mem_map.1 he
      by_cases hfile : d.1 = file
      · rw [if_pos hfile]
        exact ⟨ds, rfl⟩
      · rw [if_neg hfile]
        exact h.sited d hd
  · -- the file is new, and its ordinal is above all others
    have hentries : (x.upsert file ds).files.entries = _ := Table.entries_put_of_not_mem hk _
    have hnext : (x.upsert file ds).nextOrdinal = x.nextOrdinal + 1 :=
      if_neg fun hc => hk (Table.contains_iff.1 hc)
    refine ⟨hnodup, ?_, fun e he => ?_, fun e he => ?_⟩
    · rw [hentries, List.map_append, List.pairwise_append]
      refine ⟨h.ordered, List.pairwise_singleton _ _, fun m hm n hn => ?_⟩
      obtain ⟨d, hd, rfl⟩ := List.mem_map.1 hm
      rw [List.mem_singleton.1 hn, ordinalOf_of_not_mem hk]
      exact h.below d hd
    · rw [hnext]
      rw [hentries, List.mem_append, List.mem_singleton] at he
      rcases he with he | rfl
      · exact Nat.lt_succ_of_lt (h.below e he)
      · rw [ordinalOf_of_not_mem hk]
        exact Nat.lt_succ_self _
    · rw [hentries, List.mem_append, List.mem_singleton] at he
      rcases he with he | rfl
      · exact h.sited e he
      · exact ⟨ds, rfl⟩

end Filed

/-! ### The sites after a change -/

/-- Indexing a file sets its definitions in the roster. -/
theorem roster_upsert {x : Index} (h : x.Filed) (file : FileId) (ds : List Definition) :
    (x.upsert file ds).roster = x.roster.set file ds := by
  have hentries : (x.upsert file ds).files.entries = _ := Roster.entries_put h.nodup file _
  have hset := Roster.mapValues_set (fun f : IndexedFile => f.sites.map Site.definition)
    x.files.entries file ⟨x.ordinalOf file, Site.ofFile file (x.ordinalOf file) ds⟩
  rw [Site.map_definition_ofFile] at hset
  rw [roster, hentries]
  exact hset

/-- Removing a file drops it from the roster. -/
theorem roster_remove (x : Index) (file : FileId) : (x.remove file).roster = x.roster.drop file :=
  Roster.mapValues_drop (fun f : IndexedFile => f.sites.map Site.definition) x.files.entries file

/-- The sites of some files are found file after file. -/
theorem filter_sites {x : Index} (h : x.Filed) (keep : FileId → Bool) :
    (x.sites.filter fun s => keep s.file) =
      (x.files.entries.filter fun e => keep e.1).flatMap fun e => e.2.sites := by
  have hsites : ∀ entries : List (FileId × IndexedFile), (∀ e ∈ entries, e ∈ x.files.entries) →
      ((entries.flatMap fun e => e.2.sites).filter fun s => keep s.file) =
        (entries.filter fun e => keep e.1).flatMap fun e => e.2.sites := by
    intro entries hentries
    induction entries with
    | nil => rfl
    | cons e rest ih =>
      have he := hentries e (List.mem_cons_self ..)
      have hrest := ih fun d hd => hentries d (List.mem_cons_of_mem _ hd)
      rw [List.flatMap_cons, List.filter_append, hrest]
      by_cases hfile : keep e.1 = true
      · -- the file stays, and all sites in it
        have hall : (e.2.sites.filter fun s => keep s.file) = e.2.sites :=
          List.filter_eq_self.2 fun s hs => by rw [(h.file_of_mem he hs).1, hfile]
        rw [List.filter_cons, if_pos hfile, hall, List.flatMap_cons]
      · -- the file goes, and all sites in it
        have hnone : (e.2.sites.filter fun s => keep s.file) = [] :=
          List.filter_eq_nil_iff.2 fun s hs => by rwa [(h.file_of_mem he hs).1]
        rw [List.filter_cons, if_neg hfile, hnone, List.nil_append]
  exact hsites x.files.entries fun _ he => he

/-- Removing a file leaves the sites of the others, in their order. -/
theorem sites_remove {x : Index} (h : x.Filed) (file : FileId) :
    (x.remove file).sites = x.sites.filter fun s => s.file ≠ file :=
  (filter_sites h fun g => g ≠ file).symm

/-- The sites after a file is indexed, in some order. -/
theorem sites_upsert_perm {x : Index} (h : x.Filed) (file : FileId) (ds : List Definition) :
    (x.upsert file ds).sites.Perm
      (Site.ofFile file (x.ordinalOf file) ds ++ x.sites.filter fun s => s.file ≠ file) := by
  rw [← sites_remove h]
  exact (Table.entries_put_perm h.nodup file _).flatMap_right fun e => e.2.sites

/-! ### The sites of a name -/

/-- What is kept for a name with some sites: nothing when it has none. -/
def kept : List Site → Option (List Site)
  | [] => none
  | sites => some sites

/-- What is kept can be read off again. -/
theorem getD_kept (sites : List Site) : (kept sites).getD [] = sites := by
  cases sites <;> rfl

/-- Something is kept for a name that has a site. -/
theorem isSome_kept {sites : List Site} : (kept sites).isSome = true ↔ ∃ s, s ∈ sites := by
  cases sites with
  | nil => simp [kept]
  | cons s rest => exact ⟨fun _ => ⟨s, List.mem_cons_self ..⟩, fun _ => rfl⟩

theorem kept_of_ne_nil {sites : List Site} (h : sites ≠ []) : kept sites = some sites := by
  cases sites with
  | nil => exact absurd rfl h
  | cons => rfl

/-- **Under a name stand its sites**, the latest first, and a name without sites is no key. -/
def Named (x : Index) : Prop :=
  ∀ name, x.byName[name]? = kept (x.sites.filter fun s => s.name = name).reverse

/-- Removing an ordinal from what is kept keeps the sites with other ordinals. -/
theorem bind_removeOrdinal (ordinal : Nat) (sites : List Site) :
    (kept sites).bind (removeOrdinal ordinal) =
      kept (sites.filter fun s => s.ordinal != ordinal) := by
  cases sites with
  | nil => rfl
  | cons s rest =>
    rw [kept_of_ne_nil (List.cons_ne_nil _ _), Option.bind_some, removeOrdinal]
    cases (s :: rest).filter fun s => s.ordinal != ordinal <;> rfl

/-- Detaching a site concerns the sites of its name. -/
theorem getElem?_detach (byName : Std.TreeMap String (List Site)) (s : Site) (name : String) :
    (detach byName s)[name]? =
      if s.name = name then byName[s.name]?.bind (removeOrdinal s.ordinal) else byName[name]? := by
  rw [detach, Std.TreeMap.getElem?_alter]
  simp only [Std.LawfulEqCmp.compare_eq_iff_eq]

/-- Attaching a site concerns the sites of its name. -/
theorem getElem?_attach (byName : Std.TreeMap String (List Site)) (s : Site) (name : String) :
    (attach byName s)[name]? =
      if s.name = name then some (insertSite s (byName[s.name]?.getD [])) else byName[name]? := by
  rw [attach, Std.TreeMap.getElem?_alter]
  simp only [Std.LawfulEqCmp.compare_eq_iff_eq]

/-- Taking sites out, name by name, leaves under each name the sites with other ordinals. What is
under a name is only touched when one of the sites has the name, and that is enough. -/
theorem getElem?_foldl_detach {ordinal : Nat} {sites : List Site}
    (hsites : ∀ s ∈ sites, s.ordinal = ordinal) {byName : Std.TreeMap String (List Site)}
    {name : String} {l : List Site} (hl : byName[name]? = kept l)
    (htouched : ∀ t ∈ l, t.ordinal = ordinal → ∃ s ∈ sites, s.name = name) :
    (sites.foldl detach byName)[name]? = kept (l.filter fun t => t.ordinal != ordinal) := by
  -- along the sites that are taken out; what is left under the name changes on the way
  induction sites generalizing byName l with
  | nil =>
    have hall : (l.filter fun t => t.ordinal != ordinal) = l := by
      refine List.filter_eq_self.2 fun t ht => bne_iff_ne.2 fun ho => ?_
      obtain ⟨s, hs, -⟩ := htouched t ht ho
      exact absurd hs List.not_mem_nil
    rw [hall, List.foldl_nil, hl]
  | cons s rest ih =>
    have ho := hsites s (List.mem_cons_self ..)
    have hrest := fun t ht => hsites t (List.mem_cons_of_mem s ht)
    rw [List.foldl_cons]
    by_cases hname : s.name = name
    · -- all sites of the name with the ordinal go at once, and nothing is left for the rest
      have hstep : (detach byName s)[name]? = kept (l.filter fun t => t.ordinal != ordinal) := by
        rw [getElem?_detach, if_pos hname, hname, hl, ho, bind_removeOrdinal]
      rw [ih hrest hstep fun t ht ht' => absurd ht' (bne_iff_ne.1 (List.mem_filter.1 ht).2),
        List.filter_filter]
      simp only [Bool.and_self]
    · refine ih hrest (by rw [getElem?_detach, if_neg hname, hl]) fun t ht ht' => ?_
      obtain ⟨s', hs', hs'name⟩ := htouched t ht ht'
      rcases List.mem_cons.1 hs' with rfl | hs'
      · exact absurd hs'name hname
      · exact ⟨s', hs', hs'name⟩

/-- Putting sites in, name by name, inserts under each name the sites that have it. -/
theorem getElem?_foldl_attach (sites : List Site) {byName : Std.TreeMap String (List Site)}
    {name : String} {l : List Site} (hl : byName[name]? = kept l) :
    (sites.foldl attach byName)[name]? =
      kept ((sites.filter fun s => s.name = name).foldl (fun l s => insertSite s l) l) := by
  induction sites generalizing byName l with
  | nil => rw [List.foldl_nil, hl, List.filter_nil, List.foldl_nil]
  | cons s rest ih =>
    rw [List.foldl_cons]
    by_cases hname : s.name = name
    · have hstep : (attach byName s)[name]? = kept (insertSite s l) := by
        rw [getElem?_attach, if_pos hname, hname, hl, getD_kept, kept_of_ne_nil]
        simp [insertSite]
      rw [ih hstep, List.filter_cons_of_pos (by simp [hname]), List.foldl_cons]
    · rw [ih (by rw [getElem?_attach, if_neg hname, hl]),
        List.filter_cons_of_neg (by simp [hname])]

/-! ### Sites in the order of discovery -/

/-- Of two sites, one was discovered before the other. -/
def Apart (s t : Site) : Prop := s.precedes t = true ∨ t.precedes s = true

theorem Apart.symm {s t : Site} (h : Apart s t) : Apart t s := Or.symm h

/-- Sites, the latest first. -/
def LatestFirst (sites : List Site) : Prop := sites.Pairwise fun s t => t.precedes s = true

/-- Sites that are sorted by discovery are known from which sites they are. -/
theorem LatestFirst.eq_of_perm {l m : List Site} (hl : LatestFirst l) (hm : LatestFirst m)
    (h : l.Perm m) : l = m :=
  h.eq_of_pairwise
    (fun _ _ _ _ hst hts => absurd hts (by rw [Site.precedes_asymm hst]; exact Bool.false_ne_true))
    hl hm

/-- A site is inserted behind the sites that it precedes. -/
theorem insertSite_cons (s t : Site) (l : List Site) :
    insertSite s (t :: l) = if s.precedes t then t :: insertSite s l else s :: t :: l := by
  unfold insertSite
  by_cases h : s.precedes t = true <;> simp [h]

/-- Inserting a site adds it. -/
theorem insertSite_perm (s : Site) (l : List Site) : (insertSite s l).Perm (s :: l) := by
  have h : (insertSite s l).Perm (s :: (l.takeWhile s.precedes ++ l.dropWhile s.precedes)) :=
    List.perm_middle
  rwa [List.takeWhile_append_dropWhile] at h

/-- A site that is apart from all others is inserted at its place. -/
theorem LatestFirst.insertSite {l : List Site} (h : LatestFirst l) {s : Site}
    (hs : ∀ t ∈ l, Apart s t) : LatestFirst (insertSite s l) := by
  induction l with
  | nil => exact List.pairwise_singleton _ _
  | cons t l ih =>
    obtain ⟨ht, hl⟩ := List.pairwise_cons.1 h
    rw [insertSite_cons]
    split
    · next hst =>
      -- the head is later than the site, so the site goes further in
      refine List.pairwise_cons.2 ⟨fun u hu => ?_, ih hl fun u hu => hs u (.tail _ hu)⟩
      rcases List.mem_cons.1 ((insertSite_perm s l).mem_iff.1 hu) with rfl | hu
      · exact hst
      · exact ht u hu
    · next hst =>
      -- the head is earlier, and so are all behind it
      have hts : t.precedes s = true := (hs t (List.mem_cons_self ..)).resolve_left hst
      refine List.pairwise_cons.2 ⟨fun u hu => ?_, h⟩
      rcases List.mem_cons.1 hu with rfl | hu
      · exact hts
      · exact Site.precedes_trans (ht u hu) hts

/-- Sites inserted one by one come to stand in the order of discovery, whatever order they came
in. -/
theorem foldl_insertSite {sites l : List Site} (hl : LatestFirst l)
    (hall : (sites ++ l).Pairwise Apart) :
    LatestFirst (sites.foldl (fun l s => insertSite s l) l) ∧
      (sites.foldl (fun l s => insertSite s l) l).Perm (sites ++ l) := by
  induction sites generalizing l with
  | nil => exact ⟨hl, .refl _⟩
  | cons s rest ih =>
    obtain ⟨hs, hrest⟩ := List.pairwise_cons.1 hall
    have hins : LatestFirst (insertSite s l) :=
      hl.insertSite fun t ht => hs t (List.mem_append_right _ ht)
    have hperm : (rest ++ insertSite s l).Perm (s :: (rest ++ l)) :=
      ((insertSite_perm s l).append_left rest).trans List.perm_middle
    obtain ⟨hlatest, hp⟩ := ih hins ((hperm.pairwise_iff Apart.symm).2 hall)
    exact ⟨hlatest, hp.trans hperm⟩

/-! ### Names after a change -/

/-- Without files there are no names. -/
theorem named_empty : empty.Named := fun name => by
  simp [empty, sites, Table.empty, kept]

namespace Named

variable {x : Index}

/-- The sites of a name after a file is taken out. -/
theorem getElem?_namesWithout (h : x.Named) (hf : x.Filed) (file : FileId) (name : String) :
    (x.namesWithout file)[name]? =
      kept ((x.remove file).sites.filter fun s => s.name = name).reverse := by
  -- to leave out the file is to leave out its ordinal
  have hsites : ((x.remove file).sites.filter fun s => s.name = name).reverse =
      (x.sites.filter fun s => s.name = name).reverse.filter
        fun s => s.ordinal != x.ordinalOf file := by
    rw [sites_remove hf, List.filter_comm, ← List.filter_reverse]
    refine List.filter_congr fun s hs => ?_
    have hs := List.mem_of_mem_filter (List.mem_reverse.1 hs)
    have := hf.ordinal_eq_iff hs file
    rw [Bool.eq_iff_iff, decide_eq_true_iff, bne_iff_ne, ne_eq, ne_eq, this]
  rw [hsites]
  unfold namesWithout
  cases hget : x.files.get? file with
  | some f =>
    have hmem := Table.mem_entries_of_get? hget
    have ho : x.ordinalOf file = f.ordinal := hf.ordinalOf_eq hmem
    rw [ho]
    refine getElem?_foldl_detach (fun s hs => (hf.file_of_mem hmem hs).2) (h name)
      fun t ht hto => ⟨t, ?_, ?_⟩
    · -- a site with the ordinal of the file is one of its sites
      obtain ⟨e, he, hte⟩ := List.mem_flatMap.1 (List.mem_of_mem_filter (List.mem_reverse.1 ht))
      have heq := hf.eq_of_ordinal he hmem ((hf.file_of_mem he hte).2.symm.trans hto)
      rw [heq] at hte
      exact hte
    · exact of_decide_eq_true (List.mem_filter.1 (List.mem_reverse.1 ht)).2
  | none =>
    -- no site has the next ordinal, so nothing is left out
    have hnone : ((x.sites.filter fun s => s.name = name).reverse.filter
        fun s => s.ordinal != x.ordinalOf file) =
          (x.sites.filter fun s => s.name = name).reverse := by
      refine List.filter_eq_self.2 fun s hs => bne_iff_ne.2 fun ho => ?_
      have hs := List.mem_of_mem_filter (List.mem_reverse.1 hs)
      obtain ⟨e, he, hse⟩ := List.mem_flatMap.1 hs
      refine Table.get?_eq_none_iff.1 hget ?_
      rw [← (hf.ordinal_eq_iff hs file).1 ho, (hf.file_of_mem he hse).1]
      exact List.mem_map_of_mem he
    rw [hnone]
    exact h name

/-- Removing a file leaves the names in order. -/
theorem remove (h : x.Named) (hf : x.Filed) (file : FileId) : (x.remove file).Named :=
  h.getElem?_namesWithout hf file

/-- Indexing a file leaves the names in order. -/
theorem upsert (h : x.Named) (hf : x.Filed) (file : FileId) (ds : List Definition) :
    (x.upsert file ds).Named := by
  intro name
  have hnames := h.getElem?_namesWithout hf file name
  refine (getElem?_foldl_attach _ hnames).trans (congrArg kept ?_)
  -- both sides hold the same sites and are sorted
  have hsorted : LatestFirst ((x.upsert file ds).sites.filter fun s => s.name = name).reverse :=
    List.pairwise_reverse.2 ((hf.upsert file ds).pairwise_sites.filter _)
  have hold : LatestFirst ((x.remove file).sites.filter fun s => s.name = name).reverse :=
    List.pairwise_reverse.2 ((hf.remove file).pairwise_sites.filter _)
  have hperm : ((x.upsert file ds).sites.filter fun s => s.name = name).reverse.Perm
      ((Site.ofFile file (x.ordinalOf file) ds).filter (fun s => s.name = name) ++
        ((x.remove file).sites.filter fun s => s.name = name).reverse) := by
    have hall := (sites_upsert_perm hf file ds).filter fun s => s.name = name
    rw [List.filter_append, ← sites_remove hf] at hall
    exact (List.reverse_perm _).trans (hall.trans ((List.reverse_perm _).symm.append_left _))
  obtain ⟨hlatest, hp⟩ := foldl_insertSite hold
    ((hperm.pairwise_iff Apart.symm).1 (hsorted.imp Or.inr))
  exact hlatest.eq_of_perm hsorted (hp.trans hperm.symm)

end Named

/-! ### The answers -/

/-- **The answers of an index are those of a roster.** The sites of a name are the definitions of
that name, file after file and in the order of discovery; those of a file are its definitions,
numbered from zero; and only names that some file defines are kept. -/
structure Refines (x : Index) (r : Roster (List Definition)) : Prop where
  nodup : (r.map Prod.fst).Nodup
  lookup : ∀ name, (x.lookup name).map (fun s => (s.file, s.definition)) =
    r.flatMap fun e => (e.2.filter fun d => d.name = name).map fun d => (e.1, d)
  increasing : ∀ name, (x.lookup name).Pairwise fun s t => s.precedes t = true
  lookup_sited : ∀ name, ∀ s ∈ x.lookup name, s ∈ x.sitesOf s.file
  definitions : ∀ e ∈ r, (x.sitesOf e.1).map Site.definition = e.2
  positions : ∀ e ∈ r, (x.sitesOf e.1).map Site.position = List.range e.2.length
  sitesOf_file : ∀ file, ∀ s ∈ x.sitesOf file, s.file = file
  sitesOf_absent : ∀ file, file ∉ r.map Prod.fst → x.sitesOf file = []
  fileIds : x.fileIds = r.map Prod.fst
  fileCount : x.fileCount = r.length
  siteCount : x.siteCount = (r.flatMap Prod.snd).length
  containsFile : ∀ file, x.containsFile file = true ↔ file ∈ r.map Prod.fst
  names : ∀ name, name ∈ x.byName ↔ ∃ e ∈ r, ∃ d ∈ e.2, d.name = name

/-- Two indexes say the same of all files but one, and in the same order. -/
structure AgreesBut (file : FileId) (x y : Index) : Prop where
  sitesOf : ∀ g, g ≠ file → y.sitesOf g = x.sitesOf g
  fileIds : (y.fileIds.filter fun g => g ≠ file) = x.fileIds.filter fun g => g ≠ file
  lookup : ∀ name, ((y.lookup name).filter fun s => s.file ≠ file) =
    (x.lookup name).filter fun s => s.file ≠ file

/-- Looking up a name goes through all sites in the order of discovery. -/
theorem lookup_eq {x : Index} (h : x.Named) (name : String) :
    x.lookup name = x.sites.filter fun s => s.name = name := by
  rw [lookup, Std.TreeMap.get?_eq_getElem?, h name, getD_kept, List.reverse_reverse]

/-- The files of the roster are those of the index. -/
theorem map_fst_roster (x : Index) : x.roster.map Prod.fst = x.files.keys :=
  Roster.map_fst_mapValues (fun f : IndexedFile => f.sites.map Site.definition) x.files.entries

/-- The sites of a file that is there are those kept with it. -/
theorem Filed.sitesOf_eq {x : Index} (h : x.Filed) {e : FileId × IndexedFile}
    (he : e ∈ x.files.entries) : x.sitesOf e.1 = e.2.sites := by
  rw [sitesOf, Table.get?_of_mem_entries h.nodup he]

/-- The sites are counted file after file. -/
theorem siteCount_eq (x : Index) : x.siteCount = (x.roster.flatMap Prod.snd).length := by
  have hfold : ∀ (entries : List (FileId × IndexedFile)) (n : Nat),
      entries.foldl (fun n e => n + e.2.sites.length) n =
        n + (entries.flatMap fun e => e.2.sites.map Site.definition).length := by
    intro entries
    induction entries with
    | nil => exact fun n => rfl
    | cons e rest ih =>
      intro n
      rw [List.foldl_cons, ih, List.flatMap_cons, List.length_append, List.length_map]
      omega
  have h := hfold x.files.entries 0
  rw [Nat.zero_add] at h
  rw [roster, List.flatMap_map]
  exact h

/-- An index in order answers for its roster. -/
theorem refines_roster {x : Index} (hf : x.Filed) (hn : x.Named) : x.Refines x.roster where
  nodup := map_fst_roster x ▸ hf.nodup
  lookup name := by
    rw [lookup_eq hn, sites, roster, List.filter_flatMap, List.map_flatMap, List.flatMap_map]
    refine List.flatMap_congr fun e he => ?_
    rw [List.filter_map, List.map_map]
    exact List.map_congr_left fun s hs => by
      rw [(hf.file_of_mem he (List.mem_of_mem_filter hs)).1]; rfl
  increasing name := lookup_eq hn name ▸ hf.pairwise_sites.filter _
  lookup_sited name s hs := by
    rw [lookup_eq hn] at hs
    obtain ⟨e, he, hse⟩ := List.mem_flatMap.1 (List.mem_of_mem_filter hs)
    rw [(hf.file_of_mem he hse).1, hf.sitesOf_eq he]
    exact hse
  definitions := by
    rintro _ hmem
    obtain ⟨e, he, rfl⟩ := List.mem_map.1 hmem
    rw [hf.sitesOf_eq he]
  positions := by
    rintro _ hmem
    obtain ⟨e, he, rfl⟩ := List.mem_map.1 hmem
    obtain ⟨ds, hds⟩ := hf.sited e he
    rw [hf.sitesOf_eq he, hds, Site.map_position_ofFile, Site.map_definition_ofFile]
  sitesOf_file file s hs := by
    rw [sitesOf] at hs
    split at hs
    · next f hget => exact (hf.file_of_mem (Table.mem_entries_of_get? hget) hs).1
    · exact absurd hs List.not_mem_nil
  sitesOf_absent file hfile := by
    rw [map_fst_roster] at hfile
    rw [sitesOf, Table.get?_eq_none_iff.2 hfile]
  fileIds := (map_fst_roster x).symm
  fileCount := (List.length_map _).symm
  siteCount := siteCount_eq x
  containsFile file := by rw [map_fst_roster]; exact Table.contains_iff
  names name := by
    rw [Std.TreeMap.mem_iff_isSome_getElem?, hn name, isSome_kept]
    constructor
    · rintro ⟨s, hs⟩
      obtain ⟨hs, hname⟩ := List.mem_filter.1 (List.mem_reverse.1 hs)
      obtain ⟨e, he, hse⟩ := List.mem_flatMap.1 hs
      exact ⟨_, List.mem_map_of_mem he, s.definition, List.mem_map_of_mem hse,
        of_decide_eq_true hname⟩
    · rintro ⟨_, hmem, d, hd, hname⟩
      obtain ⟨e, he, rfl⟩ := List.mem_map.1 hmem
      obtain ⟨s, hs, rfl⟩ := List.mem_map.1 hd
      exact ⟨s, List.mem_reverse.2 (List.mem_filter.2
        ⟨List.mem_flatMap.2 ⟨e, he, hs⟩, decide_eq_true hname⟩)⟩

/-! ### Any changes -/

/-- What the changes of an index keep. -/
theorem filed_named_onIndex {x : Index} (hf : x.Filed) (hn : x.Named) (c : IndexChange) :
    (c.onIndex x).Filed ∧ (c.onIndex x).Named := by
  cases c with
  | upsert file ds => exact ⟨hf.upsert file ds, hn.upsert hf file ds⟩
  | remove file => exact ⟨hf.remove file, hn.remove hf file⟩

/-- A change does to the roster of an index what it does to any. -/
theorem roster_onIndex {x : Index} (hf : x.Filed) (c : IndexChange) :
    (c.onIndex x).roster = c.onRoster x.roster := by
  cases c with
  | upsert file ds => exact roster_upsert hf file ds
  | remove file => exact roster_remove x file

/-- An index that changes led to is in order, and its roster is what the changes made of none. -/
theorem ofChanges_inv (changes : List IndexChange) :
    (ofChanges changes).Filed ∧ (ofChanges changes).Named ∧
      (ofChanges changes).roster = changes.foldl IndexChange.onRoster [] := by
  have hrun : ∀ (changes : List IndexChange) {x : Index}, x.Filed → x.Named →
      (changes.foldl IndexChange.onIndex x).Filed ∧ (changes.foldl IndexChange.onIndex x).Named ∧
        (changes.foldl IndexChange.onIndex x).roster =
          changes.foldl IndexChange.onRoster x.roster := by
    intro changes
    induction changes with
    | nil => exact fun hf hn => ⟨hf, hn, rfl⟩
    | cons c rest ih =>
      intro x hf hn
      obtain ⟨hf', hn'⟩ := filed_named_onIndex hf hn c
      rw [List.foldl_cons, List.foldl_cons, ← roster_onIndex hf c]
      exact ih hf' hn'
  exact hrun changes filed_empty named_empty

/-- **A change of one file leaves the others as they are**: their sites, and their order. -/
theorem agreesBut_onIndex {x : Index} (hf : x.Filed) (hn : x.Named) (c : IndexChange) :
    AgreesBut c.file x (c.onIndex x) := by
  obtain ⟨hf', hn'⟩ := filed_named_onIndex hf hn c
  -- both changes leave the entries of the other files, and forget what there was of this one
  have hget : ∀ g, g ≠ c.file → (c.onIndex x).files.get? g = x.files.get? g := by
    intro g hg
    cases c with
    | upsert file ds => exact Table.get?_put_of_ne _ (Ne.symm hg) _
    | remove file => exact (Table.get?_erase ..).trans (if_neg (Ne.symm hg))
  have herase : (c.onIndex x).files.erase c.file = x.files.erase c.file := by
    cases c with
    | upsert file ds => exact Table.erase_put ..
    | remove file => exact Table.erase_erase ..
  refine ⟨fun g hg => by rw [sitesOf, hget g hg, sitesOf], ?_, fun name => ?_⟩
  · rw [fileIds, ← Table.keys_erase, herase, Table.keys_erase, fileIds]
  · have hsites : ((c.onIndex x).sites.filter fun s => s.file ≠ c.file) =
        x.sites.filter fun s => s.file ≠ c.file := by
      rw [← sites_remove hf', ← sites_remove hf]
      exact congrArg (fun t : Table FileId IndexedFile => t.entries.flatMap fun e => e.2.sites)
        herase
    rw [lookup_eq hn', lookup_eq hn, List.filter_comm, hsites, List.filter_comm]

/-- **An index is a list of files with their definitions.** Whatever changes led to it, its answers
are those of the list that the changes lead to, where a file that is there has its definitions
replaced in place and a new one comes at the end; and one more change leaves the sites of all other
files and their order as they were. -/
theorem refines_ofChanges (changes : List IndexChange) :
    (ofChanges changes).Refines (changes.foldl IndexChange.onRoster []) ∧
      ∀ c : IndexChange, AgreesBut c.file (ofChanges changes) (ofChanges (changes ++ [c])) := by
  obtain ⟨hf, hn, hroster⟩ := ofChanges_inv changes
  refine ⟨hroster ▸ refines_roster hf hn, fun c => ?_⟩
  rw [show ofChanges (changes ++ [c]) = c.onIndex (ofChanges changes) from
    List.foldl_concat ..]
  exact agreesBut_onIndex hf hn c

end Index

end SailNav
