import Mathlib.Data.List.Infix
import SailNav.Proofs.Index.Refinement

/-!
# Searching the index

A search goes through the names of the index, and the user wants the sites. It keeps the names that
contain the query, takes them in their order, puts the sites of each name behind one another, and
cuts the list off. What is cut is a list that can be told without the names
(`SailNav.Index.ListedFor`): all sites that are indexed and have a name that contains the query,
each once, by name and then in the order of discovery.

That no site is lost and none comes twice is a matter of the two ways in which an index keeps its
sites (`SailNav.Index.Named`). A site stands under its own name only, so two names have no site in
common, and under its name it stands as often as in its file, which is once.
-/

namespace SailNav

/-! ### What contains a query -/

/-- **One text occurs in another** if it is a part of it without a gap. -/
theorem Text.occursIn_iff {part text : List Char} : occursIn part text = true ↔ part <:+: text := by
  induction text with
  | nil => simp [occursIn]
  | cons c rest ih =>
    rw [occursIn, Bool.or_eq_true, ih, List.isPrefixOf_iff_prefix, List.infix_cons_iff]

/-- **One site is listed before another**: its name comes first, by the code points of its
characters, or they have one name and it was discovered first. -/
def Site.ListedBefore (s t : Site) : Prop :=
  s.name.toList < t.name.toList ∨ s.name = t.name ∧ s.precedes t = true

/-- No site is listed before itself. -/
theorem Site.ListedBefore.ne {s t : Site} (h : s.ListedBefore t) : s ≠ t := by
  rintro rfl
  rcases h with hname | ⟨-, hprecedes⟩
  · exact List.lt_irrefl _ hname
  · exact Bool.false_ne_true ((precedes_asymm hprecedes).symm.trans hprecedes)

namespace Index

/-- **The sites that are listed for a query**: those of all sites whose names contain it, upper and
lower case being the same, in order. -/
structure ListedFor (x : Index) (query : String) (hits : List Site) : Prop where
  perm : hits.Perm ((x.fileIds.flatMap x.sitesOf).filter fun s =>
    Text.lowercase query.toList <:+: Text.lowercase s.name.toList)
  ordered : hits.Pairwise Site.ListedBefore

variable {x : Index} {query : String} {hits : List Site}

/-- Nothing is listed twice. -/
theorem ListedFor.nodup (h : x.ListedFor query hits) : hits.Nodup :=
  h.ordered.imp Site.ListedBefore.ne

/-! ### All sites -/

/-- The sites of an index are found by asking for the files, and for the sites of each. -/
theorem sites_eq (h : x.Filed) : x.sites = x.fileIds.flatMap x.sitesOf := by
  rw [sites, fileIds, Table.keys, List.flatMap_map]
  exact List.flatMap_congr fun e he => (h.sitesOf_eq he).symm

/-- There are as many sites as are counted. -/
theorem length_sites (x : Index) : x.sites.length = x.siteCount := by
  rw [siteCount_eq, roster, sites, List.flatMap_map, List.length_flatMap, List.length_flatMap]
  simp only [List.length_map]

/-- The sites stand for the definitions of the roster, file after file. -/
theorem map_sites (h : x.Filed) : (x.sites.map fun s => (s.file, s.definition)) =
    x.roster.flatMap fun e => e.2.map fun d => (e.1, d) := by
  rw [sites, roster, List.map_flatMap, List.flatMap_map]
  refine List.flatMap_congr fun e he => ?_
  rw [List.map_map]
  exact List.map_congr_left fun s hs => by rw [(h.file_of_mem he hs).1]; rfl

/-! ### The sites that are found -/

/-- What is found before it is cut off: under each name that contains the query, the sites in the
order of discovery. -/
def found (x : Index) (query : String) : List Site :=
  (x.byName.toList.filter fun entry => nameMatches query entry.1).flatMap fun e => e.2.reverse

/-- Under a name stand its sites, the latest first. -/
theorem Named.reverse_of_mem_toList (h : x.Named) {entry : String × List Site}
    (hentry : entry ∈ x.byName.toList) :
    entry.2.reverse = x.sites.filter fun s => s.name = entry.1 := by
  have hget := Std.TreeMap.mem_toList_iff_getElem?_eq_some.1 hentry
  have hsome := getD_kept (x.sites.filter fun s => s.name = entry.1).reverse
  rw [← h entry.1, hget, Option.getD_some] at hsome
  rw [hsome, List.reverse_reverse]

/-- **A site is found** if it is one of the sites and its name contains the query. -/
theorem mem_found_iff (h : x.Named) {s : Site} :
    s ∈ x.found query ↔ s ∈ x.sites ∧ nameMatches query s.name = true := by
  rw [found, List.mem_flatMap]
  constructor
  · rintro ⟨entry, hentry, hs⟩
    obtain ⟨hentry, hmatches⟩ := List.mem_filter.1 hentry
    rw [h.reverse_of_mem_toList hentry, List.mem_filter, decide_eq_true_iff] at hs
    exact ⟨hs.1, hs.2 ▸ hmatches⟩
  · rintro ⟨hs, hmatches⟩
    have hmem : s ∈ (x.sites.filter fun t => t.name = s.name).reverse :=
      List.mem_reverse.2 (List.mem_filter.2 ⟨hs, decide_eq_true rfl⟩)
    have hget : x.byName[s.name]? = some (x.sites.filter fun t => t.name = s.name).reverse := by
      rw [h s.name, kept_of_ne_nil (List.ne_nil_of_mem hmem)]
    exact ⟨_, List.mem_filter.2 ⟨Std.TreeMap.mem_toList_iff_getElem?_eq_some.2 hget, hmatches⟩,
      List.mem_reverse.2 hmem⟩

/-- **What is found is in order**: by name, and under a name by discovery. -/
theorem pairwise_found (hf : x.Filed) (hn : x.Named) :
    (x.found query).Pairwise Site.ListedBefore := by
  have hname : ∀ entry ∈ x.byName.toList, ∀ s ∈ entry.2.reverse, s.name = entry.1 := by
    intro entry hentry s hs
    rw [hn.reverse_of_mem_toList hentry] at hs
    exact of_decide_eq_true (List.mem_filter.1 hs).2
  refine List.pairwise_flatMap.2 ⟨fun entry hentry => ?_, ?_⟩
  · -- the sites of one name
    have hentry := List.mem_of_mem_filter hentry
    have hprecedes : entry.2.reverse.Pairwise fun s t => s.precedes t = true := by
      rw [hn.reverse_of_mem_toList hentry]
      exact hf.pairwise_sites.filter _
    refine hprecedes.imp_of_mem fun hs ht hst => Or.inr ⟨?_, hst⟩
    rw [hname entry hentry _ hs, hname entry hentry _ ht]
  · -- the sites of two names
    have hkeys : x.byName.toList.Pairwise fun a b => a.1.toList < b.1.toList := by
      refine Std.TreeMap.ordered_keys_toList.imp fun {a b} hlt => ?_
      have hstrings : a.1 < b.1 := compareOfLessAndEq_eq_lt.1 hlt
      exact hstrings
    refine (hkeys.filter _).imp_of_mem fun ha hb hlt s hs t ht => Or.inl ?_
    rw [hname _ (List.mem_of_mem_filter ha) s hs, hname _ (List.mem_of_mem_filter hb) t ht]
    exact hlt

/-- What is found is what is listed for the query. -/
theorem listedFor_found (hf : x.Filed) (hn : x.Named) : x.ListedFor query (x.found query) where
  perm := by
    have hnodup : x.sites.Nodup := hf.pairwise_sites.imp fun {s t} hst heq => by
      rw [heq] at hst
      exact Bool.false_ne_true ((Site.precedes_asymm hst).symm.trans hst)
    rw [← sites_eq hf]
    refine (List.perm_ext_iff_of_nodup ((pairwise_found hf hn).imp Site.ListedBefore.ne)
      (hnodup.filter _)).2 fun s => ?_
    rw [mem_found_iff hn, List.mem_filter, decide_eq_true_iff, nameMatches, Text.occursIn_iff]
  ordered := pairwise_found hf hn

/-- The empty query is contained in every name. -/
theorem ListedFor.perm_of_empty (h : x.ListedFor "" hits) :
    hits.Perm (x.fileIds.flatMap x.sitesOf) := by
  have hall : ((x.fileIds.flatMap x.sitesOf).filter fun s =>
      Text.lowercase "".toList <:+: Text.lowercase s.name.toList) =
        x.fileIds.flatMap x.sitesOf :=
    List.filter_eq_self.2 fun s _ => decide_eq_true List.nil_infix
  exact hall ▸ h.perm

/-- **A search lists the sites that it finds, and cuts the list off.** Whatever changes led to the
index, a search with a limit gives the first of the sites that are listed for the query: of all sites
of all files, which are the definitions that the changes left, those whose names contain it. So a
lower limit gives the front of what a higher one gives, and the empty query, with a limit that is
high enough, all sites. -/
theorem search_ofChanges (changes : List IndexChange) (query : String) :
    (∃ hits, (ofChanges changes).ListedFor query hits ∧
      ∀ limit, (ofChanges changes).search query limit = hits.take limit) ∧
    ((ofChanges changes).fileIds.flatMap (ofChanges changes).sitesOf).map
        (fun s => (s.file, s.definition)) =
      ((changes.foldl IndexChange.onRoster []).flatMap fun e => e.2.map fun d => (e.1, d)) ∧
    (∀ few many, few ≤ many →
      (ofChanges changes).search query few <+: (ofChanges changes).search query many) ∧
    ∀ limit, (ofChanges changes).siteCount ≤ limit →
      ((ofChanges changes).search "" limit).Perm
          ((ofChanges changes).fileIds.flatMap (ofChanges changes).sitesOf) ∧
        ((ofChanges changes).search "" limit).length = (ofChanges changes).siteCount := by
  obtain ⟨hf, hn, hroster⟩ := ofChanges_inv changes
  have hsearch (query : String) (limit : Nat) :
      (ofChanges changes).search query limit = ((ofChanges changes).found query).take limit := rfl
  refine ⟨⟨_, listedFor_found hf hn, hsearch query⟩, ?_, fun few many hle => ?_,
    fun limit hlimit => ?_⟩
  · rw [← sites_eq hf, map_sites hf, hroster]
  · rw [hsearch, hsearch]
    exact List.take_prefix_take_left hle
  · have hlisted : (ofChanges changes).ListedFor "" _ := listedFor_found hf hn
    have hperm := hlisted.perm_of_empty
    have hlength : ((ofChanges changes).found "").length = (ofChanges changes).siteCount := by
      rw [hperm.length_eq, ← sites_eq hf, length_sites]
    rw [hsearch, List.take_of_length_le (hlength ▸ hlimit)]
    exact ⟨hperm, hlength⟩

end Index

end SailNav
