import SailNav.Proofs.Analysis.Agreement
import SailNav.Proofs.Session.Ownership

/-!
# What touches leave alone

A touch concerns one file. What is known of the others stays as it is: their versions, their sites,
and the order in which they were discovered. Here this is said of any choice of files at once
(`SailNav.Analysis.AgreesOn`), since a frame for one file after another says nothing of their order.

A chosen file may be touched, too, as long as the touch leaves it the text that it has
(`SailNav.Analysis.agreesOn_touch`). Not even the ordinal of the file changes then: its entry in the
index is replaced by the same entry.
-/

namespace SailNav

/-! ### The entries of some keys -/

namespace Table

variable {K V : Type} [DecidableEq K] {keep : K → Bool}

/-- Setting the value of a key leaves the entries of others, in their order. -/
theorem filter_entries_put (t : Table K V) {k : K} (v : V) (hk : keep k = false) :
    ((t.put k v).entries.filter fun e => keep e.1) = t.entries.filter fun e => keep e.1 := by
  obtain ⟨entries⟩ := t
  unfold put
  dsimp only
  induction entries with
  | nil => simp [putEntry, hk]
  | cons e rest ih =>
    by_cases he : e.1 = k
    · simp [putEntry, he, hk]
    · rw [putEntry, if_neg he, List.filter_cons, List.filter_cons, ih]

/-- Removing a key leaves the entries of others, in their order. -/
theorem filter_entries_erase (t : Table K V) {k : K} (hk : keep k = false) :
    ((t.erase k).entries.filter fun e => keep e.1) = t.entries.filter fun e => keep e.1 := by
  rw [erase, List.filter_filter]
  refine List.filter_congr fun e _ => ?_
  by_cases he : e.1 = k <;> simp [he, hk]

/-- Setting a key to the value that it has changes nothing. -/
theorem put_of_get? {t : Table K V} {k : K} {v : V} (h : t.get? k = some v) : t.put k v = t := by
  obtain ⟨entries⟩ := t
  unfold get? at h
  unfold put
  dsimp only at h ⊢
  congr 1
  induction entries with
  | nil => cases h
  | cons e rest ih =>
    by_cases he : e.1 = k
    · rw [List.find?_cons_of_pos (by simpa using he), Option.map_some, Option.some.injEq] at h
      rw [putEntry, if_pos he, ← he, ← h]
    · rw [List.find?_cons_of_neg (by simpa using he)] at h
      rw [putEntry, if_neg he, ih h]

/-- The value of a key is known from the entries of some keys with it. -/
theorem get?_eq_of_filter_eq {s t : Table K V}
    (h : (s.entries.filter fun e => keep e.1) = t.entries.filter fun e => keep e.1) {k : K}
    (hk : keep k = true) : s.get? k = t.get? k := by
  have hfind : ∀ t : Table K V, t.get? k =
      ((t.entries.filter fun e => keep e.1).find? fun e => e.1 = k).map Prod.snd := by
    intro t
    rw [List.find?_filter, get?]
    congr 2
    funext e
    by_cases he : e.1 = k <;> simp [he, hk]
  rw [hfind, h, ← hfind]

end Table

/-! ### A file that is indexed as it was -/

/-- Indexing a file with the definitions that it has changes nothing of the files. -/
theorem Index.files_upsert_of_mem_roster {x : Index} (h : x.Filed) {file : FileId}
    {ds : List Definition} (hmem : (file, ds) ∈ x.roster) : (x.upsert file ds).files = x.files := by
  obtain ⟨e, he, heq⟩ := List.mem_map.1 hmem
  obtain ⟨rfl, rfl⟩ := Prod.mk.inj heq
  obtain ⟨ds, hds⟩ := h.sited e he
  -- the ordinal is the same, and so are the sites that are made of it
  have hentry : (⟨x.ordinalOf e.1, Site.ofFile e.1 (x.ordinalOf e.1)
      (e.2.sites.map Site.definition)⟩ : IndexedFile) = e.2 := by
    rw [h.ordinalOf_eq he, hds, Site.map_definition_ofFile, ← hds]
  have hput : (x.upsert e.1 (e.2.sites.map Site.definition)).files = x.files.put e.1 e.2 :=
    congrArg (x.files.put e.1) hentry
  rw [hput, Table.put_of_get? (Table.get?_of_mem_entries h.nodup he)]

namespace Analysis

/-- **Two analyses say the same of some files**: their versions, their sites, and their order, among
the files and among the sites of a name. -/
structure AgreesOn (keep : FileId → Bool) (a b : Analysis) : Prop where
  snapshot? : ∀ file, keep file = true → b.snapshot? file = a.snapshot? file
  sitesOf : ∀ file, keep file = true → b.index.sitesOf file = a.index.sitesOf file
  trackedFiles : b.trackedFiles.filter keep = a.trackedFiles.filter keep
  lookup : ∀ name, ((b.index.lookup name).filter fun s => keep s.file) =
    (a.index.lookup name).filter fun s => keep s.file

namespace AgreesOn

variable {keep : FileId → Bool} {a b c : Analysis}

theorem refl (keep : FileId → Bool) (a : Analysis) : a.AgreesOn keep a :=
  ⟨fun _ _ => rfl, fun _ _ => rfl, rfl, fun _ => rfl⟩

theorem trans (h : a.AgreesOn keep b) (h' : b.AgreesOn keep c) : a.AgreesOn keep c where
  snapshot? file hfile := (h'.snapshot? file hfile).trans (h.snapshot? file hfile)
  sitesOf file hfile := (h'.sitesOf file hfile).trans (h.sitesOf file hfile)
  trackedFiles := h'.trackedFiles.trans h.trackedFiles
  lookup name := (h'.lookup name).trans (h.lookup name)

/-- Of the files on which two analyses agree they have the same texts. -/
theorem textOf? (h : a.AgreesOn keep b) {file : FileId} (hfile : keep file = true) :
    b.textOf? file = a.textOf? file :=
  congrArg (Option.map Snapshot.text) (h.snapshot? file hfile)

/-- **The entries of some files in both tables are all that is known of them.** -/
theorem of_entries (ha : a.UpToDate) (hb : b.UpToDate)
    (hfiles : (b.files.entries.filter fun e => keep e.1) = a.files.entries.filter fun e => keep e.1)
    (hindex : (b.index.files.entries.filter fun e => keep e.1) =
      a.index.files.entries.filter fun e => keep e.1) : a.AgreesOn keep b where
  snapshot? file hfile := Table.get?_eq_of_filter_eq hfiles hfile
  sitesOf file hfile := by
    rw [Index.sitesOf, Table.get?_eq_of_filter_eq hindex hfile, Index.sitesOf]
  trackedFiles := by
    have hkeys : ∀ t : Table FileId IndexedFile,
        t.keys.filter keep = (t.entries.filter fun e => keep e.1).map Prod.fst :=
      fun t => List.filter_map
    exact (hkeys _).trans ((congrArg _ hindex).trans (hkeys _).symm)
  lookup name := by
    rw [Index.lookup_eq hb.named, Index.lookup_eq ha.named, List.filter_comm,
      Index.filter_sites hb.filed, hindex, ← Index.filter_sites ha.filed, List.filter_comm]

end AgreesOn

/-! ### Touches -/

namespace UpToDate

variable {a : Analysis}

/-- A touch leaves both tables of one version. -/
theorem touch (h : a.UpToDate) (t : Touch) : (a.touch t).UpToDate := by
  unfold Analysis.touch
  split
  · exact h.track t.file _
  · exact h.close t.file

/-- Touches leave both tables of one version. -/
theorem foldl_touch (h : a.UpToDate) (touches : List Touch) :
    (touches.foldl Analysis.touch a).UpToDate := by
  induction touches generalizing a with
  | nil => exact h
  | cons t rest ih => exact ih (h.touch t)

/-- The text of a tracked file is one of the texts. -/
theorem mem_texts_of_textOf? {file : FileId} {text : String} (h : a.textOf? file = some text) :
    (file, text) ∈ a.texts := by
  obtain ⟨s, hs, rfl⟩ := Option.map_eq_some_iff.1 h
  exact List.mem_map.2 ⟨(file, s), Table.mem_entries_of_get? hs, rfl⟩

/-- Tracking a file with the text that it has leaves both tables as they are. -/
theorem track_of_textOf? (h : a.UpToDate) {file : FileId} {text : String}
    (htext : a.textOf? file = some text) :
    (a.track file text).files = a.files ∧ (a.track file text).index.files = a.index.files := by
  have hmem := mem_texts_of_textOf? htext
  have hroster : (file, extract (tokenize text)) ∈ a.index.roster := by
    rw [h.roster]
    exact List.mem_map_of_mem hmem
  exact ⟨Table.put_of_get? (h.snapshot?_eq hmem),
    Index.files_upsert_of_mem_roster h.filed hroster⟩

/-- **A touch leaves files alone** that it does not concern, or that have the text that it
brings. -/
theorem agreesOn_touch (h : a.UpToDate) {keep : FileId → Bool} {t : Touch}
    (ht : keep t.file = true → a.textOf? t.file = t.text) : a.AgreesOn keep (a.touch t) := by
  have htouch := h.touch t
  by_cases hkeep : keep t.file = true
  · specialize ht hkeep
    unfold Analysis.touch at htouch ⊢
    cases htext : t.text with
    | some text =>
      rw [htext] at ht htouch
      obtain ⟨hfiles, hindex⟩ := h.track_of_textOf? ht
      exact .of_entries h htouch (by rw [hfiles]) (by rw [hindex])
    | none =>
      -- a file without a text is not tracked
      have huntracked : a.isTracked t.file = false := by
        rw [htext] at ht
        rw [isTracked, Table.contains, Option.isSome_eq_false_iff, Option.isNone_iff_eq_none]
        exact Option.map_eq_none_iff.1 ht
      rw [h.close_of_untracked huntracked]
      exact .refl keep a
  · rw [Bool.not_eq_true] at hkeep
    unfold Analysis.touch at htouch ⊢
    cases htext : t.text with
    | some text =>
      rw [htext] at htouch
      exact .of_entries h htouch (Table.filter_entries_put _ _ hkeep)
        (Table.filter_entries_put _ _ hkeep)
    | none =>
      rw [htext] at htouch
      exact .of_entries h htouch (Table.filter_entries_erase _ hkeep)
        (Table.filter_entries_erase _ hkeep)

end UpToDate

end Analysis

/-! ### Runs -/

namespace World

/-- An event leaves both tables of one version. -/
theorem upToDate_step {w : World} (h : w.session.analysis.UpToDate) (e : Event) :
    (w.step e).session.analysis.UpToDate := by
  rw [analysis_step]
  exact h.foldl_touch _

/-- **All along a run both tables are of one version.** -/
theorem upToDate_run (echoesLog : Bool) (d : Disk) (events : List Event) :
    ((start echoesLog d).run events).session.analysis.UpToDate := by
  have hrun : ∀ (events : List Event) {w : World}, w.session.analysis.UpToDate →
      (w.run events).session.analysis.UpToDate := by
    intro events
    induction events with
    | nil => exact fun h => h
    | cons e rest ih => exact fun h => ih (upToDate_step h e)
  exact hrun events Analysis.upToDate_empty

end World

end SailNav
