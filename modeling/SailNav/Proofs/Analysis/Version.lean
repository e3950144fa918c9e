import SailNav.Analysis.Basic
import SailNav.Proofs.Index.Refinement

/-!
# The versions of the tracked files

A file of an analysis has a text, and everything else that is known of it is read off that text: its
tokens and lines, and the definitions that the index has for it. So an analysis is about its files
in order, with a text each (`SailNav.Analysis.texts`), and changing it changes these as one expects
(`SailNav.Analysis.texts_ofChanges`).

The snapshots and the index are two tables that are changed side by side. That they never come to be
of different versions is `SailNav.Analysis.UpToDate`.
-/

namespace SailNav

/-- A change of one file of an analysis. -/
inductive AnalysisChange where
  /-- The file is opened or changed with a text. -/
  | track (file : FileId) (text : String)
  /-- A text that was read before is installed. -/
  | install (file : FileId) (text : String)
  /-- The same, unless it is to be skipped. -/
  | installUnless (file : FileId) (text : String) (skip : Bool)
  | close (file : FileId)

namespace AnalysisChange

/-- The texts of the files after a change. -/
def onTexts (texts : Roster String) : AnalysisChange → Roster String
  | track file text | install file text => texts.set file text
  | installUnless file text skip => if skip then texts else texts.set file text
  | close file => texts.drop file

/-- The analysis after a change. -/
def onAnalysis (a : Analysis) : AnalysisChange → Analysis
  | track file text => a.track file text
  | install file text => a.install file (.ofText text)
  | installUnless file text skip => a.installUnless file (.ofText text) skip
  | close file => a.close file

end AnalysisChange

namespace Analysis

/-- The analysis that some changes lead to. -/
def ofChanges (changes : List AnalysisChange) : Analysis :=
  changes.foldl AnalysisChange.onAnalysis empty

/-- **What an analysis is about**: its files in order, with their texts. -/
def texts (a : Analysis) : Roster String := Roster.mapValues Snapshot.text a.files.entries

/-- The definitions of a text. -/
abbrev definitionsIn (text : String) : List Definition := extract (tokenize text)

/-- **Everything in an analysis is read off the texts of its files**: the snapshots, and the
definitions that the index has, in the same order. -/
structure UpToDate (a : Analysis) : Prop where
  snapshots : ∀ e ∈ a.files.entries, e.2 = (ParsedFile.ofText e.2.text).snapshot
  filed : a.index.Filed
  named : a.index.Named
  roster : a.index.roster = a.texts.mapValues definitionsIn

/-- Without files everything is of the same version. -/
theorem upToDate_empty : empty.UpToDate where
  snapshots _ he := absurd he List.not_mem_nil
  filed := Index.filed_empty
  named := Index.named_empty
  roster := rfl

/-- The files of an analysis are those of its texts. -/
theorem map_fst_texts (a : Analysis) : a.texts.map Prod.fst = a.files.keys :=
  Roster.map_fst_mapValues Snapshot.text a.files.entries

/-- A file that has a text has a snapshot with that text. -/
theorem snapshot?_of_mem_texts {a : Analysis} (hn : a.files.keys.Nodup) {file : FileId}
    {text : String} (h : (file, text) ∈ a.texts) :
    ∃ s, a.snapshot? file = some s ∧ (file, s) ∈ a.files.entries ∧ s.text = text := by
  obtain ⟨⟨file', s⟩, hmem, heq⟩ := List.mem_map.1 h
  obtain ⟨rfl, rfl⟩ := Prod.mk.inj heq
  exact ⟨s, Table.get?_of_mem_entries hn hmem, hmem, rfl⟩

/-- The tracked files are those that have a text. -/
theorem isTracked_iff {a : Analysis} {file : FileId} :
    a.isTracked file = true ↔ file ∈ a.texts.map Prod.fst := by
  rw [map_fst_texts]
  exact Table.contains_iff

namespace UpToDate

variable {a : Analysis}

/-- The index and the snapshots have the same files. -/
theorem keys_eq (h : a.UpToDate) : a.index.files.keys = a.files.keys := by
  rw [← Index.map_fst_roster, h.roster, Roster.map_fst_mapValues, map_fst_texts]

/-- No file comes twice. -/
theorem nodup (h : a.UpToDate) : a.files.keys.Nodup := h.keys_eq ▸ h.filed.nodup

/-- The snapshot of a file is that of its text. -/
theorem snapshot?_eq (h : a.UpToDate) {file : FileId} {text : String}
    (hmem : (file, text) ∈ a.texts) :
    a.snapshot? file = some (ParsedFile.ofText text).snapshot := by
  obtain ⟨s, hs, hentry, rfl⟩ := snapshot?_of_mem_texts h.nodup hmem
  rw [hs, ← h.snapshots _ hentry]

/-- Tracking a file sets its text. -/
theorem texts_track (h : a.UpToDate) (file : FileId) (text : String) :
    (a.track file text).texts = a.texts.set file text := by
  have hentries : (a.track file text).files.entries = _ := Roster.entries_put h.nodup file _
  rw [texts, hentries]
  exact Roster.mapValues_set Snapshot.text a.files.entries file _

/-- Tracking a file replaces its snapshot and its sites together. -/
theorem track (h : a.UpToDate) (file : FileId) (text : String) : (a.track file text).UpToDate where
  snapshots e he := by
    rcases List.mem_cons.1 ((Table.entries_put_perm h.nodup file _).mem_iff.1 he) with rfl | he
    · -- the new snapshot is read off its text as it is made
      rfl
    · exact h.snapshots e (List.mem_of_mem_filter he)
  filed := h.filed.upsert file _
  named := h.named.upsert h.filed file _
  roster := by
    rw [h.texts_track, Roster.mapValues_set, ← h.roster]
    exact Index.roster_upsert h.filed file _

/-- Closing a file takes it out. -/
theorem texts_close (a : Analysis) (file : FileId) : (a.close file).texts = a.texts.drop file :=
  Roster.mapValues_drop Snapshot.text a.files.entries file

/-- Closing a file removes its snapshot and its sites together. -/
theorem close (h : a.UpToDate) (file : FileId) : (a.close file).UpToDate where
  snapshots e he := h.snapshots e (List.mem_of_mem_filter he)
  filed := h.filed.remove file
  named := h.named.remove h.filed file
  roster := by
    rw [texts_close, Roster.mapValues_drop, ← h.roster]
    exact Index.roster_remove a.index file

/-- **A change of an analysis does to the texts what it says**, and all else follows the texts. -/
theorem onAnalysis (h : a.UpToDate) (c : AnalysisChange) :
    (c.onAnalysis a).UpToDate ∧ (c.onAnalysis a).texts = c.onTexts a.texts := by
  cases c with
  | track file text => exact ⟨h.track file text, h.texts_track file text⟩
  | install file text => exact ⟨h.track file text, h.texts_track file text⟩
  | installUnless file text skip =>
    cases skip with
    | true => exact ⟨h, rfl⟩
    | false => exact ⟨h.track file text, h.texts_track file text⟩
  | close file => exact ⟨h.close file, texts_close a file⟩

end UpToDate

/-- **The texts of an analysis are what its changes made of none**, and all else is read off
them. -/
theorem texts_ofChanges (changes : List AnalysisChange) :
    (ofChanges changes).UpToDate ∧
      (ofChanges changes).texts = changes.foldl AnalysisChange.onTexts [] := by
  have hrun : ∀ (changes : List AnalysisChange) {a : Analysis}, a.UpToDate →
      (changes.foldl AnalysisChange.onAnalysis a).UpToDate ∧
        (changes.foldl AnalysisChange.onAnalysis a).texts =
          changes.foldl AnalysisChange.onTexts a.texts := by
    intro changes
    induction changes with
    | nil => exact fun h => ⟨h, rfl⟩
    | cons c rest ih =>
      intro a h
      obtain ⟨hc, htexts⟩ := h.onAnalysis c
      rw [List.foldl_cons, List.foldl_cons, ← htexts]
      exact ih hc
  exact hrun changes upToDate_empty

end Analysis

end SailNav
