import Mathlib.Data.List.Induction
import SailNav.Proofs.Analysis.Version

/-!
# What an analysis has of a file

What an analysis knows of a file is in two tables, the snapshots and the index. Here it is said for
one file at a time, and from the changes alone: the last change that says anything of the file
decides it (`SailNav.AnalysisChange.lastText?`). If that is an install, the snapshot, the tokens,
the lines and the sites are all read off the text that was installed; if it is a close, or if there
is none, neither table has the file (`SailNav.Analysis.knows_ofChanges`).

Some changes say nothing: an install that is skipped, and closing a file that is not there. The
second goes to both tables all the same, without a look at the snapshots, and it is only because the
tables have the same files that it changes neither (`SailNav.Analysis.UpToDate.close_of_untracked`).
-/

namespace SailNav

/-! ### Keys that are not there -/

namespace Table

variable {K V : Type} [DecidableEq K]

/-- Removing a key that is not there changes nothing. -/
theorem erase_of_not_mem {t : Table K V} {k : K} (h : k ∉ t.keys) : t.erase k = t := by
  have hne : ∀ e ∈ t.entries, e.1 ≠ k := fun e he hk => h (hk ▸ List.mem_map_of_mem he)
  have hfilter : (t.entries.filter fun e => e.1 ≠ k) = t.entries :=
    List.filter_eq_self.2 fun e he => decide_eq_true (hne e he)
  rw [erase, hfilter]

end Table

/-- Removing a file that is not indexed changes nothing, not even the next ordinal. -/
theorem Index.remove_of_not_mem {x : Index} {file : FileId} (h : file ∉ x.files.keys) :
    x.remove file = x := by
  rw [remove, Table.erase_of_not_mem h, namesWithout, Table.get?_eq_none_iff.2 h]

namespace Roster

variable {V : Type}

/-- Setting the value of a file gives the file that value and no other. -/
theorem mem_set {r : Roster V} {file g : FileId} {v w : V} :
    (g, w) ∈ r.set file v ↔ if file = g then w = v else (g, w) ∈ r := by
  unfold set
  by_cases hmem : file ∈ r.map Prod.fst
  · rw [if_pos hmem, List.mem_map]
    constructor
    · rintro ⟨⟨f, u⟩, hu, he⟩
      by_cases hf : f = file
      · rw [if_pos hf] at he
        obtain ⟨rfl, rfl⟩ := Prod.mk.inj he
        rw [if_pos rfl]
      · rw [if_neg hf] at he
        obtain ⟨rfl, rfl⟩ := Prod.mk.inj he
        rwa [if_neg (Ne.symm hf)]
    · intro h
      by_cases hg : file = g
      · rw [if_pos hg] at h
        obtain ⟨e, he, hfile⟩ := List.mem_map.1 hmem
        exact ⟨e, he, by rw [if_pos hfile, h, hg]⟩
      · rw [if_neg hg] at h
        exact ⟨(g, w), h, if_neg (Ne.symm hg)⟩
  · rw [if_neg hmem, List.mem_append, List.mem_singleton, Prod.mk.injEq]
    by_cases hg : file = g
    · -- the file is new, so what it has is what is put at the end
      have hnot : (g, w) ∉ r := fun h => hmem (hg ▸ List.mem_map_of_mem h)
      simp [hg, hnot]
    · simp [hg, Ne.symm hg]

/-- Dropping a file takes away what it has and nothing else. -/
theorem mem_drop {r : Roster V} {file g : FileId} {w : V} :
    (g, w) ∈ r.drop file ↔ file ≠ g ∧ (g, w) ∈ r := by
  rw [drop, List.mem_filter, decide_eq_true_iff, and_comm, ne_comm]

end Roster

/-! ### The last change of a file -/

namespace AnalysisChange

/-- What a change says of the text of a file: that it has a text from then on, or that it has none,
or nothing at all. -/
def says? (file : FileId) : AnalysisChange → Option (Option String)
  | track g text | install g text => if g = file then some (some text) else none
  | installUnless g text skip => if g = file ∧ skip = false then some (some text) else none
  | close g => if g = file then some none else none

/-- **The text that some changes leave a file with**: that of the last install of the file that was
not skipped, unless the file was closed since. -/
def lastText? (changes : List AnalysisChange) (file : FileId) : Option String :=
  (changes.reverse.findSome? (says? file)).join

/-- A change that says something of a file decides its text. -/
theorem lastText?_concat (changes : List AnalysisChange) (c : AnalysisChange) (file : FileId) :
    lastText? (changes ++ [c]) file = (c.says? file).getD (lastText? changes file) := by
  rw [lastText?, List.reverse_append, List.reverse_singleton, List.singleton_append,
    List.findSome?_cons]
  cases c.says? file <;> rfl

/-- A change gives a file the text that it says, and leaves it the one it has if it says nothing. -/
theorem mem_onTexts {texts : Roster String} {c : AnalysisChange} {file : FileId} {text : String} :
    (file, text) ∈ c.onTexts texts ↔
      match c.says? file with
      | some said => said = some text
      | none => (file, text) ∈ texts := by
  cases c with
  | track g new | install g new =>
    rw [onTexts, Roster.mem_set, says?]
    by_cases hg : g = file <;> simp [hg, eq_comm]
  | installUnless g new skip =>
    cases skip with
    | true => simp [onTexts, says?]
    | false =>
      rw [onTexts, if_neg Bool.false_ne_true, Roster.mem_set, says?]
      by_cases hg : g = file <;> simp [hg, eq_comm]
  | close g =>
    rw [onTexts, Roster.mem_drop, says?]
    by_cases hg : g = file <;> simp [hg]

/-- **The texts after some changes are those that the last change of each file left.** -/
theorem mem_foldl_onTexts {changes : List AnalysisChange} {file : FileId} {text : String} :
    (file, text) ∈ changes.foldl onTexts [] ↔ lastText? changes file = some text := by
  induction changes using List.reverseRecOn with
  | nil => simp [lastText?]
  | append_singleton changes c ih =>
    rw [List.foldl_concat, mem_onTexts, lastText?_concat]
    cases c.says? file with
    | some said => rfl
    | none => exact ih

end AnalysisChange

/-! ### Both tables -/

namespace Analysis

/-- **What there is of a file that has a text, or has none.** With a text, the tokens and the lines
of the snapshot are those of the text, and the sites of the file are its definitions, numbered from
zero in their order. Without a text neither table has the file. -/
def Knows (a : Analysis) (file : FileId) : Option String → Prop
  | some text =>
    a.snapshot? file = some ⟨text, tokenize text, .ofText text⟩ ∧
      a.index.containsFile file = true ∧
      (a.index.sitesOf file).map Site.definition = extract (tokenize text) ∧
      (a.index.sitesOf file).map Site.position = List.range (extract (tokenize text)).length ∧
      ∀ s ∈ a.index.sitesOf file, s.file = file
  | none =>
    a.snapshot? file = none ∧ a.index.containsFile file = false ∧ a.index.sitesOf file = []

namespace UpToDate

variable {a : Analysis}

/-- The files with a snapshot are those of the index. -/
theorem isTracked_eq (h : a.UpToDate) (file : FileId) :
    a.isTracked file = a.index.containsFile file := by
  rw [Bool.eq_iff_iff, isTracked, Index.containsFile, Table.contains_iff, Table.contains_iff,
    h.keys_eq]

/-- **Closing a file that is not tracked changes nothing**, although both tables are asked to remove
it. -/
theorem close_of_untracked (h : a.UpToDate) {file : FileId} (hfile : a.isTracked file = false) :
    a.close file = a := by
  have hkeys : file ∉ a.files.keys := fun hk => by
    rw [isTracked, Table.contains_iff.2 hk] at hfile
    exact Bool.noConfusion hfile
  have hindex : file ∉ a.index.files.keys := h.keys_eq ▸ hkeys
  rw [Analysis.close, Table.erase_of_not_mem hkeys, Index.remove_of_not_mem hindex]

/-- What is known of a file that has a text is read off the text. -/
theorem knows_of_mem (h : a.UpToDate) {file : FileId} {text : String}
    (hmem : (file, text) ∈ a.texts) : a.Knows file (some text) := by
  have hrefines := Index.refines_roster h.filed h.named
  have hroster : (file, extract (tokenize text)) ∈ a.index.roster := by
    rw [h.roster]
    exact List.mem_map_of_mem hmem
  refine ⟨h.snapshot?_eq hmem, ?_, hrefines.definitions _ hroster, hrefines.positions _ hroster,
    hrefines.sitesOf_file file⟩
  exact (hrefines.containsFile file).2 (List.mem_map_of_mem hroster)

/-- Nothing is known of a file that has no text. -/
theorem knows_none (h : a.UpToDate) {file : FileId} (hnone : ∀ text, (file, text) ∉ a.texts) :
    a.Knows file none := by
  have hfile : file ∉ a.texts.map Prod.fst := by
    intro hmem
    obtain ⟨⟨f, text⟩, he, rfl⟩ := List.mem_map.1 hmem
    exact hnone text he
  have hroster : file ∉ a.index.roster.map Prod.fst := by
    rwa [h.roster, Roster.map_fst_mapValues]
  rw [map_fst_texts] at hfile
  have hrefines := Index.refines_roster h.filed h.named
  refine ⟨Table.get?_eq_none_iff.2 hfile, ?_, hrefines.sitesOf_absent file hroster⟩
  exact Bool.eq_false_iff.2 fun hc => hroster ((hrefines.containsFile file).1 hc)

end UpToDate

/-- **Snapshots and index are always of the same texts.** Whatever changes led to an analysis, the
files with a snapshot are those of the index, and what is known of a file is read off the text that
the last change of the file left it with. An install that is skipped leaves the whole analysis as it
was, and so does closing a file that is not tracked. -/
theorem knows_ofChanges (changes : List AnalysisChange) :
    (∀ file, (ofChanges changes).isTracked file = (ofChanges changes).index.containsFile file) ∧
    (∀ file, (ofChanges changes).Knows file (AnalysisChange.lastText? changes file)) ∧
    (∀ file text, ofChanges (changes ++ [.installUnless file text true]) = ofChanges changes) ∧
    ∀ file, (ofChanges changes).isTracked file = false →
      ofChanges (changes ++ [.close file]) = ofChanges changes := by
  obtain ⟨h, htexts⟩ := texts_ofChanges changes
  refine ⟨h.isTracked_eq, fun file => ?_, fun file text => ?_, fun file hfile => ?_⟩
  · cases htext : AnalysisChange.lastText? changes file with
    | some text =>
      refine h.knows_of_mem ?_
      rw [htexts]
      exact AnalysisChange.mem_foldl_onTexts.2 htext
    | none =>
      refine h.knows_none fun text hmem => ?_
      rw [htexts, AnalysisChange.mem_foldl_onTexts, htext] at hmem
      cases hmem
  · exact List.foldl_concat ..
  · rw [ofChanges, List.foldl_concat]
    exact h.close_of_untracked hfile

/-- A file that is closed and installed again, then left alone by a skipped install and by closing
another file. -/
theorem knows_skipped :
    ∃ changes : List AnalysisChange,
      changes = [.track ⟨"/a"⟩ "val f", .close ⟨"/a"⟩, .installUnless ⟨"/a"⟩ "val g" false,
        .installUnless ⟨"/a"⟩ "val h" true] ∧
      (ofChanges changes).Knows ⟨"/a"⟩ (some "val g") ∧
      (ofChanges changes).isTracked ⟨"/b"⟩ = false ∧
      ofChanges (changes ++ [.close ⟨"/b"⟩]) = ofChanges changes := by
  refine ⟨_, rfl, ?_, by decide, ?_⟩
  · exact (knows_ofChanges _).2.1 ⟨"/a"⟩
  · exact (knows_ofChanges _).2.2.2 ⟨"/b"⟩ (by decide)

end Analysis

end SailNav
