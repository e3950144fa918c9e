import SailNav.Analysis.Navigate
import SailNav.Proofs.Analysis.Version
import SailNav.Proofs.Definition.Name
import SailNav.Proofs.Token.Cursor

/-!
# What a name resolves to

A name resolves to the definitions of that name in the current texts of all files
(`SailNav.Analysis.resolve_ofChanges`). Nothing that happened before shows, except in the order of
the files. What it resolves to is found by reading the texts again from the start, and that is said
here without the index: `SailNav.definitionsNamed`.
-/

namespace SailNav

/-- The definitions of a name in some texts, text after text. -/
def definitionsNamed (texts : Roster String) (name : String) : List (FileId × Definition) :=
  texts.flatMap fun e =>
    ((extract (tokenize e.2)).filter fun d => d.name = name).map fun d => (e.1, d)

namespace Site

/-- A site as it is given out: the file, the offset and the span of the name, and the kind. -/
def location (s : Site) : FileId × Nat × Span × DefinitionKind :=
  (s.file, s.span.start, s.span, s.kind)

end Site

namespace Analysis.UpToDate

variable {a : Analysis}

/-- The sites of a name are its definitions in the texts. -/
theorem map_lookup (h : a.UpToDate) (name : String) :
    (a.index.lookup name).map (fun s => (s.file, s.definition)) =
      definitionsNamed a.texts name := by
  rw [(Index.refines_roster h.filed h.named).lookup, h.roster, Roster.mapValues, List.flatMap_map]
  rfl

/-- A site of a name is a definition in the text of its file. -/
theorem mem_texts_of_mem_lookup (h : a.UpToDate) {name : String} {s : Site}
    (hs : s ∈ a.index.lookup name) :
    s.definition.name = name ∧
      ∃ text, (s.file, text) ∈ a.texts ∧ s.definition ∈ extract (tokenize text) := by
  have hmem := List.mem_map_of_mem (f := fun s : Site => (s.file, s.definition)) hs
  rw [h.map_lookup] at hmem
  obtain ⟨e, he, hd⟩ := List.mem_flatMap.1 hmem
  obtain ⟨d, hd, heq⟩ := List.mem_map.1 hd
  obtain ⟨hfile, rfl⟩ := Prod.mk.inj heq
  obtain ⟨hd, hname⟩ := List.mem_filter.1 hd
  exact ⟨of_decide_eq_true hname, e.2, hfile ▸ he, hd⟩

/-- Every definition in a text is a site of its name. -/
theorem exists_site (h : a.UpToDate) {file : FileId} {text : String} (hmem : (file, text) ∈ a.texts)
    {d : Definition} (hd : d ∈ extract (tokenize text)) :
    ∃ s ∈ a.index.lookup d.name, s.file = file ∧ s.definition = d := by
  have hin : (file, d) ∈ definitionsNamed a.texts d.name :=
    List.mem_flatMap.2 ⟨_, hmem, List.mem_map_of_mem (List.mem_filter.2 ⟨hd, by simp⟩)⟩
  rw [← h.map_lookup] at hin
  obtain ⟨s, hs, heq⟩ := List.mem_map.1 hin
  exact ⟨s, hs, Prod.mk.inj heq⟩

/-- The sites of the name at a cursor are looked up by the token there. -/
theorem candidates_eq (h : a.UpToDate) {file : FileId} {text : String}
    (hmem : (file, text) ∈ a.texts) (offset : Nat) :
    a.candidates file offset =
      match (tokenize text).nameAt? offset with
      | none => []
      | some t => a.index.lookup t.text := by
  have hname : a.nameAt? file offset = ((tokenize text).nameAt? offset).map Token.text := by
    rw [nameAt?, h.snapshot?_eq hmem]
    rfl
  rw [candidates, hname]
  cases (tokenize text).nameAt? offset <;> rfl

/-- What is found are the definitions of the name in the texts. -/
theorem map_location_candidates (h : a.UpToDate) {file : FileId} {text : String}
    (hmem : (file, text) ∈ a.texts) (offset : Nat) :
    (a.candidates file offset).map Site.location =
      match (tokenize text).nameAt? offset with
      | none => []
      | some t => (definitionsNamed a.texts t.text).map
          fun e => (e.1, e.2.span.start, e.2.span, e.2.kind) := by
  rw [h.candidates_eq hmem]
  cases (tokenize text).nameAt? offset with
  | none => rfl
  | some t =>
    dsimp only
    rw [← h.map_lookup, List.map_map]
    rfl

/-- What is found spells the name, each in its own text. -/
theorem spells_of_mem_candidates (h : a.UpToDate) {file : FileId} {text : String}
    (hmem : (file, text) ∈ a.texts) {offset : Nat} {s : Site}
    (hs : s ∈ a.candidates file offset) :
    ∃ t target, (tokenize text).nameAt? offset = some t ∧ (s.file, target) ∈ a.texts ∧
      s.span.Spells target t.text := by
  rw [h.candidates_eq hmem] at hs
  cases hname : (tokenize text).nameAt? offset with
  | none =>
    rw [hname] at hs
    exact absurd hs List.not_mem_nil
  | some t =>
    rw [hname] at hs
    obtain ⟨heq, target, htarget, hd⟩ := h.mem_texts_of_mem_lookup hs
    exact ⟨t, target, rfl, htarget, heq ▸ spells_of_mem_extract hd⟩

/-- On the name of a definition that is no operator, the definition is found. -/
theorem exists_candidate (h : a.UpToDate) {file : FileId} {text : String}
    (hmem : (file, text) ∈ a.texts) {offset : Nat} {d : Definition}
    (hd : d ∈ extract (tokenize text)) (hkind : d.kind ≠ .operator)
    (ho : d.span.contains offset = true) :
    ∃ s ∈ a.candidates file offset, s.file = file ∧ s.definition = d := by
  -- the name of the definition is the token that the cursor is on
  obtain ⟨t, ht, htkind, htext, hspan⟩ := exists_identifier_of_mem_extract hd hkind
  have hname : (tokenize text).nameAt? offset = some t :=
    TokenStream.nameAt?_of_contains (tiled_tokenize text) ht (by rw [htkind]; rfl) (hspan ▸ ho)
  rw [h.candidates_eq hmem, hname]
  dsimp only
  rw [htext]
  exact h.exists_site hmem hd

end Analysis.UpToDate

namespace Analysis

/-- **A name resolves to its definitions in the current texts.** Whatever changes led to an
analysis, no file has two texts, and a tracked file has the one that its tokens are read off. Then
at every offset:

* without a name at the offset nothing is found, and with one the definitions of that name in all
  texts, file after file; one alone is the first of these;
* what is found spells the name in the text of its file;
* on the name of a definition that is no operator, that definition is found among others. -/
theorem resolve_ofChanges (changes : List AnalysisChange) {file : FileId}
    (htracked : (ofChanges changes).isTracked file = true) :
    ((changes.foldl AnalysisChange.onTexts []).map Prod.fst).Nodup ∧
    ∃ text, (file, text) ∈ changes.foldl AnalysisChange.onTexts [] ∧
      (ofChanges changes).snapshot? file = some (ParsedFile.ofText text).snapshot ∧
      ∀ offset : Nat,
      ((ofChanges changes).resolve file offset .all).map Site.location =
        (match (tokenize text).nameAt? offset with
        | none => []
        | some t => (definitionsNamed (changes.foldl AnalysisChange.onTexts []) t.text).map
            fun e => (e.1, e.2.span.start, e.2.span, e.2.kind)) ∧
      (ofChanges changes).resolve file offset .first =
        ((ofChanges changes).resolve file offset .all).take 1 ∧
      (∀ s ∈ (ofChanges changes).resolve file offset .all,
        ∃ t target, (tokenize text).nameAt? offset = some t ∧
          (s.file, target) ∈ changes.foldl AnalysisChange.onTexts [] ∧
          s.span.Spells target t.text) ∧
      (∀ d ∈ extract (tokenize text), d.kind ≠ .operator → d.span.contains offset = true →
        ∃ s ∈ (ofChanges changes).resolve file offset .all, s.file = file ∧ s.definition = d) := by
  obtain ⟨h, htexts⟩ := texts_ofChanges changes
  obtain ⟨⟨file, text⟩, hmem, rfl⟩ := List.mem_map.1 (isTracked_iff.1 htracked)
  rw [← htexts]
  refine ⟨map_fst_texts _ ▸ h.nodup, text, hmem, h.snapshot?_eq hmem, fun offset => ?_⟩
  refine ⟨h.map_location_candidates hmem offset, rfl, fun s hs => ?_, fun d hd hkind ho => ?_⟩
  · exact h.spells_of_mem_candidates hmem hs
  · exact h.exists_candidate hmem hd hkind ho

/-- A file that is closed and opened again comes behind the others, so its own definition of the
name is the second. -/
theorem resolve_reopened :
    ∃ changes : List AnalysisChange,
      changes = [.track ⟨"/a"⟩ "val f", .track ⟨"/b"⟩ "function f", .close ⟨"/a"⟩,
        .track ⟨"/a"⟩ "val f"] ∧
      (ofChanges changes).isTracked ⟨"/a"⟩ = true ∧
      ((ofChanges changes).resolve ⟨"/a"⟩ 5 .all).map Site.location =
        [(⟨"/b"⟩, 9, ⟨9, 10⟩, .function), (⟨"/a"⟩, 4, ⟨4, 5⟩, .value)] := by
  refine ⟨_, rfl, by decide, ?_⟩
  obtain ⟨-, text, hmem, -, hresolve⟩ := resolve_ofChanges
    [.track ⟨"/a"⟩ "val f", .track ⟨"/b"⟩ "function f", .close ⟨"/a"⟩, .track ⟨"/a"⟩ "val f"]
    (show (ofChanges _).isTracked ⟨"/a"⟩ = true by decide)
  have htexts : ([.track ⟨"/a"⟩ "val f", .track ⟨"/b"⟩ "function f", .close ⟨"/a"⟩,
      .track ⟨"/a"⟩ "val f"] : List AnalysisChange).foldl AnalysisChange.onTexts [] =
        [(⟨"/b"⟩, "function f"), (⟨"/a"⟩, "val f")] := by decide
  rw [htexts] at hmem hresolve
  obtain rfl : text = "val f" := by simpa using hmem
  rw [(hresolve 5).1]
  decide +kernel

end Analysis

end SailNav
