import Mathlib.Data.List.Induction
import Mathlib.Data.List.Nodup
import SailNav.Proofs.Settings.Overlay

/-!
# Settings in normal form

Settings are in normal form (`SailNav.Settings.IsNormal`) when their numbers are within their bounds
and the excluded paths are trimmed, not empty and apart from one another. Whatever the editor sends,
merging ends by bringing the settings into this form, and that changes nothing of settings that have
it (`SailNav.Settings.normalize_eq_self_iff`).

Of the excluded paths more is to be said than which they are, because the editor's list is in an
order: each path is kept where it first occurs (`SailNav.IndexingSettings.IsFirsts`). To leave out
repetitions once more changes nothing, since a list without them is its own list of firsts.

The normal form is made field by field, so a payload that is merged twice gives each field what it
gave it before, or the normal form of what is normal already (`SailNav.Settings.merge_merge`).
-/

namespace SailNav

/-! ### Trimmed texts -/

namespace Text

/-- **A text is trimmed**: neither its first nor its last character is blank. -/
structure IsTrimmed (text : List Char) : Prop where
  head : ∀ c, text.head? = some c → isBlank c = false
  last : ∀ c, text.getLast? = some c → isBlank c = false

/-- What is left behind the blanks at the start does not start with a blank. -/
theorem isBlank_head_dropWhile (text : List Char) {c : Char}
    (h : (text.dropWhile isBlank).head? = some c) : isBlank c = false := by
  have hhead := List.head?_dropWhile_not isBlank text
  rw [h] at hhead
  exact hhead

/-- Trimming makes a text trimmed. -/
theorem isTrimmed_trim (text : List Char) : IsTrimmed (trim text) where
  head c hc := by
    -- taking off the blanks at the end leaves a front of what starts with no blank
    have hfront : trim text <+: text.dropWhile isBlank := by
      rw [trim, ← List.reverse_suffix, List.reverse_reverse]
      exact List.dropWhile_suffix isBlank
    refine isBlank_head_dropWhile text ?_
    obtain ⟨rest, hrest⟩ := hfront
    rw [← hrest, List.head?_append, hc, Option.some_or]
  last c hc := by
    rw [trim, List.getLast?_reverse] at hc
    exact isBlank_head_dropWhile _ hc

/-- A text that does not start with a blank has none to be taken off. -/
theorem dropWhile_isBlank_eq_self {text : List Char}
    (h : ∀ c, text.head? = some c → isBlank c = false) : text.dropWhile isBlank = text := by
  cases text with
  | nil => rfl
  | cons c rest => exact List.dropWhile_cons_of_neg (by simp [h c rfl])

/-- **The trimmed texts are those that trimming leaves as they are.** -/
theorem trim_eq_self_iff {text : List Char} : trim text = text ↔ IsTrimmed text := by
  constructor
  · intro h
    rw [← h]
    exact isTrimmed_trim text
  · intro h
    have hlast : ∀ c, text.reverse.head? = some c → isBlank c = false := by
      rw [List.head?_reverse]
      exact h.last
    rw [trim, dropWhile_isBlank_eq_self h.head, dropWhile_isBlank_eq_self hlast,
      List.reverse_reverse]

end Text

namespace IndexingSettings

/-! ### Lists without repetition -/

/-- **A list holds the firsts of another**: what is in the other, each element once, in the order in
which they first occur there. -/
structure IsFirsts (few many : List String) : Prop where
  nodup : few.Nodup
  mem_iff : ∀ p, p ∈ few ↔ p ∈ many
  ordered : few.Pairwise fun p q => many.idxOf p < many.idxOf q

/-- An element at the end is left out if it is there already. -/
theorem distinct_concat (paths : List String) (p : String) :
    distinct (paths ++ [p]) = if p ∈ distinct paths then distinct paths else distinct paths ++ [p] := by
  simp only [distinct, List.foldl_append, List.foldl_cons, List.foldl_nil, List.mem_reverse]
  split
  · rfl
  · exact List.reverse_cons

/-- **Leaving out repetitions keeps the firsts.** -/
theorem isFirsts_distinct (paths : List String) : IsFirsts (distinct paths) paths := by
  induction paths using List.reverseRecOn with
  | nil => exact ⟨List.nodup_nil, fun _ => Iff.rfl, .nil⟩
  | append_singleton paths p ih =>
    -- an element at the end comes behind all that were there, and moves none of them
    have hbefore : ∀ q ∈ paths, (paths ++ [p]).idxOf q = paths.idxOf q :=
      fun q hq => List.idxOf_append_of_mem hq
    have hordered : (distinct paths).Pairwise
        fun q r => (paths ++ [p]).idxOf q < (paths ++ [p]).idxOf r := by
      refine ih.ordered.imp_of_mem fun hq hr hlt => ?_
      rwa [hbefore _ ((ih.mem_iff _).1 hq), hbefore _ ((ih.mem_iff _).1 hr)]
    rw [distinct_concat]
    by_cases hp : p ∈ paths
    · rw [if_pos ((ih.mem_iff p).2 hp)]
      refine ⟨ih.nodup, fun q => (ih.mem_iff q).trans ?_, hordered⟩
      simp only [List.mem_append, List.mem_singleton]
      exact ⟨Or.inl, fun hq => hq.elim id fun heq => heq ▸ hp⟩
    · have hnew := fun hmem => hp ((ih.mem_iff p).1 hmem)
      rw [if_neg hnew]
      refine ⟨List.nodup_append.2 ⟨ih.nodup, List.nodup_singleton p, ?_⟩, fun q => ?_, ?_⟩
      · rintro q hq r hr rfl
        exact hnew (List.mem_singleton.1 hr ▸ hq)
      · simp only [List.mem_append, ih.mem_iff]
      · refine List.pairwise_append.2 ⟨hordered, List.pairwise_singleton _ _, fun q hq r hr => ?_⟩
        have hq := (ih.mem_iff q).1 hq
        rw [List.mem_singleton.1 hr, hbefore q hq, List.idxOf_append_of_notMem hp]
        have hlt := List.idxOf_lt_length_of_mem hq
        omega

/-- A list without repetition loses nothing. -/
theorem distinct_of_nodup {paths : List String} (h : paths.Nodup) : distinct paths = paths := by
  induction paths using List.reverseRecOn with
  | nil => rfl
  | append_singleton paths p ih =>
    obtain ⟨hpaths, -, hp⟩ := List.nodup_append.1 h
    rw [distinct_concat, ih hpaths, if_neg fun hmem => hp p hmem p (List.mem_singleton_self p) rfl]

/-! ### Excluded paths -/

/-- Paths without the blanks around them, the empty ones left out. -/
def cleaned (paths : List String) : List String :=
  (paths.map Text.trimString).filter fun p => p ≠ ""

/-- **Excluded paths are normal**: each is trimmed and not empty, and none is there twice. -/
structure AreNormal (paths : List String) : Prop where
  trimmed : ∀ p ∈ paths, Text.IsTrimmed p.toList
  ne_empty : ∀ p ∈ paths, p ≠ ""
  nodup : paths.Nodup

/-- The normal form of a list of paths is made of the paths when they are cleaned. -/
theorem normalPaths_eq (paths : List String) : normalPaths paths = distinct (cleaned paths) := by
  rw [normalPaths, cleaned]
  refine congrArg distinct (List.filter_congr fun p _ => ?_)
  rw [Bool.eq_iff_iff]
  simp

/-- Cleaned paths are trimmed and not empty. -/
theorem trimmed_of_mem_cleaned {paths : List String} {p : String} (h : p ∈ cleaned paths) :
    Text.IsTrimmed p.toList ∧ p ≠ "" := by
  obtain ⟨hmem, hne⟩ := List.mem_filter.1 h
  obtain ⟨q, -, rfl⟩ := List.mem_map.1 hmem
  refine ⟨?_, of_decide_eq_true hne⟩
  rw [Text.trimString, String.toList_ofList]
  exact Text.isTrimmed_trim q.toList

/-- **The normal form of a list of paths** is normal, and holds the firsts of the cleaned paths. -/
theorem areNormal_normalPaths (paths : List String) :
    AreNormal (normalPaths paths) ∧ IsFirsts (normalPaths paths) (cleaned paths) := by
  rw [normalPaths_eq]
  have hfirsts := isFirsts_distinct (cleaned paths)
  have hmem : ∀ p ∈ distinct (cleaned paths), Text.IsTrimmed p.toList ∧ p ≠ "" :=
    fun p hp => trimmed_of_mem_cleaned ((hfirsts.mem_iff p).1 hp)
  exact ⟨⟨fun p hp => (hmem p hp).1, fun p hp => (hmem p hp).2, hfirsts.nodup⟩, hfirsts⟩

/-- Normal paths are their own normal form. -/
theorem AreNormal.normalPaths_eq {paths : List String} (h : AreNormal paths) :
    normalPaths paths = paths := by
  have htrim : paths.map Text.trimString = paths := by
    refine (List.map_congr_left fun p hp => ?_).trans (List.map_id paths)
    rw [Text.trimString, Text.trim_eq_self_iff.2 (h.trimmed p hp), String.ofList_toList]
    rfl
  have hcleaned : cleaned paths = paths := by
    rw [cleaned, htrim, List.filter_eq_self]
    exact fun p hp => decide_eq_true (h.ne_empty p hp)
  rw [IndexingSettings.normalPaths_eq, hcleaned, distinct_of_nodup h.nodup]

/-! ### Numbers -/

theorem clamp_mem {low high : Nat} (h : low ≤ high) (n : Nat) :
    low ≤ clamp low high n ∧ clamp low high n ≤ high := by
  unfold clamp
  omega

theorem clamp_of_mem {low high n : Nat} (hlow : low ≤ n) (hhigh : n ≤ high) :
    clamp low high n = n := by
  unfold clamp
  omega

/-- A number of 64 bits is not cut. -/
theorem saturated_of_le {n : Nat} (h : n ≤ 0xFFFFFFFFFFFFFFFF) : saturated n = n := by
  unfold saturated
  omega

end IndexingSettings

/-! ### The normal form -/

namespace Settings

open IndexingSettings

/-- **Settings are in normal form.** -/
structure IsNormal (s : Settings) : Prop where
  concurrency : 1 ≤ s.indexing.concurrency ∧ s.indexing.concurrency ≤ 32
  maxFileSizeKb : 16 ≤ s.indexing.maxFileSizeKb ∧ s.indexing.maxFileSizeKb ≤ 65536
  excludePaths : AreNormal s.indexing.excludePaths

variable {s : Settings} {payload : Json} {chain : List Json}

/-- Normalizing makes settings normal. -/
theorem isNormal_normalize (s : Settings) : s.normalize.IsNormal where
  concurrency := clamp_mem (by decide) _
  maxFileSizeKb := clamp_mem (by decide) _
  excludePaths := (areNormal_normalPaths _).1

/-- **Settings in normal form are those that normalizing leaves as they are.** -/
theorem normalize_eq_self_iff : s.normalize = s ↔ s.IsNormal := by
  constructor
  · intro h
    rw [← h]
    exact isNormal_normalize s
  · intro h
    refine SettingsField.ext_get fun f => ?_
    rw [f.get_normalize]
    cases f with
    | concurrency => exact clamp_of_mem h.concurrency.1 h.concurrency.2
    | maxFileSizeKb => exact clamp_of_mem h.maxFileSizeKb.1 h.maxFileSizeKb.2
    | excludePaths => exact h.excludePaths.normalPaths_eq
    | enabled | candidates | lexical | level => rfl

/-- The settings at the start are normal. -/
theorem isNormal_initial : initial.IsNormal where
  concurrency := by decide
  maxFileSizeKb := by decide
  excludePaths := ⟨nofun, nofun, List.nodup_nil⟩

/-- Settings are normal after whatever is merged into them. -/
theorem isNormal_merge (s : Settings) (payload : Json) : (s.merge payload).IsNormal := by
  rw [merge_eq]
  exact isNormal_normalize _

/-- The greatest file of normal settings is far from the bound of 64 bits. -/
theorem IsNormal.maxFileSizeBytes_eq (h : s.IsNormal) :
    s.indexing.maxFileSizeBytes = s.indexing.maxFileSizeKb * 1024 := by
  have hkb := h.maxFileSizeKb.2
  exact saturated_of_le (by omega)

/-! ### One payload after another -/

/-- **What a payload provides for a field**: what its section gives, or else what is given outside
the section. -/
def Provides (payload : Json) (f : SettingsField) (v : f.Value) : Prop :=
  GivesInSection payload f v ∨ (∀ w, ¬GivesInSection payload f w) ∧ Gives payload f v

/-- A field comes to have the normal form of what is provided for it. -/
theorem get_merge_of_provides {f : SettingsField} {v : f.Value} (h : Provides payload f v) :
    f.get (s.merge payload) = f.normal v := by
  rcases h with hsection | ⟨hsection, hgives⟩
  · exact get_merge_of_givesInSection hsection
  · rw [get_merge_of_not_givesInSection hsection, get_overlay_of_gives hgives]

/-- A field for which nothing is provided is only brought into normal form. -/
theorem get_merge_of_not_provides {f : SettingsField} (h : ∀ v, ¬Provides payload f v) :
    f.get (s.merge payload) = f.normal (f.get s) := by
  have hsection : ∀ v, ¬GivesInSection payload f v := fun v hv => h v (Or.inl hv)
  rw [get_merge_of_not_givesInSection hsection,
    get_overlay_of_not_gives fun v hv => h v (Or.inr ⟨hsection, hv⟩)]

/-- The normal form of a value is its own normal form. -/
theorem normal_normal (f : SettingsField) (v : f.Value) : f.normal (f.normal v) = f.normal v := by
  cases f with
  | concurrency =>
    have ⟨hlow, hhigh⟩ := clamp_mem (show 1 ≤ 32 by decide) v
    exact clamp_of_mem hlow hhigh
  | maxFileSizeKb =>
    have ⟨hlow, hhigh⟩ := clamp_mem (show 16 ≤ 65536 by decide) v
    exact clamp_of_mem hlow hhigh
  | excludePaths => exact (areNormal_normalPaths v).1.normalPaths_eq
  | enabled | candidates | lexical | level => rfl

/-- **To merge a payload again changes nothing.** -/
theorem merge_merge (s : Settings) (payload : Json) :
    (s.merge payload).merge payload = s.merge payload := by
  refine SettingsField.ext_get fun f => ?_
  by_cases hprovides : ∃ v, Provides payload f v
  · obtain ⟨v, hv⟩ := hprovides
    rw [get_merge_of_provides hv, get_merge_of_provides hv]
  · have hno := not_exists.1 hprovides
    rw [get_merge_of_not_provides hno, get_merge_of_not_provides hno, normal_normal]

/-- Paths that differ in the blanks around them only are one path, and a number that was out of
bounds stays at the bound. -/
example :
    (initial.merge (.obj [("indexing", .obj [
      ("concurrency", .int 0),
      ("excludePaths", .arr [.str " b", .str "a", .str "b\t", .str " "])])])).indexing =
      ⟨true, 1, 1024, ["b", "a"]⟩ := by
  decide

/-- The settings after a chain of payloads. -/
def mergeAll (s : Settings) (chain : List Json) : Settings := chain.foldl merge s

/-- A chain of payloads leaves settings normal. -/
theorem isNormal_mergeAll (h : s.IsNormal) (chain : List Json) : (s.mergeAll chain).IsNormal := by
  induction chain generalizing s with
  | nil => exact h
  | cons payload chain ih => exact ih (isNormal_merge s payload)

/-- A chain that provides nothing for a field leaves it normal as it is. -/
theorem get_mergeAll_of_not_provides {f : SettingsField}
    (h : ∀ payload ∈ chain, ∀ v, ¬Provides payload f v) (hs : f.normal (f.get s) = f.get s) :
    f.get (s.mergeAll chain) = f.get s := by
  induction chain generalizing s with
  | nil => rfl
  | cons payload chain ih =>
    obtain ⟨hpayload, hchain⟩ := List.forall_mem_cons.1 h
    have hget := get_merge_of_not_provides (s := s) hpayload
    rw [hs] at hget
    exact (ih hchain (by rw [hget, hs])).trans hget

/-- **After a chain of payloads a field has what was provided last.** -/
theorem get_mergeAll_of_provides {f : SettingsField} {v : f.Value} {back : List Json}
    (h : Provides payload f v) (hback : ∀ later ∈ back, ∀ w, ¬Provides later f w) :
    f.get (s.mergeAll (chain ++ payload :: back)) = f.normal v := by
  have hget := get_merge_of_provides (s := s.mergeAll chain) h
  rw [mergeAll, List.foldl_append, List.foldl_cons, ← hget]
  refine get_mergeAll_of_not_provides hback ?_
  rw [mergeAll] at hget
  rw [hget, normal_normal]

end Settings

end SailNav
