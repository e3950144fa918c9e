import SailNav.Proofs.Json.Fields
import SailNav.Settings.Patch

/-!
# The fields of the settings

Settings, patches and the JSON that a patch is read from have the same seven fields. A field has
values of its own, stands under its key in a section, and has a declared type: the JSON values that
mean a value of it (`SailNav.SettingsField.Means`). What a patch does to settings it does to each
field for itself (`SailNav.SettingsField.get_apply`), and so does bringing settings into normal form
(`SailNav.SettingsField.get_normalize`). Reading a patch is all or nothing, but what it reads for a
field depends on that field only (`SailNav.SettingsField.ofJson?_eq_some_iff`).
-/

namespace SailNav

/-- What can be set. -/
inductive SettingsField where
  | enabled
  | concurrency
  | maxFileSizeKb
  | excludePaths
  | candidates
  | lexical
  | level
  deriving DecidableEq, Repr

namespace SettingsField

/-- The values of a field. -/
abbrev Value : SettingsField → Type
  | enabled | lexical => Bool
  | concurrency | maxFileSizeKb => Nat
  | excludePaths => List String
  | candidates => CandidatePolicy
  | level => LogLevel

/-- The section that a field stands in. -/
def group : SettingsField → String
  | enabled | concurrency | maxFileSizeKb | excludePaths => "indexing"
  | candidates => "navigation"
  | lexical => "diagnostics"
  | level => "logging"

/-- The key of a field in its section. -/
def key : SettingsField → String
  | enabled => "enabled"
  | concurrency => "concurrency"
  | maxFileSizeKb => "maxFileSizeKb"
  | excludePaths => "excludePaths"
  | candidates => "candidates"
  | lexical => "lexical"
  | level => "level"

/-- The field of settings. -/
def get : (f : SettingsField) → Settings → f.Value
  | enabled, s => s.indexing.enabled
  | concurrency, s => s.indexing.concurrency
  | maxFileSizeKb, s => s.indexing.maxFileSizeKb
  | excludePaths, s => s.indexing.excludePaths
  | candidates, s => s.candidates
  | lexical, s => s.lexical
  | level, s => s.level

/-- The field of a patch. -/
def given : (f : SettingsField) → SettingsPatch → Option f.Value
  | enabled, p => p.enabled
  | concurrency, p => p.concurrency
  | maxFileSizeKb, p => p.maxFileSizeKb
  | excludePaths, p => p.excludePaths
  | candidates, p => p.candidates
  | lexical, p => p.lexical
  | level, p => p.level

/-- The normal form of a value. -/
def normal : (f : SettingsField) → f.Value → f.Value
  | concurrency, n => IndexingSettings.clamp 1 32 n
  | maxFileSizeKb, n => IndexingSettings.clamp 16 65536 n
  | excludePaths, paths => IndexingSettings.normalPaths paths
  | enabled, v | candidates, v | lexical, v | level, v => v

/-- Settings with the same fields are the same. -/
theorem ext_get {s r : Settings} (h : ∀ f : SettingsField, f.get s = f.get r) : s = r := by
  obtain ⟨⟨_, _, _, _⟩, _, _, _⟩ := s
  obtain ⟨⟨_, _, _, _⟩, _, _, _⟩ := r
  obtain rfl := h enabled
  obtain rfl := h concurrency
  obtain rfl := h maxFileSizeKb
  obtain rfl := h excludePaths
  obtain rfl := h candidates
  obtain rfl := h lexical
  obtain rfl := h level
  rfl

/-- Any values are those of a patch. -/
theorem exists_given (found : (f : SettingsField) → Option f.Value) :
    ∃ p, ∀ f : SettingsField, f.given p = found f :=
  ⟨⟨found enabled, found concurrency, found maxFileSizeKb, found excludePaths, found candidates,
    found lexical, found level⟩, fun f => by cases f <;> rfl⟩

variable (f : SettingsField)

theorem get_normalize (s : Settings) : f.get s.normalize = f.normal (f.get s) := by
  cases f <;> rfl

theorem get_apply (p : SettingsPatch) (s : Settings) :
    f.get (p.apply s) = (f.given p).getD (f.get s) := by
  cases f <;> rfl

end SettingsField

/-! ### Types -/

/-- The policy by its name in the settings. -/
def CandidatePolicy.settingName : CandidatePolicy → String
  | first => "first"
  | all => "all"

theorem SettingsPatch.policy?_eq_some_iff {json : Json} {policy : CandidatePolicy} :
    policy? json = some policy ↔ json.IsChoice policy.settingName := by
  rw [← Json.choice?_eq_some_iff, policy?]
  split
  · rename_i hfirst
    rw [hfirst]
    cases policy <;> decide
  · rename_i hall
    rw [hall]
    cases policy <;> decide
  · rename_i hfirst hall
    refine ⟨nofun, fun h => ?_⟩
    cases policy with
    | first => exact (hfirst h).elim
    | all => exact (hall h).elim

theorem LogLevel.find?_settingName (level : LogLevel) :
    (all.find? fun other => other.settingName == level.settingName) = some level := by
  cases level <;> decide

theorem SettingsPatch.level?_eq_some_iff {json : Json} {level : LogLevel} :
    level? json = some level ↔ json.IsChoice level.settingName := by
  rw [← Json.choice?_eq_some_iff, level?, Option.bind_eq_bind, Option.bind_eq_some_iff]
  constructor
  · rintro ⟨name, hname, hfind⟩
    have hsame := List.find?_some hfind
    rw [hname, ← eq_of_beq hsame]
  · intro hname
    exact ⟨_, hname, LogLevel.find?_settingName level⟩

namespace SettingsField

/-- **The declared type of a field**: which JSON values mean a value of it. A number has to fit 64
bits and must not be negative. -/
def Means : (f : SettingsField) → Json → f.Value → Prop
  | enabled, json, b | lexical, json, b => json = .bool b
  | concurrency, json, n | maxFileSizeKb, json, n => json = .nat n ∧ (n : Nat) < Nat.pow 2 64
  | excludePaths, json, paths => json = .arr (List.map .str paths)
  | candidates, json, policy => json.IsChoice (CandidatePolicy.settingName policy)
  | level, json, l => json.IsChoice (LogLevel.settingName l)

/-- The reading of a value. -/
def read? : (f : SettingsField) → Json → Option f.Value
  | enabled | lexical => Json.bool?
  | concurrency | maxFileSizeKb => Json.natOfBits? 64
  | excludePaths => Json.listOf? Json.str?
  | candidates => SettingsPatch.policy?
  | level => SettingsPatch.level?

variable {f : SettingsField} {json : Json} {v w : f.Value}

/-- **What is read is what a value means.** -/
theorem read?_eq_some_iff : f.read? json = some v ↔ f.Means json v := by
  cases f with
  | enabled => exact Json.bool?_eq_some_iff
  | concurrency => exact Json.natOfBits?_eq_some_iff
  | maxFileSizeKb => exact Json.natOfBits?_eq_some_iff
  | excludePaths => exact Json.listOf?_str?_eq_some_iff
  | candidates => exact SettingsPatch.policy?_eq_some_iff
  | lexical => exact Json.bool?_eq_some_iff
  | level => exact SettingsPatch.level?_eq_some_iff

theorem Means.ne_null (h : f.Means json v) : json ≠ .null := by
  rintro rfl
  rw [← read?_eq_some_iff] at h
  cases f <;> cases h

theorem isSome_read?_iff : (f.read? json).isSome = true ↔ ∃ v, f.Means json v := by
  rw [Option.isSome_iff_exists]
  exact exists_congr fun v => read?_eq_some_iff

/-- What JSON says of a field is read from its section. It is `none` if the section or the field has
the wrong type. -/
def inPatch? (f : SettingsField) (json : Json) : Option (Option f.Value) :=
  (json.optionalField? Json.members? f.group).bind fun members =>
    (members.getD .null).optionalField? f.read? f.key

theorem inPatch?_eq (f : SettingsField) {members : Option Json}
    (h : json.optionalField? Json.members? f.group = some members) :
    f.inPatch? json = (members.getD .null).optionalField? f.read? f.key := by
  rw [inPatch?, h, Option.bind_some]

/-- **A patch is read field by field**, and it is read if each of its fields is. -/
theorem ofJson?_eq_some_iff {p : SettingsPatch} :
    SettingsPatch.ofJson? json = some p ↔
      json.IsObject ∧ ∀ f : SettingsField, f.inPatch? json = some (f.given p) := by
  unfold SettingsPatch.ofJson?
  dsimp only [Option.bind_eq_bind, Option.pure_def]
  simp only [Option.bind_eq_some_iff]
  constructor
  · rintro ⟨root, hroot, indexing, hindexing, navigation, hnavigation, diagnostics, hdiagnostics,
      logging, hlogging, enabled, henabled, concurrency, hconcurrency, maxFileSizeKb,
      hmaxFileSizeKb, excludePaths, hexcludePaths, candidates, hcandidates, lexical, hlexical,
      level, hlevel, hp⟩
    obtain ⟨hobject, rfl⟩ := Json.members?_eq_some_iff.1 hroot
    obtain rfl := Option.some.inj hp
    refine ⟨hobject, fun f => ?_⟩
    cases f with
    | enabled => exact (inPatch?_eq .enabled hindexing).trans henabled
    | concurrency => exact (inPatch?_eq .concurrency hindexing).trans hconcurrency
    | maxFileSizeKb => exact (inPatch?_eq .maxFileSizeKb hindexing).trans hmaxFileSizeKb
    | excludePaths => exact (inPatch?_eq .excludePaths hindexing).trans hexcludePaths
    | candidates => exact (inPatch?_eq .candidates hnavigation).trans hcandidates
    | lexical => exact (inPatch?_eq .lexical hdiagnostics).trans hlexical
    | level => exact (inPatch?_eq .level hlogging).trans hlevel
  · rintro ⟨hobject, hfields⟩
    obtain ⟨indexing, hindexing, henabled⟩ := Option.bind_eq_some_iff.1 (hfields .enabled)
    obtain ⟨navigation, hnavigation, hcandidates⟩ := Option.bind_eq_some_iff.1 (hfields .candidates)
    obtain ⟨diagnostics, hdiagnostics, hlexical⟩ := Option.bind_eq_some_iff.1 (hfields .lexical)
    obtain ⟨logging, hlogging, hlevel⟩ := Option.bind_eq_some_iff.1 (hfields .level)
    -- the other fields stand in the section of the first
    have hconcurrency := (inPatch?_eq .concurrency hindexing).symm.trans (hfields .concurrency)
    have hmaxFileSizeKb :=
      (inPatch?_eq .maxFileSizeKb hindexing).symm.trans (hfields .maxFileSizeKb)
    have hexcludePaths := (inPatch?_eq .excludePaths hindexing).symm.trans (hfields .excludePaths)
    exact ⟨_, Json.members?_eq_some_iff.2 ⟨hobject, rfl⟩, _, hindexing, _, hnavigation,
      _, hdiagnostics, _, hlogging, _, henabled, _, hconcurrency, _, hmaxFileSizeKb,
      _, hexcludePaths, _, hcandidates, _, hlexical, _, hlevel, rfl⟩

end SettingsField

end SailNav
