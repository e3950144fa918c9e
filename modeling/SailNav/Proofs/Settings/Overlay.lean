import Mathlib.Tactic.Choose
import SailNav.Proofs.Settings.Field

/-!
# Settings are overlaid field by field

What the editor sends may hold settings in two places: by itself, and in its section
`sail-analyzer`. Each of the two is either a patch (`SailNav.Settings.IsPatch`) or counts for
nothing, so what it gives for a field (`SailNav.Settings.Gives`) depends on all of it. Apart from
that the fields have nothing to do with each other, and each of them is what the section gives, or
what is given outside, or what it was before, in this order (`SailNav.Settings.merge_exact`).

Keys that are not known are never looked up. Values that differ in such keys only
(`SailNav.Settings.AlikePatch`) give the same for every field.
-/

namespace SailNav.Settings

variable {s : Settings} {json other : Json} {f : SettingsField} {v : f.Value} {p : SettingsPatch}

/-! ### What a JSON value gives -/

/-- **A JSON value is a patch**: it is an object, its sections are objects, and the fields in them
have their types. A section or a field may also be missing or `null`. -/
structure IsPatch (json : Json) : Prop where
  object : json.IsObject
  sections (f : SettingsField) : json.Optionally Json.IsObject f.group
  fields (f : SettingsField) (members : Json) (h : json.get? f.group = some members) :
    members.Optionally (fun value => ∃ v, f.Means value v) f.key

/-- **A JSON value states a value for a field**, under its key in its section. -/
def States (json : Json) (f : SettingsField) (v : f.Value) : Prop :=
  ∃ members value, json.get? f.group = some members ∧ members.get? f.key = some value ∧
    f.Means value v

/-- **A JSON value gives a value for a field** if it is a patch and states that value. -/
structure Gives (json : Json) (f : SettingsField) (v : f.Value) : Prop where
  isPatch : IsPatch json
  states : States json f v

theorem states_iff : States json f v ↔
    (((json.given? f.group).getD .null).given? f.key).bind f.read? = some v := by
  simp only [Json.given?_getD_given?, Option.bind_eq_some_iff, SettingsField.read?_eq_some_iff]
  constructor
  · rintro ⟨members, value, hmembers, hvalue, hmeans⟩
    exact ⟨value, ⟨members, hmembers, Json.given?_eq_some_iff.2 ⟨hvalue, hmeans.ne_null⟩⟩, hmeans⟩
  · rintro ⟨value, ⟨members, hmembers, hvalue⟩, hmeans⟩
    exact ⟨members, value, hmembers, (Json.given?_eq_some_iff.1 hvalue).1, hmeans⟩

/-- **What is read for a field** is what is stated for it. -/
theorem inPatch?_eq_some_iff {found : Option f.Value} :
    f.inPatch? json = some found ↔
      (json.Optionally Json.IsObject f.group ∧ ∀ members, json.get? f.group = some members →
        members.Optionally (fun value => ∃ v, f.Means value v) f.key) ∧
      ∀ v, found = some v ↔ States json f v := by
  rw [SettingsField.inPatch?, Option.bind_eq_some_iff]
  simp only [Json.optionalField?_eq_some_iff, Json.isSome_members?_iff,
    SettingsField.isSome_read?_iff, states_iff]
  constructor
  · rintro ⟨members, ⟨hsection, rfl⟩, hfield, rfl⟩
    rw [Json.bind_members?_eq hsection] at hfield ⊢
    exact ⟨⟨hsection, Json.optionally_getD_given?.1 hfield⟩, fun v => Iff.rfl⟩
  · rintro ⟨⟨hsection, hfield⟩, hfound⟩
    refine ⟨_, ⟨hsection, rfl⟩, ?_⟩
    rw [Json.bind_members?_eq hsection]
    exact ⟨Json.optionally_getD_given?.2 hfield, Option.ext hfound⟩

/-- **A JSON value is read** if it is a patch, and only then. -/
theorem exists_ofJson?_iff : (∃ p, SettingsPatch.ofJson? json = some p) ↔ IsPatch json := by
  simp only [SettingsField.ofJson?_eq_some_iff, inPatch?_eq_some_iff]
  constructor
  · rintro ⟨p, hobject, hfields⟩
    exact ⟨hobject, fun f => (hfields f).1.1, fun f => (hfields f).1.2⟩
  · intro h
    have hfields (f : SettingsField) : ∃ found, f.inPatch? json = some found :=
      ⟨_, inPatch?_eq_some_iff.2 ⟨⟨h.sections f, h.fields f⟩, fun v => states_iff.symm⟩⟩
    choose found hfound using hfields
    obtain ⟨p, hp⟩ := SettingsField.exists_given found
    refine ⟨p, h.object, fun f => ?_⟩
    rw [hp]
    exact inPatch?_eq_some_iff.1 (hfound f)

/-- **What is read for a field** is what the value gives for it. -/
theorem given_eq_some_iff (h : SettingsPatch.ofJson? json = some p) :
    f.given p = some v ↔ Gives json f v := by
  have hpatch := exists_ofJson?_iff.1 ⟨p, h⟩
  obtain ⟨-, hstates⟩ := inPatch?_eq_some_iff.1 ((SettingsField.ofJson?_eq_some_iff.1 h).2 f)
  exact (hstates v).trans ⟨fun hv => ⟨hpatch, hv⟩, Gives.states⟩

/-! ### One value over settings -/

/-- The settings with what one JSON value gives in its place. -/
def overlay (s : Settings) (json : Json) : Settings :=
  match SettingsPatch.ofJson? json with
  | some p => p.apply s
  | none => s

theorem get_overlay_of_gives (h : Gives json f v) : f.get (s.overlay json) = v := by
  obtain ⟨p, hp⟩ := exists_ofJson?_iff.2 h.isPatch
  rw [overlay, hp]
  dsimp only
  rw [f.get_apply, (given_eq_some_iff hp).2 h, Option.getD_some]

theorem get_overlay_of_not_gives (h : ∀ v, ¬Gives json f v) :
    f.get (s.overlay json) = f.get s := by
  rw [overlay]
  cases hp : SettingsPatch.ofJson? json with
  | none => rfl
  | some p =>
    have hnone : f.given p = none :=
      Option.eq_none_iff_forall_ne_some.2 fun v hv => h v ((given_eq_some_iff hp).1 hv)
    dsimp only
    rw [f.get_apply, hnone, Option.getD_none]

/-- Values that give the same leave the same settings. -/
theorem overlay_congr (h : ∀ (f : SettingsField) (v : f.Value), Gives json f v ↔ Gives other f v) :
    s.overlay json = s.overlay other := by
  refine SettingsField.ext_get fun f => ?_
  by_cases hgives : ∃ v, Gives json f v
  · obtain ⟨v, hv⟩ := hgives
    rw [get_overlay_of_gives hv, get_overlay_of_gives ((h f v).1 hv)]
  · have hno := not_exists.1 hgives
    rw [get_overlay_of_not_gives hno,
      get_overlay_of_not_gives fun v hv => hno v ((h f v).2 hv)]

/-! ### Keys that are not known -/

/-- **Two values agree as a section** of the settings: they are the same, or objects with the same
fields. -/
inductive AlikeSection (group : String) : Json → Json → Prop
  | refl (json : Json) : AlikeSection group json json
  | objects {json other : Json} (hjson : json.IsObject) (hother : other.IsObject)
      (h : ∀ f : SettingsField, f.group = group → json.get? f.key = other.get? f.key) :
      AlikeSection group json other

/-- **Two values agree as a patch**: they are the same, or objects whose sections agree. -/
inductive AlikePatch : Json → Json → Prop
  | refl (json : Json) : AlikePatch json json
  | objects {json other : Json} (hjson : json.IsObject) (hother : other.IsObject)
      (h : ∀ f : SettingsField,
        Option.Rel (AlikeSection f.group) (json.get? f.group) (other.get? f.group)) :
      AlikePatch json other

/-- **Two values agree as what the editor sends**: by themselves, and in the section
`sail-analyzer`. -/
structure AlikePayload (json other : Json) : Prop where
  direct : AlikePatch json other
  inSection : Option.Rel AlikePatch (json.get? sectionKey) (other.get? sectionKey)

namespace AlikeSection

variable {members others : Json}

theorem symm {group : String} (h : AlikeSection group members others) :
    AlikeSection group others members := by
  cases h with
  | refl => exact .refl _
  | objects hmembers hothers h => exact .objects hothers hmembers fun f hf => (h f hf).symm

theorem get?_eq (h : AlikeSection f.group members others) :
    members.get? f.key = others.get? f.key := by
  cases h with
  | refl => rfl
  | objects _ _ h => exact h f rfl

theorem isObject_or {group : String} (h : AlikeSection group members others)
    (hmembers : members = .null ∨ members.IsObject) : others = .null ∨ others.IsObject := by
  cases h with
  | refl => exact hmembers
  | objects _ hothers _ => exact .inr hothers

end AlikeSection

namespace AlikePatch

theorem symm (h : AlikePatch json other) : AlikePatch other json := by
  cases h with
  | refl => exact .refl _
  | objects hjson hother h =>
    refine .objects hother hjson fun f => ?_
    have hf := h f
    generalize json.get? f.group = members, other.get? f.group = others at hf ⊢
    cases hf with
    | none => exact .none
    | some hf => exact .some hf.symm

theorem isObject (h : AlikePatch json other) (hjson : json.IsObject) : other.IsObject := by
  cases h with
  | refl => exact hjson
  | objects _ hother _ => exact hother

/-- Each section has its counterpart. -/
theorem exists_section (h : AlikePatch json other) {members : Json}
    (hmembers : json.get? f.group = some members) :
    ∃ others, other.get? f.group = some others ∧ AlikeSection f.group members others := by
  cases h with
  | refl => exact ⟨members, hmembers, .refl _⟩
  | objects _ _ h =>
    have hf := h f
    rw [hmembers] at hf
    generalize other.get? f.group = found at hf ⊢
    cases hf with
    | some hf => exact ⟨_, rfl, hf⟩

theorem isPatch (h : AlikePatch json other) (hjson : IsPatch json) : IsPatch other where
  object := h.isObject hjson.object
  sections f others hothers := by
    obtain ⟨members, hmembers, halike⟩ := h.symm.exists_section hothers
    exact halike.symm.isObject_or (hjson.sections f members hmembers)
  fields f others hothers := by
    obtain ⟨members, hmembers, halike⟩ := h.symm.exists_section hothers
    rw [Json.Optionally, halike.get?_eq]
    exact hjson.fields f members hmembers

theorem states (h : AlikePatch json other) (hjson : States json f v) : States other f v := by
  obtain ⟨members, value, hmembers, hvalue, hmeans⟩ := hjson
  obtain ⟨others, hothers, halike⟩ := h.exists_section hmembers
  exact ⟨others, value, hothers, halike.get?_eq ▸ hvalue, hmeans⟩

/-- **What is not known gives nothing.** -/
theorem gives_iff (h : AlikePatch json other) : Gives json f v ↔ Gives other f v :=
  ⟨fun hjson => ⟨h.isPatch hjson.isPatch, h.states hjson.states⟩,
    fun hother => ⟨h.symm.isPatch hother.isPatch, h.symm.states hother.states⟩⟩

theorem overlay_eq (h : AlikePatch json other) : s.overlay json = s.overlay other :=
  overlay_congr fun _ _ => h.gives_iff

end AlikePatch

/-! ### What the editor sends -/

variable {payload : Json}

/-- To apply what can be read is to overlay one value after the other. -/
theorem foldl_patches (s : Settings) (sources : List Json) :
    (sources.filterMap SettingsPatch.ofJson?).foldl (fun s p => p.apply s) s =
      sources.foldl overlay s := by
  induction sources generalizing s with
  | nil => rfl
  | cons json sources ih =>
    rw [List.filterMap_cons, List.foldl_cons, overlay]
    cases SettingsPatch.ofJson? json with
    | none => exact ih s
    | some p => exact ih (p.apply s)

/-- The values that may hold settings are overlaid one after the other. -/
theorem merge_eq (s : Settings) (payload : Json) :
    s.merge payload =
      ((payload.get? sectionKey).toList.foldl overlay (s.overlay payload)).normalize := by
  rw [merge, foldl_patches, patchSources, List.foldl_cons]

/-- Without the section, there is one value that may give something. -/
theorem merge_of_no_section (h : payload.get? sectionKey = none) :
    s.merge payload = (s.overlay payload).normalize := by
  rw [merge_eq, h]
  rfl

/-- What the section gives goes over what stands outside. -/
theorem merge_of_section (h : payload.get? sectionKey = some json) :
    s.merge payload = ((s.overlay payload).overlay json).normalize := by
  rw [merge_eq, h]
  rfl

/-- Settings that stand in the section only are read there only. -/
theorem overlay_section (s : Settings) (json : Json) :
    s.overlay (.obj [(sectionKey, json)]) = s := by
  refine SettingsField.ext_get fun f => get_overlay_of_not_gives fun v hgives => ?_
  obtain ⟨members, -, hmembers, -⟩ := hgives.states
  cases f <;> cases hmembers

/-- **What the section gives for a field.** -/
def GivesInSection (payload : Json) (f : SettingsField) (v : f.Value) : Prop :=
  ∃ json, payload.get? sectionKey = some json ∧ Gives json f v

theorem get_merge_of_givesInSection (h : GivesInSection payload f v) :
    f.get (s.merge payload) = f.normal v := by
  obtain ⟨json, hjson, hgives⟩ := h
  rw [merge_of_section hjson, f.get_normalize, get_overlay_of_gives hgives]

theorem get_merge_of_not_givesInSection (h : ∀ v, ¬GivesInSection payload f v) :
    f.get (s.merge payload) = f.normal (f.get (s.overlay payload)) := by
  cases hsection : payload.get? sectionKey with
  | none => rw [merge_of_no_section hsection, f.get_normalize]
  | some json =>
    rw [merge_of_section hsection, f.get_normalize,
      get_overlay_of_not_gives fun v hv => h v ⟨json, hsection, hv⟩]

/-- **Settings are overlaid field by field.** A field is what the section gives for it, or else what
is given outside the section, or else what it was before, and always in normal form. Keys that are
not known have no influence. So it makes no difference whether settings are sent in the section or
by themselves. -/
theorem merge_exact (s : Settings) (payload : Json) :
    (∀ (f : SettingsField) (v : f.Value), GivesInSection payload f v →
      f.get (s.merge payload) = f.normal v) ∧
    (∀ (f : SettingsField) (v : f.Value), (∀ w, ¬GivesInSection payload f w) →
      Gives payload f v → f.get (s.merge payload) = f.normal v) ∧
    (∀ f : SettingsField, (∀ w, ¬GivesInSection payload f w) → (∀ w, ¬Gives payload f w) →
      f.get (s.merge payload) = f.normal (f.get s)) ∧
    (∀ other, AlikePayload payload other → s.merge payload = s.merge other) ∧
    ∀ json : Json, json.get? sectionKey = none →
      s.merge (.obj [(sectionKey, json)]) = s.merge json := by
  refine ⟨fun f v => get_merge_of_givesInSection, fun f v hsection hgives => ?_,
    fun f hsection hgives => ?_, fun other halike => ?_, fun json hjson => ?_⟩
  · rw [get_merge_of_not_givesInSection hsection, get_overlay_of_gives hgives]
  · rw [get_merge_of_not_givesInSection hsection, get_overlay_of_not_gives hgives]
  · have hsection := halike.inSection
    rw [merge_eq, merge_eq, halike.direct.overlay_eq]
    generalize payload.get? sectionKey = json, other.get? sectionKey = json' at hsection ⊢
    cases hsection with
    | none => rfl
    | some hsection => simp only [Option.toList_some, List.foldl_cons, hsection.overlay_eq]
  · rw [merge_of_section rfl, overlay_section, merge_of_no_section hjson]

/-- One fault spoils a whole section, however deep it stands. What is given outside still counts. -/
example :
    (initial.merge (.obj [
      ("logging", .obj [("level", .str "warn")]),
      ("sail-analyzer", .obj [
        ("logging", .obj [("level", .str "debug")]),
        ("indexing", .obj [("excludePaths", .arr [.str "a", .null])])])])).level = .warn := by
  decide

end SailNav.Settings
