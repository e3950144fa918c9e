import Mathlib.Data.Option.Basic
import SailNav.Json.Fields

/-!
# What is read from a JSON value

Each reader of `SailNav.Json` is told by the values that it reads. A member that need not be given
may be missing or `null`, and otherwise it has to be readable (`SailNav.Json.Optionally`). If it is
not, nothing is read, and if it is, what it means is read
(`SailNav.Json.optionalField?_eq_some_iff`).
-/

namespace SailNav.Json

variable {json value : Json} {key : String} {α : Type} {read : Json → Option α}

/-! ### Values -/

/-- **A value is an object.** -/
def IsObject (json : Json) : Prop := ∃ members, json = .obj members

/-- **A value is a choice** of a name: the name alone, or an object with that key only and nothing
in it. -/
def IsChoice (name : String) (json : Json) : Prop := json = .str name ∨ json = .obj [(name, .null)]

theorem bool?_eq_some_iff {b : Bool} : json.bool? = some b ↔ json = .bool b := by
  cases json <;> simp [bool?]

theorem str?_eq_some_iff {text : String} : json.str? = some text ↔ json = .str text := by
  cases json <;> simp [str?]

theorem members?_eq_some_iff : json.members? = some value ↔ json.IsObject ∧ value = json := by
  cases json <;> simp [members?, IsObject, eq_comm]

/-- **The numbers that are read** are the integers from zero up that fit the bits. -/
theorem natOfBits?_eq_some_iff {bits n : Nat} :
    json.natOfBits? bits = some n ↔ json = .int n ∧ n < Nat.pow 2 bits := by
  have hpos : 0 < Nat.pow 2 bits := Nat.two_pow_pos bits
  rw [natOfBits?, intWithin?, Option.map_eq_some_iff]
  constructor
  · rintro ⟨i, hi, rfl⟩
    obtain ⟨hint, hrange⟩ := Option.filter_eq_some_iff.1 hi
    simp only [Bool.and_eq_true, decide_eq_true_eq] at hrange
    cases json with
    | int j =>
      obtain rfl := Option.some.inj hint
      exact ⟨congrArg Json.int (by omega), by omega⟩
    | _ => cases hint
  · rintro ⟨rfl, hn⟩
    refine ⟨n, Option.filter_eq_some_iff.2 ⟨rfl, ?_⟩, Int.toNat_natCast n⟩
    simp only [Bool.and_eq_true, decide_eq_true_eq]
    omega

theorem choice?_eq_some_iff {name : String} : json.choice? = some name ↔ json.IsChoice name := by
  unfold choice?
  split
  · simp [IsChoice]
  · simp [IsChoice]
  · rename_i hstr hobj
    refine ⟨nofun, ?_⟩
    rintro (rfl | rfl)
    · exact (hstr _ rfl).elim
    · exact (hobj _ rfl).elim

/-- A list of texts is read from their array. -/
theorem listOf?_str?_eq_some_iff {texts : List String} :
    json.listOf? str? = some texts ↔ json = .arr (texts.map .str) := by
  have hmapM (items : List Json) : items.mapM str? = some texts ↔ items = texts.map .str := by
    induction items generalizing texts with
    | nil => cases texts <;> simp
    | cons item items ih => cases texts <;> simp [Option.bind_eq_some_iff, str?_eq_some_iff, ih]
  cases json <;> simp [listOf?, arr?, hmapM]

/-! ### Members -/

theorem given?_eq_some_iff :
    json.given? key = some value ↔ json.get? key = some value ∧ value ≠ .null := by
  unfold given?
  split
  · rename_i hnull
    rw [hnull]
    exact ⟨nofun, fun h => (h.2 (Option.some.inj h.1).symm).elim⟩
  · rename_i hnull
    refine ⟨fun h => ⟨h, ?_⟩, And.left⟩
    rintro rfl
    exact hnull h

/-- **A member is in order**: it is missing, it is `null`, or it is as it should be. -/
def Optionally (ok : Json → Prop) (key : String) (json : Json) : Prop :=
  ∀ value, json.get? key = some value → value = .null ∨ ok value

theorem isSome_members?_iff : json.members?.isSome = true ↔ json.IsObject := by
  cases json <;> simp [members?, IsObject]

theorem optionally_iff {ok : Json → Prop} :
    json.Optionally ok key ↔ ∀ value, json.given? key = some value → ok value := by
  constructor
  · intro h value hvalue
    obtain ⟨hget, hne⟩ := given?_eq_some_iff.1 hvalue
    exact (h value hget).resolve_left hne
  · intro h value hget
    by_cases hne : value = .null
    · exact .inl hne
    · exact .inr (h value (given?_eq_some_iff.2 ⟨hget, hne⟩))

/-- **A member that need not be given is read** if it is in order, and then as what it means. -/
theorem optionalField?_eq_some_iff {found : Option α} :
    json.optionalField? read key = some found ↔
      json.Optionally (fun value => (read value).isSome) key ∧
        found = (json.given? key).bind read := by
  rw [optionally_iff, optionalField?]
  cases json.given? key with
  | none => simp [@eq_comm _ found]
  | some value =>
    simp only [Option.some.injEq, forall_eq', Option.bind_some]
    cases read value <;> simp [@eq_comm _ found]

/-! ### Members of members -/

/-- The members of a member that is `null` are those of one that is missing. -/
theorem given?_getD_given? (json : Json) (group key : String) :
    ((json.given? group).getD .null).given? key = (json.get? group).bind (·.given? key) := by
  cases hget : json.get? group with
  | none =>
    have hgiven : json.given? group = none := by rw [given?, hget]
    rw [hgiven]
    rfl
  | some members =>
    by_cases hnull : members = .null
    · have hgiven : json.given? group = none := by rw [given?, hget, hnull]
      rw [hgiven, hnull]
      rfl
    · rw [given?_eq_some_iff.2 ⟨hget, hnull⟩]
      rfl

theorem optionally_getD_given? {ok : Json → Prop} {group : String} :
    ((json.given? group).getD .null).Optionally ok key ↔
      ∀ members, json.get? group = some members → members.Optionally ok key := by
  simp only [optionally_iff, given?_getD_given?, Option.bind_eq_some_iff]
  constructor
  · intro h members hmembers value hvalue
    exact h value ⟨members, hmembers, hvalue⟩
  · rintro h value ⟨members, hmembers, hvalue⟩
    exact h members hmembers value hvalue

/-- An object is read as it is. -/
theorem bind_members?_eq (h : json.Optionally IsObject key) :
    (json.given? key).bind members? = json.given? key := by
  rw [optionally_iff] at h
  cases hgiven : json.given? key with
  | none => rfl
  | some value => exact members?_eq_some_iff.2 ⟨h value hgiven, rfl⟩

end SailNav.Json
