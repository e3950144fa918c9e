/-!
# Tables

A table keeps values under keys and remembers in which order the keys came. Setting the value of a
key that is there leaves it at its place; a new key goes to the end, and a key that was removed and
comes back is new.
-/

namespace SailNav

/-- Values under keys, in the order in which the keys came. -/
structure Table (K V : Type) where
  entries : List (K × V)
  deriving DecidableEq, Repr, Inhabited

namespace Table

variable {K V : Type} [DecidableEq K]

def empty : Table K V := ⟨[]⟩

def keys (t : Table K V) : List K := t.entries.map Prod.fst

def size (t : Table K V) : Nat := t.entries.length

/-- The value of a key. -/
def get? (t : Table K V) (k : K) : Option V :=
  (t.entries.find? fun e => e.1 = k).map Prod.snd

def contains (t : Table K V) (k : K) : Bool := (t.get? k).isSome

/-- Entries with the value of a key set. -/
def putEntry (k : K) (v : V) : List (K × V) → List (K × V)
  | [] => [(k, v)]
  | e :: rest => if e.1 = k then (k, v) :: rest else e :: putEntry k v rest

/-- The table with the value of a key set. -/
def put (t : Table K V) (k : K) (v : V) : Table K V := ⟨putEntry k v t.entries⟩

/-- The table without a key. -/
def erase (t : Table K V) (k : K) : Table K V := ⟨t.entries.filter fun e => e.1 ≠ k⟩

/-! ### What a change does to the values -/

@[simp] theorem get?_empty (k : K) : (empty : Table K V).get? k = none := rfl

theorem find?_putEntry (k l : K) (v : V) (entries : List (K × V)) :
    ((putEntry k v entries).find? fun e => e.1 = l).map Prod.snd =
      if k = l then some v else (entries.find? fun e => e.1 = l).map Prod.snd := by
  induction entries with
  | nil => by_cases h : k = l <;> simp [putEntry, h]
  | cons e rest ih =>
    unfold putEntry
    split
    · next h => subst h; by_cases h : e.1 = l <;> simp [h]
    · next h =>
      by_cases hl : e.1 = l
      · have : k ≠ l := fun hk => h (hl.trans hk.symm)
        simp [hl, this]
      · simpa [hl] using ih

/-- **Setting the value of a key changes that key only.** -/
theorem get?_put (t : Table K V) (k l : K) (v : V) :
    (t.put k v).get? l = if k = l then some v else t.get? l :=
  find?_putEntry k l v t.entries

@[simp] theorem get?_put_self (t : Table K V) (k : K) (v : V) : (t.put k v).get? k = some v := by
  simp [get?_put]

theorem get?_put_of_ne (t : Table K V) {k l : K} (h : k ≠ l) (v : V) :
    (t.put k v).get? l = t.get? l := by
  simp [get?_put, h]

/-- **Removing a key removes that key only.** -/
theorem get?_erase (t : Table K V) (k l : K) :
    (t.erase k).get? l = if k = l then none else t.get? l := by
  unfold erase get?
  dsimp only
  rw [List.find?_filter]
  by_cases h : k = l
  · subst h
    rw [if_pos rfl, Option.map_eq_none_iff, List.find?_eq_none]
    simp
  · rw [if_neg h]
    congr 2
    funext e
    by_cases he : e.1 = l
    · have : e.1 ≠ k := fun hk => h (hk.symm.trans he)
      simp [he, Ne.symm h]
    · simp [he]

@[simp] theorem get?_erase_self (t : Table K V) (k : K) : (t.erase k).get? k = none := by
  simp [get?_erase]

/-- Setting the value of a key adds the key at the end when it is new. -/
theorem keys_put (t : Table K V) (k : K) (v : V) :
    (t.put k v).keys = if k ∈ t.keys then t.keys else t.keys ++ [k] := by
  unfold keys put
  dsimp only
  induction t.entries with
  | nil => simp [putEntry]
  | cons e rest ih =>
    unfold putEntry
    split
    · next h => subst h; simp
    · next h =>
      have hk : k ≠ e.1 := fun hk => h hk.symm
      simp only [List.map_cons, List.mem_cons, ih, hk, false_or]
      split <;> simp

theorem keys_erase (t : Table K V) (k : K) : (t.erase k).keys = t.keys.filter (· ≠ k) := by
  simp only [keys, erase, List.filter_map]
  rfl

/-- Removing a key forgets what was set for it. -/
theorem erase_put (t : Table K V) (k : K) (v : V) : (t.put k v).erase k = t.erase k := by
  obtain ⟨entries⟩ := t
  unfold put erase
  congr 1
  induction entries with
  | nil => simp [putEntry]
  | cons e rest ih =>
    by_cases he : e.1 = k
    · simp [putEntry, he]
    · simpa [putEntry, he] using ih

theorem erase_erase (t : Table K V) (k : K) : (t.erase k).erase k = t.erase k := by
  simp [erase, List.filter_filter]

/-! ### Keys that come once

A key that is set twice keeps one place, so no key of a table that was made by changes comes
twice. -/

theorem nodup_keys_put {t : Table K V} (h : t.keys.Nodup) (k : K) (v : V) :
    (t.put k v).keys.Nodup := by
  rw [keys_put]
  split
  · exact h
  · next hk =>
    refine List.nodup_append.2 ⟨h, by simp, fun a ha b hb hab => hk ?_⟩
    rw [← List.mem_singleton.1 hb, ← hab]
    exact ha

theorem nodup_keys_erase {t : Table K V} (h : t.keys.Nodup) (k : K) : (t.erase k).keys.Nodup := by
  rw [keys_erase]
  exact h.filter _

theorem get?_eq_none_iff {t : Table K V} {k : K} : t.get? k = none ↔ k ∉ t.keys := by
  rw [get?, keys, Option.map_eq_none_iff, List.find?_eq_none, List.mem_map]
  constructor
  · rintro h ⟨e, he, rfl⟩
    simpa using h e he
  · intro h e he
    simpa using fun hk => h ⟨e, he, hk⟩

theorem contains_iff {t : Table K V} {k : K} : t.contains k = true ↔ k ∈ t.keys := by
  rw [contains, Option.isSome_iff_ne_none, ne_eq, get?_eq_none_iff, Decidable.not_not]

theorem mem_entries_of_get? {t : Table K V} {k : K} {v : V} (h : t.get? k = some v) :
    (k, v) ∈ t.entries := by
  obtain ⟨⟨l, w⟩, hfind, rfl⟩ := Option.map_eq_some_iff.1 h
  have hl : l = k := by simpa using List.find?_some hfind
  exact hl ▸ List.mem_of_find?_eq_some hfind

theorem get?_of_mem_entries {t : Table K V} (hn : t.keys.Nodup) {k : K} {v : V}
    (h : (k, v) ∈ t.entries) : t.get? k = some v := by
  obtain ⟨a, b, hab⟩ := List.append_of_mem h
  have hk : ∀ e ∈ a, e.1 ≠ k := by
    rw [keys, hab, List.map_append, List.nodup_append] at hn
    exact fun e he => hn.2.2 _ (List.mem_map_of_mem he) _ (by simp)
  have hfind : a.find? (fun e => decide (e.1 = k)) = none := by simpa using hk
  simp [get?, hab, List.find?_append, hfind]

/-- A new key comes at the end. -/
theorem entries_put_of_not_mem {t : Table K V} {k : K} (h : k ∉ t.keys) (v : V) :
    (t.put k v).entries = t.entries ++ [(k, v)] := by
  obtain ⟨entries⟩ := t
  unfold keys at h
  unfold put
  dsimp only at h ⊢
  induction entries with
  | nil => rfl
  | cons e rest ih =>
    rw [List.map_cons, List.mem_cons, not_or] at h
    rw [putEntry, if_neg (Ne.symm h.1), ih h.2, List.cons_append]

/-- A key that is there keeps its place. -/
theorem entries_put_of_mem {t : Table K V} (hn : t.keys.Nodup) {k : K} (h : k ∈ t.keys) (v : V) :
    (t.put k v).entries = t.entries.map fun e => if e.1 = k then (k, v) else e := by
  obtain ⟨entries⟩ := t
  unfold keys at h hn
  unfold put
  dsimp only at h hn ⊢
  induction entries with
  | nil => simp at h
  | cons e rest ih =>
    rw [List.map_cons, List.nodup_cons] at hn
    by_cases he : e.1 = k
    · have hrest : rest.map (fun e => if e.1 = k then (k, v) else e) = rest.map id := by
        refine List.map_congr_left fun e' he' => if_neg fun hk => hn.1 ?_
        rw [he, ← hk]
        exact List.mem_map_of_mem he'
      rw [putEntry, if_pos he, List.map_cons, if_pos he, hrest, List.map_id]
    · have hk : k ∈ rest.map Prod.fst := by
        rw [List.map_cons, List.mem_cons] at h
        exact h.resolve_left (Ne.symm he)
      rw [putEntry, if_neg he, List.map_cons, if_neg he, ih hn.2 hk]

/-- Setting the value of a key is taking the key out and putting it in, up to its place. -/
theorem entries_put_perm {t : Table K V} (hn : t.keys.Nodup) (k : K) (v : V) :
    (t.put k v).entries.Perm ((k, v) :: (t.erase k).entries) := by
  obtain ⟨entries⟩ := t
  unfold keys at hn
  unfold put erase
  dsimp only at hn ⊢
  induction entries with
  | nil => rfl
  | cons e rest ih =>
    rw [List.map_cons, List.nodup_cons] at hn
    by_cases he : e.1 = k
    · have hrest : (rest.filter fun e => e.1 ≠ k) = rest := by
        refine List.filter_eq_self.2 fun d hd => decide_eq_true fun hk => hn.1 ?_
        rw [he, ← hk]
        exact List.mem_map_of_mem hd
      rw [putEntry, if_pos he, List.filter_cons_of_neg (by simp [he]), hrest]
    · rw [putEntry, if_neg he, List.filter_cons_of_pos (by simp [he])]
      exact ((ih hn.2).cons e).trans (.swap ..)

end Table

end SailNav
