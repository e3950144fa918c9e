import SailNav.Token.Pattern

/-!
# Reading a word against a pattern

What a pattern means is said by its words, `SailNav.Pattern.Matches`, and what is done is to read a
word one character at a time and to keep what is left to be matched. Here the two are shown to be
the same: what is left of a pattern behind a character matches what may follow the character in a
word (`SailNav.Pattern.matches_cons_iff`), and so a word is accepted exactly if it matches
(`SailNav.Pattern.accepts_iff`).

The words of a star need some care, since the definition allows empty rounds and the reading never
makes one. `SailNav.Pattern.Matches.star_split` is the general form: wherever a word of a star is
cut, the cut is inside one round that goes on behind it.
-/

namespace SailNav

namespace Pattern

variable {p q : Pattern} {s : CharSet} {c : Char} {w : List Char}

/-! ### The words of each form -/

theorem matches_blank_iff : Matches .blank w ↔ w = [] :=
  ⟨fun h => by cases h; rfl, fun h => h ▸ .blank⟩

theorem matches_one_iff : Matches (.one s) w ↔ ∃ c, s.contains c = true ∧ w = [c] := by
  constructor
  · intro h
    cases h with
    | one hc => exact ⟨_, hc, rfl⟩
  · rintro ⟨c, hc, rfl⟩
    exact .one hc

theorem matches_seq_iff :
    Matches (.seq p q) w ↔ ∃ u v, w = u ++ v ∧ Matches p u ∧ Matches q v := by
  constructor
  · intro h
    cases h with
    | seq hu hv => exact ⟨_, _, rfl, hu, hv⟩
  · rintro ⟨u, v, rfl, hu, hv⟩
    exact .seq hu hv

theorem matches_alt_iff : Matches (.alt p q) w ↔ Matches p w ∨ Matches q w := by
  constructor
  · intro h
    cases h with
    | left h => exact .inl h
    | right h => exact .inr h
  · rintro (h | h)
    · exact .left h
    · exact .right h

/-- **Where a word of a star is cut, a round goes on behind the cut.** In front of the cut there
are whole rounds and the part of this round that is read, and behind it there are the rest of the
round, which is not empty, and more rounds. -/
theorem Matches.star_split {x t : List Char} (h : Matches (.star p) (x ++ t)) (ht : t ≠ []) :
    ∃ y z m r, x = y ++ z ∧ t = m ++ r ∧ m ≠ [] ∧ Matches (.star p) y ∧ Matches p (z ++ m) ∧
      Matches (.star p) r := by
  generalize hq : Pattern.star p = q, hw : x ++ t = w at h
  induction h generalizing x t with
  | stop => exact absurd (List.append_eq_nil_iff.1 hw).2 ht
  | @again _ u v hu hv _ ih =>
    cases hq
    rcases List.append_eq_append_iff.1 hw with ⟨m, hum, htm⟩ | ⟨m, hxm, hvm⟩
    · by_cases hm : m = []
      · -- the cut is right behind the first round, so the next one goes on behind it
        subst hm
        obtain ⟨y, z, m, r, hyz, hmr, hne, hy, hz, hr⟩ :=
          ih (x := []) (t := t) ht rfl (by simpa using htm)
        obtain ⟨rfl, rfl⟩ := List.append_eq_nil_iff.1 hyz.symm
        have hxu : x = u := by simpa using hum.symm
        exact ⟨x, [], m, r, by simp, hmr, hne, by simpa [hxu] using Matches.again hu .stop, hz, hr⟩
      · exact ⟨[], x, m, v, rfl, htm, hm, .stop, hum ▸ hu, hv⟩
    · -- the first round is in front of the cut as a whole
      obtain ⟨y, z, m', r, rfl, hmr, hne, hy, hz, hr⟩ := ih ht rfl hvm.symm
      exact ⟨u ++ y, z, m', r, by rw [hxm, List.append_assoc], hmr, hne, .again hu hy, hz, hr⟩
  | _ => cases hq

/-- The first round of a star that is not empty. -/
theorem matches_star_cons_iff :
    Matches (.star p) (c :: w) ↔
      ∃ u v, w = u ++ v ∧ Matches p (c :: u) ∧ Matches (.star p) v := by
  constructor
  · intro h
    obtain ⟨y, z, m, r, hyz, hmr, hne, -, hz, hr⟩ :=
      Matches.star_split (x := []) h (List.cons_ne_nil c w)
    obtain ⟨rfl, rfl⟩ := List.append_eq_nil_iff.1 hyz.symm
    cases m with
    | nil => exact absurd rfl hne
    | cons d m =>
      obtain ⟨rfl, rfl⟩ := List.cons.inj hmr
      exact ⟨m, r, rfl, hz, hr⟩
  · rintro ⟨u, v, rfl, hu, hv⟩
    exact .again hu hv

/-! ### The empty word -/

theorem nullable_iff : p.nullable = true ↔ Matches p [] := by
  induction p with
  | blank => exact ⟨fun _ => .blank, fun _ => rfl⟩
  | one s => simp [nullable, matches_one_iff]
  | seq p q hp hq =>
    rw [nullable, Bool.and_eq_true, hp, hq, matches_seq_iff]
    constructor
    · rintro ⟨hp, hq⟩
      exact ⟨[], [], rfl, hp, hq⟩
    · rintro ⟨u, v, huv, hu, hv⟩
      obtain ⟨rfl, rfl⟩ := List.append_eq_nil_iff.1 huv.symm
      exact ⟨hu, hv⟩
  | alt p q hp hq => rw [nullable, Bool.or_eq_true, hp, hq, matches_alt_iff]
  | star p _ => exact ⟨fun _ => .stop, fun _ => rfl⟩

/-! ### Goals -/

namespace Goal

/-- **A word matches a goal** if it can be cut into words of the patterns, in their order. -/
def Matches : Goal → List Char → Prop
  | [], w => w = []
  | p :: rest, w => ∃ u v, w = u ++ v ∧ p.Matches u ∧ Matches rest v

theorem matches_append {g h : Goal} {w : List Char} :
    Matches (g ++ h) w ↔ ∃ u v, w = u ++ v ∧ Matches g u ∧ Matches h v := by
  induction g generalizing w with
  | nil =>
    constructor
    · intro hw
      exact ⟨[], w, rfl, rfl, hw⟩
    · rintro ⟨_, v, rfl, rfl, hv⟩
      exact hv
  | cons p g ih =>
    simp only [List.cons_append, Matches, ih]
    constructor
    · rintro ⟨u, _, rfl, hu, v, w, rfl, hv, hw⟩
      exact ⟨u ++ v, w, by simp, ⟨u, v, rfl, hu, hv⟩, hw⟩
    · rintro ⟨_, w, rfl, ⟨u, v, rfl, hu, hv⟩, hw⟩
      exact ⟨u, v ++ w, by simp, hu, v, w, rfl, hv, hw⟩

theorem matches_singleton {w : List Char} : Matches [p] w ↔ p.Matches w := by
  simp [Matches]

theorem done_iff {g : Goal} : done g = true ↔ Matches g [] := by
  induction g with
  | nil => simp [done, Matches]
  | cons p g ih =>
    rw [done, List.all_cons, Bool.and_eq_true, nullable_iff, ← done, ih, Matches]
    constructor
    · rintro ⟨hp, hg⟩
      exact ⟨[], [], rfl, hp, hg⟩
    · rintro ⟨u, v, huv, hu, hv⟩
      obtain ⟨rfl, rfl⟩ := List.append_eq_nil_iff.1 huv.symm
      exact ⟨hu, hv⟩

end Goal

/-- What follows the first of two patterns in a row follows what is left of it. -/
theorem exists_mem_map_append_iff {goals : List Goal} {h : Goal} :
    (∃ g ∈ goals.map (fun goal : Goal => goal ++ h), Goal.Matches g w) ↔
      ∃ u v, w = u ++ v ∧ (∃ g ∈ goals, Goal.Matches g u) ∧ Goal.Matches h v := by
  constructor
  · rintro ⟨_, hmem, hw⟩
    obtain ⟨g, hg, rfl⟩ := List.mem_map.1 hmem
    obtain ⟨u, v, rfl, hu, hv⟩ := Goal.matches_append.1 hw
    exact ⟨u, v, rfl, ⟨g, hg, hu⟩, hv⟩
  · rintro ⟨u, v, rfl, ⟨g, hg, hu⟩, hv⟩
    exact ⟨g ++ h, List.mem_map_of_mem hg, Goal.matches_append.2 ⟨u, v, rfl, hu, hv⟩⟩

/-- A word that starts with a character and is cut in two: either the first part starts with it, or
the first part is empty. -/
theorem exists_cons_eq_append_iff {P Q : List Char → Prop} :
    (∃ u v, c :: w = u ++ v ∧ P u ∧ Q v) ↔
      (∃ u v, w = u ++ v ∧ P (c :: u) ∧ Q v) ∨ P [] ∧ Q (c :: w) := by
  constructor
  · rintro ⟨u, v, huv, hu, hv⟩
    cases u with
    | nil =>
      obtain rfl : c :: w = v := huv
      exact .inr ⟨hu, hv⟩
    | cons d u =>
      obtain ⟨rfl, rfl⟩ := List.cons.inj huv
      exact .inl ⟨u, v, rfl, hu, hv⟩
  · rintro (⟨u, v, rfl, hu, hv⟩ | ⟨hu, hv⟩)
    · exact ⟨c :: u, v, rfl, hu, hv⟩
    · exact ⟨[], c :: w, rfl, hu, hv⟩

/-- **What is left of a pattern behind a character** matches what may follow the character. -/
theorem matches_cons_iff : Matches p (c :: w) ↔ ∃ g ∈ p.after c, Goal.Matches g w := by
  induction p generalizing w with
  | blank => simp [matches_blank_iff, after]
  | one s =>
    rw [matches_one_iff, after]
    constructor
    · rintro ⟨d, hd, hw⟩
      obtain ⟨rfl, rfl⟩ := List.cons.inj hw
      exact ⟨[], by simp [hd], rfl⟩
    · rintro ⟨g, hg, hw⟩
      split at hg
      · next hc =>
        obtain rfl := List.mem_singleton.1 hg
        exact ⟨c, hc, congrArg (c :: ·) hw⟩
      · exact absurd hg List.not_mem_nil
  | seq p q hp hq =>
    rw [matches_seq_iff, exists_cons_eq_append_iff, after]
    simp only [List.mem_append, or_and_right, exists_or, exists_mem_map_append_iff,
      Goal.matches_singleton, ← hp]
    refine or_congr Iff.rfl ?_
    by_cases hnull : p.nullable = true
    · simp [hnull, nullable_iff.1 hnull, hq]
    · simp [hnull, mt nullable_iff.2 hnull]
  | alt p q hp hq =>
    rw [matches_alt_iff, after, hp, hq]
    simp only [List.mem_append, or_and_right, exists_or]
  | star p hp =>
    rw [matches_star_cons_iff, after, exists_mem_map_append_iff]
    simp only [Goal.matches_singleton, ← hp]

/-- The same for a goal. -/
theorem Goal.matches_cons_iff {goal : Goal} :
    Goal.Matches goal (c :: w) ↔ ∃ g ∈ Goal.after c goal, Goal.Matches g w := by
  induction goal with
  | nil => simp [Goal.Matches, Goal.after]
  | cons p rest ih =>
    rw [Goal.Matches, exists_cons_eq_append_iff, Goal.after]
    simp only [List.mem_append, or_and_right, exists_or, exists_mem_map_append_iff,
      ← Pattern.matches_cons_iff]
    refine or_congr Iff.rfl ?_
    by_cases hnull : p.nullable = true
    · simp [hnull, nullable_iff.1 hnull, ih]
    · simp [hnull, mt nullable_iff.2 hnull]

/-- The same for several goals, whether or not repeated ones are thrown away. -/
theorem exists_mem_advance_iff {goals : List Goal} :
    (∃ g ∈ advance c goals, Goal.Matches g w) ↔ ∃ g ∈ goals, Goal.Matches g (c :: w) := by
  simp only [advance, List.mem_eraseDups, List.mem_flatMap, Goal.matches_cons_iff]
  constructor
  · rintro ⟨g, ⟨goal, hgoal, hg⟩, hw⟩
    exact ⟨goal, hgoal, g, hg, hw⟩
  · rintro ⟨goal, hgoal, g, hg, hw⟩
    exact ⟨g, ⟨goal, hgoal, hg⟩, hw⟩

/-! ### Whole words -/

/-- What is left of several goals behind some characters. -/
def readAll (goals : List Goal) (word : List Char) : List Goal :=
  word.foldl (fun goals c => advance c goals) goals

theorem exists_mem_readAll_iff {goals : List Goal} {u : List Char} :
    (∃ g ∈ readAll goals u, Goal.Matches g w) ↔ ∃ g ∈ goals, Goal.Matches g (u ++ w) := by
  induction u generalizing goals with
  | nil => rfl
  | cons c u ih => exact ih.trans exists_mem_advance_iff

/-- Where no goal is left none comes back. -/
@[simp] theorem readAll_nil (u : List Char) : readAll [] u = [] := by
  induction u with
  | nil => rfl
  | cons c u ih => exact ih

/-- **A word is accepted exactly if it matches.** -/
theorem accepts_iff : p.accepts w = true ↔ Matches p w := by
  change (readAll [[p]] w).any Goal.done = true ↔ _
  rw [List.any_eq_true]
  simp only [Goal.done_iff, exists_mem_readAll_iff, List.mem_singleton, exists_eq_left,
    Goal.matches_singleton, List.append_nil]

/-- A word can be tested against a pattern. -/
instance : Decidable (Matches p w) := decidable_of_iff _ accepts_iff

end Pattern

end SailNav
