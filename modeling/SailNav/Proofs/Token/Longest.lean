import SailNav.Token.Lexicon
import SailNav.Proofs.Token.Reading

/-!
# The longest word

The scanner reads on in a text as long as some class may still have a word, and remembers the
longest word it has met. So it finds the longest prefix of the text that is a word of any class,
and gives it the first class of the lexicon that it is a word of
(`SailNav.longestWord?_eq_some_iff`). If no prefix is a word it finds none
(`SailNav.longestWord?_eq_none_iff`).

Both are said by the class of a word, `SailNav.classOf?`, which tests the whole word against every
pattern. The scanner keeps all classes at once and drops those that are out of the question; the
first that is left to accept a word is the first of all that do (`SailNav.Front.accepted?_readAll`).
-/

namespace SailNav

/-! ### The class of a word -/

/-- The class of a word: the first in the lexicon whose pattern it matches. -/
def classOf? (word : List Char) : Option LexClass :=
  (lexicon.find? fun e => e.2.accepts word).map Prod.fst

/-- What has no class matches no pattern. -/
theorem classOf?_eq_none_iff {word : List Char} :
    classOf? word = none ↔ ∀ e ∈ lexicon, ¬ e.2.Matches word := by
  rw [classOf?, Option.map_eq_none_iff, List.find?_eq_none]
  simp only [Pattern.accepts_iff]

/-- A word of a class matches its pattern. -/
theorem exists_matches_of_classOf? {word : List Char} {kind : LexClass}
    (h : classOf? word = some kind) : ∃ p, (kind, p) ∈ lexicon ∧ p.Matches word := by
  obtain ⟨⟨k, p⟩, hfind, rfl⟩ := Option.map_eq_some_iff.1 h
  have haccepts : p.accepts word = true := (List.find?_eq_some_iff_append.1 hfind).1
  exact ⟨p, List.mem_of_find?_eq_some hfind, Pattern.accepts_iff.1 haccepts⟩

/-! ### Reading on in all classes at once -/

namespace Front

/-- The front once some characters are read. -/
def readAll (front : Front) (word : List Char) : Front := word.foldl (fun f c => f.advance c) front

/-- Where no class is left none comes back. -/
theorem readAll_nil (word : List Char) : readAll [] word = [] := by
  induction word with
  | nil => rfl
  | cons c word ih => exact ih

/-- Dropping the classes that a character rules out does not change which class is the first to
accept a word that starts with it. -/
theorem map_find?_advance (front : Front) (c : Char) (word : List Char) :
    ((front.advance c).find? fun e => (Pattern.readAll e.2 word).any Pattern.Goal.done).map
        Prod.fst =
      (front.find? fun e => (Pattern.readAll e.2 (c :: word)).any Pattern.Goal.done).map
        Prod.fst := by
  induction front with
  | nil => rfl
  | cons e front ih =>
    obtain ⟨kind, goals⟩ := e
    have hread : Pattern.readAll goals (c :: word) =
        Pattern.readAll (Pattern.advance c goals) word := rfl
    cases hgoals : Pattern.advance c goals with
    | nil =>
      -- all goals of this class are lost
      have hdrop : advance c ((kind, goals) :: front) = advance c front :=
        List.filterMap_cons_none (by dsimp only; rw [hgoals])
      rw [hdrop, ih, List.find?_cons, hread, hgoals, Pattern.readAll_nil]
      rfl
    | cons g rest =>
      have hkeep : advance c ((kind, goals) :: front) = (kind, g :: rest) :: advance c front :=
        List.filterMap_cons_some (by dsimp only; rw [hgoals])
      rw [hkeep, List.find?_cons, List.find?_cons, hread, hgoals]
      cases (Pattern.readAll (g :: rest) word).any Pattern.Goal.done with
      | true => rfl
      | false => exact ih

/-- The first class to accept what was read is the first of all whose goals are reached. -/
theorem accepted?_readAll (front : Front) (word : List Char) :
    (front.readAll word).accepted? =
      (front.find? fun e => (Pattern.readAll e.2 word).any Pattern.Goal.done).map Prod.fst := by
  induction word generalizing front with
  | nil => rfl
  | cons c word ih => exact (ih (front.advance c)).trans (map_find?_advance front c word)

/-- The class of a word is what the front accepts once the word is read. -/
theorem accepted?_readAll_start (word : List Char) :
    (start.readAll word).accepted? = classOf? word := by
  rw [accepted?_readAll, start, List.find?_map, Option.map_map]
  rfl

end Front

/-! ### The longest word -/

namespace Front

/-- No prefix of a text but the empty one is accepted. -/
def Barren (front : Front) (text : List Char) : Prop :=
  ∀ v rest, text = v ++ rest → v ≠ [] → (front.readAll v).accepted? = none

theorem barren_nil (front : Front) : front.Barren [] := fun _ _ hv hne =>
  absurd (List.append_eq_nil_iff.1 hv.symm).1 hne

theorem barren_cons_iff {front : Front} {c : Char} {text : List Char} :
    front.Barren (c :: text) ↔
      (front.advance c).accepted? = none ∧ (front.advance c).Barren text := by
  constructor
  · intro h
    refine ⟨h [c] text rfl (List.cons_ne_nil c []), fun v rest hv hne => ?_⟩
    exact h (c :: v) rest (congrArg (c :: ·) hv) (List.cons_ne_nil c v)
  · rintro ⟨hone, hmore⟩ v rest hv hne
    cases v with
    | nil => exact absurd rfl hne
    | cons d v =>
      obtain ⟨rfl, htext⟩ := List.cons.inj hv
      by_cases hv : v = []
      · exact hv ▸ hone
      · exact hmore v rest htext hv

/-- Where no class is left nothing is accepted any more. -/
theorem barren_of_nil (text : List Char) : Barren [] text := fun v _ _ _ => by
  rw [readAll_nil]
  rfl

end Front

/-- **What the scanner comes to**: the best word met before, if nothing behind it is accepted, and
else the longest prefix that is. -/
theorem longestFrom_cases (front : Front) (taken : List Char) (best : Option LexWord)
    (text : List Char) :
    (longestFrom front taken best text = best ∧ front.Barren text) ∨
    ∃ kind v rest, text = v ++ rest ∧ v ≠ [] ∧ (front.readAll v).accepted? = some kind ∧
      (front.readAll v).Barren rest ∧
      longestFrom front taken best text = some ⟨kind, v.reverse ++ taken, rest⟩ := by
  induction text generalizing front taken best with
  | nil => exact .inl ⟨rfl, front.barren_nil⟩
  | cons c text ih =>
    rw [longestFrom, Front.barren_cons_iff]
    cases hfront : front.advance c with
    | nil => exact .inl ⟨rfl, rfl, Front.barren_of_nil text⟩
    | cons e front' =>
      dsimp only
      rw [← hfront]
      cases hkind : (front.advance c).accepted? with
      | none =>
        rcases ih (front.advance c) (c :: taken) best with ⟨heq, hbarren⟩ | h
        · exact .inl ⟨heq, rfl, hbarren⟩
        · obtain ⟨kind, v, rest, rfl, hne, hv, hbarren, heq⟩ := h
          exact .inr
            ⟨kind, c :: v, rest, rfl, List.cons_ne_nil c v, hv, hbarren, by simpa using heq⟩
      | some k =>
        rcases ih (front.advance c) (c :: taken) (some ⟨k, c :: taken, text⟩) with
          ⟨heq, hbarren⟩ | h
        · exact .inr ⟨k, [c], text, rfl, List.cons_ne_nil c [], hkind, hbarren, heq⟩
        · obtain ⟨kind, v, rest, rfl, hne, hv, hbarren, heq⟩ := h
          exact .inr
            ⟨kind, c :: v, rest, rfl, List.cons_ne_nil c v, hv, hbarren, by simpa using heq⟩

/-- **The longest word at the start of a text**: a prefix that is not empty and has a class, while
no longer prefix has one. -/
structure IsLongestWord (text : List Char) (w : LexWord) : Prop where
  append : w.taken ++ w.rest = text
  ne_nil : w.taken ≠ []
  class_eq : classOf? w.taken = some w.kind
  longer : ∀ u rest, w.rest = u ++ rest → u ≠ [] → classOf? (w.taken ++ u) = none

/-- Reading on from what was read is reading all of it. -/
theorem Front.readAll_append (front : Front) (u v : List Char) :
    (front.readAll u).readAll v = front.readAll (u ++ v) := by
  rw [readAll, readAll, readAll, List.foldl_append]

/-- What the scanner finds at the start of a text. -/
theorem longestWord?_cases (text : List Char) :
    (longestWord? text = none ∧ ∀ v rest, text = v ++ rest → v ≠ [] → classOf? v = none) ∨
      ∃ w, longestWord? text = some w ∧ IsLongestWord text w := by
  rcases longestFrom_cases Front.start [] none text with ⟨heq, hbarren⟩ | h
  · refine .inl ⟨by rw [longestWord?, heq]; rfl, fun v rest hv hne => ?_⟩
    rw [← Front.accepted?_readAll_start]
    exact hbarren v rest hv hne
  · obtain ⟨kind, v, rest, rfl, hne, hv, hbarren, heq⟩ := h
    refine .inr ⟨⟨kind, v, rest⟩, ?_, rfl, hne, ?_, fun u rest' hu hune => ?_⟩
    · rw [longestWord?, heq]
      simp
    · exact (Front.accepted?_readAll_start v).symm.trans hv
    · have hlonger := hbarren u rest' hu hune
      rwa [Front.readAll_append, Front.accepted?_readAll_start] at hlonger

/-- A longest word is not longer than another. -/
theorem IsLongestWord.eq_nil_of_append {text u : List Char} {v w : LexWord}
    (hv : IsLongestWord text v) (hw : IsLongestWord text w) (h : v.taken = w.taken ++ u) :
    u = [] := by
  have happ := hv.append.trans hw.append.symm
  rw [h, List.append_assoc] at happ
  cases u with
  | nil => rfl
  | cons c u =>
    have hnone := hw.longer _ v.rest (List.append_cancel_left happ).symm (List.cons_ne_nil c u)
    rw [← h, hv.class_eq] at hnone
    cases hnone

/-- A text has one longest word at most. -/
theorem IsLongestWord.unique {text : List Char} {v w : LexWord} (hv : IsLongestWord text v)
    (hw : IsLongestWord text w) : v = w := by
  have happ := hv.append.trans hw.append.symm
  have htaken : v.taken = w.taken := by
    rcases List.append_eq_append_iff.1 happ with ⟨u, hwv, -⟩ | ⟨u, hvw, -⟩
    · rw [hwv, hw.eq_nil_of_append hv hwv, List.append_nil]
    · rw [hvw, hv.eq_nil_of_append hw hvw, List.append_nil]
  have hkind : some v.kind = some w.kind := by rw [← hv.class_eq, ← hw.class_eq, htaken]
  rw [htaken] at happ
  obtain ⟨k, t, r⟩ := v
  obtain ⟨k', t', r'⟩ := w
  obtain rfl : t = t' := htaken
  obtain rfl : r = r' := List.append_cancel_left happ
  obtain rfl : k = k' := Option.some.inj hkind
  rfl

/-- **The scanner finds the longest word.** -/
theorem longestWord?_eq_some_iff {text : List Char} {w : LexWord} :
    longestWord? text = some w ↔ IsLongestWord text w := by
  rcases longestWord?_cases text with ⟨hnone, hall⟩ | ⟨v, hv, hlongest⟩
  · rw [hnone]
    refine ⟨nofun, fun h => ?_⟩
    have hclass := hall w.taken w.rest h.append.symm h.ne_nil
    rw [h.class_eq] at hclass
    cases hclass
  · rw [hv]
    exact ⟨fun h => Option.some.inj h ▸ hlongest, fun h => congrArg some (hlongest.unique h)⟩

/-- **It finds none only if no prefix is a word.** -/
theorem longestWord?_eq_none_iff {text : List Char} :
    longestWord? text = none ↔ ∀ v rest, text = v ++ rest → v ≠ [] → classOf? v = none := by
  rcases longestWord?_cases text with ⟨hnone, hall⟩ | ⟨w, hw, hlongest⟩
  · exact ⟨fun _ => hall, fun _ => hnone⟩
  · refine ⟨fun h => (Option.some_ne_none w (hw.symm.trans h)).elim, fun h => ?_⟩
    have hclass := h w.taken w.rest hlongest.append.symm hlongest.ne_nil
    rw [hlongest.class_eq] at hclass
    cases hclass

end SailNav
