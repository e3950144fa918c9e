import SailNav.Url.Parse

/-!
# The scheme of a URL

A URL that was read has a scheme, made of a letter and some characters of which none is a colon or a
slash (`SailNav.Url.hasScheme_of_parse?`). So the scheme can be told from the URL as it is printed:
it ends at the first colon, and URLs with different schemes are printed differently
(`SailNav.Url.HasScheme.eq_of_text_eq`). No URL is printed like an absolute path either.
-/

namespace SailNav

namespace Url

/-- The scheme of a URL is what stands before the first colon of its text, and is no part of a
path. -/
structure HasScheme (u : Url) : Prop where
  ne_nil : u.scheme.toList ≠ []
  not_slash : '/' ∉ u.scheme.toList
  not_colon : ':' ∉ u.scheme.toList

/-! ### URLs that were read -/

/-- In lower case too, a character of a scheme is neither a slash nor a colon. -/
theorem toLower_ne_of_isSchemeChar {c : Char} (hc : isSchemeChar c = true) :
    c.toLower ≠ '/' ∧ c.toLower ≠ ':' := by
  by_cases hupper : c.val ≥ 'A'.val ∧ c.val ≤ 'Z'.val
  · -- a capital becomes a small letter
    have hsmall : 97 ≤ c.toLower.val.toNat := by
      obtain ⟨hlow, hhigh⟩ := hupper
      rw [ge_iff_le, UInt32.le_iff_toNat_le] at hlow
      rw [UInt32.le_iff_toNat_le] at hhigh
      delta Char.toLower
      rw [dif_pos ⟨hlow, hhigh⟩, UInt32.toNat_add]
      simp only [UInt32.reduceToNat, UInt32.reduceSub, Char.reduceVal] at hlow hhigh ⊢
      omega
    constructor
    · intro heq
      exact absurd (heq ▸ hsmall) (by decide)
    · intro heq
      exact absurd (heq ▸ hsmall) (by decide)
  · delta Char.toLower
    rw [dif_neg hupper]
    constructor
    · rintro rfl
      exact absurd hc (by decide)
    · rintro rfl
      exact absurd hc (by decide)

/-- The scheme of a text ends before a colon and has no slash. -/
theorem of_scheme? {text : List Char} {scheme : String} (h : scheme? text = some scheme) :
    scheme.toList ≠ [] ∧ '/' ∉ scheme.toList ∧ ':' ∉ scheme.toList := by
  unfold scheme? at h
  split at h
  · next first others colon hcolon =>
    split at h
    · next hfirst =>
      obtain rfl := Option.some.inj h
      rw [String.toList_ofList]
      have hchar : isSchemeChar first = true := by simp [isSchemeChar, Char.isAlphanum, hfirst]
      -- every character of the scheme was one before it was put into lower case
      have hne : ∀ c : Char, (∀ d, isSchemeChar d = true → d.toLower ≠ c) →
          c ∉ ((first :: others).takeWhile isSchemeChar).map Char.toLower := by
        intro c hc hmem
        obtain ⟨d, hd, rfl⟩ := List.mem_map.1 hmem
        exact hc d (List.all_eq_true.1 List.all_takeWhile d hd) rfl
      refine ⟨?_, hne '/' fun d hd => (toLower_ne_of_isSchemeChar hd).1,
        hne ':' fun d hd => (toLower_ne_of_isSchemeChar hd).2⟩
      rw [List.takeWhile_cons_of_pos hchar]
      exact List.cons_ne_nil _ _
    · cases h
  · cases h

/-- **What was read has a scheme.** -/
theorem hasScheme_of_parse? {text : String} {u : Url} (h : parse? text = some u) :
    u.HasScheme := by
  unfold parse? parse at h
  dsimp only at h
  split at h
  · cases h
  · next scheme hscheme =>
    obtain ⟨hnil, hslash, hcolon⟩ := of_scheme? hscheme
    have hu : u.scheme = scheme := by
      generalize parseBody (SchemeKind.ofScheme scheme) _ _ = body at h
      cases body with
      | error e => cases h
      | ok parts =>
        obtain rfl := Option.some.inj h
        rfl
    exact ⟨hu ▸ hnil, hu ▸ hslash, hu ▸ hcolon⟩

/-! ### The text of a URL -/

/-- A URL is printed as its scheme and more behind a colon. -/
theorem toList_text (u : Url) : ∃ rest, u.text.toList = u.scheme.toList ++ ':' :: rest := by
  unfold text
  simp only [String.toList_append, List.append_assoc]
  exact ⟨_, rfl⟩

namespace HasScheme

variable {u v : Url}

/-- **URLs that are printed alike have one scheme.** -/
theorem eq_of_text_eq (hu : u.HasScheme) (hv : v.HasScheme) (h : u.text = v.text) :
    u.scheme = v.scheme := by
  obtain ⟨s, hs⟩ := toList_text u
  obtain ⟨t, ht⟩ := toList_text v
  -- the scheme is what stands before the first colon
  have hbefore : ∀ {w : Url}, w.HasScheme → ∀ rest : List Char,
      (w.scheme.toList ++ ':' :: rest).takeWhile (· != ':') = w.scheme.toList := by
    intro w hw rest
    rw [List.takeWhile_append_of_pos, List.takeWhile_cons_of_neg (by simp), List.append_nil]
    intro c hc
    have hne : c ≠ ':' := fun heq => hw.not_colon (heq ▸ hc)
    simpa using hne
  rw [← String.toList_inj, ← hbefore hu s, ← hs, h, ht, hbefore hv t]

/-- A URL is not printed like an absolute path. -/
theorem head?_text_ne (hu : u.HasScheme) : u.text.toList.head? ≠ some '/' := by
  obtain ⟨rest, hrest⟩ := toList_text u
  obtain ⟨c, cs, hc⟩ := List.exists_cons_of_ne_nil hu.ne_nil
  have hslash := hu.not_slash
  rw [hc] at hslash
  rw [hrest, hc, List.cons_append, List.head?_cons]
  intro heq
  obtain rfl := Option.some.inj heq
  exact hslash (List.mem_cons_self ..)

end HasScheme

end Url

end SailNav
