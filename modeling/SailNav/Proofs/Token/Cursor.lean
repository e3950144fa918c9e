import SailNav.Proofs.Token.Extent
import SailNav.Token.Cursor

/-!
# A cursor on a token

The cursor passes over the tokens that stop at or before it. Where tokens stand side by side these
are all tokens in front of the one it is on, so it finds the token whose bytes it points into.

That these tokens come first and all others stop behind the cursor
(`SailNav.TokenStream.before_eq_iff`) is what the rest depends on: there is one place only where the
tokens part, and it does not matter in which way it is searched for. The token in front of it is the
only one that can end right at the cursor, which is how a name is found that the cursor stands
behind.
-/

namespace SailNav

namespace Token.Tiled

/-- The tokens in front of others stop where these start. -/
theorem stop_le {a b : List Token} {t : Token} {start : Nat} (h : Tiled start (a ++ t :: b))
    {u : Token} (hu : u ∈ a) : u.span.stop ≤ t.span.start := by
  induction a generalizing start with
  | nil => exact absurd hu List.not_mem_nil
  | cons v a ih =>
    obtain ⟨-, hspan, hrest⟩ := h
    rcases List.mem_cons.1 hu with rfl | hu
    · have ht := (append.1 hrest).2.2.1
      rw [hspan, ht]
      exact Nat.le_add_right ..
    · exact ih hrest hu

/-- Tokens that stand side by side stop before later ones start. -/
theorem pairwise {tokens : List Token} {start : Nat} (h : Tiled start tokens) :
    tokens.Pairwise fun t u => t.span.stop ≤ u.span.start := by
  induction tokens generalizing start with
  | nil => exact .nil
  | cons t rest ih =>
    refine List.pairwise_cons.2 ⟨fun u hu => ?_, ih h.2.2⟩
    obtain ⟨a, b, rfl⟩ := List.append_of_mem hu
    exact stop_le (a := t :: a) h List.mem_cons_self

/-- So they start in their order. -/
theorem pairwise_start {tokens : List Token} {start : Nat} (h : Tiled start tokens) :
    tokens.Pairwise fun t u => t.span.start < u.span.start :=
  h.pairwise.imp_of_mem fun ht _ hle => Nat.lt_of_lt_of_le (h.span_lt ht) hle

/-- Every offset in front of their end is that of a byte of one of them. -/
theorem exists_contains {tokens : List Token} {start offset : Nat} (h : Tiled start tokens)
    (hstart : start ≤ offset) (hstop : offset < start + (joined tokens).utf8ByteSize) :
    ∃ t ∈ tokens, t.span.contains offset = true := by
  induction tokens generalizing start with
  | nil => simp at hstop; omega
  | cons t rest ih =>
    obtain ⟨-, hspan, hrest⟩ := h
    rw [joined_cons, String.utf8ByteSize_append, ← Nat.add_assoc] at hstop
    rcases Nat.lt_or_ge offset (start + t.text.utf8ByteSize) with hlt | hge
    · exact ⟨t, List.mem_cons_self, by rw [hspan]; exact Span.contains_iff.2 ⟨hstart, hlt⟩⟩
    · obtain ⟨u, hu, hcontains⟩ := ih hrest hge hstop
      exact ⟨u, List.mem_cons_of_mem t hu, hcontains⟩

/-- None of them stops behind their end. -/
theorem stop_le_end {tokens : List Token} {start : Nat} (h : Tiled start tokens) {t : Token}
    (ht : t ∈ tokens) : t.span.stop ≤ start + (joined tokens).utf8ByteSize := by
  obtain ⟨a, b, rfl⟩ := List.append_of_mem ht
  rw [(append.1 h).2.2.1, joined_append, joined_cons, String.utf8ByteSize_append,
    String.utf8ByteSize_append]
  change start + (joined a).utf8ByteSize + t.text.utf8ByteSize ≤ _
  omega

end Token.Tiled

namespace TokenStream

variable {s : TokenStream}

/-- **A cursor on a byte of a token is on that token.** -/
theorem tokenAt?_of_contains (h : Token.Tiled 0 s.tokens) {t : Token} (ht : t ∈ s.tokens)
    {offset : Nat} (ho : t.span.contains offset = true) : s.tokenAt? offset = some t := by
  obtain ⟨a, b, hab⟩ := List.append_of_mem ht
  obtain ⟨hstart, hstop⟩ := Span.contains_iff.1 ho
  have hbefore : ∀ u ∈ a, decide (u.span.stop ≤ offset) = true := by
    intro u hu
    rw [hab] at h
    exact decide_eq_true (Nat.le_trans (h.stop_le hu) hstart)
  rw [tokenAt?, hab, List.dropWhile_append_of_pos hbefore, List.dropWhile_cons_of_neg,
    List.head?_cons, Option.filter_some, if_pos ho]
  simpa using hstop

/-- The token at a cursor is one of the tokens. -/
theorem mem_of_tokenAt? {offset : Nat} {t : Token} (h : s.tokenAt? offset = some t) :
    t ∈ s.tokens := by
  obtain ⟨hhead, -⟩ := Option.filter_eq_some_iff.1 h
  exact (List.dropWhile_suffix _).subset (List.mem_of_head? hhead)

/-- **The name at a cursor is one of the tokens, and of a kind that names something.** -/
theorem mem_of_nameAt? {offset : Nat} {t : Token} (h : s.nameAt? offset = some t) :
    t ∈ s.tokens ∧ t.kind.isName = true := by
  have hending : s.nameEndingAt? offset = some t → t ∈ s.tokens ∧ t.kind.isName = true := by
    intro hlast
    obtain ⟨hmem, hname⟩ := Option.filter_eq_some_iff.1 hlast
    rw [Bool.and_eq_true] at hname
    exact ⟨(List.takeWhile_prefix _).subset (List.mem_of_getLast? hmem), hname.2⟩
  unfold nameAt? at h
  split at h
  · exact hending h
  · next u hu =>
    split at h
    · next hname =>
      cases h
      exact ⟨mem_of_tokenAt? hu, hname⟩
    · split at h
      · exact hending h
      · cases h

/-- The name at a cursor on a byte of a name is that name. -/
theorem nameAt?_of_contains (h : Token.Tiled 0 s.tokens) {t : Token} (ht : t ∈ s.tokens)
    (hname : t.kind.isName = true) {offset : Nat} (ho : t.span.contains offset = true) :
    s.nameAt? offset = some t := by
  rw [nameAt?, tokenAt?_of_contains h ht ho]
  exact if_pos hname

/-! ### Where the tokens part -/

/-- **The tokens part in one way only at a cursor**, into those that stop at or before it and those
that stop behind it. -/
theorem before_eq_iff (h : Token.Tiled 0 s.tokens) {front behind : List Token}
    (hsplit : s.tokens = front ++ behind) {offset : Nat} :
    s.before offset = front ↔
      (∀ u ∈ front, u.span.stop ≤ offset) ∧ ∀ u ∈ behind, offset < u.span.stop := by
  constructor
  · rintro rfl
    refine ⟨fun u hu => of_decide_eq_true (List.all_eq_true.1 List.all_takeWhile u hu), ?_⟩
    have hdrop : behind = s.tokens.dropWhile (·.span.stop ≤ offset) := by
      have hcut : s.before offset ++ s.tokens.dropWhile (·.span.stop ≤ offset) = s.tokens :=
        List.takeWhile_append_dropWhile
      exact List.append_cancel_left (hsplit.symm.trans hcut.symm)
    intro u hu
    cases hbehind : behind with
    | nil => rw [hbehind] at hu; cases hu
    | cons v rest =>
      have hhead := List.head?_dropWhile_not (·.span.stop ≤ offset) s.tokens
      rw [← hdrop, hbehind] at hhead
      have hv : offset < v.span.stop := by simpa using hhead
      -- those behind the first one stop even later
      have hlater := (List.pairwise_append.1 (hsplit ▸ h.pairwise)).2.1
      rw [hbehind] at hlater hu
      rcases List.mem_cons.1 hu with rfl | hu
      · exact hv
      · have hmem : u ∈ s.tokens := by simp [hsplit, hbehind, hu]
        have hlt := h.span_lt hmem
        have hle := (List.pairwise_cons.1 hlater).1 u hu
        omega
  · rintro ⟨hfront, hbehind⟩
    rw [before, hsplit, List.takeWhile_append_of_pos fun u hu => decide_eq_true (hfront u hu)]
    cases behind with
    | nil => simp
    | cons v rest =>
      have hv := hbehind v List.mem_cons_self
      rw [List.takeWhile_cons_of_neg (by simpa using hv), List.append_nil]

/-- **The cursor is on the token whose bytes it points into**, and on no other. -/
theorem tokenAt?_eq_some_iff (h : Token.Tiled 0 s.tokens) {offset : Nat} {t : Token} :
    s.tokenAt? offset = some t ↔ t ∈ s.tokens ∧ t.span.contains offset = true := by
  constructor
  · intro ht
    exact ⟨mem_of_tokenAt? ht, (Option.filter_eq_some_iff.1 ht).2⟩
  · rintro ⟨hmem, hcontains⟩
    exact tokenAt?_of_contains h hmem hcontains

/-- The cursor is on a token just if it is in front of the end. -/
theorem isSome_tokenAt?_iff (h : Token.Tiled 0 s.tokens) {offset : Nat} :
    (s.tokenAt? offset).isSome = true ↔ offset < (Token.joined s.tokens).utf8ByteSize := by
  rw [Option.isSome_iff_exists]
  constructor
  · rintro ⟨t, ht⟩
    obtain ⟨hmem, hcontains⟩ := (tokenAt?_eq_some_iff h).1 ht
    have hstop := h.stop_le_end hmem
    have hlt := (Span.contains_iff.1 hcontains).2
    omega
  · intro hlt
    obtain ⟨t, hmem, hcontains⟩ := h.exists_contains (Nat.zero_le offset) (by omega)
    exact ⟨t, tokenAt?_of_contains h hmem hcontains⟩

/-- **The cursor stands behind the name that ends where it is.** -/
theorem nameEndingAt?_eq_some_iff (h : Token.Tiled 0 s.tokens) {offset : Nat} {t : Token} :
    s.nameEndingAt? offset = some t ↔
      t ∈ s.tokens ∧ t.kind.isName = true ∧ t.span.stop = offset := by
  rw [nameEndingAt?, Option.filter_eq_some_iff, Bool.and_eq_true, beq_iff_eq]
  constructor
  · rintro ⟨hlast, hstop, hname⟩
    exact ⟨(List.takeWhile_prefix _).subset (List.mem_of_getLast? hlast), hname, hstop⟩
  · rintro ⟨hmem, hname, hstop⟩
    obtain ⟨front, behind, hsplit⟩ := List.append_of_mem hmem
    have hpairwise := hsplit ▸ h.pairwise
    rw [List.append_cons] at hsplit
    have hparted : s.before offset = front ++ [t] := by
      refine (before_eq_iff h hsplit).2 ⟨fun u hu => ?_, fun u hu => ?_⟩
      · have hmem : u ∈ s.tokens := hsplit ▸ List.mem_append_left behind hu
        rcases List.mem_append.1 hu with hu | hu
        · have hle := (List.pairwise_append.1 hpairwise).2.2 u hu t List.mem_cons_self
          have hlt := h.span_lt (t := t) (by simp [hsplit])
          omega
        · exact Nat.le_of_eq (List.mem_singleton.1 hu ▸ hstop)
      · have hle := (List.pairwise_cons.1 (List.pairwise_append.1 hpairwise).2.1).1 u hu
        have hlt := h.span_lt (t := u) (by simp [hsplit, hu])
        omega
    rw [hparted, List.getLast?_concat]
    exact ⟨rfl, hstop, hname⟩

end TokenStream

/-! ### The cursor in a text -/

/-- **A name is meant at an offset of a text.** Either the offset is that of one of its bytes, or
the name ends right there, and what stands there is the end of the text, filler, or an operator. -/
inductive IsNameAt (text : String) (offset : Nat) (t : Token) : Prop
  | on (mem : t ∈ (tokenize text).tokens) (name : t.kind = .identifier ∨ t.kind = .typeVariable)
      (contains : t.span.contains offset = true) : IsNameAt text offset t
  | behind (mem : t ∈ (tokenize text).tokens) (name : t.kind = .identifier ∨ t.kind = .typeVariable)
      (stop : t.span.stop = offset)
      (free : offset = text.utf8ByteSize ∨ ∃ u ∈ (tokenize text).tokens,
        u.span.contains offset = true ∧ (u.kind = .filler ∨ u.kind = .operator)) :
      IsNameAt text offset t

theorem TokenKind.isName_iff {kind : TokenKind} :
    kind.isName = true ↔ kind = .identifier ∨ kind = .typeVariable := by
  cases kind <;> simp [isName]

section Text

variable {text : String} {offset : Nat} {t : Token}

theorem isSome_tokenAt?_tokenize :
    ((tokenize text).tokenAt? offset).isSome = true ↔ offset < text.utf8ByteSize := by
  rw [TokenStream.isSome_tokenAt?_iff (tiled_tokenize text), joined_tokenize]

/-- No token stops behind the end of the text. -/
theorem stop_le_of_mem_tokenize (ht : t ∈ (tokenize text).tokens) :
    t.span.stop ≤ text.utf8ByteSize := by
  have hle := (tiled_tokenize text).stop_le_end ht
  rwa [joined_tokenize, Nat.zero_add] at hle

/-- **Which name is meant on a token**: the token itself, or the name in front of it if the token
means nothing on its own. -/
theorem isNameAt_iff_of_contains {u : Token} (hu : u ∈ (tokenize text).tokens)
    (hcontains : u.span.contains offset = true) : IsNameAt text offset t ↔
      u.kind.isName = true ∧ u = t ∨
        (u.kind = .filler ∨ u.kind = .operator) ∧
          (tokenize text).nameEndingAt? offset = some t := by
  have htiled := tiled_tokenize text
  have hhere {v : Token} (hv : v ∈ (tokenize text).tokens)
      (hoffset : v.span.contains offset = true) : v = u := by
    have hcursor := TokenStream.tokenAt?_of_contains htiled hu hcontains
    rw [TokenStream.tokenAt?_of_contains htiled hv hoffset] at hcursor
    exact Option.some.inj hcursor
  rw [TokenStream.nameEndingAt?_eq_some_iff htiled]
  constructor
  · rintro (⟨hmem, hname, hoffset⟩ | ⟨hmem, hname, hstop, hend | ⟨v, hv, hoffset, hkind⟩⟩)
    · obtain rfl := hhere hmem hoffset
      exact .inl ⟨TokenKind.isName_iff.2 hname, rfl⟩
    · -- a token that has a byte here stops in front of the end
      have hle := stop_le_of_mem_tokenize hu
      have hlt := (Span.contains_iff.1 hcontains).2
      omega
    · obtain rfl := hhere hv hoffset
      exact .inr ⟨hkind, hmem, TokenKind.isName_iff.2 hname, hstop⟩
  · rintro (⟨hname, rfl⟩ | ⟨hkind, hmem, hname, hstop⟩)
    · exact .on hu (TokenKind.isName_iff.1 hname) hcontains
    · exact .behind hmem (TokenKind.isName_iff.1 hname) hstop (.inr ⟨u, hu, hcontains, hkind⟩)

/-- Where there is no token, the name that ends there is meant. -/
theorem isNameAt_iff_of_le (hend : text.utf8ByteSize ≤ offset) :
    IsNameAt text offset t ↔ (tokenize text).nameEndingAt? offset = some t := by
  have hinside {u : Token} (hu : u ∈ (tokenize text).tokens) : ¬ u.span.contains offset = true := by
    rw [Span.contains_iff]
    have hle := stop_le_of_mem_tokenize hu
    omega
  rw [TokenStream.nameEndingAt?_eq_some_iff (tiled_tokenize text)]
  constructor
  · rintro (⟨hmem, -, hcontains⟩ | ⟨hmem, hname, hstop, -⟩)
    · exact absurd hcontains (hinside hmem)
    · exact ⟨hmem, TokenKind.isName_iff.2 hname, hstop⟩
  · rintro ⟨hmem, hname, hstop⟩
    have hle := stop_le_of_mem_tokenize hmem
    exact .behind hmem (TokenKind.isName_iff.1 hname) hstop (.inl (by omega))

/-- **The name at a cursor is the one that is meant there.** -/
theorem nameAt?_eq_some_iff :
    (tokenize text).nameAt? offset = some t ↔ IsNameAt text offset t := by
  rw [TokenStream.nameAt?]
  split
  · next hnone =>
    refine (isNameAt_iff_of_le ?_).symm
    rw [← Nat.not_lt, ← isSome_tokenAt?_tokenize, hnone]
    exact Bool.false_ne_true
  · next u hu =>
    obtain ⟨hmem, hcontains⟩ := (TokenStream.tokenAt?_eq_some_iff (tiled_tokenize text)).1 hu
    rw [isNameAt_iff_of_contains hmem hcontains]
    split
    · next hname =>
      have hfree : ¬ (u.kind = .filler ∨ u.kind = .operator) := by
        rintro (hkind | hkind) <;> rw [hkind] at hname <;> cases hname
      simp [hname, hfree]
    · next hname =>
      split
      · next hfree => simp [hname, hfree]
      · next hfree => simp [hname, hfree]

end Text

/-- **A cursor finds the token that it is on, and the name that is meant there.** The tokens that it
passes over are those that stop at or before it, in whichever way the point is searched where they
end. The token that it is on is the only one with a byte there, and there is one just if the cursor
is in front of the end of the text. The name is the one that is meant; none is where another token
stands than a name, filler or an operator, and none is behind the end. -/
theorem cursor_exact (text : String) (offset : Nat) :
    (∀ front behind, (tokenize text).tokens = front ++ behind →
      ((tokenize text).before offset = front ↔
        (∀ u ∈ front, u.span.stop ≤ offset) ∧ ∀ u ∈ behind, offset < u.span.stop)) ∧
    (∀ t, (tokenize text).tokenAt? offset = some t ↔
      t ∈ (tokenize text).tokens ∧ t.span.contains offset = true) ∧
    (((tokenize text).tokenAt? offset).isSome = true ↔ offset < text.utf8ByteSize) ∧
    (∀ t, (tokenize text).nameAt? offset = some t ↔ IsNameAt text offset t) ∧
    (∀ u ∈ (tokenize text).tokens, u.span.contains offset = true →
      u.kind ∉ [.identifier, .typeVariable, .filler, .operator] →
        (tokenize text).nameAt? offset = none) ∧
    (text.utf8ByteSize < offset → (tokenize text).nameAt? offset = none) := by
  have htiled := tiled_tokenize text
  refine ⟨fun _ _ hsplit => TokenStream.before_eq_iff htiled hsplit,
    fun _ => TokenStream.tokenAt?_eq_some_iff htiled, isSome_tokenAt?_tokenize,
    fun _ => nameAt?_eq_some_iff, fun u hu hcontains hkind => ?_, fun hbehind => ?_⟩
  · rw [Option.eq_none_iff_forall_ne_some]
    intro t ht
    simp only [List.mem_cons, List.not_mem_nil, or_false, not_or] at hkind
    rcases (isNameAt_iff_of_contains hu hcontains).1 (nameAt?_eq_some_iff.1 ht) with
      ⟨hname, -⟩ | ⟨hfree, -⟩
    · exact (TokenKind.isName_iff.1 hname).elim hkind.1 hkind.2.1
    · exact hfree.elim hkind.2.2.1 hkind.2.2.2
  · rw [Option.eq_none_iff_forall_ne_some]
    intro t ht
    have hending := (isNameAt_iff_of_le (Nat.le_of_lt hbehind)).1 (nameAt?_eq_some_iff.1 ht)
    obtain ⟨hmem, -, hstop⟩ := (TokenStream.nameEndingAt?_eq_some_iff htiled).1 hending
    have hle := stop_le_of_mem_tokenize hmem
    omega

end SailNav
