import Mathlib.Logic.ExistsUnique
import SailNav.Proofs.Definition.Name

/-!
# The order of definitions

Definitions come in the order of the text, each with a name of its own
(`SailNav.extract_inOrder`). That is not said by the way they are found, since the name of an operator
starts before the word at which it is found, and goes on behind it, over words at which more may be
found. But it starts behind the word before (`SailNav.Definition.FoundAt`), so what is found at a
later place starts later. For the same reason a definition is found at one place only
(`SailNav.Definition.FoundAt.unique`).
-/

namespace SailNav

namespace TokenStream

variable {s : TokenStream} {p q : Nat} {t u : Token}

/-- A word stops before a later one starts. -/
theorem stop_le_of_words (h : Token.Tiled 0 s.tokens) (ht : s.words[p]? = some t)
    (hu : s.words[q]? = some u) (hpq : p < q) : t.span.stop ≤ u.span.start := by
  obtain ⟨hp, rfl⟩ := List.getElem?_eq_some_iff.1 ht
  obtain ⟨hq, rfl⟩ := List.getElem?_eq_some_iff.1 hu
  exact List.pairwise_iff_getElem.1 (h.pairwise.filter _) p q hp hq hpq

/-- The word before a place stops before the word of the place starts. -/
theorem stop_le_of_wordBefore (h : Token.Tiled 0 s.tokens) (ht : s.words[p]? = some t)
    (hu : s.wordBefore p = some u) : u.span.stop ≤ t.span.start := by
  cases p with
  | zero => cases hu
  | succ n => exact stop_le_of_words h hu ht (Nat.lt_succ_self n)

theorem span_lt_of_words (h : Token.Tiled 0 s.tokens) (ht : s.words[p]? = some t) :
    t.span.start < t.span.stop :=
  h.span_lt (mem_tokens_of_words ht)

end TokenStream

/-- **A definition belongs to a place** if it starts behind the word before the place, and not behind
the word of the place. -/
structure Definition.FoundAt (s : TokenStream) (d : Definition) (p : Nat) : Prop where
  word : ∃ t, s.words[p]? = some t ∧ d.span.start ≤ t.span.start
  behind : ∀ u, s.wordBefore p = some u → u.span.stop ≤ d.span.start

namespace Definition

variable {s : TokenStream} {d e : Definition} {p q : Nat}

/-- Definitions of earlier places start earlier. -/
theorem FoundAt.start_lt (h : Token.Tiled 0 s.tokens) (hd : d.FoundAt s p) (he : e.FoundAt s q)
    (hpq : p < q) : d.span.start < e.span.start := by
  obtain ⟨t, ht, hle⟩ := hd.word
  obtain ⟨v, hv, -⟩ := he.word
  obtain ⟨n, rfl⟩ : ∃ n, q = n + 1 := ⟨q - 1, by omega⟩
  have hn : n < s.words.length := Nat.lt_of_succ_lt (List.getElem?_eq_some_iff.1 hv).1
  have hu : s.words[n]? = some s.words[n] := List.getElem?_eq_getElem hn
  have hbehind := he.behind _ hu
  have htlt := TokenStream.span_lt_of_words h ht
  have hult := TokenStream.span_lt_of_words h hu
  -- the word of the first place is not behind the word before the second
  rcases Nat.lt_or_eq_of_le (Nat.le_of_lt_succ hpq) with hlt | rfl
  · have hstop := TokenStream.stop_le_of_words h ht hu hlt
    omega
  · obtain rfl := Option.some.inj (ht.symm.trans hu)
    omega

/-- A definition belongs to one place. -/
theorem FoundAt.unique (h : Token.Tiled 0 s.tokens) (hp : d.FoundAt s p) (hq : d.FoundAt s q) :
    p = q := by
  rcases Nat.lt_trichotomy p q with hlt | heq | hgt
  · exact absurd (hp.start_lt h hq hlt) (Nat.lt_irrefl _)
  · exact heq
  · exact absurd (hq.start_lt h hp hgt) (Nat.lt_irrefl _)

/-- The name that a place gives starts in front of its word and behind the word before. -/
theorem NamedAt.foundAt (h : Token.Tiled 0 s.tokens) (hd : d.NamedAt s p)
    (hp : p < s.words.length) : d.FoundAt s p := by
  cases hd with
  | word hword _ _ _ hspan =>
    refine ⟨⟨_, hword, Nat.le_of_eq (congrArg Span.start hspan)⟩, fun u hu => ?_⟩
    rw [hspan]
    exact TokenStream.stop_le_of_wordBefore h hword hu
  | @glued front gap rest after keyword first htokens hsignificant _ hblank hjoins _ heq =>
    have hpairwise := h.pairwise
    have hstart : d.span.start = first.span.start := congrArg (·.span.start) heq
    have hgap : ∀ t ∈ gap, t.isTrivia = true := fun t ht => by
      rw [Token.isTrivia, (hblank t ht).1]
      rfl
    have hwords : s.words = front.filter (!·.isTrivia) ++
        keyword :: ((first :: rest) ++ after).filter (!·.isTrivia) := by
      simp [TokenStream.words, htokens, hsignificant, Window.filter_eq_nil hgap]
    rw [htokens] at hpairwise
    have hbehind := (List.pairwise_append.1 hpairwise).2.1
    obtain ⟨hkeyword, hrest⟩ := List.pairwise_cons.1 hbehind
    constructor
    · -- the word of the place is the first token of the name, or stands behind it
      obtain ⟨t, ht⟩ : ∃ t, s.words[(front.filter (!·.isTrivia)).length + 1]? = some t :=
        ⟨_, List.getElem?_eq_getElem hp⟩
      refine ⟨t, ht, ?_⟩
      rw [hwords, List.getElem?_append_right (Nat.le_add_right _ 1), Nat.add_sub_cancel_left,
        List.getElem?_cons_succ] at ht
      have hmem := (List.mem_filter.1 (List.mem_of_getElem? ht)).1
      rw [List.append_assoc, List.cons_append] at hrest
      have hfirst := (List.pairwise_cons.1 (List.pairwise_append.1 hrest).2.1).1
      have hlt := h.span_lt (t := first) (by simp [htokens])
      rw [hstart]
      rcases List.mem_cons.1 hmem with rfl | hmem
      · exact Nat.le_refl _
      · exact Nat.le_trans (Nat.le_of_lt hlt) (hfirst t hmem)
    · intro u hu
      rw [TokenStream.wordBefore, hwords, List.getElem?_append_right (Nat.le_refl _),
        Nat.sub_self] at hu
      obtain rfl := Option.some.inj hu
      rw [hstart]
      exact hkeyword _ (by simp)

end Definition

namespace TokenStream

variable {s : TokenStream} {d e : Definition} {p : Nat}

theorem lt_length_of_found? (h : s.found? p = some d) : p < s.words.length := by
  obtain ⟨w, -, hat, -⟩ := exists_window_of_found? h
  exact hat.lt_length

/-- **What is found at a place belongs to it.** -/
theorem foundAt_of_found? (h : Token.Tiled 0 s.tokens) (hd : s.found? p = some d) :
    d.FoundAt s p :=
  (namedAt_of_found? hd).foundAt h (lt_length_of_found? hd)

/-- **Every definition belongs to one place.** -/
theorem existsUnique_foundAt (h : Token.Tiled 0 s.tokens) (hd : d ∈ extract s) :
    ∃! p, d.FoundAt s p := by
  obtain ⟨p, hp⟩ := mem_extract_iff.1 hd
  exact ⟨p, foundAt_of_found? h hp, fun q hq => hq.unique h (foundAt_of_found? h hp)⟩

/-- What belongs to a place is found there. -/
theorem found?_of_foundAt (h : Token.Tiled 0 s.tokens) (hd : d ∈ extract s)
    (hp : d.FoundAt s p) : s.found? p = some d := by
  obtain ⟨q, hq⟩ := mem_extract_iff.1 hd
  obtain rfl := hp.unique h (foundAt_of_found? h hq)
  exact hq

/-- A definition with the span of a word is found at the place of the word. -/
theorem found?_eq_some_iff (h : Token.Tiled 0 s.tokens) {t : Token} (ht : s.words[p]? = some t)
    (hspan : d.span = t.span) : s.found? p = some d ↔ d ∈ extract s := by
  refine ⟨fun hd => mem_extract_iff.2 ⟨p, hd⟩, fun hd => found?_of_foundAt h hd ?_⟩
  refine ⟨⟨t, ht, Nat.le_of_eq (congrArg Span.start hspan)⟩, fun u hu => ?_⟩
  rw [hspan]
  exact stop_le_of_wordBefore h ht hu

/-- Definitions are in the order in which they start. -/
theorem pairwise_extract (h : Token.Tiled 0 s.tokens) :
    (extract s).Pairwise fun d e => d.span.start < e.span.start := by
  rw [extract_eq_filterMap, List.pairwise_filterMap]
  refine List.pairwise_lt_range.imp fun hpq d hd e he => ?_
  exact (foundAt_of_found? h hd).start_lt h (foundAt_of_found? h he) hpq

end TokenStream

/-- **The definitions of a text are in its order, and named where they stand.** Each starts before
the next one does, takes at least one byte, and its bytes spell its name. One that is no operator is
one identifier. An operator is a run of neighbouring tokens that may be part of a name: it starts
behind the word that announces it and blanks, and ends where it cannot go on. -/
theorem extract_inOrder (text : String) :
    (extract (tokenize text)).Pairwise (fun d e => d.span.start < e.span.start) ∧
    ∀ d ∈ extract (tokenize text), d.span.start < d.span.stop ∧ d.span.Spells text d.name ∧
      (d.kind ≠ .operator → ∃ t ∈ (tokenize text).tokens, t.kind = .identifier ∧
        t.text = d.name ∧ t.span = d.span) ∧
      (d.kind = .operator → ∃ front keyword gap first rest after,
        (tokenize text).tokens = front ++ keyword :: (gap ++ (first :: rest) ++ after) ∧
        keyword.isTrivia = false ∧
        keyword.AnnouncesOperator (front.filter (!·.isTrivia)).getLast? ∧
        (∀ t ∈ gap, t.ShowsNothing) ∧ (∀ t ∈ first :: rest, t.JoinsName) ∧
        (∀ t, after.head? = some t → ¬t.JoinsName) ∧
        d.name = Token.joined (first :: rest) ∧
        d.span = ⟨first.span.start, (rest.getLast?.getD first).span.stop⟩) := by
  have htiled := tiled_tokenize text
  refine ⟨TokenStream.pairwise_extract htiled, fun d hd => ?_⟩
  obtain ⟨p, hp⟩ := mem_extract_iff.1 hd
  have hspells := spells_of_mem_extract hd
  cases TokenStream.namedAt_of_found? hp with
  | word hword hidentifier hkind hname hspan =>
    have hmem := TokenStream.mem_tokens_of_words hword
    refine ⟨hspan ▸ htiled.span_lt hmem, hspells, fun _ => ?_, fun hoperator => ?_⟩
    · exact ⟨_, hmem, hidentifier, hname.symm, hspan.symm⟩
    · exact absurd hoperator hkind
  | @glued front gap rest after keyword first htokens hword hannounces hgap hrun hafter heq =>
    refine ⟨?_, hspells, fun hkind => absurd (heq ▸ rfl) hkind, fun _ => ?_⟩
    · -- the name is as long as its first token at least
      obtain ⟨before, behind, -, hstart, hstop⟩ := hspells
      have hfirst : first ∈ (tokenize text).tokens := by simp [htokens]
      have hlt := htiled.span_lt hfirst
      obtain ⟨_, _, -, hfirststart, hfirststop⟩ := spells_of_mem_tokenize hfirst
      have hname : d.name.utf8ByteSize = first.text.utf8ByteSize + (Token.joined rest).utf8ByteSize := by
        rw [heq, ← String.utf8ByteSize_append, ← Token.joined_cons]
        rfl
      omega
    · exact ⟨front, keyword, gap, first, rest, after, htokens, hword, hannounces, hgap, hrun,
        hafter, by rw [heq]; rfl, by rw [heq]; rfl⟩

end SailNav
