import SailNav.Proofs.Definition.Place

/-!
# The names of definitions

A definition is named by its text: the bytes of its span spell its name
(`SailNav.spells_of_mem_extract`). Most definitions are named by one identifier, the word of the
place at which they are found. Only an operator is named by several tokens: all tokens behind its
keyword, blanks left out, up to one that cannot be part of a name. So both are pieces of the stream
(`SailNav.Definition.NamedAt`).
-/

namespace SailNav

namespace Token

/-- **Filler that shows nothing**: all its characters are blank. -/
def ShowsNothing (t : Token) : Prop := t.kind = .filler ∧ ∀ c ∈ t.text.toList, Text.isBlank c = true

/-- **A token may be part of the name of an operator** if it is no comment, no string, no bracket and
no filler that shows nothing. -/
def JoinsName (t : Token) : Prop :=
  t.kind ≠ .comment ∧ t.kind ≠ .string ∧
    ¬(t.kind = .operator ∧ t.text ∈ ["(", "\x7b", ")", "\x7d"]) ∧ ¬t.ShowsNothing

/-- A keyword that declares how an operator binds. -/
def IsFixity (t : Token) : Prop := ∃ keyword ∈ ["infix", "infixl", "infixr"], t.isSign keyword = true

/-- **The name of an operator may follow a word**: `operator`, a fixity keyword, or the number behind
a fixity keyword. -/
def AnnouncesOperator (before : Option Token) (t : Token) : Prop :=
  t.isSign "operator" = true ∨ t.IsFixity ∨ t.kind = .number ∧ ∃ word, before = some word ∧ word.IsFixity

variable {t : Token}

theorem isBlank_iff : t.isBlank = true ↔ t.ShowsNothing := by
  simp [isBlank, ShowsNothing]

theorem isGlue_iff : t.isGlue = true ↔ t.JoinsName := by
  simp only [isGlue, JoinsName, ← isBlank_iff, isOpenBracket, isCloseBracket]
  by_cases hoperator : t.kind = .operator <;>
    simp [hoperator, List.mem_cons, and_assoc, and_comm, and_left_comm]

theorem isFixity_iff : t.isSignOf fixityKeywords = true ↔ t.IsFixity := by
  simp [isSignOf, fixityKeywords, IsFixity]

end Token

/-- **Where and how a definition is named** in a stream, by its place. -/
inductive Definition.NamedAt (s : TokenStream) (d : Definition) : Nat → Prop
  /-- The word of the place is an identifier and names the definition. -/
  | word {p : Nat} {t : Token} (word : s.words[p]? = some t) (identifier : t.kind = .identifier)
      (kind : d.kind ≠ .operator) (name : d.name = t.text) (span : d.span = t.span) : NamedAt s d p
  /-- The word before the place announces an operator, and what follows it, blanks left out, names
  the operator as far as it can. -/
  | glued {front gap rest after : List Token} {keyword first : Token}
      (tokens_eq : s.tokens = front ++ keyword :: (gap ++ (first :: rest) ++ after))
      (significant : keyword.isTrivia = false)
      (announces : keyword.AnnouncesOperator (front.filter (!·.isTrivia)).getLast?)
      (blank : ∀ t ∈ gap, t.ShowsNothing) (joins : ∀ t ∈ first :: rest, t.JoinsName)
      (ends : ∀ t, after.head? = some t → ¬t.JoinsName) (eq : d = operatorDefinition first rest) :
      NamedAt s d ((front.filter (!·.isTrivia)).length + 1)

/-! ### What the rules find -/

/-- The name of an operator is glued together from neighbouring tokens, behind blanks and up to a
token that does not join it. -/
theorem exists_run_of_operatorAfter? {tokens : List Token} {d : Definition}
    (h : operatorAfter? tokens = some d) :
    ∃ gap first rest after, tokens = gap ++ (first :: rest) ++ after ∧
      (∀ t ∈ gap, t.ShowsNothing) ∧ (∀ t ∈ first :: rest, t.JoinsName) ∧
      (∀ t, after.head? = some t → ¬t.JoinsName) ∧ d = operatorDefinition first rest := by
  unfold operatorAfter? at h
  split at h
  · next first rest hdrop =>
    split at h
    · next hfirst =>
      refine ⟨tokens.takeWhile Token.isBlank, first, rest.takeWhile Token.isGlue,
        rest.dropWhile Token.isGlue, ?_, fun t ht => ?_, fun t ht => ?_, fun t ht => ?_,
        (Option.some.inj h).symm⟩
      · rw [List.append_assoc, List.cons_append, List.takeWhile_append_dropWhile, ← hdrop,
          List.takeWhile_append_dropWhile]
      · exact Token.isBlank_iff.1 (List.all_eq_true.1 List.all_takeWhile t ht)
      · rcases List.mem_cons.1 ht with rfl | ht
        · exact Token.isGlue_iff.1 hfirst
        · exact Token.isGlue_iff.1 (List.all_eq_true.1 List.all_takeWhile t ht)
      · have hnot := List.head?_dropWhile_not Token.isGlue rest
        rw [ht] at hnot
        rw [← Token.isGlue_iff, Bool.not_eq_true]
        exact hnot
    · exact absurd h (by simp)
  · exact absurd h (by simp)

/-- What the last word announces is what the rules look for. -/
theorem Window.announcesOperator_of_afterOperatorKeyword {w : Window} {last : Token}
    (h : w.afterOperatorKeyword last = true) : last.AnnouncesOperator w.secondLast := by
  unfold afterOperatorKeyword at h
  split at h
  · next hoperator => exact .inl hoperator
  · split at h
    · next hfixity => exact .inr (.inl (Token.isFixity_iff.1 hfixity))
    · rw [Bool.and_eq_true, beq_iff_eq, Option.any_eq_true] at h
      obtain ⟨hnumber, word, hbefore, hfixity⟩ := h
      exact .inr (.inr ⟨hnumber, word, hbefore, Token.isFixity_iff.1 hfixity⟩)

/-- What is found as a head is an operator, or of the kind of a row. -/
theorem Window.kind_ne_memberKind_of_head? {w : Window} {d : Definition} (h : w.head? = some d)
    {owner : MemberOwner} : d.kind ≠ owner.memberKind := by
  obtain ⟨last, behind, -, ⟨-, hname⟩ | ⟨-, hrow, -⟩⟩ := head?_eq_some_iff.1 h
  · obtain ⟨_, _, _, _, -, -, -, -, rfl⟩ := exists_run_of_operatorAfter? hname
    cases owner <;> nofun
  · intro hkind
    exact hrow.notMem (by cases owner <;> simp [hkind, MemberOwner.memberKind])

namespace TokenStream

variable {s : TokenStream} {p : Nat} {w : Window} {d : Definition}

/-- A head is named by the word of its place or by what stands behind the word before it. -/
theorem namedAt_of_head? (h : Window.At s.tokens p w) (hd : w.head? = some d) : d.NamedAt s p := by
  obtain ⟨last, behind, hlast, ⟨hannounces, hname⟩ | ⟨hidentifier, hrow, heq⟩⟩ :=
    Window.head?_eq_some_iff.1 hd
  · -- an operator, glued together behind the last token
    obtain ⟨gap, first, rest, after, hbehind, hgap, hrun, hafter, heq⟩ :=
      exists_run_of_operatorAfter? hname
    have hannounces := Window.announcesOperator_of_afterOperatorKeyword hannounces
    cases h with
    | first => cases hlast
    | next hu _ _ htokens =>
      cases hlast
      exact .glued (by rw [htokens, hbehind]) hu hannounces hgap hrun hafter heq
  · have hkind : d.kind ≠ .operator := fun hoperator => hrow.notMem (by simp [hoperator])
    exact .word h.getElem?_words hidentifier hkind (by rw [heq]) (by rw [heq])

/-- **A definition is named at the place at which it is found.** -/
theorem namedAt_of_found? (h : s.found? p = some d) : d.NamedAt s p := by
  obtain ⟨w, -, hat, hread⟩ := exists_window_of_found? h
  rcases (s.bodyBefore p).read_cases w with ⟨next, found, hconsumes, heq⟩ | heq
  · obtain rfl : found = some d := by rwa [heq] at hread
    obtain ⟨hidentifier, owner, rfl⟩ := hconsumes.eq_member
    exact .word hat.getElem?_words hidentifier (BodyState.kind_member_ne_operator owner _) rfl rfl
  · rw [heq] at hread
    exact namedAt_of_head? hat hread

/-- A definition that is no operator is the word of its place with a kind. -/
theorem eq_of_found? (h : s.found? p = some d) (hkind : d.kind ≠ .operator) {t : Token}
    (ht : s.words[p]? = some t) : t.kind = .identifier ∧ d = ⟨d.kind, t.text, t.span⟩ := by
  cases namedAt_of_found? h with
  | word hword hidentifier _ hname hspan =>
    obtain rfl := Option.some.inj (hword.symm.trans ht)
    exact ⟨hidentifier, by rw [← hname, ← hspan]⟩
  | glued _ _ _ _ _ _ heq => exact absurd (heq ▸ rfl) hkind

end TokenStream

/-! ### The definitions of a text -/

/-- The word of a place is one of the tokens. -/
theorem TokenStream.mem_tokens_of_words {s : TokenStream} {p : Nat} {t : Token}
    (h : s.words[p]? = some t) : t ∈ s.tokens :=
  (List.mem_filter.1 (List.mem_of_getElem? h)).1

/-- **The bytes of a definition spell its name.** -/
theorem spells_of_mem_extract {text : String} {d : Definition}
    (hd : d ∈ extract (tokenize text)) : d.span.Spells text d.name := by
  obtain ⟨p, hp⟩ := mem_extract_iff.1 hd
  cases TokenStream.namedAt_of_found? hp with
  | word hword _ _ hname hspan =>
    rw [hname, hspan]
    exact spells_of_mem_tokenize (TokenStream.mem_tokens_of_words hword)
  | @glued front gap rest after keyword first htokens _ _ _ _ _ heq =>
    -- neighbouring tokens spell a run of the text
    have htiled := tiled_tokenize text
    have hsplit : (tokenize text).tokens =
        (front ++ keyword :: gap) ++ (first :: rest) ++ after := by simp [htokens]
    rw [hsplit] at htiled
    have hrun := htiled.spells_run
    rw [← hsplit, joined_tokenize] at hrun
    rw [heq]
    exact hrun

/-- What is not an operator is named by an identifier. -/
theorem exists_identifier_of_mem_extract {s : TokenStream} {d : Definition} (hd : d ∈ extract s)
    (hkind : d.kind ≠ .operator) :
    ∃ t ∈ s.tokens, t.kind = .identifier ∧ t.text = d.name ∧ t.span = d.span := by
  obtain ⟨p, hp⟩ := mem_extract_iff.1 hd
  cases TokenStream.namedAt_of_found? hp with
  | word hword hidentifier _ hname hspan =>
    exact ⟨_, TokenStream.mem_tokens_of_words hword, hidentifier, hname.symm, hspan.symm⟩
  | glued _ _ _ _ _ _ heq => exact absurd (by rw [heq]; rfl) hkind

end SailNav
