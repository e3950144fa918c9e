import SailNav.Proofs.Definition.Body

/-!
# Which words are heads

Apart from operators and members, a definition is an identifier that no body reads and that stands
behind the words of a row of the rules (`SailNav.TokenStream.HeadsAt`). These and no others are found,
each once (`SailNav.heads_exact`).
-/

namespace SailNav

namespace TokenStream

/-- **A word heads a definition of a kind.** It is an identifier, it is not part of the body of an
enum or union, and the one or two words before it are in the row of the kind. -/
structure HeadsAt (s : TokenStream) (p : Nat) (t : Token) (kind : DefinitionKind) : Prop where
  word : s.words[p]? = some t
  identifier : t.kind = .identifier
  free : ¬s.Consumed p
  row : ∃ last, s.wordBefore p = some last ∧ Row (s.wordBefore (p - 1)) last kind

variable {s : TokenStream} {p : Nat} {t : Token} {d : Definition}

/-- The kinds of members are apart from those of heads, so that a consumed word is no head. -/
theorem not_consumed_of_found? (htiled : Token.Tiled 0 s.tokens) (hd : s.found? p = some d)
    (hkind : d.kind ∉ [.operator, .enumMember, .unionConstructor]) : ¬s.Consumed p := by
  intro hconsumed
  obtain ⟨w, hw, hat, -⟩ := exists_window_of_found? hd
  obtain ⟨state, next, found, hs, hconsumes⟩ := (consumed_iff hat).1 hconsumed
  obtain rfl := (found?_of_leadsTo htiled hw hs hconsumes).symm.trans hd
  obtain ⟨-, owner, rfl⟩ := hconsumes.eq_member
  exact hkind (BodyState.kind_member_mem owner w.current)

/-- **A head is found just where a word heads a definition.** -/
theorem found?_eq_head_iff (htiled : Token.Tiled 0 s.tokens) (ht : s.words[p]? = some t)
    {kind : DefinitionKind} (hkind : kind ∉ [.operator, .enumMember, .unionConstructor]) :
    s.found? p = some ⟨kind, t.text, t.span⟩ ↔ s.HeadsAt p t kind := by
  obtain ⟨w, hw, hat, rfl⟩ := exists_window ht
  constructor
  · intro hfound
    have hnot := not_consumed_of_found? htiled hfound hkind
    rw [found?_of_not_consumed htiled hw hnot] at hfound
    obtain ⟨last, behind, hlast, ⟨-, hname⟩ | ⟨hidentifier, hrow, -⟩⟩ :=
      Window.head?_eq_some_iff.1 hfound
    · -- what is glued together is an operator
      obtain ⟨_, _, _, _, -, -, -, -, heq⟩ := exists_run_of_operatorAfter? hname
      have hoperator : kind = .operator := congrArg Definition.kind heq
      exact absurd (by simp [hoperator]) hkind
    · refine ⟨ht, hidentifier, hnot, last, ?_, hat.secondLast_eq ▸ hrow⟩
      rw [← hat.previous?_eq, Window.previous?, hlast]
      rfl
  · rintro ⟨-, hidentifier, hnot, last, hlast, hrow⟩
    rw [← hat.previous?_eq] at hlast
    obtain ⟨⟨_, behind⟩, hbehind, rfl⟩ := Option.map_eq_some_iff.1 hlast
    rw [found?_of_not_consumed htiled hw hnot, Window.head?_eq_some_iff]
    exact ⟨_, behind, hbehind, .inr ⟨hidentifier, hat.secondLast_eq ▸ hrow, rfl⟩⟩

end TokenStream

open TokenStream

/-- **The definitions that are no operators and no members are the words that head one**, each with
the kind of its row. Just that one definition belongs to such a word, and no definition is found
twice. -/
theorem heads_exact (text : String) :
    (∀ d, d ∈ extract (tokenize text) ∧ d.kind ∉ [.operator, .enumMember, .unionConstructor] ↔
      ∃ p t, (tokenize text).HeadsAt p t d.kind ∧ d = ⟨d.kind, t.text, t.span⟩) ∧
    (∀ p t kind, (tokenize text).HeadsAt p t kind →
      ∀ d, d ∈ extract (tokenize text) ∧ d.FoundAt (tokenize text) p ↔
        d = ⟨kind, t.text, t.span⟩) ∧
    (extract (tokenize text)).Nodup := by
  have htiled := tiled_tokenize text
  have hfound {p : Nat} {t : Token} {kind : DefinitionKind}
      (hhead : (tokenize text).HeadsAt p t kind) :
      (tokenize text).found? p = some ⟨kind, t.text, t.span⟩ := by
    obtain ⟨last, -, hrow⟩ := hhead.row
    exact (found?_eq_head_iff htiled hhead.word hrow.notMem).2 hhead
  refine ⟨fun d => ⟨fun ⟨hd, hkind⟩ => ?_, fun ⟨p, t, hhead, heq⟩ => ?_⟩,
    fun p t kind hhead d => ⟨fun ⟨hd, hat⟩ => ?_, fun heq => ?_⟩, ?_⟩
  · obtain ⟨p, hp⟩ := mem_extract_iff.1 hd
    have hword := List.getElem?_eq_getElem (lt_length_of_found? hp)
    have hne : d.kind ≠ .operator := fun hoperator => hkind (by simp [hoperator])
    have heq := (eq_of_found? hp hne hword).2
    exact ⟨p, _, (found?_eq_head_iff htiled hword hkind).1 (heq ▸ hp), heq⟩
  · obtain ⟨last, -, hrow⟩ := hhead.row
    exact ⟨mem_extract_iff.2 ⟨p, heq ▸ hfound hhead⟩, hrow.notMem⟩
  · exact Option.some.inj ((found?_of_foundAt htiled hd hat).symm.trans (hfound hhead))
  · rw [heq]
    exact ⟨mem_extract_iff.2 ⟨p, hfound hhead⟩, foundAt_of_found? htiled (hfound hhead)⟩
  · exact (pairwise_extract htiled).imp fun hlt heq => absurd (heq ▸ hlt) (Nat.lt_irrefl _)

end SailNav
