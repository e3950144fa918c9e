import SailNav.Proofs.Definition.Body

/-!
# Which words are members

A word is a member of an enum or union if it stands on its own behind the equals sign of a body, or
directly in the braces of one and beside the sign that goes with a member
(`SailNav.TokenStream.MemberAt`). The members that are found are these and no others, and nothing
else is found in a body (`SailNav.members_exact`).
-/

namespace SailNav

namespace TokenStream

/-- **The sign beside a member**: a brace or comma before a member of an enum, a colon behind one of
a union. -/
def SignBeside (s : TokenStream) : MemberOwner → Nat → Prop
  | .enum, p => ∃ u, s.wordBefore p = some u ∧ (u.isSign "\x7b" = true ∨ u.isSign "," = true)
  | .union, p => ∃ u, s.words[p + 1]? = some u ∧ u.isSign ":" = true

/-- **A word names a member.** It is an identifier, either alone behind the equals sign of a body, or
in its braces, one bracket deeper than the head and beside the sign of a member. -/
inductive MemberAt (s : TokenStream) (owner : MemberOwner) (p : Nat) (t : Token) : Prop
  | alone {depth h e : Nat} (identifier : t.kind = .identifier) (body : s.BodyAt owner depth h e)
      (place : p = e + 1) : MemberAt s owner p t
  | listed {depth h e : Nat} (identifier : t.kind = .identifier) (body : s.BodyAt owner depth h e)
      (braces : s.InBraces depth e p) (deeper : t.depth = depth + 1) (sign : s.SignBeside owner p) :
      MemberAt s owner p t

variable {s : TokenStream} {p : Nat} {w : Window} {owner : MemberOwner} {depth h e : Nat}

/-- A member tells what kind of thing owns it. -/
theorem owner_eq_of_member_eq {other : MemberOwner} {t u : Token}
    (hmember : BodyState.member owner t = BodyState.member other u) : owner = other := by
  have hkind : owner.memberKind = other.memberKind := congrArg Definition.kind hmember
  cases owner <;> cases other <;> first | rfl | cases hkind

theorem names_iff (hat : Window.At s.tokens p w) : owner.names w = true ↔ s.SignBeside owner p := by
  cases owner with
  | enum => simp [MemberOwner.names, SignBeside, hat.previous?_eq, Option.any_eq_true]
  | union => simp [MemberOwner.names, SignBeside, hat.next?_eq, Option.any_eq_true]

/-- **A word that names a member is read as one**, from a state that the words before it lead to. -/
theorem memberAt_iff (hat : Window.At s.tokens p w) : s.MemberAt owner p w.current ↔
    ∃ state next, s.LeadsTo p state ∧
      state.Consumes w next (some (BodyState.member owner w.current)) := by
  constructor
  · intro h
    cases h with
    | alone identifier body place => exact ⟨_, _, .afterEquals body place, .bare identifier⟩
    | listed identifier body braces deeper sign =>
      exact ⟨_, _, .inBody body braces, .listed deeper identifier ((names_iff hat).2 sign)⟩
  · rintro ⟨state, next, hs, hconsumes⟩
    generalize hfound : some (BodyState.member owner w.current) = found at hconsumes
    cases hconsumes with
    | bare hidentifier =>
      obtain rfl := owner_eq_of_member_eq (Option.some.inj hfound)
      cases hs with
      | afterEquals body place => exact .alone hidentifier body place
    | listed hdepth hidentifier hnames =>
      obtain rfl := owner_eq_of_member_eq (Option.some.inj hfound)
      cases hs with
      | inBody body braces =>
        exact .listed hidentifier body braces hdepth ((names_iff hat).1 hnames)
    | _ => cases hfound

/-- **A member is found just where a word names one.** -/
theorem found?_eq_member_iff (htiled : Token.Tiled 0 s.tokens)
    (hw : (Window.ofTokens s.tokens)[p]? = some w) :
    s.found? p = some (BodyState.member owner w.current) ↔ s.MemberAt owner p w.current := by
  have hat := Window.at_of_getElem? hw
  rw [memberAt_iff hat]
  constructor
  · intro hfound
    by_cases hconsumed : s.Consumed p
    · obtain ⟨state, next, found, hs, hconsumes⟩ := (consumed_iff hat).1 hconsumed
      rw [found?_of_leadsTo htiled hw hs hconsumes] at hfound
      exact ⟨state, next, hs, hfound ▸ hconsumes⟩
    · rw [found?_of_not_consumed htiled hw hconsumed] at hfound
      exact absurd rfl (Window.kind_ne_memberKind_of_head? hfound)
  · rintro ⟨state, next, hs, hconsumes⟩
    exact found?_of_leadsTo htiled hw hs hconsumes

/-- Between a head and the equals sign of its body nothing is found. -/
theorem BodyAt.lt_of_found? (htiled : Token.Tiled 0 s.tokens) (hbody : s.BodyAt owner depth h e)
    {d : Definition} (hd : s.found? p = some d) (hp : h < p) : e < p := by
  rw [← Nat.not_le]
  intro hle
  obtain ⟨w, hw, hat, -⟩ := exists_window_of_found? hd
  have hs : s.LeadsTo p (.afterHead owner depth) :=
    .afterHead hbody.head hp (hbody.parameters.mono hle)
  have hnothing : ∃ next, (BodyState.afterHead owner depth).Consumes w next none := by
    rcases Nat.lt_or_eq_of_le hle with hlt | rfl
    · have hlast := hbody.parameters p _ hp hlt hat.getElem?_words
      exact ⟨_, .parameter hlast⟩
    · obtain ⟨hdepth, hequals⟩ := hbody.equals.current hat
      exact ⟨_, .equals hdepth hequals⟩
  obtain ⟨next, hconsumes⟩ := hnothing
  cases (found?_of_leadsTo htiled hw hs hconsumes).symm.trans hd

/-- In the braces of a body, the brace included, only members are found. -/
theorem BodyAt.kind_of_found? (htiled : Token.Tiled 0 s.tokens) (hbody : s.BodyAt owner depth h e)
    (hbrace : s.SignAt "\x7b" depth (e + 1)) {d : Definition} (hd : s.found? p = some d)
    (hp : e < p) (hdeeper : s.AllWords (e + 2) p (depth < ·.depth)) :
    d.kind = owner.memberKind := by
  obtain ⟨w, hw, hat, -⟩ := exists_window_of_found? hd
  rcases Nat.lt_or_eq_of_le (Nat.succ_le_of_lt hp) with hlt | rfl
  · obtain ⟨next, found, hconsumes⟩ := BodyState.exists_consumes_inBody w owner (depth + 1)
    have hfound := found?_of_leadsTo htiled hw (.inBody hbody ⟨hbrace, hlt, hdeeper⟩) hconsumes
    obtain rfl := hfound.symm.trans hd
    cases hconsumes
    rfl
  · obtain ⟨hdepth, hsign⟩ := hbrace.current hat
    have hfound := found?_of_leadsTo htiled hw (.afterEquals hbody rfl) (.brace hdepth hsign)
    cases hfound.symm.trans hd

end TokenStream

open TokenStream

/-- **The members of a text are the words that name one, and nothing else is found in a body.** Each
definition belongs to one word. Up to the equals sign of a body nothing belongs to a word behind the
head, and where a brace follows, only members belong to the words behind that sign, up to the first
word behind the brace that is not deeper than the head. -/
theorem members_exact (text : String) :
    (∀ (owner : MemberOwner) (p : Nat) (t : Token), (tokenize text).words[p]? = some t →
      (BodyState.member owner t ∈ extract (tokenize text) ↔
        (tokenize text).MemberAt owner p t)) ∧
    (∀ owner : MemberOwner, ∀ d ∈ extract (tokenize text), d.kind = owner.memberKind →
      ∃ (p : Nat) (t : Token), (tokenize text).words[p]? = some t ∧ d = BodyState.member owner t) ∧
    (∀ d ∈ extract (tokenize text), ∃! p, d.FoundAt (tokenize text) p) ∧
    ∀ owner depth h e, (tokenize text).BodyAt owner depth h e →
      ∀ d ∈ extract (tokenize text), ∀ p, d.FoundAt (tokenize text) p → h < p →
        e < p ∧
        ((tokenize text).SignAt "\x7b" depth (e + 1) →
          (tokenize text).AllWords (e + 2) p (depth < ·.depth) → d.kind = owner.memberKind) := by
  have htiled := tiled_tokenize text
  refine ⟨fun owner p t ht => ?_, fun owner d hd hkind => ?_,
    fun d hd => existsUnique_foundAt htiled hd, fun owner depth h e hbody d hd p hp hlt => ?_⟩
  · obtain ⟨w, hw, -, rfl⟩ := exists_window ht
    rw [← found?_eq_member_iff htiled hw]
    exact (found?_eq_some_iff htiled ht rfl).symm
  · obtain ⟨p, hp⟩ := mem_extract_iff.1 hd
    have hword := List.getElem?_eq_getElem (lt_length_of_found? hp)
    have hne : d.kind ≠ .operator := hkind ▸ BodyState.kind_member_ne_operator owner default
    refine ⟨p, _, hword, ?_⟩
    rw [BodyState.member, ← hkind]
    exact (eq_of_found? hp hne hword).2
  · have hfound := found?_of_foundAt htiled hd hp
    have hequals := hbody.lt_of_found? htiled hfound hlt
    exact ⟨hequals, fun hbrace => hbody.kind_of_found? htiled hbrace hfound hequals⟩

end SailNav
