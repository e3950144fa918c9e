import SailNav.Proofs.Definition.Order

/-!
# The bodies of enums and unions

Which words are read as part of a body, told by the words alone (`SailNav.TokenStream.Consumed`) and
without the states that the reading goes through. A body belongs to a head, a word at which an `enum`
or `union` is found. Behind the head stand parameters, all of them deeper than the head but for
parentheses, then an equals sign at the depth of the head (`SailNav.TokenStream.BodyAt`), and then
either a single name or a brace, from which the body goes on for as long as the words are deeper
(`SailNav.TokenStream.InBraces`).

Each state of the reading says that the words before a place are the beginning of such a body, and
nothing else leads to it (`SailNav.TokenStream.bodyBefore_eq_iff`). This is one induction along the
words, with one case for each way in which a word can be consumed (`SailNav.BodyState.Consumes`).
-/

namespace SailNav

namespace MemberOwner

/-- The kind of thing that owns members. -/
def headKind : MemberOwner → DefinitionKind
  | enum => .enum
  | union => .union

theorem ofKind?_eq_some_iff {kind : DefinitionKind} {owner : MemberOwner} :
    ofKind? kind = some owner ↔ kind = owner.headKind := by
  cases kind <;> cases owner <;> simp [ofKind?, headKind]

theorem headKind_notMem (owner : MemberOwner) : owner.headKind ∉
    [DefinitionKind.operator, .enumMember, .unionConstructor] := by
  cases owner <;> decide

end MemberOwner

/-! ### Bodies among the words -/

namespace TokenStream

/-- All words from one place up to another have a property. -/
def AllWords (s : TokenStream) (first stop : Nat) (P : Token → Prop) : Prop :=
  ∀ i t, first ≤ i → i < stop → s.words[i]? = some t → P t

/-- A keyword or operator stands at a place, at a depth. -/
def SignAt (s : TokenStream) (sign : String) (depth p : Nat) : Prop :=
  ∃ t, s.words[p]? = some t ∧ t.depth = depth ∧ t.isSign sign = true

/-- **A head that owns members** is found at a place, at a depth. -/
def HeadAt (s : TokenStream) (owner : MemberOwner) (depth h : Nat) : Prop :=
  ∃ t, s.words[h]? = some t ∧ t.depth = depth ∧
    (⟨owner.headKind, t.text, t.span⟩ : Definition) ∈ extract s

/-- **A body stands behind a head** at place `h`: there is an equals sign at place `e`, at the depth
of the head, and only parameters are in between. -/
structure BodyAt (s : TokenStream) (owner : MemberOwner) (depth h e : Nat) : Prop where
  head : s.HeadAt owner depth h
  lt : h < e
  parameters : s.AllWords (h + 1) e (Token.IsParameter depth)
  equals : s.SignAt "=" depth e

/-- **A place is in the braces of a body**, or the first behind them: a brace stands behind the equals
sign, and the words between it and the place are deeper. -/
structure InBraces (s : TokenStream) (depth e p : Nat) : Prop where
  brace : s.SignAt "\x7b" depth (e + 1)
  lt : e + 1 < p
  deeper : s.AllWords (e + 2) p (depth < ·.depth)

/-- **The word of a place is consumed** as part of a body: it is a parameter, the equals sign, a name
on its own, the brace, or in the braces, the word that is deep no more included. -/
inductive Consumed (s : TokenStream) (p : Nat) : Prop
  | parameter {owner : MemberOwner} {depth h : Nat} (head : s.HeadAt owner depth h) (lt : h < p)
      (parameters : s.AllWords (h + 1) (p + 1) (Token.IsParameter depth)) : Consumed s p
  | equals {owner : MemberOwner} {depth h : Nat} (body : s.BodyAt owner depth h p) : Consumed s p
  | bare {owner : MemberOwner} {depth h e : Nat} (body : s.BodyAt owner depth h e) (place : p = e + 1)
      (identifier : ∃ t, s.words[p]? = some t ∧ t.kind = .identifier) : Consumed s p
  | brace {owner : MemberOwner} {depth h e : Nat} (body : s.BodyAt owner depth h e)
      (place : p = e + 1) (brace : s.SignAt "\x7b" depth p) : Consumed s p
  | inside {owner : MemberOwner} {depth h e : Nat} (body : s.BodyAt owner depth h e)
      (braces : s.InBraces depth e p) : Consumed s p

/-- **The words before a place lead to a state** of the reading. -/
inductive LeadsTo (s : TokenStream) (p : Nat) : BodyState → Prop
  | afterHead {owner : MemberOwner} {depth h : Nat} (head : s.HeadAt owner depth h) (lt : h < p)
      (parameters : s.AllWords (h + 1) p (Token.IsParameter depth)) :
      LeadsTo s p (.afterHead owner depth)
  | afterEquals {owner : MemberOwner} {depth h e : Nat} (body : s.BodyAt owner depth h e)
      (place : p = e + 1) : LeadsTo s p (.afterEquals owner depth)
  | inBody {owner : MemberOwner} {depth h e : Nat} (body : s.BodyAt owner depth h e)
      (braces : s.InBraces depth e p) : LeadsTo s p (.inBody owner (depth + 1))

variable {s : TokenStream} {p : Nat} {w : Window} {owner : MemberOwner} {depth h e : Nat}
  {state next : BodyState} {found : Option Definition}

namespace AllWords

variable {first stop : Nat} {P : Token → Prop} {t : Token}

theorem of_le (hle : stop ≤ first) : s.AllWords first stop P := by
  intro i t hfirst hlt
  omega

/-- All words up to a place have a property, and the word of the place has it too. -/
theorem succ (hall : s.AllWords first stop P) (ht : s.words[stop]? = some t) (hP : P t) :
    s.AllWords first (stop + 1) P := by
  intro i u hfirst hlt hu
  rcases Nat.lt_or_eq_of_le (Nat.le_of_lt_succ hlt) with hlt | rfl
  · exact hall i u hfirst hlt hu
  · obtain rfl := Option.some.inj (ht.symm.trans hu)
    exact hP

theorem mono {stop' : Nat} (hall : s.AllWords first stop P) (hle : stop' ≤ stop) :
    s.AllWords first stop' P :=
  fun i t hfirst hlt => hall i t hfirst (Nat.lt_of_lt_of_le hlt hle)

end AllWords

/-- The word of a place is the sign that stands there. -/
theorem SignAt.current {sign : String} (hsign : s.SignAt sign depth p)
    (hat : Window.At s.tokens p w) : w.current.depth = depth ∧ w.current.isSign sign = true := by
  obtain ⟨t, ht, hdepth, htext⟩ := hsign
  obtain rfl := Option.some.inj (hat.getElem?_words.symm.trans ht)
  exact ⟨hdepth, htext⟩

/-- **A consumed word leads from state to state.** -/
theorem LeadsTo.succ (hs : s.LeadsTo p state) (hat : Window.At s.tokens p w)
    (hconsumes : state.Consumes w next found) (hnext : next ≠ .idle) : s.LeadsTo (p + 1) next := by
  have hword := hat.getElem?_words
  cases hconsumes with
  | parameter hparameter =>
    cases hs with
    | afterHead head lt parameters =>
      exact .afterHead head (Nat.lt_succ_of_lt lt) (parameters.succ hword hparameter)
  | equals hdepth hequals =>
    cases hs with
    | afterHead head lt parameters =>
      exact .afterEquals ⟨head, lt, parameters, _, hword, hdepth, hequals⟩ rfl
  | brace hdepth hbrace =>
    cases hs with
    | afterEquals body place =>
      subst place
      exact .inBody body ⟨⟨_, hword, hdepth, hbrace⟩, Nat.lt_succ_self _, .of_le (Nat.le_refl _)⟩
  | bare => exact absurd rfl hnext
  | close => exact absurd rfl hnext
  | listed hdepth | other hdepth =>
    cases hs with
    | @inBody _ depth _ _ body braces =>
      have hdeep : depth < w.current.depth := by omega
      exact .inBody body ⟨braces.brace, Nat.lt_succ_of_lt braces.lt, braces.deeper.succ hword hdeep⟩

/-- A word that leads to a state is the head of a body, or it is consumed. -/
theorem LeadsTo.cases_succ (hs : s.LeadsTo (p + 1) state) (hat : Window.At s.tokens p w) :
    (∃ owner depth, s.HeadAt owner depth p ∧ state = .afterHead owner depth) ∨
      ∃ before found, s.LeadsTo p before ∧ before.Consumes w state found := by
  have hword := hat.getElem?_words
  cases hs with
  | @afterHead owner depth h head lt parameters =>
    rcases Nat.lt_or_eq_of_le (Nat.le_of_lt_succ lt) with hlt | rfl
    · have hlast := parameters p _ hlt (Nat.lt_succ_self p) hword
      exact .inr ⟨_, _, .afterHead head hlt (parameters.mono (Nat.le_succ p)), .parameter hlast⟩
    · exact .inl ⟨_, _, head, rfl⟩
  | @afterEquals owner depth h e body place =>
    obtain rfl := Nat.succ.inj place
    obtain ⟨hdepth, hequals⟩ := body.equals.current hat
    exact .inr ⟨_, _, .afterHead body.head body.lt body.parameters, .equals hdepth hequals⟩
  | @inBody owner depth h e body braces =>
    rcases Nat.lt_or_eq_of_le (Nat.le_of_lt_succ braces.lt) with hlt | rfl
    · have hdeep := braces.deeper p _ hlt (Nat.lt_succ_self p) hword
      have hbefore : s.InBraces depth e p :=
        ⟨braces.brace, hlt, braces.deeper.mono (Nat.le_succ p)⟩
      obtain ⟨next, found, hconsumes⟩ := BodyState.exists_consumes_inBody w owner (depth + 1)
      refine .inr ⟨_, found, .inBody body hbefore, ?_⟩
      cases hconsumes with
      | close hshallow => omega
      | listed hdepth hidentifier hnames => exact .listed hdepth hidentifier hnames
      | other hdepth hother => exact .other hdepth hother
    · obtain ⟨hdepth, hbrace⟩ := braces.brace.current hat
      exact .inr ⟨_, _, .afterEquals body rfl, .brace hdepth hbrace⟩

/-- A head that is found owns members. -/
theorem headAt_of_found? (hat : Window.At s.tokens p w) {d : Definition} (hd : s.found? p = some d)
    (hkind : d.kind = owner.headKind) : s.HeadAt owner w.current.depth p := by
  have hne : d.kind ≠ .operator := by
    rw [hkind]
    cases owner <;> decide
  have heq := (eq_of_found? hd hne hat.getElem?_words).2
  refine ⟨_, hat.getElem?_words, rfl, ?_⟩
  rw [← hkind, ← heq]
  exact mem_extract_iff.2 ⟨p, hd⟩

/-- A head is found by the rules, and a body may stand behind it. -/
theorem HeadAt.bodyBefore_succ (htiled : Token.Tiled 0 s.tokens) (hh : s.HeadAt owner depth h) :
    s.bodyBefore (h + 1) = .afterHead owner depth := by
  obtain ⟨t, ht, rfl, hmem⟩ := hh
  obtain ⟨w, hw, hat, rfl⟩ := exists_window ht
  have hfound := (found?_eq_some_iff htiled ht rfl).2 hmem
  rw [found?_eq hw] at hfound
  rw [TokenStream.bodyBefore_succ hw]
  rcases (s.bodyBefore h).read_cases w with ⟨next, found, hconsumes, heq⟩ | heq
  · -- what is found in a body is a member
    rw [heq] at hfound
    obtain rfl : found = some _ := hfound
    obtain ⟨-, other, hmember⟩ := hconsumes.eq_member
    have hkind : owner.headKind = (BodyState.member other w.current).kind :=
      congrArg Definition.kind hmember
    exact absurd (hkind ▸ BodyState.kind_member_mem other w.current) owner.headKind_notMem
  · rw [heq] at hfound ⊢
    rw [show w.head? = _ from hfound]
    simp [BodyState.afterDefinition, MemberOwner.ofKind?_eq_some_iff.2 rfl]

/-- A head leads on only if it owns members. -/
theorem exists_owner_of_head
    (hhead : (w.head?.map fun d => BodyState.idle.afterDefinition d w.current.depth).getD .idle = state)
    (hstate : state ≠ .idle) :
    ∃ d owner, w.head? = some d ∧ d.kind = owner.headKind ∧
      state = .afterHead owner w.current.depth := by
  cases hd : w.head? with
  | none => exact absurd (by rw [← hhead, hd]; rfl) hstate
  | some d =>
    rw [hd, Option.map_some, Option.getD_some, BodyState.afterDefinition] at hhead
    cases howner : MemberOwner.ofKind? d.kind with
    | none => exact absurd (by rw [← hhead, howner]) hstate
    | some owner =>
      rw [howner] at hhead
      exact ⟨d, owner, rfl, MemberOwner.ofKind?_eq_some_iff.1 howner, hhead.symm⟩

/-- **Reading comes to a state just if the words before lead there.** -/
theorem bodyBefore_eq_iff (htiled : Token.Tiled 0 s.tokens) (hp : p ≤ s.words.length)
    (hstate : state ≠ .idle) : s.bodyBefore p = state ↔ s.LeadsTo p state := by
  induction p generalizing state with
  | zero =>
    refine ⟨fun h => absurd h.symm hstate, fun h => ?_⟩
    cases h with
    | afterHead _ lt => omega
    | afterEquals _ place => omega
    | inBody _ braces => exact absurd braces.lt (Nat.not_lt_zero _)
  | succ p ih =>
    obtain ⟨w, hw, hat, -⟩ := exists_window (List.getElem?_eq_getElem hp)
    have hread := TokenStream.bodyBefore_succ hw
    have hbefore {before : BodyState} (hne : before ≠ .idle) := ih (Nat.le_of_succ_le hp) hne
    constructor
    · intro h
      rw [hread] at h
      rcases (s.bodyBefore p).read_cases w with ⟨next, found, hconsumes, heq⟩ | heq
      · obtain rfl : next = state := by rwa [heq] at h
        exact ((hbefore hconsumes.ne_idle).1 rfl).succ hat hconsumes hstate
      · -- a word that is not consumed leads on only as a head
        rw [heq] at h
        obtain ⟨d, owner, hhead, hkind, rfl⟩ := exists_owner_of_head h hstate
        have hfound : s.found? p = some d := by rw [found?_eq hw, heq, hhead]
        exact .afterHead (headAt_of_found? hat hfound hkind) (Nat.lt_succ_self p)
          (.of_le (Nat.le_refl _))
    · intro hleads
      rcases hleads.cases_succ hat with ⟨owner, depth, hhead, rfl⟩ |
        ⟨before, found, hleads, hconsumes⟩
      · exact hhead.bodyBefore_succ htiled
      · rw [hread, (hbefore hconsumes.ne_idle).2 hleads, hconsumes.read_eq]

/-! ### Reading a place inside of a body or outside of every body -/

/-- **A word is consumed if what stands before it leads to a state that consumes it.** -/
theorem consumed_iff (hat : Window.At s.tokens p w) : s.Consumed p ↔
    ∃ state next found, s.LeadsTo p state ∧ state.Consumes w next found := by
  have hword := hat.getElem?_words
  constructor
  · intro h
    cases h with
    | parameter head lt parameters =>
      have hlast := parameters p _ lt (Nat.lt_succ_self p) hword
      exact ⟨_, _, _, .afterHead head lt (parameters.mono (Nat.le_succ p)), .parameter hlast⟩
    | equals body =>
      obtain ⟨hdepth, hequals⟩ := body.equals.current hat
      exact ⟨_, _, _, .afterHead body.head body.lt body.parameters, .equals hdepth hequals⟩
    | bare body place identifier =>
      obtain ⟨t, ht, hidentifier⟩ := identifier
      obtain rfl := Option.some.inj (hword.symm.trans ht)
      exact ⟨_, _, _, .afterEquals body place, .bare hidentifier⟩
    | brace body place brace =>
      obtain ⟨hdepth, hbrace⟩ := brace.current hat
      exact ⟨_, _, _, .afterEquals body place, .brace hdepth hbrace⟩
    | inside body braces =>
      obtain ⟨next, found, hconsumes⟩ := BodyState.exists_consumes_inBody w _ _
      exact ⟨_, next, found, .inBody body braces, hconsumes⟩
  · rintro ⟨state, next, found, hs, hconsumes⟩
    cases hs with
    | afterHead head lt parameters =>
      cases hconsumes with
      | parameter hparameter => exact .parameter head lt (parameters.succ hword hparameter)
      | equals hdepth hequals =>
        exact .equals ⟨head, lt, parameters, _, hword, hdepth, hequals⟩
    | afterEquals body place =>
      cases hconsumes with
      | brace hdepth hbrace => exact .brace body place ⟨_, hword, hdepth, hbrace⟩
      | bare hidentifier => exact .bare body place ⟨_, hword, hidentifier⟩
    | inBody body braces => exact .inside body braces

/-- What a consumed word is read as. -/
theorem found?_of_leadsTo (htiled : Token.Tiled 0 s.tokens)
    (hw : (Window.ofTokens s.tokens)[p]? = some w) (hs : s.LeadsTo p state)
    (hconsumes : state.Consumes w next found) : s.found? p = found := by
  have hp := Nat.le_of_lt (Window.at_of_getElem? hw).lt_length
  have hstate := (bodyBefore_eq_iff htiled hp hconsumes.ne_idle).2 hs
  rw [found?_eq hw, hstate, hconsumes.read_eq]

/-- What is not consumed is read as a head. -/
theorem found?_of_not_consumed (htiled : Token.Tiled 0 s.tokens)
    (hw : (Window.ofTokens s.tokens)[p]? = some w) (hnot : ¬s.Consumed p) :
    s.found? p = w.head? := by
  have hat := Window.at_of_getElem? hw
  rw [found?_eq hw]
  rcases (s.bodyBefore p).read_cases w with ⟨next, found, hconsumes, -⟩ | heq
  · have hs := (bodyBefore_eq_iff htiled (Nat.le_of_lt hat.lt_length) hconsumes.ne_idle).1 rfl
    exact absurd ((consumed_iff hat).2 ⟨_, _, _, hs, hconsumes⟩) hnot
  · rw [heq]

end TokenStream

end SailNav
