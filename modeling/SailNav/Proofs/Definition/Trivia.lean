import Mathlib.Data.List.Forall2
import SailNav.Proofs.Definition.Name

/-!
# Comments and filler do not matter

Two streams whose words agree in kind, text and depth have the same definitions, operators left out:
of the same kinds, with the same names, at the same places (`SailNav.extract_alike`). What stands
between the words, and where in the text they stand, has no influence.

This is a statement about two runs, and the two may part. The name of an operator is glued together
from all tokens behind its keyword, so trivia can make the difference between an operator that is
found and nothing that is found. It makes no other difference. Behind the keyword of an operator no
row of the rules applies, whether or not a name follows, and an operator owns no members, so the
reading of bodies is where it would be without it (`SailNav.BodyState.read_alike`). From there on
the two runs are in the same state at every place (`SailNav.TokenStream.Alike.bodyBefore_eq`).
-/

namespace SailNav

/-- **Tokens agree** in what they are and how deep they are, wherever they stand. -/
structure Token.Alike (t u : Token) : Prop where
  kind : t.kind = u.kind
  text : t.text = u.text
  depth : t.depth = u.depth

/-- **The words of two streams agree** one by one. -/
def TokenStream.Alike (s r : TokenStream) : Prop := List.Forall₂ Token.Alike s.words r.words

namespace Token.Alike

variable {t u : Token}

theorem symm (h : t.Alike u) : u.Alike t := ⟨h.kind.symm, h.text.symm, h.depth.symm⟩

theorem isSign_eq (h : t.Alike u) : t.isSign = u.isSign := by
  funext sign
  rw [isSign, isSign, h.kind, h.text]

theorem isSignOf_eq (h : t.Alike u) : t.isSignOf = u.isSignOf := by
  funext signs
  rw [isSignOf, isSignOf, h.isSign_eq]

theorem isParameter_iff (h : t.Alike u) {depth : Nat} :
    t.IsParameter depth ↔ u.IsParameter depth := by
  rw [IsParameter, IsParameter, h.depth, h.isSign_eq]

end Token.Alike

/-- The tokens of two places agree, or there are none. -/
abbrev Token.AlikeIfAny : Option Token → Option Token → Prop := Option.Rel Token.Alike

theorem Token.AlikeIfAny.symm {t u : Option Token} (h : AlikeIfAny t u) : AlikeIfAny u t := by
  cases h with
  | none => exact .none
  | some h => exact .some h.symm

/-- What can be said of tokens that agree holds of both or of none. -/
theorem Token.AlikeIfAny.any_eq {t u : Option Token} (h : AlikeIfAny t u) {p : Token → Bool}
    (hp : ∀ {t u : Token}, t.Alike u → p t = p u) : t.any p = u.any p := by
  cases h with
  | none => rfl
  | some h => exact hp h

/-! ### Windows -/

/-- **Two windows show the same words.** -/
structure Window.Alike (w v : Window) : Prop where
  current : w.current.Alike v.current
  previous : Token.AlikeIfAny w.previous? v.previous?
  secondLast : Token.AlikeIfAny w.secondLast v.secondLast
  next : Token.AlikeIfAny w.next? v.next?

namespace Window.Alike

variable {w v : Window} {last last' : Token}

theorem symm (h : w.Alike v) : v.Alike w :=
  ⟨h.current.symm, h.previous.symm, h.secondLast.symm, h.next.symm⟩

/-- Both windows have a last word, or none has one. -/
theorem last_cases (h : w.Alike v) : w.last = none ∧ v.last = none ∨
    ∃ last behind last' behind', w.last = some (last, behind) ∧ v.last = some (last', behind') ∧
      last.Alike last' := by
  have hprevious := h.previous
  rw [previous?, previous?] at hprevious
  generalize w.last = last, v.last = last' at hprevious ⊢
  rcases last with _ | ⟨last, behind⟩ <;> rcases last' with _ | ⟨last', behind'⟩
  · exact .inl ⟨rfl, rfl⟩
  · cases hprevious
  · cases hprevious
  · cases hprevious with
    | some hlast => exact .inr ⟨_, _, _, _, rfl, rfl, hlast⟩

theorem names_eq (h : w.Alike v) (owner : MemberOwner) : owner.names w = owner.names v := by
  cases owner with
  | enum => exact h.previous.any_eq fun hag => by rw [hag.isSign_eq]
  | union => exact h.next.any_eq fun hag => by rw [hag.isSign_eq]

theorem afterOperatorKeyword_eq (h : w.Alike v) (hlast : last.Alike last') :
    w.afterOperatorKeyword last = v.afterOperatorKeyword last' := by
  have hbefore : w.secondLast.any (·.isSignOf fixityKeywords) =
      v.secondLast.any (·.isSignOf fixityKeywords) :=
    h.secondLast.any_eq fun hag => by rw [hag.isSignOf_eq]
  rw [afterOperatorKeyword, afterOperatorKeyword, hlast.isSign_eq, hlast.isSignOf_eq, hlast.kind,
    h.current.kind, hbefore]

theorem bindsAtTop_eq (h : w.Alike v) (hlast : last.Alike last') :
    w.bindsAtTop last = v.bindsAtTop last' := by
  have hbefore : w.secondLast.any (·.isSignOf expressionContinuations) =
      v.secondLast.any (·.isSignOf expressionContinuations) :=
    h.secondLast.any_eq fun hag => by rw [hag.isSignOf_eq]
  rw [bindsAtTop, bindsAtTop, hlast.depth, hbefore]

/-- **The rules look at the words only.** -/
theorem ruleKind?_eq (h : w.Alike v) (hlast : last.Alike last') :
    w.ruleKind? last = v.ruleKind? last' := by
  have hsecond := h.secondLast
  rw [ruleKind?, ruleKind?, hlast.isSign_eq, h.bindsAtTop_eq hlast]
  generalize w.secondLast = before, v.secondLast = before' at hsecond ⊢
  cases hsecond with
  | none => rfl
  | some hbefore => rw [Option.bind_some, Option.bind_some, hbefore.isSign_eq]

end Window.Alike

/-! ### One word -/

/-- The kind of a definition, unless it is that of operators. -/
def Definition.plainKind? (d : Definition) : Option DefinitionKind :=
  if d.kind = .operator then none else some d.kind

/-- What is glued together is an operator. -/
theorem bind_plainKind?_operatorAfter? (tokens : List Token) :
    (operatorAfter? tokens).bind Definition.plainKind? = none := by
  cases h : operatorAfter? tokens with
  | none => rfl
  | some d =>
    obtain ⟨_, _, _, _, -, -, -, -, rfl⟩ := exists_run_of_operatorAfter? h
    rfl

/-- **Windows that show the same words are heads of the same kind**, if operators are left out. -/
theorem Window.Alike.plainKind?_head? {w v : Window} (h : w.Alike v) :
    w.head?.bind Definition.plainKind? = v.head?.bind Definition.plainKind? := by
  rw [head?, head?]
  rcases h.last_cases with ⟨hw, hv⟩ | ⟨last, behind, last', behind', hw, hv, hlast⟩
  · rw [hw, hv]
  · rw [hw, hv]
    dsimp only
    rw [h.afterOperatorKeyword_eq hlast, h.current.kind, h.ruleKind?_eq hlast]
    split
    · rw [bind_plainKind?_operatorAfter?, bind_plainKind?_operatorAfter?]
    · split
      · cases v.ruleKind? last' <;> rfl
      · rfl

namespace BodyState

variable {w v : Window} {state next : BodyState} {found : Option Definition}

/-- Which words a body consumes, and which members they are, depends on the words only. -/
theorem Consumes.alike (h : Consumes w state next found) (hw : w.Alike v) :
    ∃ found', Consumes v state next found' ∧
      found.bind Definition.plainKind? = found'.bind Definition.plainKind? := by
  have hdepth := hw.current.depth
  have hkind := hw.current.kind
  have hsign := hw.current.isSign_eq
  cases h with
  | parameter hparameter => exact ⟨_, .parameter (hw.current.isParameter_iff.1 hparameter), rfl⟩
  | equals hd hequals => exact ⟨_, .equals (hdepth ▸ hd) (hsign ▸ hequals), rfl⟩
  | brace hd hbrace => exact ⟨_, .brace (hdepth ▸ hd) (hsign ▸ hbrace), rfl⟩
  | bare hidentifier => exact ⟨_, .bare (hkind ▸ hidentifier), rfl⟩
  | close hd => exact ⟨_, .close (hdepth ▸ hd), rfl⟩
  | listed hd hidentifier hnames =>
    exact ⟨_, .listed (hdepth ▸ hd) (hkind ▸ hidentifier) (hw.names_eq _ ▸ hnames), rfl⟩
  | other hd hother =>
    rw [hdepth, hkind, hw.names_eq] at hother
    exact ⟨_, .other (hdepth ▸ hd) hother, rfl⟩

/-- The state behind a head depends on its kind only, and an operator changes nothing. -/
theorem getD_afterDefinition (found : Option Definition) (depth : Nat) :
    (found.map fun d => idle.afterDefinition d depth).getD idle =
      ((found.bind Definition.plainKind?).bind MemberOwner.ofKind?).elim idle
        (afterHead · depth) := by
  rcases found with _ | ⟨kind, name, span⟩
  · rfl
  · cases kind <;> rfl

/-- **Reading a word comes to the same state**, and finds a definition of the same kind, if
operators are left out. -/
theorem read_alike (state : BodyState) (h : w.Alike v) :
    (state.read w).1 = (state.read v).1 ∧
      (state.read w).2.bind Definition.plainKind? =
        (state.read v).2.bind Definition.plainKind? := by
  rcases state.step_cases w with ⟨next, found, hconsumes⟩ | hw
  · obtain ⟨found', hconsumes', hfound⟩ := hconsumes.alike h
    rw [hconsumes.read_eq, hconsumes'.read_eq]
    exact ⟨rfl, hfound⟩
  · rcases state.step_cases v with ⟨next, found, hconsumes⟩ | hv
    · -- what is consumed in one run is consumed in the other
      obtain ⟨found', hconsumes', -⟩ := hconsumes.alike h.symm
      rw [hconsumes'.step_eq] at hw
      cases hw
    · rw [read, read, hw, hv]
      dsimp only
      rw [if_neg Bool.false_ne_true, if_neg Bool.false_ne_true, getD_afterDefinition,
        getD_afterDefinition, h.plainKind?_head?, h.current.depth]
      exact ⟨rfl, rfl⟩

end BodyState

/-! ### Two runs -/

namespace TokenStream

variable {s r : TokenStream} {p : Nat} {w v : Window}

theorem Alike.getElem?_words (h : s.Alike r) (p : Nat) :
    Token.AlikeIfAny s.words[p]? r.words[p]? := by
  obtain ⟨hlength, hget⟩ := List.forall₂_iff_get.1 h
  rcases Nat.lt_or_ge p s.words.length with hlt | hge
  · rw [List.getElem?_eq_getElem hlt, List.getElem?_eq_getElem (hlength ▸ hlt)]
    exact .some (hget p hlt (hlength ▸ hlt))
  · rw [List.getElem?_eq_none hge, List.getElem?_eq_none (hlength ▸ hge)]
    exact .none

theorem Alike.wordBefore (h : s.Alike r) (p : Nat) :
    Token.AlikeIfAny (s.wordBefore p) (r.wordBefore p) := by
  cases p with
  | zero => exact .none
  | succ p => exact h.getElem?_words p

/-- The windows of a place show the same words. -/
theorem Alike.window (h : s.Alike r) (hw : Window.At s.tokens p w) (hv : Window.At r.tokens p v) :
    w.Alike v where
  current := by
    have hword := h.getElem?_words p
    rw [hw.getElem?_words, hv.getElem?_words] at hword
    cases hword
    assumption
  previous := by
    rw [hw.previous?_eq, hv.previous?_eq]
    exact h.wordBefore p
  secondLast := by
    rw [hw.secondLast_eq, hv.secondLast_eq]
    exact h.wordBefore (p - 1)
  next := by
    rw [hw.next?_eq, hv.next?_eq]
    exact h.getElem?_words (p + 1)

/-- Each place of one stream has a window in both. -/
theorem Alike.exists_windows (h : s.Alike r) (hp : p < s.words.length) :
    ∃ w v, (Window.ofTokens s.tokens)[p]? = some w ∧ (Window.ofTokens r.tokens)[p]? = some v ∧
      w.Alike v := by
  obtain ⟨w, hw, hwat, -⟩ := exists_window (List.getElem?_eq_getElem hp)
  obtain ⟨v, hv, hvat, -⟩ := exists_window (List.getElem?_eq_getElem (h.length_eq ▸ hp))
  exact ⟨w, v, hw, hv, h.window hwat hvat⟩

/-- **The two runs are in the same state at every place.** -/
theorem Alike.bodyBefore_eq (h : s.Alike r) (hp : p ≤ s.words.length) :
    s.bodyBefore p = r.bodyBefore p := by
  induction p with
  | zero => rfl
  | succ p ih =>
    obtain ⟨w, v, hw, hv, halike⟩ := h.exists_windows hp
    rw [bodyBefore_succ hw, bodyBefore_succ hv, ih (Nat.le_of_succ_le hp)]
    exact (BodyState.read_alike _ halike).1

/-- **The same kind is found at every place**, if operators are left out. -/
theorem Alike.plainKind?_found? (h : s.Alike r) (hp : p < s.words.length) :
    (s.found? p).bind Definition.plainKind? = (r.found? p).bind Definition.plainKind? := by
  obtain ⟨w, v, hw, hv, halike⟩ := h.exists_windows hp
  rw [found?_eq hw, found?_eq hv, h.bodyBefore_eq (Nat.le_of_lt hp)]
  exact (BodyState.read_alike _ halike).2

/-! ### The definitions of a stream without their spans -/

/-- The definitions of a stream, operators left out. -/
def plainDefinitions (s : TokenStream) : List Definition :=
  (extract s).filter (·.kind != .operator)

end TokenStream

/-- A definition by the place of the word that it is named by, its kind and its name. -/
structure PlacedName where
  place : Nat
  kind : DefinitionKind
  name : String

/-- **A definition of a stream is named at a place** by the word that stands there. -/
structure PlacedName.Is (s : TokenStream) (n : PlacedName) (d : Definition) : Prop where
  kind : d.kind = n.kind
  name : d.name = n.name
  word : ∃ t, s.words[n.place]? = some t ∧ t.text = n.name ∧ t.span = d.span

namespace TokenStream

variable {s r : TokenStream} {p : Nat}

/-- What is found at a place, if it is no operator. -/
def placedName? (s : TokenStream) (p : Nat) : Option PlacedName :=
  ((s.found? p).bind Definition.plainKind?).bind fun kind =>
    s.words[p]?.map fun t => ⟨p, kind, t.text⟩

theorem place_of_placedName? {n : PlacedName} (h : s.placedName? p = some n) : n.place = p := by
  obtain ⟨kind, -, hword⟩ := Option.bind_eq_some_iff.1 h
  obtain ⟨t, -, rfl⟩ := Option.map_eq_some_iff.1 hword
  rfl

theorem rel_placedName? (s : TokenStream) (p : Nat) :
    Option.Rel (PlacedName.Is s) (s.placedName? p)
      ((s.found? p).filter (·.kind != .operator)) := by
  rw [placedName?]
  cases hfound : s.found? p with
  | none => exact .none
  | some d =>
    rw [Option.bind_some, Definition.plainKind?]
    by_cases hkind : d.kind = .operator
    · rw [if_pos hkind, Option.filter_some, if_neg (by simp [hkind])]
      exact .none
    · obtain ⟨w, -, hat, -⟩ := exists_window_of_found? hfound
      have hword := hat.getElem?_words
      obtain ⟨-, hd⟩ := eq_of_found? hfound hkind hword
      rw [if_neg hkind, Option.filter_some, if_pos (by simp [hkind]), hword]
      have hspan := (congrArg Definition.span hd).symm
      exact .some ⟨rfl, congrArg Definition.name hd, _, hword, rfl, hspan⟩

/-- The definitions of a stream are named at places, one behind the other. -/
theorem forall₂_placedName? (s : TokenStream) :
    List.Forall₂ (PlacedName.Is s) ((List.range s.words.length).filterMap s.placedName?)
      s.plainDefinitions := by
  have hplain : s.plainDefinitions = (List.range s.words.length).filterMap fun p =>
      (s.found? p).filter (·.kind != .operator) := by
    rw [plainDefinitions, extract_eq_filterMap, List.filter_filterMap]
  have hplaces : List.Forall₂ Eq (List.range s.words.length) (List.range s.words.length) :=
    List.forall₂_same.2 fun _ _ => rfl
  rw [hplain]
  refine List.rel_filterMap ?_ hplaces
  rintro p _ rfl
  exact s.rel_placedName? p

/-- Streams whose words agree have the same names at every place. -/
theorem Alike.placedName?_eq (h : s.Alike r) (hp : p < s.words.length) :
    s.placedName? p = r.placedName? p := by
  rw [placedName?, placedName?, h.plainKind?_found? hp]
  have hword := h.getElem?_words p
  generalize s.words[p]? = t, r.words[p]? = u at hword ⊢
  cases hword with
  | none => rfl
  | some hword => simp only [Option.map_some, hword.text]

end TokenStream

/-- **Trivia has no influence on definitions.** If the words of two streams agree in kind, text and
depth, then the definitions of one are those of the other, operators left out: as many, of the same
kinds, with the same names, and each named by the words of the same place. -/
theorem extract_alike {s r : TokenStream} (h : s.Alike r) :
    ∃ names : List PlacedName, names.Pairwise (fun m n => m.place < n.place) ∧
      List.Forall₂ (PlacedName.Is s) names s.plainDefinitions ∧
      List.Forall₂ (PlacedName.Is r) names r.plainDefinitions := by
  have heq : (List.range s.words.length).filterMap s.placedName? =
      (List.range r.words.length).filterMap r.placedName? := by
    rw [← h.length_eq]
    exact List.filterMap_congr fun p hp => h.placedName?_eq (List.mem_range.1 hp)
  refine ⟨(List.range s.words.length).filterMap s.placedName?, ?_, s.forall₂_placedName?,
    heq ▸ r.forall₂_placedName?⟩
  refine List.pairwise_filterMap.2 (List.pairwise_lt_range.imp fun hpq m hm n hn => ?_)
  rw [TokenStream.place_of_placedName? hm, TokenStream.place_of_placedName? hn]
  exact hpq

/-- The comment in front of `x` keeps it from naming an operator. The value behind is defined all
the same. -/
theorem extract_alike_operator :
    let s := tokenize "operator x val y"
    let r := tokenize "operator/**/x val y"
    s.Alike r ∧ (extract s).map (·.kind) = [.operator, .value] ∧
      (extract r).map (·.kind) = [.value] ∧
      ∃ names : List PlacedName, names.Pairwise (fun m n => m.place < n.place) ∧
        List.Forall₂ (PlacedName.Is s) names s.plainDefinitions ∧
        List.Forall₂ (PlacedName.Is r) names r.plainDefinitions := by
  intro s r
  have hwords : s.words.map (fun t => (t.kind, t.text, t.depth)) =
      r.words.map fun t => (t.kind, t.text, t.depth) := by
    decide +kernel
  have halike : s.Alike r := by
    rw [← List.forall₂_eq_eq_eq, List.forall₂_map_left_iff, List.forall₂_map_right_iff] at hwords
    refine hwords.imp fun t u htu => ?_
    simp only [Prod.mk.injEq] at htu
    exact ⟨htu.1, htu.2.1, htu.2.2⟩
  exact ⟨halike, by decide +kernel, by decide +kernel, extract_alike halike⟩

end SailNav
