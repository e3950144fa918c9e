import Mathlib.Data.List.Perm.Subperm
import SailNav.Proofs.Token.Munch

/-!
# Matchings of brackets

The brackets of a text are tokens at places, and which of them belong together is a set of pairs of
places. What makes such a set a matching is said here (`SailNav.Matching`), and so is what it tells
of a place: the brackets that are open around it, innermost first (`SailNav.openAround`), and what
is wrong with the bracket that stands there, if it is in no pair (`SailNav.faultAt?`). Nothing of
this speaks of how the text is read.

Two facts about matchings are what the rest lives on. A place that no pair closes at has one open
bracket more around it than the place before if a bracket opens there, and the same ones otherwise
(`SailNav.openAround_succ`). And closing a bracket leaves the brackets open that stand in front of
its partner (`SailNav.openAround_close`), which is where the brackets in between are given up.

Last, a sequence of brackets is `SailNav.Balanced` if it can be built by putting brackets of one
shape around such a sequence. `SailNav.Pending` is the form that such a sequence has while some of
its brackets are still open.
-/

namespace SailNav

/-! ### The brackets among the tokens -/

/-- A bracket by its side and its shape. -/
inductive BracketSign where
  | opening (shape : Bracket)
  | closing (shape : Bracket)
  deriving DecidableEq, Repr

namespace BracketSign

/-- How a bracket is written. -/
def text : BracketSign → String
  | opening .paren => "("
  | opening .brace => "\x7b"
  | closing .paren => ")"
  | closing .brace => "\x7d"

/-- The brackets there are. -/
def all : List BracketSign := [opening .paren, opening .brace, closing .paren, closing .brace]

/-- The class of the words that are the bracket. -/
def lexClass : BracketSign → LexClass
  | opening shape => .opening shape
  | closing shape => .closing shape

/-- What is wrong with a bracket that has no partner. -/
def fault : BracketSign → Anomaly.Kind
  | opening _ => .unclosedBracket
  | closing _ => .unmatchedClose

theorem mem_all (s : BracketSign) : s ∈ all := by
  rcases s with (_ | _) | (_ | _) <;> decide

theorem text_injective {s t : BracketSign} (h : s.text = t.text) : s = t := by
  revert h
  rcases s with (_ | _) | (_ | _) <;> rcases t with (_ | _) | (_ | _) <;> decide

end BracketSign

/-- The bracket that a token is. -/
def Token.bracket? (t : Token) : Option BracketSign :=
  if t.kind = .operator then BracketSign.all.find? fun s => s.text = t.text else none

theorem Token.bracket?_eq_some_iff {t : Token} {s : BracketSign} :
    t.bracket? = some s ↔ t.kind = .operator ∧ t.text = s.text := by
  rw [bracket?]
  split
  · next hkind =>
    have hfound {s' : BracketSign}
        (h : (BracketSign.all.find? fun s => s.text = t.text) = some s') : s'.text = t.text := by
      simpa using List.find?_some h
    refine ⟨fun h => ⟨hkind, (hfound h).symm⟩, fun h => ?_⟩
    rcases hfind : BracketSign.all.find? fun s => s.text = t.text with _ | s'
    · have hnone := List.find?_eq_none.1 hfind s (BracketSign.mem_all s)
      exact absurd (decide_eq_true h.2.symm) hnone
    · rw [hfind, BracketSign.text_injective ((hfound hfind).trans h.2)]
  · next hkind => exact ⟨nofun, fun h => absurd h.1 hkind⟩

/-- The bracket that a lexeme is. -/
def Lexeme.bracket? (l : Lexeme) : Option BracketSign :=
  match l.shape with
  | .word (.opening shape) => some (.opening shape)
  | .word (.closing shape) => some (.closing shape)
  | _ => none

/-- The words of the class of a bracket are the bracket. -/
theorem classOf?_eq_lexClass_iff {word : List Char} (s : BracketSign) :
    classOf? word = some s.lexClass ↔ String.ofList word = s.text := by
  have hchar (kind : LexClass) (c : Char) (he : (kind, Pattern.char c) ∈ lexicon)
      (hkind : kind ≠ .identifier) :
      classOf? word = some kind ↔ String.ofList word = String.ofList [c] := by
    rw [classOf?_eq_some_iff he hkind, Pattern.matches_char_iff]
    exact ⟨fun h => h ▸ rfl, fun h => by simpa using congrArg String.toList h⟩
  rcases s with (_ | _) | (_ | _) <;> exact hchar _ _ (by decide) (by decide)

/-- **A word is an operator with the text of a bracket just if it is in the class of the
bracket.** -/
theorem Lexeme.bracket?_token {word : List Char} {kind : LexClass} (h : classOf? word = some kind)
    (span : Span) (depth : Nat) :
    ((⟨.word kind, word⟩ : Lexeme).token span depth).bracket? =
      (⟨.word kind, word⟩ : Lexeme).bracket? := by
  have hiff (s : BracketSign) :
      ((⟨.word kind, word⟩ : Lexeme).token span depth).bracket? = some s ↔ kind = s.lexClass := by
    rw [Token.bracket?_eq_some_iff]
    change kind.tokenKind = .operator ∧ String.ofList word = s.text ↔ _
    rw [← classOf?_eq_lexClass_iff, h, Option.some_inj]
    refine ⟨fun hs => hs.2, fun hs => ⟨?_, hs⟩⟩
    rw [hs]
    rcases s with (_ | _) | (_ | _) <;> rfl
  refine Option.ext fun s => (hiff s).trans ?_
  cases kind with
  | opening shape | closing shape => cases s <;> simp [bracket?, BracketSign.lexClass]
  | _ => cases s <;> simp [bracket?, BracketSign.lexClass]

/-- The lexemes of a text are the same brackets as the tokens that they become. -/
theorem bracket?_token_of_mem {text : List Char} {l : Lexeme} (hl : l ∈ lexemes text)
    (span : Span) (depth : Nat) : (l.token span depth).bracket? = l.bracket? := by
  obtain ⟨before, after, happ⟩ := List.append_of_mem hl
  obtain ⟨s, hs, rfl⟩ := exists_lexStep?_of_append happ
  rcases lexStep?_cases hs with ⟨p, -, -, rfl⟩ | ⟨-, ⟨w, hw, rfl⟩ | ⟨c, rest, -, -, rfl⟩⟩
  · rcases p with ⟨_ | _ | _, _, _⟩ <;> rfl
  · exact Lexeme.bracket?_token hw.class_eq span depth
  · rfl

/-! ### Places -/

/-- The bracket at a place among tokens. -/
def bracketAt? (tokens : List Token) (i : Nat) : Option BracketSign :=
  tokens[i]?.bind Token.bracket?

/-- A bracket opens at a place. -/
def OpensAt (tokens : List Token) (i : Nat) : Prop :=
  ∃ shape, bracketAt? tokens i = some (.opening shape)

instance (tokens : List Token) (i : Nat) : Decidable (OpensAt tokens i) :=
  match h : bracketAt? tokens i with
  | some (.opening shape) => .isTrue ⟨shape, h⟩
  | some (.closing _) => .isFalse fun ⟨_, hs⟩ => by cases h.symm.trans hs
  | none => .isFalse fun ⟨_, hs⟩ => by cases h.symm.trans hs

variable {tokens : List Token} {pairs : List (Nat × Nat)} {t : Token} {i j o p c : Nat}

theorem OpensAt.lt_length (h : OpensAt tokens i) : i < tokens.length := by
  obtain ⟨shape, hs⟩ := h
  obtain ⟨t, ht, -⟩ := Option.bind_eq_some_iff.1 hs
  exact (List.getElem?_eq_some_iff.1 ht).1

theorem bracketAt?_append (h : i < tokens.length) :
    bracketAt? (tokens ++ [t]) i = bracketAt? tokens i := by
  rw [bracketAt?, List.getElem?_append_left h, bracketAt?]

theorem opensAt_append (h : i < tokens.length) : OpensAt (tokens ++ [t]) i ↔ OpensAt tokens i := by
  rw [OpensAt, bracketAt?_append h, OpensAt]

/-- The bracket at the last place. -/
theorem bracketAt?_length : bracketAt? (tokens ++ [t]) tokens.length = t.bracket? := by
  rw [bracketAt?, List.getElem?_concat_length, Option.bind_some]

/-- A token behind which one more is read is one of the tokens so far, or it is the last one. -/
theorem getElem?_concat_cases {u : Token} (h : (tokens ++ [t])[i]? = some u) :
    tokens[i]? = some u ∨ i = tokens.length ∧ u = t := by
  rcases Nat.lt_or_ge i tokens.length with hlt | hge
  · rw [List.getElem?_append_left hlt] at h
    exact .inl h
  · rw [List.getElem?_append_right hge] at h
    obtain ⟨hlt, hu⟩ := List.getElem?_eq_some_iff.1 h
    have hi : i - tokens.length = 0 := Nat.lt_one_iff.1 hlt
    refine .inr ⟨by omega, ?_⟩
    simpa [hi] using hu.symm

/-! ### Matchings -/

/-- **A matching of brackets**, given by the places of the brackets of each pair. -/
structure Matching (tokens : List Token) (pairs : List (Nat × Nat)) : Prop where
  /-- The closing bracket comes later. -/
  lt : ∀ e ∈ pairs, e.1 < e.2
  /-- A pair is an opening and a closing bracket of the same shape. -/
  shape : ∀ e ∈ pairs, ∃ shape, bracketAt? tokens e.1 = some (.opening shape) ∧
    bracketAt? tokens e.2 = some (.closing shape)
  /-- An opening bracket is in one pair at most. -/
  opening_unique : ∀ e ∈ pairs, ∀ f ∈ pairs, e.1 = f.1 → e = f
  /-- A closing bracket is in one pair at most. -/
  closing_unique : ∀ e ∈ pairs, ∀ f ∈ pairs, e.2 = f.2 → e = f
  /-- Pairs do not cross. -/
  uncrossed : ∀ e ∈ pairs, ∀ f ∈ pairs, e.1 < f.1 → f.1 < e.2 → f.2 < e.2

/-- A pair stands around a place and is closed when another place is reached. -/
def ClosedOff (pairs : List (Nat × Nat)) (o i : Nat) : Prop :=
  ∃ e ∈ pairs, e.1 ≤ o ∧ o < e.2 ∧ e.2 ≤ i

instance (pairs : List (Nat × Nat)) (o i : Nat) : Decidable (ClosedOff pairs o i) :=
  inferInstanceAs (Decidable (∃ e ∈ pairs, _))

/-- **The places of the brackets that are open around a place**, innermost first: those of the
opening brackets before it that no pair closes off up to it. -/
def openAround (tokens : List Token) (pairs : List (Nat × Nat)) (i : Nat) : List Nat :=
  (List.range i).reverse.filter fun o => OpensAt tokens o ∧ ¬ ClosedOff pairs o i

/-- The bracket at a place belongs to a pair. -/
def Paired (pairs : List (Nat × Nat)) (i : Nat) : Prop := ∃ e ∈ pairs, i = e.1 ∨ i = e.2

instance (pairs : List (Nat × Nat)) (i : Nat) : Decidable (Paired pairs i) :=
  inferInstanceAs (Decidable (∃ e ∈ pairs, _))

/-- What is wrong with the bracket at a place: that it is in no pair. -/
def faultAt? (tokens : List Token) (pairs : List (Nat × Nat)) (i : Nat) : Option Anomaly.Kind :=
  if Paired pairs i then none else (bracketAt? tokens i).map BracketSign.fault

theorem mem_openAround :
    o ∈ openAround tokens pairs i ↔ o < i ∧ OpensAt tokens o ∧ ¬ ClosedOff pairs o i := by
  rw [openAround, List.mem_filter, List.mem_reverse, List.mem_range, decide_eq_true_iff]

theorem pairwise_openAround (tokens : List Token) (pairs : List (Nat × Nat)) (i : Nat) :
    (openAround tokens pairs i).Pairwise (· > ·) :=
  (List.pairwise_reverse.2 List.pairwise_lt_range).filter _

theorem nodup_openAround (tokens : List Token) (pairs : List (Nat × Nat)) (i : Nat) :
    (openAround tokens pairs i).Nodup :=
  (pairwise_openAround tokens pairs i).imp fun h => Nat.ne_of_gt h

/-- Around a place that no pair closes at, the bracket that the place before opens is open as
well. -/
theorem openAround_succ (h : ∀ e ∈ pairs, e.2 ≠ i + 1) :
    openAround tokens pairs (i + 1) =
      (if OpensAt tokens i then [i] else []) ++ openAround tokens pairs i := by
  have hclosed (o : Nat) : ClosedOff pairs o (i + 1) ↔ ClosedOff pairs o i := by
    constructor
    · rintro ⟨e, he, hle, hlt, hi⟩
      have hne := h e he
      exact ⟨e, he, hle, hlt, by omega⟩
    · rintro ⟨e, he, hle, hlt, hi⟩
      exact ⟨e, he, hle, hlt, by omega⟩
  have hlast : ¬ ClosedOff pairs i i := by
    rintro ⟨e, -, -, hlt, hle⟩
    omega
  simp only [openAround, hclosed]
  rw [List.range_succ, List.reverse_append, List.reverse_singleton, List.singleton_append,
    List.filter_cons]
  by_cases hopens : OpensAt tokens i <;> simp [hopens, hlast]

/-- The tokens from a place on do not matter to what is open around it. -/
theorem openAround_append (h : i ≤ tokens.length) :
    openAround (tokens ++ [t]) pairs i = openAround tokens pairs i := by
  refine List.filter_congr fun o ho => ?_
  have hlt := List.mem_range.1 (List.mem_reverse.1 ho)
  exact decide_eq_decide.2 (and_congr_left' (opensAt_append (Nat.lt_of_lt_of_le hlt h)))

/-- Nor do the pairs that are closed behind it. -/
theorem openAround_cons (h : i < c) :
    openAround tokens ((p, c) :: pairs) i = openAround tokens pairs i := by
  refine List.filter_congr fun o _ => ?_
  have hclosed : ClosedOff ((p, c) :: pairs) o i ↔ ClosedOff pairs o i := by
    constructor
    · rintro ⟨e, he, hle, hlt, hi⟩
      rcases List.mem_cons.1 he with rfl | he
      · exact absurd hi (Nat.not_le.2 h)
      · exact ⟨e, he, hle, hlt, hi⟩
    · rintro ⟨e, he, hrest⟩
      exact ⟨e, List.mem_cons_of_mem _ he, hrest⟩
  exact decide_eq_decide.2 (and_congr_right' (not_congr hclosed))

/-- **Closing a bracket** leaves open what stands in front of its partner. -/
theorem openAround_close :
    openAround tokens ((p, i) :: pairs) i = (openAround tokens pairs i).filter (· < p) := by
  rw [openAround, openAround, List.filter_filter]
  refine List.filter_congr fun o ho => ?_
  have hlt := List.mem_range.1 (List.mem_reverse.1 ho)
  have hclosed : ClosedOff ((p, i) :: pairs) o i ↔ p ≤ o ∨ ClosedOff pairs o i := by
    constructor
    · rintro ⟨e, he, hle, hrest⟩
      rcases List.mem_cons.1 he with rfl | he
      · exact .inl hle
      · exact .inr ⟨e, he, hle, hrest⟩
    · rintro (hle | ⟨e, he, hrest⟩)
      · exact ⟨_, List.mem_cons_self, hle, hlt, Nat.le_refl i⟩
      · exact ⟨e, List.mem_cons_of_mem _ he, hrest⟩
  rw [← Bool.decide_and, decide_eq_decide, hclosed, not_or, Nat.not_le]
  exact ⟨fun h => ⟨h.2.1, h.1, h.2.2⟩, fun h => ⟨h.2.1, h.1, h.2.2⟩⟩

/-- Where the open brackets are cut, those behind the cut stand in front of it. -/
theorem filter_lt_of_openAround {given outer : List Nat}
    (h : openAround tokens pairs i = given ++ p :: outer) :
    (openAround tokens pairs i).filter (· < p) = outer := by
  have hsorted := pairwise_openAround tokens pairs i
  rw [h, List.pairwise_append, List.pairwise_cons] at hsorted
  obtain ⟨-, ⟨houter, -⟩, hgiven⟩ := hsorted
  rw [h, List.filter_append, List.filter_cons]
  have hg : given.filter (fun o => decide (o < p)) = [] := by
    refine List.filter_eq_nil_iff.2 fun o ho => ?_
    have hgt := hgiven o ho p List.mem_cons_self
    simpa using Nat.le_of_lt hgt
  have ho : outer.filter (fun o => decide (o < p)) = outer :=
    List.filter_eq_self.2 fun o ho => decide_eq_true (houter o ho)
  rw [hg, ho]
  simp

namespace Matching

/-- A bracket of a pair is at a place of a token. -/
theorem lt_length (h : Matching tokens pairs) {e : Nat × Nat} (he : e ∈ pairs) :
    e.2 < tokens.length := by
  obtain ⟨shape, -, hs⟩ := h.shape e he
  obtain ⟨t, ht, -⟩ := Option.bind_eq_some_iff.1 hs
  exact (List.getElem?_eq_some_iff.1 ht).1

/-- The place behind the last token is in no pair. -/
theorem not_paired_length (h : Matching tokens pairs) : ¬ Paired pairs tokens.length := by
  rintro ⟨e, he, heq⟩
  have hlt := h.lt e he
  have hlen := h.lt_length he
  omega

/-- A bracket that is open at the end is in no pair. -/
theorem not_paired_of_mem_openAround (h : Matching tokens pairs)
    (hp : p ∈ openAround tokens pairs tokens.length) : ¬ Paired pairs p := by
  obtain ⟨-, ⟨shape, hopen⟩, hclosed⟩ := mem_openAround.1 hp
  rintro ⟨e, he, rfl | rfl⟩
  · exact hclosed ⟨e, he, Nat.le_refl _, h.lt e he, Nat.le_of_lt (h.lt_length he)⟩
  · obtain ⟨shape', -, hclose⟩ := h.shape e he
    cases hopen.symm.trans hclose

theorem nil (tokens : List Token) : Matching tokens [] :=
  ⟨nofun, nofun, nofun, nofun, nofun⟩

/-- A matching stays one when more is read. -/
theorem append (h : Matching tokens pairs) : Matching (tokens ++ [t]) pairs where
  lt := h.lt
  shape e he := by
    have hlt := h.lt e he
    have hlen := h.lt_length he
    rw [bracketAt?_append (Nat.lt_trans hlt hlen), bracketAt?_append hlen]
    exact h.shape e he
  opening_unique := h.opening_unique
  closing_unique := h.closing_unique
  uncrossed := h.uncrossed

/-- **A closing bracket may be paired** with any bracket that is open around it and has its
shape. -/
theorem close (h : Matching tokens pairs) {shape : Bracket}
    (hp : p ∈ openAround tokens pairs tokens.length)
    (hopen : bracketAt? tokens p = some (.opening shape))
    (ht : t.bracket? = some (.closing shape)) :
    Matching (tokens ++ [t]) ((p, tokens.length) :: pairs) := by
  obtain ⟨hlt, -, hclosed⟩ := mem_openAround.1 hp
  -- a pair that were around `p`, or at `p`, would have closed it off
  have hout (e : Nat × Nat) (he : e ∈ pairs) : p < e.1 ∨ e.2 ≤ p := by
    by_contra hcon
    exact hclosed ⟨e, he, by omega, by omega, Nat.le_of_lt (h.lt_length he)⟩
  have hnew := h.append (t := t)
  constructor
  · exact List.forall_mem_cons.2 ⟨hlt, h.lt⟩
  · refine List.forall_mem_cons.2 ⟨⟨shape, ?_, ?_⟩, hnew.shape⟩
    · rw [bracketAt?_append hlt, hopen]
    · rw [bracketAt?_length, ht]
  · intro e he f hf heq
    rcases List.mem_cons.1 he with rfl | he <;> rcases List.mem_cons.1 hf with rfl | hf
    · rfl
    · have := hout f hf
      have := h.lt f hf
      omega
    · have := hout e he
      have := h.lt e he
      omega
    · exact h.opening_unique e he f hf heq
  · intro e he f hf heq
    rcases List.mem_cons.1 he with rfl | he <;> rcases List.mem_cons.1 hf with rfl | hf
    · rfl
    · exact absurd heq.symm (Nat.ne_of_lt (h.lt_length hf))
    · exact absurd heq (Nat.ne_of_lt (h.lt_length he))
    · exact h.closing_unique e he f hf heq
  · intro e he f hf hlt₁ hlt₂
    rcases List.mem_cons.1 he with rfl | he <;> rcases List.mem_cons.1 hf with rfl | hf
    · exact absurd hlt₁ (Nat.lt_irrefl _)
    · exact h.lt_length hf
    · have := hout e he
      omega
    · exact h.uncrossed e he f hf hlt₁ hlt₂

/-- **The brackets of a pair have the same brackets around them.** -/
theorem openAround_closing (h : Matching tokens pairs) {e : Nat × Nat} (he : e ∈ pairs) :
    (openAround tokens pairs e.2).Perm (openAround tokens pairs e.1) := by
  have hnodup := nodup_openAround tokens pairs
  refine (List.perm_ext_iff_of_nodup (hnodup _) (hnodup _)).2 fun o => ?_
  rw [mem_openAround, mem_openAround]
  have hlt := h.lt e he
  constructor
  · rintro ⟨ho, hopens, hclosed⟩
    have hoe : o < e.1 := by
      by_contra hcon
      exact hclosed ⟨e, he, by omega, ho, Nat.le_refl _⟩
    refine ⟨hoe, hopens, ?_⟩
    rintro ⟨f, hf, hle, hof, hfe⟩
    exact hclosed ⟨f, hf, hle, hof, by omega⟩
  · rintro ⟨ho, hopens, hclosed⟩
    refine ⟨by omega, hopens, ?_⟩
    rintro ⟨f, hf, hle, hof, hfe⟩
    -- such a pair would close between the two brackets and cross them
    have hbetween : e.1 < f.2 := by
      by_contra hcon
      exact hclosed ⟨f, hf, hle, hof, by omega⟩
    have huncrossed := h.uncrossed f hf e he (by omega) hbetween
    omega

/-- **Between the brackets of a pair** there is one open bracket more. -/
theorem openAround_between (h : Matching tokens pairs) {e : Nat × Nat} (he : e ∈ pairs)
    (hei : e.1 < i) (hie : i < e.2) :
    (openAround tokens pairs e.1).length + 1 ≤ (openAround tokens pairs i).length := by
  have hsub : e.1 :: openAround tokens pairs e.1 ⊆ openAround tokens pairs i := by
    have houter (f : Nat × Nat) (hf : f ∈ pairs) (hle : f.1 ≤ e.1) (hfi : f.2 ≤ i)
        (hef : e.1 < f.2) : False := by
      rcases Nat.lt_or_eq_of_le hle with hlt | heq
      · have huncrossed := h.uncrossed f hf e he hlt hef
        omega
      · obtain rfl := h.opening_unique f hf e he heq
        omega
    intro o ho
    rw [mem_openAround]
    rcases List.mem_cons.1 ho with rfl | ho
    · obtain ⟨shape, hshape, -⟩ := h.shape e he
      refine ⟨hei, ⟨shape, hshape⟩, ?_⟩
      rintro ⟨f, hf, hle, hof, hfi⟩
      exact houter f hf hle hfi hof
    · obtain ⟨hlt, hopens, hclosed⟩ := mem_openAround.1 ho
      refine ⟨by omega, hopens, ?_⟩
      rintro ⟨f, hf, hle, hof, hfi⟩
      by_cases hef : e.1 < f.2
      · exact houter f hf (by omega) hfi hef
      · exact hclosed ⟨f, hf, hle, hof, by omega⟩
  have hnodup : (e.1 :: openAround tokens pairs e.1).Nodup := by
    refine List.nodup_cons.2 ⟨fun hmem => ?_, nodup_openAround _ _ _⟩
    exact absurd (mem_openAround.1 hmem).1 (Nat.lt_irrefl _)
  exact (List.subperm_of_subset hnodup hsub).length_le

end Matching

/-! ### Balanced sequences of brackets -/

/-- **A balanced sequence of brackets**, in which each bracket has its partner. -/
inductive Balanced : List BracketSign → Prop
  | nil : Balanced []
  /-- Two brackets of one shape around a balanced sequence, and another one behind them. -/
  | wrap (shape : Bracket) {inner rest : List BracketSign} :
      Balanced inner → Balanced rest →
        Balanced (.opening shape :: (inner ++ .closing shape :: rest))

theorem Balanced.append {u v : List BracketSign} (hu : Balanced u) (hv : Balanced v) :
    Balanced (u ++ v) := by
  induction hu with
  | nil => exact hv
  | wrap shape hinner _ _ ih => simpa using Balanced.wrap shape hinner ih

/-- **What is read of a balanced sequence while some of its brackets are open**, innermost first:
balanced sequences with these brackets between them. -/
def Pending : List Bracket → List BracketSign → Prop
  | [], w => Balanced w
  | shape :: outer, w => ∃ u v, w = u ++ .opening shape :: v ∧ Pending outer u ∧ Balanced v

namespace Pending

variable {shapes : List Bracket} {w v : List BracketSign}

theorem append (h : Pending shapes w) (hv : Balanced v) : Pending shapes (w ++ v) := by
  cases shapes with
  | nil => exact Balanced.append h hv
  | cons shape outer =>
    obtain ⟨u, inner, rfl, hu, hinner⟩ := h
    exact ⟨u, inner ++ v, by simp, hu, hinner.append hv⟩

theorem opening (h : Pending shapes w) (shape : Bracket) :
    Pending (shape :: shapes) (w ++ [.opening shape]) :=
  ⟨w, [], rfl, h, .nil⟩

theorem closing {shape : Bracket} (h : Pending (shape :: shapes) w) :
    Pending shapes (w ++ [.closing shape]) := by
  obtain ⟨u, inner, rfl, hu, hinner⟩ := h
  rw [List.append_assoc]
  exact hu.append (.wrap shape hinner .nil)

end Pending

end SailNav
