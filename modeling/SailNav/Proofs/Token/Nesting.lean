import Mathlib.Data.List.Induction
import Mathlib.Data.List.Nodup
import SailNav.Proofs.Token.Bracket
import SailNav.Proofs.Token.Outline

/-!
# The nesting of brackets

Reading a text pairs its brackets. The builder keeps a stack of spans and knows of no pairs; they
are put beside it, as pairs of places, and one invariant says what the stack, the depths and the
anomalies are in their terms (`SailNav.TokenBuilder.Nested`): the stack holds the brackets that are
open around the place behind the last token, each token has the depth of its place, and the
brackets reported so far, those still open among them, are those in no pair.

There are four ways to read a lexeme (`SailNav.TokenBuilder.add_cases`), and only one of them makes
a pair: a closing bracket that finds one of its shape on the stack. The other three leave the pairs
alone and differ in what they add to the stack and to the reports
(`SailNav.TokenBuilder.Nested.leave`).

A text in which nothing is wrong with the brackets is a balanced sequence of brackets. In one
direction the stack tells what is pending of such a sequence, in the other direction a balanced
sequence leaves the stack as it was.
-/

namespace SailNav

/-- What may be wrong with a bracket. -/
def Anomaly.Kind.isBracket : Anomaly.Kind → Bool
  | unmatchedClose | unclosedBracket => true
  | unterminatedString | unterminatedBlockComment => false

/-- What is wrong with a lexeme itself is nothing about brackets. -/
theorem Lexeme.isBracket_of_fault {l : Lexeme} {kind : Anomaly.Kind} (h : l.fault = some kind) :
    kind.isBracket = false := by
  rw [Lexeme.fault] at h
  split at h <;> cases h <;> rfl

theorem Anomaly.mk_eq_iff {kind : Anomaly.Kind} {span : Span} {x : Anomaly} :
    (⟨kind, span⟩ : Anomaly) = x ↔ some kind = some x.kind ∧ span = x.span := by
  rcases x with ⟨kind', span'⟩
  simp

theorem Token.Tiled.le_start {tokens : List Token} {start : Nat} (h : Token.Tiled start tokens)
    {t : Token} (ht : t ∈ tokens) : start ≤ t.span.start := by
  obtain ⟨before, after, rfl⟩ := List.append_of_mem ht
  obtain ⟨-, hspan, -⟩ := (Token.Tiled.append.1 h).2
  rw [hspan]
  exact Nat.le_add_right _ _

/-- The spans of tokens that stand side by side are different ones. -/
theorem Token.Tiled.nodup_span {tokens : List Token} {start : Nat}
    (h : Token.Tiled start tokens) : (tokens.map Token.span).Nodup := by
  induction tokens generalizing start with
  | nil => exact List.nodup_nil
  | cons t rest ih =>
    have hlt := h.span_lt List.mem_cons_self
    obtain ⟨-, hspan, hrest⟩ := h
    refine List.nodup_cons.2 ⟨fun hmem => ?_, ih hrest⟩
    obtain ⟨u, hu, heq⟩ := List.mem_map.1 hmem
    have hle := hrest.le_start hu
    rw [heq, hspan] at hle
    rw [hspan] at hlt
    exact absurd hlt (Nat.not_lt.2 hle)

/-- The shape and the span of a token that is an opening bracket. -/
def Token.opening? (t : Token) : Option (Bracket × Span) :=
  match t.bracket? with
  | some (.opening shape) => some (shape, t.span)
  | _ => none

theorem Token.opening?_eq_some_iff {t : Token} {shape : Bracket} {span : Span} :
    t.opening? = some (shape, span) ↔ t.bracket? = some (.opening shape) ∧ t.span = span := by
  rw [opening?]
  split
  · next s hs => simp [hs]
  · next hne =>
    exact ⟨nofun, fun h => absurd h.1 (hne shape)⟩

/-- The shape and the span of the opening bracket at a place. -/
def openingAt? (tokens : List Token) (i : Nat) : Option (Bracket × Span) :=
  tokens[i]?.bind Token.opening?

/-- An anomaly says of the bracket of its span that it is in no pair. -/
def Unpaired (tokens : List Token) (pairs : List (Nat × Nat)) (x : Anomaly) : Prop :=
  ∃ i t, tokens[i]? = some t ∧ t.span = x.span ∧ faultAt? tokens pairs i = some x.kind

section Places

variable {tokens : List Token} {pairs : List (Nat × Nat)} {t u : Token} {i p : Nat} {x : Anomaly}

/-- Where no two tokens have one span, a span tells the place. -/
theorem eq_of_span_eq {j : Nat} (hnodup : (tokens.map Token.span).Nodup)
    (ht : tokens[i]? = some t) (hu : tokens[j]? = some u) (h : t.span = u.span) : i = j := by
  have hlt : i < (tokens.map Token.span).length := by
    rw [List.length_map]
    exact (List.getElem?_eq_some_iff.1 ht).1
  refine (List.getElem?_inj hlt hnodup).1 ?_
  rw [List.getElem?_map, List.getElem?_map, ht, hu]
  exact congrArg some h

theorem openingAt?_append (h : i < tokens.length) :
    openingAt? (tokens ++ [t]) i = openingAt? tokens i := by
  rw [openingAt?, List.getElem?_append_left h, openingAt?]

/-- What opens at the last place. -/
theorem map_openingAt?_last :
    (if OpensAt (tokens ++ [t]) tokens.length then [tokens.length] else []).map
      (openingAt? (tokens ++ [t])) = t.opening?.toList.map some := by
  have hopens : OpensAt (tokens ++ [t]) tokens.length ↔
      ∃ shape, t.bracket? = some (.opening shape) := by
    rw [OpensAt, bracketAt?_length]
  rcases hopening : t.opening? with _ | ⟨shape, span⟩
  · rw [if_neg]
    · rfl
    · rw [hopens]
      rintro ⟨shape, hshape⟩
      cases hopening.symm.trans (Token.opening?_eq_some_iff.2 ⟨hshape, rfl⟩)
  · rw [if_pos (hopens.2 ⟨shape, (Token.opening?_eq_some_iff.1 hopening).1⟩), List.map_singleton,
      openingAt?, List.getElem?_concat_length, Option.bind_some, hopening]
    rfl

/-- What is open around the place behind the last token. -/
theorem map_openAround_last (h : Matching (tokens ++ [t]) pairs) :
    (openAround (tokens ++ [t]) pairs (tokens ++ [t]).length).map (openingAt? (tokens ++ [t])) =
      t.opening?.toList.map some ++
        (openAround tokens pairs tokens.length).map (openingAt? tokens) := by
  have hclosed : ∀ e ∈ pairs, e.2 ≠ tokens.length + 1 := by
    intro e he
    have hlt := h.lt_length he
    rw [List.length_append, List.length_singleton] at hlt
    omega
  rw [List.length_append, List.length_singleton, openAround_succ hclosed, List.map_append,
    map_openingAt?_last, openAround_append (Nat.le_refl _)]
  refine congrArg _ (List.map_congr_left fun o ho => ?_)
  exact openingAt?_append (mem_openAround.1 ho).1

theorem faultAt?_append (h : i < tokens.length) :
    faultAt? (tokens ++ [t]) pairs i = faultAt? tokens pairs i := by
  rw [faultAt?, bracketAt?_append h, faultAt?]

/-- If no pair is made, only the token that is read may be unpaired besides. -/
theorem unpaired_append (h : Matching tokens pairs) :
    Unpaired (tokens ++ [t]) pairs x ↔
      Unpaired tokens pairs x ∨
        t.bracket?.map BracketSign.fault = some x.kind ∧ t.span = x.span := by
  have hlast : faultAt? (tokens ++ [t]) pairs tokens.length = t.bracket?.map BracketSign.fault := by
    rw [faultAt?, if_neg h.not_paired_length, bracketAt?_length]
  constructor
  · rintro ⟨i, u, hu, hspan, hfault⟩
    rcases getElem?_concat_cases hu with hu | ⟨rfl, rfl⟩
    · rw [faultAt?_append (List.getElem?_eq_some_iff.1 hu).1] at hfault
      exact .inl ⟨i, u, hu, hspan, hfault⟩
    · exact .inr ⟨hlast.symm.trans hfault, hspan⟩
  · rintro (⟨i, u, hu, hspan, hfault⟩ | ⟨hfault, hspan⟩)
    · have hi := (List.getElem?_eq_some_iff.1 hu).1
      exact ⟨i, u, (List.getElem?_append_left hi).trans hu, hspan,
        (faultAt?_append hi).trans hfault⟩
    · exact ⟨tokens.length, t, List.getElem?_concat_length, hspan, hlast.trans hfault⟩

/-- Once a bracket is paired with the token that is read, it is not unpaired any more. -/
theorem unpaired_close (hnodup : (tokens.map Token.span).Nodup)
    {shape : Bracket} (hu : tokens[p]? = some u) (hopen : u.bracket? = some (.opening shape))
    (hclosed : ¬ Paired pairs p) :
    Unpaired (tokens ++ [t]) ((p, tokens.length) :: pairs) x ↔
      Unpaired tokens pairs x ∧ x ≠ ⟨.unclosedBracket, u.span⟩ := by
  have hpaired (i : Nat) : Paired ((p, tokens.length) :: pairs) i ↔
      (i = p ∨ i = tokens.length) ∨ Paired pairs i := by
    simp [Paired, or_and_right, exists_or]
  have hfaultp : faultAt? tokens pairs p = some .unclosedBracket := by
    rw [faultAt?, if_neg hclosed, bracketAt?, hu, Option.bind_some, hopen]
    rfl
  have hold {i : Nat} (hi : i < tokens.length) (hne : i ≠ p) :
      faultAt? (tokens ++ [t]) ((p, tokens.length) :: pairs) i = faultAt? tokens pairs i := by
    have hiff : Paired ((p, tokens.length) :: pairs) i ↔ Paired pairs i :=
      (hpaired i).trans (or_iff_right (not_or.2 ⟨hne, Nat.ne_of_lt hi⟩))
    rw [faultAt?_append hi, faultAt?, faultAt?]
    simp only [hiff]
  have hnone {i : Nat} (hi : i = p ∨ i = tokens.length) :
      faultAt? (tokens ++ [t]) ((p, tokens.length) :: pairs) i = none :=
    if_pos ((hpaired i).2 (.inl hi))
  constructor
  · rintro ⟨i, v, hv, hspan, hfault⟩
    have hi : ¬ (i = p ∨ i = tokens.length) := fun hi => by cases (hnone hi).symm.trans hfault
    rw [not_or] at hi
    obtain ⟨hip, hin⟩ := hi
    rcases getElem?_concat_cases hv with hv | ⟨rfl, -⟩
    · have hlt := (List.getElem?_eq_some_iff.1 hv).1
      rw [hold hlt hip] at hfault
      refine ⟨⟨i, v, hv, hspan, hfault⟩, ?_⟩
      rintro rfl
      exact hip (eq_of_span_eq hnodup hv hu hspan)
    · exact absurd rfl hin
  · rintro ⟨⟨i, v, hv, hspan, hfault⟩, hne⟩
    have hlt := (List.getElem?_eq_some_iff.1 hv).1
    have hip : i ≠ p := by
      rintro rfl
      obtain rfl := Option.some.inj (hv.symm.trans hu)
      have hkind := Option.some.inj (hfaultp.symm.trans hfault)
      refine hne ?_
      rcases x with ⟨kind, span⟩
      exact congrArg₂ Anomaly.mk hkind.symm hspan.symm
    exact ⟨i, v, (List.getElem?_append_left hlt).trans hv, hspan, (hold hlt hip).trans hfault⟩

end Places

/-! ### The invariant -/

namespace TokenBuilder

variable {b b' : TokenBuilder} {pairs : List (Nat × Nat)} {t : Token}

/-- The tokens read, in the order of the text. -/
def soFar (b : TokenBuilder) : List Token := b.tokens.reverse

/-- The span that the next lexeme gets. -/
def spanOf (b : TokenBuilder) (l : Lexeme) : Span := ⟨b.offset, b.offset + Text.byteLength l.text⟩

theorem soFar_push (b : TokenBuilder) (l : Lexeme) (around : OpenBrackets) (faults : List Anomaly) :
    (b.push l around faults).soFar = b.soFar ++ [l.token (b.spanOf l) around.length] :=
  List.reverse_cons

/-- **The four ways to read a lexeme**: it opens a bracket, it closes the innermost one of its
shape, it would close one where none is open, or it is no bracket. -/
theorem add_cases (b : TokenBuilder) (l : Lexeme) :
    (∃ shape, l.bracket? = some (.opening shape) ∧
      b.add l = { b.push l b.brackets [] with brackets := (shape, b.spanOf l) :: b.brackets }) ∨
    (∃ shape given outer, l.bracket? = some (.closing shape) ∧
      b.brackets.close? shape = some (given, outer) ∧
      b.add l = b.push l outer (given.map fun s => ⟨.unclosedBracket, s⟩)) ∨
    (∃ shape, l.bracket? = some (.closing shape) ∧ b.brackets.close? shape = none ∧
      b.add l = b.push l b.brackets [⟨.unmatchedClose, b.spanOf l⟩]) ∨
    (l.bracket? = none ∧
      b.add l = b.push l b.brackets
        (l.fault.map fun kind => (⟨kind, b.spanOf l⟩ : Anomaly)).toList) := by
  obtain ⟨shape, text⟩ := l
  rcases shape with kind | _ | kind
  · cases kind with
    | opening shape => exact .inl ⟨shape, rfl, rfl⟩
    | closing shape =>
      rcases hclose : b.brackets.close? shape with _ | ⟨given, outer⟩
      · refine .inr (.inr (.inl ⟨shape, rfl, hclose, ?_⟩))
        simp only [add, hclose]
        rfl
      · refine .inr (.inl ⟨shape, given, outer, rfl, hclose, ?_⟩)
        simp only [add, hclose]
    | _ => exact .inr (.inr (.inr ⟨rfl, rfl⟩))
  · exact .inr (.inr (.inr ⟨rfl, rfl⟩))
  · exact .inr (.inr (.inr ⟨rfl, rfl⟩))

/-- **What the builder knows of the pairs of brackets** among the tokens read. -/
structure Nested (b : TokenBuilder) (pairs : List (Nat × Nat)) : Prop where
  matching : Matching b.soFar pairs
  /-- The stack holds the brackets that are open around the place behind the last token. -/
  brackets : b.brackets.map some =
    (openAround b.soFar pairs b.soFar.length).map (openingAt? b.soFar)
  /-- Each token has as many brackets around it as are open there. -/
  depth : ∀ i t, b.soFar[i]? = some t → t.depth = (openAround b.soFar pairs i).length
  /-- The brackets reported, those that are open among them, are those in no pair. -/
  reported : ∀ x : Anomaly, x.kind.isBracket → (x ∈ b.reported ↔ Unpaired b.soFar pairs x)

theorem nested_start : start.Nested [] where
  matching := .nil _
  brackets := rfl
  depth _ _ h := by cases h
  reported x _ := by
    constructor
    · intro h
      cases h
    · rintro ⟨i, t, ht, -⟩
      cases ht

/-- **If no pair is made**, the token that is read is at the depth of the open brackets. -/
theorem Nested.leave (h : b.Nested pairs) (hsoFar : b'.soFar = b.soFar ++ [t])
    (hdepth : t.depth = b.brackets.length)
    (hbrackets : b'.brackets = t.opening?.toList ++ b.brackets)
    (hreported : ∀ x : Anomaly, x.kind.isBracket → (x ∈ b'.reported ↔
      x ∈ b.reported ∨ t.bracket?.map BracketSign.fault = some x.kind ∧ t.span = x.span)) :
    b'.Nested pairs := by
  have hmatching : Matching (b.soFar ++ [t]) pairs := h.matching.append
  constructor
  · rwa [hsoFar]
  · rw [hsoFar, map_openAround_last hmatching, ← h.brackets, hbrackets, List.map_append]
  · rw [hsoFar]
    intro i u hu
    rcases getElem?_concat_cases hu with hu | ⟨rfl, rfl⟩
    · have hi := (List.getElem?_eq_some_iff.1 hu).1
      rw [openAround_append (Nat.le_of_lt hi), h.depth i u hu]
    · have hlength := congrArg List.length h.brackets
      rw [List.length_map, List.length_map] at hlength
      rw [openAround_append (Nat.le_refl _), hdepth, hlength]
  · intro x hx
    rw [hreported x hx, h.reported x hx, hsoFar, unpaired_append h.matching]

/-- **A pair is made** when a closing bracket is read and one of its shape is open. The token is at
the depth of the brackets that stand in front of the pair. -/
theorem Nested.pair (h : b.Nested pairs) {shape : Bracket} {given : List Span}
    {outer : OpenBrackets} (hclose : b.brackets.close? shape = some (given, outer))
    (hsoFar : b'.soFar = b.soFar ++ [t]) (ht : t.bracket? = some (.closing shape))
    (hdepth : t.depth = outer.length) (hbrackets : b'.brackets = outer)
    (hreported : ∀ span, b.brackets.map Prod.snd = given ++ span :: outer.map Prod.snd →
      b.reported.Perm (⟨.unclosedBracket, span⟩ :: b'.reported))
    (hnodup : b.reported.Nodup) (hspans : (b.soFar.map Token.span).Nodup) :
    ∃ p, b'.Nested ((p, b.soFar.length) :: pairs) := by
  obtain ⟨front, span, hsplit, rfl⟩ := OpenBrackets.exists_of_close? hclose
  -- the bracket that is found is at one of the places where a bracket is open
  have hplaces := h.brackets
  rw [hsplit, List.map_append, List.map_cons] at hplaces
  obtain ⟨before, rest, hcut, -, hrest⟩ := List.map_eq_append_iff.1 hplaces.symm
  obtain ⟨p, behind, rfl, hp, hbehind⟩ := List.map_eq_cons_iff.1 hrest
  obtain ⟨u, hu, hopening⟩ := Option.bind_eq_some_iff.1 hp
  obtain ⟨hopen, hspan⟩ := Token.opening?_eq_some_iff.1 hopening
  have hmem : p ∈ openAround b.soFar pairs b.soFar.length :=
    hcut ▸ List.mem_append_right before List.mem_cons_self
  have hopenAt : bracketAt? b.soFar p = some (.opening shape) := by
    rw [bracketAt?, hu, Option.bind_some, hopen]
  have hmatching := h.matching.close hmem hopenAt ht
  have hleft : openAround b.soFar ((p, b.soFar.length) :: pairs) b.soFar.length = behind := by
    rw [openAround_close, filter_lt_of_openAround hcut]
  have hnone : t.opening? = none := by rw [Token.opening?, ht]
  refine ⟨p, ?_, ?_, ?_, ?_⟩
  · rwa [hsoFar]
  · rw [hsoFar, map_openAround_last hmatching, hleft, hbehind, hbrackets, hnone]
    rfl
  · rw [hsoFar]
    intro i v hv
    rcases getElem?_concat_cases hv with hv | ⟨rfl, rfl⟩
    · have hi := (List.getElem?_eq_some_iff.1 hv).1
      rw [openAround_cons hi, openAround_append (Nat.le_of_lt hi), h.depth i v hv]
    · have hlength := congrArg List.length hbehind
      rw [List.length_map, List.length_map] at hlength
      rw [openAround_append (Nat.le_refl _), hleft, hdepth, hlength]
  · intro x hx
    have hperm := hreported span (by rw [hsplit, List.map_append]; rfl)
    have hnew := (List.nodup_cons.1 (hperm.nodup_iff.1 hnodup)).1
    have hunpaired := h.matching.not_paired_of_mem_openAround hmem
    rw [hsoFar, unpaired_close hspans hu hopen hunpaired, ← h.reported x hx,
      hperm.mem_iff, List.mem_cons, hspan]
    constructor
    · intro hmem
      exact ⟨.inr hmem, fun heq => hnew (heq ▸ hmem)⟩
    · rintro ⟨hor, hne⟩
      exact hor.resolve_left hne

/-- What is reported is what is open, and what was found wrong so far. -/
theorem reported_push (b : TokenBuilder) (l : Lexeme) (around : OpenBrackets)
    (faults : List Anomaly) :
    (b.push l around faults).reported =
      around.map (fun entry => ⟨.unclosedBracket, entry.2⟩) ++ (faults ++ b.anomalies) :=
  rfl

/-- Closing a bracket takes back the report of the bracket that it closes, and of no other. -/
theorem reported_close (b : TokenBuilder) (l : Lexeme) {given : List Span} {outer : OpenBrackets}
    {span : Span} (h : b.brackets.map Prod.snd = given ++ span :: outer.map Prod.snd) :
    b.reported.Perm (⟨.unclosedBracket, span⟩ ::
      (b.push l outer (given.map fun s => ⟨.unclosedBracket, s⟩)).reported) := by
  let report : Span → Anomaly := fun s => ⟨.unclosedBracket, s⟩
  have hmap (brackets : OpenBrackets) :
      brackets.map (fun entry => report entry.2) = (brackets.map Prod.snd).map report := by
    rw [List.map_map]
    rfl
  change (b.brackets.map (fun entry => report entry.2) ++ b.anomalies).Perm
    (report span :: (outer.map (fun entry => report entry.2) ++ (given.map report ++ b.anomalies)))
  rw [hmap, hmap, h, List.map_append, List.map_cons, List.append_assoc, List.cons_append]
  refine List.perm_middle.trans (.cons _ ?_)
  rw [← List.append_assoc, ← List.append_assoc]
  exact List.perm_append_comm.append_right _

/-- **One lexeme more.** -/
theorem Nested.add (h : b.Nested pairs) (hapart : b.Apart)
    (hspans : (b.soFar.map Token.span).Nodup) {l : Lexeme}
    (hl : ∀ span depth, (l.token span depth).bracket? = l.bracket?) :
    ∃ pairs, (b.add l).Nested pairs := by
  have hopening (span : Span) (depth : Nat) :
      (l.token span depth).opening? = match l.bracket? with
        | some (.opening shape) => some (shape, span)
        | _ => none := by
    rw [Token.opening?, hl]
    rfl
  rcases add_cases b l with ⟨shape, hbracket, hadd⟩ |
    ⟨shape, given, outer, hbracket, hclose, hadd⟩ | ⟨shape, hbracket, hclose, hadd⟩ |
    ⟨hbracket, hadd⟩
  all_goals rw [hadd]
  · refine ⟨pairs, h.leave (soFar_push b l b.brackets []) rfl ?_ fun x _ => ?_⟩
    · rw [hopening, hbracket]
      rfl
    · rw [hl, hbracket]
      change x ∈ (⟨.unclosedBracket, b.spanOf l⟩ : Anomaly) :: b.reported ↔ _
      rw [List.mem_cons, or_comm, eq_comm, Anomaly.mk_eq_iff]
      rfl
  · obtain ⟨p, hp⟩ := h.pair hclose (soFar_push b l outer _) ((hl _ _).trans hbracket) rfl rfl
      (fun span hspan => reported_close b l hspan) (List.Nodup.of_map _ hapart.nodup) hspans
    exact ⟨_, hp⟩
  · refine ⟨pairs, h.leave (soFar_push b l b.brackets _) rfl ?_ fun x _ => ?_⟩
    · rw [hopening, hbracket]
      rfl
    · rw [hl, hbracket, reported_push, List.singleton_append, List.perm_middle.mem_iff,
        List.mem_cons, or_comm, eq_comm, Anomaly.mk_eq_iff]
      rfl
  · refine ⟨pairs, h.leave (soFar_push b l b.brackets _) rfl ?_ fun x hx => ?_⟩
    · rw [hopening, hbracket]
      rfl
    · have hother : x ∉ (l.fault.map fun kind => (⟨kind, b.spanOf l⟩ : Anomaly)).toList := by
        intro hmem
        obtain ⟨kind, hkind, rfl⟩ := Option.map_eq_some_iff.1 (Option.mem_toList.1 hmem)
        exact Bool.false_ne_true ((Lexeme.isBracket_of_fault hkind).symm.trans hx)
      rw [hl, hbracket, reported_push, List.mem_append, List.mem_append, or_iff_right hother,
        ← List.mem_append]
      exact (or_iff_left nofun).symm

/-- **Reading some lexemes pairs their brackets.** -/
theorem exists_nested_foldl {ls : List Lexeme} (hne : ∀ l ∈ ls, l.text ≠ [])
    (hls : ∀ l ∈ ls, ∀ span depth, (l.token span depth).bracket? = l.bracket?) :
    ∃ pairs, (ls.foldl TokenBuilder.add start).Nested pairs := by
  induction ls using List.reverseRecOn with
  | nil => exact ⟨[], nested_start⟩
  | append_singleton ls l ih =>
    have hne' : ∀ m ∈ ls, m.text ≠ [] := fun m hm => hne m (List.mem_append_left _ hm)
    obtain ⟨pairs, h⟩ := ih hne' fun m hm => hls m (List.mem_append_left _ hm)
    obtain ⟨tokens, htokens, htiled, -⟩ := exists_tokens_foldl .start ls hne'
    have hsoFar : (ls.foldl TokenBuilder.add start).soFar = tokens := by
      rw [soFar, htokens, start, List.append_nil, List.reverse_reverse]
    rw [List.foldl_append, List.foldl_cons, List.foldl_nil]
    exact h.add (apart_start.foldl hne') (hsoFar ▸ htiled.nodup_span)
      (hls l (List.mem_append_right _ (List.mem_singleton_self l)))

/-! ### Balanced brackets -/

/-- Whether nothing was found wrong with the brackets read. -/
def Clean (b : TokenBuilder) : Prop := ∀ x ∈ b.anomalies, x.kind.isBracket = false

/-- While nothing is wrong with them, the brackets read are those of a balanced sequence, and the
stack tells which of them are open. -/
theorem pending_add {w : List BracketSign} (h : b.Clean → Pending (b.brackets.map Prod.fst) w)
    (l : Lexeme) (hclean : (b.add l).Clean) :
    Pending ((b.add l).brackets.map Prod.fst) (w ++ l.bracket?.toList) := by
  have hbefore : b.Clean := by
    obtain ⟨found, hfound, -⟩ := exists_anomalies_add b l
    exact fun x hx => hclean x (hfound ▸ List.mem_append_right found hx)
  rcases add_cases b l with ⟨shape, hbracket, hadd⟩ |
    ⟨shape, given, outer, hbracket, hclose, hadd⟩ | ⟨shape, hbracket, hclose, hadd⟩ |
    ⟨hbracket, hadd⟩
  all_goals rw [hadd] at hclean ⊢; rw [hbracket]
  · exact (h hbefore).opening shape
  · obtain ⟨front, span, hsplit, rfl⟩ := OpenBrackets.exists_of_close? hclose
    -- a bracket that is given up would be reported
    rcases front with _ | ⟨entry, front⟩
    · have hpending := h hbefore
      rw [hsplit] at hpending
      exact Pending.closing hpending
    · exact absurd (hclean _ List.mem_cons_self) (by simp [Anomaly.Kind.isBracket])
  · exact absurd (hclean _ List.mem_cons_self) (by simp [Anomaly.Kind.isBracket])
  · rw [Option.toList_none, List.append_nil]
    exact h hbefore

theorem pending_foldl (ls : List Lexeme) (hclean : (ls.foldl TokenBuilder.add start).Clean) :
    Pending ((ls.foldl TokenBuilder.add start).brackets.map Prod.fst)
      (ls.filterMap Lexeme.bracket?) := by
  induction ls using List.reverseRecOn with
  | nil => exact Balanced.nil
  | append_singleton ls l ih =>
    rw [List.foldl_append, List.foldl_cons, List.foldl_nil] at hclean ⊢
    rw [List.filterMap_append]
    exact pending_add ih l hclean

/-- A builder that reads on leaves the stack as it was, and finds nothing wrong with brackets. -/
structure Keeps (b b' : TokenBuilder) : Prop where
  brackets : b'.brackets = b.brackets
  clean : b.Clean → b'.Clean

theorem Keeps.trans {b'' : TokenBuilder} (h : b.Keeps b') (h' : b'.Keeps b'') : b.Keeps b'' :=
  ⟨h'.brackets.trans h.brackets, fun hb => h'.clean (h.clean hb)⟩

theorem brackets_add_opening {l : Lexeme} {shape : Bracket}
    (h : l.bracket? = some (.opening shape)) :
    (b.add l).brackets = (shape, b.spanOf l) :: b.brackets ∧ (b.Clean → (b.add l).Clean) := by
  rcases add_cases b l with ⟨shape', hbracket, hadd⟩ | ⟨shape', _, _, hbracket, -, -⟩ |
    ⟨shape', hbracket, -, -⟩ | ⟨hbracket, -⟩
  · cases hbracket.symm.trans h
    rw [hadd]
    exact ⟨rfl, id⟩
  all_goals cases hbracket.symm.trans h

theorem brackets_add_closing {l : Lexeme} {shape : Bracket} {span : Span} {outer : OpenBrackets}
    (h : l.bracket? = some (.closing shape)) (hb : b.brackets = (shape, span) :: outer) :
    (b.add l).brackets = outer ∧ (b.Clean → (b.add l).Clean) := by
  have hclose : b.brackets.close? shape = some ([], outer) := by
    rw [hb, OpenBrackets.close?, if_pos rfl]
  rcases add_cases b l with ⟨shape', hbracket, -⟩ |
    ⟨shape', given, outer', hbracket, hclose', hadd⟩ | ⟨shape', hbracket, hclose', -⟩ |
    ⟨hbracket, -⟩
  · cases hbracket.symm.trans h
  · cases hbracket.symm.trans h
    cases hclose.symm.trans hclose'
    rw [hadd]
    exact ⟨rfl, id⟩
  · cases hbracket.symm.trans h
    cases hclose.symm.trans hclose'
  · cases hbracket.symm.trans h

theorem keeps_add {l : Lexeme} (h : l.bracket? = none) : b.Keeps (b.add l) := by
  rcases add_cases b l with ⟨shape, hbracket, -⟩ | ⟨shape, _, _, hbracket, -, -⟩ |
    ⟨shape, hbracket, -, -⟩ | ⟨-, hadd⟩
  · cases hbracket.symm.trans h
  · cases hbracket.symm.trans h
  · cases hbracket.symm.trans h
  · rw [hadd]
    refine ⟨rfl, fun hclean x hx => ?_⟩
    rcases List.mem_append.1 hx with hx | hx
    · obtain ⟨kind, hkind, rfl⟩ := Option.map_eq_some_iff.1 (Option.mem_toList.1 hx)
      exact Lexeme.isBracket_of_fault hkind
    · exact hclean x hx

/-- What is no bracket changes nothing. -/
theorem keeps_foldl_of_none {ls : List Lexeme} (h : ∀ l ∈ ls, l.bracket? = none) :
    b.Keeps (ls.foldl TokenBuilder.add b) := by
  induction ls generalizing b with
  | nil => exact ⟨rfl, id⟩
  | cons l ls ih =>
    obtain ⟨hl, hls⟩ := List.forall_mem_cons.1 h
    exact (keeps_add hl).trans (ih hls)

/-- **Reading a balanced sequence of brackets** leaves the stack as it was. -/
theorem keeps_foldl_of_balanced {w : List BracketSign} (hw : Balanced w) {ls : List Lexeme}
    (hls : ls.filterMap Lexeme.bracket? = w) : b.Keeps (ls.foldl TokenBuilder.add b) := by
  induction hw generalizing b ls with
  | nil => exact keeps_foldl_of_none (List.filterMap_eq_nil_iff.1 hls)
  | wrap shape _ _ ihinner ihrest =>
    -- the text is what is in front of the opening bracket, what is between the two, and the rest
    obtain ⟨front, o, behind, rfl, hfront, ho, hbehind⟩ := List.filterMap_eq_cons_iff.1 hls
    obtain ⟨middle, tail, rfl, hmiddle, htail⟩ := List.filterMap_eq_append_iff.1 hbehind
    obtain ⟨gap, c, rest, rfl, hgap, hc, hrest⟩ := List.filterMap_eq_cons_iff.1 htail
    simp only [List.foldl_append, List.foldl_cons]
    have hto := keeps_foldl_of_none (b := b) hfront
    obtain ⟨hopened, hoclean⟩ := brackets_add_opening (b := front.foldl TokenBuilder.add b) ho
    have hin := (ihinner hmiddle (b := (front.foldl TokenBuilder.add b).add o)).trans
      (keeps_foldl_of_none hgap)
    obtain ⟨hclosed, hcclean⟩ := brackets_add_closing hc (hin.brackets.trans hopened)
    have hpair : (front.foldl TokenBuilder.add b).Keeps
        ((gap.foldl TokenBuilder.add (middle.foldl TokenBuilder.add
          ((front.foldl TokenBuilder.add b).add o))).add c) :=
      ⟨hclosed, fun hb => hcclean (hin.clean (hoclean hb))⟩
    exact hto.trans (hpair.trans (ihrest hrest))

end TokenBuilder

/-! ### The brackets of a text -/

/-- **The brackets of a text are nested as a matching says.** -/
structure TokenStream.NestedBy (s : TokenStream) (pairs : List (Nat × Nat)) : Prop where
  matching : Matching s.tokens pairs
  /-- The depth of a token is the number of brackets that are open around it. -/
  depth_eq : ∀ i t, s.tokens[i]? = some t → t.depth = (openAround s.tokens pairs i).length
  /-- What is wrong with a bracket is that it is in no pair, and this is reported once. -/
  count_eq : ∀ i t, s.tokens[i]? = some t → ∀ kind : Anomaly.Kind, kind.isBracket →
    s.anomalies.count ⟨kind, t.span⟩ = if faultAt? s.tokens pairs i = some kind then 1 else 0
  /-- Nothing else is reported about brackets. -/
  of_anomaly : ∀ x ∈ s.anomalies, x.kind.isBracket →
    ∃ i t, s.tokens[i]? = some t ∧ t.span = x.span ∧ faultAt? s.tokens pairs i = some x.kind
  /-- The two brackets of a pair are equally deep, and what is between them is deeper. -/
  depth_pair : ∀ e ∈ pairs, ∀ t u, s.tokens[e.1]? = some t → s.tokens[e.2]? = some u →
    u.depth = t.depth ∧
      ∀ i v, e.1 < i → i < e.2 → s.tokens[i]? = some v → t.depth + 1 ≤ v.depth
  /-- A closing bracket in no pair changes no depth. -/
  depth_stray : ∀ i t u, faultAt? s.tokens pairs i = some .unmatchedClose →
    s.tokens[i]? = some t → s.tokens[i + 1]? = some u → (∀ e ∈ pairs, e.2 ≠ i + 1) →
    u.depth = t.depth

/-- The brackets of the lexemes of a text are those of its tokens. -/
theorem filterMap_bracket? (text : String) :
    (lexemes text.toList).filterMap Lexeme.bracket? =
      (tokenize text).tokens.filterMap Token.bracket? := by
  have hread := readAs_tokenize text
  have hall : ∀ l ∈ lexemes text.toList, ∀ span depth,
      (l.token span depth).bracket? = l.bracket? := fun l hl => bracket?_token_of_mem hl
  generalize lexemes text.toList = ls, (tokenize text).tokens = tokens at hread hall
  induction hread with
  | nil => rfl
  | cons ht _ ih =>
    obtain ⟨hl, hls⟩ := List.forall_mem_cons.1 hall
    rw [List.filterMap_cons, List.filterMap_cons, ih hls, ht, hl]

/-- What is reported of the lexemes of a text is what is wrong with the text. -/
theorem mem_anomalies_iff {text : String} {x : Anomaly} :
    x ∈ (tokenize text).anomalies ↔ x ∈ (TokenBuilder.ofText text).reported :=
  (anomalies_perm text).mem_iff

/-- A text has a matching that tells of its brackets. -/
theorem exists_nestedBy (text : String) : ∃ pairs, (tokenize text).NestedBy pairs := by
  obtain ⟨pairs, h⟩ := TokenBuilder.exists_nested_foldl
    (fun l hl => text_ne_nil_of_mem_lexemesFrom hl)
    (fun l (hl : l ∈ lexemes text.toList) => bracket?_token_of_mem hl)
  have hdepth : ∀ i t, (tokenize text).tokens[i]? = some t →
      t.depth = (openAround (tokenize text).tokens pairs i).length := h.depth
  have hreported : ∀ x : Anomaly, x.kind.isBracket →
      (x ∈ (tokenize text).anomalies ↔ Unpaired (tokenize text).tokens pairs x) :=
    fun x hx => mem_anomalies_iff.trans (h.reported x hx)
  have hmatching : Matching (tokenize text).tokens pairs := h.matching
  refine ⟨pairs, hmatching, hdepth, ?_, fun x hx hb => (hreported x hb).1 hx, ?_, ?_⟩
  · intro i t ht kind hkind
    have hnodup : (tokenize text).anomalies.Nodup :=
      (inOrder_anomalies text).imp fun hlt => ne_of_apply_ne (·.span.start) (Nat.ne_of_lt hlt)
    rw [hnodup.count]
    refine if_congr
      ((hreported _ hkind).trans ⟨?_, fun hfault => ⟨i, t, ht, rfl, hfault⟩⟩) rfl rfl
    rintro ⟨j, u, hu, hspan, hfault⟩
    rwa [eq_of_span_eq (tiled_tokenize text).nodup_span ht hu hspan.symm]
  · intro e he t u ht hu
    rw [hdepth _ _ ht, hdepth _ _ hu]
    refine ⟨(hmatching.openAround_closing he).length_eq, fun i v hei hie hv => ?_⟩
    rw [hdepth _ _ hv]
    exact hmatching.openAround_between he hei hie
  · intro i t u hfault ht hu hclosed
    rw [hdepth _ _ ht, hdepth _ _ hu, openAround_succ hclosed, if_neg, List.nil_append]
    rintro ⟨shape, hopen⟩
    rw [faultAt?] at hfault
    split at hfault
    · cases hfault
    · rw [hopen] at hfault
      cases hfault

/-- If nothing is wrong with the brackets of a text, they are a balanced sequence. -/
theorem balanced_of_anomalies {text : String}
    (h : ∀ x ∈ (tokenize text).anomalies, x.kind.isBracket = false) :
    Balanced ((lexemes text.toList).filterMap Lexeme.bracket?) := by
  have hclean : (TokenBuilder.ofText text).Clean :=
    fun x hx => h x (mem_anomalies_iff.2 (List.mem_append_right _ hx))
  have hpending := TokenBuilder.pending_foldl (lexemes text.toList) hclean
  rcases hstack : (TokenBuilder.ofText text).brackets with _ | ⟨entry, outer⟩
  · rw [TokenBuilder.ofText] at hstack
    rw [hstack] at hpending
    exact hpending
  · -- a bracket that is still open is reported
    have hopen : ⟨.unclosedBracket, entry.2⟩ ∈ (TokenBuilder.ofText text).reported := by
      rw [TokenBuilder.reported, hstack]
      exact List.mem_cons_self
    cases h _ (mem_anomalies_iff.2 hopen)

/-- If the brackets of a text are a balanced sequence, nothing is wrong with them. -/
theorem isBracket_eq_false_of_balanced {text : String}
    (h : Balanced ((lexemes text.toList).filterMap Lexeme.bracket?)) {x : Anomaly}
    (hx : x ∈ (tokenize text).anomalies) : x.kind.isBracket = false := by
  have hkeeps := TokenBuilder.keeps_foldl_of_balanced (b := .start) h rfl
  have hreported := mem_anomalies_iff.1 hx
  rw [TokenBuilder.reported, TokenBuilder.ofText, hkeeps.brackets] at hreported
  exact hkeeps.clean (fun y hy => absurd hy List.not_mem_nil) x hreported

/-- **The brackets of a text are nested.** They have a matching that tells the depth of each token
and what is wrong with each bracket, and nothing is wrong with brackets just if they are a balanced
sequence. -/
theorem tokenize_nested (text : String) :
    (∃ pairs, (tokenize text).NestedBy pairs) ∧
      ((∀ x ∈ (tokenize text).anomalies, x.kind.isBracket = false) ↔
        Balanced ((tokenize text).tokens.filterMap Token.bracket?)) := by
  rw [← filterMap_bracket?]
  exact ⟨exists_nestedBy text, balanced_of_anomalies,
    fun h _ hx => isBracket_eq_false_of_balanced h hx⟩

end SailNav
