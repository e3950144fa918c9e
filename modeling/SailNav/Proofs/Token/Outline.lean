import SailNav.Proofs.Token.Extent

/-!
# Outlines

Filler takes up space and does nothing else: it opens and closes no bracket, and nothing is wrong
with it. So what is read of a text, its filler apart, is told by the lexemes that are no filler and
by where they start. These are the *outline* of the text, and the builder can read them instead of
all its lexemes (`SailNav.TokenBuilder.skim_foldl`).

A text may be read behind another one. Its tokens and anomalies are then those that it has on its
own, only further on, if the text before leaves no bracket open
(`SailNav.TokenBuilder.foldl_add_behind`).

The last thing that a text goes through is that its anomalies are sorted. Each of them starts at a
place of its own, so there is one way only to sort them (`SailNav.inOrder_anomalies`).
-/

namespace SailNav

/-! ### Further on in a text -/

/-- The same span a number of bytes further on. -/
def Span.shift (n : Nat) (s : Span) : Span := ⟨s.start + n, s.stop + n⟩

def Token.shift (n : Nat) (t : Token) : Token := { t with span := t.span.shift n }

def Anomaly.shift (n : Nat) (x : Anomaly) : Anomaly := { x with span := x.span.shift n }

namespace OpenBrackets

def shift (n : Nat) (brackets : OpenBrackets) : OpenBrackets :=
  brackets.map fun entry => (entry.1, entry.2.shift n)

theorem close?_shift (n : Nat) (shape : Bracket) (brackets : OpenBrackets) :
    (brackets.shift n).close? shape =
      (brackets.close? shape).map fun closed => (closed.1.map (Span.shift n), closed.2.shift n) := by
  induction brackets with
  | nil => rfl
  | cons entry outer ih =>
    obtain ⟨b, span⟩ := entry
    change close? shape ((b, span.shift n) :: shift n outer) = _
    rw [close?, close?, ih]
    split
    · rfl
    · cases close? shape outer <;> rfl

/-- Closing a bracket finds it among the open ones, and gives up those in front of it. -/
theorem exists_of_close? {shape : Bracket} {brackets outer : OpenBrackets} {given : List Span}
    (h : brackets.close? shape = some (given, outer)) :
    ∃ (front : OpenBrackets) (span : Span),
      brackets = front ++ (shape, span) :: outer ∧ given = front.map Prod.snd := by
  induction brackets generalizing given with
  | nil => cases h
  | cons entry rest ih =>
    obtain ⟨b, span⟩ := entry
    rw [close?] at h
    split at h
    · next hb =>
      cases h
      exact ⟨[], span, by rw [hb]; rfl, rfl⟩
    · obtain ⟨⟨given, outer⟩, hclose, heq⟩ := Option.map_eq_some_iff.1 h
      cases heq
      obtain ⟨front, found, rfl, rfl⟩ := ih hclose
      exact ⟨(b, span) :: front, found, rfl, rfl⟩

/-- The spans of the open brackets before a bracket is closed, and after. -/
theorem map_snd_of_close? {shape : Bracket} {brackets outer : OpenBrackets} {given : List Span}
    (h : brackets.close? shape = some (given, outer)) :
    ∃ span, brackets.map Prod.snd = given ++ span :: outer.map Prod.snd := by
  obtain ⟨front, span, rfl, rfl⟩ := exists_of_close? h
  exact ⟨span, List.map_append⟩

end OpenBrackets

namespace TokenBuilder

variable {b : TokenBuilder} {l : Lexeme} {n : Nat}

/-- **A builder that has read some text first**, of `n` bytes, which left its tokens and anomalies
and no open bracket. -/
def behind (b : TokenBuilder) (n : Nat) (first : TokenBuilder) : TokenBuilder where
  offset := b.offset + n
  brackets := b.brackets.shift n
  tokens := b.tokens.map (Token.shift n) ++ first.tokens
  anomalies := b.anomalies.map (Anomaly.shift n) ++ first.anomalies

/-- To start behind a text is to go on from its end, if no bracket is open there. -/
theorem behind_start {first : TokenBuilder} (h : first.brackets = []) :
    start.behind n first = { first with offset := n } := by
  obtain ⟨offset, brackets, tokens, anomalies⟩ := first
  cases h
  simp [behind, start, OpenBrackets.shift]

theorem push_behind (b : TokenBuilder) (n : Nat) (first : TokenBuilder) (l : Lexeme)
    (around : OpenBrackets) (faults : List Anomaly) :
    (b.behind n first).push l (around.shift n) (faults.map (Anomaly.shift n)) =
      (b.push l around faults).behind n first := by
  have hstop : b.offset + n + Text.byteLength l.text = b.offset + Text.byteLength l.text + n :=
    Nat.add_right_comm _ _ _
  simp [push, behind, hstop, OpenBrackets.shift, Lexeme.token, Token.shift, Span.shift]

/-- What was read first does not change how the next lexeme is read. -/
theorem add_behind (b : TokenBuilder) (n : Nat) (first : TokenBuilder) (l : Lexeme) :
    (b.behind n first).add l = (b.add l).behind n first := by
  have hstop : b.offset + n + Text.byteLength l.text = b.offset + Text.byteLength l.text + n :=
    Nat.add_right_comm _ _ _
  have hspan : (⟨b.offset + n, b.offset + n + Text.byteLength l.text⟩ : Span) =
      Span.shift n ⟨b.offset, b.offset + Text.byteLength l.text⟩ := by
    rw [hstop]
    rfl
  unfold add
  dsimp only
  split
  · next shape _ =>
    change { (b.behind n first).push l (b.brackets.shift n) [] with
      brackets := (shape, ⟨b.offset + n, b.offset + n + Text.byteLength l.text⟩) ::
        b.brackets.shift n } = _
    rw [hspan, show ([] : List Anomaly) = [].map (Anomaly.shift n) from rfl, push_behind]
    rfl
  · next shape _ =>
    have hclose := OpenBrackets.close?_shift n shape b.brackets
    rw [show (b.behind n first).brackets = b.brackets.shift n from rfl, hclose]
    cases b.brackets.close? shape with
    | none =>
      dsimp only [Option.map_none]
      rw [← push_behind]
      exact congrArg (fun s => TokenBuilder.push _ _ _ [⟨.unmatchedClose, s⟩]) hspan
    | some closed =>
      dsimp only [Option.map_some]
      rw [← push_behind, List.map_map, List.map_map]
      rfl
  · rw [← push_behind]
    refine congrArg (TokenBuilder.push _ _ _) ?_
    cases l.fault with
    | none => rfl
    | some kind => exact congrArg (fun s => [(⟨kind, s⟩ : Anomaly)]) hspan

theorem foldl_add_behind (b : TokenBuilder) (n : Nat) (first : TokenBuilder) (ls : List Lexeme) :
    ls.foldl add (b.behind n first) = (ls.foldl add b).behind n first := by
  induction ls generalizing b with
  | nil => rfl
  | cons l ls ih => rw [List.foldl_cons, List.foldl_cons, add_behind, ih]

end TokenBuilder

/-! ### What is no filler -/

/-- Whether a token is anything but filler. -/
def Token.isSolid (t : Token) : Bool := t.kind != .filler

namespace Lexeme

/-- Whether a lexeme is anything but filler. -/
def isSolid (l : Lexeme) : Bool := l.tokenKind != .filler

/-- **The outline of a text**: its lexemes without the filler, each with the offset at which it
starts. -/
def outline (offset : Nat) : List Lexeme → List (Nat × Lexeme)
  | [] => []
  | l :: ls =>
    let further := outline (offset + Text.byteLength l.text) ls
    if l.isSolid then (offset, l) :: further else further

/-- Filler has no outline. -/
theorem outline_eq_nil {ls : List Lexeme} (h : ∀ l ∈ ls, l.isSolid = false) (offset : Nat) :
    outline offset ls = [] := by
  induction ls generalizing offset with
  | nil => rfl
  | cons l ls ih =>
    rw [outline, h l List.mem_cons_self]
    exact ih (fun m hm => h m (List.mem_cons_of_mem l hm)) _

end Lexeme

namespace TokenBuilder

variable {b : TokenBuilder} {l : Lexeme} {n : Nat}

/-- A builder without its filler, moved to an offset. -/
def skim (b : TokenBuilder) (offset : Nat) : TokenBuilder where
  offset := offset
  brackets := b.brackets
  tokens := b.tokens.filter Token.isSolid
  anomalies := b.anomalies

/-- Reads a lexeme of an outline. -/
def read (b : TokenBuilder) (entry : Nat × Lexeme) : TokenBuilder := (b.skim entry.1).add entry.2

/-- What is filler is pushed without a look at the brackets. -/
theorem add_of_filler (h : l.isSolid = false) : b.add l = b.push l b.brackets [] := by
  obtain ⟨shape, text⟩ := l
  cases shape with
  | stray => rfl
  | piece kind =>
    cases kind with
    | filler => rfl
    | path | openPath => cases h
  | word kind =>
    cases kind with
    | whitespace => rfl
    | _ => cases h

/-- Filler does nothing. -/
theorem skim_add_of_filler (h : l.isSolid = false) : (b.add l).skim n = b.skim n := by
  rw [add_of_filler h]
  unfold skim push
  rw [List.filter_cons_of_neg]
  · rfl
  · exact fun hsolid => Bool.false_ne_true (h.symm.trans hsolid)

/-- Reading a lexeme does not depend on the filler before it. -/
theorem skim_add (b : TokenBuilder) (l : Lexeme) :
    (b.add l).skim n = (b.read (b.offset, l)).skim n := by
  have hfilter (t : Token) : ((t :: b.tokens).filter Token.isSolid) =
      (t :: b.tokens.filter Token.isSolid).filter Token.isSolid := by
    rw [List.filter_cons, List.filter_cons, List.filter_filter]
    simp only [Bool.and_self]
  unfold read skim add push
  dsimp only
  split
  · rw [hfilter]
  · split <;> rw [hfilter]
  · rw [hfilter]

theorem skim_foldl_read_congr {c : TokenBuilder} (h : ∀ m, b.skim m = c.skim m)
    (entries : List (Nat × Lexeme)) :
    (entries.foldl read b).skim n = (entries.foldl read c).skim n := by
  cases entries with
  | nil => exact h n
  | cons entry entries => rw [List.foldl_cons, List.foldl_cons, read, read, h]

/-- **An outline is read like the text that it is of.** -/
theorem skim_foldl (b : TokenBuilder) (ls : List Lexeme) :
    (ls.foldl add b).skim n = ((Lexeme.outline b.offset ls).foldl read b).skim n := by
  induction ls generalizing b with
  | nil => rfl
  | cons l ls ih =>
    rw [List.foldl_cons, ih, offset_add, Lexeme.outline]
    cases hsolid : l.isSolid with
    | false =>
      exact skim_foldl_read_congr (fun m => skim_add_of_filler hsolid) _
    | true =>
      rw [if_pos rfl, List.foldl_cons]
      exact skim_foldl_read_congr (fun m => skim_add b l) _

/-- **A text may be read behind another one that leaves no bracket open**, if its outline stands
behind the outline of the other one. -/
theorem skim_foldl_append {first second whole : List Lexeme} {m : Nat}
    (hout : Lexeme.outline 0 whole = Lexeme.outline 0 first ++ Lexeme.outline n second)
    (hopen : (first.foldl add start).brackets = []) :
    (whole.foldl add start).skim m =
      ((second.foldl add start).behind n (first.foldl add start)).skim m := by
  calc (whole.foldl add start).skim m
    _ = ((Lexeme.outline n second).foldl read
          ((Lexeme.outline 0 first).foldl read start)).skim m := by
        rw [skim_foldl, start, hout, List.foldl_append]
    _ = ((Lexeme.outline n second).foldl read (start.behind n (first.foldl add start))).skim m := by
        refine skim_foldl_read_congr (fun k => ?_) _
        rw [behind_start hopen]
        exact (skim_foldl start first).symm
    _ = (second.foldl add (start.behind n (first.foldl add start))).skim m := by
        rw [skim_foldl, behind_start hopen]
    _ = _ := by rw [foldl_add_behind]

/-! ### What is wrong -/

/-- All that is wrong with what was read, the brackets that are open among it. -/
def reported (b : TokenBuilder) : List Anomaly :=
  b.brackets.map (fun entry => ⟨.unclosedBracket, entry.2⟩) ++ b.anomalies

theorem reported_behind (b : TokenBuilder) (n : Nat) (first : TokenBuilder) :
    (b.behind n first).reported = b.reported.map (Anomaly.shift n) ++ first.anomalies := by
  rw [reported, reported, behind, OpenBrackets.shift, List.map_append, List.map_map, List.map_map,
    List.append_assoc]
  rfl

/-- What is found wrong stays, and what is wrong with the next lexeme is found. -/
theorem exists_anomalies_add (b : TokenBuilder) (l : Lexeme) :
    ∃ found, (b.add l).anomalies = found ++ b.anomalies ∧
      ∀ kind, l.fault = some kind → ∃ x ∈ found, x.kind = kind := by
  obtain ⟨shape, text⟩ := l
  unfold add
  dsimp only
  split
  · exact ⟨[], rfl, nofun⟩
  · split
    · exact ⟨_, rfl, nofun⟩
    · exact ⟨_, rfl, nofun⟩
  · refine ⟨_, rfl, fun kind hkind => ?_⟩
    rw [hkind]
    exact ⟨_, List.mem_singleton_self _, rfl⟩

/-- **Every fault of a lexeme is reported.** -/
theorem exists_anomaly_of_fault {ls : List Lexeme} (hl : l ∈ ls) {kind : Anomaly.Kind}
    (hkind : l.fault = some kind) (b : TokenBuilder) :
    ∃ x ∈ (ls.foldl add b).anomalies, x.kind = kind := by
  have hkeep (ls : List Lexeme) (b : TokenBuilder) :
      ∀ x ∈ b.anomalies, x ∈ (ls.foldl add b).anomalies := by
    induction ls generalizing b with
    | nil => exact fun x hx => hx
    | cons l ls ih =>
      intro x hx
      obtain ⟨found, hfound, -⟩ := exists_anomalies_add b l
      exact ih _ x (hfound ▸ List.mem_append_right found hx)
  induction ls generalizing b with
  | nil => cases hl
  | cons m ls ih =>
    rcases List.mem_cons.1 hl with rfl | hl
    · obtain ⟨found, hfound, hfault⟩ := exists_anomalies_add b l
      obtain ⟨x, hx, hxk⟩ := hfault kind hkind
      exact ⟨x, hkeep ls _ x (hfound ▸ List.mem_append_left _ hx), hxk⟩
    · exact ih hl _

/-- What is wrong behind a lexeme was wrong before it, but for one thing at most, which starts where
the lexeme does. -/
theorem exists_reported_add (b : TokenBuilder) (l : Lexeme) :
    ∃ fresh kept, (b.add l).reported.Perm (fresh ++ kept) ∧ kept.Sublist b.reported ∧
      (fresh = [] ∨ ∃ x : Anomaly, fresh = [x] ∧ x.span.start = b.offset) := by
  unfold add
  dsimp only
  split
  · exact ⟨[_], b.reported, .rfl, .refl _, .inr ⟨_, rfl, rfl⟩⟩
  · split
    · next given outer hclose =>
      let report : Span → Anomaly := fun s => ⟨.unclosedBracket, s⟩
      obtain ⟨span, hspan⟩ := OpenBrackets.map_snd_of_close? hclose
      have hmap (brackets : OpenBrackets) :
          brackets.map (fun entry => report entry.2) = (brackets.map Prod.snd).map report := by
        rw [List.map_map]
        rfl
      refine ⟨[], given.map report ++ (outer.map (fun entry => report entry.2) ++ b.anomalies),
        List.perm_append_comm_assoc _ _ _, ?_, .inl rfl⟩
      change List.Sublist _ (b.brackets.map (fun entry => report entry.2) ++ b.anomalies)
      rw [hmap, hmap, hspan, List.map_append, List.append_assoc, List.map_cons, List.cons_append]
      exact (List.sublist_cons_self _ _).append_left _
    · exact ⟨[_], b.reported, List.perm_middle, .refl _, .inr ⟨_, rfl, rfl⟩⟩
  · cases l.fault with
    | none => exact ⟨[], b.reported, .rfl, .refl _, .inl rfl⟩
    | some kind => exact ⟨[_], b.reported, List.perm_middle, .refl _, .inr ⟨_, rfl, rfl⟩⟩

/-- **What is wrong is wrong at different places**, all of which were read. -/
structure Apart (b : TokenBuilder) : Prop where
  nodup : (b.reported.map fun x => x.span.start).Nodup
  start_lt : ∀ x ∈ b.reported, x.span.start < b.offset

theorem apart_start : start.Apart := ⟨List.nodup_nil, fun _ hx => absurd hx List.not_mem_nil⟩

theorem Apart.add (h : b.Apart) (hl : l.text ≠ []) : (b.add l).Apart := by
  obtain ⟨fresh, kept, hperm, hkept, hfresh⟩ := exists_reported_add b l
  have hlt : b.offset < (b.add l).offset := by
    rw [offset_add]
    have hpos := mt Text.byteLength_eq_zero.1 hl
    omega
  have hold : ∀ x ∈ kept, x.span.start < b.offset := fun x hx => h.start_lt x (hkept.subset hx)
  have hnodup : (kept.map fun x => x.span.start).Nodup := h.nodup.sublist (hkept.map _)
  constructor
  · refine ((hperm.map _).nodup_iff).2 ?_
    rcases hfresh with rfl | ⟨x, rfl, hx⟩
    · exact hnodup
    · refine List.nodup_cons.2 ⟨fun hmem => ?_, hnodup⟩
      obtain ⟨y, hy, hyx⟩ := List.mem_map.1 hmem
      exact absurd (hyx.trans hx) (Nat.ne_of_lt (hold y hy))
  · intro x hx
    rcases List.mem_append.1 (hperm.mem_iff.1 hx) with hx | hx
    · rcases hfresh with rfl | ⟨y, rfl, hy⟩
      · cases hx
      · rw [List.mem_singleton.1 hx, hy]
        exact hlt
    · exact Nat.lt_trans (hold x hx) hlt

theorem Apart.foldl (h : b.Apart) {ls : List Lexeme} (hls : ∀ l ∈ ls, l.text ≠ []) :
    (ls.foldl TokenBuilder.add b).Apart := by
  induction ls generalizing b with
  | nil => exact h
  | cons l ls ih =>
    exact ih (h.add (hls l List.mem_cons_self)) fun m hm => hls m (List.mem_cons_of_mem l hm)

end TokenBuilder

/-! ### The anomalies of a text -/

/-- What the builder is left with at the end of a text. -/
def TokenBuilder.ofText (text : String) : TokenBuilder :=
  (lexemes text.toList).foldl add start

theorem apart_ofText (text : String) : (TokenBuilder.ofText text).Apart :=
  TokenBuilder.apart_start.foldl fun _ hl => text_ne_nil_of_mem_lexemesFrom hl

theorem TokenBuilder.offset_foldl (b : TokenBuilder) (ls : List Lexeme) :
    (ls.foldl add b).offset = b.offset + Text.byteLength (ls.flatMap Lexeme.text) := by
  induction ls generalizing b with
  | nil => rfl
  | cons l ls ih =>
    rw [List.foldl_cons, ih, offset_add, List.flatMap_cons, Text.byteLength_append, Nat.add_assoc]

/-- The builder ends where the text does. -/
theorem offset_ofText (text : String) : (TokenBuilder.ofText text).offset = text.utf8ByteSize := by
  rw [TokenBuilder.ofText, TokenBuilder.offset_foldl, flatMap_text_lexemes,
    ← Text.utf8ByteSize_ofList, String.ofList_toList]
  exact Nat.zero_add _

/-- The anomalies of a text are what is wrong at its end. -/
theorem anomalies_perm (text : String) :
    (tokenize text).anomalies.Perm (TokenBuilder.ofText text).reported :=
  List.mergeSort_perm _ _

/-- Anomalies in the order of the text, each at a place of its own. -/
def InOrder (anomalies : List Anomaly) : Prop :=
  anomalies.Pairwise fun x y => x.span.start < y.span.start

/-- There is one way only to bring anomalies in order. -/
theorem InOrder.eq_of_perm {xs ys : List Anomaly} (hx : InOrder xs) (hy : InOrder ys)
    (h : xs.Perm ys) : xs = ys :=
  h.eq_of_pairwise (fun _ _ _ _ hlt hgt => absurd hgt (Nat.lt_asymm hlt)) hx hy

/-- **The anomalies of a text are in order**, and no two of them start at one place. -/
theorem inOrder_anomalies (text : String) : InOrder (tokenize text).anomalies := by
  let le : Anomaly → Anomaly → Bool := fun x y => x.span.start ≤ y.span.start
  have hsorted : (tokenize text).anomalies.Pairwise fun x y => le x y = true := by
    refine List.pairwise_mergeSort (fun x y z hxy hyz => ?_) (fun x y => ?_) _
    · exact decide_eq_true (Nat.le_trans (of_decide_eq_true hxy) (of_decide_eq_true hyz))
    · rw [Bool.or_eq_true]
      exact (Nat.le_total x.span.start y.span.start).imp decide_eq_true decide_eq_true
  have hnodup : ((tokenize text).anomalies.map fun x => x.span.start).Nodup :=
    (((anomalies_perm text).map _).nodup_iff).2 (apart_ofText text).nodup
  refine (hsorted.and (List.pairwise_map.1 hnodup)).imp fun h => ?_
  exact Nat.lt_of_le_of_ne (of_decide_eq_true h.1) h.2

end SailNav
