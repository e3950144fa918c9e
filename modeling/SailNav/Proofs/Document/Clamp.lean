import Mathlib.Data.Prod.Lex
import Mathlib.Order.Bounds.Basic
import SailNav.Proofs.Document.Editing

/-!
# Where offsets and positions are clamped

Not every offset is a position and not every position an offset, so each way clamps, and in a way of
its own (`SailNav.LineIndex.offsetOf?_clamps`). An offset goes *down*, to the last place between two
characters that is not beyond it. A position goes *up* within its line, to the first such place that
is not in front of its column, and never beyond the content of the line. Going there and back thus
takes an offset to the place below it, or to the end of the content if that is further in front.

The line that an offset goes to is cut in two there, and the front part says all that there is to say
about it (`SailNav.LineIndex.GoesTo`): its bytes are the place, its units are the column, and it is
the longest start of the line for which there are bytes enough. Likewise the offset of a position is
given by the shortest start of the content for which the column is enough
(`SailNav.LineIndex.exists_shortest`). Longest and shortest are meant by prefixes, so that bytes and
units need not be compared.
-/

namespace SailNav

/-! ### Starts of a text -/

namespace Text

theorem byteLength_le_of_prefix {p q : List Char} (h : p <+: q) : byteLength p ≤ byteLength q := by
  obtain ⟨rest, rfl⟩ := h
  rw [byteLength_append]
  exact Nat.le_add_right ..

theorem unitLength_le_of_prefix {p q : List Char} (h : p <+: q) : unitLength p ≤ unitLength q := by
  obtain ⟨rest, rfl⟩ := h
  rw [unitLength_append]
  exact Nat.le_add_right ..

/-- A start of a text that has as many units is the whole text. -/
theorem eq_of_prefix_of_unitLength_le {p q : List Char} (h : p <+: q)
    (hle : unitLength q ≤ unitLength p) : p = q := by
  obtain ⟨rest, rfl⟩ := h
  cases rest with
  | nil => rw [List.append_nil]
  | cons c rest =>
    have hpos := unitSize_pos c
    rw [unitLength_append, unitLength_cons] at hle
    omega

/-- An offset stands between two characters if a start of the text has so many bytes. -/
theorem isValid_iff {text : String} {offset : Nat} :
    (⟨offset⟩ : String.Pos.Raw).IsValid text ↔
      ∃ p, p <+: text.toList ∧ offset = byteLength p := by
  rw [String.Pos.Raw.isValid_iff_exists_append]
  constructor
  · rintro ⟨a, b, rfl, hoffset⟩
    refine ⟨a.toList, ⟨b.toList, String.toList_append.symm⟩, ?_⟩
    rw [byteLength_toList]
    exact congrArg String.Pos.Raw.byteIdx hoffset
  · rintro ⟨p, ⟨q, hpq⟩, rfl⟩
    refine ⟨String.ofList p, String.ofList q, ?_, ?_⟩
    · rw [← String.ofList_append, hpq, String.ofList_toList]
    · rw [String.Pos.Raw.ext_iff, String.byteIdx_rawEndPos, utf8ByteSize_ofList]

/-- **A text is cut behind the longest start for which the bytes are enough.** -/
theorem exists_spanSize (n : Nat) (taken text : List Char) :
    ∃ p q, text = p ++ q ∧ spanSize Char.utf8Size n taken text = (p.reverse ++ taken, q) ∧
      byteLength p ≤ n ∧ ∀ p', p' <+: text → byteLength p' ≤ n → p' <+: p := by
  fun_induction spanSize Char.utf8Size n taken text with
  | case1 n taken => exact ⟨[], [], rfl, rfl, Nat.zero_le _, fun _ h _ => h⟩
  | case2 n taken c text hfits ih =>
    obtain ⟨p, q, rfl, hspan, hle, hlongest⟩ := ih
    refine ⟨c :: p, q, rfl, by rw [hspan]; simp, by rw [byteLength_cons]; omega, ?_⟩
    intro p' hp' hle'
    cases p' with
    | nil => exact List.nil_prefix
    | cons d p' =>
      obtain ⟨rfl, hrest⟩ := List.cons_prefix_cons.1 hp'
      rw [byteLength_cons] at hle'
      exact List.cons_prefix_cons.2 ⟨rfl, hlongest p' hrest (by omega)⟩
  | case3 n taken c text hfits =>
    refine ⟨[], c :: text, rfl, rfl, Nat.zero_le _, fun p' hp' hle' => ?_⟩
    cases p' with
    | nil => exact List.prefix_rfl
    | cons d p' =>
      obtain ⟨rfl, -⟩ := List.cons_prefix_cons.1 hp'
      rw [byteLength_cons] at hle'
      omega

end Text

/-! ### The lines of a text -/

namespace Line

/-- **A line has a number in a text**: so many line feeds are in front of it, the last of them right
in front, and it goes up to its own line feed or to the end of the text. Behind its content are only
carriage returns and line feeds, and the content does not end with one. -/
def StandsIn (l : Line) (text : String) (number : Nat) : Prop :=
  ∃ before ending after, text.toList = before ++ l.text ++ after ∧
    l.start = Text.byteLength before ∧ before.count '\n' = number ∧
    (before = [] ∨ before.getLast? = some '\n') ∧
    ('\n' ∉ l.text ∧ after = [] ∨ ∃ body, '\n' ∉ body ∧ l.text = body ++ ['\n']) ∧
    l.text = l.content ++ ending ∧ (∀ c ∈ ending, c = '\n' ∨ c = '\r') ∧
    ∀ c, l.content.getLast? = some c → c ≠ '\n' ∧ c ≠ '\r'

/-- **A line holds an offset**: that of one of its bytes, or that of its end if no line feed ends
it. -/
def Holds (l : Line) (offset : Nat) : Prop :=
  l.start ≤ offset ∧ offset ≤ l.start + Text.byteLength l.text ∧
    ('\n' ∈ l.text → offset < l.start + Text.byteLength l.text)

/-- The offset at which the content of a line ends. -/
def contentStop (l : Line) : Nat := l.start + Text.byteLength l.content

/-- A line is its content and carriage returns and line feeds, as many as there are. -/
theorem exists_ending (l : Line) :
    ∃ ending, l.text = l.content ++ ending ∧ (∀ c ∈ ending, c = '\n' ∨ c = '\r') ∧
      ∀ c, l.content.getLast? = some c → c ≠ '\n' ∧ c ≠ '\r' := by
  refine ⟨(l.text.reverse.takeWhile isEnding).reverse, ?_, fun c hc => ?_, fun c hc => ?_⟩
  · rw [content, ← List.reverse_append, List.takeWhile_append_dropWhile, List.reverse_reverse]
  · have hall := List.all_eq_true.1 List.all_takeWhile c (List.mem_reverse.1 hc)
    simpa [isEnding] using hall
  · rw [content, List.getLast?_reverse] at hc
    have hkept := List.head?_dropWhile_not isEnding l.text.reverse
    rw [hc] at hkept
    simpa [isEnding] using hkept

end Line

namespace LineIndex

namespace CutInto

variable {start : Nat} {text : List Char} {lines : List Line}

/-- Every line but the last has a line feed, and stops before the later ones start. -/
theorem pairwise (h : CutInto start text lines) :
    lines.Pairwise fun l m => '\n' ∈ l.text ∧ l.start + Text.byteLength l.text ≤ m.start := by
  induction h with
  | last => exact List.pairwise_singleton ..
  | more _ hrest ih =>
    exact List.pairwise_cons.2 ⟨fun m hm => ⟨by simp, hrest.le_start hm⟩, ih⟩

/-- **Every offset that is not before the first line lies in a line.** -/
theorem exists_lastStarting_eq (h : CutInto start text lines) {offset : Nat} (ho : start ≤ offset)
    (best : Nat × Line) (next : Nat) :
    ∃ i l, lines[i]? = some l ∧ lastStarting offset best next lines = (next + i, l) ∧
      l.start ≤ offset ∧ ('\n' ∈ l.text → offset < l.start + Text.byteLength l.text) := by
  induction h generalizing best next with
  | last hfeed => exact ⟨0, _, rfl, if_pos ho, ho, fun hmem => absurd hmem hfeed⟩
  | @more start line rest lines _ hrest ih =>
    by_cases hlt : offset < start + Text.byteLength (line ++ ['\n'])
    · refine ⟨0, _, rfl, ?_, ho, fun _ => hlt⟩
      rw [lastStarting, if_pos ho, hrest.lastStarting_of_lt hlt, Nat.add_zero]
    · obtain ⟨i, l, hi, heq, hle, hend⟩ := ih (Nat.le_of_not_lt hlt) (next, ⟨start, _⟩) (next + 1)
      refine ⟨i + 1, l, hi, ?_, hle, hend⟩
      rw [lastStarting, if_pos ho, heq, Nat.add_right_comm, Nat.add_assoc]

end CutInto

/-- The line of a number stands in the text with that number. -/
theorem standsIn_of_getElem? {text : String} {i : Nat} {l : Line}
    (hi : (ofText text).lines[i]? = some l) : l.StandsIn text i := by
  obtain ⟨before, after, htext, hstart, hcount, hlast, hend⟩ :=
    (cutInto_ofText text).exists_append_of_getElem? hi
  obtain ⟨ending, hending⟩ := l.exists_ending
  exact ⟨before, ending, after, htext, by rw [hstart, Nat.zero_add], hcount, hlast, hend, hending⟩

/-- Of two lines of a text the one with the smaller number stops before the other starts. -/
theorem stop_le_start {text : String} {i j : Nat} {l m : Line}
    (hi : (ofText text).lines[i]? = some l) (hj : (ofText text).lines[j]? = some m) (hij : i < j) :
    '\n' ∈ l.text ∧ l.start + Text.byteLength l.text ≤ m.start := by
  obtain ⟨hilt, rfl⟩ := List.getElem?_eq_some_iff.1 hi
  obtain ⟨hjlt, rfl⟩ := List.getElem?_eq_some_iff.1 hj
  exact List.pairwise_iff_getElem.1 (cutInto_ofText text).pairwise i j hilt hjlt hij

/-! ### From an offset to a position -/

/-- **Where an offset goes to**: behind the longest start of the line that it lies in for which
there are bytes enough. -/
structure GoesTo (text : String) (offset number : Nat) (l : Line) (p : List Char) : Prop where
  line : (ofText text).lines[number]? = some l
  front : p <+: l.text
  le : l.start + Text.byteLength p ≤ offset
  lt : '\n' ∈ l.text → offset < l.start + Text.byteLength l.text
  longest : ∀ p', p' <+: l.text → l.start + Text.byteLength p' ≤ offset → p' <+: p

/-- The position of an offset tells where it goes to. -/
theorem exists_goesTo (text : String) (offset : Nat) :
    ∃ number l p, GoesTo text offset number l p ∧
      (ofText text).positionOf offset = ⟨number, Text.unitLength p⟩ := by
  obtain ⟨i, l, hi, hline, hle, hlt⟩ :=
    (cutInto_ofText text).exists_lastStarting_eq (Nat.zero_le offset) (0, ⟨0, []⟩) 0
  obtain ⟨p, q, htext, hcut, hsize, hlongest⟩ :=
    Text.exists_spanSize (offset - l.start) [] l.text
  refine ⟨i, l, p, ⟨hi, ⟨q, htext.symm⟩, by omega, hlt, fun p' hp' hle' => ?_⟩, ?_⟩
  · exact hlongest p' hp' (by omega)
  · rw [Nat.zero_add] at hline
    rw [positionOf, lineAt, hline]
    dsimp only
    rw [Text.splitBytes, hcut]
    dsimp only
    rw [List.append_nil, List.reverse_reverse]

namespace GoesTo

variable {text : String} {offset number : Nat} {l : Line} {p : List Char}

/-- **An offset goes down to the last place between two characters.** -/
theorem isGreatest (h : GoesTo text offset number l p) :
    IsGreatest {b | (⟨b⟩ : String.Pos.Raw).IsValid text ∧ b ≤ min offset text.utf8ByteSize}
      (l.start + Text.byteLength p) := by
  obtain ⟨before, after, htext, hstart, -, -, hend⟩ :=
    (cutInto_ofText text).exists_append_of_getElem? h.line
  rw [Nat.zero_add] at hstart
  obtain ⟨q, hq⟩ := h.front
  have hfront : before ++ p <+: text.toList := ⟨q ++ after, by rw [htext, ← hq]; simp⟩
  refine ⟨⟨Text.isValid_iff.2 ⟨before ++ p, hfront, ?_⟩, le_min h.le ?_⟩, ?_⟩
  · rw [hstart, Text.byteLength_append]
  · rw [hstart, ← Text.byteLength_append, ← Text.byteLength_toList]
    exact Text.byteLength_le_of_prefix hfront
  · rintro b ⟨hvalid, hb⟩
    obtain ⟨a, ⟨rest, ha⟩, rfl⟩ := Text.isValid_iff.1 hvalid
    have hle : Text.byteLength a ≤ offset := hb.trans (min_le_left ..)
    rcases Nat.le_total (Text.byteLength a) l.start with hbefore | hbehind
    · exact hbefore.trans (Nat.le_add_right ..)
    · -- the place is in the line, which goes on beyond it or is the last
      have hsplit : before ++ (l.text ++ after) = a ++ rest := by
        rw [ha, htext, List.append_assoc]
      obtain ⟨m, rfl, hm⟩ := Text.exists_append_of_byteLength_le hsplit (hstart ▸ hbehind)
      rw [Text.byteLength_append] at hle ⊢
      have hprefix : m <+: l.text := by
        rcases hend with ⟨-, rfl⟩ | ⟨body, -, hbody⟩
        · exact ⟨rest, by rw [← hm, List.append_nil]⟩
        · have hlt := h.lt (by simp [hbody])
          obtain ⟨k, hk, -⟩ := Text.exists_append_of_byteLength_le hm.symm (by omega)
          exact ⟨k, hk.symm⟩
      have hlongest := Text.byteLength_le_of_prefix (h.longest m hprefix (by omega))
      omega

/-- The place that an offset goes to lies in the line. -/
theorem holds (h : GoesTo text offset number l p) : l.Holds (l.start + Text.byteLength p) := by
  have hle := Text.byteLength_le_of_prefix h.front
  refine ⟨Nat.le_add_right .., by omega, fun hfeed => ?_⟩
  exact h.le.trans_lt (h.lt hfeed)

/-- A larger offset does not go to an earlier line, and in the same line not to an earlier place. -/
theorem mono (h : GoesTo text offset number l p) {offset' number' : Nat} {l' : Line}
    {p' : List Char} (h' : GoesTo text offset' number' l' p') (hle : offset ≤ offset') :
    number < number' ∨ number = number' ∧ Text.unitLength p ≤ Text.unitLength p' := by
  rcases Nat.lt_trichotomy number number' with hlt | rfl | hgt
  · exact .inl hlt
  · obtain rfl : l = l' := Option.some.inj (h.line.symm.trans h'.line)
    exact .inr ⟨rfl, Text.unitLength_le_of_prefix (h'.longest p h.front (h.le.trans hle))⟩
  · -- the larger offset would lie before the line of the smaller one
    obtain ⟨hfeed, hstop⟩ := stop_le_start h'.line h.line hgt
    have hlt := h'.lt hfeed
    have hle' := h.le
    omega

/-- Where an offset goes to is its position. -/
theorem positionOf_eq (h : GoesTo text offset number l p) :
    (ofText text).positionOf offset = ⟨number, Text.unitLength p⟩ := by
  obtain ⟨number', l', p', h', hposition⟩ := exists_goesTo text offset
  have hone := h.mono h' le_rfl
  have hother := h'.mono h le_rfl
  rw [hposition, Position.mk.injEq]
  omega

end GoesTo

/-- The end of a start of the content of a line is a place that its own offset goes to. -/
theorem goesTo_of_prefix_content {text : String} {number : Nat} {l : Line} {a : List Char}
    (hl : (ofText text).lines[number]? = some l) (ha : a <+: l.content) :
    GoesTo text (l.start + Text.byteLength a) number l a := by
  have hfront : a <+: l.text := ha.trans l.content_prefix
  refine ⟨hl, hfront, le_rfl, fun hfeed => ?_, fun p' hp' hle => ?_⟩
  · obtain ⟨-, -, -, -, -, -, ⟨hnone, -⟩ | ⟨body, -, hbody⟩⟩ :=
      (cutInto_ofText text).exists_append_of_getElem? hl
    · exact absurd hfeed hnone
    · -- the line feed is not part of the content
      have hsize := Text.byteLength_le_of_prefix ha
      obtain ⟨start, line⟩ := l
      obtain rfl : line = body ++ ['\n'] := hbody
      have hlt := Line.byteLength_content_lt start body
      dsimp only at hsize ⊢
      omega
  · obtain ⟨rest, hrest⟩ := hfront
    obtain ⟨rest', hrest'⟩ := hp'
    obtain ⟨m, hm, -⟩ :=
      Text.exists_append_of_byteLength_le (hrest'.trans hrest.symm) (by omega)
    exact ⟨m, hm.symm⟩

/-! ### From a position to an offset -/

/-- The offset of a position on a line that is there. -/
theorem exists_of_offsetOf? {x : LineIndex} {p : Position} {offset : Nat}
    (h : x.offsetOf? p = some offset) :
    ∃ l a, x.lines[p.line]? = some l ∧ a <+: l.content ∧ offset = l.start + Text.byteLength a ∧
      min p.column (Text.unitLength l.content) ≤ Text.unitLength a ∧
      ∀ b, b <+: l.content → min p.column (Text.unitLength l.content) ≤ Text.unitLength b →
        a <+: b := by
  obtain ⟨l, hl, rfl⟩ := Option.map_eq_some_iff.1 h
  obtain ⟨a, ha, heq, hmin, hshortest⟩ := exists_shortest l.start p.column l.content
  exact ⟨l, a, hl, ha, heq, hmin, hshortest⟩

/-- **There and back** an offset goes to the place below it, or to the end of the content. -/
theorem GoesTo.offsetOf?_eq {text : String} {offset number : Nat} {l : Line} {p : List Char}
    (h : GoesTo text offset number l p) :
    (ofText text).offsetOf? ⟨number, Text.unitLength p⟩ =
      some (min (l.start + Text.byteLength p) l.contentStop) := by
  rw [offsetOf?, h.line, Option.map_some, Line.contentStop]
  refine congrArg some ?_
  dsimp only
  rcases List.prefix_or_prefix_of_prefix h.front l.content_prefix with hp | hp
  · have hle := Text.byteLength_le_of_prefix hp
    obtain ⟨rest, hrest⟩ := hp
    rw [← hrest, bytesForUnits_unitLength, hrest]
    omega
  · -- the place is behind the content, so its column is enough for all of it
    have hle := Text.byteLength_le_of_prefix hp
    have hunits := Text.unitLength_le_of_prefix hp
    obtain ⟨a, ha, heq, hmin, -⟩ := exists_shortest l.start (Text.unitLength p) l.content
    rw [heq, Text.eq_of_prefix_of_unitLength_le ha (by omega)]
    omega

/-! ### The order of positions -/

/-- Positions are in the order of lines, and those of a line in the order of columns. -/
instance : Preorder Position := Preorder.lift fun p => toLex (p.line, p.column)

theorem position_le_iff {p q : Position} :
    p ≤ q ↔ p.line < q.line ∨ p.line = q.line ∧ p.column ≤ q.column :=
  Prod.Lex.toLex_le_toLex

/-- A larger offset has no earlier position. -/
theorem monotone_positionOf (text : String) : Monotone (ofText text).positionOf := by
  intro offset offset' hle
  obtain ⟨number, l, p, h, hposition⟩ := exists_goesTo text offset
  obtain ⟨number', l', p', h', hposition'⟩ := exists_goesTo text offset'
  rw [hposition, hposition', position_le_iff]
  exact h.mono h' hle

/-- A later position has no smaller offset. -/
theorem offsetOf?_mono {text : String} {p q : Position} (hle : p ≤ q) {a b : Nat}
    (ha : (ofText text).offsetOf? p = some a) (hb : (ofText text).offsetOf? q = some b) :
    a ≤ b := by
  obtain ⟨l, front, hl, hfront, rfl, -, hshortest⟩ := exists_of_offsetOf? ha
  obtain ⟨m, front', hm, hfront', rfl, hmin, -⟩ := exists_of_offsetOf? hb
  rcases position_le_iff.1 hle with hline | ⟨hline, hcolumn⟩
  · obtain ⟨-, hstop⟩ := stop_le_start hl hm hline
    have hsize := Text.byteLength_le_of_prefix (hfront.trans l.content_prefix)
    omega
  · rw [← hline] at hm
    obtain rfl := Option.some.inj (hl.symm.trans hm)
    have hsize := Text.byteLength_le_of_prefix (hshortest front' hfront' (by omega))
    omega

/-! ### Both ways -/

/-- **Offsets go down and positions go up, within the content of a line.**

* An offset goes to the last place between two characters that is not beyond it or the text. Its
  position is one on the line that holds this place, and leads back to the place, or to the end of
  the content of the line if the place is beyond that.
* A position has an offset just if its line is one of those of the text, of which there is one more
  than there are line feeds. The offset is a place between two characters of the content of the
  line or at its end: of the places on the line whose column is not less than that of the position,
  or than the width of the content if that is smaller, the one with the least column.
* Neither way changes the order. -/
theorem offsetOf?_clamps (text : String) :
    (∀ offset, ∃ (place number : Nat) (l : Line),
      IsGreatest {b | (⟨b⟩ : String.Pos.Raw).IsValid text ∧ b ≤ min offset text.utf8ByteSize} place ∧
      l.StandsIn text number ∧ l.Holds place ∧ ((ofText text).positionOf offset).line = number ∧
      (ofText text).offsetOf? ((ofText text).positionOf offset) =
        some (min place l.contentStop)) ∧
    (ofText text).count = text.toList.count '\n' + 1 ∧
    (∀ p, ((ofText text).offsetOf? p = none ↔ (ofText text).count ≤ p.line) ∧
      ∀ offset, (ofText text).offsetOf? p = some offset →
        (⟨offset⟩ : String.Pos.Raw).IsValid text ∧
        ∃ (l : Line) (a : List Char), l.StandsIn text p.line ∧ a <+: l.content ∧
          offset = l.start + Text.byteLength a ∧
          (ofText text).positionOf offset = ⟨p.line, Text.unitLength a⟩ ∧
          IsLeast {n | (∃ b, b <+: l.text ∧ n = Text.unitLength b) ∧
            min p.column (Text.unitLength l.content) ≤ n} (Text.unitLength a)) ∧
    Monotone (ofText text).positionOf ∧
    ∀ p q, p ≤ q → ∀ a b, (ofText text).offsetOf? p = some a → (ofText text).offsetOf? q = some b →
      a ≤ b := by
  have hcount : (ofText text).count = text.toList.count '\n' + 1 := (cutInto_ofText text).length_eq
  refine ⟨fun offset => ?_, hcount, fun p => ⟨?_, fun offset hoffset => ?_⟩,
    monotone_positionOf text, fun p q hle a b ha hb => offsetOf?_mono hle ha hb⟩
  · obtain ⟨number, l, p, h, hposition⟩ := exists_goesTo text offset
    refine ⟨_, number, l, h.isGreatest, standsIn_of_getElem? h.line, h.holds, ?_, ?_⟩
    · rw [hposition]
    · rw [hposition, h.offsetOf?_eq]
  · rw [offsetOf?_ofText_eq_none, hcount, Nat.succ_le_iff]
  · obtain ⟨l, a, hl, ha, rfl, hmin, hshortest⟩ := exists_of_offsetOf? hoffset
    have h := goesTo_of_prefix_content hl ha
    have hfront := h.front
    refine ⟨?_, l, a, standsIn_of_getElem? hl, ha, rfl, h.positionOf_eq, ⟨⟨a, hfront, rfl⟩, hmin⟩, ?_⟩
    · exact h.isGreatest.1.1
    · rintro n ⟨⟨b, hb, rfl⟩, hn⟩
      rcases List.prefix_or_prefix_of_prefix hb l.content_prefix with hshort | hlong
      · exact Text.unitLength_le_of_prefix (hshortest b hshort hn)
      · exact Text.unitLength_le_of_prefix (ha.trans hlong)

end LineIndex

end SailNav
