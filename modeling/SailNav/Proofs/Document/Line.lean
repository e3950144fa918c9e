import SailNav.Document.LineIndex

/-!
# Lines and positions

The lines of a text are what one gets by cutting it behind every line feed
(`SailNav.LineIndex.CutInto`), and the offset at which a line starts is the size of what was cut off
before it.

Going from an offset to a position and back clamps on both ways, but never for the offsets that a
position can name: those between the characters of the content of some line, and at its two ends.
They are called *addressable*, and they come back as they were
(`SailNav.LineIndex.offsetOf?_positionOf`). The other way round a position always gives an
addressable offset, if its line is there (`SailNav.LineIndex.addressable_of_offsetOf?`).

What makes the two ways fit together is that a line with a line feed is longer than its content, so
that no addressable offset of a line is as large as the start of the next.
-/

namespace SailNav

/-! ### Prefixes by size -/

namespace Text

/-- A text is cut at the size of a prefix where the prefix ends. -/
theorem spanSize_byteLength (taken p q : List Char) :
    spanSize Char.utf8Size (byteLength p) taken (p ++ q) = (p.reverse ++ taken, q) := by
  induction p generalizing taken with
  | nil =>
    cases q with
    | nil => rfl
    | cons c q =>
      rw [List.nil_append, spanSize, byteLength_nil, if_neg (Nat.not_le.2 c.utf8Size_pos)]
      rfl
  | cons c p ih =>
    rw [List.cons_append, spanSize, byteLength_cons, if_pos (Nat.le_add_right ..),
      Nat.add_sub_cancel_left, ih, List.reverse_cons, List.append_assoc, List.singleton_append]

@[simp] theorem splitBytes_byteLength (p q : List Char) :
    splitBytes (byteLength p) (p ++ q) = (p, q) := by
  rw [splitBytes, spanSize_byteLength]
  simp

end Text

/-! ### The content of a line -/

namespace Line

/-- A line starts with its content. -/
theorem content_prefix (l : Line) : l.content <+: l.text := by
  refine ⟨(l.text.reverse.takeWhile isEnding).reverse, ?_⟩
  rw [content, ← List.reverse_append, List.takeWhile_append_dropWhile, List.reverse_reverse]

/-- A line that ends with a line feed is longer than its content. -/
theorem byteLength_content_lt (start : Nat) (line : List Char) :
    Text.byteLength (⟨start, line ++ ['\n']⟩ : Line).content <
      Text.byteLength (line ++ ['\n']) := by
  have hcontent : (⟨start, line ++ ['\n']⟩ : Line).content = (⟨start, line⟩ : Line).content := by
    rw [content, List.reverse_append, List.reverse_singleton, List.singleton_append,
      List.dropWhile_cons_of_pos rfl]
    rfl
  obtain ⟨ending, hline⟩ := content_prefix ⟨start, line⟩
  have hsize : Text.byteLength (_ ++ ending) = Text.byteLength line := congrArg _ hline
  have hfeed : 0 < Text.byteLength ['\n'] := Nat.zero_lt_one
  rw [Text.byteLength_append] at hsize
  rw [hcontent, Text.byteLength_append]
  omega

end Line

namespace LineIndex

/-! ### Cutting behind line feeds -/

/-- **A text is cut into lines** from an offset on: each line ends with its line feed, the only one
in it, but for the last, which has none. -/
inductive CutInto : (start : Nat) → (text : List Char) → List Line → Prop
  | last {start : Nat} {text : List Char} : '\n' ∉ text → CutInto start text [⟨start, text⟩]
  | more {start : Nat} {line rest : List Char} {lines : List Line} : '\n' ∉ line →
      CutInto (start + Text.byteLength (line ++ ['\n'])) rest lines →
      CutInto start (line ++ '\n' :: rest) (⟨start, line ++ ['\n']⟩ :: lines)

/-- What is cut off goes on where the line that was begun goes on. -/
theorem cut_eq (taken : List Line) (start : Nat) (current text : List Char)
    (hcurrent : '\n' ∉ current) :
    ∃ lines, cut taken start current text = taken.reverse ++ lines ∧
      CutInto start (current.reverse ++ text) lines := by
  fun_induction cut taken start current text with
  | case1 taken start current =>
    refine ⟨[⟨start, current.reverse⟩], by rw [List.reverse_cons], ?_⟩
    rw [List.append_nil]
    exact .last (by simpa using hcurrent)
  | case2 taken start current rest line ih =>
    obtain ⟨lines, hcut, hlines⟩ := ih List.not_mem_nil
    have hline : line = current.reverse ++ ['\n'] := List.reverse_cons
    rw [hline] at hcut hlines
    refine ⟨⟨start, current.reverse ++ ['\n']⟩ :: lines, ?_, ?_⟩
    · rw [hline, hcut]
      simp
    · exact .more (by simpa using hcurrent) hlines
  | case3 taken start current c rest hc ih =>
    have hne : '\n' ≠ c := fun h => hc h.symm
    obtain ⟨lines, hcut, hlines⟩ := ih (by simp [hne, hcurrent])
    refine ⟨lines, hcut, ?_⟩
    simpa using hlines

/-- **The lines of a text are the text cut behind its line feeds.** -/
theorem cutInto_ofText (text : String) : CutInto 0 text.toList (ofText text).lines := by
  obtain ⟨lines, hcut, hlines⟩ := cut_eq [] 0 [] text.toList List.not_mem_nil
  rw [ofText, hcut]
  exact hlines

namespace CutInto

variable {start : Nat} {text : List Char} {lines : List Line}

/-- There is one line more than there are line feeds. -/
theorem length_eq (h : CutInto start text lines) : lines.length = text.count '\n' + 1 := by
  induction h with
  | last hfeed => simp [List.count_eq_zero.2 hfeed]
  | more hfeed _ ih => simp [List.count_eq_zero.2 hfeed, ih]

/-- The line of a number stands in the text behind so many line feeds. -/
theorem exists_append_of_getElem? (h : CutInto start text lines) {i : Nat} {l : Line}
    (hi : lines[i]? = some l) :
    ∃ before after, text = before ++ l.text ++ after ∧ l.start = start + Text.byteLength before ∧
      before.count '\n' = i ∧ (before = [] ∨ before.getLast? = some '\n') ∧
      ('\n' ∉ l.text ∧ after = [] ∨ ∃ body, '\n' ∉ body ∧ l.text = body ++ ['\n']) := by
  induction h generalizing i with
  | @last start text hfeed =>
    obtain ⟨hlt, rfl⟩ := List.getElem?_eq_some_iff.1 hi
    obtain rfl : i = 0 := Nat.lt_one_iff.1 hlt
    exact ⟨[], [], by simp, rfl, rfl, .inl rfl, .inl ⟨hfeed, rfl⟩⟩
  | @more start line rest lines hfeed _ ih =>
    cases i with
    | zero =>
      obtain rfl := Option.some.inj hi
      exact ⟨[], rest, by simp, rfl, rfl, .inl rfl, .inr ⟨line, hfeed, rfl⟩⟩
    | succ i =>
      rw [List.getElem?_cons_succ] at hi
      obtain ⟨before, after, rfl, hstart, hcount, hlast, hend⟩ := ih hi
      refine ⟨line ++ '\n' :: before, after, by simp, ?_, ?_, .inr ?_, hend⟩
      · rw [hstart]
        simp only [Text.byteLength_append, Text.byteLength_cons, Text.byteLength_nil]
        omega
      · rw [List.count_append, List.count_eq_zero.2 hfeed, List.count_cons_self, hcount,
          Nat.zero_add]
      · rcases hlast with rfl | hlast
        · simp
        · simp [List.getLast?_cons, hlast]

/-- Every line stands in the text where it says that it starts. -/
theorem exists_append (h : CutInto start text lines) {l : Line} (hl : l ∈ lines) :
    ∃ before after, text = before ++ l.text ++ after ∧
      l.start = start + Text.byteLength before := by
  obtain ⟨i, hi⟩ := List.mem_iff_getElem?.1 hl
  obtain ⟨before, after, htext, hstart, -⟩ := h.exists_append_of_getElem? hi
  exact ⟨before, after, htext, hstart⟩

/-- No line starts before the first. -/
theorem le_start (h : CutInto start text lines) {l : Line} (hl : l ∈ lines) : start ≤ l.start := by
  obtain ⟨before, -, -, hstart⟩ := h.exists_append hl
  exact hstart ▸ Nat.le_add_right ..

/-- An offset before the first line does not lie in it. -/
theorem lastStarting_of_lt (h : CutInto start text lines) {offset : Nat} (ho : offset < start)
    (best : Nat × Line) (next : Nat) : lastStarting offset best next lines = best := by
  cases h with
  | last => exact if_neg (Nat.not_le.2 ho)
  | more => exact if_neg (Nat.not_le.2 ho)

/-- **An offset that is not beyond the content of a line lies in that line.** -/
theorem lastStarting_eq (h : CutInto start text lines) {i : Nat} {l : Line}
    (hi : lines[i]? = some l) {offset : Nat} (hstart : l.start ≤ offset)
    (hstop : offset ≤ l.start + Text.byteLength l.content) (best : Nat × Line) (next : Nat) :
    lastStarting offset best next lines = (next + i, l) := by
  induction h generalizing best next i with
  | last =>
    obtain ⟨hlt, rfl⟩ := List.getElem?_eq_some_iff.1 hi
    obtain rfl : i = 0 := Nat.lt_one_iff.1 hlt
    exact if_pos hstart
  | @more start line rest lines _ hrest ih =>
    cases i with
    | zero =>
      obtain rfl := Option.some.inj hi
      -- the next line starts behind the line feed, and so behind the content
      have hlt := Line.byteLength_content_lt start line
      rw [lastStarting, if_pos hstart]
      exact hrest.lastStarting_of_lt (by dsimp only at hstop; omega) _ _
    | succ i =>
      rw [List.getElem?_cons_succ] at hi
      have hle := hrest.le_start (List.mem_of_getElem? hi)
      rw [lastStarting, if_pos (by dsimp only; omega), ih hi, Nat.add_right_comm, Nat.add_assoc]

end CutInto

/-! ### Positions of addressable offsets -/

/-- **An offset is addressable** if it stands at a character of the content of a line, or at the
end of the content. -/
def Addressable (x : LineIndex) (offset : Nat) : Prop :=
  ∃ l ∈ x.lines, ∃ p, p <+: l.content ∧ offset = l.start + Text.byteLength p

/-- As many units as a prefix has lead over that prefix. -/
theorem bytesForUnits_unitLength (bytes : Nat) (p q : List Char) :
    bytesForUnits bytes (Text.unitLength p) (p ++ q) = bytes + Text.byteLength p := by
  induction p generalizing bytes with
  | nil => cases q <;> rfl
  | cons c p ih =>
    have hpos := Text.unitSize_pos c
    rw [List.cons_append, Text.unitLength_cons, Text.byteLength_cons]
    obtain ⟨n, hn⟩ : ∃ n, Text.unitSize c + Text.unitLength p = n + 1 :=
      ⟨Text.unitSize c + Text.unitLength p - 1, by omega⟩
    rw [hn, bytesForUnits, ← hn, Nat.add_sub_cancel_left, ih, Nat.add_assoc]

/-- **A column goes up to the shortest start of a text for which it is enough.** -/
theorem exists_shortest (bytes units : Nat) (text : List Char) :
    ∃ p, p <+: text ∧ bytesForUnits bytes units text = bytes + Text.byteLength p ∧
      min units (Text.unitLength text) ≤ Text.unitLength p ∧
      ∀ p', p' <+: text → min units (Text.unitLength text) ≤ Text.unitLength p' → p <+: p' := by
  fun_induction bytesForUnits bytes units text with
  | case1 bytes units =>
    exact ⟨[], List.prefix_rfl, rfl, by simp, fun _ _ _ => List.nil_prefix⟩
  | case2 bytes text =>
    exact ⟨[], List.nil_prefix, rfl, by simp, fun _ _ _ => List.nil_prefix⟩
  | case3 bytes units c rest ih =>
    obtain ⟨p, hp, heq, hmin, hshortest⟩ := ih
    have hpos := Text.unitSize_pos c
    refine ⟨c :: p, List.cons_prefix_cons.2 ⟨rfl, hp⟩, ?_, ?_, fun p' hp' hmin' => ?_⟩
    · rw [heq, Text.byteLength_cons, Nat.add_assoc]
    · rw [Text.unitLength_cons, Text.unitLength_cons]
      omega
    · rw [Text.unitLength_cons] at hmin'
      cases p' with
      | nil =>
        rw [Text.unitLength_nil] at hmin'
        omega
      | cons d p' =>
        obtain ⟨rfl, hrest⟩ := List.cons_prefix_cons.1 hp'
        rw [Text.unitLength_cons] at hmin'
        exact List.cons_prefix_cons.2 ⟨rfl, hshortest p' hrest (by omega)⟩

/-- The offset of a position is addressable. -/
theorem addressable_of_offsetOf? {x : LineIndex} {p : Position} {offset : Nat}
    (h : x.offsetOf? p = some offset) : x.Addressable offset := by
  obtain ⟨l, hl, rfl⟩ := Option.map_eq_some_iff.1 h
  obtain ⟨q, hq, heq, -⟩ := exists_shortest l.start p.column l.content
  exact ⟨l, List.mem_of_getElem? hl, q, hq, heq⟩

/-- A position has no offset exactly if its line is not there. -/
theorem offsetOf?_ofText_eq_none {text : String} {p : Position} :
    (ofText text).offsetOf? p = none ↔ text.toList.count '\n' < p.line := by
  rw [offsetOf?, Option.map_eq_none_iff, List.getElem?_eq_none_iff, (cutInto_ofText text).length_eq,
    Nat.succ_le_iff]

/-- **An addressable offset is the offset of its position.** -/
theorem offsetOf?_positionOf {text : String} {offset : Nat} (h : (ofText text).Addressable offset) :
    (ofText text).offsetOf? ((ofText text).positionOf offset) = some offset := by
  obtain ⟨l, hl, p, ⟨q, hp⟩, rfl⟩ := h
  obtain ⟨i, hi⟩ := List.mem_iff_getElem?.1 hl
  obtain ⟨ending, htext⟩ := l.content_prefix
  have hle : Text.byteLength p ≤ Text.byteLength l.content := by
    rw [← hp, Text.byteLength_append]
    exact Nat.le_add_right ..
  have hline : (ofText text).lineAt (l.start + Text.byteLength p) = (i, l) := by
    rw [lineAt, (cutInto_ofText text).lastStarting_eq hi (Nat.le_add_right ..) (by omega),
      Nat.zero_add]
  have hcolumn : Text.splitBytes (l.start + Text.byteLength p - l.start) l.text =
      (p, q ++ ending) := by
    rw [Nat.add_sub_cancel_left, ← htext, ← hp, List.append_assoc, Text.splitBytes_byteLength]
  rw [positionOf, hline]
  dsimp only
  rw [hcolumn, offsetOf?, hi, Option.map_some, ← hp]
  exact congrArg some (bytesForUnits_unitLength ..)

/-- An addressable offset lies between two parts of the text. -/
theorem Addressable.exists_append {text : String} {offset : Nat}
    (h : (ofText text).Addressable offset) :
    ∃ before after, text.toList = before ++ after ∧ offset = Text.byteLength before := by
  obtain ⟨l, hl, p, ⟨q, hp⟩, rfl⟩ := h
  obtain ⟨before, after, htext, hstart⟩ := (cutInto_ofText text).exists_append hl
  obtain ⟨ending, hline⟩ := l.content_prefix
  refine ⟨before ++ p, q ++ ending ++ after, ?_, ?_⟩
  · rw [htext, ← hline, ← hp]
    simp
  · rw [hstart, Text.byteLength_append, Nat.zero_add]

end LineIndex

end SailNav
