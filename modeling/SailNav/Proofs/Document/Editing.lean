import SailNav.Document.Basic
import SailNav.Proofs.Document.Line
import SailNav.Proofs.Token.Extent

/-!
# A document and its editor

An editor and a document hold the same text as long as they make the same changes to it. The editor
cuts its text at two byte offsets and puts something in between (`SailNav.Text.Splices`); what it
sends are two positions, in the text as the changes before left it. The document finds the offsets
again, in the lines of its own text, so it has to have the text of the editor not just at the end of
a batch but before each of its changes (`SailNav.Document.changeAll_follows`).

A change whose range does not fit the text is one that neither side makes: a line of it is missing,
or it ends before it starts (`SailNav.Range.Misfits`). Every other range is a splice, whoever sent
it: a position gives an addressable offset, and an addressable offset lies between two characters
(`SailNav.Document.edit_cases`). So no change can cut a character in two.
-/

namespace SailNav

/-! ### Cutting a text at two offsets -/

namespace Text

/-- **The bytes from `first` up to `last` of a text give way to a new text.** Both ends lie between
two characters. -/
def Splices (text : String) (first last : Nat) (new after : String) : Prop :=
  ∃ left removed right : String, text = left ++ removed ++ right ∧ first = left.utf8ByteSize ∧
    last = left.utf8ByteSize + removed.utf8ByteSize ∧ after = left ++ new ++ right

/-- The bytes of a string are those of its characters. -/
theorem byteLength_toList (text : String) : byteLength text.toList = text.utf8ByteSize := by
  rw [← utf8ByteSize_ofList, String.ofList_toList]

/-- Of two prefixes of a text the smaller is a prefix of the larger. -/
theorem exists_append_of_byteLength_le {a b c d : List Char} (h : a ++ b = c ++ d)
    (hle : byteLength a ≤ byteLength c) : ∃ m, c = a ++ m ∧ b = m ++ d := by
  rcases List.append_eq_append_iff.1 h with ⟨m, hc, hb⟩ | ⟨m, ha, hd⟩
  · exact ⟨m, hc, hb⟩
  · -- the first prefix is not longer, so nothing is between the two
    rw [ha, byteLength_append] at hle
    obtain rfl : m = [] := byteLength_eq_zero.1 (by omega)
    exact ⟨[], by simpa using ha.symm, by simpa using hd.symm⟩

/-- Any two offsets between characters can be spliced at, if they are in order. -/
theorem splices_of_le {text : String} {a b c d : List Char} (hab : text.toList = a ++ b)
    (hcd : text.toList = c ++ d) (hle : byteLength a ≤ byteLength c) (new : String) :
    Splices text (byteLength a) (byteLength c) new (String.ofList a ++ new ++ String.ofList d) := by
  obtain ⟨m, rfl, rfl⟩ := exists_append_of_byteLength_le (hab.symm.trans hcd) hle
  refine ⟨String.ofList a, String.ofList m, String.ofList d, ?_, ?_, ?_, rfl⟩
  · rw [← String.ofList_append, ← String.ofList_append, List.append_assoc, ← hab,
      String.ofList_toList]
  · rw [utf8ByteSize_ofList]
  · rw [utf8ByteSize_ofList, utf8ByteSize_ofList, byteLength_append]

end Text

/-- Splicing a text is what its name says. -/
theorem Document.splice_eq {text : String} {first last : Nat} {new after : String}
    (h : Text.Splices text first last new after) : splice text first last new = after := by
  obtain ⟨left, removed, right, rfl, rfl, rfl, rfl⟩ := h
  have hfirst : Text.splitBytes left.utf8ByteSize (left ++ removed ++ right).toList =
      (left.toList, (removed ++ right).toList) := by
    rw [← Text.byteLength_toList, String.append_assoc, String.toList_append,
      Text.splitBytes_byteLength]
  have hlast : Text.splitBytes (left.utf8ByteSize + removed.utf8ByteSize)
      (left ++ removed ++ right).toList = ((left ++ removed).toList, right.toList) := by
    rw [← String.utf8ByteSize_append, ← Text.byteLength_toList,
      String.toList_append (s := left ++ removed), Text.splitBytes_byteLength]
  rw [splice, hfirst, hlast, String.ofList_toList, String.ofList_toList]

/-! ### What an editor does -/

/-- **A range does not fit a text**: one of its lines is not there, or its end has an offset before
that of its start. -/
def Range.Misfits (text : String) (range : Range) : Prop :=
  text.toList.count '\n' < range.start.line ∨ text.toList.count '\n' < range.stop.line ∨
    ∃ first last, (LineIndex.ofText text).offsetOf? range.start = some first ∧
      (LineIndex.ofText text).offsetOf? range.stop = some last ∧ last < first

namespace Edit

/-- **A change that an editor makes to its text, with the edit that it sends.** It takes another
text altogether, or it replaces the bytes between two addressable offsets and sends the positions
that these have in the text before the change. An edit with a range that does not fit the text
stands for no change. -/
inductive Leads : (text : String) → Edit → (after : String) → Prop
  | whole {text new : String} : Leads text ⟨none, new⟩ new
  | part {text new after : String} {first last : Nat} :
      (LineIndex.ofText text).Addressable first → (LineIndex.ofText text).Addressable last →
      Text.Splices text first last new after →
      Leads text ⟨some ((LineIndex.ofText text).rangeOf first last), new⟩ after
  | misfit {text new : String} {range : Range} : range.Misfits text →
      Leads text ⟨some range, new⟩ text

/-- Changes that follow one upon another. -/
inductive LeadAll : (text : String) → List Edit → (after : String) → Prop
  | nil {text : String} : LeadAll text [] text
  | cons {text between after : String} {e : Edit} {edits : List Edit} :
      Leads text e between → LeadAll between edits after → LeadAll text (e :: edits) after

/-- Changes can be made in two goes. -/
theorem leadAll_append {text after : String} {a b : List Edit} :
    LeadAll text (a ++ b) after ↔ ∃ between, LeadAll text a between ∧ LeadAll between b after := by
  constructor
  · intro h
    induction a generalizing text with
    | nil => exact ⟨text, .nil, h⟩
    | cons e a ih =>
      cases h with
      | cons he hrest =>
        obtain ⟨between, ha, hb⟩ := ih hrest
        exact ⟨between, .cons he ha, hb⟩
  · rintro ⟨between, ha, hb⟩
    induction ha with
    | nil => exact hb
    | cons he _ ih => exact .cons he (ih hb)

end Edit

/-! ### What a document does -/

namespace Document

/-- The document after some batches of edits, each of which leads to a version. -/
def changeAll (d : Document) (batches : List (List Edit × Int)) : Document :=
  batches.foldl (fun d batch => d.change batch.1 batch.2) d

/-- **The lines of a document are those of its text.** -/
def Current (d : Document) : Prop := d.lines = .ofText d.text

theorem current_ofText (text : String) (version : Int) : (ofText text version).Current := rfl

variable {d : Document}

/-- A range that does not fit changes nothing. -/
theorem Current.edit_of_misfits (h : d.Current) {range : Range} (hmis : range.Misfits d.text)
    (new : String) : d.edit ⟨some range, new⟩ = d := by
  unfold edit offsetOf?
  rw [h]
  dsimp only
  rcases hmis with hline | hline | ⟨first, last, hfirst, hlast, hlt⟩
  · rw [LineIndex.offsetOf?_ofText_eq_none.2 hline]
  · rw [LineIndex.offsetOf?_ofText_eq_none.2 hline]
    split
    · next heq => cases heq
    · rfl
  · rw [hfirst, hlast]
    exact if_neg (Nat.not_le.2 hlt)

/-- A range that fits is a splice. -/
theorem Current.edit_of_fits (h : d.Current) {range : Range} (hfits : ¬ range.Misfits d.text)
    (new : String) :
    ∃ first last, d.offsetOf? range.start = some first ∧ d.offsetOf? range.stop = some last ∧
      Text.Splices d.text first last new (d.edit ⟨some range, new⟩).text := by
  have hoffset : ∀ p, d.offsetOf? p = (LineIndex.ofText d.text).offsetOf? p := by
    intro p
    rw [offsetOf?, h]
  simp only [Range.Misfits, ← LineIndex.offsetOf?_ofText_eq_none, ← hoffset, not_or] at hfits
  obtain ⟨hstart, hstop, horder⟩ := hfits
  obtain ⟨first, hfirst⟩ := Option.ne_none_iff_exists'.1 hstart
  obtain ⟨last, hlast⟩ := Option.ne_none_iff_exists'.1 hstop
  have hle : first ≤ last := Nat.le_of_not_lt fun hlt =>
    horder ⟨first, last, hfirst, hlast, hlt⟩
  obtain ⟨a, b, hab, rfl⟩ :=
    (LineIndex.addressable_of_offsetOf? ((hoffset _).symm.trans hfirst)).exists_append
  obtain ⟨c, e, hce, rfl⟩ :=
    (LineIndex.addressable_of_offsetOf? ((hoffset _).symm.trans hlast)).exists_append
  have hsplices := Text.splices_of_le hab hce hle new
  refine ⟨_, _, hfirst, hlast, ?_⟩
  have hedit : d.edit ⟨some range, new⟩ =
      d.withText (splice d.text (Text.byteLength a) (Text.byteLength c) new) := by
    unfold edit
    dsimp only
    rw [hfirst, hlast]
    exact if_pos hle
  rw [hedit, splice_eq hsplices]
  exact hsplices

/-- An edit leaves a document with the lines of its text. -/
theorem Current.edit (h : d.Current) (e : Edit) : (d.edit e).Current := by
  obtain ⟨range, new⟩ := e
  unfold Document.edit
  dsimp only
  split
  · rfl
  · split
    · split
      · rfl
      · exact h
    · exact h

/-- So do the edits of a batch, up to any of them. -/
theorem Current.foldl_edit (h : d.Current) (edits : List Edit) :
    (edits.foldl Document.edit d).Current := by
  induction edits generalizing d with
  | nil => exact h
  | cons e edits ih => exact ih (h.edit e)

/-- And so does any number of batches. -/
theorem Current.changeAll (h : d.Current) (batches : List (List Edit × Int)) :
    (d.changeAll batches).Current := by
  induction batches generalizing d with
  | nil => exact h
  | cons batch batches ih => exact ih (h.foldl_edit batch.1)

/-- **A document makes the change that its editor makes.** -/
theorem Current.text_edit_of_leads (h : d.Current) {e : Edit} {after : String}
    (hlead : e.Leads d.text after) : (d.edit e).text = after := by
  cases hlead with
  | whole => rfl
  | @part new _ first last hfirst hlast hsplices =>
    -- the positions give back the offsets that they were made of
    have hoffset : ∀ {offset}, (LineIndex.ofText d.text).Addressable offset →
        d.offsetOf? ((LineIndex.ofText d.text).positionOf offset) = some offset := by
      intro offset ho
      rw [offsetOf?, h]
      exact LineIndex.offsetOf?_positionOf ho
    have hle : first ≤ last := by
      obtain ⟨left, removed, right, -, rfl, rfl, -⟩ := hsplices
      exact Nat.le_add_right ..
    unfold Document.edit LineIndex.rangeOf
    dsimp only
    rw [hoffset hfirst, hoffset hlast]
    dsimp only
    rw [if_pos hle, splice_eq hsplices]
    rfl
  | misfit hmis => rw [h.edit_of_misfits hmis]

/-- A document makes the changes that its editor makes, one upon another. -/
theorem Current.text_foldl_edit_of_leadAll (h : d.Current) {edits : List Edit} {after : String}
    (hlead : Edit.LeadAll d.text edits after) : (edits.foldl Document.edit d).text = after := by
  induction edits generalizing d with
  | nil => cases hlead; rfl
  | cons e edits ih =>
    cases hlead with
    | cons he hrest => exact ih (h.edit e) (h.text_edit_of_leads he ▸ hrest)

/-- The text after some batches is that of the editor. -/
theorem Current.text_changeAll_of_leadAll (h : d.Current) {batches : List (List Edit × Int)}
    {after : String} (hlead : Edit.LeadAll d.text (batches.flatMap Prod.fst) after) :
    (d.changeAll batches).text = after := by
  induction batches generalizing d with
  | nil => cases hlead; rfl
  | cons batch batches ih =>
    rw [List.flatMap_cons, Edit.leadAll_append] at hlead
    obtain ⟨between, hbatch, hrest⟩ := hlead
    have htext := h.text_foldl_edit_of_leadAll hbatch
    exact ih (h.foldl_edit batch.1) (htext ▸ hrest)

/-- The version after some batches is that of the last. -/
theorem version_changeAll (d : Document) (batches : List (List Edit × Int)) :
    (d.changeAll batches).version = (batches.getLast?.map Prod.snd).getD d.version := by
  induction batches generalizing d with
  | nil => rfl
  | cons batch batches ih =>
    refine (ih _).trans ?_
    rw [List.getLast?_cons]
    cases batches.getLast? <;> rfl

/-- The lines of a document stand in its text, from the offset at which they start. -/
theorem Current.spells_line (h : d.Current) {l : Line} (hl : l ∈ d.lines.lines) :
    (⟨l.start, l.start + Text.byteLength l.text⟩ : Span).Spells d.text (String.ofList l.text) := by
  rw [h] at hl
  obtain ⟨before, after, htext, hstart⟩ := (LineIndex.cutInto_ofText d.text).exists_append hl
  rw [Nat.zero_add] at hstart
  refine ⟨String.ofList before, String.ofList after, ?_, ?_, ?_⟩
  · rw [← String.ofList_append, ← String.ofList_append, ← htext, String.ofList_toList]
  · rw [Text.utf8ByteSize_ofList, hstart]
  · rw [Text.utf8ByteSize_ofList, Text.utf8ByteSize_ofList, hstart]

/-- **A document follows its editor.** After any batches of edits

* it has the text of the editor, if the edits are the changes that an editor makes to its text, one
  upon another;
* it has the version of the last batch;
* before each edit of one more batch, whoever sent it, its lines are those of its text and stand
  there, and a range that fits the text is a splice between characters, while one that does not is
  as if it had not been sent. -/
theorem changeAll_follows (text : String) (version : Int) (batches : List (List Edit × Int)) :
    (∀ after, Edit.LeadAll text (batches.flatMap Prod.fst) after →
      ((ofText text version).changeAll batches).text = after) ∧
    ((ofText text version).changeAll batches).version =
      (batches.getLast?.map Prod.snd).getD version ∧
    ∀ (edits : List Edit) (d : Document),
      edits.foldl edit ((ofText text version).changeAll batches) = d →
      d.lines = LineIndex.ofText d.text ∧
      (∀ l ∈ d.lines.lines, (⟨l.start, l.start + Text.byteLength l.text⟩ : Span).Spells d.text
        (String.ofList l.text)) ∧
      ∀ (range : Range) (new : String),
        (¬ range.Misfits d.text → ∃ first last, d.offsetOf? range.start = some first ∧
          d.offsetOf? range.stop = some last ∧
          Text.Splices d.text first last new (d.edit ⟨some range, new⟩).text) ∧
        (range.Misfits d.text → ∀ (rest : List Edit) (next : Int),
          ((ofText text version).changeAll batches).change (edits ++ ⟨some range, new⟩ :: rest) next =
            ((ofText text version).changeAll batches).change (edits ++ rest) next) := by
  have hcurrent : ((ofText text version).changeAll batches).Current :=
    (current_ofText text version).changeAll batches
  refine ⟨fun after hlead => ?_, version_changeAll (ofText text version) batches, ?_⟩
  · exact (current_ofText text version).text_changeAll_of_leadAll hlead
  · rintro edits d rfl
    have hd := hcurrent.foldl_edit edits
    refine ⟨hd, fun l hl => hd.spells_line hl, fun range new => ⟨fun hfits => ?_, ?_⟩⟩
    · exact hd.edit_of_fits hfits new
    · intro hmis rest next
      unfold change
      rw [List.foldl_append, List.foldl_append, List.foldl_cons, hd.edit_of_misfits hmis]

/-- The first edit joins two lines behind a character of two units, so the line of the second edit
is gone. -/
theorem changeAll_joinedLines :
    Edit.LeadAll "a😀\r\nb" [⟨some ⟨⟨0, 3⟩, ⟨1, 0⟩⟩, ""⟩, ⟨some ⟨⟨1, 0⟩, ⟨1, 1⟩⟩, "!"⟩] "a😀b" ∧
      ((ofText "a😀\r\nb" 1).changeAll
        [([⟨some ⟨⟨0, 3⟩, ⟨1, 0⟩⟩, ""⟩, ⟨some ⟨⟨1, 0⟩, ⟨1, 1⟩⟩, "!"⟩], 2)]).text = "a😀b" := by
  have hjoin : Edit.Leads "a😀\r\nb" ⟨some ⟨⟨0, 3⟩, ⟨1, 0⟩⟩, ""⟩ "a😀b" := by
    have hrange : (LineIndex.ofText "a😀\r\nb").rangeOf 5 7 = ⟨⟨0, 3⟩, ⟨1, 0⟩⟩ := by decide
    rw [← hrange]
    refine .part ⟨⟨0, "a😀\r\n".toList⟩, by decide, "a😀".toList, by decide, by decide⟩
      ⟨⟨7, ['b']⟩, by decide, [], by decide, by decide⟩ ⟨"a😀", "\r\n", "b", ?_⟩
    decide
  have hgone : Edit.Leads "a😀b" ⟨some ⟨⟨1, 0⟩, ⟨1, 1⟩⟩, "!"⟩ "a😀b" := .misfit (.inl (by decide))
  have hlead := Edit.LeadAll.cons hjoin (.cons hgone .nil)
  exact ⟨hlead, (changeAll_follows _ 1 [(_, 2)]).1 _ hlead⟩

end Document

end SailNav
