import SailNav.Proofs.Analysis.Resolution
import SailNav.Proofs.Document.Editing
import SailNav.Proofs.Token.Munch

/-!
# Where a definition is shown

An editor is led to a definition by two positions in the file that defines the name. They are made
from the bytes of the name and are all that the editor gets, so they have to lead back to these
bytes, in a text that is not the one the cursor is in
(`SailNav.Analysis.definitionOf_ofChanges`).

Going from an offset to a position loses the offset where it lies at the end of a line, among the
carriage returns and line feeds (`SailNav.LineIndex.Addressable`). A name is never there: it was
looked up by a word of the text that the cursor is in, no such word contains a line end
(`SailNav.not_isEnding_of_mem_name`), and what is found is spelled the same. So both ends of it
belong to the content of one line (`SailNav.Span.Spells.addressable`), whatever else is on the line.
-/

namespace SailNav

/-! ### Names have no line ends -/

/-- A word that can name something contains no line end. -/
theorem not_isEnding_of_matches {e : LexClass × Pattern} (he : e ∈ lexicon)
    (hname : e.1.tokenKind.isName = true) {word : List Char} (h : e.2.Matches word) {c : Char}
    (hc : c ∈ word) : Line.isEnding c = false := by
  have hnone : ∀ e ∈ lexicon, e.1.tokenKind.isName = true →
      e.2.mayContain '\n' = false ∧ e.2.mayContain '\r' = false := by
    decide
  obtain ⟨hfeed, hreturn⟩ := hnone e he hname
  have hmay := h.mayContain_of_mem hc
  have hcfeed : c ≠ '\n' := by
    rintro rfl
    exact Bool.false_ne_true (hfeed.symm.trans hmay)
  have hcreturn : c ≠ '\r' := by
    rintro rfl
    exact Bool.false_ne_true (hreturn.symm.trans hmay)
  simp [Line.isEnding, hcfeed, hcreturn]

/-- **No name in a text contains a line end.** -/
theorem not_isEnding_of_mem_name {text : String} {t : Token} (ht : t ∈ (tokenize text).tokens)
    (hname : t.kind.isName = true) {c : Char} (hc : c ∈ t.text.toList) :
    Line.isEnding c = false := by
  obtain ⟨front, after, htokens⟩ := List.append_of_mem ht
  rw [← front.reverse_reverse] at htokens
  obtain ⟨mode, s, hs, hread, -⟩ := exists_lexStep?_of_tokens htokens
  rw [hread.toList_text] at hc
  rw [hread] at hname
  rcases lexStep?_cases hs with ⟨p, -, -, rfl⟩ | ⟨-, ⟨w, hw, rfl⟩ | ⟨d, rest, -, -, rfl⟩⟩
  · -- a piece of an include region is filler or a string
    obtain ⟨kind, taken, rest⟩ := p
    cases kind <;> cases hname
  · obtain ⟨p, hp, hmatch⟩ := exists_matches_of_classOf? hw.class_eq
    exact not_isEnding_of_matches hp hname hmatch hc
  · cases hname

/-! ### What stands within a line is addressable -/

namespace Line

/-- A start of a line that does not end in a line end is a start of its content. -/
theorem prefix_content {l : Line} {p : List Char} (hp : p <+: l.text)
    (hend : ∀ c, p.getLast? = some c → isEnding c = false) : p <+: l.content := by
  obtain ⟨ending, htext⟩ := hp
  have hkeep : p.reverse.dropWhile isEnding = p.reverse := by
    cases hrev : p.reverse with
    | nil => rfl
    | cons c rest =>
      have hlast : p.getLast? = some c := by
        rw [List.getLast?_eq_head?_reverse, hrev, List.head?_cons]
      rw [List.dropWhile_cons_of_neg (by simp [hend c hlast])]
  rw [content, ← htext, List.reverse_append, List.dropWhile_append, hkeep]
  split
  · simp
  · rw [List.reverse_append, List.reverse_reverse]
    exact List.prefix_append ..

end Line

namespace LineIndex.CutInto

/-- **A part of a text without line feeds stands in one of its lines.** -/
theorem exists_line {start : Nat} {text : List Char} {lines : List Line}
    (h : CutInto start text lines) {before part after : List Char}
    (htext : text = before ++ part ++ after) (hne : part ≠ []) (hpart : '\n' ∉ part) :
    ∃ l ∈ lines, ∃ a b, l.text = a ++ part ++ b ∧
      l.start + Text.byteLength a = start + Text.byteLength before := by
  induction h generalizing before with
  | @last start text _ => exact ⟨_, List.mem_singleton_self _, before, after, htext, rfl⟩
  | @more start line rest lines hline _ ih =>
    rw [List.append_assoc] at htext
    rcases List.append_eq_append_iff.1 htext with ⟨m, rfl, hrest⟩ | ⟨m, rfl, hrest⟩
    · cases m with
      | nil =>
        -- the part would start with the line feed
        obtain ⟨c, part, rfl⟩ := List.exists_cons_of_ne_nil hne
        obtain rfl := (List.cons.inj hrest).1
        exact absurd List.mem_cons_self hpart
      | cons c m =>
        -- the part stands behind the line feed, so in a later line
        obtain ⟨rfl, htail⟩ := List.cons.inj hrest
        obtain ⟨l, hl, a, b, hltext, hstart⟩ := ih (htail.trans (List.append_assoc ..).symm)
        refine ⟨l, List.mem_cons_of_mem _ hl, a, b, hltext, ?_⟩
        rw [hstart]
        simp only [Text.byteLength_append, Text.byteLength_cons, Text.byteLength_nil]
        omega
    · rcases List.append_eq_append_iff.1 hrest with ⟨k, rfl, -⟩ | ⟨k, rfl, hfeed⟩
      · exact ⟨_, List.mem_cons_self, before, k ++ ['\n'], by simp, rfl⟩
      · cases k with
        | nil => exact ⟨_, List.mem_cons_self, before, ['\n'], by simp, rfl⟩
        | cons c k =>
          -- the part would contain the line feed
          obtain rfl := (List.cons.inj hfeed).1
          exact absurd (by simp) hpart

end LineIndex.CutInto

/-- **A span that spells a text without line ends is addressable at both ends.** -/
theorem Span.Spells.addressable {s : Span} {text part : String} (h : s.Spells text part)
    (hne : part ≠ "") (hpart : ∀ c ∈ part.toList, Line.isEnding c = false) :
    (LineIndex.ofText text).Addressable s.start ∧ (LineIndex.ofText text).Addressable s.stop := by
  obtain ⟨before, after, rfl, hstart, hstop⟩ := h
  have hnil : part.toList ≠ [] := by simpa using hne
  have hfeed : '\n' ∉ part.toList := fun hmem => absurd (hpart _ hmem) (by decide)
  obtain ⟨l, hl, a, b, hltext, hlstart⟩ :=
    (LineIndex.cutInto_ofText (before ++ part ++ after)).exists_line
      (by rw [String.toList_append, String.toList_append]) hnil hfeed
  have hprefix : a ++ part.toList <+: l.content := by
    refine Line.prefix_content ⟨b, hltext.symm⟩ fun c hc => hpart c ?_
    rw [List.getLast?_append_of_ne_nil _ hnil] at hc
    exact List.mem_of_getLast? hc
  rw [Nat.zero_add, Text.byteLength_toList] at hlstart
  refine ⟨⟨l, hl, a, (List.prefix_append ..).trans hprefix, ?_⟩,
    ⟨l, hl, a ++ part.toList, hprefix, ?_⟩⟩
  · rw [hstart, hlstart]
  · rw [hstop, Text.byteLength_append, Text.byteLength_toList, ← hlstart, Nat.add_assoc]

/-! ### What an editor is shown -/

namespace Destination

/-- The places of a destination, in order. -/
def places : Destination → List DocumentRange
  | nowhere => []
  | one place => [place]
  | several places => places

/-- Nothing is lost in telling one place from several. -/
@[simp] theorem places_ofPlaces (places : List DocumentRange) : (ofPlaces places).places = places := by
  unfold ofPlaces
  split <;> rfl

end Destination

/-- **A place shows a site as a name**: it has the URL of the file of the site, the two ends of its
range lead back to the span of the site in the current text of that file, and the name is what
stands there. -/
structure DocumentRange.Shows (a : Analysis) (place : DocumentRange) (s : Site) (name : String) :
    Prop where
  url : s.file.toUrl? = some place.url
  leadsBack : ∃ target, a.snapshot? s.file = some target ∧
    target.offsetOf? place.range.start = some s.span.start ∧
    target.offsetOf? place.range.stop = some s.span.stop ∧
    s.span.Spells target.text name

namespace Analysis

/-- A site that spells a name of a text is shown, if its file has a URL. -/
theorem UpToDate.placeOfSite?_cases {a : Analysis} (h : a.UpToDate) {s : Site} {t : Token}
    {text target : String} (ht : t ∈ (tokenize text).tokens) (hname : t.kind.isName = true)
    (htarget : (s.file, target) ∈ a.texts) (hspells : s.span.Spells target t.text) :
    (s.file.toUrl? = none ∧ a.placeOfSite? s = none) ∨
      ∃ place, a.placeOfSite? s = some place ∧ place.Shows a s t.text := by
  have hsnapshot := h.snapshot?_eq htarget
  have hne : t.text ≠ "" := by
    obtain ⟨before, after, htokens⟩ := List.append_of_mem ht
    have htiled := tiled_tokenize text
    rw [htokens] at htiled
    exact (Token.Tiled.append.1 htiled).2.1
  obtain ⟨hstart, hstop⟩ :=
    hspells.addressable hne fun c hc => not_isEnding_of_mem_name ht hname hc
  unfold placeOfSite? placeOf?
  rw [hsnapshot]
  cases hurl : s.file.toUrl? with
  | none => exact .inl ⟨rfl, rfl⟩
  | some url =>
    refine .inr ⟨_, rfl, hurl, _, hsnapshot, ?_, ?_, hspells⟩
    · exact LineIndex.offsetOf?_positionOf hstart
    · exact LineIndex.offsetOf?_positionOf hstop

/-- What is shown of some sites is what is shown of each, the sites that cannot be shown left
out. -/
theorem forall₂_placeOfSite? {a : Analysis} {sites : List Site} {R : Site → DocumentRange → Prop}
    (h : ∀ s ∈ sites, (s.file.toUrl? = none ∧ a.placeOfSite? s = none) ∨
      ∃ place, a.placeOfSite? s = some place ∧ s.file.toUrl? = some place.url ∧ R s place) :
    List.Forall₂ R (sites.filter fun s => s.file.toUrl?.isSome)
      (sites.filterMap a.placeOfSite?) := by
  induction sites with
  | nil => exact .nil
  | cons s sites ih =>
    have hrest := ih fun s' hs' => h s' (List.mem_cons_of_mem s hs')
    rcases h s List.mem_cons_self with ⟨hurl, hplace⟩ | ⟨place, hplace, hurl, hR⟩
    · rw [List.filter_cons_of_neg (by simp [hurl]), List.filterMap_cons_none hplace]
      exact hrest
    · rw [List.filter_cons_of_pos (by simp [hurl]), List.filterMap_cons_some hplace]
      exact .cons hR hrest

/-- A snapshot is that of its text, which is one of the texts. -/
theorem UpToDate.mem_texts_of_snapshot? {a : Analysis} (h : a.UpToDate) {file : FileId}
    {s : Snapshot} (hs : a.snapshot? file = some s) :
    (file, s.text) ∈ a.texts ∧ s.tokens = tokenize s.text := by
  have hentry := Table.mem_entries_of_get? hs
  exact ⟨List.mem_map_of_mem hentry, congrArg Snapshot.tokens (h.snapshots _ hentry)⟩

/-- **A definition is shown where it stands.** Whatever changes led to an analysis, what is shown
for an offset of a file, such as the offset of any position in it, are the sites that the name there
resolves to and whose files have a URL, in their order: each is shown as that name, in a range that
leads back to the bytes of the name in the current text of its file. Without a name nothing is
shown. -/
theorem definitionOf_ofChanges (changes : List AnalysisChange) (file : FileId) (offset : Nat)
    (policy : CandidatePolicy) :
    List.Forall₂
      (fun s place => ∃ name, (ofChanges changes).nameAt? file offset = some name ∧
        place.Shows (ofChanges changes) s name)
      (((ofChanges changes).resolve file offset policy).filter fun s => s.file.toUrl?.isSome)
      ((ofChanges changes).definitionOf file offset policy).places := by
  obtain ⟨h, -⟩ := texts_ofChanges changes
  rw [definitionOf, Destination.places_ofPlaces]
  refine forall₂_placeOfSite? fun s hs => ?_
  have hcandidate : s ∈ (ofChanges changes).candidates file offset := by
    cases policy with
    | first => exact List.mem_of_mem_take hs
    | all => exact hs
  -- there is a candidate, so there is a name, and the file is tracked
  cases hname : (ofChanges changes).nameAt? file offset with
  | none =>
    rw [candidates, hname] at hcandidate
    exact absurd hcandidate List.not_mem_nil
  | some name =>
    obtain ⟨snapshot, hsnapshot, htoken⟩ := Option.bind_eq_some_iff.1 hname
    obtain ⟨t, ht, rfl⟩ := Option.map_eq_some_iff.1 htoken
    obtain ⟨hmem, htokens⟩ := h.mem_texts_of_snapshot? hsnapshot
    rw [htokens] at ht
    obtain ⟨htmem, htname⟩ := TokenStream.mem_of_nameAt? ht
    obtain ⟨t', target, ht', htarget, hspells⟩ := h.spells_of_mem_candidates hmem hcandidate
    obtain rfl : t = t' := Option.some.inj (ht.symm.trans ht')
    rcases h.placeOfSite?_cases htmem htname htarget hspells with hnone | ⟨place, hplace, hshows⟩
    · exact .inl hnone
    · exact .inr ⟨place, hplace, hshows.url, _, rfl, hshows⟩

/-- A character outside the basic plane is two columns wide, and a carriage return is none of the
name in front of it. -/
example : ((ofChanges [.track ⟨"/a"⟩ "/* 𝕏 */ val f\r\n", .track ⟨"/b"⟩ "f"]).definitionOf
    ⟨"/b"⟩ 1 .all).places.map DocumentRange.range = [⟨⟨0, 13⟩, ⟨0, 14⟩⟩] := by
  decide +kernel

end Analysis

end SailNav
