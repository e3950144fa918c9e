import SailNav.Proofs.Token.Delimited
import SailNav.Proofs.Token.Piece

/-!
# Where a line starts

A directive opens an include region only if it is the first on its line, and the scanner knows this
by the tokens in front of it (`SailNav.startsLine`). The text in front of the directive nearly tells
the same (`SailNav.FirstOnLine`): there is only white space behind the last line feed.

The two differ in one case (`SailNav.startsLine_iff`). A line comment that goes on over an escaped
line feed takes it, and if a carriage return ends the comment at once, there is only white space
behind that line feed, but the token that has it is none. Nothing else that takes a line feed can
end like this. A string has a quote behind it, and white space behind an escaped line feed of an
include region is still in the region, and a directive there would be in it too
(`SailNav.inInclude_of_gap`).
-/

namespace SailNav

open Pattern

/-! ### White space on a line -/

/-- **Only white space stands at the end of a text** behind its last line feed, or behind its start
if it has none. -/
def FirstOnLine (text : List Char) : Prop :=
  ∃ a b, text = a ++ b ∧ (a = [] ∨ ['\n'] <:+ a) ∧ ∀ c ∈ b, blanks.contains c = true

/-- Whether the last line feed before a point is in a comment, by the tokens before the point, the
last one first. -/
def breaksInComment : List Token → Bool
  | [] => false
  | t :: before =>
    if t.text.toList.contains '\n' then t.kind == .comment else breaksInComment before

/-- Where a line starts by the tokens, it starts by the text. -/
theorem firstOnLine_joined {before : List Token} (h : startsLine before = true) :
    FirstOnLine (Token.joined before.reverse).toList := by
  induction before with
  | nil => exact ⟨[], [], rfl, .inl rfl, nofun⟩
  | cons t before ih =>
    rw [startsLine, Bool.and_eq_true, Bool.or_eq_true, Token.isSpace, List.all_eq_true] at h
    obtain ⟨hspace, hline | hstart⟩ := h
    · obtain ⟨x, y, hxy⟩ := List.append_of_mem (List.contains_iff_mem.1 hline)
      refine ⟨(Token.joined before.reverse).toList ++ (x ++ ['\n']), y, ?_, .inr ?_, ?_⟩
      · simp [hxy]
      · exact ⟨(Token.joined before.reverse).toList ++ x, List.append_assoc _ _ _⟩
      · exact fun c hc => hspace c (hxy ▸ List.mem_append_right x (List.mem_cons_of_mem _ hc))
    · obtain ⟨a, b, hab, ha, hb⟩ := ih hstart
      refine ⟨a, b ++ t.text.toList, ?_, ha, List.forall_mem_append.2 ⟨hb, hspace⟩⟩
      simp [hab]

/-- Where no line starts, white space on one line follows a token that is none. -/
theorem exists_of_startsLine_eq_false {before : List Token} (h : startsLine before = false) :
    ∃ later u earlier, before = later ++ u :: earlier ∧ u.isSpace = false ∧
      ∀ v ∈ later, v.isSpace = true ∧ '\n' ∉ v.text.toList := by
  induction before with
  | nil => cases h
  | cons t before ih =>
    cases hspace : t.isSpace with
    | false => exact ⟨[], t, before, rfl, hspace, nofun⟩
    | true =>
      rw [startsLine, hspace, Bool.true_and, Bool.or_eq_false_iff] at h
      obtain ⟨later, u, earlier, rfl, hu, hlater⟩ := ih h.2
      refine ⟨t :: later, u, earlier, rfl, hu, List.forall_mem_cons.2 ⟨⟨hspace, ?_⟩, hlater⟩⟩
      simpa using h.1

theorem breaksInComment_append {later before : List Token}
    (h : ∀ v ∈ later, '\n' ∉ v.text.toList) :
    breaksInComment (later ++ before) = breaksInComment before := by
  induction later with
  | nil => rfl
  | cons v later ih =>
    obtain ⟨hv, hlater⟩ := List.forall_mem_cons.1 h
    rw [List.cons_append, breaksInComment, if_neg (by simpa using hv), ih hlater]

/-- What is cut behind an element has it in the first part. -/
theorem exists_of_notMem {front rest a b : List Char} {c : Char} (h : front ++ c :: rest = a ++ b)
    (hc : c ∉ b) : ∃ z, a = front ++ c :: z ∧ rest = z ++ b := by
  rcases List.append_eq_append_iff.1 h with ⟨z, hz, hzb⟩ | ⟨z, -, hzb⟩
  · cases z with
    | nil =>
      rw [List.nil_append] at hzb
      exact absurd (hzb ▸ List.mem_cons_self) hc
    | cons d z =>
      rw [List.cons_append, List.cons.injEq] at hzb
      obtain ⟨rfl, hrest⟩ := hzb
      exact ⟨z, hz, hrest⟩
  · exact absurd (hzb ▸ List.mem_append_right z List.mem_cons_self) hc

/-- If a line starts behind a word that is not blank, and there is no line feed further behind, the
word has the line feed, with only white space behind it. -/
theorem exists_break {front word later : List Char} (h : FirstOnLine (front ++ (word ++ later)))
    (hword : word.all blanks.contains = false) (hlater : '\n' ∉ later) :
    ∃ x y, word = x ++ '\n' :: y ∧ ∀ c ∈ y, blanks.contains c = true := by
  obtain ⟨a, b, hab, ha, hb⟩ := h
  obtain ⟨c, hc, hblank⟩ := List.all_eq_false.1 hword
  obtain ⟨p, q, rfl⟩ := List.append_of_mem hc
  -- the character that is not blank stands in front of the line feed
  have hsplit : (front ++ p) ++ c :: (q ++ later) = a ++ b := by simpa using hab
  obtain ⟨z, rfl, hz⟩ := exists_of_notMem hsplit fun hcb => hblank (hb c hcb)
  have hline : ['\n'] <:+ c :: z := by
    refine List.suffix_of_suffix_length_le (ha.resolve_left (by simp)) (List.suffix_append _ _) ?_
    simp
  obtain ⟨x, rfl⟩ : ['\n'] <:+ z := by
    refine (List.suffix_cons_iff.1 hline).resolve_left fun heq => ?_
    rw [← (List.cons.inj heq).1] at hblank
    exact hblank rfl
  rw [List.append_assoc, List.singleton_append] at hz
  rcases cut_at_lineFeed hz with ⟨rest, hrest⟩ | ⟨y, rfl⟩
  · exact absurd (hrest ▸ List.mem_append_right rest List.mem_cons_self) hlater
  · refine ⟨p ++ c :: x, y, by simp, fun d hd => hb d ?_⟩
    rw [List.append_assoc, List.cons_append] at hz
    rw [← (List.cons.inj (List.append_cancel_left hz)).2]
    exact List.mem_append_left later hd

/-- No region ends at white space on a line that goes on. -/
theorem atEnd_of_gap {gap more : List Char} (hgap : ∀ c ∈ gap, blanks.contains c = true)
    (hline : '\n' ∉ gap) (hmore : ['$'] <+: more) : Include.atEnd (gap ++ more) = false := by
  obtain ⟨more, rfl⟩ := hmore
  rw [Bool.eq_false_iff]
  intro hend
  cases gap with
  | nil => cases hend
  | cons c gap =>
    have hc := hgap c List.mem_cons_self
    rcases Include.atEnd_iff.1 hend with (hnil | ⟨t, ht⟩ | ⟨t, ht⟩) | ⟨t, ht⟩ | ⟨t, ht⟩
    · cases hnil
    · exact hline ((List.cons.inj ht).1 ▸ List.mem_cons_self)
    · -- a line feed would follow the carriage return
      have ht' := (List.cons.inj ht).2
      cases gap with
      | nil => cases ht'
      | cons d gap =>
        exact hline (List.mem_cons_of_mem c ((List.cons.inj ht').1 ▸ List.mem_cons_self))
    all_goals
      rw [← (List.cons.inj ht).1] at hc
      cases hc

/-- **A region goes on over white space** on a line that goes on behind it. -/
theorem inInclude_of_gap {later earlier : List Token} {u : Token} {gap more : List Char}
    (hlater : ∀ v ∈ later, v.isSpace = true ∧ '\n' ∉ v.text.toList)
    (hgap : ∀ c ∈ gap, blanks.contains c = true) (hline : '\n' ∉ gap) (hmore : ['$'] <+: more)
    (h : inInclude earlier
      (u.text.toList ++ ((Token.joined later.reverse).toList ++ (gap ++ more))) = true) :
    inInclude (later ++ u :: earlier) (gap ++ more) = true := by
  induction later generalizing gap with
  | nil =>
    rw [List.reverse_nil, Token.joined_nil, String.toList_empty, List.nil_append] at h
    rw [List.nil_append, inInclude, atEnd_of_gap hgap hline hmore, h, Bool.or_true]
    rfl
  | cons v later ih =>
    obtain ⟨hv, hlater⟩ := List.forall_mem_cons.1 hlater
    have hregion : inInclude (later ++ u :: earlier) ((v.text.toList ++ gap) ++ more) = true :=
      ih hlater (List.forall_mem_append.2 ⟨List.all_eq_true.1 hv.1, hgap⟩)
        (by simpa using ⟨hv.2, hline⟩) (by simpa using h)
    rw [List.append_assoc] at hregion
    rw [List.cons_append, inInclude, atEnd_of_gap hgap hline hmore, hregion, Bool.or_true]
    rfl

section Tokens

variable {text : String} {before after : List Token} {t : Token}

/-- **White space is filler**, also in a region. -/
theorem kind_of_isSpace (h : (tokenize text).tokens = before.reverse ++ t :: after)
    (hspace : t.isSpace = true) : t.kind = .filler := by
  rw [Token.isSpace] at hspace
  cases hin : inInclude before (Token.joined (t :: after)).toList with
  | true =>
    obtain ⟨p, hp, htaken, hkind⟩ := tokenize_piece h hin
    rw [htaken, List.all_eq_true] at hspace
    rcases Include.piece?_cases hp with ⟨hfiller, -⟩ | ⟨-, hpath⟩
    · rw [hkind, if_pos hfiller]
    · exact absurd hspace hpath.not_blank
  | false =>
    rcases exists_word_of_tokens h hin with ⟨w, hw, -, ht⟩ | ⟨c, -, ht⟩
    · have htaken : t.text.toList = w.taken := ht.toList_text
      rw [htaken, ← eq_whitespace_iff hw.class_eq] at hspace
      have hkind : t.kind = w.kind.tokenKind := congrArg Token.kind ht
      rw [hkind, hspace]
      rfl
    · exact congrArg Token.kind ht

/-- No comment is white space. -/
theorem isSpace_of_comment (h : (tokenize text).tokens = before.reverse ++ t :: after)
    (hkind : t.kind = .comment) : t.isSpace = false := by
  rw [Bool.eq_false_iff]
  intro hspace
  cases hkind.symm.trans (kind_of_isSpace h hspace)

/-- What has a blank and is not white space is a comment or a string. -/
theorem kind_of_blank (h : (tokenize text).tokens = before.reverse ++ t :: after)
    (hout : inInclude before (Token.joined (t :: after)).toList = false)
    (hspace : t.isSpace = false) {c : Char} (hc : c ∈ t.text.toList)
    (hblank : blanks.contains c = true) : t.kind = .comment ∨ t.kind = .string := by
  rcases exists_word_of_tokens h hout with ⟨w, hw, -, ht⟩ | ⟨d, hstray, ht⟩
  · have hmay : ∀ e ∈ lexicon, " \t\r\n\x0c".toList.any e.2.mayContain = true →
        e.1 = .whitespace ∨ e.1.tokenKind = .comment ∨ e.1.tokenKind = .string := by
      decide
    obtain ⟨p, hp, hmatch⟩ := exists_matches_of_classOf? hw.class_eq
    have hkind : t.kind = w.kind.tokenKind := congrArg Token.kind ht
    have htaken : t.text.toList = w.taken := ht.toList_text
    rw [htaken] at hc
    rw [hkind]
    have hany : " \t\r\n\x0c".toList.any p.mayContain = true :=
      List.any_eq_true.2 ⟨c, CharSet.contains_oneOf_iff.1 hblank, hmatch.mayContain_of_mem hc⟩
    refine (hmay _ hp hany).resolve_left fun hwhite => ?_
    rw [Token.isSpace, htaken, (eq_whitespace_iff hw.class_eq).1 hwhite] at hspace
    cases hspace
  · rw [ht.toList_text, List.mem_singleton] at hc
    rw [hc, hstray.not_blank] at hblank
    cases hblank

/-- A string with a line feed has something behind it that is not blank. -/
theorem not_blank_of_string (h : (tokenize text).tokens = before.reverse ++ t :: after)
    (hout : inInclude before (Token.joined (t :: after)).toList = false) (hkind : t.kind = .string)
    (hafter : (Token.joined after).toList ≠ []) {x y : List Char}
    (hxy : t.text.toList = x ++ '\n' :: y) :
    ¬ ∀ c ∈ y, blanks.contains c = true := by
  intro hblank
  have hdelimited := isDelimited_of_tokens h hout
  obtain ⟨-, hextent⟩ :=
    hdelimited.string ((hdelimited.string_opening hkind).trans (List.prefix_append _ _))
  rw [hxy] at hextent
  generalize hword : x ++ '\n' :: y = word, (Token.joined after).toList = rest,
    t.unterminated = flag at hextent hafter
  cases hextent with
  | unclosed body _ => exact hafter rfl
  | closed body rest _ _ =>
    -- the quote that closes the string is the last character
    have hquote : ['"'] <:+ '\n' :: y :=
      List.suffix_of_suffix_length_le ⟨'"' :: body, hword.symm⟩ (List.suffix_append x _) (by simp)
    have hmem := hquote.subset (List.mem_singleton_self '"')
    exact absurd (hblank '"' (by simpa using hmem)) (by decide)

/-- No comment has the last line feed in front of a point where a line starts. -/
theorem breaksInComment_of_startsLine
    (hcomment : ∀ u ∈ before, u.kind = .comment → u.isSpace = false)
    (h : startsLine before = true) : breaksInComment before = false := by
  induction before with
  | nil => rfl
  | cons u before ih =>
    obtain ⟨hu, hcomment⟩ := List.forall_mem_cons.1 hcomment
    rw [startsLine, Bool.and_eq_true, Bool.or_eq_true] at h
    rw [breaksInComment]
    split
    · rw [beq_eq_false_iff_ne]
      intro hkind
      rw [hu hkind] at h
      cases h.1
    · next hline => exact ih hcomment (h.2.resolve_left hline)

/-- **A directive starts a line by the tokens** if it does by the text, unless the last line feed in
front of it is in a comment. -/
theorem startsLine_iff (h : (tokenize text).tokens = before.reverse ++ t :: after)
    (hkind : t.kind = .keywordOther) (hdollar : ['$'] <+: t.text.toList) :
    startsLine before = true ↔
      FirstOnLine (Token.joined before.reverse).toList ∧ breaksInComment before = false := by
  constructor
  · intro hstart
    refine ⟨firstOnLine_joined hstart, breaksInComment_of_startsLine (fun u hu hu' => ?_) hstart⟩
    obtain ⟨later, earlier, rfl⟩ := List.append_of_mem hu
    have hsplit : (tokenize text).tokens =
        earlier.reverse ++ u :: (later.reverse ++ t :: after) := by simpa using h
    exact isSpace_of_comment hsplit hu'
  · rintro ⟨hfirst, hbreak⟩
    by_contra hstart
    obtain ⟨later, u, earlier, rfl, hu, hlater⟩ :=
      exists_of_startsLine_eq_false (Bool.eq_false_iff.2 hstart)
    have hsplit : (tokenize text).tokens =
        earlier.reverse ++ u :: (later.reverse ++ t :: after) := by simpa using h
    have hmore : ['$'] <+: (Token.joined (t :: after)).toList := by
      rw [Token.joined_cons, String.toList_append]
      exact hdollar.trans (List.prefix_append _ _)
    cases hin : inInclude earlier (Token.joined (u :: (later.reverse ++ t :: after))).toList with
    | true =>
      -- then the directive is in the region too
      have hregion : inInclude (later ++ u :: earlier)
          ([] ++ (Token.joined (t :: after)).toList) = true :=
        inInclude_of_gap hlater nofun List.not_mem_nil hmore (by simpa using hin)
      rw [List.nil_append,
        inInclude_eq_false h (by rw [hkind]; decide) (by rw [hkind]; decide)] at hregion
      cases hregion
    | false =>
      have hfront : FirstOnLine ((Token.joined earlier.reverse).toList ++
          (u.text.toList ++ (Token.joined later.reverse).toList)) := by simpa using hfirst
      have hnone : '\n' ∉ (Token.joined later.reverse).toList := by
        rw [Token.mem_joined_iff]
        rintro ⟨v, hv, hline⟩
        exact (hlater v (List.mem_reverse.1 hv)).2 hline
      obtain ⟨x, y, hxy, hblank⟩ := exists_break hfront hu hnone
      have hline : '\n' ∈ u.text.toList := hxy ▸ List.mem_append_right x List.mem_cons_self
      rcases kind_of_blank hsplit hin hu hline rfl with hkind | hkind
      · rw [breaksInComment_append fun v hv => (hlater v hv).2, breaksInComment,
          if_pos (List.contains_iff_mem.2 hline), hkind] at hbreak
        cases hbreak
      · refine not_blank_of_string hsplit hin hkind (fun hnil => ?_) hxy hblank
        rw [Token.joined_append, String.toList_append] at hnil
        rw [(List.append_eq_nil_iff.1 hnil).2] at hmore
        cases List.prefix_nil.1 hmore

end Tokens

end SailNav
