import SailNav.Proofs.Token.Munch

/-!
# The seam at a line feed

What is read of a text does not reach over a line feed behind it, as a rule. Here are the
exceptions, for words and for the pieces of include regions.

* White space goes on over the line feed.
* A line comment does, if the line feed is escaped by a backslash
  (`SailNav.EndsInBackslash`).
* A string or block comment does, if it is still open at the end of the text. It is then a word of
  the text alone, and a faulty one.
* In an include region the last run of a text is cut short at its first character, since only a line
  feed or the like ends a run; and a carriage return at the end of the text is part of the line end.

In all other cases the next word of the text is the next word of the text alone
(`SailNav.IsLongestWord.seam`), and the same is true for a piece (`SailNav.Include.piece?_seam`).
-/

namespace SailNav

/-- **Whether a text would escape a line feed behind it**: it ends in a backslash, or in a backslash
and a carriage return. -/
def EndsInBackslash (text : List Char) : Prop := ['\\'] <:+ text ∨ ['\\', '\r'] <:+ text

instance (text : List Char) : Decidable (EndsInBackslash text) :=
  inferInstanceAs (Decidable (_ ∨ _))

/-- **Whether a character ends a line**, by what stands before and behind it: it is a line feed or a
carriage return, and not part of an escaped line end. -/
def EndsLine (before : List Char) (c : Char) (after : List Char) : Prop :=
  c = '\n' ∧ ¬ EndsInBackslash before ∨
    c = '\r' ∧ ¬ (['\\'] <:+ before ∧ ['\n'] <+: after)

/-- What ends a line ends it also if less stands around it. -/
theorem EndsLine.of_around {a a' b b' : List Char} {c : Char} (h : EndsLine a' c b')
    (ha : a <:+ a') (hb : b <+: b') : EndsLine a c b := by
  rcases h with ⟨hc, hend⟩ | ⟨hc, hend⟩
  · exact .inl ⟨hc, fun he => hend (he.imp (·.trans ha) (·.trans ha))⟩
  · exact .inr ⟨hc, fun he => hend ⟨he.1.trans ha, he.2.trans hb⟩⟩

/-! ### Words over the seam -/

namespace Pattern

variable {r u w : List Char}

/-- If a text does not end with the last character of a word, the word is longer. -/
theorem prefix_of_append_eq_concat {t x : List Char} {c : Char} (h : r ++ t = x ++ [c])
    (ht : t ≠ []) : r <+: x := by
  obtain ⟨t', d, rfl⟩ := (List.eq_nil_or_concat t).resolve_left ht
  rw [List.concat_eq_append, ← List.append_assoc] at h
  exact ⟨t', (List.append_inj' h rfl).1⟩

/-- What is in front of the first `*/` has none. -/
theorem not_closes_of_prefix (h : r <+: w) (hw : ¬ ['*', '/'] <:+: w) : ¬ ['*', '/'] <:+: r :=
  fun hr => hw (hr.trans h.isInfix)

/-- A string that is open was open before. -/
theorem staysOpen_of_append (h : staysOpen (w ++ u) = true) : staysOpen w = true := by
  fun_induction staysOpen w with
  | case1 => rfl
  | case2 c rest ih => exact ih h
  | case3 c rest hlone ih =>
    by_cases hslash : c = '\\'
    · -- a backslash that takes nothing with it is the last character
      cases rest with
      | nil =>
        subst hslash
        rfl
      | cons d rest => exact absurd rfl (hlone d rest hslash)
    · rw [List.cons_append, staysOpen_cons hslash, Bool.and_eq_true] at h
      rw [Bool.and_eq_true]
      exact ⟨h.1, ih h.2⟩

/-- What a word starts with is in front of a line feed in it, if it has none itself. -/
theorem exists_of_append_eq {a b : List Char} (h : r ++ '\n' :: u = a ++ b) (ha : '\n' ∉ a) :
    ∃ x, r = a ++ x ∧ b = x ++ '\n' :: u := by
  rcases List.append_eq_append_iff.1 h with ⟨x, hx, hb⟩ | h
  · cases x with
    | nil => exact ⟨[], by rw [hx]; simp, hb.symm⟩
    | cons c x =>
      obtain ⟨rfl, -⟩ := List.cons.inj hb
      exact absurd (hx ▸ List.mem_append_right r List.mem_cons_self) ha
  · exact h

theorem not_endsLine {a b : List Char} {c : Char} (hlf : c ≠ '\n') (hcr : c ≠ '\r') :
    ¬ EndsLine a c b :=
  fun h => h.elim (fun h => hlf h.1) fun h => hcr h.1

/-- In a text without a line end that is not escaped no character ends a line. -/
theorem not_endsLine_of_staysOnLine {a b : List Char} {c : Char}
    (h : staysOnLine (a ++ c :: b) = true) : ¬ EndsLine a c b := by
  generalize hx : a ++ c :: b = x at h
  fun_induction staysOnLine x generalizing a with
  | case1 => exact absurd (List.append_eq_nil_iff.1 hx).2 (List.cons_ne_nil c b)
  | case2 rest ih =>
    rcases a with _ | ⟨d, _ | ⟨e, a⟩⟩
    · cases hx
      exact not_endsLine (by decide) (by decide)
    · cases hx
      rintro (⟨-, hend⟩ | ⟨hc, -⟩)
      · exact hend (.inl (List.suffix_refl _))
      · cases hc
    · simp only [List.cons_append, List.cons.injEq] at hx
      exact fun hend => ih hx.2.2 h (hend.of_around ⟨[d, e], rfl⟩ List.prefix_rfl)
  | case3 rest ih =>
    rcases a with _ | ⟨d, _ | ⟨e, _ | ⟨f, a⟩⟩⟩
    · cases hx
      exact not_endsLine (by decide) (by decide)
    · cases hx
      rintro (⟨hc, -⟩ | ⟨-, hend⟩)
      · cases hc
      · exact hend ⟨List.suffix_refl _, rest, rfl⟩
    · cases hx
      rintro (⟨-, hend⟩ | ⟨hc, -⟩)
      · exact hend (.inr (List.suffix_refl _))
      · cases hc
    · simp only [List.cons_append, List.cons.injEq] at hx
      exact fun hend => ih hx.2.2.2 h (hend.of_around ⟨[d, e, f], rfl⟩ List.prefix_rfl)
  | case4 d rest _ _ ih =>
    simp only [Bool.and_eq_true, bne_iff_ne] at h
    cases a with
    | nil =>
      cases hx
      exact not_endsLine h.1.2 h.1.1
    | cons e a =>
      exact fun hend => ih (List.cons.inj hx).2 h.2 (hend.of_around ⟨[e], rfl⟩ List.prefix_rfl)

/-- A line comment goes on over a line feed only if it is escaped. -/
theorem Matches.endsInBackslash (h : lineComment.Matches (r ++ '\n' :: u)) : EndsInBackslash r := by
  by_contra hend
  exact not_endsLine_of_staysOnLine (matches_lineComment_iff.1 h).2 (.inl ⟨rfl, hend⟩)

/-- A block comment goes on over a line feed only if it is open there. -/
theorem openBlockComment_of_seam
    (h : blockComment.Matches (r ++ '\n' :: u) ∨ openBlockComment.Matches (r ++ '\n' :: u)) :
    openBlockComment.Matches r := by
  have hbody : ∃ b x, r ++ '\n' :: u = ['/', '*'] ++ b ∧ ¬ ['*', '/'] <:+: x ∧
      ∀ y, b = y ++ '\n' :: u → y <+: x := by
    rcases h with h | h
    · obtain ⟨x, hx, hopen⟩ := matches_blockComment_iff.1 h
      refine ⟨x ++ ['*', '/'], x ++ ['*'], hx, hopen, fun y hy => ?_⟩
      rw [List.append_cons x] at hy
      exact prefix_of_append_eq_concat hy.symm (List.cons_ne_nil _ _)
    · obtain ⟨x, hx, hopen⟩ := matches_openBlockComment_iff.1 h
      exact ⟨x, x, hx, hopen, fun y hy => ⟨_, hy.symm⟩⟩
  obtain ⟨b, x, hb, hopen, hpre⟩ := hbody
  obtain ⟨y, rfl, hy⟩ := exists_of_append_eq hb (by decide)
  exact matches_openBlockComment_iff.2 ⟨y, rfl, not_closes_of_prefix (hpre y hy) hopen⟩

/-- A string goes on over a line feed only if it is open there. -/
theorem openString_of_seam
    (h : string.Matches (r ++ '\n' :: u) ∨ openString.Matches (r ++ '\n' :: u)) :
    openString.Matches r := by
  have hbody : ∃ b x, r ++ '\n' :: u = ['"'] ++ b ∧ staysOpen x = true ∧
      ∀ y, b = y ++ '\n' :: u → y <+: x := by
    rcases h with h | h
    · obtain ⟨x, hx, hopen, -⟩ := matches_string_iff.1 h
      refine ⟨x ++ ['"'], x, hx, hopen, fun y hy => ?_⟩
      exact prefix_of_append_eq_concat hy.symm (List.cons_ne_nil _ _)
    · obtain ⟨x, hx, hopen⟩ := matches_openString_iff.1 h
      exact ⟨x, x, hx, hopen, fun y hy => ⟨_, hy.symm⟩⟩
  obtain ⟨b, x, hb, hopen, hpre⟩ := hbody
  obtain ⟨y, rfl, hy⟩ := exists_of_append_eq hb (by decide)
  obtain ⟨t, rfl⟩ := hpre y hy
  exact matches_openString_iff.2 ⟨y, rfl, staysOpen_of_append hopen⟩

/-- **What a word leaves in front of a line feed that it goes on over**: white space, or something
that is open there. -/
theorem seam_cases {e : LexClass × Pattern} (he : e ∈ lexicon) (h : e.2.Matches (r ++ '\n' :: u))
    (hend : ¬ EndsInBackslash r) :
    (∀ c ∈ r, blanks.contains c = true) ∨ openBlockComment.Matches r ∨ openString.Matches r := by
  have hmay : ∀ e ∈ lexicon, e.2.mayContain '\n' = true → e.2 = whitespace ∨ e.2 = lineComment ∨
      (e.2 = blockComment ∨ e.2 = openBlockComment) ∨ e.2 = string ∨ e.2 = openString := by
    decide
  have hline : '\n' ∈ r ++ '\n' :: u := List.mem_append_right r List.mem_cons_self
  obtain hp | hp | (hp | hp) | hp | hp := hmay e he (h.mayContain_of_mem hline)
  all_goals rw [hp] at h
  · exact .inl fun c hc => (matches_whitespace_iff.1 h).2 c (List.mem_append_left _ hc)
  · exact absurd h.endsInBackslash hend
  · exact .inr (.inl (openBlockComment_of_seam (.inl h)))
  · exact .inr (.inl (openBlockComment_of_seam (.inr h)))
  · exact .inr (.inr (openString_of_seam (.inl h)))
  · exact .inr (.inr (openString_of_seam (.inr h)))

end Pattern

/-! ### The longest word -/

/-- The longest word of a text is that of any shorter text that it lies in. -/
theorem IsLongestWord.of_append {text more rest : List Char} {w : LexWord}
    (h : IsLongestWord (text ++ more) w) (hrest : w.rest = rest ++ more) :
    IsLongestWord text ⟨w.kind, w.taken, rest⟩ where
  append := by
    have happ := h.append
    rw [hrest, ← List.append_assoc] at happ
    exact List.append_cancel_right happ
  ne_nil := h.ne_nil
  class_eq := h.class_eq
  longer u rest' hu hne := by
    refine h.longer u (rest' ++ more) ?_ hne
    rw [hrest, show rest = u ++ rest' from hu, List.append_assoc]

/-- Of two parts of a text the second has a given line feed, or else the first. -/
theorem cut_at_lineFeed {a b text more : List Char} (h : a ++ b = text ++ '\n' :: more) :
    (∃ rest, b = rest ++ '\n' :: more) ∨ ∃ further, a = text ++ '\n' :: further := by
  rcases List.append_eq_append_iff.1 h with ⟨rest, -, hb⟩ | ⟨further, ha, hfurther⟩
  · exact .inl ⟨rest, hb⟩
  · cases further with
    | nil => exact .inl ⟨[], hfurther.symm⟩
    | cons c further =>
      obtain ⟨rfl, -⟩ := List.cons.inj hfurther
      exact .inr ⟨further, ha⟩

/-- A text that is a word as a whole is its own longest word. -/
theorem isLongestWord_self {text : List Char} {kind : LexClass} {p : Pattern}
    (hp : (kind, p) ∈ lexicon) (hkind : kind ≠ .identifier) (h : p.Matches text) :
    IsLongestWord text ⟨kind, text, []⟩ where
  append := List.append_nil text
  ne_nil := ne_nil_of_matches hp h
  class_eq := (classOf?_eq_some_iff hp hkind).2 h
  longer _ _ hu hne := absurd (List.append_eq_nil_iff.1 hu.symm).1 hne

/-- **The next word in front of a line feed** is the next word of the text alone, unless this text
is white space, or is a comment or string that is still open. -/
theorem IsLongestWord.seam {text more : List Char} {w : LexWord}
    (h : IsLongestWord (text ++ '\n' :: more) w) (hend : ¬ EndsInBackslash text) :
    (∃ rest, w.rest = rest ++ '\n' :: more ∧ IsLongestWord text ⟨w.kind, w.taken, rest⟩) ∨
    (∀ c ∈ text, Pattern.blanks.contains c = true) ∨
    ∃ v, IsLongestWord text v ∧ (v.kind = .openBlockComment ∨ v.kind = .openString) := by
  obtain ⟨rest, hrest⟩ | ⟨further, htaken⟩ := cut_at_lineFeed h.append
  · exact .inl ⟨rest, hrest, h.of_append hrest⟩
  · obtain ⟨p, hp, hword⟩ := exists_matches_of_classOf? h.class_eq
    rw [htaken] at hword
    rcases Pattern.seam_cases hp hword hend with hblank | hopen | hopen
    · exact .inr (.inl hblank)
    · exact .inr (.inr ⟨_, isLongestWord_self (by decide) (by decide) hopen, .inl rfl⟩)
    · exact .inr (.inr ⟨_, isLongestWord_self (by decide) (by decide) hopen, .inr rfl⟩)

/-- **White space is a longest word** if no more of it follows. -/
theorem isLongestWord_whitespace {word rest : List Char} (hne : word ≠ [])
    (hword : ∀ c ∈ word, Pattern.blanks.contains c = true)
    (hrest : ∀ c t, rest = c :: t → Pattern.blanks.contains c = false) :
    IsLongestWord (word ++ rest) ⟨.whitespace, word, rest⟩ where
  append := rfl
  ne_nil := hne
  class_eq := classOf?_eq_whitespace_iff.2 ⟨hne, hword⟩
  longer u rest' hu hune := by
    have hapart : ∀ e ∈ lexicon, e.2 = .whitespace ∨ Pattern.whitespace.apart e.2 = true := by
      decide
    rw [classOf?_eq_none_iff]
    intro e he hmatch
    rcases hapart e he with heq | hapart
    · -- then what follows the word is blank
      rw [heq] at hmatch
      have hall := (Pattern.matches_whitespace_iff.1 hmatch).2
      cases u with
      | nil => exact hune rfl
      | cons c u =>
        have hc := hall c (List.mem_append_right word List.mem_cons_self)
        rw [hrest c (u ++ rest') hu] at hc
        cases hc
    · cases word with
      | nil => exact hne rfl
      | cons c word =>
        have hc : Pattern.whitespace.Matches [c] :=
          Pattern.matches_whitespace_iff.2 ⟨List.cons_ne_nil c [], by simpa using hword c⟩
        exact Pattern.not_matches_of_apart hapart hc hmatch

/-! ### The pieces of an include region -/

/-- A run of characters ends at the latest where one stands that stops it. -/
theorem takeWhile_append_cons {p : Char → Bool} {c : Char} (hc : p c = false)
    (text more : List Char) :
    (text ++ c :: more).takeWhile p = text.takeWhile p ∧
      (text ++ c :: more).dropWhile p = text.dropWhile p ++ c :: more := by
  induction text with
  | nil => simp [hc]
  | cons d text ih =>
    rw [List.cons_append, List.takeWhile_cons, List.takeWhile_cons, List.dropWhile_cons,
      List.dropWhile_cons, ih.1, ih.2]
    split <;> exact ⟨rfl, rfl⟩

namespace Include

variable {text more : List Char}

/-- The end of a region is seen without what follows the line feed behind the text, but for a
carriage return in front of the line feed. -/
theorem atEnd_append (hne : text ≠ []) (hcr : text ≠ ['\r']) :
    atEnd (text ++ '\n' :: more) = atEnd text := by
  match text with
  | [] => exact absurd rfl hne
  | [c] =>
    unfold atEnd
    split <;> simp_all
  | c :: d :: text =>
    unfold atEnd
    split <;> simp_all

/-- What is no path is filler. -/
theorem kind_eq_filler {c : Char} {p : Piece} (h : piece? (c :: text) = some p)
    (hquote : c ≠ '"') (hangle : c ≠ '<') : p.kind = .filler := by
  unfold piece? at h
  split at h
  · cases h
  · split at h
    · cases h
    · cases h
      rfl
    · cases h
      rfl
    · next heq =>
      obtain ⟨rfl, rfl⟩ := List.cons.inj heq
      cases h
      unfold innerPiece
      rw [if_neg hquote, if_neg hangle]
      unfold otherPiece
      split
      · rfl
      · split <;> rfl

/-- What stops no run is other text. -/
theorem piece?_of_run {c : Char} (hc : stopsRun c = false) :
    piece? (c :: text) = some (otherPiece c text) := by
  have hin (d : Char) (hd : stopsRun d = true) : c ≠ d := by
    rintro rfl
    exact Bool.false_ne_true (hc.symm.trans hd)
  have hregion : atEnd (c :: text) = false := by
    unfold atEnd
    split
    · next h => cases h
    · next h => exact absurd (List.cons.inj h).1 (hin _ rfl)
    · next h => exact absurd (List.cons.inj h).1 (hin _ rfl)
    · next h => exact absurd (List.cons.inj h).1 (hin _ rfl)
    · next h => exact absurd (List.cons.inj h).1 (hin _ rfl)
    · rfl
  have hgap : isGap c = false := by simp [isGap, hin ' ' rfl, hin '\t' rfl]
  rw [piece?_cons (hin _ rfl) hregion, innerPiece, hgap, if_neg Bool.false_ne_true,
    if_neg (hin _ rfl), if_neg (hin _ rfl)]

/-- A quoted path that is closed does not depend on what follows it. -/
theorem quotedPath_seam {taken : List Char} (h : (quotedPath taken text).kind = .path) :
    quotedPath taken (text ++ more) =
      { quotedPath taken text with rest := (quotedPath taken text).rest ++ more } := by
  fun_induction quotedPath taken text with
  | case1 taken => cases h
  | case2 taken rest => rfl
  | case3 rest taken => cases h
  | case4 rest taken _ => cases h
  | case5 taken rest => cases h
  | case6 taken c rest hc ih =>
    rw [← ih h, List.cons_append, List.cons_append, quotedPath, if_neg hc]
  | case7 taken c rest hquote hline hslash ih =>
    rw [← ih h, List.cons_append]
    refine quotedPath.eq_6 taken c (rest ++ more) hquote hline fun d further hc _ => ?_
    cases rest with
    | nil => cases h
    | cons d rest => exact hslash d rest hc rfl

theorem anglePath?_seam :
    anglePath? (text ++ '\n' :: more) =
      (anglePath? text).map fun p => { p with rest := p.rest ++ '\n' :: more } := by
  unfold anglePath?
  dsimp only
  obtain ⟨htake, hdrop⟩ := takeWhile_append_cons
    (p := fun c => c != '>' && c != '\r' && c != '\n') (c := '\n') rfl text more
  rw [htake, hdrop]
  cases hrest : text.dropWhile fun c => c != '>' && c != '\r' && c != '\n' with
  | nil => rfl
  | cons c rest =>
    by_cases hc : c = '>'
    · subst hc
      rfl
    · simp [hc]

theorem quotedPath_kind_ne_filler (taken text : List Char) :
    (quotedPath taken text).kind ≠ .filler := by
  fun_induction quotedPath taken text with
  | case6 | case7 => assumption
  | _ => exact PieceKind.noConfusion

/-- An inner piece in front of a line feed is that of the text alone, unless the text is one run. -/
theorem innerPiece_seam {c : Char} (h : (innerPiece c text).kind ≠ .openPath) :
    innerPiece c (text ++ '\n' :: more) =
        { innerPiece c text with rest := (innerPiece c text).rest ++ '\n' :: more } ∨
      ∀ d ∈ c :: text, stopsRun d = false := by
  unfold innerPiece at h ⊢
  split at h
  · next hgap =>
    obtain ⟨htake, hdrop⟩ := takeWhile_append_cons (p := isGap) (c := '\n') rfl text more
    rw [if_pos hgap, if_pos hgap, htake, hdrop]
    exact .inl rfl
  · next hgap =>
    rw [if_neg hgap, if_neg hgap]
    split at h
    · next hquote =>
      rw [if_pos hquote, if_pos hquote]
      have hpath : (quotedPath ['"'] text).kind = .path := by
        cases hkind : (quotedPath ['"'] text).kind with
        | path => rfl
        | openPath => exact absurd hkind h
        | filler => exact absurd hkind (quotedPath_kind_ne_filler _ _)
      rw [quotedPath_seam hpath]
      exact .inl rfl
    · next hquote =>
      rw [if_neg hquote, if_neg hquote]
      split
      · rw [anglePath?_seam]
        left
        cases anglePath? text <;> rfl
      · unfold otherPiece
        by_cases hc : stopsRun c = true
        · simp [hc]
        · by_cases hany : text.any stopsRun = true
          · left
            obtain ⟨htake, hdrop⟩ := takeWhile_append_cons
              (p := (!stopsRun ·)) (c := '\n') rfl text more
            simp [hc, hany, htake, hdrop]
          · right
            simpa [hc] using hany

/-- A backslash that escapes no line end is a piece of its own. -/
theorem piece?_slash (hlf : ∀ t, text ≠ '\n' :: t) (hcr : ∀ t, text ≠ '\r' :: '\n' :: t) :
    piece? ('\\' :: text) = some ⟨.filler, ['\\'], text⟩ := by
  unfold piece?
  split
  · next h => cases h
  · split
    · next h => cases h
    · next h => exact absurd (List.cons.inj h).2 (hlf _)
    · next h => exact absurd (List.cons.inj h).2 (hcr _)
    · next h =>
      obtain ⟨rfl, rfl⟩ := List.cons.inj h
      rfl

/-- **The next piece in front of a line feed** is the next piece of the text alone, unless the text
is a carriage return, or is one run of other text. -/
theorem piece?_seam {p : Piece} (h : piece? text = some p) (hpath : p.kind ≠ .openPath)
    (hend : ¬ EndsInBackslash text) (more : List Char) :
    piece? (text ++ '\n' :: more) = some { p with rest := p.rest ++ '\n' :: more } ∨
      text = ['\r'] ∨ ∀ c ∈ text, stopsRun c = false := by
  by_cases hcr : text = ['\r']
  · exact .inr (.inl hcr)
  cases text with
  | nil => cases h
  | cons c rest =>
    by_cases hslash : c = '\\'
    · subst hslash
      left
      cases rest with
      | nil => exact absurd (.inl (List.suffix_refl _)) hend
      | cons d rest =>
        by_cases hlf : d = '\n'
        · subst hlf
          cases h
          rfl
        by_cases hcrlf : ∃ t, d :: rest = '\r' :: '\n' :: t
        · obtain ⟨t, ht⟩ := hcrlf
          cases ht
          cases h
          rfl
        rw [piece?_slash (fun t ht => hlf (List.cons.inj ht).1) fun t ht => hcrlf ⟨t, ht⟩] at h
        cases h
        refine piece?_slash (fun t ht => hlf (List.cons.inj ht).1) fun t ht => ?_
        obtain ⟨rfl, hrest⟩ := List.cons.inj ht
        cases rest with
        | nil => exact hend (.inr (List.suffix_refl _))
        | cons e rest => exact hcrlf ⟨rest, by rw [(List.cons.inj hrest).1]⟩
    · have hregion := atEnd_of_piece? h
      have hregion' : atEnd (c :: (rest ++ '\n' :: more)) = false :=
        (atEnd_append (List.cons_ne_nil c rest) hcr).trans hregion
      rw [piece?_cons hslash hregion, Option.some_inj] at h
      subst h
      rw [List.cons_append, piece?_cons hslash hregion', Option.some_inj]
      exact (innerPiece_seam hpath).imp_right .inr

end Include

end SailNav
