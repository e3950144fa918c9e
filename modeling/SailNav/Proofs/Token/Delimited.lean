import SailNav.Proofs.Token.Cursor
import SailNav.Proofs.Token.Seam

/-!
# Where comments and strings end

Comments and strings are the tokens whose text is not looked into, so it matters to the byte where
they end. The lexicon says it only through the longest word of several patterns that start alike.
Here it is said directly, by the text behind the opening.

* A line comment ends right before the first character that ends its line
  (`SailNav.EndsLine`), or at the end of the text.
* A block comment ends right behind the first `*/` from its third character on.
* A string ends right behind the first quote that no backslash takes with it
  (`SailNav.Pattern.staysOpen`).

If there is nothing to close a block comment or a string, it takes the rest of the text and is
flagged. This holds of every token outside include regions (`SailNav.tokenize_delimited`), and no
other token has a byte of it.
-/

namespace SailNav

/-! ### The longest word -/

namespace IsLongestWord

variable {text : List Char} {w : LexWord} {e : LexClass × Pattern}

/-- No word goes on behind the longest one. -/
theorem not_matches_append (h : IsLongestWord text w) (he : e ∈ lexicon) {u rest : List Char}
    (hrest : w.rest = u ++ rest) (hne : u ≠ []) : ¬ e.2.Matches (w.taken ++ u) :=
  classOf?_eq_none_iff.1 (h.longer u rest hrest hne) e he

/-- The longest word starts with every word that the text starts with. -/
theorem prefix_taken (h : IsLongestWord text w) (he : e ∈ lexicon) {word : List Char}
    (hword : e.2.Matches word) (htext : word <+: text) : word <+: w.taken :=
  List.prefix_of_prefix_length_le htext ⟨w.rest, h.append⟩
    (h.munches.longest e he word htext hword)

/-- If a text starts with a word, the class of the longest word has words that start like it. -/
theorem exists_matches (h : IsLongestWord text w) (he : e ∈ lexicon) {word : List Char}
    (hword : e.2.Matches word) (htext : word <+: text) :
    ∃ d ∈ lexicon, d.1 = w.kind ∧ d.2.Matches w.taken ∧ e.2.apart d.2 = false := by
  obtain ⟨p, hp, hmatch⟩ := exists_matches_of_classOf? h.class_eq
  refine ⟨(w.kind, p), hp, rfl, hmatch, ?_⟩
  obtain ⟨u, hu⟩ := h.prefix_taken he hword htext
  cases word with
  | nil => exact absurd rfl (ne_nil_of_matches he hword)
  | cons c word =>
    rw [← hu] at hmatch
    exact Bool.eq_false_iff.2 fun hapart => Pattern.not_matches_of_apart hapart hword hmatch

end IsLongestWord

/-! ### Line comments -/

open Pattern

/-- **The extent of a line comment**: no character in it ends the line, and the one behind it, if
there is one, does. -/
structure IsLineExtent (word rest : List Char) : Prop where
  inside : ∀ a c b, word = a ++ c :: b → ¬ EndsLine a c (b ++ rest)
  ends : ∀ c b, rest = c :: b → EndsLine word c b

/-- If a part of a line cannot be made longer, the character behind it ends the line. -/
theorem endsLine_of_staysOnLine {word : List Char} {c : Char} {b : List Char}
    (hword : staysOnLine word = true)
    (hmax : ∀ u more, c :: b = u ++ more → u ≠ [] → staysOnLine (word ++ u) = false) :
    EndsLine word c b := by
  -- what a backslash at the end escapes could be taken as well
  have hescaped {y u more : List Char} (hy : word = y ++ ['\\']) (hb : c :: b = u ++ more)
      (hu : u ≠ []) : staysOnLine ('\\' :: u) = false := by
    have hlonger := hmax u more hb hu
    rw [hy, staysOnLine_append_slash, Bool.and_eq_true] at hword
    rwa [hy, List.append_assoc, List.singleton_append, staysOnLine_append_slash, hword.1,
      Bool.true_and] at hlonger
  by_contra hend
  by_cases hlf : c = '\n'
  · subst hlf
    have hback : EndsInBackslash word := by
      by_contra hback
      exact hend (.inl ⟨rfl, hback⟩)
    rcases hback with ⟨y, hy⟩ | ⟨y, rfl⟩
    · exact absurd (hescaped hy.symm (u := ['\n']) rfl (List.cons_ne_nil _ _)) (by decide)
    · rw [staysOnLine_append_slash, Bool.and_eq_true] at hword
      exact absurd hword.2 (by decide)
  by_cases hcr : c = '\r'
  · subst hcr
    have hback : ['\\'] <:+ word ∧ ['\n'] <+: b := by
      by_contra hback
      exact hend (.inr ⟨rfl, hback⟩)
    obtain ⟨⟨y, hy⟩, more, rfl⟩ := hback
    exact absurd (hescaped hy.symm (u := ['\r', '\n']) rfl (List.cons_ne_nil _ _)) (by decide)
  · have hlonger := hmax [c] b rfl (List.cons_ne_nil c [])
    rw [staysOnLine_append (by simpa using hcr) (by simpa using hlf), hword,
      Bool.true_and] at hlonger
    simp [staysOnLine, hcr, hlf] at hlonger

/-- **A line comment is the next word wherever two slashes stand**, and goes on to the end of the
line. -/
theorem IsLongestWord.line {text : List Char} {w : LexWord} (h : IsLongestWord text w)
    (hopen : ['/', '/'] <+: text) : w.kind = .lineComment ∧ IsLineExtent w.taken w.rest := by
  have hmem : (LexClass.lineComment, Pattern.lineComment) ∈ lexicon := by decide
  have hslashes : lineComment.Matches ['/', '/'] := by decide
  obtain ⟨d, hd, hkind, hmatch, hapart⟩ := h.exists_matches hmem hslashes hopen
  obtain ⟨x, hx⟩ := h.prefix_taken hmem hslashes hopen
  have hcases : ∀ d ∈ lexicon, lineComment.apart d.2 = false →
      d = (.lineComment, .lineComment) ∨ d = (.blockComment, .blockComment) ∨
        d = (.openBlockComment, .openBlockComment) := by
    decide
  obtain rfl | rfl | rfl := hcases d hd hapart
  · obtain ⟨-, hline⟩ := matches_lineComment_iff.1 hmatch
    refine ⟨hkind.symm, fun a c b hword => ?_, fun c b hrest => ?_⟩
    · rw [hword] at hline
      exact fun hend => not_endsLine_of_staysOnLine hline
        (hend.of_around List.suffix_rfl (List.prefix_append b w.rest))
    · refine endsLine_of_staysOnLine hline fun u more hu hne => ?_
      rw [Bool.eq_false_iff]
      intro hlonger
      refine h.not_matches_append hmem (hrest.trans hu) hne ?_
      exact matches_lineComment_iff.2 ⟨⟨x ++ u, by rw [← hx, List.append_assoc]⟩, hlonger⟩
  · obtain ⟨y, hy, -⟩ := matches_blockComment_iff.1 hmatch
    rw [← hx] at hy
    cases hy
  · obtain ⟨y, hy, -⟩ := matches_openBlockComment_iff.1 hmatch
    rw [← hx] at hy
    cases hy

/-! ### Block comments -/

/-- **The extent of a block comment**: up to the first `*/` from its third character on, or up to
the end of the text if there is none, and then it is flagged. -/
inductive IsBlockExtent : (word rest : List Char) → (unterminated : Bool) → Prop
  /-- The comment has the closing at its end and nowhere before. -/
  | closed (body rest : List Char) : ¬ ['*', '/'] <:+: body ++ ['*'] →
      IsBlockExtent ('/' :: '*' :: (body ++ ['*', '/'])) rest false
  /-- The text has no closing. -/
  | unclosed (body : List Char) : ¬ ['*', '/'] <:+: body →
      IsBlockExtent ('/' :: '*' :: body) [] true

/-- What is closed by its last character ends in a star and a slash. -/
theorem eq_of_closes_concat {body : List Char} {c : Char} (hopen : ¬ ['*', '/'] <:+: body)
    (h : ['*', '/'] <:+: body ++ [c]) : ∃ y, body = y ++ ['*'] ∧ c = '/' := by
  obtain ⟨y, t, ht⟩ := h
  by_cases hnil : t = []
  · rw [hnil, List.append_nil, List.append_cons] at ht
    obtain ⟨hbody, hc⟩ := List.append_inj' ht rfl
    exact ⟨y, hbody.symm, (List.cons.inj hc).1.symm⟩
  · have hbody := prefix_of_append_eq_concat ht hnil
    exact absurd ((List.suffix_append y _).isInfix.trans hbody.isInfix) hopen

/-- **A block comment is the next word wherever a slash and a star stand**, and goes on to the first
closing. -/
theorem IsLongestWord.block {text : List Char} {w : LexWord} (h : IsLongestWord text w)
    (hopen : ['/', '*'] <+: text) :
    w.kind = .blockComment ∧ IsBlockExtent w.taken w.rest false ∨
      w.kind = .openBlockComment ∧ IsBlockExtent w.taken w.rest true := by
  have hmem : (LexClass.openBlockComment, openBlockComment) ∈ lexicon := by decide
  have hclosed : (LexClass.blockComment, blockComment) ∈ lexicon := by decide
  have hopening : openBlockComment.Matches ['/', '*'] := by decide
  obtain ⟨d, hd, hkind, hmatch, hapart⟩ := h.exists_matches hmem hopening hopen
  obtain ⟨x, hx⟩ := h.prefix_taken hmem hopening hopen
  have hcases : ∀ d ∈ lexicon, openBlockComment.apart d.2 = false →
      d = (.lineComment, .lineComment) ∨ d = (.blockComment, .blockComment) ∨
        d = (.openBlockComment, .openBlockComment) := by
    decide
  obtain rfl | rfl | rfl := hcases d hd hapart
  · obtain ⟨⟨y, hy⟩, -⟩ := matches_lineComment_iff.1 hmatch
    rw [← hx] at hy
    cases hy
  · obtain ⟨body, hword, hbody⟩ := matches_blockComment_iff.1 hmatch
    rw [hword]
    exact .inl ⟨hkind.symm, .closed body w.rest hbody⟩
  · obtain ⟨body, hword, hbody⟩ := matches_openBlockComment_iff.1 hmatch
    refine .inr ⟨hkind.symm, ?_⟩
    cases hrest : w.rest with
    | nil =>
      rw [hword]
      exact .unclosed body hbody
    | cons c b =>
      -- then a longer word could be read, be it open or closed
      have hone : w.rest = [c] ++ b := hrest
      have hcloses : ['*', '/'] <:+: body ++ [c] := by
        by_contra hnone
        refine h.not_matches_append hmem hone (List.cons_ne_nil c []) ?_
        exact matches_openBlockComment_iff.2 ⟨body ++ [c], by rw [hword]; rfl, hnone⟩
      obtain ⟨y, rfl, rfl⟩ := eq_of_closes_concat hbody hcloses
      refine absurd ?_ (h.not_matches_append hclosed hone (List.cons_ne_nil _ []))
      exact matches_blockComment_iff.2 ⟨y, by rw [hword]; simp, hbody⟩

/-! ### Strings -/

/-- **The extent of a string**: up to the first quote that no backslash takes with it, or up to the
end of the text if there is none, and then it is flagged. -/
inductive IsStringExtent : (word rest : List Char) → (unterminated : Bool) → Prop
  /-- The last quote of the string closes it, and nothing before does. -/
  | closed (body rest : List Char) : staysOpen body = true → staysOpen (body ++ ['"']) = false →
      IsStringExtent ('"' :: (body ++ ['"'])) rest false
  /-- Nothing in the text closes the string. -/
  | unclosed (body : List Char) : staysOpen body = true → IsStringExtent ('"' :: body) [] true

/-- Only a quote closes a string. -/
theorem eq_of_not_staysOpen {body : List Char} {c : Char} (hopen : staysOpen body = true)
    (h : staysOpen (body ++ [c]) = false) : c = '"' := by
  obtain ⟨y, z, rfl, hy, hz⟩ := exists_body_of_staysOpen hopen
  rw [List.append_assoc, hy.staysOpen_append] at h
  rcases matches_alt_iff.1 hz with hz | hz
  · rw [matches_char_iff.1 hz] at h
    cases h
  · rw [matches_blank_iff.1 hz, List.nil_append] at h
    by_contra hc
    simp [staysOpen, hc] at h

/-- **A string is the next word wherever a quote stands**, and goes on to the first quote that
closes it. -/
theorem IsLongestWord.quoted {text : List Char} {w : LexWord} (h : IsLongestWord text w)
    (hopen : ['"'] <+: text) :
    w.kind = .string ∧ IsStringExtent w.taken w.rest false ∨
      w.kind = .openString ∧ IsStringExtent w.taken w.rest true := by
  have hmem : (LexClass.openString, openString) ∈ lexicon := by decide
  have hclosed : (LexClass.string, string) ∈ lexicon := by decide
  have hquote : openString.Matches ['"'] := by decide
  obtain ⟨d, hd, hkind, hmatch, hapart⟩ := h.exists_matches hmem hquote hopen
  have hcases : ∀ d ∈ lexicon, openString.apart d.2 = false →
      d = (.string, string) ∨ d = (.openString, openString) := by
    decide
  obtain rfl | rfl := hcases d hd hapart
  · obtain ⟨body, hword, hbody, hend⟩ := matches_string_iff.1 hmatch
    rw [hword]
    exact .inl ⟨hkind.symm, .closed body w.rest hbody hend⟩
  · obtain ⟨body, hword, hbody⟩ := matches_openString_iff.1 hmatch
    refine .inr ⟨hkind.symm, ?_⟩
    cases hrest : w.rest with
    | nil =>
      rw [hword]
      exact .unclosed body hbody
    | cons c b =>
      -- then a longer word could be read, be it open or closed
      have hone : w.rest = [c] ++ b := hrest
      have hend : staysOpen (body ++ [c]) = false := by
        rw [Bool.eq_false_iff]
        intro hlonger
        refine h.not_matches_append hmem hone (List.cons_ne_nil c []) ?_
        exact matches_openString_iff.2 ⟨body ++ [c], by rw [hword]; rfl, hlonger⟩
      obtain rfl := eq_of_not_staysOpen hbody hend
      refine absurd ?_ (h.not_matches_append hclosed hone (List.cons_ne_nil _ []))
      exact matches_string_iff.2 ⟨body, by rw [hword]; rfl, hbody, hend⟩

/-! ### The tokens of a text -/

/-- A token outside of include regions is the longest word, or a single character where there is
none. -/
theorem exists_word_of_tokens {text : String} {before after : List Token} {t : Token}
    (h : (tokenize text).tokens = before.reverse ++ t :: after)
    (hout : inInclude before (Token.joined (t :: after)).toList = false) :
    (∃ w, IsLongestWord (Token.joined (t :: after)).toList w ∧
      w.rest = (Token.joined after).toList ∧ Lexeme.ReadAs ⟨.word w.kind, w.taken⟩ t) ∨
    ∃ c, IsStray (c :: (Token.joined after).toList) ∧ Lexeme.ReadAs ⟨.stray, [c]⟩ t := by
  obtain ⟨mode, s, hs, ht, hmode⟩ := exists_lexStep?_of_tokens h
  have hrest : s.rest = (Token.joined after).toList := by
    have happ := (lexStep?_append hs).2
    rw [Token.joined_cons, String.toList_append, ht.toList_text] at happ
    exact List.append_cancel_left happ
  rcases lexStep?_cases hs with ⟨p, hregion, -⟩ | ⟨-, ⟨w, hw, rfl⟩ | ⟨c, rest, htext, hstray, rfl⟩⟩
  · exact absurd (hmode.2 hregion) (by rw [hout]; exact Bool.false_ne_true)
  · exact .inl ⟨w, hw, hrest, ht⟩
  · rw [htext, show rest = _ from hrest] at hstray
    exact .inr ⟨c, hstray, ht⟩

/-- **Comments and strings have their extents** at a token, by the text behind it: such a token
stands wherever the text starts like one, and nowhere else. -/
structure Token.IsDelimited (t : Token) (rest : List Char) : Prop where
  line : ['/', '/'] <+: t.text.toList ++ rest →
    t.kind = .comment ∧ t.unterminated = false ∧ IsLineExtent t.text.toList rest
  block : ['/', '*'] <+: t.text.toList ++ rest →
    t.kind = .comment ∧ IsBlockExtent t.text.toList rest t.unterminated
  string : ['"'] <+: t.text.toList ++ rest →
    t.kind = .string ∧ IsStringExtent t.text.toList rest t.unterminated
  comment_opening : t.kind = .comment →
    ['/', '/'] <+: t.text.toList ∨ ['/', '*'] <+: t.text.toList
  string_opening : t.kind = .string → ['"'] <+: t.text.toList

/-- A text that starts with no word has no opening. -/
theorem isDelimited_of_stray {t : Token} {c : Char} {rest : List Char} (h : IsStray (c :: rest))
    (ht : Lexeme.ReadAs ⟨.stray, [c]⟩ t) : t.IsDelimited rest := by
  have hkind : t.kind = .filler := congrArg Token.kind ht
  have hnone {p : Pattern} (hp : ∃ e ∈ lexicon, e.2 = p) {word : List Char}
      (hword : p.Matches word) : ¬ word <+: t.text.toList ++ rest := by
    obtain ⟨e, he, rfl⟩ := hp
    rw [ht.toList_text]
    exact fun hopen => h e he word hopen hword
  constructor
  case line => exact fun hopen => absurd hopen (hnone (p := lineComment) (by decide) (by decide))
  case block =>
    exact fun hopen => absurd hopen (hnone (p := openBlockComment) (by decide) (by decide))
  case string => exact fun hopen => absurd hopen (hnone (p := openString) (by decide) (by decide))
  case comment_opening => exact fun h => by cases hkind.symm.trans h
  case string_opening => exact fun h => by cases hkind.symm.trans h

/-- The longest word has the extent of its kind. -/
theorem isDelimited_of_word {t : Token} {w : LexWord}
    (h : IsLongestWord (t.text.toList ++ w.rest) w)
    (ht : Lexeme.ReadAs ⟨.word w.kind, w.taken⟩ t) : t.IsDelimited w.rest := by
  have hkind : t.kind = w.kind.tokenKind := congrArg Token.kind ht
  have hflag : t.unterminated = (Lexeme.fault ⟨.word w.kind, w.taken⟩).isSome :=
    congrArg Token.unterminated ht
  have htaken : t.text.toList = w.taken := ht.toList_text
  have hword {p : Pattern} {kind : LexClass} (hp : (kind, p) ∈ lexicon)
      (hne : kind ≠ .identifier) (hw : w.kind = kind) : p.Matches w.taken :=
    (classOf?_eq_some_iff hp hne).1 (hw ▸ h.class_eq)
  constructor
  case line =>
    intro hopen
    obtain ⟨hw, hextent⟩ := h.line hopen
    rw [hkind, hflag, htaken, hw]
    exact ⟨rfl, rfl, hextent⟩
  case block =>
    intro hopen
    obtain ⟨hw, hextent⟩ | ⟨hw, hextent⟩ := h.block hopen
    all_goals
      rw [hkind, hflag, htaken, hw]
      exact ⟨rfl, hextent⟩
  case string =>
    intro hopen
    obtain ⟨hw, hextent⟩ | ⟨hw, hextent⟩ := h.quoted hopen
    all_goals
      rw [hkind, hflag, htaken, hw]
      exact ⟨rfl, hextent⟩
  case comment_opening =>
    intro hcomment
    have hcases : w.kind = .lineComment ∨ w.kind = .blockComment ∨ w.kind = .openBlockComment := by
      rw [hkind] at hcomment
      revert hcomment
      cases w.kind <;> simp [LexClass.tokenKind]
    rw [htaken]
    obtain hw | hw | hw := hcases
    · exact .inl (matches_lineComment_iff.1 (hword (by decide) (by decide) hw)).1
    · obtain ⟨x, hx, -⟩ := matches_blockComment_iff.1 (hword (by decide) (by decide) hw)
      exact .inr ⟨_, hx.symm⟩
    · obtain ⟨x, hx, -⟩ := matches_openBlockComment_iff.1 (hword (by decide) (by decide) hw)
      exact .inr ⟨_, hx.symm⟩
  case string_opening =>
    intro hstring
    have hcases : w.kind = .string ∨ w.kind = .openString := by
      rw [hkind] at hstring
      revert hstring
      cases w.kind <;> simp [LexClass.tokenKind]
    rw [htaken]
    obtain hw | hw := hcases
    · obtain ⟨x, hx, -⟩ := matches_string_iff.1 (hword (by decide) (by decide) hw)
      exact ⟨_, hx.symm⟩
    · obtain ⟨x, hx, -⟩ := matches_openString_iff.1 (hword (by decide) (by decide) hw)
      exact ⟨_, hx.symm⟩

/-- Every token outside of include regions has its extent. -/
theorem isDelimited_of_tokens {text : String} {before after : List Token} {t : Token}
    (h : (tokenize text).tokens = before.reverse ++ t :: after)
    (hout : inInclude before (Token.joined (t :: after)).toList = false) :
    t.IsDelimited (Token.joined after).toList := by
  rcases exists_word_of_tokens h hout with ⟨w, hw, hrest, ht⟩ | ⟨c, hstray, ht⟩
  · rw [Token.joined_cons, String.toList_append, ← hrest] at hw
    rw [← hrest]
    exact isDelimited_of_word hw ht
  · exact isDelimited_of_stray hstray ht

/-- **Comments and strings end where their text says**, and nowhere else. Outside of include regions
a token that starts with two slashes goes on to the end of its line, one that starts with a slash
and a star goes on to the first closing, and one that starts with a quote goes on to the first quote
that closes it; no others are comments or strings, and no comment is in a region. The token has all
the bytes of this extent, and no other token has any of them. -/
theorem tokenize_delimited {text : String} {before after : List Token} {t : Token}
    (h : (tokenize text).tokens = before.reverse ++ t :: after) :
    (inInclude before (Token.joined (t :: after)).toList = true → t.kind ≠ .comment) ∧
    (inInclude before (Token.joined (t :: after)).toList = false →
      t.IsDelimited (Token.joined after).toList) ∧
    (t.span.start = (Token.joined before.reverse).utf8ByteSize ∧
      t.span.stop = t.span.start + t.text.utf8ByteSize) ∧
    ∀ u ∈ (tokenize text).tokens, ∀ offset, t.span.contains offset = true →
      u.span.contains offset = true → u = t := by
  refine ⟨fun hin hkind => ?_, isDelimited_of_tokens h, ?_, fun u hu offset ht hoffset => ?_⟩
  · rw [inInclude_eq_false h (by rw [hkind]; decide) (by rw [hkind]; decide)] at hin
    cases hin
  · have htiled := tiled_tokenize text
    rw [h, Token.Tiled.append] at htiled
    obtain ⟨-, -, hspan, -⟩ := htiled
    rw [hspan, Nat.zero_add]
    exact ⟨rfl, rfl⟩
  · have hmem : t ∈ (tokenize text).tokens := h ▸ List.mem_append_right _ List.mem_cons_self
    have hcursor := TokenStream.tokenAt?_of_contains (tiled_tokenize text) hmem ht
    rw [TokenStream.tokenAt?_of_contains (tiled_tokenize text) hu hoffset] at hcursor
    exact Option.some.inj hcursor

/-- Two slashes in a path start no comment. Those behind it do, and this comment goes on over the
line end that the backslash escapes. -/
theorem tokenize_delimited_continued :
    let tokens := (tokenize "$include \"//\" // a\\\r\nb\n").tokens
    (tokens.take 4).map Token.kind = [.keywordOther, .filler, .string, .filler] ∧
      Token.IsDelimited ⟨.comment, ⟨14, 22⟩, "// a\\\r\nb", 0, some .line, false⟩ ['\n'] := by
  have htokens : (tokenize "$include \"//\" // a\\\r\nb\n").tokens =
      ((tokenize "$include \"//\" // a\\\r\nb\n").tokens.take 4).reverse.reverse ++
        ⟨.comment, ⟨14, 22⟩, "// a\\\r\nb", 0, some .line, false⟩ ::
          [⟨.filler, ⟨22, 23⟩, "\n", 0, none, false⟩] := by
    decide +kernel
  refine ⟨by decide +kernel, ?_⟩
  exact (tokenize_delimited htokens).2.1 (by decide +kernel)

end SailNav
