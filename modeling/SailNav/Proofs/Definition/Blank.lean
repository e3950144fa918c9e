import SailNav.Proofs.Definition.Name
import SailNav.Proofs.Token.Cursor
import SailNav.Proofs.Token.Region

/-!
# Blanks in names

The name of an operator ends in front of a blank, so one expects it to be on one line. Outside of
include regions it is: what has a blank there and is no white space is a comment or a string
(`SailNav.kind_of_blank`), and neither joins a name. In a region one piece has a line end and shows
something all the same: the backslash that carries the region on to the next line is one piece
with the line end that it escapes (`SailNav.Token.EscapesLine`), and this piece joins the name.

So a name has a blank exactly if such a piece lies in its span (`SailNav.name_isUnbroken_iff`).
That takes an operator that is named by a region from its directive on: a name does not start in a
region, and none opens in the middle of a name, since what joins a name is not white space.
-/

namespace SailNav

open Pattern

/-! ### Text without blanks -/

/-- **A text is unbroken** if it has no blank and no line end. -/
def Text.IsUnbroken (text : List Char) : Prop := ∀ c ∈ text, c ∉ [' ', '\t', '\r', '\n']

instance (text : List Char) : Decidable (Text.IsUnbroken text) :=
  List.decidableBAll (· ∉ [' ', '\t', '\r', '\n']) text

/-- What breaks a text is white space. -/
theorem contains_blanks_of_mem {c : Char} (hc : c ∈ [' ', '\t', '\r', '\n']) :
    blanks.contains c = true := by
  have hall : [' ', '\t', '\r', '\n'].all blanks.contains = true := by decide
  exact List.all_eq_true.1 hall c hc

theorem Text.isBlank_of_blanks {c : Char} (hc : blanks.contains c = true) :
    Text.isBlank c = true := by
  have hall : " \t\r\n\x0c".toList.all Text.isBlank = true := by decide
  exact List.all_eq_true.1 hall c (CharSet.contains_oneOf_iff.1 hc)

/-- A span has all bytes of another one. -/
def Span.Covers (s u : Span) : Prop := s.start ≤ u.start ∧ u.stop ≤ s.stop

instance (s u : Span) : Decidable (s.Covers u) := inferInstanceAs (Decidable (_ ∧ _))

namespace Token

/-- **A token escapes a line end**: it is the backslash of an include region that carries the region
on to the next line, together with the line end. -/
def EscapesLine (t : Token) : Prop := t.kind = .filler ∧ t.text ∈ ["\\\n", "\\\r\n"]

instance (t : Token) : Decidable t.EscapesLine := inferInstanceAs (Decidable (_ ∧ _))

theorem isUnbroken_joined_iff {tokens : List Token} :
    Text.IsUnbroken (joined tokens).toList ↔ ∀ t ∈ tokens, Text.IsUnbroken t.text.toList := by
  simp only [Text.IsUnbroken, mem_joined_iff]
  exact ⟨fun h t ht c hc => h c ⟨t, ht, hc⟩, fun h c ⟨t, ht, hc⟩ => h t ht c hc⟩

theorem EscapesLine.not_isUnbroken {t : Token} (h : t.EscapesLine) :
    ¬ Text.IsUnbroken t.text.toList := by
  have hall : ∀ s ∈ ["\\\n", "\\\r\n"], ¬ Text.IsUnbroken s.toList := by decide
  exact hall _ h.2

/-- It has no blank but its line end. -/
theorem EscapesLine.notMem {t : Token} (h : t.EscapesLine) {c : Char} (hc : c ∈ [' ', '\t']) :
    c ∉ t.text.toList := by
  have hall : ∀ s ∈ ["\\\n", "\\\r\n"], ' ' ∉ s.toList ∧ '\t' ∉ s.toList := by decide
  obtain ⟨hspace, htab⟩ := hall _ h.2
  rw [List.mem_cons, List.mem_singleton] at hc
  rcases hc with rfl | rfl
  · exact hspace
  · exact htab

/-- **The tokens of a run are those that its span covers.** -/
theorem Tiled.mem_run_iff {front rest after : List Token} {first t : Token}
    (h : Tiled 0 (front ++ (first :: rest) ++ after))
    (ht : t ∈ front ++ (first :: rest) ++ after) :
    t ∈ first :: rest ↔
      (⟨first.span.start, (rest.getLast?.getD first).span.stop⟩ : Span).Covers t.span := by
  obtain ⟨hfront, hafter⟩ := append.1 h
  obtain ⟨hfront, hrun⟩ := append.1 hfront
  have hlt := h.span_lt ht
  have hstart : first.span.start = 0 + (joined front).utf8ByteSize := by rw [hrun.2.1]
  have hstop := hrun.stop_last
  rw [Span.Covers, hstart, hstop]
  constructor
  · exact fun hmem => ⟨hrun.le_start hmem, hrun.stop_le_end hmem⟩
  · rintro ⟨hle, hge⟩
    rcases List.mem_append.1 ht with hmem | hmem
    · rcases List.mem_append.1 hmem with hmem | hmem
      · have hbefore := hfront.stop_le_end hmem
        omega
      · exact hmem
    · have hbehind := hafter.le_start hmem
      rw [joined_append, String.utf8ByteSize_append] at hbehind
      omega

end Token

/-! ### Filler in a region -/

/-- **Filler of a region is white space or has none**, unless it escapes a line end. -/
theorem Include.FillerForm.cases {taken behind : List Char} (h : FillerForm taken behind) :
    (∀ c ∈ taken, blanks.contains c = true) ∨ Text.IsUnbroken taken ∨
      taken = ['\\', '\n'] ∨ taken = ['\\', '\r', '\n'] := by
  cases h with
  | escape _ hescape => exact .inr (.inr hescape)
  | gap _ hgap =>
    refine .inl fun c hc => contains_blanks_of_mem ?_
    have hc := hgap c hc
    rw [isGap, Bool.or_eq_true, beq_iff_eq, beq_iff_eq] at hc
    rcases hc with rfl | rfl <;> decide
  | single c _ _ =>
    by_cases hc : c ∈ [' ', '\t', '\r', '\n']
    · exact .inl (List.forall_mem_singleton.2 (contains_blanks_of_mem hc))
    · exact .inr (.inl (List.forall_mem_singleton.2 hc))
  | run _ hrun =>
    have hstops : [' ', '\t', '\r', '\n'].all stopsRun = true := by decide
    refine .inr (.inl fun c hc hmem => ?_)
    have hc := hrun c hc
    rw [List.all_eq_true.1 hstops c hmem] at hc
    cases hc

/-- **No region opens** among tokens none of which is a path directive that starts a line. -/
theorem inInclude_append_eq_false {later before : List Token} {rest : List Char}
    (hout : inInclude before ((Token.joined later.reverse).toList ++ rest) = false)
    (hopens : ∀ x u y, later = x ++ u :: y → u.isPathDirective = true →
      startsLine (y ++ before) = false) : inInclude (later ++ before) rest = false := by
  induction later generalizing rest with
  | nil => simpa using hout
  | cons t later ih =>
    have hearlier : inInclude (later ++ before) (t.text.toList ++ rest) = false :=
      ih (by simpa using hout) fun x u y hxy => hopens (t :: x) u y (by rw [hxy, List.cons_append])
    have ht : (t.isPathDirective && startsLine (later ++ before)) = false := by
      cases hdirective : t.isPathDirective with
      | false => rfl
      | true => rw [hopens [] t later rfl hdirective, Bool.and_false]
    rw [List.cons_append, inInclude, ht, hearlier, Bool.or_false, Bool.and_false]

section Tokens

variable {text : String} {before after : List Token} {t : Token}

/-- White space shows nothing. -/
theorem showsNothing_of_isSpace (h : (tokenize text).tokens = before.reverse ++ t :: after)
    (hspace : t.isSpace = true) : t.ShowsNothing := by
  refine ⟨kind_of_isSpace h hspace, fun c hc => Text.isBlank_of_blanks ?_⟩
  rw [Token.isSpace, List.all_eq_true] at hspace
  exact hspace c hc

/-- So what joins a name is not white space. -/
theorem isSpace_of_joinsName (h : (tokenize text).tokens = before.reverse ++ t :: after)
    (hjoins : t.JoinsName) : t.isSpace = false :=
  Bool.eq_false_iff.2 fun hspace => hjoins.2.2.2 (showsNothing_of_isSpace h hspace)

/-- **What joins a name has no blank**, unless it escapes a line end in a region. -/
theorem isUnbroken_or_escapesLine (h : (tokenize text).tokens = before.reverse ++ t :: after)
    (hjoins : t.JoinsName) :
    Text.IsUnbroken t.text.toList ∨
      t.EscapesLine ∧ inInclude before (Token.joined (t :: after)).toList = true := by
  have hspace := isSpace_of_joinsName h hjoins
  obtain ⟨hcomment, hstring, -, -⟩ := hjoins
  cases hin : inInclude before (Token.joined (t :: after)).toList with
  | true =>
    obtain ⟨p, hp, htaken, hkind⟩ := tokenize_piece h hin
    rcases Include.piece?_form hp with ⟨hfiller, hform⟩ | ⟨hpath, -⟩
    · rw [if_pos hfiller] at hkind
      rcases hform.cases with hblank | hunbroken | hescape
      · rw [Token.isSpace, htaken, List.all_eq_true.2 hblank] at hspace
        cases hspace
      · exact .inl (htaken ▸ hunbroken)
      · refine .inr ⟨⟨hkind, ?_⟩, rfl⟩
        rw [← String.ofList_toList (s := t.text), htaken]
        rcases hescape with hescape | hescape <;> rw [hescape] <;> decide
    · rw [if_neg hpath] at hkind
      exact absurd hkind hstring
  | false =>
    refine .inl fun c hc hmem => ?_
    exact (kind_of_blank h hin hspace hc (contains_blanks_of_mem hmem)).elim hcomment hstring

end Tokens

/-! ### The run that names a definition -/

/-- **The run of tokens that names a definition**, with the tokens in front of it, the last one
first. The run does not start in a region, and only the name of an operator goes on behind the first
token. -/
structure Definition.IsRun (text : String) (d : Definition) (before : List Token) (first : Token)
    (rest after : List Token) : Prop where
  tokens_eq : (tokenize text).tokens = before.reverse ++ (first :: rest) ++ after
  joins : ∀ t ∈ first :: rest, t.JoinsName
  outside : inInclude before (Token.joined (first :: rest ++ after)).toList = false
  name : d.name = Token.joined (first :: rest)
  span : d.span = ⟨first.span.start, (rest.getLast?.getD first).span.stop⟩
  kind : d.kind = .operator ∨ first.kind = .identifier ∧ rest = []

namespace Token

variable {t : Token}

/-- Keywords and operators are in no region, and open one only with the text of a path directive. -/
theorem opensNone_of_isSign {text : String} (h : t.isSign text = true)
    (hnone : text ∉ pathDirectives) :
    t.kind ≠ .filler ∧ t.kind ≠ .string ∧ t.isPathDirective = false := by
  refine ⟨fun hkind => ?_, fun hkind => ?_, ?_⟩
  · simp [isSign, hkind, TokenKind.isKeyword] at h
  · simp [isSign, hkind, TokenKind.isKeyword] at h
  · rw [isPathDirective, text_eq_of_isSign h]
    simp [hnone]

/-- So what announces an operator is in no region and opens none. -/
theorem AnnouncesOperator.opensNone {word : Option Token} (h : t.AnnouncesOperator word) :
    t.kind ≠ .filler ∧ t.kind ≠ .string ∧ t.isPathDirective = false := by
  rcases h with hoperator | ⟨keyword, hmem, hfixity⟩ | ⟨hnumber, -⟩
  · exact opensNone_of_isSign hoperator (by decide)
  · have hnone : ∀ s ∈ ["infix", "infixl", "infixr"], s ∉ pathDirectives := by decide
    exact opensNone_of_isSign hfixity (hnone keyword hmem)
  · simp [isPathDirective, hnumber]

end Token

/-- **Every definition is named by a run of tokens.** -/
theorem exists_isRun_of_mem_extract {text : String} {d : Definition}
    (hd : d ∈ extract (tokenize text)) : ∃ before first rest after,
      d.IsRun text before first rest after := by
  obtain ⟨p, hp⟩ := mem_extract_iff.1 hd
  cases TokenStream.namedAt_of_found? hp with
  | @word _ t hword hidentifier hkind hname hspan =>
    obtain ⟨front, after, hsplit⟩ := List.append_of_mem (TokenStream.mem_tokens_of_words hword)
    have htokens : (tokenize text).tokens = front.reverse.reverse ++ t :: after := by simpa
    refine ⟨front.reverse, t, [], after, by simpa using hsplit, ?_, ?_, by simpa using hname, hspan,
      .inr ⟨hidentifier, rfl⟩⟩
    · rw [List.forall_mem_singleton]
      simp [Token.JoinsName, Token.ShowsNothing, hidentifier]
    · exact inInclude_eq_false htokens (by rw [hidentifier]; decide) (by rw [hidentifier]; decide)
  | @glued front gap rest after keyword first htokens _ hannounces hgap hrun _ heq =>
    have hkeyword : (tokenize text).tokens =
        front.reverse.reverse ++ keyword :: (gap ++ (first :: rest) ++ after) := by
      rwa [List.reverse_reverse]
    obtain ⟨hfiller, hstring, hnone⟩ := hannounces.opensNone
    have hout := inInclude_eq_false hkeyword hfiller hstring
    refine ⟨(gap.reverse ++ [keyword]) ++ front.reverse, first, rest, after, by simpa using htokens,
      hrun, inInclude_append_eq_false ?_ fun x u y hxy hdirective => ?_, ?_, ?_, ?_⟩
    · simpa using hout
    · -- neither the blanks nor the word in front of them open a region
      have hu : u ∈ gap.reverse ++ [keyword] := hxy ▸ List.mem_append_right x List.mem_cons_self
      rcases List.mem_append.1 hu with hu | hu
      · have hblank := (hgap u (List.mem_reverse.1 hu)).1
        rw [Token.isPathDirective, hblank] at hdirective
        cases hdirective
      · rw [List.mem_singleton.1 hu, hnone] at hdirective
        cases hdirective
    all_goals rw [heq]
    · rfl
    · rfl
    · exact .inl rfl

namespace Definition.IsRun

variable {text : String} {d : Definition} {before rest after : List Token} {first t : Token}

/-- The tokens of the run are those that the span of the definition covers. -/
theorem mem_iff (h : d.IsRun text before first rest after) (ht : t ∈ (tokenize text).tokens) :
    t ∈ first :: rest ↔ d.span.Covers t.span := by
  have htiled := tiled_tokenize text
  rw [h.tokens_eq] at htiled ht
  rw [h.span]
  exact htiled.mem_run_iff ht

/-- **In the middle of a name no region opens.** So the tokens of a name are in no region, unless
the first one opens it. -/
theorem inInclude_eq_false (h : d.IsRun text before first rest after) {x y : List Token}
    (hxy : first :: rest = x ++ t :: y)
    (hopens : first.isPathDirective = true → startsLine before = false) :
    inInclude (x.reverse ++ before) (Token.joined (t :: (y ++ after))).toList = false := by
  refine inInclude_append_eq_false ?_ fun a u b hab hdirective => ?_
  · have hout := h.outside
    rw [hxy] at hout
    simpa using hout
  · cases b with
    | nil =>
      -- the token is the first one of the run
      have hfirst : u = first := by
        have hx : x = u :: a.reverse := by simpa using congrArg List.reverse hab
        rw [hx, List.cons_append] at hxy
        exact (List.cons.inj hxy).1.symm
      exact hopens (hfirst ▸ hdirective)
    | cons v b =>
      have hx : x = b.reverse ++ v :: u :: a.reverse := by
        simpa using congrArg List.reverse hab
      have hv : v ∈ first :: rest := by simp [hxy, hx]
      have htokens : (tokenize text).tokens =
          (b ++ before).reverse ++ v :: (u :: a.reverse ++ t :: y ++ after) := by
        simp [h.tokens_eq, hxy, hx]
      have hspace : v.isSpace = false := isSpace_of_joinsName htokens (h.joins v hv)
      rw [List.cons_append, startsLine, hspace, Bool.false_and]

/-- A token of a name has no blank, or escapes a line end and the first token opens its region. -/
theorem isUnbroken_or (h : d.IsRun text before first rest after) (ht : t ∈ first :: rest) :
    Text.IsUnbroken t.text.toList ∨
      t.EscapesLine ∧ first.isPathDirective = true ∧ startsLine before = true := by
  obtain ⟨x, y, hxy⟩ := List.append_of_mem ht
  have htokens : (tokenize text).tokens = (x.reverse ++ before).reverse ++ t :: (y ++ after) := by
    simp [h.tokens_eq, hxy]
  rcases isUnbroken_or_escapesLine htokens (h.joins t ht) with hunbroken | ⟨hescape, hin⟩
  · exact .inl hunbroken
  · refine .inr ⟨hescape, ?_⟩
    by_contra hopens
    rw [h.inInclude_eq_false hxy fun hdirective => ?_] at hin
    · cases hin
    · exact Bool.eq_false_iff.2 fun hstart => hopens ⟨hdirective, hstart⟩

/-- A name has no blank but line ends. -/
theorem notMem_name (h : d.IsRun text before first rest after) {c : Char} (hc : c ∈ [' ', '\t']) :
    c ∉ d.name.toList := by
  rw [h.name, Token.mem_joined_iff]
  rintro ⟨t, ht, hmem⟩
  rcases h.isUnbroken_or ht with hunbroken | ⟨hescape, -⟩
  · exact hunbroken c hmem (List.mem_append_left ['\r', '\n'] hc)
  · exact hescape.notMem hc hmem

end Definition.IsRun

/-- **The name of a definition is on one line**, unless a line end that an include region escapes
lies in its span. There is never a space or a tab in it. Where such a line end does lie in its span,
the definition is an operator that is named by the region, from the directive that opens it on. -/
theorem name_isUnbroken_iff {text : String} {d : Definition} (hd : d ∈ extract (tokenize text)) :
    d.span.Spells text d.name ∧
    (Text.IsUnbroken d.name.toList ↔
      ∀ t ∈ (tokenize text).tokens, t.EscapesLine → ¬ d.span.Covers t.span) ∧
    (∀ c ∈ [' ', '\t'], c ∉ d.name.toList) ∧
    ∀ t ∈ (tokenize text).tokens, t.EscapesLine → d.span.Covers t.span → d.kind = .operator ∧
      ∃ before u after, (tokenize text).tokens = before.reverse ++ u :: after ∧
        u.span.start = d.span.start ∧ u.isPathDirective = true ∧ startsLine before = true := by
  obtain ⟨before, first, rest, after, h⟩ := exists_isRun_of_mem_extract hd
  refine ⟨spells_of_mem_extract hd, ?_, fun c hc => h.notMem_name hc,
    fun t ht hescape hcovers => ?_⟩
  · rw [h.name, Token.isUnbroken_joined_iff]
    constructor
    · intro hall t ht hescape hcovers
      exact hescape.not_isUnbroken (hall t ((h.mem_iff ht).2 hcovers))
    · intro hnone t ht
      have hmem : t ∈ (tokenize text).tokens := by
        rw [h.tokens_eq]
        exact List.mem_append_left after (List.mem_append_right before.reverse ht)
      exact (h.isUnbroken_or ht).resolve_right fun hescape =>
        hnone t hmem hescape.1 ((h.mem_iff hmem).1 ht)
  · have hrun := (h.mem_iff ht).2 hcovers
    obtain ⟨-, hopens⟩ := (h.isUnbroken_or hrun).resolve_left hescape.not_isUnbroken
    refine ⟨h.kind.resolve_right fun hword => ?_, before, first, rest ++ after,
      by simp [h.tokens_eq], by rw [h.span], hopens⟩
    -- one identifier is no filler
    obtain ⟨hidentifier, rfl⟩ := hword
    rw [← List.mem_singleton.1 hrun] at hidentifier
    cases hidentifier.symm.trans hescape.1

/-- The name of an operator ends in front of a blank and does not reach the line end behind it. -/
theorem name_isUnbroken_directive :
    (⟨.operator, "$include;", ⟨9, 18⟩⟩ : Definition) ∈
        extract (tokenize "operator\n$include; \\\n+") ∧
      Text.IsUnbroken "$include;".toList := by
  have hmem : (⟨.operator, "$include;", ⟨9, 18⟩⟩ : Definition) ∈
      extract (tokenize "operator\n$include; \\\n+") := by
    decide +kernel
  have hnone : ∀ t ∈ (tokenize "operator\n$include; \\\n+").tokens, t.EscapesLine →
      ¬ Span.Covers ⟨9, 18⟩ t.span := by
    decide +kernel
  exact ⟨hmem, (name_isUnbroken_iff hmem).2.1.2 hnone⟩

/-- Without the blank it does: backslash and line end are one piece, and this joins the name. -/
theorem not_name_isUnbroken_escaped :
    ¬ ∀ d ∈ extract (tokenize "operator\n$include\\\n<a.sail>\n"),
      Text.IsUnbroken d.name.toList := by
  decide +kernel

end SailNav
