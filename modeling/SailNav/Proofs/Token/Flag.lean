import SailNav.Proofs.Token.Delimited
import SailNav.Proofs.Token.Nesting

/-!
# Literals that are never closed

A string or a comment that is never closed is told of twice: its token is flagged, and an anomaly is
reported. The flag is set while the lexeme is read. The anomaly lies among those of brackets, which
are found in no order at all, and all of them are sorted at the end. Yet the two tell the same: the
anomalies of literals are those of the flagged tokens, one for each and in their order
(`SailNav.filter_anomalies`).

While lexemes are read, this is an equation between the two lists of the builder, and only a lexeme
that is no bracket adds to either (`SailNav.TokenBuilder.exists_push`). Sorting cannot change it,
since the tokens are in the order of the text and there is one way only to bring anomalies in order.

With the anomalies of brackets, which the nesting accounts for, each anomaly has the span of one
token (`SailNav.count_span_of_mem_anomalies`).
-/

namespace SailNav

/-- What is reported of a token that is never closed. -/
def Token.leftOpen (t : Token) : Anomaly :=
  ⟨if t.kind = .comment then .unterminatedBlockComment else .unterminatedString, t.span⟩

namespace Lexeme

variable {l : Lexeme}

/-- Nothing is wrong with a bracket itself. -/
theorem fault_eq_none_of_bracket? {sign : BracketSign} (h : l.bracket? = some sign) :
    l.fault = none := by
  rw [bracket?] at h
  rw [fault]
  split at h
  · next hshape => rw [hshape]
  · next hshape => rw [hshape]
  · cases h

/-- What is wrong with a lexeme itself tells what kind of token it is. -/
theorem tokenKind_of_fault {kind : Anomaly.Kind} (h : l.fault = some kind) :
    l.tokenKind = .string ∧ kind = .unterminatedString ∨
      l.tokenKind = .comment ∧ kind = .unterminatedBlockComment := by
  rw [fault] at h
  rw [tokenKind]
  split at h
  · next hshape =>
    cases h
    exact .inr ⟨by rw [hshape]; rfl, rfl⟩
  · next hshape =>
    cases h
    exact .inl ⟨by rw [hshape]; rfl, rfl⟩
  · next hshape =>
    cases h
    exact .inl ⟨by rw [hshape], rfl⟩
  · cases h

/-- **The flag of a token and its anomaly** both tell of the fault of the lexeme. -/
theorem leftOpen_token (l : Lexeme) (span : Span) (depth : Nat) :
    ([l.token span depth].filter (·.unterminated)).map Token.leftOpen =
      (l.fault.map fun kind => (⟨kind, span⟩ : Anomaly)).toList := by
  cases hfault : l.fault with
  | none => simp [token, hfault]
  | some kind =>
    have hkind : (l.token span depth).leftOpen = ⟨kind, span⟩ := by
      rcases tokenKind_of_fault hfault with ⟨hstring, rfl⟩ | ⟨hcomment, rfl⟩
      · simp [Token.leftOpen, token, hstring]
      · simp [Token.leftOpen, token, hcomment]
    have hflag : (l.token span depth).unterminated = true := by simp [token, hfault]
    rw [List.filter_cons_of_pos hflag]
    simp [hkind]

/-- Comments have a style, and nothing else has one. -/
theorem isSome_commentStyle : l.commentStyle.isSome = true ↔ l.tokenKind = .comment := by
  obtain ⟨shape, text⟩ := l
  rcases shape with kind | _ | kind
  · cases kind <;> simp [commentStyle, tokenKind, LexClass.tokenKind]
  · simp [commentStyle, tokenKind]
  · cases kind <;> simp [commentStyle, tokenKind]

end Lexeme

/-! ### The two lists of the builder -/

/-- Whether an anomaly is one of literals. -/
def Anomaly.isLiteral (x : Anomaly) : Bool := !x.kind.isBracket

namespace TokenBuilder

/-- Reports about brackets are not among those of literals. -/
theorem filter_isLiteral_unclosed {α : Type} (given : List α) (span : α → Span) :
    (given.map fun x => (⟨.unclosedBracket, span x⟩ : Anomaly)).filter Anomaly.isLiteral = [] := by
  simp [List.filter_eq_nil_iff, Anomaly.isLiteral, Anomaly.Kind.isBracket]

/-- **Reading a lexeme adds one token**, and of literals it reports the fault of the lexeme. -/
theorem exists_push (b : TokenBuilder) (l : Lexeme) :
    ∃ depth faults, (b.add l).tokens = l.token (b.spanOf l) depth :: b.tokens ∧
      (b.add l).anomalies = faults ++ b.anomalies ∧
      faults.filter Anomaly.isLiteral =
        (l.fault.map fun kind => (⟨kind, b.spanOf l⟩ : Anomaly)).toList := by
  rcases add_cases b l with ⟨shape, hbracket, hadd⟩ |
    ⟨shape, given, outer, hbracket, -, hadd⟩ | ⟨shape, hbracket, -, hadd⟩ | ⟨-, hadd⟩
  all_goals rw [hadd]
  · exact ⟨_, [], rfl, rfl, by rw [Lexeme.fault_eq_none_of_bracket? hbracket]; rfl⟩
  · refine ⟨_, _, rfl, rfl, ?_⟩
    rw [Lexeme.fault_eq_none_of_bracket? hbracket]
    exact filter_isLiteral_unclosed given id
  · exact ⟨_, [_], rfl, rfl, by rw [Lexeme.fault_eq_none_of_bracket? hbracket]; rfl⟩
  · refine ⟨_, _, rfl, rfl, ?_⟩
    cases hfault : l.fault with
    | none => rfl
    | some kind =>
      have hkind : Anomaly.isLiteral ⟨kind, b.spanOf l⟩ = true := by
        rw [Anomaly.isLiteral, Lexeme.isBracket_of_fault hfault]
        rfl
      simp [hkind]

/-- **The reports of literals are those of the flagged tokens.** -/
theorem filter_anomalies_foldl {b : TokenBuilder}
    (h : b.anomalies.filter Anomaly.isLiteral =
      (b.tokens.filter (·.unterminated)).map Token.leftOpen) (ls : List Lexeme) :
    (ls.foldl add b).anomalies.filter Anomaly.isLiteral =
      ((ls.foldl add b).tokens.filter (·.unterminated)).map Token.leftOpen := by
  induction ls generalizing b with
  | nil => exact h
  | cons l ls ih =>
    refine ih ?_
    obtain ⟨depth, faults, htokens, hanomalies, hfaults⟩ := exists_push b l
    rw [htokens, hanomalies, List.filter_append, hfaults, h, ← List.singleton_append,
      List.filter_append, List.map_append, Lexeme.leftOpen_token]

end TokenBuilder

/-! ### The flags of a text -/

/-- **The anomalies of literals are those of the flagged tokens**, one for each and in their
order. -/
theorem filter_anomalies (text : String) :
    (tokenize text).anomalies.filter Anomaly.isLiteral =
      ((tokenize text).tokens.filter (·.unterminated)).map Token.leftOpen := by
  have hread : (TokenBuilder.ofText text).anomalies.filter Anomaly.isLiteral =
      ((TokenBuilder.ofText text).tokens.filter (·.unterminated)).map Token.leftOpen :=
    TokenBuilder.filter_anomalies_foldl rfl (lexemes text.toList)
  have hperm : ((tokenize text).anomalies.filter Anomaly.isLiteral).Perm
      ((TokenBuilder.ofText text).anomalies.filter Anomaly.isLiteral) := by
    have hreported := (anomalies_perm text).filter Anomaly.isLiteral
    rwa [TokenBuilder.reported, List.filter_append, TokenBuilder.filter_isLiteral_unclosed,
      List.nil_append] at hreported
  have htokens : (tokenize text).tokens = (TokenBuilder.ofText text).tokens.reverse := rfl
  -- the tokens are in the order of the text, and so is what is reported of them
  have hordered :
      InOrder (((tokenize text).tokens.filter (·.unterminated)).map Token.leftOpen) := by
    rw [InOrder, List.pairwise_map]
    exact (tiled_tokenize text).pairwise_start.filter _
  have hsorted : InOrder ((tokenize text).anomalies.filter Anomaly.isLiteral) :=
    (inOrder_anomalies text).filter _
  refine hsorted.eq_of_perm hordered (hperm.trans ?_)
  rw [htokens, List.filter_reverse, List.map_reverse, ← hread]
  exact (List.reverse_perm _).symm

/-- Each token of a text is a lexeme at its place. -/
theorem exists_readAs_of_mem {text : String} {t : Token} (ht : t ∈ (tokenize text).tokens) :
    ∃ l : Lexeme, l.ReadAs t := by
  obtain ⟨before, after, h⟩ := List.append_of_mem ht
  rw [← List.reverse_reverse before] at h
  obtain ⟨-, s, -, hread, -⟩ := exists_lexStep?_of_tokens h
  exact ⟨s.lexeme, hread⟩

/-- Only strings and comments are flagged. -/
theorem kind_of_unterminated {text : String} {t : Token} (ht : t ∈ (tokenize text).tokens)
    (hflag : t.unterminated = true) : t.kind = .string ∨ t.kind = .comment := by
  obtain ⟨l, hl⟩ := exists_readAs_of_mem ht
  rw [show t.unterminated = l.fault.isSome from congrArg Token.unterminated hl] at hflag
  rw [show t.kind = l.tokenKind from congrArg Token.kind hl]
  obtain ⟨kind, hkind⟩ := Option.isSome_iff_exists.1 hflag
  exact (Lexeme.tokenKind_of_fault hkind).imp And.left And.left

/-- The style of a comment is a matter of the token's kind. -/
theorem isSome_comment_iff {text : String} {t : Token} (ht : t ∈ (tokenize text).tokens) :
    t.comment.isSome = true ↔ t.kind = .comment := by
  obtain ⟨l, hl⟩ := exists_readAs_of_mem ht
  rw [show t.comment = l.commentStyle from congrArg Token.comment hl,
    show t.kind = l.tokenKind from congrArg Token.kind hl]
  exact Lexeme.isSome_commentStyle

/-! ### Outside of include regions -/

/-- A comment that is never closed has no text behind it. -/
theorem IsBlockExtent.rest_eq_nil {word rest : List Char} (h : IsBlockExtent word rest true) :
    rest = [] := by
  cases h
  rfl

/-- Neither has a string. -/
theorem IsStringExtent.rest_eq_nil {word rest : List Char} (h : IsStringExtent word rest true) :
    rest = [] := by
  cases h
  rfl

/-- **What is never closed takes the rest of the text**, outside of include regions. -/
theorem joined_eq_of_unterminated {text : String} {before after : List Token} {t : Token}
    (h : (tokenize text).tokens = before.reverse ++ t :: after)
    (hout : inInclude before (Token.joined (t :: after)).toList = false)
    (hflag : t.unterminated = true) : Token.joined after = "" := by
  have hdelimited := isDelimited_of_tokens h hout
  have hmem : t ∈ (tokenize text).tokens := h ▸ List.mem_append_right _ List.mem_cons_self
  have hbehind (opening : List Char) (hopening : opening <+: t.text.toList) :
      opening <+: t.text.toList ++ (Token.joined after).toList :=
    hopening.trans (List.prefix_append _ _)
  have hrest : (Token.joined after).toList = [] := by
    rcases kind_of_unterminated hmem hflag with hstring | hcomment
    · obtain ⟨-, hextent⟩ := hdelimited.string (hbehind _ (hdelimited.string_opening hstring))
      rw [hflag] at hextent
      exact hextent.rest_eq_nil
    · rcases hdelimited.comment_opening hcomment with hline | hblock
      · -- a line comment ends at the latest with the text, and is never flagged
        obtain ⟨-, hclosed, -⟩ := hdelimited.line (hbehind _ hline)
        rw [hflag] at hclosed
        cases hclosed
      · obtain ⟨-, hextent⟩ := hdelimited.block (hbehind _ hblock)
        rw [hflag] at hextent
        exact hextent.rest_eq_nil
  exact String.toList_eq_nil_iff.1 hrest

/-- **Outside of include regions only the last token is flagged**, and it ends where the text
does. -/
theorem last_of_unterminated {text : String} {before after : List Token} {t : Token}
    (h : (tokenize text).tokens = before.reverse ++ t :: after)
    (hout : inInclude before (Token.joined (t :: after)).toList = false)
    (hflag : t.unterminated = true) : after = [] ∧ t.span.stop = text.utf8ByteSize := by
  have hjoined := joined_eq_of_unterminated h hout hflag
  have htiled := tiled_tokenize text
  have htext := joined_tokenize text
  rw [h] at htiled htext
  have hbehind := (Token.Tiled.append.1 htiled).2
  have hnil : after = [] := by
    cases after with
    | nil => rfl
    | cons u rest =>
      rw [Token.joined_cons, String.append_eq_empty_iff] at hjoined
      exact absurd hjoined.1 hbehind.2.2.1
  subst hnil
  refine ⟨rfl, ?_⟩
  rw [← htext, Token.joined_append, String.utf8ByteSize_append]
  simpa using hbehind.stop_last

/-! ### The spans of anomalies -/

/-- **Each anomaly has the span of one token.** -/
theorem count_span_of_mem_anomalies {text : String} {x : Anomaly}
    (hx : x ∈ (tokenize text).anomalies) :
    ((tokenize text).tokens.map Token.span).count x.span = 1 := by
  refine List.count_eq_one_of_mem (tiled_tokenize text).nodup_span ?_
  cases hkind : x.kind.isBracket with
  | true =>
    obtain ⟨pairs, hnested⟩ := exists_nestedBy text
    obtain ⟨i, t, ht, hspan, -⟩ := hnested.of_anomaly x hx hkind
    exact List.mem_map.2 ⟨t, List.mem_of_getElem? ht, hspan⟩
  | false =>
    have hliteral : x ∈ (tokenize text).anomalies.filter Anomaly.isLiteral :=
      List.mem_filter.2 ⟨hx, by rw [Anomaly.isLiteral, hkind]; rfl⟩
    rw [filter_anomalies] at hliteral
    obtain ⟨t, ht, rfl⟩ := List.mem_map.1 hliteral
    exact List.mem_map.2 ⟨t, (List.mem_filter.1 ht).1, rfl⟩

/-- **Flags and anomalies tell the same of a text.** The anomalies of literals are those of the
flagged tokens, one for each and in their order: a string or a comment that is never closed, with
the span of its token. Outside of include regions such a token is the last one, and ends where the
text does. Comments have a style and nothing else has one. All anomalies start at places of their
own, in their order, and each has the span of one token. -/
theorem tokenize_flagged (text : String) :
    (tokenize text).anomalies.filter Anomaly.isLiteral =
      ((tokenize text).tokens.filter (·.unterminated)).map Token.leftOpen ∧
    (∀ t ∈ (tokenize text).tokens, t.unterminated = true → t.kind = .string ∨ t.kind = .comment) ∧
    (∀ before t after, (tokenize text).tokens = before.reverse ++ t :: after →
      inInclude before (Token.joined (t :: after)).toList = false → t.unterminated = true →
        after = [] ∧ t.span.stop = text.utf8ByteSize) ∧
    (∀ t ∈ (tokenize text).tokens, t.comment.isSome = true ↔ t.kind = .comment) ∧
    (tokenize text).anomalies.Pairwise (fun x y => x.span.start < y.span.start) ∧
    ∀ x ∈ (tokenize text).anomalies, ((tokenize text).tokens.map Token.span).count x.span = 1 :=
  ⟨filter_anomalies text, fun _ ht => kind_of_unterminated ht,
    fun _ _ _ h => last_of_unterminated h, fun _ ht => isSome_comment_iff ht,
    inOrder_anomalies text, fun _ hx => count_span_of_mem_anomalies hx⟩

/-- In an include region a path that is never closed ends with its line, so more may follow. -/
example : (tokenize "$include \"a\nb").tokens.map (·.unterminated) =
    [false, false, true, false, false] := by
  decide +kernel

end SailNav
