import SailNav.Proofs.Token.LineStart
import SailNav.Proofs.Token.Nesting

/-!
# Include regions

An include region is the run of tokens behind a path directive that is the first on its line
(`SailNav.tokenize_region`). What is known of the region is known of each of its pieces, so it is
collected from the end of the region to its start (`SailNav.Include.IsRegion.cons`): the pieces tell
what the tokens are, where a line feed or a comment may stand and what a path looks like, and no
piece is a bracket, so the depth does not change (`SailNav.depth_eq_of_bracket?_eq_none`).

There is one exception to "the first on its line". It is the one that `SailNav.startsLine_iff`
tells, and `SailNav.not_region_behind_comment` shows it.
-/

namespace SailNav

/-! ### The depth of neighbours -/

/-- Of two neighbouring tokens that are no brackets, one is as deep as the other. -/
theorem depth_eq_of_bracket?_eq_none {text : String} {before after : List Token} {t u : Token}
    (h : (tokenize text).tokens = before ++ t :: u :: after) (ht : t.bracket? = none)
    (hu : u.bracket? = none) : u.depth = t.depth := by
  obtain ⟨pairs, hnested⟩ := exists_nestedBy text
  have hfirst : (tokenize text).tokens[before.length]? = some t := by simp [h]
  have hsecond : (tokenize text).tokens[before.length + 1]? = some u := by simp [h]
  have hopens : ¬ OpensAt (tokenize text).tokens before.length := by
    rintro ⟨shape, hshape⟩
    rw [bracketAt?, hfirst, Option.bind_some, ht] at hshape
    cases hshape
  have hcloses : ∀ e ∈ pairs, e.2 ≠ before.length + 1 := by
    intro e he heq
    obtain ⟨shape, -, hshape⟩ := hnested.matching.shape e he
    rw [heq, bracketAt?, hsecond, Option.bind_some, hu] at hshape
    cases hshape
  rw [hnested.depth_eq _ t hfirst, hnested.depth_eq _ u hsecond, openAround_succ hcloses,
    if_neg hopens, List.nil_append]

/-! ### The tokens of a region -/

namespace Include

/-- **The tokens of an include region**, by the depth of the directive in front of them and the
text behind them. -/
structure IsRegion (depth : Nat) (region : List Token) (behind : List Char) : Prop where
  kind : ∀ u ∈ region, u.kind = .filler ∨ u.kind = .string
  depth_eq : ∀ u ∈ region, u.depth = depth
  /-- A line feed in the region is escaped there. -/
  escaped : ∀ a b, (Token.joined region).toList = a ++ '\n' :: b → EndsInBackslash a
  ends : AtLineEnd behind ∨ OpensComment behind
  /-- No comment starts in the region but in a path. -/
  comment : ∀ x u y, region = x ++ u :: y → u.kind = .filler →
    ∀ a b, u.text.toList = a ++ b → b ≠ [] →
      ¬ OpensComment (b ++ ((Token.joined y).toList ++ behind))
  path : ∀ x u y, region = x ++ u :: y → u.kind = .string →
    IsPath u.text.toList ((Token.joined y).toList ++ behind) u.unterminated

/-- A token that is a piece of a region is filler or a path. -/
theorem cases_of_readAs {text behind : List Char} {p : Piece} {u : Token}
    (hp : piece? text = some p) (hu : Lexeme.ReadAs ⟨.piece p.kind, p.taken⟩ u)
    (htext : text = u.text.toList ++ behind) :
    u.kind = .filler ∧ IsFiller u.text.toList behind ∨
      u.kind = .string ∧ IsPath u.text.toList behind u.unterminated := by
  have htaken : u.text.toList = p.taken := hu.toList_text
  have hkind : u.kind = (Lexeme.mk (.piece p.kind) p.taken).tokenKind := congrArg Token.kind hu
  have hflag : u.unterminated = (Lexeme.mk (.piece p.kind) p.taken).fault.isSome :=
    congrArg Token.unterminated hu
  have hrest : p.rest = behind := by
    have happ := (piece?_append hp).2
    rw [htext, htaken] at happ
    exact List.append_cancel_left happ
  have hcases := piece?_cases hp
  rw [hrest, ← htaken] at hcases
  rw [hkind, hflag]
  obtain ⟨kind, taken, rest⟩ := p
  rcases hcases with ⟨rfl, hfiller⟩ | ⟨hne, hpath⟩
  · exact .inl ⟨rfl, hfiller⟩
  · cases kind with
    | filler => exact absurd rfl hne
    | path | openPath => exact .inr ⟨rfl, hpath⟩

namespace IsRegion

variable {depth : Nat} {region : List Token} {behind : List Char}

theorem nil (h : atEnd behind = true) : IsRegion depth [] behind where
  kind := nofun
  depth_eq := nofun
  escaped a _ h := by simp at h
  ends := atEnd_iff.1 h
  comment x _ _ h := by simp at h
  path x _ _ h := by simp at h

theorem cons (h : IsRegion depth region behind) {u : Token} (hdepth : u.depth = depth)
    (hu : u.kind = .filler ∧ IsFiller u.text.toList ((Token.joined region).toList ++ behind) ∨
      u.kind = .string ∧ IsPath u.text.toList ((Token.joined region).toList ++ behind)
        u.unterminated) :
    IsRegion depth (u :: region) behind where
  kind := List.forall_mem_cons.2 ⟨hu.imp And.left And.left, h.kind⟩
  depth_eq := List.forall_mem_cons.2 ⟨hdepth, h.depth_eq⟩
  escaped a b hab := by
    rw [Token.joined_cons, String.toList_append] at hab
    rcases cut_at_lineFeed hab with ⟨rest, hrest⟩ | ⟨further, htext⟩
    · have hmore := h.escaped rest b hrest
      rw [hrest, ← List.append_assoc] at hab
      have ha : rest <:+ a := ⟨_, List.append_cancel_right hab⟩
      exact hmore.imp (·.trans ha) (·.trans ha)
    · rcases hu with ⟨-, hfiller⟩ | ⟨-, hpath⟩
      · obtain ⟨-, rfl | rfl⟩ := hfiller.escaped a further htext
        · exact .inl List.suffix_rfl
        · exact .inr List.suffix_rfl
      · exact absurd (htext ▸ List.mem_append_right a List.mem_cons_self) hpath.not_mem
  ends := h.ends
  comment x v y hxy hv := by
    rcases List.cons_eq_append_iff.1 hxy with ⟨rfl, hcons⟩ | ⟨x, rfl, hregion⟩
    · obtain ⟨rfl, rfl⟩ := List.cons.inj hcons
      rcases hu with ⟨-, hfiller⟩ | ⟨hstring, -⟩
      · exact hfiller.comment
      · cases hv.symm.trans hstring
    · exact h.comment x v y hregion hv
  path x v y hxy hv := by
    rcases List.cons_eq_append_iff.1 hxy with ⟨rfl, hcons⟩ | ⟨x, rfl, hregion⟩
    · obtain ⟨rfl, rfl⟩ := List.cons.inj hcons
      rcases hu with ⟨hfiller, -⟩ | ⟨-, hpath⟩
      · cases hv.symm.trans hfiller
      · exact hpath
    · exact h.path x v y hregion hv

end IsRegion

end Include

/-- A filler or a string is no bracket. -/
theorem bracket?_eq_none {t : Token} (h : t.kind ≠ .operator) : t.bracket? = none := by
  cases hs : t.bracket? with
  | none => rfl
  | some s => exact absurd (Token.bracket?_eq_some_iff.1 hs).1 h

/-- **Where a region is open it goes on to its end.** -/
theorem exists_region {text : String} {before after : List Token} {t : Token}
    (h : (tokenize text).tokens = before.reverse ++ t :: after) (ht : t.bracket? = none)
    (hin : Include.atEnd (Token.joined after).toList = false →
      inInclude (t :: before) (Token.joined after).toList = true) :
    ∃ region rest, after = region ++ rest ∧
      Include.IsRegion t.depth region (Token.joined rest).toList := by
  induction after generalizing before t with
  | nil => exact ⟨[], [], rfl, .nil rfl⟩
  | cons u after ih =>
    by_cases hend : Include.atEnd (Token.joined (u :: after)).toList = true
    · exact ⟨[], u :: after, rfl, .nil hend⟩
    have hregion := hin (Bool.eq_false_iff.2 hend)
    have hsplit : (tokenize text).tokens = (t :: before).reverse ++ u :: after := by simpa using h
    obtain ⟨p, hp, hu⟩ := exists_piece_of_tokens hsplit hregion
    have hjoined : (Token.joined (u :: after)).toList =
        u.text.toList ++ (Token.joined after).toList := by
      rw [Token.joined_cons, String.toList_append]
    have hcases := Include.cases_of_readAs hp hu hjoined
    have hbracket : u.bracket? = none := by
      refine bracket?_eq_none fun hop => ?_
      rcases hcases with ⟨hkind, -⟩ | ⟨hkind, -⟩ <;> cases hop.symm.trans hkind
    have hdepth : u.depth = t.depth := depth_eq_of_bracket?_eq_none h ht hbracket
    obtain ⟨region, rest, rfl, hrest⟩ := ih hsplit hbracket fun hmore => by
      rw [inInclude, hmore, ← hjoined, hregion]
      simp
    refine ⟨u :: region, rest, rfl, ?_⟩
    rw [hdepth] at hrest
    rw [Token.joined_append, String.toList_append] at hcases
    exact hrest.cons hdepth hcases

/-! ### Directives -/

/-- **An include region follows a path directive that is the first on its line**, unless the line
feed in front of it is in a comment, and follows nothing else that starts with a dollar sign. The
region is as deep as the directive, and holds filler and paths only. It goes on over a line feed
only if it is escaped, and ends with its line, at a comment, or with the text. -/
theorem tokenize_region {text : String} {before after : List Token} {t : Token}
    (h : (tokenize text).tokens = before.reverse ++ t :: after) (hkind : t.kind = .keywordOther)
    (hdollar : ['$'] <+: t.text.toList) :
    (t.text ∈ pathDirectives → FirstOnLine (Token.joined before.reverse).toList →
      breaksInComment before = false →
      ∃ region rest, after = region ++ rest ∧
        Include.IsRegion t.depth region (Token.joined rest).toList) ∧
    (¬ (t.text ∈ pathDirectives ∧ FirstOnLine (Token.joined before.reverse).toList ∧
        breaksInComment before = false) →
      inInclude (t :: before) (Token.joined after).toList = false) := by
  have hdirective : t.isPathDirective = true ↔ t.text ∈ pathDirectives := by
    rw [Token.isPathDirective, hkind, beq_self_eq_true, Bool.true_and, List.contains_iff_mem]
  have hstart := startsLine_iff h hkind hdollar
  constructor
  · intro hpath hfirst hbreak
    have hbracket : t.bracket? = none := bracket?_eq_none fun hop => by cases hkind.symm.trans hop
    refine exists_region h hbracket fun hend => ?_
    rw [inInclude, hend, hdirective.2 hpath, hstart.2 ⟨hfirst, hbreak⟩]
    rfl
  · intro hnot
    have hout := inInclude_eq_false h (by rw [hkind]; decide) (by rw [hkind]; decide)
    have hopens : (t.isPathDirective && startsLine before) = false := by
      rw [Bool.eq_false_iff, ne_eq, Bool.and_eq_true, hdirective, hstart]
      exact hnot
    rw [Token.joined_cons, String.toList_append] at hout
    rw [inInclude, hopens, hout, Bool.or_false, Bool.and_false]

/-- An import behind white space on its line, with its path on the next one. -/
theorem tokenize_region_continued :
    ∃ region rest, (tokenize "x\n $import \\\n<a b> // x").tokens.drop 3 = region ++ rest ∧
      Include.IsRegion 0 region (Token.joined rest).toList := by
  have htokens : (tokenize "x\n $import \\\n<a b> // x").tokens =
      [⟨.filler, ⟨1, 3⟩, "\n ", 0, none, false⟩,
        ⟨.identifier, ⟨0, 1⟩, "x", 0, none, false⟩].reverse ++
      ⟨.keywordOther, ⟨3, 10⟩, "$import", 0, none, false⟩ ::
        (tokenize "x\n $import \\\n<a b> // x").tokens.drop 3 := by
    decide +kernel
  have hfirst : FirstOnLine (Token.joined [⟨.filler, ⟨1, 3⟩, "\n ", 0, none, false⟩,
      ⟨.identifier, ⟨0, 1⟩, "x", 0, none, false⟩].reverse).toList :=
    ⟨['x', '\n'], [' '], by decide, .inr (by decide), List.forall_mem_singleton.2 rfl⟩
  exact (tokenize_region htokens rfl (by decide)).1 (by decide) hfirst (by decide)

/-- A line comment has taken the last line feed, and a carriage return has ended it. The directive
behind it is the first on its line, but no region follows it. -/
theorem not_region_behind_comment :
    let before : List Token := [⟨.filler, ⟨4, 5⟩, "\r", 0, none, false⟩,
      ⟨.comment, ⟨0, 4⟩, "//\\\n", 0, some .line, false⟩]
    let after : List Token := [⟨.filler, ⟨13, 14⟩, " ", 0, none, false⟩,
      ⟨.filler, ⟨14, 15⟩, "<", 0, none, false⟩, ⟨.identifier, ⟨15, 16⟩, "a", 0, none, false⟩,
      ⟨.filler, ⟨16, 17⟩, ">", 0, none, false⟩]
    (tokenize "//\\\n\r$include <a>").tokens =
        before.reverse ++ ⟨.keywordOther, ⟨5, 13⟩, "$include", 0, none, false⟩ :: after ∧
      "$include" ∈ pathDirectives ∧ FirstOnLine (Token.joined before.reverse).toList ∧
      ¬ ∃ region rest, after = region ++ rest ∧
        Include.IsRegion 0 region (Token.joined rest).toList := by
  intro before after
  refine ⟨by decide +kernel, by decide, ?_, ?_⟩
  · refine ⟨['/', '/', '\\', '\n'], ['\r'], by decide, .inr (by decide), ?_⟩
    exact List.forall_mem_singleton.2 rfl
  · rintro ⟨region, rest, hsplit, hregion⟩
    -- no region ends in front of the word, and none has the word
    rcases region with _ | ⟨u, _ | ⟨v, _ | ⟨w, region⟩⟩⟩
    · obtain rfl : after = rest := hsplit
      exact absurd hregion.ends (by decide)
    · obtain rfl : after.drop 1 = rest := congrArg (List.drop 1) hsplit
      exact absurd hregion.ends (by decide)
    · obtain rfl : after.drop 2 = rest := congrArg (List.drop 2) hsplit
      exact absurd hregion.ends (by decide)
    · simp only [after, List.cons_append, List.cons.injEq] at hsplit
      obtain ⟨-, -, hw, -⟩ := hsplit
      have hkind := hregion.kind w (by simp)
      rw [← hw] at hkind
      exact absurd hkind (by decide)

end SailNav
