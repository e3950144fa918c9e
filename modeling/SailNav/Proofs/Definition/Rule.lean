import SailNav.Definition.Rule

/-!
# The rows of the rules

What an identifier defines is decided by the one or two words before it, by a closed table with a row
for each keyword and for some pairs of keywords. Here the table is written out as a relation
(`SailNav.PairRow`, `SailNav.KeywordRow`), and so is what it means for words to be in a row of it
(`SailNav.Row`): a pair goes before its second keyword on its own, and a `let` or `var` counts only
at the top of a text. Going through the lists of rules for the first one that fits comes to the same
(`SailNav.Window.ruleKind?_eq_some_iff`), since the rules have different keywords and a word is only
one of them.
-/

namespace SailNav

/-- The rows of two keywords. -/
inductive PairRow : (first second : String) → DefinitionKind → Prop
  | scatteredFunction : PairRow "scattered" "function" .scatteredFunction
  | scatteredUnion : PairRow "scattered" "union" .union
  | scatteredEnum : PairRow "scattered" "enum" .enum
  | scatteredMapping : PairRow "scattered" "mapping" .mapping
  | functionClause : PairRow "function" "clause" .functionClause
  | mappingClause : PairRow "mapping" "clause" .mappingClause
  | unionClause : PairRow "union" "clause" .union
  | enumClause : PairRow "enum" "clause" .enum

/-- The rows of one keyword. -/
inductive KeywordRow : (keyword : String) → DefinitionKind → Prop
  | function : KeywordRow "function" .function
  | val : KeywordRow "val" .value
  | let : KeywordRow "let" .binding
  | var : KeywordRow "var" .binding
  | type : KeywordRow "type" .type
  | newtype : KeywordRow "newtype" .type
  | enum : KeywordRow "enum" .enum
  | union : KeywordRow "union" .union
  | struct : KeywordRow "struct" .struct
  | bitfield : KeywordRow "bitfield" .bitfield
  | register : KeywordRow "register" .register
  | mapping : KeywordRow "mapping" .mapping
  | overload : KeywordRow "overload" .overload

/-- **A row fits the words before an identifier**, of which the one before the last may be missing. -/
inductive Row (before : Option Token) (last : Token) : DefinitionKind → Prop
  /-- The two words are the two keywords of a row. -/
  | pair {word : Token} {first second : String} {kind : DefinitionKind} (hbefore : before = some word)
      (hfirst : word.isSign first = true) (hsecond : last.isSign second = true)
      (hrow : PairRow first second kind) : Row before last kind
  /-- The last word is the keyword of a row, and not the second one of a pair. A binding is outside
  every bracket, and no expression goes on with it. -/
  | keyword {keyword : String} {kind : DefinitionKind} (hlast : last.isSign keyword = true)
      (hrow : KeywordRow keyword kind)
      (halone : ∀ word first pairKind, before = some word → PairRow first keyword pairKind →
        word.isSign first = false)
      (htop : kind = .binding → last.depth = 0 ∧ ∀ word, before = some word →
        ∀ text ∈ ["=", "=>", "->", "in", "then", "else", ",", ":", "(", "\x7b"],
          word.isSign text = false) : Row before last kind

theorem pairRow_iff {first second : String} {kind : DefinitionKind} :
    PairRow first second kind ↔ (first, second, kind) ∈ pairRules := by
  constructor
  · intro h
    cases h <;> decide
  · intro h
    simp only [pairRules, List.mem_cons, Prod.mk.injEq, List.not_mem_nil, or_false] at h
    rcases h with ⟨rfl, rfl, rfl⟩ | ⟨rfl, rfl, rfl⟩ | ⟨rfl, rfl, rfl⟩ | ⟨rfl, rfl, rfl⟩ |
      ⟨rfl, rfl, rfl⟩ | ⟨rfl, rfl, rfl⟩ | ⟨rfl, rfl, rfl⟩ | ⟨rfl, rfl, rfl⟩ <;> constructor

theorem keywordRow_iff {keyword : String} {kind : DefinitionKind} :
    KeywordRow keyword kind ↔ (keyword, kind) ∈ keywordRules := by
  constructor
  · intro h
    cases h <;> decide
  · intro h
    simp only [keywordRules, List.mem_cons, Prod.mk.injEq, List.not_mem_nil, or_false] at h
    rcases h with ⟨rfl, rfl⟩ | ⟨rfl, rfl⟩ | ⟨rfl, rfl⟩ | ⟨rfl, rfl⟩ | ⟨rfl, rfl⟩ | ⟨rfl, rfl⟩ |
      ⟨rfl, rfl⟩ | ⟨rfl, rfl⟩ | ⟨rfl, rfl⟩ | ⟨rfl, rfl⟩ | ⟨rfl, rfl⟩ | ⟨rfl, rfl⟩ | ⟨rfl, rfl⟩ <;>
        constructor

/-! ### The first rule that fits -/

/-- Where no two members of a list fit, the first that fits is any that does. -/
theorem find?_eq_some_iff_of_unique {α : Type} {xs : List α} {fits : α → Bool}
    (h : ∀ x ∈ xs, ∀ y ∈ xs, fits x = true → fits y = true → x = y) {x : α} :
    xs.find? fits = some x ↔ x ∈ xs ∧ fits x = true := by
  refine ⟨fun hx => ⟨List.mem_of_find?_eq_some hx, List.find?_some hx⟩, fun ⟨hmem, hfits⟩ => ?_⟩
  cases hfind : xs.find? fits with
  | none => exact absurd hfits (List.find?_eq_none.1 hfind x hmem)
  | some y =>
    rw [h x hmem y (List.mem_of_find?_eq_some hfind) hfits (List.find?_some hfind)]

/-- A keyword or an operator has one text. -/
theorem Token.text_eq_of_isSign {t : Token} {text : String} (h : t.isSign text = true) :
    t.text = text := by
  rw [isSign, Bool.and_eq_true] at h
  exact eq_of_beq h.2

theorem find?_pairRules_eq_some_iff {word last : Token} {rule : String × String × DefinitionKind} :
    (pairRules.find? fun (first, second, _) => word.isSign first && last.isSign second) = some rule ↔
      PairRow rule.1 rule.2.1 rule.2.2 ∧ word.isSign rule.1 = true ∧
        last.isSign rule.2.1 = true := by
  have hkeys : ∀ x ∈ pairRules, ∀ y ∈ pairRules, x.1 = y.1 → x.2.1 = y.2.1 → x = y := by decide
  rw [find?_eq_some_iff_of_unique, pairRow_iff, Bool.and_eq_true]
  intro x hx y hy hfitsx hfitsy
  rw [Bool.and_eq_true] at hfitsx hfitsy
  exact hkeys x hx y hy
    ((Token.text_eq_of_isSign hfitsx.1).symm.trans (Token.text_eq_of_isSign hfitsy.1))
    ((Token.text_eq_of_isSign hfitsx.2).symm.trans (Token.text_eq_of_isSign hfitsy.2))

theorem find?_keywordRules_eq_some_iff {last : Token} {rule : String × DefinitionKind} :
    (keywordRules.find? fun (keyword, _) => last.isSign keyword) = some rule ↔
      KeywordRow rule.1 rule.2 ∧ last.isSign rule.1 = true := by
  have hkeys : ∀ x ∈ keywordRules, ∀ y ∈ keywordRules, x.1 = y.1 → x = y := by decide
  rw [find?_eq_some_iff_of_unique, keywordRow_iff]
  intro x hx y hy hfitsx hfitsy
  exact hkeys x hx y hy
    ((Token.text_eq_of_isSign hfitsx).symm.trans (Token.text_eq_of_isSign hfitsy))

namespace Window

variable {w : Window} {last : Token} {kind : DefinitionKind}

theorem bindsAtTop_iff :
    w.bindsAtTop last = true ↔ last.depth = 0 ∧ ∀ word, w.secondLast = some word →
      ∀ text ∈ ["=", "=>", "->", "in", "then", "else", ",", ":", "(", "\x7b"],
        word.isSign text = false := by
  rw [bindsAtTop, Bool.and_eq_true, beq_iff_eq, Bool.not_eq_true']
  refine and_congr_right fun _ => ?_
  cases w.secondLast with
  | none => simp
  | some word => simp [Token.isSignOf, expressionContinuations]

/-- **The rules find the kind of the row that fits.** -/
theorem ruleKind?_eq_some_iff : w.ruleKind? last = some kind ↔ Row w.secondLast last kind := by
  constructor
  · intro h
    unfold ruleKind? at h
    split at h
    · next first second pairKind hpair =>
      obtain ⟨word, hbefore, hfind⟩ := Option.bind_eq_some_iff.1 hpair
      obtain ⟨hrow, hfirst, hsecond⟩ := find?_pairRules_eq_some_iff.1 hfind
      obtain rfl := Option.some.inj h
      exact .pair hbefore hfirst hsecond hrow
    · next hpair =>
      have halone : ∀ keyword, last.isSign keyword = true → ∀ word first pairKind,
          w.secondLast = some word → PairRow first keyword pairKind → word.isSign first = false := by
        intro keyword hlast word first pairKind hbefore hrow
        rw [hbefore, Option.bind_some, List.find?_eq_none] at hpair
        simpa [hlast] using hpair _ (pairRow_iff.1 hrow)
      split at h
      · next keyword hfind =>
        obtain ⟨hrow, hlast⟩ := find?_keywordRules_eq_some_iff.1 hfind
        split at h
        · next htop =>
          obtain rfl := Option.some.inj h
          exact .keyword hlast hrow (halone _ hlast) fun _ => bindsAtTop_iff.1 htop
        · cases h
      · next keyword ruleKind hother hfind =>
        obtain ⟨hrow, hlast⟩ := find?_keywordRules_eq_some_iff.1 hfind
        obtain rfl := Option.some.inj h
        exact .keyword hlast hrow (halone _ hlast) fun hbinding => absurd hbinding hother
      · cases h
  · intro h
    cases h with
    | @pair word first second _ hbefore hfirst hsecond hrow =>
      have hfind : (pairRules.find? fun (first, second, _) =>
          word.isSign first && last.isSign second) = some (first, second, kind) :=
        find?_pairRules_eq_some_iff.2 ⟨hrow, hfirst, hsecond⟩
      rw [ruleKind?, hbefore, Option.bind_some, hfind]
    | @keyword keyword _ hlast hrow halone htop =>
      have hpair : (w.secondLast.bind fun word => pairRules.find? fun (first, second, _) =>
          word.isSign first && last.isSign second) = none := by
        rw [Option.bind_eq_none_iff]
        intro word hbefore
        rw [List.find?_eq_none]
        rintro ⟨first, second, pairKind⟩ hmem hfits
        rw [Bool.and_eq_true] at hfits
        obtain rfl : second = keyword :=
          (Token.text_eq_of_isSign hfits.2).symm.trans (Token.text_eq_of_isSign hlast)
        have hnot := halone word first pairKind hbefore (pairRow_iff.2 hmem)
        exact Bool.false_ne_true (hnot.symm.trans hfits.1)
      have hfind : (keywordRules.find? fun (keyword, _) => last.isSign keyword) =
          some (keyword, kind) := find?_keywordRules_eq_some_iff.2 ⟨hrow, hlast⟩
      rw [ruleKind?, hpair, hfind]
      cases kind with
      | binding => exact if_pos (bindsAtTop_iff.2 (htop rfl))
      | _ => rfl

end Window

namespace Row

variable {before : Option Token} {last : Token} {kind : DefinitionKind}

/-- No row is one of operators or of members. -/
theorem notMem (h : Row before last kind) :
    kind ∉ [.operator, .enumMember, .unionConstructor] := by
  cases h with
  | pair _ _ _ hrow => cases hrow <;> decide
  | keyword _ hrow => cases hrow <;> decide

/-- The last word of a row is one of its keywords. -/
theorem exists_isSign (h : Row before last kind) :
    ∃ keyword, last.isSign keyword = true ∧ keyword ∉ ["operator", "infix", "infixl", "infixr"] := by
  cases h with
  | pair _ _ hsecond hrow => exact ⟨_, hsecond, by cases hrow <;> decide⟩
  | keyword hlast hrow => exact ⟨_, hlast, by cases hrow <;> decide⟩

/-- Behind the words of a row there is no name of an operator. -/
theorem afterOperatorKeyword_eq_false {w : Window} (h : Row w.secondLast last kind) :
    w.afterOperatorKeyword last = false := by
  obtain ⟨keyword, hlast, hother⟩ := h.exists_isSign
  have hsign : ∀ text ∈ ["operator", "infix", "infixl", "infixr"], last.isSign text = false := by
    intro text hmem
    rw [← Bool.not_eq_true]
    intro htext
    have heq := (Token.text_eq_of_isSign hlast).symm.trans (Token.text_eq_of_isSign htext)
    exact hother (heq ▸ hmem)
  have hnumber : (last.kind == .number) = false := by
    rw [Token.isSign, Bool.and_eq_true] at hlast
    cases hkind : last.kind <;> simp [hkind, TokenKind.isKeyword] at hlast ⊢
  simp [Window.afterOperatorKeyword, Token.isSignOf, fixityKeywords, hsign, hnumber]

end Row

/-- **What a window is the head of**: an operator, named behind the last token, or the identifier
itself, by the row that fits. -/
theorem Window.head?_eq_some_iff {w : Window} {d : Definition} : w.head? = some d ↔
    ∃ last behind, w.last = some (last, behind) ∧
      (w.afterOperatorKeyword last = true ∧ operatorAfter? behind = some d ∨
        w.current.kind = .identifier ∧ Row w.secondLast last d.kind ∧
          d = ⟨d.kind, w.current.text, w.current.span⟩) := by
  constructor
  · intro h
    unfold head? at h
    split at h
    · cases h
    · next last behind hlast =>
      refine ⟨last, behind, hlast, ?_⟩
      split at h
      · next hoperator => exact .inl ⟨hoperator, h⟩
      · split at h
        · next hidentifier =>
          obtain ⟨kind, hkind, rfl⟩ := Option.map_eq_some_iff.1 h
          exact .inr ⟨hidentifier, ruleKind?_eq_some_iff.1 hkind, rfl⟩
        · cases h
  · rintro ⟨last, behind, hlast, ⟨hoperator, hname⟩ | ⟨hidentifier, hrow, heq⟩⟩
    · rw [head?, hlast]
      exact (if_pos hoperator).trans hname
    · have hnot := hrow.afterOperatorKeyword_eq_false
      have hkind := ruleKind?_eq_some_iff.2 hrow
      rw [head?, hlast]
      simp [hnot, hidentifier, hkind, ← heq]

end SailNav
