import SailNav.Definition.Member
import SailNav.Proofs.Definition.Rule

/-!
# One step of reading a body

A word is consumed by the state of the reading in one of seven ways (`SailNav.BodyState.Consumes`), and
else it ends the body (`SailNav.BodyState.step_cases`). What is known of a step comes from these cases.
-/

namespace SailNav

/-- **A token is a parameter** of a head at a depth: it is deeper, or it is a parenthesis. -/
def Token.IsParameter (depth : Nat) (t : Token) : Prop :=
  depth < t.depth ∨ t.depth = depth ∧ (t.isSign "(" = true ∨ t.isSign ")" = true)

/-- An identifier is no keyword and no operator. -/
theorem Token.not_isSign_of_identifier {t : Token} (h : t.kind = .identifier) (text : String) :
    t.isSign text = false := by
  simp [isSign, h, TokenKind.isKeyword]

namespace BodyState

/-- **How a word can belong to a body**: the state before it, the state behind it, and the member
that it is. -/
inductive Consumes (w : Window) : BodyState → BodyState → Option Definition → Prop
  | parameter {owner : MemberOwner} {depth : Nat} (hparameter : w.current.IsParameter depth) :
      Consumes w (afterHead owner depth) (afterHead owner depth) none
  | equals {owner : MemberOwner} {depth : Nat} (hdepth : w.current.depth = depth)
      (hequals : w.current.isSign "=" = true) :
      Consumes w (afterHead owner depth) (afterEquals owner depth) none
  | brace {owner : MemberOwner} {depth : Nat} (hdepth : w.current.depth = depth)
      (hbrace : w.current.isSign "\x7b" = true) :
      Consumes w (afterEquals owner depth) (inBody owner (depth + 1)) none
  | bare {owner : MemberOwner} {depth : Nat} (hidentifier : w.current.kind = .identifier) :
      Consumes w (afterEquals owner depth) idle (some (member owner w.current))
  | close {owner : MemberOwner} {depth : Nat} (hdepth : w.current.depth < depth) :
      Consumes w (inBody owner depth) idle none
  | listed {owner : MemberOwner} {depth : Nat} (hdepth : w.current.depth = depth)
      (hidentifier : w.current.kind = .identifier) (hnames : owner.names w = true) :
      Consumes w (inBody owner depth) (inBody owner depth) (some (member owner w.current))
  | other {owner : MemberOwner} {depth : Nat} (hdepth : depth ≤ w.current.depth)
      (hother : ¬(w.current.depth = depth ∧ w.current.kind = .identifier ∧ owner.names w = true)) :
      Consumes w (inBody owner depth) (inBody owner depth) none

variable {w : Window} {state next : BodyState} {found : Option Definition} {d : Definition}
  {depth : Nat}

theorem inParameters_iff {t : Token} : inParameters depth t = true ↔ t.IsParameter depth := by
  simp [inParameters, Token.IsParameter]

/-- An equals sign is not among the parameters. -/
theorem not_inParameters_of_equals {t : Token} (hdepth : t.depth = depth)
    (hequals : t.isSign "=" = true) : inParameters depth t = false := by
  have htext := Token.text_eq_of_isSign hequals
  simp [inParameters, hdepth, Token.isSign, htext]

theorem Consumes.step_eq (h : Consumes w state next found) :
    state.step w = ⟨next, true, found⟩ := by
  cases h with
  | parameter hparameter => simp [step, inParameters_iff.2 hparameter]
  | equals hdepth hequals =>
    simp [step, not_inParameters_of_equals hdepth hequals, hdepth, hequals]
  | brace hdepth hbrace => simp [step, hdepth, hbrace]
  | bare hidentifier => simp [step, Token.not_isSign_of_identifier hidentifier, hidentifier]
  | close hdepth => simp [step, hdepth]
  | listed hdepth hidentifier hnames => simp [step, hdepth, hidentifier, hnames]
  | other hdepth hother => simp only [step, if_neg (Nat.not_lt.2 hdepth), if_neg hother]

/-- Inside of braces every word is consumed. -/
theorem exists_consumes_inBody (w : Window) (owner : MemberOwner) (depth : Nat) :
    ∃ next found, Consumes w (inBody owner depth) next found := by
  rcases Nat.lt_or_ge w.current.depth depth with hlt | hle
  · exact ⟨_, _, .close hlt⟩
  · by_cases hlisted : w.current.depth = depth ∧ w.current.kind = .identifier ∧ owner.names w = true
    · exact ⟨_, _, .listed hlisted.1 hlisted.2.1 hlisted.2.2⟩
    · exact ⟨_, _, .other hle hlisted⟩

/-- **A word is consumed, or the body is over and the word is none of it.** -/
theorem step_cases (state : BodyState) (w : Window) :
    (∃ next found, Consumes w state next found) ∨ state.step w = ⟨idle, false, none⟩ := by
  cases state with
  | idle => exact .inr rfl
  | afterHead owner depth =>
    by_cases hparameter : w.current.IsParameter depth
    · exact .inl ⟨_, _, .parameter hparameter⟩
    · by_cases hequals : w.current.depth = depth ∧ w.current.isSign "=" = true
      · exact .inl ⟨_, _, .equals hequals.1 hequals.2⟩
      · exact .inr (by rw [step, if_neg (mt inParameters_iff.1 hparameter), if_neg hequals])
  | afterEquals owner depth =>
    by_cases hbrace : w.current.depth = depth ∧ w.current.isSign "\x7b" = true
    · exact .inl ⟨_, _, .brace hbrace.1 hbrace.2⟩
    · by_cases hidentifier : w.current.kind = .identifier
      · exact .inl ⟨_, _, .bare hidentifier⟩
      · exact .inr (by rw [step, if_neg hbrace, if_neg hidentifier])
  | inBody owner depth => exact .inl (exists_consumes_inBody w owner depth)

theorem Consumes.ne_idle (h : Consumes w state next found) : state ≠ idle := by
  cases h <;> nofun

/-- What is found in a body is an identifier, as a member. -/
theorem Consumes.eq_member (h : Consumes w state next (some d)) :
    w.current.kind = .identifier ∧ ∃ owner, d = member owner w.current := by
  cases h with
  | bare hidentifier => exact ⟨hidentifier, _, rfl⟩
  | listed _ hidentifier => exact ⟨hidentifier, _, rfl⟩

theorem kind_member_mem (owner : MemberOwner) (t : Token) :
    (member owner t).kind ∈ [DefinitionKind.operator, .enumMember, .unionConstructor] := by
  cases owner <;> simp [member, MemberOwner.memberKind]

theorem kind_member_ne_operator (owner : MemberOwner) (t : Token) :
    (member owner t).kind ≠ .operator := by
  cases owner <;> simp [member, MemberOwner.memberKind]

end BodyState

end SailNav
