import SailNav.Definition.Rule

/-!
# The members of enums and unions

Behind the head of an `enum` or `union` stand its members, and they are definitions too: the
names between commas in an `enum`, the names before colons in a `union`. Between the head and the
members there may be type parameters and an equals sign; instead of a list in braces there may be
a single name.

`SailNav.BodyState` says how far the reading has come, and at which depth of brackets it goes on.
A token that belongs to the body of a definition is *consumed*: it is not looked at as a head
again.
-/

namespace SailNav

/-- What a list of members belongs to. -/
inductive MemberOwner where
  | enum
  | union
  deriving DecidableEq, Repr, Inhabited

namespace MemberOwner

/-- The kind of thing that a member is. -/
def memberKind : MemberOwner → DefinitionKind
  | enum => .enumMember
  | union => .unionConstructor

/-- The owner of the members behind a head, when members may follow it. -/
def ofKind? : DefinitionKind → Option MemberOwner
  | .enum => some enum
  | .union => some union
  | _ => none

/-- Whether an identifier of a member list names a member: behind a brace or comma in an `enum`,
before a colon in a `union`. -/
def names (owner : MemberOwner) (w : Window) : Bool :=
  match owner with
  | enum => w.previous?.any fun t => t.isSign "\x7b" || t.isSign ","
  | union => w.next?.any (·.isSign ":")

end MemberOwner

/-- How far the reading of members has come. -/
inductive BodyState where
  /-- No members are expected. -/
  | idle
  /-- Behind the name of a head at the given depth. -/
  | afterHead (owner : MemberOwner) (depth : Nat)
  /-- Behind the equals sign of a head at the given depth. -/
  | afterEquals (owner : MemberOwner) (depth : Nat)
  /-- Between the braces; the depth is that of the text between them. -/
  | inBody (owner : MemberOwner) (depth : Nat)
  deriving DecidableEq, Repr, Inhabited

/-- What reading a token as part of a body comes to. -/
structure BodyStep where
  state : BodyState
  /-- Whether the token belongs to the body. -/
  consumed : Bool
  member : Option Definition
  deriving DecidableEq, Repr, Inhabited

namespace BodyState

/-- The current token of a window as a member. -/
def member (owner : MemberOwner) (t : Token) : Definition := ⟨owner.memberKind, t.text, t.span⟩

/-- Whether a token belongs to the type parameters behind a head. -/
def inParameters (depth : Nat) (t : Token) : Bool :=
  depth < t.depth || t.depth == depth && (t.isSign "(" || t.isSign ")")

/-- Reads the current token of a window as part of a body. -/
def step (w : Window) : BodyState → BodyStep
  | idle => ⟨idle, false, none⟩
  | afterHead owner depth =>
    if inParameters depth w.current then ⟨afterHead owner depth, true, none⟩
    else if w.current.depth = depth ∧ w.current.isSign "=" then
      ⟨afterEquals owner depth, true, none⟩
    else ⟨idle, false, none⟩
  | afterEquals owner depth =>
    if w.current.depth = depth ∧ w.current.isSign "\x7b" then ⟨inBody owner (depth + 1), true, none⟩
    else if w.current.kind = .identifier then ⟨idle, true, some (member owner w.current)⟩
    else ⟨idle, false, none⟩
  | inBody owner depth =>
    if w.current.depth < depth then ⟨idle, true, none⟩
    else if w.current.depth = depth ∧ w.current.kind = .identifier ∧ owner.names w then
      ⟨inBody owner depth, true, some (member owner w.current)⟩
    else ⟨inBody owner depth, true, none⟩

/-- The state behind a definition whose head is at the given depth. -/
def afterDefinition (d : Definition) (depth : Nat) (state : BodyState) : BodyState :=
  match MemberOwner.ofKind? d.kind with
  | some owner => afterHead owner depth
  | none => state

end BodyState

end SailNav
