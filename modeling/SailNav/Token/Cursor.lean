import SailNav.Token.Basic

/-!
# The token at a cursor

A cursor stands at a byte offset. It is on the token whose bytes it points into; at the end of the
text it is on none. The *name* at a cursor is what the author of the text means by it: the name it
is on, or else the name it stands right behind, as it does once a word is typed. The second is
only for a cursor on filler or an operator or at the end of the text, since a comment, a string, a
number and a keyword mean something themselves.
-/

namespace SailNav

namespace TokenStream

/-- The tokens that end at or before an offset. -/
def before (s : TokenStream) (offset : Nat) : List Token :=
  s.tokens.takeWhile (·.span.stop ≤ offset)

/-- The token whose span contains an offset. -/
def tokenAt? (s : TokenStream) (offset : Nat) : Option Token :=
  (s.tokens.dropWhile (·.span.stop ≤ offset)).head?.filter (·.span.contains offset)

/-- The name that ends exactly at an offset. -/
def nameEndingAt? (s : TokenStream) (offset : Nat) : Option Token :=
  (s.before offset).getLast?.filter fun t => t.span.stop == offset && t.kind.isName

/-- The name at an offset, or right before it. -/
def nameAt? (s : TokenStream) (offset : Nat) : Option Token :=
  match s.tokenAt? offset with
  | none => s.nameEndingAt? offset
  | some t =>
    if t.kind.isName then some t
    else if t.kind = .filler ∨ t.kind = .operator then s.nameEndingAt? offset
    else none

end TokenStream

end SailNav
