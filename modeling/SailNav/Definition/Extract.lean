import SailNav.Definition.Member

/-!
# The definitions of a text

The significant tokens are gone through in order. Each is read as part of the body of the last
`enum` or `union` if it belongs to one, and else as the head of a definition.
-/

namespace SailNav

/-- What is known when some tokens of a text are read. The definitions are backwards. -/
structure Extraction where
  state : BodyState
  found : List Definition
  deriving DecidableEq, Repr, Inhabited

namespace Extraction

/-- Before the first token. -/
def start : Extraction := ⟨.idle, []⟩

/-- The extraction with the current token of a window read. -/
def add (e : Extraction) (w : Window) : Extraction :=
  let s := e.state.step w
  let found := s.member.toList ++ e.found
  if s.consumed then ⟨s.state, found⟩
  else
    match w.head? with
    | some d => ⟨s.state.afterDefinition d w.current.depth, d :: found⟩
    | none => ⟨s.state, found⟩

end Extraction

/-- The definitions of a token stream, in the order in which they are found. -/
def extract (stream : TokenStream) : List Definition :=
  ((Window.ofTokens stream.tokens).foldl Extraction.add Extraction.start).found.reverse

end SailNav
