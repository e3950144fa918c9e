import SailNav.Token.Basic

/-!
# Looking around a token

Whether a token is defined by what it names is decided by the tokens around it, comments and
filler left aside. A *window* is such a token together with what the rules look at: the two
significant tokens before it and everything behind it.

What stands behind the last significant token, trivia included, is kept as well, since the name
of an operator is put together from tokens of any kind.
-/

namespace SailNav

/-- A significant token of a stream and its neighbourhood. -/
structure Window where
  current : Token
  /-- The significant token before the current one, with all tokens that follow it. -/
  last : Option (Token × List Token)
  /-- The significant token before the last one. -/
  secondLast : Option Token
  /-- All tokens that follow the current one. -/
  following : List Token
  deriving DecidableEq, Repr, Inhabited

namespace Window

/-- The significant token before the current one. -/
def previous? (w : Window) : Option Token := w.last.map Prod.fst

/-- The significant token after the current one. -/
def next? (w : Window) : Option Token := w.following.find? (!·.isTrivia)

/-- The windows of the tokens still to come, on top of those before, backwards. -/
def collect (taken : List Window) (secondLast : Option Token) (last : Option (Token × List Token)) :
    List Token → List Window
  | [] => taken
  | t :: rest =>
    if t.isTrivia then collect taken secondLast last rest
    else collect (⟨t, last, secondLast, rest⟩ :: taken) (last.map Prod.fst) (some (t, rest)) rest

/-- The windows of all significant tokens, in order. -/
def ofTokens (tokens : List Token) : List Window := (collect [] none none tokens).reverse

/-! ### The windows one by one -/

theorem collect_eq (taken : List Window) (secondLast : Option Token)
    (last : Option (Token × List Token)) (tokens : List Token) :
    collect taken secondLast last tokens = collect [] secondLast last tokens ++ taken := by
  induction tokens generalizing taken secondLast last with
  | nil => rfl
  | cons t rest ih =>
    unfold collect
    split
    · exact ih ..
    · rw [ih (_ :: taken), ih [_]]
      simp

theorem map_current_reverse_collect (secondLast : Option Token) (last : Option (Token × List Token))
    (tokens : List Token) :
    (collect [] secondLast last tokens).reverse.map current = tokens.filter (!·.isTrivia) := by
  induction tokens generalizing secondLast last with
  | nil => rfl
  | cons t rest ih =>
    unfold collect
    split
    · next h => simpa [h] using ih ..
    · next h =>
      rw [collect_eq]
      simp [h, ih]

/-- **There is one window for each significant token, in order.** -/
theorem map_current_ofTokens (tokens : List Token) :
    (ofTokens tokens).map current = tokens.filter (!·.isTrivia) :=
  map_current_reverse_collect none none tokens

end Window

end SailNav
