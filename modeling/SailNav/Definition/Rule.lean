import SailNav.Definition.Kind
import SailNav.Definition.Window
import SailNav.Text.Blank

/-!
# The heads of definitions

Which tokens are the names of definitions, by the one or two significant tokens before them. The
rules are two tables, of pairs of keywords and of single keywords, and a pair goes before the single
keyword that is its second half. Two things do not fit a table.

* `let` and `var` also bind inside expressions. They define something only outside every bracket
  and not behind a token that an expression goes on from.
* The name of an operator, as in `overload operator <_u`, is not one token. It is *glued* together
  from the adjacent tokens behind the keyword, up to a blank, a bracket, a comment or a string. A
  fixity declaration names an operator too, behind a number if it has one.
-/

namespace SailNav

/-- Pairs of keywords before a name, with what they define. -/
def pairRules : List (String × String × DefinitionKind) :=
  [("scattered", "function", .scatteredFunction),
   ("scattered", "union", .union),
   ("scattered", "enum", .enum),
   ("scattered", "mapping", .mapping),
   ("function", "clause", .functionClause),
   ("mapping", "clause", .mappingClause),
   ("union", "clause", .union),
   ("enum", "clause", .enum)]

/-- Keywords before a name, with what they define. -/
def keywordRules : List (String × DefinitionKind) :=
  [("function", .function),
   ("val", .value),
   ("let", .binding),
   ("var", .binding),
   ("type", .type),
   ("newtype", .type),
   ("enum", .enum),
   ("union", .union),
   ("struct", .struct),
   ("bitfield", .bitfield),
   ("register", .register),
   ("mapping", .mapping),
   ("overload", .overload)]

/-- The keywords that declare how an operator binds. -/
def fixityKeywords : List String := ["infix", "infixl", "infixr"]

/-- The tokens from which an expression goes on, so that a binding behind them is local. -/
def expressionContinuations : List String :=
  ["=", "=>", "->", "in", "then", "else", ",", ":", "(", "\x7b"]

namespace Token

/-- Whether a token is one of the keywords or operators of a list. -/
def isSignOf (t : Token) (texts : List String) : Bool := texts.any t.isSign

/-- Whether a token is filler that shows nothing. -/
def isBlank (t : Token) : Bool := t.kind == .filler && t.text.toList.all Text.isBlank

/-- Whether a token may be part of the name of an operator. -/
def isGlue (t : Token) : Bool :=
  !t.isBlank && t.kind != .comment && t.kind != .string && !t.isOpenBracket && !t.isCloseBracket

end Token

/-- The tokens of an operator's name, of which the first is given apart, as a definition. -/
def operatorDefinition (first : Token) (rest : List Token) : Definition where
  kind := .operator
  name := String.join (first.text :: rest.map Token.text)
  span := ⟨first.span.start, (rest.getLast?.getD first).span.stop⟩

/-- The operator whose name follows, if a name follows. -/
def operatorAfter? (tokens : List Token) : Option Definition :=
  match tokens.dropWhile Token.isBlank with
  | first :: rest =>
    if first.isGlue then some (operatorDefinition first (rest.takeWhile Token.isGlue)) else none
  | [] => none

namespace Window

/-- Whether the name of an operator follows the last significant token: behind `operator`, behind
a fixity keyword without a number, or behind its number. -/
def afterOperatorKeyword (w : Window) (last : Token) : Bool :=
  if last.isSign "operator" then true
  else if last.isSignOf fixityKeywords then w.current.kind != .number
  else last.kind == .number && w.secondLast.any (·.isSignOf fixityKeywords)

/-- Whether a `let` or `var` before the current token defines something. -/
def bindsAtTop (w : Window) (keyword : Token) : Bool :=
  keyword.depth == 0 && !w.secondLast.any (·.isSignOf expressionContinuations)

/-- What the keywords before an identifier make it define. -/
def ruleKind? (w : Window) (last : Token) : Option DefinitionKind :=
  match w.secondLast.bind fun before =>
      pairRules.find? fun (first, second, _) => before.isSign first && last.isSign second with
  | some (_, _, kind) => some kind
  | none =>
    match keywordRules.find? fun (keyword, _) => last.isSign keyword with
    | some (_, .binding) => if w.bindsAtTop last then some .binding else none
    | some (_, kind) => some kind
    | none => none

/-- The definition that the current token is the head of, if it is one. For an operator the
current token only shows that something follows the keyword. -/
def head? (w : Window) : Option Definition :=
  match w.last with
  | none => none
  | some (last, behindLast) =>
    if w.afterOperatorKeyword last then operatorAfter? behindLast
    else if w.current.kind = .identifier then
      (w.ruleKind? last).map fun kind => ⟨kind, w.current.text, w.current.span⟩
    else none

end Window

end SailNav
