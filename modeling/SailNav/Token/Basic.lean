import SailNav.Text.Measure
import SailNav.Token.Span
import SailNav.Token.Lexeme
import SailNav.Token.Comment

/-!
# Tokens

The second of two steps from a text to its tokens: each lexeme becomes one token, gets its span,
and is told how deeply it is nested in brackets. What is wrong with a token is noted as an
`SailNav.Anomaly` and stops nothing.

The brackets that are open at some point form a stack. A closing bracket closes the innermost
open bracket of its own shape; open brackets of the other shape that stand further in are given
up, and reported as never closed. A closing bracket for which none is open is reported itself and
changes nothing. Both brackets of a pair have the depth of the text around them.

`SailNav.tokenize` is the whole way. Its tokens cover the text without a gap, and its anomalies are
in the order of the text.
-/

namespace SailNav

/-- A piece of a text with its place and its meaning. -/
structure Token where
  kind : TokenKind
  span : Span
  text : String
  /-- Number of bracketed regions around the token. -/
  depth : Nat
  /-- The style of a comment. -/
  comment : Option CommentStyle
  /-- Whether the token is a literal or comment that is never closed. -/
  unterminated : Bool
  deriving DecidableEq, Repr, Inhabited

/-- Something wrong with the token of a span. -/
structure Anomaly where
  kind : Anomaly.Kind
  span : Span
  deriving DecidableEq, Repr, Inhabited

/-- The tokens of a text, and what is wrong with them. -/
structure TokenStream where
  tokens : List Token
  anomalies : List Anomaly
  deriving DecidableEq, Repr, Inhabited

namespace Token

def isTrivia (t : Token) : Bool := t.kind.isTrivia

/-- Whether a token is a keyword or an operator with exactly the given text. -/
def isSign (t : Token) (text : String) : Bool :=
  (t.kind.isKeyword || t.kind == .operator) && t.text == text

def isOpenBracket (t : Token) : Bool := t.kind == .operator && (t.text == "(" || t.text == "\x7b")

def isCloseBracket (t : Token) : Bool := t.kind == .operator && (t.text == ")" || t.text == "\x7d")

end Token

/-! ### From a lexeme to a token -/

/-- The kind of token that the words of a class become. -/
def LexClass.tokenKind : LexClass → TokenKind
  | whitespace => .filler
  | lineComment | blockComment | openBlockComment => .comment
  | string | openString => .string
  | number => .number
  | typeVariable => .typeVariable
  | directive | keywordOther => .keywordOther
  | keywordControl => .keywordControl
  | keywordType => .keywordType
  | opening _ | closing _ | operator => .operator
  | identifier => .identifier

namespace Lexeme

def tokenKind (l : Lexeme) : TokenKind :=
  match l.shape with
  | .word kind => kind.tokenKind
  | .stray => .filler
  | .piece .filler => .filler
  | .piece _ => .string

def commentStyle (l : Lexeme) : Option CommentStyle :=
  match l.shape with
  | .word .lineComment => some (.ofLineComment l.text)
  | .word .blockComment | .word .openBlockComment => some (.ofBlockComment l.text)
  | _ => none

/-- What is wrong with a lexeme itself. -/
def fault (l : Lexeme) : Option Anomaly.Kind :=
  match l.shape with
  | .word .openBlockComment => some .unterminatedBlockComment
  | .word .openString | .piece .openPath => some .unterminatedString
  | _ => none

/-- The token of a lexeme at a place and a depth. -/
def token (l : Lexeme) (span : Span) (depth : Nat) : Token where
  kind := l.tokenKind
  span := span
  text := String.ofList l.text
  depth := depth
  comment := l.commentStyle
  unterminated := l.fault.isSome

end Lexeme

/-! ### The open brackets -/

/-- The brackets that are open at some point of a text, innermost first. -/
abbrev OpenBrackets := List (Bracket × Span)

namespace OpenBrackets

/-- The brackets given up by closing the innermost one of a shape, and those left open behind it;
nothing when none of the shape is open. -/
def close? (shape : Bracket) : OpenBrackets → Option (List Span × OpenBrackets)
  | [] => none
  | (b, span) :: outer =>
    if b = shape then some ([], outer)
    else (close? shape outer).map fun (given, left) => (span :: given, left)

end OpenBrackets

/-- What is known of a text when some of its lexemes are read. Tokens and anomalies are
backwards. -/
structure TokenBuilder where
  /-- Where the next lexeme starts. -/
  offset : Nat
  brackets : OpenBrackets
  tokens : List Token
  anomalies : List Anomaly
  deriving DecidableEq, Repr, Inhabited

namespace TokenBuilder

/-- Before the first lexeme. -/
def start : TokenBuilder := ⟨0, [], [], []⟩

/-- A builder with one more token, at the depth of the given open brackets, which are those
around it. -/
def push (b : TokenBuilder) (l : Lexeme) (around : OpenBrackets) (faults : List Anomaly) :
    TokenBuilder where
  offset := b.offset + Text.byteLength l.text
  brackets := around
  tokens := l.token ⟨b.offset, b.offset + Text.byteLength l.text⟩ around.length :: b.tokens
  anomalies := faults ++ b.anomalies

/-- A builder with one more lexeme read. -/
def add (b : TokenBuilder) (l : Lexeme) : TokenBuilder :=
  let span : Span := ⟨b.offset, b.offset + Text.byteLength l.text⟩
  match l.shape with
  | .word (.opening shape) =>
    let after := b.push l b.brackets []
    { after with brackets := (shape, span) :: b.brackets }
  | .word (.closing shape) =>
    match b.brackets.close? shape with
    | some (given, outer) => b.push l outer (given.map fun s => ⟨.unclosedBracket, s⟩)
    | none => b.push l b.brackets [⟨.unmatchedClose, span⟩]
  | _ => b.push l b.brackets (l.fault.map fun kind => (⟨kind, span⟩ : Anomaly)).toList

/-- The tokens read, and every anomaly in the order of the text, the brackets that are still open
among them. -/
def finish (b : TokenBuilder) : TokenStream where
  tokens := b.tokens.reverse
  anomalies :=
    (b.brackets.map (fun entry => (⟨.unclosedBracket, entry.2⟩ : Anomaly)) ++
      b.anomalies).mergeSort fun x y => x.span.start ≤ y.span.start

end TokenBuilder

/-- The tokens of a text. Nothing is refused. -/
def tokenize (text : String) : TokenStream :=
  ((lexemes text.toList).foldl TokenBuilder.add TokenBuilder.start).finish

end SailNav
