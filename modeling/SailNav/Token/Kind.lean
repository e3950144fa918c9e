/-!
# Kinds of tokens

What a token is for, which kind of comment it is when it is one, and what may be wrong with it.
-/

namespace SailNav

/-- What a token is for. -/
inductive TokenKind where
  | comment
  | string
  | number
  | keywordControl
  | keywordType
  | keywordOther
  /-- Operators, punctuation of the closed set of operators, and brackets. -/
  | operator
  | typeVariable
  | identifier
  /-- White space and punctuation on its own. -/
  | filler
  deriving DecidableEq, Repr, Inhabited

namespace TokenKind

/-- Comments and filler mean nothing to the structure of a text. -/
def isTrivia : TokenKind → Bool
  | comment | filler => true
  | _ => false

def isKeyword : TokenKind → Bool
  | keywordControl | keywordType | keywordOther => true
  | _ => false

/-- The kinds whose words can name a definition. -/
def isName : TokenKind → Bool
  | identifier | typeVariable => true
  | _ => false

end TokenKind

/-- What a comment is written for. -/
inductive CommentStyle where
  | line
  | block
  | docLine
  | docBlock
  /-- A line that heads a section, such as `// = Memory =`. -/
  | banner
  deriving DecidableEq, Repr, Inhabited

/-- What can be wrong with a token. None of it stops the reading of a text. -/
inductive Anomaly.Kind where
  | unterminatedString
  | unterminatedBlockComment
  | unmatchedClose
  | unclosedBracket
  deriving DecidableEq, Repr, Inhabited

/-- What the author of the text is told. -/
def Anomaly.Kind.message : Anomaly.Kind → String
  | unterminatedString => "unterminated string literal"
  | unterminatedBlockComment => "unterminated block comment"
  | unmatchedClose => "closing bracket has no matching opening bracket"
  | unclosedBracket => "bracket is never closed"

/-- The two shapes of brackets that enclose regions. -/
inductive Bracket where
  | paren
  | brace
  deriving DecidableEq, Repr, Inhabited

end SailNav
