import SailNav.Token.Pattern
import SailNav.Token.Kind

/-!
# The lexicon of Sail

The lexical classes of the language, each with the pattern of its words, and the choice between
them. At each point of a text the class with the *longest* word wins; of several classes with an
equally long word, the first of `SailNav.lexicon` wins. This is why the keywords and the lone `_`
stand before the identifiers there, and it is the only thing the order decides, since no two
other classes share a word.

A literal or block comment that is never closed has a class of its own, whose words run to the
end of the text; the closed form, where there is one, is always longer.
-/

namespace SailNav

/-- A lexical class. -/
inductive LexClass where
  | whitespace
  | lineComment
  | blockComment
  | openBlockComment
  | string
  | openString
  | number
  | typeVariable
  | directive
  | keywordControl
  | keywordType
  | keywordOther
  | opening (bracket : Bracket)
  | closing (bracket : Bracket)
  | operator
  | identifier
  deriving DecidableEq, Repr, Inhabited

namespace Pattern

/-! ### The patterns of the classes -/

def letter : CharSet := .of [('A', 'Z'), ('a', 'z')]

def wordStart : CharSet := .of [('A', 'Z'), ('a', 'z'), ('_', '_')]

def wordChar : CharSet := .of [('A', 'Z'), ('a', 'z'), ('0', '9'), ('_', '_')]

def nameChar : CharSet :=
  .of [('A', 'Z'), ('a', 'z'), ('0', '9'), ('_', '_'), ('?', '?'), ('\'', '\'')]

def digit : CharSet := .of [('0', '9')]

def digitOrGap : CharSet := .of [('0', '9'), ('_', '_')]

/-- Runs of blanks, tabs, line ends and form feeds. -/
def whitespace : Pattern := plus (one (.oneOf " \t\r\n\x0c"))

/-- From `//` to the end of the line. A backslash right before the line end continues the
comment on the next line. -/
def lineComment : Pattern :=
  seq (word "//")
    (star (choice (one (.noneOf "\r\n\\"))
      [chain [char '\\', opt (char '\r'), char '\n'],
       seq (char '\\') (one (.noneOf "\r\n")),
       char '\\']))

/-- What may stand in a block comment before its closing `*/`. -/
def blockCommentBody : Pattern :=
  star (alt (one (.noneOf "*")) (seq (plus (char '*')) (one (.noneOf "*/"))))

def blockComment : Pattern :=
  chain [word "/*", blockCommentBody, plus (char '*'), char '/']

def openBlockComment : Pattern :=
  chain [word "/*", blockCommentBody, star (char '*')]

/-- What may stand in a string before its closing quote: a backslash takes the next character
with it, whichever it is. -/
def stringBody : Pattern :=
  star (alt (one (.noneOf "\"\\")) (seq (char '\\') (one .all)))

def string : Pattern := chain [char '"', stringBody, char '"']

def openString : Pattern := chain [char '"', stringBody, opt (char '\\')]

/-- The suffix that gives the type of a number. -/
def numberSuffix : Pattern :=
  choice (word "ull") [word "ULL", word "ul", word "UL", word "ll", word "LL",
    one (.oneOf "uUlLfF")]

def hexNumber : Pattern :=
  chain [char '0', one (.oneOf "xX"),
    plus (one (.of [('0', '9'), ('A', 'F'), ('a', 'f'), ('_', '_')])), opt numberSuffix]

def binaryNumber : Pattern :=
  chain [char '0', one (.oneOf "bB"), plus (one (.oneOf "01_")), opt numberSuffix]

/-- A digit, and then digits and gaps. -/
def digits : Pattern := seq (one digit) (star (one digitOrGap))

def decimalNumber : Pattern :=
  chain [digits, opt (seq (char '.') digits),
    opt (chain [one (.oneOf "eE"), opt (one (.oneOf "+-")), digits]), opt numberSuffix]

def typeVariable : Pattern := chain [char '\'', one letter, star (one wordChar)]

def directive : Pattern := chain [char '$', one wordStart, star (one wordChar)]

def keywordControl : Pattern :=
  words "if" ["then", "while", "for", "foreach", "return", "match", "else"]

def keywordType : Pattern := words "atom" ["int"]

def keywordOther : Pattern :=
  words "type" ["val", "var", "let", "in", "function", "scattered", "enum", "union", "clause",
    "default", "order", "dec", "register", "vector", "bitfield", "forall", "effect", "infix",
    "infixl", "infixr", "overload", "operator", "mapping", "struct", "newtype"]

def operator : Pattern :=
  words "=>" [">=", "<=", "=", "->", "-", ":", ",", "+", "*", ".", "@", "_"]

def identifier : Pattern := seq (one wordStart) (star (one nameChar))

end Pattern

/-- Every class with the pattern of its words. Of classes with an equally long word the first
wins. -/
def lexicon : List (LexClass × Pattern) :=
  [(.whitespace, .whitespace),
   (.lineComment, .lineComment),
   (.blockComment, .blockComment),
   (.openBlockComment, .openBlockComment),
   (.string, .string),
   (.openString, .openString),
   (.number, .choice .hexNumber [.binaryNumber, .decimalNumber]),
   (.typeVariable, .typeVariable),
   (.directive, .directive),
   (.keywordControl, .keywordControl),
   (.keywordType, .keywordType),
   (.keywordOther, .keywordOther),
   (.opening .paren, .char '('),
   (.closing .paren, .char ')'),
   (.opening .brace, .char '{'),
   (.closing .brace, .char '}'),
   (.operator, .operator),
   (.identifier, .identifier)]

/-! ### The longest word -/

/-- The classes that a word may still turn out to belong to, each with the goals that are left of
its pattern. -/
abbrev Front := List (LexClass × List Pattern.Goal)

namespace Front

/-- The front before any character is read. -/
def start : Front := lexicon.map fun (k, p) => (k, [[p]])

/-- The front once a character is read. -/
def advance (c : Char) (front : Front) : Front :=
  front.filterMap fun (k, goals) =>
    match Pattern.advance c goals with
    | [] => none
    | goals => some (k, goals)

/-- The first class that the characters read so far are a word of. -/
def accepted? (front : Front) : Option LexClass :=
  (front.find? fun (_, goals) => goals.any Pattern.Goal.done).map Prod.fst

end Front

/-- A word with its class and what follows it in the text. The word is kept backwards while it is
being read. -/
structure LexWord where
  kind : LexClass
  taken : List Char
  rest : List Char
  deriving DecidableEq, Repr, Inhabited

/-- Reads on in `text`, `taken` (backwards) having led to `front`; `best` is the longest word met
on the way. -/
def longestFrom (front : Front) (taken : List Char) (best : Option LexWord) :
    List Char → Option LexWord
  | [] => best
  | c :: rest =>
    match front.advance c with
    | [] => best
    | front =>
      let taken := c :: taken
      match front.accepted? with
      | some k => longestFrom front taken (some ⟨k, taken, rest⟩) rest
      | none => longestFrom front taken best rest

/-- The longest word of any class at the start of a text, if there is one. -/
def longestWord? (text : List Char) : Option LexWord :=
  (longestFrom Front.start [] none text).map fun w => { w with taken := w.taken.reverse }

/-! ### A word is a piece of the text -/

theorem longestFrom_append {front : Front} {taken text whole : List Char} {best : Option LexWord}
    {w : LexWord} (hwhole : taken.reverse ++ text = whole)
    (hbest : ∀ b, best = some b → b.taken ≠ [] ∧ b.taken.reverse ++ b.rest = whole)
    (h : longestFrom front taken best text = some w) :
    w.taken ≠ [] ∧ w.taken.reverse ++ w.rest = whole := by
  induction text generalizing front taken best with
  | nil => exact hbest w h
  | cons c rest ih =>
    have hwhole' : (c :: taken).reverse ++ rest = whole := by simpa using hwhole
    unfold longestFrom at h
    split at h
    · exact hbest w h
    · dsimp only at h
      split at h
      · refine ih hwhole' ?_ h
        rintro b ⟨⟩
        exact ⟨by simp, hwhole'⟩
      · exact ih hwhole' hbest h

/-- **The longest word is not empty, and the text is the word followed by the rest.** -/
theorem longestWord?_append {text : List Char} {w : LexWord} (h : longestWord? text = some w) :
    w.taken ≠ [] ∧ w.taken ++ w.rest = text := by
  obtain ⟨v, hv, rfl⟩ := Option.map_eq_some_iff.1 h
  have := longestFrom_append (show ([] : List Char).reverse ++ text = text by simp) (by simp) hv
  simpa using this

end SailNav
