/-!
# Patterns

Regular expressions over characters, which say what the words of a lexical class look like.
`SailNav.Pattern.Matches` is what a pattern means. It is defined on its own and runs nothing; the
rest of the module reads a word against a pattern one character at a time.

After some characters of a word, what may still follow is described by *goals*. A goal is a list
of patterns to be matched one after another, and a word may follow when it matches one of the
goals. `SailNav.Pattern.after` gives the goals that are left of a pattern once a character is
read. Only finitely many goals ever arise from one pattern, so as long as repeated goals are
thrown away (`SailNav.Pattern.advance`) their number stays bounded, however long the text.
-/

namespace SailNav

/-! ### Sets of characters -/

/-- A set of characters: the union of closed ranges, or its complement. -/
structure CharSet where
  negated : Bool
  ranges : List (Char × Char)
  deriving DecidableEq, Repr, Inhabited

namespace CharSet

/-- The characters in one of the ranges. -/
def of (ranges : List (Char × Char)) : CharSet := ⟨false, ranges⟩

/-- The characters of a string. -/
def oneOf (chars : String) : CharSet := ⟨false, chars.toList.map fun c => (c, c)⟩

/-- The characters that do not occur in a string. -/
def noneOf (chars : String) : CharSet := ⟨true, chars.toList.map fun c => (c, c)⟩

/-- Every character. -/
def all : CharSet := ⟨true, []⟩

def contains (s : CharSet) (c : Char) : Bool :=
  s.negated != s.ranges.any fun (first, last) => first ≤ c && c ≤ last

end CharSet

/-! ### Patterns and their words -/

/-- A regular expression. -/
inductive Pattern where
  /-- Matches the empty word only. -/
  | blank
  /-- Matches one character of a set. -/
  | one (s : CharSet)
  /-- Matches a word of the first followed by a word of the second. -/
  | seq (p q : Pattern)
  /-- Matches the words of either. -/
  | alt (p q : Pattern)
  /-- Matches any number of words, one after another. -/
  | star (p : Pattern)
  deriving DecidableEq, Repr, Inhabited

namespace Pattern

/-- The words of a pattern. -/
inductive Matches : Pattern → List Char → Prop where
  | blank : Matches .blank []
  | one {s : CharSet} {c : Char} : s.contains c = true → Matches (.one s) [c]
  | seq {p q : Pattern} {u v : List Char} :
      Matches p u → Matches q v → Matches (.seq p q) (u ++ v)
  | left {p q : Pattern} {u : List Char} : Matches p u → Matches (.alt p q) u
  | right {p q : Pattern} {u : List Char} : Matches q u → Matches (.alt p q) u
  | stop {p : Pattern} : Matches (.star p) []
  | again {p : Pattern} {u v : List Char} :
      Matches p u → Matches (.star p) v → Matches (.star p) (u ++ v)

/-- Matches one given character. -/
def char (c : Char) : Pattern := one (.of [(c, c)])

/-- Matches one given word. -/
def word (s : String) : Pattern :=
  match s.toList with
  | [] => blank
  | c :: rest => go c rest
where
  /-- Matches the word of a character and those after it. -/
  go (c : Char) : List Char → Pattern
    | [] => char c
    | d :: rest => seq (char c) (go d rest)

/-- Matches the words of a pattern and the empty word. -/
def opt (p : Pattern) : Pattern := alt p blank

/-- Matches one or more words, one after another. -/
def plus (p : Pattern) : Pattern := seq p (star p)

/-- Matches words of the patterns of a list, in order. -/
def chain : List Pattern → Pattern
  | [] => blank
  | [p] => p
  | p :: rest => seq p (chain rest)

/-- Matches the words of any of several patterns, of which the first is given apart. -/
def choice (p : Pattern) : List Pattern → Pattern
  | [] => p
  | q :: rest => alt p (choice q rest)

/-- Matches any of the words of a list, of which the first is given apart. -/
def words (first : String) (rest : List String) : Pattern :=
  choice (word first) (rest.map word)

/-! ### Reading a word -/

/-- Whether a pattern matches the empty word. -/
def nullable : Pattern → Bool
  | blank => true
  | one _ => false
  | seq p q => p.nullable && q.nullable
  | alt p q => p.nullable || q.nullable
  | star _ => true

/-- Patterns to be matched one after another. -/
abbrev Goal := List Pattern

/-- Whether nothing more needs to be read to reach a goal. -/
def Goal.done (goal : Goal) : Bool := goal.all nullable

/-- What is left to be matched of a pattern once a character is read. -/
def after (c : Char) : Pattern → List Goal
  | blank => []
  | one s => if s.contains c then [[]] else []
  | seq p q =>
    (after c p).map (fun goal : Goal => goal ++ [q]) ++ if p.nullable then after c q else []
  | alt p q => after c p ++ after c q
  | star p => (after c p).map fun goal : Goal => goal ++ [star p]

/-- What is left of a goal once a character is read. -/
def Goal.after (c : Char) : Goal → List Goal
  | [] => []
  | p :: rest =>
    (p.after c).map (fun goal : Goal => goal ++ rest) ++
      if p.nullable then Goal.after c rest else []

/-- What is left of several goals, any of which may be reached, once a character is read. -/
def advance (c : Char) (goals : List Goal) : List Goal :=
  (goals.flatMap (Goal.after c)).eraseDups

/-- Whether a whole word matches a pattern. -/
def accepts (p : Pattern) (word : List Char) : Bool :=
  (word.foldl (fun goals c => advance c goals) [[p]]).any Goal.done

end Pattern

end SailNav
