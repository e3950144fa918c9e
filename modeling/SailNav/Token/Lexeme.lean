import SailNav.Token.Lexicon
import SailNav.Token.Include

/-!
# Lexemes

The first of two steps from a text to its tokens: the text is cut into *lexemes*, without a look at
offsets or at the nesting of brackets. `SailNav.lexemes` does it from left to right, and what
the next lexeme is depends on the text before it only through a `SailNav.LexMode`: whether
nothing but white space stands before it on its line, since only there a directive can open an
include region, and whether such a region is open.

Nothing is ever refused. A character that starts no word of any class is a *stray* lexeme of its
own, and so the lexemes put together are the text (`flatMap_text_lexemes`).
-/

namespace SailNav

/-- What a lexeme is. -/
inductive LexShape where
  /-- A word of a lexical class. -/
  | word (kind : LexClass)
  /-- A character that starts no word. -/
  | stray
  /-- A piece of an include region. -/
  | piece (kind : Include.PieceKind)
  deriving DecidableEq, Repr, Inhabited

/-- A piece of a text that belongs together. -/
structure Lexeme where
  shape : LexShape
  text : List Char
  deriving DecidableEq, Repr, Inhabited

/-- What the text before a lexeme means for it. -/
inductive LexMode where
  /-- Only white space stands before it on its line. -/
  | lineStart
  /-- Something else stands before it on its line. -/
  | inLine
  /-- It belongs to an include region. -/
  | region
  deriving DecidableEq, Repr, Inhabited

/-- The directives whose line names a file. -/
def pathDirectives : List String := ["$include", "$import"]

namespace LexMode

/-- The mode behind a word. White space keeps the mode, or starts a line; a path directive at the
start of a line opens a region. -/
def afterWord (mode : LexMode) (kind : LexClass) (text : List Char) : LexMode :=
  match kind with
  | .whitespace =>
    if text.contains '\n' then lineStart else if mode = lineStart then lineStart else inLine
  | .directive =>
    if mode = lineStart ∧ String.ofList text ∈ pathDirectives then region else inLine
  | _ => inLine

end LexMode

/-- A lexeme, the mode behind it and the text behind it. -/
structure LexStep where
  lexeme : Lexeme
  mode : LexMode
  rest : List Char
  deriving DecidableEq, Repr, Inhabited

/-- The next lexeme of a text outside include regions. -/
def wordStep? (mode : LexMode) (text : List Char) : Option LexStep :=
  match longestWord? text with
  | some w => some ⟨⟨.word w.kind, w.taken⟩, mode.afterWord w.kind w.taken, w.rest⟩
  | none =>
    match text with
    | [] => none
    | c :: rest => some ⟨⟨.stray, [c]⟩, .inLine, rest⟩

/-- The next lexeme of a text. At the end of a region the text goes on as usual. -/
def lexStep? (mode : LexMode) (text : List Char) : Option LexStep :=
  match if mode = .region then Include.piece? text else none with
  | some p => some ⟨⟨.piece p.kind, p.taken⟩, .region, p.rest⟩
  | none => wordStep? mode text

theorem wordStep?_append {mode : LexMode} {text : List Char} {s : LexStep}
    (h : wordStep? mode text = some s) :
    s.lexeme.text ≠ [] ∧ s.lexeme.text ++ s.rest = text := by
  unfold wordStep? at h
  split at h
  · next w hw => cases h; exact longestWord?_append hw
  · split at h
    · simp at h
    · cases h; simp

/-- A lexeme is not empty, and the text is the lexeme followed by the rest. -/
theorem lexStep?_append {mode : LexMode} {text : List Char} {s : LexStep}
    (h : lexStep? mode text = some s) :
    s.lexeme.text ≠ [] ∧ s.lexeme.text ++ s.rest = text := by
  unfold lexStep? at h
  split at h
  · next p hp =>
    cases h
    split at hp
    · exact Include.piece?_append hp
    · simp at hp
  · exact wordStep?_append h

theorem lexStep?_rest_lt {mode : LexMode} {text : List Char} {s : LexStep}
    (h : lexStep? mode text = some s) : s.rest.length < text.length := by
  obtain ⟨hne, happ⟩ := lexStep?_append h
  have := congrArg List.length happ
  have := List.length_pos_iff.2 hne
  simp only [List.length_append] at *
  omega

/-- A text has a next lexeme unless it is empty. -/
theorem lexStep?_eq_none {mode : LexMode} {text : List Char} :
    lexStep? mode text = none ↔ text = [] := by
  constructor
  · intro h
    unfold lexStep? at h
    split at h
    · simp at h
    · unfold wordStep? at h
      split at h
      · simp at h
      · split at h
        · rfl
        · simp at h
  · rintro rfl
    cases h : lexStep? mode [] with
    | none => rfl
    | some s => exact absurd (lexStep?_rest_lt h) (by simp)

/-- The lexemes of a text, backwards, on top of those read before. -/
def lexemesOnto (taken : List Lexeme) (mode : LexMode) (text : List Char) : List Lexeme :=
  match _ : lexStep? mode text with
  | none => taken
  | some s => lexemesOnto (s.lexeme :: taken) s.mode s.rest
termination_by text.length
decreasing_by exact lexStep?_rest_lt (by assumption)

/-- The lexemes of a text that starts in a given mode. -/
def lexemesFrom (mode : LexMode) (text : List Char) : List Lexeme :=
  (lexemesOnto [] mode text).reverse

/-- The lexemes of a text. -/
def lexemes (text : List Char) : List Lexeme := lexemesFrom .lineStart text

/-! ### The lexemes one by one -/

theorem lexemesOnto_eq (taken : List Lexeme) (mode : LexMode) (text : List Char) :
    lexemesOnto taken mode text = (lexemesFrom mode text).reverse ++ taken := by
  unfold lexemesFrom
  rw [List.reverse_reverse]
  induction hn : text.length using Nat.strongRecOn generalizing taken mode text with
  | ind n ih =>
    rw [lexemesOnto, lexemesOnto]
    split
    · simp
    · next s hs =>
      have hlt := lexStep?_rest_lt hs
      rw [ih _ (hn ▸ hlt) (s.lexeme :: taken) s.mode s.rest rfl,
        ih _ (hn ▸ hlt) [s.lexeme] s.mode s.rest rfl]
      simp

theorem lexemesFrom_eq_nil {mode : LexMode} {text : List Char} (h : lexStep? mode text = none) :
    lexemesFrom mode text = [] := by
  rw [lexemesFrom, lexemesOnto]
  split
  · rfl
  · simp_all

theorem lexemesFrom_eq_cons {mode : LexMode} {text : List Char} {s : LexStep}
    (h : lexStep? mode text = some s) :
    lexemesFrom mode text = s.lexeme :: lexemesFrom s.mode s.rest := by
  rw [lexemesFrom, lexemesOnto]
  split
  · simp_all
  · next s' hs =>
    rw [h] at hs
    cases hs
    rw [lexemesOnto_eq]
    simp

/-- To show something of every text, show it of the empty text, and of a text from what stands
behind its first lexeme. -/
@[elab_as_elim]
theorem lexeme_induction {motive : LexMode → List Char → Prop} (nil : ∀ mode, motive mode [])
    (step : ∀ mode text s, lexStep? mode text = some s → motive s.mode s.rest → motive mode text)
    (mode : LexMode) (text : List Char) : motive mode text := by
  induction hn : text.length using Nat.strongRecOn generalizing mode text with
  | ind n ih =>
    cases h : lexStep? mode text with
    | none =>
      obtain rfl := lexStep?_eq_none.1 h
      exact nil mode
    | some s => exact step mode text s h (ih _ (hn ▸ lexStep?_rest_lt h) _ _ rfl)

theorem lexemesFrom_nil (mode : LexMode) : lexemesFrom mode [] = [] :=
  lexemesFrom_eq_nil (lexStep?_eq_none.2 rfl)

/-- **The lexemes put together are the text.** -/
theorem flatMap_text_lexemesFrom (mode : LexMode) (text : List Char) :
    (lexemesFrom mode text).flatMap Lexeme.text = text := by
  induction mode, text using lexeme_induction with
  | nil mode => rw [lexemesFrom_nil]; rfl
  | step mode text s h ih =>
    rw [lexemesFrom_eq_cons h, List.flatMap_cons, ih]
    exact (lexStep?_append h).2

/-- No lexeme is empty. -/
theorem text_ne_nil_of_mem_lexemesFrom {mode : LexMode} {text : List Char} {l : Lexeme}
    (hl : l ∈ lexemesFrom mode text) : l.text ≠ [] := by
  induction mode, text using lexeme_induction with
  | nil mode => simp [lexemesFrom_nil] at hl
  | step mode text s h ih =>
    rw [lexemesFrom_eq_cons h] at hl
    rcases List.mem_cons.1 hl with rfl | hl
    · exact (lexStep?_append h).1
    · exact ih hl

theorem flatMap_text_lexemes (text : List Char) : (lexemes text).flatMap Lexeme.text = text :=
  flatMap_text_lexemesFrom .lineStart text

end SailNav
