/-!
# The rest of an include line

A file is included by a line such as `$include "prelude.sail"` or `$include <stdlib.sail>`. What
stands behind the directive is not Sail: a path may hold any character, and a word in it is no
name. The *region* behind the directive is therefore read on its own, as paths and pieces that
mean nothing, up to the end of the line or to a comment. A backslash before the line end carries
the region on to the next line.

`SailNav.Include.piece?` takes one piece off the region, and `none` is its end. A path in quotes
that is not closed on its line is a path all the same, but an open one; an angle bracket that is
not closed on its line is no path.
-/

namespace SailNav

namespace Include

/-- What a piece of a region is. -/
inductive PieceKind where
  /-- A path with its quotes or angle brackets. -/
  | path
  /-- A path in quotes without the closing one. -/
  | openPath
  | filler
  deriving DecidableEq, Repr, Inhabited

/-- A piece of a region and what follows it in the text. -/
structure Piece where
  kind : PieceKind
  taken : List Char
  rest : List Char
  deriving DecidableEq, Repr, Inhabited

/-- Whether a region ends here: at the end of the line, at a comment, or at the end of the
text. -/
def atEnd : List Char → Bool
  | [] => true
  | '\n' :: _ => true
  | '\r' :: '\n' :: _ => true
  | '/' :: '/' :: _ => true
  | '/' :: '*' :: _ => true
  | _ => false

/-- A quoted path, read from behind its opening quote on; `taken` is what was read, backwards and
with that quote. A backslash takes the next character with it, but never a line feed. An open path
ends before the line end, be it a line feed or a carriage return and a line feed. -/
def quotedPath (taken : List Char) : List Char → Piece
  | [] => ⟨.openPath, taken, []⟩
  | '"' :: rest => ⟨.path, '"' :: taken, rest⟩
  | '\n' :: rest =>
    match taken with
    | '\r' :: taken => ⟨.openPath, taken, '\r' :: '\n' :: rest⟩
    | taken => ⟨.openPath, taken, '\n' :: rest⟩
  | '\\' :: c :: rest =>
    if c = '\n' then ⟨.openPath, '\\' :: taken, '\n' :: rest⟩
    else quotedPath (c :: '\\' :: taken) rest
  | c :: rest => quotedPath (c :: taken) rest

/-- A path in angle brackets, read from behind the opening one on, when it is closed on its
line. -/
def anglePath? (text : List Char) : Option Piece :=
  let inside := fun c => c != '>' && c != '\r' && c != '\n'
  match text.dropWhile inside with
  | '>' :: rest => some ⟨.path, '<' :: text.takeWhile inside ++ ['>'], rest⟩
  | _ => none

/-- Spaces and tabs. -/
def isGap (c : Char) : Bool := c == ' ' || c == '\t'

/-- The characters before which a run of other text stops. -/
def stopsRun (c : Char) : Bool :=
  c == ' ' || c == '\t' || c == '\r' || c == '\n' || c == '"' || c == '<' || c == '/' || c == '\\'

/-- A piece of other text: up to the next character of `stopsRun`, or a single character when
none follows or the text starts with one. -/
def otherPiece (c : Char) (rest : List Char) : Piece :=
  if stopsRun c || !rest.any stopsRun then ⟨.filler, [c], rest⟩
  else ⟨.filler, c :: rest.takeWhile (!stopsRun ·), rest.dropWhile (!stopsRun ·)⟩

/-- A piece in the middle of a region, by its first character. -/
def innerPiece (c : Char) (rest : List Char) : Piece :=
  if isGap c then ⟨.filler, c :: rest.takeWhile isGap, rest.dropWhile isGap⟩
  else if c = '"' then
    let p := quotedPath ['"'] rest
    { p with taken := p.taken.reverse }
  else if c = '<' then (anglePath? rest).getD ⟨.filler, ['<'], rest⟩
  else otherPiece c rest

/-- The next piece of a region, unless the region ends here. -/
def piece? (text : List Char) : Option Piece :=
  if atEnd text then none
  else
    match text with
    | [] => none
    | '\\' :: '\n' :: rest => some ⟨.filler, ['\\', '\n'], rest⟩
    | '\\' :: '\r' :: '\n' :: rest => some ⟨.filler, ['\\', '\r', '\n'], rest⟩
    | c :: rest => some (innerPiece c rest)

/-! ### A piece is a piece of the text -/

theorem quotedPath_append (taken text : List Char) (h : ∃ t, taken = t ++ ['"']) :
    (quotedPath taken text).taken ≠ [] ∧
      (quotedPath taken text).taken.reverse ++ (quotedPath taken text).rest =
        taken.reverse ++ text := by
  fun_induction quotedPath taken text with
  | case1 taken => obtain ⟨t, rfl⟩ := h; simp
  | case2 taken rest => simp
  | case3 rest taken =>
    obtain ⟨t, ht⟩ := h
    cases t with
    | nil => simp at ht
    | cons a t =>
      simp only [List.cons_append, List.cons.injEq] at ht
      obtain ⟨-, rfl⟩ := ht
      simp
  | case4 rest taken _ => obtain ⟨t, rfl⟩ := h; simp
  | case5 taken rest => simp
  | case6 taken c rest _ ih =>
    obtain ⟨t, rfl⟩ := h
    simpa using ih ⟨c :: '\\' :: t, by simp⟩
  | case7 taken c rest _ _ _ ih =>
    obtain ⟨t, rfl⟩ := h
    simpa using ih ⟨c :: t, by simp⟩

theorem anglePath?_append {text : List Char} {p : Piece} (h : anglePath? text = some p) :
    p.taken ≠ [] ∧ p.taken ++ p.rest = '<' :: text := by
  unfold anglePath? at h
  dsimp only at h
  split at h
  · next rest hdrop =>
    simp only [Option.some.injEq] at h
    subst h
    refine ⟨by simp, ?_⟩
    have := List.takeWhile_append_dropWhile
      (p := fun c => c != '>' && c != '\r' && c != '\n') (l := text)
    rw [hdrop] at this
    simpa using this
  · simp at h

theorem otherPiece_append (c : Char) (rest : List Char) :
    (otherPiece c rest).taken ≠ [] ∧
      (otherPiece c rest).taken ++ (otherPiece c rest).rest = c :: rest := by
  unfold otherPiece
  split <;> simp

theorem innerPiece_append (c : Char) (rest : List Char) :
    (innerPiece c rest).taken ≠ [] ∧
      (innerPiece c rest).taken ++ (innerPiece c rest).rest = c :: rest := by
  unfold innerPiece
  split
  · simp
  · split
    · next h =>
      subst h
      have := quotedPath_append ['"'] rest ⟨[], rfl⟩
      simpa using this
    · split
      · next h =>
        subst h
        cases hp : anglePath? rest with
        | none => simp
        | some p => simpa using anglePath?_append hp
      · exact otherPiece_append c rest

/-- **A piece is not empty, and the text is the piece followed by the rest.** -/
theorem piece?_append {text : List Char} {p : Piece} (h : piece? text = some p) :
    p.taken ≠ [] ∧ p.taken ++ p.rest = text := by
  unfold piece? at h
  split at h
  · simp at h
  · split at h
    · simp at h
    · cases h; simp
    · cases h; simp
    · cases h; exact innerPiece_append _ _

end Include

end SailNav
