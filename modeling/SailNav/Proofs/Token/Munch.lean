import Mathlib.Data.List.Forall2
import SailNav.Proofs.Token.Extent
import SailNav.Proofs.Token.Vocabulary

/-!
# Maximal munch

Outside include regions the text is cut into tokens by *maximal munch*: the next token is the
longest word of any class that the rest of the text starts with, and it has the class of this word
(`SailNav.tokenize_munches`). Where the text starts with no word, the token is a single character.

This leaves the question which points of a text are in an include region. It is answered by the
tokens in front of the point, `SailNav.inInclude`, and the answer is exact: the tokens at these
points are the pieces of the region (`SailNav.tokenize_piece`).

The proof follows the scanner, whose mode is a function of the lexemes that it has read. The tokens
in front of a point tell the mode there, since each of them is one lexeme with a place
(`SailNav.Lexeme.ReadAs`).
-/

namespace SailNav

/-! ### Maximal munch -/

/-- **The next word by maximal munch**: the longest prefix of a text that is a word of any class.
Its class is the only one that it is in, or at least outranks the identifiers. -/
structure Munches (text word : List Char) (kind : LexClass) : Prop where
  start : word <+: text
  ne_nil : word ≠ []
  mem_class : ∃ p, (kind, p) ∈ lexicon ∧ p.Matches word
  longest : ∀ e ∈ lexicon, ∀ v, v <+: text → e.2.Matches v → v.length ≤ word.length
  preferred : ∀ e ∈ lexicon, e.2.Matches word →
    e.1 = kind ∨ e.1 = .identifier ∧ kind.Outranks word

/-- The next word and its class are determined by the text. -/
theorem Munches.unique {text v w : List Char} {k l : LexClass} (hv : Munches text v k)
    (hw : Munches text w l) : v = w ∧ k = l := by
  obtain ⟨p, hp, hpv⟩ := hv.mem_class
  obtain ⟨q, hq, hqw⟩ := hw.mem_class
  have hlength : v.length = w.length :=
    Nat.le_antisymm (hw.longest _ hp v hv.start hpv) (hv.longest _ hq w hw.start hqw)
  obtain rfl : v = w :=
    (List.prefix_of_prefix_length_le hv.start hw.start (Nat.le_of_eq hlength)).eq_of_length hlength
  refine ⟨rfl, ?_⟩
  rcases hv.preferred _ hq hqw with heq | ⟨hl, hk⟩
  · exact heq.symm
  · rcases hw.preferred _ hp hpv with heq | ⟨hk', -⟩
    · exact heq
    · exact hk'.trans hl.symm

/-- What the scanner takes for the longest word is the next word. -/
theorem IsLongestWord.munches {text : List Char} {w : LexWord} (h : IsLongestWord text w) :
    Munches text w.taken w.kind where
  start := ⟨w.rest, h.append⟩
  ne_nil := h.ne_nil
  mem_class := exists_matches_of_classOf? h.class_eq
  longest e he v hv hmatch := by
    refine Nat.le_of_not_lt fun hlt => ?_
    obtain ⟨u, rfl⟩ := List.prefix_of_prefix_length_le ⟨w.rest, h.append⟩ hv (Nat.le_of_lt hlt)
    obtain ⟨rest, hrest⟩ := hv
    have hu : u ≠ [] := by
      rintro rfl
      simp at hlt
    have happ : w.taken ++ w.rest = w.taken ++ (u ++ rest) := by
      rw [h.append, ← hrest, List.append_assoc]
    have hnone := h.longer u rest (List.append_cancel_left happ) hu
    exact classOf?_eq_none_iff.1 hnone e he hmatch
  preferred _ he hmatch := eq_or_outranks_of_classOf? h.class_eq he hmatch

/-! ### One step of the scanner -/

namespace LexMode

/-- The mode behind a lexeme. -/
def afterLexeme (mode : LexMode) (l : Lexeme) : LexMode :=
  match l.shape with
  | .word kind => mode.afterWord kind l.text
  | .stray => .inLine
  | .piece _ => .region

end LexMode

/-- A region ends where no piece is left, and nowhere else. -/
theorem Include.piece?_eq_none_iff {text : List Char} :
    piece? text = none ↔ atEnd text = true := by
  unfold piece?
  split
  · next h => simp [h]
  · next h => split <;> simp_all [atEnd]

theorem Include.atEnd_of_piece? {text : List Char} {p : Piece} (h : piece? text = some p) :
    atEnd text = false := by
  rw [← Bool.not_eq_true, ← piece?_eq_none_iff, h]
  exact Option.some_ne_none p

/-- A piece is an inner one unless it starts with a backslash. -/
theorem Include.piece?_cons {c : Char} {rest : List Char} (hc : c ≠ '\\')
    (hend : atEnd (c :: rest) = false) : piece? (c :: rest) = some (innerPiece c rest) := by
  unfold piece?
  rw [hend, if_neg Bool.false_ne_true]
  split <;> simp_all

/-- The text starts with no word of any class. -/
def IsStray (text : List Char) : Prop := ∀ e ∈ lexicon, ∀ v, v <+: text → ¬ e.2.Matches v

theorem lexStep?_of_piece {text : List Char} {p : Include.Piece}
    (h : Include.piece? text = some p) :
    lexStep? .region text = some ⟨⟨.piece p.kind, p.taken⟩, .region, p.rest⟩ := by
  unfold lexStep?
  rw [if_pos rfl, h]

/-- Outside regions the next lexeme is a word or a stray character. -/
theorem lexStep?_of_outside {mode : LexMode} {text : List Char}
    (hout : ¬ (mode = .region ∧ Include.atEnd text = false)) :
    lexStep? mode text = wordStep? mode text := by
  unfold lexStep?
  split
  · next p hp =>
    split at hp
    · next hmode => exact absurd ⟨hmode, Include.atEnd_of_piece? hp⟩ hout
    · cases hp
  · rfl

theorem wordStep?_of_isLongestWord (mode : LexMode) {text : List Char} {w : LexWord}
    (h : IsLongestWord text w) :
    wordStep? mode text =
      some ⟨⟨.word w.kind, w.taken⟩, mode.afterWord w.kind w.taken, w.rest⟩ := by
  unfold wordStep?
  rw [longestWord?_eq_some_iff.2 h]

/-- Outside regions the next lexeme is the longest word, or a single character where there is
none. -/
theorem wordStep?_cases {mode : LexMode} {text : List Char} {s : LexStep}
    (h : wordStep? mode text = some s) :
    (∃ w, IsLongestWord text w ∧
      s = ⟨⟨.word w.kind, w.taken⟩, mode.afterWord w.kind w.taken, w.rest⟩) ∨
    ∃ c rest, text = c :: rest ∧ IsStray text ∧ s = ⟨⟨.stray, [c]⟩, .inLine, rest⟩ := by
  unfold wordStep? at h
  split at h
  · next w hw =>
    cases h
    exact .inl ⟨w, longestWord?_eq_some_iff.1 hw, rfl⟩
  · next hw =>
    cases text with
    | nil => cases h
    | cons c rest =>
      cases h
      refine .inr ⟨c, rest, rfl, fun e he v hv hmatch => ?_, rfl⟩
      obtain ⟨rest', hrest⟩ := hv
      have hclass := longestWord?_eq_none_iff.1 hw v rest' hrest.symm (ne_nil_of_matches he hmatch)
      exact classOf?_eq_none_iff.1 hclass e he hmatch

/-- **The next lexeme** is a piece in a region, and outside of regions it is the longest word, or a
single character where there is none. -/
theorem lexStep?_cases {mode : LexMode} {text : List Char} {s : LexStep}
    (h : lexStep? mode text = some s) :
    (∃ p, (mode = .region ∧ Include.atEnd text = false) ∧ Include.piece? text = some p ∧
      s = ⟨⟨.piece p.kind, p.taken⟩, .region, p.rest⟩) ∨
    (¬ (mode = .region ∧ Include.atEnd text = false) ∧
      ((∃ w, IsLongestWord text w ∧
        s = ⟨⟨.word w.kind, w.taken⟩, mode.afterWord w.kind w.taken, w.rest⟩) ∨
      ∃ c rest, text = c :: rest ∧ IsStray text ∧ s = ⟨⟨.stray, [c]⟩, .inLine, rest⟩)) := by
  by_cases hin : mode = .region ∧ Include.atEnd text = false
  · obtain ⟨rfl, hend⟩ := hin
    cases hp : Include.piece? text with
    | none =>
      rw [Include.piece?_eq_none_iff, hend] at hp
      cases hp
    | some p =>
      rw [lexStep?_of_piece hp] at h
      cases h
      exact .inl ⟨p, ⟨rfl, hend⟩, rfl, rfl⟩
  · rw [lexStep?_of_outside hin] at h
    exact .inr ⟨hin, wordStep?_cases h⟩

/-- The mode behind the next lexeme is told by the lexeme. -/
theorem mode_of_lexStep? {mode : LexMode} {text : List Char} {s : LexStep}
    (h : lexStep? mode text = some s) : s.mode = mode.afterLexeme s.lexeme := by
  rcases lexStep?_cases h with ⟨p, -, -, rfl⟩ | ⟨-, ⟨w, -, rfl⟩ | ⟨c, rest, -, -, rfl⟩⟩ <;> rfl

/-- Each lexeme of a text is the next one in the mode behind those before it. -/
theorem exists_lexStep?_of_append {mode : LexMode} {text : List Char} {before after : List Lexeme}
    {l : Lexeme} (h : lexemesFrom mode text = before ++ l :: after) :
    ∃ s, lexStep? (before.foldl LexMode.afterLexeme mode) ((l :: after).flatMap Lexeme.text) =
      some s ∧ s.lexeme = l := by
  induction before generalizing mode text with
  | nil =>
    rw [List.nil_append] at h
    cases hs : lexStep? mode text with
    | none => rw [lexemesFrom_eq_nil hs] at h; cases h
    | some s =>
      have htext := flatMap_text_lexemesFrom mode text
      rw [h] at htext
      rw [lexemesFrom_eq_cons hs] at h
      exact ⟨s, by rw [List.foldl_nil, htext, hs], (List.cons.inj h).1⟩
  | cons b before ih =>
    cases hs : lexStep? mode text with
    | none => rw [lexemesFrom_eq_nil hs] at h; cases h
    | some s =>
      rw [lexemesFrom_eq_cons hs] at h
      obtain ⟨rfl, hrest⟩ := List.cons.inj h
      rw [List.foldl_cons, ← mode_of_lexStep? hs]
      exact ih hrest

/-! ### Tokens and lexemes -/

/-- **A token has the reading of a lexeme** if it is that lexeme at some place. -/
def Lexeme.ReadAs (l : Lexeme) (t : Token) : Prop := t = l.token t.span t.depth

theorem Lexeme.ReadAs.toList_text {l : Lexeme} {t : Token} (h : l.ReadAs t) :
    t.text.toList = l.text := by
  rw [h]
  exact String.toList_ofList

theorem TokenBuilder.readAs_foldl {b : TokenBuilder} {read : List Lexeme}
    (h : List.Forall₂ Lexeme.ReadAs read b.tokens) (ls : List Lexeme) :
    List.Forall₂ Lexeme.ReadAs (ls.reverse ++ read) (ls.foldl add b).tokens := by
  induction ls generalizing b read with
  | nil => exact h
  | cons l ls ih =>
    rw [List.reverse_cons, List.append_assoc, List.singleton_append]
    refine ih ?_
    rw [tokens_add]
    exact .cons rfl h

/-- The tokens of a text are its lexemes. -/
theorem readAs_tokenize (text : String) :
    List.Forall₂ Lexeme.ReadAs (lexemes text.toList) (tokenize text).tokens := by
  have h := TokenBuilder.readAs_foldl (b := .start) .nil (lexemes text.toList)
  rw [List.append_nil] at h
  have hrev := List.forall₂_reverse_iff.2 h
  rwa [List.reverse_reverse] at hrev

/-- The texts of the tokens put together are those of the lexemes. -/
theorem toList_joined_of_readAs {ls : List Lexeme} {tokens : List Token}
    (h : List.Forall₂ Lexeme.ReadAs ls tokens) :
    (Token.joined tokens).toList = ls.flatMap Lexeme.text := by
  induction h with
  | nil => rfl
  | cons ht _ ih =>
    rw [Token.joined_cons, String.toList_append, ih, List.flatMap_cons, ht.toList_text]

/-- A token among others is one lexeme among others. -/
theorem exists_append_of_readAs {ls : List Lexeme} {before after : List Token} {t : Token}
    (h : List.Forall₂ Lexeme.ReadAs ls (before.reverse ++ t :: after)) :
    ∃ read l rest, ls = read.reverse ++ l :: rest ∧ List.Forall₂ Lexeme.ReadAs read before ∧
      l.ReadAs t ∧ List.Forall₂ Lexeme.ReadAs rest after := by
  have htake := List.forall₂_take_append _ _ _ h
  have hdrop := List.forall₂_drop_append _ _ _ h
  obtain ⟨l, rest, hl, hrest, hsplit⟩ := List.forall₂_cons_right_iff.1 hdrop
  refine ⟨(ls.take before.reverse.length).reverse, l, rest, ?_, ?_, hl, hrest⟩
  · rw [List.reverse_reverse, ← hsplit, List.take_append_drop]
  · rw [← List.forall₂_reverse_iff, List.reverse_reverse]
    exact htake

/-! ### Include regions -/

namespace Token

def isSpace (t : Token) : Bool := t.text.toList.all Pattern.blanks.contains

/-- Whether a token is a directive whose line names a file. -/
def isPathDirective (t : Token) : Bool := t.kind == .keywordOther && pathDirectives.contains t.text

end Token

/-- Whether only white space stands in front of a point on its line, by the tokens before the
point, the last one first. -/
def startsLine : List Token → Bool
  | [] => true
  | t :: before => t.isSpace && (t.text.toList.contains '\n' || startsLine before)

/-- **Whether a point of a text is in an include region**, by the tokens before the point, the last
one first, and the text behind it. The point is right behind a path directive that starts a line, or
behind a token of the region, and the region does not end at the point. -/
def inInclude : List Token → List Char → Bool
  | [], _ => false
  | t :: before, rest =>
    !Include.atEnd rest &&
      (t.isPathDirective && startsLine before || inInclude before (t.text.toList ++ rest))

/-- A blank word is white space. -/
theorem eq_whitespace_iff {word : List Char} {kind : LexClass} (h : classOf? word = some kind) :
    kind = .whitespace ↔ word.all Pattern.blanks.contains = true := by
  obtain ⟨p, hp, hword⟩ := exists_matches_of_classOf? h
  rw [List.all_eq_true, ← Option.some_inj, ← h, classOf?_eq_whitespace_iff,
    and_iff_right (ne_nil_of_matches hp hword)]

/-- A word that is a path directive is in the class of directives. -/
theorem eq_directive_of_mem {word : List Char} {kind : LexClass} (h : classOf? word = some kind)
    (hword : String.ofList word ∈ pathDirectives) : kind = .directive := by
  have hmem : (LexClass.directive, Pattern.directive) ∈ lexicon := by decide
  have hall : ∀ text ∈ pathDirectives, Pattern.directive.Matches text.toList := by decide
  rw [← Option.some_inj, ← h, classOf?_eq_some_iff hmem (by decide)]
  simpa using hall _ hword

/-- A blank piece of a region does not end the line. -/
theorem Include.not_contains_of_blank {text : List Char} {p : Piece} (h : piece? text = some p)
    (hblank : p.taken.all Pattern.blanks.contains = true) : p.taken.contains '\n' = false := by
  obtain ⟨hne, happend⟩ := piece?_append h
  cases text with
  | nil => exact absurd (List.append_eq_nil_iff.1 happend).1 hne
  | cons c rest =>
    -- so the piece does not start with a quote, an angle bracket or a backslash
    have hc : Pattern.blanks.contains c = true := by
      cases htaken : p.taken with
      | nil => exact absurd htaken hne
      | cons d taken =>
        rw [htaken, List.cons_append] at happend
        rw [htaken, List.all_cons, Bool.and_eq_true] at hblank
        exact (List.cons.inj happend).1 ▸ hblank.1
    have hend := atEnd_of_piece? h
    rw [piece?_cons (Pattern.ne_of_blank hc rfl) hend] at h
    cases h
    have hline : c ≠ '\n' := by
      rintro rfl
      cases hend
    unfold innerPiece
    split
    · next hgap =>
      have hrun : ('\n' : Char) ∉ rest.takeWhile isGap := fun hmem =>
        absurd (List.all_eq_true.1 List.all_takeWhile _ hmem) (by decide)
      simp [hrun, hline.symm]
    · rw [if_neg (Pattern.ne_of_blank hc rfl), if_neg (Pattern.ne_of_blank hc rfl)]
      unfold otherPiece
      split
      · simp [hline.symm]
      · have hrun : ('\n' : Char) ∉ rest.takeWhile (!stopsRun ·) := fun hmem =>
          absurd (List.all_eq_true.1 List.all_takeWhile _ hmem) (by decide)
        simp [hrun, hline.symm]

/-- Stray characters are not blank. -/
theorem IsStray.not_blank {c : Char} {rest : List Char} (h : IsStray (c :: rest)) :
    Pattern.blanks.contains c = false := by
  have hmem : (LexClass.whitespace, Pattern.whitespace) ∈ lexicon := by decide
  have hnot := h _ hmem [c] ⟨rest, rfl⟩
  simpa [Pattern.matches_whitespace_iff] using hnot

section Reading

variable {mode : LexMode} {text : List Char} {s : LexStep} {t : Token}

/-- A line starts behind a lexeme that is blank, and ends a line or starts one itself. -/
theorem afterLexeme_eq_lineStart_iff (h : lexStep? mode text = some s) (ht : s.lexeme.ReadAs t) :
    mode.afterLexeme s.lexeme = .lineStart ↔
      t.isSpace = true ∧ (t.text.toList.contains '\n' = true ∨ mode = .lineStart) := by
  rw [Token.isSpace, ht.toList_text]
  rcases lexStep?_cases h with ⟨p, ⟨rfl, -⟩, hp, rfl⟩ | ⟨-, ⟨w, hw, rfl⟩ | ⟨c, rest, rfl, hc, rfl⟩⟩
  · refine iff_of_false (by simp [LexMode.afterLexeme]) ?_
    rintro ⟨hblank, hline | hline⟩
    · rw [Include.not_contains_of_blank hp hblank] at hline
      cases hline
    · cases hline
  · dsimp only [LexMode.afterLexeme]
    rw [← eq_whitespace_iff hw.class_eq]
    by_cases hkind : w.kind = .whitespace
    · rw [and_iff_right hkind, hkind, LexMode.afterWord]
      split
      · next hline => exact iff_of_true rfl (.inl hline)
      · next hline =>
        rw [or_iff_right hline]
        split <;> simp_all
    · refine iff_of_false ?_ fun h => hkind h.1
      unfold LexMode.afterWord
      split
      · next heq => exact absurd heq hkind
      · split <;> simp
      · simp
  · refine iff_of_false (by simp [LexMode.afterLexeme]) ?_
    simp [hc.not_blank]

/-- A region goes on behind the directive that opens it and behind its pieces. -/
theorem afterLexeme_eq_region_iff (h : lexStep? mode text = some s) (ht : s.lexeme.ReadAs t) :
    mode.afterLexeme s.lexeme = .region ↔
      (t.isPathDirective = true ∧ mode = .lineStart) ∨
        (mode = .region ∧ Include.atEnd text = false) := by
  have htext : t.text = String.ofList s.lexeme.text := congrArg Token.text ht
  have hkind : t.kind = s.lexeme.tokenKind := congrArg Token.kind ht
  rw [Token.isPathDirective, htext, hkind]
  rcases lexStep?_cases h with ⟨p, hmode, hp, rfl⟩ | ⟨hmode, ⟨w, hw, rfl⟩ | ⟨c, rest, rfl, hc, rfl⟩⟩
  · exact iff_of_true rfl (.inr hmode)
  · rw [or_iff_left hmode]
    dsimp only [LexMode.afterLexeme, Lexeme.tokenKind]
    rw [Bool.and_eq_true, beq_iff_eq, List.contains_iff_mem]
    by_cases hkind : w.kind = .directive
    · rw [hkind, LexMode.afterWord, LexClass.tokenKind]
      split
      · next h => exact iff_of_true rfl ⟨⟨rfl, h.2⟩, h.1⟩
      · next h => exact iff_of_false (by simp) fun hpath => h ⟨hpath.2, hpath.1.2⟩
    · refine iff_of_false ?_ fun h => hkind (eq_directive_of_mem hw.class_eq h.1.2)
      unfold LexMode.afterWord
      split
      · split
        · simp
        · split <;> simp
      · next heq => exact absurd heq hkind
      · simp
  · rw [or_iff_left hmode]
    exact iff_of_false (by simp [LexMode.afterLexeme]) (by simp [Lexeme.tokenKind])

end Reading

/-- **The tokens in front of a point tell the mode of the scanner there.** -/
theorem mode_iff {text : List Char} {read rest : List Lexeme} {before : List Token}
    (hread : List.Forall₂ Lexeme.ReadAs read before) (h : lexemes text = read.reverse ++ rest) :
    (startsLine before = true ↔ read.reverse.foldl LexMode.afterLexeme .lineStart = .lineStart) ∧
      (inInclude before (rest.flatMap Lexeme.text) = true ↔
        read.reverse.foldl LexMode.afterLexeme .lineStart = .region ∧
          Include.atEnd (rest.flatMap Lexeme.text) = false) := by
  induction hread generalizing rest with
  | nil => simp [startsLine, inInclude]
  | @cons l t read before ht hread ih =>
    rw [List.reverse_cons, List.append_assoc, List.singleton_append] at h
    obtain ⟨hline, hregion⟩ := ih h
    obtain ⟨s, hs, rfl⟩ := exists_lexStep?_of_append h
    rw [List.reverse_cons, List.foldl_append, List.foldl_cons, List.foldl_nil]
    have htext : t.text.toList ++ rest.flatMap Lexeme.text =
        (s.lexeme :: rest).flatMap Lexeme.text := by
      rw [ht.toList_text, List.flatMap_cons]
    constructor
    · rw [afterLexeme_eq_lineStart_iff hs ht, startsLine, Bool.and_eq_true, Bool.or_eq_true, hline]
    · rw [afterLexeme_eq_region_iff hs ht, inInclude, htext, Bool.and_eq_true, Bool.or_eq_true,
        Bool.and_eq_true, Bool.not_eq_true', hline, hregion, and_comm]

/-! ### The tokens of a text -/

/-- **Every token is the next lexeme** of the text behind those before it, in a mode that these
tokens tell. -/
theorem exists_lexStep?_of_tokens {text : String} {before after : List Token} {t : Token}
    (h : (tokenize text).tokens = before.reverse ++ t :: after) :
    ∃ mode s, lexStep? mode (Token.joined (t :: after)).toList = some s ∧ s.lexeme.ReadAs t ∧
      (inInclude before (Token.joined (t :: after)).toList = true ↔
        mode = .region ∧ Include.atEnd (Token.joined (t :: after)).toList = false) := by
  obtain ⟨read, l, rest, hlexemes, hread, hl, hrest⟩ :=
    exists_append_of_readAs (h ▸ readAs_tokenize text)
  obtain ⟨s, hs, rfl⟩ := exists_lexStep?_of_append hlexemes
  rw [toList_joined_of_readAs (.cons hl hrest)]
  exact ⟨_, s, hs, hl, (mode_iff hread hlexemes).2⟩

/-- Where a text is in a region, its next token is the next piece. -/
theorem exists_piece_of_tokens {text : String} {before after : List Token} {t : Token}
    (h : (tokenize text).tokens = before.reverse ++ t :: after)
    (hin : inInclude before (Token.joined (t :: after)).toList = true) :
    ∃ p, Include.piece? (Token.joined (t :: after)).toList = some p ∧
      Lexeme.ReadAs ⟨.piece p.kind, p.taken⟩ t := by
  obtain ⟨mode, s, hs, ht, hmode⟩ := exists_lexStep?_of_tokens h
  rcases lexStep?_cases hs with ⟨p, -, hp, rfl⟩ | ⟨hout, -⟩
  · exact ⟨p, hp, ht⟩
  · exact absurd (hmode.1 hin) hout

/-- **The tokens in an include region are its pieces**: each is the next piece of the text there,
and is a string if this is a path. -/
theorem tokenize_piece {text : String} {before after : List Token} {t : Token}
    (h : (tokenize text).tokens = before.reverse ++ t :: after)
    (hin : inInclude before (Token.joined (t :: after)).toList = true) :
    ∃ p, Include.piece? (Token.joined (t :: after)).toList = some p ∧ t.text.toList = p.taken ∧
      t.kind = if p.kind = .filler then .filler else .string := by
  obtain ⟨p, hp, ht⟩ := exists_piece_of_tokens h hin
  refine ⟨p, hp, ht.toList_text, ?_⟩
  rw [ht]
  obtain ⟨kind, taken, rest⟩ := p
  cases kind <;> rfl

/-- Only filler and strings are in a region. -/
theorem inInclude_eq_false {text : String} {before after : List Token} {t : Token}
    (h : (tokenize text).tokens = before.reverse ++ t :: after) (hfiller : t.kind ≠ .filler)
    (hstring : t.kind ≠ .string) :
    inInclude before (Token.joined (t :: after)).toList = false := by
  rw [Bool.eq_false_iff]
  intro hin
  obtain ⟨p, -, -, hkind⟩ := tokenize_piece h hin
  split at hkind
  · exact hfiller hkind
  · exact hstring hkind

/-- **Outside include regions the tokens of a text are cut off by maximal munch.** Each is the
longest word of any class that the rest of the text starts with, and has the class of this word;
only a comment or string that is never closed is flagged. If the rest of the text starts with no
word, the token is a single character without a meaning. -/
theorem tokenize_munches {text : String} {before after : List Token} {t : Token}
    (h : (tokenize text).tokens = before.reverse ++ t :: after)
    (hout : inInclude before (Token.joined (t :: after)).toList = false) :
    (∃ kind, Munches (Token.joined (t :: after)).toList t.text.toList kind ∧
      t.kind = kind.tokenKind ∧
      (t.unterminated = true ↔ kind = .openBlockComment ∨ kind = .openString)) ∨
    (IsStray (Token.joined (t :: after)).toList ∧ t.kind = .filler ∧ t.text.toList.length = 1) := by
  obtain ⟨mode, s, hs, ht, hmode⟩ := exists_lexStep?_of_tokens h
  have hkind : t.kind = s.lexeme.tokenKind := congrArg Token.kind ht
  rw [ht.toList_text, hkind]
  rcases lexStep?_cases hs with ⟨p, hregion, -⟩ | ⟨-, ⟨w, hw, rfl⟩ | ⟨c, rest, hc, hstray, rfl⟩⟩
  · exact absurd (hmode.2 hregion) (by rw [hout]; exact Bool.false_ne_true)
  · refine .inl ⟨w.kind, hw.munches, rfl, ?_⟩
    rw [ht]
    obtain ⟨kind, taken, rest⟩ := w
    cases kind <;> simp [Lexeme.token, Lexeme.fault]
  · exact .inr ⟨hstray, rfl, rfl⟩

/-- Behind an import, the number in `1.e` ends where the longest word does: a dot needs a digit. -/
theorem tokenize_munches_number :
    inInclude ((tokenize "$import <1>\n1.e").tokens.take 4).reverse ['1', '.', 'e'] = false ∧
      ∃ kind, Munches ['1', '.', 'e'] ['1'] kind ∧ kind.tokenKind = .number := by
  have htokens : (tokenize "$import <1>\n1.e").tokens =
      ((tokenize "$import <1>\n1.e").tokens.take 4).reverse.reverse ++
        ⟨.number, ⟨12, 13⟩, "1", 0, none, false⟩ :: [⟨.operator, ⟨13, 14⟩, ".", 0, none, false⟩,
          ⟨.identifier, ⟨14, 15⟩, "e", 0, none, false⟩] := by
    decide +kernel
  have hout : inInclude ((tokenize "$import <1>\n1.e").tokens.take 4).reverse ['1', '.', 'e'] =
      false := by
    decide +kernel
  refine ⟨hout, ?_⟩
  rcases tokenize_munches htokens hout with ⟨kind, hmunch, hkind, -⟩ | ⟨-, hfiller, -⟩
  · exact ⟨kind, hmunch, hkind.symm⟩
  · cases hfiller

end SailNav
