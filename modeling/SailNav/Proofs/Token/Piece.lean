import SailNav.Proofs.Token.Seam

/-!
# The pieces of an include region

What a piece of an include region looks like, and where a region ends
(`SailNav.Include.atEnd_iff`). A piece that is a path has one of three forms
(`SailNav.Include.IsPath`), of which the open one is told by what follows it. A piece that is none
has one of four (`SailNav.Include.FillerForm`). In each of them there is no line feed but an escaped
one, and no comment starts there (`SailNav.Include.IsFiller`).

The scanner of quoted paths drops a carriage return that it has read when a line feed follows, so
what it has read is not what it takes. The invariant that carries its proof is about what it has
read: a backslash in it has taken its character with it, and so a quote behind it closes the path
(`SailNav.Include.Settled`).
-/

namespace SailNav

namespace Include

open Pattern

variable {text : List Char}

/-! ### The end of a region -/

/-- A comment starts here. -/
def OpensComment (text : List Char) : Prop := ['/', '/'] <+: text ∨ ['/', '*'] <+: text

instance (text : List Char) : Decidable (OpensComment text) :=
  inferInstanceAs (Decidable (_ ∨ _))

/-- The line ends here, or the text does. -/
def AtLineEnd (text : List Char) : Prop := text = [] ∨ ['\n'] <+: text ∨ ['\r', '\n'] <+: text

instance (text : List Char) : Decidable (AtLineEnd text) :=
  inferInstanceAs (Decidable (_ ∨ _))

/-- **A region ends** with the line, or at a comment. -/
theorem atEnd_iff : atEnd text = true ↔ AtLineEnd text ∨ OpensComment text := by
  constructor
  · intro h
    unfold atEnd at h
    split at h
    · exact .inl (.inl rfl)
    · exact .inl (.inr (.inl ⟨_, rfl⟩))
    · exact .inl (.inr (.inr ⟨_, rfl⟩))
    · exact .inr (.inl ⟨_, rfl⟩)
    · exact .inr (.inr ⟨_, rfl⟩)
    · cases h
  · rintro ((rfl | ⟨t, rfl⟩ | ⟨t, rfl⟩) | ⟨t, rfl⟩ | ⟨t, rfl⟩) <;> rfl

/-! ### Paths -/

/-- **The forms of a path**, with what follows it and whether it is flagged. -/
inductive IsPath : (taken behind : List Char) → (unterminated : Bool) → Prop
  /-- A path in quotes is closed by its last one, and by none before. -/
  | quoted (body behind : List Char) : '\n' ∉ body → staysOpen body = true →
      staysOpen (body ++ ['"']) = false → IsPath ('"' :: (body ++ ['"'])) behind false
  /-- A path in quotes that nothing closes takes the rest of the line. -/
  | unclosed (body behind : List Char) : '\n' ∉ body → staysOpen body = true →
      AtLineEnd behind → IsPath ('"' :: body) behind true
  /-- A path in angle brackets is closed on its line. -/
  | angle (body behind : List Char) : '>' ∉ body → '\r' ∉ body → '\n' ∉ body →
      IsPath ('<' :: (body ++ ['>'])) behind false

theorem IsPath.not_mem {taken behind : List Char} {unterminated : Bool}
    (h : IsPath taken behind unterminated) : '\n' ∉ taken := by
  cases h <;> simp [*]

/-- A path starts with a quote or an angle bracket. -/
theorem IsPath.not_blank {taken behind : List Char} {unterminated : Bool}
    (h : IsPath taken behind unterminated) : ¬ ∀ c ∈ taken, blanks.contains c = true := by
  intro hblank
  cases h <;> exact absurd (hblank _ List.mem_cons_self) (by decide)

/-- **What is read of a quoted path**: it has no line feed, and no backslash at its end waits for
the next character. -/
structure Settled (body : List Char) : Prop where
  not_mem : '\n' ∉ body
  staysOpen_append : ∀ t, staysOpen (body ++ t) = staysOpen t

namespace Settled

variable {body : List Char} {c : Char}

theorem nil : Settled [] := ⟨List.not_mem_nil, fun _ => rfl⟩

theorem concat (h : Settled body) (hquote : c ≠ '"') (hline : c ≠ '\n') (hslash : c ≠ '\\') :
    Settled (body ++ [c]) where
  not_mem := by simpa using ⟨h.not_mem, hline.symm⟩
  staysOpen_append t := by
    rw [List.append_assoc, h.staysOpen_append, List.singleton_append, staysOpen_cons hslash,
      bne_iff_ne.2 hquote, Bool.true_and]

theorem escape (h : Settled body) (hline : c ≠ '\n') : Settled (body ++ ['\\', c]) where
  not_mem := by simpa using ⟨h.not_mem, hline.symm⟩
  staysOpen_append t := by
    rw [List.append_assoc, h.staysOpen_append]
    rfl

theorem staysOpen (h : Settled body) : Pattern.staysOpen body = true := by
  simpa [Pattern.staysOpen] using h.staysOpen_append []

end Settled

/-- What the scanner takes of a quoted path, by what it has read of it. -/
theorem quotedPath_isPath {taken : List Char} {body : List Char}
    (htaken : taken.reverse = '"' :: body) (hbody : Settled body) :
    IsPath (quotedPath taken text).taken.reverse (quotedPath taken text).rest
      ((quotedPath taken text).kind == .openPath) := by
  fun_induction quotedPath taken text generalizing body with
  | case1 taken =>
    rw [htaken]
    exact .unclosed body [] hbody.not_mem hbody.staysOpen (.inl rfl)
  | case2 taken rest =>
    rw [List.reverse_cons, htaken]
    refine .quoted body rest hbody.not_mem hbody.staysOpen ?_
    rw [hbody.staysOpen_append]
    rfl
  | case3 rest taken =>
    -- the carriage return is part of the line end
    rw [List.reverse_cons] at htaken
    cases hread : taken.reverse with
    | nil =>
      rw [hread] at htaken
      cases htaken
    | cons d read =>
      rw [hread, List.cons_append] at htaken
      obtain ⟨rfl, rfl⟩ := List.cons.inj htaken
      refine .unclosed read _ ?_ (staysOpen_of_append hbody.staysOpen) (.inr (.inr ⟨rest, rfl⟩))
      exact fun hmem => hbody.not_mem (List.mem_append_left _ hmem)
  | case4 rest taken _ =>
    rw [htaken]
    exact .unclosed body _ hbody.not_mem hbody.staysOpen (.inr (.inl ⟨rest, rfl⟩))
  | case5 taken rest =>
    rw [List.reverse_cons, htaken]
    refine .unclosed (body ++ ['\\']) _ ?_ ?_ (.inr (.inl ⟨rest, rfl⟩))
    · simpa using hbody.not_mem
    · rw [hbody.staysOpen_append]
      rfl
  | case6 taken c rest hc ih =>
    refine ih ?_ (hbody.escape hc)
    rw [List.reverse_cons, List.reverse_cons, htaken]
    simp
  | case7 taken c rest hquote hline hlone ih =>
    by_cases hslash : c = '\\'
    · -- a backslash that takes nothing with it is the last character
      cases rest with
      | nil =>
        subst hslash
        rw [quotedPath, List.reverse_cons, htaken]
        refine .unclosed (body ++ ['\\']) _ ?_ ?_ (.inl rfl)
        · simpa using hbody.not_mem
        · rw [hbody.staysOpen_append]
          rfl
      | cons d rest => exact absurd rfl (hlone d rest hslash)
    · refine ih ?_ (hbody.concat hquote hline hslash)
      rw [List.reverse_cons, htaken, List.cons_append]

theorem anglePath?_isPath {p : Piece} (h : anglePath? text = some p) :
    p.kind ≠ .filler ∧ IsPath p.taken p.rest (p.kind == .openPath) := by
  unfold anglePath? at h
  dsimp only at h
  split at h
  · cases h
    have hinside : ∀ c ∈ text.takeWhile fun c => c != '>' && c != '\r' && c != '\n',
        (c != '>' && c != '\r' && c != '\n') = true :=
      fun c hc => List.all_eq_true.1 List.all_takeWhile c hc
    refine ⟨PieceKind.noConfusion, .angle _ _ ?_ ?_ ?_⟩
    all_goals exact fun hc => absurd (hinside _ hc) (by decide)
  · cases h

/-! ### Filler -/

/-- **The forms of what is no path**, with what follows it. -/
inductive FillerForm : (taken behind : List Char) → Prop
  /-- A backslash takes the end of its line with it. -/
  | escape {taken : List Char} (behind : List Char) :
      taken = ['\\', '\n'] ∨ taken = ['\\', '\r', '\n'] → FillerForm taken behind
  | gap {taken : List Char} (behind : List Char) :
      (∀ c ∈ taken, isGap c = true) → FillerForm taken behind
  /-- A single character may be any at which the region goes on. -/
  | single (c : Char) (behind : List Char) : atEnd (c :: behind) = false → FillerForm [c] behind
  /-- A run stops in front of what may be another piece. -/
  | run {taken : List Char} (behind : List Char) :
      (∀ c ∈ taken, (!stopsRun c) = true) → FillerForm taken behind

/-- A run of characters and the one in front of it are all alike. -/
theorem forall_mem_run {p : Char → Bool} {c : Char} (hc : p c = true) :
    ∀ d ∈ c :: text.takeWhile p, p d = true :=
  List.forall_mem_cons.2 ⟨hc, fun d hd => List.all_eq_true.1 List.all_takeWhile d hd⟩

theorem otherPiece_form {c : Char} (hend : atEnd (c :: text) = false) :
    FillerForm (otherPiece c text).taken (otherPiece c text).rest := by
  unfold otherPiece
  split
  · exact .single c text hend
  · next hrun =>
    rw [Bool.or_eq_true, not_or] at hrun
    exact .run _ (forall_mem_run (by simpa using hrun.1))

/-- **A piece is filler or a path**, and has one of its forms. -/
theorem piece?_form {p : Piece} (h : piece? text = some p) :
    p.kind = .filler ∧ FillerForm p.taken p.rest ∨
      p.kind ≠ .filler ∧ IsPath p.taken p.rest (p.kind == .openPath) := by
  have hend := atEnd_of_piece? h
  unfold piece? at h
  rw [hend, if_neg Bool.false_ne_true] at h
  split at h
  · cases h
  · cases h
    exact .inl ⟨rfl, .escape _ (.inl rfl)⟩
  · cases h
    exact .inl ⟨rfl, .escape _ (.inr rfl)⟩
  · next c rest _ _ =>
    cases h
    unfold innerPiece
    split
    · next hgap => exact .inl ⟨rfl, .gap _ (forall_mem_run hgap)⟩
    split
    · exact .inr ⟨quotedPath_kind_ne_filler _ _, quotedPath_isPath rfl .nil⟩
    split
    · next hangle =>
      subst hangle
      cases hp : anglePath? rest with
      | none => exact .inl ⟨rfl, .single '<' rest hend⟩
      | some p => exact .inr (anglePath?_isPath hp)
    · exact .inl ⟨by unfold otherPiece; split <;> rfl, otherPiece_form hend⟩

/-- **What is no path** has no line feed but one that it escapes, and no comment starts in it. -/
structure IsFiller (taken behind : List Char) : Prop where
  escaped : ∀ a b, taken = a ++ '\n' :: b → b = [] ∧ (a = ['\\'] ∨ a = ['\\', '\r'])
  comment : ∀ a b, taken = a ++ b → b ≠ [] → ¬ OpensComment (b ++ behind)

/-- A comment starts with a slash. -/
theorem not_opensComment {taken behind a b : List Char} (hslash : '/' ∉ taken)
    (h : taken = a ++ b) (hne : b ≠ []) : ¬ OpensComment (b ++ behind) := by
  cases b with
  | nil => exact absurd rfl hne
  | cons c b =>
    have hc : c ≠ '/' := by
      rintro rfl
      exact hslash (h ▸ List.mem_append_right a List.mem_cons_self)
    rintro (⟨t, ht⟩ | ⟨t, ht⟩) <;> exact hc (List.cons.inj ht).1.symm

namespace IsFiller

variable {taken behind : List Char}

/-- A text without a line feed or a slash is filler wherever it stands. -/
theorem of_not_mem (hline : '\n' ∉ taken) (hslash : '/' ∉ taken) : IsFiller taken behind where
  escaped a _ h := absurd (h ▸ List.mem_append_right a List.mem_cons_self) hline
  comment _ _ h hne := not_opensComment hslash h hne

/-- So is a single character at which no region ends. -/
theorem single {c : Char} (hend : atEnd (c :: text) = false) : IsFiller [c] text where
  escaped a b h := by
    obtain ⟨-, hc⟩ | ⟨-, hc⟩ := List.append_eq_singleton_iff.1 h.symm
    · rw [← (List.cons.inj hc).1] at hend
      cases hend
    · cases hc
  comment a _ h hne hopens := by
    obtain ⟨-, rfl⟩ | ⟨-, rfl⟩ := List.append_eq_singleton_iff.1 h.symm
    · rw [List.singleton_append] at hopens
      rw [atEnd_iff.2 (.inr hopens)] at hend
      cases hend
    · exact hne rfl

/-- What escapes a line end is filler. -/
theorem escape (h : taken = ['\\', '\n'] ∨ taken = ['\\', '\r', '\n']) : IsFiller taken behind where
  escaped a b hab := by
    rcases h with rfl | rfl
    · rcases a with _ | ⟨d, _ | ⟨e, a⟩⟩
      · cases hab
      · cases hab
        exact ⟨rfl, .inl rfl⟩
      · simp at hab
    · rcases a with _ | ⟨d, _ | ⟨e, _ | ⟨f, a⟩⟩⟩
      · cases hab
      · cases hab
      · cases hab
        exact ⟨rfl, .inr rfl⟩
      · simp at hab
  comment _ _ hab hne :=
    not_opensComment (by rcases h with rfl | rfl <;> decide) hab hne

end IsFiller

theorem FillerForm.isFiller {taken behind : List Char} (h : FillerForm taken behind) :
    IsFiller taken behind := by
  cases h with
  | escape _ hescape => exact .escape hescape
  | gap _ hgap =>
    exact .of_not_mem (fun hc => absurd (hgap _ hc) (by decide))
      fun hc => absurd (hgap _ hc) (by decide)
  | single c _ hend => exact .single hend
  | run _ hrun =>
    exact .of_not_mem (fun hc => absurd (hrun _ hc) (by decide))
      fun hc => absurd (hrun _ hc) (by decide)

/-- So a piece is filler, with what holds of filler, or a path. -/
theorem piece?_cases {p : Piece} (h : piece? text = some p) :
    p.kind = .filler ∧ IsFiller p.taken p.rest ∨
      p.kind ≠ .filler ∧ IsPath p.taken p.rest (p.kind == .openPath) :=
  (piece?_form h).imp_left (And.imp_right FillerForm.isFiller)

end Include

end SailNav
