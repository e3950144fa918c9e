import SailNav.Proofs.Token.Outline
import SailNav.Proofs.Token.Seam

/-!
# Texts put together at a line feed

Tokens can be read line by line, so to speak: where a text is cut at a line feed, and nothing is
open there, its tokens are those of the first part and then those of the second, further on by the
length of the first part and the line feed (`SailNav.tokenize_append_lineFeed`). The same is true
for its anomalies.

Only filler is different. White space at the end of the first part, the line feed and white space at
the start of the second part are one token, and so may be other things at the end of an include
line. So the two parts do not give the lexemes of the whole text, but they give its outline
(`SailNav.outline_append_lineFeed`).

The mode in which the second part starts is the one in which every text starts, since the line
feed starts a line and ends an include region.
-/

namespace SailNav

open Pattern Include

variable {mode : LexMode} {text more : List Char}

/-! ### Filler at the end of a text -/

/-- Blanks are filler, in a region and outside. -/
theorem isSolid_of_blank (mode : LexMode) (text : List Char)
    (hblank : ∀ c ∈ text, blanks.contains c = true) :
    ∀ l ∈ lexemesFrom mode text, l.isSolid = false := by
  induction mode, text using lexeme_induction with
  | nil mode => simp [lexemesFrom_nil]
  | step mode text s hs ih =>
    obtain ⟨hne, happ⟩ := lexStep?_append hs
    rw [← happ, List.forall_mem_append] at hblank
    rw [lexemesFrom_eq_cons hs, List.forall_mem_cons]
    refine ⟨?_, ih hblank.2⟩
    rcases lexStep?_cases hs with ⟨p, -, hp, rfl⟩ | ⟨-, ⟨w, hw, rfl⟩ | ⟨c, rest, -, -, rfl⟩⟩
    · cases text with
      | nil => cases hp
      | cons c text =>
        have hc : blanks.contains c = true := by
          refine (List.forall_mem_append.2 hblank) c ?_
          rw [happ]
          exact List.mem_cons_self
        have hkind : p.kind = .filler :=
          kind_eq_filler hp (ne_of_blank hc rfl) (ne_of_blank hc rfl)
        rw [hkind]
        rfl
    · have hkind : w.kind = .whitespace :=
        (eq_whitespace_iff hw.class_eq).2 (List.all_eq_true.2 hblank.1)
      rw [hkind]
      rfl
    · rfl

/-- The blanks at the start of a text, and what follows them. -/
theorem exists_blanks (text : List Char) :
    ∃ u rest, text = u ++ rest ∧ (∀ c ∈ u, blanks.contains c = true) ∧
      ∀ c t, rest = c :: t → blanks.contains c = false := by
  refine ⟨text.takeWhile blanks.contains, text.dropWhile blanks.contains,
    List.takeWhile_append_dropWhile.symm, List.all_eq_true.1 List.all_takeWhile, ?_⟩
  intro c t h
  have hhead := List.head?_dropWhile_not blanks.contains text
  rw [h] at hhead
  simpa using hhead

/-- Outside regions white space is one lexeme. -/
theorem lexStep?_blanks {u rest : List Char} (hu : u ≠ [])
    (hblank : ∀ c ∈ u, blanks.contains c = true)
    (hrest : ∀ c t, rest = c :: t → blanks.contains c = false)
    (hout : ¬ (mode = .region ∧ atEnd (u ++ rest) = false)) :
    lexStep? mode (u ++ rest) =
      some ⟨⟨.word .whitespace, u⟩, mode.afterWord .whitespace u, rest⟩ := by
  rw [lexStep?_of_outside hout,
    wordStep?_of_isLongestWord mode (isLongestWord_whitespace hu hblank hrest)]

/-- Blanks at the start of a line do not count. -/
theorem outline_lineStart {u rest : List Char} (hblank : ∀ c ∈ u, blanks.contains c = true)
    (hrest : ∀ c t, rest = c :: t → blanks.contains c = false) (offset : Nat) :
    Lexeme.outline offset (lexemesFrom .lineStart (u ++ rest)) =
      Lexeme.outline (offset + Text.byteLength u) (lexemesFrom .lineStart rest) := by
  by_cases hu : u = []
  · subst hu
    rfl
  · rw [lexemesFrom_eq_cons (lexStep?_blanks hu hblank hrest fun h => by cases h.1)]
    have hmode : LexMode.lineStart.afterWord .whitespace u = .lineStart := by
      simp [LexMode.afterWord]
    rw [hmode]
    rfl

/-- **White space goes on over a line feed**, and a line starts behind it. -/
theorem outline_lineEnd (hblank : ∀ c ∈ text, blanks.contains c = true)
    (hout : ¬ (mode = .region ∧ atEnd (text ++ '\n' :: more) = false)) (offset : Nat) :
    Lexeme.outline offset (lexemesFrom mode (text ++ '\n' :: more)) =
      Lexeme.outline (offset + Text.byteLength text + 1) (lexemesFrom .lineStart more) := by
  obtain ⟨u, rest, rfl, hu, hrest⟩ := exists_blanks more
  have hsplit : text ++ '\n' :: (u ++ rest) = (text ++ '\n' :: u) ++ rest := by simp
  rw [hsplit] at hout ⊢
  have hall : ∀ c ∈ text ++ '\n' :: u, blanks.contains c = true :=
    List.forall_mem_append.2 ⟨hblank, List.forall_mem_cons.2 ⟨by decide, hu⟩⟩
  rw [lexemesFrom_eq_cons (lexStep?_blanks (by simp) hall hrest hout), outline_lineStart hu hrest]
  have hmode : mode.afterWord .whitespace (text ++ '\n' :: u) = .lineStart := by
    simp [LexMode.afterWord]
  have hlength : Text.byteLength (text ++ '\n' :: u) =
      Text.byteLength text + 1 + Text.byteLength u := by
    rw [Text.byteLength_append, Text.byteLength_cons, Nat.add_assoc]
    rfl
  rw [hmode, Lexeme.outline, hlength, ← Nat.add_assoc, ← Nat.add_assoc]
  rfl

/-! ### The last run of an include region -/

/-- A last run is cut up into single characters. -/
theorem isSolid_of_run (hrun : ∀ c ∈ text, stopsRun c = false) :
    ∀ l ∈ lexemesFrom .region text, l.isSolid = false := by
  induction text with
  | nil => simp [lexemesFrom_nil]
  | cons c text ih =>
    obtain ⟨hc, hrest⟩ := List.forall_mem_cons.1 hrun
    have hany : text.any stopsRun = false := by simpa using hrest
    have hpiece : piece? (c :: text) = some ⟨.filler, [c], text⟩ := by
      rw [piece?_of_run hc, otherPiece, hany, Bool.not_false, Bool.or_true, if_pos rfl]
    rw [lexemesFrom_eq_cons (lexStep?_of_piece hpiece), List.forall_mem_cons]
    exact ⟨rfl, ih hrest⟩

/-- With a line feed behind it the run is one piece. -/
theorem outline_run (hne : text ≠ []) (hrun : ∀ c ∈ text, stopsRun c = false) (offset : Nat) :
    Lexeme.outline offset (lexemesFrom .region (text ++ '\n' :: more)) =
      Lexeme.outline (offset + Text.byteLength text + 1) (lexemesFrom .lineStart more) := by
  cases text with
  | nil => exact absurd rfl hne
  | cons c text =>
    obtain ⟨hc, hrest⟩ := List.forall_mem_cons.1 hrun
    have hall : ∀ d ∈ text, (!stopsRun d) = true := by simpa using hrest
    have hpiece : piece? (c :: text ++ '\n' :: more) =
        some ⟨.filler, c :: text, '\n' :: more⟩ := by
      have hany : (text ++ '\n' :: more).any stopsRun = true :=
        List.any_eq_true.2 ⟨'\n', List.mem_append_right text List.mem_cons_self, rfl⟩
      rw [List.cons_append, piece?_of_run hc, otherPiece, hc, hany, if_neg (by decide),
        List.takeWhile_append_of_pos hall, List.dropWhile_append_of_pos hall,
        List.takeWhile_cons_of_neg (by decide), List.dropWhile_cons_of_neg (by decide),
        List.append_nil]
    rw [lexemesFrom_eq_cons (lexStep?_of_piece hpiece)]
    exact @outline_lineEnd .region [] more (fun _ hd => absurd hd List.not_mem_nil)
      (fun h => by cases h.2) _

/-! ### The next lexeme -/

/-- The next word in front of a line feed is the next one of the text alone, unless the text is
white space. -/
theorem wordStep?_seam {s : LexStep} (hs : wordStep? mode text = some s)
    (hfault : s.lexeme.fault = none) (hend : ¬ EndsInBackslash text) (more : List Char) :
    wordStep? mode (text ++ '\n' :: more) = some { s with rest := s.rest ++ '\n' :: more } ∨
      ∀ c ∈ text, blanks.contains c = true := by
  cases hw : longestWord? (text ++ '\n' :: more) with
  | some w =>
    have hlongest := longestWord?_eq_some_iff.1 hw
    rcases hlongest.seam hend with ⟨rest, hrest, halone⟩ | hblank | ⟨v, hopen, hkind⟩
    · rw [wordStep?_of_isLongestWord mode halone] at hs
      cases hs
      rw [wordStep?_of_isLongestWord mode hlongest, hrest]
      exact .inl rfl
    · exact .inr hblank
    · rw [wordStep?_of_isLongestWord mode hopen] at hs
      cases hs
      rcases hkind with hkind | hkind <;> rw [hkind] at hfault <;> cases hfault
  | none =>
    have hnone : longestWord? text = none := by
      refine longestWord?_eq_none_iff.2 fun v rest hv hne => ?_
      refine longestWord?_eq_none_iff.1 hw v (rest ++ '\n' :: more) ?_ hne
      rw [hv, List.append_assoc]
    unfold wordStep? at hs ⊢
    rw [hnone] at hs
    rw [hw]
    cases text with
    | nil => cases hs
    | cons c text =>
      cases hs
      exact .inl rfl

/-- **The next lexeme in front of a line feed** is the next one of the text alone, unless the text
is white space, or the last run of an include region. -/
theorem lexStep?_seam {s : LexStep} (hs : lexStep? mode text = some s)
    (hfault : s.lexeme.fault = none) (hend : ¬ EndsInBackslash text) (more : List Char) :
    lexStep? mode (text ++ '\n' :: more) = some { s with rest := s.rest ++ '\n' :: more } ∨
      ((∀ c ∈ text, blanks.contains c = true) ∧
        ¬ (mode = .region ∧ atEnd (text ++ '\n' :: more) = false)) ∨
      (mode = .region ∧ ∀ c ∈ text, stopsRun c = false) := by
  have hne : text ≠ [] := by
    rintro rfl
    rw [lexStep?_eq_none.2 rfl] at hs
    cases hs
  by_cases hin : mode = .region ∧ atEnd text = false
  · -- a piece of a region
    rcases lexStep?_cases hs with ⟨p, ⟨rfl, -⟩, hp, rfl⟩ | ⟨hout, -⟩
    · have hpath : p.kind ≠ .openPath := by
        intro hkind
        rw [hkind] at hfault
        cases hfault
      rcases piece?_seam hp hpath hend more with hsame | rfl | hrun
      · exact .inl (lexStep?_of_piece hsame)
      · refine .inr (.inl ⟨fun c hc => ?_, fun h => by cases h.2⟩)
        rw [List.mem_singleton.1 hc]
        rfl
      · exact .inr (.inr ⟨rfl, hrun⟩)
    · exact absurd hin hout
  · -- no piece, with or without what follows the text
    have hin' : ¬ (mode = .region ∧ atEnd (text ++ '\n' :: more) = false) := by
      rintro ⟨hmode, hregion⟩
      have hcr : text ≠ ['\r'] := by
        rintro rfl
        cases hregion
      exact hin ⟨hmode, (atEnd_append hne hcr).symm.trans hregion⟩
    rw [lexStep?_of_outside hin] at hs
    rw [lexStep?_of_outside hin']
    rcases wordStep?_seam hs hfault hend more with hsame | hblank
    · exact .inl hsame
    · exact .inr (.inl ⟨hblank, hin'⟩)

/-- **Where a text is cut at a line feed**, its outline is that of the first part and then that of
the second. -/
theorem outline_append_lineFeed (mode : LexMode) (text more : List Char)
    (hfault : ∀ l ∈ lexemesFrom mode text, l.fault = none) (hend : ¬ EndsInBackslash text)
    (offset : Nat) :
    Lexeme.outline offset (lexemesFrom mode (text ++ '\n' :: more)) =
      Lexeme.outline offset (lexemesFrom mode text) ++
        Lexeme.outline (offset + Text.byteLength text + 1) (lexemesFrom .lineStart more) := by
  induction mode, text using lexeme_induction generalizing offset with
  | nil mode =>
    rw [lexemesFrom_nil]
    exact outline_lineEnd (fun _ hc => absurd hc List.not_mem_nil) (fun h => by cases h.2) offset
  | step mode text s hs ih =>
    obtain ⟨hne, happ⟩ := lexStep?_append hs
    have hfaults := hfault
    rw [lexemesFrom_eq_cons hs, List.forall_mem_cons] at hfaults
    rcases lexStep?_seam hs hfaults.1 hend more with hsame | ⟨hblank, hout⟩ | ⟨rfl, hrun⟩
    · have hrest : ¬ EndsInBackslash s.rest := fun h => hend (h.imp
        (fun h => h.trans ⟨s.lexeme.text, happ⟩) (fun h => h.trans ⟨s.lexeme.text, happ⟩))
      have hlength : offset + Text.byteLength text =
          offset + Text.byteLength s.lexeme.text + Text.byteLength s.rest := by
        rw [← happ, Text.byteLength_append, Nat.add_assoc]
      rw [lexemesFrom_eq_cons hsame, lexemesFrom_eq_cons hs, Lexeme.outline, Lexeme.outline,
        ih hfaults.2 hrest, hlength]
      split <;> rfl
    · rw [outline_lineEnd hblank hout, Lexeme.outline_eq_nil (isSolid_of_blank mode text hblank),
        List.nil_append]
    · have htext : text ≠ [] := by
        rintro rfl
        exact hne (List.append_eq_nil_iff.1 happ).1
      rw [outline_run htext hrun, Lexeme.outline_eq_nil (isSolid_of_run hrun), List.nil_append]

/-! ### The tokens of a text -/

/-- **A text that leaves nothing open**: every literal, block comment and bracket is closed. -/
def TokenStream.Closed (s : TokenStream) : Prop :=
  ∀ x ∈ s.anomalies, x.kind ≠ .unterminatedString ∧ x.kind ≠ .unterminatedBlockComment ∧
    x.kind ≠ .unclosedBracket

theorem Lexeme.fault_cases (l : Lexeme) {kind : Anomaly.Kind} (h : l.fault = some kind) :
    kind = .unterminatedString ∨ kind = .unterminatedBlockComment := by
  unfold fault at h
  split at h
  · cases h
    exact .inr rfl
  · cases h
    exact .inl rfl
  · cases h
    exact .inl rfl
  · cases h

instance (s : TokenStream) : Decidable s.Closed :=
  inferInstanceAs (Decidable (∀ x ∈ s.anomalies, _))

/-- A text that leaves nothing open has no faulty lexeme. -/
theorem TokenStream.Closed.fault_eq_none {text : String} (h : (tokenize text).Closed) {l : Lexeme}
    (hl : l ∈ lexemes text.toList) : l.fault = none := by
  cases hfault : l.fault with
  | none => rfl
  | some kind =>
    obtain ⟨x, hx, rfl⟩ := TokenBuilder.exists_anomaly_of_fault hl hfault .start
    obtain ⟨hstring, hcomment, -⟩ :=
      h x ((anomalies_perm text).mem_iff.2 (List.mem_append_right _ hx))
    exact (l.fault_cases hfault).elim (absurd · hstring) (absurd · hcomment)

/-- A text that leaves nothing open leaves no bracket open. -/
theorem TokenStream.Closed.brackets_eq_nil {text : String} (h : (tokenize text).Closed) :
    (TokenBuilder.ofText text).brackets = [] := by
  cases hopen : (TokenBuilder.ofText text).brackets with
  | nil => rfl
  | cons entry outer =>
    have hx : (⟨.unclosedBracket, entry.2⟩ : Anomaly) ∈ (TokenBuilder.ofText text).reported := by
      rw [TokenBuilder.reported, hopen]
      exact List.mem_cons_self
    exact absurd rfl (h _ ((anomalies_perm text).mem_iff.2 hx)).2.2

section Parts

variable {a b whole : String} {n : Nat}

/-- A text that is read like two parts has the tokens of both, filler apart. -/
theorem solid_tokens_eq (hskim : (TokenBuilder.ofText whole).skim 0 =
      ((TokenBuilder.ofText b).behind n (TokenBuilder.ofText a)).skim 0) :
    (tokenize whole).tokens.filter Token.isSolid =
      (tokenize a).tokens.filter Token.isSolid ++
        ((tokenize b).tokens.filter Token.isSolid).map (Token.shift n) := by
  have htokens : (TokenBuilder.ofText whole).tokens.filter Token.isSolid =
      ((TokenBuilder.ofText b).tokens.map (Token.shift n) ++
        (TokenBuilder.ofText a).tokens).filter Token.isSolid :=
    congrArg TokenBuilder.tokens hskim
  change (TokenBuilder.ofText whole).tokens.reverse.filter _ =
    (TokenBuilder.ofText a).tokens.reverse.filter _ ++
      ((TokenBuilder.ofText b).tokens.reverse.filter _).map _
  rw [List.filter_reverse, List.filter_reverse, List.filter_reverse, htokens, List.filter_append,
    List.reverse_append, List.filter_map, List.map_reverse]
  rfl

/-- It has the anomalies of both, if the first part leaves no bracket open. -/
theorem anomalies_eq (hskim : (TokenBuilder.ofText whole).skim 0 =
      ((TokenBuilder.ofText b).behind n (TokenBuilder.ofText a)).skim 0)
    (hopen : (TokenBuilder.ofText a).brackets = []) (hn : a.utf8ByteSize ≤ n) :
    (tokenize whole).anomalies =
      (tokenize a).anomalies ++ (tokenize b).anomalies.map (Anomaly.shift n) := by
  have hfirst : (TokenBuilder.ofText a).anomalies = (TokenBuilder.ofText a).reported := by
    rw [TokenBuilder.reported, hopen]
    rfl
  have hreported : (TokenBuilder.ofText whole).reported =
      (TokenBuilder.ofText b).reported.map (Anomaly.shift n) ++
        (TokenBuilder.ofText a).reported := by
    have h := congrArg TokenBuilder.reported hskim
    rw [← hfirst, ← TokenBuilder.reported_behind]
    exact h
  have hperm := anomalies_perm whole
  rw [hreported] at hperm
  refine (inOrder_anomalies whole).eq_of_perm (List.pairwise_append.2 ⟨inOrder_anomalies a, ?_, ?_⟩)
    (hperm.trans (List.perm_append_comm.trans
      ((anomalies_perm a).symm.append ((anomalies_perm b).symm.map _))))
  · exact List.pairwise_map.2 ((inOrder_anomalies b).imp fun h => Nat.add_lt_add_right h n)
  · intro x hx y hy
    obtain ⟨z, -, rfl⟩ := List.mem_map.1 hy
    have hlt := (apart_ofText a).start_lt x ((anomalies_perm a).mem_iff.1 hx)
    rw [offset_ofText] at hlt
    change x.span.start < z.span.start + n
    omega

end Parts

/-- **Tokens and line breaks.** Where a text is cut at a line feed, and the first part leaves
nothing open and does not end in a backslash, its tokens are those of the two parts, filler apart:
those of the second part are further on by the first part and the line feed. Its anomalies are those
of the two parts. -/
theorem tokenize_append_lineFeed {a b : String} (hclosed : (tokenize a).Closed)
    (hend : ¬ EndsInBackslash a.toList) :
    (tokenize (a ++ "\n" ++ b)).tokens.filter Token.isSolid =
        (tokenize a).tokens.filter Token.isSolid ++
          ((tokenize b).tokens.filter Token.isSolid).map (Token.shift (a.utf8ByteSize + 1)) ∧
      (tokenize (a ++ "\n" ++ b)).anomalies =
        (tokenize a).anomalies ++
          (tokenize b).anomalies.map (Anomaly.shift (a.utf8ByteSize + 1)) := by
  have htext : (a ++ "\n" ++ b).toList = a.toList ++ '\n' :: b.toList := by simp
  have hlength : Text.byteLength a.toList = a.utf8ByteSize := by
    rw [← Text.utf8ByteSize_ofList, String.ofList_toList]
  have hout : Lexeme.outline 0 (lexemes (a ++ "\n" ++ b).toList) =
      Lexeme.outline 0 (lexemes a.toList) ++
        Lexeme.outline (a.utf8ByteSize + 1) (lexemes b.toList) := by
    have h := outline_append_lineFeed .lineStart a.toList b.toList
      (fun l hl => hclosed.fault_eq_none hl) hend 0
    rwa [← htext, hlength, Nat.zero_add] at h
  have hskim : (TokenBuilder.ofText (a ++ "\n" ++ b)).skim 0 =
      ((TokenBuilder.ofText b).behind (a.utf8ByteSize + 1) (TokenBuilder.ofText a)).skim 0 :=
    TokenBuilder.skim_foldl_append hout hclosed.brackets_eq_nil
  exact ⟨solid_tokens_eq hskim, anomalies_eq hskim hclosed.brackets_eq_nil (Nat.le_succ _)⟩

/-- A bracket without a partner on the first line, and an open string on the second. -/
theorem tokenize_append_lineFeed_open :
    (tokenize ") f").Closed ∧ ¬ EndsInBackslash ") f".toList ∧
      (tokenize (") f" ++ "\n" ++ " \"g")).anomalies =
        [⟨.unmatchedClose, ⟨0, 1⟩⟩, ⟨.unterminatedString, ⟨5, 7⟩⟩] := by
  have hclosed : (tokenize ") f").Closed := by decide +kernel
  have hend : ¬ EndsInBackslash ") f".toList := by decide
  refine ⟨hclosed, hend, ?_⟩
  rw [(tokenize_append_lineFeed hclosed hend).2]
  decide +kernel

end SailNav
