import SailNav.Proofs.Token.Longest

/-!
# The words of the lexical classes

No word is in two classes, but for the keywords and the lone `_`, which look like identifiers
(`SailNav.eq_or_outranks_of_matches`). So the order of the lexicon decides between an identifier
and one of these, and nothing else (`SailNav.eq_or_outranks_of_classOf?`).

Most classes are told apart by the character that their words start with, and that is read off the
patterns by a computation (`SailNav.Pattern.apart`). What is left are three families in which words
start alike.

* The words of a keyword class, and the operators, can be enumerated, so they are compared one by
  one (`SailNav.Pattern.words?`).
* Comments go on with a second character. A line comment has no line end but escaped ones
  (`SailNav.Pattern.staysOnLine`). A block comment that is closed has the first `*/` behind its
  opening at its end, and one that is open has none
  (`SailNav.Pattern.matches_openBlockComment_iff`).
* In a string a backslash takes the next character with it, so one has to read along to see whether
  a quote closes it (`SailNav.Pattern.staysOpen`).
-/

namespace SailNav

/-! ### Sets of characters -/

namespace CharSet

variable {c d : Char}

/-- A range of one character has that character only. -/
theorem any_self_iff {chars : List Char} :
    ((chars.map fun c => (c, c)).any fun (first, last) => first ≤ d && d ≤ last) = true ↔
      d ∈ chars := by
  rw [List.any_map, List.any_eq_true]
  constructor
  · rintro ⟨c, hc, hd⟩
    simp only [Function.comp_apply, Bool.and_eq_true, decide_eq_true_iff] at hd
    exact Char.le_antisymm hd.1 hd.2 ▸ hc
  · intro hd
    exact ⟨d, hd, by simp⟩

theorem contains_single_iff : (CharSet.of [(c, c)]).contains d = true ↔ d = c := by
  have h : _ ↔ d ∈ [c] := any_self_iff
  rw [List.mem_singleton] at h
  rw [← h]
  simp [contains, of]

theorem contains_oneOf_iff {chars : String} :
    (oneOf chars).contains d = true ↔ d ∈ chars.toList := by
  rw [← any_self_iff]
  simp [contains, oneOf]

theorem contains_noneOf_iff {chars : String} :
    (noneOf chars).contains d = true ↔ d ∉ chars.toList := by
  rw [← any_self_iff]
  simp [contains, noneOf]

/-- The one character of a set that is given as such. -/
def only? : CharSet → Option Char
  | ⟨false, [(first, last)]⟩ => if first = last then some first else none
  | _ => none

theorem eq_of_only? {s : CharSet} (h : s.only? = some d) (hc : s.contains c = true) : c = d := by
  unfold only? at h
  split at h
  · split at h
    · next hfl =>
      cases h
      subst hfl
      exact contains_single_iff.1 hc
    · cases h
  · cases h

/-- Whether two sets are known to have no character in common. -/
def apart (s t : CharSet) : Bool :=
  !s.negated && !t.negated &&
    s.ranges.all fun a => t.ranges.all fun b => a.2 < b.1 || b.2 < a.1

theorem not_contains_of_apart {s t : CharSet} (h : s.apart t = true) (hs : s.contains c = true) :
    t.contains c = false := by
  simp only [apart, Bool.and_eq_true, Bool.not_eq_true', List.all_eq_true, Bool.or_eq_true,
    decide_eq_true_eq] at h
  obtain ⟨⟨hspos, htpos⟩, hranges⟩ := h
  rw [contains, hspos, Bool.false_bne, List.any_eq_true] at hs
  rw [contains, htpos, Bool.false_bne, List.any_eq_false]
  obtain ⟨a, ha, hac⟩ := hs
  intro b hb hbc
  simp only [Bool.and_eq_true, decide_eq_true_eq] at hac hbc
  rcases hranges a ha b hb with hlt | hlt
  · exact absurd (Char.le_trans hbc.1 hac.2) (Char.not_le.2 hlt)
  · exact absurd (Char.le_trans hac.1 hbc.2) (Char.not_le.2 hlt)

end CharSet

namespace Pattern

variable {p q : Pattern} {s : CharSet} {c : Char} {w : List Char}

/-! ### What a pattern says of its words -/

/-- Whether a character may occur in a word. -/
def mayContain (c : Char) : Pattern → Bool
  | blank => false
  | one s => s.contains c
  | seq p q | alt p q => p.mayContain c || q.mayContain c
  | star p => p.mayContain c

theorem Matches.mayContain_of_mem (h : Matches p w) (hc : c ∈ w) : p.mayContain c = true := by
  induction h with
  | blank | stop => exact absurd hc List.not_mem_nil
  | one hs => exact List.mem_singleton.1 hc ▸ hs
  | seq _ _ hu hv =>
    rw [mayContain, Bool.or_eq_true]
    exact (List.mem_append.1 hc).imp hu hv
  | left _ ih => rw [mayContain, ih hc, Bool.true_or]
  | right _ ih => rw [mayContain, ih hc, Bool.or_true]
  | again _ _ hu hv => exact (List.mem_append.1 hc).elim hu hv

/-- The sets of characters that a word may start with. -/
def heads : Pattern → List CharSet
  | blank => []
  | one s => [s]
  | seq p q => p.heads ++ if p.nullable then q.heads else []
  | alt p q => p.heads ++ q.heads
  | star p => p.heads

theorem Matches.exists_head (h : Matches p (c :: w)) : ∃ s ∈ p.heads, s.contains c = true := by
  induction p generalizing w with
  | blank => cases h
  | one s =>
    obtain ⟨d, hd, hw⟩ := matches_one_iff.1 h
    exact ⟨s, List.mem_singleton_self s, (List.cons.inj hw).1 ▸ hd⟩
  | seq p q hp hq =>
    rw [heads]
    rcases exists_cons_eq_append_iff.1 (matches_seq_iff.1 h) with ⟨u, v, -, hu, -⟩ | ⟨hnil, hv⟩
    · obtain ⟨s, hs, hc⟩ := hp hu
      exact ⟨s, List.mem_append_left _ hs, hc⟩
    · obtain ⟨s, hs, hc⟩ := hq hv
      rw [if_pos (nullable_iff.2 hnil)]
      exact ⟨s, List.mem_append_right _ hs, hc⟩
  | alt p q hp hq =>
    rcases matches_alt_iff.1 h with h | h
    · obtain ⟨s, hs, hc⟩ := hp h
      exact ⟨s, List.mem_append_left _ hs, hc⟩
    · obtain ⟨s, hs, hc⟩ := hq h
      exact ⟨s, List.mem_append_right _ hs, hc⟩
  | star p hp =>
    obtain ⟨u, v, -, hu, -⟩ := matches_star_cons_iff.1 h
    exact hp hu

/-- Whether the words of two patterns are known to start with different characters. -/
def apart (p q : Pattern) : Bool := p.heads.all fun s => q.heads.all fun t => s.apart t

/-- Words that start with different characters are different. -/
theorem not_matches_of_apart (h : p.apart q = true) {v : List Char} (hp : Matches p (c :: w)) :
    ¬ Matches q (c :: v) := by
  intro hq
  obtain ⟨s, hs, hsc⟩ := hp.exists_head
  obtain ⟨t, ht, htc⟩ := hq.exists_head
  have hst := List.all_eq_true.1 (List.all_eq_true.1 h s hs) t ht
  rw [CharSet.not_contains_of_apart hst hsc] at htc
  cases htc

/-- All words of a pattern, if it is put together from single characters without a star. -/
def words? : Pattern → Option (List (List Char))
  | blank => some [[]]
  | one s => s.only?.map fun c => [[c]]
  | seq p q =>
    p.words?.bind fun us => q.words?.map fun vs => us.flatMap fun u => vs.map fun v => u ++ v
  | alt p q => p.words?.bind fun us => q.words?.map fun vs => us ++ vs
  | star _ => none

theorem Matches.mem_words (h : Matches p w) {ws : List (List Char)} (hws : p.words? = some ws) :
    w ∈ ws := by
  induction h generalizing ws with
  | blank =>
    cases hws
    exact List.mem_singleton_self []
  | one hc =>
    obtain ⟨d, hd, rfl⟩ := Option.map_eq_some_iff.1 hws
    rw [CharSet.eq_of_only? hd hc]
    exact List.mem_singleton_self [d]
  | seq _ _ hu hv =>
    simp only [words?, Option.bind_eq_some_iff, Option.map_eq_some_iff] at hws
    obtain ⟨us, hus, vs, hvs, rfl⟩ := hws
    exact List.mem_flatMap.2 ⟨_, hu hus, List.mem_map.2 ⟨_, hv hvs, rfl⟩⟩
  | left _ ih =>
    simp only [words?, Option.bind_eq_some_iff, Option.map_eq_some_iff] at hws
    obtain ⟨us, hus, vs, -, rfl⟩ := hws
    exact List.mem_append_left vs (ih hus)
  | right _ ih =>
    simp only [words?, Option.bind_eq_some_iff, Option.map_eq_some_iff] at hws
    obtain ⟨us, -, vs, hvs, rfl⟩ := hws
    exact List.mem_append_right us (ih hvs)
  | stop | again => cases hws

/-! ### Single characters and given words -/

theorem matches_char_iff : Matches (char c) w ↔ w = [c] := by
  rw [char, matches_one_iff]
  constructor
  · rintro ⟨d, hd, rfl⟩
    rw [CharSet.contains_single_iff.1 hd]
  · rintro rfl
    exact ⟨c, CharSet.contains_single_iff.2 rfl, rfl⟩

theorem matches_go_iff {rest : List Char} : Matches (word.go c rest) w ↔ w = c :: rest := by
  induction rest generalizing c w with
  | nil => exact matches_char_iff
  | cons d rest ih =>
    rw [word.go, matches_seq_iff]
    constructor
    · rintro ⟨u, v, rfl, hu, hv⟩
      rw [matches_char_iff.1 hu, ih.1 hv, List.singleton_append]
    · rintro rfl
      exact ⟨[c], d :: rest, rfl, matches_char_iff.2 rfl, ih.2 rfl⟩

theorem matches_word_iff {text : String} : Matches (word text) w ↔ w = text.toList := by
  unfold word
  split
  · next h => rw [h, matches_blank_iff]
  · next h => rw [h, matches_go_iff]

/-- The words of a set under a star are those of its characters. -/
theorem matches_star_one_iff : Matches (star (one s)) w ↔ ∀ c ∈ w, s.contains c = true := by
  induction w with
  | nil => exact ⟨fun _ _ hc => absurd hc List.not_mem_nil, fun _ => .stop⟩
  | cons c w ih =>
    rw [matches_star_cons_iff, List.forall_mem_cons, ← ih]
    constructor
    · rintro ⟨u, v, rfl, hu, hv⟩
      obtain ⟨d, hd, hdu⟩ := matches_one_iff.1 hu
      obtain ⟨rfl, rfl⟩ := List.cons.inj hdu
      exact ⟨hd, hv⟩
    · rintro ⟨hc, hw⟩
      exact ⟨[], w, rfl, matches_one_iff.2 ⟨c, hc, rfl⟩, hw⟩

/-- The characters of white space. -/
def blanks : CharSet := .oneOf " \t\r\n\x0c"

theorem ne_of_blank {d : Char} (hc : blanks.contains c = true) (hd : blanks.contains d = false) :
    c ≠ d := by
  rintro rfl
  exact Bool.false_ne_true (hd.symm.trans hc)

theorem matches_whitespace_iff :
    Matches whitespace w ↔ w ≠ [] ∧ ∀ c ∈ w, blanks.contains c = true := by
  rw [whitespace, plus, ← blanks, matches_seq_iff]
  simp only [matches_star_one_iff, matches_one_iff]
  constructor
  · rintro ⟨u, v, rfl, ⟨c, hc, rfl⟩, hv⟩
    exact ⟨List.cons_ne_nil c v, List.forall_mem_cons.2 ⟨hc, hv⟩⟩
  · rintro ⟨hne, hall⟩
    cases w with
    | nil => exact absurd rfl hne
    | cons c w =>
      obtain ⟨hc, hw⟩ := List.forall_mem_cons.1 hall
      exact ⟨[c], w, rfl, ⟨c, hc, rfl⟩, hw⟩

theorem matches_star_char_iff : Matches (star (char c)) w ↔ ∃ n, w = List.replicate n c := by
  rw [char, matches_star_one_iff]
  simp only [CharSet.contains_single_iff]
  constructor
  · intro h
    exact ⟨w.length, List.eq_replicate_iff.2 ⟨rfl, h⟩⟩
  · rintro ⟨n, rfl⟩ d hd
    exact List.eq_of_mem_replicate hd

theorem matches_plus_char_iff : Matches (plus (char c)) w ↔ ∃ n, w = List.replicate (n + 1) c := by
  rw [plus, matches_seq_iff]
  constructor
  · rintro ⟨u, v, rfl, hu, hv⟩
    obtain ⟨n, rfl⟩ := matches_star_char_iff.1 hv
    exact ⟨n, by rw [matches_char_iff.1 hu]; rfl⟩
  · rintro ⟨n, rfl⟩
    exact ⟨[c], List.replicate n c, rfl, matches_char_iff.2 rfl, matches_star_char_iff.2 ⟨n, rfl⟩⟩

/-! ### Line comments -/

/-- Whether a text has no line end but escaped ones. A backslash escapes a line feed right behind
it, or a carriage return and a line feed. -/
def staysOnLine : List Char → Bool
  | [] => true
  | '\\' :: '\n' :: rest => staysOnLine rest
  | '\\' :: '\r' :: '\n' :: rest => staysOnLine rest
  | c :: rest => c != '\r' && c != '\n' && staysOnLine rest

theorem staysOnLine_cons (h : c = '\\' → (∀ t, w ≠ '\n' :: t) ∧ ∀ t, w ≠ '\r' :: '\n' :: t) :
    staysOnLine (c :: w) = (c != '\r' && c != '\n' && staysOnLine w) :=
  staysOnLine.eq_4 c w (fun _ hc => (h hc).1 _) fun _ hc => (h hc).2 _

/-- A cut in front of anything but a carriage return or a line feed does not cut through an escaped
line end. -/
theorem staysOnLine_append {u v : List Char} (hcr : ∀ t, v ≠ '\r' :: t) (hlf : ∀ t, v ≠ '\n' :: t) :
    staysOnLine (u ++ v) = (staysOnLine u && staysOnLine v) := by
  fun_induction staysOnLine u with
  | case1 => rfl
  | case2 rest ih => exact ih
  | case3 rest ih => exact ih
  | case4 c rest hline hreturn ih =>
    have hcons : staysOnLine (c :: (rest ++ v)) =
        (c != '\r' && c != '\n' && staysOnLine (rest ++ v)) := by
      refine staysOnLine_cons fun hc => ⟨fun t ht => ?_, fun t ht => ?_⟩
      · cases rest with
        | nil => exact hlf t ht
        | cons d rest => exact hline rest hc (by rw [(List.cons.inj ht).1])
      · match rest, ht with
        | [], ht => exact hcr _ ht
        | [d], ht => exact hlf t (List.cons.inj ht).2
        | d :: e :: rest, ht =>
          obtain ⟨hd, ht⟩ := List.cons.inj ht
          exact hreturn rest hc (by rw [hd, (List.cons.inj ht).1])
    rw [List.cons_append, hcons, ih, Bool.and_assoc _ _ (staysOnLine v)]

/-- A backslash may be cut off with what it escapes. -/
theorem staysOnLine_append_slash {u v : List Char} :
    staysOnLine (u ++ '\\' :: v) = (staysOnLine u && staysOnLine ('\\' :: v)) :=
  staysOnLine_append nofun nofun

/-- No round of the body of a line comment ends the line. -/
theorem staysOnLine_of_round
    (h : Matches (choice (one (.noneOf "\r\n\\"))
      [chain [char '\\', opt (char '\r'), char '\n'],
       seq (char '\\') (one (.noneOf "\r\n")),
       char '\\']) w) :
    staysOnLine w = true := by
  rcases matches_alt_iff.1 h with h | h
  · obtain ⟨c, hc, rfl⟩ := matches_one_iff.1 h
    have hnot := CharSet.contains_noneOf_iff.1 hc
    rw [staysOnLine_cons]
    all_goals simp_all [staysOnLine]
  rcases matches_alt_iff.1 h with h | h
  · obtain ⟨a, b, rfl, ha, hb⟩ := matches_seq_iff.1 h
    obtain ⟨cr, lf, rfl, hcr, hlf⟩ := matches_seq_iff.1 hb
    rw [matches_char_iff.1 ha, matches_char_iff.1 hlf]
    rcases matches_alt_iff.1 hcr with hcr | hcr
    · rw [matches_char_iff.1 hcr]
      rfl
    · rw [matches_blank_iff.1 hcr]
      rfl
  rcases matches_alt_iff.1 h with h | h
  · obtain ⟨a, b, rfl, ha, hb⟩ := matches_seq_iff.1 h
    obtain ⟨c, hc, rfl⟩ := matches_one_iff.1 hb
    have hnot := CharSet.contains_noneOf_iff.1 hc
    rw [matches_char_iff.1 ha, List.singleton_append, staysOnLine_cons, staysOnLine_cons]
    all_goals simp_all [staysOnLine]
  · rw [matches_char_iff.1 h]
    rfl

/-- **The words of a line comment**: two slashes, and anything on the same line. -/
theorem matches_lineComment_iff :
    Matches lineComment w ↔ ['/', '/'] <+: w ∧ staysOnLine w = true := by
  have hslashes {x : List Char} : staysOnLine (['/', '/'] ++ x) = staysOnLine x := by
    simp [staysOnLine]
  rw [lineComment, matches_seq_iff]
  constructor
  · rintro ⟨u, v, rfl, hu, hv⟩
    obtain rfl : u = ['/', '/'] := matches_word_iff.1 hu
    refine ⟨List.prefix_append _ v, hslashes.trans ?_⟩
    clear hu
    generalize hq : Pattern.star _ = q at hv
    induction hv with
    | stop => rfl
    | again hu _ _ ih =>
      cases hq
      have hv := ih rfl
      rw [staysOnLine_append, staysOnLine_of_round hu, hv, Bool.and_self]
      all_goals
        rintro t rfl
        cases hv
    | _ => cases hq
  · rintro ⟨⟨x, rfl⟩, hx⟩
    rw [hslashes] at hx
    refine ⟨['/', '/'], x, rfl, matches_word_iff.2 rfl, ?_⟩
    fun_induction staysOnLine x with
    | case1 => exact .stop
    | case2 rest ih =>
      have hround : Matches (chain [char '\\', opt (char '\r'), char '\n']) ['\\', '\n'] := by
        decide
      exact .again (.right (.left hround)) (ih hx)
    | case3 rest ih =>
      have hround : Matches (chain [char '\\', opt (char '\r'), char '\n'])
          ['\\', '\r', '\n'] := by
        decide
      exact .again (.right (.left hround)) (ih hx)
    | case4 c rest _ _ ih =>
      simp only [Bool.and_eq_true, bne_iff_ne] at hx
      obtain ⟨⟨hcr, hlf⟩, hx⟩ := hx
      by_cases hslash : c = '\\'
      · subst hslash
        exact .again (.right (.right (.right (matches_char_iff.2 rfl)))) (ih hx)
      · refine .again (.left (matches_one_iff.2 ⟨c, CharSet.contains_noneOf_iff.2 ?_, rfl⟩)) (ih hx)
        simpa using ⟨hcr, hlf, hslash⟩

/-! ### Block comments -/

/-- The end of a block comment stands further on if the character here is not its first one. -/
theorem closes_cons_iff (hc : c ≠ '*') : ['*', '/'] <:+: c :: w ↔ ['*', '/'] <:+: w := by
  rw [List.infix_cons_iff, List.cons_prefix_cons, or_iff_right]
  exact fun h => hc h.1.symm

/-- It also stands further on if the character here is a star without a slash behind it. -/
theorem closes_stars_iff (hc : c ≠ '/') {n : Nat} :
    ['*', '/'] <:+: List.replicate n '*' ++ c :: w ↔ ['*', '/'] <:+: c :: w := by
  induction n with
  | zero => rfl
  | succ n ih =>
    rw [List.replicate_succ, List.cons_append, List.infix_cons_iff, ih, or_iff_right]
    intro h
    have hslash := (List.cons_prefix_cons.1 h).2
    cases n with
    | zero => exact hc (List.cons_prefix_cons.1 hslash).1.symm
    | succ n => exact absurd (List.cons_prefix_cons.1 hslash).1 (by decide)

/-- Stars alone close nothing. -/
theorem not_closes_stars (n : Nat) : ¬ ['*', '/'] <:+: List.replicate n '*' := by
  intro h
  have hmem := h.subset (List.mem_cons_of_mem '*' (List.mem_singleton_self '/'))
  exact absurd (List.eq_of_mem_replicate hmem) (by decide)

/-- What may stand in a block comment does not close it. -/
theorem Matches.closes_append_iff (h : Matches blockCommentBody w) {t : List Char} :
    ['*', '/'] <:+: w ++ t ↔ ['*', '/'] <:+: t := by
  rw [blockCommentBody] at h
  generalize hq : Pattern.star _ = q at h
  induction h with
  | stop => rfl
  | @again _ u v hu _ _ ih =>
    cases hq
    rw [List.append_assoc, ← ih rfl]
    rcases matches_alt_iff.1 hu with hu | hu
    · obtain ⟨c, hc, rfl⟩ := matches_one_iff.1 hu
      exact closes_cons_iff fun heq => CharSet.contains_noneOf_iff.1 hc (heq ▸ by decide)
    · obtain ⟨x, y, rfl, hx, hy⟩ := matches_seq_iff.1 hu
      obtain ⟨n, rfl⟩ := matches_plus_char_iff.1 hx
      obtain ⟨c, hc, rfl⟩ := matches_one_iff.1 hy
      have hnot := CharSet.contains_noneOf_iff.1 hc
      have hslash : c ≠ '/' := fun heq => hnot (heq ▸ by decide)
      rw [List.append_assoc, List.singleton_append, closes_stars_iff hslash]
      exact closes_cons_iff fun heq => hnot (heq ▸ by decide)
  | _ => cases hq

/-- What does not close a block comment may stand in it, and may end in stars. -/
theorem exists_body_of_not_closes {n : Nat}
    (h : ¬ ['*', '/'] <:+: List.replicate n '*' ++ w) :
    ∃ y k, List.replicate n '*' ++ w = y ++ List.replicate k '*' ∧ Matches blockCommentBody y := by
  induction w generalizing n with
  | nil => exact ⟨[], n, by simp, .stop⟩
  | cons c w ih =>
    -- the stars that were read wait for the character that ends their round
    by_cases hstar : c = '*'
    · have hsplit : List.replicate n '*' ++ c :: w = List.replicate (n + 1) '*' ++ w := by
        rw [hstar, List.replicate_succ', List.append_assoc, List.singleton_append]
      rw [hsplit] at h ⊢
      exact ih h
    · have hround : Matches (alt (one (.noneOf "*")) (seq (plus (char '*')) (one (.noneOf "*/"))))
          (List.replicate n '*' ++ [c]) := by
        cases n with
        | zero =>
          refine .left (matches_one_iff.2 ⟨c, CharSet.contains_noneOf_iff.2 ?_, rfl⟩)
          simpa using hstar
        | succ n =>
          have hslash : c ≠ '/' := by
            rintro rfl
            refine h ⟨List.replicate n '*', w, ?_⟩
            rw [List.replicate_succ']
            simp
          refine .right (.seq (matches_plus_char_iff.2 ⟨n, rfl⟩)
            (matches_one_iff.2 ⟨c, CharSet.contains_noneOf_iff.2 ?_, rfl⟩))
          simpa using ⟨hstar, hslash⟩
      have hsplit : List.replicate n '*' ++ c :: w = (List.replicate n '*' ++ [c]) ++ w := by simp
      rw [hsplit] at h ⊢
      obtain ⟨y, k, hw, hy⟩ := ih (n := 0) fun hin =>
        h (hin.trans (List.suffix_append _ w).isInfix)
      rw [show w = y ++ List.replicate k '*' from hw]
      exact ⟨(List.replicate n '*' ++ [c]) ++ y, k, by simp, .again hround hy⟩

/-- **The words of an open block comment**: the opening, and anything without the closing. -/
theorem matches_openBlockComment_iff :
    Matches openBlockComment w ↔ ∃ x, w = '/' :: '*' :: x ∧ ¬ ['*', '/'] <:+: x := by
  change Matches (seq (word "/*") (seq blockCommentBody (star (char '*')))) w ↔ _
  rw [matches_seq_iff]
  constructor
  · rintro ⟨u, v, rfl, hu, hv⟩
    obtain ⟨y, z, rfl, hy, hz⟩ := matches_seq_iff.1 hv
    obtain ⟨n, rfl⟩ := matches_star_char_iff.1 hz
    refine ⟨y ++ List.replicate n '*', by rw [matches_word_iff.1 hu]; rfl, ?_⟩
    rw [hy.closes_append_iff]
    exact not_closes_stars n
  · rintro ⟨x, rfl, hx⟩
    obtain ⟨y, k, hxy, hy⟩ := exists_body_of_not_closes (n := 0) hx
    rw [show x = y ++ List.replicate k '*' from hxy]
    exact ⟨['/', '*'], _, rfl, matches_word_iff.2 rfl, .seq hy (matches_star_char_iff.2 ⟨k, rfl⟩)⟩

/-- **The words of a block comment that is closed**: the opening, and anything with the closing at
its end and nowhere before. -/
theorem matches_blockComment_iff :
    Matches blockComment w ↔
      ∃ x, w = '/' :: '*' :: (x ++ ['*', '/']) ∧ ¬ ['*', '/'] <:+: x ++ ['*'] := by
  change Matches (seq (word "/*") (seq blockCommentBody (seq (plus (char '*')) (char '/')))) w ↔ _
  rw [matches_seq_iff]
  constructor
  · rintro ⟨u, v, rfl, hu, hv⟩
    obtain ⟨y, z, rfl, hy, hz⟩ := matches_seq_iff.1 hv
    obtain ⟨a, b, rfl, ha, hb⟩ := matches_seq_iff.1 hz
    obtain ⟨n, rfl⟩ := matches_plus_char_iff.1 ha
    refine ⟨y ++ List.replicate n '*', ?_, ?_⟩
    · rw [matches_word_iff.1 hu, matches_char_iff.1 hb, List.replicate_succ']
      simp
    · rw [List.append_assoc, ← List.replicate_succ', hy.closes_append_iff]
      exact not_closes_stars (n + 1)
  · rintro ⟨x, rfl, hx⟩
    obtain ⟨y, k, hxy, hy⟩ := exists_body_of_not_closes (n := 0) hx
    have hsplit : x ++ ['*', '/'] = y ++ (List.replicate k '*' ++ ['/']) := by
      rw [List.append_cons, ← List.append_assoc, ← hxy]
      rfl
    rw [hsplit]
    cases k with
    | zero =>
      -- the body would end in the star that closes it
      have hclosed : ['*', '/'] <:+: y ++ ['/'] := by
        have hend : y ++ ['/'] = x ++ ['*', '/'] := by simpa using hsplit.symm
        exact hend ▸ (List.suffix_append x _).isInfix
      exact absurd (hy.closes_append_iff.1 hclosed) (by decide)
    | succ k =>
      exact ⟨['/', '*'], _, rfl, matches_word_iff.2 rfl,
        .seq hy (.seq (matches_plus_char_iff.2 ⟨k, rfl⟩) (matches_char_iff.2 rfl))⟩

/-! ### Strings -/

/-- Whether no quote closes the string when some characters are read from behind its opening quote
on. A backslash takes the next character with it. -/
def staysOpen : List Char → Bool
  | [] => true
  | '\\' :: _ :: rest => staysOpen rest
  | c :: rest => c != '"' && staysOpen rest

theorem staysOpen_cons (hc : c ≠ '\\') : staysOpen (c :: w) = (c != '"' && staysOpen w) :=
  staysOpen.eq_3 c w fun _ _ h _ => hc h

/-- What may stand in a string does not close it. -/
theorem Matches.staysOpen_append (h : Matches stringBody w) {t : List Char} :
    staysOpen (w ++ t) = staysOpen t := by
  rw [stringBody] at h
  generalize hq : Pattern.star _ = q at h
  induction h with
  | stop => rfl
  | @again _ u v hu _ _ ih =>
    cases hq
    rw [List.append_assoc, ← ih rfl]
    rcases matches_alt_iff.1 hu with hu | hu
    · obtain ⟨c, hc, rfl⟩ := matches_one_iff.1 hu
      have hnot := CharSet.contains_noneOf_iff.1 hc
      have hquote : c ≠ '"' := fun heq => hnot (heq ▸ by decide)
      have hslash : c ≠ '\\' := fun heq => hnot (heq ▸ by decide)
      rw [List.singleton_append, staysOpen_cons hslash, bne_iff_ne.2 hquote, Bool.true_and]
    · obtain ⟨x, y, rfl, hx, hy⟩ := matches_seq_iff.1 hu
      obtain ⟨c, -, rfl⟩ := matches_one_iff.1 hy
      rw [matches_char_iff.1 hx]
      rfl
  | _ => cases hq

/-- What does not close a string may stand in it, and may end in a backslash. -/
theorem exists_body_of_staysOpen (h : staysOpen w = true) :
    ∃ y z, w = y ++ z ∧ Matches stringBody y ∧ Matches (opt (char '\\')) z := by
  fun_induction staysOpen w with
  | case1 => exact ⟨[], [], rfl, .stop, .right .blank⟩
  | case2 c rest ih =>
    obtain ⟨y, z, rfl, hy, hz⟩ := ih h
    refine ⟨'\\' :: c :: y, z, rfl, ?_, hz⟩
    exact .again (.right (.seq (matches_char_iff.2 rfl) (matches_one_iff.2 ⟨c, rfl, rfl⟩))) hy
  | case3 c rest hlone ih =>
    rw [Bool.and_eq_true, bne_iff_ne] at h
    by_cases hslash : c = '\\'
    · -- a backslash that takes nothing with it is the last character
      cases rest with
      | nil => exact ⟨[], [c], rfl, .stop, .left (hslash ▸ matches_char_iff.2 rfl)⟩
      | cons d rest => exact absurd rfl (hlone d rest hslash)
    · obtain ⟨y, z, rfl, hy, hz⟩ := ih h.2
      refine ⟨c :: y, z, rfl, ?_, hz⟩
      refine .again (.left (matches_one_iff.2 ⟨c, CharSet.contains_noneOf_iff.2 ?_, rfl⟩)) hy
      simpa using ⟨h.1, hslash⟩

/-- **The words of an open string**: a quote, and anything that does not close it. -/
theorem matches_openString_iff :
    Matches openString w ↔ ∃ x, w = '"' :: x ∧ staysOpen x = true := by
  change Matches (seq (char '"') (seq stringBody (opt (char '\\')))) w ↔ _
  rw [matches_seq_iff]
  constructor
  · rintro ⟨u, v, rfl, hu, hv⟩
    obtain ⟨y, z, rfl, hy, hz⟩ := matches_seq_iff.1 hv
    refine ⟨y ++ z, by rw [matches_char_iff.1 hu]; rfl, ?_⟩
    rw [hy.staysOpen_append]
    rcases matches_alt_iff.1 hz with hz | hz
    · rw [matches_char_iff.1 hz]
      rfl
    · rw [matches_blank_iff.1 hz]
      rfl
  · rintro ⟨x, rfl, hx⟩
    obtain ⟨y, z, rfl, hy, hz⟩ := exists_body_of_staysOpen hx
    exact ⟨['"'], y ++ z, rfl, matches_char_iff.2 rfl, .seq hy hz⟩

/-- **The words of a string that is closed**: a quote, and anything that is closed by its last
character, which is a quote, and not before. -/
theorem matches_string_iff :
    Matches string w ↔
      ∃ x, w = '"' :: (x ++ ['"']) ∧ staysOpen x = true ∧ staysOpen (x ++ ['"']) = false := by
  change Matches (seq (char '"') (seq stringBody (char '"'))) w ↔ _
  rw [matches_seq_iff]
  constructor
  · rintro ⟨u, v, rfl, hu, hv⟩
    obtain ⟨y, z, rfl, hy, hz⟩ := matches_seq_iff.1 hv
    refine ⟨y, by rw [matches_char_iff.1 hu, matches_char_iff.1 hz]; rfl, ?_, ?_⟩
    · simpa [staysOpen] using hy.staysOpen_append (t := [])
    · rw [hy.staysOpen_append]
      rfl
  · rintro ⟨x, rfl, hx, hclosed⟩
    obtain ⟨y, z, rfl, hy, hz⟩ := exists_body_of_staysOpen hx
    refine ⟨['"'], _, rfl, matches_char_iff.2 rfl, ?_⟩
    rcases matches_alt_iff.1 hz with hz | hz
    · -- a backslash at the end would take the quote with it
      rw [matches_char_iff.1 hz, List.append_assoc, hy.staysOpen_append] at hclosed
      cases hclosed
    · rw [matches_blank_iff.1 hz, List.append_nil]
      exact .seq hy (matches_char_iff.2 rfl)

/-! ### Patterns without a common word -/

/-- Whether two patterns are known to have no word in common: by how their words start, or by a
comparison of all of them. -/
def toldApart (p q : Pattern) : Bool :=
  p.apart q ||
    match p.words?, q.words? with
    | some us, some vs => us.all (· ∉ vs)
    | _, _ => false

theorem not_matches_of_toldApart (h : p.toldApart q = true) (hw : w ≠ []) (hp : Matches p w) :
    ¬ Matches q w := by
  intro hq
  rcases Bool.or_eq_true_iff.1 h with h | h
  · cases w with
    | nil => exact hw rfl
    | cons c w => exact not_matches_of_apart h hp hq
  · split at h
    · next us vs hus hvs =>
      have hnot := List.all_eq_true.1 h w (hp.mem_words hus)
      exact of_decide_eq_true hnot (hq.mem_words hvs)
    · cases h

end Pattern

/-! ### The class of a word -/

namespace LexClass

/-- The words that look like identifiers and are none: the keywords and the lone `_`. -/
def Outranks (kind : LexClass) (word : List Char) : Prop :=
  match kind with
  | keywordControl | keywordType | keywordOther => True
  | operator => word = ['_']
  | _ => False

end LexClass

open Pattern

variable {d e : LexClass × Pattern} {w : List Char}

/-- The classes whose words start alike and cannot be enumerated. -/
def lookalikes : List ((LexClass × Pattern) × (LexClass × Pattern)) :=
  [((.lineComment, .lineComment), (.blockComment, .blockComment)),
   ((.lineComment, .lineComment), (.openBlockComment, .openBlockComment)),
   ((.blockComment, .blockComment), (.openBlockComment, .openBlockComment)),
   ((.string, .string), (.openString, .openString)),
   ((.keywordControl, .keywordControl), (.identifier, .identifier)),
   ((.keywordType, .keywordType), (.identifier, .identifier)),
   ((.keywordOther, .keywordOther), (.identifier, .identifier)),
   ((.operator, .operator), (.identifier, .identifier))]

/-- All other classes have no word in common. -/
theorem toldApart_or_mem_lookalikes : ∀ d ∈ lexicon, ∀ e ∈ lexicon,
    d.1 = e.1 ∨ d.2.toldApart e.2 = true ∨ (d, e) ∈ lookalikes ∨ (e, d) ∈ lookalikes := by
  decide

/-- No word of the lexicon is empty. -/
theorem ne_nil_of_matches (he : e ∈ lexicon) (h : e.2.Matches w) : w ≠ [] := by
  rintro rfl
  have hnull : ∀ e ∈ lexicon, e.2.nullable = false := by decide
  rw [← nullable_iff, hnull e he] at h
  cases h

/-- The only operator that looks like an identifier. -/
theorem eq_of_matches_operator (hop : operator.Matches w) (hid : identifier.Matches w) :
    w = ['_'] := by
  have hall : ∀ w ∈ operator.words?.getD [], identifier.accepts w = true → w = ['_'] := by
    decide
  exact hall w (hop.mem_words rfl) (accepts_iff.2 hid)

/-- Classes whose words start alike have a word in common only if it is an identifier and something
that outranks it. -/
theorem outranks_of_mem_lookalikes (h : (d, e) ∈ lookalikes) (hd : d.2.Matches w)
    (he : e.2.Matches w) : e.1 = .identifier ∧ d.1.Outranks w := by
  have hline : lineComment.Matches w → ∀ x, w ≠ '/' :: '*' :: x := by
    rintro h x rfl
    obtain ⟨⟨y, hy⟩, -⟩ := matches_lineComment_iff.1 h
    cases hy
  simp only [lookalikes, List.mem_cons, Prod.mk.injEq, List.not_mem_nil, or_false] at h
  rcases h with ⟨rfl, rfl⟩ | ⟨rfl, rfl⟩ | ⟨rfl, rfl⟩ | ⟨rfl, rfl⟩ | ⟨rfl, rfl⟩ | ⟨rfl, rfl⟩ |
    ⟨rfl, rfl⟩ | ⟨rfl, rfl⟩
  · obtain ⟨x, hx, -⟩ := matches_blockComment_iff.1 he
    exact absurd hx (hline hd _)
  · obtain ⟨x, hx, -⟩ := matches_openBlockComment_iff.1 he
    exact absurd hx (hline hd x)
  · obtain ⟨x, rfl, -⟩ := matches_blockComment_iff.1 hd
    obtain ⟨y, hy, hopen⟩ := matches_openBlockComment_iff.1 he
    cases hy
    exact absurd (List.suffix_append x ['*', '/']).isInfix hopen
  · obtain ⟨x, rfl, -, hclosed⟩ := matches_string_iff.1 hd
    obtain ⟨y, hy, hopen⟩ := matches_openString_iff.1 he
    cases hy
    exact absurd (hopen.symm.trans hclosed) (by decide)
  · exact ⟨rfl, trivial⟩
  · exact ⟨rfl, trivial⟩
  · exact ⟨rfl, trivial⟩
  · exact ⟨rfl, eq_of_matches_operator hd he⟩

/-- **No word is in two classes**, but for the words that outrank the identifiers. -/
theorem eq_or_outranks_of_matches (hd : d ∈ lexicon) (he : e ∈ lexicon) (hdw : d.2.Matches w)
    (hew : e.2.Matches w) :
    d.1 = e.1 ∨ (e.1 = .identifier ∧ d.1.Outranks w) ∨ (d.1 = .identifier ∧ e.1.Outranks w) := by
  rcases toldApart_or_mem_lookalikes d hd e he with h | h | h | h
  · exact .inl h
  · exact absurd hew (not_matches_of_toldApart h (ne_nil_of_matches hd hdw) hdw)
  · exact .inr (.inl (outranks_of_mem_lookalikes h hdw hew))
  · exact .inr (.inr (outranks_of_mem_lookalikes h hew hdw))

/-- What outranks an identifier comes before it in the lexicon. -/
theorem classOf?_ne_identifier (he : e ∈ lexicon) (hew : e.2.Matches w)
    (hkind : e.1 ≠ .identifier) : classOf? w ≠ some .identifier := by
  have hlast : lexicon = lexicon.dropLast ++ [(.identifier, .identifier)] := rfl
  have hinit : ∀ d ∈ lexicon.dropLast, d.1 ≠ .identifier := by decide
  rw [hlast, List.mem_append, List.mem_singleton] at he
  obtain he | rfl := he
  · intro hclass
    rw [classOf?, hlast, List.find?_append] at hclass
    cases hfind : lexicon.dropLast.find? fun e => e.2.accepts w with
    | none => exact List.find?_eq_none.1 hfind e he (accepts_iff.2 hew)
    | some d =>
      rw [hfind] at hclass
      exact hinit d (List.mem_of_find?_eq_some hfind) (Option.some.inj hclass)
  · exact absurd rfl hkind

/-- **The class that a word is given is the only one it is in**, unless it outranks an
identifier. -/
theorem eq_or_outranks_of_classOf? {kind : LexClass} (h : classOf? w = some kind)
    (he : e ∈ lexicon) (hew : e.2.Matches w) :
    e.1 = kind ∨ e.1 = .identifier ∧ kind.Outranks w := by
  obtain ⟨p, hp, hpw⟩ := exists_matches_of_classOf? h
  rcases eq_or_outranks_of_matches hp he hpw hew with heq | hout | ⟨hid, hout⟩
  · exact .inl heq.symm
  · exact .inr hout
  · obtain rfl : kind = .identifier := hid
    refine absurd h (classOf?_ne_identifier he hew fun hid' => ?_)
    rw [hid'] at hout
    exact hout

/-- The words of a class are those that are given it, unless they are identifiers. -/
theorem classOf?_eq_some_iff {kind : LexClass} {p : Pattern} (hp : (kind, p) ∈ lexicon)
    (hkind : kind ≠ .identifier) : classOf? w = some kind ↔ p.Matches w := by
  have hinj : ∀ d ∈ lexicon, ∀ e ∈ lexicon, d.1 = e.1 → d = e := by decide
  constructor
  · intro h
    obtain ⟨q, hq, hqw⟩ := exists_matches_of_classOf? h
    have heq := hinj _ hq _ hp rfl
    exact (Prod.mk.inj heq).2 ▸ hqw
  · intro hw
    cases h : classOf? w with
    | none => exact absurd hw (classOf?_eq_none_iff.1 h (kind, p) hp)
    | some k =>
      rcases eq_or_outranks_of_classOf? h hp hw with heq | ⟨hid, -⟩
      · exact congrArg some heq.symm
      · exact absurd hid hkind

theorem classOf?_eq_whitespace_iff :
    classOf? w = some .whitespace ↔ w ≠ [] ∧ ∀ c ∈ w, blanks.contains c = true := by
  rw [← matches_whitespace_iff]
  exact classOf?_eq_some_iff (by decide) (by decide)

end SailNav
