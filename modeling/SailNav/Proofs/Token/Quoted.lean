import SailNav.Proofs.Token.Delimited
import SailNav.Proofs.Token.Piece

/-!
# Paths in quotes

What starts with a quote is read in two ways. In an include region it is a path, and ends with its
line if nothing closes it before. Everywhere else it is a string, the longest word that the lexicon
finds, and goes on over any number of lines. Both take a backslash together with the character
behind it, but only the string takes a line feed like this.

So the two agree on what lies on one line (`SailNav.Include.quotedPath_exact`): a path is closed
exactly if the text starts with a string without a line feed, and is this string. It does not matter
that the path ends with the first quote that closes it and the string is the longest word, since no
string starts another one (`SailNav.Pattern.eq_of_prefix_of_string`) or an open one
(`SailNav.Pattern.not_string_prefix_openString`).
-/

namespace SailNav

/-! ### The strings that a text starts with -/

namespace Pattern

variable {u v : List Char}

/-- What starts with a string is not open. -/
theorem not_string_prefix_openString (hu : string.Matches u) (hv : openString.Matches v) :
    ¬ u <+: v := by
  obtain ⟨x, rfl, -, hclosed⟩ := matches_string_iff.1 hu
  obtain ⟨y, rfl, hopen⟩ := matches_openString_iff.1 hv
  intro hstarts
  obtain ⟨t, rfl⟩ := (List.cons_prefix_cons.1 hstarts).2
  rw [staysOpen_of_append hopen] at hclosed
  cases hclosed

/-- **No string starts another one.** -/
theorem eq_of_prefix_of_string (hu : string.Matches u) (hv : string.Matches v) (h : u <+: v) :
    u = v := by
  obtain ⟨y, rfl, hopen, -⟩ := matches_string_iff.1 hv
  obtain ⟨t, ht⟩ := h
  by_cases hnil : t = []
  · rw [hnil, List.append_nil] at ht
    exact ht
  · -- the longer one is open until its last character
    have hstarts : u <+: '"' :: y := prefix_of_append_eq_concat ht hnil
    have hbefore : openString.Matches ('"' :: y) := matches_openString_iff.2 ⟨y, rfl, hopen⟩
    exact absurd hstarts (not_string_prefix_openString hu hbefore)

/-- So a text starts with one string at most. -/
theorem eq_of_strings {text : List Char} (hu : string.Matches u) (hv : string.Matches v)
    (hut : u <+: text) (hvt : v <+: text) : u = v := by
  rcases List.prefix_or_prefix_of_prefix hut hvt with h | h
  · exact eq_of_prefix_of_string hu hv h
  · exact (eq_of_prefix_of_string hv hu h).symm

end Pattern

open Pattern

/-- **A string is the next word wherever it stands**, whatever follows it. -/
theorem isLongestWord_string_iff {text : List Char} {w : LexWord} (hkind : w.kind = .string) :
    IsLongestWord text w ↔ w.taken ++ w.rest = text ∧ string.Matches w.taken := by
  have hmem : (LexClass.string, string) ∈ lexicon := by decide
  have hclass : classOf? w.taken = some w.kind ↔ string.Matches w.taken := by
    rw [hkind, classOf?_eq_some_iff hmem (by decide)]
  constructor
  · exact fun h => ⟨h.append, hclass.1 h.class_eq⟩
  · rintro ⟨happend, h⟩
    refine ⟨happend, ne_nil_of_matches hmem h, hclass.2 h, fun u more _ hne => ?_⟩
    rw [classOf?_eq_none_iff]
    intro e he hlonger
    have hstarts : w.taken <+: w.taken ++ u := List.prefix_append w.taken u
    have hcases : ∀ d ∈ lexicon, string.apart d.2 = false →
        d = (.string, string) ∨ d = (.openString, openString) := by
      decide
    have hapart : string.apart e.2 = false := by
      obtain ⟨x, hx, -⟩ := matches_string_iff.1 h
      rw [hx] at h hlonger
      exact Bool.eq_false_iff.2 fun hapart => not_matches_of_apart hapart h hlonger
    obtain rfl | rfl := hcases e he hapart
    · have heq := eq_of_prefix_of_string h hlonger hstarts
      exact hne (List.append_right_eq_self.1 heq.symm)
    · exact not_string_prefix_openString h hlonger hstarts

namespace Include

/-! ### A path in quotes -/

variable {taken behind : List Char}

/-- A path that starts with a quote is closed as a string is, or open up to the end of its line. -/
theorem IsPath.cases_of_quote {rest : List Char} {unterminated : Bool}
    (h : IsPath taken behind unterminated) (happend : taken ++ behind = '"' :: rest) :
    unterminated = false ∧ string.Matches taken ∨
      unterminated = true ∧ openString.Matches taken ∧ AtLineEnd behind := by
  cases h with
  | quoted body behind _ hopen hclosed =>
    exact .inl ⟨rfl, matches_string_iff.2 ⟨body, rfl, hopen, hclosed⟩⟩
  | unclosed body behind _ hopen hend =>
    exact .inr ⟨rfl, matches_openString_iff.2 ⟨body, rfl, hopen⟩, hend⟩
  | angle body behind => cases happend

/-- **A string goes on behind an open path over a line feed only.** -/
theorem mem_of_openPath {word : List Char} (htaken : openString.Matches taken)
    (hend : AtLineEnd behind) (hword : string.Matches word) (hstarts : word <+: taken ++ behind) :
    '\n' ∈ word := by
  obtain ⟨m, rfl⟩ : taken <+: word :=
    (List.prefix_or_prefix_of_prefix hstarts (List.prefix_append taken behind)).resolve_left
      (not_string_prefix_openString hword htaken)
  have hm : m <+: behind := (List.prefix_append_right_inj taken).1 hstarts
  refine List.mem_append_right taken ?_
  cases m with
  | nil =>
    rw [List.append_nil] at hword
    exact absurd List.prefix_rfl (not_string_prefix_openString hword htaken)
  | cons c m =>
    rcases hend with rfl | ⟨t, rfl⟩ | ⟨t, rfl⟩
    · cases List.prefix_nil.1 hm
    · rw [(List.cons_prefix_cons.1 hm).1]
      exact List.mem_cons_self
    · obtain ⟨rfl, hmore⟩ := List.cons_prefix_cons.1 hm
      clear hm
      cases m with
      | nil =>
        -- a string ends with a quote and not with a carriage return
        obtain ⟨x, hx, -⟩ := matches_string_iff.1 hword
        rw [← List.cons_append] at hx
        cases (List.append_inj' hx rfl).2
      | cons d m =>
        rw [(List.cons_prefix_cons.1 hmore).1]
        exact List.mem_cons_of_mem _ List.mem_cons_self

/-- **A path in quotes is closed exactly if it is a string on one line**, and no other string on
one line stands there. -/
theorem IsPath.string_iff {rest word : List Char} {unterminated : Bool}
    (h : IsPath taken behind unterminated) (happend : taken ++ behind = '"' :: rest) :
    word <+: '"' :: rest ∧ string.Matches word ∧ '\n' ∉ word ↔
      unterminated = false ∧ word = taken := by
  have hstart : taken <+: '"' :: rest := ⟨behind, happend⟩
  constructor
  · rintro ⟨hstarts, hword, hline⟩
    rcases h.cases_of_quote happend with ⟨hclosed, hstring⟩ | ⟨-, hopen, hend⟩
    · exact ⟨hclosed, eq_of_strings hword hstring hstarts hstart⟩
    · rw [← happend] at hstarts
      exact absurd (mem_of_openPath hopen hend hword hstarts) hline
  · rintro ⟨hclosed, rfl⟩
    rcases h.cases_of_quote happend with ⟨-, hstring⟩ | ⟨hopen, -⟩
    · exact ⟨hstart, hstring, h.not_mem⟩
    · cases hopen.symm.trans hclosed

/-- The same in terms of the word that is read outside of regions. -/
theorem IsPath.longest_iff {rest : List Char} {w : LexWord} {unterminated : Bool}
    (h : IsPath taken behind unterminated) (happend : taken ++ behind = '"' :: rest) :
    longestWord? ('"' :: rest) = some w ∧ w.kind = .string ∧ '\n' ∉ w.taken ↔
      unterminated = false ∧ w = ⟨.string, taken, behind⟩ := by
  rw [longestWord?_eq_some_iff]
  constructor
  · rintro ⟨hw, hkind, hline⟩
    obtain ⟨hcut, hword⟩ := (isLongestWord_string_iff hkind).1 hw
    obtain ⟨hclosed, htaken⟩ := (h.string_iff happend).1 ⟨⟨w.rest, hcut⟩, hword, hline⟩
    have hrest : w.rest = behind := by
      rw [← happend, htaken] at hcut
      exact List.append_cancel_left hcut
    exact ⟨hclosed, by rw [← hkind, ← htaken, ← hrest]⟩
  · rintro ⟨hclosed, rfl⟩
    obtain ⟨-, hword, hline⟩ := (h.string_iff happend).2 ⟨hclosed, rfl⟩
    exact ⟨(isLongestWord_string_iff rfl).2 ⟨happend, hword⟩, rfl, hline⟩

/-- **How a text that starts with a quote is cut** into a piece and what follows it. The piece has
at least one byte and no line feed, it ends between two characters, and if nothing closes it the
line ends behind it. It is closed exactly if the text starts with a string on one line. Then it is
this string, and this string is the word that the lexicon finds there. -/
structure IsQuoted (text : String) (p : Piece) : Prop where
  kind : p.kind = .path ∨ p.kind = .openPath
  append : text.toList = p.taken ++ p.rest
  one_le : 1 ≤ Text.byteLength p.taken
  le : Text.byteLength p.taken ≤ text.utf8ByteSize
  isValid : (⟨Text.byteLength p.taken⟩ : String.Pos.Raw).IsValid text
  notMem : '\n' ∉ p.taken
  ends : p.kind = .openPath → AtLineEnd p.rest
  string_iff : ∀ word, word <+: text.toList ∧ Pattern.string.Matches word ∧ '\n' ∉ word ↔
    p.kind = .path ∧ word = p.taken
  longest_iff : ∀ w, longestWord? text.toList = some w ∧ w.kind = .string ∧ '\n' ∉ w.taken ↔
    p.kind = .path ∧ w = ⟨.string, p.taken, p.rest⟩

/-- What is read of a path in quotes is a path, and no filler. -/
theorem quotedPath_kind_cases (taken text : List Char) :
    (quotedPath taken text).kind = .path ∨ (quotedPath taken text).kind = .openPath := by
  have hne := quotedPath_kind_ne_filler taken text
  cases hkind : (quotedPath taken text).kind with
  | path => exact .inl rfl
  | openPath => exact .inr rfl
  | filler => exact absurd hkind hne

/-- **What is read behind a quote is the next piece of a region, and cuts the text as a path in
quotes does**, whatever the text is. -/
theorem quotedPath_exact (rest : String) :
    let read := quotedPath ['"'] rest.toList
    let p : Piece := ⟨read.kind, read.taken.reverse, read.rest⟩
    piece? ("\"" ++ rest).toList = some p ∧ IsQuoted ("\"" ++ rest) p := by
  intro read p
  have htext : ("\"" ++ rest).toList = '"' :: rest.toList := by simp
  have hp : piece? ('"' :: rest.toList) = some p := piece?_cons (by decide) rfl
  have hkind : p.kind = .path ∨ p.kind = .openPath := quotedPath_kind_cases ['"'] rest.toList
  have hpath : IsPath p.taken p.rest (p.kind == .openPath) := quotedPath_isPath rfl .nil
  obtain ⟨hne, happend⟩ := piece?_append hp
  have hsplit : "\"" ++ rest = String.ofList p.taken ++ String.ofList p.rest := by
    rw [← String.ofList_append, happend, ← htext, String.ofList_toList]
  have hsize : (String.ofList p.taken).utf8ByteSize = Text.byteLength p.taken :=
    Text.utf8ByteSize_ofList p.taken
  have hspells : (⟨0, Text.byteLength p.taken⟩ : Span).Spells ("\"" ++ rest)
      (String.ofList p.taken) :=
    ⟨"", String.ofList p.rest, by rw [hsplit, String.empty_append], rfl, by simp [hsize]⟩
  have hclosed : (p.kind == .openPath) = false ↔ p.kind = .path := by
    rcases hkind with hkind | hkind <;> simp [hkind]
  refine ⟨htext ▸ hp, hkind, htext.trans happend.symm, ?_, ?_, hspells.isValid_stop,
    hpath.not_mem, fun hopen => ?_, fun word => ?_, fun w => ?_⟩
  · exact Nat.pos_of_ne_zero (mt Text.byteLength_eq_zero.1 hne)
  · rw [hsplit, String.utf8ByteSize_append, hsize]
    exact Nat.le_add_right ..
  · rcases hpath.cases_of_quote happend with ⟨hfalse, -⟩ | ⟨-, -, hend⟩
    · rw [hopen] at hfalse
      cases hfalse
    · exact hend
  · rw [htext, hpath.string_iff happend, hclosed]
  · rw [htext, hpath.longest_iff happend, hclosed]

/-- A backslash takes the carriage return with it, but not the line feed behind it. So nothing
closes the path, and it ends in front of both. -/
example : piece? "\"a\\\r\nb\"".toList = some ⟨.openPath, "\"a\\".toList, "\r\nb\"".toList⟩ := by
  decide

end Include

end SailNav
