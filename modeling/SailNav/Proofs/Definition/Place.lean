import SailNav.Definition.Extract
import SailNav.Proofs.Definition.Step
import SailNav.Proofs.Token.Cursor

/-!
# Definitions place by place

The significant tokens of a stream are its *words*, and the number of a word is its *place*. The
definitions are found word by word: reading a word finds one definition or none, and what it finds
depends on the window of the word and on how far the reading of members has come before it
(`SailNav.TokenStream.found?`). The definitions of the stream are what is found at its places, in
order (`SailNav.extract_eq_filterMap`).

A window was put together from what had been read, and is here told by what stands where
(`SailNav.Window.At`).

A definition tells by itself at which place it was found, since it starts behind the word before the
place and not behind the word itself (`SailNav.Definition.FoundAt`). For the name of an operator this
is all that can be said: it may start with filler in front of the word, and stop long behind it.
-/

namespace SailNav

/-- The significant tokens of a stream, in order. -/
def TokenStream.words (s : TokenStream) : List Token := s.tokens.filter (!·.isTrivia)

/-- The word before a place, if there is one. -/
def TokenStream.wordBefore (s : TokenStream) : Nat → Option Token
  | 0 => none
  | p + 1 => s.words[p]?

/-! ### The window of a place -/

namespace Window

/-- **The window of a place** among some tokens. It is the first, or there is a word before it. -/
inductive At (tokens : List Token) : Nat → Window → Prop
  | first {gap following : List Token} {t : Token} (hgap : ∀ u ∈ gap, u.isTrivia = true)
      (ht : t.isTrivia = false) (htokens : tokens = gap ++ t :: following) :
      At tokens 0 ⟨t, none, none, following⟩
  | next {front gap following : List Token} {u t : Token} (hu : u.isTrivia = false)
      (hgap : ∀ v ∈ gap, v.isTrivia = true) (ht : t.isTrivia = false)
      (htokens : tokens = front ++ u :: (gap ++ t :: following)) :
      At tokens ((front.filter (!·.isTrivia)).length + 1)
        ⟨t, some (u, gap ++ t :: following), (front.filter (!·.isTrivia)).getLast?, following⟩

/-- What is known of the tokens before a window: the last word, with what follows it, and the word
before that. -/
inductive Knows (before rest : List Token) : Option Token → Option (Token × List Token) → Prop
  | nothing (hbefore : ∀ u ∈ before, u.isTrivia = true) : Knows before rest none none
  | upTo {front gap : List Token} {u : Token} (hu : u.isTrivia = false)
      (hgap : ∀ v ∈ gap, v.isTrivia = true) (hbefore : before = front ++ u :: gap) :
      Knows before rest (front.filter (!·.isTrivia)).getLast? (some (u, gap ++ rest))

/-- Tokens that are all trivia have no words. -/
theorem filter_eq_nil {gap : List Token} (h : ∀ v ∈ gap, v.isTrivia = true) :
    gap.filter (!·.isTrivia) = [] :=
  List.filter_eq_nil_iff.2 fun v hv => by simp [h v hv]

/-- What is known stays known behind trivia. -/
theorem Knows.trivia {before rest : List Token} {t : Token} {secondLast : Option Token}
    {last : Option (Token × List Token)} (h : Knows before (t :: rest) secondLast last)
    (ht : t.isTrivia = true) : Knows (before ++ [t]) rest secondLast last := by
  have happend {gap : List Token} (hgap : ∀ v ∈ gap, v.isTrivia = true) :
      ∀ v ∈ gap ++ [t], v.isTrivia = true := by
    intro v hv
    rcases List.mem_append.1 hv with hv | hv
    · exact hgap v hv
    · exact List.mem_singleton.1 hv ▸ ht
  cases h with
  | nothing hbefore => exact .nothing (happend hbefore)
  | @upTo front gap u hu hgap hbefore =>
    have hrest : gap ++ t :: rest = (gap ++ [t]) ++ rest := by simp
    rw [hrest]
    exact .upTo hu (happend hgap) (by simp [hbefore])

/-- A word becomes the last one, and the last one the one before. -/
theorem Knows.word {before rest : List Token} {t : Token} {secondLast : Option Token}
    {last : Option (Token × List Token)} (h : Knows before (t :: rest) secondLast last)
    (ht : t.isTrivia = false) :
    Knows (before ++ [t]) rest (last.map Prod.fst) (some (t, rest)) := by
  have hlast : last.map Prod.fst = (before.filter (!·.isTrivia)).getLast? := by
    cases h with
    | nothing hbefore => rw [filter_eq_nil hbefore]; rfl
    | upTo hu hgap hbefore => simp [hbefore, hu, filter_eq_nil hgap]
  rw [hlast]
  exact .upTo ht (List.forall_mem_nil _) rfl

/-- The window of a word that stands behind what is known. -/
theorem Knows.at {before rest : List Token} {t : Token} {secondLast : Option Token}
    {last : Option (Token × List Token)} (h : Knows before (t :: rest) secondLast last)
    (ht : t.isTrivia = false) :
    At (before ++ t :: rest) (before.filter (!·.isTrivia)).length ⟨t, last, secondLast, rest⟩ := by
  cases h with
  | nothing hbefore =>
    rw [filter_eq_nil hbefore]
    exact .first hbefore ht rfl
  | @upTo front gap u hu hgap hbefore =>
    have hlength : (before.filter (!·.isTrivia)).length =
        (front.filter (!·.isTrivia)).length + 1 := by
      simp [hbefore, hu, filter_eq_nil hgap]
    rw [hlength]
    exact .next hu hgap ht (by simp [hbefore])

theorem at_of_getElem?_collect {before rest : List Token} {secondLast : Option Token}
    {last : Option (Token × List Token)} (h : Knows before rest secondLast last) {p : Nat}
    {w : Window} (hw : (collect [] secondLast last rest).reverse[p]? = some w) :
    At (before ++ rest) ((before.filter (!·.isTrivia)).length + p) w := by
  induction rest generalizing before secondLast last p with
  | nil => cases hw
  | cons t rest ih =>
    have hsplit : before ++ t :: rest = (before ++ [t]) ++ rest := by simp
    rw [collect] at hw
    split at hw
    · next ht =>
      have hat := ih (h.trivia ht) hw
      rw [hsplit]
      simpa [ht] using hat
    · next ht =>
      have ht : t.isTrivia = false := by simpa using ht
      rw [collect_eq, List.reverse_append, List.reverse_singleton, List.singleton_append] at hw
      cases p with
      | zero =>
        obtain rfl := Option.some.inj hw
        exact h.at ht
      | succ p =>
        have hat := ih (h.word ht) hw
        rw [hsplit, Nat.add_comm p, ← Nat.add_assoc]
        simpa [ht] using hat

/-- **The windows of some tokens are those of their places.** -/
theorem at_of_getElem? {tokens : List Token} {p : Nat} {w : Window}
    (h : (ofTokens tokens)[p]? = some w) : At tokens p w := by
  have hnothing : Knows [] tokens none none := .nothing (List.forall_mem_nil _)
  simpa using at_of_getElem?_collect hnothing h

namespace At

variable {s : TokenStream} {p : Nat} {w : Window}

/-- The current token is the word of the place. -/
theorem getElem?_words (h : At s.tokens p w) : s.words[p]? = some w.current := by
  cases h with
  | first hgap ht htokens => simp [TokenStream.words, htokens, filter_eq_nil hgap, ht]
  | next hu hgap ht htokens => simp [TokenStream.words, htokens, hu, ht, filter_eq_nil hgap]

theorem lt_length (h : At s.tokens p w) : p < s.words.length :=
  (List.getElem?_eq_some_iff.1 h.getElem?_words).1

/-- The token before the current one is the word before the place. -/
theorem previous?_eq (h : At s.tokens p w) : w.previous? = s.wordBefore p := by
  cases h with
  | first => rfl
  | next hu hgap ht htokens =>
    simp [TokenStream.wordBefore, TokenStream.words, previous?, htokens, hu]

/-- The token before the last one is the word before the place before. -/
theorem secondLast_eq (h : At s.tokens p w) : w.secondLast = s.wordBefore (p - 1) := by
  cases h with
  | first => rfl
  | @next front gap following u t hu hgap ht htokens =>
    rw [Nat.add_sub_cancel]
    cases hlength : (front.filter (!·.isTrivia)).length with
    | zero => rw [List.length_eq_zero_iff.1 hlength]; rfl
    | succ n =>
      rw [List.getLast?_eq_getElem?, hlength, Nat.add_sub_cancel, TokenStream.wordBefore,
        TokenStream.words, htokens, List.filter_append, List.getElem?_append_left (by omega)]

/-- The token behind the current one is the word behind the place. -/
theorem next?_eq (h : At s.tokens p w) : w.next? = s.words[p + 1]? := by
  cases h with
  | @first gap following t hgap ht htokens =>
    have hwords : s.words = t :: following.filter (!·.isTrivia) := by
      simp [TokenStream.words, htokens, filter_eq_nil hgap, ht]
    rw [hwords, List.getElem?_cons_succ, ← List.head?_eq_getElem?, List.head?_filter]
    rfl
  | @next front gap following u t hu hgap ht htokens =>
    have hwords : s.words =
        (front.filter (!·.isTrivia) ++ [u, t]) ++ following.filter (!·.isTrivia) := by
      simp [TokenStream.words, htokens, hu, ht, filter_eq_nil hgap]
    rw [hwords, List.getElem?_append_right (by simp), List.length_append]
    simp [next?, ← List.head?_eq_getElem?]

end At

end Window

/-! ### What reading a word finds -/

namespace BodyState

/-- Reads the current token of a window, as part of a body or else as the head of a definition, and
gives the definition that it finds. -/
def read (state : BodyState) (w : Window) : BodyState × Option Definition :=
  if (state.step w).consumed then ((state.step w).state, (state.step w).member)
  else ((w.head?.map fun d => idle.afterDefinition d w.current.depth).getD idle, w.head?)

theorem Consumes.read_eq {state next : BodyState} {w : Window} {found : Option Definition}
    (h : Consumes w state next found) : state.read w = (next, found) := by
  rw [read, h.step_eq]
  rfl

/-- **Reading a word consumes it or looks at it as a head.** -/
theorem read_cases (state : BodyState) (w : Window) :
    (∃ next found, Consumes w state next found ∧ state.read w = (next, found)) ∨
      state.read w =
        ((w.head?.map fun d => idle.afterDefinition d w.current.depth).getD idle, w.head?) := by
  rcases step_cases state w with ⟨next, found, hconsumes⟩ | hidle
  · exact .inl ⟨next, found, hconsumes, hconsumes.read_eq⟩
  · exact .inr (by rw [read, hidle]; rfl)

end BodyState

theorem Extraction.add_eq (e : Extraction) (w : Window) :
    e.add w = ⟨(e.state.read w).1, (e.state.read w).2.toList ++ e.found⟩ := by
  rcases BodyState.step_cases e.state w with ⟨next, found, hconsumes⟩ | hidle
  · rw [add, hconsumes.read_eq, hconsumes.step_eq]
    rfl
  · rw [add, BodyState.read, hidle]
    cases w.head? <;> rfl

namespace TokenStream

variable (s : TokenStream)

/-- How far the reading of members has come before a place. -/
def bodyBefore (p : Nat) : BodyState :=
  ((Window.ofTokens s.tokens).take p).foldl (fun state w => (state.read w).1) .idle

/-- The definition that is found at a place. -/
def found? (p : Nat) : Option Definition :=
  (Window.ofTokens s.tokens)[p]?.bind fun w => ((s.bodyBefore p).read w).2

variable {s} {p : Nat} {w : Window} {d : Definition}

theorem bodyBefore_succ (hw : (Window.ofTokens s.tokens)[p]? = some w) :
    s.bodyBefore (p + 1) = ((s.bodyBefore p).read w).1 := by
  rw [bodyBefore, List.take_add_one, hw, Option.toList_some, List.foldl_append]
  rfl

theorem found?_eq (hw : (Window.ofTokens s.tokens)[p]? = some w) :
    s.found? p = ((s.bodyBefore p).read w).2 := by
  rw [found?, hw, Option.bind_some]

/-- Every place has a window. -/
theorem exists_window {t : Token} (ht : s.words[p]? = some t) :
    ∃ w, (Window.ofTokens s.tokens)[p]? = some w ∧ Window.At s.tokens p w ∧ w.current = t := by
  rw [words, ← Window.map_current_ofTokens, List.getElem?_map] at ht
  obtain ⟨w, hw, hcurrent⟩ := Option.map_eq_some_iff.1 ht
  exact ⟨w, hw, Window.at_of_getElem? hw, hcurrent⟩

/-- Whatever is found is found at a place, from the window of that place. -/
theorem exists_window_of_found? (h : s.found? p = some d) :
    ∃ w, (Window.ofTokens s.tokens)[p]? = some w ∧ Window.At s.tokens p w ∧
      ((s.bodyBefore p).read w).2 = some d := by
  obtain ⟨w, hw, hd⟩ := Option.bind_eq_some_iff.1 h
  exact ⟨w, hw, Window.at_of_getElem? hw, hd⟩

/-- Reading the words before a place. -/
theorem foldl_add_take (hp : p ≤ (Window.ofTokens s.tokens).length) :
    ((Window.ofTokens s.tokens).take p).foldl Extraction.add .start =
      ⟨s.bodyBefore p, ((List.range p).filterMap s.found?).reverse⟩ := by
  induction p with
  | zero => rfl
  | succ p ih =>
    have hw : (Window.ofTokens s.tokens)[p]? = some (Window.ofTokens s.tokens)[p] :=
      List.getElem?_eq_getElem hp
    rw [List.take_add_one, hw, Option.toList_some, List.foldl_append, ih (Nat.le_of_succ_le hp),
      bodyBefore_succ hw, List.range_succ, List.filterMap_append, List.reverse_append]
    refine (Extraction.add_eq ..).trans ?_
    cases hd : ((s.bodyBefore p).read (Window.ofTokens s.tokens)[p]).2 <;>
      simp [found?_eq hw, hd]

end TokenStream

open TokenStream

/-- **The definitions of a stream are what is found at its places, in order.** -/
theorem extract_eq_filterMap (s : TokenStream) :
    extract s = (List.range s.words.length).filterMap s.found? := by
  have hlength : s.words.length = (Window.ofTokens s.tokens).length := by
    rw [words, ← Window.map_current_ofTokens, List.length_map]
  have hread := foldl_add_take (s := s) (Nat.le_refl _)
  rw [List.take_length] at hread
  rw [extract, hread, List.reverse_reverse, hlength]

theorem mem_extract_iff {s : TokenStream} {d : Definition} :
    d ∈ extract s ↔ ∃ p, s.found? p = some d := by
  rw [extract_eq_filterMap, List.mem_filterMap]
  constructor
  · rintro ⟨p, -, hp⟩
    exact ⟨p, hp⟩
  · rintro ⟨p, hp⟩
    obtain ⟨w, -, hat, -⟩ := exists_window_of_found? hp
    exact ⟨p, List.mem_range.2 hat.lt_length, hp⟩

end SailNav
