import SailNav.Token.Basic

/-!
# The extent of tokens

The tokens of a text are a *partition* of it: they stand side by side from its first byte to its
last, each between two characters, and each with the piece of the text that lies in its span
(`SailNav.tokenize_partition`).

Nearly all of this is one invariant of a list of tokens, `SailNav.Token.Tiled`, which says of every
token where it starts and stops in terms of the texts before it. It speaks of no source text. The
source text comes back in as the texts of all tokens put together (`SailNav.Token.joined`), and then
a run of neighbouring tokens can be cut out of it (`SailNav.Token.Tiled.spells_run`). One token is a
run, and so is the name of an operator, which is glued together from several.

Which of the two scanners a token comes from never matters: a lexeme is a piece of the text that is
not empty, whether it is a word or a piece of an include region.
-/

namespace SailNav

/-! ### Pieces of a text -/

namespace Span

/-- **The bytes of a span spell a part of a text**, so that both ends of the span lie between two
characters. -/
def Spells (s : Span) (text part : String) : Prop :=
  ∃ before after : String, text = before ++ part ++ after ∧ s.start = before.utf8ByteSize ∧
    s.stop = before.utf8ByteSize + part.utf8ByteSize

namespace Spells

variable {s : Span} {text part : String}

theorem isValid_start (h : s.Spells text part) : (⟨s.start⟩ : String.Pos.Raw).IsValid text := by
  obtain ⟨before, after, rfl, hstart, -⟩ := h
  refine String.Pos.Raw.isValid_iff_exists_append.2 ⟨before, part ++ after, ?_, ?_⟩
  · rw [String.append_assoc]
  · rw [hstart]
    rfl

theorem isValid_stop (h : s.Spells text part) : (⟨s.stop⟩ : String.Pos.Raw).IsValid text := by
  obtain ⟨before, after, rfl, -, hstop⟩ := h
  refine String.Pos.Raw.isValid_iff_exists_append.2 ⟨before ++ part, after, rfl, ?_⟩
  rw [hstop, String.Pos.Raw.ext_iff, String.byteIdx_rawEndPos, String.utf8ByteSize_append]

/-- The part is cut out of the text by its bytes. -/
theorem extract (h : s.Spells text part) :
    text.toByteArray.extract s.start s.stop = part.toByteArray := by
  obtain ⟨before, after, rfl, hstart, hstop⟩ := h
  have hcut := ByteArray.extract_append_size_add (a := before.toByteArray)
    (b := part.toByteArray ++ after.toByteArray) (i := 0) (j := part.toByteArray.size)
  rw [Nat.add_zero, ByteArray.extract_append_eq_left rfl] at hcut
  rw [hstart, hstop, String.append_assoc, String.toByteArray_append, String.toByteArray_append,
    ← String.size_toByteArray, ← String.size_toByteArray, hcut]

end Spells

/-- Spans that lead from one offset to another without a gap, none of them empty. -/
inductive Leads : Nat → List Span → Nat → Prop
  /-- No span leads nowhere. -/
  | nil (n : Nat) : Leads n [] n
  /-- A span leads on from where it starts. -/
  | cons {s : Span} {rest : List Span} {n : Nat} :
      s.start < s.stop → Leads s.stop rest n → Leads s.start (s :: rest) n

/-- Every span that is led through takes at least one byte. -/
theorem Leads.length_le {m n : Nat} {spans : List Span} (h : Leads m spans n) :
    spans.length + m ≤ n := by
  induction h with
  | nil n => simp
  | cons hlt _ ih =>
    rw [List.length_cons]
    omega

end Span

/-! ### Tokens side by side -/

namespace Token

/-- The texts of some tokens put together. -/
def joined (tokens : List Token) : String := String.join (tokens.map text)

@[simp] theorem joined_nil : joined [] = "" := rfl

@[simp] theorem joined_cons (t : Token) (tokens : List Token) :
    joined (t :: tokens) = t.text ++ joined tokens := by
  simp [joined]

@[simp] theorem joined_append (a b : List Token) : joined (a ++ b) = joined a ++ joined b := by
  simp [joined]

/-- A character of some tokens is a character of one of them. -/
theorem mem_joined_iff {tokens : List Token} {c : Char} :
    c ∈ (joined tokens).toList ↔ ∃ t ∈ tokens, c ∈ t.text.toList := by
  induction tokens with
  | nil => simp
  | cons t tokens ih => simp [ih]

/-- **Tokens stand side by side** from an offset on: none is empty, and each has the span of its own
text behind the texts of those before it. -/
def Tiled : (start : Nat) → List Token → Prop
  | _, [] => True
  | start, t :: rest =>
    t.text ≠ "" ∧ t.span = ⟨start, start + t.text.utf8ByteSize⟩ ∧
      Tiled (start + t.text.utf8ByteSize) rest

namespace Tiled

variable {start : Nat}

theorem append {a b : List Token} :
    Tiled start (a ++ b) ↔ Tiled start a ∧ Tiled (start + (joined a).utf8ByteSize) b := by
  induction a generalizing start with
  | nil => simp [Tiled]
  | cons t a ih =>
    simp only [List.cons_append, Tiled, ih, joined_cons, String.utf8ByteSize_append, and_assoc,
      Nat.add_assoc]

/-- No token is empty. -/
theorem span_lt {tokens : List Token} (h : Tiled start tokens) {t : Token} (ht : t ∈ tokens) :
    t.span.start < t.span.stop := by
  obtain ⟨a, b, rfl⟩ := List.append_of_mem ht
  obtain ⟨hne, hspan, -⟩ := (append.1 h).2
  have hpos : t.text.utf8ByteSize ≠ 0 := mt String.utf8ByteSize_eq_zero_iff.1 hne
  rw [hspan]
  exact Nat.lt_add_of_pos_right (Nat.pos_of_ne_zero hpos)

/-- The last of some tokens stops where their texts do. -/
theorem stop_last {t : Token} {rest : List Token} (h : Tiled start (t :: rest)) :
    (rest.getLast?.getD t).span.stop = start + (joined (t :: rest)).utf8ByteSize := by
  induction rest generalizing start t with
  | nil => simp [h.2.1]
  | cons u rest ih =>
    have hu := ih h.2.2
    rw [List.getLast?_cons, Option.getD_some, hu]
    simp [Nat.add_assoc]

/-- **A run of neighbouring tokens spells their texts put together.** -/
theorem spells_run {a rest b : List Token} {t : Token} (h : Tiled 0 (a ++ (t :: rest) ++ b)) :
    (⟨t.span.start, (rest.getLast?.getD t).span.stop⟩ : Span).Spells
      (joined (a ++ (t :: rest) ++ b)) (joined (t :: rest)) := by
  have hrun := (append.1 (append.1 h).1).2
  rw [Nat.zero_add] at hrun
  refine ⟨joined a, joined b, by rw [joined_append, joined_append], ?_, stop_last hrun⟩
  rw [hrun.2.1]

/-- Every token spells its own text. -/
theorem spells {tokens : List Token} (h : Tiled 0 tokens) {t : Token} (ht : t ∈ tokens) :
    t.span.Spells (joined tokens) t.text := by
  obtain ⟨a, b, rfl⟩ := List.append_of_mem ht
  have hrun : Tiled 0 (a ++ [t] ++ b) := by simpa using h
  simpa using spells_run hrun

theorem leads {tokens : List Token} (h : Tiled start tokens) :
    Span.Leads start (tokens.map Token.span) (start + (joined tokens).utf8ByteSize) := by
  induction tokens generalizing start with
  | nil => exact .nil start
  | cons t rest ih =>
    have hlt := h.span_lt List.mem_cons_self
    obtain ⟨-, hspan, hrest⟩ := h
    have hlead := ih hrest
    rw [List.map_cons, joined_cons, String.utf8ByteSize_append, ← Nat.add_assoc]
    rw [hspan] at hlt ⊢
    exact .cons hlt hlead

end Tiled

end Token

/-! ### The tokens of a text -/

namespace TokenBuilder

/-- The brackets around the token of a lexeme: those that are open, unless the lexeme closes one. -/
def around (b : TokenBuilder) (l : Lexeme) : OpenBrackets :=
  match l.shape with
  | .word (.closing shape) => ((b.brackets.close? shape).map Prod.snd).getD b.brackets
  | _ => b.brackets

@[simp] theorem offset_add (b : TokenBuilder) (l : Lexeme) :
    (b.add l).offset = b.offset + Text.byteLength l.text := by
  unfold add
  dsimp only
  split
  · rfl
  · split <;> rfl
  · rfl

/-- A lexeme becomes one token, next to those before it. -/
@[simp] theorem tokens_add (b : TokenBuilder) (l : Lexeme) :
    (b.add l).tokens =
      l.token ⟨b.offset, b.offset + Text.byteLength l.text⟩ (b.around l).length :: b.tokens := by
  obtain ⟨shape, text⟩ := l
  cases shape with
  | stray => rfl
  | piece kind => rfl
  | word kind =>
    cases kind with
    | closing shape => cases hclose : b.brackets.close? shape <;> simp [add, around, push, hclose]
    | _ => rfl

/-- **The tokens of some lexemes stand side by side**, and their texts are those of the lexemes. -/
theorem exists_tokens_foldl (b : TokenBuilder) (ls : List Lexeme) (hne : ∀ l ∈ ls, l.text ≠ []) :
    ∃ tokens, (ls.foldl add b).tokens = tokens.reverse ++ b.tokens ∧ Token.Tiled b.offset tokens ∧
      Token.joined tokens = String.ofList (ls.flatMap Lexeme.text) := by
  induction ls generalizing b with
  | nil => exact ⟨[], rfl, trivial, rfl⟩
  | cons l ls ih =>
    obtain ⟨tokens, htokens, htiled, hjoined⟩ :=
      ih (b.add l) fun m hm => hne m (List.mem_cons_of_mem l hm)
    rw [offset_add] at htiled
    have hl : String.ofList l.text ≠ "" := fun h => hne l List.mem_cons_self (by simpa using h)
    have hsize := Text.utf8ByteSize_ofList l.text
    refine ⟨l.token ⟨b.offset, b.offset + Text.byteLength l.text⟩ (b.around l).length :: tokens,
      ?_, ⟨hl, ?_, ?_⟩, ?_⟩
    · rw [List.foldl_cons, htokens, tokens_add]
      simp
    · change _ = (⟨b.offset, b.offset + (String.ofList l.text).utf8ByteSize⟩ : Span)
      rw [hsize]
      rfl
    · change Token.Tiled (b.offset + (String.ofList l.text).utf8ByteSize) tokens
      rwa [hsize]
    · rw [Token.joined_cons, hjoined, List.flatMap_cons, String.ofList_append]
      rfl

end TokenBuilder

theorem tokenize_tiled (text : String) :
    Token.Tiled 0 (tokenize text).tokens ∧ Token.joined (tokenize text).tokens = text := by
  obtain ⟨tokens, htokens, htiled, hjoined⟩ :=
    TokenBuilder.exists_tokens_foldl .start (lexemes text.toList)
      fun l hl => text_ne_nil_of_mem_lexemesFrom hl
  have heq : (tokenize text).tokens = tokens := by
    change ((lexemes text.toList).foldl TokenBuilder.add TokenBuilder.start).tokens.reverse = _
    rw [htokens]
    simp [TokenBuilder.start]
  rw [heq]
  refine ⟨htiled, ?_⟩
  rw [hjoined, flatMap_text_lexemes, String.ofList_toList]

/-- The tokens of a text stand side by side. -/
theorem tiled_tokenize (text : String) : Token.Tiled 0 (tokenize text).tokens :=
  (tokenize_tiled text).1

/-- The texts of the tokens of a text, put together, are the text. -/
theorem joined_tokenize (text : String) : Token.joined (tokenize text).tokens = text :=
  (tokenize_tiled text).2

/-- Every token of a text spells its own text there. -/
theorem spells_of_mem_tokenize {text : String} {t : Token} (ht : t ∈ (tokenize text).tokens) :
    t.span.Spells text t.text := by
  have h := (tiled_tokenize text).spells ht
  rwa [joined_tokenize] at h

/-- **The tokens of a text are a partition of it.** Their spans lead from its first byte to its last
without a gap, and none is empty. Both ends of a span lie between two characters, and the token has
the bytes between them. So the texts of the tokens put together are the text, and there are no more
tokens than bytes. -/
theorem tokenize_partition (text : String) :
    Span.Leads 0 ((tokenize text).tokens.map Token.span) text.utf8ByteSize ∧
      (∀ t ∈ (tokenize text).tokens,
        (⟨t.span.start⟩ : String.Pos.Raw).IsValid text ∧
        (⟨t.span.stop⟩ : String.Pos.Raw).IsValid text ∧
        t.text.toByteArray = text.toByteArray.extract t.span.start t.span.stop) ∧
      String.join ((tokenize text).tokens.map Token.text) = text ∧
      (tokenize text).tokens.length ≤ text.utf8ByteSize := by
  have hleads := (tiled_tokenize text).leads
  rw [joined_tokenize, Nat.zero_add] at hleads
  refine ⟨hleads, fun t ht => ?_, joined_tokenize text, ?_⟩
  · have h := spells_of_mem_tokenize ht
    exact ⟨h.isValid_start, h.isValid_stop, h.extract.symm⟩
  · simpa using hleads.length_le

end SailNav
