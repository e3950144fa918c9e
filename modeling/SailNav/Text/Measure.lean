/-!
# Two ways to measure a text

A source text is a sequence of characters, but nobody outside counts it that way. Files and
spans count *bytes* of the UTF-8 form; an editor counts *units* of the UTF-16 form, so that a
character outside the basic plane fills two columns. Both measures are sums over the
characters, and this module says so: they are additive (`byteLength_append`,
`unitLength_append`), and a text is cut at a byte offset by `splitBytes`, which gives back the
whole text (`splitBytes_append`).

Every function here runs in constant stack, since a text may be one line of a megabyte.
-/

namespace SailNav

namespace Text

/-! ### Bytes -/

/-- Number of bytes of the UTF-8 form of a text. -/
def byteLength (text : List Char) : Nat :=
  text.foldl (fun n c => n + c.utf8Size) 0

/-- Adding up the bytes of a text from a start value only shifts the sum. -/
theorem foldl_utf8Size (text : List Char) (n : Nat) :
    text.foldl (fun n c => n + c.utf8Size) n = n + byteLength text := by
  induction text generalizing n with
  | nil => rfl
  | cons c text ih =>
    simp only [byteLength, List.foldl_cons, Nat.zero_add]
    rw [ih (n + c.utf8Size), ih c.utf8Size, Nat.add_assoc]

@[simp] theorem byteLength_nil : byteLength [] = 0 := rfl

@[simp] theorem byteLength_cons (c : Char) (text : List Char) :
    byteLength (c :: text) = c.utf8Size + byteLength text := by
  rw [byteLength, List.foldl_cons, foldl_utf8Size, Nat.zero_add]

@[simp] theorem byteLength_append (a b : List Char) :
    byteLength (a ++ b) = byteLength a + byteLength b := by
  rw [byteLength, List.foldl_append, foldl_utf8Size, ← byteLength]

/-- A text without bytes has no characters. -/
theorem byteLength_eq_zero {text : List Char} : byteLength text = 0 ↔ text = [] := by
  cases text with
  | nil => simp
  | cons c text => simp [Nat.ne_of_gt c.utf8Size_pos]

/-- The bytes of a text are those of the string that it makes. -/
theorem utf8ByteSize_ofList (text : List Char) :
    (String.ofList text).utf8ByteSize = byteLength text := by
  induction text with
  | nil => rfl
  | cons c text ih => simp [String.ofList_cons, ih]

/-! ### UTF-16 units -/

/-- Number of UTF-16 units of a character: two outside the basic plane. -/
def unitSize (c : Char) : Nat := if c.toNat < 0x10000 then 1 else 2

theorem unitSize_pos (c : Char) : 0 < unitSize c := by
  unfold unitSize
  split <;> decide

/-- Number of UTF-16 units of a text. -/
def unitLength (text : List Char) : Nat :=
  text.foldl (fun n c => n + unitSize c) 0

/-- Adding up the units of a text from a start value only shifts the sum. -/
theorem foldl_unitSize (text : List Char) (n : Nat) :
    text.foldl (fun n c => n + unitSize c) n = n + unitLength text := by
  induction text generalizing n with
  | nil => rfl
  | cons c text ih =>
    simp only [unitLength, List.foldl_cons, Nat.zero_add]
    rw [ih (n + unitSize c), ih (unitSize c), Nat.add_assoc]

@[simp] theorem unitLength_nil : unitLength [] = 0 := rfl

@[simp] theorem unitLength_cons (c : Char) (text : List Char) :
    unitLength (c :: text) = unitSize c + unitLength text := by
  rw [unitLength, List.foldl_cons, foldl_unitSize, Nat.zero_add]

@[simp] theorem unitLength_append (a b : List Char) :
    unitLength (a ++ b) = unitLength a + unitLength b := by
  rw [unitLength, List.foldl_append, foldl_unitSize, ← unitLength]

/-! ### Prefixes by size -/

/-- The longest prefix of a text whose characters have a total size of at most `n`, given
backwards and put on top of `taken`, and what follows it. -/
def spanSize (size : Char → Nat) : (n : Nat) → (taken : List Char) → List Char →
    List Char × List Char
  | _, taken, [] => (taken, [])
  | n, taken, c :: text =>
    if size c ≤ n then spanSize size (n - size c) (c :: taken) text else (taken, c :: text)

/-- A text cut at a byte offset. An offset inside a character cuts before it, and one past the
end cuts at the end. -/
def splitBytes (n : Nat) (text : List Char) : List Char × List Char :=
  let (taken, rest) := spanSize Char.utf8Size n [] text
  (taken.reverse, rest)

theorem reverse_spanSize_append (size : Char → Nat) (n : Nat) (taken text : List Char) :
    (spanSize size n taken text).1.reverse ++ (spanSize size n taken text).2 =
      taken.reverse ++ text := by
  induction text generalizing n taken with
  | nil => rfl
  | cons c text ih =>
    unfold spanSize
    split
    · rw [ih]; simp
    · rfl

/-- **Cutting a text loses nothing.** -/
theorem splitBytes_append (n : Nat) (text : List Char) :
    (splitBytes n text).1 ++ (splitBytes n text).2 = text := by
  simpa [splitBytes] using reverse_spanSize_append Char.utf8Size n [] text

end Text

end SailNav
