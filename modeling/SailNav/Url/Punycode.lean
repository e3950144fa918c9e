/-!
# Punycode

How a label of a host name that is not ASCII is written in ASCII: first its ASCII characters, then
the others as insertions among them, in the order of their code points. Every insertion is a number,
written in base 36 with digits of varying weight. `SailNav.Url.Punycode.encode` writes a label so,
and `SailNav.Url.Punycode.decode?` reads one.
-/

namespace SailNav

namespace Url

namespace Punycode

def base : Nat := 36

/-- The weight limit of the digit at place `k`, by the bias of the insertions so far. -/
def threshold (k bias : Nat) : Nat :=
  if k ≤ bias then 1 else if bias + 26 ≤ k then 26 else k - bias

/-- A digit of base 36. -/
def digit (n : Nat) : Char := Char.ofNat (if n < 26 then 97 + n else 22 + n)

/-- The bias after an insertion: divides the last number down to a digit, counting the steps. -/
def settle (k delta : Nat) : Nat :=
  if delta > 455 then settle (k + base) (delta / 35) else k + 36 * delta / (delta + 38)
termination_by delta

/-- The bias behind the insertion of a number, with `count` characters then in the label. -/
def adapt (delta count : Nat) (first : Bool) : Nat :=
  let delta := if first then delta / 700 else delta / 2
  settle 0 (delta + delta / count)

/-- The digits of a number from place `k` on. -/
def digits (k bias n : Nat) : List Char :=
  let t := threshold k bias
  if n < t then [digit n]
  else digit (t + (n - t) % (base - t)) :: digits (k + base) bias ((n - t) / (base - t))
termination_by n
decreasing_by
  have ht : 1 ≤ threshold k bias ∧ threshold k bias ≤ 26 := by
    unfold threshold
    split
    · omega
    · split <;> omega
  have : 1 < base - threshold k bias := by simp only [base]; omega
  have := Nat.div_le_self (n - threshold k bias) (base - threshold k bias)
  omega

/-- What is known while insertions are written. The output is backwards. -/
structure State where
  delta : Nat
  bias : Nat
  /-- Number of characters of the label that are written. -/
  count : Nat
  /-- Whether no insertion is written yet. -/
  first : Bool
  output : List Char

/-- Goes over a label once, writing an insertion wherever the code point `n` stands. -/
def insertAll (n : Nat) (s : State) (label : List Char) : State :=
  label.foldl (fun s c =>
    if c.toNat < n then { s with delta := s.delta + 1 }
    else if c.toNat = n then
      { delta := 0
        bias := adapt s.delta (s.count + 1) s.first
        count := s.count + 1
        first := false
        output := (digits base s.bias s.delta).reverse ++ s.output }
    else s) s

/-- Writes the insertions of the given code points, in order; `n` is the next code point that could
have been inserted. -/
def insertions (label : List Char) : (n : Nat) → State → List Nat → State
  | _, s, [] => s
  | n, s, m :: rest =>
    let s := { s with delta := s.delta + (m - n) * (s.count + 1) }
    let s := insertAll m s label
    insertions label (m + 1) { s with delta := s.delta + 1 } rest

/-- The ASCII form of a label, without the tag that shows it as one. -/
def encode (label : List Char) : List Char :=
  let plain := label.filter fun c => c.toNat < 0x80
  let others := ((label.filter fun c => 0x80 ≤ c.toNat).map Char.toNat).mergeSort.eraseDups
  let start : State :=
    { delta := 0
      bias := 72
      count := plain.length
      first := true
      output := if plain.isEmpty then [] else '-' :: plain.reverse }
  (insertions label 0x80 start others).output.reverse

/-! ### Reading -/

/-- The value of a digit of base 36. -/
def digitValue? (c : Char) : Option Nat :=
  if 'a' ≤ c ∧ c ≤ 'z' then some (c.toNat - 97)
  else if '0' ≤ c ∧ c ≤ '9' then some (c.toNat - 22)
  else none

/-- The largest number that an insertion may come to. -/
def limit : Nat := 0xFFFFFFFF

/-- What is known while a label is read. -/
structure Reading where
  label : List Char
  /-- The code point of the last insertion. -/
  codePoint : Nat
  /-- Where the next insertion is counted from. -/
  start : Nat
  bias : Nat
  /-- The number of the next insertion, as far as it is read. -/
  number : Nat
  /-- The place and the weight of the next digit. -/
  place : Nat
  weight : Nat

namespace Reading

/-- Puts in the character of an insertion whose number is read. -/
def insert? (r : Reading) : Option Reading :=
  let count := r.label.length + 1
  let index := (r.start + r.number) % count
  let codePoint := r.codePoint + (r.start + r.number) / count
  if h : codePoint.isValidChar then
    some
      { label := r.label.insertIdx index (Char.ofNatAux codePoint h)
        codePoint := codePoint
        start := index + 1
        bias := adapt r.number count (r.start == 0)
        number := 0
        place := base
        weight := 1 }
  else none

/-- Takes the next digit. A digit below the threshold is the last one of a number. -/
def step? (r : Reading) (c : Char) : Option Reading := do
  let d ← digitValue? c
  let t := threshold r.place r.bias
  let r := { r with number := r.number + d * r.weight }
  if limit < r.start + r.number then none
  else if d < t then r.insert?
  else if limit < r.weight * (base - t) then none
  else some { r with place := r.place + base, weight := r.weight * (base - t) }

end Reading

/-- The label that an ASCII form without its tag writes. -/
def decode? (text : List Char) : Option (List Char) := do
  let insertions := (text.reverse.takeWhile (· != '-')).reverse
  let plain := (text.take (text.length - insertions.length)).dropLast
  if plain.isEmpty ∧ text.contains '-' then none
  else
    let r ← insertions.foldlM Reading.step? ⟨plain, 0x80, 0, 72, 0, base, 1⟩
    if r.place = base then some r.label else none

end Punycode

end Url

end SailNav
