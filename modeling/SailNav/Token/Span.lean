/-!
# Spans

Where a piece of a text lies: half-open ranges of byte offsets.
-/

namespace SailNav

/-- The bytes of a text from `start` up to, but not including, `stop`. -/
structure Span where
  start : Nat
  stop : Nat
  deriving DecidableEq, Repr, Inhabited

namespace Span

def length (s : Span) : Nat := s.stop - s.start

/-- Whether an offset is that of one of the span's bytes. -/
def contains (s : Span) (offset : Nat) : Bool := s.start ≤ offset && offset < s.stop

theorem contains_iff {s : Span} {offset : Nat} :
    s.contains offset = true ↔ s.start ≤ offset ∧ offset < s.stop := by
  simp [contains]

end Span

end SailNav
