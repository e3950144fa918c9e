import SailNav.Session.Effect

/-!
# Telling of progress

A piece of work is begun, reported about, and ended, by being finished or by being cancelled. A
`SailNav.ProgressDesk` keeps several pieces of work at a time, each in a slot of its own; a slot is
empty for good when its work has ended, so nothing can be told of a piece of work after its end.
-/

namespace SailNav

namespace ProgressToken

/-! ### One piece of work -/

/-- What happens when work begins. -/
def start (t : ProgressToken) (message : Option String) : List Effect :=
  [.ask (.createProgress t),
   .send (.progress t (.begun t.displayTitle message)),
   .log (.progressBegun t)]

/-- What happens when work has come some way. -/
def report (t : ProgressToken) (message : Option String) (percentage : Option Nat) : List Effect :=
  [.send (.progress t (.report message (percentage.map (min · 100))))]

/-- What happens when work is finished. -/
def finish (t : ProgressToken) (message : Option String) : List Effect :=
  [.log (.progressEnded t), .send (.progress t (.ended message))]

/-- What happens when work is given up. -/
def cancel (t : ProgressToken) : List Effect :=
  [.log (.progressCancelled t), .send (.progress t (.ended (some "Cancelled")))]

end ProgressToken

/-! ### Several pieces of work -/

/-- Pieces of work in slots. -/
structure ProgressDesk where
  /-- The number of the next token. -/
  next : Nat
  /-- The work in each slot, unless it has ended. -/
  slots : List (Option ProgressToken)
  deriving DecidableEq, Repr, Inhabited

/-- Something that a desk does. -/
inductive ProgressStep where
  | start (title : String) (message : Option String)
  | report (slot : Nat) (message : Option String) (percentage : Option Nat)
  | finish (slot : Nat) (message : Option String)
  | cancel (slot : Nat)
  deriving DecidableEq, Repr, Inhabited

namespace ProgressDesk

/-- A desk without work. -/
def empty : ProgressDesk := ⟨1, []⟩

/-- The work in a slot. -/
def work? (k : ProgressDesk) (slot : Nat) : Option ProgressToken := (k.slots[slot]?).join

/-- The desk with a slot empty. -/
def clear (k : ProgressDesk) (slot : Nat) : ProgressDesk :=
  { k with slots := k.slots.set slot none }

/-- The desk after a step, and what happens, unless the step is about an empty slot. -/
def step? (k : ProgressDesk) : ProgressStep → Option (ProgressDesk × List Effect)
  | .start title message =>
    let t := ProgressToken.ofTitle title k.next
    some (⟨k.next + 1, k.slots ++ [some t]⟩, t.start message)
  | .report slot message percentage =>
    (k.work? slot).map fun t => (k, t.report message percentage)
  | .finish slot message => (k.work? slot).map fun t => (k.clear slot, t.finish message)
  | .cancel slot => (k.work? slot).map fun t => (k.clear slot, t.cancel)

end ProgressDesk

end SailNav
