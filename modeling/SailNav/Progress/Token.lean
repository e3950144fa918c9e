import SailNav.Text.Blank

/-!
# Progress of long work

Work that takes its time is shown in the editor: it begins, reports how far it has come, and ends.
What belongs to one piece of work carries its token. The number at the end of a token is never used
again, so two pieces of work have different tokens whatever their titles are.
-/

namespace SailNav

/-- The name of a piece of work. -/
structure ProgressToken where
  /-- What is being done, without blanks around it. -/
  title : String
  number : Nat
  deriving DecidableEq, Repr, Inhabited

namespace ProgressToken

/-- The token of a piece of work with a title. -/
def ofTitle (title : String) (number : Nat) : ProgressToken := ⟨Text.trimString title, number⟩

/-- The token as the editor gets it. -/
def text (t : ProgressToken) : String := "sailAnalyzer/" ++ t.title ++ "/" ++ toString t.number

/-- What titles in the editor start with. -/
def titleMark : String := "sail-analyzer:"

/-- The title as the editor shows it. -/
def displayTitle (t : ProgressToken) : String :=
  if titleMark.toList.isPrefixOf t.title.toList then t.title else titleMark ++ " " ++ t.title

end ProgressToken

/-- What there is to tell about a piece of work. -/
inductive ProgressValue where
  | begun (title : String) (message : Option String)
  | report (message : Option String) (percentage : Option Nat)
  | ended (message : Option String)
  deriving DecidableEq, Repr, Inhabited

/-- How much of a whole is done, in percent. Of nothing, everything is done. -/
def percentOf (part whole : Nat) : Nat :=
  if whole = 0 then 100 else min part whole * 100 / whole

/-- What is done is at most everything. -/
theorem percentOf_le (part whole : Nat) : percentOf part whole ≤ 100 := by
  unfold percentOf
  split
  · exact Nat.le_refl _
  · exact Nat.div_le_of_le_mul (Nat.mul_le_mul_right _ (Nat.min_le_right _ _))

theorem percentOf_self (n : Nat) : percentOf n n = 100 := by
  unfold percentOf
  split
  · rfl
  · rw [Nat.min_self, Nat.mul_div_cancel_left _ (by omega)]

end SailNav
