import SailNav.Analysis.Navigate

/-!
# Diagnostics

The faults of a text as an editor shows them: a literal that is not ended and a bracket without its
partner are warnings at their place.
-/

namespace SailNav

/-- A fault at a place of a document. -/
structure Diagnostic where
  range : Range
  message : String
  deriving DecidableEq, Repr, Inhabited

namespace Snapshot

/-- The faults of one version of a file, in the order of its text. -/
def diagnostics (s : Snapshot) : List Diagnostic :=
  s.tokens.anomalies.map fun a => ⟨s.rangeOf a.span, a.kind.message⟩

end Snapshot

end SailNav
