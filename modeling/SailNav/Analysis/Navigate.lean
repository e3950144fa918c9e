import SailNav.Analysis.Basic

/-!
# Going to a definition

The name at a cursor is looked up in the index, and either the first site of the name or all of them
are its definitions, in the order of discovery. A site is shown to an editor as a range of positions
in the current version of its file; one whose file has no URL cannot be shown.
-/

namespace SailNav

/-- How many sites of a name count when it has several. -/
inductive CandidatePolicy where
  | first
  | all
  deriving DecidableEq, Repr, Inhabited

/-- A range in a document. -/
structure DocumentRange where
  url : Url
  range : Range
  deriving DecidableEq, Repr, Inhabited

/-- Where a request for a definition leads. -/
inductive Destination where
  | nowhere
  | one (place : DocumentRange)
  | several (places : List DocumentRange)
  deriving DecidableEq, Repr, Inhabited

namespace Destination

def ofPlaces : List DocumentRange → Destination
  | [] => nowhere
  | [place] => one place
  | places => several places

end Destination

namespace CandidatePolicy

/-- The sites that count. -/
def select (policy : CandidatePolicy) (sites : List Site) : List Site :=
  match policy with
  | first => sites.take 1
  | all => sites

end CandidatePolicy

namespace Snapshot

def offsetOf? (s : Snapshot) (p : Position) : Option Nat := s.lines.offsetOf? p

def positionOf (s : Snapshot) (offset : Nat) : Position := s.lines.positionOf offset

/-- The range of a span. -/
def rangeOf (s : Snapshot) (span : Span) : Range := s.lines.rangeOf span.start span.stop

end Snapshot

namespace Analysis

/-- The name at an offset of a file. -/
def nameAt? (a : Analysis) (file : FileId) (offset : Nat) : Option String :=
  (a.snapshot? file).bind fun s => (s.tokens.nameAt? offset).map Token.text

/-- All sites of the name at an offset of a file. -/
def candidates (a : Analysis) (file : FileId) (offset : Nat) : List Site :=
  match a.nameAt? file offset with
  | some name => a.index.lookup name
  | none => []

/-- The sites that define the name at an offset of a file. -/
def resolve (a : Analysis) (file : FileId) (offset : Nat) (policy : CandidatePolicy) : List Site :=
  policy.select (a.candidates file offset)

/-- A span of a tracked file as an editor sees it. -/
def placeOf? (a : Analysis) (file : FileId) (span : Span) : Option DocumentRange := do
  let s ← a.snapshot? file
  let url ← file.toUrl?
  return ⟨url, s.rangeOf span⟩

/-- A site as an editor sees it. -/
def placeOfSite? (a : Analysis) (s : Site) : Option DocumentRange := a.placeOf? s.file s.span

/-- Where the name at an offset of a file leads. -/
def definitionOf (a : Analysis) (file : FileId) (offset : Nat) (policy : CandidatePolicy) :
    Destination :=
  .ofPlaces ((a.resolve file offset policy).filterMap a.placeOfSite?)

end Analysis

end SailNav
