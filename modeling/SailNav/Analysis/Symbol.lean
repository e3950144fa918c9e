import SailNav.Analysis.Navigate

/-!
# Symbols

The definitions of a document or of the whole workspace, as an editor lists them: each with its
name, its kind and its place.
-/

namespace SailNav

/-- A definition in a list of definitions. -/
structure Symbol where
  name : String
  kind : DefinitionKind
  place : DocumentRange
  deriving DecidableEq, Repr, Inhabited

namespace Analysis

/-- A site as a symbol, when it can be shown. -/
def symbolOf? (a : Analysis) (s : Site) : Option Symbol :=
  (a.placeOfSite? s).map fun place => ⟨s.name, s.kind, place⟩

/-- The symbols of a document, in the order of its text. -/
def documentSymbols (a : Analysis) (file : FileId) : List Symbol :=
  (a.index.sitesOf file).filterMap a.symbolOf?

/-- The greatest number of sites that a search of the workspace looks at. -/
def symbolLimit : Nat := 100

/-- The sites of the workspace that a query finds. -/
def symbolHits (a : Analysis) (query : String) : List Site := a.index.search query symbolLimit

/-- The symbols of the workspace that a query finds. -/
def workspaceSymbols (a : Analysis) (query : String) : List Symbol :=
  (a.symbolHits query).filterMap a.symbolOf?

end Analysis

end SailNav
