import SailNav.Token.Span

/-!
# Definitions

A definition is a place in a text that may define a name: the name, the span of it, and what kind
of thing is defined. Finding them is a matter of the words around a name and not of a grammar, so a
name may have several.
-/

namespace SailNav

/-- What kind of thing a definition defines, in the order in which kinds are ranked. -/
inductive DefinitionKind where
  | function
  | scatteredFunction
  | functionClause
  /-- The type of a function, given by `val`. -/
  | value
  /-- A `let` or `var` outside every bracket. -/
  | binding
  | type
  | enum
  | enumMember
  | union
  | unionConstructor
  | struct
  | bitfield
  | register
  | mapping
  | mappingClause
  | overload
  | operator
  deriving DecidableEq, Repr, Inhabited

namespace DefinitionKind

/-- Every kind, in order of rank. -/
def all : List DefinitionKind :=
  [function, scatteredFunction, functionClause, value, binding, type, enum, enumMember, union,
   unionConstructor, struct, bitfield, register, mapping, mappingClause, overload, operator]

/-- The place of a kind among all kinds. -/
def rank (k : DefinitionKind) : Nat := all.idxOf k

theorem mem_all (k : DefinitionKind) : k ∈ all := by cases k <;> decide

/-- What a kind is called in front of the user. -/
def text : DefinitionKind → String
  | function => "function"
  | scatteredFunction => "scattered function"
  | functionClause => "function clause"
  | value => "val"
  | binding => "variable"
  | type => "type"
  | enum => "enum"
  | enumMember => "enum member"
  | union => "union"
  | unionConstructor => "union constructor"
  | struct => "struct"
  | bitfield => "bitfield"
  | register => "register"
  | mapping => "mapping"
  | mappingClause => "mapping clause"
  | overload => "overload"
  | operator => "operator"

/-- The number by which an editor knows the sort of symbol that a kind defines. -/
def symbolNumber : DefinitionKind → Nat
  | function | scatteredFunction | functionClause | value | overload => 12
  | binding => 13
  | type => 26
  | enum => 10
  | enumMember => 22
  | union => 5
  | unionConstructor => 9
  | struct | bitfield => 23
  | register => 8
  | mapping | mappingClause => 11
  | operator => 25

end DefinitionKind

/-- A place in a text that may define a name. -/
structure Definition where
  kind : DefinitionKind
  name : String
  span : Span
  deriving DecidableEq, Repr, Inhabited

end SailNav
