import SailNav.Definition.Kind
import SailNav.FileId

/-!
# Sites

A definition once it is known in which file it stands. Sites have an order, the order of their
discovery: files in the order in which they were first indexed, and the definitions of a file in the
order of its text. A file has a number, its *ordinal*, for the first, and a definition a *position*
for the second.
-/

namespace SailNav

/-- A definition in a file. -/
structure Site where
  definition : Definition
  file : FileId
  /-- The number of the file in the order of discovery. -/
  ordinal : Nat
  /-- The number of the definition in its file. -/
  position : Nat
  deriving DecidableEq, Repr, Inhabited

namespace Site

def name (s : Site) : String := s.definition.name

def kind (s : Site) : DefinitionKind := s.definition.kind

def span (s : Site) : Span := s.definition.span

/-- Whether a site was discovered before another. -/
def precedes (s t : Site) : Bool :=
  s.ordinal < t.ordinal || s.ordinal == t.ordinal && s.position < t.position

/-- The sites of a file, from its definitions. -/
def ofFile (file : FileId) (ordinal : Nat) (definitions : List Definition) : List Site :=
  definitions.mapIdx fun position d => ⟨d, file, ordinal, position⟩

/-! ### The order of discovery -/

theorem precedes_iff {s t : Site} :
    s.precedes t = true ↔
      s.ordinal < t.ordinal ∨ s.ordinal = t.ordinal ∧ s.position < t.position := by
  simp [precedes]

theorem precedes_trans {s t u : Site} (hst : s.precedes t = true) (htu : t.precedes u = true) :
    s.precedes u = true := by
  rw [precedes_iff] at *
  omega

theorem precedes_asymm {s t : Site} (hst : s.precedes t = true) : t.precedes s = false := by
  rw [← Bool.not_eq_true, precedes_iff]
  rw [precedes_iff] at hst
  omega

/-! ### The sites of a file -/

theorem mem_ofFile {file : FileId} {ordinal : Nat} {definitions : List Definition} {s : Site}
    (h : s ∈ ofFile file ordinal definitions) :
    s.file = file ∧ s.ordinal = ordinal ∧ s.definition ∈ definitions := by
  obtain ⟨i, hi, rfl⟩ := List.mem_mapIdx.1 h
  exact ⟨rfl, rfl, List.getElem_mem hi⟩

@[simp] theorem map_definition_ofFile (file : FileId) (ordinal : Nat)
    (definitions : List Definition) :
    (ofFile file ordinal definitions).map definition = definitions := by
  refine List.ext_getElem (by simp [ofFile]) fun i _ _ => ?_
  simp [ofFile]

@[simp] theorem map_position_ofFile (file : FileId) (ordinal : Nat)
    (definitions : List Definition) :
    (ofFile file ordinal definitions).map position = List.range definitions.length := by
  refine List.ext_getElem (by simp [ofFile]) fun i _ _ => ?_
  simp [ofFile]

/-- The sites of a file are in the order of discovery. -/
theorem pairwise_ofFile (file : FileId) (ordinal : Nat) (definitions : List Definition) :
    (ofFile file ordinal definitions).Pairwise fun s t => s.precedes t = true := by
  refine List.pairwise_iff_getElem.2 fun i j hi hj hij => ?_
  simp [ofFile, precedes_iff, hij]

end Site

end SailNav
