import SailNav.Json.Basic

/-!
# Structures in JSON

How the parts of a structure are read from a JSON value. A structure is an object, or an array of
its fields in their order. Fields that are not known mean nothing, and a field that need not be
given may be `null`. A field of the wrong type spoils the whole structure.
-/

namespace SailNav

namespace Json

/-- An object. -/
def members? : Json → Option Json
  | obj members => some (obj members)
  | _ => none

/-- A structure with some fields, written as an object or as an array. -/
def record? (keys : List String) : Json → Option Json
  | obj members => some (obj members)
  | arr items => if items.length = keys.length then some (obj (keys.zip items)) else none
  | _ => none

/-- The value of a field that has to be given. -/
def field? {α : Type} (read : Json → Option α) (key : String) (json : Json) : Option α :=
  (json.get? key).bind read

/-- The value of a field that need not be given: `none` when it has the wrong type. -/
def optionalField? {α : Type} (read : Json → Option α) (key : String) (json : Json) :
    Option (Option α) :=
  match json.given? key with
  | none => some none
  | some value => (read value).map some

/-- A list of values. -/
def listOf? {α : Type} (read : Json → Option α) (json : Json) : Option (List α) := do
  (← json.arr?).mapM read

/-- The name of a choice, alone or as the only key of an object that says no more. -/
def choice? : Json → Option String
  | str name => some name
  | obj [(name, null)] => some name
  | _ => none

end Json

end SailNav
