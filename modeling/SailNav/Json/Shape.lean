import SailNav.Json.Fields

/-!
# The shapes of JSON values

What a value has to look like before it can be taken for a value of some type. A
`SailNav.Shape` is a test, and the shapes of larger types are put together from those of their
parts.

A *record* is an object, or an array of its fields in their order; an *object* is never an array.
Fields that are not known mean nothing in either.
-/

namespace SailNav

/-- A test for JSON values. -/
abbrev Shape := Json → Bool

namespace Shape

/-! ### Plain values -/

def anything : Shape := fun _ => true

def null : Shape
  | .null => true
  | _ => false

def truth : Shape := fun json => json.bool?.isSome

def text : Shape := fun json => json.str?.isSome

/-- A signed integer of 32 bits. -/
def int32 : Shape := fun json => json.int32?.isSome

/-- A natural number of 32 bits. -/
def nat32 : Shape := fun json => (json.natOfBits? 32).isSome

/-- A number, whole or not. -/
def number : Shape
  | .int _ | .real _ => true
  | _ => false

/-- One of some names. -/
def choice (names : List String) : Shape := fun json => json.choice?.any (· ∈ names)

/-! ### Larger values -/

/-- A value of one of two shapes. -/
def either (a b : Shape) : Shape := fun json => a json || b json

/-- An array with items of one shape. -/
def listOf (item : Shape) : Shape := fun json => json.arr?.any (·.all item)

/-- An array with two items of one shape. -/
def pairOf (item : Shape) : Shape := fun json =>
  json.arr?.any fun items => items.length == 2 && items.all item

/-- An object with any keys that pass a test, and values of one shape. -/
def dictionary (key : String → Bool) (value : Shape) : Shape
  | .obj members => members.all fun (k, v) => key k && value v
  | _ => false

/-- A field of a record or an object. -/
structure Field where
  key : String
  shape : Shape
  /-- Whether an object may do without the field. -/
  absent : Bool
  /-- Whether an array may end before the field. -/
  cut : Bool

/-- A field that has to be given. -/
def required (key : String) (shape : Shape) : Field := ⟨key, shape, false, false⟩

/-- A field that need not be given, or may be `null`. -/
def optional (key : String) (shape : Shape) : Field := ⟨key, either null shape, true, false⟩

/-- A field that need not be given, even at the end of an array. -/
def defaulted (key : String) (shape : Shape) : Field := ⟨key, shape, true, true⟩

/-- Optional fields of one shape. -/
def optionals (keys : List String) (shape : Shape) : List Field :=
  keys.map (optional · shape)

/-- An object with some fields. -/
def object (fields : List Field) : Shape
  | .obj members =>
    fields.all fun f =>
      match members.lookup f.key with
      | some value => f.shape value
      | none => f.absent
  | _ => false

/-- The items of an array, as the fields of a record in their order. -/
def itemsFit : List Field → List Json → Bool
  | [], items => items.isEmpty
  | f :: fields, [] => f.cut && itemsFit fields []
  | f :: fields, item :: items => f.shape item && itemsFit fields items

/-- A record with some fields. -/
def record (fields : List Field) : Shape
  | .arr items => itemsFit fields items
  | json => object fields json

/-- An object with some fields whose other members all have one shape. -/
def objectWith (fields : List Field) (others : Shape) : Shape
  | .obj members =>
    object fields (.obj members) &&
      members.all fun (key, value) => fields.any (·.key == key) || others value
  | _ => false

/-- A record whose first field, `key`, says by its name which fields follow. -/
def tagged (key : String) (fieldsOf : List (String × List Field)) : Shape
  | .arr (.str name :: items) => (fieldsOf.lookup name).any (itemsFit · items)
  | .obj members =>
    match members.lookup key with
    | some (.str name) => (fieldsOf.lookup name).any fun fields => object fields (.obj members)
    | _ => false
  | _ => false

end Shape

end SailNav
