/-!
# JSON values

The values an editor sends and receives. The members of an object are kept in the order in which
they were written, and a key is looked up from the front; the reader
(`SailNav.Json.read?`) leaves one member per key, so the order never decides what a key means.

A number is an `int` when it is written as a plain integer that fits 64 bits, signed or unsigned.
Every other number, such as `1.0`, `1e3` or `-0`, is a `real`. Nothing in this library computes
with those, so a `real` keeps only the way it was written.
-/

namespace SailNav

/-- A JSON value. -/
inductive Json where
  | null
  | bool (value : Bool)
  /-- A number written as an integer that fits 64 bits. -/
  | int (value : Int)
  /-- Any other number, as it was written. -/
  | real (text : String)
  | str (value : String)
  | arr (items : List Json)
  | obj (members : List (String × Json))
  deriving Inhabited

namespace Json

/-- The value of a key, when the value is an object that has the key. -/
def get? (key : String) : Json → Option Json
  | obj members => members.lookup key
  | _ => none

/-- The value of a key, `null` counting as if the key were not there. -/
def given? (key : String) (json : Json) : Option Json :=
  match json.get? key with
  | some null => none
  | found => found

def str? : Json → Option String
  | str value => some value
  | _ => none

def bool? : Json → Option Bool
  | bool value => some value
  | _ => none

def int? : Json → Option Int
  | int value => some value
  | _ => none

def arr? : Json → Option (List Json)
  | arr items => some items
  | _ => none

/-- An integer of a closed range. -/
def intWithin? (low high : Int) (json : Json) : Option Int :=
  json.int?.filter fun n => low ≤ n && n ≤ high

/-- A natural number of at most `bits` bits. -/
def natOfBits? (bits : Nat) (json : Json) : Option Nat :=
  (json.intWithin? 0 (Nat.pow 2 bits - 1)).map Int.toNat

/-- A signed integer of 32 bits. -/
def int32? (json : Json) : Option Int :=
  json.intWithin? (-0x80000000) 0x7FFFFFFF

/-- A natural number as a JSON value. -/
def nat (n : Nat) : Json := int n

/-- An object from members of which some are absent. -/
def object (members : List (String × Option Json)) : Json :=
  obj (members.filterMap fun (key, value) => value.map (key, ·))

end Json

end SailNav
