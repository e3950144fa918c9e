import SailNav.Json.Basic

/-!
# Reading JSON

`SailNav.Json.read?` reads one value that fills the whole text. Of several members with one key
the last wins, and it stands where the first stood. A `\u` escape outside the basic plane is a
pair of surrogates; a surrogate on its own makes the text unreadable.

The reader goes down into arrays and objects with a bound on the number of steps. A step reads at
least one character of the text or ends a value, so the length of the text is bound enough.
-/

namespace SailNav

namespace Json

/-! ### Strings -/

/-- The value of a hexadecimal digit. -/
def hexDigit? (c : Char) : Option Nat :=
  if '0' ≤ c ∧ c ≤ '9' then some (c.toNat - 48)
  else if 'a' ≤ c ∧ c ≤ 'f' then some (c.toNat - 87)
  else if 'A' ≤ c ∧ c ≤ 'F' then some (c.toNat - 55)
  else none

/-- The number that four hexadecimal digits write. -/
def hexUnit? (a b c d : Char) : Option Nat := do
  let a ← hexDigit? a
  let b ← hexDigit? b
  let c ← hexDigit? c
  let d ← hexDigit? d
  return ((a * 16 + b) * 16 + c) * 16 + d

/-- The character that a two-character escape stands for. -/
def escaped? : Char → Option Char
  | '"' => some '"'
  | '\\' => some '\\'
  | '/' => some '/'
  | 'b' => some '\u0008'
  | 'f' => some '\u000c'
  | 'n' => some '\n'
  | 'r' => some '\r'
  | 't' => some '\t'
  | _ => none

/-- A string from behind its opening quote on, and what follows it. `high` is the high surrogate
that the last escape wrote, and `taken` is what was read, backwards. -/
def readString? (high : Option Nat) (taken : List Char) : List Char → Option (String × List Char)
  | '\\' :: 'u' :: a :: b :: c :: d :: rest =>
    match hexUnit? a b c d, high with
    | none, _ => none
    | some unit, some first =>
      if 0xDC00 ≤ unit ∧ unit ≤ 0xDFFF then
        let code := 0x10000 + (first - 0xD800) * 0x400 + (unit - 0xDC00)
        readString? none (Char.ofNat code :: taken) rest
      else none
    | some unit, none =>
      if 0xD800 ≤ unit ∧ unit ≤ 0xDBFF then readString? (some unit) taken rest
      else if 0xDC00 ≤ unit ∧ unit ≤ 0xDFFF then none
      else readString? none (Char.ofNat unit :: taken) rest
  | '\\' :: e :: rest =>
    match escaped? e, high with
    | some c, none => readString? none (c :: taken) rest
    | _, _ => none
  | '"' :: rest => if high.isNone then some (String.ofList taken.reverse, rest) else none
  | c :: rest => if high.isNone then readString? none (c :: taken) rest else none
  | [] => none

/-! ### Numbers -/

/-- Characters that occur in numbers. -/
def isNumberChar (c : Char) : Bool :=
  c.isDigit || c == '-' || c == '+' || c == '.' || c == 'e' || c == 'E'

/-- The number that decimal digits write. -/
def digitsValue (digits : List Char) : Nat :=
  digits.foldl (fun n c => n * 10 + (c.toNat - 48)) 0

/-- The value of a number, by the way it is written. -/
def ofNumberText (text : List Char) : Json :=
  let (negative, digits) :=
    match text with
    | '-' :: digits => (true, digits)
    | digits => (false, digits)
  let n := digitsValue digits
  let fits :=
    if negative then n != 0 && n ≤ 0x8000000000000000 else n < 0x10000000000000000
  if digits.all Char.isDigit && fits then int (if negative then -n else n)
  else real (String.ofList text)

/-! ### Values -/

/-- A text without the white space that JSON allows at its start. -/
def skipSpace (text : List Char) : List Char :=
  text.dropWhile fun c => c == ' ' || c == '\t' || c == '\n' || c == '\r'

/-- Members with the value of a key set: in place when the key is there, else at the end. -/
def setMember (key : String) (value : Json) : List (String × Json) → List (String × Json)
  | [] => [(key, value)]
  | (k, v) :: rest => if k = key then (key, value) :: rest else (k, v) :: setMember key value rest

mutual

/-- A value at the start of a text, and what follows it. -/
def readValue? : (bound : Nat) → List Char → Option (Json × List Char)
  | 0, _ => none
  | bound + 1, text =>
    match skipSpace text with
    | 'n' :: 'u' :: 'l' :: 'l' :: rest => some (null, rest)
    | 't' :: 'r' :: 'u' :: 'e' :: rest => some (bool true, rest)
    | 'f' :: 'a' :: 'l' :: 's' :: 'e' :: rest => some (bool false, rest)
    | '"' :: rest => (readString? none [] rest).map fun (s, rest) => (str s, rest)
    | '[' :: rest =>
      match skipSpace rest with
      | ']' :: rest => some (arr [], rest)
      | rest => readItems? bound [] rest
    | '{' :: rest =>
      match skipSpace rest with
      | '}' :: rest => some (obj [], rest)
      | rest => readMembers? bound [] rest
    | c :: rest =>
      if c.isDigit || c == '-' then
        some (ofNumberText (c :: rest.takeWhile isNumberChar), rest.dropWhile isNumberChar)
      else none
    | [] => none

/-- The items of an array up to its closing bracket, after the items `taken`, backwards. -/
def readItems? : (bound : Nat) → (taken : List Json) → List Char → Option (Json × List Char)
  | 0, _, _ => none
  | bound + 1, taken, text =>
    match readValue? bound text with
    | none => none
    | some (item, rest) =>
      match skipSpace rest with
      | ',' :: rest => readItems? bound (item :: taken) rest
      | ']' :: rest => some (arr (item :: taken).reverse, rest)
      | _ => none

/-- The members of an object up to its closing brace, after the members `taken`. -/
def readMembers? : (bound : Nat) → (taken : List (String × Json)) → List Char →
    Option (Json × List Char)
  | 0, _, _ => none
  | bound + 1, taken, text =>
    match skipSpace text with
    | '"' :: rest =>
      match readString? none [] rest with
      | none => none
      | some (key, rest) =>
        match skipSpace rest with
        | ':' :: rest =>
          match readValue? bound rest with
          | none => none
          | some (value, rest) =>
            let members := setMember key value taken
            match skipSpace rest with
            | ',' :: rest => readMembers? bound members rest
            | '}' :: rest => some (obj members, rest)
            | _ => none
        | _ => none
    | _ => none

end

/-- The value that a whole text writes. -/
def read? (text : String) : Option Json :=
  let chars := text.toList
  match readValue? (2 * chars.length + 2) chars with
  | some (json, rest) => if (skipSpace rest).isEmpty then some json else none
  | none => none

end Json

end SailNav
