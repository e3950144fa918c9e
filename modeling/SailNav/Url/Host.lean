import SailNav.Url.Domain
import SailNav.Url.Percent

/-!
# Hosts

The host of a URL: nothing, a name, or an address of the internet protocol of version 4 or 6. In a
URL of a special scheme the name is a domain, which knows no case, and a name whose last label is a
number is an address; elsewhere it is a text like any other.

An address of version 6 is eight groups of 16 bits. Its longest run of zero groups may be left out,
and is left out when it is printed.
-/

namespace SailNav

namespace Url

/-- The machine that a URL names. -/
inductive Host where
  /-- No machine, as in `file:///a`. -/
  | empty
  | name (text : String)
  | ipv4 (address : Nat)
  | ipv6 (groups : List Nat)
  deriving DecidableEq, Repr, Inhabited

/-- Why a text is not a URL. -/
inductive ParseError where
  | relativeWithoutBase
  | emptyHost
  | invalidIpv4
  | invalidIpv6
  | invalidPort
  | invalidDomain
  | invalidHostCharacter
  deriving DecidableEq, Repr, Inhabited

def ParseError.message : ParseError → String
  | relativeWithoutBase => "relative URL without a base"
  | emptyHost => "empty host"
  | invalidIpv4 => "invalid IPv4 address"
  | invalidIpv6 => "invalid IPv6 address"
  | invalidPort => "invalid port number"
  | invalidDomain => "invalid international domain name"
  | invalidHostCharacter => "invalid domain character"

/-- The number that digits of a base write, if there are some and all of them are digits. -/
def number? (base : Nat) (text : List Char) : Option Nat :=
  if text.isEmpty then none
  else text.foldl (fun n? c => do
    let n ← n?
    let d ← hexValue? c
    if d < base then some (n * base + d) else none) (some 0)

namespace Host

/-! ### Addresses of version 4 -/

/-- The number that a part of an address writes: hexadecimal behind `0x`, octal behind `0`. -/
def ipv4Part? : List Char → Option Nat
  | [] => none
  | '0' :: x :: rest =>
    if x = 'x' ∨ x = 'X' then if rest.isEmpty then some 0 else number? 16 rest
    else number? 8 (x :: rest)
  | text => number? 10 text

/-- The labels of a domain, a single dot at the end left aside. -/
def labels (domain : List Char) : List (List Char) :=
  let parts := Text.splitOn '.' domain
  if parts.length > 1 ∧ parts.getLast? = some [] then parts.dropLast else parts

/-- Whether the last label of a domain is a number, so that it is meant as an address. -/
def endsInNumber (domain : List Char) : Bool :=
  match (labels domain).getLast? with
  | some last =>
    !last.isEmpty && last.all Char.isDigit ||
      (match last with
       | '0' :: x :: _ => (x == 'x' || x == 'X') && (ipv4Part? last).isSome
       | _ => false)
  | none => false

/-- The address that up to four parts write. The last part fills what the others leave. -/
def ipv4? (domain : List Char) : Except ParseError Host :=
  let parts := labels domain
  match parts.mapM ipv4Part? with
  | some numbers =>
    let first := numbers.dropLast
    let last := numbers.getLast?.getD 0
    let room := Nat.pow 256 (5 - numbers.length)
    if numbers.length ≤ 4 ∧ first.all (· ≤ 255) ∧ last < room then
      .ok (ipv4 (first.foldl (fun n d => n * 256 + d) 0 * room + last))
    else .error .invalidIpv4
  | none => .error .invalidIpv4

/-! ### Addresses of version 6 -/

/-- The two groups that an address of version 4 in dotted form writes. -/
def dottedGroups? (text : List Char) : Option (List Nat) := do
  let parts ← (Text.splitOn '.' text).mapM fun part =>
    if part.length ≤ 3 ∧ part.all Char.isDigit ∧ (part.length ≤ 1 ∨ part.head? ≠ some '0') then
      (number? 10 part).filter (· ≤ 255)
    else none
  match parts with
  | [a, b, c, d] => some [a * 256 + b, c * 256 + d]
  | _ => none

/-- The groups that texts between colons write. The last one may be in dotted form. -/
def groups? : List (List Char) → Option (List Nat)
  | [] => some []
  | [last] =>
    if last.contains '.' then dottedGroups? last
    else if last.length ≤ 4 then (number? 16 last).map ([·]) else none
  | part :: rest => do
    let group ← if part.length ≤ 4 then number? 16 part else none
    return group :: (← groups? rest)

/-- A text cut at the first pair of colons. -/
def cutAtPair (before : List Char) : List Char → Option (List Char × List Char)
  | ':' :: ':' :: rest => some (before.reverse, rest)
  | c :: rest => cutAtPair (c :: before) rest
  | [] => none

/-- The groups that a text writes between pairs of colons; none when it is empty. -/
def sideGroups? (text : List Char) : Option (List Nat) :=
  if text.isEmpty then some [] else groups? (Text.splitOn ':' text)

/-- The address that a text between square brackets writes. -/
def ipv6? (text : List Char) : Option Host :=
  match cutAtPair [] text with
  | none => (groups? (Text.splitOn ':' text)).bind fun groups =>
      if groups.length = 8 then some (ipv6 groups) else none
  | some (before, after) => do
    let first ← sideGroups? before
    let last ← sideGroups? after
    if before.contains '.' ∨ first.length + last.length > 7 then none
    else some (ipv6 (first ++ List.replicate (8 - first.length - last.length) 0 ++ last))

/-- The longest run of zero groups, the first of several: where it starts and how long it is. -/
def longestZeros (groups : List Nat) : Nat × Nat :=
  let runs := (List.range groups.length).map fun i =>
    (i, ((groups.drop i).takeWhile (· == 0)).length)
  runs.foldl (fun best run => if best.2 < run.2 then run else best) (0, 0)

/-- Groups in hexadecimal digits, between colons. -/
def groupsText (groups : List Nat) : String :=
  String.intercalate ":" (groups.map fun n => String.ofList (Nat.toDigits 16 n))

/-- The text of a host in a URL. -/
def text : Host → String
  | empty => ""
  | name text => text
  | ipv4 n => String.intercalate "."
      ([n / 16777216, n / 65536 % 256, n / 256 % 256, n % 256].map toString)
  | ipv6 groups =>
    let (start, length) := longestZeros groups
    let inner :=
      if length ≤ 1 then groupsText groups
      else groupsText (groups.take start) ++ "::" ++ groupsText (groups.drop (start + length))
    "[" ++ inner ++ "]"

/-! ### Names -/

/-- Characters that no host of a URL without a special scheme contains. -/
def forbiddenInName (c : Char) : Bool :=
  c.toNat == 0 || "\t\n\r #/:<>?@[\\]^|".toList.contains c

/-- The address between square brackets. -/
def bracketed? (text : List Char) : Except ParseError Host :=
  match text.getLast? with
  | some ']' =>
    match ipv6? ((text.drop 1).dropLast) with
    | some host => .ok host
    | none => .error .invalidIpv6
  | _ => .error .invalidIpv6

/-- The host that a text names in a URL of a special scheme. -/
def parseDomain (text : List Char) : Except ParseError Host :=
  if text.head? = some '[' then bracketed? text
  else
    let decoded := String.fromUTF8? (ByteArray.mk (decode text).toArray)
    match decoded.bind fun s => Domain.toAscii? s.toList with
    | none => .error .invalidDomain
    | some ascii =>
      if ascii.isEmpty then .error .emptyHost
      else if endsInNumber ascii then ipv4? ascii
      else .ok (name (String.ofList ascii))

/-- The host that a text names in a URL without a special scheme. -/
def parseName (text : List Char) : Except ParseError Host :=
  if text.head? = some '[' then bracketed? text
  else if text.any forbiddenInName then .error .invalidHostCharacter
  else if text.isEmpty then .ok empty
  else .ok (name (encode EncodeSet.control text))

end Host

end Url

end SailNav
