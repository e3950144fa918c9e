import SailNav.Text.Split
import SailNav.Url.Basic

/-!
# Reading URLs

`SailNav.Url.parse` reads an absolute URL. Control characters and spaces around it are left aside,
and tabs and line ends are passed over wherever they stand. The rest is cut up from the outside: the
fragment behind the first `#`, the query behind the first `?`, the scheme before the first `:`. What
is left is read by the kind of scheme.

* A *special* scheme, such as `http`, always has a machine. A backslash is as good as a slash.
* `file` is special too, but its machine may be missing, and usually is. The name `localhost` is
  no machine. The path of a file is never empty and never starts with an empty segment, and a drive
  letter at its start is written with a colon.
* Any other scheme has a machine behind two slashes, a path behind one, and a plain path
  otherwise.

Dot segments are resolved while the path is read, percent-encoded dots included. A segment that is
a drive letter is never removed by them, whatever the scheme is.
-/

namespace SailNav

namespace Url

/-! ### Schemes -/

/-- How the part behind a scheme is read. -/
inductive SchemeKind where
  | file
  /-- Any other scheme with a machine, and its usual port. -/
  | special (port : Nat)
  | other
  deriving DecidableEq, Repr, Inhabited

namespace SchemeKind

def ofScheme (scheme : String) : SchemeKind :=
  match scheme with
  | "file" => file
  | "http" | "ws" => special 80
  | "https" | "wss" => special 443
  | "ftp" => special 21
  | _ => other

def isSpecial : SchemeKind → Bool
  | other => false
  | _ => true

/-- Whether a character separates the segments of a path. -/
def isSlash (kind : SchemeKind) (c : Char) : Bool := c == '/' || kind.isSpecial && c == '\\'

end SchemeKind

/-- Whether a character may stand in a scheme behind its first letter. -/
def isSchemeChar (c : Char) : Bool := c.isAlphanum || c == '+' || c == '-' || c == '.'

/-- The scheme that the characters before the first colon of a text write. -/
def scheme? (text : List Char) : Option String :=
  match text, text.dropWhile isSchemeChar with
  | first :: _, ':' :: _ =>
    if first.isAlpha then some (String.ofList ((text.takeWhile isSchemeChar).map Char.toLower))
    else none
  | _, _ => none

/-! ### Paths -/

/-- Whether a text is a letter and a colon or a bar. -/
def isDriveLetter : List Char → Bool
  | [a, b] => a.isAlpha && (b == ':' || b == '|')
  | _ => false

/-- The segment for the directory itself. -/
def isSingleDot (segment : String) : Bool := [".", "%2e", "%2E"].contains segment

/-- The segment for the directory above. -/
def isDoubleDot (segment : String) : Bool :=
  ["..", ".%2e", ".%2E", "%2e.", "%2E.", "%2e%2e", "%2e%2E", "%2E%2e", "%2E%2E"].contains segment

/-- Whether a segment is a drive letter, perhaps with a backslash behind it. -/
def isDriveSegment (segment : String) : Bool :=
  isDriveLetter (segment.toList.take 2) && (segment.toList[2]?).all (· == '\\')

/-- Segments, backwards, without the last one. A drive letter stays. -/
def shorten : List String → List String
  | [] => []
  | name :: before => if isDriveSegment name then name :: before else before

/-- Adds a segment to those before it, which are backwards; `last` says that no slash follows. -/
def addSegment (taken : List String) (segment : String) (last : Bool) : List String :=
  if isDoubleDot segment then
    if last then "" :: shorten taken else shorten taken
  else if isSingleDot segment then
    if last then "" :: taken else taken
  else segment :: taken

/-- Adds segments to those before them, which are backwards. -/
def addSegments (taken : List String) : List (List Char) → List String
  | [] => taken
  | [segment] => addSegment taken (encode EncodeSet.path segment) true
  | segment :: rest => addSegments (addSegment taken (encode EncodeSet.path segment) false) rest

/-- The segments of the path that a text writes, the slash at its start left out. -/
def pathSegments (kind : SchemeKind) (text : List Char) : List String :=
  let text := text.map fun c => if kind.isSlash c then '/' else c
  let text := if text.head? = some '/' then text.drop 1 else text
  (addSegments [] (Text.splitOn '/' text)).reverse

/-- A host and what stands behind it, from a colon outside square brackets on. -/
def cutPort (inBrackets : Bool) (taken : List Char) : List Char → List Char × Option (List Char)
  | [] => (taken.reverse, none)
  | c :: rest =>
    if c = ':' ∧ !inBrackets then (taken.reverse, some rest)
    else cutPort (if c = '[' then true else if c = ']' then false else inBrackets) (c :: taken) rest

/-- The port that a text behind a colon writes, unless it is the usual one or missing. -/
def parsePort (kind : SchemeKind) : Option (List Char) → Except ParseError (Option Nat)
  | none => .ok none
  | some [] => .ok none
  | some text =>
    match number? 10 text with
    | some n =>
      if n > 65535 then .error .invalidPort
      else .ok (if kind = .special n then none else some n)
    | none => .error .invalidPort

/-- Reads an authority; `more` says that something follows it in the URL. What stands behind the
digits of a port from a backslash on is not part of the authority, and is given back. -/
def parseAuthority (kind : SchemeKind) (text : List Char) (more : Bool) :
    Except ParseError (Authority × List Char) := do
  let (userinfo, address) := (Text.cutAtLast? '@' text).getD ([], text)
  if text = ['@'] ∧ more then throw .emptyHost
  let username := encode EncodeSet.userinfo (userinfo.takeWhile (· != ':'))
  let password :=
    match (userinfo.dropWhile (· != ':')).drop 1 with
    | [] => none
    | password => some (encode EncodeSet.userinfo password)
  let (hostText, portText) := cutPort false [] address
  let host ←
    if kind = .other then Host.parseName hostText
    else if hostText.isEmpty then .error .emptyHost
    else Host.parseDomain hostText
  if host = .empty ∧ (portText.isSome ∨ username ≠ "" ∨ password.isSome) then throw .emptyHost
  let port ← parsePort kind (portText.map fun t => t.takeWhile (· != '\\'))
  return (⟨username, password, host, port⟩, (portText.getD []).dropWhile (· != '\\'))

/-- Reads what stands behind two slashes. -/
def parseNetworkBody (kind : SchemeKind) (text : List Char) (more : Bool) :
    Except ParseError (Authority × Route) := do
  let path := text.dropWhile (!kind.isSlash ·)
  let (authority, rest) ←
    parseAuthority kind (text.takeWhile (!kind.isSlash ·)) (more || !path.isEmpty)
  let path := rest ++ path
  let names := if path.isEmpty ∧ !kind.isSpecial then [] else pathSegments kind path
  return (authority, .segments names)

/-! ### Files -/

/-- Whether a character is passed over wherever it stands in a URL. -/
def isSkipped (c : Char) : Bool := c == '\t' || c == '\n' || c == '\r'

/-- The characters of a text that count. -/
def significant (text : List Char) : List Char := text.filter (!isSkipped ·)

/-- Whether a character separates the parts of the URL of a file. -/
def isFileSlash (c : Char) : Bool := SchemeKind.file.isSlash c

/-- What stands behind a slash at the start of a text, if there is one. -/
def behindSlash? (text : List Char) : Option (List Char) :=
  match text.dropWhile isSkipped with
  | c :: rest => if isFileSlash c then some rest else none
  | [] => none

/-- A drive letter with a colon, and the rest of a segment behind it, when the segment goes on
behind a character that is passed over. -/
def driveAndRest? (segment : List Char) : Option (List Char × List Char) :=
  match significant segment, segment.dropWhile (· != ':') with
  | letter :: ':' :: c :: rest, ':' :: skipped :: _ =>
    if letter.isAlpha ∧ isSkipped skipped then some ([letter, ':'], c :: rest) else none
  | _, _ => none

/-- The path of a file while it is read. -/
structure FilePath where
  /-- The segments, backwards. -/
  taken : List String
  /-- Whether the first segment is a drive letter, which belongs to no other machine. -/
  hasDrive : Bool

namespace FilePath

/-- Takes a segment; `last` says that no slash follows. A drive letter at the start of the path gets
a colon. -/
def step (p : FilePath) (segment : List Char) (last : Bool) : FilePath :=
  match if p.taken.isEmpty then driveAndRest? segment else none with
  | some (drive, rest) =>
    { p with taken := [encode EncodeSet.path rest, String.ofList drive] }
  | none =>
    let segment := significant segment
    if p.taken.isEmpty ∧ isDriveLetter segment then
      ⟨[String.ofList (segment.take 1 ++ [':'])], true⟩
    else { p with taken := addSegment p.taken (encode EncodeSet.path segment) last }

/-- Takes segments. -/
def steps (p : FilePath) : List (List Char) → FilePath
  | [] => p
  | [segment] => p.step segment true
  | segment :: rest => (p.step segment false).steps rest

/-- The segments of the path: never none, and never an empty one at the start unless it is all. -/
def names (p : FilePath) : List String :=
  match p.taken.reverse.dropWhile String.isEmpty with
  | [] => [""]
  | names => names

/-- The path that a text writes. -/
def ofText (text : List Char) : FilePath :=
  let text := text.map fun c => if isFileSlash c then '/' else c
  (⟨[], false⟩ : FilePath).steps (Text.splitOn '/' text)

end FilePath

/-- Reads the machine of a file, which has neither user nor port. -/
def parseFileHost (text : List Char) : Except ParseError Host :=
  if text.isEmpty then .ok .empty
  else do
    let host ← Host.parseDomain text
    return if host = .name "localhost" then .empty else host

/-- Reads what stands behind the scheme of a file. Behind the two slashes of a machine that is
missing, the slash of the path counts as a segment, so no drive letter comes first. A drive letter
behind the name of a machine overrides it. -/
def parseFileBody (body : List Char) : Except ParseError (Authority × Route) :=
  let onDisk (p : FilePath) : Authority × Route := (.noMachine, .segments p.names)
  match behindSlash? body with
  | none => .ok (onDisk (.ofText body))
  | some afterOne =>
    match behindSlash? afterOne with
    | none => .ok (onDisk (.ofText afterOne))
    | some afterTwo =>
      let hostText := significant (afterTwo.takeWhile (!isFileSlash ·))
      let path := afterTwo.dropWhile (!isFileSlash ·)
      if isDriveLetter hostText then .ok (onDisk (.ofText afterTwo))
      else do
        let host ← parseFileHost hostText
        if host = .empty then return onDisk (.ofText path)
        else
          let p := FilePath.ofText (path.drop 1)
          return (⟨"", none, if p.hasDrive then .empty else host, none⟩, .segments p.names)

/-! ### URLs -/

/-- Whether a character is left aside at the ends of a URL. -/
def isEdge (c : Char) : Bool := c.toNat ≤ 0x20

/-- A text without the characters that are left aside at its ends. -/
def trimEdges (text : List Char) : List Char :=
  ((text.dropWhile isEdge).reverse.dropWhile isEdge).reverse

/-- Reads what stands behind a scheme, query and fragment left out; `more` says that one of these is
there. -/
def parseBody (kind : SchemeKind) (body : List Char) (more : Bool) :
    Except ParseError (Option Authority × Route) :=
  match kind with
  | .file => (parseFileBody body).map fun (a, r) => (some a, r)
  | .special _ =>
    (parseNetworkBody kind (body.dropWhile kind.isSlash) more).map fun (a, r) => (some a, r)
  | .other =>
    match body with
    | '/' :: '/' :: rest => (parseNetworkBody kind rest more).map fun (a, r) => (some a, r)
    | '/' :: rest => .ok (none, .segments (pathSegments kind ('/' :: rest)))
    | _ => .ok (none, .plain (encode EncodeSet.control body))

/-- Reads an absolute URL. -/
def parse (text : String) : Except ParseError Url :=
  let text := trimEdges text.toList
  match scheme? (significant text) with
  | none => .error .relativeWithoutBase
  | some scheme => do
    let kind := SchemeKind.ofScheme scheme
    let rest := (text.dropWhile (· != ':')).drop 1
    let (front, fragment) := (rest.takeWhile (· != '#'), rest.dropWhile (· != '#'))
    let (body, query) := (front.takeWhile (· != '?'), front.dropWhile (· != '?'))
    let (authority, route) ←
      parseBody kind (if kind = .file then body else significant body)
        (!fragment.isEmpty || !query.isEmpty)
    let querySet := if kind.isSpecial then EncodeSet.specialQuery else EncodeSet.query
    let written (s : EncodeSet) (part : List Char) : Option String :=
      if part.isEmpty then none else some (encode s (significant (part.drop 1)))
    return {
      scheme := scheme
      authority := authority
      route := route
      query := written querySet query
      fragment := written EncodeSet.fragment fragment }

/-- The URL that a text writes, if it writes one. -/
def parse? (text : String) : Option Url := (parse text).toOption

end Url

end SailNav
