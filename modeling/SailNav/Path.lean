import SailNav.Text.Utf8

/-!
# Paths

A path is a sequence of bytes, as a file system takes it: it need not be readable text, it need not
name anything, and two of them may name the same file. What can be told of a path without a look at
a disk is its *components*, the names between its slashes. Repeated slashes and dots that mean
nothing do not count there, but two dots do, since they cannot be resolved without the disk.

A `SailNav.Location` is what a path leads to: the names on the way from the root of the disk, each
text and none a dot.
-/

namespace SailNav

/-- A path as a file system takes it. -/
structure Path where
  bytes : List UInt8
  deriving DecidableEq, Repr, Inhabited

/-- The names on the way from the root to a file or directory. -/
abbrev Location := List String

namespace Path

/-- The byte of a slash. -/
def slash : UInt8 := 0x2F

/-- The byte of a dot. -/
def dot : UInt8 := 0x2E

def ofString (text : String) : Path := ⟨Text.toBytes text⟩

/-- The path as it is shown. -/
def display (p : Path) : String := Text.ofBytes p.bytes

def isAbsolute (p : Path) : Bool := p.bytes.head? == some slash

/-! ### Components -/

/-- A part of a path between slashes. -/
inductive Component where
  /-- The root of the disk, before the first slash. -/
  | root
  /-- A dot at the start of a path that is not absolute. -/
  | here
  /-- Two dots: the directory above. -/
  | up
  | name (bytes : List UInt8)
  deriving DecidableEq, Repr, Inhabited

/-- Bytes cut at every slash. There is one piece more than there are slashes. -/
def pieces (bytes : List UInt8) : List (List UInt8) :=
  let (last, taken) := bytes.foldl (fun (current, taken) b =>
    if b = slash then ([], current.reverse :: taken) else (b :: current, taken)) ([], [])
  (last.reverse :: taken).reverse

/-- The component that a piece is, unless it means nothing. -/
def component? (piece : List UInt8) : Option Component :=
  if piece = [] ∨ piece = [dot] then none
  else if piece = [dot, dot] then some .up
  else some (.name piece)

/-- The components of a path. -/
def components (p : Path) : List Component :=
  let rest := (pieces p.bytes).filterMap component?
  if p.isAbsolute then .root :: rest
  else if (pieces p.bytes).head? = some [dot] then .here :: rest
  else rest

/-- Whether the components of a path start with those of another. -/
def startsWith (p q : Path) : Bool := q.components.isPrefixOf p.components

/-- The name of what a path ends in, if it ends in a name. -/
def fileName? (p : Path) : Option (List UInt8) :=
  match p.components.getLast? with
  | some (.name bytes) => some bytes
  | _ => none

/-- What stands behind the last dot of a name, if something stands before it. -/
def extension? (name : List UInt8) : Option (List UInt8) :=
  match name.reverse.dropWhile (· != dot) with
  | _ :: before => if before.isEmpty then none else some (name.reverse.takeWhile (· != dot)).reverse
  | [] => none

/-- Whether a name is that of a Sail file. -/
def isSailName (name : List UInt8) : Bool := extension? name == some (Text.toBytes "sail")

/-- Whether a path ends in the name of a Sail file. -/
def isSailFile (p : Path) : Bool := p.fileName?.any isSailName

/-! ### Putting paths together -/

/-- A path followed inside a directory. An absolute path leads away from the directory. -/
def join (directory p : Path) : Path :=
  if p.isAbsolute then p
  else if directory.bytes = [] ∨ directory.bytes.getLast? = some slash then
    ⟨directory.bytes ++ p.bytes⟩
  else ⟨directory.bytes ++ slash :: p.bytes⟩

/-- A component as it is written. The root is what stands before the first slash. -/
def Component.bytes : Component → List UInt8
  | root => []
  | here => [dot]
  | up => [dot, dot]
  | name bytes => bytes

/-- The path with some components. -/
def ofComponents : List Component → Path
  | [.root] => ⟨[slash]⟩
  | components => ⟨[slash].intercalate (components.map Component.bytes)⟩

/-- The path to the directory that what a path ends in stands in, if it ends in something. -/
def parent? (p : Path) : Option Path :=
  match p.components.reverse with
  | [] => none
  | .root :: _ => none
  | _ :: rest => some (ofComponents rest.reverse)

end Path

namespace Location

/-- The absolute path to a location. -/
def path (l : Location) : Path :=
  match l with
  | [] => ⟨[Path.slash]⟩
  | names => ⟨names.flatMap fun name => Path.slash :: Text.toBytes name⟩

end Location

end SailNav
