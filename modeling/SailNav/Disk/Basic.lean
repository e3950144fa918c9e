import SailNav.Table
import SailNav.Path

/-!
# Disks

A disk is a tree of directories with files and symbolic links in it. It is kept flat, as a table
from locations to what is there, so a link never hides where something really is. The root is a
directory that is always there and has no entry.

`SailNav.Disk.resolve` follows a path to a location. Every name on the way has to lead to a
directory, and links are followed wherever they stand, as often as forty times.
-/

namespace SailNav

/-- What is at a location of a disk. -/
inductive Entry where
  | directory
  | file (content : ByteArray)
  /-- A symbolic link, and the path it stands for. -/
  | link (target : Path)
  deriving Inhabited

/-- Whether something is a directory. -/
def Entry.isDirectory : Entry → Bool
  | directory => true
  | _ => false

/-- The files of a machine. -/
structure Disk where
  table : Table Location Entry
  deriving Inhabited

/-- Why the disk refuses an operation. -/
inductive IoError where
  | notFound
  | alreadyExists
  | notDirectory
  | isDirectory
  | tooManyLinks
  | nameTooLong
  | nulByte
  deriving DecidableEq, Repr, Inhabited

/-- What the user is told. -/
def IoError.message : IoError → String
  | notFound => "No such file or directory (os error 2)"
  | alreadyExists => "File exists (os error 17)"
  | notDirectory => "Not a directory (os error 20)"
  | isDirectory => "Is a directory (os error 21)"
  | tooManyLinks => "Too many levels of symbolic links (os error 40)"
  | nameTooLong => "File name too long (os error 36)"
  | nulByte => "file name contained an unexpected NUL byte"

namespace Disk

/-- A disk with nothing but its root. -/
def empty : Disk := ⟨.empty⟩

/-- What is at a location. -/
def entry? (d : Disk) (l : Location) : Option Entry :=
  match l with
  | [] => some .directory
  | l => d.table.get? l

/-- The names in a directory. -/
def namesIn (d : Disk) (l : Location) : List String :=
  d.table.keys.filterMap fun k =>
    if k.dropLast = l then k.getLast? else none

/-! ### Following paths -/

/-- A step on the way of a path. -/
inductive Way where
  /-- Stay, in a directory. -/
  | here
  | up
  | name (text : String)
  deriving DecidableEq, Repr, Inhabited

/-- The greatest number of links that are followed on one way. -/
def linkLimit : Nat := 40

/-- The greatest number of bytes of a name. -/
def nameLimit : Nat := 255

/-- The greatest number of bytes of a path. -/
def pathLimit : Nat := 4095

/-- The step that a piece of a path asks for. A piece that is no text names nothing. -/
def wayOf (piece : List UInt8) : Except IoError Way :=
  if piece = [] ∨ piece = [Path.dot] then .ok .here
  else if piece = [Path.dot, Path.dot] then .ok .up
  else if piece.length > nameLimit then .error .nameTooLong
  else
    match String.fromUTF8? (ByteArray.mk piece.toArray) with
    | some text => .ok (.name text)
    | none => .error .notFound

/-- The steps of a path, the first slash of an absolute one left out. Steps that can never be made
come as the reason. -/
def waysOf (p : Path) : List (Except IoError Way) :=
  let pieces := Path.pieces p.bytes
  (if p.isAbsolute then pieces.drop 1 else pieces).map wayOf

/-- Where a way leads to. A way whose last name is missing leads to the location at which it could
be made. -/
inductive Arrival where
  | there (location : Location)
  | missing (location : Location)
  deriving DecidableEq, Repr, Inhabited

/-- Follows steps from the directory at a location. `links` is how many links may still be followed,
and `followLast` says whether a link at the very end is followed too. -/
def follow (d : Disk) (followLast : Bool) (links : Nat) (at_ : Location) :
    List (Except IoError Way) → Except IoError Arrival
  | [] => .ok (.there at_)
  | .error e :: _ => .error e
  | .ok .here :: rest => follow d followLast links at_ rest
  | .ok .up :: rest => follow d followLast links at_.dropLast rest
  | .ok (.name text) :: rest =>
    let next := at_ ++ [text]
    match d.entry? next with
    | none => if rest.isEmpty then .ok (.missing next) else .error .notFound
    | some .directory => follow d followLast links next rest
    | some (.file _) => if rest.isEmpty then .ok (.there next) else .error .notDirectory
    | some (.link target) =>
      if rest.isEmpty ∧ !followLast then .ok (.there next)
      else
        match links with
        | 0 => .error .tooManyLinks
        | links + 1 =>
          follow d followLast links (if target.isAbsolute then [] else at_) (waysOf target ++ rest)
termination_by ways => (links, ways.length)

/-- Where a path leads to, seen from the root. -/
def arrive (d : Disk) (p : Path) (followLast : Bool) : Except IoError Arrival :=
  if p.bytes.contains 0 then .error .nulByte
  else if p.bytes.isEmpty then .error .notFound
  else if p.bytes.length > pathLimit then .error .nameTooLong
  else follow d followLast linkLimit [] (waysOf p)

/-- The location that a path leads to, links followed. -/
def resolve (d : Disk) (p : Path) : Except IoError Location :=
  match d.arrive p true with
  | .ok (.there l) => .ok l
  | .ok (.missing _) => .error .notFound
  | .error e => .error e

/-- What a path leads to, links followed. -/
def stat (d : Disk) (p : Path) : Except IoError Entry := do
  let l ← d.resolve p
  match d.entry? l with
  | some e => .ok e
  | none => .error .notFound

/-- Whether a path leads to a file. -/
def isFile (d : Disk) (p : Path) : Bool :=
  match d.stat p with
  | .ok (.file _) => true
  | _ => false

/-- The path by which a file is known: that of its location, or, when there is no file, that of the
location at which its directory would hold it. A path that leads nowhere is known by itself. -/
def normalize (d : Disk) (p : Path) : Path :=
  match d.resolve p with
  | .ok l => l.path
  | .error _ =>
    match p.parent?, p.fileName? with
    | some parent, some name =>
      if parent.bytes.isEmpty then p
      else
        match d.resolve parent with
        | .ok l => l.path.join ⟨name⟩
        | .error _ => p
    | _, _ => p

end Disk

end SailNav
