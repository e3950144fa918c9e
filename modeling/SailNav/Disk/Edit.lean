import SailNav.Disk.Basic

/-!
# Changing a disk

Directories, files and links are made at the location that a path leads to. A file is written
through the links on its way, the last one too; a directory, a link and a removal concern what
stands at the path itself. Every change first makes the directories that its path stands in, and
gives the disk as it is afterwards, with the reason if the change was refused.
-/

namespace SailNav

namespace Disk

/-- The disk with something at a location. -/
def put (d : Disk) (l : Location) (e : Entry) : Disk := ⟨d.table.put l e⟩

/-- The disk without what is at a location or below it. -/
def prune (d : Disk) (l : Location) : Disk :=
  ⟨⟨d.table.entries.filter fun e => !l.isPrefixOf e.1⟩⟩

/-! ### Directories -/

/-- Makes a directory whose parent is there, unless a directory is there. A path on which something
else stands is refused: at its end because it is taken, before its end because it is no directory,
unless it is a link that leads nowhere. -/
def makeDirectory (d : Disk) (p : Path) (atEnd : Bool) : Except IoError Disk :=
  match d.stat p with
  | .ok .directory => .ok d
  | .ok (.file _) => .error (if atEnd then .alreadyExists else .notDirectory)
  | _ =>
    match d.arrive p false with
    | .ok (.missing l) => .ok (d.put l .directory)
    | .ok (.there _) => .error .alreadyExists
    | .error e => .error e

/-- Makes the directories of a path, one component after another, until one is refused. `made` holds
the components before, the last first. -/
def makeAll (d : Disk) (made : List Path.Component) : List Path.Component → Disk × Option IoError
  | [] => (d, none)
  | c :: rest =>
    match d.makeDirectory (.ofComponents (c :: made).reverse) rest.isEmpty with
    | .ok d => makeAll d (c :: made) rest
    | .error e => (d, some e)

/-- Makes a directory, and the directories on the way to it. -/
def makeWay (d : Disk) (p : Path) : Disk × Option IoError := makeAll d [] p.components

/-- Makes the directory that a path stands in, and then another change. The directories that were
made stay when the change is refused. -/
def within (d : Disk) (p : Path) (change : Disk → Disk × Option IoError) :
    Disk × Option IoError :=
  match p.parent? with
  | none => change d
  | some parent =>
    match d.makeWay parent with
    | (d, none) => change d
    | refused => refused

/-- Makes a directory. -/
def makeDirectories (d : Disk) (p : Path) : Disk × Option IoError :=
  d.within p fun d => d.makeWay p

/-! ### Files and links -/

/-- Writes a file, in place of one that is there. A path with a slash at its end asks for a
directory. -/
def writeFile (d : Disk) (p : Path) (content : ByteArray) : Disk × Option IoError :=
  d.within p fun d =>
    if p.bytes.getLast? = some Path.slash then (d, some .isDirectory)
    else
      match d.arrive p true with
      | .ok (.missing l) => (d.put l (.file content), none)
      | .ok (.there l) =>
        match d.entry? l with
        | some .directory => (d, some .isDirectory)
        | _ => (d.put l (.file content), none)
      | .error e => (d, some e)

/-- Makes a link to a path. -/
def makeLink (d : Disk) (p target : Path) : Disk × Option IoError :=
  d.within p fun d =>
    match d.arrive p false with
    | .ok (.missing l) => (d.put l (.link target), none)
    | .ok (.there _) => (d, some .alreadyExists)
    | .error e => (d, some e)

/-- Removes a file, a link, or a directory with all that is in it. -/
def remove (d : Disk) (p : Path) : Disk × Option IoError :=
  d.within p fun d =>
    match d.arrive p false with
    | .ok (.missing _) => (d, some .notFound)
    | .ok (.there l) => (d.prune l, none)
    | .error e => (d, some e)

end Disk

end SailNav
