import SailNav.Path
import SailNav.Url.Parse

/-!
# URLs and paths

A document with a path of segments and without a machine is a file, whatever its scheme: the
segments, decoded, are the names of the path (`SailNav.Url.toPath?`). The other way, every absolute
path has a `file` URL (`SailNav.Url.ofPath?`), which is what an editor and the library agree to call
the file. It is made of the components of the path, so two spellings of a path may have the same
URL.
-/

namespace SailNav

namespace Url

/-- Whether a path ends in a letter and a colon or a bar, as a drive of another kind of system
does. -/
def endsInDrive (bytes : List UInt8) : Bool :=
  match bytes.reverse with
  | mark :: letter :: _ :: _ =>
    (mark == 0x3A || mark == 0x7C) &&
      (0x41 ≤ letter && letter ≤ 0x5A || 0x61 ≤ letter && letter ≤ 0x7A)
  | _ => false

/-- Whether a URL names no machine, or this one. -/
def isLocal (u : Url) : Bool :=
  match u.host with
  | .empty => true
  | .name text => text == "localhost"
  | _ => false

/-- The path of the file that a URL names. A drive at the end gets a slash. -/
def toPath? (u : Url) : Option Path :=
  match u.route with
  | .plain _ => none
  | .segments [] => none
  | .segments names =>
    if u.isLocal then
      let bytes := names.flatMap fun name => Path.slash :: decode name.toList
      some ⟨if endsInDrive bytes then bytes ++ [Path.slash] else bytes⟩
    else none

/-- The segment of a URL for a component of a path. -/
def segmentOf? : Path.Component → Option String
  | .root => none
  | .here => some "."
  | .up => some ".."
  | .name bytes => some (encodeBytes EncodeSet.segment bytes)

/-- The URL of a file, by an absolute path to it. -/
def ofPath? (p : Path) : Option Url :=
  if p.isAbsolute then
    let names := p.components.filterMap segmentOf?
    some {
      scheme := "file"
      authority := some .noMachine
      route := .segments (if names.isEmpty then [""] else names)
      query := none
      fragment := none }
  else none

end Url

end SailNav
