import SailNav.Disk.Basic

/-!
# Reading a source file

A source file is read unless it is too large. The limit is checked before anything is read, so a
large file is refused whatever it holds.
-/

namespace SailNav

/-- Why a file is not read. -/
inductive LoadError where
  | unreadable (cause : IoError)
  | tooLarge (size limit : Nat)
  | notText
  deriving DecidableEq, Repr, Inhabited

/-- What the user is told. -/
def LoadError.message : LoadError → String
  | unreadable cause => "read failed: " ++ cause.message
  | tooLarge size limit =>
    "file is " ++ toString size ++ " bytes, above the " ++ toString limit ++ " byte limit"
  | notText => "file is not valid UTF-8"

namespace Disk

/-- The text of the file that a path leads to, unless the file is larger than a limit. -/
def load (d : Disk) (p : Path) (limit : Nat) : Except LoadError String :=
  match d.stat p with
  | .error e => .error (.unreadable e)
  | .ok (.file content) =>
    if limit < content.size then .error (.tooLarge content.size limit)
    else
      match String.fromUTF8? content with
      | some text => .ok text
      | none => .error .notText
  | .ok _ => .error (.unreadable .isDirectory)

end Disk

end SailNav
