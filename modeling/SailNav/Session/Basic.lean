import SailNav.Analysis.Symbol
import SailNav.Document.Store
import SailNav.Progress.Basic
import SailNav.Settings.Patch

/-!
# Sessions

A session with an editor: what is set, which folders the workspace has, which documents are open,
and what is known of the tracked files. The disk is not part of it: it changes by itself, so
everything that looks at files takes the disk as it is at that time.

A session is *initialized* by the first request and then takes messages until it is shut down. At
any time it can be *exited*, and then nothing is heard or answered any more.
-/

namespace SailNav

/-- How far a session has come. -/
inductive Phase where
  | uninitialized
  | initialized
  | shutDown
  | exited
  deriving DecidableEq, Repr, Inhabited

/-- A folder of the workspace. -/
structure WorkspaceFolder where
  url : Url
  name : String
  deriving DecidableEq, Repr, Inhabited

/-- A session with an editor. -/
structure Session where
  phase : Phase
  settings : Settings
  folders : List WorkspaceFolder
  documents : DocumentStore
  analysis : Analysis
  /-- Whether the editor is willing to tell of changes on the disk. -/
  watchesFiles : Bool
  /-- Whether the editor shows some of the log. -/
  echoesLog : Bool
  /-- The number of the next piece of work. -/
  nextProgress : Nat

namespace Session

/-- A session before its first message. -/
def fresh (echoesLog : Bool) : Session where
  phase := .uninitialized
  settings := .initial
  folders := []
  documents := .empty
  analysis := .empty
  watchesFiles := false
  echoesLog := echoesLog
  nextProgress := 1

/-- The paths of the folders that are on the disk. -/
def roots (s : Session) : List Path := s.folders.filterMap fun f => f.url.toPath?

/-! ### Telling the editor -/

/-- What happens when the faults of a document are to be shown: those of the text that is tracked
for it. -/
def publish (s : Session) (d : Disk) (u : Url) (version : Option Int) : List Effect :=
  if s.settings.lexical then
    match s.analysis.snapshot? (.ofUrl d u) with
    | none => [.log (.nothingToDiagnose u)]
    | some snapshot =>
      let faults := snapshot.diagnostics
      [.log (.diagnosed faults.length u), .send (.diagnostics u faults version)]
  else []

/-- What happens when a document is to be shown without faults. -/
def withdraw (u : Url) : List Effect := [.send (.diagnostics u [] none)]

/-- What happens when a line goes to the log that the editor shows. -/
def echo (s : Session) (message : String) : List Effect :=
  if s.echoesLog && s.settings.level.allowsInfo then
    [.send (.logged ("sail-analyzer: " ++ message))]
  else []

end Session

end SailNav
