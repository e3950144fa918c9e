import SailNav.Session.Documents

/-!
# Requests and notifications

What an editor can ask for, and what it can tell. A request has an answer; a notification has none.
Neither is more than a question about the session or one of its changes, so what a message means is
said in one line each (`SailNav.Session.perform`, `SailNav.Session.notice`).
-/

namespace SailNav

/-- What an editor says of itself at the beginning. -/
structure Introduction where
  folders : List WorkspaceFolder
  /-- The settings, as the editor sends them. -/
  settings : Option Json
  /-- Whether the editor is willing to tell of changes on the disk. -/
  watchesFiles : Bool
  deriving Inhabited

/-- Something that an editor asks for. -/
inductive Request where
  | introduce (editor : Introduction)
  | shutdown
  | definition (url : Url) (position : Position)
  | documentSymbols (url : Url)
  | workspaceSymbols (query : String)
  deriving Inhabited

/-- What a request is answered with. -/
inductive Answer where
  | nothing
  /-- What the session can do. -/
  | abilities
  | destination (place : Destination)
  | symbols (found : List Symbol)
  deriving DecidableEq, Repr, Inhabited

/-- Something that an editor tells. -/
inductive Notification where
  | initialized
  | configured (payload : Json)
  | foldersChanged (added removed : List WorkspaceFolder)
  | filesChanged (changes : List Session.FileChange)
  | opened (url : Url) (text : String) (version : Int)
  | changed (url : Url) (edits : List Edit) (version : Int)
  | saved (url : Url)
  | closed (url : Url)
  deriving Inhabited

namespace Session

/-! ### Requests -/

/-- The session with an editor that has introduced itself. -/
def introduced (s : Session) (editor : Introduction) : Session :=
  { s with
    phase := .initialized
    settings := .ofPayload editor.settings
    folders := editor.folders
    watchesFiles := editor.watchesFiles }

/-- What is logged when a name with several sites is looked up. -/
def candidateEffects (s : Session) (file : FileId) (offset : Nat) : List Effect :=
  match s.analysis.nameAt? file offset with
  | none => []
  | some name =>
    let count := (s.analysis.index.lookup name).length
    if 1 < count then [.log (.candidates count name s.settings.candidates)] else []

/-- Where the name at a position of a document leads. -/
def definitionAt (s : Session) (d : Disk) (u : Url) (p : Position) : Destination × List Effect :=
  let file := FileId.ofUrl d u
  match s.analysis.snapshot? file with
  | none => (.nowhere, [.log (.definitionUntracked u.shortName)])
  | some snapshot =>
    match snapshot.offsetOf? p with
    | none => (.nowhere, [.log (.definitionOutside u.shortName p)])
    | some offset =>
      let destination := s.analysis.definitionOf file offset s.settings.candidates
      (destination,
       s.candidateEffects file offset ++ [.log (.definitionFound u.shortName p destination)])

/-- The session after a request, what happens, and the answer. -/
def perform (s : Session) (d : Disk) : Request → Session × List Effect × Answer
  | .introduce editor => (s.introduced editor, [.log .initializing], .abilities)
  | .shutdown => ({ s with phase := .shutDown }, [.log .shuttingDown], .nothing)
  | .definition u p =>
    let (destination, effects) := s.definitionAt d u p
    (s, effects, .destination destination)
  | .documentSymbols u => (s, [], .symbols (s.analysis.documentSymbols (.ofUrl d u)))
  | .workspaceSymbols query =>
    (s, [.log (.symbolsFound query (s.analysis.symbolHits query).length)],
     .symbols (s.analysis.workspaceSymbols query))

/-! ### Notifications -/

/-- Begins the work: the editor is asked to tell of changes on the disk, and the workspace is
scanned. -/
def begun (s : Session) (d : Disk) : Session × List Effect :=
  let watcher := if s.watchesFiles then [Effect.ask .registerWatcher] else []
  let (s, scanned) := s.scan d s.roots
  (s, .log .initialized :: watcher ++ scanned)

/-- The session after a notification, and what happens. -/
def notice (s : Session) (d : Disk) : Notification → Session × List Effect
  | .initialized => s.begun d
  | .configured payload => s.configured d payload
  | .foldersChanged added removed => s.foldersChanged d added removed
  | .filesChanged changes => s.filesChanged d changes
  | .opened u text version => s.opened d u text version
  | .changed u edits version => s.changed d u edits version
  | .saved u => s.saved u
  | .closed u => s.closed d u

end Session

end SailNav
