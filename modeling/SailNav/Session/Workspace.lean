import SailNav.Session.Basic
import SailNav.Workspace.Scan

/-!
# The workspace in a session

How files on the disk come into the analysis and leave it: by a scan of the workspace, because the
editor tells of a change on the disk, or because a folder is no longer part of the workspace. A file
that is open in the editor is the editor's, and none of this touches it.
-/

namespace SailNav

namespace Session

/-! ### Scans -/

/-- Scans the workspace below some roots. -/
def scan (s : Session) (d : Disk) (roots : List Path) : Session × List Effect :=
  if s.settings.indexing.enabled then
    let discovery := Workspace.discoverWith d s.settings.indexing roots
    let large := discovery.tooLarge.map fun (path, size) => Effect.log (.fileTooLarge size path)
    if discovery.files.isEmpty then (s, large ++ [.log .nothingToScan])
    else
      let found :=
        Workspace.readAll d s.documents s.settings.indexing.maxFileSizeBytes discovery.files
      let after := s.analysis.acceptAll d found
      let token := ProgressToken.ofTitle "Indexing" s.nextProgress
      ({ s with analysis := after, nextProgress := s.nextProgress + 1 },
       large ++ Workspace.scanEffects token found after)
  else (s, [.log .scanDisabled])

/-! ### Single files -/

/-- Takes a file from the disk as it is there now, unless the editor has it open. A file that cannot
be read is no longer tracked. -/
def reload (s : Session) (d : Disk) (p : Path) : Session × List Effect :=
  if s.documents.isOpenAt p then (s, [])
  else
    let file := FileId.ofPath d p
    match d.load p s.settings.indexing.maxFileSizeBytes with
    | .ok text =>
      let after := s.analysis.track file text
      ({ s with analysis := after },
       [.log (.reloaded p (after.index.sitesOf file).length)])
    | .error cause =>
      ({ s with analysis := s.analysis.close file }, [.log (.unloaded p cause)])

/-- Takes notice that a file is no longer on the disk. -/
def forget (s : Session) (d : Disk) (p : Path) : Session × List Effect :=
  let file := FileId.ofPath d p
  ({ s with analysis := s.analysis.close file },
   if s.analysis.isTracked file then [.log (.deletionNoticed p)] else [])

/-- A change on the disk, as the editor tells of it. -/
structure FileChange where
  url : Url
  /-- Whether the file is no longer there. -/
  deleted : Bool
  deriving DecidableEq, Repr, Inhabited

/-- Takes notice of a change on the disk. -/
def fileChanged (s : Session) (d : Disk) (c : FileChange) : Session × List Effect :=
  match c.url.toPath? with
  | none => (s, [])
  | some p =>
    if !p.isSailFile || s.documents.isOpenAt p then (s, [])
    else if c.deleted then s.forget d p
    else if s.settings.indexing.enabled then s.reload d p
    else (s, [])

/-- Takes notice of changes on the disk, one after another. -/
def filesChanged (s : Session) (d : Disk) : List FileChange → Session × List Effect
  | [] => (s, [])
  | c :: rest =>
    let (s, first) := s.fileChanged d c
    let (s, others) := filesChanged s d rest
    (s, first ++ others)

/-! ### Folders -/

/-- The folders without some that are removed, and with some that are added. -/
def mergeFolders (folders added removed : List WorkspaceFolder) : List WorkspaceFolder :=
  added.foldl
    (fun fs f => if fs.any fun g => g.url = f.url then fs else fs ++ [f])
    (folders.filter fun f => !removed.any fun r => r.url = f.url)

/-- The tracked files that are below some roots and not open. -/
def filesUnder (s : Session) (d : Disk) (roots : List Path) : List FileId :=
  s.analysis.trackedFiles.filter fun file =>
    match file.toPath? with
    | none => false
    | some p => Workspace.isUnder d roots p && !s.documents.isOpenAt p

/-- No longer tracks the files below folders that are removed. -/
def dropUnder (s : Session) (d : Disk) (roots : List Path) : Session × List Effect :=
  if roots.isEmpty then (s, [])
  else
    let files := s.filesUnder d roots
    ({ s with analysis := files.foldl Analysis.close s.analysis },
     [.log (.foldersRemoved roots.length files.length)])

/-- Changes which folders the workspace has. Folders that are added are scanned, and only these. -/
def foldersChanged (s : Session) (d : Disk) (added removed : List WorkspaceFolder) :
    Session × List Effect :=
  let pathsOf := fun folders : List WorkspaceFolder => folders.filterMap fun f => f.url.toPath?
  let s := { s with folders := mergeFolders s.folders added removed }
  let (s, dropped) := s.dropUnder d (pathsOf removed)
  if (pathsOf added).isEmpty then (s, dropped)
  else
    let (s, scanned) := s.scan d (pathsOf added)
    (s, dropped ++ scanned)

/-! ### Settings -/

/-- What happens when the faults of texts are to be shown from now on, or not. -/
def lexicalEffects (s : Session) (d : Disk) : List Effect :=
  s.documents.openUrls.flatMap fun u =>
    if s.settings.lexical then s.publish d u none else withdraw u

/-- Takes settings from the editor. A change of the settings for scans makes a new scan. -/
def configured (s : Session) (d : Disk) (payload : Json) : Session × List Effect :=
  let before := s.settings
  let settings := before.merge payload
  if settings = before then (s, [])
  else
    let s := { s with settings := settings }
    let shown := if settings.lexical = before.lexical then [] else s.lexicalEffects d
    if settings.indexing.enabled ∧ settings.indexing ≠ before.indexing then
      let (s, scanned) := s.scan d s.roots
      (s, .log .settingsApplied :: shown ++ scanned)
    else (s, .log .settingsApplied :: shown)

end Session

end SailNav
