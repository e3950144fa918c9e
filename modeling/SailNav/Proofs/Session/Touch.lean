import SailNav.Protocol.Method

/-!
# What a message does to the tracked files

Whatever a message does to the analysis, it does file by file: a file comes to have a text, or it is
given up. Such a *touch* comes from a document of the editor or from a path on the disk, and both
stand for a URL: the document has one, and the path is asked by its URL whether the editor has it
open (`SailNav.Touch.Origin.url?`).

The touches of a notification can be told beforehand (`SailNav.Session.touches`), and they are all
that happens to the analysis (`SailNav.Session.notice_eq`). Each handler has a list of its own and
one fact about it, `SailNav.Session.Touched`. So what the analysis has of a file after a message is
said by the last touch of the file (`SailNav.Analysis.textOf?_foldl_touch`).
-/

namespace SailNav

/-! ### Touches -/

/-- From where a file is touched. -/
inductive Touch.Origin where
  /-- A document of the editor. -/
  | document (url : Url)
  /-- A path, by which a file is taken from the disk or given up. -/
  | path (p : Path)
  deriving DecidableEq

/-- Something that happens to a tracked file. -/
structure Touch where
  origin : Touch.Origin
  file : FileId
  /-- The text that the file comes to have, or nothing when it is given up. -/
  text : Option String
  deriving DecidableEq

namespace Touch

/-- **The URL by which the origin of a touch knows the document.** -/
def Origin.url? : Origin → Option Url
  | document url => some url
  | path p => Url.ofPath? p

/-- The last touch of a file. -/
def last? (touches : List Touch) (file : FileId) : Option Touch :=
  touches.reverse.find? fun t => t.file = file

/-- An earlier touch counts only when no later one is of the same file. -/
theorem last?_cons (t : Touch) (touches : List Touch) (file : FileId) :
    last? (t :: touches) file =
      (last? touches file).or (if t.file = file then some t else none) := by
  rw [last?, List.reverse_cons, List.find?_append, ← last?]
  by_cases h : t.file = file <;> simp [h]

/-- The last touch of a file is one of the touches, and of that file. -/
theorem mem_of_last? {touches : List Touch} {file : FileId} {t : Touch}
    (h : last? touches file = some t) : t ∈ touches ∧ t.file = file :=
  ⟨List.mem_reverse.1 (List.mem_of_find?_eq_some h), by simpa using List.find?_some h⟩

/-- A file without a last touch is not touched. -/
theorem last?_eq_none {touches : List Touch} {file : FileId} :
    last? touches file = none ↔ ∀ t ∈ touches, t.file ≠ file := by
  simp [last?]

end Touch

namespace Analysis

/-- The analysis after a touch. -/
def touch (a : Analysis) (t : Touch) : Analysis :=
  match t.text with
  | some text => a.track t.file text
  | none => a.close t.file

/-- The text that an analysis has of a file. -/
def textOf? (a : Analysis) (file : FileId) : Option String :=
  (a.snapshot? file).map Snapshot.text

/-- A touch concerns one file. -/
theorem textOf?_touch (a : Analysis) (t : Touch) (file : FileId) :
    (a.touch t).textOf? file = if t.file = file then t.text else a.textOf? file := by
  unfold touch
  split
  · next text htext =>
    rw [htext]
    unfold textOf? snapshot? track install
    dsimp only
    rw [Table.get?_put]
    split <;> rfl
  · next htext =>
    rw [htext]
    unfold textOf? snapshot? close
    dsimp only
    rw [Table.get?_erase]
    split <;> rfl

/-- **What an analysis has of a file is what the last touch of it left.** -/
theorem textOf?_foldl_touch (touches : List Touch) (a : Analysis) (file : FileId) :
    (touches.foldl touch a).textOf? file =
      match Touch.last? touches file with
      | some t => t.text
      | none => a.textOf? file := by
  induction touches generalizing a with
  | nil => rfl
  | cons t rest ih =>
    rw [List.foldl_cons, ih, Touch.last?_cons]
    cases Touch.last? rest file with
    | some u => rfl
    | none =>
      rw [textOf?_touch]
      by_cases h : t.file = file <;> simp [h]

end Analysis

namespace Session

/-! ### What the handlers touch -/

/-- The touches of a scan: the files that are found and read, unless they are open. -/
def scanTouches (s : Session) (d : Disk) (roots : List Path) : List Touch :=
  if s.settings.indexing.enabled then
    (Workspace.discoverWith d s.settings.indexing roots).files.filterMap fun l =>
      match Workspace.read d s.documents s.settings.indexing.maxFileSizeBytes l with
      | .fresh text => some ⟨.path l.path, .ofPath d l.path, some text⟩
      | _ => none
  else []

/-- The touch of a file that is taken from the disk again, unless it is open. One that cannot be
read is given up. -/
def reloadTouches (s : Session) (d : Disk) (p : Path) : List Touch :=
  if s.documents.isOpenAt p then []
  else [⟨.path p, .ofPath d p, (d.load p s.settings.indexing.maxFileSizeBytes).toOption⟩]

/-- The touch of a file that is changed or removed on the disk, unless it is open. -/
def changeTouches (s : Session) (d : Disk) (c : FileChange) : List Touch :=
  match c.url.toPath? with
  | none => []
  | some p =>
    if !p.isSailFile || s.documents.isOpenAt p then []
    else if c.deleted then [⟨.path p, .ofPath d p, none⟩]
    else if s.settings.indexing.enabled then s.reloadTouches d p
    else []

/-- A source file that changes on the disk and can be read comes to have its text, unless it is
open. -/
theorem changeTouches_of_load {s : Session} {d : Disk} {u : Url} {p : Path} {text : String}
    (hpath : u.toPath? = some p) (hsail : p.isSailFile = true)
    (hclosed : s.documents.isOpenAt p = false) (henabled : s.settings.indexing.enabled = true)
    (htext : d.load p s.settings.indexing.maxFileSizeBytes = .ok text) :
    s.changeTouches d ⟨u, false⟩ = [⟨.path p, .ofPath d p, some text⟩] := by
  rw [changeTouches, hpath]
  simp [reloadTouches, hsail, hclosed, henabled, htext, Except.toOption]

/-- The touches of folders that are removed: the tracked files below them are given up, unless they
are open. -/
def dropTouches (s : Session) (d : Disk) (roots : List Path) : List Touch :=
  if roots.isEmpty then []
  else (s.filesUnder d roots).map fun f => ⟨.path (.ofString f.text), f, none⟩

/-- The touch of a document that is closed: what is on the disk counts again, or nothing. -/
def closedTouches (s : Session) (d : Disk) (u : Url) : List Touch :=
  match s.sourcePath? d u with
  | some p => s.reloadTouches d p
  | none => [⟨.document u, .ofUrl d u, none⟩]

/-- The paths of the folders that have one. -/
def pathsOf (folders : List WorkspaceFolder) : List Path :=
  folders.filterMap fun f => f.url.toPath?

/-- **What a notification touches.** -/
def touches (s : Session) (d : Disk) : Notification → List Touch
  | .initialized => s.scanTouches d s.roots
  | .configured payload =>
    let settings := s.settings.merge payload
    if settings.indexing.enabled ∧ settings.indexing ≠ s.settings.indexing then
      { s with settings := settings }.scanTouches d s.roots
    else []
  | .foldersChanged added removed =>
    s.dropTouches d (pathsOf removed) ++
      if (pathsOf added).isEmpty then [] else s.scanTouches d (pathsOf added)
  | .filesChanged changes => changes.flatMap (s.changeTouches d)
  | .opened u text _ => [⟨.document u, .ofUrl d u, some text⟩]
  | .changed u edits version =>
    ((s.documents.change u edits version).text? u).toList.map fun text =>
      ⟨.document u, .ofUrl d u, some text⟩
  | .saved _ => []
  | .closed u => { s with documents := s.documents.close u }.closedTouches d u

/-- The open documents after a notification. -/
def documentsAfter (s : Session) : Notification → DocumentStore
  | .opened u text version => s.documents.openDocument u text version
  | .changed u edits version => s.documents.change u edits version
  | .closed u => s.documents.close u
  | _ => s.documents

/-! ### Nothing else happens -/

/-- **A session changes by some touches and in nothing that decides about touches.** -/
structure Touched (s : Session) (touches : List Touch) (s' : Session) : Prop where
  analysis : s'.analysis = touches.foldl Analysis.touch s.analysis
  documents : s'.documents = s.documents
  settings : s'.settings = s.settings

namespace Touched

variable {s s' s'' : Session} {ts us : List Touch}

/-- Nothing is touched when nothing happens. -/
theorem refl (s : Session) : s.Touched [] s := ⟨rfl, rfl, rfl⟩

/-- What happens one after another is touched one after another. -/
theorem trans (h : s.Touched ts s') (h' : s'.Touched us s'') : s.Touched (ts ++ us) s'' where
  analysis := by rw [h'.analysis, h.analysis, List.foldl_append]
  documents := h'.documents.trans h.documents
  settings := h'.settings.trans h.settings

/-- What a scan touches does not depend on touches before it. -/
theorem scanTouches_eq (h : s.Touched ts s') (d : Disk) (roots : List Path) :
    s'.scanTouches d roots = s.scanTouches d roots := by
  rw [scanTouches, h.settings, h.documents, scanTouches]

/-- What a change on the disk touches does not depend on touches before it. -/
theorem changeTouches_eq (h : s.Touched ts s') (d : Disk) (c : FileChange) :
    s'.changeTouches d c = s.changeTouches d c := by
  simp only [changeTouches, reloadTouches, h.settings, h.documents]

end Touched

/-- The findings of a scan are taken in as touches. -/
theorem acceptAll_readAll (d : Disk) (documents : DocumentStore) (limit : Nat)
    (files : List Location) (a : Analysis) :
    a.acceptAll d (Workspace.readAll d documents limit files) =
      (files.filterMap fun l =>
        match Workspace.read d documents limit l with
        | .fresh text => some (⟨.path l.path, .ofPath d l.path, some text⟩ : Touch)
        | _ => none).foldl Analysis.touch a := by
  unfold Analysis.acceptAll Workspace.readAll
  induction files generalizing a with
  | nil => exact rfl
  | cons l rest ih =>
    rw [List.map_cons, List.foldl_cons, ih, List.filterMap_cons, Analysis.accept]
    cases Workspace.read d documents limit l with
    | fresh text => exact rfl
    | held => exact rfl
    | failed cause => exact rfl

/-- A scan touches the files that it takes in. -/
theorem touched_scan (s : Session) (d : Disk) (roots : List Path) :
    s.Touched (s.scanTouches d roots) (s.scan d roots).1 := by
  unfold scan scanTouches
  split
  · dsimp only
    split
    · next hempty =>
      -- a scan that finds no file ends before it begins
      rw [List.isEmpty_iff.1 hempty]
      exact .refl _
    · exact ⟨acceptAll_readAll .., rfl, rfl⟩
  · exact .refl _

/-- Taking a file from the disk touches it, unless it is open. -/
theorem touched_reload (s : Session) (d : Disk) (p : Path) :
    s.Touched (s.reloadTouches d p) (s.reload d p).1 := by
  unfold reload reloadTouches
  split
  · exact .refl _
  · dsimp only
    cases d.load p s.settings.indexing.maxFileSizeBytes with
    | ok text => exact ⟨rfl, rfl, rfl⟩
    | error cause => exact ⟨rfl, rfl, rfl⟩

/-- A change on the disk touches its file at most. -/
theorem touched_fileChanged (s : Session) (d : Disk) (c : FileChange) :
    s.Touched (s.changeTouches d c) (s.fileChanged d c).1 := by
  unfold fileChanged changeTouches
  cases c.url.toPath? with
  | none => exact .refl s
  | some p =>
    dsimp only
    by_cases hskip : (!p.isSailFile || s.documents.isOpenAt p) = true
    · rw [if_pos hskip, if_pos hskip]
      exact .refl s
    rw [if_neg hskip, if_neg hskip]
    by_cases hdeleted : c.deleted = true
    · rw [if_pos hdeleted, if_pos hdeleted]
      exact ⟨rfl, rfl, rfl⟩
    rw [if_neg hdeleted, if_neg hdeleted]
    by_cases henabled : s.settings.indexing.enabled = true
    · rw [if_pos henabled, if_pos henabled]
      exact touched_reload s d p
    · rw [if_neg henabled, if_neg henabled]
      exact .refl s

/-- Changes on the disk touch their files in their order. -/
theorem touched_filesChanged (s : Session) (d : Disk) (changes : List FileChange) :
    s.Touched (changes.flatMap (s.changeTouches d)) (s.filesChanged d changes).1 := by
  induction changes generalizing s with
  | nil => exact .refl s
  | cons c rest ih =>
    have hc := touched_fileChanged s d c
    have hrest := ih (s.fileChanged d c).1
    -- the others are decided as if the first change had not been told
    rw [funext (hc.changeTouches_eq d)] at hrest
    exact hc.trans hrest

/-- Removing folders touches the tracked files below them. -/
theorem touched_dropUnder (s : Session) (d : Disk) (roots : List Path) :
    s.Touched (s.dropTouches d roots) (s.dropUnder d roots).1 := by
  unfold dropUnder dropTouches
  split
  · exact .refl _
  · refine ⟨?_, rfl, rfl⟩
    rw [List.foldl_map]
    exact rfl

/-- A change of the folders first gives up files and then scans. -/
theorem touched_foldersChanged (s : Session) (d : Disk) (added removed : List WorkspaceFolder) :
    s.Touched (s.touches d (.foldersChanged added removed))
      (s.foldersChanged d added removed).1 := by
  have hfolders : s.Touched [] { s with folders := mergeFolders s.folders added removed } :=
    ⟨rfl, rfl, rfl⟩
  have hdrop := hfolders.trans
    (touched_dropUnder { s with folders := mergeFolders s.folders added removed } d
      (pathsOf removed))
  unfold foldersChanged touches
  dsimp only
  change s.Touched _ (if (pathsOf added).isEmpty then _ else _ : Session × List Effect).1
  split
  · next hempty =>
    rw [List.append_nil]
    exact hdrop
  · have hscan := touched_scan (dropUnder { s with folders := mergeFolders s.folders added removed }
      d (pathsOf removed)).1 d (pathsOf added)
    rw [hdrop.scanTouches_eq] at hscan
    exact hdrop.trans hscan

/-- **A notification does to the analysis what it touches**, and to the documents what it says. -/
theorem notice_eq (s : Session) (d : Disk) (n : Notification) :
    (s.notice d n).1.analysis = (s.touches d n).foldl Analysis.touch s.analysis ∧
      (s.notice d n).1.documents = s.documentsAfter n := by
  cases n with
  | initialized =>
    have h := touched_scan s d s.roots
    exact ⟨h.analysis, h.documents⟩
  | configured payload =>
    have h := touched_scan { s with settings := s.settings.merge payload } d s.roots
    unfold notice configured touches
    dsimp only
    split
    · next heq =>
      -- settings that stay as they are make no scan
      rw [heq]
      simp [documentsAfter]
    · split
      · exact ⟨h.analysis, h.documents⟩
      · exact ⟨rfl, rfl⟩
  | foldersChanged added removed =>
    have h := touched_foldersChanged s d added removed
    exact ⟨h.analysis, h.documents⟩
  | filesChanged changes =>
    have h := touched_filesChanged s d changes
    exact ⟨h.analysis, h.documents⟩
  | opened u text version => exact ⟨rfl, rfl⟩
  | changed u edits version =>
    unfold notice changed touches documentsAfter
    dsimp only
    cases htext : (s.documents.change u edits version).text? u with
    | none => exact ⟨rfl, (DocumentStore.change_of_text?_eq_none htext).symm⟩
    | some text => exact ⟨rfl, rfl⟩
  | saved u => exact ⟨rfl, rfl⟩
  | closed u =>
    have hreload := touched_reload { s with documents := s.documents.close u } d
    unfold notice closed touches closedTouches documentsAfter
    dsimp only
    cases sourcePath? { s with documents := s.documents.close u } d u with
    | none => exact ⟨rfl, rfl⟩
    | some p => exact ⟨(hreload p).analysis, (hreload p).documents⟩

end Session

end SailNav
