import SailNav.Proofs.Disk.Location
import SailNav.Proofs.Session.Admission
import SailNav.Proofs.Session.Foreign
import SailNav.Proofs.Session.Same

/-!
# Visits to a document

An editor that opens a tracked file, changes and saves it and closes it again has *visited* it
(`SailNav.World.IsVisit`). While it is there, the analysis has the editor's text of the file, or
whatever text the changes made of it; when it leaves, the text on the disk counts again. If that is
the text that the file was tracked with, the visit leaves nothing behind
(`SailNav.World.visit_undone`).

This needs that the file is never given up on the way, since it would come back as the last of all
files. What a visit touches is told by the invariant of the visit, `SailNav.World.Visiting`: it is
this one file, and it is given a text each time. The last touch takes the text from the disk, and
this is where it matters that the file is a source file of the workspace and can be read.
-/

namespace SailNav

namespace DocumentStore

variable {s : DocumentStore} {u : Url}

/-- A document that was not open is as it was when it is closed again. -/
theorem close_openDocument (h : s.isOpen u = false) (text : String) (version : Int) :
    (s.openDocument u text version).close u = s := by
  have hkeys : u ∉ s.documents.keys := fun hmem =>
    Bool.false_ne_true (h.symm.trans (Table.contains_iff.2 hmem))
  rw [openDocument, close, Table.erase_put, Table.erase_of_not_mem hkeys]

/-- It makes no difference whether a document is changed before it is closed. -/
theorem close_change (s : DocumentStore) (u : Url) (edits : List Edit) (version : Int) :
    (s.change u edits version).close u = s.close u := by
  rw [change]
  split
  · rw [close, Table.erase_put, close]
  · rfl

end DocumentStore

/-- The last of some touches of one file. -/
theorem Touch.eq_of_last?_concat {ts : List Touch} {t u : Touch} {file : FileId}
    (h : ∀ v ∈ ts, v.file = t.file) (hu : last? (ts ++ [t]) file = some u) : u = t := by
  obtain ⟨hmem, hfile⟩ := mem_of_last? hu
  have hsame : t.file = file := by
    rcases List.mem_append.1 hmem with hmem | hmem
    · rw [← h u hmem, hfile]
    · rw [← List.mem_singleton.1 hmem, hfile]
  have hlast : last? (ts ++ [t]) file = some t := by
    rw [last?, List.reverse_append, List.reverse_singleton, List.singleton_append]
    exact List.find?_cons_of_pos (decide_eq_true hsame)
  exact Option.some.inj (hu.symm.trans hlast)

namespace World

/-! ### Visits -/

/-- **A visit of a document**: it is opened, then changed and saved any number of times, and closed
in the end. -/
def IsVisit (u : Url) (visit : List Event) : Prop :=
  ∃ first middle last, visit = first :: (middle ++ [last]) ∧
    (∃ text version, first.Tells (.opened u text version)) ∧
    (∀ e ∈ middle, (∃ edits version, e.Tells (.changed u edits version)) ∨ e.Tells (.saved u)) ∧
    last.Tells (.closed u)

/-- All messages of a visit tell something. -/
theorem IsVisit.tells {u : Url} {visit : List Event} (h : IsVisit u visit) :
    ∀ e ∈ visit, ∃ n, e.Tells n := by
  obtain ⟨first, middle, last, rfl, ⟨text, version, hfirst⟩, hmiddle, hlast⟩ := h
  refine List.forall_mem_cons.2 ⟨⟨_, hfirst⟩, List.forall_mem_append.2
    ⟨fun e he => ?_, List.forall_mem_singleton.2 ⟨_, hlast⟩⟩⟩
  rcases hmiddle e he with ⟨edits, version, he⟩ | he
  · exact ⟨_, he⟩
  · exact ⟨_, he⟩

/-- A session that has not begun, or has ended, takes no notice of what it is told. -/
theorem run_of_tells_of_phase {w : World} (hphase : w.session.phase ≠ .initialized)
    {events : List Event} (htells : ∀ e ∈ events, ∃ n, e.Tells n) : w.run events = w := by
  induction events with
  | nil => rfl
  | cons e rest ih =>
    obtain ⟨⟨n, hn⟩, hrest⟩ := List.forall_mem_cons.1 htells
    show (w.step e).run rest = w
    rw [step_of_tells_of_phase hn hphase]
    exact ih hrest

/-- **What a visit leaves as it was** while it lasts, and what it does to the file. -/
structure Visiting (u : Url) (w v : World) : Prop where
  disk : v.disk = w.disk
  standing : v.session.standing = w.session.standing
  documents : v.session.documents.close u = w.session.documents
  analysis : ∃ ts : List Touch, v.session.analysis = ts.foldl Analysis.touch w.session.analysis ∧
    ∀ t ∈ ts, t.text.isSome = true ∧ t.file = w.fileOf u

variable {u : Url} {w v : World} {e : Event}

/-- A visit begins when the document is opened. -/
theorem visiting_of_opened {text : String} {version : Int}
    (hheard : w.heard? e = some (.opened u text version))
    (hclosed : w.session.documents.isOpen u = false) : Visiting u w (w.step e) := by
  obtain ⟨hanalysis, hdocuments⟩ := w.session.notice_eq w.disk (.opened u text version)
  rw [step_of_heard? hheard]
  refine ⟨rfl, w.session.standing_notice w.disk _, ?_, _, hanalysis, ?_⟩
  · rw [hdocuments]
    exact DocumentStore.close_openDocument hclosed text version
  · intro t ht
    obtain rfl := List.mem_singleton.1 ht
    exact ⟨rfl, rfl⟩

/-- It goes on while notifications of the document do no more than give the file a text. -/
theorem Visiting.notice (h : Visiting u w v) {n : Notification} (hheard : v.heard? e = some n)
    (hstanding : v.session.standingAfter n = v.session.standing)
    (hdocuments : (v.session.documentsAfter n).close u = v.session.documents.close u)
    (htouches : ∀ t ∈ v.session.touches v.disk n, t.text.isSome = true ∧ t.file = v.fileOf u) :
    Visiting u w (v.step e) := by
  obtain ⟨ts, hts, htouched⟩ := h.analysis
  obtain ⟨hanalysis, hafter⟩ := v.session.notice_eq v.disk n
  have hfile : v.fileOf u = w.fileOf u := by rw [fileOf, h.disk, fileOf]
  rw [step_of_heard? hheard]
  refine ⟨h.disk, ?_, ?_, ts ++ v.session.touches v.disk n, ?_, ?_⟩
  · rw [v.session.standing_notice v.disk n, hstanding, h.standing]
  · rw [hafter, hdocuments, h.documents]
  · rw [hanalysis, hts, List.foldl_append]
  · rw [hfile] at htouches
    exact List.forall_mem_append.2 ⟨htouched, htouches⟩

/-- A change of the document is part of the visit. -/
theorem Visiting.changed (h : Visiting u w v) {edits : List Edit} {version : Int}
    (hheard : v.heard? e = some (.changed u edits version)) : Visiting u w (v.step e) := by
  refine h.notice hheard rfl (DocumentStore.close_change _ u edits version) fun t ht => ?_
  obtain ⟨text, -, rfl⟩ := List.mem_map.1 ht
  exact ⟨rfl, rfl⟩

/-- So is saving it. -/
theorem Visiting.saved (h : Visiting u w v) (hheard : v.heard? e = some (.saved u)) :
    Visiting u w (v.step e) :=
  h.notice hheard rfl rfl fun _ ht => absurd ht List.not_mem_nil

/-- **A visit lasts until the document is closed.** -/
theorem Visiting.run (h : Visiting u w v) (hphase : w.session.phase = .initialized)
    {middle : List Event}
    (hmiddle : ∀ e ∈ middle,
      (∃ edits version, e.Tells (.changed u edits version)) ∨ e.Tells (.saved u)) :
    Visiting u w (v.run middle) := by
  induction middle generalizing v with
  | nil => exact h
  | cons e rest ih =>
    obtain ⟨he, hrest⟩ := List.forall_mem_cons.1 hmiddle
    have hbegun : v.session.phase = .initialized :=
      (congrArg Session.Standing.phase h.standing).trans hphase
    rcases he with ⟨edits, version, he⟩ | he
    · exact ih (h.changed (heard?_of_tells he hbegun)) hrest
    · exact ih (h.saved (heard?_of_tells he hbegun)) hrest

/-- **What is on the disk counts again** when the document of a source file is closed. -/
theorem Visiting.closed {p : Path} {text : String} (h : Visiting u w v)
    (hheard : v.heard? e = some (.closed u))
    (hpath : u.toPath? = some p) (hurl : Url.ofPath? p = some u)
    (hclosed : w.session.documents.isOpen u = false)
    (henabled : w.session.settings.indexing.enabled = true) (hsail : p.isSailFile = true)
    (hunder : Workspace.isUnder w.disk w.session.roots p = true)
    (htext : w.disk.load p w.session.settings.indexing.maxFileSizeBytes = .ok text) :
    (v.step e).session.documents = w.session.documents ∧
      ∃ ts : List Touch,
        (v.step e).session.analysis =
          (ts ++ [(⟨.path p, w.fileOf u, some text⟩ : Touch)]).foldl Analysis.touch
            w.session.analysis ∧
        ∀ t ∈ ts, t.text.isSome = true ∧ t.file = w.fileOf u := by
  obtain ⟨ts, hts, htouched⟩ := h.analysis
  obtain ⟨hanalysis, hafter⟩ := v.session.notice_eq v.disk (.closed u)
  have hsettings : v.session.settings = w.session.settings :=
    congrArg Session.Standing.settings h.standing
  have hfolders : v.session.folders = w.session.folders :=
    congrArg Session.Standing.folders h.standing
  have hfile : w.fileOf u = .ofPath w.disk p := by rw [fileOf, FileId.ofUrl, hpath]
  have htouches : v.session.touches v.disk (.closed u) = [⟨.path p, w.fileOf u, some text⟩] := by
    have hsource : Session.sourcePath? { v.session with documents := v.session.documents.close u }
        v.disk u = some p := by
      rw [Session.sourcePath?, hpath, Option.filter_some_pos]
      dsimp only [Session.roots]
      rw [hsettings, henabled, hsail, h.disk, Disk.isFile_of_load htext, hfolders]
      exact hunder
    have hnot : (v.session.documents.close u).isOpenAt p = false := by
      rw [h.documents, DocumentStore.isOpenAt, hurl, Option.any_some, hclosed]
    rw [Session.touches, Session.closedTouches, hsource]
    dsimp only [Session.reloadTouches]
    rw [hnot, if_neg Bool.false_ne_true, h.disk, hsettings, htext, hfile]
    rfl
  rw [step_of_heard? hheard]
  refine ⟨hafter.trans h.documents, ts, ?_, htouched⟩
  rw [hanalysis, htouches, hts, List.foldl_append]

/-- **A visit leaves nothing behind.** A source file of the workspace is tracked with the text that
it has on the disk, its document is not open, and the editor visits it. Then the documents are as
they were, and so is the analysis. -/
theorem visit_undone (echoesLog : Bool) (d₀ : Disk) (events : List Event) {w : World}
    (hw : w = (start echoesLog d₀).run events) (hd : w.disk.IsTree)
    (henabled : w.session.settings.indexing.enabled = true)
    {l : Location} {content : ByteArray} (hfile : w.disk.entry? l = some (.file content))
    (hsail : l.path.isSailFile = true)
    (hunder : Workspace.isUnder w.disk w.session.roots l.path = true) {text : String}
    (htext : w.disk.load l.path w.session.settings.indexing.maxFileSizeBytes = .ok text)
    (htracked : w.textOf? (.ofPath w.disk l.path) = some text) {u : Url}
    (hurl : Url.ofPath? l.path = some u) (hclosed : w.session.documents.isOpen u = false)
    {visit : List Event} (hvisit : IsVisit u visit) :
    (w.run visit).session.documents = w.session.documents ∧
      w.session.analysis.Same (w.run visit).session.analysis := by
  by_cases hphase : w.session.phase = .initialized
  · obtain ⟨first, middle, last, rfl, ⟨text', version, hfirst⟩, hmiddle, hlast⟩ := hvisit
    have hpath : u.toPath? = some l.path := by
      have hspells := Location.spells_path (hd.isName l _ hfile)
      have hto := Url.toPath?_of_ofPath? hurl
        (Url.endsInDrive_of_isSailFile (Location.isAbsolute_path l) hsail)
      rwa [hspells.ofComponents_eq] at hto
    have hduring := (visiting_of_opened (heard?_of_tells hfirst hphase) hclosed).run hphase hmiddle
    have hbegun := (congrArg Session.Standing.phase hduring.standing).trans hphase
    obtain ⟨hdocuments, ts, hanalysis, hts⟩ := hduring.closed (heard?_of_tells hlast hbegun) hpath
      hurl hclosed henabled hsail hunder htext
    have hrun : w.run (first :: (middle ++ [last])) = ((w.step first).run middle).step last :=
      run_append (w.step first) middle [last]
    have hsame : w.fileOf u = .ofPath w.disk l.path := by rw [fileOf, FileId.ofUrl, hpath]
    rw [hrun]
    refine ⟨hdocuments, hanalysis ▸ ?_⟩
    have hup : w.session.analysis.UpToDate := hw ▸ upToDate_run echoesLog d₀ events
    have hisTracked : w.session.analysis.isTracked (w.fileOf u) = true :=
      Analysis.isTracked_iff_textOf?.2 ⟨text, hsame ▸ htracked⟩
    refine hup.same_foldl ?_ fun file t ht => ?_
    · refine List.forall_mem_append.2
        ⟨fun t ht => ?_, List.forall_mem_singleton.2 ⟨rfl, hisTracked⟩⟩
      obtain ⟨hsome, hfile⟩ := hts t ht
      exact ⟨hsome, hfile ▸ hisTracked⟩
    · have hfile := (Touch.mem_of_last? ht).2
      obtain rfl := Touch.eq_of_last?_concat (fun v hv => (hts v hv).2) ht
      rw [← hfile, hsame]
      exact htracked.symm
  · rw [run_of_tells_of_phase hphase hvisit.tells]
    exact ⟨rfl, .refl _⟩

/-- A disk with one source file. -/
def fileDisk : Disk where
  table := ⟨[(["a.sail"], .file "val x\n".toUTF8)]⟩

/-- An editor introduces itself with the root of the disk for a folder, and tells of the file. -/
def fileTelling : List Event := [.introductionTo "file:///", .fileChanging "file:///a.sail" 1]

/-- The editor opens the file with another text, removes that, saves the file and closes it. -/
def fileVisit : List Event :=
  [.opening "file:///a.sail" "val y\n",
   .notification "textDocument/didChange" (some (.obj [
     ("textDocument", .obj [("uri", .str "file:///a.sail"), ("version", .int 2)]),
     ("contentChanges", .arr [.obj [("text", .str "")]])])),
   .notification "textDocument/didSave"
     (some (.obj [("textDocument", .obj [("uri", .str "file:///a.sail")])])),
   .closing "file:///a.sail"]

/-- The disk is a tree with this file on it. -/
theorem isProper_fileDisk : fileDisk.IsProper ∧ fileDisk.IsTree ∧
    fileDisk.entry? ["a.sail"] = some (.file "val x\n".toUTF8) := by
  have hproper : fileDisk.IsProper := Disk.isProper_of_entries (by decide)
  refine ⟨hproper, hproper.isTree fun x hx target => ?_, rfl⟩
  rw [List.mem_singleton.1 hx]
  exact fun heq => by cases heq

/-- The text of the file. -/
theorem load_fileDisk : fileDisk.load (Location.path ["a.sail"]) 1048576 = .ok "val x\n" := by
  obtain ⟨hproper, -, hfile⟩ := isProper_fileDisk
  have hreal : fileDisk.IsReal ["a.sail"] := Disk.isReal_nil.concat rfl "a.sail"
  exact (Disk.load_path_eq_ok_iff (hproper _ _ hfile) hreal hfile).2 (by decide)

/-- What the editor does is a visit. -/
theorem isVisit_fileVisit : IsVisit fileUrl fileVisit := by
  refine ⟨_, [fileVisit[1], fileVisit[2]], _, rfl, ⟨"val y\n", 1, _, _, rfl, rfl⟩, ?_, _, _, rfl,
    rfl⟩
  exact List.forall_mem_cons.2 ⟨Or.inl ⟨[⟨none, ""⟩], 2, _, _, rfl, rfl⟩,
    List.forall_mem_singleton.2 (Or.inr ⟨_, _, rfl, rfl⟩)⟩

/-- The file of the disk is tracked with its text, and a visit leaves it so. -/
theorem fileVisit_undone :
    ∃ w, w = (start false fileDisk).run fileTelling ∧
      w.textOf? ⟨"/a.sail"⟩ = some "val x\n" ∧ IsVisit fileUrl fileVisit ∧
      (w.run fileVisit).session.documents = w.session.documents ∧
        w.session.analysis.Same (w.run fileVisit).session.analysis := by
  obtain ⟨v, hv⟩ : ∃ v, v = (start false fileDisk).run (fileTelling.take 1) := ⟨_, rfl⟩
  obtain ⟨w, hw⟩ : ∃ w, w = (start false fileDisk).run fileTelling := ⟨_, rfl⟩
  obtain ⟨-, hd, hfile⟩ := isProper_fileDisk
  have hnormal : fileDisk.normalize (Location.path ["a.sail"]) = Location.path ["a.sail"] :=
    hd.normalize_path (hd.isName _ _ hfile)
  have hidentity : FileId.ofPath fileDisk (Location.path ["a.sail"]) = ⟨"/a.sail"⟩ := by
    rw [FileId.ofPath, hnormal]
    rfl
  -- the file is tracked since the editor told of it
  have hstep : w = v.step fileTelling[1] := by rw [hw, hv]; rfl
  have hheard : v.heard? fileTelling[1] = some (.filesChanged [⟨fileUrl, false⟩]) := by
    rw [hv]
    rfl
  obtain ⟨hdisk, hstanding, hdocuments⟩ := standing_of_heard? hheard
  rw [← hstep] at hdisk hstanding hdocuments
  have hvdisk : v.disk = fileDisk := by rw [hv]; rfl
  have hvlimit : v.session.settings.indexing.maxFileSizeBytes = 1048576 := by rw [hv]; rfl
  have htracked : w.textOf? ⟨"/a.sail"⟩ = some "val x\n" := by
    have htouches : v.touches fileTelling[1] =
        [⟨.path (Location.path ["a.sail"]), ⟨"/a.sail"⟩, some "val x\n"⟩] := by
      rw [touches_of_heard? hheard, Session.touches, List.flatMap_singleton,
        Session.changeTouches_of_load (p := Location.path ["a.sail"]) rfl rfl
          (by rw [hv]; rfl) (by rw [hv]; rfl) (by rw [hvdisk, hvlimit]; exact load_fileDisk),
        hvdisk, hidentity]
    rw [hstep, textOf?_step, htouches, Touch.last?_cons, if_pos rfl]
    rfl
  rw [hvdisk] at hdisk
  have hsettings : w.session.settings = v.session.settings :=
    congrArg Session.Standing.settings hstanding
  have hunder : Workspace.isUnder w.disk w.session.roots (Location.path ["a.sail"]) = true := by
    have hfolders : w.session.folders = v.session.folders :=
      congrArg Session.Standing.folders hstanding
    have hroots : w.session.roots = [Location.path []] := by
      rw [Session.roots, hfolders, hv]
      rfl
    have hroot : fileDisk.normalize (Location.path []) = Location.path [] :=
      hd.normalize_path fun name hname => absurd hname List.not_mem_nil
    rw [hdisk, hroots, Workspace.isUnder, hnormal, List.any_cons, hroot]
    rfl
  refine ⟨w, hw, htracked, isVisit_fileVisit, ?_⟩
  exact visit_undone false fileDisk fileTelling hw (hdisk ▸ hd) (by rw [hsettings, hv]; rfl)
    (l := ["a.sail"]) (by rw [hdisk]; exact hfile) rfl hunder
    (by rw [hdisk, hsettings, hvlimit]; exact load_fileDisk) (by rw [hdisk, hidentity]; exact htracked) rfl
    (by rw [hdocuments, hv]; rfl) isVisit_fileVisit

end World

end SailNav
