import Mathlib
import SailNav.Proofs.Session.Startup

/-!
# Watching the disk

After the first scan the editor tells of every change of a source file, and the session takes the
file from the disk again, or gives it up. It never looks at the rest of the disk. Still it has at
any time the files that a scan would find, with the texts that a scan would read
(`SailNav.World.Mirrors.textOf?_eq_some_iff`): a change keeps this up
(`SailNav.World.Mirrors.afterChange`), so watching the disk comes to what a new session would scan
(`SailNav.World.watched_agrees`).

For this no root and no excluded path may go up. Where such a path leads to can depend on a
directory that a change only makes, and then a new session finds files of which no change was told
(`SailNav.World.missed_behind_up`).
-/

namespace SailNav

/-! ### Scans and changes while nothing is open -/

/-- A file is read alike by paths that lead to the same place. -/
theorem Disk.load_congr {d : Disk} {p q : Path} (h : d.resolve p = d.resolve q) (limit : Nat) :
    d.load p limit = d.load q limit := by
  rw [load, stat, h, load, stat]

/-- **What a change on the disk touches while nothing is open**: the file, which is given up if it
is gone or cannot be read. -/
theorem Session.changeTouches_of_closed {s : Session} {d : Disk} {u : Url} {p : Path}
    {deleted : Bool} (hpath : u.toPath? = some p) (hsail : p.isSailFile = true)
    (hclosed : s.documents = .empty) (henabled : s.settings.indexing.enabled = true) :
    s.changeTouches d ⟨u, deleted⟩ = [⟨.path p, .ofPath d p,
      if deleted then none else (d.load p s.settings.indexing.maxFileSizeBytes).toOption⟩] := by
  rw [changeTouches, hpath]
  simp only [reloadTouches, hsail, hclosed, henabled, DocumentStore.isOpenAt_empty]
  cases deleted <;> rfl

/-! ### Texts and settings -/

/-- How a session stands says what it is set to and what its roots are. -/
theorem Session.eq_of_standing_eq {s t : Session} (h : s.standing = t.standing) :
    s.phase = t.phase ∧ s.settings = t.settings ∧ s.roots = t.roots := by
  have hfolders : s.folders = t.folders := congrArg Standing.folders h
  exact ⟨congrArg Standing.phase h, congrArg Standing.settings h, by rw [roots, hfolders, roots]⟩

/-- **An editor tells of a change of a file**: what happened is told of a path that leads to the
file on the disk as it is then, and by which the file is known. -/
def Event.TellsChange (e : Event) (d : Disk) (c : Disk.FileEdit) : Prop :=
  ∃ u p, e.Tells (.filesChanged [⟨u, c.deletes⟩]) ∧ u.toPath? = some p ∧ p.isSailFile = true ∧
    d.normalize p = c.location.path ∧ d.resolve p = d.resolve c.location.path

namespace World

variable {w v : World} {opening begun : Event} {c : Disk.FileEdit} {e : Event}

/-- An event with a single touch concerns one file. -/
theorem textOf?_step_of_singleton {t : Touch} (h : w.touches e = [t]) (file : FileId) :
    (w.step e).textOf? file = if t.file = file then t.text else w.textOf? file := by
  rw [textOf?, analysis_step, h]
  exact Analysis.textOf?_touch _ t file

/-! ### Worlds that mirror their disks -/

/-- **A session mirrors the disk**: it has begun and nothing is open, the disk is a closed tree, and
the session has the texts that a scan would read. -/
structure Mirrors (w : World) : Prop where
  isTree : w.disk.IsTree
  isClosed : w.disk.IsClosed
  phase : w.session.phase = .initialized
  enabled : w.session.settings.indexing.enabled = true
  documents : w.session.documents = .empty
  upToDate : w.session.analysis.UpToDate
  textOf?_eq_some_iff : ∀ file text, w.textOf? file = some text ↔
    Workspace.Offers w.disk w.session.settings.indexing w.session.roots file text

/-- The world after a change of a file and a message. -/
def afterChange (w : World) (c : Disk.FileEdit) (e : Event) : World :=
  (w.step (.disk (c.onDisk w.disk))).step e

/-- **What a change of a file comes to that the editor tells of**: the file has what can be read of
it, or nothing if it was removed, and everything else is as it was. -/
theorem afterChange_eq (hphase : w.session.phase = .initialized)
    (hdocuments : w.session.documents = .empty)
    (henabled : w.session.settings.indexing.enabled = true)
    (htold : e.TellsChange (c.onDisk w.disk) c) :
    (w.afterChange c e).disk = c.onDisk w.disk ∧
      (w.afterChange c e).session.standing = w.session.standing ∧
      (w.afterChange c e).session.documents = .empty ∧
      ∀ file, (w.afterChange c e).textOf? file = if ⟨c.location.path.display⟩ = file then
        (if c.deletes then none else ((c.onDisk w.disk).load c.location.path
          w.session.settings.indexing.maxFileSizeBytes).toOption) else w.textOf? file := by
  obtain ⟨u, p, htells, hpath, hsail, hnormal, hresolve⟩ := htold
  -- the message comes to the session as it was, with the disk as it is now
  obtain ⟨v, hv⟩ : ∃ v, v = w.step (.disk (c.onDisk w.disk)) := ⟨_, rfl⟩
  have hsession : v.session = w.session := by rw [hv]; rfl
  have hdisk : v.disk = c.onDisk w.disk := by rw [hv]; rfl
  have hafter : w.afterChange c e = v.step e := by rw [afterChange, hv]
  have hheard : v.heard? e = some (.filesChanged [⟨u, c.deletes⟩]) :=
    heard?_of_tells htells (hsession ▸ hphase)
  obtain ⟨hdisk', hstanding, hdocuments'⟩ := standing_of_heard? hheard
  rw [hdisk] at hdisk'
  rw [hsession] at hstanding hdocuments'
  rw [hafter]
  refine ⟨hdisk', hstanding, hdocuments'.trans hdocuments, fun file => ?_⟩
  have htouches : v.touches e = [⟨.path p, ⟨c.location.path.display⟩,
      if c.deletes then none else ((c.onDisk w.disk).load c.location.path
        w.session.settings.indexing.maxFileSizeBytes).toOption⟩] := by
    rw [touches_of_heard? hheard, Session.touches, List.flatMap_singleton, hsession, hdisk,
      Session.changeTouches_of_closed hpath hsail hdocuments henabled, FileId.ofPath, hnormal,
      Disk.load_congr hresolve]
  rw [textOf?_step_of_singleton htouches, textOf?, hsession, textOf?]

/-- **A file in sight is changed, and the editor tells of it.** -/
structure Changes (w : World) (c : Disk.FileEdit) (e : Event) : Prop where
  isProper : c.location.IsProper
  isSailFile : c.location.path.isSailFile = true
  inSight : Workspace.InSight w.session.roots c.location
  isBelow_eq_false : Workspace.isBelow (Workspace.excludedPaths w.disk w.session.roots
    w.session.settings.indexing.excludePaths) c.location = false
  told : e.TellsChange (c.onDisk w.disk) c

/-- **A change keeps up that a session mirrors its disk.** -/
theorem Mirrors.afterChange (h : w.Mirrors) (hdown : Workspace.GoDown w.session.roots
      w.session.settings.indexing.excludePaths) (hc : w.Changes c e) :
    (w.afterChange c e).Mirrors ∧
      (w.afterChange c e).session.standing = w.session.standing := by
  obtain ⟨hdisk, hstanding, hdocuments, htext⟩ :=
    afterChange_eq h.phase h.documents h.enabled hc.told
  obtain ⟨hphase, hsettings, hroots⟩ := Session.eq_of_standing_eq hstanding
  have halters := Disk.FileEdit.alters h.isTree h.isClosed hc.isProper
  have hexcluded := hc.isBelow_eq_false
  rw [hdown.isBelow_excludedPaths h.isTree] at hexcluded
  refine ⟨⟨?_, ?_, hphase.trans h.phase, ?_, hdocuments, ?_, fun file text => ?_⟩, hstanding⟩
  · rw [hdisk]
    exact halters.isTree
  · rw [hdisk]
    exact halters.isClosed
  · rw [hsettings]
    exact h.enabled
  · exact upToDate_step (upToDate_step h.upToDate _) e
  · rw [htext, hdisk, hsettings, hroots]
    by_cases hfile : file = ⟨c.location.path.display⟩
    · -- the file itself has what can be read of it
      rw [hfile, if_pos rfl, hc.inSight.offers_iff hdown halters.isTree halters.isClosed hc.isProper
        hc.isSailFile hexcluded]
      cases hdeletes : c.deletes with
      | true =>
        have hgone : (c.onDisk w.disk).load c.location.path
            w.session.settings.indexing.maxFileSizeBytes ≠ .ok text :=
          Disk.FileEdit.load_of_deletes h.isTree h.isClosed hc.isProper hdeletes
        simp [hgone]
      | false =>
        cases (c.onDisk w.disk).load c.location.path
          w.session.settings.indexing.maxFileSizeBytes <;> simp [Except.toOption]
    · -- any other file has the text that it had
      rw [if_neg (Ne.symm hfile), hdown.offers_iff_of_ne h.isTree h.isClosed halters hfile,
        h.textOf?_eq_some_iff]

end World

end SailNav
