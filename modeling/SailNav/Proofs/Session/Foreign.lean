import SailNav.Proofs.FileId
import SailNav.Proofs.Session.Frame
import SailNav.Proofs.Session.Standing

/-!
# Documents that are no files

An editor also opens documents that are not on the disk: new ones without a name, old versions of a
file, output of a tool. Their URLs have schemes other than `file`, and what the editor does to them
should leave the files on the disk alone (`SailNav.World.Keeps`).

Whether a document has a path is read off its URL without a look at the scheme, though. So there are
two kinds of such documents, told apart by the path (`SailNav.World.keeps_iff_of_foreign`).

* One without a path is known by its URL. No file is known by that, so none is disturbed.
* One with a path is known as the file at the path, and is that file for all that follows. So the
  file gets the text of the document, and is given up or read from the disk when that is closed
  (`SailNav.World.not_keeps_revision` is a run that does so). Only the files of such documents are
  disturbed, and only when they are tracked and come to have another text.
-/

namespace SailNav

/-! ### Which document a message is about -/

/-- The document that is opened, changed or closed. -/
def Notification.document? : Notification → Option Url
  | .opened u _ _ | .changed u _ _ | .closed u => some u
  | _ => none

namespace Event

/-- The document that a message opens, changes or closes. -/
def document? : Event → Option Url
  | .notification method params =>
    (params.bind (Notification.ofJson? method)).bind Notification.document?
  | _ => none

/-- **A message opens, changes or closes a document that is no file.** -/
def IsForeign (e : Event) : Prop := ∃ u, e.document? = some u ∧ u.scheme ≠ "file"

end Event

/-- A field that holds a URL was read as one. -/
theorem Url.hasScheme_of_field? {json : Json} {key : String} {u : Url}
    (h : json.field? Url.ofJson? key = some u) : u.HasScheme := by
  obtain ⟨value, -, hvalue⟩ := Option.bind_eq_some_iff.1 h
  obtain ⟨text, -, htext⟩ := Option.bind_eq_some_iff.1 hvalue
  exact hasScheme_of_parse? htext

/-- **The URL in a message was read as one.** -/
theorem Notification.hasScheme_of_ofJson? {method : String} {params : Json} {n : Notification}
    (h : ofJson? method params = some n) {u : Url} (hu : n.document? = some u) : u.HasScheme := by
  unfold ofJson? at h
  split at h
  · obtain ⟨_, -, rfl⟩ := Option.map_eq_some_iff.1 h
    cases hu
  · simp only [opened?, Option.bind_eq_bind, Option.bind_eq_some_iff, Option.pure_def,
      Option.some.injEq] at h
    obtain ⟨json, -, document, -, language, -, url, hurl, text, -, version, -, rfl⟩ := h
    obtain rfl := Option.some.inj hu
    exact Url.hasScheme_of_field? hurl
  · simp only [changed?, Option.bind_eq_bind, Option.bind_eq_some_iff, Option.pure_def,
      Option.some.injEq] at h
    obtain ⟨json, -, document, -, url, hurl, edits, -, version, -, rfl⟩ := h
    obtain rfl := Option.some.inj hu
    exact Url.hasScheme_of_field? hurl
  · simp only [saved?, Option.bind_eq_bind, Option.bind_eq_some_iff, Option.pure_def,
      Option.some.injEq] at h
    obtain ⟨json, -, text, -, url, -, rfl⟩ := h
    cases hu
  · simp only [closed?, Option.bind_eq_bind, Option.bind_eq_some_iff, Option.pure_def,
      Option.some.injEq] at h
    obtain ⟨json, -, url, hurl, rfl⟩ := h
    obtain rfl := Option.some.inj hu
    -- the document of a closing stands in a structure of its own
    obtain ⟨value, -, hvalue⟩ := Option.bind_eq_some_iff.1 hurl
    obtain ⟨document, -, hdocument⟩ := Option.bind_eq_some_iff.1 hvalue
    exact Url.hasScheme_of_field? hdocument
  · simp only [configured?, Option.bind_eq_bind, Option.bind_eq_some_iff, Option.pure_def,
      Option.some.injEq] at h
    obtain ⟨json, -, payload, -, rfl⟩ := h
    cases hu
  · simp only [foldersChanged?, Option.bind_eq_bind, Option.bind_eq_some_iff, Option.pure_def,
      Option.some.injEq] at h
    obtain ⟨json, -, event, -, added, -, removed, -, rfl⟩ := h
    cases hu
  · simp only [filesChanged?, Option.bind_eq_bind, Option.bind_eq_some_iff, Option.pure_def,
      Option.some.injEq] at h
    obtain ⟨json, -, changes, -, rfl⟩ := h
    cases hu
  · cases h

/-- The document of a message has a URL that was read. -/
theorem Event.hasScheme_of_document? {e : Event} {u : Url} (h : e.document? = some u) :
    u.HasScheme := by
  cases e with
  | notification method params =>
    obtain ⟨n, hn, hu⟩ := Option.bind_eq_some_iff.1 h
    obtain ⟨json, -, hjson⟩ := Option.bind_eq_some_iff.1 hn
    exact Notification.hasScheme_of_ofJson? hjson hu
  | request method params => cases h
  | disk after => cases h

/-! ### What it touches -/

/-- **A notification about a document touches its file, once at most.** -/
theorem Session.touches_of_document? (s : Session) (d : Disk) {n : Notification} {u : Url}
    (hu : n.document? = some u) :
    s.touches d n = [] ∨ ∃ t, s.touches d n = [t] ∧ t.file = FileId.ofUrl d u := by
  cases n with
  | opened v text version =>
    obtain rfl := Option.some.inj hu
    exact Or.inr ⟨_, rfl, rfl⟩
  | changed v edits version =>
    obtain rfl := Option.some.inj hu
    simp only [touches]
    cases (s.documents.change v edits version).text? v with
    | none => exact Or.inl rfl
    | some text => exact Or.inr ⟨_, rfl, rfl⟩
  | closed v =>
    obtain rfl := Option.some.inj hu
    simp only [touches, closedTouches]
    split
    · next p hp =>
      -- the path that is read again is that of the document
      have hfile : FileId.ofUrl d v = FileId.ofPath d p := by
        rw [FileId.ofUrl, (Option.filter_eq_some_iff.1 hp).1]
      unfold reloadTouches
      split
      · exact Or.inl rfl
      · exact Or.inr ⟨_, rfl, hfile.symm⟩
    · exact Or.inr ⟨_, rfl, rfl⟩
  | initialized => cases hu
  | configured payload => cases hu
  | foldersChanged added removed => cases hu
  | filesChanged changes => cases hu
  | saved v => cases hu

namespace World

/-- A message in which a notification is heard is about the document of the notification. -/
theorem document?_of_heard? {w : World} {e : Event} {n : Notification} (h : w.heard? e = some n) :
    e.document? = n.document? := by
  obtain ⟨method, params, rfl, hn, -⟩ := message_of_heard? h
  rw [Event.document?, hn, Option.bind_some]

/-- A message about a document touches its file, once at most. -/
theorem touches_of_document? (w : World) {e : Event} {u : Url} (hu : e.document? = some u) :
    w.touches e = [] ∨ ∃ t, w.touches e = [t] ∧ t.file = w.fileOf u := by
  cases hheard : w.heard? e with
  | none => exact Or.inl (touches_of_unheard hheard)
  | some n =>
    rw [touches_of_heard? hheard]
    exact w.session.touches_of_document? w.disk ((document?_of_heard? hheard).symm.trans hu)

/-- A message about a document comes while the disk stays as it is. -/
theorem disk_step_of_document? (w : World) {e : Event} {u : Url} (hu : e.document? = some u) :
    (w.step e).disk = w.disk := by
  cases e with
  | notification method params => rfl
  | request method params => rfl
  | disk after => cases hu

/-! ### The files on the disk -/

open Classical in
/-- **The files on the disk are kept**: of every file that was tracked, and is known by a path or a
`file` URL, there is the version, there are the sites and there is the place that there were. -/
def Keeps (w v : World) : Prop :=
  w.session.analysis.AgreesOn
    (fun file => decide (w.session.analysis.isTracked file = true ∧ file.IsFile))
    v.session.analysis

open Classical in
/-- A file on the disk that was tracked and is kept has the text that it had. -/
theorem Keeps.textOf? {w v : World} (h : w.Keeps v) {file : FileId}
    (htracked : w.session.analysis.isTracked file = true) (hfile : file.IsFile) :
    v.textOf? file = w.textOf? file :=
  Analysis.AgreesOn.textOf? h (decide_eq_true ⟨htracked, hfile⟩)

open Classical in
/-- The files on the disk are kept by a message about a document that is no file if the file of the
document, if there is one, keeps its text. -/
theorem Keeps.step {w v : World} (h : w.Keeps v) (hv : v.session.analysis.UpToDate) {e : Event}
    {u : Url} (hu : e.document? = some u) (hscheme : u.scheme ≠ "file")
    (htext : u.toPath?.isSome = true → w.session.analysis.isTracked (v.fileOf u) = true →
      (v.step e).textOf? (v.fileOf u) = w.textOf? (v.fileOf u)) : w.Keeps (v.step e) := by
  refine Analysis.AgreesOn.trans h ?_
  rw [analysis_step]
  rcases v.touches_of_document? hu with hnone | ⟨t, ht, hfile⟩
  · rw [hnone]
    exact .refl _ _
  · rw [ht]
    refine hv.agreesOn_touch fun hkeep => ?_
    rw [hfile] at hkeep ⊢
    obtain ⟨htracked, hisfile⟩ := of_decide_eq_true hkeep
    -- a document without a path is known by its URL, and no file is
    have hpath : u.toPath?.isSome = true := by
      rw [Option.isSome_iff_ne_none]
      intro hnone
      have hscheme' := Event.hasScheme_of_document? hu
      rw [fileOf, (FileId.ofUrl_eq_iff v.disk hscheme').2 hnone] at hisfile
      exact FileId.not_isFile_of_foreign hscheme' hscheme hisfile
    have hstep := htext hpath htracked
    rw [textOf?_step, ht, Touch.last?_cons, if_pos hfile] at hstep
    exact (h.textOf? htracked hisfile).trans hstep.symm

/-- The files on the disk are kept along messages about documents that are no files if the files of
these documents, where there are some, keep their texts. -/
theorem Keeps.states {w v : World} (hv : w.Keeps v) (hup : v.session.analysis.UpToDate)
    (hdisk : v.disk = w.disk) {foreign : List Event} (hforeign : ∀ e ∈ foreign, e.IsForeign)
    (htexts : ∀ u ∈ foreign.filterMap Event.document?, u.toPath?.isSome = true →
      w.session.analysis.isTracked (w.fileOf u) = true →
      ∀ x ∈ v.states foreign, x.textOf? (w.fileOf u) = w.textOf? (w.fileOf u)) :
    ∀ x ∈ v.states foreign, w.Keeps x := by
  induction foreign generalizing v with
  | nil =>
    intro x hx
    rwa [List.mem_singleton.1 hx]
  | cons e rest ih =>
    obtain ⟨u, hu, hscheme⟩ := hforeign e (List.mem_cons_self ..)
    have hfile : v.fileOf u = w.fileOf u := by rw [fileOf, hdisk, fileOf]
    have hnext : w.Keeps (v.step e) := by
      refine hv.step hup hu hscheme fun hpath htracked => ?_
      rw [hfile] at htracked ⊢
      refine htexts u ?_ hpath htracked _ (List.mem_cons_of_mem _ ?_)
      · rw [List.filterMap_cons, hu]
        exact List.mem_cons_self ..
      · cases rest with
        | nil => exact List.mem_singleton_self _
        | cons e' rest => exact List.mem_cons_self ..
    rw [World.states, List.forall_mem_cons]
    refine ⟨hv, ih hnext (upToDate_step hup e) ?_
      (fun e' he' => hforeign e' (List.mem_cons_of_mem _ he')) ?_⟩
    · exact (v.disk_step_of_document? hu).trans hdisk
    · intro u' hu' hpath htracked x hx
      refine htexts u' ?_ hpath htracked x (List.mem_cons_of_mem _ hx)
      rw [List.filterMap_cons, hu]
      exact List.mem_cons_of_mem _ hu'

/-- **Documents that are no files disturb only the files whose paths they have.** While the editor
opens, changes and closes documents with schemes other than `file`, each is known by its URL exactly
when that has no path; and the files on the disk are kept all along exactly when every tracked file
that is the path of one of the documents keeps its text. -/
theorem keeps_iff_of_foreign (echoesLog : Bool) (d : Disk) (events : List Event)
    {foreign : List Event} (hforeign : ∀ e ∈ foreign, e.IsForeign) :
    let w := (start echoesLog d).run events
    (∀ u ∈ foreign.filterMap Event.document?, w.fileOf u = ⟨u.text⟩ ↔ u.toPath? = none) ∧
    ((∀ v ∈ w.states foreign, w.Keeps v) ↔
      ∀ u ∈ foreign.filterMap Event.document?, u.toPath?.isSome = true →
        w.session.analysis.isTracked (w.fileOf u) = true →
        ∀ v ∈ w.states foreign, v.textOf? (w.fileOf u) = w.textOf? (w.fileOf u)) := by
  intro w
  refine ⟨fun u hu => ?_, fun hkeeps u _ hpath htracked v hv => ?_, fun htexts => ?_⟩
  · obtain ⟨e, -, he⟩ := List.mem_filterMap.1 hu
    exact FileId.ofUrl_eq_iff w.disk (Event.hasScheme_of_document? he)
  · obtain ⟨p, hp⟩ := Option.isSome_iff_exists.1 hpath
    exact (hkeeps v hv).textOf? htracked (FileId.isFile_ofUrl w.disk hp)
  · have hself : w.Keeps w := .refl _ _
    exact hself.states (upToDate_run echoesLog d events) rfl hforeign htexts

/-! ### A file and a revision of it -/

/-- An editor introduces itself and opens a file. -/
def fileOpening : List Event :=
  [.introduction, .opening "file:///a.sail" "val x\n"]

/-- A file stays as it is while a document without a path is open. -/
theorem keeps_untitled :
    (Event.opening "untitled:Untitled-1" "val y\n").IsForeign ∧
      ∀ v ∈ ((start false .empty).run fileOpening).states
        [.opening "untitled:Untitled-1" "val y\n"],
        ((start false .empty).run fileOpening).Keeps v := by
  obtain ⟨u, hu⟩ : ∃ u : Url, u = ⟨"untitled", none, .plain "Untitled-1", none, none⟩ := ⟨_, rfl⟩
  have hdocument : (Event.opening "untitled:Untitled-1" "val y\n").document? = some u := by
    rw [hu]
    rfl
  have hforeign : (Event.opening "untitled:Untitled-1" "val y\n").IsForeign :=
    ⟨u, hdocument, by rw [hu]; decide⟩
  have hall : ∀ e ∈ [Event.opening "untitled:Untitled-1" "val y\n"], e.IsForeign :=
    List.forall_mem_singleton.2 hforeign
  refine ⟨hforeign, (keeps_iff_of_foreign false .empty fileOpening hall).2.2 ?_⟩
  intro v hv hpath
  rw [List.filterMap_cons, hdocument] at hv
  rw [List.mem_singleton.1 hv, hu] at hpath
  cases hpath

/-- The URL of the file. -/
def fileUrl : Url where
  scheme := "file"
  authority := some .noMachine
  route := .segments ["a.sail"]
  query := none
  fragment := none

/-- The URL of a revision of the file. -/
def revisionUrl : Url where
  scheme := "git"
  authority := none
  route := .segments ["a.sail"]
  query := some "HEAD"
  fragment := none

/-- On a disk without files, a path to one in the root is its identity. -/
theorem ofUrl_of_toPath? {u : Url} (h : u.toPath? = some (.ofString "/a.sail")) :
    FileId.ofUrl .empty u = ⟨"/a.sail"⟩ := by
  have hmissing : Disk.empty.resolve (.ofString "/a.sail") = .error .notFound := by
    have hentry : Disk.empty.entry? ["a.sail"] = none := rfl
    have harrive : Disk.empty.arrive (.ofString "/a.sail") true =
        Disk.empty.follow true 40 [] [.ok (.name "a.sail")] := rfl
    rw [Disk.resolve, harrive]
    simp [Disk.follow, hentry]
  rw [FileId.ofUrl, h]
  dsimp only
  rw [FileId.ofPath, Disk.normalize_of_missing hmissing rfl rfl]
  rfl

/-- **A revision of a file that is open is taken for the file**, and the file loses its text. -/
theorem not_keeps_revision :
    ∃ u, (Event.opening "git:/a.sail?HEAD" "val y\n").document? = some u ∧ u.scheme ≠ "file" ∧
      ((start false .empty).run fileOpening).fileOf u ≠ ⟨u.text⟩ ∧
      ¬ ((start false .empty).run fileOpening).Keeps
        (((start false .empty).run fileOpening).step (.opening "git:/a.sail?HEAD" "val y\n")) := by
  obtain ⟨w, hw⟩ : ∃ w, w = (start false .empty).run fileOpening := ⟨_, rfl⟩
  obtain ⟨file, hfile⟩ : ∃ file, file = FileId.ofUrl .empty revisionUrl := ⟨_, rfl⟩
  have hdisk : w.disk = .empty := by rw [hw]; rfl
  have hidentity : file = ⟨"/a.sail"⟩ := hfile.trans (ofUrl_of_toPath? rfl)
  rw [← hw]
  refine ⟨revisionUrl, rfl, by decide, ?_, fun hkeeps => ?_⟩
  · rw [fileOf, hdisk, ← hfile, hidentity]
    decide
  · -- before, the file has the text with which it was opened
    have hbefore : w.textOf? file = some "val x\n" := by
      obtain ⟨w₀, hw₀⟩ : ∃ w₀, w₀ = (start false .empty).run (fileOpening.take 1) := ⟨_, rfl⟩
      have hstep : w = w₀.step (.opening "file:///a.sail" "val x\n") := by rw [hw, hw₀]; rfl
      have htouches : w₀.touches (.opening "file:///a.sail" "val x\n") =
          [⟨.document fileUrl, .ofUrl .empty fileUrl, some "val x\n"⟩] := by
        rw [hw₀]
        rfl
      have hsame : FileId.ofUrl .empty fileUrl = file :=
        (ofUrl_of_toPath? rfl).trans hidentity.symm
      rw [hstep, textOf?_step, htouches, Touch.last?_cons, if_pos hsame]
      rfl
    -- afterwards it has that of the revision
    have hafter : (w.step (.opening "git:/a.sail?HEAD" "val y\n")).textOf? file =
        some "val y\n" := by
      have htouches : w.touches (.opening "git:/a.sail?HEAD" "val y\n") =
          [⟨.document revisionUrl, .ofUrl .empty revisionUrl, some "val y\n"⟩] := by
        rw [hw]
        rfl
      rw [textOf?_step, htouches, Touch.last?_cons, if_pos hfile.symm]
      rfl
    have htracked : w.session.analysis.isTracked file = true := by
      obtain ⟨s, hs, -⟩ := Option.map_eq_some_iff.1 hbefore
      exact Option.isSome_iff_exists.2 ⟨s, hs⟩
    have hisfile : file.IsFile := hfile ▸ FileId.isFile_ofUrl .empty (p := .ofString "/a.sail") rfl
    have hkept := hkeeps.textOf? htracked hisfile
    rw [hbefore, hafter] at hkept
    exact absurd hkept (by decide)

end World

end SailNav
