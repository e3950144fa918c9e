import SailNav.Proofs.Disk.Tree
import SailNav.Proofs.Session.Current
import SailNav.Proofs.Session.Foreign
import SailNav.Proofs.Workspace.Discover

/-!
# Runs over plain paths

A file that is open is left to the editor, and it is the URL that is made of a path by which the
session asks whether the file is open there. So everything depends on that a file has one URL. On a
disk without links it has, as long as its paths spell locations: they do not go up, and their names
are texts. In runs over such *plain* paths (`SailNav.World.PlainRun`) whatever touches the file of
an open document knows it by the URL of the document
(`SailNav.World.PlainRun.recognised_of_mem_touches`). So the editor wins all along
(`SailNav.World.PlainRun.isPlain_and_editorWins`), and what it shows is current
(`SailNav.World.current_iff_and_of_plain`).

Where a name is no text this fails, even without links (`SailNav.World.not_current_unreadable`).
-/

namespace SailNav

/-! ### Plain documents -/

/-- **A document is plain**: it has the URL that is made of its path, and the path spells a location
under a name with the ending `.sail`. -/
def Url.IsPlain (u : Url) : Prop :=
  ∃ p l name, u.toPath? = some p ∧ ofPath? p = some u ∧ p.Spells (l ++ [name ++ ".sail"])

/-- The path to a name with that ending does not end like a drive. -/
theorem Location.endsInDrive_path (l : Location) (name : String) :
    Url.endsInDrive (Location.path (l ++ [name ++ ".sail"])).bytes = false := by
  have hsail : (Text.toBytes ".sail").reverse = [0x6C, 0x69, 0x61, 0x73, 0x2E] := by
    decide
  rw [Url.endsInDrive, bytes_path_concat, Text.toBytes_append, ← List.cons_append,
    ← List.append_assoc, List.reverse_append, hsail]
  rfl

/-- The path of a plain document is that of a location. -/
theorem Url.IsPlain.exists_location {u : Url} (h : u.IsPlain) :
    ∃ l : Location, (∀ name ∈ l, Path.IsName (Text.toBytes name)) ∧
      u.toPath? = some l.path ∧ ofPath? l.path = some u := by
  obtain ⟨p, l, name, hpath, hurl, hspells⟩ := h
  have hlocation := hspells.ofComponents_eq
  -- the path of the URL that is made of the path is that of its components
  have hsame := toPath?_of_ofPath? hurl (hlocation ▸ Location.endsInDrive_path l name)
  rw [hlocation, hpath] at hsame
  obtain rfl := Option.some.inj hsame
  exact ⟨_, hspells.isName, hpath, hurl⟩

/-- A text that is an absolute path starts with a slash. -/
theorem Path.head?_of_isAbsolute {text : String} (h : (ofString text).isAbsolute = true) :
    text.toList.head? = some '/' := by
  rw [isAbsolute, beq_iff_eq] at h
  obtain ⟨rest, hrest⟩ := List.head?_eq_some_iff.1 h
  rw [← display_ofString text, display, hrest]
  exact Text.head?_ofBytes (by decide) rest

/-- The path of a file that is known by a path. -/
theorem FileId.eq_of_toPath? {f : FileId} {p : Path} (h : f.toPath? = some p) :
    p = .ofString f.text ∧ f.text.toList.head? = some '/' := by
  unfold toPath? at h
  dsimp only at h
  split at h
  · next habsolute => exact ⟨(Option.some.inj h).symm, Path.head?_of_isAbsolute habsolute⟩
  · cases h

/-- A document at a location is known by its path on every disk without links. -/
theorem FileId.ofUrl_of_isTree {d : Disk} (hd : d.IsTree) {u : Url} {l : Location}
    (hl : ∀ name ∈ l, Path.IsName (Text.toBytes name)) (hpath : u.toPath? = some l.path) :
    ofUrl d u = ⟨l.path.display⟩ := by
  rw [ofUrl, hpath]
  exact congrArg (fun p : Path => FileId.mk p.display) (hd.normalize_path hl)

/-! ### Plain runs -/

/-- The changes on the disk that a notification tells of. -/
def Notification.changes : Notification → List Session.FileChange
  | .filesChanged changes => changes
  | _ => []

/-- The changes on the disk that a message tells of. -/
def Event.changes : Event → List Session.FileChange
  | .notification method params =>
    ((params.bind (Notification.ofJson? method)).map Notification.changes).getD []
  | _ => []

namespace World

/-- **A run is plain.** There are no links on the disk. Every document that the editor opens,
changes or closes either has no path or is plain, and those without a path are one if they are
printed alike, as URLs are. The paths of the changes on the disk that the editor tells of spell
locations, too. -/
structure PlainRun (d : Disk) (events : List Event) : Prop where
  isTree : d.IsTree
  isTree_after : ∀ after, Event.disk after ∈ events → after.IsTree
  document : ∀ u ∈ events.filterMap Event.document?, u.toPath? = none ∨ u.IsPlain
  printed : ∀ u ∈ events.filterMap Event.document?, ∀ v ∈ events.filterMap Event.document?,
    u.toPath? = none → v.toPath? = none → u.text = v.text → u = v
  change : ∀ c ∈ events.flatMap Event.changes, ∀ p, c.url.toPath? = some p → ∃ l, p.Spells l

namespace PlainRun

variable {d₀ d d' : Disk} {events : List Event} {u v : Url} {p : Path}

/-- The documents of a run have URLs that were read. -/
theorem hasScheme_of_mem (hu : u ∈ events.filterMap Event.document?) : u.HasScheme := by
  obtain ⟨e, -, he⟩ := List.mem_filterMap.1 hu
  exact Event.hasScheme_of_document? he

section

variable (h : PlainRun d₀ events) (hd : d.IsTree)
include h

/-- The paths of documents spell locations. -/
theorem spells_of_document (hu : u ∈ events.filterMap Event.document?)
    (hp : u.toPath? = some p) : ∃ l, p.Spells l := by
  rcases h.document u hu with hnone | ⟨q, l, name, hq, -, hspells⟩
  · rw [hnone] at hp
    cases hp
  · rw [hq] at hp
    exact ⟨_, Option.some.inj hp ▸ hspells⟩

include hd

/-- **A path by which the file of a document is known has the URL of the document.** -/
theorem ofPath?_of_ofPath_eq (hu : u ∈ events.filterMap Event.document?) {l : Location}
    (hp : p.Spells l) (heq : FileId.ofPath d p = .ofUrl d u) : Url.ofPath? p = some u := by
  rcases h.document u hu with hnone | hplain
  · rw [(FileId.ofUrl_eq_iff d (hasScheme_of_mem hu)).2 hnone] at heq
    exact absurd heq (FileId.ofPath_ne_text d hp.isAbsolute (hasScheme_of_mem hu))
  · obtain ⟨m, hm, hpath, hurl⟩ := hplain.exists_location
    rw [FileId.ofUrl_of_isTree hd hm hpath] at heq
    rw [hd.ofPath?_eq hm hp heq, hurl]

/-- The path of the file of a document, as it is known, has the URL of the document. -/
theorem ofPath?_of_toPath?_eq (hu : u ∈ events.filterMap Event.document?)
    (hp : (FileId.ofUrl d u).toPath? = some p) : Url.ofPath? p = some u := by
  obtain ⟨rfl, hslash⟩ := FileId.eq_of_toPath? hp
  rcases h.document u hu with hnone | hplain
  · rw [(FileId.ofUrl_eq_iff d (hasScheme_of_mem hu)).2 hnone] at hslash
    exact absurd hslash (hasScheme_of_mem hu).head?_text_ne
  · obtain ⟨l, hl, hpath, hurl⟩ := hplain.exists_location
    obtain ⟨text, htext⟩ := (Location.spells_path hl).exists_ofString
    rw [FileId.ofUrl_of_isTree hd hl hpath, htext, Path.display_ofString, ← htext, hurl]

/-- **Different documents are different files.** -/
theorem eq_of_ofUrl_eq (hu : u ∈ events.filterMap Event.document?)
    (hv : v ∈ events.filterMap Event.document?) (heq : FileId.ofUrl d u = .ofUrl d v) : u = v := by
  rcases h.document u hu with hnone | hplain
  · have htext := (FileId.ofUrl_eq_iff d (hasScheme_of_mem hu)).2 hnone
    rcases h.document v hv with hnone' | hplain
    · rw [htext, (FileId.ofUrl_eq_iff d (hasScheme_of_mem hv)).2 hnone'] at heq
      exact h.printed u hu v hv hnone hnone' (congrArg FileId.text heq)
    · -- a URL without a path is not printed like a path
      obtain ⟨l, hl, hpath, -⟩ := hplain.exists_location
      rw [htext, FileId.ofUrl, hpath] at heq
      exact absurd heq.symm
        (FileId.ofPath_ne_text d (Location.isAbsolute_path l) (hasScheme_of_mem hu))
  · obtain ⟨l, hl, hpath, hurl⟩ := hplain.exists_location
    rw [FileId.ofUrl, hpath] at heq
    have hother := h.ofPath?_of_ofPath_eq hd hv (Location.spells_path hl) heq
    exact Option.some.inj (hurl.symm.trans hother)

/-- A document is the same file on all disks without links. -/
theorem ofUrl_eq_ofUrl (hd' : d'.IsTree) (hu : u ∈ events.filterMap Event.document?) :
    FileId.ofUrl d u = .ofUrl d' u := by
  rcases h.document u hu with hnone | hplain
  · rw [FileId.ofUrl, hnone, FileId.ofUrl, hnone]
  · obtain ⟨l, hl, hpath, -⟩ := hplain.exists_location
    rw [FileId.ofUrl_of_isTree hd hl hpath, FileId.ofUrl_of_isTree hd' hl hpath]

end

end PlainRun

end World

/-! ### Where touches come from -/

namespace Session

variable {s : Session} {d : Disk} {n : Notification} {t : Touch} {p : Path}

/-- A touch comes from a path: one by which the file is known, or one that spells a location. -/
def FromPath (d : Disk) (t : Touch) : Prop :=
  ∃ p, t.origin = .path p ∧ (t.file.toPath? = some p ∨ t.file = .ofPath d p ∧ ∃ l, p.Spells l)

/-- What a scan finds is at a location. -/
theorem fromPath_of_mem_scanTouches (hd : d.IsTree) {roots : List Path}
    (ht : t ∈ s.scanTouches d roots) : FromPath d t := by
  unfold scanTouches at ht
  split at ht
  · obtain ⟨l, hl, hfinding⟩ := List.mem_filterMap.1 ht
    obtain ⟨content, hentry, -⟩ := Workspace.exists_entry?_of_mem_discoverWith hl
    have hspells : ∃ m, l.path.Spells m := ⟨l, Location.spells_path (hd.isName l _ hentry)⟩
    split at hfinding
    · obtain rfl := Option.some.inj hfinding
      exact ⟨l.path, rfl, Or.inr ⟨rfl, hspells⟩⟩
    · cases hfinding
  · cases ht

/-- A file is taken from the disk by its path. -/
theorem fromPath_of_mem_reloadTouches (hp : ∃ l, p.Spells l) (ht : t ∈ s.reloadTouches d p) :
    FromPath d t := by
  unfold reloadTouches at ht
  split at ht
  · cases ht
  · obtain rfl := List.mem_singleton.1 ht
    exact ⟨p, rfl, Or.inr ⟨rfl, hp⟩⟩

/-- A change on the disk is told by its path. -/
theorem fromPath_of_mem_changeTouches {c : FileChange}
    (hc : ∀ p, c.url.toPath? = some p → ∃ l, p.Spells l) (ht : t ∈ s.changeTouches d c) :
    FromPath d t := by
  unfold changeTouches at ht
  split at ht
  · cases ht
  · next p hpath =>
    split at ht
    · cases ht
    · split at ht
      · obtain rfl := List.mem_singleton.1 ht
        exact ⟨p, rfl, Or.inr ⟨rfl, hc p hpath⟩⟩
      · split at ht
        · exact fromPath_of_mem_reloadTouches (hc p hpath) ht
        · cases ht

/-- A file is given up with its folder by the path by which it is known. -/
theorem fromPath_of_mem_dropTouches {roots : List Path} (ht : t ∈ s.dropTouches d roots) :
    FromPath d t := by
  unfold dropTouches at ht
  split at ht
  · cases ht
  · obtain ⟨f, hf, rfl⟩ := List.mem_map.1 ht
    have hunder := (List.mem_filter.1 hf).2
    refine ⟨.ofString f.text, rfl, Or.inl ?_⟩
    dsimp only at hunder ⊢
    split at hunder
    · cases hunder
    · next p hp => rw [hp, (FileId.eq_of_toPath? hp).1]

/-- **Where a touch comes from** on a disk without links, if the paths of documents and of changes
spell locations: from the document that the notification is about, or from such a path. -/
theorem origin_of_mem_touches (hd : d.IsTree)
    (hdocument : ∀ u p, n.document? = some u → u.toPath? = some p → ∃ l, p.Spells l)
    (hchange : ∀ c ∈ n.changes, ∀ p, c.url.toPath? = some p → ∃ l, p.Spells l)
    (ht : t ∈ s.touches d n) :
    (∃ u, n.document? = some u ∧ t.origin = .document u ∧ t.file = .ofUrl d u) ∨
      FromPath d t := by
  cases n with
  | initialized => exact Or.inr (fromPath_of_mem_scanTouches hd ht)
  | configured payload =>
    unfold touches at ht
    dsimp only at ht
    split at ht
    · exact Or.inr (fromPath_of_mem_scanTouches hd ht)
    · cases ht
  | foldersChanged added removed =>
    rcases List.mem_append.1 ht with ht | ht
    · exact Or.inr (fromPath_of_mem_dropTouches ht)
    · split at ht
      · cases ht
      · exact Or.inr (fromPath_of_mem_scanTouches hd ht)
  | filesChanged changes =>
    obtain ⟨c, hc, hct⟩ := List.mem_flatMap.1 ht
    exact Or.inr (fromPath_of_mem_changeTouches (hchange c hc) hct)
  | opened u text version =>
    obtain rfl := List.mem_singleton.1 ht
    exact Or.inl ⟨u, rfl, rfl, rfl⟩
  | changed u edits version =>
    obtain ⟨text, -, rfl⟩ := List.mem_map.1 ht
    exact Or.inl ⟨u, rfl, rfl, rfl⟩
  | saved u => cases ht
  | closed u =>
    unfold touches closedTouches at ht
    dsimp only at ht
    split at ht
    · next p hp =>
      have hpath := (Option.filter_eq_some_iff.1 hp).1
      exact Or.inr (fromPath_of_mem_reloadTouches (hdocument u p rfl hpath) ht)
    · obtain rfl := List.mem_singleton.1 ht
      exact Or.inl ⟨u, rfl, rfl, rfl⟩

/-- A notification opens no document but the one it is about. -/
theorem isOpen_of_documentsAfter {u : Url} (h : (s.documentsAfter n).isOpen u = true) :
    s.documents.isOpen u = true ∨ n.document? = some u := by
  rw [DocumentStore.isOpen_iff] at h ⊢
  cases n with
  | opened v text version =>
    rw [documentsAfter, DocumentStore.text?_openDocument] at h
    split at h
    · next heq => exact Or.inr (congrArg some heq)
    · exact Or.inl h
  | changed v edits version =>
    by_cases heq : v = u
    · exact Or.inr (congrArg some heq)
    · rw [documentsAfter, DocumentStore.text?_change_of_ne heq] at h
      exact Or.inl h
  | closed v =>
    rw [documentsAfter, DocumentStore.text?_close] at h
    split at h
    · next heq => exact Or.inr (congrArg some heq)
    · exact Or.inl h
  | initialized | configured _ | foldersChanged _ _ | filesChanged _ | saved _ => exact Or.inl h

end Session

namespace World

/-! ### Every touch knows the document by its URL -/

variable {w : World} {e : Event} {n : Notification}

/-- A message in which a notification is heard tells of the changes of the notification. -/
theorem changes_of_heard? (h : w.heard? e = some n) : e.changes = n.changes := by
  obtain ⟨method, params, rfl, hn, -⟩ := message_of_heard? h
  rw [Event.changes, hn]
  rfl

/-- **A world of a plain run**: there are no links on its disk, and the run has opened the documents
that are open. -/
structure IsPlain (w : World) (events : List Event) : Prop where
  isTree : w.disk.IsTree
  mem_of_isOpen : ∀ u, w.session.documents.isOpen u = true →
    u ∈ events.filterMap Event.document?

/-- A world of a plain run is followed by one. -/
theorem IsPlain.step {d : Disk} {events : List Event} (hw : w.IsPlain events)
    (h : PlainRun d events) (he : e ∈ events) : (w.step e).IsPlain events := by
  constructor
  · cases e with
    | disk after => exact h.isTree_after after he
    | request method params => exact hw.isTree
    | notification method params => exact hw.isTree
  · intro u hu
    cases hheard : w.heard? e with
    | none =>
      rw [documents_of_unheard hheard] at hu
      exact hw.mem_of_isOpen u hu
    | some n =>
      rw [step_of_heard? hheard, (w.session.notice_eq w.disk n).2] at hu
      rcases Session.isOpen_of_documentsAfter hu with hopen | hdocument
      · exact hw.mem_of_isOpen u hopen
      · exact List.mem_filterMap.2 ⟨e, he, (document?_of_heard? hheard).trans hdocument⟩

namespace PlainRun

variable {d : Disk} {events : List Event} (h : PlainRun d events) (hw : w.IsPlain events)
include h hw

/-- **Whatever touches the file of a document of a plain run knows it by the URL of the
document.** -/
theorem recognised_of_mem_touches (he : e ∈ events) {t : Touch} (ht : t ∈ w.touches e) {u : Url}
    (hu : u ∈ events.filterMap Event.document?) (hfile : w.fileOf u = t.file) :
    t.origin.url? = some u := by
  cases hheard : w.heard? e with
  | none =>
    rw [touches_of_unheard hheard] at ht
    cases ht
  | some n =>
    rw [touches_of_heard? hheard] at ht
    have hdocument : ∀ v, n.document? = some v → v ∈ events.filterMap Event.document? :=
      fun v hv => List.mem_filterMap.2 ⟨e, he, (document?_of_heard? hheard).trans hv⟩
    have hchange : ∀ c ∈ n.changes, c ∈ events.flatMap Event.changes :=
      fun c hc => List.mem_flatMap.2 ⟨e, he, (changes_of_heard? hheard) ▸ hc⟩
    rcases Session.origin_of_mem_touches hw.isTree
      (fun v p hv hp => h.spells_of_document (hdocument v hv) hp)
      (fun c hc => h.change c (hchange c hc)) ht with ⟨v, hv, horigin, hv'⟩ | ⟨p, horigin, hp⟩
    · -- a document that is the same file is the same document
      rw [horigin]
      rw [hv'] at hfile
      exact congrArg some (h.eq_of_ofUrl_eq hw.isTree (hdocument v hv) hu hfile.symm)
    · rw [horigin]
      rcases hp with hp | ⟨hp, l, hspells⟩
      · exact h.ofPath?_of_toPath?_eq hw.isTree hu ((congrArg FileId.toPath? hfile).trans hp)
      · exact h.ofPath?_of_ofPath_eq hw.isTree hu hspells (hp.symm.trans hfile.symm)

/-- Documents that are open in a plain run are not the same file. -/
theorem not_sharesFile {u : Url} (hu : u ∈ events.filterMap Event.document?) :
    ¬ w.SharesFile u := by
  rintro ⟨v, hopen, hfile, hne⟩
  exact hne (h.eq_of_ofUrl_eq hw.isTree (hw.mem_of_isOpen v hopen) hu hfile)

/-- **An event of a plain run overrides no document.** -/
theorem not_overrides (he : e ∈ events) : ¬ w.Overrides e := by
  have hafter := hw.step h he
  have hfile : ∀ u ∈ events.filterMap Event.document?, w.fileOf u = (w.step e).fileOf u :=
    fun u hu => h.ofUrl_eq_ofUrl hw.isTree hafter.isTree hu
  refine not_overrides_of_recognised ?_ ?_ ?_
  · intro t ht u hopen heq
    have hu := hafter.mem_of_isOpen u hopen
    exact h.recognised_of_mem_touches hw he ht hu ((hfile u hu).trans heq)
  · exact fun u hopen => h.not_sharesFile hw (hw.mem_of_isOpen u hopen)
  · exact fun u hopen => hfile u (hw.mem_of_isOpen u hopen)

/-- **An event of a plain run misreports no document**, where the editor wins. -/
theorem not_misreports (hwins : w.EditorWins) (e : Event) (u : Url) : ¬ w.Misreports e u := by
  rintro ⟨hoff, hon, text, htext, hne⟩
  -- documents stay as they are when faults come to be shown
  have hdocuments : (w.step e).session.documents = w.session.documents := by
    cases hheard : w.heard? e with
    | none => exact documents_of_unheard hheard
    | some n =>
      rw [step_of_heard? hheard] at hon ⊢
      rw [Session.settings_notice] at hon
      rw [(w.session.notice_eq w.disk n).2]
      cases n with
      | initialized | configured _ | foldersChanged _ _ | filesChanged _ | saved _ => rfl
      | opened _ _ _ | changed _ _ _ | closed _ => exact absurd (hon.symm.trans hoff) (by decide)
  rw [hdocuments] at htext
  have hopen := DocumentStore.isOpen_of_text? htext
  refine hne ?_
  rw [hwins u text ⟨htext, fun v hv hfile => ?_⟩]
  · rfl
  · exact h.eq_of_ofUrl_eq hw.isTree (hw.mem_of_isOpen v hv) (hw.mem_of_isOpen u hopen) hfile

omit hw

/-- **The editor wins all along a plain run**, in worlds that are plain. -/
theorem isPlain_and_editorWins (echoesLog : Bool) : ∀ front, front <+: events →
    ((start echoesLog d).run front).IsPlain events ∧
      ((start echoesLog d).run front).EditorWins := by
  refine (forall_prefix_iff (Q := fun _ _ => True) ?_ ?_).2 fun _ _ _ => trivial
  · exact ⟨⟨h.isTree, fun u hu => by cases hu⟩, editorWins_start echoesLog d⟩
  · rintro front e hprefix ⟨hplain, hwins⟩
    have he : e ∈ events := hprefix.subset (List.mem_append_right _ (List.mem_singleton_self e))
    rw [run_append]
    exact iff_of_true
      ⟨hplain.step h he, (editorWins_step_iff hwins e).2 (h.not_overrides hplain he)⟩ trivial

end PlainRun

/-- **When what the editor shows is current.** It is all along a run exactly when no event of it
misreports a document, and it always is along a run over plain paths. -/
theorem current_iff_and_of_plain (echoesLog : Bool) (d : Disk) (events : List Event) :
    ((∀ front, front <+: events → ∀ u, (start echoesLog d).Current front u) ↔
      ∀ front e, front ++ [e] <+: events → ∀ u,
        ¬ ((start echoesLog d).run front).Misreports e u) ∧
    (PlainRun d events →
      ∀ front, front <+: events → ∀ u, (start echoesLog d).Current front u) := by
  have hiff := current_iff_reported echoesLog d events
  refine ⟨hiff, fun h => hiff.2 fun front e hprefix u => ?_⟩
  have hfront : front <+: events := (List.prefix_append ..).trans hprefix
  obtain ⟨hplain, hwins⟩ := h.isPlain_and_editorWins echoesLog front hfront
  exact h.not_misreports hplain hwins e u

/-! ### A plain run -/

/-- A file is opened with a fault while faults are hidden, and then they are to be shown again. -/
def plainRun : List Event :=
  [.introduction, .configuring (.obj [("diagnostics", .obj [("lexical", .bool false)])]),
   .opening "file:///a.sail" "(", .opening "untitled:Untitled-1" "",
   .configuring (.obj [("diagnostics", .obj [("lexical", .bool true)])])]

/-- The file is a plain document. -/
theorem isPlain_fileUrl : fileUrl.IsPlain := by
  refine ⟨.ofString "/a.sail", [], "a", rfl, ?_, rfl, rfl⟩
  decide

/-- The run is plain, and so the fault is shown in the end. -/
theorem current_plainRun :
    PlainRun .empty plainRun ∧
      ∀ front, front <+: plainRun → ∀ u, (start false .empty).Current front u := by
  have hdocuments : plainRun.filterMap Event.document? =
      [fileUrl, ⟨"untitled", none, .plain "Untitled-1", none, none⟩] := rfl
  have h : PlainRun .empty plainRun := by
    constructor
    · exact Disk.isTree_empty
    · intro after hafter
      simp [plainRun, Event.introduction, Event.configuring, Event.opening] at hafter
    · rw [hdocuments]
      exact List.forall_mem_cons.2
        ⟨Or.inr isPlain_fileUrl, List.forall_mem_singleton.2 (Or.inl rfl)⟩
    · rw [hdocuments]
      decide
    · intro c hc
      have hnone : plainRun.flatMap Event.changes = [] := rfl
      rw [hnone] at hc
      cases hc
  exact ⟨h, (current_iff_and_of_plain false .empty plainRun).2 h⟩

end World

end SailNav
