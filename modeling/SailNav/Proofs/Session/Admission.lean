import Mathlib.Data.List.Induction
import SailNav.Proofs.Disk.Resolve
import SailNav.Proofs.Disk.Walk
import SailNav.Proofs.Session.Current

/-!
# Which files a session admits

A scan of the workspace stays out of hidden directories, of what tools have made, and of what the
settings exclude. A session should track what a scan finds and what is open, and nothing else
(`SailNav.World.Admitted`), but there are ways into the analysis on which nobody asks what a scan
would find: a change that is told of, a document that is closed, a folder that is added. And there
are files that stay when the scan would no longer find them, since a change of the settings or of
the folders does not look at them.

Such a file *bypasses* the scan (`SailNav.World.Bypasses`). On a disk that does not change no file
is out of place for another reason: all tracked files are admitted all along a run exactly when
every file is that bypasses the scan at an event of it (`SailNav.World.admitted_iff_of_settled`).
-/

namespace SailNav

/-- A file is tracked when the analysis has a text of it. -/
theorem Analysis.isTracked_iff_textOf? {a : Analysis} {file : FileId} :
    a.isTracked file = true ↔ ∃ text, a.textOf? file = some text := by
  rw [isTracked, Table.contains, Option.isSome_iff_exists]
  constructor
  · rintro ⟨s, hs⟩
    exact ⟨s.text, Option.map_eq_some_iff.2 ⟨s, hs, rfl⟩⟩
  · rintro ⟨text, htext⟩
    obtain ⟨s, hs, -⟩ := Option.map_eq_some_iff.1 htext
    exact ⟨s, hs⟩

/-- What a scan touches is what it finds. -/
theorem Session.mem_discoverWith_of_mem_scanTouches {s : Session} {d : Disk} {roots : List Path}
    {t : Touch} (ht : t ∈ s.scanTouches d roots) :
    t.file ∈ (Workspace.discoverWith d s.settings.indexing roots).files.map
      fun l => FileId.ofPath d l.path := by
  unfold scanTouches at ht
  split at ht
  · obtain ⟨l, hl, hfinding⟩ := List.mem_filterMap.1 ht
    refine List.mem_map.2 ⟨l, hl, ?_⟩
    split at hfinding
    · rw [← Option.some.inj hfinding]
    · cases hfinding
  · cases ht

/-- What a notification does not close stays open. -/
theorem Session.isOpen_documentsAfter {s : Session} {n : Notification} {u : Url} (hn : n ≠ .closed u)
    (h : s.documents.isOpen u = true) : (s.documentsAfter n).isOpen u = true := by
  rw [DocumentStore.isOpen_iff] at h ⊢
  obtain ⟨text, htext⟩ := h
  cases n with
  | opened v new version =>
    rw [documentsAfter, DocumentStore.text?_openDocument]
    by_cases huv : v = u
    · exact ⟨new, if_pos huv⟩
    · exact ⟨text, by rw [if_neg huv, htext]⟩
  | changed v edits version =>
    rw [documentsAfter]
    by_cases huv : v = u
    · rw [huv]
      cases hafter : (s.documents.change u edits version).text? u with
      | some after => exact ⟨after, rfl⟩
      | none =>
        -- a document that is changed stays open
        rw [DocumentStore.change_of_text?_eq_none hafter, htext] at hafter
        cases hafter
    · exact ⟨text, by rw [DocumentStore.text?_change_of_ne huv, htext]⟩
  | closed v =>
    have huv : v ≠ u := fun heq => hn (by rw [heq])
    exact ⟨text, by rw [documentsAfter, DocumentStore.text?_close, if_neg huv, htext]⟩
  | initialized | configured _ | foldersChanged _ _ | filesChanged _ | saved _ =>
    exact ⟨text, htext⟩

/-- The file of a document that is closed is not touched only if it is open under the URL of its
path. -/
theorem Session.isOpen_of_untouched {s : Session} {d : Disk} {u : Url}
    (h : Touch.last? (s.closedTouches d u) (.ofUrl d u) = none) :
    ∃ v, s.documents.isOpen v = true ∧ FileId.ofUrl d v = FileId.ofUrl d u := by
  unfold closedTouches at h
  split at h
  · next p hp =>
    obtain ⟨hpath, hsource⟩ := Option.filter_eq_some_iff.1 hp
    rw [Bool.and_eq_true, Bool.and_eq_true, Bool.and_eq_true] at hsource
    obtain ⟨⟨⟨-, hsail⟩, hfile⟩, -⟩ := hsource
    have hsame : FileId.ofUrl d u = FileId.ofPath d p := by rw [FileId.ofUrl, hpath]
    unfold reloadTouches at h
    split at h
    · next hopen =>
      obtain ⟨v, hv, hvopen⟩ := (Option.any_eq_true ..).1 hopen
      exact ⟨v, hvopen, (FileId.ofUrl_of_ofPath? hsail hfile hv).trans hsame.symm⟩
    · exact absurd hsame.symm (Touch.last?_eq_none.1 h _ (List.mem_singleton_self _))
  · exact absurd rfl (Touch.last?_eq_none.1 h _ (List.mem_singleton_self _))

namespace World

/-! ### What is admitted -/

/-- The files that a scan of the workspace finds, as the folders and the settings are. -/
def discovered (w : World) : List FileId :=
  (Workspace.discoverWith w.disk w.session.settings.indexing w.session.roots).files.map
    fun l => .ofPath w.disk l.path

/-- A document of a file is open. -/
def Held (w : World) (file : FileId) : Prop :=
  ∃ u, w.session.documents.isOpen u = true ∧ w.fileOf u = file

/-- **A file is admitted**: it is open, or a scan finds it. -/
def Admits (w : World) (file : FileId) : Prop := w.Held file ∨ file ∈ w.discovered

/-- **All tracked files are admitted.** -/
def Admitted (w : World) : Prop :=
  ∀ file, w.session.analysis.isTracked file = true → w.Admits file

/-- While nothing is open, a scan finds all files that are tracked and admitted. -/
theorem Admitted.mem_discovered {w : World} (h : w.Admitted)
    (hclosed : w.session.documents = .empty) {file : FileId}
    (hfile : w.session.analysis.isTracked file = true) : file ∈ w.discovered := by
  rcases h file hfile with ⟨u, hopen, -⟩ | hfound
  · rw [hclosed] at hopen
    cases hopen
  · exact hfound

/-! ### Ways around the scan -/

variable {w : World} {e : Event} {file : FileId}

/-- An event leaves a file a text. -/
def Brings (w : World) (e : Event) (file : FileId) : Prop :=
  ∃ t, Touch.last? (w.touches e) file = some t ∧ t.text.isSome = true

/-- An event does not touch a tracked file. -/
def Leaves (w : World) (e : Event) (file : FileId) : Prop :=
  Touch.last? (w.touches e) file = none ∧ w.session.analysis.isTracked file = true

/-- The files that are tracked after an event are those that it brings and those that it leaves. -/
theorem isTracked_step_iff :
    (w.step e).session.analysis.isTracked file = true ↔ w.Brings e file ∨ w.Leaves e file := by
  have hstep : (w.step e).session.analysis.textOf? file = _ := textOf?_step w e file
  rw [Analysis.isTracked_iff_textOf?, hstep, Brings, Leaves, Analysis.isTracked_iff_textOf?, textOf?]
  cases Touch.last? (w.touches e) file with
  | none => simp
  | some t => simp [Option.isSome_iff_exists]

/-- **A file bypasses the scan at an event**: the event brings it or leaves it, and does not ask
whether a scan finds it. -/
inductive Bypasses (w : World) (e : Event) (file : FileId) : Prop
  /-- The editor tells that the file changed on the disk. -/
  | told (changes : List Session.FileChange) (heard : w.heard? e = some (.filesChanged changes))
      (brings : w.Brings e file)
  /-- A document of the file is closed, and what is on the disk counts again. -/
  | reverted (u : Url) (heard : w.heard? e = some (.closed u)) (brings : w.Brings e file)
  /-- The file is found below the folders that are added, as if there were no others. -/
  | added (more fewer : List WorkspaceFolder)
      (heard : w.heard? e = some (.foldersChanged more fewer)) (brings : w.Brings e file)
  /-- The settings change, and the file is as it was. -/
  | configured (payload : Json) (heard : w.heard? e = some (.configured payload))
      (leaves : w.Leaves e file)
  /-- The folders change, and the file is as it was. -/
  | moved (more fewer : List WorkspaceFolder)
      (heard : w.heard? e = some (.foldersChanged more fewer)) (leaves : w.Leaves e file)

/-- A file that bypasses the scan is tracked afterwards. -/
theorem Bypasses.isTracked (h : w.Bypasses e file) :
    (w.step e).session.analysis.isTracked file = true := by
  rw [isTracked_step_iff]
  cases h with
  | told _ _ brings | reverted _ _ brings | added _ _ _ brings => exact Or.inl brings
  | configured _ _ leaves | moved _ _ _ leaves => exact Or.inr leaves

/-! ### What an event finds and holds -/

/-- A scan finds the same while the session stands as it is. -/
theorem discovered_of_standing {v : World} (hdisk : v.disk = w.disk)
    (hsettings : v.session.settings = w.session.settings)
    (hfolders : v.session.folders = w.session.folders) : v.discovered = w.discovered := by
  rw [discovered, hdisk, hsettings, Session.roots, hfolders, discovered, Session.roots]

/-- A file is held while its documents stay open. -/
theorem Held.of_documents {v : World} (h : w.Held file) (hdisk : v.disk = w.disk)
    (hopen : ∀ u, w.session.documents.isOpen u = true → v.session.documents.isOpen u = true) :
    v.Held file := by
  obtain ⟨u, hu, hfile⟩ := h
  exact ⟨u, hopen u hu, by rw [fileOf, hdisk, ← hfile, fileOf]⟩

/-- A file stays admitted while its documents stay open and the session stands as it is. -/
theorem Admits.of_standing {v : World} (h : w.Admits file) (hdisk : v.disk = w.disk)
    (hsettings : v.session.settings = w.session.settings)
    (hfolders : v.session.folders = w.session.folders)
    (hopen : ∀ u, w.session.documents.isOpen u = true → v.session.documents.isOpen u = true) :
    v.Admits file := by
  rcases h with hheld | hfound
  · exact Or.inl (hheld.of_documents hdisk hopen)
  · exact Or.inr (discovered_of_standing hdisk hsettings hfolders ▸ hfound)

/-! ### Events -/

/-- A session in which a notification is heard stands as that leaves it. -/
theorem standing_of_heard? {n : Notification} (h : w.heard? e = some n) :
    (w.step e).disk = w.disk ∧ (w.step e).session.standing = w.session.standingAfter n ∧
      (w.step e).session.documents = w.session.documentsAfter n := by
  rw [step_of_heard? h]
  exact ⟨rfl, w.session.standing_notice w.disk n, (w.session.notice_eq w.disk n).2⟩

/-- A file stays admitted at a notification that closes no document of it and changes neither
settings nor folders. -/
theorem Admits.of_heard? {n : Notification} (h : w.Admits file) (hheard : w.heard? e = some n)
    (hstanding : w.session.standingAfter n = w.session.standing) (hn : ∀ u, n ≠ .closed u) :
    (w.step e).Admits file := by
  obtain ⟨hdisk, hafter, hdocuments⟩ := standing_of_heard? hheard
  rw [hstanding] at hafter
  refine h.of_standing hdisk (congrArg Session.Standing.settings hafter)
    (congrArg Session.Standing.folders hafter) fun u hu => ?_
  rw [hdocuments]
  exact Session.isOpen_documentsAfter (hn u) hu

/-- A file stays admitted when a document is closed and the file is not touched. -/
theorem Admits.of_closed {u : Url} (h : w.Admits file) (hheard : w.heard? e = some (.closed u))
    (huntouched : Touch.last? (w.touches e) file = none) : (w.step e).Admits file := by
  obtain ⟨hdisk, hafter, hdocuments⟩ := standing_of_heard? hheard
  rcases h with ⟨v, hopen, rfl⟩ | hfound
  · -- the file is open under another URL, be it the one that is made of its path
    obtain ⟨x, hx, hfile⟩ : ∃ x, (w.step e).session.documents.isOpen x = true ∧
        w.fileOf x = w.fileOf v := by
      rw [hdocuments]
      by_cases hv : v = u
      · rw [touches_of_heard? hheard, hv] at huntouched
        rw [hv]
        exact Session.isOpen_of_untouched huntouched
      · refine ⟨v, Session.isOpen_documentsAfter (fun heq => hv ?_) hopen, rfl⟩
        rw [Notification.closed.inj heq]
    exact Or.inl ⟨x, hx, by rw [fileOf, hdisk, ← hfile, fileOf]⟩
  · refine Or.inr ?_
    rwa [discovered_of_standing hdisk (congrArg Session.Standing.settings hafter)
      (congrArg Session.Standing.folders hafter)]

/-- A file stays admitted when nothing is heard in an event, unless that changes the disk. -/
theorem Admits.of_unheard (h : w.Admits file) (hheard : w.heard? e = none)
    (hphase : w.session.phase ≠ .uninitialized) (hdisk : (w.step e).disk = w.disk) :
    (w.step e).Admits file := by
  rcases standing_of_unheard hheard with ⟨phase, -, hstanding⟩ | ⟨hbegins, -⟩
  · refine h.of_standing hdisk (congrArg Session.Standing.settings hstanding)
      (congrArg Session.Standing.folders hstanding) fun u hu => ?_
    rwa [documents_of_unheard hheard]
  · exact absurd hbegins hphase

/-- What is brought by a scan of the whole workspace is found by it, and what is brought by a
document is open. -/
theorem admits_of_brings {n : Notification} (hheard : w.heard? e = some n)
    (hbrings : w.Brings e file) (hnot : ¬ w.Bypasses e file) : (w.step e).Admits file := by
  obtain ⟨hdisk, hstanding, hdocuments⟩ := standing_of_heard? hheard
  have hsettings := congrArg Session.Standing.settings hstanding
  have hfolders := congrArg Session.Standing.folders hstanding
  obtain ⟨t, hlast, htext⟩ := id hbrings
  obtain ⟨hmem, rfl⟩ := Touch.mem_of_last? hlast
  rw [touches_of_heard? hheard] at hmem
  cases n with
  | initialized =>
    refine Or.inr ?_
    rw [discovered_of_standing hdisk hsettings hfolders]
    exact Session.mem_discoverWith_of_mem_scanTouches hmem
  | configured payload =>
    -- the scan goes by the settings as they are now
    unfold Session.touches at hmem
    dsimp only at hmem
    split at hmem
    · have hfound := Session.mem_discoverWith_of_mem_scanTouches hmem
      refine Or.inr ?_
      change (w.step e).session.settings = w.session.settings.merge payload at hsettings
      change (w.step e).session.folders = w.session.folders at hfolders
      rw [discovered, hdisk, hsettings, Session.roots, hfolders]
      exact hfound
    · cases hmem
  | opened u text version =>
    rw [List.mem_singleton.1 hmem]
    refine Or.inl ⟨u, ?_, by rw [fileOf, hdisk]⟩
    rw [hdocuments, DocumentStore.isOpen_iff, Session.documentsAfter, DocumentStore.text?_openDocument]
    exact ⟨text, if_pos rfl⟩
  | changed u edits version =>
    obtain ⟨text, hchanged, rfl⟩ := List.mem_map.1 hmem
    refine Or.inl ⟨u, ?_, by rw [fileOf, hdisk]⟩
    rw [hdocuments, DocumentStore.isOpen_iff]
    exact ⟨text, Option.mem_toList.1 hchanged⟩
  | saved u => cases hmem
  | foldersChanged more fewer => exact absurd (.added more fewer hheard hbrings) hnot
  | filesChanged changes => exact absurd (.told changes hheard hbrings) hnot
  | closed u => exact absurd (.reverted u hheard hbrings) hnot

/-- A file that is not touched stays admitted, unless settings or folders change. -/
theorem Admits.of_leaves {n : Notification} (h : w.Admits file) (hheard : w.heard? e = some n)
    (hleaves : w.Leaves e file) (hnot : ¬ w.Bypasses e file) : (w.step e).Admits file := by
  cases n with
  | configured payload => exact absurd (.configured payload hheard hleaves) hnot
  | foldersChanged more fewer => exact absurd (.moved more fewer hheard hleaves) hnot
  | closed u => exact h.of_closed hheard hleaves.1
  | initialized | filesChanged _ | opened _ _ _ | changed _ _ _ | saved _ =>
    exact h.of_heard? hheard rfl (by simp)

/-- **A file that does not bypass the scan is admitted** after an event, if all tracked files were
before. -/
theorem Admitted.admits_of_not_bypasses (h : w.Admitted) (hidle : w.Idle)
    (hsettled : ∀ after, e = .disk after → w.session.phase = .uninitialized)
    (hfile : (w.step e).session.analysis.isTracked file = true) (hnot : ¬ w.Bypasses e file) :
    (w.step e).Admits file := by
  have hcases := isTracked_step_iff.1 hfile
  cases hheard : w.heard? e with
  | some n =>
    rcases hcases with hbrings | hleaves
    · exact admits_of_brings hheard hbrings hnot
    · exact (h file hleaves.2).of_leaves hheard hleaves hnot
  | none =>
    rcases hcases with ⟨t, ht, -⟩ | ⟨-, hbefore⟩
    · rw [touches_of_unheard hheard] at ht
      cases ht
    · -- a session that tracks a file has begun
      have hphase : w.session.phase ≠ .uninitialized := by
        intro hphase
        rw [(hidle hphase).2] at hbefore
        cases hbefore
      refine (h file hbefore).of_unheard hheard hphase ?_
      cases e with
      | request method params => rfl
      | notification method params => rfl
      | disk after => exact absurd (hsettled after rfl) hphase

/-- **At an event all tracked files stay admitted exactly when those that bypass the scan are.** -/
theorem Admitted.step_iff (h : w.Admitted) (hidle : w.Idle)
    (hsettled : ∀ after, e = .disk after → w.session.phase = .uninitialized) :
    (w.step e).Admitted ↔ ∀ file, w.Bypasses e file → (w.step e).Admits file := by
  refine ⟨fun hafter file hbypasses => hafter file hbypasses.isTracked, fun hall file hfile => ?_⟩
  by_cases hbypasses : w.Bypasses e file
  · exact hall file hbypasses
  · exact h.admits_of_not_bypasses hidle hsettled hfile hbypasses

/-! ### Runs -/

/-- **The disk does not change once the session has begun.** -/
def Settled (w : World) (events : List Event) : Prop :=
  ∀ front e, front ++ [e] <+: events → ∀ after, e = .disk after →
    (w.run front).session.phase = .uninitialized

/-- **All tracked files are admitted all along a run on a settled disk exactly when every file is
that bypasses the scan at an event**; and while nothing is open then, a scan finds them all. -/
theorem admitted_iff_of_settled (echoesLog : Bool) (d : Disk) {events : List Event}
    (hsettled : (start echoesLog d).Settled events) :
    ((∀ front, front <+: events → ((start echoesLog d).run front).Admitted) ↔
      ∀ front e, front ++ [e] <+: events → ∀ file,
        ((start echoesLog d).run front).Bypasses e file →
          ((start echoesLog d).run (front ++ [e])).Admits file) ∧
    ∀ front, front <+: events → ((start echoesLog d).run front).Admitted →
      ((start echoesLog d).run front).session.documents = .empty →
        ∀ file ∈ ((start echoesLog d).run front).session.analysis.trackedFiles,
          file ∈ ((start echoesLog d).run front).discovered := by
  constructor
  · refine forall_prefix_iff (fun file hfile => by cases hfile) fun front e hfront hadmitted => ?_
    have hrun : (start echoesLog d).run (front ++ [e]) = ((start echoesLog d).run front).step e :=
      run_append (start echoesLog d) front [e]
    rw [hrun]
    exact hadmitted.step_iff (idle_run echoesLog d front) (hsettled front e hfront)
  · intro front _ hadmitted hclosed file hfile
    refine hadmitted.mem_discovered hclosed ?_
    rw [(upToDate_run echoesLog d front).isTracked_eq, Index.containsFile, Table.contains_iff]
    exact hfile

/-- What is said of the events of a run is said of the first and of those behind it. -/
theorem forall_concat_prefix_cons {Q : List Event → Event → Prop} {first : Event}
    {rest : List Event} : (∀ front e, front ++ [e] <+: first :: rest → Q front e) ↔
      Q [] first ∧ ∀ front e, front ++ [e] <+: rest → Q (first :: front) e := by
  constructor
  · intro h
    exact ⟨h [] first (List.prefix_append [first] rest), fun front e hfront =>
      h (first :: front) e (List.cons_prefix_cons.2 ⟨rfl, hfront⟩)⟩
  · rintro ⟨hfirst, hrest⟩ front e hfront
    cases front with
    | nil =>
      obtain rfl := (List.cons_prefix_cons.1 hfront).1
      exact hfirst
    | cons e' front =>
      obtain ⟨rfl, hbehind⟩ := List.cons_prefix_cons.1 hfront
      exact hrest front e hbehind

/-- The URL of a document that is no file. -/
def untitledUrl : Url := ⟨"untitled", none, .plain "Untitled-1", none, none⟩

/-- The disk changes, an editor introduces itself, and a document that is no file is opened and
closed. -/
def untitledRun : List Event :=
  [.disk .empty, .introduction, .opening "untitled:Untitled-1" "val x\n",
   .closing "untitled:Untitled-1"]

/-- No file bypasses the scan in such a run. -/
theorem admitted_untitled :
    (start false .empty).Settled untitledRun ∧
      ∀ front, front <+: untitledRun → ((start false .empty).run front).Admitted := by
  have hend : ∀ {Q : List Event → Event → Prop}, ∀ front e, front ++ [e] <+: [] → Q front e := by
    intro Q front e hfront
    exact absurd (List.prefix_nil.1 hfront) (by simp)
  have hsettled : (start false .empty).Settled untitledRun := by
    refine forall_concat_prefix_cons.2 ⟨fun _ _ => rfl, forall_concat_prefix_cons.2 ⟨?_,
      forall_concat_prefix_cons.2 ⟨?_, forall_concat_prefix_cons.2 ⟨?_, hend⟩⟩⟩⟩
    all_goals
      intro after heq
      cases heq
  refine ⟨hsettled, (admitted_iff_of_settled false .empty hsettled).1.2 ?_⟩
  have hnone : ∀ {w : World} {e : Event}, w.heard? e = none → ∀ {file}, ¬ w.Bypasses e file := by
    rintro w e hnone file (⟨_, h, _⟩ | ⟨_, h, _⟩ | ⟨_, _, h, _⟩ | ⟨_, h, _⟩ | ⟨_, _, h, _⟩) <;>
      cases h.symm.trans hnone
  refine forall_concat_prefix_cons.2 ⟨fun file h => absurd h (hnone rfl),
    forall_concat_prefix_cons.2 ⟨fun file h => absurd h (hnone rfl),
      forall_concat_prefix_cons.2 ⟨fun file h => ?_, forall_concat_prefix_cons.2
        ⟨fun file h => ?_, hend⟩⟩⟩⟩
  · -- opening a document is no way around the scan
    have hopened : ((start false .empty).run (untitledRun.take 2)).heard?
        (.opening "untitled:Untitled-1" "val x\n") = some (.opened untitledUrl "val x\n" 1) := rfl
    rcases h with ⟨_, h, _⟩ | ⟨_, h, _⟩ | ⟨_, _, h, _⟩ | ⟨_, h, _⟩ | ⟨_, _, h, _⟩ <;>
      cases h.symm.trans hopened
  · -- what is closed is given up
    have hclosed : ((start false .empty).run (untitledRun.take 3)).heard?
        (.closing "untitled:Untitled-1") = some (.closed untitledUrl) := rfl
    rcases h with ⟨_, h, _⟩ | ⟨_, _, t, ht, htext⟩ | ⟨_, _, h, _⟩ | ⟨_, h, _⟩ | ⟨_, _, h, _⟩
    · cases h.symm.trans hclosed
    · have hmem : t ∈ [(⟨.document untitledUrl, .ofUrl .empty untitledUrl, none⟩ : Touch)] :=
        (Touch.mem_of_last? ht).1
      rw [List.mem_singleton.1 hmem] at htext
      cases htext
    all_goals cases h.symm.trans hclosed

/-- A disk with a source file in a hidden directory. -/
def hiddenDisk : Disk where
  table := ⟨[([".git"], .directory), ([".git", "a.sail"], .file "val x\n".toUTF8)]⟩

/-- The URL of the file. -/
def hiddenUrl : Url := ⟨"file", some .noMachine, .segments [".git", "a.sail"], none, none⟩

/-- An editor introduces itself with the root of the disk for a folder. -/
def hiddenOpening : List Event :=
  [.request "initialize" (some (.obj [("capabilities", .obj []),
      ("workspaceFolders", .arr [.obj [("uri", .str "file:///"), ("name", .str "root")]])]))]

/-- The editor tells that the file has changed. -/
def hiddenChange : Event :=
  .notification "workspace/didChangeWatchedFiles" (some (.obj [("changes",
    .arr [.obj [("uri", .str "file:///.git/a.sail"), ("type", .int 2)]])]))

/-- A scan finds nothing. -/
theorem discovered_hidden : ((start false hiddenDisk).run hiddenOpening).discovered = [] := by
  have hgit : hiddenDisk.entry? [".git"] = some .directory := rfl
  have hroot : hiddenDisk.resolve (.ofString "/") = .ok [] := by
    have harrive : hiddenDisk.arrive (.ofString "/") true =
        hiddenDisk.follow true 40 [] [.ok .here] := rfl
    rw [Disk.resolve, harrive]
    simp [Disk.follow]
  have hchildren : hiddenDisk.children [] = [⟨".git", [".git"], false⟩] := by
    decide
  have hwalk : hiddenDisk.walk (Workspace.isBelow []) Workspace.isUnwanted (.ofString "/") = [] := by
    rw [List.eq_nil_iff_forall_not_mem]
    intro x hx
    obtain ⟨l, hl, -, hx⟩ := Disk.mem_walk_iff.1 hx
    obtain rfl : [] = l := Except.ok.inj (hroot.symm.trans hl)
    rcases hx with ⟨⟨content, hfile⟩, -⟩ | ⟨-, hbelow⟩
    · cases hfile
    · obtain ⟨c, hc, -, hx⟩ := Disk.mem_filesBelow_iff.1 hbelow
      obtain rfl := List.mem_singleton.1 (hchildren ▸ hc)
      rcases hx with ⟨⟨content, hfile⟩, -⟩ | ⟨-, hwanted, -⟩
      · cases hgit.symm.trans hfile
      · exact hwanted (.inl (by decide))
  obtain ⟨w, hw⟩ : ∃ w, w = (start false hiddenDisk).run hiddenOpening := ⟨_, rfl⟩
  have hdisk : w.disk = hiddenDisk := by rw [hw]; rfl
  have hroots : w.session.roots = [.ofString "/"] := by rw [hw]; rfl
  have hexcluded : w.session.settings.indexing.excludePaths = [] := by rw [hw]; rfl
  rw [← hw, discovered, Workspace.discoverWith, Workspace.discover, Workspace.sourceVisits, hdisk,
    hroots, hexcluded]
  have hnone : Workspace.excludedPaths hiddenDisk [.ofString "/"] [] = [] := rfl
  rw [hnone, List.flatMap_cons, hwalk]
  have hsorted : Workspace.sorted [] = [] := by
    rw [Workspace.sorted, List.mergeSort_nil]
    rfl
  simp [hsorted]

/-- **A file in a hidden directory is tracked** when the editor tells of it, and a scan does not find
it. -/
theorem not_admitted_hidden :
    (start false hiddenDisk).Settled (hiddenOpening ++ [hiddenChange]) ∧
      ∃ w, w = (start false hiddenDisk).run (hiddenOpening ++ [hiddenChange]) ∧
        w.session.documents = .empty ∧ w.session.analysis.isTracked ⟨"/.git/a.sail"⟩ = true ∧
        ⟨"/.git/a.sail"⟩ ∉ w.discovered := by
  obtain ⟨w, hw⟩ : ∃ w, w = (start false hiddenDisk).run hiddenOpening := ⟨_, rfl⟩
  have hrun : (start false hiddenDisk).run (hiddenOpening ++ [hiddenChange]) =
      w.step hiddenChange := by
    rw [hw]
    rfl
  have hdisk : w.disk = hiddenDisk := by rw [hw]; rfl
  have hheard : w.heard? hiddenChange = some (.filesChanged [⟨hiddenUrl, false⟩]) := by
    rw [hw]
    rfl
  obtain ⟨hsame, hstanding, hdocuments⟩ := standing_of_heard? hheard
  have hresolve : hiddenDisk.resolve (.ofString "/.git/a.sail") = .ok [".git", "a.sail"] := by
    have hgit : hiddenDisk.entry? [".git"] = some .directory := rfl
    have hentry : hiddenDisk.entry? [".git", "a.sail"] = some (.file "val x\n".toUTF8) := rfl
    have harrive : hiddenDisk.arrive (.ofString "/.git/a.sail") true =
        hiddenDisk.follow true 40 [] [.ok (.name ".git"), .ok (.name "a.sail")] := rfl
    rw [Disk.resolve, harrive]
    simp [Disk.follow, hgit, hentry]
  have htouches : w.touches hiddenChange =
      [⟨.path (.ofString "/.git/a.sail"), ⟨"/.git/a.sail"⟩, some "val x\n"⟩] := by
    have hlimit : w.session.settings.indexing.maxFileSizeBytes = 1048576 := by rw [hw]; rfl
    have htext : w.disk.load (.ofString "/.git/a.sail")
        w.session.settings.indexing.maxFileSizeBytes = .ok "val x\n" := by
      rw [hlimit, hdisk, Disk.load, Disk.stat, hresolve]
      rfl
    have hfile : FileId.ofPath w.disk (.ofString "/.git/a.sail") = ⟨"/.git/a.sail"⟩ := by
      rw [hdisk, FileId.ofPath, Disk.normalize, hresolve]
      rfl
    rw [touches_of_heard? hheard, Session.touches, List.flatMap_singleton,
      Session.changeTouches_of_load rfl rfl (by rw [hw]; rfl) (by rw [hw]; rfl) htext, hfile]
  refine ⟨?_, w.step hiddenChange, hrun.symm, ?_, ?_, ?_⟩
  · refine forall_concat_prefix_cons.2 ⟨?_, forall_concat_prefix_cons.2 ⟨?_,
      fun front e hfront => absurd (List.prefix_nil.1 hfront) (by simp)⟩⟩
    all_goals
      intro after heq
      cases heq
  · rw [hdocuments, hw]
    rfl
  · refine isTracked_step_iff.2 (Or.inl
      ⟨⟨.path (.ofString "/.git/a.sail"), ⟨"/.git/a.sail"⟩, some "val x\n"⟩, ?_, rfl⟩)
    rw [htouches, Touch.last?_cons, if_pos rfl]
    rfl
  · rw [discovered_of_standing hsame (congrArg Session.Standing.settings hstanding)
      (congrArg Session.Standing.folders hstanding), hw, discovered_hidden]
    exact List.not_mem_nil

end World

end SailNav
