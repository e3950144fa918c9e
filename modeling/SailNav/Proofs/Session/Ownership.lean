import SailNav.Proofs.Session.Touch

/-!
# Whose text counts

While a document is open, its text is the editor's: whatever is on the disk, the analysis should
have the editor's text of it (`SailNav.World.EditorWins`). It does all along a run exactly when no
event *overrides* a document (`SailNav.World.editorWins_iff_undisturbed`), and there are two ways to
do that (`SailNav.World.Overrides`).

* Whether the editor has a file open is asked by one URL, and a document is open under one. A file
  has several, though, by links and by the ways to spell a path. So a file that is open under
  another URL is not recognised, and is taken from the disk or given up
  (`SailNav.World.not_editorWins_linked` is a run that does so).
* Two documents may be the same file, and a link may come to lead elsewhere. When a document is then
  alone with its file, the analysis may have the text of the other one, or no text.

There is no other way, because a touch that comes under the URL of an open document brings the text
of that document (`SailNav.World.text_of_touch`). So an event that knows the open documents by their
URLs overrides none (`SailNav.World.not_overrides_of_recognised`).
-/

namespace SailNav

/-- A session and the disk that it looks at. -/
structure World where
  session : Session
  disk : Disk

/-- Something that happens to a session: a message comes, or the disk changes. -/
inductive Event where
  | request (method : String) (params : Option Json)
  | notification (method : String) (params : Option Json)
  | disk (after : Disk)

/-! ### Messages -/

namespace Session

/-- The notification that a session hears in a message, if it hears one. -/
def heard? (s : Session) (method : String) (params : Option Json) : Option Notification :=
  if method = "exit" ∨ s.phase ≠ .initialized ∨ method = "shutdown" then none
  else params.bind (Notification.ofJson? method)

/-- A message without an answer matters by the notification that is heard in it. -/
theorem receiveNotification_eq (s : Session) (d : Disk) (method : String) (params : Option Json) :
    (s.receiveNotification d method params).1.analysis =
        (match s.heard? method params with
        | some n => (s.notice d n).1.analysis
        | none => s.analysis) ∧
      (s.receiveNotification d method params).1.documents =
        match s.heard? method params with
        | some n => (s.notice d n).1.documents
        | none => s.documents := by
  unfold receiveNotification heard?
  -- the exit, a message out of time and shutting down are not notifications to be heard
  by_cases hexit : method = "exit"
  · rw [if_pos hexit, if_pos (Or.inl hexit)]
    exact ⟨rfl, rfl⟩
  by_cases hphase : s.phase ≠ .initialized
  · rw [if_neg hexit, if_pos hphase, if_pos (Or.inr (Or.inl hphase))]
    exact ⟨rfl, rfl⟩
  by_cases hshutdown : method = "shutdown"
  · rw [if_neg hexit, if_neg hphase, if_pos hshutdown, if_pos (Or.inr (Or.inr hshutdown))]
    exact ⟨rfl, rfl⟩
  rw [if_neg hexit, if_neg hphase, if_neg hshutdown, if_neg (by simp [hexit, hphase, hshutdown])]
  cases params.bind (Notification.ofJson? method) with
  | none => exact ⟨rfl, rfl⟩
  | some n => exact ⟨rfl, rfl⟩

/-- Whatever is asked for, the documents and what is known of them stay. -/
theorem perform_eq (s : Session) (d : Disk) (r : Request) :
    (s.perform d r).1.analysis = s.analysis ∧ (s.perform d r).1.documents = s.documents := by
  cases r <;> exact ⟨rfl, rfl⟩

/-- A request changes nothing of the documents and of what is known of them. -/
theorem receiveRequest_eq (s : Session) (d : Disk) (method : String) (params : Option Json) :
    (s.receiveRequest d method params).1.analysis = s.analysis ∧
      (s.receiveRequest d method params).1.documents = s.documents := by
  unfold receiveRequest
  dsimp only
  split
  · split <;> exact ⟨rfl, rfl⟩
  · split
    · exact ⟨rfl, rfl⟩
    · split
      · unfold afterUnread
        split <;> exact ⟨rfl, rfl⟩
      · next r _ => exact perform_eq s d r

end Session

namespace World

/-! ### Runs -/

/-- Before the first message. -/
def start (echoesLog : Bool) (d : Disk) : World := ⟨.fresh echoesLog, d⟩

/-- The world after an event. -/
def step (w : World) : Event → World
  | .request method params => ⟨(w.session.receiveRequest w.disk method params).1, w.disk⟩
  | .notification method params => ⟨(w.session.receiveNotification w.disk method params).1, w.disk⟩
  | .disk after => ⟨w.session, after⟩

/-- The worlds of a run, from the one before the first event to the one after the last. -/
def states (w : World) : List Event → List World
  | [] => [w]
  | e :: rest => w :: (w.step e).states rest

/-- What an event touches. -/
def touches (w : World) : Event → List Touch
  | .notification method params =>
    match w.session.heard? method params with
    | some n => w.session.touches w.disk n
    | none => []
  | _ => []

/-- The open documents after an event. -/
def documentsAfter (w : World) : Event → DocumentStore
  | .notification method params =>
    match w.session.heard? method params with
    | some n => w.session.documentsAfter n
    | none => w.session.documents
  | _ => w.session.documents

/-! ### What is asked for -/

/-- The file of a document. -/
def fileOf (w : World) (u : Url) : FileId := .ofUrl w.disk u

/-- The text that the analysis has of a file. -/
def textOf? (w : World) (file : FileId) : Option String := w.session.analysis.textOf? file

/-- A document is open with a text, and no other document that is open is the same file. -/
structure Holds (w : World) (u : Url) (text : String) : Prop where
  text : w.session.documents.text? u = some text
  alone : ∀ v, w.session.documents.isOpen v = true → w.fileOf v = w.fileOf u → v = u

/-- Another document that is open is the same file. -/
def SharesFile (w : World) (u : Url) : Prop :=
  ∃ v, w.session.documents.isOpen v = true ∧ w.fileOf v = w.fileOf u ∧ v ≠ u

/-- **The editor wins**: the analysis has the text of every document that is open and not the same
file as another. -/
def EditorWins (w : World) : Prop := ∀ u text, w.Holds u text → w.textOf? (w.fileOf u) = some text

/-- **An event overrides a document.** -/
inductive Overrides (w : World) (e : Event) : Prop
  /-- The file of the document is touched last under another URL, and is left without the text of
  the document. -/
  | taken (u : Url) (text : String) (t : Touch) (holds : (w.step e).Holds u text)
      (last : Touch.last? (w.touches e) ((w.step e).fileOf u) = some t)
      (other : t.origin.url? ≠ some u) (left : t.text ≠ some text)
  /-- The document shared its file with another before, or was another file, and the analysis does
  not have its text under the file that is now its own. -/
  | revealed (u : Url) (text : String) (holds : (w.step e).Holds u text)
      (before : w.SharesFile u ∨ w.fileOf u ≠ (w.step e).fileOf u)
      (untouched : Touch.last? (w.touches e) ((w.step e).fileOf u) = none)
      (left : w.textOf? ((w.step e).fileOf u) ≠ some text)

/-- No event of a run overrides a document. -/
def Undisturbed (w : World) : List Event → Prop
  | [] => True
  | e :: rest => ¬ w.Overrides e ∧ (w.step e).Undisturbed rest

/-! ### Touches under the URL of a document -/

/-- **An event does to the analysis what it touches.** -/
theorem analysis_step (w : World) (e : Event) :
    (w.step e).session.analysis = (w.touches e).foldl Analysis.touch w.session.analysis := by
  cases e with
  | request method params => exact (w.session.receiveRequest_eq w.disk method params).1
  | notification method params =>
    refine (w.session.receiveNotification_eq w.disk method params).1.trans ?_
    unfold touches
    dsimp only
    cases w.session.heard? method params with
    | none => rfl
    | some n => exact (w.session.notice_eq w.disk n).1
  | disk after => rfl

/-- After an event the analysis has of a file what the last touch left. -/
theorem textOf?_step (w : World) (e : Event) (file : FileId) :
    (w.step e).textOf? file =
      match Touch.last? (w.touches e) file with
      | some t => t.text
      | none => w.textOf? file := by
  rw [textOf?, analysis_step, Analysis.textOf?_foldl_touch]
  rfl

/-- An event changes the documents by the notification that is heard in it. -/
theorem documents_step (w : World) (e : Event) :
    (w.step e).session.documents = w.documentsAfter e := by
  cases e with
  | request method params => exact (w.session.receiveRequest_eq w.disk method params).2
  | notification method params =>
    refine (w.session.receiveNotification_eq w.disk method params).2.trans ?_
    unfold documentsAfter
    dsimp only
    cases w.session.heard? method params with
    | none => rfl
    | some n => exact (w.session.notice_eq w.disk n).2
  | disk after => rfl

end World

namespace Session

variable {s : Session} {d : Disk} {u : Url} {t : Touch}

/-- A touch comes from a path at which no document is open. -/
def FromUnopened (documents : DocumentStore) (t : Touch) : Prop :=
  ∃ p, t.origin = .path p ∧ documents.isOpenAt p = false

/-- No document is open under the URL of such a touch. -/
theorem FromUnopened.text?_eq_none {documents : DocumentStore} (h : FromUnopened documents t)
    (hu : t.origin.url? = some u) : documents.text? u = none := by
  obtain ⟨p, hp, hopen⟩ := h
  rw [hp] at hu
  cases htext : documents.text? u with
  | none => rfl
  | some text => exact absurd (DocumentStore.isOpenAt_of_text? hu htext) (by simp [hopen])

/-- A scan looks whether a file is open. -/
theorem fromUnopened_of_mem_scanTouches {roots : List Path} (ht : t ∈ s.scanTouches d roots) :
    FromUnopened s.documents t := by
  unfold scanTouches at ht
  split at ht
  · obtain ⟨l, -, hl⟩ := List.mem_filterMap.1 ht
    unfold Workspace.read at hl
    split at hl
    · next text heq =>
      refine ⟨l.path, by rw [← Option.some.inj hl], ?_⟩
      split at heq
      · exact absurd heq (by simp)
      · split at heq
        · exact absurd heq (by simp)
        · next hopen => simpa using hopen
    · exact absurd hl (by simp)
  · exact absurd ht List.not_mem_nil

/-- A file is taken from the disk only if it is not open. -/
theorem fromUnopened_of_mem_reloadTouches {p : Path} (ht : t ∈ s.reloadTouches d p) :
    FromUnopened s.documents t := by
  unfold reloadTouches at ht
  split at ht
  · exact absurd ht List.not_mem_nil
  · next hopen =>
    rw [List.mem_singleton.1 ht]
    exact ⟨p, rfl, by simpa using hopen⟩

/-- A change on the disk counts only if the file is not open. -/
theorem fromUnopened_of_mem_changeTouches {c : FileChange} (ht : t ∈ s.changeTouches d c) :
    FromUnopened s.documents t := by
  unfold changeTouches at ht
  split at ht
  · exact absurd ht List.not_mem_nil
  · next p _ =>
    split at ht
    · exact absurd ht List.not_mem_nil
    · next hskip =>
      split at ht
      · rw [List.mem_singleton.1 ht]
        exact ⟨p, rfl, by simp_all⟩
      · split at ht
        · exact fromUnopened_of_mem_reloadTouches ht
        · exact absurd ht List.not_mem_nil

/-- A file below a removed folder is given up only if it is not open. -/
theorem fromUnopened_of_mem_dropTouches {roots : List Path} (ht : t ∈ s.dropTouches d roots) :
    FromUnopened s.documents t := by
  unfold dropTouches at ht
  split at ht
  · exact absurd ht List.not_mem_nil
  · obtain ⟨f, hf, rfl⟩ := List.mem_map.1 ht
    have hunder := (List.mem_filter.1 hf).2
    refine ⟨.ofString f.text, rfl, ?_⟩
    unfold FileId.toPath? at hunder
    dsimp only at hunder
    split at hunder
    · exact absurd hunder (by simp)
    · next p hp =>
      split at hp
      · rw [Option.some.inj hp]
        simpa using (Bool.and_eq_true_iff.1 hunder).2
      · exact absurd hp (by simp)

/-- **A touch under the URL of a document that is open afterwards brings its text.** -/
theorem text_of_mem_touches {n : Notification} (ht : t ∈ s.touches d n)
    (hu : t.origin.url? = some u) {text : String}
    (htext : (s.documentsAfter n).text? u = some text) : t.text = some text := by
  have hunopened : ¬ FromUnopened (s.documentsAfter n) t := by
    intro h
    rw [h.text?_eq_none hu] at htext
    exact absurd htext (by simp)
  cases n with
  | initialized => exact absurd (fromUnopened_of_mem_scanTouches ht) hunopened
  | configured payload =>
    unfold touches at ht
    dsimp only at ht
    split at ht
    · exact absurd (fromUnopened_of_mem_scanTouches ht) hunopened
    · exact absurd ht List.not_mem_nil
  | foldersChanged added removed =>
    rcases List.mem_append.1 ht with ht | ht
    · exact absurd (fromUnopened_of_mem_dropTouches ht) hunopened
    · split at ht
      · exact absurd ht List.not_mem_nil
      · exact absurd (fromUnopened_of_mem_scanTouches ht) hunopened
  | filesChanged changes =>
    obtain ⟨c, -, hc⟩ := List.mem_flatMap.1 ht
    exact absurd (fromUnopened_of_mem_changeTouches hc) hunopened
  | opened v text' version =>
    -- an edit of the document itself
    rw [List.mem_singleton.1 ht] at hu ⊢
    obtain rfl : v = u := Option.some.inj hu
    rwa [documentsAfter, DocumentStore.text?_openDocument, if_pos rfl] at htext
  | changed v edits version =>
    obtain ⟨text', htext', rfl⟩ := List.mem_map.1 ht
    obtain rfl : v = u := Option.some.inj hu
    exact (Option.mem_toList.1 htext').symm.trans htext
  | saved v => exact absurd ht List.not_mem_nil
  | closed v =>
    simp only [touches, closedTouches] at ht
    split at ht
    · exact absurd (fromUnopened_of_mem_reloadTouches ht) hunopened
    · -- the document that is closed is not open afterwards
      rw [List.mem_singleton.1 ht] at hu
      obtain rfl : v = u := Option.some.inj hu
      rw [documentsAfter, DocumentStore.text?_close, if_pos rfl] at htext
      exact absurd htext (by simp)

/-- A notification changes the text of a document only by a touch of its file. -/
theorem text?_of_untouched {n : Notification} {text : String}
    (htext : (s.documentsAfter n).text? u = some text)
    (huntouched : ∀ t ∈ s.touches d n, t.file ≠ FileId.ofUrl d u) :
    s.documents.text? u = some text := by
  cases n with
  | opened v text' version =>
    have hne : v ≠ u := by
      rintro rfl
      exact huntouched _ (List.mem_singleton_self _) rfl
    rwa [documentsAfter, DocumentStore.text?_openDocument, if_neg hne] at htext
  | changed v edits version =>
    have hne : v ≠ u := by
      rintro rfl
      exact huntouched _ (List.mem_map_of_mem (Option.mem_toList.2 htext)) rfl
    rwa [documentsAfter, DocumentStore.text?_change_of_ne hne] at htext
  | closed v =>
    rw [documentsAfter, DocumentStore.text?_close] at htext
    split at htext
    · exact absurd htext (by simp)
    · exact htext
  | initialized => exact htext
  | configured payload => exact htext
  | foldersChanged added removed => exact htext
  | filesChanged changes => exact htext
  | saved v => exact htext

end Session

namespace World

/-- **A touch under the URL of a document brings its text.** -/
theorem text_of_touch {w : World} {e : Event} {t : Touch} (ht : t ∈ w.touches e) {u : Url}
    (hu : t.origin.url? = some u) {text : String}
    (htext : (w.step e).session.documents.text? u = some text) : t.text = some text := by
  rw [documents_step] at htext
  cases e with
  | request method params => exact absurd ht List.not_mem_nil
  | notification method params =>
    unfold touches at ht
    unfold documentsAfter at htext
    dsimp only at ht htext
    cases hheard : w.session.heard? method params with
    | none =>
      rw [hheard] at ht
      exact absurd ht List.not_mem_nil
    | some n =>
      rw [hheard] at ht htext
      exact Session.text_of_mem_touches ht hu htext
  | disk after => exact absurd ht List.not_mem_nil

/-- A document whose file is not touched has the text that it had. -/
theorem text?_of_untouched {w : World} {e : Event} {u : Url} {text : String}
    (htext : (w.step e).session.documents.text? u = some text)
    (huntouched : Touch.last? (w.touches e) ((w.step e).fileOf u) = none) :
    w.session.documents.text? u = some text := by
  rw [documents_step] at htext
  cases e with
  | request method params => exact htext
  | notification method params =>
    unfold touches at huntouched
    unfold documentsAfter at htext
    dsimp only at huntouched htext
    cases hheard : w.session.heard? method params with
    | none =>
      rw [hheard] at htext
      exact htext
    | some n =>
      rw [hheard] at huntouched htext
      exact Session.text?_of_untouched htext (Touch.last?_eq_none.1 huntouched)
  | disk after => exact htext

/-! ### The editor wins in undisturbed runs, and in no others -/

/-- Before the first message nothing is open. -/
theorem editorWins_start (echoesLog : Bool) (d : Disk) : (start echoesLog d).EditorWins := by
  intro u text h
  exact absurd h.text (by simp [start, Session.fresh, DocumentStore.empty, DocumentStore.text?,
    DocumentStore.get?])

/-- Where the editor wins, it goes on to win after an event that overrides nothing, and after no
other. -/
theorem editorWins_step_iff {w : World} (h : w.EditorWins) (e : Event) :
    (w.step e).EditorWins ↔ ¬ w.Overrides e := by
  constructor
  · rintro hwins (⟨u, text, t, holds, last, -, left⟩ | ⟨u, text, holds, -, untouched, left⟩)
    · -- the last touch has left something else
      have htext := hwins u text holds
      rw [textOf?_step, last] at htext
      exact left htext
    · -- nothing has been left in the place of what was there
      have htext := hwins u text holds
      rw [textOf?_step, untouched] at htext
      exact left htext
  · intro hover u text holds
    rw [textOf?_step]
    cases hlast : Touch.last? (w.touches e) ((w.step e).fileOf u) with
    | some t =>
      -- whatever is left, a touch under the URL of the document would have left its text
      refine Decidable.byContradiction fun hleft =>
        hover (.taken u text t holds hlast (fun hu => hleft ?_) hleft)
      exact text_of_touch (Touch.mem_of_last? hlast).1 hu holds.text
    | none =>
      refine Decidable.byContradiction fun hleft => hover (.revealed u text holds ?_ hlast hleft)
      -- had it been alone with the same file before, it would have won already
      refine Classical.byContradiction fun hbefore => hleft ?_
      obtain ⟨halone, hfile⟩ := not_or.1 hbefore
      have hsame : w.fileOf u = (w.step e).fileOf u := Decidable.of_not_not hfile
      rw [← hsame]
      refine h u text ⟨text?_of_untouched holds.text hlast, fun v hv hvu => ?_⟩
      exact Decidable.of_not_not fun hne => halone ⟨v, hv, hvu, hne⟩

/-- **The editor wins all along exactly in the runs in which no event overrides a document.** -/
theorem editorWins_iff_undisturbed (echoesLog : Bool) (d : Disk) (events : List Event) :
    (∀ w ∈ (start echoesLog d).states events, w.EditorWins) ↔
      (start echoesLog d).Undisturbed events := by
  have hrun : ∀ (events : List Event) {w : World}, w.EditorWins →
      ((∀ v ∈ w.states events, v.EditorWins) ↔ w.Undisturbed events) := by
    intro events
    induction events with
    | nil => exact fun h => ⟨fun _ => trivial, fun _ v hv => List.mem_singleton.1 hv ▸ h⟩
    | cons e rest ih =>
      intro w h
      rw [states, List.forall_mem_cons, Undisturbed]
      constructor
      · rintro ⟨-, hrest⟩
        have hstep : (w.step e).EditorWins := by
          cases rest with
          | nil => exact hrest _ (List.mem_singleton_self _)
          | cons e' rest => exact hrest _ (List.mem_cons_self ..)
        exact ⟨(editorWins_step_iff h e).1 hstep, (ih hstep).1 hrest⟩
      · rintro ⟨hover, hrest⟩
        exact ⟨h, (ih ((editorWins_step_iff h e).2 hover)).2 hrest⟩
  exact hrun events (editorWins_start echoesLog d)

/-- **An event that knows every open document by its URL overrides none**, as long as the documents
that are open are different files and stay the files that they are. -/
theorem not_overrides_of_recognised {w : World} {e : Event}
    (hurl : ∀ t ∈ w.touches e, ∀ u, (w.step e).session.documents.isOpen u = true →
      (w.step e).fileOf u = t.file → t.origin.url? = some u)
    (halone : ∀ u, w.session.documents.isOpen u = true → ¬ w.SharesFile u)
    (hfile : ∀ u, w.session.documents.isOpen u = true → w.fileOf u = (w.step e).fileOf u) :
    ¬ w.Overrides e := by
  rintro (⟨u, text, t, holds, last, other, -⟩ | ⟨u, text, holds, before, untouched, -⟩)
  · obtain ⟨ht, heq⟩ := Touch.mem_of_last? last
    exact other (hurl t ht u (DocumentStore.isOpen_of_text? holds.text) heq.symm)
  · have hopen := DocumentStore.isOpen_of_text? (text?_of_untouched holds.text untouched)
    rcases before with hshares | hrenamed
    · exact halone u hopen hshares
    · exact hrenamed (hfile u hopen)

/-! ### A run in which the editor loses -/

/-- The world at the end of a run. -/
def run (w : World) (events : List Event) : World := events.foldl step w

/-- A run ends in one of its worlds. -/
theorem run_mem_states (w : World) (events : List Event) : w.run events ∈ w.states events := by
  induction events generalizing w with
  | nil => exact List.mem_singleton_self w
  | cons e rest ih => exact List.mem_cons_of_mem w (ih (w.step e))

/-- A disk with a source file in a directory, and a link to the directory. -/
def linkedDisk : Disk where
  table := ⟨[(["real"], .directory), (["real", "a.sail"], .file "val disk\n".toUTF8),
    (["link"], .link (.ofString "/real"))]⟩

/-- The URL of the file by way of the directory or of the link. -/
def linkedUrl (directory : String) : Url where
  scheme := "file"
  authority := some ⟨"", none, .empty, none⟩
  route := .segments [directory, "a.sail"]
  query := none
  fragment := none

/-- Both ways lead to the file in the directory. -/
theorem resolve_linked :
    linkedDisk.resolve (.ofString "/link/a.sail") = .ok ["real", "a.sail"] ∧
      linkedDisk.resolve (.ofString "/real/a.sail") = .ok ["real", "a.sail"] := by
  have hlink : linkedDisk.entry? ["link"] = some (.link (.ofString "/real")) := rfl
  have hreal : linkedDisk.entry? ["real"] = some .directory := rfl
  have hfile : linkedDisk.entry? ["real", "a.sail"] = some (.file "val disk\n".toUTF8) := rfl
  have htarget : Disk.waysOf (.ofString "/real") = [.ok (.name "real")] := rfl
  have habsolute : (Path.ofString "/real").isAbsolute = true := rfl
  constructor
  · have harrive : linkedDisk.arrive (.ofString "/link/a.sail") true =
        linkedDisk.follow true 40 [] [.ok (.name "link"), .ok (.name "a.sail")] := rfl
    rw [Disk.resolve, harrive]
    simp [Disk.follow, hlink, hreal, hfile, htarget, habsolute]
  · have harrive : linkedDisk.arrive (.ofString "/real/a.sail") true =
        linkedDisk.follow true 40 [] [.ok (.name "real"), .ok (.name "a.sail")] := rfl
    rw [Disk.resolve, harrive]
    simp [Disk.follow, hreal, hfile]

/-- The file is opened by way of the link. -/
def linkedOpening : List Event :=
  [.request "initialize" (some (.obj [("capabilities", .obj []),
      ("workspaceFolders", .arr [.obj [("uri", .str "file:///link"), ("name", .str "link")]])])),
   .notification "textDocument/didOpen" (some (.obj [("textDocument",
      .obj [("uri", .str "file:///link/a.sail"), ("languageId", .str "sail"), ("version", .int 1),
        ("text", .str "val buffer\n")])]))]

/-- The editor tells that the file has changed on the disk, by way of the directory. -/
def linkedChange : Event :=
  .notification "workspace/didChangeWatchedFiles" (some (.obj [("changes",
    .arr [.obj [("uri", .str "file:///real/a.sail"), ("type", .int 2)]])]))

/-- What is touched is the file that is open, but under the URL of the directory. -/
theorem touches_linkedChange :
    ((start false linkedDisk).run linkedOpening).touches linkedChange =
      [⟨.path (.ofString "/real/a.sail"), ⟨"/real/a.sail"⟩, some "val disk\n"⟩] := by
  obtain ⟨s, hs⟩ : ∃ s, s = ((start false linkedDisk).run linkedOpening).session := ⟨_, rfl⟩
  have htouches : ((start false linkedDisk).run linkedOpening).touches linkedChange =
      s.changeTouches linkedDisk ⟨linkedUrl "real", false⟩ := by
    rw [hs]
    exact List.append_nil _
  have hpath : (linkedUrl "real").toPath? = some (.ofString "/real/a.sail") := rfl
  have hlimit : s.settings.indexing.maxFileSizeBytes = 1048576 := by rw [hs]; rfl
  have hfile : FileId.ofPath linkedDisk (.ofString "/real/a.sail") = ⟨"/real/a.sail"⟩ := by
    rw [FileId.ofPath, Disk.normalize, resolve_linked.2]
    rfl
  have htext : linkedDisk.load (.ofString "/real/a.sail") s.settings.indexing.maxFileSizeBytes =
      .ok "val disk\n" := by
    rw [hlimit, Disk.load, Disk.stat, resolve_linked.2]
    rfl
  rw [htouches, Session.changeTouches_of_load hpath rfl (by rw [hs]; rfl) (by rw [hs]; rfl) htext,
    hfile]

/-- **A file that is open by way of a link is taken from the disk when it changes there.** -/
theorem not_editorWins_linked :
    ¬ ∀ w ∈ (start false linkedDisk).states (linkedOpening ++ [linkedChange]), w.EditorWins := by
  intro hwins
  obtain ⟨w, hw⟩ : ∃ w, w = (start false linkedDisk).run linkedOpening := ⟨_, rfl⟩
  have hrun : (start false linkedDisk).run (linkedOpening ++ [linkedChange]) =
      w.step linkedChange := by
    rw [hw, run, List.foldl_append]
    rfl
  have hend := hwins _ (run_mem_states _ _)
  rw [hrun] at hend
  have hdocuments : (w.step linkedChange).session.documents =
      DocumentStore.empty.openDocument (linkedUrl "link") "val buffer\n" 1 := by
    rw [documents_step, hw]
    rfl
  have hfile : (w.step linkedChange).fileOf (linkedUrl "link") = ⟨"/real/a.sail"⟩ := by
    have hdisk : (w.step linkedChange).disk = linkedDisk := by rw [hw]; rfl
    have hpath : (linkedUrl "link").toPath? = some (.ofString "/link/a.sail") := rfl
    rw [fileOf, hdisk, FileId.ofUrl, hpath]
    dsimp only
    rw [FileId.ofPath, Disk.normalize, resolve_linked.1]
    rfl
  have hholds : (w.step linkedChange).Holds (linkedUrl "link") "val buffer\n" := by
    refine ⟨by rw [hdocuments]; rfl, fun v hv _ => ?_⟩
    rw [hdocuments] at hv
    have hmem : v ∈ [linkedUrl "link"] := Table.contains_iff.1 hv
    exact List.mem_singleton.1 hmem
  have htext := hend _ _ hholds
  rw [textOf?_step, hfile, hw, touches_linkedChange] at htext
  exact absurd htext (by simp [Touch.last?])

end World

end SailNav
