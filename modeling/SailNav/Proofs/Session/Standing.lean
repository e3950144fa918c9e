import SailNav.Proofs.Session.Ownership

/-!
# How a session stands

Besides the documents and what is known of them, a session has a phase, settings and folders: how it
*stands*. Few messages change that (`SailNav.Session.standing_notice`), and the work that a message
makes, such as a scan, never does.

A session hears notifications only after the editor has introduced itself, so until then nothing is
open and nothing is tracked (`SailNav.World.idle_run`).
-/

namespace SailNav

namespace Session

/-- How a session stands. -/
structure Standing where
  phase : Phase
  settings : Settings
  folders : List WorkspaceFolder

def standing (s : Session) : Standing := ⟨s.phase, s.settings, s.folders⟩

/-- How a session stands after a notification. -/
def standingAfter (s : Session) : Notification → Standing
  | .configured payload => { s.standing with settings := s.settings.merge payload }
  | .foldersChanged added removed =>
    { s.standing with folders := mergeFolders s.folders added removed }
  | _ => s.standing

/-! ### Work that leaves it as it is -/

/-- A scan changes nothing of how a session stands. -/
theorem standing_scan (s : Session) (d : Disk) (roots : List Path) :
    (s.scan d roots).1.standing = s.standing := by
  unfold scan
  split
  · dsimp only
    split <;> rfl
  · rfl

/-- Neither does a file that is taken from the disk. -/
theorem standing_reload (s : Session) (d : Disk) (p : Path) :
    (s.reload d p).1.standing = s.standing := by
  unfold reload
  split
  · rfl
  · dsimp only
    cases d.load p s.settings.indexing.maxFileSizeBytes <;> rfl

/-- Neither does a change on the disk. -/
theorem standing_fileChanged (s : Session) (d : Disk) (c : FileChange) :
    (s.fileChanged d c).1.standing = s.standing := by
  unfold fileChanged
  split
  · rfl
  · split
    · rfl
    · split
      · rfl
      · split
        · exact standing_reload s d _
        · rfl

/-- Neither do several changes. -/
theorem standing_filesChanged (s : Session) (d : Disk) (changes : List FileChange) :
    (s.filesChanged d changes).1.standing = s.standing := by
  induction changes generalizing s with
  | nil => rfl
  | cons c rest ih => exact (ih (s.fileChanged d c).1).trans (standing_fileChanged s d c)

/-- Neither do files that are given up with their folder. -/
theorem standing_dropUnder (s : Session) (d : Disk) (roots : List Path) :
    (s.dropUnder d roots).1.standing = s.standing := by
  unfold dropUnder
  split <;> rfl

/-- **A notification changes how a session stands by what it says**, and in no other way. -/
theorem standing_notice (s : Session) (d : Disk) (n : Notification) :
    (s.notice d n).1.standing = s.standingAfter n := by
  cases n with
  | initialized => exact standing_scan s d s.roots
  | configured payload =>
    unfold notice configured
    dsimp only
    split
    · next heq =>
      -- settings that are given as they are
      rw [standingAfter, heq]
      rfl
    · split
      · exact standing_scan { s with settings := s.settings.merge payload } d s.roots
      · rfl
  | foldersChanged added removed =>
    have hdrop := standing_dropUnder { s with folders := mergeFolders s.folders added removed } d
      (removed.filterMap fun f => f.url.toPath?)
    unfold notice foldersChanged
    dsimp only
    split
    · exact hdrop
    · exact (standing_scan _ d _).trans hdrop
  | filesChanged changes => exact standing_filesChanged s d changes
  | opened u text version => rfl
  | changed u edits version =>
    unfold notice changed
    dsimp only
    split <;> rfl
  | saved u => rfl
  | closed u =>
    unfold notice closed
    dsimp only
    split
    · exact standing_reload { s with documents := s.documents.close u } d _
    · rfl

/-! ### Requests -/

/-- Only the request that introduces an editor is read as an introduction. -/
theorem eq_introduce_of_request {m : Method} {params : Option Json} {editor : Introduction}
    (h : m.request params = .ok (.introduce editor)) : m = .introduce := by
  unfold Method.request at h
  cases m with
  | introduce => rfl
  | shutdown =>
    dsimp only at h
    split at h <;> cases h
  | definition =>
    dsimp only at h
    split at h
    · next hread =>
      obtain rfl := Except.ok.inj h
      obtain ⟨json, -, hjson⟩ := Option.bind_eq_some_iff.1 hread
      simp only [Request.definition?, Option.bind_eq_bind, Option.bind_eq_some_iff,
        Option.pure_def, Option.some.injEq] at hjson
      obtain ⟨work, -, url, -, position, -, hrequest⟩ := hjson
      cases hrequest
    · cases h
  | documentSymbols =>
    dsimp only at h
    split at h
    · next hread =>
      obtain rfl := Except.ok.inj h
      obtain ⟨json, -, hjson⟩ := Option.bind_eq_some_iff.1 hread
      simp only [Request.documentSymbols?, Option.bind_eq_bind, Option.bind_eq_some_iff,
        Option.pure_def, Option.some.injEq] at hjson
      obtain ⟨work, -, url, -, hrequest⟩ := hjson
      cases hrequest
    · cases h
  | workspaceSymbols =>
    dsimp only at h
    split at h
    · next hread =>
      obtain rfl := Except.ok.inj h
      obtain ⟨json, -, hjson⟩ := Option.bind_eq_some_iff.1 hread
      simp only [Request.workspaceSymbols?, Option.bind_eq_bind, Option.bind_eq_some_iff,
        Option.pure_def, Option.some.injEq] at hjson
      obtain ⟨work, -, query, -, hrequest⟩ := hjson
      cases hrequest
    · cases h
  | unanswered name => cases h
  | notification => cases h
  | cancel => cases h
  | exit => cases h
  | remark => cases h
  | unknown => cases h

/-- **What a request makes of how a session stands**: nothing, but that it may end the session or
begin it. -/
theorem standing_receiveRequest (s : Session) (d : Disk) (method : String) (params : Option Json) :
    (∃ phase, (phase = s.phase ∨ phase = .shutDown ∨ phase = .exited) ∧
        (s.receiveRequest d method params).1.standing = { s.standing with phase := phase }) ∨
      s.phase = .uninitialized ∧
        ∃ editor, (s.receiveRequest d method params).1.standing = (s.introduced editor).standing := by
  have hstay : (∃ phase, (phase = s.phase ∨ phase = .shutDown ∨ phase = .exited) ∧
      s.standing = { s.standing with phase := phase }) := ⟨s.phase, Or.inl rfl, rfl⟩
  unfold receiveRequest
  dsimp only
  split
  · split
    · exact Or.inl ⟨.exited, Or.inr (Or.inr rfl), rfl⟩
    · exact Or.inl hstay
  · split
    · exact Or.inl hstay
    · next haccepted =>
      split
      · unfold afterUnread
        split
        · exact Or.inl ⟨.shutDown, Or.inr (Or.inl rfl), rfl⟩
        · exact Or.inl hstay
      · next r hr =>
        cases r with
        | introduce editor =>
          -- only a session that has not begun takes an introduction
          refine Or.inr ⟨?_, editor, rfl⟩
          rw [eq_introduce_of_request hr] at haccepted
          cases hphase : s.phase with
          | uninitialized => rfl
          | initialized | shutDown | exited =>
            rw [hphase] at haccepted
            cases haccepted
        | shutdown => exact Or.inl ⟨.shutDown, Or.inr (Or.inl rfl), rfl⟩
        | definition u p => exact Or.inl hstay
        | documentSymbols u => exact Or.inl hstay
        | workspaceSymbols query => exact Or.inl hstay

end Session

/-! ### Messages of an editor -/

namespace Event

/-- An editor introduces itself, without a folder. -/
def introduction : Event := .request "initialize" (some (.obj [("capabilities", .obj [])]))

/-- An editor introduces itself, with a folder. -/
def introductionTo (uri : String) : Event :=
  .request "initialize" (some (.obj [("capabilities", .obj []),
    ("workspaceFolders", .arr [.obj [("uri", .str uri), ("name", .str "root")]])]))

/-- The editor tells that a file is made, changed or removed, by the number of what happened. -/
def fileChanging (uri : String) (what : Int) : Event :=
  .notification "workspace/didChangeWatchedFiles" (some (.obj [("changes",
    .arr [.obj [("uri", .str uri), ("type", .int what)]])]))

/-- A document is opened. -/
def opening (uri text : String) : Event :=
  .notification "textDocument/didOpen" (some (.obj [("textDocument",
    .obj [("uri", .str uri), ("languageId", .str "sail"), ("version", .int 1),
      ("text", .str text)])]))

/-- A document is closed. -/
def closing (uri : String) : Event :=
  .notification "textDocument/didClose" (some (.obj [("textDocument", .obj [("uri", .str uri)])]))

/-- Settings are changed. -/
def configuring (settings : Json) : Event :=
  .notification "workspace/didChangeConfiguration" (some (.obj [("settings", settings)]))

/-- **A message tells a session something**: it is the notification, and can be read as such. -/
def Tells (e : Event) (n : Notification) : Prop :=
  ∃ method params, e = .notification method params ∧
    params.bind (Notification.ofJson? method) = some n

end Event

namespace World

/-- The notification that is heard in an event, if one is. -/
def heard? (w : World) : Event → Option Notification
  | .notification method params => w.session.heard? method params
  | _ => none

variable {w : World} {e : Event}

/-- **The message in which a notification is heard**: it is neither the exit nor shutting down, and it
comes to a session that has begun. -/
theorem message_of_heard? {n : Notification} (h : w.heard? e = some n) :
    ∃ method params, e = .notification method params ∧
      params.bind (Notification.ofJson? method) = some n ∧
      method ≠ "exit" ∧ w.session.phase = .initialized ∧ method ≠ "shutdown" := by
  cases e with
  | notification method params =>
    unfold heard? Session.heard? at h
    dsimp only at h
    split at h
    · cases h
    · next hnot =>
      rw [not_or, not_or, Decidable.not_not] at hnot
      exact ⟨method, params, rfl, h, hnot⟩
  | request method params => cases h
  | disk after => cases h

/-- A notification is heard in a session that has begun. -/
theorem phase_of_heard? {n : Notification} (h : w.heard? e = some n) :
    w.session.phase = .initialized := by
  obtain ⟨-, -, -, -, -, hphase, -⟩ := message_of_heard? h
  exact hphase

/-- An event in which a notification is heard is the notification. -/
theorem step_of_heard? {n : Notification} (h : w.heard? e = some n) :
    w.step e = ⟨(w.session.notice w.disk n).1, w.disk⟩ := by
  obtain ⟨method, params, rfl, hn, hexit, hphase, hshutdown⟩ := message_of_heard? h
  rw [step, Session.receiveNotification, if_neg hexit, if_neg (not_not_intro hphase),
    if_neg hshutdown, hn]

/-- What a heard notification touches. -/
theorem touches_of_heard? {n : Notification} (h : w.heard? e = some n) :
    w.touches e = w.session.touches w.disk n := by
  cases e with
  | notification method params =>
    have hn : w.session.heard? method params = some n := h
    rw [touches, hn]
  | request method params => cases h
  | disk after => cases h

/-- An event in which nothing is heard touches nothing. -/
theorem touches_of_unheard (h : w.heard? e = none) : w.touches e = [] := by
  cases e with
  | notification method params =>
    have hn : w.session.heard? method params = none := h
    rw [touches, hn]
  | request method params => rfl
  | disk after => rfl

/-- An event in which nothing is heard leaves the documents alone. -/
theorem documents_of_unheard (h : w.heard? e = none) :
    (w.step e).session.documents = w.session.documents := by
  rw [documents_step]
  cases e with
  | notification method params =>
    have hn : w.session.heard? method params = none := h
    rw [documentsAfter, hn]
  | request method params => rfl
  | disk after => rfl

/-- **What an event in which nothing is heard makes of how a session stands.** -/
theorem standing_of_unheard (h : w.heard? e = none) :
    (∃ phase, (phase = w.session.phase ∨ phase = .shutDown ∨ phase = .exited) ∧
        (w.step e).session.standing = { w.session.standing with phase := phase }) ∨
      w.session.phase = .uninitialized ∧
        ∃ editor, (w.step e).session.standing = (w.session.introduced editor).standing := by
  cases e with
  | request method params => exact w.session.standing_receiveRequest w.disk method params
  | disk after => exact Or.inl ⟨w.session.phase, Or.inl rfl, rfl⟩
  | notification method params =>
    have hn : w.session.heard? method params = none := h
    unfold step Session.receiveNotification
    unfold Session.heard? at hn
    dsimp only
    by_cases hexit : method = "exit"
    · rw [if_pos hexit]
      exact Or.inl ⟨.exited, Or.inr (Or.inr rfl), rfl⟩
    by_cases hphase : w.session.phase ≠ .initialized
    · rw [if_neg hexit, if_pos hphase]
      exact Or.inl ⟨w.session.phase, Or.inl rfl, rfl⟩
    by_cases hshutdown : method = "shutdown"
    · rw [if_neg hexit, if_neg hphase, if_pos hshutdown]
      exact Or.inl ⟨.shutDown, Or.inr (Or.inl rfl), rfl⟩
    rw [if_neg (by simp [hexit, hphase, hshutdown])] at hn
    rw [if_neg hexit, if_neg hphase, if_neg hshutdown, hn]
    exact Or.inl ⟨w.session.phase, Or.inl rfl, rfl⟩

/-- A session that has begun hears what it is told. -/
theorem heard?_of_tells {n : Notification} (h : e.Tells n)
    (hphase : w.session.phase = .initialized) :
    w.heard? e = some n := by
  obtain ⟨method, params, rfl, hn⟩ := h
  have hnone : ∀ name, (∀ json, Notification.ofJson? name json = none) → method ≠ name := by
    rintro name hname rfl
    obtain ⟨json, -, hjson⟩ := Option.bind_eq_some_iff.1 hn
    cases (hname json).symm.trans hjson
  have hexit := hnone "exit" fun _ => rfl
  have hshutdown := hnone "shutdown" fun _ => rfl
  rw [heard?, Session.heard?, if_neg (by simp [hexit, hshutdown, hphase]), hn]

/-- A session that has not begun, or has ended, is told nothing. -/
theorem step_of_tells_of_phase {n : Notification} (h : e.Tells n)
    (hphase : w.session.phase ≠ .initialized) :
    w.step e = w := by
  obtain ⟨method, params, rfl, hn⟩ := h
  have hexit : method ≠ "exit" := by
    rintro rfl
    obtain ⟨json, -, hjson⟩ := Option.bind_eq_some_iff.1 hn
    cases hjson
  rw [step, Session.receiveNotification, if_neg hexit, if_pos hphase]

/-! ### Before the introduction -/

/-- **Nothing is open and nothing is tracked before the introduction.** -/
def Idle (w : World) : Prop :=
  w.session.phase = .uninitialized →
    w.session.documents = .empty ∧ w.session.analysis = .empty

/-- An event leaves nothing open and nothing tracked before the introduction. -/
theorem Idle.step (hw : w.Idle) (e : Event) : (w.step e).Idle := by
  intro hphase
  cases hheard : w.heard? e with
  | some n =>
    -- a session that hears something has begun, and has begun afterwards
    have hstanding := congrArg Session.Standing.phase (w.session.standing_notice w.disk n)
    rw [step_of_heard? hheard] at hphase
    have hsame : (w.session.standingAfter n).phase = w.session.phase := by cases n <;> rfl
    rw [hsame, phase_of_heard? hheard] at hstanding
    exact absurd (hphase.symm.trans hstanding) (by decide)
  | none =>
    rw [documents_of_unheard hheard, analysis_step, touches_of_unheard hheard]
    refine hw ?_
    rcases standing_of_unheard hheard with ⟨phase, hcases, hstanding⟩ | ⟨hbefore, -⟩
    · have heq : phase = .uninitialized :=
        (congrArg Session.Standing.phase hstanding).symm.trans hphase
      rcases hcases with rfl | rfl | rfl
      · exact heq
      · cases heq
      · cases heq
    · exact hbefore

/-- **All along a run nothing is open and nothing is tracked before the introduction.** -/
theorem idle_run (echoesLog : Bool) (d : Disk) (events : List Event) :
    ((start echoesLog d).run events).Idle := by
  have hrun : ∀ (events : List Event) {w : World}, w.Idle → (w.run events).Idle := by
    intro events
    induction events with
    | nil => exact fun h => h
    | cons e rest ih => exact fun h => ih (h.step e)
  exact hrun events fun _ => ⟨rfl, rfl⟩

end World

end SailNav
