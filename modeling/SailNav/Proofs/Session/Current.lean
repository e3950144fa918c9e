import Mathlib.Data.List.Induction
import SailNav.Proofs.FileId
import SailNav.Proofs.Session.Report

/-!
# Whether what an editor shows is current

While a document is open and faults are shown, the editor should show the faults of its text, and
otherwise none (`SailNav.World.Current`). It knows of them by the last report, so this is about all
that happened in a session, in whatever order documents, settings, folders and the disk changed.

There is one way for it to go wrong. When faults come to be shown, every open document is reported
with the text that the analysis has of its file, and if that is not the text of the document, the
report may be on other faults, or there may be none (`SailNav.World.Misreports`). All else keeps what
is shown current: at no other event is a report made of anything but the text of the document, and
where no report is made, none is due. So what is shown is current all along a run exactly when no
event of it misreports a document (`SailNav.World.current_iff_reported`).

The text of the analysis is that of another document when two of them are one file, or are taken for
one, as files whose names are no text may be (`SailNav.World.not_current_unreadable`). That no event
misreports a document as long as names are texts is shown with the runs over plain paths.
-/

namespace SailNav

open Effect

namespace World

/-! ### What happens in a run -/

/-- What happens at an event. -/
def effects (w : World) : Event → List Effect
  | .request method params => (w.session.receiveRequest w.disk method params).2.1
  | .notification method params => (w.session.receiveNotification w.disk method params).2
  | .disk _ => []

/-- What happens in a run. -/
def history (w : World) : List Event → List Effect
  | [] => []
  | e :: rest => w.effects e ++ (w.step e).history rest

/-- A run may stop on the way. -/
theorem run_append (w : World) (front rest : List Event) :
    w.run (front ++ rest) = (w.run front).run rest :=
  List.foldl_append

/-- What happens in a run happens before some event of it or from then on. -/
theorem history_append (w : World) (front rest : List Event) :
    w.history (front ++ rest) = w.history front ++ (w.run front).history rest := by
  induction front generalizing w with
  | nil => rfl
  | cons e front ih =>
    rw [List.cons_append, history, ih, history, List.append_assoc]
    rfl

/-- A request reports nothing. -/
theorem quiet_receiveRequest (s : Session) (d : Disk) (method : String) (params : Option Json) :
    Quiet (s.receiveRequest d method params).2.1 := by
  unfold Session.receiveRequest
  dsimp only
  split
  · exact quiet_nil
  · split
    · exact quiet_nil
    · split
      · exact quiet_nil
      · next r _ =>
        cases r with
        | introduce editor => exact quiet_nil.log _
        | shutdown => exact quiet_nil.log _
        | definition u p =>
          simp only [Session.perform, Session.definitionAt]
          split
          · exact quiet_nil.log _
          · split
            · exact quiet_nil.log _
            · refine Quiet.append ?_ (quiet_nil.log _)
              unfold Session.candidateEffects
              split
              · exact quiet_nil
              · dsimp only
                split
                · exact quiet_nil.log _
                · exact quiet_nil
        | documentSymbols u => exact quiet_nil
        | workspaceSymbols query => exact quiet_nil.log _

/-- What happens when a notification is heard. -/
theorem effects_of_heard? {w : World} {e : Event} {n : Notification} (h : w.heard? e = some n) :
    w.effects e = (w.session.notice w.disk n).2 := by
  obtain ⟨method, params, rfl, hn, hexit, hphase, hshutdown⟩ := message_of_heard? h
  rw [effects, Session.receiveNotification, if_neg hexit, if_neg (not_not_intro hphase),
    if_neg hshutdown, hn]

/-- An event in which nothing is heard has no reports. -/
theorem quiet_of_unheard {w : World} {e : Event} (h : w.heard? e = none) : Quiet (w.effects e) := by
  cases e with
  | request method params => exact quiet_receiveRequest w.session w.disk method params
  | disk after => exact quiet_nil
  | notification method params =>
    have hn : w.session.heard? method params = none := h
    unfold effects Session.receiveNotification
    unfold Session.heard? at hn
    dsimp only
    split
    · exact quiet_nil
    · next hexit =>
      split
      · exact quiet_nil
      · next hphase =>
        split
        · exact quiet_nil
        · next hshutdown =>
          rw [if_neg (by simp [hexit, hphase, hshutdown])] at hn
          rw [hn]
          exact quiet_nil

/-! ### What is to be shown -/

/-- An event opens a document. -/
def Opens (w : World) (e : Event) (u : Url) : Prop := ∃ n, w.heard? e = some n ∧ n.Opens u

/-- **A report on a document is due at an event**: the document is opened, or faults come to be
shown. -/
def Dues (w : World) (e : Event) (u : Url) : Prop :=
  w.Opens e u ∨ w.session.settings.lexical = false ∧ (w.step e).session.settings.lexical = true

/-- Ever since a report on a document was due in a run, there was one. -/
def Answered (w : World) (events : List Event) (u : Url) : Prop :=
  ∀ front e rest, events = front ++ e :: rest → (w.run front).Dues e u →
    lastReport? u ((w.run front).history (e :: rest)) ≠ none

/-- **What the editor shows of a document is current** after a run. While the document is open and
faults are shown, the last report is on its text, and there was one ever since one was due; and else
the last report, if there was any, is of no faults. -/
def Current (w : World) (events : List Event) (u : Url) : Prop :=
  match (w.run events).session.shown? u with
  | some text => lastReport? u (w.history events) = some (faultsOf text) ∧ w.Answered events u
  | none => (lastReport? u (w.history events)).getD [] = []

/-- **An event misreports a document**: faults come to be shown, and what the analysis has of the
file of the document, which is open, has not the faults that the document has. -/
def Misreports (w : World) (e : Event) (u : Url) : Prop :=
  w.session.settings.lexical = false ∧ (w.step e).session.settings.lexical = true ∧
    ∃ text, (w.step e).session.documents.text? u = some text ∧
      (w.textOf? (w.fileOf u)).map faultsOf ≠ some (faultsOf text)

/-- **What an event reports on a document.** -/
theorem told_step {w : World} (hup : w.session.analysis.UpToDate) (hidle : w.Idle) (e : Event)
    (u : Url) :
    Session.Told w.session (w.step e).session w.disk u (w.Opens e u)
      (lastReport? u (w.effects e)) := by
  cases hheard : w.heard? e with
  | some n =>
    have hopens : w.Opens e u = n.Opens u := by
      simp [Opens, hheard]
    rw [effects_of_heard? hheard, step_of_heard? hheard, hopens]
    exact Session.told_notice hup w.disk n u
  | none =>
    have hdocuments := documents_of_unheard hheard
    have hopens : ¬ w.Opens e u := by
      rintro ⟨n, hn, -⟩
      rw [hheard] at hn
      cases hn
    rw [(quiet_of_unheard hheard).lastReport?]
    rcases standing_of_unheard hheard with ⟨phase, -, hstanding⟩ | ⟨hphase, -⟩
    · -- the settings stay as they are
      have hsettings : (w.step e).session.settings = w.session.settings :=
        congrArg Session.Standing.settings hstanding
      refine .nothing ?_ ?_
      · rw [Session.shown?, hsettings, hdocuments, Session.shown?]
      · rintro (hopened | ⟨hoff, hon⟩)
        · exact absurd hopened hopens
        · rw [hsettings, hoff] at hon
          cases hon
    · -- nothing is open while an editor introduces itself
      have hempty := (hidle hphase).1
      have hnone : ∀ documents : DocumentStore, documents = .empty → documents.text? u = none := by
        rintro documents rfl
        rfl
      have hbefore : w.session.shown? u = none := by
        rw [Session.shown?, hnone _ hempty, ite_self]
      refine .nothing ?_ fun _ => hbefore
      rw [Session.shown?, hnone _ (hdocuments.trans hempty), ite_self, hbefore]

/-! ### Runs -/

variable {w : World} {events : List Event} {e : Event} {u : Url}

/-- The last report in a run that goes on by an event. -/
theorem lastReport?_concat (w : World) (events : List Event) (e : Event) (u : Url) :
    lastReport? u (w.history (events ++ [e])) =
      (lastReport? u ((w.run events).effects e)).or (lastReport? u (w.history events)) := by
  rw [history_append, lastReport?_append]
  congr 1
  exact congrArg (lastReport? u) (List.append_nil _)

/-- A run that goes on by an event has its reports if the event has one, or if none is due at it and
there were all before. -/
theorem Answered.concat
    (hdue : lastReport? u ((w.run events).effects e) = none →
      ¬ (w.run events).Dues e u ∧ w.Answered events u) : w.Answered (events ++ [e]) u := by
  intro front e' rest heq hdues hnone
  rcases List.eq_nil_or_concat rest with rfl | ⟨rest, e'', rfl⟩
  · -- the report is due at the last event
    obtain ⟨rfl, he⟩ := List.append_inj' heq rfl
    obtain rfl := (List.cons.inj he).1
    have heffects : (w.run events).history [e] = (w.run events).effects e := List.append_nil _
    rw [heffects] at hnone
    exact (hdue hnone).1 hdues
  · -- it was due before
    rw [List.concat_eq_append] at heq hnone
    rw [← List.cons_append, ← List.append_assoc] at heq
    obtain ⟨rfl, he⟩ := List.append_inj' heq rfl
    obtain rfl := (List.cons.inj he).1
    rw [← List.cons_append, lastReport?_concat, ← run_append, Option.or_eq_none_iff] at hnone
    exact (hdue hnone.1).2 front e' rest rfl hdues hnone.2

/-- The last event of a run has a report if one is due at it and all are there. -/
theorem Answered.ne_none (h : w.Answered (events ++ [e]) u) (hdues : (w.run events).Dues e u) :
    lastReport? u ((w.run events).effects e) ≠ none := by
  have heffects : (w.run events).history [e] = (w.run events).effects e := List.append_nil _
  have hlast := h events e [] rfl hdues
  rwa [heffects] at hlast

/-- **What is shown stays current at an event** unless the event misreports the document. -/
theorem current_concat_iff (h : w.Current events u)
    (hup : (w.run events).session.analysis.UpToDate) (hidle : (w.run events).Idle) (e : Event) :
    w.Current (events ++ [e]) u ↔ ¬ (w.run events).Misreports e u := by
  obtain ⟨v, hv⟩ : ∃ v, v = w.run events := ⟨_, rfl⟩
  obtain ⟨r, hr⟩ : ∃ r, r = lastReport? u (v.effects e) := ⟨_, rfl⟩
  have htold := told_step hup hidle e u
  have hrun : w.run (events ++ [e]) = v.step e := hv ▸ run_append w events [e]
  have hlast := lastReport?_concat w events e u
  rw [← hv, ← hr] at htold hlast
  unfold Current at h ⊢
  rw [← hv] at h ⊢
  rw [hrun, hlast]
  cases htold with
  | nothing same due =>
    rw [same, Option.none_or]
    refine iff_of_true ?_ ?_
    · cases hs : v.session.shown? u with
      | none => rwa [hs] at h
      | some text =>
        rw [hs] at h
        refine ⟨h.1, Answered.concat fun _ => ⟨fun hdues => ?_, h.2⟩⟩
        rw [← hv] at hdues
        exact absurd (hs.symm.trans (due hdues)) (by simp)
    · rintro ⟨hoff, hon, text, htext, -⟩
      have hafter : (v.step e).session.shown? u = some text := by
        rw [Session.shown?, hon, if_pos rfl, htext]
      rw [same, Session.shown?, hoff] at hafter
      cases hafter
  | current kept =>
    refine iff_of_true ?_ fun hmis => ?_
    · cases hs : (v.step e).session.shown? u with
      | none => rfl
      | some text =>
        refine ⟨rfl, Answered.concat fun hnone => ?_⟩
        rw [← hv, ← hr] at hnone
        cases hnone
    · exact absurd (kept hmis.2.1) (by rw [hmis.1]; exact Bool.false_ne_true)
  | switched text off on before after =>
    have hafter : (v.step e).session.shown? u = some text := by
      rw [Session.shown?, on, if_pos rfl, after]
    rw [hafter]
    constructor
    · rintro ⟨hreport, hanswered⟩ ⟨-, -, text', htext', hne⟩
      obtain rfl : text = text' := Option.some.inj (after.symm.trans htext')
      have hsome := hanswered.ne_none (hv ▸ Or.inr ⟨off, on⟩)
      rw [← hv, ← hr] at hsome
      obtain ⟨faults, hfaults⟩ := Option.ne_none_iff_exists'.1 hsome
      exact hne (by rw [← hreport, fileOf, textOf?, hfaults, Option.some_or])
    · intro hnot
      have hfaults : (v.session.analysis.textOf? (.ofUrl v.disk u)).map faultsOf =
          some (faultsOf text) :=
        Decidable.of_not_not fun hne => hnot ⟨off, on, text, after, hne⟩
      rw [hfaults] at hr ⊢
      refine ⟨rfl, Answered.concat fun hnone => ?_⟩
      rw [← hv, ← hr] at hnone
      cases hnone

/-- **What holds at first holds all along a run exactly when every event keeps it.** -/
theorem forall_prefix_iff {P : List Event → Prop} {Q : List Event → Event → Prop}
    {events : List Event} (hnil : P [])
    (hstep : ∀ front e, front ++ [e] <+: events → P front → (P (front ++ [e]) ↔ Q front e)) :
    (∀ front, front <+: events → P front) ↔ ∀ front e, front ++ [e] <+: events → Q front e := by
  induction events using List.reverseRecOn with
  | nil =>
    refine iff_of_true ?_ ?_
    · intro front hfront
      rwa [List.prefix_nil.1 hfront]
    · intro front e hfront
      exact absurd (List.prefix_nil.1 hfront) (by simp)
  | append_singleton events e ih =>
    have hbefore : ∀ {front}, front <+: events → front <+: events ++ [e] :=
      fun hfront => hfront.trans (List.prefix_append ..)
    have hlast := hstep events e (List.prefix_refl _)
    have hrest := ih fun front e' hfront => hstep front e' (hbefore hfront)
    constructor
    · intro hall front e' hfront
      rcases List.prefix_concat_iff.1 hfront with heq | hfront
      · obtain ⟨rfl, he⟩ := List.append_inj' heq rfl
        obtain rfl := (List.cons.inj he).1
        exact (hlast (hall _ (hbefore (List.prefix_refl _)))).1 (hall _ (List.prefix_refl _))
      · exact hrest.1 (fun front hfront => hall front (hbefore hfront)) front e' hfront
    · intro hkept
      have hfront := hrest.2 fun front e' hfront => hkept front e' (hbefore hfront)
      intro front hprefix
      rcases List.prefix_concat_iff.1 hprefix with rfl | hprefix
      · exact (hlast (hfront _ (List.prefix_refl _))).2 (hkept events e (List.prefix_refl _))
      · exact hfront front hprefix

/-- **What the editor shows is current all along exactly in the runs in which no event misreports a
document.** -/
theorem current_iff_reported (echoesLog : Bool) (d : Disk) (events : List Event) :
    (∀ front, front <+: events → ∀ u, (start echoesLog d).Current front u) ↔
      ∀ front e, front ++ [e] <+: events → ∀ u, ¬ ((start echoesLog d).run front).Misreports e u :=
  forall_prefix_iff (fun _ => rfl) fun front e _ hcurrent =>
    forall_congr' fun u => current_concat_iff (hcurrent u) (upToDate_run echoesLog d front)
      (idle_run echoesLog d front) e

/-! ### Two names that cannot be read -/

/-- The URL of a file in the root, by a percent-encoded byte and the ending of a source file. -/
def byteUrl (code : String) : Url where
  scheme := "file"
  authority := some .noMachine
  route := .segments ["%" ++ code ++ ".sail"]
  query := none
  fragment := none

/-- Two files are opened whose names are not text, one with a fault and one without. Faults are
hidden, and then to be shown again. -/
def unreadableRun : List Event :=
  [.introduction, .opening "file:///%FF.sail" "(", .opening "file:///%FE.sail" "",
   .configuring (.obj [("diagnostics", .obj [("lexical", .bool false)])]),
   .configuring (.obj [("diagnostics", .obj [("lexical", .bool true)])])]

/-- Both names are shown alike, so the files have one identity. -/
theorem ofUrl_byteUrl :
    FileId.ofUrl .empty (byteUrl "FE") = FileId.ofUrl .empty (byteUrl "FF") := by
  -- a name that is no text is not on the disk
  have hunreadable : ∀ p : Path, Disk.empty.arrive p true =
      Disk.empty.follow true 40 [] [.error .notFound] →
      Disk.empty.resolve p = .error .notFound := by
    intro p harrive
    rw [Disk.resolve, harrive]
    simp [Disk.follow]
  have hidentity : ∀ (u : Url) (p : Path) (name : List UInt8), u.toPath? = some p →
      Disk.empty.resolve p = .error .notFound → p.parent? = some (.ofString "/") →
      p.fileName? = some name →
      FileId.ofUrl .empty u = ⟨((Location.path []).join ⟨name⟩).display⟩ := by
    intro u p name hpath hmissing hparent hname
    rw [FileId.ofUrl, hpath]
    dsimp only
    rw [FileId.ofPath, Disk.normalize_of_missing hmissing hparent hname]
  rw [hidentity (byteUrl "FE") ⟨Path.slash :: 0xFE :: Text.toBytes ".sail"⟩
      (0xFE :: Text.toBytes ".sail") rfl (hunreadable _ rfl) rfl rfl,
    hidentity (byteUrl "FF") ⟨Path.slash :: 0xFF :: Text.toBytes ".sail"⟩
      (0xFF :: Text.toBytes ".sail") rfl (hunreadable _ rfl) rfl rfl]
  decide +kernel

/-- **What is shown of a file may be of another one**, when their names cannot be told apart. -/
theorem not_current_unreadable :
    ¬ (start false .empty).Current unreadableRun (byteUrl "FF") := by
  -- while faults are shown from the beginning, everything is current
  have hstep : ∀ (events : List Event) (e : Event),
      (start false .empty).Current events (byteUrl "FF") →
      ((start false .empty).run events).session.settings.lexical = true →
      (start false .empty).Current (events ++ [e]) (byteUrl "FF") := by
    intro events e h hlexical
    refine (current_concat_iff h (upToDate_run false .empty events)
      (idle_run false .empty events) e).2 fun hmis => ?_
    rw [hmis.1] at hlexical
    cases hlexical
  have hbefore : (start false .empty).Current (unreadableRun.take 4) (byteUrl "FF") :=
    hstep (unreadableRun.take 3) _ (hstep (unreadableRun.take 2) _ (hstep (unreadableRun.take 1) _
      (hstep [] _ rfl rfl) rfl) rfl) rfl
  obtain ⟨w, hw⟩ : ∃ w, w = (start false .empty).run (unreadableRun.take 4) := ⟨_, rfl⟩
  obtain ⟨e, he⟩ : ∃ e, e =
    Event.configuring (.obj [("diagnostics", .obj [("lexical", .bool true)])]) := ⟨_, rfl⟩
  have hrun : unreadableRun = unreadableRun.take 4 ++ [e] := by rw [he]; rfl
  rw [hrun]
  refine fun hcurrent => (current_concat_iff hbefore (upToDate_run false .empty _)
    (idle_run false .empty _) e).1 hcurrent ?_
  rw [← hw]
  -- the text of the other file is what the analysis has
  have htext : w.textOf? (w.fileOf (byteUrl "FF")) = some "" := by
    obtain ⟨v, hv⟩ : ∃ v, v = (start false .empty).run (unreadableRun.take 3) := ⟨_, rfl⟩
    obtain ⟨x, hx⟩ : ∃ x, x = (start false .empty).run (unreadableRun.take 2) := ⟨_, rfl⟩
    obtain ⟨hide, hhide⟩ : ∃ hide, hide =
      Event.configuring (.obj [("diagnostics", .obj [("lexical", .bool false)])]) := ⟨_, rfl⟩
    have hwv : w = v.step hide := by rw [hw, hv, hhide]; rfl
    have hvx : v = x.step (.opening "file:///%FE.sail" "") := by rw [hv, hx]; rfl
    have hdisk : w.disk = .empty := by rw [hw]; rfl
    have hhidden : v.touches hide = [] := by rw [hv, hhide]; rfl
    have hopened : x.touches (.opening "file:///%FE.sail" "") =
        [⟨.document (byteUrl "FE"), .ofUrl .empty (byteUrl "FE"), some ""⟩] := by rw [hx]; rfl
    rw [fileOf, hdisk, ← ofUrl_byteUrl, hwv, textOf?_step, hhidden]
    change v.textOf? _ = some ""
    rw [hvx, textOf?_step, hopened, Touch.last?_cons, if_pos rfl]
    rfl
  refine ⟨by rw [hw]; rfl, by rw [hw, he]; rfl, "(", by rw [hw, he]; rfl, ?_⟩
  rw [htext]
  decide +kernel

end World

end SailNav
