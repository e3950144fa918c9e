import SailNav.Proofs.Session.Frame
import SailNav.Proofs.Session.Standing

/-!
# Reports of faults

A report on a document tells all its faults, in place of what was told before, so what counts of some
effects is the last report in them (`SailNav.Effect.lastReport?`). There are reports when a document
is opened, changed or closed, and when the settings come to show faults or to hide them. None of the
other work that a session does has any.

What one notification reports on one document is `SailNav.Session.told_notice`: nothing, and then
nothing has changed that a report would be about; or the faults of the text that the document has
afterwards. For a document that is opened or changed this is because its text is tracked first, and
the report is read off the analysis behind that. When faults come to be shown, nothing is tracked,
and the report is on the text that the analysis happens to have of the file.
-/

namespace SailNav

/-- **The faults of a text**, in the order of the text, each at its place. -/
def faultsOf (text : String) : List Diagnostic :=
  (tokenize text).anomalies.map fun a =>
    ⟨(LineIndex.ofText text).rangeOf a.span.start a.span.stop, a.kind.message⟩

namespace Effect

/-- What an effect reports on a document. -/
def report? (u : Url) : Effect → Option (List Diagnostic)
  | .send (.diagnostics v faults _) => if v = u then some faults else none
  | _ => none

/-- **The last report on a document** among some effects. -/
def lastReport? (u : Url) (effects : List Effect) : Option (List Diagnostic) :=
  effects.reverse.findSome? (report? u)

/-- Effects without a report. -/
def Quiet (effects : List Effect) : Prop := ∀ u, ∀ e ∈ effects, e.report? u = none

variable {u : Url} {a b effects : List Effect}

/-- Of effects one after another, the later ones report last. -/
theorem lastReport?_append :
    lastReport? u (a ++ b) = (lastReport? u b).or (lastReport? u a) := by
  rw [lastReport?, List.reverse_append, List.findSome?_append]
  rfl

/-- A report is the last if nothing is reported behind it. -/
theorem lastReport?_cons (e : Effect) :
    lastReport? u (e :: effects) = (lastReport? u effects).or (e.report? u) := by
  rw [← List.singleton_append, lastReport?_append]
  congr 1
  cases h : e.report? u <;> simp [lastReport?, h]

theorem Quiet.lastReport? (h : Quiet effects) (u : Url) : lastReport? u effects = none :=
  List.findSome?_eq_none_iff.2 fun e he => h u e (List.mem_reverse.1 he)

theorem quiet_nil : Quiet [] := fun _ _ he => absurd he List.not_mem_nil

theorem Quiet.append (ha : Quiet a) (hb : Quiet b) : Quiet (a ++ b) := fun u e he =>
  (List.mem_append.1 he).elim (ha u e) (hb u e)

/-- A line in the log is no report. -/
theorem Quiet.log (h : Quiet effects) (event : LogEvent) : Quiet (.log event :: effects) := by
  intro u e he
  rcases List.mem_cons.1 he with rfl | he
  · rfl
  · exact h u e he

/-- Reports that are made document by document. -/
theorem lastReport?_flatMap {urls : List Url} {f : Url → List Effect}
    (hf : ∀ v, v ≠ u → lastReport? u (f v) = none) :
    lastReport? u (urls.flatMap f) = if u ∈ urls then lastReport? u (f u) else none := by
  induction urls with
  | nil => rfl
  | cons v rest ih =>
    rw [List.flatMap_cons, lastReport?_append, ih]
    by_cases hv : v = u
    · rw [hv, if_pos (List.mem_cons_self ..)]
      split
      · exact Option.or_self
      · exact Option.none_or
    · rw [hf v hv, Option.or_none]
      simp [Ne.symm hv]

end Effect

open Effect

namespace Session

/-! ### Work without reports -/

/-- A scan tells how far it has come, and reports nothing. -/
theorem quiet_scanEffects (token : ProgressToken) (found : List (Location × Workspace.Finding))
    (after : Analysis) : Quiet (Workspace.scanEffects token found after) := by
  have hfound : ∀ whole found number, Quiet (Workspace.foundEffects token whole found number) := by
    intro whole found number u e he
    unfold Workspace.foundEffects at he
    dsimp only at he
    rcases List.mem_append.1 he with he | he
    · split at he
      · rw [List.mem_singleton.1 he]
        rfl
      · exact absurd he List.not_mem_nil
    · split at he
      · rw [List.mem_singleton.1 he]
        rfl
      · exact absurd he List.not_mem_nil
  intro u e he
  simp only [Workspace.scanEffects, ProgressToken.start, ProgressToken.finish, List.mem_append,
    List.mem_cons, List.not_mem_nil, or_false, List.mem_flatMap] at he
  rcases he with (((rfl | rfl | rfl | rfl) | ⟨_, -, he⟩) | rfl) | rfl | rfl
  · rfl
  · rfl
  · rfl
  · rfl
  · exact hfound _ _ _ u e he
  · rfl
  · rfl
  · rfl

variable (s : Session) (d : Disk)

/-- A scan reports nothing. -/
theorem quiet_scan (roots : List Path) : Quiet (s.scan d roots).2 := by
  have hlarge : ∀ large : List (Path × Nat), Quiet (large.map fun e =>
      Effect.log (.fileTooLarge e.2 e.1)) := by
    intro large u e he
    obtain ⟨l, -, rfl⟩ := List.mem_map.1 he
    rfl
  unfold scan
  split
  · dsimp only
    split
    · exact (hlarge _).append (quiet_nil.log _)
    · exact (hlarge _).append (quiet_scanEffects _ _ _)
  · exact quiet_nil.log _

/-- Taking a file from the disk reports nothing. -/
theorem quiet_reload (p : Path) : Quiet (s.reload d p).2 := by
  unfold reload
  split
  · exact quiet_nil
  · dsimp only
    cases d.load p s.settings.indexing.maxFileSizeBytes <;> exact quiet_nil.log _

/-- A change on the disk reports nothing. -/
theorem quiet_fileChanged (c : FileChange) : Quiet (s.fileChanged d c).2 := by
  unfold fileChanged
  split
  · exact quiet_nil
  · split
    · exact quiet_nil
    · split
      · unfold forget
        dsimp only
        split
        · exact quiet_nil.log _
        · exact quiet_nil
      · split
        · exact quiet_reload s d _
        · exact quiet_nil

/-- Changes on the disk report nothing. -/
theorem quiet_filesChanged (changes : List FileChange) : Quiet (s.filesChanged d changes).2 := by
  induction changes generalizing s with
  | nil => exact quiet_nil
  | cons c rest ih => exact (quiet_fileChanged s d c).append (ih (s.fileChanged d c).1)

/-- A change of the folders reports nothing. -/
theorem quiet_foldersChanged (added removed : List WorkspaceFolder) :
    Quiet (s.foldersChanged d added removed).2 := by
  have hdrop : ∀ (s : Session) (roots : List Path), Quiet (s.dropUnder d roots).2 := by
    intro s roots
    unfold dropUnder
    split
    · exact quiet_nil
    · exact quiet_nil.log _
  unfold foldersChanged
  dsimp only
  split
  · exact hdrop _ _
  · exact (hdrop _ _).append (quiet_scan _ d _)

/-- The beginning of the work reports nothing. -/
theorem quiet_begun : Quiet (s.begun d).2 := by
  unfold begun
  refine Quiet.log (Quiet.append ?_ (quiet_scan s d s.roots)) _
  split
  · intro u e he
    rw [List.mem_singleton.1 he]
    rfl
  · exact quiet_nil

/-- A line for the log that the editor shows is no report. -/
theorem quiet_echo (message : String) : Quiet (s.echo message) := by
  unfold echo
  split
  · intro u e he
    rw [List.mem_singleton.1 he]
    rfl
  · exact quiet_nil

end Session

/-! ### Reports on one document -/

/-- A notification opens a document. -/
def Notification.Opens (n : Notification) (u : Url) : Prop :=
  ∃ text version, n = .opened u text version

/-- The faults of a version are those of its text. -/
theorem Analysis.UpToDate.diagnostics_of_snapshot? {a : Analysis} (h : a.UpToDate) {file : FileId}
    {s : Snapshot} (hs : a.snapshot? file = some s) : s.diagnostics = faultsOf s.text :=
  congrArg Snapshot.diagnostics (h.snapshots _ (Table.mem_entries_of_get? hs))

namespace Session

variable {s : Session} {d : Disk} {u v : Url}

/-- **What is published of a document** are the faults of the text that its file has. -/
theorem lastReport?_publish (h : s.analysis.UpToDate) (d : Disk) (u v : Url)
    (version : Option Int) :
    lastReport? v (s.publish d u version) =
      if s.settings.lexical = true ∧ u = v then (s.analysis.textOf? (.ofUrl d u)).map faultsOf
      else none := by
  unfold publish Analysis.textOf?
  by_cases hlexical : s.settings.lexical = true
  · rw [if_pos hlexical]
    cases hs : s.analysis.snapshot? (.ofUrl d u) with
    | none => simp [lastReport?, report?]
    | some snapshot =>
      by_cases huv : u = v
      · simp [lastReport?, report?, hlexical, huv, h.diagnostics_of_snapshot? hs]
      · simp [lastReport?, report?, huv]
  · rw [if_neg hlexical, if_neg fun hboth => hlexical hboth.1]
    rfl

/-- A document that is withdrawn has no faults. -/
theorem lastReport?_withdraw (u v : Url) :
    lastReport? v (withdraw u) = if u = v then some [] else none := by
  by_cases huv : u = v <;> simp [withdraw, lastReport?, report?, huv]

/-- The open documents are those that have a text. -/
theorem mem_openUrls {documents : DocumentStore} :
    u ∈ documents.openUrls ↔ (documents.text? u).isSome = true := by
  rw [DocumentStore.openUrls, List.mem_mergeSort, ← Table.contains_iff, DocumentStore.text?,
    Option.isSome_map]
  rfl

/-- **What is reported when faults come to be shown, or no longer are.** -/
theorem lastReport?_lexicalEffects (h : s.analysis.UpToDate) (d : Disk) (u : Url) :
    lastReport? u (s.lexicalEffects d) =
      if (s.documents.text? u).isSome = true then
        if s.settings.lexical = true then (s.analysis.textOf? (.ofUrl d u)).map faultsOf else some []
      else none := by
  unfold lexicalEffects
  have hother : ∀ v, v ≠ u →
      lastReport? u (if s.settings.lexical then s.publish d v none else withdraw v) = none := by
    intro v hv
    split
    · rw [lastReport?_publish h, if_neg fun hboth => hv hboth.2]
    · rw [lastReport?_withdraw, if_neg hv]
  rw [lastReport?_flatMap hother]
  by_cases hopen : (s.documents.text? u).isSome = true
  · rw [if_pos (mem_openUrls.2 hopen), if_pos hopen]
    by_cases hlexical : s.settings.lexical = true
    · rw [if_pos hlexical, if_pos hlexical, lastReport?_publish h, if_pos ⟨hlexical, rfl⟩]
    · rw [if_neg hlexical, if_neg hlexical, lastReport?_withdraw, if_pos rfl]
  · rw [if_neg fun hmem => hopen (mem_openUrls.1 hmem), if_neg hopen]

/-! ### What a notification reports -/

/-- The text of a document whose faults are shown: it is open, and faults are shown at all. -/
def shown? (s : Session) (u : Url) : Option String :=
  if s.settings.lexical then s.documents.text? u else none

/-- **What is reported on a document while one session becomes another**, when the document may have
been opened. -/
inductive Told (s s' : Session) (d : Disk) (u : Url) (opened : Prop) :
    Option (List Diagnostic) → Prop
  /-- Nothing, and then nothing has changed. Of a document that is opened, or when faults come to be
  shown, nothing is reported only if nothing is to be shown. -/
  | nothing (same : s'.shown? u = s.shown? u)
      (due : opened ∨ s.settings.lexical = false ∧ s'.settings.lexical = true → s.shown? u = none) :
      Told s s' d u opened none
  /-- The faults of the text that is shown, or none. -/
  | current (kept : s'.settings.lexical = true → s.settings.lexical = true) :
      Told s s' d u opened (some (((s'.shown? u).map faultsOf).getD []))
  /-- When faults come to be shown, those of the text that the analysis has of the file. -/
  | switched (text : String) (off : s.settings.lexical = false) (on : s'.settings.lexical = true)
      (before : s.documents.text? u = some text) (after : s'.documents.text? u = some text) :
      Told s s' d u opened ((s.analysis.textOf? (.ofUrl d u)).map faultsOf)

/-- The settings after a notification. -/
theorem settings_notice (s : Session) (d : Disk) (n : Notification) :
    (s.notice d n).1.settings = (s.standingAfter n).settings :=
  congrArg Standing.settings (s.standing_notice d n)

/-- What is shown after a notification. -/
theorem shown?_notice (s : Session) (d : Disk) (n : Notification) (u : Url) :
    (s.notice d n).1.shown? u =
      if (s.standingAfter n).settings.lexical then (s.documentsAfter n).text? u else none := by
  rw [shown?, settings_notice, (s.notice_eq d n).2]

/-- A notification that concerns neither the settings nor the documents reports nothing. -/
theorem told_of_quiet {n : Notification} (hquiet : Quiet (s.notice d n).2)
    (hopened : ¬ n.Opens u) (hsettings : (s.standingAfter n).settings = s.settings)
    (hdocuments : s.documentsAfter n = s.documents) :
    Told s (s.notice d n).1 d u (n.Opens u) (lastReport? u (s.notice d n).2) := by
  rw [hquiet.lastReport?]
  refine .nothing ?_ ?_
  · rw [shown?_notice, hsettings, hdocuments, shown?]
  · rintro (hn | ⟨hoff, -⟩)
    · exact absurd hn hopened
    · rw [shown?, hoff]
      rfl

/-- A document that comes to have a text is reported with the faults of the text, if faults are
shown. No other document is. -/
theorem told_of_tracked {n : Notification} {v : Url} {text : String} {version : Option Int}
    (after : Session) (before behind : List Effect) (hafter : after.analysis.UpToDate)
    (htext : after.analysis.textOf? (.ofUrl d v) = some text)
    (hlexical : after.settings.lexical = s.settings.lexical)
    (heffects : (s.notice d n).2 = before ++ after.publish d v version ++ behind)
    (hbefore : Quiet before) (hbehind : Quiet behind)
    (hopened : n.Opens u → v = u)
    (hsettings : (s.standingAfter n).settings = s.settings)
    (hdocument : (s.documentsAfter n).text? v = some text)
    (hothers : v ≠ u → (s.documentsAfter n).text? u = s.documents.text? u) :
    Told s (s.notice d n).1 d u (n.Opens u) (lastReport? u (s.notice d n).2) := by
  rw [heffects, lastReport?_append, hbehind.lastReport?, Option.none_or, lastReport?_append,
    hbefore.lastReport?, Option.or_none, lastReport?_publish hafter, hlexical]
  by_cases hshow : s.settings.lexical = true
  · by_cases hv : v = u
    · -- the report is on the text that has just been tracked
      subst hv
      have hshown : (s.notice d n).1.shown? v = some text := by
        rw [shown?_notice, hsettings, if_pos hshow, hdocument]
      rw [if_pos ⟨hshow, rfl⟩, htext]
      have hcurrent : Told s (s.notice d n).1 d v (n.Opens v) _ := .current fun _ => hshow
      rwa [hshown] at hcurrent
    · rw [if_neg fun hboth => hv hboth.2]
      refine .nothing ?_ ?_
      · rw [shown?_notice, hsettings, if_pos hshow, hothers hv, shown?, if_pos hshow]
      · rintro (hn | ⟨hoff, -⟩)
        · exact absurd (hopened hn) hv
        · exact absurd hshow (by rw [hoff]; exact Bool.false_ne_true)
  · rw [if_neg fun hboth => hshow hboth.1]
    have hnone : s.shown? u = none := if_neg hshow
    refine .nothing ?_ fun _ => hnone
    rw [shown?_notice, hsettings, if_neg hshow, hnone]

/-- A file that is tracked with a text has it. -/
theorem textOf?_track (a : Analysis) (file : FileId) (text : String) :
    (a.track file text).textOf? file = some text := by
  unfold Analysis.textOf? Analysis.snapshot? Analysis.track Analysis.install
  dsimp only
  rw [Table.get?_put_self]
  rfl

/-- A document that is closed is reported without faults. -/
theorem told_closed (s : Session) (d : Disk) (u v : Url) :
    Told s (s.notice d (.closed v)).1 d u (Notification.Opens (.closed v) u)
      (lastReport? u (s.notice d (.closed v)).2) := by
  obtain ⟨reverted, hreverted, heffects⟩ : ∃ reverted, Quiet reverted ∧
      (s.notice d (.closed v)).2 = reverted ++ withdraw v ++ [.log (.closed v.shortName)] := by
    unfold notice closed
    dsimp only
    split
    · exact ⟨_, quiet_reload _ d _, rfl⟩
    · exact ⟨[], quiet_nil, rfl⟩
  rw [heffects, lastReport?_append, (quiet_nil.log _).lastReport?, Option.none_or,
    lastReport?_append, hreverted.lastReport?, Option.or_none, lastReport?_withdraw]
  by_cases hv : v = u
  · have hshown : (s.notice d (.closed v)).1.shown? u = none := by
      rw [shown?_notice, documentsAfter, DocumentStore.text?_close, if_pos hv, ite_self]
    have hcurrent :
        Told s (s.notice d (.closed v)).1 d u (Notification.Opens (.closed v) u) _ :=
      .current fun hon => by rwa [settings_notice] at hon
    rw [hshown] at hcurrent
    rw [if_pos hv]
    exact hcurrent
  · rw [if_neg hv]
    refine .nothing ?_ ?_
    · rw [shown?_notice, documentsAfter, DocumentStore.text?_close, if_neg hv]
      rfl
    · rintro (⟨text, version, hn⟩ | ⟨hoff, -⟩)
      · cases hn
      · rw [shown?, hoff]
        rfl

/-- Settings that come from the editor report on all open documents when faults come to be shown, or
no longer are, and else on none. -/
theorem told_configured (h : s.analysis.UpToDate) (d : Disk) (payload : Json) (u : Url) :
    Told s (s.notice d (.configured payload)).1 d u (Notification.Opens (.configured payload) u)
      (lastReport? u (s.notice d (.configured payload)).2) := by
  obtain ⟨settings, hsettings⟩ : ∃ settings, settings = s.settings.merge payload := ⟨_, rfl⟩
  have hafter : (s.standingAfter (.configured payload)).settings = settings := hsettings.symm
  have hshown : (s.notice d (.configured payload)).1.shown? u =
      if settings.lexical then s.documents.text? u else none := by
    rw [shown?_notice, hafter]
    rfl
  have heffects : lastReport? u (s.notice d (.configured payload)).2 =
      if settings.lexical = s.settings.lexical then none
      else lastReport? u ({ s with settings := settings }.lexicalEffects d) := by
    unfold notice configured
    dsimp only
    rw [← hsettings]
    by_cases hsame : settings = s.settings
    · rw [if_pos hsame, hsame, if_pos rfl]
      rfl
    · rw [if_neg hsame]
      have hlog : ∀ effects : List Effect,
          lastReport? u (.log .settingsApplied :: effects) = lastReport? u effects := by
        intro effects
        rw [lastReport?_cons]
        exact Option.or_none
      split
      · rw [List.cons_append, hlog, lastReport?_append, (quiet_scan _ d _).lastReport?,
          Option.none_or]
        split <;> rfl
      · rw [hlog]
        split <;> rfl
  rw [heffects]
  have hnone : s.settings.lexical = false → s.shown? u = none := fun hoff => by
    rw [shown?, hoff]
    rfl
  by_cases hlexical : settings.lexical = s.settings.lexical
  · rw [if_pos hlexical]
    refine .nothing ?_ ?_
    · rw [hshown, hlexical, shown?]
    · rintro (⟨text, version, hn⟩ | ⟨hoff, -⟩)
      · cases hn
      · exact hnone hoff
  · have hup : { s with settings := settings }.analysis.UpToDate := h
    rw [if_neg hlexical, lastReport?_lexicalEffects hup]
    dsimp only
    cases htext : s.documents.text? u with
    | none =>
      have hclosed : s.shown? u = none := by rw [shown?, htext, ite_self]
      refine .nothing ?_ fun _ => hclosed
      rw [hshown, htext, ite_self, hclosed]
    | some text =>
      rw [if_pos Option.isSome_some]
      by_cases hon : settings.lexical = true
      · rw [if_pos hon]
        have hoff : s.settings.lexical = false := by
          rw [← Bool.not_eq_true]
          exact fun hon' => hlexical (hon.trans hon'.symm)
        refine .switched text hoff ?_ htext ?_
        · rw [settings_notice, hafter, hon]
        · rw [(s.notice_eq d _).2]
          exact htext
      · rw [if_neg hon]
        have hcurrent : Told s (s.notice d (.configured payload)).1 d u
            (Notification.Opens (.configured payload) u) _ :=
          .current fun hon' => absurd (by rwa [settings_notice, hafter] at hon') hon
        rw [hshown, if_neg hon] at hcurrent
        exact hcurrent

/-- **What the notifications report**, one by one. -/
theorem told_notice (h : s.analysis.UpToDate) (d : Disk) (n : Notification) (u : Url) :
    Told s (s.notice d n).1 d u (n.Opens u) (lastReport? u (s.notice d n).2) := by
  cases n with
  | initialized => exact told_of_quiet (quiet_begun s d) (by simp [Notification.Opens]) rfl rfl
  | foldersChanged added removed => exact told_of_quiet (quiet_foldersChanged s d _ _) (by simp [Notification.Opens]) rfl rfl
  | filesChanged changes => exact told_of_quiet (quiet_filesChanged s d changes) (by simp [Notification.Opens]) rfl rfl
  | saved v => exact told_of_quiet ((s.quiet_echo _).log _) (by simp [Notification.Opens]) rfl rfl
  | opened v text version =>
    let after : Session :=
      { s with
        documents := s.documents.openDocument v text version
        analysis := s.analysis.track (.ofUrl d v) text }
    refine told_of_tracked after [_] (after.echo _) (h.track _ text) (textOf?_track ..) rfl rfl
      (quiet_nil.log _) (quiet_echo after _) ?_ rfl ?_ ?_
    · rintro ⟨text, version, hn⟩
      exact (Notification.opened.inj hn).1
    · rw [documentsAfter, DocumentStore.text?_openDocument, if_pos rfl]
    · intro hv
      rw [documentsAfter, DocumentStore.text?_openDocument, if_neg hv]
  | changed v edits version =>
    cases htext : (s.documents.change v edits version).text? v with
    | none =>
      have hnotice : s.notice d (.changed v edits version) = (s, [.log (.changedUnopened v)]) := by
        unfold notice changed
        dsimp only
        rw [htext]
      refine told_of_quiet ?_ (by simp [Notification.Opens]) rfl (DocumentStore.change_of_text?_eq_none htext)
      rw [hnotice]
      exact quiet_nil.log _
    | some text =>
      let after : Session :=
        { s with
          documents := s.documents.change v edits version
          analysis := s.analysis.track (.ofUrl d v) text }
      have heffects : (s.notice d (.changed v edits version)).2 =
          [.log (.changed v.shortName version (after.analysis.index.sitesOf (.ofUrl d v)).length)] ++
            after.publish d v (some version) ++ [] := by
        unfold notice changed
        dsimp only
        rw [htext, List.append_nil]
      refine told_of_tracked after _ [] (h.track _ text) (textOf?_track ..) rfl heffects
        (quiet_nil.log _) quiet_nil (by simp [Notification.Opens]) rfl htext ?_
      · intro hv
        exact DocumentStore.text?_change_of_ne hv edits version
  | closed v => exact told_closed s d u v
  | configured payload => exact told_configured h d payload u

end Session

end SailNav
