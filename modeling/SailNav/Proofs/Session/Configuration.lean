import SailNav.Proofs.Session.Admission
import SailNav.Proofs.Settings.Normal

/-!
# Settings in a session

An editor may send its settings as often as it likes, and it does so whenever the user has touched
any of them. What it costs must not depend on that: settings that are sent again are recognised, and
then nothing is scanned and nothing is reported (`SailNav.World.settings_recognised`).

Two things have to hold for it. Merging the same settings again changes nothing, since what is
merged is in normal form already (`SailNav.Settings.merge_merge`). And between the two messages
nothing else changes the settings, because only a configuration does, once a session has begun
(`SailNav.World.Configured.run`). Documents may be opened and closed in between, the folders and
the disk may change, and the session may even end.
-/

namespace SailNav

namespace World

variable {w v : World} {e : Event} {payload : Json}

/-- **A session stands configured** with some settings: they were merged, and nothing has changed
them. -/
structure Configured (payload : Json) (w : World) : Prop where
  begun : w.session.phase ≠ .uninitialized
  merged : w.session.settings.merge payload = w.session.settings

/-- A configuration that is heard is merged. -/
theorem configured_of_heard? (h : w.heard? e = some (.configured payload)) :
    (w.step e).Configured payload := by
  have hstanding := (standing_of_heard? h).2.1
  have hphase : (w.step e).session.phase = .initialized :=
    (congrArg Session.Standing.phase hstanding).trans (phase_of_heard? h)
  have hsettings : (w.step e).session.settings = w.session.settings.merge payload :=
    congrArg Session.Standing.settings hstanding
  refine ⟨by rw [hphase]; exact nofun, ?_⟩
  rw [hsettings, Settings.merge_merge]

/-- Once a session has begun, an event that is no other configuration leaves it configured. -/
theorem Configured.step (h : w.Configured payload)
    (hother : ∀ other, e.Tells (.configured other) → other = payload) :
    (w.step e).Configured payload := by
  cases hheard : w.heard? e with
  | some n =>
    have hstanding := (standing_of_heard? hheard).2.1
    by_cases hn : ∃ other, n = .configured other
    · obtain ⟨other, rfl⟩ := hn
      obtain ⟨method, params, heq, htells, -⟩ := message_of_heard? hheard
      obtain rfl := hother other ⟨method, params, heq, htells⟩
      exact configured_of_heard? hheard
    · -- no other notification changes the phase or the settings
      have hafter : (w.session.standingAfter n).phase = w.session.phase ∧
          (w.session.standingAfter n).settings = w.session.settings := by
        cases n with
        | configured other => exact absurd ⟨other, rfl⟩ hn
        | foldersChanged | initialized | filesChanged | opened | changed | saved | closed =>
          exact ⟨rfl, rfl⟩
      have hphase := (congrArg Session.Standing.phase hstanding).trans hafter.1
      have hsettings := (congrArg Session.Standing.settings hstanding).trans hafter.2
      have hmerged := h.merged
      rw [← hsettings] at hmerged
      exact ⟨fun hbefore => h.begun (hphase.symm.trans hbefore), hmerged⟩
  | none =>
    rcases standing_of_unheard hheard with ⟨phase, hcases, hstanding⟩ | ⟨hbefore, -⟩
    · have hphase : (w.step e).session.phase = phase := congrArg Session.Standing.phase hstanding
      have hsettings : (w.step e).session.settings = w.session.settings :=
        congrArg Session.Standing.settings hstanding
      have hmerged := h.merged
      rw [← hsettings] at hmerged
      refine ⟨fun hbefore => ?_, hmerged⟩
      rw [hphase] at hbefore
      rcases hcases with heq | heq | heq
      · exact h.begun (heq.symm.trans hbefore)
      · cases heq.symm.trans hbefore
      · cases heq.symm.trans hbefore
    · exact absurd hbefore h.begun

/-- A session stays configured until it hears another configuration. -/
theorem Configured.run (h : w.Configured payload) {events : List Event}
    (hothers : ∀ e ∈ events, ∀ other, e.Tells (.configured other) → other = payload) :
    (w.run events).Configured payload := by
  induction events generalizing w with
  | nil => exact h
  | cons e rest ih =>
    obtain ⟨he, hrest⟩ := List.forall_mem_cons.1 hothers
    exact ih (h.step he) hrest

/-- **Where settings stand configured, they are recognised**: nothing changes and nothing happens. -/
theorem Configured.again (h : w.Configured payload) (htells : e.Tells (.configured payload)) :
    w.step e = w ∧ w.effects e = [] := by
  by_cases hphase : w.session.phase = .initialized
  · have hheard := heard?_of_tells htells hphase
    have hnotice : w.session.notice w.disk (.configured payload) = (w.session, []) := by
      rw [Session.notice, Session.configured]
      exact if_pos h.merged
    rw [step_of_heard? hheard, effects_of_heard? hheard, hnotice]
    exact ⟨rfl, rfl⟩
  · refine ⟨step_of_tells_of_phase htells hphase, ?_⟩
    obtain ⟨method, params, rfl, -⟩ := htells
    rw [effects, Session.receiveNotification, if_pos hphase]
    split <;> rfl

/-- **Settings are normal, and the same settings are recognised.** Whatever was sent, one payload
after another, the settings are in normal form, the greatest size of a file is a whole number of
kilobytes, and the excluded paths are the firsts of the last list that was provided, cleaned. To
normalize normal settings changes nothing, and neither does merging a payload again. So when an
editor sends a configuration, and sends it once more after whatever else but another configuration,
the session stays as it is and nothing happens: there is no scan and no report. -/
theorem settings_recognised (first : Option Json) (rest : List Json) :
    ((Settings.ofPayload first).mergeAll rest).IsNormal ∧
    ((Settings.ofPayload first).mergeAll rest).indexing.maxFileSizeBytes =
      ((Settings.ofPayload first).mergeAll rest).indexing.maxFileSizeKb * 1024 ∧
    (∀ front last back paths, first.toList ++ rest = front ++ last :: back →
      Settings.Provides last .excludePaths paths →
      (∀ later ∈ back, ∀ others, ¬Settings.Provides later .excludePaths others) →
      IndexingSettings.IsFirsts ((Settings.ofPayload first).mergeAll rest).indexing.excludePaths
        (IndexingSettings.cleaned paths)) ∧
    (∀ s : Settings, s.IsNormal → s.normalize = s) ∧
    (∀ (s : Settings) (payload : Json), (s.merge payload).merge payload = s.merge payload) ∧
    ∀ (w : World) (e again : Event) (between : List Event) (payload : Json),
      w.heard? e = some (.configured payload) → again.Tells (.configured payload) →
      (∀ x ∈ between, ∀ other, x.Tells (.configured other) → other = payload) →
      ((w.step e).run between).step again = (w.step e).run between ∧
        ((w.step e).run between).effects again = [] := by
  have hchain : (Settings.ofPayload first).mergeAll rest =
      Settings.initial.mergeAll (first.toList ++ rest) := by
    cases first <;> rfl
  have hnormal := Settings.isNormal_mergeAll Settings.isNormal_initial (first.toList ++ rest)
  rw [hchain]
  refine ⟨hnormal, hnormal.maxFileSizeBytes_eq, fun front last back paths heq hlast hback => ?_,
    fun s => Settings.normalize_eq_self_iff.2, Settings.merge_merge,
    fun w e again between payload hheard htells hothers => ?_⟩
  · have hpaths : (Settings.initial.mergeAll (front ++ last :: back)).indexing.excludePaths =
        IndexingSettings.normalPaths paths := Settings.get_mergeAll_of_provides hlast hback
    rw [heq, hpaths]
    exact (IndexingSettings.areNormal_normalPaths paths).2
  · exact ((configured_of_heard? hheard).run hothers).again htells

end World

end SailNav
