import SailNav.Proofs.Progress.Course
import SailNav.Session.Workspace

/-!
# What the editor is told

A scan of the workspace is one piece of work. It reports after every fifth file and after the last
one, so what it reports grows, and ends with everything (`SailNav.Session.told_scan`). Files that
are too large or cannot be read are counted like the others, since the reports are about the files
that were found and not about those that are indexed.

With the courses of the pieces of work on a desk, this is all that the editor is told of progress
(`SailNav.ProgressDesk.told_exact`).
-/

namespace SailNav

/-- The percentage of a report. -/
def ProgressValue.percentage? : ProgressValue → Option Nat
  | report _ percentage => percentage
  | _ => none

/-- The more is done, the higher is the percentage. -/
theorem percentOf_mono {m n : Nat} (h : m ≤ n) (whole : Nat) :
    percentOf m whole ≤ percentOf n whole := by
  unfold percentOf
  split
  · exact Nat.le_refl _
  · exact Nat.div_le_div_right (Nat.mul_le_mul_right _ (by omega))

namespace Workspace

open Effect

variable {token : ProgressToken} {whole : Nat}

/-- The numbers of the files after which a scan reports. -/
def reportedNumbers (whole : Nat) : List Nat :=
  (List.range' 1 whole).filter fun n => n % reportEvery = 0 ∨ n = whole

/-- What a scan reports when it has come to a file. -/
def reportAt (whole number : Nat) : ProgressValue :=
  .report (some (progressText number whole)) (some (percentOf number whole))

/-- What a scan reports, from the first file to the last. -/
def reportsOf (whole : Nat) : List ProgressValue := (reportedNumbers whole).map (reportAt whole)

/-- A file is told of by a report or not at all, whatever was found. -/
theorem told_foundEffects (token : ProgressToken) (whole : Nat) (found : Location × Finding)
    (number : Nat) : told token.text (foundEffects token whole found number) =
      if number % reportEvery = 0 ∨ number = whole then [reportAt whole number] else [] := by
  have hreport : told token.text (if number % reportEvery = 0 ∨ number = whole then
        token.report (some (progressText number whole)) (some (percentOf number whole)) else []) =
      if number % reportEvery = 0 ∨ number = whole then [reportAt whole number] else [] := by
    split
    · rw [told_report, if_pos rfl, Option.map_some, Nat.min_eq_left (percentOf_le number whole)]
      rfl
    · rfl
  -- a failure goes to the log only
  obtain ⟨location, finding⟩ := found
  cases finding with
  | fresh | held | failed => exact hreport

/-- **What a scan tells of the files**, all together. -/
theorem told_files (token : ProgressToken) (whole : Nat) (found : List (Location × Finding)) :
    told token.text ((found.zipIdx 1).flatMap fun (f, number) =>
      foundEffects token whole f number) =
      (((List.range' 1 found.length).filter fun n => n % reportEvery = 0 ∨ n = whole).map
        (reportAt whole)) := by
  have hchosen : ∀ numbers : List Nat, (numbers.flatMap fun n =>
      if n % reportEvery = 0 ∨ n = whole then [reportAt whole n] else []) =
        (numbers.filter fun n => n % reportEvery = 0 ∨ n = whole).map (reportAt whole) := by
    intro numbers
    induction numbers with
    | nil => rfl
    | cons n rest ih =>
      rw [List.flatMap_cons, ih, List.filter_cons]
      by_cases h : n % reportEvery = 0 ∨ n = whole
      · rw [if_pos h, if_pos (decide_eq_true h)]
        rfl
      · rw [if_neg h, if_neg (by simpa using h)]
        rfl
  rw [told, List.filterMap_flatMap, ← hchosen, ← List.zipIdx_map_snd, List.flatMap_map]
  exact List.flatMap_congr fun f _ => told_foundEffects token whole f.1 f.2

/-- The percentages that a scan reports never go down. -/
theorem pairwise_reportsOf (whole : Nat) :
    ((reportsOf whole).filterMap ProgressValue.percentage?).Pairwise (· ≤ ·) := by
  have hpercentages : (reportsOf whole).filterMap ProgressValue.percentage? =
      (reportedNumbers whole).map (percentOf · whole) := by
    rw [reportsOf, List.filterMap_map, ← List.filterMap_eq_map]
    rfl
  rw [hpercentages, List.pairwise_map]
  have hgrow : (List.range' 1 whole).Pairwise (· < ·) := List.pairwise_lt_range' ..
  exact (hgrow.filter _).imp fun hlt => percentOf_mono (Nat.le_of_lt hlt) whole

/-- The last report of a scan is that of the last file. -/
theorem getLast?_reportsOf (h : 0 < whole) :
    (reportsOf whole).getLast? = some (.report (some (progressText whole whole)) (some 100)) := by
  obtain ⟨n, rfl⟩ := Nat.exists_eq_succ_of_ne_zero (Nat.ne_of_gt h)
  have hlast : reportedNumbers (n + 1) =
      ((List.range' 1 n).filter fun m => m % reportEvery = 0 ∨ m = n + 1) ++ [n + 1] := by
    rw [reportedNumbers, List.range'_1_concat, List.filter_append, Nat.add_comm 1 n]
    simp
  rw [reportsOf, hlast, List.map_append, List.map_singleton, List.getLast?_concat, reportAt,
    percentOf_self]

/-- **What a scan tells**: it begins, reports, and ends. -/
theorem told_scanEffects (token : ProgressToken) (found : List (Location × Finding))
    (after : Analysis) : told token.text (scanEffects token found after) =
      .begun token.displayTitle (some (progressText 0 found.length)) ::
        (reportsOf found.length ++
          [.ended (some (toString (countOf found Finding.isFresh) ++ " file(s) indexed"))]) := by
  have hlog : ∀ event : LogEvent, told token.text [.log event] = [] := fun _ => rfl
  rw [scanEffects, told_append, told_append, told_append, told_append, hlog, hlog, told_start,
    told_finish, if_pos rfl, if_pos rfl, told_files, List.nil_append, List.append_nil,
    List.singleton_append, List.cons_append]
  rfl

end Workspace

open Workspace

/-- **A scan that finds files tells of one piece of work**, from its beginning to its end. -/
theorem Session.told_scan {s : Session} {d : Disk} {roots : List Path} {n : Nat}
    (henabled : s.settings.indexing.enabled = true)
    (hn : (discoverWith d s.settings.indexing roots).files.length = n) (hpos : 0 < n) :
    ∃ indexed, Effect.told (ProgressToken.ofTitle "Indexing" s.nextProgress).text
        (s.scan d roots).2 =
      .begun (ProgressToken.ofTitle "Indexing" s.nextProgress).displayTitle
          (some (progressText 0 n)) ::
        (reportsOf n ++ [.ended (some indexed)]) := by
  have hfiles : (discoverWith d s.settings.indexing roots).files.isEmpty = false := by
    rw [← Bool.not_eq_true, List.isEmpty_iff_length_eq_zero, hn]
    omega
  rw [Session.scan, if_pos henabled]
  dsimp only
  rw [hfiles, if_neg Bool.false_ne_true]
  dsimp only
  -- files that are too large go to the log only
  rw [Effect.told_append_of_silent (List.forall_mem_map.2 fun _ _ => rfl), told_scanEffects,
    readAll, List.length_map, hn]
  exact ⟨_, rfl⟩

/-- **What the editor is told of progress.** In any run of steps of any number of pieces of work, the
tokens have different texts, and only these are told of. Each piece of work begins once, and then
takes its course: the reports of it in order, none beyond everything, and then its end if it was
finished or given up, with nothing after that. A scan that finds files is one such piece of work,
the percentages of its reports never go down, and the last report is of all files. -/
theorem ProgressDesk.told_exact :
    (∀ steps : List ProgressStep,
      ((tokensOf steps).map ProgressToken.text).Nodup ∧
      (∀ token, Effect.told token (run steps).2 ≠ [] →
        token ∈ (tokensOf steps).map ProgressToken.text) ∧
      ∀ slot t, (tokensOf steps)[slot]? = some t →
        ∃ front title message during values,
          steps = front ++ .start title message :: during ∧ (tokensOf front).length = slot ∧
          t = .ofTitle title (slot + 1) ∧
          Course slot during values ((run steps).1.work? slot).isSome ∧
          Effect.told t.text (run steps).2 = .begun t.displayTitle message :: values ∧
          ∀ m p, .report m (some p) ∈ values → p ≤ 100) ∧
    ∀ (s : Session) (d : Disk) (roots : List Path) (n : Nat),
      s.settings.indexing.enabled = true →
      (discoverWith d s.settings.indexing roots).files.length = n → 0 < n →
      ∃ (t : ProgressToken) (reports : List ProgressValue) (indexed : String),
        t = .ofTitle "Indexing" s.nextProgress ∧
        Effect.told t.text (s.scan d roots).2 =
          .begun t.displayTitle (some (progressText 0 n)) :: (reports ++ [.ended (some indexed)]) ∧
        (∀ v ∈ reports, ∃ m p, v = .report m (some p)) ∧
        (reports.filterMap ProgressValue.percentage?).Pairwise (· ≤ ·) ∧
        reports.getLast? = some (.report (some s!"{n} / {n} files") (some 100)) := by
  refine ⟨fun steps => ⟨nodup_text_tokensOf steps, (follows_run steps).begun, fun slot t ht => ?_⟩,
    fun s d roots n henabled hn hpos => ?_⟩
  · obtain ⟨front, title, message, during, values, hsteps, hslot, htitle, hcourse, htold⟩ :=
      (follows_run steps).course slot t ht
    exact ⟨front, title, message, during, values, hsteps, hslot, htitle, hcourse, htold,
      fun _ _ hreport => hcourse.percentage_le hreport⟩
  · obtain ⟨indexed, htold⟩ := s.told_scan henabled hn hpos
    refine ⟨_, reportsOf n, indexed, rfl, htold, fun v hv => ?_, pairwise_reportsOf n,
      getLast?_reportsOf hpos⟩
    obtain ⟨number, -, rfl⟩ := List.mem_map.1 hv
    exact ⟨_, _, rfl⟩

end SailNav
