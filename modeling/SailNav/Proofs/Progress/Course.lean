import Mathlib.Data.List.Induction
import Mathlib.Data.List.Nodup
import Std.Data.String.ToNat
import SailNav.Progress.Basic

/-!
# The course of a piece of work

Several pieces of work go on at a time, and whoever does them tells of each when it likes. The editor
sorts what it is told by the text of the token, and what it then has of one piece of work has to make
sense by itself: it is begun, there are reports, and it ends, once or not yet
(`SailNav.ProgressDesk.Course`).

Two things make it so.

* **Tokens are told apart by their texts.** A title is free, and may look like the end of a token. But
  what stands behind the last slash of a token is its number, and numbers are not used again
  (`SailNav.ProgressToken.number_eq_of_text_eq`).
* **A slot is empty for good when its work has ended.** A step about an empty slot does nothing, so
  the end is the last that is told (`SailNav.ProgressDesk.told_perform` says what one step tells of
  one piece of work).

A run of steps is followed from its beginning (`SailNav.ProgressDesk.Follows`). The steps of a slot
are found in it behind the step that began the work, and only the first of them that ends the work
counts.
-/

namespace SailNav

/-! ### The texts of tokens -/

namespace ProgressToken

/-- What stands behind the last slash of a text. -/
theorem eq_of_append_slash_eq {front behind front' behind' : List Char} (h : '/' ∉ behind)
    (h' : '/' ∉ behind') (heq : front ++ '/' :: behind = front' ++ '/' :: behind') :
    behind = behind' := by
  have hread : ∀ {front behind : List Char}, '/' ∉ behind →
      ((front ++ '/' :: behind).reverse.takeWhile (· ≠ '/')).reverse = behind := by
    intro front behind hnot
    have hall : ∀ c ∈ behind.reverse, decide (c ≠ '/') = true := fun c hc =>
      decide_eq_true fun hslash => hnot (hslash ▸ List.mem_reverse.1 hc)
    rw [List.reverse_append, List.reverse_cons, List.append_assoc,
      List.takeWhile_append_of_pos hall, List.singleton_append,
      List.takeWhile_cons_of_neg (by simp), List.append_nil, List.reverse_reverse]
  rw [← hread h, heq, hread h']

/-- A number is written without a slash. -/
theorem slash_notMem_toString (n : Nat) : '/' ∉ (toString n).toList := by
  intro hmem
  have hdigit : '/'.isDigit = true :=
    Nat.isDigit_of_mem_toDigits (b := 10) (by decide) (by decide) (by simpa using hmem)
  exact absurd hdigit (by decide)

/-- **Tokens with the same text have the same number**, whatever their titles are. -/
theorem number_eq_of_text_eq {t u : ProgressToken} (h : t.text = u.text) :
    t.number = u.number := by
  have hlist := congrArg String.toList h
  simp only [text, String.toList_append] at hlist
  have hnumber := eq_of_append_slash_eq (slash_notMem_toString t.number)
    (slash_notMem_toString u.number) (by simpa using hlist)
  exact Nat.repr_inj.1 (String.toList_inj.1 hnumber)

end ProgressToken

/-! ### What is told of one piece of work -/

namespace Effect

/-- What an effect tells of the work with a token. The editor has the text of the token only. -/
def told? (token : String) : Effect → Option ProgressValue
  | .send (.progress t value) => if t.text = token then some value else none
  | _ => none

/-- What some effects tell of the work with a token. -/
def told (token : String) (effects : List Effect) : List ProgressValue :=
  effects.filterMap (told? token)

variable {token : String}

theorem told_append (a b : List Effect) : told token (a ++ b) = told token a ++ told token b :=
  List.filterMap_append

/-- Effects that tell nothing of the work can be left out. -/
theorem told_append_of_silent {a b : List Effect} (h : ∀ effect ∈ a, told? token effect = none) :
    told token (a ++ b) = told token b := by
  have hsilent : told token a = [] := List.filterMap_eq_nil_iff.2 h
  rw [told_append, hsilent, List.nil_append]

variable (t : ProgressToken) (message : Option String)

theorem told_start : told token (t.start message) =
    if t.text = token then [.begun t.displayTitle message] else [] := by
  by_cases h : t.text = token <;> simp [told, ProgressToken.start, List.filterMap_cons, told?, h]

theorem told_report (percentage : Option Nat) : told token (t.report message percentage) =
    if t.text = token then [.report message (percentage.map (min · 100))] else [] := by
  by_cases h : t.text = token <;> simp [told, ProgressToken.report, told?, h]

theorem told_finish : told token (t.finish message) =
    if t.text = token then [.ended message] else [] := by
  by_cases h : t.text = token <;> simp [told, ProgressToken.finish, List.filterMap_cons, told?, h]

theorem told_cancel : told token t.cancel =
    if t.text = token then [.ended (some "Cancelled")] else [] := by
  by_cases h : t.text = token <;> simp [told, ProgressToken.cancel, List.filterMap_cons, told?, h]

end Effect

namespace ProgressStep

/-- The title and the message with which a step begins work. -/
def begins? : ProgressStep → Option (String × Option String)
  | start title message => some (title, message)
  | _ => none

/-- What a step reports of the work in a slot. -/
def reports? (slot : Nat) : ProgressStep → Option ProgressValue
  | report s message percentage =>
    if s = slot then some (.report message (percentage.map (min · 100))) else none
  | _ => none

/-- The message with which a step ends the work in a slot. -/
def ends? (slot : Nat) : ProgressStep → Option (Option String)
  | finish s message => if s = slot then some message else none
  | cancel s => if s = slot then some (some "Cancelled") else none
  | _ => none

end ProgressStep

namespace ProgressDesk

/-! ### Runs -/

/-- The desk after a step, and what happens. A step about an empty slot does nothing. -/
def perform (k : ProgressDesk) (step : ProgressStep) : ProgressDesk × List Effect :=
  (k.step? step).getD (k, [])

/-- A desk after some steps, and what happened. -/
def run (steps : List ProgressStep) : ProgressDesk × List Effect :=
  steps.foldl (fun done step => ((done.1.perform step).1, done.2 ++ (done.1.perform step).2))
    (empty, [])

theorem run_concat (steps : List ProgressStep) (step : ProgressStep) :
    run (steps ++ [step]) = (((run steps).1.perform step).1,
      (run steps).2 ++ ((run steps).1.perform step).2) :=
  List.foldl_concat ..

/-- The tokens of the work that some steps begin, in order. -/
def tokensOf (steps : List ProgressStep) : List ProgressToken :=
  (steps.filterMap ProgressStep.begins?).mapIdx fun i begun => .ofTitle begun.1 (i + 1)

/-- A step that begins no work brings no token. -/
theorem tokensOf_concat {step : ProgressStep} (h : step.begins? = none)
    (steps : List ProgressStep) : tokensOf (steps ++ [step]) = tokensOf steps := by
  rw [tokensOf, List.filterMap_append]
  simp [tokensOf, h]

/-- Work that is begun has the next number. -/
theorem tokensOf_concat_start (steps : List ProgressStep) (title : String)
    (message : Option String) : tokensOf (steps ++ [.start title message]) =
      tokensOf steps ++ [.ofTitle title ((tokensOf steps).length + 1)] := by
  rw [tokensOf, List.filterMap_append, List.mapIdx_append]
  simp [tokensOf, ProgressStep.begins?]

/-- The tokens are numbered from one. -/
theorem number_of_tokensOf {steps : List ProgressStep} {slot : Nat} {t : ProgressToken}
    (h : (tokensOf steps)[slot]? = some t) : t.number = slot + 1 := by
  rw [tokensOf, List.getElem?_mapIdx, Option.map_eq_some_iff] at h
  obtain ⟨begun, -, rfl⟩ := h
  rfl

/-- Tokens with the same text are in the same slot. -/
theorem slot_eq_of_text_eq {steps : List ProgressStep} {slot slot' : Nat} {t u : ProgressToken}
    (ht : (tokensOf steps)[slot]? = some t) (hu : (tokensOf steps)[slot']? = some u)
    (h : t.text = u.text) : slot = slot' := by
  have hnumber := ProgressToken.number_eq_of_text_eq h
  rw [number_of_tokensOf ht, number_of_tokensOf hu] at hnumber
  omega

/-- **The texts of the tokens are all different.** -/
theorem nodup_text_tokensOf (steps : List ProgressStep) :
    ((tokensOf steps).map ProgressToken.text).Nodup := by
  refine List.nodup_iff_getElem?_ne_getElem?.2 fun i j hij hj heq => ?_
  rw [List.length_map] at hj
  have hi : i < (tokensOf steps).length := Nat.lt_trans hij hj
  rw [List.getElem?_map, List.getElem?_map, List.getElem?_eq_getElem hi,
    List.getElem?_eq_getElem hj] at heq
  have hsame := slot_eq_of_text_eq (List.getElem?_eq_getElem hi) (List.getElem?_eq_getElem hj)
    (Option.some.inj heq)
  omega

/-! ### The course of one piece of work -/

/-- **What is told after work in a slot has begun**, by the steps that follow. While the work is
open, that is what they report of it. When it has ended, that is what was reported before, and then
the end; what follows counts for nothing. -/
inductive Course (slot : Nat) (steps : List ProgressStep) : List ProgressValue → Bool → Prop
  | goesOn (h : ∀ step ∈ steps, step.ends? slot = none) :
      Course slot steps (steps.filterMap (·.reports? slot)) true
  | closed {front back : List ProgressStep} {last : ProgressStep} {message : Option String}
      (hsteps : steps = front ++ last :: back) (hfront : ∀ step ∈ front, step.ends? slot = none)
      (hlast : last.ends? slot = some message) :
      Course slot steps (front.filterMap (·.reports? slot) ++ [.ended message]) false

namespace Course

variable {slot : Nat} {steps : List ProgressStep} {values : List ProgressValue}

/-- Work that has ended is not told of any more. -/
theorem concat_closed (h : Course slot steps values false) (step : ProgressStep) :
    Course slot (steps ++ [step]) values false := by
  cases h with
  | @closed front back last message hsteps hfront hlast =>
    have hsteps' : steps ++ [step] = front ++ last :: (back ++ [step]) := by
      rw [hsteps, List.append_assoc, List.cons_append]
    exact .closed hsteps' hfront hlast

/-- Open work is told of as long as no step ends it. -/
theorem concat_goesOn (h : Course slot steps values true) {step : ProgressStep}
    (hstep : step.ends? slot = none) :
    Course slot (steps ++ [step]) (values ++ (step.reports? slot).toList) true := by
  cases h with
  | goesOn hall =>
    have hvalues : (steps ++ [step]).filterMap (·.reports? slot) =
        steps.filterMap (·.reports? slot) ++ (step.reports? slot).toList := by
      rw [List.filterMap_append]
      cases hreports : step.reports? slot <;> simp [hreports]
    rw [← hvalues]
    exact .goesOn (List.forall_mem_append.2 ⟨hall, List.forall_mem_singleton.2 hstep⟩)

/-- A step that ends open work is the last that is told of. -/
theorem concat_ends (h : Course slot steps values true) {step : ProgressStep}
    {message : Option String} (hstep : step.ends? slot = some message) :
    Course slot (steps ++ [step]) (values ++ [.ended message]) false := by
  cases h with
  | goesOn hall => exact .closed rfl hall hstep

/-- No report tells of more than everything. -/
theorem percentage_le {isOpen : Bool} (h : Course slot steps values isOpen)
    {message : Option String} {percentage : Nat}
    (hreport : .report message (some percentage) ∈ values) : percentage ≤ 100 := by
  have hsteps : ∀ steps : List ProgressStep,
      .report message (some percentage) ∈ steps.filterMap (·.reports? slot) → percentage ≤ 100 := by
    intro steps hmem
    obtain ⟨step, -, hstep⟩ := List.mem_filterMap.1 hmem
    cases step with
    | report s m given =>
      rw [ProgressStep.reports?] at hstep
      split at hstep
      · injection hstep with hvalue
        injection hvalue with _ hpercentage
        obtain ⟨n, -, rfl⟩ := Option.map_eq_some_iff.1 hpercentage
        exact Nat.min_le_right n 100
      · cases hstep
    | start | finish | cancel => cases hstep
  cases h with
  | goesOn => exact hsteps _ hreport
  | closed =>
    rcases List.mem_append.1 hreport with hmem | hmem
    · exact hsteps _ hmem
    · cases List.mem_singleton.1 hmem

end Course

/-! ### One step -/

/-- **A desk serves some tokens**: there is a slot for each, and in the slots that are not empty are
the tokens themselves. -/
structure Serves (k : ProgressDesk) (tokens : List ProgressToken) : Prop where
  next : k.next = tokens.length + 1
  length : k.slots.length = tokens.length
  work : ∀ slot t, k.work? slot = some t → tokens[slot]? = some t

variable {k : ProgressDesk} {steps : List ProgressStep} {slot : Nat} {t : ProgressToken}

theorem work?_clear (k : ProgressDesk) (slot s : Nat) :
    (k.clear s).work? slot = if s = slot then none else k.work? slot := by
  rw [work?, clear, work?, List.getElem?_set]
  split
  · split <;> rfl
  · rfl

/-- A step about a slot does nothing when the slot is empty, and tells only of the work in it. -/
theorem told_perform_at (hk : k.Serves (tokensOf steps)) (ht : (tokensOf steps)[slot]? = some t)
    (step : ProgressStep) {s : Nat} {next : ProgressDesk} {effects : ProgressToken → List Effect}
    {values : List ProgressValue}
    (hstep : k.step? step = (k.work? s).map fun u => (next, effects u))
    (htold : ∀ u, Effect.told t.text (effects u) = if u.text = t.text then values else []) :
    Effect.told t.text (k.perform step).2 =
        (if s = slot ∧ (k.work? slot).isSome then values else []) ∧
      (k.perform step).1 = if (k.work? s).isSome then next else k := by
  rw [perform, hstep]
  cases hwork : k.work? s with
  | none =>
    refine ⟨(if_neg ?_).symm, rfl⟩
    rintro ⟨rfl, hsome⟩
    rw [hwork] at hsome
    cases hsome
  | some u =>
    refine ⟨(htold u).trans ?_, rfl⟩
    have hu := hk.work s u hwork
    by_cases hs : s = slot
    · subst hs
      rw [Option.some.inj (hu.symm.trans ht), if_pos rfl, if_pos ⟨rfl, by rw [hwork]; rfl⟩]
    · -- the token in another slot has another text
      rw [if_neg fun htext => hs (slot_eq_of_text_eq hu ht htext), if_neg fun h => hs h.1]

/-- A step that ends the work in a slot empties the slot, if there is work in it. -/
theorem told_perform_ending (hk : k.Serves (tokensOf steps))
    (ht : (tokensOf steps)[slot]? = some t) (step : ProgressStep) {s : Nat}
    {effects : ProgressToken → List Effect} {message : Option String}
    (hstep : k.step? step = (k.work? s).map fun u => (k.clear s, effects u))
    (htold : ∀ u, Effect.told t.text (effects u) =
      if u.text = t.text then [.ended message] else []) :
    Effect.told t.text (k.perform step).2 =
        (if s = slot ∧ (k.work? slot).isSome then [.ended message] else []) ∧
      (k.perform step).1.work? slot = if s = slot then none else k.work? slot := by
  obtain ⟨hvalues, hnext⟩ := told_perform_at hk ht step hstep htold
  refine ⟨hvalues, ?_⟩
  rw [hnext]
  cases hwork : k.work? s with
  | some u =>
    rw [Option.isSome_some, if_pos rfl]
    exact work?_clear k slot s
  | none =>
    rw [Option.isSome_none, if_neg Bool.false_ne_true]
    split
    · next hs => rw [← hs, hwork]
    · rfl

/-- **What one step tells of one piece of work**, and whether the work goes on. -/
theorem told_perform (hk : k.Serves (tokensOf steps)) (ht : (tokensOf steps)[slot]? = some t)
    (step : ProgressStep) :
    Effect.told t.text (k.perform step).2 =
        (if (k.work? slot).isSome then
          match step.ends? slot with
          | some message => [.ended message]
          | none => (step.reports? slot).toList
        else []) ∧
      (k.perform step).1.work? slot =
        if (step.ends? slot).isSome then none else k.work? slot := by
  cases step with
  | start title message =>
    have hlt : slot < k.slots.length := hk.length ▸ (List.getElem?_eq_some_iff.1 ht).1
    have hnew : (ProgressToken.ofTitle title k.next).text ≠ t.text := by
      intro htext
      have hnumber : k.next = t.number := ProgressToken.number_eq_of_text_eq htext
      rw [number_of_tokensOf ht, hk.next, ← hk.length] at hnumber
      omega
    refine ⟨?_, ?_⟩
    · have htold : Effect.told t.text ((ProgressToken.ofTitle title k.next).start message) = [] :=
        (Effect.told_start _ message).trans (if_neg hnew)
      exact htold.trans (ite_self _).symm
    · show (k.slots ++ [some (ProgressToken.ofTitle title k.next)])[slot]?.join = k.work? slot
      rw [List.getElem?_append_left hlt, work?]
  | report s message percentage =>
    obtain ⟨htold, hnext⟩ := told_perform_at hk ht (.report s message percentage) rfl
      fun u => Effect.told_report u message percentage
    rw [htold, hnext, ite_self]
    by_cases hs : s = slot <;> simp [ProgressStep.ends?, ProgressStep.reports?, hs]
  | finish s message =>
    obtain ⟨htold, hwork⟩ := told_perform_ending hk ht (.finish s message) rfl
      fun u => Effect.told_finish u message
    rw [htold, hwork]
    by_cases hs : s = slot <;> simp [ProgressStep.ends?, ProgressStep.reports?, hs]
  | cancel s =>
    obtain ⟨htold, hwork⟩ := told_perform_ending hk ht (.cancel s) rfl
      fun u => Effect.told_cancel u
    rw [htold, hwork]
    by_cases hs : s = slot <;> simp [ProgressStep.ends?, ProgressStep.reports?, hs]

/-- A desk with a slot emptied serves the same tokens. -/
theorem Serves.clear {tokens : List ProgressToken} (hk : k.Serves tokens) (s : Nat) :
    (k.clear s).Serves tokens where
  next := hk.next
  length := List.length_set.trans hk.length
  work slot t ht := by
    rw [work?_clear] at ht
    split at ht
    · cases ht
    · exact hk.work slot t ht

/-- A desk goes on serving the tokens of the work that is begun. -/
theorem Serves.perform (hk : k.Serves (tokensOf steps)) (step : ProgressStep) :
    (k.perform step).1.Serves (tokensOf (steps ++ [step])) := by
  cases step with
  | start title message =>
    have hslots : (k.perform (.start title message)).1.slots =
        k.slots ++ [some (.ofTitle title k.next)] := rfl
    rw [tokensOf_concat_start, ← hk.next]
    refine ⟨?_, ?_, fun slot t ht => ?_⟩
    · rw [List.length_append, List.length_singleton, ← hk.next]
      rfl
    · rw [hslots, List.length_append, List.length_append, hk.length]
      rfl
    · rw [work?, hslots] at ht
      rcases Nat.lt_or_ge slot k.slots.length with hlt | hge
      · rw [List.getElem?_append_left hlt] at ht
        rw [List.getElem?_append_left (hk.length ▸ hlt)]
        exact hk.work slot t ht
      · -- the new slot has the new token
        rw [List.getElem?_append_right hge] at ht
        rw [List.getElem?_append_right (hk.length ▸ hge), ← hk.length]
        generalize slot - k.slots.length = i at ht ⊢
        cases i with
        | zero => exact ht
        | succ i => cases ht
  | report s message percentage =>
    rw [tokensOf_concat rfl, ProgressDesk.perform, step?]
    cases k.work? s <;> exact hk
  | finish s message =>
    rw [tokensOf_concat rfl, ProgressDesk.perform, step?]
    cases k.work? s with
    | none => exact hk
    | some u => exact hk.clear s
  | cancel s =>
    rw [tokensOf_concat rfl, ProgressDesk.perform, step?]
    cases k.work? s with
    | none => exact hk
    | some u => exact hk.clear s

/-- A step about a slot tells of the work in it, and of no other. -/
theorem mem_of_told_at (hk : k.Serves (tokensOf steps)) {step : ProgressStep} {s : Nat}
    {next : ProgressDesk} {effects : ProgressToken → List Effect} {values : List ProgressValue}
    {token : String} (hstep : k.step? step = (k.work? s).map fun u => (next, effects u))
    (htold : ∀ u, Effect.told token (effects u) = if u.text = token then values else [])
    (h : Effect.told token (k.perform step).2 ≠ []) :
    token ∈ (tokensOf steps).map ProgressToken.text := by
  rw [perform, hstep] at h
  cases hwork : k.work? s with
  | none =>
    rw [hwork] at h
    exact absurd rfl h
  | some u =>
    rw [hwork] at h
    by_cases hu : u.text = token
    · exact hu ▸ List.mem_map_of_mem (List.mem_of_getElem? (hk.work s u hwork))
    · exact absurd ((htold u).trans (if_neg hu)) h

/-- **A step tells of work that was begun**, or that it begins. -/
theorem mem_of_told (hk : k.Serves (tokensOf steps)) {step : ProgressStep} {token : String}
    (h : Effect.told token (k.perform step).2 ≠ []) :
    token ∈ (tokensOf (steps ++ [step])).map ProgressToken.text := by
  cases step with
  | start title message =>
    rw [tokensOf_concat_start, ← hk.next, List.map_append]
    refine List.mem_append_right _ (List.mem_singleton.2 ?_)
    by_cases hu : (ProgressToken.ofTitle title k.next).text = token
    · exact hu.symm
    · exact absurd ((Effect.told_start (.ofTitle title k.next) message).trans (if_neg hu)) h
  | report s message percentage =>
    rw [tokensOf_concat rfl]
    exact mem_of_told_at hk rfl (fun u => Effect.told_report u message percentage) h
  | finish s message =>
    rw [tokensOf_concat rfl]
    exact mem_of_told_at hk rfl (fun u => Effect.told_finish u message) h
  | cancel s =>
    rw [tokensOf_concat rfl]
    exact mem_of_told_at hk rfl (fun u => Effect.told_cancel u) h

/-! ### All along a run -/

/-- **What happens in a run of steps**: only work that was begun is told of, and what is told of each
piece of work is its beginning and then its course. -/
structure Follows (steps : List ProgressStep) (k : ProgressDesk) (effects : List Effect) : Prop where
  serves : k.Serves (tokensOf steps)
  begun : ∀ token, Effect.told token effects ≠ [] → token ∈ (tokensOf steps).map ProgressToken.text
  course : ∀ slot t, (tokensOf steps)[slot]? = some t →
    ∃ front title message during values,
      steps = front ++ .start title message :: during ∧ (tokensOf front).length = slot ∧
      t = .ofTitle title (slot + 1) ∧ Course slot during values (k.work? slot).isSome ∧
      Effect.told t.text effects = .begun t.displayTitle message :: values

/-- Work that was begun is told of as far as it goes on. -/
theorem Follows.course_perform {effects : List Effect} (h : Follows steps k effects)
    (ht : (tokensOf steps)[slot]? = some t) (step : ProgressStep) :
    ∃ front title message during values,
      steps ++ [step] = front ++ .start title message :: during ∧ (tokensOf front).length = slot ∧
      t = .ofTitle title (slot + 1) ∧
      Course slot during values ((k.perform step).1.work? slot).isSome ∧
      Effect.told t.text (effects ++ (k.perform step).2) =
        .begun t.displayTitle message :: values := by
  obtain ⟨front, title, message, during, values, hsteps, hslot, htitle, hcourse, htold⟩ :=
    h.course slot t ht
  obtain ⟨hnew, hwork⟩ := told_perform h.serves ht step
  have hsteps' : steps ++ [step] = front ++ .start title message :: (during ++ [step]) := by
    rw [hsteps, List.append_assoc, List.cons_append]
  refine ⟨front, title, message, during ++ [step], ?_⟩
  rw [Effect.told_append, htold, hnew, hwork, List.cons_append]
  cases hopen : (k.work? slot).isSome with
  | false =>
    -- nothing more is told of work that has ended
    rw [hopen] at hcourse
    refine ⟨values, hsteps', hslot, htitle, ?_, by rw [if_neg Bool.false_ne_true, List.append_nil]⟩
    have hclosed : (if (step.ends? slot).isSome then none else k.work? slot).isSome = false := by
      split
      · rfl
      · exact hopen
    rw [hclosed]
    exact hcourse.concat_closed step
  | true =>
    rw [hopen] at hcourse
    rw [if_pos rfl]
    cases hends : step.ends? slot with
    | some ending => exact ⟨_, hsteps', hslot, htitle, hcourse.concat_ends hends, rfl⟩
    | none =>
      refine ⟨_, hsteps', hslot, htitle, ?_, rfl⟩
      rw [Option.isSome_none, if_neg Bool.false_ne_true, hopen]
      exact hcourse.concat_goesOn hends

/-- Nothing was told of work before it began. -/
theorem Follows.course_start {effects : List Effect} (h : Follows steps k effects) (title : String)
    (message : Option String) (ht : t = .ofTitle title ((tokensOf steps).length + 1)) :
    Course (tokensOf steps).length [] []
        ((k.perform (.start title message)).1.work? (tokensOf steps).length).isSome ∧
      Effect.told t.text (effects ++ (k.perform (.start title message)).2) =
        [.begun t.displayTitle message] := by
  have hbefore : Effect.told t.text effects = [] := by
    have hnodup := nodup_text_tokensOf (steps ++ [.start title message])
    rw [tokensOf_concat_start, List.map_append, List.nodup_append] at hnodup
    by_contra htold
    exact hnodup.2.2 _ (h.begun _ htold) _ (List.mem_singleton_self _) (congrArg _ ht)
  rw [← h.serves.next] at ht
  have heffects : (k.perform (.start title message)).2 = t.start message := by rw [ht]; rfl
  have hwork : (k.perform (.start title message)).1.work? (tokensOf steps).length = some t := by
    show (k.slots ++ [some (.ofTitle title k.next)])[(tokensOf steps).length]?.join = some t
    rw [← h.serves.length, List.getElem?_concat_length, ht]
    rfl
  rw [hwork, Effect.told_append, hbefore, heffects, Effect.told_start, if_pos rfl]
  exact ⟨.goesOn nofun, rfl⟩

/-- A step leaves it so. -/
theorem Follows.perform {effects : List Effect} (h : Follows steps k effects)
    (step : ProgressStep) :
    Follows (steps ++ [step]) (k.perform step).1 (effects ++ (k.perform step).2) where
  serves := h.serves.perform step
  begun token htold := by
    by_cases hnew : Effect.told token (k.perform step).2 = []
    · rw [Effect.told_append, hnew, List.append_nil] at htold
      have hmem := h.begun token htold
      cases step with
      | start title message =>
        rw [tokensOf_concat_start, List.map_append]
        exact List.mem_append_left _ hmem
      | report | finish | cancel => rwa [tokensOf_concat rfl]
    · exact mem_of_told h.serves hnew
  course slot t ht := by
    cases step with
    | start title message =>
      rw [tokensOf_concat_start] at ht
      rcases Nat.lt_or_ge slot (tokensOf steps).length with hlt | hge
      · rw [List.getElem?_append_left hlt] at ht
        exact h.course_perform ht _
      · rw [List.getElem?_append_right hge, List.getElem?_singleton] at ht
        split at ht
        · next hzero =>
          obtain rfl : slot = (tokensOf steps).length := by omega
          exact ⟨steps, title, message, [], [], rfl, rfl, (Option.some.inj ht).symm,
            h.course_start title message (Option.some.inj ht).symm⟩
        · cases ht
    | report | finish | cancel =>
      rw [tokensOf_concat rfl] at ht
      exact h.course_perform ht _

/-- **Any run of steps** on an empty desk. -/
theorem follows_run (steps : List ProgressStep) : Follows steps (run steps).1 (run steps).2 := by
  induction steps using List.reverseRecOn with
  | nil =>
    exact ⟨⟨rfl, rfl, fun _ _ ht => by cases ht⟩, fun _ h => absurd rfl h,
      fun _ _ ht => by cases ht⟩
  | append_singleton steps step ih =>
    rw [run_concat]
    exact ih.perform step

end ProgressDesk

end SailNav
