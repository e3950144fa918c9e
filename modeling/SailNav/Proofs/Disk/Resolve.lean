import SailNav.Proofs.FileId
import SailNav.Proofs.Url.FilePath

/-!
# Where the path of some components leads

The path of the components of another is that path without the pieces that mean nothing: empty ones
and dots. To stay where one is needs a directory, so with fewer of these steps a way can only lead
to more (`SailNav.Disk.follow_of_thinned`): where a path leads to, there the path of its components
leads, too (`SailNav.Disk.resolve_ofComponents`).

So the URL that is made of the path of a source file names that file
(`SailNav.FileId.ofUrl_of_ofPath?`).
-/

namespace SailNav

namespace Disk

variable {d : Disk} {followLast : Bool} {links : Nat} {at_ l : Location} {text : String}
  {ways thin rest : List (Except IoError Way)}

/-! ### Steps to a name -/

/-- A name that is not there ends a way. -/
theorem follow_name_of_none (h : d.entry? (at_ ++ [text]) = none) :
    d.follow followLast links at_ (.ok (.name text) :: rest) =
      if rest.isEmpty then .ok (.missing (at_ ++ [text])) else .error .notFound := by
  rw [follow, h]

/-- A directory is entered. -/
theorem follow_name_of_directory (h : d.entry? (at_ ++ [text]) = some .directory) :
    d.follow followLast links at_ (.ok (.name text) :: rest) =
      d.follow followLast links (at_ ++ [text]) rest := by
  rw [follow, h]

/-- A file ends a way. -/
theorem follow_name_of_file {content : ByteArray}
    (h : d.entry? (at_ ++ [text]) = some (.file content)) :
    d.follow followLast links at_ (.ok (.name text) :: rest) =
      if rest.isEmpty then .ok (.there (at_ ++ [text])) else .error .notDirectory := by
  rw [follow, h]

/-- A link is followed, as often as links may be followed. -/
theorem follow_name_of_link {target : Path}
    (h : d.entry? (at_ ++ [text]) = some (.link target)) :
    d.follow true links at_ (.ok (.name text) :: rest) =
      match links with
      | 0 => .error .tooManyLinks
      | links + 1 =>
        d.follow true links (if target.isAbsolute then [] else at_) (waysOf target ++ rest) := by
  rw [follow, h]
  cases links <;> simp

/-- A link that is not the end of a way is followed even if the last link is not. -/
theorem follow_name_of_link_of_ne_nil {target : Path}
    (h : d.entry? (at_ ++ [text]) = some (.link target)) (hrest : rest ≠ []) :
    d.follow followLast links at_ (.ok (.name text) :: rest) =
      match links with
      | 0 => .error .tooManyLinks
      | links + 1 =>
        d.follow followLast links (if target.isAbsolute then [] else at_)
          (waysOf target ++ rest) := by
  rw [follow, h]
  cases links <;> simp [hrest]

/-- The last link ends a way if it is not followed. -/
theorem follow_name_of_last_link {target : Path}
    (h : d.entry? (at_ ++ [text]) = some (.link target)) :
    d.follow false links at_ [.ok (.name text)] = .ok (.there (at_ ++ [text])) := by
  rw [follow, h]
  simp

/-! ### Ways that lead somewhere -/

/-- **Where a way leads to**, links followed: each step is made and leads on, and a file ends the
way. -/
inductive Reaches (d : Disk) : Nat → Location → List (Except IoError Way) → Location → Prop
  | arrived {links : Nat} {at_ : Location} : Reaches d links at_ [] at_
  | here {links : Nat} {at_ l : Location} {rest : List (Except IoError Way)}
      (on : Reaches d links at_ rest l) : Reaches d links at_ (.ok .here :: rest) l
  | up {links : Nat} {at_ l : Location} {rest : List (Except IoError Way)}
      (on : Reaches d links at_.dropLast rest l) : Reaches d links at_ (.ok .up :: rest) l
  | enter {links : Nat} {at_ l : Location} {text : String} {rest : List (Except IoError Way)}
      (hentry : d.entry? (at_ ++ [text]) = some .directory)
      (on : Reaches d links (at_ ++ [text]) rest l) : Reaches d links at_ (.ok (.name text) :: rest) l
  | file {links : Nat} {at_ : Location} {text : String} {content : ByteArray}
      (hentry : d.entry? (at_ ++ [text]) = some (.file content)) :
      Reaches d links at_ [.ok (.name text)] (at_ ++ [text])
  | link {links : Nat} {at_ l : Location} {text : String} {rest : List (Except IoError Way)}
      {target : Path} (hentry : d.entry? (at_ ++ [text]) = some (.link target))
      (on : Reaches d links (if target.isAbsolute then [] else at_) (waysOf target ++ rest) l) :
      Reaches d (links + 1) at_ (.ok (.name text) :: rest) l

/-- **To follow a way is to reach where it leads.** -/
theorem follow_iff : d.follow true links at_ ways = .ok (.there l) ↔ d.Reaches links at_ ways l := by
  constructor
  · intro h
    fun_induction follow d true links at_ ways with
    | case1 links at_ =>
      obtain rfl := Arrival.there.inj (Except.ok.inj h)
      exact .arrived
    | case3 links at_ rest ih => exact .here (ih h)
    | case4 links at_ rest ih => exact .up (ih h)
    | case7 links at_ text rest next hentry ih => exact .enter hentry (ih h)
    | case8 links at_ text rest next content hentry hlast =>
      obtain rfl := List.isEmpty_iff.1 hlast
      obtain rfl := Arrival.there.inj (Except.ok.inj h)
      exact .file hentry
    | case12 at_ text rest next target hentry hlast links ih =>
      rw [dite_eq_ite] at ih
      exact .link hentry (ih h)
    | case10 links at_ text rest next target hentry hlast => exact absurd hlast.2 (by decide)
    | case2 | case5 | case6 | case9 | case11 => cases h
  · intro h
    induction h with
    | arrived => rw [follow]
    | here _ ih => rw [follow, ih]
    | up _ ih => rw [follow, ih]
    | enter hentry _ ih => rw [follow_name_of_directory hentry, ih]
    | file hentry =>
      rw [follow_name_of_file hentry]
      rfl
    | link hentry _ ih =>
      rw [follow_name_of_link hentry]
      exact ih

/-! ### Steps that stay -/

/-- Steps, with some left out that stay where they are. -/
inductive Thinned : List (Except IoError Way) → List (Except IoError Way) → Prop
  | nil : Thinned [] []
  | keep {ways thin : List (Except IoError Way)} (way : Except IoError Way)
      (rest : Thinned ways thin) : Thinned (way :: ways) (way :: thin)
  | skip {ways thin : List (Except IoError Way)} (rest : Thinned ways thin) :
      Thinned (.ok .here :: ways) thin

/-- All steps before some that are thinned may be kept. -/
theorem Thinned.append_left (front : List (Except IoError Way)) (h : Thinned ways thin) :
    Thinned (front ++ ways) (front ++ thin) := by
  induction front with
  | nil => exact h
  | cons way rest ih => exact .keep way ih

/-- **A way leads where it leads without some steps that stay.** -/
theorem follow_of_thinned (hthin : Thinned ways thin)
    (h : d.follow true links at_ ways = .ok (.there l)) :
    d.follow true links at_ thin = .ok (.there l) := by
  rw [follow_iff] at h ⊢
  induction h generalizing thin with
  | arrived =>
    cases hthin
    exact .arrived
  | here _ ih =>
    cases hthin with
    | keep _ hrest => exact .here (ih hrest)
    | skip hrest => exact ih hrest
  | up _ ih =>
    cases hthin with
    | keep _ hrest => exact .up (ih hrest)
  | enter hentry _ ih =>
    cases hthin with
    | keep _ hrest => exact .enter hentry (ih hrest)
  | file hentry =>
    -- nothing can be left out behind the last name
    cases hthin with
    | keep _ hrest =>
      cases hrest
      exact .file hentry
  | link hentry _ ih =>
    cases hthin with
    | keep _ hrest => exact .link hentry (ih (hrest.append_left _))

/-! ### Paths -/

/-- A piece that is no component is a step that stays. -/
theorem wayOf_of_component?_eq_none {piece : List UInt8} (h : Path.component? piece = none) :
    wayOf piece = .ok .here := by
  unfold Path.component? at h
  unfold wayOf
  split at h
  · next hmeaningless => rw [if_pos hmeaningless]
  · split at h <;> cases h

/-- The steps of a path without the pieces that mean nothing. -/
theorem thinned_map_wayOf (pieces : List (List UInt8)) :
    Thinned (pieces.map wayOf)
      ((pieces.filter fun piece => (Path.component? piece).isSome).map wayOf) := by
  induction pieces with
  | nil => exact .nil
  | cons piece rest ih =>
    rw [List.map_cons, List.filter_cons]
    split
    · exact .keep _ ih
    · next hnone =>
      rw [wayOf_of_component?_eq_none (by simpa using hnone)]
      exact .skip ih

/-- The steps of an absolute path. -/
theorem waysOf_of_isAbsolute {p : Path} (h : p.isAbsolute = true) :
    waysOf p = ((Path.pieces p.bytes).drop 1).map wayOf := by
  rw [waysOf, if_pos h]

/-- A path arrives where its steps lead to. -/
theorem arrive_eq_ok_iff {p : Path} {followLast : Bool} {a : Arrival} :
    d.arrive p followLast = .ok a ↔ 0 ∉ p.bytes ∧ p.bytes ≠ [] ∧ p.bytes.length ≤ pathLimit ∧
      d.follow followLast linkLimit [] (waysOf p) = .ok a := by
  rw [arrive]
  by_cases hnul : 0 ∈ p.bytes
  · simp [hnul]
  by_cases hempty : p.bytes = []
  · simp [hempty]
  by_cases hlong : p.bytes.length > pathLimit
  · simp [hnul, hempty, hlong, Nat.not_le.2 hlong]
  · simp [hnul, hempty, hlong, Nat.le_of_not_gt hlong]

/-- A path leads somewhere if it can be followed there. -/
theorem resolve_eq_ok_iff {p : Path} :
    d.resolve p = .ok l ↔ 0 ∉ p.bytes ∧ p.bytes ≠ [] ∧ p.bytes.length ≤ pathLimit ∧
      d.follow true linkLimit [] (waysOf p) = .ok (.there l) := by
  rw [← arrive_eq_ok_iff, resolve]
  rcases d.arrive p true with e | (m | m) <;> simp

/-- **Where an absolute path leads to, there the path of its components leads.** -/
theorem resolve_ofComponents {p : Path} (hp : p.isAbsolute = true) (h : d.resolve p = .ok l) :
    d.resolve (.ofComponents p.components) = .ok l := by
  obtain ⟨hnul, -, hlength, hfollow⟩ := resolve_eq_ok_iff.1 h
  rw [waysOf_of_isAbsolute hp] at hfollow
  have hthin := follow_of_thinned (thinned_map_wayOf _) hfollow
  obtain ⟨-, hnames⟩ := Path.ofNames_pieces hp
  rw [Path.ofComponents_components hp]
  cases hmeaning : ((Path.pieces p.bytes).drop 1).filter
      fun piece => (Path.component? piece).isSome with
  | nil =>
    -- a path without a name leads to the root
    rw [hmeaning] at hthin
    exact resolve_eq_ok_iff.2 ⟨by decide, by decide, by decide, by
      have hways : waysOf ⟨[Path.slash]⟩ = [.ok .here] := rfl
      rw [hways, follow]
      exact hthin⟩
  | cons name names =>
    rw [hmeaning] at hthin
    have hslash : ∀ n ∈ name :: names, Path.slash ∉ n := by
      intro n hn
      rw [← hmeaning] at hn
      exact Path.slash_notMem_of_mem_pieces (List.mem_of_mem_drop (List.mem_filter.1 hn).1)
    have hsublist : (Path.ofNames (name :: names)).bytes.Sublist p.bytes := by
      have hfewer := Path.sublist_ofNames (List.filter_sublist
        (p := fun piece => (Path.component? piece).isSome) (l := (Path.pieces p.bytes).drop 1))
      rwa [hmeaning, hnames] at hfewer
    have hways : waysOf (Path.ofNames (name :: names)) = (name :: names).map wayOf := by
      rw [waysOf_of_isAbsolute rfl, Path.pieces_ofNames hslash]
      rfl
    refine resolve_eq_ok_iff.2 ⟨fun hmem => hnul (hsublist.subset hmem), List.cons_ne_nil _ _,
      Nat.le_trans hsublist.length_le hlength, ?_⟩
    rw [hways]
    exact hthin

/-- The path of the components of a path to something is the path as the disk knows it. -/
theorem normalize_ofComponents {p : Path} (hp : p.isAbsolute = true) (h : d.resolve p = .ok l) :
    d.normalize (.ofComponents p.components) = d.normalize p := by
  rw [normalize, resolve_ofComponents hp h, normalize, h]

end Disk

/-- A path to a file leads to something. -/
theorem Disk.exists_resolve_of_isFile {d : Disk} {p : Path} (h : d.isFile p = true) :
    ∃ l, d.resolve p = .ok l := by
  unfold isFile stat at h
  cases hresolve : d.resolve p with
  | error e =>
    rw [hresolve] at h
    cases h
  | ok l => exact ⟨l, rfl⟩

/-- **The URL of the path of a source file is that of the file.** -/
theorem FileId.ofUrl_of_ofPath? {d : Disk} {p : Path} {u : Url} (hsail : p.isSailFile = true)
    (hfile : d.isFile p = true) (h : Url.ofPath? p = some u) : ofUrl d u = ofPath d p := by
  have habsolute : p.isAbsolute = true := by
    unfold Url.ofPath? at h
    split at h
    · assumption
    · cases h
  obtain ⟨l, hl⟩ := Disk.exists_resolve_of_isFile hfile
  rw [ofUrl, Url.toPath?_of_ofPath? h (Url.endsInDrive_of_isSailFile habsolute hsail)]
  exact congrArg (fun q : Path => FileId.mk q.display) (Disk.normalize_ofComponents habsolute hl)

end SailNav
