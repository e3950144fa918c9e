import Mathlib.Data.List.Infix
import SailNav.Proofs.Disk.Downward
import SailNav.Disk.Edit

/-!
# Changing one file of a tree

To write a file makes the directories that it stands in, and to remove it leaves them. On a closed
tree no other file is concerned by either, and the tree stays one (`SailNav.Disk.Alters`). This is
so whether the change succeeds or not, since a change that is refused on the way has at most made
some directories (`SailNav.Disk.IsTree.alters_writeFile`). A file that can be looked up is gone when
it has been removed, and nothing else is (`SailNav.Disk.IsTree.remove_path`).
-/

namespace SailNav

namespace Disk

variable {d d' d'' : Disk} {k l m at_ : Location} {e : Entry} {content : ByteArray} {links : Nat}
  {followLast : Bool}

/-! ### Single entries -/

theorem entry?_of_ne_nil (hm : m ≠ []) : d.entry? m = d.table.get? m := by
  unfold entry?
  split
  · exact absurd rfl hm
  · rfl

/-- What is at the places of a disk when something is put at one of them. -/
theorem entry?_put (hl : l ≠ []) :
    Disk.entry? (d.put l e) m = if l = m then some e else d.entry? m := by
  rcases eq_or_ne m [] with rfl | hm
  · rw [if_neg hl]
    rfl
  · rw [entry?_of_ne_nil hm, entry?_of_ne_nil hm]
    exact Table.get?_put _ _ _ _

/-- What is left when a place and all that is below it are removed. -/
theorem entry?_prune (hl : l ≠ []) :
    Disk.entry? (d.prune l) m = if l <+: m then none else d.entry? m := by
  rcases eq_or_ne m [] with rfl | hm
  · rw [if_neg (mt List.prefix_nil.1 hl)]
    rfl
  rw [entry?_of_ne_nil hm, entry?_of_ne_nil hm, prune, Table.get?, List.find?_filter, Table.get?]
  split
  · next hbelow =>
    rw [Option.map_eq_none_iff, List.find?_eq_none]
    intro x _ hx
    obtain ⟨hnot, hxm⟩ := of_decide_eq_true hx
    rw [of_decide_eq_true hxm, List.isPrefixOf_iff_prefix.2 hbelow] at hnot
    cases hnot
  · next hbelow =>
    congr 2
    funext x
    by_cases hx : x.1 = m
    · have hnot : l.isPrefixOf m = false := by
        rw [← Bool.not_eq_true, List.isPrefixOf_iff_prefix]
        exact hbelow
      simp [hx, hnot]
    · simp [hx]

/-! ### Files that stay -/

/-- **A disk comes of another by what happens at one location**: it is a closed tree, and has the
same files everywhere else. -/
structure Alters (l : Location) (d d' : Disk) : Prop where
  isTree : d'.IsTree
  isClosed : d'.IsClosed
  files : ∀ m, m ≠ l → ∀ content,
    d'.entry? m = some (.file content) ↔ d.entry? m = some (.file content)

theorem Alters.trans (h : Alters l d d') (h' : Alters l d' d'') : Alters l d d'' where
  isTree := h'.isTree
  isClosed := h'.isClosed
  files m hm content := (h'.files m hm content).trans (h.files m hm content)

/-- Nothing stands below what is no directory. -/
theorem IsClosed.eq_of_prefix (hclosed : d.IsClosed) (hl : d.entry? l ≠ some .directory)
    (hm : d.entry? m = some e) (hlm : l <+: m) : m = l := by
  by_contra hne
  exact hl (hclosed m e hm l hlm (Ne.symm hne))

/-- Directories that are there need not be made. -/
theorem makeAll_eq_self {made rest : List Path.Component}
    (h : ∀ cs, cs ≠ [] → cs <+: made.reverse ++ rest →
      d.stat (.ofComponents cs) = .ok .directory) : d.makeAll made rest = (d, none) := by
  induction rest generalizing made with
  | nil => rfl
  | cons c rest ih =>
    have hsplit : (c :: made).reverse ++ rest = made.reverse ++ c :: rest := by simp
    have hc := h (c :: made).reverse (by simp) (hsplit ▸ List.prefix_append _ rest)
    rw [makeAll, makeDirectory, hc]
    exact ih fun cs hcs hprefix => h cs hcs (hsplit ▸ hprefix)

namespace IsTree

section Single

variable (hd : d.IsTree) (hclosed : d.IsClosed)
include hd hclosed

/-- A tree as it is. -/
theorem alters_self : Alters l d d := ⟨hd, hclosed, fun _ _ _ => Iff.rfl⟩

variable (hk : ∀ name ∈ k, Path.IsName (Text.toBytes name)) (hreal : d.IsReal k)
include hk hreal

/-- What is put where no directory is leaves the tree one, unless it is a link. -/
theorem isTree_put (hnil : k ≠ []) (hdirectory : d.entry? k ≠ some .directory)
    (he : ∀ target, e ≠ .link target) : (d.put k e).IsTree ∧ (d.put k e).IsClosed := by
  refine ⟨⟨fun m target hm => ?_, fun m e' hm => ?_⟩, fun m e' hm j hj hne => ?_⟩
  · rw [entry?_put hnil] at hm
    split at hm
    · exact he target (Option.some.inj hm)
    · exact hd.no_link m target hm
  · rw [entry?_put hnil] at hm
    split at hm
    · next heq => exact heq ▸ hk
    · exact hd.isName m e' hm
  · have hbefore : d.entry? j = some .directory := by
      rw [entry?_put hnil] at hm
      split at hm
      · next heq => exact hreal j (heq ▸ hj) (heq ▸ hne)
      · exact hclosed m e' hm j hj hne
    rw [entry?_put hnil, if_neg (fun heq : k = j => hdirectory (heq ▸ hbefore)), hbefore]

/-- To make a directory where nothing is concerns no file. -/
theorem alters_put_directory (hnone : d.entry? k = none) : Alters l d (d.put k .directory) := by
  have hnil : k ≠ [] := by
    rintro rfl
    cases hnone
  obtain ⟨htree, hclosed'⟩ := hd.isTree_put hclosed hk hreal (e := .directory) hnil
    (by rw [hnone]; simp) (by simp)
  refine ⟨htree, hclosed', fun m _ content => ?_⟩
  rw [entry?_put hnil]
  split
  · next heq =>
    rw [← heq, hnone]
    simp
  · exact Iff.rfl

/-- To put a file where no directory is concerns no other file. -/
theorem alters_put_file (hnil : k ≠ []) (hdirectory : d.entry? k ≠ some .directory)
    (content : ByteArray) : Alters k d (d.put k (.file content)) := by
  obtain ⟨htree, hclosed'⟩ := hd.isTree_put hclosed hk hreal (e := .file content) hnil hdirectory
    (by simp)
  refine ⟨htree, hclosed', fun m hm content => ?_⟩
  rw [entry?_put hnil, if_neg (Ne.symm hm)]

omit hk hreal in
/-- To remove a file concerns no other file. -/
theorem alters_prune (hfile : d.entry? l = some (.file content)) : Alters l d (d.prune l) := by
  have hnil : l ≠ [] := by
    rintro rfl
    cases hfile
  have hdirectory : d.entry? l ≠ some .directory := by
    rw [hfile]
    simp
  have hentry : ∀ {m e}, Disk.entry? (d.prune l) m = some e → d.entry? m = some e ∧ ¬ l <+: m := by
    intro m e hm
    rw [entry?_prune hnil] at hm
    split at hm
    · cases hm
    · next hbelow => exact ⟨hm, hbelow⟩
  refine ⟨⟨fun m target hm => hd.no_link m target (hentry hm).1,
    fun m e hm => hd.isName m e (hentry hm).1⟩, fun m e hm j hj hne => ?_, fun m hm content' => ?_⟩
  · obtain ⟨hbefore, hbelow⟩ := hentry hm
    rw [entry?_prune hnil, if_neg fun hlj => hbelow (hlj.trans hj)]
    exact hclosed m e hbefore j hj hne
  · refine ⟨fun hm => (hentry hm).1, fun hfile' => ?_⟩
    rw [entry?_prune hnil, if_neg fun hlm => hm (hclosed.eq_of_prefix hdirectory hfile' hlm)]
    exact hfile'

end Single

/-! ### Where the path of a location arrives -/

/-- On a tree it makes no difference whether a last link is followed. -/
theorem follow_eq (hd : d.IsTree) (followLast : Bool) (at_ : Location)
    (ways : List (Except IoError Way)) :
    d.follow followLast links at_ ways = d.follow true links at_ ways := by
  induction ways generalizing at_ with
  | nil => rw [follow, follow]
  | cons way rest ih =>
    cases way with
    | error e => rw [follow, follow]
    | ok step =>
      cases step with
      | here => rw [follow, follow, ih]
      | up => rw [follow, follow, ih]
      | name text =>
        rw [follow, follow]
        cases hentry : d.entry? (at_ ++ [text]) with
        | none => rfl
        | some e =>
          cases e with
          | directory => exact ih _
          | file content => rfl
          | link target => exact absurd hentry (hd.no_link _ _)

/-- Names of which the last is missing lead to where it could be. -/
theorem missing_of_follow (hd : d.IsTree) {names : Location}
    (hnames : ∀ name ∈ names, Path.IsName (Text.toBytes name)) (hreal : d.IsReal at_)
    (hat : d.entry? at_ = some .directory)
    (h : d.follow true links at_ (names.map fun name => wayOf (Text.toBytes name)) =
      .ok (.missing m)) : m = at_ ++ names ∧ d.IsReal m ∧ d.entry? m = none := by
  induction names generalizing at_ with
  | nil =>
    rw [List.map_nil, follow] at h
    cases h
  | cons name rest ih =>
    have hrest := fun n hn => hnames n (List.mem_cons_of_mem name hn)
    rw [List.map_cons, wayOf_toBytes (hnames name List.mem_cons_self)] at h
    by_cases hlong : nameLimit < (Text.toBytes name).length
    · rw [if_pos hlong, follow] at h
      cases h
    rw [if_neg hlong] at h
    cases hentry : d.entry? (at_ ++ [name]) with
    | none =>
      rw [follow_name_of_none hentry] at h
      split at h
      · next hempty =>
        rw [List.isEmpty_iff, List.map_eq_nil_iff] at hempty
        obtain rfl := Arrival.missing.inj (Except.ok.inj h)
        exact ⟨by rw [hempty], hreal.concat hat name, hentry⟩
      · cases h
    | some e =>
      cases e with
      | directory =>
        rw [follow_name_of_directory hentry] at h
        obtain ⟨rfl, hm⟩ := ih hrest (hreal.concat hat name) hentry h
        exact ⟨by simp, hm⟩
      | file content =>
        rw [follow_name_of_file hentry] at h
        split at h <;> cases h
      | link target => exact absurd hentry (hd.no_link _ _)

section Arrival

variable (hd : d.IsTree) (hl : ∀ name ∈ l, Path.IsName (Text.toBytes name))
include hd hl

/-- **The path of a location arrives at the location** if something is there. -/
theorem there_of_arrive (h : d.arrive l.path followLast = .ok (.there m)) :
    m = l ∧ d.IsReal l ∧ d.Bears l := by
  obtain ⟨hnul, hempty, hshort, hfollow⟩ := arrive_eq_ok_iff.1 h
  rw [hd.follow_eq] at hfollow
  have hresolve := resolve_eq_ok_iff.2 ⟨hnul, hempty, hshort, hfollow⟩
  obtain rfl := hd.eq_of_resolve (Location.spells_path hl) hresolve
  exact ⟨rfl, isReal_of_resolve hresolve⟩

/-- **The path of a location could be that of something new** if nothing is there. -/
theorem missing_of_arrive (h : d.arrive l.path followLast = .ok (.missing m)) :
    m = l ∧ d.IsReal l ∧ d.entry? l = none := by
  obtain ⟨-, -, -, hfollow⟩ := arrive_eq_ok_iff.1 h
  rw [hd.follow_eq, waysOf_of_isAbsolute (Location.isAbsolute_path l),
    Location.pieces_path hl] at hfollow
  split at hfollow
  · have hways : ([[]] : List (List UInt8)).map wayOf = [.ok .here] := rfl
    rw [hways, follow, follow] at hfollow
    cases hfollow
  · rw [List.map_map] at hfollow
    obtain ⟨rfl, hm⟩ := hd.missing_of_follow hl isReal_nil rfl hfollow
    exact ⟨rfl, hm⟩

end Arrival

/-! ### Making directories -/

/-- To make a directory at the path of a location concerns no file. -/
theorem alters_makeDirectory (hd : d.IsTree) (hclosed : d.IsClosed)
    (hk : ∀ name ∈ k, Path.IsName (Text.toBytes name)) {atEnd : Bool}
    (h : d.makeDirectory k.path atEnd = .ok d') : Alters l d d' := by
  unfold makeDirectory at h
  split at h
  · rw [← Except.ok.inj h]
    exact hd.alters_self hclosed
  · cases h
  · split at h
    · next m harrive =>
      obtain ⟨rfl, hreal, hnone⟩ := hd.missing_of_arrive hk harrive
      rw [← Except.ok.inj h]
      exact hd.alters_put_directory hclosed hk hreal hnone
    · cases h
    · cases h

/-- Some first components of the path of a location are written as the path of a location above. -/
theorem ofComponents_of_prefix (hk : ∀ name ∈ k, Path.IsName (Text.toBytes name))
    {cs : List Path.Component} (hcs : cs ≠ [])
    (h : cs <+: .root :: k.map fun name => .name (Text.toBytes name)) :
    ∃ j : Location, j <+: k ∧ Path.ofComponents cs = j.path := by
  obtain ⟨names, rfl⟩ : ∃ names, cs = .root :: names := by
    obtain ⟨first, names, rfl⟩ := List.exists_cons_of_ne_nil hcs
    exact ⟨names, by rw [(List.cons_prefix_cons.1 h).1]⟩
  rw [List.prefix_cons_inj] at h
  obtain ⟨j, hj, hmap⟩ := List.prefix_map_iff.1 h
  refine ⟨j, hj, ?_⟩
  rw [hmap, ← (Location.spells_path fun name hname => hk name (hj.subset hname)).components]
  exact (Location.spells_path fun name hname => hk name (hj.subset hname)).ofComponents_eq

/-- To make directories one inside another concerns no file. -/
theorem alters_makeAll (hd : d.IsTree) (hclosed : d.IsClosed)
    (hk : ∀ name ∈ k, Path.IsName (Text.toBytes name)) {made rest : List Path.Component}
    (h : made.reverse ++ rest = .root :: k.map fun name => .name (Text.toBytes name)) :
    Alters l d (d.makeAll made rest).1 := by
  induction rest generalizing d made with
  | nil => exact hd.alters_self hclosed
  | cons c rest ih =>
    have hsplit : (c :: made).reverse ++ rest = made.reverse ++ c :: rest := by simp
    obtain ⟨j, hj, hpath⟩ := ofComponents_of_prefix hk (by simp)
      (h ▸ hsplit ▸ List.prefix_append (c :: made).reverse rest)
    rw [makeAll, hpath]
    split
    · next d' hmade =>
      have halters := hd.alters_makeDirectory hclosed (l := l)
        (fun name hname => hk name (hj.subset hname)) hmade
      refine halters.trans (ih halters.isTree halters.isClosed ?_)
      rw [List.reverse_cons, List.append_assoc, List.singleton_append, h]
    · exact hd.alters_self hclosed

/-- **A change that concerns one location** does so with the directories that are made for it. -/
theorem alters_within (hd : d.IsTree) (hclosed : d.IsClosed)
    (hl : ∀ name ∈ l, Path.IsName (Text.toBytes name)) {change : Disk → Disk × Option IoError}
    (hchange : ∀ d : Disk, d.IsTree → d.IsClosed → Alters l d (change d).1) :
    Alters l d (d.within l.path change).1 := by
  have hspells := Location.spells_path hl
  unfold within
  rcases List.eq_nil_or_concat l with rfl | ⟨init, last, rfl⟩
  · rw [hspells.parent?_nil]
    exact hchange d hd hclosed
  · rw [List.concat_eq_append] at *
    have hinit : ∀ name ∈ init, Path.IsName (Text.toBytes name) :=
      fun name hname => hl name (List.mem_append_left _ hname)
    have hmade : Alters (init ++ [last]) d (d.makeWay (Location.path init)).1 :=
      hd.alters_makeAll hclosed hinit (Location.spells_path hinit).components
    rw [hspells.parent?_concat]
    dsimp only
    split
    · next d' hway =>
      rw [hway] at hmade
      exact hmade.trans (hchange d' hmade.isTree hmade.isClosed)
    · exact hmade

/-! ### Writing and removing -/

/-- **To write a file concerns no other file**, whether it succeeds or not. -/
theorem alters_writeFile (hd : d.IsTree) (hclosed : d.IsClosed)
    (hl : ∀ name ∈ l, Path.IsName (Text.toBytes name)) (content : ByteArray) :
    Alters l d (d.writeFile l.path content).1 := by
  refine hd.alters_within hclosed hl fun d hd hclosed => ?_
  split
  · exact hd.alters_self hclosed
  · split
    · next m harrive =>
      obtain ⟨rfl, hreal, hnone⟩ := hd.missing_of_arrive hl harrive
      have hnil : m ≠ [] := by
        rintro rfl
        cases hnone
      exact hd.alters_put_file hclosed hl hreal hnil (by rw [hnone]; simp) content
    · next m harrive =>
      obtain ⟨rfl, hreal, -⟩ := hd.there_of_arrive hl harrive
      split
      · exact hd.alters_self hclosed
      · next hdirectory =>
        have hnil : m ≠ [] := by
          rintro rfl
          exact hdirectory rfl
        exact hd.alters_put_file hclosed hl hreal hnil hdirectory content
    · exact hd.alters_self hclosed

/-- **A file that can be looked up is removed**, and nothing else is. -/
theorem remove_path (hd : d.IsTree) (hl : l.IsProper)
    (h : d.isFile l.path = true) :
    (d.remove l.path).1 = d.prune l ∧ ∃ content, d.entry? l = some (.file content) := by
  obtain ⟨m, hresolve⟩ := exists_resolve_of_isFile h
  obtain rfl := hd.eq_of_resolve (Location.spells_path hl.isName) hresolve
  obtain ⟨hreal, hbears⟩ := isReal_of_resolve hresolve
  obtain ⟨hshort, -⟩ := (resolve_path_eq_ok_iff hl hreal hbears).1 hresolve
  obtain ⟨content, hfile⟩ : ∃ content, d.entry? m = some (.file content) := by
    obtain ⟨e, hentry, -⟩ := hbears
    rw [isFile, stat_eq_ok_iff.2 ⟨m, hresolve, hentry⟩] at h
    cases e with
    | file content => exact ⟨content, hentry⟩
    | directory => cases h
    | link target => cases h
  refine ⟨?_, content, hfile⟩
  have harrive : d.arrive m.path false = .ok (.there m) := by
    obtain ⟨hnul, hempty, hlength, hfollow⟩ := resolve_eq_ok_iff.1 hresolve
    exact arrive_eq_ok_iff.2 ⟨hnul, hempty, hlength, (hd.follow_eq false [] _).trans hfollow⟩
  have hspells := Location.spells_path hl.isName
  unfold remove within
  rcases List.eq_nil_or_concat m with rfl | ⟨init, last, rfl⟩
  · cases hfile
  · rw [List.concat_eq_append] at *
    have hinit := hl.of_prefix (List.prefix_append init [last])
    have hway : d.makeWay (Location.path init) = (d, none) := by
      refine makeAll_eq_self fun cs hcs hprefix => ?_
      rw [List.reverse_nil, List.nil_append, (Location.spells_path hinit.isName).components]
        at hprefix
      obtain ⟨j, hj, hpath⟩ := ofComponents_of_prefix hinit.isName hcs hprefix
      rw [hpath]
      have hbelow := hj.trans (List.prefix_append init [last])
      have hdirectory : d.entry? j = some .directory :=
        hreal j hbelow fun heq => by
          have hlength := hj.length_le
          rw [heq, List.length_append, List.length_singleton] at hlength
          omega
      refine stat_eq_ok_iff.2 ⟨j, ?_, hdirectory⟩
      exact (resolve_path_eq_ok_iff (hl.of_prefix hbelow) (hreal.of_prefix hbelow)
        (bears_of_directory hdirectory)).2 ⟨Location.IsShort.of_prefix hshort hbelow, rfl⟩
    rw [hspells.parent?_concat]
    dsimp only
    rw [hway]
    dsimp only
    rw [harrive]

end IsTree

/-! ### A disk with one file -/

/-- **A change of one file**: it is written, or it is removed. -/
inductive FileEdit where
  | write (location : Location) (content : ByteArray)
  | remove (location : Location)

namespace FileEdit

/-- Where the file is. -/
def location : FileEdit → Location
  | write l _ | remove l => l

/-- Whether the file is gone afterwards. -/
def deletes : FileEdit → Bool
  | write _ _ => false
  | remove _ => true

/-- The disk after the change. What is no file is not removed. -/
def onDisk (d : Disk) : FileEdit → Disk
  | write l content => (d.writeFile l.path content).1
  | remove l => if d.isFile l.path then (d.remove l.path).1 else d

variable {c : FileEdit}

/-- **A change of one file concerns no other file** of a closed tree. -/
theorem alters (hd : d.IsTree) (hclosed : d.IsClosed) (hc : c.location.IsProper) :
    Alters c.location d (c.onDisk d) := by
  cases c with
  | write l content => exact hd.alters_writeFile hclosed hc.isName content
  | remove l =>
    rw [onDisk]
    split
    · next hfile =>
      obtain ⟨hprune, content, hentry⟩ := hd.remove_path (l := l) hc hfile
      rw [hprune]
      exact hd.alters_prune hclosed hentry
    · exact hd.alters_self hclosed

/-- **What is removed can no longer be read.** -/
theorem load_of_deletes (hd : d.IsTree) (hclosed : d.IsClosed) (hc : c.location.IsProper)
    (hdeletes : c.deletes = true) {limit : Nat} {text : String} :
    (c.onDisk d).load c.location.path limit ≠ .ok text := by
  intro hload
  have hfile := isFile_of_load hload
  cases c with
  | write l content => cases hdeletes
  | remove l =>
    have hafter := (alters (c := .remove l) hd hclosed hc).isTree
    rw [onDisk] at hfile hafter
    split at hfile
    · next hbefore =>
      rw [if_pos hbefore] at hafter
      obtain ⟨hprune, content, hentry⟩ := hd.remove_path (l := l) hc hbefore
      have hnil : l ≠ [] := by
        rintro rfl
        cases hentry
      rw [hprune] at hfile hafter
      obtain ⟨m, hresolve⟩ := exists_resolve_of_isFile hfile
      have hm : m = l := hafter.eq_of_resolve (Location.spells_path hc.isName) hresolve
      obtain ⟨-, e, hentry', -⟩ := isReal_of_resolve hresolve
      rw [hm, entry?_prune hnil, if_pos List.prefix_rfl] at hentry'
      cases hentry'
    · next hbefore => exact hbefore hfile

end FileEdit

end Disk

end SailNav
