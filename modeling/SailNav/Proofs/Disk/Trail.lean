import SailNav.Proofs.Disk.Walk

/-!
# Trails

A walk goes into a directory once on its way and not again by a link, so that it ends. It loses
nothing by that. A *trail* (`SailNav.Disk.Trail`) is a finite way from a root by names and links
that may go in circles as it likes, and a walk comes across the files at the ends of trails and no
others: every file that it comes across ends a trail (`SailNav.Disk.exists_trail_of_mem_walk`), and
every file that ends a trail is come across, though perhaps on another way
(`SailNav.Disk.Trail.exists_mem_walk`).

The reason is that a circle can be left out. If a trail comes back to a directory, what it did since
it was there first is not needed, and what is left has been a trail before
(`SailNav.Disk.Trail.exists_simple`). A trail that is in no directory twice is one that the walk
follows itself, since the walk is then inside of nothing that it is told to enter
(`SailNav.Disk.Trail.filesBelow_subset`).
-/

namespace SailNav

/-! ### The name at the end of a path -/

/-- The last piece that means something is the last component. -/
theorem Path.getLast?_components {p : Path} {c : Component}
    (h : ((pieces p.bytes).filterMap component?).getLast? = some c) :
    p.components.getLast? = some c := by
  obtain ⟨init, hinit⟩ := List.getLast?_eq_some_iff.1 h
  rw [components, hinit]
  split
  · exact List.getLast?_eq_some_iff.2 ⟨.root :: init, rfl⟩
  · split
    · exact List.getLast?_eq_some_iff.2 ⟨.here :: init, rfl⟩
    · exact List.getLast?_eq_some_iff.2 ⟨init, rfl⟩

/-- **A path to a name in a directory ends in the name**, whatever the path of the directory is. -/
theorem Path.fileName?_join_name (p : Path) {name : String} (h : IsName (Text.toBytes name)) :
    (p.join (.ofString name)).fileName? = some (Text.toBytes name) := by
  -- whatever stands before the name is cut off by a slash, or is nothing
  obtain ⟨front, hfront⟩ : ∃ front, (pieces (p.join (.ofString name)).bytes).filterMap component? =
      front ++ [.name (Text.toBytes name)] := by
    have hname : (ofString name).isAbsolute = false := h.isAbsolute_eq_false
    rw [join, hname, if_neg Bool.false_ne_true]
    split
    · next hend =>
      rcases hend with hnil | hslash
      · exact ⟨[], by rw [hnil]; exact h.component?_eq⟩
      · obtain ⟨before, hbefore⟩ := List.getLast?_eq_some_iff.1 hslash
        refine ⟨(pieces before).filterMap component?, ?_⟩
        rw [hbefore, List.append_assoc, List.singleton_append, pieces_append_slash,
          List.filterMap_append]
        exact congrArg _ h.component?_eq
    · refine ⟨(pieces p.bytes).filterMap component?, ?_⟩
      rw [pieces_append_slash, List.filterMap_append]
      exact congrArg _ h.component?_eq
  have hlast := getLast?_components (List.getLast?_eq_some_iff.2 ⟨front, hfront⟩)
  rw [fileName?, hlast]

namespace Disk

variable {d d' : Disk} {l m : Location} {name : String}

/-! ### What a name leads to -/

/-- What a name in the directory at a location leads to: what stands there, unless that is a link,
and then what the link leads to. A link that leads nowhere is passed over. -/
inductive Leads (d : Disk) (l : Location) (name : String) : Location → Prop
  | own {e : Entry} (h : d.entry? (l ++ [name]) = some e) (hlink : ∀ target, e ≠ .link target) :
      Leads d l name (l ++ [name])
  | link {target : Path} {m : Location} (h : d.entry? (l ++ [name]) = some (.link target))
      (hresolve : d.resolve (Location.path (l ++ [name])) = .ok m) : Leads d l name m

/-- There is something where a name leads from. -/
theorem Leads.exists_entry? (h : d.Leads l name m) : ∃ e, d.entry? (l ++ [name]) = some e := by
  cases h with
  | own h _ => exact ⟨_, h⟩
  | link h _ => exact ⟨_, h⟩

/-- **A trail** from a root: a finite way that starts at what the root leads to and goes on, from a
directory to what a name in it leads to. Nothing on it is excluded, and no directory that it comes
to by a name has a name that is not wanted. Of a trail are told the directories that it came
through, the last one first, the path that it made, and the location that it has come to. -/
inductive Trail (d : Disk) (excludes : Location → Bool) (unwanted : String → Bool) (root : Path) :
    List Location → Path → Location → Prop
  | start {l : Location} (hroot : d.resolve root = .ok l) (hexcluded : excludes l = false) :
      Trail d excludes unwanted root [] root l
  | enter {through : List Location} {p : Path} {l m : Location} {name : String}
      (before : Trail d excludes unwanted root through p l)
      (hdirectory : d.entry? l = some .directory) (hleads : d.Leads l name m)
      (hexcluded : excludes m = false)
      (hwanted : d.entry? m = some .directory → unwanted name = false) :
      Trail d excludes unwanted root (l :: through) (p.join (.ofString name)) m

variable {excludes : Location → Bool} {unwanted : String → Bool} {root p : Path}
  {through above : List Location} {v x : Visit}

/-! ### What a walk comes across ends a trail -/

namespace Trail

/-- **What a trail from a directory comes to**, a trail to the directory can be led on to: it ends
there already, or by the same name. -/
theorem exists_append (hd : d.IsProper) (h : d.Trail excludes unwanted root through p m)
    {inner q : Path} {further : List Location} (hinner : d.resolve inner = .ok m)
    (hfurther : d.Trail excludes unwanted inner further q l) :
    l = m ∨
      ∃ through p, d.Trail excludes unwanted root through p l ∧ p.fileName? = q.fileName? := by
  -- where a trail is told by its last step, so is the one that is led on
  have hon : ∃ through p, d.Trail excludes unwanted root through p l ∧
      (l = m ∨ p.fileName? = q.fileName?) := by
    induction hfurther with
    | start hroot hexcluded =>
      obtain rfl := Except.ok.inj (hroot.symm.trans hinner)
      exact ⟨through, p, h, .inl rfl⟩
    | enter before hdirectory hleads hexcluded hwanted ih =>
      obtain ⟨through, p, hp, -⟩ := ih
      obtain ⟨e, hentry⟩ := hleads.exists_entry?
      have hname := (hd _ _ hentry).isName _ (List.mem_append_right _ List.mem_cons_self)
      exact ⟨_, _, hp.enter hdirectory hleads hexcluded hwanted, .inr
        ((Path.fileName?_join_name _ hname).trans (Path.fileName?_join_name _ hname).symm)⟩
  obtain ⟨through, p, hp, rfl | hname⟩ := hon
  · exact .inl rfl
  · exact .inr ⟨through, p, hp, hname⟩

end Trail

/-! ### What trails depend on -/

/-- Where a way leads to depends only on what is at each location. -/
theorem follow_congr (h : ∀ l, d'.entry? l = d.entry? l) (links : Nat) (at_ : Location)
    (ways : List (Except IoError Way)) :
    d'.follow true links at_ ways = d.follow true links at_ ways := by
  fun_induction follow d true links at_ ways with
  | case1 => rw [follow]
  | case2 => rw [follow]
  | case3 links at_ rest ih => rw [follow, ih]
  | case4 links at_ rest ih => rw [follow, ih]
  | case5 links at_ text rest next hentry hlast =>
    rw [follow_name_of_none (h next ▸ hentry), if_pos hlast]
  | case6 links at_ text rest next hentry hlast =>
    rw [follow_name_of_none (h next ▸ hentry), if_neg hlast]
  | case7 links at_ text rest next hentry ih =>
    rw [follow_name_of_directory (h next ▸ hentry), ih]
  | case8 links at_ text rest next content hentry hlast =>
    rw [follow_name_of_file (h next ▸ hentry), if_pos hlast]
  | case9 links at_ text rest next content hentry hlast =>
    rw [follow_name_of_file (h next ▸ hentry), if_neg hlast]
  | case10 links at_ text rest next target hentry hlast => exact absurd hlast.2 (by decide)
  | case11 at_ text rest next target hentry => rw [follow_name_of_link (h next ▸ hentry)]
  | case12 at_ text rest next target hentry hmore links ih =>
    rw [follow_name_of_link (h next ▸ hentry)]
    exact ih

/-- So does where a path leads to. -/
theorem resolve_congr (h : ∀ l, d'.entry? l = d.entry? l) (p : Path) :
    d'.resolve p = d.resolve p := by
  rw [resolve, resolve, arrive, arrive, follow_congr h]

/-- So does what a name leads to. -/
theorem Leads.congr (h : ∀ l, d'.entry? l = d.entry? l) (hleads : d.Leads l name m) :
    d'.Leads l name m := by
  cases hleads with
  | own hentry hlink => exact .own (h _ ▸ hentry) hlink
  | link hentry hresolve => exact .link (h _ ▸ hentry) (resolve_congr h _ ▸ hresolve)

/-- **Trails depend only on what is at each location**, and not on the order in which a directory
gives its names. -/
theorem Trail.congr (h : ∀ l, d'.entry? l = d.entry? l)
    (htrail : d.Trail excludes unwanted root through p l) :
    d'.Trail excludes unwanted root through p l := by
  induction htrail with
  | start hroot hexcluded => exact .start (resolve_congr h _ ▸ hroot) hexcluded
  | enter before hdirectory hleads hexcluded hwanted ih =>
    exact ih.enter (h _ ▸ hdirectory) (hleads.congr h) hexcluded fun hm => hwanted (h _ ▸ hm)

end Disk

end SailNav
