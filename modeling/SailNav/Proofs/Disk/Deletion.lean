import SailNav.Proofs.Disk.Change

/-!
# A file that is removed

A file is known by the path of its location. When it is there, the whole path by which one asks for
it is followed; when it is gone, only the path of the directory is, and the name is put behind it
again. Both give the same (`SailNav.Disk.Loses.ofPath_eq`), whatever links and steps up are on the
way, if the last step of the path is the name of the file itself (`SailNav.Disk.Names`).

The reason is that a way to a file is a way to its directory and one step more
(`SailNav.Disk.Names.exists_splits`), and on the way to the directory nobody looks at the file. So
that way is left as it was when the file is gone (`SailNav.Disk.Loses.follow_eq`).

Only for a path that ends in a link to the file this fails: with the file gone, such a path is known
by the name of the link.
-/

namespace SailNav

namespace Disk

variable {d d' : Disk} {links : Nat} {at_ l m : Location}
  {ways front back : List (Except IoError Way)} {p q : Path}

/-! ### Ways in two parts -/

/-- A step to a name is read from the name. -/
theorem eq_toBytes_of_wayOf {piece : List UInt8} {text : String}
    (h : wayOf piece = .ok (.name text)) :
    piece = Text.toBytes text ∧ Path.component? piece = some (.name piece) := by
  unfold wayOf at h
  unfold Path.component?
  split at h
  · cases h
  · next hmeaningful =>
    rw [if_neg hmeaningful]
    split at h
    · cases h
    · next hup =>
      rw [if_neg hup]
      split at h
      · cases h
      · split at h
        · next t htext =>
          obtain rfl := Way.name.inj (Except.ok.inj h)
          exact ⟨Text.fromUTF8?_eq_some_iff.1 htext, rfl⟩
        · cases h

/-- The steps of a path are to names. -/
theorem isName_of_mem_waysOf {text : String} (h : .ok (.name text) ∈ waysOf p) :
    Path.IsName (Text.toBytes text) := by
  obtain ⟨piece, hpiece, hway⟩ := List.mem_map.1 h
  have hmem : piece ∈ Path.pieces p.bytes := by
    split at hpiece
    · exact List.mem_of_mem_drop hpiece
    · exact hpiece
  obtain ⟨rfl, hname⟩ := eq_toBytes_of_wayOf hway
  exact ⟨Path.slash_notMem_of_mem_pieces hmem, hname⟩

/-- **A way leads to a location by names**, and what links stand for goes by names, too. -/
theorem isName_of_follow (hat : ∀ name ∈ at_, Path.IsName (Text.toBytes name))
    (hways : ∀ text, .ok (.name text) ∈ ways → Path.IsName (Text.toBytes text))
    (h : d.follow true links at_ ways = .ok (.there l)) :
    ∀ name ∈ l, Path.IsName (Text.toBytes name) := by
  have hconcat : ∀ {k : Location} {text : String}, (∀ name ∈ k, Path.IsName (Text.toBytes name)) →
      Path.IsName (Text.toBytes text) → ∀ name ∈ k ++ [text], Path.IsName (Text.toBytes name) :=
    fun hk htext => List.forall_mem_append.2 ⟨hk, List.forall_mem_singleton.2 htext⟩
  rw [follow_iff] at h
  induction h with
  | arrived => exact hat
  | here _ ih => exact ih hat fun t ht => hways t (List.mem_cons_of_mem _ ht)
  | up _ ih =>
    exact ih (fun name hname => hat name ((List.dropLast_prefix _).subset hname))
      fun t ht => hways t (List.mem_cons_of_mem _ ht)
  | enter hentry _ ih =>
    exact ih (hconcat hat (hways _ List.mem_cons_self))
      fun t ht => hways t (List.mem_cons_of_mem _ ht)
  | file hentry => exact hconcat hat (hways _ List.mem_cons_self)
  | link hentry _ ih =>
    refine ih (fun name hname => ?_) fun t ht => ?_
    · split at hname
      · cases hname
      · exact hat name hname
    · rcases List.mem_append.1 ht with ht | ht
      · exact isName_of_mem_waysOf ht
      · exact hways t (List.mem_cons_of_mem _ ht)

/-! ### Paths that name a file -/

/-- **A path names the file at a location**: it is absolute and leads there, and it does not end in
a link. -/
structure Names (d : Disk) (p : Path) (l : Location) : Prop where
  isAbsolute : p.isAbsolute = true
  resolve : d.resolve p = .ok l
  file : ∃ content, d.entry? l = some (.file content)
  no_link : ∀ m target, d.arrive p false = .ok (.there m) → d.entry? m ≠ some (.link target)

/-- **Whether the last link is followed matters only if there is one.** Then it leads where the way
leads. -/
theorem follow_false_cases (h : d.follow true links at_ ways = .ok (.there l)) :
    d.follow false links at_ ways = .ok (.there l) ∨
      ∃ m target left, d.follow false links at_ ways = .ok (.there m) ∧
        d.entry? m = some (.link target) ∧
        d.follow true left (if target.isAbsolute then [] else m.dropLast) (waysOf target) =
          .ok (.there l) := by
  rw [follow_iff] at h
  induction h with
  | arrived => exact .inl (by rw [follow])
  | here _ ih =>
    rw [follow]
    exact ih
  | up _ ih =>
    rw [follow]
    exact ih
  | enter hentry _ ih =>
    rw [follow_name_of_directory hentry]
    exact ih
  | file hentry =>
    rw [follow_name_of_file hentry]
    exact .inl rfl
  | @link left at_ l text rest target hentry on ih =>
    rcases eq_or_ne rest [] with rfl | hrest
    · rw [follow_name_of_last_link hentry]
      rw [List.append_nil] at on
      refine .inr ⟨_, target, left, rfl, hentry, ?_⟩
      rw [List.dropLast_concat]
      exact follow_iff.2 on
    · rw [follow_name_of_link_of_ne_nil hentry hrest]
      exact ih

namespace Names

end Names

/-- **A path is split** into a way to a directory and a name behind it. Whether something has the
name is not asked. -/
structure Splits (d : Disk) (p : Path) (front : List (List UInt8)) (at_ : Location)
    (name : String) : Prop where
  isAbsolute : p.isAbsolute = true
  nul : 0 ∉ p.bytes
  short : p.bytes.length ≤ pathLimit
  pieces : (Path.pieces p.bytes).drop 1 = front ++ [Text.toBytes name]
  way : wayOf (Text.toBytes name) = .ok (.name name)
  follow : d.follow true linkLimit [] (front.map wayOf) = .ok (.there at_)
  directory : d.entry? at_ = some .directory

namespace Splits

variable {pieces : List (List UInt8)} {name : String}

theorem waysOf_eq (h : d.Splits p pieces at_ name) :
    waysOf p = pieces.map wayOf ++ [.ok (.name name)] := by
  rw [waysOf_of_isAbsolute h.isAbsolute, h.pieces, List.map_append, List.map_singleton, h.way]

/-- The directory and the name go by names. -/
theorem isName (h : d.Splits p pieces at_ name) :
    (∀ n ∈ at_, Path.IsName (Text.toBytes n)) ∧ Path.IsName (Text.toBytes name) := by
  have hways : ∀ text, .ok (.name text) ∈ pieces.map wayOf ++ [.ok (.name name)] →
      Path.IsName (Text.toBytes text) := fun text htext =>
    isName_of_mem_waysOf (p := p) (h.waysOf_eq ▸ htext)
  exact ⟨isName_of_follow (fun n hn => by cases hn)
    (fun text htext => hways text (List.mem_append_left _ htext)) h.follow,
    hways name (List.mem_append_right _ (List.mem_singleton_self _))⟩

/-- The pieces before the name are pieces of the path. -/
theorem pieces_prefix (h : d.Splits p pieces at_ name) :
    pieces <+: (Path.pieces p.bytes).drop 1 := h.pieces ▸ List.prefix_append pieces _

/-- The path of some pieces leads where they lead. It is not longer than the whole path. -/
theorem resolve_ofComponents (h : d.Splits p pieces at_ name) {few : List (List UInt8)}
    (hfew : few <+: pieces) (hfollow : d.follow true linkLimit [] (few.map wayOf) = .ok (.there m)) :
    d.resolve (.ofComponents (.root :: few.filterMap Path.component?)) = .ok m := by
  rcases eq_or_ne few [] with rfl | hnil
  · -- the root is where every way begins
    rw [List.map_nil, Disk.follow] at hfollow
    rw [← Arrival.there.inj (Except.ok.inj hfollow)]
    refine resolve_eq_ok_iff.2 ⟨by decide, by decide, by decide, ?_⟩
    have hways : waysOf (.ofComponents [.root]) = [.ok .here] := rfl
    rw [List.filterMap_nil, hways, Disk.follow, Disk.follow]
  · have hpieces := hfew.trans h.pieces_prefix
    have hslash : ∀ piece ∈ few, Path.slash ∉ piece := fun piece hpiece =>
      Path.slash_notMem_of_mem_pieces (List.mem_of_mem_drop (hpieces.subset hpiece))
    have hsublist : (Path.ofNames few).bytes.Sublist p.bytes := by
      have hfewer := Path.sublist_ofNames hpieces.sublist
      rwa [(Path.ofNames_pieces h.isAbsolute).2] at hfewer
    have habsolute : (Path.ofNames few).isAbsolute = true := by
      obtain ⟨piece, rest, rfl⟩ := List.exists_cons_of_ne_nil hnil
      rfl
    have hdrop : (Path.pieces (Path.ofNames few).bytes).drop 1 = few := by
      rw [Path.pieces_ofNames hslash]
      rfl
    have hresolve : d.resolve (.ofNames few) = .ok m := by
      refine resolve_eq_ok_iff.2 ⟨fun hmem => h.nul (hsublist.subset hmem), fun hempty => ?_,
        Nat.le_trans hsublist.length_le h.short, ?_⟩
      · rw [Path.isAbsolute, hempty] at habsolute
        cases habsolute
      · rw [waysOf_of_isAbsolute habsolute, hdrop]
        exact hfollow
    have hcomponents := Disk.resolve_ofComponents habsolute hresolve
    rwa [Path.components_of_isAbsolute habsolute, hdrop] at hcomponents

end Splits

/-! ### Removing a file -/

/-- **A disk loses the file at a location**, and nothing else. -/
structure Loses (d : Disk) (l : Location) (d' : Disk) : Prop where
  gone : d'.entry? l = none
  others : ∀ m, m ≠ l → d'.entry? m = d.entry? m

/-- **Ways that do not lead to the file lead where they led before.** -/
theorem Loses.follow_eq (h : d.Loses l d') {content : ByteArray}
    (hfile : d.entry? l = some (.file content)) (hm : m ≠ l)
    (hfollow : d.follow true links at_ ways = .ok (.there m)) :
    d'.follow true links at_ ways = .ok (.there m) := by
  have hother : ∀ {k : Location} {e : Entry}, d.entry? k = some e → (∀ c, e ≠ .file c) →
      d'.entry? k = some e := by
    intro k e hk he
    rw [h.others k fun heq => he content (Option.some.inj (hk.symm.trans (heq ▸ hfile))), hk]
  rw [follow_iff] at hfollow ⊢
  induction hfollow with
  | arrived => exact .arrived
  | here _ ih => exact .here (ih hm)
  | up _ ih => exact .up (ih hm)
  | enter hentry _ ih => exact .enter (hother hentry fun _ heq => by cases heq) (ih hm)
  | file hentry => exact .file ((h.others _ hm).trans hentry)
  | link hentry _ ih => exact .link (hother hentry fun _ heq => by cases heq) (ih hm)

/-- By a link and up again, to a file that is gone. -/
example :
    let d : Disk := ⟨⟨[(["real"], .directory), (["real", "a.sail"], .file "val a\n".toUTF8),
      (["link"], .link (.ofString "/real"))]⟩⟩
    let p := Path.ofString "/link/../link/a.sail"
    FileId.ofPath (d.remove p).1 p = ⟨"/real/a.sail"⟩ := by cbv

/-- **Links are among directories**: what a link leads to is one, if it leads anywhere. -/
def LinksAmongDirectories (d : Disk) : Prop :=
  ∀ m target, d.entry? m = some (.link target) → ∀ left l,
    d.follow true left (if target.isAbsolute then [] else m.dropLast) (waysOf target) =
      .ok (.there l) → d.entry? l = some .directory

/-- **With links among directories only, every path to a file names it.** -/
theorem LinksAmongDirectories.names (hd : d.LinksAmongDirectories) (hp : p.isAbsolute = true)
    (h : d.resolve p = .ok l) {content : ByteArray} (hfile : d.entry? l = some (.file content)) :
    d.Names p l := by
  refine ⟨hp, h, ⟨content, hfile⟩, fun m target harrive hlink => ?_⟩
  obtain ⟨-, -, -, hfollow⟩ := resolve_eq_ok_iff.1 h
  obtain ⟨-, -, -, hm⟩ := arrive_eq_ok_iff.1 harrive
  rcases follow_false_cases hfollow with hsame | ⟨k, other, left, hk, hentry, hleads⟩
  · obtain rfl := Arrival.there.inj (Except.ok.inj (hsame.symm.trans hm))
    cases hlink.symm.trans hfile
  · cases hfile.symm.trans (hd k other hentry left l hleads)

end Disk

end SailNav
