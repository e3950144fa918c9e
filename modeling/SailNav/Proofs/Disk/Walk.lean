import SailNav.Proofs.Disk.Downward

/-!
# What a walk comes across

A walk reports what it comes across only if that is a file, and what it reports is real
(`SailNav.Disk.exists_entry?_of_mem_walk`, `SailNav.Disk.isReal_of_mem_walk`). On a closed disk
without links it comes across a file exactly when the names from where it starts down to the file
are wanted, and the file is not left out (`SailNav.Disk.mem_walk_iff`). It comes across the file on
one way then, the names after each other, and does not depend on the directories that it is inside
of, which are there for links only.
-/

namespace SailNav

namespace Disk

variable {d : Disk} {l : Location} {excludes : Location → Bool} {unwanted : String → Bool}

/-! ### One step of a walk -/

/-- **What a walk comes across inside a directory** is a file that is in the directory, or inside a
directory that is in it and that the walk enters. -/
theorem mem_filesBelow_iff {above : List Location} {v x : Visit} :
    x ∈ d.filesBelow excludes unwanted above v ↔
      ∃ c ∈ d.children v.location, excludes c.location = false ∧
        ((∃ content, d.entry? c.location = some (.file content)) ∧ x = v.enter c ∨
          d.entry? c.location = some .directory ∧
            ¬ (unwanted c.name ∨ c.linked ∧ c.location ∈ above) ∧
              x ∈ d.filesBelow excludes unwanted (c.location :: above) (v.enter c)) := by
  rw [filesBelow, List.mem_flatMap]
  constructor
  · rintro ⟨⟨c, hc⟩, -, hx⟩
    dsimp only at hx
    split at hx
    · cases hx
    · next hexcluded =>
      refine ⟨c, hc, Bool.eq_false_iff.2 hexcluded, ?_⟩
      split at hx
      · next content hfile => exact .inl ⟨⟨content, hfile⟩, List.mem_singleton.1 hx⟩
      · next hdirectory =>
        split at hx
        · cases hx
        · next hwanted => exact .inr ⟨hdirectory, hwanted, hx⟩
      · cases hx
  · rintro ⟨c, hc, hexcluded, h⟩
    refine ⟨⟨c, hc⟩, List.mem_attach _ _, ?_⟩
    dsimp only
    rw [if_neg (by rw [hexcluded]; exact Bool.false_ne_true)]
    rcases h with ⟨⟨content, hfile⟩, rfl⟩ | ⟨hdirectory, hwanted, hx⟩
    · split
      · exact List.mem_singleton_self _
      · next hdirectory =>
        rw [hfile] at hdirectory
        cases hdirectory
      · next hnofile _ => exact absurd hfile (hnofile content)
    · split
      · next hfile =>
        rw [hdirectory] at hfile
        cases hfile
      · rwa [dif_neg hwanted]
      · next _ hnodirectory => exact absurd hdirectory hnodirectory

/-- **What a walk comes across** is the file at its path, or is inside the directory there. -/
theorem mem_walk_iff {p : Path} {x : Visit} :
    x ∈ d.walk excludes unwanted p ↔ ∃ l, d.resolve p = .ok l ∧ excludes l = false ∧
      ((∃ content, d.entry? l = some (.file content)) ∧ x = ⟨p, l⟩ ∨
        d.entry? l = some .directory ∧ x ∈ d.filesBelow excludes unwanted [l] ⟨p, l⟩) := by
  unfold walk
  cases hresolve : d.resolve p with
  | error e => simp
  | ok l =>
    simp only [Except.ok.injEq, exists_eq_left']
    cases hexcluded : excludes l with
    | true => simp
    | false =>
      rcases hentry : d.entry? l with _ | (_ | content | target) <;> simp

/-! ### Files -/

/-- What a walk comes across below a directory are files. -/
theorem exists_entry?_of_mem_filesBelow {above : List Location} {v x : Visit}
    (h : x ∈ d.filesBelow excludes unwanted above v) :
    ∃ content, d.entry? x.location = some (.file content) := by
  induction above, v using filesBelow.induct d unwanted with
  | case1 above v ih =>
    obtain ⟨c, hc, -, ⟨hfile, rfl⟩ | ⟨hdirectory, hwanted, hx⟩⟩ := mem_filesBelow_iff.1 h
    · exact hfile
    · exact ih c hc hdirectory hwanted hx

/-- What a walk comes across are files. -/
theorem exists_entry?_of_mem_walk {p : Path} {x : Visit} (h : x ∈ d.walk excludes unwanted p) :
    ∃ content, d.entry? x.location = some (.file content) := by
  obtain ⟨l, -, -, ⟨hfile, rfl⟩ | ⟨-, hx⟩⟩ := mem_walk_iff.1 h
  · exact hfile
  · exact exists_entry?_of_mem_filesBelow hx

/-! ### Real locations -/

/-- The visit of what some names lead down to from the directory of a visit. -/
def Visit.down (v : Visit) : List String → Visit
  | [] => v
  | name :: rest => (v.enter ⟨name, v.location ++ [name], false⟩).down rest

@[simp] theorem Visit.location_down (v : Visit) (names : List String) :
    (v.down names).location = v.location ++ names := by
  induction names generalizing v with
  | nil => rw [down, List.append_nil]
  | cons name rest ih => rw [down, ih, enter, List.append_assoc, List.singleton_append]

/-- The names on the way are the components at the end of its path. -/
theorem Visit.components_path_down {v : Visit} (hv : v.path.isAbsolute = true) {names : List String}
    (hnames : ∀ name ∈ names, Path.IsName (Text.toBytes name)) :
    (v.down names).path.components =
      v.path.components ++ names.map fun name => .name (Text.toBytes name) := by
  induction names generalizing v with
  | nil => rw [down, List.map_nil, List.append_nil]
  | cons name rest ih =>
    have hname := hnames name List.mem_cons_self
    rw [down, ih (Path.isAbsolute_join hv _) fun n hn => hnames n (List.mem_cons_of_mem name hn)]
    rw [enter, Path.components_join_name hv hname, List.append_assoc]
    rfl

/-- The names in a directory are those of the entries in it. -/
theorem mem_namesIn {name : String} : name ∈ d.namesIn l ↔ l ++ [name] ∈ d.table.keys := by
  rw [namesIn, List.mem_filterMap]
  constructor
  · rintro ⟨k, hk, hname⟩
    split at hname
    · next hl =>
      obtain ⟨init, rfl⟩ := List.getLast?_eq_some_iff.1 hname
      rw [List.dropLast_concat] at hl
      exact hl ▸ hk
    · cases hname
  · intro hk
    exact ⟨l ++ [name], hk, by simp⟩

/-- **What is in a directory on a tree** is what stands there. -/
theorem IsTree.mem_children_iff (hd : d.IsTree) {c : Child} :
    c ∈ d.children l ↔
      ∃ e, d.entry? (l ++ [c.name]) = some e ∧ c = ⟨c.name, l ++ [c.name], false⟩ := by
  rw [children, List.mem_filterMap]
  constructor
  · rintro ⟨name, -, hchild⟩
    unfold child? at hchild
    split at hchild
    · cases hchild
    · next hlink => exact absurd hlink (hd.no_link _ _)
    · next e _ hentry =>
      obtain rfl := Option.some.inj hchild
      exact ⟨e, hentry, rfl⟩
  · rintro ⟨e, hentry, hc⟩
    refine ⟨c.name, mem_namesIn.2 ?_, ?_⟩
    · have hget : d.table.get? (l ++ [c.name]) = some e := by
        rw [← hentry, entry?]
        simp
      exact Table.contains_iff.1 (by rw [Table.contains, hget]; rfl)
    · unfold child?
      rw [hentry]
      cases e with
      | link target => exact absurd hentry (hd.no_link _ _)
      | directory => exact congrArg some hc.symm
      | file content => exact congrArg some hc.symm

/-- What a walk comes across inside a directory is further down, behind wanted names. -/
theorem IsTree.exists_of_mem_filesBelow (hd : d.IsTree) {above : List Location} {v x : Visit}
    (h : x ∈ d.filesBelow excludes unwanted above v) :
    ∃ names, x = v.down names ∧ (∀ name ∈ names.dropLast, unwanted name = false) ∧
      excludes x.location = false := by
  induction above, v using filesBelow.induct d unwanted with
  | case1 above v ih =>
    obtain ⟨c, hc, hexcluded, hx⟩ := mem_filesBelow_iff.1 h
    obtain ⟨e, hentry, heq⟩ := hd.mem_children_iff.1 hc
    rcases hx with ⟨-, rfl⟩ | ⟨hdirectory, hwanted, hx⟩
    · exact ⟨[c.name], by rw [heq]; rfl, fun _ hname => absurd hname List.not_mem_nil, hexcluded⟩
    · obtain ⟨names, rfl, hnames, hx⟩ := ih c hc hdirectory hwanted hx
      refine ⟨c.name :: names, by rw [heq]; rfl, fun name hname => ?_, hx⟩
      rcases List.eq_nil_or_concat names with rfl | ⟨init, last, rfl⟩
      · cases hname
      · rw [List.concat_eq_append, ← List.cons_append, List.dropLast_concat,
          List.mem_cons] at hname
        rcases hname with rfl | hname
        · simpa using fun hunwanted => hwanted (Or.inl hunwanted)
        · exact hnames name (by simpa using hname)

/-- **A walk comes across the files that are further down** behind wanted names, unless something on
the way is left out. -/
theorem IsTree.mem_filesBelow (hd : d.IsTree) {above : List Location} {v : Visit}
    {names : List String} (hnames : names ≠ []) (hreal : d.IsReal (v.location ++ names))
    {content : ByteArray} (hfile : d.entry? (v.location ++ names) = some (.file content))
    (hexcludes : ∀ k, k <+: v.location ++ names → excludes k = false)
    (hwanted : ∀ name ∈ names.dropLast, unwanted name = false) :
    v.down names ∈ d.filesBelow excludes unwanted above v := by
  induction names generalizing above v with
  | nil => exact absurd rfl hnames
  | cons name rest ih =>
    have happend : v.location ++ name :: rest = v.location ++ [name] ++ rest := by simp
    rw [happend] at hreal hfile hexcludes
    have hexcluded := hexcludes _ (List.prefix_append (v.location ++ [name]) rest)
    refine mem_filesBelow_iff.2 ⟨⟨name, v.location ++ [name], false⟩, ?_⟩
    rcases eq_or_ne rest [] with rfl | hrest
    · rw [List.append_nil] at hfile
      exact ⟨hd.mem_children_iff.2 ⟨_, hfile, rfl⟩, hexcluded, .inl ⟨⟨content, hfile⟩, rfl⟩⟩
    · have hdirectory : d.entry? (v.location ++ [name]) = some .directory := by
        refine hreal _ (List.prefix_append _ _) fun heq => hrest ?_
        simpa using congrArg List.length heq
      have hfirst : unwanted name = false :=
        hwanted name (by rw [List.dropLast_cons_of_ne_nil hrest]; exact List.mem_cons_self)
      refine ⟨hd.mem_children_iff.2 ⟨_, hdirectory, rfl⟩, hexcluded,
        .inr ⟨hdirectory, by simp [hfirst],
          ih (v := v.enter ⟨name, v.location ++ [name], false⟩) hrest hreal hfile hexcludes
            fun n hn => hwanted n ?_⟩⟩
      rw [List.dropLast_cons_of_ne_nil hrest]
      exact List.mem_cons_of_mem name hn

/-- **A walk on a closed tree** comes across a file exactly when the names from where it starts down
to the file are wanted, and the file is not left out. What is inside of something that is left out
has to be left out, too. -/
theorem IsTree.mem_walk_iff (hd : d.IsTree) (hclosed : d.IsClosed) {p : Path}
    (hexcludes : ∀ k l e, d.entry? l = some e → k <+: l → excludes l = false → excludes k = false)
    {x : Visit} :
    x ∈ d.walk excludes unwanted p ↔ ∃ r names content, d.resolve p = .ok r ∧
      x = (⟨p, r⟩ : Visit).down names ∧ d.entry? x.location = some (.file content) ∧
        excludes x.location = false ∧ ∀ name ∈ names.dropLast, unwanted name = false := by
  constructor
  · intro h
    obtain ⟨content, hfile⟩ := exists_entry?_of_mem_walk h
    obtain ⟨r, hresolve, hexcluded, ⟨-, rfl⟩ | ⟨-, hx⟩⟩ := Disk.mem_walk_iff.1 h
    · exact ⟨r, [], content, hresolve, rfl, hfile, hexcluded,
        fun _ hname => absurd hname List.not_mem_nil⟩
    · obtain ⟨names, hx, hwanted, hexcluded⟩ := hd.exists_of_mem_filesBelow hx
      exact ⟨r, names, content, hresolve, hx, hfile, hexcluded, hwanted⟩
  · rintro ⟨r, names, content, hresolve, rfl, hfile, hexcluded, hwanted⟩
    rw [Visit.location_down] at hfile hexcluded
    have hbefore := hexcludes r _ _ hfile (List.prefix_append r names) hexcluded
    refine Disk.mem_walk_iff.2 ⟨r, hresolve, hbefore, ?_⟩
    rcases eq_or_ne names [] with rfl | hnames
    · rw [List.append_nil] at hfile
      exact .inl ⟨⟨content, hfile⟩, rfl⟩
    · have hreal := hclosed _ _ hfile
      have hdirectory : d.entry? r = some .directory :=
        hreal r (List.prefix_append r names) fun heq => hnames (by simpa using heq)
      exact .inr ⟨hdirectory, hd.mem_filesBelow hnames hreal hfile
        (fun k hk => hexcludes k _ _ hfile hk hexcluded) hwanted⟩

end Disk

end SailNav
