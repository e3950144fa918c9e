import SailNav.Path

/-!
# The pieces of a path

A path is cut at its slashes, and an absolute one is its pieces again, each behind a slash
(`SailNav.Path.ofNames_pieces`). Its components are the pieces that mean something
(`SailNav.Path.components_of_isAbsolute`), so a path that is made of them is the same path with
fewer pieces (`SailNav.Path.ofComponents_components`).
-/

namespace SailNav

namespace Path

/-! ### Cutting at slashes -/

/-- Pieces are what stands between slashes. -/
theorem pieces_eq_splitOn (bytes : List UInt8) : pieces bytes = bytes.splitOn slash := by
  -- the piece that is being read is kept backwards, and so are the pieces before it
  have hfold : ∀ (bytes : List UInt8) (read : List UInt8 × List (List UInt8)),
      ∃ last, bytes.foldl (fun read b =>
          if b = slash then ([], read.1.reverse :: read.2) else (b :: read.1, read.2)) read = last ∧
        (last.1.reverse :: last.2).reverse =
          read.2.reverse ++ bytes.splitOnPPrepend (· == slash) read.1 := by
    intro bytes
    induction bytes with
    | nil =>
      intro read
      exact ⟨read, rfl, by rw [List.reverse_cons, List.splitOnPPrepend_nil]⟩
    | cons b rest ih =>
      intro read
      rw [List.foldl_cons, List.splitOnPPrepend_cons_eq_if]
      by_cases hb : b = slash
      · rw [if_pos hb, if_pos (by simpa using hb)]
        obtain ⟨last, hrest, heq⟩ := ih ([], read.1.reverse :: read.2)
        refine ⟨last, hrest, heq.trans ?_⟩
        rw [List.splitOnPPrepend_nil_right, List.reverse_cons, List.append_assoc]
        rfl
      · rw [if_neg hb, if_neg (by simpa using hb)]
        exact ih (b :: read.1, read.2)
  obtain ⟨last, hbytes, heq⟩ := hfold bytes ([], [])
  have hpieces : pieces bytes = (last.1.reverse :: last.2).reverse := by
    rw [← hbytes]
    rfl
  rw [hpieces]
  exact heq

/-- There is no slash in a piece. -/
theorem slash_notMem_of_mem_pieces {bytes piece : List UInt8} (h : piece ∈ pieces bytes) :
    slash ∉ piece := by
  rw [pieces_eq_splitOn] at h
  induction bytes generalizing piece with
  | nil =>
    rw [List.splitOn_nil, List.mem_singleton] at h
    simp [h]
  | cons b rest ih =>
    rw [List.splitOn_cons_eq_if_modifyHead] at h
    by_cases hb : b = slash
    · rw [if_pos (by simpa using hb), List.mem_cons] at h
      rcases h with rfl | h
      · exact List.not_mem_nil
      · exact ih h
    · rw [if_neg (by simpa using hb)] at h
      cases hrest : rest.splitOn slash with
      | nil => exact absurd hrest (List.splitOn_ne_nil _ _)
      | cons first others =>
        rw [hrest] at h ih
        rcases List.mem_cons.1 h with rfl | h
        · rw [List.mem_cons, not_or]
          exact ⟨fun heq => hb heq.symm, ih List.mem_cons_self⟩
        · exact ih (List.mem_cons_of_mem _ h)

/-! ### Names behind slashes -/

/-- The absolute path of some names, each behind a slash. -/
def ofNames (names : List (List UInt8)) : Path := ⟨names.flatMap fun name => slash :: name⟩

theorem bytes_ofNames_cons (name : List UInt8) (names : List (List UInt8)) :
    (ofNames (name :: names)).bytes = slash :: (name ++ (ofNames names).bytes) := rfl

/-- With fewer names there are fewer bytes. -/
theorem sublist_ofNames {few many : List (List UInt8)} (h : few.Sublist many) :
    (ofNames few).bytes.Sublist (ofNames many).bytes := by
  induction h with
  | slnil => exact List.Sublist.slnil
  | cons name _ ih => exact (ih.trans (List.sublist_append_right name _)).cons slash
  | cons_cons name _ ih => exact ((List.Sublist.refl name).append ih).cons_cons slash

/-- The pieces of some names are the names, and nothing before the first slash. -/
theorem pieces_ofNames {names : List (List UInt8)} (h : ∀ name ∈ names, slash ∉ name) :
    pieces (ofNames names).bytes = [] :: names := by
  have hbehind : ∀ (names : List (List UInt8)) (name : List UInt8),
      (∀ n ∈ name :: names, slash ∉ n) →
      (name ++ (ofNames names).bytes).splitOn slash = name :: names := by
    intro names
    induction names with
    | nil =>
      intro name h
      rw [ofNames, List.flatMap_nil, List.append_nil]
      exact List.splitOn_eq_singleton (h name List.mem_cons_self)
    | cons next rest ih =>
      intro name h
      rw [bytes_ofNames_cons,
        List.splitOn_append_cons_self_of_not_mem (h name List.mem_cons_self),
        ih next fun n hn => h n (List.mem_cons_of_mem _ hn)]
  rw [pieces_eq_splitOn]
  exact hbehind names [] (by simpa using h)

/-- Pieces are put together again by the slashes between them. -/
theorem intercalate_eq_append (names : List (List UInt8)) (name : List UInt8) :
    [slash].intercalate (name :: names) = name ++ (ofNames names).bytes := by
  induction names generalizing name with
  | nil => simp [ofNames]
  | cons next rest ih =>
    rw [List.intercalate_cons_cons, ih next, List.append_assoc]
    rfl

/-- **An absolute path is its pieces, each behind a slash.** -/
theorem ofNames_pieces {p : Path} (h : p.isAbsolute = true) :
    pieces p.bytes = [] :: (pieces p.bytes).drop 1 ∧ ofNames ((pieces p.bytes).drop 1) = p := by
  obtain ⟨bytes⟩ := p
  rw [isAbsolute, beq_iff_eq] at h
  obtain ⟨rest, rfl⟩ := List.head?_eq_some_iff.1 h
  have hpieces : pieces (slash :: rest) = [] :: rest.splitOn slash := by
    rw [pieces_eq_splitOn]
    exact List.splitOn_append_cons_self_of_not_mem List.not_mem_nil rest
  rw [hpieces]
  refine ⟨rfl, congrArg Path.mk ?_⟩
  obtain ⟨name, names, hrest⟩ := List.exists_cons_of_ne_nil (List.splitOn_ne_nil slash rest)
  calc (ofNames (rest.splitOn slash)).bytes
      = slash :: [slash].intercalate (rest.splitOn slash) := by
        rw [hrest, bytes_ofNames_cons, intercalate_eq_append]
    _ = slash :: rest := by rw [List.intercalate_splitOn]

/-! ### Components -/

/-- A component is written as the piece that it is. -/
theorem bytes_of_component? {piece : List UInt8} {c : Component} (h : component? piece = some c) :
    c.bytes = piece := by
  unfold component? at h
  split at h
  · cases h
  · split at h
    · next hup =>
      obtain rfl := Option.some.inj h
      exact hup.symm
    · obtain rfl := Option.some.inj h
      rfl

/-- The components of an absolute path are the root and the pieces that mean something. -/
theorem components_of_isAbsolute {p : Path} (h : p.isAbsolute = true) :
    p.components = .root :: ((pieces p.bytes).drop 1).filterMap component? := by
  rw [components, if_pos h, (ofNames_pieces h).1]
  rfl

/-- Components that are pieces are written as those pieces. -/
theorem map_bytes_filterMap_component? (pieces : List (List UInt8)) :
    (pieces.filterMap component?).map Component.bytes =
      pieces.filter fun piece => (component? piece).isSome := by
  induction pieces with
  | nil => rfl
  | cons piece rest ih =>
    cases h : component? piece with
    | none => rw [List.filterMap_cons_none h, ih, List.filter_cons_of_neg (by simp [h])]
    | some c =>
      rw [List.filterMap_cons_some h, List.map_cons, ih, bytes_of_component? h,
        List.filter_cons_of_pos (by simp [h])]

/-- The path of components below the root. -/
theorem ofComponents_root_cons (c : Component) (cs : List Component) :
    ofComponents (.root :: c :: cs) = ofNames ((c :: cs).map Component.bytes) :=
  congrArg Path.mk (intercalate_eq_append ((c :: cs).map Component.bytes) [])

/-- **The path of the components of an absolute path** has the pieces that mean something, or it is
the root. -/
theorem ofComponents_components {p : Path} (h : p.isAbsolute = true) :
    Path.ofComponents p.components =
      match ((pieces p.bytes).drop 1).filter fun piece => (component? piece).isSome with
      | [] => ⟨[slash]⟩
      | names => ofNames names := by
  rw [components_of_isAbsolute h, ← map_bytes_filterMap_component?]
  cases ((pieces p.bytes).drop 1).filterMap component? with
  | nil => rfl
  | cons c cs => exact ofComponents_root_cons c cs

/-- **A path whose components end in a name** stands in the directory that the others make. -/
theorem parent?_of_components {p : Path} {cs : List Component} {name : List UInt8}
    (h : p.components = cs ++ [.name name]) :
    p.parent? = some (ofComponents cs) ∧ p.fileName? = some name := by
  constructor
  · rw [parent?, h, List.reverse_append, List.reverse_singleton, List.singleton_append]
    dsimp only
    rw [List.reverse_reverse]
  · rw [fileName?, h, List.getLast?_concat]

/-! ### Source files -/

/-- The name of a source file ends in the ending of one. -/
theorem exists_of_isSailName {name : List UInt8} (h : isSailName name = true) :
    ∃ before, name = before ++ Text.toBytes "sail" := by
  unfold isSailName extension? at h
  split at h
  · split at h
    · cases h
    · have hending := Option.some.inj (beq_iff_eq.1 h)
      have hsplit := congrArg List.reverse
        (List.takeWhile_append_dropWhile (p := (· != dot)) (l := name.reverse))
      rw [List.reverse_append, hending, List.reverse_reverse] at hsplit
      exact ⟨_, hsplit.symm⟩
  · cases h

/-- So does the path of the components of an absolute path to a source file. -/
theorem exists_bytes_of_isSailFile {p : Path} (habsolute : p.isAbsolute = true)
    (h : p.isSailFile = true) :
    ∃ before, (Path.ofComponents p.components).bytes = before ++ Text.toBytes "sail" := by
  obtain ⟨name, hname, hsail⟩ := (Option.any_eq_true ..).1 h
  obtain ⟨before, rfl⟩ := exists_of_isSailName hsail
  have hlast : p.components.getLast? = some (.name (before ++ Text.toBytes "sail")) := by
    unfold fileName? at hname
    split at hname
    · next heq => rw [heq, Option.some.inj hname]
    · cases hname
  obtain ⟨init, hinit⟩ := List.getLast?_eq_some_iff.1 hlast
  -- the root is not a name, so the name stands behind it
  obtain ⟨cs, rfl⟩ : ∃ cs, init = .root :: cs := by
    rw [components_of_isAbsolute habsolute] at hinit
    cases init with
    | nil => cases (List.cons.inj hinit).1
    | cons c cs => exact ⟨cs, by rw [(List.cons.inj hinit).1]⟩
  obtain ⟨c, rest, hrest⟩ := List.exists_cons_of_ne_nil
    (List.append_ne_nil_of_right_ne_nil cs (List.cons_ne_nil (Component.name _) []))
  rw [hinit, List.cons_append, hrest, ofComponents_root_cons, ← hrest, ofNames, List.map_append,
    List.flatMap_append]
  refine ⟨(cs.map Component.bytes).flatMap (fun name => slash :: name) ++ slash :: before, ?_⟩
  simp [Component.bytes]

end Path

end SailNav
