import SailNav.Url.FilePath
import SailNav.Proofs.Path
import SailNav.Proofs.Text.Bytes

/-!
# The path of the URL of a path

Whatever a URL has to name is written byte by byte, and it is read again
(`SailNav.Url.decode_encodeBytes`). So the URL that is made of a path has a path, and that has the
same components (`SailNav.Url.toPath?_of_ofPath?`). A path that ends like a drive of another kind of
system is the one exception, since its URL is given a slash at the end.
-/

namespace SailNav

namespace Url

/-! ### Percent encoding -/

/-- A hexadecimal digit has its value. -/
theorem hexValue?_upperHexDigit : ∀ n : Nat, n < 16 → hexValue? (upperHexDigit n) = some n := by
  decide

/-- The two digits of a byte are read as the byte. -/
theorem hexByte?_encodeByte (b : UInt8) :
    hexByte? (upperHexDigit (b.toNat / 16)) (upperHexDigit (b.toNat % 16)) = some b := by
  have hb : b.toNat < 256 := b.toNat_lt
  rw [hexByte?, hexValue?_upperHexDigit _ (by omega), hexValue?_upperHexDigit _ (by omega)]
  refine congrArg some ?_
  rw [Nat.div_add_mod']
  exact UInt8.ofNat_toNat

/-- An encoded byte is read as the byte. -/
theorem decodeOnto_encodeByte (taken : List UInt8) (b : UInt8) (rest : List Char) :
    decodeOnto taken (encodeByte b ++ rest) = decodeOnto (b :: taken) rest := by
  rw [encodeByte, List.cons_append, List.cons_append, List.cons_append, List.nil_append,
    decodeOnto, hexByte?_encodeByte]

/-- An ASCII character other than a percent sign is read as its byte. -/
theorem decodeOnto_ascii (taken : List UInt8) {b : UInt8} (hb : b < 0x80)
    (hpercent : Char.ofNat b.toNat ≠ '%') (rest : List Char) :
    decodeOnto taken (Char.ofNat b.toNat :: rest) = decodeOnto (b :: taken) rest := by
  rw [decodeOnto, Text.utf8EncodeChar_ofNat hb]
  · rfl
  · exact fun _ _ _ heq => absurd heq hpercent

/-- **Encoded bytes are read as they were**, if percent signs are encoded, too. -/
theorem decode_encodeBytes {s : EncodeSet} (hs : s '%' = true) (bytes : List UInt8) :
    decode (encodeBytes s bytes).toList = bytes := by
  have haux : ∀ (bytes taken : List UInt8), decodeOnto taken (bytes.flatMap fun b =>
      let c := Char.ofNat b.toNat
      if b < 0x80 && !s c then [c] else encodeByte b) = taken.reverse ++ bytes := by
    intro bytes
    induction bytes with
    | nil =>
      intro taken
      simp [decodeOnto]
    | cons b rest ih =>
      intro taken
      rw [List.flatMap_cons]
      dsimp only
      split
      · next hplain =>
        rw [Bool.and_eq_true, decide_eq_true_iff, Bool.not_eq_true'] at hplain
        have hpercent : Char.ofNat b.toNat ≠ '%' := fun heq => by
          rw [heq, hs] at hplain
          exact absurd hplain.2 (by decide)
        rw [List.singleton_append, decodeOnto_ascii taken hplain.1 hpercent, ih]
        simp
      · rw [decodeOnto_encodeByte, ih]
        simp
  rw [decode, encodeBytes, String.toList_ofList]
  exact haux bytes []

/-! ### Paths -/

/-- A segment of a URL that is made of a component is read as the component. -/
theorem decode_segmentOf? {c : Path.Component} {segment : String}
    (h : segmentOf? c = some segment) : decode segment.toList = c.bytes := by
  cases c with
  | root => cases h
  | here =>
    obtain rfl := Option.some.inj h
    decide
  | up =>
    obtain rfl := Option.some.inj h
    decide
  | name bytes =>
    obtain rfl := Option.some.inj h
    exact decode_encodeBytes (by decide) bytes

/-- The segments for components below the root are read as the components. -/
theorem map_decode_filterMap_segmentOf? {cs : List Path.Component} (h : Path.Component.root ∉ cs) :
    (cs.filterMap segmentOf?).map (fun segment => decode segment.toList) =
      cs.map Path.Component.bytes := by
  induction cs with
  | nil => rfl
  | cons c rest ih =>
    rw [List.mem_cons, not_or] at h
    obtain ⟨segment, hsegment⟩ : ∃ segment, segmentOf? c = some segment := by
      cases c with
      | root => exact absurd rfl h.1
      | here | up | name bytes => exact ⟨_, rfl⟩
    rw [List.filterMap_cons_some hsegment, List.map_cons, ih h.2, decode_segmentOf? hsegment,
      List.map_cons]

/-- The path of a URL on this machine, by its segments, unless it ends like a drive. -/
theorem toPath?_of_segments {u : Url} {names : List String} (hroute : u.route = .segments names)
    (hnil : names ≠ []) (hlocal : u.isLocal = true)
    (hdrive : endsInDrive (Path.ofNames (names.map fun name => decode name.toList)).bytes = false) :
    u.toPath? = some (.ofNames (names.map fun name => decode name.toList)) := by
  have hbytes : (names.flatMap fun name => Path.slash :: decode name.toList) =
      (Path.ofNames (names.map fun name => decode name.toList)).bytes :=
    (List.flatMap_map ..).symm
  unfold toPath?
  rw [hroute]
  cases names with
  | nil => exact absurd rfl hnil
  | cons name rest =>
    dsimp only
    rw [if_pos hlocal, hbytes, hdrive, if_neg Bool.false_ne_true]

/-- **The URL of a path has a path with the same components**, unless that ends like a drive. -/
theorem toPath?_of_ofPath? {p : Path} {u : Url} (h : ofPath? p = some u)
    (hdrive : endsInDrive (Path.ofComponents p.components).bytes = false) :
    u.toPath? = some (.ofComponents p.components) := by
  unfold ofPath? at h
  split at h
  · next habsolute =>
    obtain rfl := Option.some.inj h
    rw [Path.components_of_isAbsolute habsolute] at hdrive ⊢
    have hroot : Path.Component.root ∉ ((Path.pieces p.bytes).drop 1).filterMap Path.component? := by
      intro hmem
      obtain ⟨piece, -, hpiece⟩ := List.mem_filterMap.1 hmem
      unfold Path.component? at hpiece
      split at hpiece
      · cases hpiece
      · split at hpiece <;> cases hpiece
    cases hcs : ((Path.pieces p.bytes).drop 1).filterMap Path.component? with
    | nil => rfl
    | cons c cs =>
      rw [hcs] at hroot hdrive
      have hnames := map_decode_filterMap_segmentOf? hroot
      -- the root has no segment, and the others have one each
      have hsegments : (Path.Component.root :: c :: cs).filterMap segmentOf? =
          (c :: cs).filterMap segmentOf? := rfl
      have hnil : (c :: cs).filterMap segmentOf? ≠ [] := by
        intro heq
        rw [heq] at hnames
        cases hnames
      rw [Path.ofComponents_root_cons, ← hnames] at hdrive ⊢
      refine toPath?_of_segments ?_ hnil rfl hdrive
      rw [hsegments, if_neg (by simpa using hnil)]
  · cases h

/-- A source file does not end like a drive. -/
theorem endsInDrive_of_isSailFile {p : Path} (habsolute : p.isAbsolute = true)
    (h : p.isSailFile = true) : endsInDrive (Path.ofComponents p.components).bytes = false := by
  obtain ⟨before, hbytes⟩ := Path.exists_bytes_of_isSailFile habsolute h
  rw [endsInDrive, hbytes, List.reverse_append]
  have hsail : (Text.toBytes "sail").reverse = [0x6C, 0x69, 0x61, 0x73] := by decide
  rw [hsail]
  rfl

end Url

end SailNav
