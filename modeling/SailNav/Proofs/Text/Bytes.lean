import SailNav.Text.Utf8

/-!
# Texts and their bytes

A text is known by its bytes: no other text has them, and reading them gives it back
(`SailNav.Text.ofBytes_toBytes`). Bytes that are no text are read all the same, and different ones
may be read alike, since whatever cannot be read becomes the replacement character. What can be said
of all bytes is that an ASCII character at their start is read as it is
(`SailNav.Text.head?_ofBytes`).
-/

namespace SailNav

namespace Text

@[simp] theorem toBytes_append (s t : String) : toBytes (s ++ t) = toBytes s ++ toBytes t := by
  rw [toBytes, String.toList_append, List.flatMap_append, toBytes, toBytes]

/-- The bytes of a text, as an array. -/
theorem toByteArray_eq (text : String) : text.toByteArray = ⟨(toBytes text).toArray⟩ := by
  refine ByteArray.ext ?_
  rw [← String.utf8Encode_toList, List.utf8Encode, List.data_toByteArray]
  rfl

/-- **Bytes are those of a text, or of none.** -/
theorem fromUTF8?_eq_some_iff {bytes : List UInt8} {text : String} :
    String.fromUTF8? ⟨bytes.toArray⟩ = some text ↔ bytes = toBytes text := by
  unfold String.fromUTF8?
  constructor
  · intro h
    split at h
    · have harray : (⟨bytes.toArray⟩ : ByteArray) = text.toByteArray :=
        congrArg String.toByteArray (Option.some.inj h)
      rw [toByteArray_eq] at harray
      exact congrArg (fun a : ByteArray => a.data.toList) harray
    · cases h
  · rintro rfl
    have hvalid : (⟨(toBytes text).toArray⟩ : ByteArray).IsValidUTF8 :=
      toByteArray_eq text ▸ text.isValidUTF8
    rw [dif_pos hvalid, Option.some.injEq, ← String.toByteArray_inj, toByteArray_eq text]
    rfl

/-- **Reading the bytes of a text gives the text.** -/
@[simp] theorem ofBytes_toBytes (text : String) : ofBytes (toBytes text) = text := by
  rw [ofBytes, fromUTF8?_eq_some_iff.2 rfl]

/-! ### An ASCII character at the start -/

/-- Reading bytes puts characters behind those that were read. -/
theorem readBytesOnto_eq (taken : List Char) (bytes : List UInt8) :
    readBytesOnto taken bytes = taken.reverse ++ readBytesOnto [] bytes := by
  have haux : ∀ (n : Nat) (bytes : List UInt8), bytes.length ≤ n → ∀ taken : List Char,
      readBytesOnto taken bytes = taken.reverse ++ readBytesOnto [] bytes := by
    intro n
    induction n with
    | zero =>
      intro bytes hn taken
      obtain rfl := List.length_eq_zero_iff.1 (Nat.le_zero.1 hn)
      simp [readBytesOnto]
    | succ n ih =>
      intro bytes hn taken
      cases bytes with
      | nil => simp [readBytesOnto]
      | cons b rest =>
        rw [List.length_cons, Nat.succ_le_succ_iff] at hn
        -- one character is read, and then what is shorter
        have hstep : ∀ (c : Char) (others : List UInt8), others.length ≤ n →
            readBytesOnto (c :: taken) others = taken.reverse ++ readBytesOnto [c] others := by
          intro c others hothers
          rw [ih others hothers (c :: taken), ih others hothers [c]]
          simp
        rw [readBytesOnto, readBytesOnto]
        split
        · exact hstep _ _ hn
        · split
          · exact hstep _ _ hn
          · exact hstep _ _ (Nat.le_trans (length_followingBytes ..) hn)
  exact haux bytes.length bytes (Nat.le_refl _) taken

/-- A character whose first byte is an ASCII one is that. -/
theorem eq_ofNat_of_utf8EncodeChar {c : Char} {b : UInt8} {rest : List UInt8} (hb : b < 0x80)
    (h : String.utf8EncodeChar c = b :: rest) : c = Char.ofNat b.toNat ∧ rest = [] := by
  have hlt : b.toNat < 128 := UInt8.lt_iff_toNat_lt.1 hb
  unfold String.utf8EncodeChar at h
  dsimp only at h
  -- the first byte of a longer sequence is at least 192
  split at h
  · next hsmall =>
    obtain ⟨rfl, rfl⟩ := List.cons.inj h
    have hval : (UInt8.ofNat c.val.toNat).toNat = c.toNat := by
      rw [UInt8.toNat_ofNat']
      exact Nat.mod_eq_of_lt (Nat.lt_of_le_of_lt hsmall (by decide))
    rw [hval, Char.ofNat_toNat]
    exact ⟨rfl, rfl⟩
  · split at h
    · have hfirst := congrArg UInt8.toNat (List.cons.inj h).1
      rw [UInt8.toNat_ofNat'] at hfirst
      omega
    · split at h
      · have hfirst := congrArg UInt8.toNat (List.cons.inj h).1
        rw [UInt8.toNat_ofNat'] at hfirst
        omega
      · have hfirst := congrArg UInt8.toNat (List.cons.inj h).1
        rw [UInt8.toNat_ofNat'] at hfirst
        omega

/-- An ASCII character has its one byte. -/
theorem utf8EncodeChar_ofNat {b : UInt8} (hb : b < 0x80) :
    String.utf8EncodeChar (Char.ofNat b.toNat) = [b] := by
  have hlt : b.toNat < 128 := UInt8.lt_iff_toNat_lt.1 hb
  have hval : (Char.ofNat b.toNat).val.toNat = b.toNat := by
    rw [Char.ofNat, dif_pos (Or.inl (by omega))]
    rfl
  unfold String.utf8EncodeChar
  dsimp only
  rw [hval, if_pos (by omega), UInt8.ofNat_toNat]

/-- **An ASCII character at the start of some bytes is read as it is.** -/
theorem head?_ofBytes {b : UInt8} (hb : b < 0x80) (rest : List UInt8) :
    (ofBytes (b :: rest)).toList.head? = some (Char.ofNat b.toNat) := by
  unfold ofBytes
  split
  · next text htext =>
    have hbytes := fromUTF8?_eq_some_iff.1 htext
    rw [toBytes] at hbytes
    cases hchars : text.toList with
    | nil =>
      rw [hchars] at hbytes
      cases hbytes
    | cons c chars =>
      rw [hchars, List.flatMap_cons] at hbytes
      obtain ⟨d, ds, hd⟩ := List.exists_cons_of_ne_nil (String.utf8EncodeChar_ne_nil (c := c))
      rw [hd, List.cons_append] at hbytes
      obtain rfl := (List.cons.inj hbytes).1
      rw [(eq_ofNat_of_utf8EncodeChar hb hd).1, List.head?_cons]
  · rw [readBytesOnto, if_pos hb, readBytesOnto_eq, String.toList_ofList]
    rfl

end Text

end SailNav
