import SailNav.FileId
import SailNav.Proofs.Text.Bytes
import SailNav.Proofs.Url.Scheme

/-!
# What the identity of a document tells

The identity of a document is a text, and it may have come from a path or from a URL. An absolute
path stays absolute when it is resolved, so the identity of a file starts with a slash
(`SailNav.FileId.head?_text_ofPath`), and no URL does. So the URL of a document is its identity
exactly when the document has no path (`SailNav.FileId.ofUrl_eq_iff`), and it is then not the
identity of anything on the disk, unless the URL is a `file` URL
(`SailNav.FileId.not_isFile_of_foreign`).
-/

namespace SailNav

/-! ### Absolute paths -/

/-- The path of a URL is absolute. -/
theorem Url.isAbsolute_of_toPath? {u : Url} {p : Path} (h : u.toPath? = some p) :
    p.isAbsolute = true := by
  unfold toPath? at h
  split at h
  · cases h
  · cases h
  · next names hnil _ =>
    split at h
    · cases names with
      | nil => exact absurd rfl hnil
      | cons name rest =>
        -- a slash at the end of a drive does not change the one at the start
        rw [← Option.some.inj h, Path.isAbsolute]
        split <;> rfl
    · cases h

/-- The path to a location is absolute. -/
theorem Location.isAbsolute_path (l : Location) : l.path.isAbsolute = true := by
  cases l <;> rfl

/-- What is followed inside an absolute directory is absolute. -/
theorem Path.isAbsolute_join {directory : Path} (h : directory.isAbsolute = true) (p : Path) :
    (directory.join p).isAbsolute = true := by
  have hbytes : ∀ more : List UInt8, (⟨directory.bytes ++ more⟩ : Path).isAbsolute = true := by
    intro more
    unfold isAbsolute at h ⊢
    cases hdirectory : directory.bytes with
    | nil =>
      rw [hdirectory] at h
      cases h
    | cons b rest =>
      rw [hdirectory] at h
      exact h
  unfold join
  split
  · assumption
  · split
    · exact hbytes _
    · exact hbytes _

/-- Resolving an absolute path gives an absolute path. -/
theorem Disk.isAbsolute_normalize (d : Disk) {p : Path} (h : p.isAbsolute = true) :
    (d.normalize p).isAbsolute = true := by
  unfold normalize
  split
  · exact Location.isAbsolute_path _
  · split
    · split
      · exact h
      · split
        · exact Path.isAbsolute_join (Location.isAbsolute_path _) _
        · exact h
    · exact h

/-- A path to a file in the root that is not there is known by the root and the name. -/
theorem Disk.normalize_of_missing {d : Disk} {p : Path} {e : IoError} {name : List UInt8}
    (hmissing : d.resolve p = .error e) (hparent : p.parent? = some (.ofString "/"))
    (hname : p.fileName? = some name) : d.normalize p = (Location.path []).join ⟨name⟩ := by
  have hroot : d.resolve (.ofString "/") = .ok [] := by
    have harrive : d.arrive (.ofString "/") true = d.follow true 40 [] [.ok .here] := rfl
    rw [resolve, harrive]
    simp [follow]
  rw [normalize, hmissing, hparent, hname]
  dsimp only
  rw [hroot]
  rfl

namespace FileId

/-! ### Paths and URLs -/

/-- The identity of a file starts with a slash, whatever its path is. -/
theorem head?_text_ofPath (d : Disk) {p : Path} (h : p.isAbsolute = true) :
    (ofPath d p).text.toList.head? = some '/' := by
  have hnormal := d.isAbsolute_normalize h
  rw [Path.isAbsolute, beq_iff_eq] at hnormal
  obtain ⟨rest, hrest⟩ := List.head?_eq_some_iff.1 hnormal
  rw [ofPath, Path.display, hrest]
  exact Text.head?_ofBytes (by decide) rest

/-- A path and a URL never have one identity. -/
theorem ofPath_ne_text (d : Disk) {p : Path} (hp : p.isAbsolute = true) {u : Url}
    (hu : u.HasScheme) : ofPath d p ≠ ⟨u.text⟩ := by
  intro heq
  have hslash := head?_text_ofPath d hp
  rw [heq] at hslash
  exact hu.head?_text_ne hslash

/-- **The URL of a document is its identity exactly when the document has no path.** -/
theorem ofUrl_eq_iff (d : Disk) {u : Url} (hu : u.HasScheme) :
    ofUrl d u = ⟨u.text⟩ ↔ u.toPath? = none := by
  unfold ofUrl
  cases hpath : u.toPath? with
  | none => simp
  | some p => simp [ofPath_ne_text d (Url.isAbsolute_of_toPath? hpath) hu]

/-- **A file on a disk**, as it is known: by an absolute path, or by a `file` URL. -/
def IsFile (f : FileId) : Prop :=
  (∃ d p, Path.isAbsolute p = true ∧ f = ofPath d p) ∨ ∃ d u, u.scheme = "file" ∧ f = ofUrl d u

/-- A document with a path is known as a file, whatever its scheme is. -/
theorem isFile_ofUrl (d : Disk) {u : Url} {p : Path} (h : u.toPath? = some p) :
    (ofUrl d u).IsFile :=
  Or.inl ⟨d, p, Url.isAbsolute_of_toPath? h, by rw [ofUrl, h]⟩

/-- **No file is known by a URL with another scheme.** -/
theorem not_isFile_of_foreign {u : Url} (hu : u.HasScheme) (hscheme : u.scheme ≠ "file") :
    ¬ IsFile ⟨u.text⟩ := by
  rintro (⟨d, p, hp, heq⟩ | ⟨d, v, hv, heq⟩)
  · exact ofPath_ne_text d hp hu heq.symm
  · unfold ofUrl at heq
    cases hpath : v.toPath? with
    | some p =>
      rw [hpath] at heq
      exact ofPath_ne_text d (Url.isAbsolute_of_toPath? hpath) hu heq.symm
    | none =>
      rw [hpath] at heq
      have hvscheme : v.HasScheme := ⟨by rw [hv]; decide, by rw [hv]; decide, by rw [hv]; decide⟩
      exact hscheme ((hu.eq_of_text_eq hvscheme (congrArg text heq)).trans hv)

end FileId

end SailNav
