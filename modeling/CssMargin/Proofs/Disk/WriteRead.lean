/-
# Reading a file that was written

After a text has been written to a path, the same path leads to the same place, and what is read
there is the text with its line ends made uniform.  The file that was put onto the disk does not
stand in the way of the path, since only directories are passed on the way.  So the document that is
loaded from the path is this text, read in the format of its ending.
-/
import CssMargin.Proofs.Chain
import CssMargin.Proofs.Text.Utf8
import CssMargin.Shorthand.Load
namespace CssMargin

/-! ### Lines -/

namespace Text

/-- A text without carriage returns keeps its line ends. -/
lemma unifyLines_eq_self {s : List Char} (h : '\r' ∉ s) : unifyLines s = s := by
  induction s with
  | nil => rfl
  | cons c r ih =>
    simp only [List.mem_cons, not_or] at h
    rw [unifyLines_cons_of_ne (Ne.symm h.1), ih h.2]

end Text

namespace Disk

variable {d d' : Disk} {l : Location} {p : Path} {bytes : List UInt8}

/-! ### Following a path -/

/-- A path is followed to the same place when something else than a directory was replaced. -/
lemma follow_put (hl : d.at? l ≠ some .directory) (e : Entry) {k m : Location}
    {parts : List Text} (h : d.follow k parts = .ok m) : (d.put l e).follow k parts = .ok m := by
  induction parts generalizing k with
  | nil => exact h
  | cons part r ih =>
    rw [follow] at h ⊢
    split at h
    · cases h
    · cases h
    · -- what was replaced is no directory, and so is not passed here
      rename_i hdir
      have hk : k ≠ l := by
        rintro rfl
        exact hl hdir
      rw [at?_put_of_ne hk, hdir]
      dsimp only
      split at h
      · cases h
      · rename_i hlen
        rw [if_neg hlen]
        exact ih h

lemma locate_put (hl : d.at? l ≠ some .directory) (e : Entry) {m : Location}
    (h : d.locate p = .ok m) : (d.put l e).locate p = .ok m := by
  rw [locate] at h ⊢
  split at h
  · cases h
  · split at h
    · cases h
    · rename_i hnul
      rw [if_neg hnul]
      split at h
      · cases h
      · rename_i hlen
        rw [if_neg hlen]
        split at h
        · rename_i m' hm
          cases h
          have hfollow := follow_put hl e hm
          rw [show (d.put l e).here = d.here from rfl, hfollow]
        · cases h

/-! ### Reading -/

/-- Where a file is read, there is something. -/
lemma has_of_readFile (h : d.readFile p = .ok bytes) : d.has p = .ok true := by
  rw [readFile] at h
  rw [has]
  cases hfind : d.find p with
  | error f =>
    rw [hfind] at h
    cases h
  | ok x => rfl

/-- A file with the bytes of a text is read as this text with its line ends made uniform. -/
lemma readText_of_readFile {s : List Char} (h : d.readFile p = .ok (Text.encodeUtf8 s)) :
    d.readText p = .ok (Text.unifyLines s) := by
  rw [readText, h]
  dsimp only
  rw [Text.decodeUtf8_encodeUtf8]

/-! ### Writing and reading -/

/-- Writing a file puts it at a place that is no directory. -/
lemma eq_put_of_writeFile (h : d.writeFile p bytes = .ok d') :
    ∃ l, d.locate p = .ok l ∧ d.at? l ≠ some .directory ∧ d' = d.put l (.file bytes) := by
  rw [writeFile] at h
  cases hl : d.locate p with
  | error f =>
    rw [hl] at h
    cases h
  | ok l =>
    rw [hl, ok_bind] at h
    split at h
    · cases h
    · rename_i hne
      cases h
      exact ⟨l, rfl, fun hdir => hne hdir, rfl⟩

lemma find_of_writeFile (h : d.writeFile p bytes = .ok d') :
    ∃ l, d'.find p = .ok (l, .file bytes) := by
  obtain ⟨l, hl, hdir, rfl⟩ := eq_put_of_writeFile h
  refine ⟨l, ?_⟩
  rw [find, locate_put hdir _ hl, ok_bind, at?_put_self]

lemma readFile_of_writeFile (h : d.writeFile p bytes = .ok d') : d'.readFile p = .ok bytes := by
  obtain ⟨l, hl⟩ := find_of_writeFile h
  rw [readFile, hl]
  rfl

lemma has_of_writeFile (h : d.writeFile p bytes = .ok d') : d'.has p = .ok true :=
  has_of_readFile (readFile_of_writeFile h)

/-- A text that was written is read with its line ends made uniform. -/
theorem readText_of_writeText {s : List Char} (h : d.writeText p s = .ok d') :
    d'.readText p = .ok (Text.unifyLines s) :=
  readText_of_readFile (readFile_of_writeFile h)

end Disk

/-! ### Documents -/

/-- Loading a document is reading its text in the format of its ending. -/
lemma loadDocument_of_readText {d : Disk} {p : Path} {s : List Char} {format : DocumentFormat}
    (hhas : d.has p = .ok true) (hsuffix : DocumentFormat.ofSuffix? p.suffix = some format)
    (hread : d.readText p = .ok s) :
    loadDocument d p = (format.read s >>= Document.ofValue p.text) := by
  rw [loadDocument, hhas]
  dsimp only
  rw [hsuffix]
  dsimp only
  rw [hread]

/-- The same for a document that was written. -/
theorem loadDocument_of_writeText {d d' : Disk} {p : Path} {s : List Char} {format : DocumentFormat}
    (hwrite : d.writeText p s = .ok d') (hsuffix : DocumentFormat.ofSuffix? p.suffix = some format)
    (hcr : '\r' ∉ s) :
    loadDocument d' p = (format.read s >>= Document.ofValue p.text) := by
  have hread := Disk.readText_of_writeText hwrite
  rw [Text.unifyLines_eq_self hcr] at hread
  exact loadDocument_of_readText (Disk.has_of_writeFile hwrite) hsuffix hread

/-- The same if the text is known to be a mapping. -/
lemma loadDocument_of_read_eq_map {d d' : Disk} {p : Path} {s : List Char}
    {format : DocumentFormat} {entries : List (Value × Value)}
    (hwrite : d.writeText p s = .ok d') (hsuffix : DocumentFormat.ofSuffix? p.suffix = some format)
    (hcr : '\r' ∉ s) (hread : format.read s = .ok (.map entries)) :
    loadDocument d' p =
      .ok ⟨(Value.lookup? "declarations" entries).getD .null, some p.text⟩ := by
  rw [loadDocument_of_writeText hwrite hsuffix hcr, hread]
  rfl

end CssMargin
