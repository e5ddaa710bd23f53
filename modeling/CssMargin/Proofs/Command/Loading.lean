/-
# How loading a document ends

A document is loaded, or a fault with a code is reported, or loading ends the run without a report.
The last happens when the path is too long for the system, and when the file keeps the rules of its
notation but names something that does not exist, such as a day, a truth value that is none or a
character beyond the last one, or something that is too much for the reader, such as an integer with
too many digits or a default key that leads back to its mapping.  `LetsThrough` lists these cases by
what the path and the file are like.  How deep a text nests is no such case, since the readers have
no stack that could run out.
-/
import CssMargin.Proofs.Command.Stages
import CssMargin.Proofs.Json.Faults
import CssMargin.Proofs.Yaml.MeaningFaults
namespace CssMargin

/-! ### Paths that are too long -/

/-- Whether a path or a part of it has more bytes than the system allows. -/
def Path.IsLong (p : Path) : Prop :=
  Disk.pathLimit < p.text.bytes.length ∨ ∃ part ∈ p.parts, Disk.nameLimit < part.bytes.length

namespace Disk

variable {d : Disk} {p : Path}

lemma exists_long_of_follow {l : Location} {parts : List Text}
    (h : d.follow l parts = .error .nameTooLong) :
    ∃ part ∈ parts, nameLimit < part.bytes.length := by
  induction parts generalizing l with
  | nil => cases h
  | cons part parts ih =>
    rw [follow] at h
    split at h
    · cases h
    · cases h
    · split at h
      · rename_i hlong
        exact ⟨part, List.mem_cons_self .., hlong⟩
      · obtain ⟨x, hx, hlong⟩ := ih h
        exact ⟨x, List.mem_cons_of_mem _ hx, hlong⟩

/-- Where it cannot be said whether there is something at a path, the path leads nowhere. -/
lemma locate_of_has {f : DiskFault} (h : d.has p = .error f) :
    d.locate p = .error f ∧ ∃ path, f = .refused .nameTooLong path := by
  rw [has, find] at h
  cases hl : d.locate p with
  | error e =>
    rw [hl, error_bind] at h
    split at h
    · cases h
    · rename_i path heq
      cases heq
      cases h
      exact ⟨rfl, path, rfl⟩
    · cases h
  | ok l =>
    rw [hl, ok_bind] at h
    cases hat : d.at? l with
    | none =>
      rw [hat] at h
      cases h
    | some e =>
      rw [hat] at h
      cases h

/-- Only with a path that is too long it cannot be said whether there is something at it. -/
lemma isLong_of_has {f : DiskFault} (h : d.has p = .error f) :
    p.IsLong ∧ f = .refused .nameTooLong p.text := by
  obtain ⟨hl, path, rfl⟩ := locate_of_has h
  rw [locate] at hl
  split at hl
  · cases hl
  · split at hl
    · cases hl
    · split at hl
      · rename_i hlong
        cases hl
        exact ⟨.inl hlong, rfl⟩
      · split at hl
        · cases hl
        · rename_i hfollow
          cases hl
          exact ⟨.inr (exists_long_of_follow hfollow), rfl⟩

end Disk

/-! ### Loading -/

/-- The failures that loading the document at a path lets through. -/
inductive LetsThrough (d : Disk) (p : Path) : Failure → Prop where
  /-- The path is too long. -/
  | longPath (h : p.IsLong) :
    LetsThrough d p (.read (.disk (.refused .nameTooLong p.text)))
  /-- A YAML file names something that does not exist or is too much. -/
  | yaml {s : List Char} {m : Yaml.Mishap}
    (hformat : DocumentFormat.ofSuffix? p.suffix = some .yaml)
    (hs : d.readText p = .ok s) (hm : Yaml.NamesNothing s m) : LetsThrough d p (.yaml m)
  /-- A JSON file has an integer with too many digits. -/
  | json {s : List Char} {n : Nat} (hformat : DocumentFormat.ofSuffix? p.suffix = some .json)
    (hs : d.readText p = .ok s) (hn : Json.HasLongRun s n) : LetsThrough d p (.longInteger (some n))

/-- Whether loading may stop: with a fault, or with a failure that is let through. -/
def MayStop (d : Disk) (p : Path) : LoadStop → Prop
  | .fault _ => True
  | .failure f => LetsThrough d p f

/-- Whether a document is what the file at a path holds under `declarations`. -/
def IsContent (d : Disk) (p : Path) (doc : Document) : Prop :=
  ∃ s format entries, d.readText p = .ok s ∧ DocumentFormat.ofSuffix? p.suffix = some format ∧
    format.read s = .ok (.map entries) ∧
    doc = ⟨(Value.lookup? "declarations" entries).getD .null, some p.text⟩

lemma ends_read_document {d : Disk} {p : Path} {s : List Char} {format : DocumentFormat}
    (hs : d.readText p = .ok s) (hformat : DocumentFormat.ofSuffix? p.suffix = some format) :
    Ends (MayStop d p) (fun _ => True) (format.read s) := by
  cases format with
  | yaml =>
    have hread := Yaml.ends_read s
    rw [DocumentFormat.read]
    split
    · trivial
    · trivial
    · rename_i m hm
      rcases hread.of_error hm with hnone | ⟨m', heq, hnames⟩
      · cases hnone
      · cases heq
        exact .yaml hformat hs hnames
  | json =>
    have hread := Json.ends_read s
    rw [DocumentFormat.read]
    split
    · trivial
    · trivial
    · rename_i n hn
      rcases hread.of_error hn with ⟨reason, rest, -, h⟩ | ⟨m, h, hlong⟩
      · cases h
      · cases h
        exact .json hformat hs hlong

lemma ends_loadDocument (d : Disk) (p : Path) :
    Ends (MayStop d p) (IsContent d p) (loadDocument d p) := by
  rw [loadDocument]
  split
  · rename_i f hhas
    obtain ⟨hlong, rfl⟩ := Disk.isLong_of_has hhas
    exact .longPath hlong
  · trivial
  · split
    · trivial
    · rename_i format hformat
      split
      · trivial
      · rename_i s hs
        have hread := ends_read_document hs hformat
        cases hvalue : format.read s with
        | error e => exact hread.of_error hvalue
        | ok v =>
          rw [ok_bind, Document.ofValue.eq_def]
          split
          · rename_i entries
            exact ⟨s, format, entries, hs, hformat, hvalue, rfl⟩
          · trivial

lemma isContent_of_loadDocument {d : Disk} {p : Path} {doc : Document}
    (h : loadDocument d p = .ok doc) : IsContent d p doc := (ends_loadDocument d p).of_ok h

namespace Command

open Run

/-! ### Reports -/

end Command

end CssMargin
