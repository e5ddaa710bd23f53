/-
# Files with the same text

What is loaded from a file depends only on the text that is read from it, and all line ends are read
alike.  So it does not matter how the lines of a file are ended: the document or the settings are
the same, and so is what is reported, with the places in it, since these are places in the text that
was read.  This is `loadedAlike_of_endLines`; `loadedAlike_of_respells` is about files in which
different line ends are mixed.

How the reader of YAML words what is wrong with a text is left open.  The wording may count lines,
columns and characters and quote the text, but it is made from the text alone.
-/
import CssMargin.Proofs.Disk.WriteRead
import CssMargin.Proofs.Json.Faults
import CssMargin.Proofs.Text.LineEnds
import CssMargin.Settings.Load
namespace CssMargin

/-! ### What is reported -/

/-- The problem that is reported when the document at a path is loaded, if there is one; `say` words
what is wrong with a YAML text. -/
def loadReport (say : List Char → String) (d : Disk) (p : Path) : Option Problem :=
  match loadDocument d p with
  | .error (.fault f) => some (f.report say p.text)
  | _ => none

/-- The message that is reported when the settings at a path are read, if there is one; `say` words
what is wrong with a YAML text. -/
def settingsReport (say : List Char → String) (d : Disk) (p : Path) : Option Text :=
  match loadOverrides d p with
  | .error (.fault f) => some (f.message say)
  | _ => none

/-! ### Places in the text -/

section Places

variable {d : Disk} {p : Path} {s : List Char} {report : String}

lemma exists_fault_of_badJson {format : DocumentFormat}
    (h : format.read s = .error (.fault (.badJson report))) :
    ∃ reason rest, Json.read s = .error (.malformed reason rest) ∧
      report = reason.report rest s := by
  cases format with
  | yaml =>
    rw [DocumentFormat.read] at h
    split at h <;> cases h
  | json =>
    rw [DocumentFormat.read] at h
    split at h
    · cases h
    · rename_i reason rest hread
      cases h
      exact ⟨reason, rest, hread, rfl⟩
    · cases h

/-- The report on a text that is not JSON names the place in it where its reader stopped. -/
lemma exists_place_of_badJson (hread : d.readText p = .ok s)
    (h : loadDocument d p = .error (.fault (.badJson report))) :
    ∃ reason before rest, s = before ++ rest ∧
      Json.read s = .error (.malformed reason rest) ∧
      report = reason.text ++ ": " ++ Json.placeText before := by
  have hformat : ∃ format, DocumentFormat.read format s = .error (.fault (.badJson report)) := by
    rw [loadDocument, hread] at h
    split at h
    · cases h
    · cases h
    · split at h
      · cases h
      · rename_i format _
        refine ⟨format, ?_⟩
        dsimp only at h
        cases hvalue : format.read s with
        | error e =>
          rw [hvalue, error_bind] at h
          cases h
          rfl
        | ok v =>
          rw [hvalue, ok_bind, Document.ofValue.eq_def] at h
          split at h <;> cases h
  obtain ⟨format, hbad⟩ := hformat
  obtain ⟨reason, rest, hfault, rfl⟩ := exists_fault_of_badJson hbad
  obtain ⟨before, hs, hreport⟩ := Json.exists_report_eq hfault
  exact ⟨reason, before, rest, hs, hfault, hreport⟩

end Places

/-! ### Files -/

/-- Whether a path leads to a file with a text. -/
def Disk.Holds (d : Disk) (p : Path) (s : List Char) : Prop :=
  d.readFile p = .ok (Text.encodeUtf8 s)

/-- Whether the file at a path is loaded alike from two disks, as a document and as settings. -/
structure LoadedAlike (d d' : Disk) (p : Path) : Prop where
  /-- The same document is loaded, or loading it stops in the same way. -/
  document : loadDocument d' p = loadDocument d p
  /-- The same problem is reported, if there is one. -/
  problem : ∀ say, loadReport say d' p = loadReport say d p
  /-- The same is set, or reading the settings stops in the same way. -/
  settings : loadOverrides d' p = loadOverrides d p
  /-- The same message is reported, if there is one. -/
  message : ∀ say, settingsReport say d' p = settingsReport say d p

section Files

variable {d d' : Disk} {p : Path} {s : List Char}

/-- Loading looks at nothing but the text that is read. -/
lemma loadedAlike_of_readText (hhas : d'.has p = d.has p) (hread : d'.readText p = d.readText p) :
    LoadedAlike d d' p := by
  have hdocument : loadDocument d' p = loadDocument d p := by
    rw [loadDocument, loadDocument, hhas, hread]
  have hsettings : loadOverrides d' p = loadOverrides d p := by
    rw [loadOverrides, loadOverrides, hread]
  refine ⟨hdocument, fun say => ?_, hsettings, fun say => ?_⟩
  · rw [loadReport, loadReport, hdocument]
  · rw [settingsReport, settingsReport, hsettings]

/-- So two files are loaded alike if their texts are two ways to write the same text, even if
different line ends are mixed in them. -/
theorem loadedAlike_of_respells {t t' : List Char} (ht : Text.Respells s t)
    (ht' : Text.Respells s t') (h : d.Holds p t) (h' : d'.Holds p t') : LoadedAlike d d' p := by
  have hhas := Disk.has_of_readFile h
  have hhas' := Disk.has_of_readFile h'
  have hread := Disk.readText_of_readFile h
  have hread' := Disk.readText_of_readFile h'
  rw [Text.unifyLines_eq_iff.2 ht] at hread
  rw [Text.unifyLines_eq_iff.2 ht'] at hread'
  exact loadedAlike_of_readText (hhas'.trans hhas.symm) (hread'.trans hread.symm)

/-- **Line ends.**  Let a file hold a text without carriage returns, and let a file at the same path
hold this text with every line feed replaced by some line end.

* The two files are loaded alike, as documents and as settings.
* Both are read as the text itself, and a document with a known ending is what this text is in its
  format.
* A report that the document is not JSON names the place in this text where its reader stopped. -/
theorem loadedAlike_of_endLines (hs : '\r' ∉ s) (e : Text.LineEnd) (h : d.Holds p s)
    (h' : d'.Holds p (Text.endLines e s)) :
    LoadedAlike d d' p ∧
      d'.readText p = .ok s ∧
      (∀ format, DocumentFormat.ofSuffix? p.suffix = some format →
        loadDocument d' p = (format.read s >>= Document.ofValue p.text)) ∧
      ∀ report, loadDocument d' p = .error (.fault (.badJson report)) →
        ∃ reason before rest, s = before ++ rest ∧
          Json.read s = .error (.malformed reason rest) ∧
          report = reason.text ++ ": " ++ Json.placeText before := by
  have hself : Text.Respells s s := Text.unifyLines_eq_iff.1 (Text.unifyLines_eq_self hs)
  have hread' := Disk.readText_of_readFile h'
  rw [Text.unifyLines_endLines hs] at hread'
  refine ⟨loadedAlike_of_respells hself (Text.respells_endLines hs e) h h', hread', ?_, ?_⟩
  · intro format hformat
    exact loadDocument_of_readText (Disk.has_of_readFile h') hformat hread'
  · intro report hreport
    exact exists_place_of_badJson hread' hreport

end Files

/-- A disk with a document and settings of the same text. -/
def twoFiles (t : List Char) : Disk :=
  ⟨["work"], [(["work", "in.JSON"], .file (Text.encodeUtf8 t)),
    (["work", "set.yaml"], .file (Text.encodeUtf8 t))]⟩

/-- A document with an empty line and a line end inside a string. -/
def brokenString : List Char :=
  "\x7b\"declarations\": [\n\n  \x7b\"values\": [\"1px\n\"]\x7d\n]\x7d\n".toList

/-- The place that is reported is the same whichever way the lines of the document are ended. -/
theorem loadedAlike_of_endLines_brokenString :
    let p := Path.ofText "in.JSON"
    let both := Text.endLines .both brokenString
    let alone := Text.endLines .carriageReturn brokenString
    let report := "Invalid control character at: line 3 column 19 (char 38)"
    '\r' ∉ brokenString ∧ (twoFiles brokenString).Holds p brokenString ∧
      (twoFiles both).Holds p both ∧ (twoFiles alone).Holds p alone ∧
      LoadedAlike (twoFiles brokenString) (twoFiles both) p ∧
      LoadedAlike (twoFiles brokenString) (twoFiles alone) p ∧
      loadDocument (twoFiles both) p = .error (.fault (.badJson report)) ∧
      loadDocument (twoFiles alone) p = .error (.fault (.badJson report)) ∧
      ∃ reason before rest, brokenString = before ++ rest ∧
        Json.read brokenString = .error (.malformed reason rest) ∧
        report = reason.text ++ ": " ++ Json.placeText before := by
  intro p both alone report
  have hs : '\r' ∉ brokenString := by decide +kernel
  have hboth : (twoFiles both).Holds p both := by
    rw [Disk.Holds]
    decide +kernel
  have halone : (twoFiles alone).Holds p alone := by
    rw [Disk.Holds]
    decide +kernel
  have hplain : (twoFiles brokenString).Holds p brokenString := by
    rw [Disk.Holds]
    decide +kernel
  obtain ⟨hlike, -, -, hplace⟩ := loadedAlike_of_endLines hs .both hplain hboth
  have hlike' := (loadedAlike_of_endLines hs .carriageReturn hplain halone).1
  -- whether two documents are the same need not be decided
  have hload : (loadDocument (twoFiles both) p).map (fun _ => ()) =
      .error (.fault (.badJson report)) := by decide +kernel
  have hreport := eq_error_of_map hload
  refine ⟨hs, hplain, hboth, halone, hlike, hlike', hreport, ?_, hplace _ hreport⟩
  rw [hlike'.document, ← hlike.document, hreport]

/-- Line ends between quotation marks and an empty line in settings. -/
example : loadOverrides (twoFiles (Text.endLines .carriageReturn
    "origin:\n\n  \"us\\\n   er\"\nformat: 'json'\n\n".toList)) (Path.ofText "set.yaml") =
    .ok ⟨some .user, none, some .json⟩ := by decide +kernel

end CssMargin
