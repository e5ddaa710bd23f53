/-
# A listing saved and a listing shown

The declarations of a file can be written to an output file or printed in YAML.  What is printed
goes through an output that leaves colour codes out, what is written does not; but the text of a
listing never has the character that a colour code begins with, so the two are the same.  Both runs
go through the same stages, which end in the same way because the disk and the settings are the
same; from there on each is followed to its end.
-/
import CssMargin.Proofs.Command.Changes
import CssMargin.Proofs.Listing.Yaml
import CssMargin.Proofs.Shorthand.Expansion
namespace CssMargin.Command

open Run

section Runs

variable {x x' : Surroundings} {args : List Text} {d : Disk}
  {level logFormat path out : Text} {format config config' : Option Text}

/-- A run that writes its listing to a file and ends with the exit code 0 was stopped nowhere. -/
lemma exists_accepts_of_writing (hasks : Asks args level logFormat
      (.expandFile path (some out) format config))
    (hzero : (conclusion (execute x args d).1).1 = 0) :
    ∃ (f : OutputFormat) (ss : List Shorthand) (d₁ d₂ : Disk), Accepts x d path format config f ss ∧
      d₁.writeText (Path.ofText out) (listingYaml (ss.flatMap Shorthand.expand)) = .ok d₂ ∧
      (execute x args d).2.disk = d₂ ∧
      ((execute x args d).2.output : Text) = Text.plain
        (("OK: wrote " ++ toString (ss.flatMap Shorthand.expand).length ++ " declarations to " :
          String) ++ out ++ "\n") := by
  rw [execute_eq_outcome] at hzero ⊢
  rcases program_stops_or x args (.start d) with ⟨e, s', hs', hcode, -⟩ |
    ⟨level', logFormat', t, l, hasks', hrun⟩
  · rw [hs'] at hzero
    exact absurd hzero hcode
  · cases hasks.unique hasks'
    have hexpands := expandsFile_performExpandFile x path (some out) format config
      { Session.start d with logger := l }
    rw [hrun, perform] at hzero ⊢
    generalize (performExpandFile x path (some out) format config).outcome
      { Session.start d with logger := l } = o at hexpands hzero ⊢
    cases hexpands with
    | stops hcode => exact absurd hzero hcode
    | fails => simp [conclusion] at hzero
    | strays => simp [conclusion] at hzero
    | writes haccepts hgrown hwrite houtput =>
      refine ⟨_, _, _, _, haccepts, hwrite, rfl, ?_⟩
      rw [houtput]
      rfl

/-- A run that prints its listing in YAML, and that is stopped nowhere. -/
lemma execute_of_accepts {ss : List Shorthand}
    (hasks : Asks args level logFormat (.expandFile path none (some ("yaml" : Text)) config))
    (hlogging : AcceptsLogging level logFormat)
    (haccepts : Accepts x d path (some ("yaml" : Text)) config .yaml ss) :
    (execute x args d).1 = .ok () ∧ (execute x args d).2.output =
      String.ofList (listingYaml (ss.flatMap Shorthand.expand)) := by
  obtain ⟨l, hl⟩ := exists_outcome_setUpLogging hlogging (.start d)
  have hprint := outcome_print_of_ok
    (by rw [plain_listingYaml (ss.flatMap Shorthand.expand), Text.whole_coe])
  rw [execute_eq_outcome, outcome_program hasks, outcome_bind_of_ok hl, perform,
    outcome_performExpandFile (s := { Session.start d with logger := l }) haccepts, deliver,
    printListing, hprint]
  exact ⟨rfl, String.empty_append⟩

/-- The stages agree on the same shorthands when the settings file is the same, whatever the format
is. -/
lemma Accepts.yaml {f : OutputFormat} {ss : List Shorthand}
    (h : Accepts x d path format config f ss)
    (hsettings : settingsName x' config' = settingsName x config) :
    Accepts x' d path (some ("yaml" : Text)) config' .yaml ss := by
  obtain ⟨st, doc, hst, -, hdoc, hcheck⟩ := h
  exact ⟨st, doc, hsettings ▸ hst, OutputFormat.ofName?_name .yaml, hdoc, hcheck⟩

end Runs

/-- **Saved and shown alike.**  Let a command line ask for the listing of a file to be written to
an output file, and let its run end with the exit code 0.  Then on the same disk and with the same
settings file the listing can be printed in YAML: that run ends well, what it prints is, in UTF-8,
the content of the output file after the first run, and the first run reports four times as many
declarations as the file has shorthands. -/
theorem execute_writes_what_it_prints (x x' : Surroundings) (d : Disk)
    {writing printing : List Text} {level logFormat level' logFormat' path out : Text}
    {format config config' : Option Text}
    (hwriting : Asks writing level logFormat (.expandFile path (some out) format config))
    (hprinting : Asks printing level' logFormat'
      (.expandFile path none (some ("yaml" : Text)) config'))
    (hlogging : AcceptsLogging level' logFormat')
    (hsettings : settingsName x' config' = settingsName x config)
    (hzero : (conclusion (execute x writing d).1).1 = 0) :
    ∃ f ss, Accepts x d path format config f ss ∧
      (execute x' printing d).1 = .ok () ∧
      (execute x writing d).2.disk.readFile (Path.ofText out) =
        .ok (Text.encodeUtf8 (execute x' printing d).2.output.toList) ∧
      ((execute x writing d).2.output : Text) = Text.plain (("OK: wrote " ++
        toString (4 * ss.length) ++ " declarations to " : String) ++ out ++ "\n") := by
  obtain ⟨f, ss, d₁, d₂, haccepts, hwrite, hdisk, houtput⟩ :=
    exists_accepts_of_writing hwriting hzero
  obtain ⟨hok, hprinted⟩ := execute_of_accepts hprinting hlogging (haccepts.yaml hsettings)
  refine ⟨f, ss, haccepts, hok, ?_, ?_⟩
  · rw [hdisk, hprinted, String.toList_ofList]
    exact Disk.readFile_of_writeFile hwrite
  · obtain ⟨st, doc, -, -, -, hcheck⟩ := haccepts
    rw [houtput, length_flatMap_expand hcheck]

/-- A disk with a settings file and a document whose value has colour codes. -/
def colouredMargin : Disk :=
  ⟨["work"], [
    (["work", "settings.yaml"], .file (Text.encodeUtf8 "format: json\n".toList)),
    (["work", "margins.yaml"], .file (Text.encodeUtf8
      "declarations:\n- values: [\"\\e[31mred\\e[0m\", 1px]\n".toList))]⟩

/-- The colour codes are both saved and shown; the settings file is named in two ways. -/
theorem execute_writes_what_it_prints_coloured :
    let config : Text := "settings.yaml"
    let yaml : Text := "yaml"
    let out : Text := "new/out.yaml"
    let x : Surroundings := ⟨⟨⟨2000, 1, 1⟩, 0, 0, 0, 0, some 0⟩, some config, fun _ => ""⟩
    let x' : Surroundings := ⟨⟨⟨2001, 2, 3⟩, 4, 5, 6, 7, some 0⟩, none, fun _ => ""⟩
    let writing : List Text :=
      ["--log-level=info", "expand-file", "margins.yaml", "--out", "new/out.yaml"]
    let printing : List Text :=
      ["expand-file", "--config=settings.yaml", "margins.yaml", "--format", "yaml"]
    Asks writing "info" "text" (.expandFile "margins.yaml" (some out) none none) ∧
      Asks printing "WARNING" "text" (.expandFile "margins.yaml" none (some yaml) (some config)) ∧
      AcceptsLogging "WARNING" "text" ∧
      settingsName x' (some config) = settingsName x none ∧
      (conclusion (execute x writing colouredMargin).1).1 = 0 ∧
      ∃ f ss, Accepts x colouredMargin "margins.yaml" none none f ss ∧
        (execute x' printing colouredMargin).1 = .ok () ∧
        (execute x writing colouredMargin).2.disk.readFile (Path.ofText out) =
          .ok (Text.encodeUtf8 (execute x' printing colouredMargin).2.output.toList) ∧
        ((execute x writing colouredMargin).2.output : Text) = Text.plain (("OK: wrote " ++
          toString (4 * ss.length) ++ " declarations to " : String) ++ out ++ "\n") := by
  intro config yaml out x x' writing printing
  have hwriting : Asks writing "info" "text" (.expandFile "margins.yaml" (some out) none none) :=
    ⟨⟨"info", "text", .expandFile, (["margins.yaml", "--out", "new/out.yaml"] : List Text)⟩,
      by decide +kernel, rfl, rfl, by decide +kernel⟩
  have hprinting : Asks printing "WARNING" "text"
      (.expandFile "margins.yaml" none (some yaml) (some config)) :=
    ⟨⟨"WARNING", "text", .expandFile,
      (["--config=settings.yaml", "margins.yaml", "--format", "yaml"] : List Text)⟩,
      by decide +kernel, rfl, rfl, by decide +kernel⟩
  have hlogging : AcceptsLogging "WARNING" "text" := by decide +kernel
  have hsettings : settingsName x' (some config) = settingsName x none := by decide +kernel
  have hzero : (conclusion (execute x writing colouredMargin).1).1 = 0 := by decide +kernel
  exact ⟨hwriting, hprinting, hlogging, hsettings, hzero, execute_writes_what_it_prints x x'
    colouredMargin hwriting hprinting hlogging hsettings hzero⟩

end CssMargin.Command
