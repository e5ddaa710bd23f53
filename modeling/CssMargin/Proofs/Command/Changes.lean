/-
# What a run changes on the disk

The only run that changes the disk is the expansion of a file into another file, and it does so
after its last check: it makes the directory of the output file if that is missing, writes the file
and says so.  A run that is stopped by a check therefore leaves nothing behind.  One thing can
still go wrong after the checks, namely the writing itself; then nothing is printed and no file is
changed, but the directories that have been made until then stay.
-/
import CssMargin.Proofs.Command.Stages
import CssMargin.Proofs.Disk.Changes
namespace CssMargin.Command

open Run

/-- Whether a command line calls for a command. -/
def Calls (args : List Text) (name : Name) : Prop :=
  ∃ head, readHead args = .ok head ∧ head.name = name

section CommandLine

variable {args : List Text} {level level' format format' : Text} {t t' : Task}

lemma Asks.calls_iff (h : Asks args level format t) (name : Name) :
    Calls args name ↔ t.name = name := by
  obtain ⟨head, hhead, -, -, htask⟩ := h
  rw [name_of_readTask htask, Calls, hhead]
  constructor
  · rintro ⟨head', h, rfl⟩
    cases h
    rfl
  · exact fun h => ⟨head, rfl, h⟩

/-- A command line asks for one task only. -/
lemma Asks.unique (h : Asks args level format t) (h' : Asks args level' format' t') : t = t' := by
  obtain ⟨head, hhead, -, -, htask⟩ := h
  obtain ⟨head', hhead', -, -, htask'⟩ := h'
  rw [hhead] at hhead'
  cases hhead'
  rw [htask] at htask'
  cases htask'
  rfl

end CommandLine

/-! ### Tasks that keep the disk -/

lemma keeps_printListing (name : Name) (f : OutputFormat) (ds : List Declaration) :
    Keeps Session.disk (printListing name f ds) := by
  cases f with
  | json => exact keeps_printLine _
  | yaml => exact keeps_print (fun _ _ => rfl) _
  | text => exact keeps_forM fun d => keeps_printLine _

lemma keeps_performExpand (x : Surroundings) (values : List Text) (important : Option Bool)
    (origin format config : Option Text) :
    Keeps Session.disk (performExpand x values important origin format config) := by
  refine keeps_bind (keeps_settingsInForce x config).disk fun st => ?_
  dsimp only
  split
  · exact keeps_bind (keeps_log x _).disk fun _ => keeps_printListing _ _ _
  · exact (keeps_stop 2 _).disk

lemma keeps_performValidate (x : Surroundings) (path format : Text) :
    Keeps Session.disk (performValidate x path format) := by
  have hstop (code : Nat) (ps : List Problem) : Keeps Session.disk (stopCheck format code ps) := by
    rw [stopCheck]
    split
    · exact keeps_bind (keeps_printLine _) fun _ => keeps_throw _
    · exact (keeps_stop code ps).disk
  rw [performValidate]
  split
  · refine keeps_bind (keeps_load path).disk fun d => ?_
    split
    · exact hstop 1 _
    · split
      · exact hstop 2 _
      · split
        · exact keeps_printLine _
        · exact keeps_printLine _
  · exact (keeps_stop 2 _).disk

lemma keeps_performTables : Keeps Session.disk performTables :=
  keeps_bind (keeps_printLine _) fun _ => keeps_forM fun _ => keeps_printLine _

/-- No task but the expansion of a file changes the disk. -/
lemma keeps_perform {t : Task} (h : t.name ≠ .expandFile) (x : Surroundings) :
    Keeps Session.disk (perform x t) := by
  cases t with
  | expand values important origin format config =>
    exact keeps_performExpand x values important origin format config
  | expandFile path out format config => exact absurd rfl h
  | validate path format => exact keeps_performValidate x path format
  | tables => exact keeps_performTables

/-! ### Writing a listing -/

section Writing

variable {out : Text} {ds : List Declaration} {s : Session} {d : Disk}

/-- What can come of writing a listing: directories are made as far as they are missing, and then
either something fails or the file is written. -/
inductive Writes (out : Text) (ds : List Declaration) (s : Session) :
    Except Halt Unit × Session → Prop where
  /-- A directory cannot be made, or the file cannot be written. -/
  | fails {d : Disk} (f : DiskFault) (h : Disk.GrownAlong (Path.ofText out).parent s.disk d) :
    Writes out ds s (.error (.failure (.read (.disk f))), { s with disk := d })
  /-- The file is written. -/
  | ends {d d' : Disk} (h : Disk.GrownAlong (Path.ofText out).parent s.disk d)
    (hwrite : d.writeText (Path.ofText out) (listingYaml ds) = .ok d') :
    Writes out ds s (.ok (), { s with disk := d' })

/-- The last step of writing a listing: its directory is there, and the file is written or not. -/
lemma writes_of_grownAlong {o : Except Halt Unit × Session}
    (hgrown : Disk.GrownAlong (Path.ofText out).parent s.disk d)
    (hok : ∀ d', d.writeText (Path.ofText out) (listingYaml ds) = .ok d' →
      o = (.ok (), { s with disk := d' }))
    (herror : ∀ f, d.writeText (Path.ofText out) (listingYaml ds) = .error f →
      o = (.error (.failure (.read (.disk f))), { s with disk := d })) : Writes out ds s o := by
  cases hwrite : d.writeText (Path.ofText out) (listingYaml ds) with
  | ok d' =>
    rw [hok d' hwrite]
    exact .ends hgrown hwrite
  | error f =>
    rw [herror f hwrite]
    exact .fails f hgrown

lemma writes_writeListing (out : Text) (ds : List Declaration) (s : Session) :
    Writes out ds s ((writeListing out ds).outcome s) := by
  rw [writeListing]
  dsimp only
  by_cases hhere : (Path.ofText out).parent.text ≠ "."
  · rw [if_pos hhere, outcome_bind_of_ok (outcome_get s), outcome_bind_of_ok (outcome_modify _ s)]
    have hgrown := Disk.grownAlong_makeDirectories ((Path.ofText out).parts.length + 1) s.disk
      (Path.ofText out).parent
    generalize Disk.makeDirectories ((Path.ofText out).parts.length + 1) s.disk
      (Path.ofText out).parent = made at hgrown
    obtain ⟨r, d⟩ := made
    cases r with
    | ok u =>
      dsimp only
      rw [outcome_bind_of_ok (outcome_get _)]
      refine writes_of_grownAlong hgrown (fun d' hwrite => ?_) (fun f hwrite => ?_)
      · dsimp only
        rw [hwrite, outcome_modify]
      · dsimp only
        rw [hwrite, outcome_fail]
    | error f => exact .fails f hgrown
  · -- the file goes to the working directory, which is there
    rw [if_neg hhere, outcome_bind_of_ok (outcome_get _)]
    refine writes_of_grownAlong (.refl _ _) (fun d' hwrite => ?_) (fun f hwrite => ?_)
    · rw [hwrite, outcome_modify]
    · rw [hwrite, outcome_fail]

end Writing

/-! ### The whole run -/

/-- Whether a disk differs from an earlier one by a file at a path, and else by nothing but new
directories on the way to it. -/
def HoldsNewFile (p : Path) (d d' : Disk) : Prop :=
  ∃ l, d'.locate p = .ok l ∧ (∃ bytes, d'.at? l = some (.file bytes)) ∧
    ∀ k, k ≠ l → d'.at? k ≠ d.at? k → Disk.IsNewDirectory p.parent d d' k

lemma holdsNewFile_of_writeText {p : Path} {d d₁ d₂ : Disk} {s : List Char}
    (hgrown : Disk.GrownAlong p.parent d d₁) (hwrite : d₁.writeText p s = .ok d₂) :
    HoldsNewFile p d d₂ := by
  obtain ⟨l, hl, hat, hsame, hlocate⟩ := Disk.exists_place_of_writeText hwrite
  refine ⟨l, hl, ⟨_, hat⟩, fun k hk hchange => ?_⟩
  rw [hsame k hk] at hchange
  obtain ⟨hmissing, hdirectory, q, hq, hqk⟩ := hgrown.changes k hchange
  exact ⟨hmissing, (hsame k hk).trans hdirectory, q, hq, hlocate q k hqk⟩

/-- What can come of the expansion of a file: a stage stops it, its declarations are printed, the
output file cannot be written, or it is written. -/
inductive ExpandsFile (x : Surroundings) (path : Text) (format config : Option Text)
    (s : Session) : Option Text → Except Halt Unit × Session → Prop where
  /-- A stage stops it. -/
  | stops {out : Option Text} {e : Halt} {s' : Session} (hcode : (conclusion (.error e)).1 ≠ 0)
    (hvisible : s'.visible = s.visible) : ExpandsFile x path format config s out (.error e, s')
  /-- Its declarations are printed. -/
  | prints {s' : Session} (hdisk : s'.disk = s.disk) :
    ExpandsFile x path format config s none (.ok (), s')
  /-- A line with half a surrogate pair cannot be printed. -/
  | strays {out : Option Text} {half : Text.Stray} {s' : Session} :
    ExpandsFile x path format config s out (.error (.failure (.stray half)), s')
  /-- All checks are passed, and then the output file cannot be written. -/
  | fails {out : Text} {f : OutputFormat} {ss : List Shorthand} {s' : Session}
    (haccepts : Accepts x s.disk path format config f ss) (fault : DiskFault)
    (houtput : s'.output = s.output)
    (hgrown : Disk.GrownAlong (Path.ofText out).parent s.disk s'.disk) :
    ExpandsFile x path format config s (some out) (.error (.failure (.read (.disk fault))), s')
  /-- The output file is written, and that is said. -/
  | writes {out : Text} {f : OutputFormat} {ss : List Shorthand} {d : Disk} {s' : Session}
    (haccepts : Accepts x s.disk path format config f ss)
    (hgrown : Disk.GrownAlong (Path.ofText out).parent s.disk d)
    (hwrite : d.writeText (Path.ofText out) (listingYaml (ss.flatMap Shorthand.expand)) =
      .ok s'.disk)
    (houtput : (s'.output : Text) = s.output ++ Text.plain (("OK: wrote " ++
      toString (ss.flatMap Shorthand.expand).length ++ " declarations to " : String) ++ out ++
        "\n")) :
    ExpandsFile x path format config s (some out) (.ok (), s')

lemma expandsFile_performExpandFile (x : Surroundings) (path : Text)
    (out format config : Option Text) (s : Session) :
    ExpandsFile x path format config s out
      ((performExpandFile x path out format config).outcome s) := by
  by_cases h : ∃ f ss, Accepts x s.disk path format config f ss
  · obtain ⟨f, ss, haccepts⟩ := h
    rw [outcome_performExpandFile haccepts out]
    -- what was logged does not matter
    generalize hs' : { s with errors := s.errors ++ written s.logger x.time (trace path ss) } = s'
    have hdisk : s'.disk = s.disk := by rw [← hs']
    have houtput : s'.output = s.output := by rw [← hs']
    cases out with
    | none =>
      obtain ⟨t, ht⟩ := exists_outcome_printListing .expandFile f
        (ss.flatMap Shorthand.expand) s'
      rw [deliver, ht]
      rcases listingEnd_ok_or_stray f (ss.flatMap Shorthand.expand) with hend | ⟨half, hend⟩
      · rw [hend]
        exact .prints hdisk
      · rw [hend]
        exact .strays
    | some out =>
      have hwrites := writes_writeListing out (ss.flatMap Shorthand.expand) s'
      rw [deliver]
      generalize ho : (writeListing out (ss.flatMap Shorthand.expand)).outcome s' = o at hwrites
      cases hwrites with
      | fails fault hgrown =>
        rw [outcome_bind_of_error ho]
        exact .fails haccepts fault houtput (hdisk ▸ hgrown)
      | ends hgrown hwrite =>
        rw [outcome_bind_of_ok ho, printLine]
        generalize hline : Text.plain (("OK: wrote " ++
          toString (ss.flatMap Shorthand.expand).length ++ " declarations to " : String) ++ out ++
            "\n") = line
        cases hwhole : line.whole with
        | error half =>
          rw [outcome_print_of_error (hline ▸ hwhole)]
          exact .strays
        | ok u =>
          rw [outcome_print_of_ok (hline ▸ hwhole)]
          refine .writes haccepts (hdisk ▸ hgrown) hwrite ?_
          rw [houtput, hline, Text.eq_coe_of_whole hwhole, Text.coe_append_coe]
  · push Not at h
    obtain ⟨e, s', hs', hcode, hvisible⟩ := stops_performExpandFile h out
    rw [hs']
    exact .stops hcode hvisible

/-- **Only the target changes.**  Let any command line run on any disk.

* If it does not call for the expansion of a file, then the disk stays as it is.
* If it does, and the exit code is not 0, and the reason is not a text that cannot be printed, then
  nothing is printed on the standard output, and the disk stays as it is, unless all checks were
  passed and a directory could not be made or the output file could not be opened: then there may be
  new directories on the way to that file, and everything else is as it was.
* If it does, and the exit code is 0, then the disk stays as it is when no output file was named;
  else that file is there, and besides it there are only new directories on the way to it. -/
theorem execute_changes_only_target (x : Surroundings) (args : List Text) (d : Disk) :
    (¬ Calls args .expandFile → (execute x args d).2.disk = d) ∧
    (Calls args .expandFile → (conclusion (execute x args d).1).1 ≠ 0 →
      (∀ half, (execute x args d).1 ≠ .error (.failure (.stray half))) →
      (execute x args d).2.output = "" ∧
      ((execute x args d).2.disk = d ∨
        ∃ level logFormat path out format config f ss fault,
          Asks args level logFormat (.expandFile path (some out) format config) ∧
          Accepts x d path format config f ss ∧
          (execute x args d).1 = .error (.failure (.read (.disk fault))) ∧
          ∀ l, (execute x args d).2.disk.at? l ≠ d.at? l →
            Disk.IsNewDirectory (Path.ofText out).parent d (execute x args d).2.disk l)) ∧
    (∀ level logFormat path out format config,
      Asks args level logFormat (.expandFile path out format config) →
      (conclusion (execute x args d).1).1 = 0 →
      match out with
      | none => (execute x args d).2.disk = d
      | some out => HoldsNewFile (Path.ofText out) d (execute x args d).2.disk) := by
  rw [execute_eq_outcome]
  rcases program_stops_or x args (.start d) with ⟨e, s', hs', hcode, hvisible⟩ |
    ⟨level, logFormat, t, l, hasks, hrun⟩
  · -- nothing is done
    have hdisk : s'.disk = d := congrArg Prod.fst hvisible
    have houtput : s'.output = "" := congrArg Prod.snd hvisible
    rw [hs']
    exact ⟨fun _ => hdisk, fun _ _ _ => ⟨houtput, .inl hdisk⟩,
      fun _ _ _ _ _ _ _ hzero => absurd hzero hcode⟩
  · rw [hrun, hasks.calls_iff]
    refine ⟨fun hname => keeps_perform hname x _, fun hname => ?_, ?_⟩
    · cases t with
      | expandFile path out format config =>
        intro hcode hwhole
        have hexpands := expandsFile_performExpandFile x path out format config
          { Session.start d with logger := l }
        rw [perform] at hcode hwhole ⊢
        generalize (performExpandFile x path out format config).outcome
          { Session.start d with logger := l } = o at hexpands hcode hwhole
        cases hexpands with
        | stops _ hvisible =>
          exact ⟨congrArg Prod.snd hvisible, .inl (congrArg Prod.fst hvisible)⟩
        | fails haccepts fault houtput hgrown =>
          exact ⟨houtput, .inr ⟨_, _, _, _, _, _, _, _, fault, hasks, haccepts, rfl,
            hgrown.changes⟩⟩
        | prints => exact absurd rfl hcode
        | strays => exact absurd rfl (hwhole _)
        | writes => exact absurd rfl hcode
      | _ => cases hname
    · intro level' logFormat' path out format config hasks' hzero
      cases hasks.unique hasks'
      have hexpands := expandsFile_performExpandFile x path out format config
        { Session.start d with logger := l }
      rw [perform] at hzero ⊢
      generalize (performExpandFile x path out format config).outcome
        { Session.start d with logger := l } = o at hexpands hzero
      cases hexpands with
      | stops hcode => exact absurd hzero hcode
      | fails => simp [conclusion] at hzero
      | strays => simp [conclusion] at hzero
      | prints hdisk => exact hdisk
      | writes _ hgrown hwrite => exact holdsNewFile_of_writeText hgrown hwrite

/-- A disk with a document of one shorthand. -/
def oneMargin : Disk :=
  ⟨["work"], [(["work", "margins.yaml"],
    .file (Text.encodeUtf8 "declarations:\n- values: [1px, auto]\n".toList))]⟩

/-- The directory of an output file is made together with the one it is in, and nothing else. -/
theorem execute_changes_only_target_nested :
    let x : Surroundings := ⟨⟨⟨2000, 1, 1⟩, 0, 0, 0, 0, some 0⟩, none, fun _ => ""⟩
    let args : List Text := ["expand-file", "margins.yaml", "--out", "new/sub/out.yaml"]
    let out : Text := "new/sub/out.yaml"
    Asks args "WARNING" "text" (.expandFile "margins.yaml" (some out) none none) ∧
      (conclusion (execute x args oneMargin).1).1 = 0 ∧
      HoldsNewFile (Path.ofText out) oneMargin (execute x args oneMargin).2.disk := by
  intro x args out
  have hasks : Asks args "WARNING" "text" (.expandFile "margins.yaml" (some out) none none) :=
    ⟨⟨"WARNING", "text", .expandFile,
      (["margins.yaml", "--out", "new/sub/out.yaml"] : List Text)⟩,
      by decide +kernel, rfl, rfl, by decide +kernel⟩
  have hcode : (conclusion (execute x args oneMargin).1).1 = 0 := by decide +kernel
  exact ⟨hasks, hcode, (execute_changes_only_target x args oneMargin).2.2 _ _ _ _ _ _ hasks hcode⟩

/-- A directory stays behind when the output file turns out to be a directory itself: the path
`new/..` leads nowhere before `new` is made, and then to the working directory. -/
theorem execute_leaves_directory :
    let x : Surroundings := ⟨⟨⟨2000, 1, 1⟩, 0, 0, 0, 0, some 0⟩, none, fun _ => ""⟩
    let args : List Text := ["expand-file", "margins.yaml", "--out", "new/.."]
    Calls args .expandFile ∧ (conclusion (execute x args oneMargin).1).1 = 1 ∧
      oneMargin.at? ["work", "new"] = none ∧
      (execute x args oneMargin).2.disk.at? ["work", "new"] = some .directory := by
  intro x args
  refine ⟨⟨⟨"WARNING", "text", .expandFile,
      (["margins.yaml", "--out", "new/.."] : List Text)⟩,
    by decide +kernel, rfl⟩, by decide +kernel, by decide +kernel, by decide +kernel⟩

end CssMargin.Command
