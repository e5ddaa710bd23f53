/-
# The options for logging do not matter

Whatever the command line says about logging, as long as it is accepted, a run ends in the same way,
prints the same on the standard output and leaves the same disk.  Records are logged late: every
check of a command comes before the first of them.  So a run that does not end well prints the same
on the standard error too, with one exception: an expansion that has passed all checks and then
cannot write its output file has logged what it was about to write.
-/
import CssMargin.Proofs.Command.Changes
import CssMargin.Proofs.Command.TwoRuns
namespace CssMargin.Command

open Run

/-! ### The expansion of a file -/

section ExpandFile

variable {γ : Type} {view : Session → γ} {x : Surroundings} {path : Text}
  {out format config : Option Text} {s s' : Session}

lemma follows_stages (h : ShowsDisk view) (x : Surroundings) (path : Text)
    (format config : Option Text) : Follows view (stages x path format config) := by
  rw [stages]
  refine follows_bind (h.follows_settingsInForce x config) fun st => ?_
  split
  · exact h.follows_stop _ _
  · refine follows_bind (h.follows_load path) fun r => ?_
    split
    · exact h.follows_stop _ _
    · split
      · exact h.follows_stop _ _
      · exact follows_pure _

lemma follows_deliver (h : ShowsDisk view) (out : Option Text) (f : OutputFormat)
    (ds : List Declaration) : Follows view (deliver out f ds) := by
  cases out with
  | none => exact h.follows_printListing _ _ _
  | some out => exact follows_bind (h.follows_writeListing out ds) fun _ => h.follows_printLine _

/-- If the stages end well, nothing was wrong. -/
lemma exists_accepts_of_stages {r : OutputFormat × List Shorthand}
    (h : (stages x path format config).outcome s = (.ok r, s')) :
    ∃ f ss, Accepts x s.disk path format config f ss := by
  by_contra hnone
  push Not at hnone
  obtain ⟨e, t, hstop, -, -⟩ := stops_stages hnone
  cases h.symm.trans hstop

/-- An expansion of a file that does not end well leaves sessions that differ in their loggers
only, unless all was in order and then the output file or a text cannot be written. -/
lemma performExpandFile_stops_alike (hs : s.withoutLogger = s'.withoutLogger) {e : Halt}
    (he : ((performExpandFile x path out format config).outcome s).1 = .error e) :
    ((performExpandFile x path out format config).outcome s).2.withoutLogger =
        ((performExpandFile x path out format config).outcome s').2.withoutLogger ∨
      (∃ out' f ss fault, out = some out' ∧ Accepts x s.disk path format config f ss ∧
        e = .failure (.read (.disk fault))) ∨
      ∃ half, e = .failure (.stray half) := by
  by_cases haccepts : ∃ f ss, Accepts x s.disk path format config f ss
  · right
    obtain ⟨f, ss, haccepts⟩ := haccepts
    rw [outcome_performExpandFile haccepts out] at he
    generalize { s with errors := s.errors ++ written s.logger x.time (trace path ss) } = t at he
    cases out with
    | none =>
      rw [deliver, fst_outcome_printListing] at he
      exact .inr (stray_of_listingEnd he)
    | some out =>
      have hwrites := writes_writeListing out (ss.flatMap Shorthand.expand) t
      rw [deliver] at he
      generalize ho : (writeListing out (ss.flatMap Shorthand.expand)).outcome t = o at hwrites
      cases hwrites with
      | fails fault hgrown =>
        rw [outcome_bind_of_error ho] at he
        cases he
        exact .inl ⟨out, f, ss, fault, rfl, haccepts, rfl⟩
      | ends hgrown hwrite =>
        rw [outcome_bind_of_ok ho] at he
        exact .inr (stray_of_print he)
  · left
    have hfollows := follows_stages showsDisk_withoutLogger x path format config
    rw [performExpandFile_eq_bind]
    rcases hfollows.stops_or_goes hs with ⟨e, t, t', h, h', hsame⟩ | ⟨r, t, t', h, h', hsame⟩
    · rw [outcome_bind_of_error h, outcome_bind_of_error h']
      exact hsame
    · exact absurd (exists_accepts_of_stages h) haccepts

end ExpandFile

/-- An expansion of one shorthand that does not end well leaves sessions that differ in their
loggers only, unless all was in order and then a text cannot be written. -/
lemma performExpand_stops_alike {x : Surroundings} {values : List Text} {important : Option Bool}
    {origin format config : Option Text} {s s' : Session}
    (hs : s.withoutLogger = s'.withoutLogger) {e : Halt}
    (he : ((performExpand x values important origin format config).outcome s).1 = .error e) :
    ((performExpand x values important origin format config).outcome s).2.withoutLogger =
        ((performExpand x values important origin format config).outcome s').2.withoutLogger ∨
      ∃ half, e = .failure (.stray half) := by
  have hfollows := showsDisk_withoutLogger.follows_settingsInForce x config
  rw [performExpand_eq_bind] at he ⊢
  rcases hfollows.stops_or_goes hs with ⟨e, t, t', h, h', hsame⟩ | ⟨st, t, t', h, h', hsame⟩
  · rw [outcome_bind_of_error h, outcome_bind_of_error h']
    exact .inl hsame
  · rw [outcome_bind_of_ok h] at he
    rw [outcome_bind_of_ok h, outcome_bind_of_ok h']
    rcases expandAs_stops_or_ends x values (important.getD st.important)
      (origin.getD st.origin.name) (format.getD st.format.name) with ⟨ps, hps⟩ | ⟨f, ds, hends⟩
    · rw [hps]
      exact .inl (showsPrints_withoutLogger.follows_stop 2 ps t t' hsame).2
    · exact .inr (stray_of_listingEnd ((hends t).symm.trans he))

/-! ### The whole run -/

lemma follows_perform (x : Surroundings) (t : Task) : Follows Session.visible (perform x t) := by
  cases t with
  | expand values important origin format config =>
    refine follows_bind (showsDisk_visible.follows_settingsInForce x config) fun st => ?_
    exact follows_expandAs x values _ _ _ showsPrints_visible (follows_log_visible x)
  | expandFile path out format config =>
    rw [perform, performExpandFile_eq_bind]
    refine follows_bind (follows_stages showsDisk_visible x path format config) fun r => ?_
    refine follows_bind ?_ fun _ => follows_deliver showsDisk_visible _ _ _
    exact follows_bind (follows_forM fun sh => follows_log_visible x _) fun _ =>
      follows_log_visible x _
  | validate path format => exact showsDisk_visible.follows_performValidate x path format
  | tables => exact showsDisk_visible.follows_performTables

/-- A task that does not end well leaves sessions that differ in their loggers only, unless it was
to write a file, or a text, that it cannot write. -/
lemma perform_stops_alike {x : Surroundings} {t : Task} {s s' : Session}
    (hs : s.withoutLogger = s'.withoutLogger) {e : Halt}
    (he : ((perform x t).outcome s).1 = .error e) :
    ((perform x t).outcome s).2.withoutLogger = ((perform x t).outcome s').2.withoutLogger ∨
      (∃ path out format config f ss fault, t = .expandFile path (some out) format config ∧
        Accepts x s.disk path format config f ss ∧ e = .failure (.read (.disk fault))) ∨
      ∃ half, e = .failure (.stray half) := by
  cases t with
  | expand values important origin format config =>
    rcases performExpand_stops_alike hs he with hsame | hhalf
    · exact .inl hsame
    · exact .inr (.inr hhalf)
  | expandFile path out format config =>
    rcases performExpandFile_stops_alike hs he with
      hsame | ⟨_, f, ss, fault, rfl, haccepts, rfl⟩ | hhalf
    · exact .inl hsame
    · exact .inr (.inl ⟨path, _, format, config, f, ss, fault, rfl, haccepts, rfl⟩)
    · exact .inr (.inr hhalf)
  | validate path format =>
    exact .inl (showsDisk_withoutLogger.follows_performValidate x path format s s' hs).2
  | tables => exact .inl (showsDisk_withoutLogger.follows_performTables s s' hs).2

section Command

variable {x : Surroundings} {name : Name} {rest : List Text} {s s' : Session}

lemma follows_command (x : Surroundings) (name : Name) (rest : List Text) :
    Follows Session.visible (ofUsage (readTask name rest) >>= perform x) := by
  refine follows_bind ?_ fun t => follows_perform x t
  cases readTask name rest with
  | error f => exact follows_throw _
  | ok t => exact follows_pure t

lemma command_stops_alike (hs : s.withoutLogger = s'.withoutLogger) {e : Halt}
    (he : ((ofUsage (readTask name rest) >>= perform x).outcome s).1 = .error e) :
    ((ofUsage (readTask name rest) >>= perform x).outcome s).2.errors =
        ((ofUsage (readTask name rest) >>= perform x).outcome s').2.errors ∨
      (∃ path out format config f ss fault,
        readTask name rest = .ok (.expandFile path (some out) format config) ∧
        Accepts x s.disk path format config f ss ∧ e = .failure (.read (.disk fault))) ∨
      ∃ half, e = .failure (.stray half) := by
  cases htask : readTask name rest with
  | error f => exact .inl (Session.withoutLogger_eq_iff.1 hs).2.2
  | ok t =>
    rw [htask] at he
    rcases perform_stops_alike hs he with
      hsame | ⟨_, _, _, _, f, ss, fault, rfl, haccepts, rfl⟩ | hhalf
    · exact .inl (Session.withoutLogger_eq_iff.1 hsame).2.2
    · exact .inr (.inl ⟨_, _, _, _, f, ss, fault, rfl, haccepts, rfl⟩)
    · exact .inr (.inr hhalf)

end Command

/-- A run whose logging options are accepted has a logger when it goes on. -/
lemma exists_outcome_program {args : List Text} {level logFormat : Text} {name : Name}
    {rest : List Text} (hhead : readHead args = .ok ⟨level, logFormat, name, rest⟩)
    (hlogging : AcceptsLogging level logFormat) (x : Surroundings) (d : Disk) :
    ∃ l, execute x args d = (ofUsage (readTask name rest) >>= perform x).outcome
      { Session.start d with logger := l } := by
  obtain ⟨l, hl⟩ := exists_outcome_setUpLogging hlogging (.start d)
  refine ⟨l, ?_⟩
  rw [execute_eq_outcome, outcome_program_of_readHead hhead, outcome_bind_of_ok hl]

/-- The exit code of a run.  A run that a failure has ended has none. -/
def exitCode? : Except Halt Unit → Option UInt32
  | .error (.failure _) => none
  | r => some (conclusion r).1

/-- **Logging has no influence.**  Let two command lines ask for the same command with the same
arguments, and let what they say about logging be accepted.  Then their runs end in the same way,
print the same on the standard output and leave the same disk.  If they end with an exit code that
is not 0, they print the same on the standard error; and if a failure ends them, they do so too,
unless all checks were passed, and then the output file of the expansion of a file cannot be
written, or a text cannot be printed. -/
theorem execute_eq_of_logOptions (x : Surroundings) (d : Disk) {args args' rest : List Text}
    {level level' logFormat logFormat' : Text} {name : Name}
    (hargs : readHead args = .ok ⟨level, logFormat, name, rest⟩)
    (hargs' : readHead args' = .ok ⟨level', logFormat', name, rest⟩)
    (hlogging : AcceptsLogging level logFormat) (hlogging' : AcceptsLogging level' logFormat') :
    (execute x args d).1 = (execute x args' d).1 ∧
    (execute x args d).2.output = (execute x args' d).2.output ∧
    (execute x args d).2.disk = (execute x args' d).2.disk ∧
    (∀ code, exitCode? (execute x args d).1 = some code → code ≠ 0 →
      (execute x args d).2.errors = (execute x args' d).2.errors) ∧
    ∀ f, (execute x args d).1 = .error (.failure f) →
      (execute x args d).2.errors = (execute x args' d).2.errors ∨
      (∃ path out format config outFormat ss fault,
        readTask name rest = .ok (.expandFile path (some out) format config) ∧
        Accepts x d path format config outFormat ss ∧ f = .read (.disk fault)) ∨
      ∃ half, f = .stray half := by
  obtain ⟨l, hl⟩ := exists_outcome_program hargs hlogging x d
  obtain ⟨l', hl'⟩ := exists_outcome_program hargs' hlogging' x d
  rw [hl, hl']
  have hstart : ({ Session.start d with logger := l } : Session).withoutLogger
      = ({ Session.start d with logger := l' } : Session).withoutLogger := rfl
  obtain ⟨hend, hvisible⟩ := follows_command x name rest { Session.start d with logger := l }
    { Session.start d with logger := l' } rfl
  obtain ⟨hdisk, houtput⟩ := Session.visible_eq_iff.1 hvisible
  refine ⟨hend, houtput, hdisk, ?_, ?_⟩
  · intro code hcode hne
    generalize hresult : ((ofUsage (readTask name rest) >>= perform x).outcome
      { Session.start d with logger := l }).1 = result at hcode
    cases result with
    | ok u =>
      cases hcode
      exact absurd rfl hne
    | error e =>
      rcases command_stops_alike hstart hresult with
        hsame | ⟨_, _, _, _, _, _, _, _, _, rfl⟩ | ⟨half, rfl⟩
      · exact hsame
      · cases hcode
      · cases hcode
  · intro f hf
    rcases command_stops_alike hstart hf with
      hsame | ⟨path, out, format, config, outFormat, ss, fault, htask, haccepts, hfault⟩ |
      ⟨half, hfault⟩
    · exact .inl hsame
    · cases hfault
      exact .inr (.inl ⟨path, out, format, config, outFormat, ss, fault, htask, haccepts, rfl⟩)
    · cases hfault
      exact .inr (.inr ⟨half, rfl⟩)

/-- Two command lines about the same file with bad entries: the first has options for logging, and
the report is the same. -/
theorem execute_eq_of_logOptions_badEntries :
    let x : Surroundings :=
      ⟨⟨⟨2000, 1, 1⟩, 0, 0, 0, 0, some 0⟩, some ("settings.yaml" : Text), fun _ => ""⟩
    let args : List Text :=
      ["--log-format=json", "--log-level", "Debug", "expand-file", "margins.yaml"]
    let args' : List Text := ["expand-file", "margins.yaml"]
    let rest : List Text := ["margins.yaml"]
    readHead args = .ok ⟨"Debug", "json", .expandFile, rest⟩ ∧
    readHead args' = .ok ⟨"WARNING", "text", .expandFile, rest⟩ ∧
    AcceptsLogging "Debug" "json" ∧ AcceptsLogging "WARNING" "text" ∧
    (execute x args badEntries).1 = (execute x args' badEntries).1 ∧
    (execute x args badEntries).2.output = (execute x args' badEntries).2.output ∧
    (execute x args badEntries).2.disk = (execute x args' badEntries).2.disk ∧
    exitCode? (execute x args badEntries).1 = some 2 ∧
    (execute x args badEntries).2.errors = (execute x args' badEntries).2.errors := by
  intro x args args' rest
  have hargs : readHead args = .ok ⟨"Debug", "json", .expandFile, rest⟩ := by decide +kernel
  have hargs' : readHead args' = .ok ⟨"WARNING", "text", .expandFile, rest⟩ := by decide +kernel
  have hlogging : AcceptsLogging "Debug" "json" := by decide +kernel
  have hlogging' : AcceptsLogging "WARNING" "text" := by decide +kernel
  have hcode : exitCode? (execute x args badEntries).1 = some 2 := by decide +kernel
  obtain ⟨hend, houtput, hdisk, herrors, -⟩ :=
    execute_eq_of_logOptions x badEntries hargs hargs' hlogging hlogging'
  exact ⟨hargs, hargs', hlogging, hlogging', hend, houtput, hdisk, hcode,
    herrors 2 hcode (by decide)⟩

end CssMargin.Command
