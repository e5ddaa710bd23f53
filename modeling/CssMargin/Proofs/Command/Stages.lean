/-
# The stages of a run

Before the expansion of a file delivers its declarations it goes through stages that can only stop
it: the command line, the logging options, the settings, the format, the file and its check.  None
of them touches the disk or prints on the standard output.  So the outcome of a run is either that
of a stage that stops it, with both as they were, or that of its last part, `deliver`, which starts
from what all stages have agreed on; `Accepts` says what this is.
-/
import CssMargin.Main
import CssMargin.Proofs.Chain
import CssMargin.Proofs.Command.Prediction
namespace CssMargin.Command

namespace Run

/-! ### Steps that keep a part of the session -/

section Keeps

variable {α β γ δ : Type} {view : Session → γ}

/-- Whether a step, however it ends, keeps what a view shows of the session. -/
def Keeps (view : Session → γ) (r : Run α) : Prop := ∀ s, view (r.outcome s).2 = view s

lemma keeps_pure (a : α) : Keeps view (pure a : Run α) := fun _ => rfl

lemma keeps_throw (h : Halt) : Keeps view (throw h : Run α) := fun _ => rfl

lemma keeps_get : Keeps view (get : Run Session) := fun _ => rfl

lemma keeps_bind {r : Run α} {f : α → Run β} (hr : Keeps view r) (hf : ∀ a, Keeps view (f a)) :
    Keeps view (r >>= f) := by
  intro s
  have hs := hr s
  rcases h : r.outcome s with ⟨e | a, s'⟩
  · rw [outcome_bind_of_error h]
    rwa [h] at hs
  · rw [outcome_bind_of_ok h, hf a s']
    rwa [h] at hs

lemma keeps_forM {xs : List α} {f : α → Run Unit} (h : ∀ x, Keeps view (f x)) :
    Keeps view (xs.forM f) := by
  induction xs with
  | nil => exact keeps_pure ()
  | cons x r ih => exact keeps_bind (h x) fun _ => ih

/-- What a smaller view shows is kept too. -/
lemma Keeps.comp {r : Run α} (h : Keeps view r) (g : γ → δ) : Keeps (g ∘ view) r :=
  fun s => congrArg g (h s)

end Keeps

variable {α : Type}

/-- A step that keeps what is visible keeps the disk. -/
lemma Keeps.disk {r : Run α} (h : Keeps Session.visible r) : Keeps Session.disk r :=
  h.comp Prod.fst

lemma keeps_stop (code : Nat) (ps : List Problem) :
    Keeps Session.visible (stop code ps : Run α) := fun _ => rfl

lemma keeps_fail (f : Failure) : Keeps Session.visible (fail f : Run α) := fun _ => rfl

lemma keeps_log (x : Surroundings) (e : Log.Event) : Keeps Session.visible (log x e) :=
  fun _ => rfl

/-- Printing touches nothing but the standard output. -/
lemma keeps_print {γ : Type} {view : Session → γ}
    (hview : ∀ s output, view { s with output := output } = view s) (t : Text) :
    Keeps view (print t) := by
  intro s
  cases h : (Text.plain t).whole with
  | ok u => rw [outcome_print_of_ok h, hview]
  | error e => rw [outcome_print_of_error h]

lemma keeps_printLine (t : Text) : Keeps Session.disk (printLine t) :=
  keeps_print (fun _ _ => rfl) _

/-- Whether a step stops in a session, with an exit code other than 0, and with the disk and the
standard output as they were. -/
def Stops (r : Run α) (s : Session) : Prop :=
  ∃ e s', r.outcome s = (.error e, s') ∧ (conclusion (.error e)).1 ≠ 0 ∧ s'.visible = s.visible

lemma stops_stop {code : Nat} (h : code = 1 ∨ code = 2) (ps : List Problem) (s : Session) :
    Stops (stop code ps : Run α) s := by
  refine ⟨_, _, outcome_stop code ps s, ?_, rfl⟩
  rcases h with rfl | rfl <;> decide

lemma stops_fail (f : Failure) (s : Session) : Stops (fail f : Run α) s :=
  ⟨_, _, outcome_fail f s, by change (1 : UInt32) ≠ 0; decide, rfl⟩

lemma stops_usage (f : UsageFault) (s : Session) : Stops (throw (.usage f) : Run α) s := by
  refine ⟨_, _, outcome_throw (.usage f) s, ?_, rfl⟩
  cases f <;> decide

lemma Stops.bind {β : Type} {r : Run α} {s : Session} (h : Stops r s) (f : α → Run β) :
    Stops (r >>= f) s := by
  obtain ⟨e, s', hr, hs⟩ := h
  exact ⟨e, s', outcome_bind_of_error hr, hs⟩

/-- A step stops if it goes on, without a visible change, to one that does. -/
lemma Stops.of_ok_bind {β : Type} {r : Run α} {s s' : Session} {a : α} {f : α → Run β}
    (hr : r.outcome s = (.ok a, s')) (hs : s'.visible = s.visible) (h : Stops (f a) s') :
    Stops (r >>= f) s := by
  obtain ⟨e, s'', hf, hcode, hs'⟩ := h
  exact ⟨e, s'', (outcome_bind_of_ok hr).trans hf, hcode, hs'.trans hs⟩

end Run

open Run

/-! ### The stages -/

lemma keeps_settingsInForce (x : Surroundings) (config : Option Text) :
    Keeps Session.visible (settingsInForce x config) := by
  refine keeps_bind keeps_get fun s => ?_
  split
  · exact keeps_pure _
  · exact keeps_stop _ _
  · exact keeps_stop _ _
  · exact keeps_stop _ _
  · exact keeps_fail _

lemma keeps_load (path : Text) : Keeps Session.visible (load path) := by
  refine keeps_bind keeps_get fun s => ?_
  split
  · exact keeps_pure _
  · exact keeps_pure _
  · exact keeps_fail _

/-- Without settings a command stops. -/
lemma stops_settingsInForce {x : Surroundings} {config : Option Text} {s : Session}
    {e : SettingsStop} (h : loadSettings s.disk (settingsName x config) = .error e) :
    Stops (settingsInForce x config) s := by
  refine Stops.of_ok_bind (outcome_get s) rfl ?_
  rw [h]
  split
  · rename_i hok
    cases hok
  · exact stops_stop (.inr rfl) _ s
  · exact stops_stop (.inl rfl) _ s
  · exact stops_stop (.inl rfl) _ s
  · exact stops_fail _ s

/-! ### The expansion of a file -/

section ExpandFile

variable {x : Surroundings} {path : Text} {format config : Option Text} {s : Session}

/-- The stages stop unless they agree on an output format and on shorthands. -/
lemma stops_stages (h : ∀ f ss, ¬ Accepts x s.disk path format config f ss) :
    Stops (stages x path format config) s := by
  rw [stages]
  cases hst : loadSettings s.disk (settingsName x config) with
  | error e => exact (stops_settingsInForce hst).bind _
  | ok st =>
    refine Stops.of_ok_bind (outcome_settingsInForce hst) rfl ?_
    cases hf : OutputFormat.ofName? (format.getD st.format.name) with
    | none => exact stops_stop (.inr rfl) _ s
    | some f =>
      dsimp only
      have hload := outcome_load path s
      cases hd : loadDocument s.disk (Path.ofText path) with
      | error e =>
        rw [hd] at hload
        cases e with
        | fault g => exact Stops.of_ok_bind hload rfl (stops_stop (.inl rfl) _ s)
        | failure g =>
          have hstops : Stops (load path) s := by
            rw [Stops, hload]
            exact stops_fail g s
          exact hstops.bind _
      | ok d =>
        rw [hd] at hload
        refine Stops.of_ok_bind hload rfl ?_
        dsimp only
        cases hcheck : d.check ⟨.text st.origin.name, .bool st.important⟩ with
        | error ps => exact stops_stop (.inr rfl) _ s
        | ok ss => exact absurd ⟨st, d, hst, hf, hd, hcheck⟩ (h f ss)

lemma stops_performExpandFile (h : ∀ f ss, ¬ Accepts x s.disk path format config f ss)
    (out : Option Text) : Stops (performExpandFile x path out format config) s := by
  rw [performExpandFile_eq_bind]
  exact (stops_stages h).bind _

end ExpandFile

/-! ### The command line -/

/-- The command that a task is performed for. -/
def Task.name : Task → Name
  | .expand .. => .expand
  | .expandFile .. => .expandFile
  | .validate .. => .validate
  | .tables => .tables

lemma name_of_readTask {name : Name} {args : List Text} {t : Task}
    (h : readTask name args = .ok t) : t.name = name := by
  have hends : Ends (fun _ => True) (fun t : Task => t.name = name) (readTask name args) := by
    rw [readTask]
    refine (ends_trivial _).bind fun line _ => ?_
    cases name with
    | expand =>
      dsimp only
      split
      · trivial
      · rfl
    | expandFile => exact (ends_trivial _).bind fun a _ => rfl
    | validate => exact (ends_trivial _).bind fun a _ => rfl
    | tables =>
      dsimp only
      split
      · rfl
      · trivial
  exact hends.of_ok h

/-- Setting the logger up stops, or it changes the logger and nothing else. -/
lemma setUpLogging_stops_or (level format : Text) (s : Session) :
    Stops (setUpLogging level format) s ∨
      ∃ l, (setUpLogging level format).outcome s = (.ok (), { s with logger := l }) := by
  by_cases h : AcceptsLogging level format
  · exact Or.inr (exists_outcome_setUpLogging h s)
  · obtain ⟨ps, hps⟩ := exists_setUpLogging_eq_stop h
    rw [hps]
    exact Or.inl (stops_stop (.inr rfl) ps s)

/-- A run stops, or it performs the task that the command line asks for. -/
lemma program_stops_or (x : Surroundings) (args : List Text) (s : Session) :
    Stops (program x args) s ∨
      ∃ level format t l, Asks args level format t ∧
        (program x args).outcome s = (perform x t).outcome { s with logger := l } := by
  rw [program]
  cases hhead : readHead args with
  | error f => exact Or.inl ((stops_usage f s).bind _)
  | ok head =>
    have hread : (ofUsage (Except.ok head)).outcome s = (.ok head, s) := rfl
    rcases setUpLogging_stops_or head.logLevel head.logFormat s with hstops | ⟨l, hset⟩
    · exact Or.inl (.of_ok_bind hread rfl (hstops.bind _))
    · cases htask : readTask head.name head.rest with
      | error f =>
        refine Or.inl (.of_ok_bind hread rfl (.of_ok_bind hset rfl ?_))
        rw [htask]
        exact (stops_usage f _).bind _
      | ok t =>
        refine Or.inr ⟨head.logLevel, head.logFormat, t, l, ⟨head, hhead, rfl, rfl, htask⟩, ?_⟩
        rw [outcome_bind_of_ok hread, outcome_bind_of_ok hset, htask]
        rfl

end CssMargin.Command
