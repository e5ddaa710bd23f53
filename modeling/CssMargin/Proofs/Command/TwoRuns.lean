/-
# Two runs side by side

Two runs are compared from sessions that differ in some respect only: in their loggers, or in their
disks.  A view shows what the sessions have in common.  A step follows a view if from any two
sessions that the view shows alike it ends in the same way and leaves sessions that the view shows
alike; then nothing that the view hides has an influence.  There is one rule for each way of
putting steps together, and one for each of the steps that commands share; what they need of the
view is collected in `ShowsPrints` and `ShowsDisk`.
-/
import CssMargin.Proofs.Command.Stages
namespace CssMargin.Command

namespace Session

/-- All of a session but the logger. -/
def withoutLogger (s : Session) : Disk × String × String := (s.disk, s.output, s.errors)

/-- All of a session but the disk. -/
def withoutDisk (s : Session) : Log.Logger × String × String := (s.logger, s.output, s.errors)

variable {s s' : Session}

lemma visible_eq_iff : s.visible = s'.visible ↔ s.disk = s'.disk ∧ s.output = s'.output := by
  simp only [visible, Prod.mk.injEq]

lemma withoutLogger_eq_iff : s.withoutLogger = s'.withoutLogger ↔
    s.disk = s'.disk ∧ s.output = s'.output ∧ s.errors = s'.errors := by
  simp only [withoutLogger, Prod.mk.injEq]

lemma withoutDisk_eq_iff : s.withoutDisk = s'.withoutDisk ↔
    s.logger = s'.logger ∧ s.output = s'.output ∧ s.errors = s'.errors := by
  simp only [withoutDisk, Prod.mk.injEq]

end Session

namespace Run

variable {α β γ : Type} {view : Session → γ}

/-- Whether a step ends, and changes what a view shows, in a way that what the view hides has no
influence on. -/
def Follows (view : Session → γ) (r : Run α) : Prop :=
  ∀ s s', view s = view s' →
    (r.outcome s).1 = (r.outcome s').1 ∧ view (r.outcome s).2 = view (r.outcome s').2

/-! ### Putting steps together -/

lemma follows_pure (a : α) : Follows view (pure a : Run α) := fun _ _ h => ⟨rfl, h⟩

lemma follows_throw (e : Halt) : Follows view (throw e : Run α) := fun _ _ h => ⟨rfl, h⟩

lemma follows_fail (f : Failure) : Follows view (fail f : Run α) := fun _ _ h => ⟨rfl, h⟩

lemma follows_modify {g : Session → Session}
    (h : ∀ s s', view s = view s' → view (g s) = view (g s')) :
    Follows view (modify g : Run Unit) := fun s s' hs => ⟨rfl, h s s' hs⟩

/-- A step that follows a view stops in both sessions or goes on in both, and with the same. -/
lemma Follows.stops_or_goes {r : Run α} (hr : Follows view r) {s s' : Session}
    (hs : view s = view s') :
    (∃ e t t', r.outcome s = (.error e, t) ∧ r.outcome s' = (.error e, t') ∧ view t = view t') ∨
      ∃ a t t', r.outcome s = (.ok a, t) ∧ r.outcome s' = (.ok a, t') ∧ view t = view t' := by
  obtain ⟨hend, hview⟩ := hr s s' hs
  rcases h : r.outcome s with ⟨e | a, t⟩ <;> rcases h' : r.outcome s' with ⟨e' | a', t'⟩ <;>
    rw [h, h'] at hend hview <;> cases hend
  · exact .inl ⟨e, t, t', rfl, rfl, hview⟩
  · exact .inr ⟨a, t, t', rfl, rfl, hview⟩

lemma follows_bind {r : Run α} {f : α → Run β} (hr : Follows view r)
    (hf : ∀ a, Follows view (f a)) : Follows view (r >>= f) := by
  intro s s' hs
  rcases hr.stops_or_goes hs with ⟨e, t, t', h, h', hview⟩ | ⟨a, t, t', h, h', hview⟩
  · rw [outcome_bind_of_error h, outcome_bind_of_error h']
    exact ⟨rfl, hview⟩
  · rw [outcome_bind_of_ok h, outcome_bind_of_ok h']
    exact hf a t t' hview

/-- A step may look at what the view shows. -/
lemma follows_get_bind {f : Session → Run β} (h : ∀ s s', view s = view s' → f s = f s')
    (hf : ∀ s, Follows view (f s)) : Follows view (get >>= f) := by
  intro s s' hs
  rw [outcome_bind_of_ok (outcome_get s), outcome_bind_of_ok (outcome_get s'), h s s' hs]
  exact hf s' s s' hs

lemma follows_forM {xs : List α} {f : α → Run Unit} (h : ∀ x, Follows view (f x)) :
    Follows view (xs.forM f) := by
  induction xs with
  | nil => exact follows_pure ()
  | cons x r ih => exact follows_bind (h x) fun _ => ih

/-! ### Printing and stopping -/

/-- Whether a view goes along with what is printed. -/
structure ShowsPrints (view : Session → γ) : Prop where
  /-- On the standard output. -/
  output : ∀ t s s', view s = view s' →
    view { s with output := s.output ++ t } = view { s' with output := s'.output ++ t }
  /-- On the standard error. -/
  errors : ∀ t s s', view s = view s' →
    view { s with errors := s.errors ++ t } = view { s' with errors := s'.errors ++ t }

lemma showsPrints_visible : ShowsPrints Session.visible where
  output t s s' h := by
    obtain ⟨hdisk, houtput⟩ := Session.visible_eq_iff.1 h
    exact Session.visible_eq_iff.2 ⟨hdisk, congrArg (· ++ t) houtput⟩
  errors _ _ _ h := h

lemma showsPrints_withoutLogger : ShowsPrints Session.withoutLogger where
  output t s s' h := by
    obtain ⟨hdisk, houtput, herrors⟩ := Session.withoutLogger_eq_iff.1 h
    exact Session.withoutLogger_eq_iff.2 ⟨hdisk, congrArg (· ++ t) houtput, herrors⟩
  errors t s s' h := by
    obtain ⟨hdisk, houtput, herrors⟩ := Session.withoutLogger_eq_iff.1 h
    exact Session.withoutLogger_eq_iff.2 ⟨hdisk, houtput, congrArg (· ++ t) herrors⟩

lemma showsPrints_withoutDisk : ShowsPrints Session.withoutDisk where
  output t s s' h := by
    obtain ⟨hlogger, houtput, herrors⟩ := Session.withoutDisk_eq_iff.1 h
    exact Session.withoutDisk_eq_iff.2 ⟨hlogger, congrArg (· ++ t) houtput, herrors⟩
  errors t s s' h := by
    obtain ⟨hlogger, houtput, herrors⟩ := Session.withoutDisk_eq_iff.1 h
    exact Session.withoutDisk_eq_iff.2 ⟨hlogger, houtput, congrArg (· ++ t) herrors⟩

namespace ShowsPrints

variable (h : ShowsPrints view)
include h

lemma follows_print (t : Text) : Follows view (print t) := by
  rw [print]
  split
  · exact follows_fail _
  · exact follows_modify fun s s' => h.output _ s s'

lemma follows_printLine (t : Text) : Follows view (printLine t) := h.follows_print _

lemma follows_stop (code : Nat) (ps : List Problem) : Follows view (stop code ps : Run α) :=
  follows_bind (follows_modify fun s s' => h.errors _ s s') fun _ => follows_throw _

lemma follows_printListing (name : Name) (f : OutputFormat) (ds : List Declaration) :
    Follows view (printListing name f ds) := by
  cases f with
  | json => exact h.follows_printLine _
  | yaml => exact h.follows_print _
  | text => exact follows_forM fun d => h.follows_printLine _

end ShowsPrints

/-- What is logged is printed where the view does not show it. -/
lemma follows_log_visible (x : Surroundings) (e : Log.Event) :
    Follows Session.visible (log x e) := fun _ _ h => ⟨rfl, h⟩

/-- What is logged depends on the logger, which the view shows. -/
lemma follows_log_withoutDisk (x : Surroundings) (e : Log.Event) :
    Follows Session.withoutDisk (log x e) := by
  refine follows_modify fun s s' h => ?_
  obtain ⟨hlogger, houtput, herrors⟩ := Session.withoutDisk_eq_iff.1 h
  rw [Session.withoutDisk_eq_iff, hlogger, herrors]
  exact ⟨rfl, houtput, rfl⟩

/-! ### Reading and writing the disk -/

/-- Whether a view shows the disk besides what is printed. -/
structure ShowsDisk (view : Session → γ) : Prop extends ShowsPrints view where
  /-- The disk is shown. -/
  disk : ∀ s s', view s = view s' → s.disk = s'.disk
  /-- The view goes along with a change of it. -/
  change : ∀ d s s', view s = view s' → view { s with disk := d } = view { s' with disk := d }

lemma showsDisk_visible : ShowsDisk Session.visible where
  toShowsPrints := showsPrints_visible
  disk _ _ h := (Session.visible_eq_iff.1 h).1
  change _ _ _ h := Session.visible_eq_iff.2 ⟨rfl, (Session.visible_eq_iff.1 h).2⟩

lemma showsDisk_withoutLogger : ShowsDisk Session.withoutLogger where
  toShowsPrints := showsPrints_withoutLogger
  disk _ _ h := (Session.withoutLogger_eq_iff.1 h).1
  change _ _ _ h := Session.withoutLogger_eq_iff.2 ⟨rfl, (Session.withoutLogger_eq_iff.1 h).2⟩

end Run

open Run

namespace Run.ShowsDisk

variable {γ : Type} {view : Session → γ} (h : ShowsDisk view)
include h

lemma follows_settingsInForce (x : Surroundings) (config : Option Text) :
    Follows view (settingsInForce x config) := by
  refine follows_get_bind (fun s s' hs => by rw [h.disk s s' hs]) fun s => ?_
  split
  · exact follows_pure _
  · exact h.follows_stop _ _
  · exact h.follows_stop _ _
  · exact h.follows_stop _ _
  · exact follows_fail _

lemma follows_load (path : Text) : Follows view (load path) := by
  refine follows_get_bind (fun s s' hs => by rw [h.disk s s' hs]) fun s => ?_
  split
  · exact follows_pure _
  · exact follows_pure _
  · exact follows_fail _

lemma follows_writeListing (out : Text) (ds : List Declaration) :
    Follows view (writeListing out ds) := by
  rw [writeListing]
  dsimp only
  split
  · refine follows_get_bind (fun s s' hs => by rw [h.disk s s' hs]) fun s => ?_
    refine follows_bind (follows_modify (h.change _)) fun _ => ?_
    split
    · refine follows_get_bind (fun s s' hs => by rw [h.disk s s' hs]) fun s => ?_
      split
      · exact follows_modify (h.change _)
      · exact follows_fail _
    · -- without its directory the file is not written
      exact fun _ _ hs => ⟨rfl, hs⟩
  · refine follows_get_bind (fun s s' hs => by rw [h.disk s s' hs]) fun s => ?_
    split
    · exact follows_modify (h.change _)
    · exact follows_fail _

lemma follows_performValidate (x : Surroundings) (path format : Text) :
    Follows view (performValidate x path format) := by
  have hprint (ps : List Problem) (summary : Json) : Follows view (printCheck ps summary) :=
    h.follows_printLine _
  have hstop (code : Nat) (ps : List Problem) : Follows view (stopCheck format code ps) := by
    rw [stopCheck]
    split
    · exact follows_bind (hprint _ _) fun _ => follows_throw _
    · exact h.follows_stop _ _
  rw [performValidate]
  split
  · refine follows_bind (h.follows_load path) fun d => ?_
    split
    · exact hstop 1 _
    · split
      · exact hstop 2 _
      · split
        · exact hprint _ _
        · exact h.follows_printLine _
  · exact h.follows_stop _ _

lemma follows_performTables : Follows view performTables :=
  follows_bind (h.follows_printLine _) fun _ => follows_forM fun _ => h.follows_printLine _

end Run.ShowsDisk

/-! ### The expansion of one shorthand -/

section Expand

variable {γ : Type} {view : Session → γ} (x : Surroundings) (values : List Text)
  (important : Bool) (origin format : Text)

/-- The expansion of one shorthand, with nothing left to be taken from the settings. -/
def expandAs : Run Unit :=
  match expandProblems format origin values.length, OutputFormat.ofName? format with
  | [], some f => do
    Run.log x (.expanded values.length)
    printListing .expand f (expandMargin values important origin)
  | ps, _ => Run.stop 2 ps

/-- The settings are looked at first, for what the command line does not say. -/
lemma performExpand_eq_bind (important : Option Bool) (origin format config : Option Text) :
    performExpand x values important origin format config =
      settingsInForce x config >>= fun st => expandAs x values (important.getD st.important)
        (origin.getD st.origin.name) (format.getD st.format.name) := rfl

lemma follows_expandAs (h : ShowsPrints view) (hlog : ∀ e, Follows view (Run.log x e)) :
    Follows view (expandAs x values important origin format) := by
  rw [expandAs]
  split
  · exact follows_bind (hlog _) fun _ => h.follows_printListing _ _ _
  · exact h.follows_stop _ _

/-- Once something is logged the expansion ends as its listing can be printed. -/
lemma expandAs_stops_or_ends : (∃ ps, expandAs x values important origin format = Run.stop 2 ps) ∨
    ∃ f ds, ∀ s, ((expandAs x values important origin format).outcome s).1 = listingEnd f ds := by
  rw [expandAs]
  split
  · rename_i f _ _
    refine .inr ⟨f, expandMargin values important origin, fun s => ?_⟩
    rw [outcome_bind_of_ok (outcome_log x _ s), fst_outcome_printListing]
  · exact .inl ⟨_, rfl⟩

end Expand

end CssMargin.Command
