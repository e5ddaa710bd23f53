/-
# The logger over time

The logger is set up any number of times, with levels that exist or not, and records are logged in
between.  What matters of all this is the last time that it was set up with a level that exists:
`lastSetUp` finds it in a list of actions, and the state of the logger after these actions is the
one that this alone would have left.  One action is looked at first, and then by induction any list
of them; what an action does in the state after a list is what the main theorem says.
-/
import CssMargin.Log.Logger
import CssMargin.Proofs.Chain
import Mathlib.Data.List.Induction
namespace CssMargin.Log

/-! ### Levels -/

/-- Whether a text is, in any letter case, a name of a level. -/
def NamesLevel (t : Text) (n : Int) : Prop :=
  ∃ name : String, capitals t = name ∧ (n, name) ∈ levelNames ++ secondNames

/-- No name stands for two levels. -/
lemma levelOf_eq_ok_iff {t : Text} {n : Int} : levelOf t = .ok n ↔ NamesLevel t n := by
  constructor
  · intro h
    rw [levelOf] at h
    split at h
    · rename_i m name hfind
      have hname := List.find?_some hfind
      cases h
      exact ⟨name, beq_iff_eq.1 hname, List.mem_of_find?_eq_some hfind⟩
    · cases h
  · rintro ⟨name, hname, h⟩
    simp only [levelNames, secondNames, List.cons_append, List.nil_append, List.mem_cons,
      Prod.mk.injEq, List.not_mem_nil, or_false] at h
    rw [levelOf, hname]
    rcases h with ⟨rfl, h⟩ | ⟨rfl, h⟩ | ⟨rfl, h⟩ | ⟨rfl, h⟩ | ⟨rfl, h⟩ | ⟨rfl, h⟩ | ⟨rfl, h⟩ |
      ⟨rfl, h⟩ <;> rw [h] <;> decide

/-- A text that names no level is reported in capital letters. -/
lemma levelOf_eq_error {t : Text} (h : ∀ n, ¬ NamesLevel t n) :
    levelOf t = .error ⟨capitals t⟩ := by
  cases hs : levelOf t with
  | ok n => exact absurd (levelOf_eq_ok_iff.1 hs) (h n)
  | error u =>
    rw [levelOf] at hs
    split at hs
    · cases hs
    · exact hs.symm

/-! ### Actions -/

/-- What can be done with the logger. -/
inductive Action where
  /-- Set it up with a level and a format. -/
  | setUp (level format : Text)
  /-- Log a record. -/
  | log (r : Record)

/-- What comes of an action. -/
inductive Answer where
  /-- The logger is set up. -/
  | accepted
  /-- The level does not exist. -/
  | refused (u : UnknownLevel)
  /-- A text is written, which may be empty. -/
  | written (s : String)
deriving DecidableEq, Repr

/-- Take an action. -/
def Logger.act (l : Logger) : Action → Logger × Answer
  | .setUp level format =>
    match Logger.setUp level format with
    | .ok l => (l, .accepted)
    | .error u => (l, .refused u)
  | .log r => (l, .written (l.write r))

/-- The logger after several actions. -/
def Logger.after (l : Logger) (as : List Action) : Logger := as.foldl (fun l a => (l.act a).1) l

/-- The level and the format that an action sets the logger up with, if it does. -/
def Action.settings? : Action → Option (Int × LogFormat)
  | .setUp level format => (levelOf level).toOption.map fun n => (n, LogFormat.ofName format)
  | .log _ => none

/-- The level and the format that the logger was set up with the last time. -/
def lastSetUp (as : List Action) : Option (Int × LogFormat) := as.reverse.findSome? Action.settings?

/-- A record as it is written by a logger with this level and format, or with none. -/
def formatted (last : Option (Int × LogFormat)) (r : Record) : Except TemplateFault String :=
  match last with
  | none => Text.escaped <$> r.bareLine
  | some (_, f) => f.line r

/-- Whether the further fields of a record can be written in the format of the last time.  In JSON
they are shown, and an integer with too many digits cannot be. -/
def FieldsFit (last : Option (Int × LogFormat)) (r : Record) : Prop :=
  ∀ n, last = some (n, .json) → Json.anyLongMember r.shownFields = false

lemma lastSetUp_concat (as : List Action) (a : Action) :
    lastSetUp (as ++ [a]) = a.settings?.or (lastSetUp as) := by
  rw [lastSetUp, List.reverse_append, List.reverse_singleton, List.singleton_append,
    List.findSome?_cons]
  cases a.settings? <;> rfl

namespace Logger

lemma after_concat (l : Logger) (as : List Action) (a : Action) :
    l.after (as ++ [a]) = ((l.after as).act a).1 := by
  rw [after, List.foldl_append]
  rfl

/-! ### One action -/

section OneAction

variable {l : Logger} {level format : Text} {n : Int} {r : Record} {m : Text}

lemma act_setUp_of_namesLevel (h : NamesLevel level n) :
    l.act (.setUp level format) = (⟨n, false, [LogFormat.ofName format]⟩, .accepted) := by
  rw [act, setUp, levelOf_eq_ok_iff.2 h]
  rfl

/-- A level that does not exist is refused before anything is changed. -/
lemma act_setUp_of_not_namesLevel (h : ∀ n, ¬ NamesLevel level n) :
    l.act (.setUp level format) = (l, .refused ⟨capitals level⟩) := by
  rw [act, setUp, levelOf_eq_error h]
  rfl

/-- Whether the logger is in the state that setting it up with a level and a format leaves, or in
its first state. -/
def IsSetUp (l : Logger) : Option (Int × LogFormat) → Prop
  | none => l = fresh
  | some (n, f) => l = ⟨n, false, [f]⟩

/-- An action that sets the logger up leaves the state that belongs to it, and any other the state
that there was. -/
lemma IsSetUp.act {last : Option (Int × LogFormat)} (h : l.IsSetUp last) (a : Action) :
    (l.act a).1.IsSetUp (a.settings?.or last) := by
  cases a with
  | log r => exact h
  | setUp level format =>
    cases hlevel : levelOf level with
    | ok n =>
      rw [act_setUp_of_namesLevel (levelOf_eq_ok_iff.1 hlevel), Action.settings?, hlevel]
      rfl
    | error u =>
      have hnone : ∀ n, ¬ NamesLevel level n := by
        intro n hn
        rw [levelOf_eq_ok_iff.2 hn] at hlevel
        cases hlevel
      rw [act_setUp_of_not_namesLevel hnone, Action.settings?, hlevel]
      exact h

/-- A record whose message can be made can be written if its further fields can. -/
lemma exists_formatted {last : Option (Int × LogFormat)} (h : r.message = .ok m)
    (hfields : FieldsFit last r) : ∃ t, formatted last r = .ok t := by
  rcases last with _ | ⟨n, f⟩
  · rw [formatted, Record.bareLine, h]
    exact ⟨_, rfl⟩
  · cases f with
    | text =>
      rw [formatted, LogFormat.line, Record.textLine, h]
      exact ⟨_, rfl⟩
    | json =>
      rw [formatted, LogFormat.line, Record.jsonLine, h, ok_bind, hfields n rfl]
      exact ⟨_, rfl⟩

/-- A record is written once if it is weighty enough. -/
lemma IsSetUp.write {last : Option (Int × LogFormat)} {t : String} (h : l.IsSetUp last)
    (ht : formatted last r = .ok t) :
    l.write r = if l.threshold ≤ r.level then t ++ "\n" else "" := by
  by_cases hlevel : l.threshold ≤ r.level
  · rw [if_pos hlevel, Logger.write, if_neg (Int.not_lt.2 hlevel)]
    rcases last with _ | ⟨n, f⟩
    · -- before the first time the surroundings show warnings
      cases h
      rw [formatted] at ht
      have hwarning : ¬ r.level < warningLevel := Int.not_lt.2 hlevel
      simp only [fresh, if_neg hwarning, ht, outputLine]
    · cases h
      rw [formatted] at ht
      simp only [List.map_cons, List.map_nil, ht, outputLine, String.join_cons, String.join_nil,
        String.append_empty]
  · rw [if_neg hlevel]
    exact write_of_lt (Int.not_le.1 hlevel)

end OneAction

/-! ### Any list of actions -/

lemma isSetUp_after (as : List Action) : (fresh.after as).IsSetUp (lastSetUp as) := by
  induction as using List.reverseRecOn with
  | nil => rfl
  | append_singleton as a ih =>
    rw [after_concat, lastSetUp_concat]
    exact ih.act a

/-- **The last time counts.**  Let any actions be taken, from a logger that was never set up.

* If none of them has set it up, it has no handler and no level, and hands its records on.
* Otherwise it has one handler, and this has the format of the last time; its level is that of the
  last time, and it keeps its records to itself.
* To set it up with a level that does not exist is refused and changes nothing.
* A record whose message can be made, and whose further fields can be written in the format of the
  last time, is written once, in this format and with a line end, if its level is that of the
  logger, or that of warnings for one without a level, or above; otherwise nothing is written. -/
theorem after_eq_lastSetUp (as : List Action) :
    (lastSetUp as = none → (fresh.after as).handlers = [] ∧
      (fresh.after as).level = unsetLevel ∧ (fresh.after as).propagates = true) ∧
    (∀ n f, lastSetUp as = some (n, f) → (fresh.after as).handlers = [f] ∧
      (fresh.after as).level = n ∧ (fresh.after as).propagates = false) ∧
    (∀ level format, (∀ n, ¬ NamesLevel level n) →
      (fresh.after as).act (.setUp level format) =
        (fresh.after as, .refused ⟨capitals level⟩)) ∧
    (∀ level format n, NamesLevel level n →
      (fresh.after as).act (.setUp level format) =
        (⟨n, false, [LogFormat.ofName format]⟩, .accepted)) ∧
    ∀ r m, r.message = .ok m → FieldsFit (lastSetUp as) r →
      ∃ t, formatted (lastSetUp as) r = .ok t ∧
      (fresh.after as).act (.log r) = (fresh.after as,
        .written (if (fresh.after as).threshold ≤ r.level then t ++ "\n" else "")) := by
  have hstate := isSetUp_after as
  refine ⟨?_, ?_, ?_, ?_, ?_⟩
  · intro h
    rw [h] at hstate
    rw [hstate]
    exact ⟨rfl, rfl, rfl⟩
  · intro n f h
    rw [h] at hstate
    rw [hstate]
    exact ⟨rfl, rfl, rfl⟩
  · intro level format h
    exact act_setUp_of_not_namesLevel h
  · intro level format n h
    exact act_setUp_of_namesLevel h
  · intro r m h hfields
    obtain ⟨t, ht⟩ := exists_formatted h hfields
    refine ⟨t, ht, ?_⟩
    rw [act, hstate.write ht]

/-- A record of a logger below the one that is set up. -/
def listingRecord : Record :=
  ⟨⟨⟨2000, 1, 1⟩, 0, 0, 0, 0, some 0⟩, infoLevel, "margin_shorthand.cli",
    "expanded %d shorthands from %s", [.int 2, .text "in.yaml"], [], none⟩

/-- A level that does not exist comes between a good one and a record, and the record is written in
the format of the good one. -/
theorem after_eq_lastSetUp_refused :
    let as := [.log listingRecord, .setUp "debug" "text", .setUp "Info" "json",
      .setUp "loud" "text"]
    lastSetUp as = some (infoLevel, .json) ∧ (∀ n, ¬ NamesLevel "loud" n) ∧
      NamesLevel "Warn" warningLevel ∧
      listingRecord.message = .ok "expanded 2 shorthands from in.yaml" ∧
      FieldsFit (lastSetUp as) listingRecord ∧ (fresh.after as).handlers = [.json] ∧
      (fresh.after as).level = infoLevel ∧ (fresh.after as).propagates = false ∧
      (fresh.after as).act (.setUp "loud" "text") = (fresh.after as, .refused ⟨"LOUD"⟩) ∧
      (fresh.after as).act (.setUp "Warn" "lines") = (⟨warningLevel, false, [.text]⟩, .accepted) ∧
      ∃ t, formatted (lastSetUp as) listingRecord = .ok t ∧
        (fresh.after as).act (.log listingRecord) = (fresh.after as, .written
          (if (fresh.after as).threshold ≤ listingRecord.level then t ++ "\n" else "")) := by
  intro as
  have hlast : lastSetUp as = some (infoLevel, .json) := by decide +kernel
  have hloud : ∀ n, ¬ NamesLevel "loud" n := by
    intro n hn
    have herror : levelOf "loud" = .error ⟨"LOUD"⟩ := by decide +kernel
    rw [levelOf_eq_ok_iff.2 hn] at herror
    cases herror
  have hcapitals : capitals "loud" = "LOUD" := by decide +kernel
  have hwarn : NamesLevel "Warn" warningLevel := levelOf_eq_ok_iff.1 (by decide +kernel)
  have hmessage : listingRecord.message = .ok "expanded 2 shorthands from in.yaml" := by
    decide +kernel
  have hfields : FieldsFit (lastSetUp as) listingRecord := fun _ _ => rfl
  obtain ⟨-, hset, hrefused, haccepted, hlog⟩ := after_eq_lastSetUp as
  obtain ⟨hhandlers, hlevel, hpropagates⟩ := hset _ _ hlast
  refine ⟨hlast, hloud, hwarn, hmessage, hfields, hhandlers, hlevel, hpropagates, ?_,
    haccepted "Warn" "lines" warningLevel hwarn, hlog listingRecord _ hmessage hfields⟩
  rw [hrefused "loud" "text" hloud, hcapitals]

end Logger

end CssMargin.Log
