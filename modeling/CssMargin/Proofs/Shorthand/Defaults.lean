/-
# Valid defaults

Defaults are valid when they have the form of what an entry itself may say: one of the three origins
and a truth value.  An entry that leaves its origin or its importance to valid defaults has no fault
there, whichever they are, so that the problems of a document, and whether it is accepted at all, do
not depend on them.
-/
import CssMargin.Shorthand.Check
import Mathlib.Tactic.Common
namespace CssMargin

/-- Whether defaults are an origin and a truth value. -/
def EntryDefaults.Valid (defaults : EntryDefaults) : Prop :=
  ∃ (o : Origin) (b : Bool), defaults = ⟨.text o.name, .bool b⟩

lemma EntryDefaults.valid_standard : EntryDefaults.standard.Valid := ⟨.author, false, rfl⟩

lemma isSome_asBool?_getD (o : Option Value) (b b' : Bool) :
    (asBool? (o.getD (.bool b))).isSome = (asBool? (o.getD (.bool b'))).isSome := by
  cases o <;> rfl

lemma isSome_asOrigin?_getD (v : Option Value) (o o' : Origin) :
    (asOrigin? (v.getD (.text o.name))).isSome = (asOrigin? (v.getD (.text o'.name))).isSome := by
  cases v with
  | none => simp [asOrigin?]
  | some v => rfl

/-- The faults of an entry whose property and values are in order are those of its importance and
of its origin. -/
lemma entryFaults_of_values {defaults : EntryDefaults} {k : Nat} {fields : List (Value × Value)}
    {values : List Text}
    (hp : isSupportedProperty
      ((Value.lookup? "property" fields).getD (.text marginProperty)) = true)
    (hv : entryValues fields = .ok values) :
    entryFaults defaults k (.map fields) =
      (if (asBool? ((Value.lookup? "important" fields).getD defaults.important)).isSome then []
        else [.important]) ++
      (if (asOrigin? ((Value.lookup? "origin" fields).getD defaults.origin)).isSome then []
        else [.origin]) := by
  rw [entryFaults, checkEntry, if_pos hp, hv]
  dsimp only
  cases asBool? ((Value.lookup? "important" fields).getD defaults.important) <;>
    cases asOrigin? ((Value.lookup? "origin" fields).getD defaults.origin) <;> rfl

/-- All valid defaults leave an entry with the same faults. -/
lemma entryFaults_eq_of_valid {defaults defaults' : EntryDefaults} (h : defaults.Valid)
    (h' : defaults'.Valid) (k : Nat) (entry : Value) :
    entryFaults defaults k entry = entryFaults defaults' k entry := by
  obtain ⟨o, b, rfl⟩ := h
  obtain ⟨o', b', rfl⟩ := h'
  cases entry with
  | map fields =>
    by_cases hp : isSupportedProperty
        ((Value.lookup? "property" fields).getD (.text marginProperty)) = true
    · cases hv : entryValues fields with
      | error f =>
        -- the defaults are not even looked at
        simp [entryFaults, checkEntry, hp, hv]
      | ok values =>
        rw [entryFaults_of_values hp hv, entryFaults_of_values hp hv]
        simp only [isSome_asBool?_getD _ b b', isSome_asOrigin?_getD _ o o']
    · simp [entryFaults, checkEntry, hp]
  | _ => rfl

/-- The problems of a document are the same for all valid defaults. -/
lemma check_eq_error_iff_of_valid {d : Document} {defaults defaults' : EntryDefaults}
    (h : defaults.Valid) (h' : defaults'.Valid) {ps : List Problem} :
    d.check defaults = .error ps ↔ d.check defaults' = .error ps := by
  have hreports (entries : List (Value × Nat)) :
      entryReports defaults d.file entries = entryReports defaults' d.file entries := by
    simp only [entryReports, entryFaults_eq_of_valid h h']
  unfold Document.check
  cases d.declarations with
  | list entries =>
    dsimp only
    rw [hreports]
    split <;> simp
  | _ => rfl

end CssMargin
