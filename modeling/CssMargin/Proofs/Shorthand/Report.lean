/-
# What a report of problems says

Whether something is wrong with an entry, and at which of its fields, is a matter of the entry alone
and of the defaults; `HasFault` says it in words, without a check that goes through the entry.  The
first fault of form, property and values hides everything behind it, while importance and origin do
not hide each other.  The report of a document with a list of entries has these faults of all its
entries, each of them once, and nothing else.

The check of an entry gives a list of faults.  That the list is right is shown one field at a time:
there is an equation for each way in which a field can be wrong.
-/
import CssMargin.Proofs.Problem.Order
import CssMargin.Proofs.Shorthand.Acceptance
import CssMargin.Proofs.Shorthand.Defaults
import Mathlib.Data.List.Nodup
namespace CssMargin

/-! ### Faults -/

/-- Whether fields name no other property than the supported one. -/
def PropertyInOrder (fields : List (Value × Value)) : Prop :=
  ∀ v, Value.lookup? "property" fields = some v → NamesMargin v

/-- Whether fields have one to four values, all of them texts. -/
def ValuesInOrder (fields : List (Value × Value)) : Prop :=
  ∃ ts : List Text, Value.lookup? "values" fields = some (.list (ts.map .text)) ∧
    1 ≤ ts.length ∧ ts.length ≤ 4

/-- What is wrong with an entry: what its place is followed by in the report, and the code. -/
inductive HasFault (defaults : EntryDefaults) : Value → String → String → Prop where
  /-- It is not a mapping. -/
  | form {entry : Value} (h : ∀ fields, entry ≠ .map fields) :
    HasFault defaults entry "" "E_INVALID_TYPE"
  /-- It names another property. -/
  | property {fields : List (Value × Value)} {v : Value}
    (h : Value.lookup? "property" fields = some v) (hv : ¬ NamesMargin v) :
    HasFault defaults (.map fields) ".property" "E_UNSUPPORTED_PROPERTY"
  /-- It has no values. -/
  | valuesMissing {fields : List (Value × Value)} (hp : PropertyInOrder fields)
    (h : Value.lookup? "values" fields = none ∨ Value.lookup? "values" fields = some .null) :
    HasFault defaults (.map fields) ".values" "E_REQUIRED_FIELD"
  /-- Its values are not texts in a list. -/
  | valuesType {fields : List (Value × Value)} {v : Value} (hp : PropertyInOrder fields)
    (h : Value.lookup? "values" fields = some v) (hnull : v ≠ .null)
    (hv : ∀ ts : List Text, v ≠ .list (ts.map .text)) :
    HasFault defaults (.map fields) ".values" "E_INVALID_TYPE"
  /-- It has too few or too many values. -/
  | arity {fields : List (Value × Value)} {ts : List Text} (hp : PropertyInOrder fields)
    (h : Value.lookup? "values" fields = some (.list (ts.map .text)))
    (hcount : ¬ (1 ≤ ts.length ∧ ts.length ≤ 4)) :
    HasFault defaults (.map fields) ".values" "E_INVALID_ARITY"
  /-- Its importance, or the default one, is not a truth value. -/
  | important {fields : List (Value × Value)} (hp : PropertyInOrder fields)
    (hv : ValuesInOrder fields)
    (h : ∀ b, (Value.lookup? "important" fields).getD defaults.important ≠ .bool b) :
    HasFault defaults (.map fields) ".important" "E_INVALID_TYPE"
  /-- Its origin, or the default one, is none of the three. -/
  | origin {fields : List (Value × Value)} (hp : PropertyInOrder fields)
    (hv : ValuesInOrder fields)
    (h : ∀ o : Origin, (Value.lookup? "origin" fields).getD defaults.origin ≠ .text o.name) :
    HasFault defaults (.map fields) ".origin" "E_INVALID_ENUM"

/-- Whether a list has the faults of an entry, each of them once. -/
structure ListsFaults (defaults : EntryDefaults) (entry : Value) (fs : List (String × String)) :
    Prop where
  /-- None is there twice. -/
  nodup : fs.Nodup
  /-- They are the faults of the entry. -/
  mem_iff : ∀ field code, (field, code) ∈ fs ↔ HasFault defaults entry field code

/-! ### One field at a time -/

section Fields

variable {fields : List (Value × Value)}

lemma isSupportedProperty_iff_inOrder :
    isSupportedProperty ((Value.lookup? "property" fields).getD (.text marginProperty)) = true ↔
      PropertyInOrder fields := isSupportedProperty_getD_iff

lemma exists_entryValues_iff : (∃ ts, entryValues fields = .ok ts) ↔ ValuesInOrder fields := by
  simp only [entryValues_eq_ok_iff, ValuesInOrder]

lemma entryValues_of_missing
    (h : Value.lookup? "values" fields = none ∨ Value.lookup? "values" fields = some .null) :
    entryValues fields = .error .valuesMissing := by
  rcases h with h | h
  · rw [entryValues, h]
  · rw [entryValues, h]

lemma entryValues_of_type {v : Value} (h : Value.lookup? "values" fields = some v)
    (hnull : v ≠ .null) (hv : ∀ ts : List Text, v ≠ .list (ts.map .text)) :
    entryValues fields = .error .valuesType := by
  rw [entryValues, h]
  cases v with
  | null => exact absurd rfl hnull
  | list items =>
    have hnone : texts? items = none := by
      rw [Option.eq_none_iff_forall_ne_some]
      intro ts hts
      exact hv ts (by rw [texts?_eq_some_iff.1 hts])
    dsimp only
    rw [hnone]
  | _ => rfl

lemma entryValues_of_arity {ts : List Text}
    (h : Value.lookup? "values" fields = some (.list (ts.map .text)))
    (hcount : ¬ (1 ≤ ts.length ∧ ts.length ≤ 4)) :
    entryValues fields = .error (.arity ts.length) := by
  rw [entryValues, h]
  dsimp only
  rw [texts?_eq_some_iff.2 rfl]
  dsimp only
  rw [if_neg (by rwa [Arity.isSome_ofNat?_iff])]

end Fields

/-! ### One entry -/

/-- What a fault adds to the place of its entry, and its code. -/
def EntryFault.located (f : EntryFault) : String × String :=
  ((f.field?.map ("." ++ ·)).getD "", f.code)

section Entry

variable {defaults : EntryDefaults} {k : Nat} {entry : Value} {fields : List (Value × Value)}

lemma entryFaults_of_form (h : ∀ fields, entry ≠ .map fields) :
    entryFaults defaults k entry = [.form] := by
  cases entry with
  | map fields => exact absurd rfl (h fields)
  | _ => rfl

lemma entryFaults_of_property (h : ¬ PropertyInOrder fields) :
    entryFaults defaults k (.map fields) = [.property] := by
  rw [← isSupportedProperty_iff_inOrder] at h
  rw [entryFaults, checkEntry, if_neg h]

lemma entryFaults_of_entryValues (hp : PropertyInOrder fields) {f : EntryFault}
    (h : entryValues fields = .error f) : entryFaults defaults k (.map fields) = [f] := by
  rw [entryFaults, checkEntry, if_pos (isSupportedProperty_iff_inOrder.2 hp), h]

/-- Importance and origin are looked at both. -/
lemma mem_entryFaults_iff (hp : PropertyInOrder fields) (hv : ValuesInOrder fields)
    {f : EntryFault} : f ∈ entryFaults defaults k (.map fields) ↔
      (f = .important ∧
        ∀ b, (Value.lookup? "important" fields).getD defaults.important ≠ .bool b) ∨
      (f = .origin ∧ ∀ o : Origin,
        (Value.lookup? "origin" fields).getD defaults.origin ≠ .text o.name) := by
  obtain ⟨ts, hts⟩ := exists_entryValues_iff.2 hv
  have hbool (v : Value) : (asBool? v).isSome = true ↔ ∃ b, v = .bool b := by
    simp only [Option.isSome_iff_exists, asBool?_eq_some_iff]
  have horigin (v : Value) : (asOrigin? v).isSome = true ↔ ∃ o : Origin, v = .text o.name := by
    simp only [Option.isSome_iff_exists, asOrigin?_eq_some_iff]
  rw [entryFaults_of_values (isSupportedProperty_iff_inOrder.2 hp) hts, List.mem_append,
    List.mem_ite_nil_left, List.mem_ite_nil_left, List.mem_singleton, List.mem_singleton, hbool,
    horigin, not_exists, not_exists, and_comm, and_comm (b := f = .origin)]

/-- A fault of the values is one of the three there are. -/
lemma hasFault_of_entryValues (hp : PropertyInOrder fields) {f : EntryFault}
    (h : entryValues fields = .error f) :
    HasFault defaults (.map fields) f.located.1 f.located.2 := by
  have hmissing (hm : Value.lookup? "values" fields = none ∨
      Value.lookup? "values" fields = some .null) :
      HasFault defaults (.map fields) f.located.1 f.located.2 := by
    rw [entryValues_of_missing hm] at h
    cases h
    exact .valuesMissing hp hm
  -- in the order in which the check looks at the values; in order they would give no fault
  cases hlookup : Value.lookup? "values" fields with
  | none => exact hmissing (.inl hlookup)
  | some v =>
    by_cases hnull : v = .null
    · exact hmissing (.inr (hnull ▸ hlookup))
    · by_cases htexts : ∃ ts : List Text, v = .list (ts.map .text)
      · obtain ⟨ts, rfl⟩ := htexts
        by_cases hcount : 1 ≤ ts.length ∧ ts.length ≤ 4
        · rw [entryValues_eq_ok_iff.2 ⟨hlookup, hcount⟩] at h
          cases h
        · rw [entryValues_of_arity hlookup hcount] at h
          cases h
          exact .arity hp hlookup hcount
      · rw [not_exists] at htexts
        rw [entryValues_of_type hlookup hnull htexts] at h
        cases h
        exact .valuesType hp hlookup hnull htexts

/-- What the check of an entry finds is wrong with it. -/
lemma hasFault_of_mem {f : EntryFault} (h : f ∈ entryFaults defaults k entry) :
    HasFault defaults entry f.located.1 f.located.2 := by
  by_cases hform : ∃ fields, entry = .map fields
  · obtain ⟨fields, rfl⟩ := hform
    by_cases hp : PropertyInOrder fields
    · cases hv : entryValues fields with
      | error g =>
        rw [entryFaults_of_entryValues hp hv, List.mem_singleton] at h
        subst h
        exact hasFault_of_entryValues hp hv
      | ok ts =>
        have hvalues : ValuesInOrder fields := exists_entryValues_iff.1 ⟨ts, hv⟩
        rcases (mem_entryFaults_iff hp hvalues).1 h with ⟨rfl, hb⟩ | ⟨rfl, ho⟩
        · exact .important hp hvalues hb
        · exact .origin hp hvalues ho
    · rw [entryFaults_of_property hp, List.mem_singleton] at h
      subst h
      simp only [PropertyInOrder, not_forall] at hp
      obtain ⟨v, hv, hname⟩ := hp
      exact .property hv hname
  · rw [not_exists] at hform
    rw [entryFaults_of_form hform, List.mem_singleton] at h
    subst h
    exact .form hform

/-- Whatever is wrong with an entry is found by its check. -/
lemma exists_mem_of_hasFault {field code : String} (h : HasFault defaults entry field code)
    (k : Nat) : ∃ f ∈ entryFaults defaults k entry, f.located = (field, code) := by
  cases h with
  | form h =>
    rw [entryFaults_of_form h]
    exact ⟨_, List.mem_singleton_self _, rfl⟩
  | property h hv =>
    rw [entryFaults_of_property fun hp => hv (hp _ h)]
    exact ⟨_, List.mem_singleton_self _, rfl⟩
  | valuesMissing hp h =>
    rw [entryFaults_of_entryValues hp (entryValues_of_missing h)]
    exact ⟨_, List.mem_singleton_self _, rfl⟩
  | valuesType hp h hnull hv =>
    rw [entryFaults_of_entryValues hp (entryValues_of_type h hnull hv)]
    exact ⟨_, List.mem_singleton_self _, rfl⟩
  | arity hp h hcount =>
    rw [entryFaults_of_entryValues hp (entryValues_of_arity h hcount)]
    exact ⟨_, List.mem_singleton_self _, rfl⟩
  | important hp hv h => exact ⟨.important, (mem_entryFaults_iff hp hv).2 (.inl ⟨rfl, h⟩), rfl⟩
  | origin hp hv h => exact ⟨.origin, (mem_entryFaults_iff hp hv).2 (.inr ⟨rfl, h⟩), rfl⟩

/-- The check finds a single fault, or it finds those of importance and origin, so that its faults
are told apart by whatever tells these two apart. -/
lemma nodup_map_entryFaults {α : Type} {g : EntryFault → α} (hg : g .important ≠ g .origin)
    (defaults : EntryDefaults) (k : Nat) (entry : Value) :
    ((entryFaults defaults k entry).map g).Nodup := by
  by_cases hform : ∃ fields, entry = .map fields
  · obtain ⟨fields, rfl⟩ := hform
    by_cases hp : PropertyInOrder fields
    · cases hv : entryValues fields with
      | error g =>
        rw [entryFaults_of_entryValues hp hv]
        exact List.nodup_singleton _
      | ok ts =>
        rw [entryFaults_of_values (isSupportedProperty_iff_inOrder.2 hp) hv]
        split <;> split <;> simp [hg]
    · rw [entryFaults_of_property hp]
      exact List.nodup_singleton _
  · rw [entryFaults_of_form (not_exists.1 hform)]
    exact List.nodup_singleton _

lemma nodup_located (defaults : EntryDefaults) (k : Nat) (entry : Value) :
    ((entryFaults defaults k entry).map EntryFault.located).Nodup :=
  nodup_map_entryFaults (by decide) defaults k entry

/-- The check of an entry lists its faults. -/
lemma listsFaults_entryFaults (defaults : EntryDefaults) (k : Nat) (entry : Value) :
    ListsFaults defaults entry ((entryFaults defaults k entry).map EntryFault.located) := by
  refine ⟨nodup_located defaults k entry, fun field code => ?_⟩
  rw [List.mem_map]
  constructor
  · rintro ⟨f, hf, hlocated⟩
    have hfault := hasFault_of_mem hf
    rwa [hlocated] at hfault
  · exact fun h => exists_mem_of_hasFault h k

/-- An importance and an origin that are both wrong. -/
example : (entryFaults .standard 0 (.map [(.text "values", .list [.text "auto"]),
    (.text "important", .int 1), (.text "origin", .text "nobody")])).map EntryFault.located =
      [(".important", "E_INVALID_TYPE"), (".origin", "E_INVALID_ENUM")] := by decide +kernel

/-- It does not matter where the entry stands. -/
lemma entryFaults_eq_zero (defaults : EntryDefaults) (k : Nat) (entry : Value) :
    entryFaults defaults k entry = entryFaults defaults 0 entry := by
  cases entry with
  | map fields =>
    by_cases hp : PropertyInOrder fields
    · cases hv : entryValues fields with
      | error g => rw [entryFaults_of_entryValues hp hv, entryFaults_of_entryValues hp hv]
      | ok ts =>
        have hp' := isSupportedProperty_iff_inOrder.2 hp
        rw [entryFaults_of_values hp' hv, entryFaults_of_values hp' hv]
    · rw [entryFaults_of_property hp, entryFaults_of_property hp]
  | _ => rfl

end Entry

/-! ### The report -/

/-- What a problem says apart from its message: the file, the place and the code. -/
def Problem.located (p : Problem) : Option Text × Option String × String :=
  (p.file, p.place, p.code)

/-- The problems that are reported of a document, none if it is accepted. -/
def Document.problems (d : Document) (defaults : EntryDefaults) : List Problem :=
  match d.check defaults with
  | .ok _ => []
  | .error ps => ps

/-- A check that is not passed ends with problems in the order of reports. -/
lemma sort_of_check_eq_error {d : Document} {defaults : EntryDefaults} {ps : List Problem}
    (h : d.check defaults = .error ps) : Problem.sort ps = ps := by
  unfold Document.check at h
  split at h
  · split at h
    · cases h
    · cases h
      exact Problem.sort_sort _
  · cases h
    exact Problem.sort_singleton _

/-- The problems of a document are in the order of reports. -/
lemma sort_problems (d : Document) (defaults : EntryDefaults) :
    Problem.sort (d.problems defaults) = d.problems defaults := by
  rw [Document.problems]
  split
  · exact Problem.sort_nil
  · rename_i h
    exact sort_of_check_eq_error h

/-- The report has what is found in the entries, in the order of reports. -/
lemma problems_perm_entryReports {d : Document} {entries : List Value}
    (hd : d.declarations = .list entries) (defaults : EntryDefaults) :
    (d.problems defaults).Perm (entryReports defaults d.file entries.zipIdx) := by
  rw [Document.problems, Document.check, hd]
  dsimp only
  cases entryReports defaults d.file entries.zipIdx with
  | nil => exact List.Perm.refl []
  | cons p r => exact Problem.sort_perm (p :: r)

/-- **Exact and local reports.**  Every entry has its faults, which depend on the entry and the
defaults alone.  A document with a list of entries is reported with the faults of its entries, each
of them once, in the file of the document and at the place of the entry, and with nothing else.  A
document without a list of entries is reported with that. -/
theorem problems_perm_faults (defaults : EntryDefaults) :
    (∃ faults : Value → List (String × String),
      (∀ entry, ListsFaults defaults entry (faults entry)) ∧
        ∀ (d : Document) (entries : List Value), d.declarations = .list entries →
          ((d.problems defaults).map Problem.located).Perm
            (entries.zipIdx.flatMap fun e => (faults e.1).map fun f =>
              (d.file, some ("declarations[" ++ toString e.2 ++ "]" ++ f.1), f.2))) ∧
    ∀ d : Document, (∀ entries, d.declarations ≠ .list entries) →
      (d.problems defaults).map Problem.located =
        [(d.file, some "declarations", "E_REQUIRED_FIELD")] := by
  refine ⟨⟨fun entry => (entryFaults defaults 0 entry).map EntryFault.located,
    listsFaults_entryFaults defaults 0, fun d entries hd => ?_⟩, fun d hd => ?_⟩
  · refine ((problems_perm_entryReports hd defaults).map Problem.located).trans (.of_eq ?_)
    rw [entryReports, List.map_flatMap]
    refine List.flatMap_congr fun e _ => ?_
    dsimp only
    rw [← entryFaults_eq_zero defaults e.2, List.map_map, List.map_map]
    rfl
  · rw [Document.problems, Document.check]
    cases hvalue : d.declarations with
    | list entries => exact absurd hvalue (hd entries)
    | _ => rfl

end CssMargin
