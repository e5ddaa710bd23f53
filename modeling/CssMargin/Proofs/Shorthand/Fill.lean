/-
# Defaults written into the document

An entry that does not say its origin or its importance has them from the defaults, and this is all
that the defaults are for.  So a document into whose entries they have been written, wherever these
say nothing, is checked with the same result, and whatever defaults it is checked with: the entries
ask for none any more.  A key that is there has been said, even if its value is `null`.

The check of an entry is a matter of what is found under four keys, and each of the two defaults is
written under one of them.  It is enough to know what is found under the keys before and after.
-/
import CssMargin.Shorthand.Check
import Mathlib.Tactic.Common
namespace CssMargin

/-! ### One key -/

/-- Fields, with a value under a key that they do not have. -/
def withDefault (k : String) (v : Value) (fields : List (Value × Value)) : List (Value × Value) :=
  match Value.lookup? k fields with
  | some _ => fields
  | none => fields ++ [(.text k, v)]

section Lookup

variable {k k' : String} {v : Value} {fields : List (Value × Value)}

/-- The first of two mappings that has the key decides. -/
lemma Value.lookup?_append (fields fields' : List (Value × Value)) :
    lookup? k (fields ++ fields') = (lookup? k fields).or (lookup? k fields') := by
  induction fields with
  | nil => rfl
  | cons e r ih =>
    rw [List.cons_append, lookup?_cons, lookup?_cons, ih]
    split <;> rfl

lemma lookup?_withDefault_self :
    Value.lookup? k (withDefault k v fields) = some ((Value.lookup? k fields).getD v) := by
  rw [withDefault]
  cases h : Value.lookup? k fields with
  | some w => exact h
  | none => simp [Value.lookup?_append, Value.lookup?_cons, h]

lemma lookup?_withDefault_of_ne (h : k' ≠ k) :
    Value.lookup? k' (withDefault k v fields) = Value.lookup? k' fields := by
  rw [withDefault]
  split
  · rfl
  · simp [Value.lookup?_append, Value.lookup?_cons, h.symm]

end Lookup

/-! ### One entry -/

/-- An entry into which the defaults have been written. -/
def EntryDefaults.fillEntry (defaults : EntryDefaults) : Value → Value
  | .map fields =>
    .map (withDefault "important" defaults.important
      (withDefault "origin" defaults.origin fields))
  | entry => entry

section Entry

variable {defaults defaults' : EntryDefaults} {fields fields' : List (Value × Value)}

/-- The values of an entry are what is found under their key. -/
lemma entryValues_congr (h : Value.lookup? "values" fields = Value.lookup? "values" fields') :
    entryValues fields = entryValues fields' := by
  rw [entryValues, entryValues, h]

/-- The check sees of an entry its property, its values, its importance and its origin, and of the
defaults what the entry leaves to them. -/
lemma checkEntry_congr (k : Nat)
    (hproperty : Value.lookup? "property" fields = Value.lookup? "property" fields')
    (hvalues : Value.lookup? "values" fields = Value.lookup? "values" fields')
    (himportant : (Value.lookup? "important" fields).getD defaults.important =
      (Value.lookup? "important" fields').getD defaults'.important)
    (horigin : (Value.lookup? "origin" fields).getD defaults.origin =
      (Value.lookup? "origin" fields').getD defaults'.origin) :
    checkEntry defaults k (.map fields) = checkEntry defaults' k (.map fields') := by
  rw [checkEntry, checkEntry, hproperty, entryValues_congr hvalues, himportant, horigin]

/-- A filled entry is checked like the entry, whatever the defaults are then. -/
lemma checkEntry_fillEntry (defaults defaults' : EntryDefaults) (k : Nat) (entry : Value) :
    checkEntry defaults' k (defaults.fillEntry entry) = checkEntry defaults k entry := by
  cases entry with
  | map fields =>
    refine checkEntry_congr k ?_ ?_ ?_ ?_
    · rw [lookup?_withDefault_of_ne (by decide), lookup?_withDefault_of_ne (by decide)]
    · rw [lookup?_withDefault_of_ne (by decide), lookup?_withDefault_of_ne (by decide)]
    -- under its own key the default is found, and nothing is left to the other defaults
    · rw [lookup?_withDefault_self, lookup?_withDefault_of_ne (by decide), Option.getD_some]
    · rw [lookup?_withDefault_of_ne (by decide), lookup?_withDefault_self, Option.getD_some]
  | _ => rfl

end Entry

/-! ### The document -/

/-- A document into whose entries the defaults have been written. -/
def Document.fill (d : Document) (defaults : EntryDefaults) : Document :=
  match d.declarations with
  | .list entries => { d with declarations := .list (entries.map defaults.fillEntry) }
  | _ => d

section Entries

variable (defaults defaults' : EntryDefaults) (entries : List Value)

lemma entryReports_fill (file : Option Text) :
    entryReports defaults' file (entries.map defaults.fillEntry).zipIdx =
      entryReports defaults file entries.zipIdx := by
  simp only [entryReports, List.zipIdx_map, List.flatMap_map, Prod.map, entryFaults, id,
    checkEntry_fillEntry]

lemma entryShorthands_fill :
    entryShorthands defaults' (entries.map defaults.fillEntry).zipIdx =
      entryShorthands defaults entries.zipIdx := by
  simp only [entryShorthands, List.zipIdx_map, List.filterMap_map, Function.comp_def, Prod.map, id,
    checkEntry_fillEntry]

end Entries

/-- **Defaults as entries.**  To check a document with defaults is to check it after they have been
written into its entries, with any defaults: the shorthands are the same, or the problems are, in
the same order. -/
theorem check_fill (d : Document) (defaults defaults' : EntryDefaults) :
    (d.fill defaults).check defaults' = d.check defaults := by
  cases h : d.declarations with
  | list entries =>
    have hfill : d.fill defaults =
        { d with declarations := .list (entries.map defaults.fillEntry) } := by
      rw [Document.fill, h]
    rw [hfill, Document.check, Document.check, h]
    dsimp only
    rw [entryReports_fill, entryShorthands_fill]
  | _ => simp only [Document.fill, Document.check, h]

/-- An origin that is there stays, though it is `null`, and the importance is written behind it. -/
example : (EntryDefaults.mk (.text "user") (.int 3)).fillEntry (.map [(.text "origin", .null)]) =
    .map [(.text "origin", .null), (.text "important", .int 3)] := by rfl

end CssMargin
