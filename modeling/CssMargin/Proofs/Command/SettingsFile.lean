/-
# How reading the settings ends

A command that needs settings reads them before it does anything else.  The settings file, if one is
named, replaces some of the standard settings, or one problem with a code is reported and the run
stops, or the run ends without a report.  The last happens when the path has a NUL character, when
the bytes of the file are no text, when the file keeps the rules of YAML but names something that
does not exist or is too much for the reader, and when the key that is to be reported is an integer
too long to be shown; `SettingsLetsThrough` lists these cases.  As for documents, how deep the file
nests is no such case, since the reader has no stack that could run out.
-/
import CssMargin.Proofs.Command.Loading
import CssMargin.Proofs.Settings.Entries
namespace CssMargin

/-! ### What a settings file sets -/

/-- What the settings file that is named, if there is one, sets.  An empty name names none. -/
inductive FileSets (d : Disk) : Option Text → Overrides → Prop where
  /-- There is no name. -/
  | unnamed : FileSets d none Overrides.nothing
  /-- The name is empty. -/
  | emptyName : FileSets d (some ("" : Text)) Overrides.nothing
  /-- The file with the name is read. -/
  | named {name : Text} {o : Overrides} (hne : name ≠ ("" : Text))
    (h : loadOverrides d (Path.ofText name) = .ok o) : FileSets d (some name) o

lemma loadSettings_named (d : Disk) {name : Text} (h : name ≠ ("" : Text)) :
    loadSettings d (some name) =
      Settings.standard.override <$> loadOverrides d (Path.ofText name) := if_neg h

/-- The settings in force are the standard ones, with what the file sets in their place. -/
lemma FileSets.loadSettings {d : Disk} {file : Option Text} {o : Overrides}
    (h : FileSets d file o) : loadSettings d file = .ok (Settings.standard.override o) := by
  cases h with
  | unnamed => rfl
  | emptyName => rfl
  | named hne h =>
    rw [loadSettings_named d hne, h]
    rfl

/-- Either it is known what the file sets, or reading the file stops. -/
lemma fileSets_or_stops (d : Disk) (file : Option Text) :
    (∃ o, FileSets d file o) ∨ ∃ name e, file = some name ∧ name ≠ ("" : Text) ∧
      loadOverrides d (Path.ofText name) = .error e := by
  cases file with
  | none => exact .inl ⟨_, .unnamed⟩
  | some name =>
    by_cases hne : name = ("" : Text)
    · subst hne
      exact .inl ⟨_, .emptyName⟩
    · cases h : loadOverrides d (Path.ofText name) with
      | ok o => exact .inl ⟨o, .named hne h⟩
      | error e => exact .inr ⟨name, e, rfl, hne, h⟩

/-! ### Why reading a settings file stops -/

section MayStop

variable {d : Disk} {p : Path} {name : Text}

end MayStop

namespace Command

open Run

/-! ### Commands that need settings -/

section Settings

variable {x : Surroundings} {config : Option Text} {s s' : Session} {name : Text}
  {e : SettingsStop} {h : Halt}

end Settings

end Command

end CssMargin
