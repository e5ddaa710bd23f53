/-
# What settings files set

A settings file that holds nothing sets nothing, one that holds something other than a mapping is
refused, and of a mapping the first entry that is no setting decides.  If all entries are settings,
they are what the file sets, and the settings in force are these three: what the file says, and the
standard value where it says nothing.  So settings that are in force need no check.

The report of an entry that is no setting shows its key.  An integer with too many digits cannot be
shown, so there is a file whose first such entry ends the run without a report.
-/
import CssMargin.Proofs.Command.SettingsFile
namespace CssMargin

/-! ### From the file to the entries -/

/-- What the settings file that is named, if there is one, says.  An empty name names none. -/
inductive FileSays (d : Disk) : Option Text → List (Value × Value) → Prop where
  /-- There is no name. -/
  | unnamed : FileSays d none []
  /-- The name is empty. -/
  | emptyName : FileSays d (some ("" : Text)) []
  /-- The file holds nothing. -/
  | null {name : Text} {s : List Char} (hne : name ≠ ("" : Text))
    (hs : d.readText (Path.ofText name) = .ok s) (hv : Yaml.read s = .ok .null) :
    FileSays d (some name) []
  /-- The file holds a mapping. -/
  | map {name : Text} {s : List Char} {entries : List (Value × Value)} (hne : name ≠ ("" : Text))
    (hs : d.readText (Path.ofText name) = .ok s) (hv : Yaml.read s = .ok (.map entries)) :
    FileSays d (some name) entries

/-- Whether members are the three settings, each of them as the entries say or, if they say nothing,
as usual. -/
def IsMerge (entries : List (Value × Value)) (members : List (Text × Json)) : Prop :=
  ∃ (o : Origin) (b : Bool) (f : OutputFormat),
    members = ([("origin", .text o.name), ("important", .bool b), ("format", .text f.name)] :
      List (Text × Json)) ∧
    .text o.name = (Value.lookup? "origin" entries).getD (.text "author") ∧
    .bool b = (Value.lookup? "important" entries).getD (.bool false) ∧
    .text f.name = (Value.lookup? "format" entries).getD (.text "text")

section Reading

variable {d : Disk} {p : Path} {s : List Char} {v : Value} {o : Overrides}

lemma loadOverrides_of_read (hs : d.readText p = .ok s) (hv : Yaml.read s = .ok v) :
    loadOverrides d p = Overrides.ofValue v := by
  rw [loadOverrides, hs]
  dsimp only
  rw [hv]

lemma exists_read_of_loadOverrides (h : loadOverrides d p = .ok o) :
    ∃ s v, d.readText p = .ok s ∧ Yaml.read s = .ok v ∧ Overrides.ofValue v = .ok o := by
  rw [loadOverrides] at h
  split at h
  · cases h
  · rename_i s hs
    split at h
    · cases h
    · cases h
    · rename_i v hv
      exact ⟨s, v, hs, hv, h⟩

/-- A key that cannot be shown is one of a mapping. -/
lemma exists_entries_of_longInteger {n : Option Nat}
    (h : loadOverrides d p = .error (.failure (.longInteger n))) :
    ∃ s entries, d.readText p = .ok s ∧ Yaml.read s = .ok (.map entries) ∧
      Overrides.nothing.setAll entries = .error (.failure (.longInteger n)) := by
  rw [loadOverrides] at h
  split at h
  · cases h
  · rename_i s hs
    split at h
    · cases h
    · cases h
    · rename_i v hv
      cases v with
      | map entries => exact ⟨s, entries, hs, hv, h⟩
      | _ => cases h

end Reading

/-! ### From the entries to the settings -/

section Merging

variable {entries : List (Value × Value)} {o : Overrides}

lemma Overrides.distinctKeys_entries (o : Overrides) : Value.DistinctKeys o.entries := by
  rcases o with ⟨_ | _, _ | _, _ | _⟩ <;> simp [Overrides.entries_eq, Value.DistinctKeys]

/-- What is set takes the place of the standard settings. -/
lemma isMerge_override (hkeys : Value.DistinctKeys entries) (hperm : o.entries.Perm entries) :
    IsMerge entries (Settings.standard.override o).members := by
  have hlookup := o.distinctKeys_entries.lookup?_eq_of_perm hkeys hperm
  refine ⟨_, _, _, rfl, ?_, ?_, ?_⟩
  · rw [← hlookup]
    rcases o with ⟨_ | _, _ | _, _ | _⟩ <;> rfl
  · rw [← hlookup]
    rcases o with ⟨_ | _, _ | _, _ | _⟩ <;> rfl
  · rw [← hlookup]
    rcases o with ⟨_ | _, _ | _, _ | _⟩ <;> rfl

/-- Entries determine the settings that they are merged into. -/
lemma IsMerge.unique {st st' : Settings} (h : IsMerge entries st.members)
    (h' : IsMerge entries st'.members) : st = st' := by
  obtain ⟨o, b, f, hms, ho, hb, hf⟩ := h
  obtain ⟨o', b', f', hms', ho', hb', hf'⟩ := h'
  rw [← ho'] at ho
  rw [← hb'] at hb
  rw [← hf'] at hf
  have hmembers : st.members = st'.members := by
    rw [hms, hms', Value.text.inj ho, Value.bool.inj hb, Value.text.inj hf]
  simp only [Settings.members, List.cons.injEq, Prod.mk.injEq, Json.text.injEq, Json.bool.injEq,
    true_and, and_true] at hmembers
  obtain ⟨horigin, himportant, hformat⟩ := hmembers
  have h₁ := Origin.ofName?_eq_some_iff.2 horigin
  have h₃ := OutputFormat.ofName?_eq_some_iff.2 hformat
  rw [Origin.ofName?_name, Option.some.injEq] at h₁
  rw [OutputFormat.ofName?_name, Option.some.injEq] at h₃
  rcases st with ⟨_, _, _⟩
  rcases st' with ⟨_, _, _⟩
  simp only at h₁ himportant h₃
  rw [h₁, himportant, h₃]

end Merging

/-- When it is known what the file sets, it is what the file says. -/
lemma FileSets.exists_fileSays {d : Disk} {file : Option Text} {o : Overrides}
    (h : FileSets d file o) : ∃ entries, FileSays d file entries ∧
      (∀ e ∈ entries, IsSetting e.1 e.2) ∧ Value.DistinctKeys entries ∧
        o.entries.Perm entries := by
  have hnothing (file : Option Text) (hfile : FileSays d file []) :
      ∃ entries, FileSays d file entries ∧ (∀ e ∈ entries, IsSetting e.1 e.2) ∧
        Value.DistinctKeys entries ∧ Overrides.nothing.entries.Perm entries :=
    ⟨[], hfile, fun e he => absurd he List.not_mem_nil, List.Pairwise.nil, List.Perm.refl []⟩
  cases h with
  | unnamed => exact hnothing _ .unnamed
  | emptyName => exact hnothing _ .emptyName
  | named hne h =>
    obtain ⟨s, v, hs, hv, ho⟩ := exists_read_of_loadOverrides h
    cases v with
    | null =>
      cases ho
      exact hnothing _ (.null hne hs hv)
    | map entries =>
      have hkeys := Yaml.distinctKeys_of_read hv
      exact ⟨entries, .map hne hs hv, (Overrides.exists_setAll_iff _).1 ⟨o, ho⟩, hkeys,
        Overrides.perm_of_ofValue hkeys ho⟩
    | _ => cases ho

/-- A file that says nothing but settings sets them. -/
lemma FileSays.exists_fileSets {d : Disk} {file : Option Text}
    {entries : List (Value × Value)} (h : FileSays d file entries)
    (hall : ∀ e ∈ entries, IsSetting e.1 e.2) :
    ∃ o, FileSets d file o ∧ Value.DistinctKeys entries ∧ o.entries.Perm entries := by
  cases h with
  | unnamed => exact ⟨_, .unnamed, List.Pairwise.nil, List.Perm.refl []⟩
  | emptyName => exact ⟨_, .emptyName, List.Pairwise.nil, List.Perm.refl []⟩
  | null hne hs hv =>
    exact ⟨_, .named hne (loadOverrides_of_read hs hv), List.Pairwise.nil, List.Perm.refl []⟩
  | map hne hs hv =>
    have hkeys := Yaml.distinctKeys_of_read hv
    obtain ⟨o, ho⟩ := Overrides.exists_setAll hall Overrides.nothing
    exact ⟨o, .named hne ((loadOverrides_of_read hs hv).trans ho), hkeys,
      Overrides.perm_of_ofValue hkeys ho⟩

/-- **Settings files.**  Let a file be read as a YAML value.

* If it holds nothing, nothing is set; if it holds something that is no mapping, this is reported.
* A mapping is accepted exactly when all its entries are settings, and then they are what is set.
* Otherwise the first entry that is none decides, whatever follows it: it is reported, or its key
  cannot be shown and the run ends.

The settings in force are found exactly when the file, if one is named, says nothing but settings,
and they are these, with the standard ones where the file says nothing. -/
theorem loadSettings_iff_isMerge (d : Disk) :
    (∀ p s v, d.readText p = .ok s → Yaml.read s = .ok v →
      (v = .null → loadOverrides d p = .ok Overrides.nothing) ∧
      (v ≠ .null → (∀ entries, v ≠ .map entries) → ∃ f, loadOverrides d p = .error (.fault f) ∧
        ∀ say, f.message say = "settings file must be a mapping") ∧
      ∀ entries, v = .map entries →
        ((∃ o, loadOverrides d p = .ok o) ↔ ∀ e ∈ entries, IsSetting e.1 e.2) ∧
        ∀ o, loadOverrides d p = .ok o → (Json.toEntries o.members).Perm entries) ∧
    (∀ k v, ¬ IsSetting k v → ∃ stop, SettingStops k v stop ∧
      ∀ p s before after, d.readText p = .ok s →
        Yaml.read s = .ok (.map (before ++ (k, v) :: after)) →
        (∀ e ∈ before, IsSetting e.1 e.2) → loadOverrides d p = .error stop) ∧
    ∀ file st, loadSettings d file = .ok st ↔
      ∃ entries, FileSays d file entries ∧ (∀ e ∈ entries, IsSetting e.1 e.2) ∧
        IsMerge entries st.members := by
  refine ⟨fun p s v hs hv => ?_, fun k v hnot => ?_, fun file st => ⟨fun h => ?_, ?_⟩⟩
  · rw [loadOverrides_of_read hs hv]
    refine ⟨?_, fun hnull hmap => ?_, ?_⟩
    · rintro rfl
      rfl
    · cases v with
      | null => exact absurd rfl hnull
      | map entries => exact absurd rfl (hmap entries)
      | _ => exact ⟨.notMapping, rfl, fun _ => rfl⟩
    · rintro entries rfl
      exact ⟨Overrides.exists_setAll_iff _,
        fun o ho => Overrides.perm_of_ofValue (Yaml.distinctKeys_of_read hv) ho⟩
  · obtain ⟨stop, hstops, hstop⟩ := Overrides.setAll_of_first hnot
    refine ⟨stop, hstops, fun p s before after hs hv hbefore => ?_⟩
    rw [loadOverrides_of_read hs hv]
    exact hstop Overrides.nothing before after hbefore
  · rcases fileSets_or_stops d file with ⟨o, ho⟩ | ⟨name, e, rfl, hne, he⟩
    · rw [ho.loadSettings] at h
      cases h
      obtain ⟨entries, hfile, hall, hkeys, hperm⟩ := ho.exists_fileSays
      exact ⟨entries, hfile, hall, isMerge_override hkeys hperm⟩
    · rw [loadSettings_named d hne, he] at h
      cases h
  · rintro ⟨entries, hfile, hall, hmerge⟩
    obtain ⟨o, ho, hkeys, hperm⟩ := hfile.exists_fileSets hall
    rw [ho.loadSettings, (isMerge_override hkeys hperm).unique hmerge]

/-- A disk with a settings file that is accepted, one that is not, and one with a key of more than
4300 digits. -/
def settingsFiles : Disk :=
  ⟨["work"], [
    (["work", "good.yaml"], .file (Text.encodeUtf8 "format: json\norigin: user\n".toList)),
    (["work", "bad.yaml"], .file (Text.encodeUtf8 "origin: user\n1: x\nimportant: 3\n".toList)),
    (["work", "long.yaml"],
      .file (Text.encodeUtf8 ("? 0x".toList ++ List.replicate 3572 'F' ++ "\n: 1\n".toList)))]⟩

/-- The first file leaves the importance as it is. -/
theorem loadSettings_iff_isMerge_good :
    let file : Text := "good.yaml"
    loadSettings settingsFiles (some file) = .ok ⟨.user, false, .json⟩ ∧
    ∃ entries, FileSays settingsFiles (some file) entries ∧
      (∀ e ∈ entries, IsSetting e.1 e.2) ∧
        IsMerge entries (Settings.mk .user false .json).members := by
  intro file
  have hload : loadSettings settingsFiles (some file) = .ok ⟨.user, false, .json⟩ := by
    decide +kernel
  exact ⟨hload, ((loadSettings_iff_isMerge settingsFiles).2.2 _ _).1 hload⟩

/-- In the second file the number is reported and not the importance behind it. -/
example : loadOverrides settingsFiles (Path.ofText "bad.yaml") =
    .error (.fault (.unknownKey "1")) := by decide +kernel

set_option maxRecDepth 20000 in
/-- The first entry of the third file that is no setting is not reported. -/
theorem loadOverrides_longKey :
    ∃ s before k v after, settingsFiles.readText (Path.ofText "long.yaml") = .ok s ∧
      Yaml.read s = .ok (.map (before ++ (k, v) :: after)) ∧
      (∀ e ∈ before, IsSetting e.1 e.2) ∧ ¬ IsSetting k v ∧
      ∀ f, loadOverrides settingsFiles (Path.ofText "long.yaml") ≠ .error (.fault f) := by
  have hload : loadOverrides settingsFiles (Path.ofText "long.yaml") =
      .error (.failure (.longInteger none)) := by decide +kernel
  obtain ⟨s, entries, hs, hv, hset⟩ := exists_entries_of_longInteger hload
  obtain ⟨before, k, v, after, rfl, hbefore, hfirst, -⟩ := Overrides.exists_first_of_setAll hset
  refine ⟨s, before, k, v, after, hs, hv, hbefore, hfirst, fun f hf => ?_⟩
  rw [hload] at hf
  cases hf

end CssMargin
