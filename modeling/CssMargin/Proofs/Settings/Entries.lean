/-
# Which entries a settings file may have

An entry of a settings file is a setting when its key is one of the three and its value one that
this key may have.  Whether an entry is a setting, and what reading the settings stops with if it is
none, are matters of the entry alone: `SettingStops` says the latter in the words of the report, for
which the key has to be shown.  A single entry is looked at first; then it follows for any list of
entries that they are all taken over, or that the first one that is no setting decides.
-/
import CssMargin.Proofs.Chain
import CssMargin.Proofs.Shorthand.Acceptance
import CssMargin.Proofs.Yaml.Keys
import CssMargin.Settings.Load
namespace CssMargin

/-! ### What an entry can be -/

/-- The settings that there can be, as keys with their values. -/
inductive IsSetting : Value → Value → Prop where
  /-- One of the three origins. -/
  | origin (o : Origin) : IsSetting (.text "origin") (.text o.name)
  /-- A truth value. -/
  | important (b : Bool) : IsSetting (.text "important") (.bool b)
  /-- One of the three formats. -/
  | format (f : OutputFormat) : IsSetting (.text "format") (.text f.name)

/-- The keys that settings have. -/
def settingKeys : List String := ["origin", "important", "format"]

/-- The values that cannot be shown: an integer with too many digits occurs in them. -/
inductive IsLongKey : Value → Prop where
  /-- The integer itself. -/
  | int {n : Int} (h : Text.digitLimit < (Nat.toDigits 10 n.natAbs).length) : IsLongKey (.int n)
  /-- It occurs in an item of a list. -/
  | item {v : Value} {items : List Value} (hv : v ∈ items) (h : IsLongKey v) :
    IsLongKey (.list items)
  /-- It occurs in an item of a set. -/
  | member {v : Value} {items : List Value} (hv : v ∈ items) (h : IsLongKey v) :
    IsLongKey (.set items)
  /-- It occurs in a key of a mapping. -/
  | key {e : Value × Value} {entries : List (Value × Value)} (he : e ∈ entries)
    (h : IsLongKey e.1) : IsLongKey (.map entries)
  /-- It occurs in a value of a mapping. -/
  | value {e : Value × Value} {entries : List (Value × Value)} (he : e ∈ entries)
    (h : IsLongKey e.2) : IsLongKey (.map entries)

/-- What is reported of an entry that is no setting. -/
inductive SettingReport : Value → Value → Text → Prop where
  /-- There is no such key. -/
  | unknown {k : Value} (v : Value) (h : ∀ name ∈ settingKeys, k ≠ .text name) :
    SettingReport k v
      ("unknown setting '" ++ k.shown ++ "' (choose from: format, important, origin)")
  /-- The value is no origin. -/
  | origin {v : Value} (h : ∀ o : Origin, v ≠ .text o.name) :
    SettingReport (.text "origin") v "origin must be one of ['user-agent', 'user', 'author']"
  /-- The value is no truth value. -/
  | important {v : Value} (h : ∀ b, v ≠ .bool b) :
    SettingReport (.text "important") v "important must be a boolean"
  /-- The value is no format. -/
  | format {v : Value} (h : ∀ f : OutputFormat, v ≠ .text f.name) :
    SettingReport (.text "format") v "format must be one of ['text', 'json', 'yaml']"

/-- What reading the settings stops with at an entry that is no setting. -/
inductive SettingStops (k v : Value) : SettingsStop → Prop where
  /-- It is reported. -/
  | reported {f : SettingsFault} (hk : ¬ IsLongKey k)
    (h : ∀ say, SettingReport k v (f.message say)) : SettingStops k v (.fault f)
  /-- It would be reported, but its key cannot be shown. -/
  | unshown (hk : IsLongKey k) : SettingStops k v (.failure (.longInteger none))

/-! ### Keys that cannot be shown -/

mutual

lemma isLongKey_of_hasLongInteger : ∀ {v : Value}, v.hasLongInteger = true → IsLongKey v
  | .int _, h => .int (of_decide_eq_true h)
  | .list _, h =>
    let ⟨_, hv, hlong⟩ := exists_isLongKey_of_anyLongInteger h
    .item hv hlong
  | .set _, h =>
    let ⟨_, hv, hlong⟩ := exists_isLongKey_of_anyLongInteger h
    .member hv hlong
  | .map _, h =>
    let ⟨_, he, hlong⟩ := exists_isLongKey_of_anyLongEntry h
    hlong.elim (.key he) (.value he)

lemma exists_isLongKey_of_anyLongInteger :
    ∀ {items : List Value}, Value.anyLongInteger items = true → ∃ v ∈ items, IsLongKey v
  | v :: r, h => by
    rw [Value.anyLongInteger, Bool.or_eq_true] at h
    rcases h with hv | hr
    · exact ⟨v, List.mem_cons_self .., isLongKey_of_hasLongInteger hv⟩
    · obtain ⟨w, hw, hlong⟩ := exists_isLongKey_of_anyLongInteger hr
      exact ⟨w, List.mem_cons_of_mem _ hw, hlong⟩

lemma exists_isLongKey_of_anyLongEntry : ∀ {entries : List (Value × Value)},
    Value.anyLongEntry entries = true → ∃ e ∈ entries, IsLongKey e.1 ∨ IsLongKey e.2
  | (k, v) :: r, h => by
    rw [Value.anyLongEntry, Bool.or_eq_true, Bool.or_eq_true] at h
    rcases h with (hk | hv) | hr
    · exact ⟨(k, v), List.mem_cons_self .., .inl (isLongKey_of_hasLongInteger hk)⟩
    · exact ⟨(k, v), List.mem_cons_self .., .inr (isLongKey_of_hasLongInteger hv)⟩
    · obtain ⟨e, he, hlong⟩ := exists_isLongKey_of_anyLongEntry hr
      exact ⟨e, List.mem_cons_of_mem _ he, hlong⟩

end

lemma anyLongInteger_of_mem {v : Value} {items : List Value} (hv : v ∈ items)
    (h : v.hasLongInteger = true) : Value.anyLongInteger items = true := by
  induction items with
  | nil => exact absurd hv List.not_mem_nil
  | cons w r ih =>
    rw [Value.anyLongInteger, Bool.or_eq_true]
    rcases List.mem_cons.1 hv with rfl | hr
    · exact .inl h
    · exact .inr (ih hr)

lemma anyLongEntry_of_mem {e : Value × Value} {entries : List (Value × Value)} (he : e ∈ entries)
    (h : e.1.hasLongInteger = true ∨ e.2.hasLongInteger = true) :
    Value.anyLongEntry entries = true := by
  induction entries with
  | nil => exact absurd he List.not_mem_nil
  | cons x r ih =>
    rw [Value.anyLongEntry, Bool.or_eq_true, Bool.or_eq_true]
    rcases List.mem_cons.1 he with rfl | hr
    · exact .inl h
    · exact .inr (ih hr)

lemma IsLongKey.hasLongInteger {v : Value} (h : IsLongKey v) : v.hasLongInteger = true := by
  induction h with
  | int h => exact decide_eq_true h
  | item hv _ ih => exact anyLongInteger_of_mem hv ih
  | member hv _ ih => exact anyLongInteger_of_mem hv ih
  | key he _ ih => exact anyLongEntry_of_mem he (.inl ih)
  | value he _ ih => exact anyLongEntry_of_mem he (.inr ih)

lemma not_isLongKey_text (s : Text) : ¬ IsLongKey (.text s) := nofun

/-! ### One entry -/

lemma asFormat?_eq_some_iff {v : Value} {f : OutputFormat} :
    asFormat? v = some f ↔ v = .text f.name := by
  cases v <;> simp [asFormat?, OutputFormat.ofName?_eq_some_iff]

/-- An unknown key is reported if it can be shown. -/
lemma settingStops_unknownSetting {k : Value} (v : Value)
    (h : ∀ name ∈ settingKeys, k ≠ .text name) : SettingStops k v (unknownSetting k) := by
  rw [unknownSetting]
  by_cases hlong : k.hasLongInteger = true
  · rw [if_pos hlong]
    exact .unshown (isLongKey_of_hasLongInteger hlong)
  · rw [if_neg hlong]
    exact .reported (fun hk => hlong hk.hasLongInteger) fun _ => .unknown v h

/-- A setting is taken over, whatever has been taken over before. -/
lemma exists_set_of_isSetting {k v : Value} (h : IsSetting k v) (o : Overrides) :
    ∃ o', o.set k v = .ok o' := by
  cases h with
  | origin x => exact ⟨{ o with origin := some x }, by simp [Overrides.set, asOrigin?]⟩
  | important b => exact ⟨{ o with important := some b }, by simp [Overrides.set, asBool?]⟩
  | format f => exact ⟨{ o with format := some f }, by simp [Overrides.set, asFormat?]⟩

/-- Anything else ends the reading, and does so always in the same way. -/
lemma exists_set_eq_error {k v : Value} (h : ¬ IsSetting k v) :
    ∃ stop, SettingStops k v stop ∧ ∀ o : Overrides, o.set k v = .error stop := by
  by_cases horigin : k = .text "origin"
  · subst horigin
    have hv : ∀ x : Origin, v ≠ .text x.name := fun x hx => h (hx ▸ .origin x)
    have hnone : asOrigin? v = none :=
      Option.eq_none_iff_forall_ne_some.2 fun x hx => hv x (asOrigin?_eq_some_iff.1 hx)
    exact ⟨.fault .origin, .reported (not_isLongKey_text _) fun _ => .origin hv,
      fun o => by simp [Overrides.set, hnone]⟩
  by_cases himportant : k = .text "important"
  · subst himportant
    have hv : ∀ b, v ≠ .bool b := fun b hb => h (hb ▸ .important b)
    have hnone : asBool? v = none :=
      Option.eq_none_iff_forall_ne_some.2 fun b hb => hv b (asBool?_eq_some_iff.1 hb)
    exact ⟨.fault .important, .reported (not_isLongKey_text _) fun _ => .important hv,
      fun o => by simp [Overrides.set, hnone]⟩
  by_cases hformat : k = .text "format"
  · subst hformat
    have hv : ∀ f : OutputFormat, v ≠ .text f.name := fun f hf => h (hf ▸ .format f)
    have hnone : asFormat? v = none :=
      Option.eq_none_iff_forall_ne_some.2 fun f hf => hv f (asFormat?_eq_some_iff.1 hf)
    exact ⟨.fault .format, .reported (not_isLongKey_text _) fun _ => .format hv,
      fun o => by simp [Overrides.set, hnone]⟩
  -- the key is none of the three
  have hkey : ∀ name ∈ settingKeys, k ≠ .text name := by
    simp only [settingKeys, List.forall_mem_cons, List.not_mem_nil, false_implies, implies_true,
      and_true]
    exact ⟨horigin, himportant, hformat⟩
  refine ⟨unknownSetting k, settingStops_unknownSetting v hkey, fun o => ?_⟩
  rw [← Value.isText_iff] at horigin himportant hformat
  rw [Overrides.set, if_neg horigin, if_neg himportant, if_neg hformat]

/-! ### What has been taken over -/

/-- What is set, as entries of a settings file. -/
def Overrides.entries (o : Overrides) : List (Value × Value) := Json.toEntries o.members

lemma Overrides.entries_eq (o : Overrides) :
    o.entries = (o.origin.map fun x => (.text "origin", .text x.name)).toList ++
      (o.important.map fun b => (.text "important", .bool b)).toList ++
      (o.format.map fun f => (.text "format", .text f.name)).toList := by
  rcases o with ⟨_ | _, _ | _, _ | _⟩ <;> rfl

section WhatIsSet

variable {o o' : Overrides} {k v : Value} {entries : List (Value × Value)}

/-- A setting with a new key comes to those that have been taken over. -/
lemma Overrides.perm_of_set (hperm : o.entries.Perm entries)
    (hnew : ∀ e ∈ entries, e.1.sameKey k = false) (h : o.set k v = .ok o') :
    o'.entries.Perm (entries ++ [(k, v)]) := by
  have hsetting : IsSetting k v := by
    by_contra hnot
    obtain ⟨stop, -, hstop⟩ := exists_set_eq_error hnot
    rw [hstop o] at h
    cases h
  -- what is set under the key already would be an entry with the same key
  have hfresh : ∀ e ∈ o.entries, e.1.sameKey k = false := fun e he => hnew e (hperm.mem_iff.1 he)
  refine List.Perm.trans ?_ (hperm.append_right [(k, v)])
  rw [entries_eq o', entries_eq o]
  cases hsetting with
  | origin x =>
    obtain rfl : { o with origin := some x } = o' := by simpa [set, asOrigin?] using h
    have hnone : o.origin = none := Option.eq_none_iff_forall_ne_some.2 fun y hy =>
      absurd (hfresh (.text "origin", .text y.name) (by simp [entries_eq, hy])) (by simp)
    rw [hnone, Option.map_none, Option.toList_none, List.nil_append, List.append_assoc]
    exact List.perm_append_comm
  | important b =>
    obtain rfl : { o with important := some b } = o' := by simpa [set, asBool?] using h
    have hnone : o.important = none := Option.eq_none_iff_forall_ne_some.2 fun y hy =>
      absurd (hfresh (.text "important", .bool y) (by simp [entries_eq, hy])) (by simp)
    rw [hnone, Option.map_none, Option.toList_none, List.append_nil, List.append_assoc,
      List.append_assoc]
    exact List.perm_append_comm.append_left _
  | format f =>
    obtain rfl : { o with format := some f } = o' := by simpa [set, asFormat?] using h
    have hnone : o.format = none := Option.eq_none_iff_forall_ne_some.2 fun y hy =>
      absurd (hfresh (.text "format", .text y.name) (by simp [entries_eq, hy])) (by simp)
    simp [hnone]

end WhatIsSet

/-! ### All entries -/

namespace Overrides

variable {o o' : Overrides} {entries before after : List (Value × Value)}

/-- Take over entries from the first to the last. -/
def setAll (o : Overrides) (entries : List (Value × Value)) : Except SettingsStop Overrides :=
  entries.foldlM (fun o e => o.set e.1 e.2) o

lemma setAll_cons (o : Overrides) (e : Value × Value) (r : List (Value × Value)) :
    o.setAll (e :: r) = o.set e.1 e.2 >>= fun o => o.setAll r := List.foldlM_cons

lemma setAll_append (o : Overrides) (before after : List (Value × Value)) :
    o.setAll (before ++ after) = o.setAll before >>= fun o => o.setAll after :=
  List.foldlM_append

/-- Settings are all taken over. -/
lemma exists_setAll (h : ∀ e ∈ entries, IsSetting e.1 e.2) (o : Overrides) :
    ∃ o', o.setAll entries = .ok o' := by
  induction entries generalizing o with
  | nil => exact ⟨o, rfl⟩
  | cons e r ih =>
    obtain ⟨o₁, ho₁⟩ := exists_set_of_isSetting (h e (List.mem_cons_self ..)) o
    obtain ⟨o₂, ho₂⟩ := ih (fun x hx => h x (List.mem_cons_of_mem _ hx)) o₁
    exact ⟨o₂, by rw [setAll_cons, ho₁, ok_bind, ho₂]⟩

/-- The first entry that is no setting decides, whatever stands before and behind it. -/
lemma setAll_of_first {k v : Value} (h : ¬ IsSetting k v) :
    ∃ stop, SettingStops k v stop ∧ ∀ (o : Overrides) before after,
      (∀ e ∈ before, IsSetting e.1 e.2) → o.setAll (before ++ (k, v) :: after) = .error stop := by
  obtain ⟨stop, hstops, hstop⟩ := exists_set_eq_error h
  refine ⟨stop, hstops, fun o before after hbefore => ?_⟩
  obtain ⟨o', ho'⟩ := exists_setAll hbefore o
  rw [setAll_append, ho', ok_bind, setAll_cons, hstop, error_bind]

/-- If not all entries are settings, one of them is the first that is none. -/
lemma exists_first (h : ¬ ∀ e ∈ entries, IsSetting e.1 e.2) :
    ∃ before k v after, entries = before ++ (k, v) :: after ∧
      (∀ e ∈ before, IsSetting e.1 e.2) ∧ ¬ IsSetting k v := by
  induction entries with
  | nil => exact absurd (fun e he => absurd he List.not_mem_nil) h
  | cons x r ih =>
    by_cases hx : IsSetting x.1 x.2
    · rw [List.forall_mem_cons, not_and] at h
      obtain ⟨before, k, v, after, rfl, hbefore, hv⟩ := ih (h hx)
      exact ⟨x :: before, k, v, after, rfl, List.forall_mem_cons.2 ⟨hx, hbefore⟩, hv⟩
    · exact ⟨[], x.1, x.2, r, rfl, fun y hy => absurd hy List.not_mem_nil, hx⟩

/-- Entries are all taken over exactly when they are settings. -/
lemma exists_setAll_iff (o : Overrides) :
    (∃ o', o.setAll entries = .ok o') ↔ ∀ e ∈ entries, IsSetting e.1 e.2 := by
  refine ⟨fun ⟨o', ho'⟩ => ?_, fun h => exists_setAll h o⟩
  by_contra h
  obtain ⟨before, k, v, after, rfl, hbefore, hv⟩ := exists_first h
  obtain ⟨stop, -, hstop⟩ := setAll_of_first hv
  rw [hstop o before after hbefore] at ho'
  cases ho'

/-- What stops it otherwise is the first entry that is no setting. -/
lemma exists_first_of_setAll {stop : SettingsStop} (h : o.setAll entries = .error stop) :
    ∃ before k v after, entries = before ++ (k, v) :: after ∧
      (∀ e ∈ before, IsSetting e.1 e.2) ∧ ¬ IsSetting k v ∧ SettingStops k v stop := by
  have hnot : ¬ ∀ e ∈ entries, IsSetting e.1 e.2 := by
    intro hall
    obtain ⟨o', ho'⟩ := exists_setAll hall o
    rw [ho'] at h
    cases h
  obtain ⟨before, k, v, after, rfl, hbefore, hv⟩ := exists_first hnot
  obtain ⟨stop', hstops, hstop⟩ := setAll_of_first hv
  rw [hstop o before after hbefore] at h
  cases h
  exact ⟨before, k, v, after, rfl, hbefore, hv, hstops⟩

/-- When entries with different keys are taken over, they are what is set. -/
lemma perm_of_setAll (hperm : o.entries.Perm before)
    (hkeys : Value.DistinctKeys (before ++ after)) (h : o.setAll after = .ok o') :
    o'.entries.Perm (before ++ after) := by
  induction after generalizing o before with
  | nil =>
    cases h
    rwa [List.append_nil]
  | cons e r ih =>
    obtain ⟨o₁, ho₁⟩ : ∃ o₁, o.set e.1 e.2 = .ok o₁ := by
      cases hset : o.set e.1 e.2 with
      | ok o₁ => exact ⟨o₁, rfl⟩
      | error stop =>
        rw [setAll_cons, hset] at h
        cases h
    rw [setAll_cons, ho₁, ok_bind] at h
    have hnew : ∀ x ∈ before, x.1.sameKey e.1 = false := fun x hx =>
      (List.pairwise_append.1 hkeys).2.2 x hx e (List.mem_cons_self ..)
    rw [List.append_cons] at hkeys ⊢
    exact ih (perm_of_set hperm hnew ho₁) hkeys h

/-- What a mapping sets is what it says, if no key is there twice. -/
lemma perm_of_ofValue (hkeys : Value.DistinctKeys entries)
    (h : ofValue (.map entries) = .ok o) : o.entries.Perm entries :=
  perm_of_setAll (List.Perm.refl nothing.entries) hkeys h

end Overrides

end CssMargin
