/-
# Which documents are accepted

A document is accepted exactly when it has a list of entries and every entry is well formed: its
property, if it names one, is `margin` in any letter case and between any blanks; its values are
one to four texts; its importance is a truth value and its origin one of the three, whether it says
so itself or leaves it to the defaults.  Nothing is lost on the way: the shorthands stand in the
order of the entries, one for each, and repeat what the entries say.  A document that is not
accepted has at least one problem.

Both directions go through a single entry: `checkEntry_eq_ok_iff` says when its check ends well and
with which shorthand, and `checkEntry_ne_error_nil` that it does not end badly without a fault.
-/
import CssMargin.Proofs.Text.SmallForm
import CssMargin.Shorthand.Check
import Mathlib.Data.Bool.AllAny
import Mathlib.Data.List.Forall2
import Mathlib.Data.Set.List
namespace CssMargin

/-! ### Well-formed entries -/

/-- Whether a value is the name of the supported property, in any letter case and between any
blanks. -/
def NamesMargin (v : Value) : Prop :=
  ∃ t : String, v = .text t ∧ Text.lower (Text.trim t.toList) = marginProperty.toList

/-- Whether the fields of an entry say a shorthand, given the defaults for what they leave out. -/
structure WellFormedFields (defaults : EntryDefaults) (fields : List (Value × Value)) : Prop where
  /-- The property is not said or supported. -/
  property : ∀ v, Value.lookup? "property" fields = some v → NamesMargin v
  /-- The values are one to four texts. -/
  values : ∃ items, Value.lookup? "values" fields = some (.list items) ∧
    1 ≤ items.length ∧ items.length ≤ 4 ∧ ∀ v ∈ items, ∃ t, v = .text t
  /-- The importance is a truth value. -/
  important : ∃ b, (Value.lookup? "important" fields).getD defaults.important = .bool b
  /-- The origin is one of the three. -/
  origin : ∃ o : Origin, (Value.lookup? "origin" fields).getD defaults.origin = .text o.name

/-- Whether an entry is a mapping with well-formed fields. -/
def WellFormedEntry (defaults : EntryDefaults) (entry : Value) : Prop :=
  ∃ fields, entry = .map fields ∧ WellFormedFields defaults fields

/-- Whether a shorthand repeats what the fields of the entry at position `k` say. -/
structure Repeats (defaults : EntryDefaults) (k : Nat) (fields : List (Value × Value))
    (s : Shorthand) : Prop where
  /-- It is a shorthand of the one property. -/
  property : s.property = marginProperty
  /-- It has the values of the entry, unchanged and in their order. -/
  values : Value.lookup? "values" fields = some (.list (s.values.map .text))
  /-- It has the importance of the entry or the default one. -/
  important : (Value.lookup? "important" fields).getD defaults.important = .bool s.important
  /-- It has the origin of the entry or the default one. -/
  origin : (Value.lookup? "origin" fields).getD defaults.origin = .text s.origin.name
  /-- It knows its position. -/
  index : s.index = k

/-! ### One field at a time -/

lemma isSupportedProperty_iff {v : Value} : isSupportedProperty v = true ↔ NamesMargin v := by
  have hword : ∀ c ∈ marginProperty.toList, c.toNat < 0x80 ∧ c ≠ 'k' :=
    List.all_iff_forall_prop.1 (by decide)
  constructor
  · intro h
    cases v with
    | text t =>
      obtain ⟨s, rfl, hs⟩ := Text.isWord_iff.1 h
      exact ⟨s, rfl, (Text.lower_eq_iff_lowerAscii_eq hword).2 hs⟩
    | _ => cases h
  · rintro ⟨t, rfl, h⟩
    exact Text.isWord_iff.2 ⟨t, rfl, (Text.lower_eq_iff_lowerAscii_eq hword).1 h⟩

/-- The property that holds when none is said is the supported one. -/
lemma isSupportedProperty_getD_iff {o : Option Value} :
    isSupportedProperty (o.getD (.text marginProperty)) = true ↔
      ∀ v, o = some v → NamesMargin v := by
  cases o with
  | none => exact ⟨fun _ v h => (nomatch h), fun _ => by decide⟩
  | some v => simp [isSupportedProperty_iff]

lemma texts?_eq_some_iff {items : List Value} {ts : List Text} :
    texts? items = some ts ↔ items = ts.map .text := by
  induction items generalizing ts with
  | nil => cases ts <;> simp [texts?]
  | cons v r ih =>
    cases v with
    | text t =>
      rw [texts?, Option.map_eq_some_iff]
      constructor
      · rintro ⟨us, hus, rfl⟩
        rw [ih.1 hus]
        rfl
      · intro h
        cases ts with
        | nil => cases h
        | cons u us =>
          obtain ⟨h1, h2⟩ := List.cons.inj h
          cases h1
          exact ⟨us, ih.2 h2, rfl⟩
    | _ =>
      constructor
      · intro h
        cases h
      · intro h
        cases ts with
        | nil => cases h
        | cons u us => cases (List.cons.inj h).1

lemma exists_map_text_iff {items : List Value} :
    (∃ ts : List Text, items = ts.map .text) ↔ ∀ v ∈ items, ∃ t, v = .text t := by
  have hrange := Set.ext_iff.1 (Set.range_list_map Value.text) items
  simp only [Set.mem_range, Set.mem_ofPred_eq] at hrange
  simpa only [eq_comm] using hrange

lemma entryValues_eq_ok_iff {fields : List (Value × Value)} {ts : List Text} :
    entryValues fields = .ok ts ↔
      Value.lookup? "values" fields = some (.list (ts.map .text)) ∧
        1 ≤ ts.length ∧ ts.length ≤ 4 := by
  unfold entryValues
  split
  · rename_i h
    simp [h]
  · rename_i h
    simp [h]
  · rename_i items h
    simp only [h, Option.some.injEq, Value.list.injEq, ← texts?_eq_some_iff]
    split
    · rename_i hnone
      simp [hnone]
    · rename_i us hsome
      simp only [hsome, Option.some.injEq]
      constructor
      · intro h
        split at h
        · rename_i hcount
          cases h
          exact ⟨rfl, Arity.isSome_ofNat?_iff.1 hcount⟩
        · cases h
      · rintro ⟨rfl, hcount⟩
        rw [if_pos (Arity.isSome_ofNat?_iff.2 hcount)]
  · rename_i v hnull hlist h
    constructor
    · intro hok
      cases hok
    · rintro ⟨hv, -⟩
      rw [h] at hv
      cases hv
      exact absurd rfl (hlist _)

lemma asBool?_eq_some_iff {v : Value} {b : Bool} : asBool? v = some b ↔ v = .bool b := by
  cases v <;> simp [asBool?]

lemma asOrigin?_eq_some_iff {v : Value} {o : Origin} :
    asOrigin? v = some o ↔ v = .text o.name := by
  cases v <;> simp [asOrigin?, Origin.ofName?_eq_some_iff]

/-! ### One entry -/

section Fields

variable {defaults : EntryDefaults} {k : Nat} {fields : List (Value × Value)} {s : Shorthand}

/-- A shorthand that the check of a mapping ends with repeats its fields, which are well formed. -/
lemma wellFormed_of_checkEntry (h : checkEntry defaults k (.map fields) = .ok s) :
    WellFormedFields defaults fields ∧ Repeats defaults k fields s := by
  rw [checkEntry] at h
  split at h
  case isFalse => cases h
  case isTrue hp =>
  split at h
  case h_1 => cases h
  case h_2 values hv =>
  obtain ⟨hvalues, hone, hfour⟩ := entryValues_eq_ok_iff.1 hv
  -- of the four ways in which the last two fields can be, only one ends well
  dsimp only at h
  split at h <;> cases h
  rename_i b o hb ho
  have hb' := asBool?_eq_some_iff.1 hb
  have ho' := asOrigin?_eq_some_iff.1 ho
  refine ⟨⟨isSupportedProperty_getD_iff.1 hp, ?_, ⟨b, hb'⟩, ⟨o, ho'⟩⟩,
    ⟨rfl, hvalues, hb', ho', rfl⟩⟩
  exact ⟨_, hvalues, by simpa using hone, by simpa using hfour,
    exists_map_text_iff.1 ⟨values, rfl⟩⟩

/-- The check of a mapping ends with the shorthand that repeats its fields, if these are well
formed. -/
lemma checkEntry_of_wellFormed (hw : WellFormedFields defaults fields)
    (hr : Repeats defaults k fields s) : checkEntry defaults k (.map fields) = .ok s := by
  obtain ⟨items, hitems, hone, hfour, -⟩ := hw.values
  have hcount : 1 ≤ s.values.length ∧ s.values.length ≤ 4 := by
    rw [hr.values] at hitems
    cases hitems
    exact ⟨by simpa using hone, by simpa using hfour⟩
  have hv := entryValues_eq_ok_iff.2 ⟨hr.values, hcount⟩
  have hb := asBool?_eq_some_iff.2 hr.important
  have ho := asOrigin?_eq_some_iff.2 hr.origin
  rw [checkEntry, if_pos (isSupportedProperty_getD_iff.2 hw.property)]
  simp only [hv, hb, ho, ← hr.property, ← hr.index]

end Fields

/-- The check of an entry ends well with a shorthand exactly when the entry is a mapping that the
shorthand repeats, with a supported property and a supported number of values. -/
lemma checkEntry_eq_ok_iff {defaults : EntryDefaults} {k : Nat} {entry : Value} {s : Shorthand} :
    checkEntry defaults k entry = .ok s ↔
      ∃ fields, entry = .map fields ∧ WellFormedFields defaults fields ∧
        Repeats defaults k fields s := by
  constructor
  · intro h
    cases entry with
    | map fields =>
      obtain ⟨hw, hr⟩ := wellFormed_of_checkEntry h
      exact ⟨fields, rfl, hw, hr⟩
    | _ => cases h
  · rintro ⟨fields, rfl, hw, hr⟩
    exact checkEntry_of_wellFormed hw hr

/-- The check of an entry does not end badly without a fault. -/
lemma checkEntry_ne_error_nil (defaults : EntryDefaults) (k : Nat) (entry : Value) :
    checkEntry defaults k entry ≠ .error [] := by
  intro h
  cases entry with
  | map fields =>
    rw [checkEntry] at h
    split at h
    · split at h
      · cases h
      · dsimp only at h
        split at h <;> cases h
    · cases h
  | _ => cases h

lemma entryFaults_eq_nil_iff {defaults : EntryDefaults} {k : Nat} {entry : Value} :
    entryFaults defaults k entry = [] ↔ ∃ s, checkEntry defaults k entry = .ok s := by
  unfold entryFaults
  split
  · rename_i s hs
    simp [hs]
  · rename_i fs hfs
    have hne : fs ≠ [] := fun h => checkEntry_ne_error_nil defaults k entry (h ▸ hfs)
    simp [hfs, hne]

/-- An entry is well formed exactly when its check ends well, wherever it stands. -/
lemma exists_checkEntry_iff {defaults : EntryDefaults} {k : Nat} {entry : Value} :
    (∃ s, checkEntry defaults k entry = .ok s) ↔ WellFormedEntry defaults entry := by
  constructor
  · rintro ⟨s, hs⟩
    obtain ⟨fields, he, hw, -⟩ := checkEntry_eq_ok_iff.1 hs
    exact ⟨fields, he, hw⟩
  · rintro ⟨fields, he, hw⟩
    obtain ⟨items, hitems, -, -, htexts⟩ := hw.values
    obtain ⟨ts, rfl⟩ := exists_map_text_iff.2 htexts
    obtain ⟨b, hb⟩ := hw.important
    obtain ⟨o, ho⟩ := hw.origin
    exact ⟨⟨marginProperty, ts, b, o, k⟩,
      checkEntry_eq_ok_iff.2 ⟨fields, he, hw, ⟨rfl, hitems, hb, ho, rfl⟩⟩⟩

/-! ### All entries -/

lemma entryReports_eq_nil_iff {defaults : EntryDefaults} {file : Option Text}
    {entries : List (Value × Nat)} :
    entryReports defaults file entries = [] ↔
      ∀ e ∈ entries, ∃ s, checkEntry defaults e.2 e.1 = .ok s := by
  simp only [entryReports, List.flatMap_eq_nil_iff, List.map_eq_nil_iff, entryFaults_eq_nil_iff]

/-- When all entries say a shorthand, the shorthands are those that they say, one for each. -/
lemma forall₂_entryShorthands {defaults : EntryDefaults} {entries : List (Value × Nat)}
    (h : ∀ e ∈ entries, ∃ s, checkEntry defaults e.2 e.1 = .ok s) :
    List.Forall₂ (fun e s => checkEntry defaults e.2 e.1 = .ok s) entries
      (entryShorthands defaults entries) := by
  induction entries with
  | nil => exact List.Forall₂.nil
  | cons e r ih =>
    obtain ⟨s, hs⟩ := h e (List.mem_cons_self ..)
    have hr := ih fun x hx => h x (List.mem_cons_of_mem _ hx)
    have hcons : entryShorthands defaults (e :: r) = s :: entryShorthands defaults r := by
      simp [entryShorthands, hs, Except.toOption]
    rw [hcons]
    exact List.Forall₂.cons hs hr

lemma exists_list_of_check_eq_ok {d : Document} {defaults : EntryDefaults} {ss : List Shorthand}
    (h : d.check defaults = .ok ss) : ∃ entries, d.declarations = .list entries := by
  unfold Document.check at h
  split at h
  · rename_i entries he
    exact ⟨entries, he⟩
  · cases h

lemma forall_mem_zipIdx_iff {defaults : EntryDefaults} {entries : List Value} :
    (∀ e ∈ entries.zipIdx, ∃ s, checkEntry defaults e.2 e.1 = .ok s) ↔
      ∀ e ∈ entries, WellFormedEntry defaults e := by
  simp only [exists_checkEntry_iff]
  constructor
  · intro h e he
    obtain ⟨k, hk, rfl⟩ := List.getElem_of_mem he
    exact h (entries[k], k) (List.mk_mem_zipIdx_iff_getElem?.2 (List.getElem?_eq_getElem hk))
  · intro h e he
    exact h e.1 (List.mem_of_getElem? (List.mem_zipIdx_iff_getElem?.1 he))

/-- A list of entries is accepted exactly when its entries are well formed. -/
lemma check_list_eq_ok_iff {d : Document} {entries : List Value}
    (hd : d.declarations = .list entries) {defaults : EntryDefaults} {ss : List Shorthand} :
    d.check defaults = .ok ss ↔
      (∀ e ∈ entries, WellFormedEntry defaults e) ∧
        ss = entryShorthands defaults entries.zipIdx := by
  have hiff : entryReports defaults d.file entries.zipIdx = [] ↔
      ∀ e ∈ entries, WellFormedEntry defaults e :=
    entryReports_eq_nil_iff.trans forall_mem_zipIdx_iff
  rw [← hiff]
  unfold Document.check
  simp only [hd]
  split
  · rename_i h
    simp [h, eq_comm]
  · rename_i h
    constructor
    · intro hok
      cases hok
    · rintro ⟨hnil, -⟩
      exact absurd hnil h

/-- Each shorthand of an accepted list repeats the entry at its position. -/
lemma exists_repeats {defaults : EntryDefaults} {entries : List Value}
    (hw : ∀ e ∈ entries, WellFormedEntry defaults e) :
    (entryShorthands defaults entries.zipIdx).length = entries.length ∧
      ∀ (k : Nat) (s : Shorthand), (entryShorthands defaults entries.zipIdx)[k]? = some s →
        ∃ fields, entries[k]? = some (.map fields) ∧ Repeats defaults k fields s := by
  have hall := forall₂_entryShorthands (forall_mem_zipIdx_iff.2 hw)
  refine ⟨by simpa using hall.length_eq.symm, ?_⟩
  intro k s hk
  obtain ⟨hlt, hs⟩ := List.getElem?_eq_some_iff.1 hk
  have hlt' : k < entries.zipIdx.length := hall.length_eq ▸ hlt
  have hcheck := hall.get hlt' hlt
  simp only [List.get_eq_getElem, List.getElem_zipIdx, hs, Nat.zero_add] at hcheck
  obtain ⟨fields, he, -, hr⟩ := checkEntry_eq_ok_iff.1 hcheck
  have hk' : k < entries.length := by simpa using hlt'
  exact ⟨fields, he ▸ List.getElem?_eq_getElem hk', hr⟩

/-- A document that is not accepted has a problem. -/
lemma ne_nil_of_check_eq_error {d : Document} {defaults : EntryDefaults} {problems : List Problem}
    (h : d.check defaults = .error problems) : problems ≠ [] := by
  unfold Document.check at h
  split at h
  · split at h
    · cases h
    · -- putting the reports in order does not lose them
      rename_i hne
      cases h
      intro hnil
      have hlen := congrArg List.length hnil
      rw [Problem.length_sort] at hlen
      exact hne (List.eq_nil_of_length_eq_zero hlen)
  · cases h
    exact List.cons_ne_nil _ _

/-- **Acceptance.**  A document is accepted exactly when it has a list of well-formed entries.  The
shorthands of an accepted document are as many as its entries, and each repeats the entry at its
position; a document that is not accepted has at least one problem. -/
theorem check_accepts_iff_wellFormed (d : Document) (defaults : EntryDefaults) :
    ((∃ ss, d.check defaults = .ok ss) ↔
      ∃ entries, d.declarations = .list entries ∧ ∀ e ∈ entries, WellFormedEntry defaults e) ∧
    (∀ ss entries, d.check defaults = .ok ss → d.declarations = .list entries →
      ss.length = entries.length ∧
        ∀ (k : Nat) (s : Shorthand), ss[k]? = some s →
          ∃ fields, entries[k]? = some (.map fields) ∧ Repeats defaults k fields s) ∧
    ∀ problems, d.check defaults = .error problems → problems ≠ [] := by
  refine ⟨⟨?_, ?_⟩, ?_, ?_⟩
  · rintro ⟨ss, hss⟩
    obtain ⟨entries, hd⟩ := exists_list_of_check_eq_ok hss
    exact ⟨entries, hd, ((check_list_eq_ok_iff hd).1 hss).1⟩
  · rintro ⟨entries, hd, hw⟩
    exact ⟨_, (check_list_eq_ok_iff hd).2 ⟨hw, rfl⟩⟩
  · intro ss entries hss hd
    obtain ⟨hw, rfl⟩ := (check_list_eq_ok_iff hd).1 hss
    exact exists_repeats hw
  · intro problems h
    exact ne_nil_of_check_eq_error h

end CssMargin
