/-
# Where problems are

The place of a problem is a text: that of the list of entries, or that of one entry by its position,
perhaps with one of four fields behind it.  Such a text can be read in one way only, since the
position is written in decimal digits and the character after them is no digit.  So entries at
different positions are never reported at one place, and one entry has no two faults at one field.

This is what the order of a report rests on.  It goes by the texts and not by the positions, so that
entry 10 comes before entry 2; but as no two places are the same, the order is strict, and it leaves
nothing to the order in which the problems were found.
-/
import CssMargin.Proofs.Json.Numbers
import CssMargin.Proofs.Problem.Order
import CssMargin.Proofs.Shorthand.Report
import Mathlib.Data.List.Sigma
namespace CssMargin

/-! ### Places as texts -/

/-- Whether characters are the decimal digits of a number. -/
structure IsDecimal (ds : List Char) (n : Nat) : Prop where
  /-- They are digits. -/
  isDigit : ∀ c ∈ ds, c.isDigit = true
  /-- They stand for the number. -/
  value : Text.decimalValue ds = n
  /-- There is at least one. -/
  ne_nil : ds ≠ []
  /-- The first one is a zero only if it is the only one. -/
  head_zero : ds.head? = some '0' → ds = ['0']

/-- What the place of an entry may be followed by. -/
def placeFields : List String := ["", ".property", ".values", ".important", ".origin"]

/-- What a place says: the list of entries, or the position of an entry and what follows it. -/
inductive PlaceSays : String → Option (Nat × String) → Prop where
  /-- The list of entries. -/
  | declarations : PlaceSays "declarations" none
  /-- An entry or one of its fields. -/
  | entry {ds : List Char} {k : Nat} {field : String} (hds : IsDecimal ds k)
    (hfield : field ∈ placeFields) :
    PlaceSays ("declarations[" ++ String.ofList ds ++ "]" ++ field) (some (k, field))

lemma isDecimal_toDigits (n : Nat) : IsDecimal (Nat.toDigits 10 n) n where
  isDigit _ hc := Nat.isDigit_of_mem_toDigits (by decide) (by decide) hc
  value := Text.decimalValue_toDigits n
  ne_nil := Nat.toDigits_ne_nil
  head_zero := Json.toDigits_eq_of_head_zero

/-- The digits end where the bracket is closed. -/
lemma IsDecimal.append_inj {ds ds' r r' : List Char} {k k' : Nat} (hds : IsDecimal ds k)
    (hds' : IsDecimal ds' k') (h : ds ++ ']' :: r = ds' ++ ']' :: r') : k = k' ∧ r = r' := by
  have hends (r : List Char) : Json.EndsNumber (']' :: r) := by
    rintro c ⟨⟩
    decide
  have hspan : (ds, ']' :: r) = (ds', ']' :: r') := by
    rw [← Json.spanDigits_append hds.isDigit (hends r), h,
      Json.spanDigits_append hds'.isDigit (hends r')]
  cases hspan
  exact ⟨hds.value.symm.trans hds'.value, rfl⟩

/-- A place can be read in one way only. -/
lemma PlaceSays.unique {place : String} {about about' : Option (Nat × String)}
    (h : PlaceSays place about) (h' : PlaceSays place about') : about = about' := by
  generalize hplace : place = place' at h'
  cases h with
  | declarations =>
    cases h' with
    | declarations => rfl
    | entry =>
      have hlength := congrArg String.toList hplace
      simp at hlength
  | @entry ds k field hds hfield =>
    cases h' with
    | declarations =>
      have hlength := congrArg String.toList hplace
      simp at hlength
    | @entry ds' k' field' hds' hfield' =>
      have hlist := congrArg String.toList hplace
      simp only [String.toList_append, String.toList_ofList, List.append_assoc,
        List.append_cancel_left_eq] at hlist
      obtain ⟨rfl, hfields⟩ := hds.append_inj hds' hlist
      rw [String.toList_injective hfields]

/-- The place of a fault is that of its entry and its field. -/
lemma EntryFault.placeSays_place (k : Nat) (f : EntryFault) :
    PlaceSays (f.place k) (some (k, f.located.1)) := by
  have hfield : f.located.1 ∈ placeFields := by cases f <;> simp [located, field?, placeFields]
  have hdigits : toString k = String.ofList (Nat.toDigits 10 k) := rfl
  rw [EntryFault.place, hdigits]
  exact .entry (isDecimal_toDigits k) hfield

lemma EntryFault.place_inj {k k' : Nat} {f f' : EntryFault} (h : f.place k = f'.place k') :
    k = k' ∧ f.located.1 = f'.located.1 := by
  have habout := (f.placeSays_place k).unique (h ▸ f'.placeSays_place k')
  exact Prod.mk.inj (Option.some.inj habout)

/-! ### The places of a report -/

section Report

variable {defaults : EntryDefaults} {file : Option Text} {entries : List Value} {p : Problem}

lemma mem_entryReports_iff : p ∈ entryReports defaults file entries.zipIdx ↔
    ∃ k entry, entries[k]? = some entry ∧
      ∃ f ∈ entryFaults defaults k entry, p = f.report file k := by
  simp only [entryReports, List.mem_flatMap, List.mem_map, Prod.exists,
    List.mk_mem_zipIdx_iff_getElem?, eq_comm (a := p)]
  exact exists_comm

/-- One entry has no two faults at one place, and two entries have no place in common. -/
lemma nodup_place_entryReports (defaults : EntryDefaults) (file : Option Text)
    (entries : List Value) :
    ((entryReports defaults file entries.zipIdx).map Problem.place).Nodup := by
  rw [entryReports, List.map_flatMap, List.nodup_flatMap]
  constructor
  · rintro ⟨entry, k⟩ -
    rw [List.map_map]
    refine nodup_map_entryFaults (fun h => ?_) defaults k entry
    have hfield := (EntryFault.place_inj (Option.some.inj h)).2
    revert hfield
    decide
  · have hindex : entries.zipIdx.Pairwise fun e e' => e.2 ≠ e'.2 :=
      List.pairwise_map.1 (List.nodup_zipIdx_map_snd entries)
    refine hindex.imp fun {e e'} hne => ?_
    intro place hplace hplace'
    dsimp only at hplace hplace'
    rw [List.map_map, List.mem_map] at hplace hplace'
    obtain ⟨f, -, rfl⟩ := hplace
    obtain ⟨f', -, hsame⟩ := hplace'
    exact hne (EntryFault.place_inj (Option.some.inj hsame)).1.symm

end Report

/-- What a problem with a code is about: the document, if it has no list of entries, or an entry
with a fault. -/
inductive Document.HasProblem (d : Document) (defaults : EntryDefaults) :
    Option (Nat × String) → String → Prop where
  /-- There is no list of entries. -/
  | declarations (h : ∀ entries, d.declarations ≠ .list entries) :
    HasProblem d defaults none "E_REQUIRED_FIELD"
  /-- Something is wrong with an entry. -/
  | entry {entries : List Value} {k : Nat} {entry : Value} {field code : String}
    (hd : d.declarations = .list entries) (hk : entries[k]? = some entry)
    (h : HasFault defaults entry field code) : HasProblem d defaults (some (k, field)) code

section Problems

variable {d : Document} {defaults : EntryDefaults}

lemma problems_eq_singleton (h : ∀ entries, d.declarations ≠ .list entries)
    (defaults : EntryDefaults) : d.problems defaults = [missingDeclarations d.file] := by
  rw [Document.problems, Document.check]
  cases hvalue : d.declarations with
  | list entries => exact absurd hvalue (h entries)
  | _ => rfl

lemma nodup_place_problems (d : Document) (defaults : EntryDefaults) :
    ((d.problems defaults).map Problem.place).Nodup := by
  by_cases h : ∃ entries, d.declarations = .list entries
  · obtain ⟨entries, hd⟩ := h
    rw [((problems_perm_entryReports hd defaults).map Problem.place).nodup_iff]
    exact nodup_place_entryReports defaults d.file entries
  · rw [problems_eq_singleton (not_exists.1 h)]
    exact List.nodup_singleton _

/-- A problem is in the file, and its place says what it is about. -/
lemma exists_hasProblem {p : Problem} (h : p ∈ d.problems defaults) :
    p.file = d.file ∧ ∃ place about, p.place = some place ∧ PlaceSays place about ∧
      d.HasProblem defaults about p.code := by
  by_cases hlist : ∃ entries, d.declarations = .list entries
  · obtain ⟨entries, hd⟩ := hlist
    rw [(problems_perm_entryReports hd defaults).mem_iff, mem_entryReports_iff] at h
    obtain ⟨k, entry, hk, f, hf, rfl⟩ := h
    exact ⟨rfl, f.place k, some (k, f.located.1), rfl, f.placeSays_place k,
      .entry hd hk (hasFault_of_mem hf)⟩
  · rw [not_exists] at hlist
    rw [problems_eq_singleton hlist, List.mem_singleton] at h
    subst h
    exact ⟨rfl, "declarations", none, rfl, .declarations, .declarations hlist⟩

/-- The order is strict because no two places are the same. -/
lemma pairwise_place_lt_problems (d : Document) (defaults : EntryDefaults) :
    (d.problems defaults).Pairwise fun p q =>
      ∃ a b, p.place = some a ∧ q.place = some b ∧ a < b := by
  have hle : (d.problems defaults).Pairwise fun p q => p.le q = true := by
    rw [← sort_problems]
    exact Problem.pairwise_sort _
  have hne : (d.problems defaults).Pairwise fun p q => p.place ≠ q.place :=
    List.pairwise_map.1 (nodup_place_problems d defaults)
  refine (hle.and hne).imp_of_mem fun {p q} hp hq h => ?_
  obtain ⟨hpfile, a, -, ha, -⟩ := exists_hasProblem hp
  obtain ⟨hqfile, b, -, hb, -⟩ := exists_hasProblem hq
  refine ⟨a, b, ha, hb, Problem.place_lt_of_le h.1 (hpfile.trans hqfile.symm) ha hb ?_⟩
  rintro rfl
  exact h.2 (ha.trans hb.symm)

/-- However the problems were found, this is the order in which they are reported. -/
lemma sort_eq_problems_of_perm {ps : List Problem} (h : ps.Perm (d.problems defaults)) :
    Problem.sort ps = d.problems defaults := by
  refine Problem.sort_eq_of_perm h ((pairwise_place_lt_problems d defaults).imp_of_mem ?_)
  rintro p q hp hq ⟨a, b, ha, hb, hlt⟩
  have hfile : p.file = q.file := (exists_hasProblem hp).1.trans (exists_hasProblem hq).1.symm
  exact Problem.lexKey_lt_of_place_lt hfile ha hb hlt

end Problems

/-- **Unique places in strict order.**  All problems that are reported of a document are in its
file.  Their places increase strictly, so no two problems are at one place, and each place can be
read in one way only: it says the list of entries, if there is none, or it says which of the entries
has the fault and at which field.  Put in order from any order, the report is the same. -/
theorem problems_strictly_placed (d : Document) (defaults : EntryDefaults) :
    (∀ p ∈ d.problems defaults, p.file = d.file ∧
      ∃ place about, p.place = some place ∧ PlaceSays place about ∧
        (∀ about', PlaceSays place about' → about' = about) ∧
          d.HasProblem defaults about p.code) ∧
    ((d.problems defaults).Pairwise fun p q =>
      ∃ a b, p.place = some a ∧ q.place = some b ∧ a < b) ∧
    ((d.problems defaults).map Problem.place).Nodup ∧
    ∀ ps, ps.Perm (d.problems defaults) → Problem.sort ps = d.problems defaults := by
  refine ⟨fun p hp => ?_, pairwise_place_lt_problems d defaults, nodup_place_problems d defaults,
    fun ps hperm => sort_eq_problems_of_perm hperm⟩
  obtain ⟨hfile, place, about, hplace, habout, hproblem⟩ := exists_hasProblem hp
  exact ⟨hfile, place, about, hplace, habout, fun about' h => h.unique habout, hproblem⟩

/-- The places do not follow the positions. -/
example : EntryFault.form.place 10 < EntryFault.form.place 2 := by decide +kernel

end CssMargin
