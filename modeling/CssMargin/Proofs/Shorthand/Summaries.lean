/-
# Summaries of an accepted document

The summary as an object and the summary in one line are made in two ways: the object lists the
numbers of values that occur, and the line has a place for each number that there can be.  For an
accepted document both count every entry once, under the number of values that it lists, and the
line says what the object says.  What is counted is looked up in the entries of the document, not in
the shorthands that the summaries are made from.

From this it is seen that the order of the entries does not matter, and that the counts of two
documents add up when one is put behind the other.
-/
import CssMargin.Proofs.Shorthand.Expansion
import CssMargin.Proofs.Text.Numeral
import CssMargin.Result
import Mathlib.Algebra.BigOperators.Group.List.Lemmas
import Mathlib.Algebra.GroupWithZero.Nat
import Mathlib.Data.List.Sort
namespace CssMargin

/-! ### Counting entries -/

/-- How many values an entry lists, if it lists values. -/
def valueCount? : Value → Option Nat
  | .map fields =>
    match Value.lookup? "values" fields with
    | some (.list items) => some items.length
    | _ => none
  | _ => none

/-- A shorthand has as many values as its entry lists. -/
lemma Repeats.valueCount?_eq {defaults : EntryDefaults} {k : Nat} {fields : List (Value × Value)}
    {s : Shorthand} (h : Repeats defaults k fields s) :
    valueCount? (.map fields) = some s.values.length := by
  rw [valueCount?, h.values]
  exact congrArg some (List.length_map _)

/-- How many entries list so many values. -/
def entriesWith (entries : List Value) (k : Nat) : Nat :=
  entries.countP (valueCount? · == some k)

/-- Whether numbers of values, each with a count, are the tally of a list of entries. -/
structure IsTally (entries : List Value) (counts : List (Nat × Nat)) : Prop where
  /-- No number is listed twice, and smaller ones come first. -/
  increasing : counts.Pairwise fun c c' => c.1 < c'.1
  /-- A number is listed when an entry has so many values, with the number of these entries. -/
  mem_iff : ∀ k n, (k, n) ∈ counts ↔ (∃ e ∈ entries, valueCount? e = some k) ∧
    n = entriesWith entries k
  /-- A shorthand has one to four values. -/
  range : ∀ c ∈ counts, 1 ≤ c.1 ∧ c.1 ≤ 4
  /-- Every entry is counted once. -/
  sum : (counts.map (·.2)).sum = entries.length

/-- The summary as an object, for a number of entries and a tally. -/
def summaryObject (total : Nat) (counts : List (Nat × Nat)) : Json :=
  .object [("declaration_count", .int total),
    ("arity_counts", .object (counts.map fun c => (toString c.1, .int c.2)))]

/-- The count that a summary as an object has for a number of values; zero if it has none. -/
def countUnder (summary : Json) (k : Nat) : Int :=
  match (summary.get? "arity_counts").bind (Json.get? (toString k)) with
  | some (.int n) => n
  | _ => 0

/-- The summary in one line, for a number of entries and counts. -/
def summaryLine (total : Nat) (count : Nat → Int) : String :=
  "OK: " ++ toString total ++ " declarations (1-value=" ++ toString (count 1) ++ ", 2-value=" ++
    toString (count 2) ++ ", 3-value=" ++ toString (count 3) ++ ", 4-value=" ++
    toString (count 4) ++ ")"

/-! ### Tallies -/

lemma toString_injective {m n : Nat} (h : toString m = toString n) : m = n := by
  have hdigits (k : Nat) : (toString k).toList = Nat.toDigits 10 k := String.toList_ofList
  rw [← Text.decimalValue_toDigits m, ← hdigits, h, hdigits, Text.decimalValue_toDigits]

section Tally

variable {entries : List Value} {counts : List (Nat × Nat)}

/-- A number that is listed in no tally is that of no entry. -/
lemma IsTally.entriesWith_eq_zero (h : IsTally entries counts) {k : Nat}
    (hk : ∀ c ∈ counts, c.1 ≠ k) : entriesWith entries k = 0 := by
  refine List.countP_eq_zero.2 fun e he hcount => ?_
  have hmem := (h.mem_iff k _).2 ⟨⟨e, he, beq_iff_eq.1 hcount⟩, rfl⟩
  exact hk _ hmem rfl

/-- What the summary has under a number is the number of the entries that list so many values. -/
lemma IsTally.countUnder_summaryObject (h : IsTally entries counts) (total k : Nat) :
    countUnder (summaryObject total counts) k = entriesWith entries k := by
  let members : List (Text × Json) := counts.map fun c => ((toString c.1 : String), .int c.2)
  have hget : ((summaryObject total counts).get? "arity_counts").bind (Json.get? (toString k)) =
      (members.find? fun m => m.1 == ((toString k : String) : Text)).map (·.2) := rfl
  rw [countUnder, hget]
  cases hfind : members.find? fun m => m.1 == ((toString k : String) : Text) with
  | some m =>
    obtain ⟨⟨k', n⟩, hc, rfl⟩ := List.mem_map.1 (List.mem_of_find?_eq_some hfind)
    have hkey := List.find?_some hfind
    obtain rfl : k' = k := toString_injective (Text.coe_inj.1 (beq_iff_eq.1 hkey))
    obtain ⟨-, hn⟩ := (h.mem_iff _ _).1 hc
    exact congrArg Nat.cast hn
  | none =>
    have hzero : entriesWith entries k = 0 := by
      refine h.entriesWith_eq_zero fun c hc hck => ?_
      exact List.find?_eq_none.1 hfind _ (List.mem_map_of_mem hc) (beq_iff_eq.2 (by rw [hck]))
    rw [hzero]
    rfl

end Tally

/-! ### The summaries of shorthands -/

lemma nodup_eraseDups : ∀ l : List Nat, l.eraseDups.Nodup
  | [] => List.nodup_nil
  | a :: r => by
    have hlength : (r.filter fun b => !b == a).length ≤ r.length := List.length_filter_le _ r
    rw [List.eraseDups_cons, List.nodup_cons]
    exact ⟨by simp [List.mem_eraseDups], nodup_eraseDups _⟩
  termination_by l => l.length

lemma mem_occurringArities_iff {ss : List Shorthand} {k : Nat} :
    k ∈ occurringArities ss ↔ countArity ss k ≠ 0 := by
  rw [occurringArities, List.mem_mergeSort, List.mem_eraseDups, List.mem_map, countArity,
    ← Nat.pos_iff_ne_zero, List.countP_pos_iff]
  simp only [beq_iff_eq]

lemma sortedLT_occurringArities (ss : List Shorthand) : (occurringArities ss).SortedLT := by
  have hnodup : (occurringArities ss).Nodup :=
    (List.mergeSort_perm _ _).nodup_iff.2 (nodup_eraseDups _)
  exact List.SortedLE.sortedLT_of_nodup List.sortedLE_mergeSort hnodup

/-- The numbers of values that occur, with their counts. -/
def tallyOf (ss : List Shorthand) : List (Nat × Nat) :=
  (occurringArities ss).map fun n => (n, countArity ss n)

lemma summaryItem_eq (ss : List Shorthand) :
    summaryItem ss = summaryObject ss.length (tallyOf ss) := by
  rw [summaryItem, summaryObject, tallyOf, List.map_map]
  rfl

lemma mem_tallyOf_iff {ss : List Shorthand} {k n : Nat} :
    (k, n) ∈ tallyOf ss ↔ countArity ss k ≠ 0 ∧ n = countArity ss k := by
  rw [tallyOf, List.mem_map, ← mem_occurringArities_iff]
  constructor
  · rintro ⟨m, hm, hkn⟩
    obtain ⟨rfl, rfl⟩ := Prod.mk.inj hkn
    exact ⟨hm, rfl⟩
  · rintro ⟨hk, rfl⟩
    exact ⟨k, hk, rfl⟩

/-- Every shorthand is counted once. -/
lemma sum_tallyOf (ss : List Shorthand) : ((tallyOf ss).map (·.2)).sum = ss.length := by
  let arities := ss.map (·.values.length)
  have hperm : (occurringArities ss).Perm arities.dedup := by
    refine (List.mergeSort_perm _ _).trans
      ((List.perm_ext_iff_of_nodup (nodup_eraseDups _) arities.nodup_dedup).2 fun k => ?_)
    rw [List.mem_eraseDups, List.mem_dedup]
  have hcount (k : Nat) : countArity ss k = arities.count k := by
    rw [List.count, List.countP_map]
    rfl
  calc ((tallyOf ss).map (·.2)).sum = ((occurringArities ss).map (arities.count ·)).sum := by
        rw [tallyOf, List.map_map]
        exact congrArg List.sum (List.map_congr_left fun k _ => hcount k)
    _ = (arities.dedup.map (arities.count ·)).sum := (hperm.map _).sum_eq
    _ = arities.length := List.sum_map_count_dedup_eq_length arities
    _ = ss.length := List.length_map _

lemma pairwise_tallyOf (ss : List Shorthand) : (tallyOf ss).Pairwise fun c c' => c.1 < c'.1 := by
  rw [tallyOf, List.pairwise_map]
  exact (sortedLT_occurringArities ss).pairwise

/-- The line has a place for each number of values that there can be. -/
lemma summaryText_eq (ss : List Shorthand) :
    summaryText ss = summaryLine ss.length fun k => countArity ss k := by
  have hone : " declarations (1-value=" = " declarations (" ++ "1" ++ "-value=" := rfl
  have htwo : ", 2-value=" = ", " ++ "2" ++ "-value=" := rfl
  have hthree : ", 3-value=" = ", " ++ "3" ++ "-value=" := rfl
  have hfour : ", 4-value=" = ", " ++ "4" ++ "-value=" := rfl
  -- an equation for `summaryLine` would take long to make
  delta summaryLine
  rw [hone, htwo, hthree, hfour]
  simp only [summaryText, Arity.all, List.map_cons, List.map_nil, Arity.toNat,
    String.intercalate_cons_cons, String.intercalate_singleton, String.append_assoc]
  rfl

/-- Summaries are made from the number of shorthands and from the counts. -/
lemma summaries_congr {ss ss' : List Shorthand} (hlength : ss.length = ss'.length)
    (hcount : ∀ k, countArity ss k = countArity ss' k) :
    summaryItem ss = summaryItem ss' ∧ summaryText ss = summaryText ss' := by
  have hoccurring : occurringArities ss = occurringArities ss' := by
    refine (sortedLT_occurringArities ss).eq_of_mem_iff (sortedLT_occurringArities ss') fun k => ?_
    rw [mem_occurringArities_iff, mem_occurringArities_iff, hcount]
  simp only [summaryItem, summaryText, hoccurring, hlength, hcount, and_self]

/-! ### The summaries of a document -/

section Document

variable {d : Document} {defaults : EntryDefaults} {ss : List Shorthand} {entries : List Value}

/-- A shorthand has the values of its entry, so that it makes no difference which are counted. -/
lemma countArity_eq_entriesWith (h : d.check defaults = .ok ss)
    (hd : d.declarations = .list entries) (k : Nat) : countArity ss k = entriesWith entries k := by
  obtain ⟨hw, rfl⟩ := (check_list_eq_ok_iff hd).1 h
  obtain ⟨hlength, hrepeats⟩ := exists_repeats hw
  have hcounts : (entryShorthands defaults entries.zipIdx).map (fun s => some s.values.length) =
      entries.map valueCount? := by
    refine List.ext_getElem (by rw [List.length_map, List.length_map, hlength]) fun i hi hi' => ?_
    rw [List.getElem_map, List.getElem_map]
    obtain ⟨fields, hfields, hr⟩ := hrepeats i _ (List.getElem?_eq_getElem (by simpa using hi))
    obtain ⟨_, hentry⟩ := List.getElem?_eq_some_iff.1 hfields
    rw [hentry, hr.valueCount?_eq]
  have hcountP : (entryShorthands defaults entries.zipIdx).countP (·.values.length == k) =
      ((entryShorthands defaults entries.zipIdx).map fun s => some s.values.length).countP
        (· == some k) := by
    rw [List.countP_map]
    rfl
  rw [countArity, hcountP, hcounts, List.countP_map]
  rfl

/-- There are as many shorthands as entries, each with a number of values that has a table. -/
lemma length_and_arity_of_check (h : d.check defaults = .ok ss)
    (hd : d.declarations = .list entries) : ss.length = entries.length ∧
      ∀ s ∈ ss, (Arity.ofNat? s.values.length).isSome = true := by
  obtain ⟨hw, hss⟩ := (check_list_eq_ok_iff hd).1 h
  refine ⟨hss ▸ (exists_repeats hw).1, fun s hs => ?_⟩
  obtain ⟨k, hk, rfl⟩ := List.getElem_of_mem hs
  obtain ⟨-, -, arity, -, -, -, ha⟩ := exists_arity_of_check h (List.getElem?_eq_getElem hk)
  rw [ha]
  rfl

lemma isTally_tallyOf (h : d.check defaults = .ok ss) (hd : d.declarations = .list entries) :
    IsTally entries (tallyOf ss) := by
  obtain ⟨hlength, harity⟩ := length_and_arity_of_check h hd
  have hsome (k : Nat) : countArity ss k ≠ 0 ↔ ∃ e ∈ entries, valueCount? e = some k := by
    rw [countArity_eq_entriesWith h hd, ← Nat.pos_iff_ne_zero, entriesWith, List.countP_pos_iff]
    simp only [beq_iff_eq]
  refine ⟨pairwise_tallyOf ss, fun k n => ?_, fun c hc => ?_, ?_⟩
  · rw [mem_tallyOf_iff, hsome, countArity_eq_entriesWith h hd]
  · -- the check lets no shorthand pass that has another number of values
    obtain ⟨s, hs, hcount⟩ :=
      List.countP_pos_iff.1 (Nat.pos_of_ne_zero (mem_tallyOf_iff.1 hc).1)
    rw [← beq_iff_eq.1 hcount]
    exact Arity.isSome_ofNat?_iff.1 (harity s hs)
  · rw [sum_tallyOf, hlength]

/-- What the summaries of an accepted document are, in terms of its entries. -/
lemma summaries_of_check (h : d.check defaults = .ok ss) (hd : d.declarations = .list entries) :
    summaryItem ss = summaryObject entries.length (tallyOf ss) ∧
      (∀ k, countUnder (summaryItem ss) k = entriesWith entries k) ∧
      summaryText ss = summaryLine entries.length fun k => entriesWith entries k := by
  obtain ⟨hlength, -⟩ := length_and_arity_of_check h hd
  refine ⟨hlength ▸ summaryItem_eq ss, fun k => ?_, ?_⟩
  · rw [summaryItem_eq]
    exact (isTally_tallyOf h hd).countUnder_summaryObject ss.length k
  · simp only [summaryText_eq, hlength, countArity_eq_entriesWith h hd]

/-- The same entries in another order have the same summaries. -/
lemma summaries_of_perm (h : d.check defaults = .ok ss) (hd : d.declarations = .list entries)
    {d' : Document} {entries' : List Value} (hperm : entries.Perm entries')
    (hd' : d'.declarations = .list entries') :
    ∃ ss', d'.check defaults = .ok ss' ∧ summaryItem ss' = summaryItem ss ∧
      summaryText ss' = summaryText ss := by
  have hw := ((check_list_eq_ok_iff hd).1 h).1
  have h' := (check_list_eq_ok_iff hd').2 ⟨fun e he => hw e (hperm.mem_iff.2 he), rfl⟩
  refine ⟨_, h', summaries_congr ?_ fun k => ?_⟩
  · rw [(length_and_arity_of_check h' hd').1, (length_and_arity_of_check h hd).1,
      hperm.length_eq]
  · rw [countArity_eq_entriesWith h' hd', countArity_eq_entriesWith h hd]
    exact (hperm.countP_eq _).symm

/-- **Summaries.**  The summary of an accepted document as an object has the number of its entries
and their tally: a number of values is a key exactly when an entry has so many, with the number of
these entries; the keys are between one and four, and the counts come to the number of entries.  The
summary in one line has the same number of entries and, for one to four values, the counts of the
object.

Putting the entries in another order changes neither summary, and behind each other the entries of
two accepted documents are accepted and have the sums of the counts. -/
theorem summaries_count_every_entry (h : d.check defaults = .ok ss)
    (hd : d.declarations = .list entries) :
    (∃ counts, summaryItem ss = summaryObject entries.length counts ∧ IsTally entries counts) ∧
      summaryText ss = summaryLine entries.length (countUnder (summaryItem ss)) ∧
      (∀ (d' : Document) (entries' : List Value), entries.Perm entries' →
        d'.declarations = .list entries' →
        ∃ ss', d'.check defaults = .ok ss' ∧ summaryItem ss' = summaryItem ss ∧
          summaryText ss' = summaryText ss) ∧
      ∀ (d₂ d' : Document) (entries₂ : List Value) (ss₂ : List Shorthand),
        d₂.check defaults = .ok ss₂ → d₂.declarations = .list entries₂ →
        d'.declarations = .list (entries ++ entries₂) →
        ∃ ss' counts, d'.check defaults = .ok ss' ∧
          summaryItem ss' = summaryObject (entries.length + entries₂.length) counts ∧
          (∀ k, countUnder (summaryItem ss') k =
            countUnder (summaryItem ss) k + countUnder (summaryItem ss₂) k) ∧
          summaryText ss' = summaryLine (entries.length + entries₂.length)
            fun k => countUnder (summaryItem ss) k + countUnder (summaryItem ss₂) k := by
  obtain ⟨hitem, hunder, htext⟩ := summaries_of_check h hd
  refine ⟨⟨tallyOf ss, hitem, isTally_tallyOf h hd⟩, ?_,
    fun d' entries' hperm hd' => summaries_of_perm h hd hperm hd', ?_⟩
  · rw [htext]
    exact congrArg _ (funext fun k => (hunder k).symm)
  · intro d₂ d' entries₂ ss₂ h₂ hd₂ hd'
    have hw := ((check_list_eq_ok_iff hd).1 h).1
    have hw₂ := ((check_list_eq_ok_iff hd₂).1 h₂).1
    have h' := (check_list_eq_ok_iff hd').2 ⟨List.forall_mem_append.2 ⟨hw, hw₂⟩, rfl⟩
    obtain ⟨hitem', hunder', htext'⟩ := summaries_of_check h' hd'
    obtain ⟨-, hunder₂, -⟩ := summaries_of_check h₂ hd₂
    have hadd (k : Nat) : (entriesWith (entries ++ entries₂) k : Int) =
        countUnder (summaryItem ss) k + countUnder (summaryItem ss₂) k := by
      rw [hunder, hunder₂, entriesWith, List.countP_append, Int.natCast_add]
      rfl
    rw [List.length_append] at hitem' htext'
    refine ⟨_, _, h', hitem', fun k => (hunder' k).trans (hadd k), htext'.trans ?_⟩
    exact congrArg _ (funext hadd)

end Document

/-- The two summaries of `mixedDocument`, whose entries have two and three values. -/
theorem summaries_count_every_entry_mixed :
    let ss : List Shorthand := [⟨"margin", [" AUTO\n", "5px"], false, .author, 0⟩,
      ⟨"margin", ["1px", "auto", "1px"], true, .user, 1⟩]
    let entries : List Value := [.map [(.text "values", .list [.text " AUTO\n", .text "5px"])],
      .map [(.text "origin", .text "user"), (.text "important", .bool true),
        (.text "values", .list [.text "1px", .text "auto", .text "1px"])]]
    mixedDocument.check .standard = .ok ss ∧ mixedDocument.declarations = .list entries ∧
      (∃ counts, summaryItem ss = summaryObject 2 counts ∧ IsTally entries counts) ∧
      summaryText ss = summaryLine 2 (countUnder (summaryItem ss)) ∧
      summaryText ss = "OK: 2 declarations (1-value=0, 2-value=1, 3-value=1, 4-value=0)" := by
  intro ss entries
  have hcheck : mixedDocument.check .standard = .ok ss := by decide +kernel
  have hentries : mixedDocument.declarations = .list entries := rfl
  obtain ⟨hitem, htext, -, -⟩ := summaries_count_every_entry hcheck hentries
  exact ⟨hcheck, hentries, hitem, htext, by decide +kernel⟩

end CssMargin
