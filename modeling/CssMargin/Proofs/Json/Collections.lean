/-
# JSON arrays and objects read from the texts of their parts

`Reads t j` says that the text `t` is read as the value `j`, whatever follows, as long as it cannot
carry on a number.  An array or an object whose parts are texts of this kind, with blanks between
them, is again read as the value that it should be.  The fuel is twice the length of what is read:
a nested value has at least one bracket more than its parts.
-/
import CssMargin.Proofs.Json.Numbers
import CssMargin.Proofs.Json.Strings
import Mathlib.Data.List.Forall2
namespace CssMargin.Json

/-! ### Blanks -/

/-- Whether a text consists of blanks. -/
def Blank (s : List Char) : Prop := ∀ c ∈ s, isSpace c = true

lemma skip_append {gap s : List Char} (h : Blank gap) : skip (gap ++ s) = skip s :=
  List.dropWhile_append_of_pos h

lemma skip_cons {c : Char} (h : isSpace c = false) (r : List Char) : skip (c :: r) = c :: r := by
  simp [skip, h]

lemma endsNumber_append {gap s : List Char} (hgap : Blank gap) (hs : EndsNumber s) :
    EndsNumber (gap ++ s) := by
  cases gap with
  | nil => exact hs
  | cons c r =>
    intro _ hc
    cases hc
    have hspace := hgap c (List.mem_cons_self ..)
    simp only [isSpace, Bool.or_eq_true, beq_iff_eq] at hspace
    rcases hspace with ((rfl | rfl) | rfl) | rfl <;> decide

lemma endsNumber_cons {c : Char} (hc : c.isDigit = false ∧ c ≠ '.' ∧ ¬ (c = 'e' ∨ c = 'E'))
    (r : List Char) : EndsNumber (c :: r) := by
  intro _ h
  cases h
  exact hc

/-! ### Texts of values -/

/-- A text that is read as a value. -/
structure Reads (t : List Char) (j : Json) : Prop where
  /-- It begins with a character that no reader skips or takes for something else. -/
  starts : ∃ c r, t = c :: r ∧ isSpace c = false ∧ c ≠ ']' ∧ c ≠ '\uFEFF'
  /-- The reader ends where it does. -/
  read : ∀ fuel rest, 2 * t.length ≤ fuel → EndsNumber rest →
    readValue fuel (t ++ rest) = .ok (j, rest)

/-- A word is read as the value that it stands for. -/
lemma reads_keyword {c : Char} {w : List Char} {j : Json}
    (hc : isSpace c = false ∧ c ≠ ']' ∧ c ≠ '\uFEFF') (hopen : c ≠ '"' ∧ c ≠ '[' ∧ c ≠ '{')
    (h : ∀ rest, keyword? (c :: w ++ rest) = some (j, rest)) : Reads (c :: w) j := by
  refine ⟨⟨c, w, rfl, hc⟩, fun fuel rest hfuel _ => ?_⟩
  obtain ⟨k, rfl⟩ : ∃ k, fuel = k + 1 := ⟨fuel - 1, by rw [List.length_cons] at hfuel; omega⟩
  have hword := h rest
  rw [List.cons_append] at hword ⊢
  rw [readValue, hword]
  · exact hopen.1
  · exact hopen.2.1
  · exact hopen.2.2

lemma reads_null : Reads "null".toList .null :=
  reads_keyword (by decide) (by decide) fun _ => rfl

lemma reads_bool (b : Bool) : Reads (if b then "true" else "false").toList (.bool b) := by
  cases b
  · exact reads_keyword (by decide) (by decide) fun _ => rfl
  · exact reads_keyword (by decide) (by decide) fun _ => rfl

lemma reads_text (ascii : Bool) {t : Text} (ht : Unpaired t.points) :
    Reads (writeText ascii t) (.text t) := by
  refine ⟨⟨'"', _, rfl, by decide⟩, fun fuel rest hfuel _ => ?_⟩
  obtain ⟨k, rfl⟩ : ∃ k, fuel = k + 1 :=
    ⟨fuel - 1, by simp only [writeText, List.length_append, List.length_cons] at hfuel; omega⟩
  have hlen : (writeText ascii t).length ≤ k := by
    simp only [writeText, List.length_append, List.length_cons] at hfuel ⊢
    omega
  obtain ⟨u, hu, hread⟩ := readQuoted_writeText ascii ht rest hlen
  rw [hu, readValue, hread]
  rfl

lemma reads_int (n : Int) (hn : (Nat.toDigits 10 n.natAbs).length ≤ Text.digitLimit) :
    Reads (toString n).toList (.int n) := by
  have hhead : ∃ c r, (toString n).toList = c :: r ∧ (c.isDigit = true ∨ c = '-') := by
    cases n with
    | ofNat m =>
      rw [Int.ofNat_eq_natCast, toList_toString_ofNat]
      cases hds : Nat.toDigits 10 m with
      | nil => exact absurd hds Nat.toDigits_ne_nil
      | cons c r =>
        have hc : c ∈ Nat.toDigits 10 m := by rw [hds]; exact List.mem_cons_self ..
        exact ⟨c, r, rfl, Or.inl (Nat.isDigit_of_mem_toDigits (by decide) (by decide) hc)⟩
    | negSucc m => exact ⟨'-', _, toList_toString_negSucc m, Or.inr rfl⟩
  obtain ⟨c, r, ht, hc⟩ := hhead
  have hstart : isSpace c = false ∧ c ≠ ']' ∧ c ≠ '\uFEFF' := by
    rcases hc with hc | rfl
    · refine ⟨?_, ?_, ?_⟩
      · by_contra hspace
        simp only [isSpace, Bool.not_eq_false, Bool.or_eq_true, beq_iff_eq] at hspace
        rcases hspace with ((rfl | rfl) | rfl) | rfl <;> cases hc
      · rintro rfl
        cases hc
      · rintro rfl
        cases hc
    · decide
  refine ⟨⟨c, r, ht, hstart⟩, fun fuel rest hfuel hrest => ?_⟩
  have hpos : 0 < fuel := by
    rw [ht, List.length_cons] at hfuel
    omega
  exact readValue_toString n hrest hn hpos

/-! ### Arrays -/

/-- Items begin as the first of them does. -/
lemma starts_intercalate {t : List Char} {j : Json} (h : Reads t j) (sep : List Char)
    (ts : List (List Char)) (rest : List Char) :
    ∃ c r, sep.intercalate (t :: ts) ++ rest = c :: r ∧ isSpace c = false ∧ c ≠ ']' := by
  obtain ⟨c, r, rfl, hc, hc', -⟩ := h.starts
  cases ts with
  | nil =>
    rw [List.intercalate_singleton]
    exact ⟨c, _, rfl, hc, hc'⟩
  | cons =>
    rw [List.intercalate_cons_cons]
    exact ⟨c, _, rfl, hc, hc'⟩

/-- Items with a comma and blanks between them are read up to the closing bracket. -/
lemma readItems_intercalate {gap close : List Char} (hgap : Blank gap) (hclose : Blank close)
    {t : List Char} {ts : List (List Char)} {j : Json} {js : List Json} (ht : Reads t j)
    (hts : List.Forall₂ Reads ts js) (rest : List Char) {fuel : Nat}
    (hfuel : 2 * ((',' :: gap).intercalate (t :: ts)).length < fuel) :
    readItems fuel ((',' :: gap).intercalate (t :: ts) ++ (close ++ ']' :: rest)) =
      .ok (j :: js, rest) := by
  induction hts generalizing t j fuel with
  | nil =>
    obtain ⟨k, rfl⟩ : ∃ k, fuel = k + 1 := ⟨fuel - 1, by omega⟩
    rw [List.intercalate_singleton] at hfuel ⊢
    -- behind the last item there are only blanks and the bracket
    have hend : EndsNumber (close ++ ']' :: rest) :=
      endsNumber_append hclose (endsNumber_cons (by decide) rest)
    rw [readItems, ht.read k _ (by omega) hend, ok_bind]
    dsimp only
    rw [skip_append hclose, skip_cons (by decide)]
    rfl
  | @cons t' j' ts' js' ht' _ ih =>
    obtain ⟨k, rfl⟩ : ∃ k, fuel = k + 1 := ⟨fuel - 1, by omega⟩
    rw [List.intercalate_cons_cons] at hfuel ⊢
    simp only [List.length_append, List.length_cons] at hfuel
    -- behind any other item there is a comma, which ends a number as well
    have hread := ht.read k (',' :: (gap ++ ((',' :: gap).intercalate (t' :: ts') ++
      (close ++ ']' :: rest)))) (by omega) (endsNumber_cons (by decide) _)
    have hnext : skip (gap ++ ((',' :: gap).intercalate (t' :: ts') ++ (close ++ ']' :: rest))) =
        (',' :: gap).intercalate (t' :: ts') ++ (close ++ ']' :: rest) := by
      obtain ⟨c, r, htext, hc, -⟩ := starts_intercalate ht' (',' :: gap) ts' (close ++ ']' :: rest)
      rw [skip_append hgap, htext, skip_cons hc]
    rw [List.append_assoc, List.append_assoc, List.cons_append, readItems, hread, ok_bind]
    dsimp only
    rw [skip_cons (by decide)]
    change (readItems k (skip _) >>= _) = _
    rw [hnext, ih ht' (by omega)]
    rfl

/-- An array is read from the texts of its items. -/
lemma reads_list {open' gap close : List Char} (hopen : Blank open') (hgap : Blank gap)
    (hclose : Blank close) {ts : List (List Char)} {js : List Json} (hne : ts ≠ [])
    (h : List.Forall₂ Reads ts js) :
    Reads ('[' :: open' ++ (',' :: gap).intercalate ts ++ close ++ [']']) (.list js) := by
  cases h with
  | nil => exact absurd rfl hne
  | @cons t j ts js ht hts =>
    refine ⟨⟨'[', _, rfl, by decide⟩, fun fuel rest hfuel _ => ?_⟩
    simp only [List.length_append, List.length_cons, List.length_nil] at hfuel
    obtain ⟨k, rfl⟩ : ∃ k, fuel = k + 1 := ⟨fuel - 1, by omega⟩
    have hroom : 2 * ((',' :: gap).intercalate (t :: ts)).length < k := by omega
    have hread := readItems_intercalate hgap hclose ht hts rest hroom
    obtain ⟨c, r, htext, hc, hc'⟩ :=
      starts_intercalate ht (',' :: gap) ts (close ++ ']' :: rest)
    have hbody : ('[' :: open' ++ (',' :: gap).intercalate (t :: ts) ++ close ++ [']']) ++ rest =
        '[' :: (open' ++ c :: r) := by
      rw [← htext]
      simp
    rw [htext] at hread
    rw [hbody, readValue, skip_append hopen, skip_cons hc]
    dsimp only
    split
    · -- an array that ends here would have no items
      rename_i heq
      cases heq
      exact absurd rfl hc'
    · rw [hread]
      rfl

lemma reads_list_nil : Reads ['[', ']'] (.list []) := by
  refine ⟨⟨'[', _, rfl, by decide⟩, fun fuel rest hfuel _ => ?_⟩
  obtain ⟨k, rfl⟩ : ∃ k, fuel = k + 1 :=
    ⟨fuel - 1, by simp only [List.length_cons] at hfuel; omega⟩
  rfl

/-! ### Objects -/

/-- A text that is read as a member of an object: its key, a colon and a blank, and its value. -/
def ReadsMember (ascii : Bool) (u : List Char) (m : Text × Json) : Prop :=
  Unpaired m.1.points ∧ ∃ t, u = writeText ascii m.1 ++ ':' :: ' ' :: t ∧ Reads t m.2

/-- Members begin with a quote. -/
lemma quote_intercalate {ascii : Bool} {u : List Char} {m : Text × Json}
    (h : ReadsMember ascii u m) (sep : List Char) (us : List (List Char)) (rest : List Char) :
    ∃ r, sep.intercalate (u :: us) ++ rest = '"' :: r := by
  obtain ⟨-, t, rfl, -⟩ := h
  cases us with
  | nil =>
    rw [List.intercalate_singleton]
    exact ⟨_, rfl⟩
  | cons =>
    rw [List.intercalate_cons_cons]
    exact ⟨_, rfl⟩

/-- The reader of members goes on as soon as it has read the first of them. -/
lemma readMembers_member {ascii : Bool} {u : List Char} {m : Text × Json}
    (h : ReadsMember ascii u m) {rest : List Char} (hrest : EndsNumber rest) {fuel : Nat}
    (hfuel : 2 * u.length ≤ fuel) :
    readMembers (fuel + 1) (u ++ rest) = match skip rest with
      | '}' :: r => .ok ([m], r)
      | ',' :: r => do
        let (ms, r) ← readMembers fuel (skip r)
        .ok (m :: ms, r)
      | r => .error (.malformed .comma r) := by
  obtain ⟨k, j⟩ := m
  obtain ⟨hk, t, rfl, ht⟩ := h
  simp only [List.length_append, List.length_cons] at hfuel
  have hroom : (writeText ascii k).length ≤ fuel := by omega
  obtain ⟨r, hr, hkey⟩ := readQuoted_writeText ascii hk (':' :: ' ' :: (t ++ rest)) hroom
  have hskip : skip (' ' :: (t ++ rest)) = t ++ rest := by
    obtain ⟨c, s, rfl, hc, -⟩ := ht.starts
    exact skip_cons hc _
  have htext : writeText ascii k ++ ':' :: ' ' :: t ++ rest = '"' :: r := by
    rw [← hr]
    simp
  rw [htext, readMembers, hkey, ok_bind]
  dsimp only
  rw [skip_cons (by decide)]
  change (readValue fuel (skip _) >>= _) = _
  rw [hskip, ht.read fuel rest (by omega) hrest]
  rfl

/-- Members with a comma and blanks between them are read up to the closing brace. -/
lemma readMembers_intercalate {ascii : Bool} {gap close : List Char} (hgap : Blank gap)
    (hclose : Blank close) {u : List Char} {us : List (List Char)} {m : Text × Json}
    {ms : List (Text × Json)} (hu : ReadsMember ascii u m)
    (hus : List.Forall₂ (ReadsMember ascii) us ms) (rest : List Char) {fuel : Nat}
    (hfuel : 2 * ((',' :: gap).intercalate (u :: us)).length < fuel) :
    readMembers fuel ((',' :: gap).intercalate (u :: us) ++ (close ++ '}' :: rest)) =
      .ok (m :: ms, rest) := by
  induction hus generalizing u m fuel with
  | nil =>
    obtain ⟨k, rfl⟩ : ∃ k, fuel = k + 1 := ⟨fuel - 1, by omega⟩
    rw [List.intercalate_singleton] at hfuel ⊢
    -- behind the last member there are only blanks and the brace
    have hend : EndsNumber (close ++ '}' :: rest) :=
      endsNumber_append hclose (endsNumber_cons (by decide) rest)
    rw [readMembers_member hu hend (by omega), skip_append hclose, skip_cons (by decide)]
    rfl
  | @cons u' m' us' ms' hu' _ ih =>
    obtain ⟨k, rfl⟩ : ∃ k, fuel = k + 1 := ⟨fuel - 1, by omega⟩
    rw [List.intercalate_cons_cons] at hfuel ⊢
    simp only [List.length_append, List.length_cons] at hfuel
    have hnext : skip (gap ++ ((',' :: gap).intercalate (u' :: us') ++ (close ++ '}' :: rest))) =
        (',' :: gap).intercalate (u' :: us') ++ (close ++ '}' :: rest) := by
      obtain ⟨r, htext⟩ := quote_intercalate hu' (',' :: gap) us' (close ++ '}' :: rest)
      rw [skip_append hgap, htext, skip_cons (by decide)]
    rw [List.append_assoc, List.append_assoc, List.cons_append,
      readMembers_member hu (endsNumber_cons (by decide) _) (by omega), skip_cons (by decide)]
    change (readMembers k (skip _) >>= _) = _
    rw [hnext, ih hu' (by omega)]
    rfl

/-- An object is read from the texts of its members, if their keys differ. -/
lemma reads_object {ascii : Bool} {open' gap close : List Char} (hopen : Blank open')
    (hgap : Blank gap) (hclose : Blank close) {us : List (List Char)} {ms : List (Text × Json)}
    (hne : us ≠ []) (hkeys : (ms.map (·.1)).Nodup) (h : List.Forall₂ (ReadsMember ascii) us ms) :
    Reads ('{' :: open' ++ (',' :: gap).intercalate us ++ close ++ ['}']) (.object ms) := by
  cases h with
  | nil => exact absurd rfl hne
  | @cons u m us ms hu hus =>
    refine ⟨⟨'{', _, rfl, by decide⟩, fun fuel rest hfuel _ => ?_⟩
    simp only [List.length_append, List.length_cons, List.length_nil] at hfuel
    obtain ⟨k, rfl⟩ : ∃ k, fuel = k + 1 := ⟨fuel - 1, by omega⟩
    have hroom : 2 * ((',' :: gap).intercalate (u :: us)).length < k := by omega
    have hread := readMembers_intercalate hgap hclose hu hus rest hroom
    obtain ⟨r, htext⟩ := quote_intercalate hu (',' :: gap) us (close ++ '}' :: rest)
    have hbody : ('{' :: open' ++ (',' :: gap).intercalate (u :: us) ++ close ++ ['}']) ++ rest =
        '{' :: (open' ++ '"' :: r) := by
      rw [← htext]
      simp
    rw [htext] at hread
    rw [hbody, readValue, skip_append hopen, skip_cons (by decide)]
    change (readMembers k ('"' :: r) >>= _) = _
    rw [hread, ok_bind]
    dsimp only
    rw [ofMembers_eq_self hkeys]

lemma reads_object_nil : Reads ['{', '}'] (.object []) := by
  refine ⟨⟨'{', _, rfl, by decide⟩, fun fuel rest hfuel _ => ?_⟩
  obtain ⟨k, rfl⟩ : ∃ k, fuel = k + 1 :=
    ⟨fuel - 1, by simp only [List.length_cons] at hfuel; omega⟩
  rfl

end CssMargin.Json
