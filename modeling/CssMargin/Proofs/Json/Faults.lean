/-
# What can be wrong with a JSON text

A text that cannot be read is not JSON, or it has an integer of more digits than are allowed.  In
the first case the fault is at a place of the text, and in the second the digits are found in it:
all readers take a text from the left and stop with an end of it, whether they fail or not.
-/
import CssMargin.Json.Reader
import CssMargin.Proofs.Chain
namespace CssMargin.Json

/-- Whether a text has a run of so many digits, more than an integer may have. -/
def HasLongRun (s : List Char) (n : Nat) : Prop :=
  ∃ ds, ds <:+: s ∧ (∀ c ∈ ds, c.isDigit = true) ∧ ds.length = n ∧ Text.digitLimit < n

/-- Whether a fault is that of a text that is not JSON, at some place of it, or of an integer in it
that is too long. -/
def IsReadFault (s : List Char) (f : Fault) : Prop :=
  (∃ reason rest, rest <:+ s ∧ f = .malformed reason rest) ∨
    ∃ n, f = .longInteger n ∧ HasLongRun s n

/-- Whether a reader stops with an end of a text and finds only such faults. -/
def Parses {α : Type} (s : List Char) (r : Except Fault (α × List Char)) : Prop :=
  Ends (IsReadFault s) (fun x => x.2 <:+ s) r

variable {s t : List Char}

lemma parses_malformed {α : Type} (reason : Reason) (h : t <:+ s) :
    Parses s (.error (.malformed reason t) : Except Fault (α × List Char)) :=
  .inl ⟨reason, t, h, rfl⟩

/-- Behind a character of an end of a text there is an end of it. -/
lemma tail_suffix {c : Char} {r : List Char} (h : t <:+ s) (ht : t = c :: r) : r <:+ s :=
  (List.suffix_cons ..).trans (ht ▸ h)

/-! ### Numbers -/

lemma spanDigits_suffix (h : t <:+ s) : (spanDigits t).2 <:+ s :=
  (List.dropWhile_suffix _).trans h

/-- The digits before the point are digits, and they stand at the beginning. -/
lemma of_wholePart? {whole r : List Char} (h : wholePart? t = some (whole, r)) :
    whole <+: t ∧ (∀ c ∈ whole, c.isDigit = true) ∧ r <:+ t := by
  unfold wholePart? at h
  split at h
  · cases h
    refine ⟨⟨r, rfl⟩, fun c hc => ?_, List.suffix_cons ..⟩
    rw [List.mem_singleton.1 hc]
    rfl
  · split at h
    · cases h
      refine ⟨List.takeWhile_prefix _, fun c hc => ?_, List.dropWhile_suffix _⟩
      exact List.all_eq_true.1 List.all_takeWhile c hc
    · cases h
  · cases h

lemma suffix_of_fractionPart? {ds r : List Char} (h : fractionPart? t = some (ds, r)) :
    r <:+ t := by
  unfold fractionPart? at h
  split at h
  · dsimp only at h
    split at h
    · cases h
    · cases h
      exact (List.dropWhile_suffix _).trans (List.suffix_cons ..)
  · cases h

lemma suffix_of_exponentPart? {e : Int} {r : List Char} (h : exponentPart? t = some (e, r)) :
    r <:+ t := by
  have hdigits {v : List Char} {n : Int} (hv : v <:+ t)
      (h : (if (spanDigits v).1.isEmpty then none else some (n, (spanDigits v).2)) =
        some (e, r)) : r <:+ t := by
    split at h
    · cases h
    · cases h
      exact spanDigits_suffix hv
  unfold exponentPart? at h
  split at h
  · rename_i c u
    split at h
    · -- a sign may stand before the digits
      split at h
      rename_i negative v hsign
      have hv : v <:+ u := by
        split at hsign
        · cases hsign
          exact List.suffix_cons ..
        · cases hsign
          exact List.suffix_cons ..
        · cases hsign
          exact List.suffix_refl _
      exact hdigits (hv.trans (List.suffix_cons ..)) h
    · cases h
  · cases h

lemma parses_readNumber (negative : Bool) {start : List Char} (hstart : start <:+ s)
    (h : t <:+ s) : Parses s (readNumber negative start t) := by
  rw [readNumber]
  split
  · exact parses_malformed _ hstart
  · rename_i whole r hwhole
    obtain ⟨hfirst, hdigits, hr⟩ := of_wholePart? hwhole
    have hfraction : ((fractionPart? r).map (·.2)).getD r <:+ s := by
      cases hf : fractionPart? r with
      | none => exact hr.trans h
      | some x => exact (suffix_of_fractionPart? hf).trans (hr.trans h)
    have hexponent : ((exponentPart? (((fractionPart? r).map (·.2)).getD r)).map (·.2)).getD
        (((fractionPart? r).map (·.2)).getD r) <:+ s := by
      cases he : exponentPart? (((fractionPart? r).map (·.2)).getD r) with
      | none => exact hfraction
      | some x => exact (suffix_of_exponentPart? he).trans hfraction
    dsimp only
    split
    · split
      · rename_i hlong
        exact .inr ⟨_, rfl, whole, hfirst.isInfix.trans h.isInfix, hdigits, rfl, hlong⟩
      · exact hexponent
    · exact hexponent

/-! ### Strings -/

/-- A fault in the digits of an escape is at the letter before them. -/
lemma parses_readUnicode (h : 'u' :: t <:+ s) : Parses s (readUnicode t) := by
  have ht : t <:+ s := (List.suffix_cons ..).trans h
  have hdrop (n : Nat) {u : List Char} (hu : u <:+ s) : u.drop n <:+ s :=
    (List.drop_suffix n u).trans hu
  rw [readUnicode]
  dsimp only
  split
  · exact parses_malformed _ h
  · split
    · exact parses_malformed _ h
    · split
      · rename_i hpair
        -- the letter of the second half stands before its digits
        have hsplit := List.take_append_drop 2 (t.drop 4)
        rw [hpair.2.2.2] at hsplit
        have hletter : 'u' :: (t.drop 4).drop 2 <:+ s := tail_suffix (hdrop 4 ht) hsplit.symm
        split
        · exact parses_malformed _ hletter
        · split
          · exact hdrop _ (hdrop _ (hdrop _ ht))
          · exact hdrop _ ht
      · exact hdrop _ ht

lemma parses_readString {start : List Char} (hstart : start <:+ s) (fuel : Nat) (h : t <:+ s) :
    Parses s (readString start fuel t) := by
  induction fuel generalizing t with
  | zero =>
    rw [readString]
    exact parses_malformed _ hstart
  | succ fuel ih =>
    cases t with
    | nil =>
      rw [readString.eq_def]
      exact parses_malformed _ hstart
    | cons c r =>
      have hr : r <:+ s := (List.suffix_cons ..).trans h
      rw [readString.eq_def]
      dsimp only
      split
      · exact hr
      · split
        · rename_i hbackslash
          subst hbackslash
          split
          · exact parses_malformed _ hstart
          · refine (parses_readUnicode hr).bind fun x hx => ?_
            exact (ih hx).bind fun y hy => hy
          · split
            · exact parses_malformed _ h
            · exact (ih ((List.suffix_cons ..).trans hr)).bind fun y hy => hy
        · split
          · exact parses_malformed _ h
          · exact (ih hr).bind fun y hy => hy

lemma parses_readQuoted (fuel : Nat) (h : '"' :: t <:+ s) : Parses s (readQuoted fuel t) :=
  (parses_readString h fuel ((List.suffix_cons ..).trans h)).bind fun _ hx => hx

/-! ### Values -/

lemma suffix_of_keyword? {j : Json} {r : List Char} (h : keyword? t = some (j, r)) : r <:+ t := by
  obtain ⟨w, -, hw⟩ := Option.map_eq_some_iff.1 h
  cases hw
  exact List.drop_suffix ..

lemma skip_suffix (h : t <:+ s) : skip t <:+ s := (List.dropWhile_suffix _).trans h

section Collections

variable {fuel : Nat}

/-- A reader of values whose readers of items and of members stop inside the text does so too. -/
lemma parses_readValue_succ (hitems : ∀ t, t <:+ s → Parses s (readItems fuel t))
    (hmembers : ∀ t, t <:+ s → Parses s (readMembers fuel t)) (h : t <:+ s) :
    Parses s (readValue (fuel + 1) t) := by
  rw [readValue.eq_def]
  dsimp only
  split
  · exact parses_malformed _ h
  · exact (parses_readQuoted fuel h).bind fun x hx => hx
  · have hskip := skip_suffix (tail_suffix h rfl)
    split
    · rename_i heq
      exact tail_suffix hskip heq
    · exact (hitems _ hskip).bind fun x hx => hx
  · have hskip := skip_suffix (tail_suffix h rfl)
    split
    · rename_i heq
      exact tail_suffix hskip heq
    · exact (hmembers _ hskip).bind fun x hx => hx
  · split
    · rename_i found hfound
      exact (suffix_of_keyword? hfound).trans h
    · split
      · exact parses_readNumber true h (tail_suffix h rfl)
      · exact parses_readNumber false h h

/-- Behind the value of an item a bracket closes the list, or a comma goes before more items. -/
lemma parses_readItems_succ (hvalue : ∀ t, t <:+ s → Parses s (readValue fuel t))
    (hitems : ∀ t, t <:+ s → Parses s (readItems fuel t)) (h : t <:+ s) :
    Parses s (readItems (fuel + 1) t) := by
  rw [readItems.eq_def]
  dsimp only
  refine (hvalue t h).bind ?_
  rintro ⟨j, r⟩ hr
  have hskip := skip_suffix hr
  dsimp only
  split
  · rename_i heq
    exact tail_suffix hskip heq
  · rename_i heq
    exact (hitems _ (skip_suffix (tail_suffix hskip heq))).bind fun x hx => hx
  · exact parses_malformed _ hskip

/-- Behind the key of a member there is a colon, and its value is followed as that of an item is. -/
lemma parses_readMembers_succ (hvalue : ∀ t, t <:+ s → Parses s (readValue fuel t))
    (hmembers : ∀ t, t <:+ s → Parses s (readMembers fuel t)) (h : t <:+ s) :
    Parses s (readMembers (fuel + 1) t) := by
  rw [readMembers.eq_def]
  dsimp only
  split
  · refine (parses_readQuoted fuel h).bind ?_
    rintro ⟨k, r⟩ hr
    have hskip := skip_suffix hr
    dsimp only
    split
    · rename_i heq
      refine (hvalue _ (skip_suffix (tail_suffix hskip heq))).bind ?_
      rintro ⟨j, r'⟩ hr'
      have hskip' := skip_suffix hr'
      dsimp only
      split
      · rename_i heq'
        exact tail_suffix hskip' heq'
      · rename_i heq'
        exact (hmembers _ (skip_suffix (tail_suffix hskip' heq'))).bind fun x hx => hx
      · exact parses_malformed _ hskip'
    · exact parses_malformed _ hskip
  · exact parses_malformed _ h

end Collections

/-- The readers of values, of items and of members stop inside the text. -/
lemma parses_values (fuel : Nat) :
    (∀ t, t <:+ s → Parses s (readValue fuel t)) ∧
    (∀ t, t <:+ s → Parses s (readItems fuel t)) ∧
    ∀ t, t <:+ s → Parses s (readMembers fuel t) := by
  induction fuel with
  | zero =>
    refine ⟨fun t h => ?_, fun t h => ?_, fun t h => ?_⟩
    · rw [readValue]
      exact parses_malformed _ h
    · rw [readItems]
      exact parses_malformed _ h
    · rw [readMembers]
      exact parses_malformed _ h
  | succ fuel ih =>
    obtain ⟨hvalue, hitems, hmembers⟩ := ih
    exact ⟨fun t h => parses_readValue_succ hitems hmembers h,
      fun t h => parses_readItems_succ hvalue hitems h,
      fun t h => parses_readMembers_succ hvalue hmembers h⟩

/-- **Faults of a text.**  A text that cannot be read is not JSON, at some place of it, or it has a
run of digits that is too long for an integer. -/
theorem ends_read (s : List Char) : Ends (IsReadFault s) (fun _ => True) (read s) := by
  rw [read]
  split
  · exact .inl ⟨_, _, List.suffix_refl s, rfl⟩
  · refine ((parses_values _).1 _ (skip_suffix (List.suffix_refl s))).bind ?_
    rintro ⟨j, r⟩ hr
    dsimp only
    split
    · trivial
    · exact .inl ⟨_, _, skip_suffix hr, rfl⟩

/-- So the report on a fault counts what is before its place in the text. -/
lemma exists_report_eq {reason : Reason} {rest : List Char}
    (h : read s = .error (.malformed reason rest)) :
    ∃ before, s = before ++ rest ∧
      reason.report rest s = reason.text ++ ": " ++ placeText before := by
  rcases (ends_read s).of_error h with ⟨_, _, ⟨before, hbefore⟩, heq⟩ | ⟨n, heq, -⟩
  · cases heq
    refine ⟨before, hbefore.symm, ?_⟩
    rw [Reason.report, ← hbefore]
    simp
  · cases heq

end CssMargin.Json
