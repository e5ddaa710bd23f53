/-
# What stops the readers of tokens

The readers of tokens find a text malformed, with two exceptions: the escape `\U` with eight
hexadecimal digits may name a position beyond the last character, and a number of the version may
have too many digits.  So a fault of a reader is either that the text is malformed or that such an
escape or such a number stands in it.  That a reader stays inside its text is shown together with
this, since the escape and the number have to be found in the text as a whole.
-/
import CssMargin.Proofs.Chain
import CssMargin.Proofs.Text.Numeral
import CssMargin.Proofs.Yaml.Places
import Mathlib.Data.List.TakeWhile
namespace CssMargin.Yaml

/-- Whether a text has an escape that names a position beyond the last character. -/
def HasEscapeTo (s : List Char) (n : Nat) : Prop :=
  ∃ digits, ('\\' :: 'U' :: digits) <:+: s ∧ digits.length = 8 ∧ Text.hexValue? digits = some n ∧
    0x10FFFF < n

/-- Whether a text begins with a directive of the version up to a place in it or in its numbers. -/
def IsVersionFront (front : List Char) : Prop :=
  ∃ between, front = "%YAML".toList ++ between ∧
    ∀ x ∈ between, x = ' ' ∨ x.isDigit = true ∨ x = '.'

/-- Whether a text has a number of the version with so many digits, which are too many. -/
def HasLongVersion (s : List Char) (n : Nat) : Prop :=
  ∃ front digits, IsVersionFront front ∧ (front ++ digits) <:+: s ∧
    (∀ d ∈ digits, d.isDigit = true) ∧ digits.length = n ∧ Text.digitLimit < n

/-- The faults that the readers of tokens find in a text. -/
inductive IsTokenFault (s : List Char) : Fault → Prop where
  /-- It breaks the rules. -/
  | malformed : IsTokenFault s .malformed
  /-- An escape in it names a position beyond the last character. -/
  | escape {n : Nat} (h : HasEscapeTo s n) : IsTokenFault s (.mishap (.codePoint n))
  /-- A number of the version has too many digits. -/
  | version {n : Nat} (h : HasLongVersion s n) : IsTokenFault s (.mishap (.longInteger n))

/-- Whether a reader stays inside a text and finds only such faults. -/
def Reads {α : Type} (s : List Char) (r : Except Fault (α × Cursor)) : Prop :=
  Ends (IsTokenFault s) (fun x => x.2.IsIn s) r

variable {s : List Char} {c : Cursor}

lemma reads_malformed {α : Type} : Reads s (.error .malformed : Except Fault (α × Cursor)) :=
  .malformed

/-! ### Scalars in quotes -/

lemma reads_readBreaks (fuel : Nat) (h : c.IsIn s) : Reads s (readBreaks fuel c) := by
  induction fuel generalizing c with
  | zero => exact reads_malformed
  | succ fuel ih =>
    rw [readBreaks]
    split
    · exact reads_malformed
    · dsimp only
      cases hb : (c.skipWhile isGap).takeBreak? with
      | none => exact h.skipWhile isGap
      | some x =>
        exact (ih ((h.skipWhile isGap).of_takeBreak? hb)).bind fun y hy => hy

lemma reads_readGap (fuel : Nat) (h : c.IsIn s) : Reads s (readGap fuel c) := by
  have hspan := h.spanWhile isGap
  rw [readGap]
  dsimp only
  cases hb : (c.spanWhile isGap).2.takeBreak? with
  | none =>
    dsimp only
    split
    · exact reads_malformed
    · exact hspan
  | some x => exact (reads_readBreaks fuel (hspan.of_takeBreak? hb)).bind fun y hy => hy

/-- Only eight digits can name a position beyond the last character. -/
lemma eq_of_escapeWidth? {e : Char} {width n : Nat} {digits : List Char}
    (hwidth : escapeWidth? e = some width) (hlength : digits.length = width)
    (hvalue : Text.hexValue? digits = some n) (hn : 0x10FFFF < n) : e = 'U' ∧ width = 8 := by
  have hlt := Text.hexValue?_lt hvalue
  rw [hlength] at hlt
  unfold escapeWidth? at hwidth
  split at hwidth
  · cases hwidth
    omega
  · cases hwidth
    omega
  · cases hwidth
    exact ⟨rfl, rfl⟩
  · cases hwidth

lemma reads_readEscape (fuel : Nat) (h : ('\\' :: c.rest) <:+ s) : Reads s (readEscape fuel c) := by
  have hin : c.IsIn s := (List.suffix_cons ..).trans h
  rw [readEscape]
  split
  · exact reads_malformed
  · rename_i e r hrest
    split
    · exact hin.step
    · split
      · rename_i width hwidth
        dsimp only
        split
        · exact reads_malformed
        · rename_i hlength
          split
          · exact reads_malformed
          · rename_i n hvalue
            split
            · rename_i hn
              have hlen : (r.take width).length = width := by
                have := List.length_take_le width r
                omega
              obtain ⟨rfl, rfl⟩ := eq_of_escapeWidth? hwidth hlen hvalue hn
              refine .escape ⟨r.take 8, ?_, hlen, hvalue, hn⟩
              rw [hrest] at h
              have hfirst : ('\\' :: 'U' :: r.take 8) <+: ('\\' :: 'U' :: r) := by
                rw [List.prefix_cons_inj, List.prefix_cons_inj]
                exact List.take_prefix 8 r
              exact hfirst.isInfix.trans h.isInfix
            · exact hin.step.advance width
      · split
        · exact (reads_readBreaks fuel hin.step).bind fun x hx => hx
        · exact reads_malformed

lemma reads_readQuotedBody (q : Quote) (fuel : Nat) (h : c.IsIn s) :
    Reads s (readQuotedBody q fuel c) := by
  induction fuel generalizing c with
  | zero => exact reads_malformed
  | succ fuel ih =>
    rw [readQuotedBody]
    split
    · exact reads_malformed
    · rename_i x r hrest
      split
      · refine (reads_readGap fuel h).bind fun y hy => ?_
        exact (ih hy).bind fun z hz => hz
      · split
        · split
          · exact (ih (h.advance 2)).bind fun z hz => hz
          · exact h.step
        · split
          · rename_i hescape
            have hback : ('\\' :: c.step.rest) <:+ s := by
              rw [Cursor.rest_step_cons hrest, ← hescape.2, ← hrest]
              exact h
            refine (reads_readEscape fuel hback).bind fun y hy => ?_
            exact (ih hy).bind fun z hz => hz
          · exact (ih h.step).bind fun z hz => hz

lemma reads_readQuoted (q : Quote) (fuel : Nat) (h : c.IsIn s) : Reads s (readQuoted q fuel c) :=
  reads_readQuotedBody q fuel h.step

/-! ### Block scalars -/

lemma reads_readIncrement (h : c.IsIn s) : Reads s (readIncrement c) := by
  rw [readIncrement]
  split
  · split
    · split
      · exact reads_malformed
      · exact h.step
    · exact h
  · exact h

/-- Skipping the rest of a line stays inside the text. -/
lemma ends_skipRestOfLine (h : c.IsIn s) :
    Ends (IsTokenFault s) (fun c => c.IsIn s) (skipRestOfLine c) :=
  Ends.ite (h.skipComment.skipBreak) IsTokenFault.malformed

lemma reads_readBlockHeader (h : c.IsIn s) : Reads s (readBlockHeader c) := by
  have hsign := h.readChomping
  rw [readBlockHeader]
  generalize readChomping c = x at hsign ⊢
  obtain ⟨sign, c₁⟩ := x
  refine (reads_readIncrement hsign).bind fun y hy => ?_
  obtain ⟨increment, c₂⟩ := y
  have hc₂ : c₂.IsIn s := hy
  dsimp only
  split
  · -- a sign may stand behind the digit too
    split
    · exact (ends_skipRestOfLine hc₂.readChomping).bind fun z hz => hz
    · exact reads_malformed
  · split
    · exact (ends_skipRestOfLine hc₂).bind fun z hz => hz
    · exact reads_malformed

lemma reads_readBlock (folded : Bool) (parent : Int) (fuel : Nat) (h : c.IsIn s) :
    Reads s (readBlock folded parent fuel c) := by
  rw [readBlock]
  refine (reads_readBlockHeader h).bind fun x hx => ?_
  obtain ⟨header, c'⟩ := x
  dsimp only
  split
  · exact (Cursor.IsIn.readEmptyLines _ fuel hx).readLines ..
  · exact (Cursor.IsIn.readIndentation fuel 0 hx).readLines ..

/-! ### Tags and directives -/

/-- The bytes of a tag are malformed or not. -/
lemma ends_readTagBytes (t : List Char) :
    Ends (IsTokenFault s) (fun _ => True) (readTagBytes t) := by
  fun_induction readTagBytes t with
  | case1 => exact IsTokenFault.malformed
  | case2 a b r n hn ih => exact ih.bind fun x _ => trivial
  | case3 => exact IsTokenFault.malformed
  | case4 => trivial

lemma reads_readTagChars (fuel : Nat) (h : c.IsIn s) : Reads s (readTagChars fuel c) := by
  induction fuel generalizing c with
  | zero => exact reads_malformed
  | succ fuel ih =>
    have hspan := h.spanWhile isTagChar
    rw [readTagChars]
    dsimp only
    split
    · refine (ends_readTagBytes _).bind fun x _ => ?_
      obtain ⟨bytes, count⟩ := x
      dsimp only
      split
      · exact reads_malformed
      · exact (ih (hspan.advance count)).bind fun y hy => hy
    · exact hspan

lemma reads_readTagUri (fuel : Nat) (h : c.IsIn s) : Reads s (readTagUri fuel c) := by
  rw [readTagUri]
  refine (reads_readTagChars fuel h).bind fun x hx => ?_
  obtain ⟨xs, after⟩ := x
  dsimp only
  split
  · exact reads_malformed
  · exact hx

lemma reads_readHandle (h : c.IsIn s) : Reads s (readHandle c) := by
  rw [readHandle]
  split
  · split
    · exact h.step
    · dsimp only
      split
      · exact h.advance _
      · exact reads_malformed
  · exact reads_malformed

lemma reads_readTag (fuel : Nat) (h : c.IsIn s) : Reads s (readTag fuel c) := by
  rw [readTag]
  dsimp only
  refine Ends.bind (Q := fun x => x.2.IsIn s) ?_ fun x hx => ?_
  · split
    · refine (reads_readTagUri fuel (h.advance 2)).bind fun x hx => ?_
      obtain ⟨uri, c'⟩ := x
      dsimp only
      split
      · exact Cursor.IsIn.step hx
      · exact reads_malformed
    · split
      · exact h.step
      · split
        · refine (reads_readHandle h).bind fun x hx => ?_
          exact (reads_readTagUri fuel hx).bind fun y hy => hy
        · exact (reads_readTagUri fuel h.step).bind fun y hy => hy
  · obtain ⟨tag, c'⟩ := x
    dsimp only
    split
    · exact hx
    · exact reads_malformed

/-- A place in a directive of the version. -/
def InVersion (s : List Char) (c : Cursor) : Prop :=
  ∃ front, IsVersionFront front ∧ (front ++ c.rest) <:+ s

lemma InVersion.isIn (h : InVersion s c) : c.IsIn s := by
  obtain ⟨front, -, h⟩ := h
  exact (List.suffix_append front c.rest).trans h

/-- Characters that belong to the directive are passed. -/
lemma InVersion.of_append {c' : Cursor} {passed : List Char} (h : InVersion s c)
    (hrest : c.rest = passed ++ c'.rest)
    (hpassed : ∀ x ∈ passed, x = ' ' ∨ x.isDigit = true ∨ x = '.') : InVersion s c' := by
  obtain ⟨front, ⟨between, rfl, hbetween⟩, h⟩ := h
  refine ⟨_, ⟨between ++ passed, rfl, List.forall_mem_append.2 ⟨hbetween, hpassed⟩⟩, ?_⟩
  rwa [hrest, ← List.append_assoc, List.append_assoc _ between passed] at h

lemma InVersion.spanWhile {p : Char → Bool} (h : InVersion s c)
    (hp : ∀ x, p x = true → x = ' ' ∨ x.isDigit = true ∨ x = '.') :
    InVersion s (c.spanWhile p).2 :=
  h.of_append (Cursor.rest_spanWhile p c) fun x hx => hp x (List.mem_takeWhile_imp hx)

/-- The dot between the two numbers is passed. -/
lemma InVersion.step (h : InVersion s c) (hdot : c.next (· == '.') = true) :
    InVersion s c.step := by
  have hrest : c.rest = ['.'] ++ c.step.rest := by
    rw [Cursor.rest_step]
    rw [Cursor.next] at hdot
    cases hc : c.rest with
    | nil =>
      rw [hc] at hdot
      cases hdot
    | cons x r =>
      rw [hc] at hdot
      rw [eq_of_beq (b := '.') hdot]
      rfl
  exact h.of_append hrest fun x hx => .inr (.inr (List.mem_singleton.1 hx))

lemma reads_readVersionNumber (h : InVersion s c) :
    Ends (IsTokenFault s) (fun x => InVersion s x.2) (readVersionNumber c) := by
  rw [readVersionNumber]
  dsimp only
  split
  · exact IsTokenFault.malformed
  · split
    · rename_i hlong
      obtain ⟨front, hfront, hin⟩ := h
      have hdigits : (front ++ (c.spanWhile Char.isDigit).1) <+: (front ++ c.rest) :=
        (List.prefix_append_right_inj front).2 (List.takeWhile_prefix _)
      exact .version ⟨front, _, hfront, hdigits.isInfix.trans hin.isInfix,
        fun d hd => List.mem_takeWhile_imp hd, rfl, hlong⟩
    · exact h.spanWhile fun x hx => .inr (.inl hx)

lemma reads_readDirective (fuel : Nat) (h : ('%' :: c.step.rest) <:+ s) :
    Reads s (readDirective fuel c) := by
  have hstep : c.step.IsIn s := (List.suffix_cons ..).trans h
  rw [readDirective]
  dsimp only
  split
  · exact reads_malformed
  · have hname := hstep.spanWhile isNameChar
    refine Ends.bind (Q := fun x => x.2.IsIn s) ?_ fun x hx => ?_
    · split
      · -- a version has two numbers
        rename_i hyaml
        have hfront : InVersion s (c.step.spanWhile isNameChar).2 := by
          refine ⟨_, ⟨[], rfl, fun x hx => absurd hx List.not_mem_nil⟩, ?_⟩
          rw [Cursor.rest_spanWhile isNameChar c.step, hyaml] at h
          exact h
        have hblank : InVersion s ((c.step.spanWhile isNameChar).2.skipWhile (· == ' ')) :=
          hfront.spanWhile fun x hx => .inl (eq_of_beq hx)
        refine (reads_readVersionNumber hblank).bind ?_
        rintro ⟨major, c₁⟩ (hc₁ : InVersion s c₁)
        dsimp only
        split
        · rename_i hdot
          refine (reads_readVersionNumber (hc₁.step hdot)).bind ?_
          rintro ⟨minor, c₂⟩ (hc₂ : InVersion s c₂)
          dsimp only
          split
          · exact hc₂.isIn
          · exact reads_malformed
        · exact reads_malformed
      · split
        · -- a handle has a meaning
          refine (reads_readHandle (hname.skipWhile _)).bind ?_
          rintro ⟨handle, c₁⟩ hc₁
          dsimp only
          split
          · refine (reads_readTagUri fuel (Cursor.IsIn.skipWhile hc₁ _)).bind ?_
            rintro ⟨meaning, c₂⟩ hc₂
            dsimp only
            split
            · exact hc₂
            · exact reads_malformed
          · exact reads_malformed
        · exact hname.skipWhile _
    · exact (ends_skipRestOfLine hx).bind fun y hy => hy

end CssMargin.Yaml
