/-
# A reader stays inside its text

Every reader starts at a place of a text, that is, with some end of it, and stops with an end of
the same text.  This holds for single moves, and then for the readers of scalars without quotes, of
block scalars and of what stands between two tokens, none of which can fail.
-/
import CssMargin.Proofs.Yaml.Cursor
import CssMargin.Yaml.Token.Lexer
namespace CssMargin.Yaml

/-- Whether what is left at a place is an end of a text. -/
def Cursor.IsIn (s : List Char) (c : Cursor) : Prop := c.rest <:+ s

namespace Cursor

variable {s : List Char} {c : Cursor}

lemma isIn_start (s : List Char) : (start s).IsIn s := List.suffix_refl s

lemma IsIn.step (h : c.IsIn s) : c.step.IsIn s := by
  rw [IsIn, rest_step]
  exact (List.tail_suffix _).trans h

lemma IsIn.advance (h : c.IsIn s) (n : Nat) : (c.advance n).IsIn s := by
  rw [IsIn, rest_advance]
  exact (List.drop_suffix n _).trans h

lemma IsIn.spanWhile (h : c.IsIn s) (p : Char → Bool) : (c.spanWhile p).2.IsIn s := h.advance _

lemma IsIn.skipWhile (h : c.IsIn s) (p : Char → Bool) : (c.skipWhile p).IsIn s := h.spanWhile p

lemma IsIn.of_takeBreak? {b : Char} {c' : Cursor} (h : c.IsIn s)
    (hb : c.takeBreak? = some (b, c')) : c'.IsIn s := by
  unfold takeBreak? at hb
  split at hb
  · cases hb
  · split at hb
    · cases hb
      exact h.step
    · cases hb

lemma IsIn.skipBreak (h : c.IsIn s) : c.skipBreak.IsIn s := by
  rw [Cursor.skipBreak]
  cases hb : c.takeBreak? with
  | none => exact h
  | some x => exact h.of_takeBreak? hb

/-- Blanks are skipped, and a comment if there is one. -/
lemma IsIn.skipComment (h : c.IsIn s) :
    (if (c.skipWhile (· == ' ')).next (· == '#') then
      (c.skipWhile (· == ' ')).skipWhile (fun x => !isBreak x)
      else c.skipWhile (· == ' ')).IsIn s := by
  split
  · exact (h.skipWhile _).skipWhile _
  · exact h.skipWhile _

/-! ### Scalars without quotes -/

lemma IsIn.readPlainBreaks (fuel : Nat) (h : c.IsIn s) : (readPlainBreaks fuel c).2.IsIn s := by
  induction fuel generalizing c with
  | zero => exact h
  | succ fuel ih =>
    rw [Yaml.readPlainBreaks]
    split
    · exact ih h.step
    · cases hb : c.takeBreak? with
      | none => exact h
      | some x =>
        dsimp only
        split
        · exact h.of_takeBreak? hb
        · exact ih (h.of_takeBreak? hb)

lemma IsIn.readPlainGap (fuel : Nat) (h : c.IsIn s) : (readPlainGap fuel c).after.IsIn s := by
  have hspan := h.spanWhile (· == ' ')
  rw [Yaml.readPlainGap]
  dsimp only
  cases hb : (c.spanWhile (· == ' ')).2.takeBreak? with
  | none => exact hspan
  | some x =>
    dsimp only
    split
    · exact hspan.of_takeBreak? hb
    · exact (hspan.of_takeBreak? hb).readPlainBreaks fuel

lemma IsIn.readWords (inFlow : Bool) (indent : Int) (fuel : Nat) (gap : List Char) (crossed : Bool)
    (h : c.IsIn s) : (readWords inFlow indent fuel gap crossed c).2.2.IsIn s := by
  induction fuel generalizing gap crossed c with
  | zero => exact h
  | succ fuel ih =>
    have hgap := (h.advance (plainWord inFlow c.rest).length).readPlainGap fuel
    rw [Yaml.readWords]
    split
    · exact h
    · dsimp only
      split
      · exact h
      · split
        · exact hgap
        · exact ih _ _ hgap

/-! ### Block scalars -/

lemma IsIn.readChomping (h : c.IsIn s) : (readChomping c).2.IsIn s := by
  rw [Yaml.readChomping]
  split
  · exact h.step
  · exact h

lemma IsIn.readIndentation (fuel most : Nat) (h : c.IsIn s) :
    (readIndentation fuel most c).2.2.IsIn s := by
  induction fuel generalizing most c with
  | zero => exact h
  | succ fuel ih =>
    rw [Yaml.readIndentation]
    split
    · exact ih _ h.step
    · cases hb : c.takeBreak? with
      | none => exact h
      | some x => exact ih _ (h.of_takeBreak? hb)

lemma IsIn.skipIndent (indent : Nat) (h : c.IsIn s) : (skipIndent indent c).IsIn s := h.advance _

lemma IsIn.readEmptyLines (indent fuel : Nat) (h : c.IsIn s) :
    (readEmptyLines indent fuel c).2.IsIn s := by
  induction fuel generalizing c with
  | zero => exact h
  | succ fuel ih =>
    rw [Yaml.readEmptyLines]
    dsimp only
    cases hb : (Yaml.skipIndent indent c).takeBreak? with
    | none => exact h.skipIndent indent
    | some x => exact ih ((h.skipIndent indent).of_takeBreak? hb)

lemma IsIn.readLines (folded : Bool) (indent fuel : Nat) (breaks : List Char) (h : c.IsIn s) :
    (readLines folded indent fuel breaks c).after.IsIn s := by
  induction fuel generalizing breaks c with
  | zero => exact h
  | succ fuel ih =>
    have hline := ((h.spanWhile fun x => !isBreak x).skipBreak).readEmptyLines indent fuel
    rw [Yaml.readLines]
    split
    · dsimp only
      split
      · exact ih _ hline
      · exact hline
    · exact h

/-! ### Between two tokens -/

lemma IsIn.skipToToken (fuel : Nat) (passed : Bool) (h : c.IsIn s) :
    (Lexer.skipToToken fuel passed c).2.IsIn s := by
  induction fuel generalizing passed c with
  | zero => exact h
  | succ fuel ih =>
    rw [Lexer.skipToToken]
    split
    · rename_i hb
      exact ih true (h.skipComment.of_takeBreak? hb)
    · exact h.skipComment

end Cursor

end CssMargin.Yaml
