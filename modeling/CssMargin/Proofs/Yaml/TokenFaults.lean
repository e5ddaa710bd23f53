/-
# What can go wrong while tokens are read

Each step of the lexer reads one token.  The readers that it calls stay inside the text and find
only the faults that readers can find, so the same holds of a step, and of the whole run.
-/
import CssMargin.Proofs.Yaml.Escapes
import CssMargin.Yaml.Meaning.Document
namespace CssMargin.Yaml

namespace Lexer

/-- Whether a step leaves the lexer inside a text and finds only faults of its readers. -/
def Steps (s : List Char) (r : Except Fault Lexer) : Prop :=
  Ends (IsTokenFault s) (fun l => l.cursor.IsIn s) r

variable {s : List Char} {l : Lexer}

lemma steps_malformed : Steps s (.error .malformed) := .malformed

/-! ### Bookkeeping -/

lemma steps_dropStale (h : l.cursor.IsIn s) : Steps s l.dropStale := by
  rw [dropStale]
  split
  · exact steps_malformed
  · exact h

lemma steps_dropKey (h : l.cursor.IsIn s) : Steps s l.dropKey := by
  rw [dropKey]
  split
  · split
    · exact steps_malformed
    · exact h
  · exact h

lemma steps_saveKey (h : l.cursor.IsIn s) : Steps s l.saveKey := by
  rw [saveKey]
  split
  · exact (steps_dropKey h).bind fun l' h' => h'
  · exact h

@[simp] lemma cursor_unwindTo (column : Int) (outers : List Int) (l : Lexer) :
    (unwindTo column outers l).cursor = l.cursor := by
  induction outers generalizing l with
  | nil => rfl
  | cons outer outers ih =>
    rw [unwindTo]
    split
    · rw [ih]
      rfl
    · rfl

@[simp] lemma cursor_unwind (column : Int) (l : Lexer) : (l.unwind column).cursor = l.cursor := by
  rw [unwind]
  split
  · exact cursor_unwindTo column l.indents l
  · rfl

@[simp] lemma cursor_openBlock (t : Token) (l : Lexer) : (l.openBlock t).cursor = l.cursor := by
  rw [openBlock]
  split <;> rfl

lemma steps_closeBlocks (h : l.cursor.IsIn s) : Steps s l.closeBlocks := by
  have hunwind : (l.unwind (-1)).cursor.IsIn s := by rwa [cursor_unwind]
  exact (steps_dropKey hunwind).bind fun l' h' => h'

lemma cursor_of_dropKey {l l' : Lexer} (h : l.dropKey = .ok l') : l'.cursor = l.cursor := by
  rw [dropKey] at h
  split at h
  · split at h
    · cases h
    · cases h
      rfl
  · cases h
    rfl

lemma cursor_of_closeBlocks {l l' : Lexer} (h : l.closeBlocks = .ok l') :
    l'.cursor = l.cursor := by
  rw [closeBlocks] at h
  cases hdrop : (l.unwind (-1)).dropKey with
  | error f =>
    rw [hdrop] at h
    cases h
  | ok l'' =>
    rw [hdrop] at h
    cases h
    exact (cursor_of_dropKey hdrop).trans (cursor_unwind (-1) l)

/-! ### Tokens -/

lemma steps_takeDirective (fuel : Nat) {r : List Char} (hrest : l.cursor.rest = '%' :: r)
    (h : l.cursor.IsIn s) : Steps s (l.takeDirective fuel) := by
  rw [takeDirective]
  cases hclose : l.closeBlocks with
  | error f => exact (steps_closeBlocks h).of_error hclose
  | ok l' =>
    have hsign : ('%' :: l'.cursor.step.rest) <:+ s := by
      rw [cursor_of_closeBlocks hclose, Cursor.rest_step_cons hrest, ← hrest]
      exact h
    exact (reads_readDirective fuel hsign).bind fun x hx => hx

lemma steps_takeMarker (t : Token) (h : l.cursor.IsIn s) : Steps s (l.takeMarker t) :=
  (steps_closeBlocks h).bind fun _ h' => Cursor.IsIn.advance h' 3

lemma steps_takeOpening (t : Token) (h : l.cursor.IsIn s) : Steps s (l.takeOpening t) :=
  (steps_saveKey h).bind fun _ h' => Cursor.IsIn.step h'

lemma steps_takeClosing (t : Token) (h : l.cursor.IsIn s) : Steps s (l.takeClosing t) :=
  (steps_dropKey h).bind fun _ h' => Cursor.IsIn.step h'

lemma steps_takeComma (h : l.cursor.IsIn s) : Steps s l.takeComma :=
  (steps_dropKey (l := l.allow true) h).bind fun _ h' => Cursor.IsIn.step h'

/-- An indicator in front of a part of a block collection, which may begin with it. -/
lemma steps_indicator {begun : Lexer} (t : Token) (b : Bool) (h : begun.cursor.IsIn s) :
    Steps s (do
      let l ← (begun.allow b).dropKey
      .ok ((l.emit t).moveTo l.cursor.step)) :=
  (steps_dropKey (l := begun.allow b) h).bind fun _ h' => Cursor.IsIn.step h'

lemma isIn_begun (t : Token) (h : l.cursor.IsIn s) :
    (if l.level = 0 then l.openBlock t else l).cursor.IsIn s := by
  split
  · rwa [cursor_openBlock]
  · exact h

lemma steps_takeHyphen (h : l.cursor.IsIn s) : Steps s l.takeHyphen := by
  rw [takeHyphen]
  split
  · exact steps_malformed
  · exact steps_indicator .blockEntry true (isIn_begun _ h)

lemma steps_takeQuestion (h : l.cursor.IsIn s) : Steps s l.takeQuestion := by
  rw [takeQuestion]
  split
  · exact steps_malformed
  · exact steps_indicator .key _ (isIn_begun _ h)

lemma steps_takeColon (h : l.cursor.IsIn s) : Steps s l.takeColon := by
  rw [takeColon]
  split
  · dsimp only
    split
    · exact h.step
    · exact h.step
  · split
    · exact steps_malformed
    · exact steps_indicator .value _ (isIn_begun _ h)

lemma reads_readName {c : Cursor} (h : c.IsIn s) : Reads s (readName c) := by
  rw [readName]
  dsimp only
  split
  · exact reads_malformed
  · exact h.step.spanWhile isNameChar

lemma steps_takeName (t : String → Token) (h : l.cursor.IsIn s) : Steps s (l.takeName t) := by
  refine (steps_saveKey h).bind fun l' h' => ?_
  exact (reads_readName h').bind fun x hx => hx

lemma steps_takeTag (fuel : Nat) (h : l.cursor.IsIn s) : Steps s (l.takeTag fuel) := by
  refine (steps_saveKey h).bind fun l' h' => ?_
  exact (reads_readTag fuel h').bind fun x hx => hx

lemma steps_takeBlockScalar (folded : Bool) (fuel : Nat) (h : l.cursor.IsIn s) :
    Steps s (l.takeBlockScalar folded fuel) := by
  refine (steps_dropKey (l := l.allow true) h).bind fun l' h' => ?_
  exact (reads_readBlock folded l'.indent fuel (Cursor.IsIn.step h')).bind fun x hx => hx

lemma steps_takeQuoted (q : Quote) (fuel : Nat) (h : l.cursor.IsIn s) :
    Steps s (l.takeQuoted q fuel) := by
  refine (steps_saveKey h).bind fun l' h' => ?_
  exact (reads_readQuoted q fuel h').bind fun x hx => hx

lemma steps_takePlain (fuel : Nat) (h : l.cursor.IsIn s) : Steps s (l.takePlain fuel) :=
  (steps_saveKey h).bind fun _ h' => Cursor.IsIn.readWords _ _ fuel [] false h'

lemma steps_finish (h : l.cursor.IsIn s) : Steps s l.finish := by
  have hunwind : (l.unwind (-1)).cursor.IsIn s := by rwa [cursor_unwind]
  exact (steps_dropKey hunwind).bind fun l' h' => h'

/-! ### The run -/

lemma steps_takeToken (fuel : Nat) {x : Char} {r : List Char} (hrest : l.cursor.rest = x :: r)
    (h : l.cursor.IsIn s) : Steps s (l.takeToken fuel x r) := by
  rw [takeToken]
  refine Ends.ite_of (fun hsign => steps_takeDirective fuel (hsign.1 ▸ hrest) h) ?_
  refine Ends.ite (steps_takeMarker _ h) ?_
  refine Ends.ite (steps_takeMarker _ h) ?_
  refine Ends.ite (steps_takeOpening _ h) ?_
  refine Ends.ite (steps_takeOpening _ h) ?_
  refine Ends.ite (steps_takeClosing _ h) ?_
  refine Ends.ite (steps_takeClosing _ h) ?_
  refine Ends.ite (steps_takeComma h) ?_
  refine Ends.ite (steps_takeHyphen h) ?_
  refine Ends.ite (steps_takeQuestion h) ?_
  refine Ends.ite (steps_takeColon h) ?_
  refine Ends.ite (steps_takeName _ h) ?_
  refine Ends.ite (steps_takeName _ h) ?_
  refine Ends.ite (steps_takeTag fuel h) ?_
  refine Ends.ite (steps_takeBlockScalar _ fuel h) ?_
  refine Ends.ite (steps_takeBlockScalar _ fuel h) ?_
  refine Ends.ite (steps_takeQuoted _ fuel h) ?_
  refine Ends.ite (steps_takeQuoted _ fuel h) ?_
  refine Ends.ite (steps_takePlain fuel h) ?_
  exact steps_malformed

lemma isIn_skip (fuel : Nat) (h : l.cursor.IsIn s) : (l.skip fuel).cursor.IsIn s := by
  rw [skip]
  dsimp only
  apply Cursor.IsIn.skipToToken
  split
  · exact h.step
  · exact h

/-- One step finds only faults of readers, and leaves the lexer inside the text. -/
lemma ends_next (fuel : Nat) (h : l.cursor.IsIn s) :
    Ends (IsTokenFault s) (fun x => x.1.cursor.IsIn s) (l.next fuel) := by
  refine (steps_dropStale (isIn_skip fuel h)).bind fun l' h' => ?_
  have hunwind : (l'.unwind l'.cursor.column).cursor.IsIn s := by rwa [cursor_unwind]
  dsimp only
  split
  · exact (steps_finish hunwind).bind fun l'' h'' => h''
  · rename_i hrest
    exact (steps_takeToken fuel hrest hunwind).bind fun l'' h'' => h''

/-- The run over a text finds only faults of readers. -/
lemma isTokenFault_of_run (fuel : Nat) (h : l.cursor.IsIn s) {ts : List Token} {f : Fault}
    (hrun : run fuel l = (ts, some f)) : IsTokenFault s f := by
  induction fuel generalizing l with
  | zero =>
    cases hrun
    exact .malformed
  | succ fuel ih =>
    have hnext := ends_next fuel h
    rw [run] at hrun
    split at hrun
    · rename_i f' hf
      cases hrun
      exact hnext.of_error hf
    · cases hrun
    · rename_i l' hl'
      exact ih (hnext.of_ok hl') hrun

end Lexer

/-- A text that has no tree is malformed, or it has an escape that names no character. -/
theorem ends_readNodes (s : List Char) :
    Ends (IsTokenFault s) (fun _ => True) (readNodes s) := by
  rw [readNodes]
  split
  · dsimp only
    split
    · trivial
    · rename_i f hf _
      exact Lexer.isTokenFault_of_run _ (Cursor.isIn_start s) (Prod.ext rfl hf)
    · exact IsTokenFault.malformed
  · exact IsTokenFault.malformed

end CssMargin.Yaml
