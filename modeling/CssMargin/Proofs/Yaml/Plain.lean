/-
# Texts without quotes

A text that may be written without quotes is a sequence of words with blanks between them, none of
which ends with a colon or begins with a number sign.  What is written of it is read as the text,
whether or not some of the blanks were made line ends, as long as the continued lines are indented
far enough; it ends with a line after which the next is not indented far enough.
-/
import CssMargin.Proofs.Yaml.Cursor
import CssMargin.Proofs.Yaml.Stretch
import CssMargin.Yaml.Scalar.Plain
namespace CssMargin.Yaml

/-! ### Words -/

/-- Whether characters are read as one word. -/
structure PlainWord (w : List Char) : Prop where
  /-- There are some. -/
  ne_nil : w ≠ []
  /-- None of them ends a word or takes up no column. -/
  chars : ∀ c ∈ w, isSpace c = false ∧ c ≠ '\uFEFF'
  /-- The first does not begin a comment. -/
  head : w.head? ≠ some '#'
  /-- The last does not end a key. -/
  last : w.getLast? ≠ some ':'

/-- A word goes on up to the space behind it. -/
lemma plainWord_append {w r : List Char} (hw : ∀ c ∈ w, isSpace c = false)
    (hlast : w.getLast? ≠ some ':') (hr : startsWith isSpace r = true) :
    plainWord false (w ++ r) = w := by
  induction w with
  | nil =>
    cases r with
    | nil => rfl
    | cons x r =>
      have hx : isSpace x = true := hr
      rw [List.nil_append, plainWord, if_pos hx]
  | cons c w ih =>
    have hc := hw c (List.mem_cons_self ..)
    -- a colon inside the word is followed by a character of the word
    have hcolon : ¬ (c = ':' ∧ endsKey false (w ++ r) = true) := by
      rintro ⟨rfl, hends⟩
      cases w with
      | nil => exact hlast rfl
      | cons d w =>
        have hd := hw d (List.mem_cons_of_mem _ (List.mem_cons_self ..))
        simp [endsKey, startsWith, hd] at hends
    have hlast' : w.getLast? ≠ some ':' := by
      cases w with
      | nil => exact fun h => by cases h
      | cons d w => exact hlast
    rw [List.cons_append, plainWord, if_neg (by rw [hc]; decide), if_neg hcolon,
      if_neg fun h => Bool.false_ne_true h.1,
      ih (fun x hx => hw x (List.mem_cons_of_mem _ hx)) hlast']

/-! ### What stands between words -/

/-- Whether a text does not begin with a blank or a line end. -/
def NoSpaceHere (r : List Char) : Prop := ∀ x, r.head? = some x → isSpace x = false

lemma noSpaceHere_cons {x : Char} (hx : isSpace x = false) (r : List Char) :
    NoSpaceHere (x :: r) := by
  rintro _ ⟨⟩
  exact hx

section Gap

variable {c : Cursor} {r : List Char}

lemma next_blank_eq_false (hrest : c.rest = r) (hr : NoSpaceHere r) :
    c.next (· == ' ') = false := by
  rw [Cursor.next, hrest]
  cases r with
  | nil => rfl
  | cons x r =>
    have hx : x ≠ ' ' := by
      rintro rfl
      exact absurd (hr _ rfl) (by decide)
    simp [hx]

lemma takeBreak?_eq_none (hrest : c.rest = r) (hr : NoSpaceHere r) : c.takeBreak? = none := by
  cases r with
  | nil =>
    unfold Cursor.takeBreak?
    rw [hrest]
  | cons x r =>
    have hx := (isSpace_eq_false.1 (hr x rfl)).2
    exact Cursor.takeBreak?_of_not_break hrest hx

/-- Blanks at the beginning of a line are passed over. -/
lemma readPlainBreaks_blanks {m : Nat} (hrest : c.rest = List.replicate m ' ' ++ r)
    (hr : NoSpaceHere r) {fuel : Nat} (hfuel : m < fuel) :
    readPlainBreaks fuel c = (some [], c.advance m) := by
  induction m generalizing c fuel with
  | zero =>
    obtain ⟨k, rfl⟩ : ∃ k, fuel = k + 1 := ⟨fuel - 1, by omega⟩
    rw [List.replicate_zero, List.nil_append] at hrest
    rw [readPlainBreaks, next_blank_eq_false hrest hr, takeBreak?_eq_none hrest hr]
    rfl
  | succ m ih =>
    obtain ⟨k, rfl⟩ : ∃ k, fuel = k + 1 := ⟨fuel - 1, by omega⟩
    rw [List.replicate_succ, List.cons_append] at hrest
    have hnext : c.next (· == ' ') = true := by
      rw [Cursor.next, hrest]
      rfl
    rw [readPlainBreaks, if_pos hnext, ih (Cursor.rest_step_cons hrest) (by omega), Cursor.advance]

/-- Blanks between two words of a line stand for themselves. -/
lemma readPlainGap_blanks {n : Nat} {x : Char} (hrest : c.rest = List.replicate n ' ' ++ x :: r)
    (hx : isSpace x = false) (fuel : Nat) :
    readPlainGap fuel c = ⟨List.replicate n ' ', false, c.advance n⟩ := by
  have hxb := (isSpace_eq_false.1 hx).2
  have hblank : (x == ' ') = false := by
    by_contra h
    simp only [Bool.not_eq_false, beq_iff_eq] at h
    rw [h] at hx
    cases hx
  have hspan : c.spanWhile (· == ' ') =
      (List.replicate n ' ', c.advance (List.replicate n ' ').length) :=
    Cursor.spanWhile_append hrest (fun y hy => by rw [List.eq_of_mem_replicate hy]; rfl) hblank
  have hafter : (c.advance (List.replicate n ' ').length).rest = x :: r :=
    Cursor.rest_advance_append hrest
  rw [readPlainGap, hspan]
  dsimp only
  rw [Cursor.takeBreak?_of_not_break hafter hxb, List.length_replicate]

/-- A line end and the blanks of the next line stand for a blank. -/
lemma readPlainGap_line {m : Nat} (hrest : c.rest = '\n' :: (List.replicate m ' ' ++ r))
    (hr : NoSpaceHere r) (hmarker : c.step.atMarker = false) {fuel : Nat} (hfuel : m < fuel) :
    readPlainGap fuel c = ⟨[' '], true, c.step.advance m⟩ := by
  have hspan : c.spanWhile (· == ' ') = ([], c) := Cursor.spanWhile_of_not hrest (by decide)
  have hbreak : c.takeBreak? = some ('\n', c.step) :=
    Cursor.takeBreak?_of_break hrest (by decide)
  have hread := readPlainBreaks_blanks (Cursor.rest_step_cons hrest) hr hfuel
  rw [readPlainGap, hspan]
  dsimp only
  rw [hbreak]
  dsimp only
  rw [hmarker, hread]
  rfl

/-- Where the blanks of a new line lead to. -/
lemma advance_of_line {m : Nat} (hrest : c.rest = '\n' :: (List.replicate m ' ' ++ r)) :
    (c.step.advance m).rest = r ∧ (c.step.advance m).column = m := by
  have hcolumn : c.step.column = 0 := Cursor.column_step_of_break hrest (by decide)
  rw [Cursor.advance_blanks (Cursor.rest_step_cons hrest), hcolumn]
  exact ⟨rfl, Nat.zero_add m⟩

end Gap

/-! ### Words with blanks between them -/

/-- Stretches that are words with blanks between them. -/
inductive PlainStretches : List Stretch → Prop
  | one {w : List Char} (hw : PlainWord w) : PlainStretches [.word w]
  | more {w : List Char} {n : Nat} {r : List Stretch} (hw : PlainWord w) (hn : 0 < n)
      (hr : PlainStretches r) : PlainStretches (.word w :: .blanks n :: r)

lemma PlainStretches.writePlain_eq_cons {ss : List Stretch} (h : PlainStretches ss)
    (indent column : Nat) :
    ∃ x t, writePlain indent column ss = x :: t ∧ isSpace x = false ∧ x ≠ '#' := by
  have hword {w : List Char} (hw : PlainWord w) (r : List Char) :
      ∃ x t, w ++ r = x :: t ∧ isSpace x = false ∧ x ≠ '#' := by
    obtain ⟨x, w, rfl⟩ := List.exists_cons_of_ne_nil hw.ne_nil
    exact ⟨x, w ++ r, rfl, (hw.chars x (List.mem_cons_self ..)).1,
      fun hx => hw.head (congrArg some hx)⟩
  cases h with
  | one hw => exact hword hw _
  | more hw _ _ => exact hword hw _

/-- One word is read and then what stands behind it; the scalar goes on if that is a gap inside
it. -/
lemma readWords_word {w r gap : List Char} (hw : PlainWord w) (hr : startsWith isSpace r = true)
    {c : Cursor} (hrest : c.rest = w ++ r) (fuel : Nat) (crossed : Bool) (indent : Int) :
    readWords false indent (fuel + 1) gap crossed c =
      let g := readPlainGap fuel (c.advance w.length)
      if g.text.isEmpty || g.after.next (· == '#') || decide ((g.after.column : Int) < indent) then
        (gap ++ w, g.crossed, g.after)
      else
        let (more, crossed, c) := readWords false indent fuel g.text g.crossed g.after
        (gap ++ w ++ more, crossed, c) := by
  have hword : plainWord false c.rest = w := by
    rw [hrest]
    exact plainWord_append (fun c hc => (hw.chars c hc).1) hw.last hr
  have hcomment : c.next (· == '#') = false := by
    obtain ⟨x, w, rfl⟩ := List.exists_cons_of_ne_nil hw.ne_nil
    have hx : x ≠ '#' := fun hx => hw.head (congrArg some hx)
    rw [Cursor.next, hrest]
    simp [hx]
  rw [readWords, hcomment, hword]
  simp [hw.ne_nil]

/-- The same if the scalar goes on. -/
lemma readWords_gap {w r gap sep more : List Char} (hw : PlainWord w)
    (hr : startsWith isSpace r = true) {c c₁ c₂ : Cursor} (hrest : c.rest = w ++ r) {fuel : Nat}
    {crossed crossed₁ crossed₂ : Bool} {indent : Int}
    (hgap : readPlainGap fuel (c.advance w.length) = ⟨sep, crossed₁, c₁⟩) (hne : sep ≠ [])
    (hcomment : c₁.next (· == '#') = false) (hdeep : indent ≤ c₁.column)
    (hread : readWords false indent fuel sep crossed₁ c₁ = (more, crossed₂, c₂)) :
    readWords false indent (fuel + 1) gap crossed c = (gap ++ w ++ more, crossed₂, c₂) := by
  have hnot : ¬ (c₁.column : Int) < indent := by omega
  rw [readWords_word hw hr hrest, hgap]
  simp [hne, hcomment, hnot, hread]

section Written

variable {indent column : Nat} {c : Cursor} {tail : List Char}

/-- Blanks that were written between two words stand for themselves, also when a single one was
made a line end. -/
lemma exists_readPlainGap {n : Nat} (hn : 0 < n) {rs : List Stretch} (hrs : PlainStretches rs)
    (hindent : 3 ≤ indent)
    (hrest : c.rest = writePlain indent column (.blanks n :: rs) ++ '\n' :: tail)
    (hcolumn : 3 ≤ c.column) {fuel : Nat} (hfuel : c.rest.length ≤ fuel) :
    ∃ column' crossed c', readPlainGap fuel c = ⟨List.replicate n ' ', crossed, c'⟩ ∧
      c'.rest = writePlain indent column' rs ++ '\n' :: tail ∧ 3 ≤ c'.column ∧
      c'.rest.length < c.rest.length := by
  rw [writePlain] at hrest
  split at hrest
  · -- a single blank that was made a line end is read as a blank again
    rename_i hfold
    obtain ⟨x, t, hx, hspace, -⟩ := hrs.writePlain_eq_cons indent indent
    have hline : c.rest = '\n' :: (List.replicate indent ' ' ++
        (writePlain indent indent rs ++ '\n' :: tail)) := by
      rw [hrest, continuation]
      simp
    have hno : NoSpaceHere (writePlain indent indent rs ++ '\n' :: tail) := by
      rw [hx]
      exact noSpaceHere_cons hspace _
    have hmarker : c.step.atMarker = false := by
      obtain ⟨i, rfl⟩ : ∃ i, indent = i + 1 := ⟨indent - 1, by omega⟩
      exact Cursor.atMarker_eq_false (Cursor.rest_step_cons hline) (by decide)
    have hlen := congrArg List.length hline
    simp only [List.length_append, List.length_cons, List.length_replicate] at hlen
    have hroom : indent < fuel := by omega
    obtain ⟨hend, hcol⟩ := advance_of_line hline
    refine ⟨indent, true, c.step.advance indent, ?_, hend, by rw [hcol]; exact hindent, ?_⟩
    · rw [hfold.1]
      exact readPlainGap_line hline hno hmarker hroom
    · rw [hend, List.length_append, List.length_cons]
      omega
  · -- the blanks were written as they are
    obtain ⟨x, t, hx, hspace, -⟩ := hrs.writePlain_eq_cons indent (column + n)
    have hblanks : c.rest = List.replicate n ' ' ++
        (writePlain indent (column + n) rs ++ '\n' :: tail) := by
      rw [hrest, List.append_assoc]
    have hword : c.rest = List.replicate n ' ' ++ x :: (t ++ '\n' :: tail) := by
      rw [hblanks, hx]
      rfl
    have hmove := Cursor.advance_blanks hblanks
    refine ⟨column + n, false, c.advance n, readPlainGap_blanks hword hspace fuel, ?_, ?_, ?_⟩
    · rw [hmove]
    · rw [hmove]
      exact Nat.le_trans hcolumn (Nat.le_add_right _ _)
    · have hlen := congrArg List.length hblanks
      rw [List.length_append, List.length_replicate] at hlen
      rw [hmove]
      dsimp only
      omega

/-- What was written between two words begins with a blank or a line end. -/
lemma startsWith_writePlain_blanks {n : Nat} (hn : 0 < n) (rs : List Stretch) :
    startsWith isSpace (writePlain indent column (.blanks n :: rs) ++ tail) = true := by
  obtain ⟨m, rfl⟩ : ∃ m, n = m + 1 := ⟨n - 1, by omega⟩
  rw [writePlain]
  split
  · rfl
  · rfl

/-- A text that was written without quotes is read up to the next line, if that is indented less
than it would have to be. -/
theorem PlainStretches.readWords_writePlain {ss : List Stretch} (h : PlainStretches ss) {k : Nat}
    (hk : k < 3) (hindent : 3 ≤ indent) {r gap : List Char} (hr : NoSpaceHere r)
    (hmarker : ∀ c : Cursor, c.rest = List.replicate k ' ' ++ r → c.atMarker = false)
    {crossed : Bool} {fuel : Nat}
    (hrest : c.rest = writePlain indent column ss ++ '\n' :: (List.replicate k ' ' ++ r))
    (hcolumn : 3 ≤ c.column) (hfuel : c.rest.length < fuel) :
    ∃ c', readWords false 3 fuel gap crossed c = (gap ++ ss.flatMap Stretch.text, true, c') ∧
      c'.rest = r ∧ c'.column = k := by
  induction h generalizing column c gap crossed fuel with
  | @one w hw =>
    obtain ⟨fuel, rfl⟩ : ∃ f, fuel = f + 1 := ⟨fuel - 1, by omega⟩
    rw [writePlain, writePlain, List.append_nil] at hrest
    have hafter := Cursor.rest_advance_append hrest
    rw [hrest, List.length_append, List.length_cons, List.length_append,
      List.length_replicate] at hfuel
    have hroom : k < fuel := by omega
    have hgap := readPlainGap_line hafter hr (hmarker _ (Cursor.rest_step_cons hafter)) hroom
    obtain ⟨hend, hcol⟩ := advance_of_line hafter
    -- the line behind the last word is not indented far enough, which ends the scalar
    have hless : (((c.advance w.length).step.advance k).column : Int) < 3 := by
      rw [hcol]
      omega
    refine ⟨(c.advance w.length).step.advance k, ?_, hend, hcol⟩
    rw [readWords_word hw rfl hrest fuel crossed 3, hgap]
    simp [hless, Stretch.text]
  | @more w n rs hw hn hrs ih =>
    obtain ⟨fuel, rfl⟩ : ∃ f, fuel = f + 1 := ⟨fuel - 1, by omega⟩
    rw [writePlain, List.append_assoc] at hrest
    have hafter := Cursor.rest_advance_append hrest
    have hmove := Cursor.advance_of_not_break hrest fun y hy =>
      ⟨(isSpace_eq_false.1 (hw.chars y hy).1).2, (hw.chars y hy).2⟩
    have hcolumn' : 3 ≤ (c.advance w.length).column := by
      rw [hmove]
      exact Nat.le_trans hcolumn (Nat.le_add_right _ _)
    have hlen := congrArg List.length hrest
    rw [List.length_append, ← hafter] at hlen
    have hpos := List.length_pos_iff.2 hw.ne_nil
    have hfuel' : (c.advance w.length).rest.length ≤ fuel := by omega
    obtain ⟨column', crossed', c₁, hgap, hc₁, hcol₁, hless⟩ :=
      exists_readPlainGap hn hrs hindent hafter hcolumn' hfuel'
    have hfuel₁ : c₁.rest.length < fuel := by omega
    -- from the next word on, with the blanks read so far as the gap in front of it
    obtain ⟨c', hread, hc'⟩ : ∃ c', readWords false 3 fuel (List.replicate n ' ') crossed' c₁ =
        (List.replicate n ' ' ++ rs.flatMap Stretch.text, true, c') ∧ c'.rest = r ∧ c'.column = k :=
      ih hc₁ hcol₁ hfuel₁
    have hcomment : c₁.next (· == '#') = false := by
      obtain ⟨x, t, hx, -, hne⟩ := hrs.writePlain_eq_cons indent column'
      rw [Cursor.next, hc₁, hx]
      simp [hne]
    have hblanks : List.replicate n ' ' ≠ [] := by
      rw [Ne, List.replicate_eq_nil_iff]
      omega
    refine ⟨c', ?_, hc'⟩
    rw [readWords_gap hw (startsWith_writePlain_blanks hn rs) hrest hgap hblanks hcomment
      (by omega) hread]
    simp [Stretch.text]

end Written

/-! ### Texts that may be written without quotes -/

namespace ScalarStyle

/-- No colon of the text ends a word, and no number sign begins one. -/
lemma of_hasInnerIndicator {before : Char} {s : List Char}
    (h : hasInnerIndicator before s = false) :
    hasAdjacent (· == ':') isSpace s = false ∧ s.getLast? ≠ some ':' ∧
      hasAdjacent isSpace (· == '#') (before :: s) = false := by
  induction s generalizing before with
  | nil => exact ⟨rfl, by simp, rfl⟩
  | cons c r ih =>
    rw [hasInnerIndicator, Bool.or_eq_false_iff, Bool.or_eq_false_iff] at h
    obtain ⟨⟨hcolon, hsign⟩, hrest⟩ := h
    obtain ⟨hadj, hlast, hcomment⟩ := ih hrest
    refine ⟨?_, ?_, ?_⟩
    · cases r with
      | nil => rfl
      | cons d r =>
        rw [hasAdjacent, hadj, Bool.or_false]
        exact hcolon
    · cases r with
      | nil =>
        rintro ⟨⟩
        exact absurd hcolon (by decide)
      | cons d r => exact hlast
    · rw [hasAdjacent, hcomment, Bool.or_false, Bool.and_comm]
      exact hsign

end ScalarStyle

/-- Whether stretches can be written without quotes. -/
structure PlainText (ss : List Stretch) : Prop where
  /-- They are those of a text. -/
  cut : Stretch.Cut ss
  /-- There are some. -/
  ne_nil : ss ≠ []
  /-- There are no tabs, line ends and byte order marks. -/
  chars : ∀ c ∈ ss.flatMap Stretch.text, c ≠ '\t' ∧ isBreak c = false ∧ c ≠ '\uFEFF'
  /-- No colon stands before a blank. -/
  colon : ScalarStyle.hasAdjacent (· == ':') isSpace (ss.flatMap Stretch.text) = false
  /-- No number sign stands behind a blank. -/
  sign : ScalarStyle.hasAdjacent isSpace (· == '#') (ss.flatMap Stretch.text) = false
  /-- The text does not begin with a blank or a number sign. -/
  head : ∀ c, (ss.flatMap Stretch.text).head? = some c → c ≠ ' ' ∧ c ≠ '#'
  /-- The text does not end with a blank or a colon. -/
  last : ∀ c, (ss.flatMap Stretch.text).getLast? = some c → c ≠ ' ' ∧ c ≠ ':'

namespace PlainText

/-- A word in front of stretches that can be written without quotes is a word that can. -/
lemma plainWord {w : List Char} {ss : List Stretch} (h : PlainText (.word w :: ss))
    (hss : ∀ c, (ss.flatMap Stretch.text).head? = some c → isSpace c = true) : PlainWord w := by
  have hw := h.cut.head
  refine ⟨hw.1, fun c hc => ?_, fun hc => ?_, fun hc => ?_⟩
  · obtain ⟨htab, hbreak, hmark⟩ := h.chars c (List.mem_append_left _ hc)
    obtain ⟨hblank, -⟩ := hw.2 c hc
    exact ⟨by simp [isSpace, isGap, htab, hblank, hbreak], hmark⟩
  · have hhead : ((Stretch.word w :: ss).flatMap Stretch.text).head? = some '#' := by
      rw [List.flatMap_cons, List.head?_append, Stretch.text, hc]
      rfl
    exact (h.head _ hhead).2 rfl
  · obtain ⟨w', rfl⟩ : ∃ w', w = w' ++ [':'] := List.getLast?_eq_some_iff.1 hc
    have hcolon := h.colon
    have hlast := h.last
    rw [List.flatMap_cons, Stretch.text, List.append_assoc, List.singleton_append] at hcolon hlast
    cases hrest : ss.flatMap Stretch.text with
    | nil =>
      rw [hrest] at hlast
      exact (hlast ':' (by simp)).2 rfl
    | cons d r =>
      have hd := hss d (by rw [hrest]; rfl)
      rw [hrest, ScalarStyle.hasAdjacent_middle (by decide) hd] at hcolon
      cases hcolon

/-- No stretch is one of line ends. -/
lemma not_breaks {b : List Char} {ss : List Stretch} (h : PlainText ss) : .breaks b ∉ ss := by
  intro hb
  obtain ⟨hne, hbreak⟩ := h.cut.proper _ hb
  obtain ⟨x, b, rfl⟩ := List.exists_cons_of_ne_nil hne
  have hx : x ∈ ss.flatMap Stretch.text :=
    List.mem_flatMap.2 ⟨_, hb, List.mem_cons_self ..⟩
  have := hbreak x (List.mem_cons_self ..)
  rw [(h.chars x hx).2.1] at this
  cases this

/-- The first stretch is a word. -/
lemma exists_word {t : Stretch} {ss : List Stretch} (h : PlainText (t :: ss)) :
    ∃ w, t = .word w := by
  cases t with
  | word w => exact ⟨w, rfl⟩
  | breaks b => exact absurd (List.mem_cons_self ..) h.not_breaks
  | blanks n =>
    obtain ⟨k, rfl⟩ : ∃ k, n = k + 1 := ⟨n - 1, (Nat.sub_add_cancel h.cut.head).symm⟩
    exact absurd rfl (h.head ' ' rfl).1

/-- Behind a word stand blanks. -/
lemma exists_blanks {w : List Char} {u : Stretch} {ss : List Stretch}
    (h : PlainText (.word w :: u :: ss)) : ∃ n, u = .blanks (n + 1) := by
  cases u with
  | word v => exact absurd trivial (List.isChain_cons_cons.1 h.cut.chain).1
  | breaks b => exact absurd (List.mem_cons_of_mem _ (List.mem_cons_self ..)) h.not_breaks
  | blanks n => exact ⟨n - 1, by rw [Nat.sub_add_cancel h.cut.tail.head]⟩

/-- Behind these stands a text of the same sort. -/
lemma rest {w : List Char} {n : Nat} {ss : List Stretch}
    (h : PlainText (.word w :: .blanks (n + 1) :: ss)) : PlainText ss := by
  have htext : (Stretch.word w :: .blanks (n + 1) :: ss).flatMap Stretch.text =
      (w ++ List.replicate n ' ') ++ ' ' :: ss.flatMap Stretch.text := by
    rw [List.flatMap_cons, List.flatMap_cons, Stretch.text, Stretch.text, List.replicate_succ']
    simp
  have hcolon := h.colon
  have hsign := h.sign
  have hlast := h.last
  have hchars := h.chars
  rw [htext] at hcolon hsign hlast hchars
  have hne : ss ≠ [] := by
    rintro rfl
    exact (hlast ' ' (by simp)).1 rfl
  refine ⟨h.cut.tail.tail, hne, fun c hc => hchars c (by simp [hc]),
    ScalarStyle.hasAdjacent_right (x := w ++ List.replicate n ' ' ++ [' ']) (by simpa using hcolon),
    ScalarStyle.hasAdjacent_right (x := w ++ List.replicate n ' ' ++ [' ']) (by simpa using hsign),
    fun c hc => ⟨?_, ?_⟩, fun c hc => ?_⟩
  · -- a stretch that begins with a blank would be one of blanks, next to another one
    rintro rfl
    obtain ⟨v, r, rfl⟩ := List.exists_cons_of_ne_nil hne
    obtain ⟨x, s, hx⟩ := Stretch.exists_text_eq_cons h.cut.tail.tail.head
    rw [List.flatMap_cons, hx] at hc
    cases hc
    have hmem : ' ' ∈ v.text := by rw [hx]; exact List.mem_cons_self ..
    cases v with
    | blanks => exact (List.isChain_cons_cons.1 h.cut.tail.chain).1 trivial
    | word v => exact (h.cut.tail.tail.head.2 ' ' hmem).1 rfl
    | breaks v => exact absurd (h.cut.tail.tail.head.2 ' ' hmem) (by decide)
  · rintro rfl
    cases hr : ss.flatMap Stretch.text with
    | nil =>
      rw [hr] at hc
      cases hc
    | cons d s =>
      rw [hr] at hc
      cases hc
      rw [hr, ScalarStyle.hasAdjacent_middle (by decide) (by decide)] at hsign
      cases hsign
  · refine hlast c ?_
    rw [List.getLast?_append, List.getLast?_cons, hc]
    rfl

/-- Such stretches are words with blanks between them. -/
theorem plainStretches {ss : List Stretch} (h : PlainText ss) : PlainStretches ss := by
  match ss, h with
  | [], h => exact absurd rfl h.ne_nil
  | [t], h =>
    obtain ⟨w, rfl⟩ := h.exists_word
    exact .one (h.plainWord fun c hc => by cases hc)
  | t :: u :: ss, h =>
    obtain ⟨w, rfl⟩ := h.exists_word
    obtain ⟨n, rfl⟩ := h.exists_blanks
    have hword : PlainWord w := by
      refine h.plainWord fun c hc => ?_
      rw [List.flatMap_cons, Stretch.text, List.replicate_succ] at hc
      cases hc
      decide
    exact .more hword (Nat.succ_pos n) (plainStretches h.rest)

end PlainText

end CssMargin.Yaml
