/-
# Lines with a key and a value

A line of a block mapping has a key, a colon and a scalar.  The key fills its slot as soon as the
colon is read; the scalar goes on up to the next line, in whatever style it was written.  After
it the lexer stands, but for blanks, at the beginning of the next line.
-/
import CssMargin.Proofs.Yaml.Steps
namespace CssMargin.Yaml

namespace Lexer

/-! ### Keys -/

/-- Characters that are written as a key. -/
structure KeyText (w : List Char) : Prop where
  /-- There are some. -/
  ne_nil : w ≠ []
  /-- They are letters of ASCII. -/
  alpha : ∀ c ∈ w, c.isAlpha = true
  /-- There are not too many. -/
  short : w.length ≤ keyReach

instance (w : List Char) : Decidable (KeyText w) :=
  decidable_of_iff (w ≠ [] ∧ w.all Char.isAlpha = true ∧ w.length ≤ keyReach)
    ⟨fun ⟨h, h', h''⟩ => ⟨h, List.all_eq_true.1 h', h''⟩,
      fun ⟨h, h', h''⟩ => ⟨h, List.all_eq_true.2 h', h''⟩⟩

lemma of_isAlpha {c : Char} (h : c.isAlpha = true) :
    isSpace c = false ∧ ScalarStyle.isLeadingIndicator c = false ∧ c ≠ ':' ∧ c ≠ '?' ∧ c ≠ '-' ∧
      c ≠ '.' ∧ c ≠ '\uFEFF' ∧ c ≠ '#' := by
  have hne {y : Char} (hy : y.isAlpha = false) : c ≠ y := by
    rintro rfl
    rw [h] at hy
    cases hy
  refine ⟨?_, ?_, hne rfl, hne rfl, hne rfl, hne rfl, hne rfl, hne rfl⟩
  · simp [isSpace, isGap, isBreak, hne (y := ' ') rfl, hne (y := '\t') rfl, hne (y := '\n') rfl,
      hne (y := '\u0085') rfl, hne (y := '\u2028') rfl, hne (y := '\u2029') rfl]
  · rw [ScalarStyle.isLeadingIndicator, List.contains_eq_mem, decide_eq_false_iff_not]
    intro hc
    have hall : ∀ y ∈ "#,[]\x7b\x7d&*!|>'\"%@`".toList, y.isAlpha = false :=
      List.all_iff_forall_prop.1 (by decide)
    exact hne (hall c hc) rfl

lemma plainWord_key {w r : List Char} (hw : ∀ c ∈ w, c.isAlpha = true)
    (hr : startsWith isSpace r = true) : plainWord false (w ++ ':' :: r) = w := by
  induction w with
  | nil =>
    have hends : endsKey false r = true := by
      cases r with
      | nil => rfl
      | cons x r =>
        have hx : isSpace x = true := hr
        simp [endsKey, startsWith, hx]
    rw [List.nil_append, plainWord, if_neg (by decide), if_pos ⟨rfl, hends⟩]
  | cons c w ih =>
    obtain ⟨hspace, -, hcolon, -⟩ := of_isAlpha (hw c (List.mem_cons_self ..))
    rw [List.cons_append, plainWord, if_neg (by rw [hspace]; decide), if_neg fun h => hcolon h.1,
      if_neg fun h => Bool.false_ne_true h.1, ih fun x hx => hw x (List.mem_cons_of_mem _ hx)]

/-- A key is read up to its colon. -/
lemma readPlain_key {w r : List Char} (hw : KeyText w) (hr : startsWith isSpace r = true)
    {c : Cursor} (hrest : c.rest = w ++ ':' :: r) (indent : Int) (fuel : Nat) :
    readPlain false indent (fuel + 1) c = (w, false, c.advance w.length) := by
  have hcomment : c.next (· == '#') = false := by
    obtain ⟨x, w, rfl⟩ := List.exists_cons_of_ne_nil hw.ne_nil
    have hx := (of_isAlpha (hw.alpha x (List.mem_cons_self ..))).2.2.2.2.2.2.2
    rw [Cursor.next, hrest]
    simp [hx]
  have hword : plainWord false c.rest = w := by
    rw [hrest]
    exact plainWord_key hw.alpha hr
  have hafter := Cursor.rest_advance_append hrest
  have hspan : (c.advance w.length).spanWhile (· == ' ') = ([], c.advance w.length) :=
    Cursor.spanWhile_of_not hafter (by decide)
  have hgap : readPlainGap fuel (c.advance w.length) = ⟨[], false, c.advance w.length⟩ := by
    rw [readPlainGap, hspan]
    dsimp only
    rw [Cursor.takeBreak?_of_not_break hafter (by decide)]
  rw [readPlain, readWords, hcomment, hword]
  simp [hw.ne_nil, hgap]

/-- Where a key stands, a scalar without quotes is read, and the place is kept for a key. -/
lemma next_key {c : Cursor} {items : List Item} {fresh : Nat} {indent : Int} {indents : List Int}
    {w r : List Char} (hw : KeyText w) (hrest : c.rest = w ++ ':' :: r)
    (hr : startsWith isSpace r = true) (hindent : indent ≤ c.column) (fuel : Nat) :
    (⟨c, items, fresh, indent, indents, 0, true, []⟩ : Lexer).next (fuel + 1) =
      .ok (⟨c.advance w.length, .token (.scalar w true) :: .slot fresh :: items, fresh + 1, indent,
        indents, 0, false, [⟨0, fresh, indent == (c.column : Int), c.line, c.column, c.index⟩]⟩,
        false) := by
  obtain ⟨x, w', rfl⟩ := List.exists_cons_of_ne_nil hw.ne_nil
  obtain ⟨hspace, hindicator, hcolon, hquestion, hhyphen, hpoint, hmark, hcomment⟩ :=
    of_isAlpha (hw.alpha x (List.mem_cons_self ..))
  have hrest' : c.rest = x :: (w' ++ ':' :: r) := hrest
  have hskip := skip_of_skipToToken (l := ⟨c, items, fresh, indent, indents, 0, true, []⟩)
    (next_mark_eq_false hrest' hmark) (skipToToken_here hrest' hspace hcomment false fuel)
  have hstart : StartsPlain x (w' ++ ':' :: r) :=
    ⟨hspace, hindicator, fun h => by
      rcases h with h | h | h
      · exact absurd h hquestion
      · exact absurd h hcolon
      · exact absurd h hhyphen⟩
  refine next_of_takeToken hskip rfl hrest' hindent ?_
  rw [takeToken_plain rfl hrest' hstart fun _ => ⟨hhyphen, hpoint⟩]
  have hsave : (⟨c, items, fresh, indent, indents, 0, true, []⟩ : Lexer).saveKey =
      .ok ⟨c, .slot fresh :: items, fresh + 1, indent, indents, 0, true,
        [⟨0, fresh, indent == (c.column : Int), c.line, c.column, c.index⟩]⟩ := rfl
  exact takePlain_of_saveKey hsave (readPlain_key hw hr hrest (indent + 1) fuel)

lemma takeToken_colon {l : Lexer} {r : List Char} (hlevel : l.level = 0)
    (hrest : l.cursor.rest = ':' :: r) (hr : startsWith isSpace r = true) (fuel : Nat) :
    l.takeToken fuel ':' r = l.takeColon := by
  have hmarker := Cursor.atMarker_eq_false hrest (by decide)
  rw [Cursor.atMarker, Bool.or_eq_false_iff] at hmarker
  unfold takeToken
  simp [hmarker.1, hmarker.2, hlevel, hr]

/-- The colon behind a key makes its place the beginning of a key, and of a mapping if the key
stands further in. -/
lemma next_colon {c c₀ : Cursor} {s : Token} {items : List Item} {fresh : Nat} {indent : Int}
    {indents : List Int} {required : Bool} {r : List Char} (hrest : c.rest = ':' :: r)
    (hr : startsWith isSpace r = true) (hindent : indent ≤ c.column) (hline : c.line = c₀.line)
    (hreach : c.index - c₀.index ≤ keyReach) (opens : Bool)
    (hopens : decide (indent < (c₀.column : Int)) = opens) (fuel : Nat) :
    (⟨c, .token s :: .slot fresh :: items, fresh + 1, indent, indents, 0, false,
        [⟨0, fresh, required, c₀.line, c₀.column, c₀.index⟩]⟩ : Lexer).next (fuel + 1) =
      .ok (⟨c.step, .token .value :: .token s ::
        ((if opens then [Token.key, .blockMappingStart] else [.key]).map Item.token ++ items),
        fresh + 1, if opens then c₀.column else indent,
        if opens then indent :: indents else indents, 0, false, []⟩, false) := by
  have hskip := skip_of_skipToToken (l := ⟨c, .token s :: .slot fresh :: items, fresh + 1, indent,
    indents, 0, false, [⟨0, fresh, required, c₀.line, c₀.column, c₀.index⟩]⟩)
    (next_mark_eq_false hrest (by decide))
    (skipToToken_here hrest (by decide) (by decide) false fuel)
  -- the place is on the same line and near enough to become a key
  have hfresh : isStale c ⟨0, fresh, required, c₀.line, c₀.column, c₀.index⟩ = false := by
    have hnot : ¬ keyReach < c.index - c₀.index := by omega
    simp [isStale, hline, hnot]
  have hstale : (⟨c, .token s :: .slot fresh :: items, fresh + 1, indent, indents, 0, false,
      [⟨0, fresh, required, c₀.line, c₀.column, c₀.index⟩]⟩ : Lexer).dropStale =
        .ok ⟨c, .token s :: .slot fresh :: items, fresh + 1, indent, indents, 0, false,
          [⟨0, fresh, required, c₀.line, c₀.column, c₀.index⟩]⟩ := by
    simp [dropStale, hfresh]
  refine next_of_takeToken hskip hstale hrest hindent ?_
  rw [takeToken_colon rfl hrest hr]
  subst hopens
  by_cases hdeep : indent < (c₀.column : Int)
  · simp [takeColon, key?, isDeeper, hdeep, fillSlot, pushIndent, emit, moveTo]
  · simp [takeColon, key?, isDeeper, hdeep, fillSlot, emit, moveTo]

/-- What is yielded after the colon of a key is yielded before the key. -/
lemma yields_key {c : Cursor} {items : List Item} {fresh : Nat} {indent : Int} {indents : List Int}
    {w r : List Char} {ts : List Token} (hw : KeyText w) (hrest : c.rest = w ++ ':' :: r)
    (hr : startsWith isSpace r = true) (hindent : indent ≤ c.column) (opens : Bool)
    (hopens : decide (indent < (c.column : Int)) = opens)
    (h : ∀ c' : Cursor, c'.rest = r → c'.column = c.column + w.length + 1 →
      Yields ⟨c', .token .value :: .token (.scalar w true) ::
        ((if opens then [Token.key, .blockMappingStart] else [.key]).map Item.token ++ items),
        fresh + 1, if opens then c.column else indent, if opens then indent :: indents else indents,
        0, false, []⟩ ts) :
    Yields ⟨c, items, fresh, indent, indents, 0, true, []⟩ ts := by
  have hmove : c.advance w.length =
      ⟨':' :: r, c.line, c.column + w.length, c.index + w.length⟩ := by
    refine Cursor.advance_of_not_break hrest fun y hy => ?_
    have hy := of_isAlpha (hw.alpha y hy)
    exact ⟨(isSpace_eq_false.1 hy.1).2, hy.2.2.2.2.2.2.1⟩
  have hafter : (c.advance w.length).rest = ':' :: r := by rw [hmove]
  have hstep : (c.advance w.length).step =
      ⟨r, c.line, c.column + w.length + 1, c.index + w.length + 1⟩ := by
    rw [Cursor.step_of_not_break hafter (by decide) (by decide), hmove]
  have hshort := hw.short
  have hpos := List.length_pos_iff.2 hw.ne_nil
  -- the first step reads a scalar, and the second one finds out that it is a key
  refine yields_of_next fun fuel hfuel => ⟨_, next_key hw hrest hr hindent fuel, ?_, ?_⟩
  · dsimp only
    rw [hafter, hrest, List.length_append]
    omega
  · refine yields_of_next fun fuel hfuel => ⟨_, next_colon hafter hr ?_ ?_ ?_ opens hopens fuel,
      ?_, ?_⟩
    · rw [hmove]
      dsimp only
      omega
    · rw [hmove]
    · rw [hmove]
      dsimp only
      omega
    · dsimp only
      rw [hstep, hafter, List.length_cons]
      exact Nat.lt_succ_self _
    · refine h _ ?_ ?_
      · rw [hstep]
      · rw [hstep]

/-! ### Values -/

/-- Blanks at the beginning of a line, and what follows them, after which a scalar that is indented
further cannot go on. -/
structure LineStart (k : Nat) (r : List Char) : Prop where
  /-- There are few blanks. -/
  shallow : k < 3
  /-- They are all the blanks. -/
  noSpace : NoSpaceHere r
  /-- No comment follows. -/
  noComment : r.head? ≠ some '#'
  /-- No byte order mark follows. -/
  noMark : r.head? ≠ some '\uFEFF'
  /-- The line is no marker of a document. -/
  noMarker : ∀ c : Cursor, c.rest = List.replicate k ' ' ++ r → c.atMarker = false

lemma LineStart.next_mark_eq_false {k : Nat} {r : List Char} (h : LineStart k r) {c : Cursor}
    (hrest : c.rest = r) : c.next (· == '\uFEFF') = false := by
  cases r with
  | nil =>
    rw [Cursor.next, hrest]
    rfl
  | cons x r => exact Lexer.next_mark_eq_false hrest fun e => h.noMark (congrArg some e)

/-- Where a line goes on after its blanks, nothing more is passed over. -/
lemma skip_here {l : Lexer} {k : Nat} {r : List Char} (hr : LineStart k r)
    (hrest : l.cursor.rest = r) (fuel : Nat) : l.skip (fuel + 1) = l := by
  have hhere := skipToToken_blanks (n := 0) hrest hr.noSpace hr.noComment false (Nat.succ_pos fuel)
  rw [skip_of_skipToToken (hr.next_mark_eq_false hrest) hhere]
  simp [Cursor.advance]

/-- Outside brackets, where a line begins a key may begin. -/
lemma yields_line {c : Cursor} {items : List Item} {fresh : Nat} {indent : Int} {indents : List Int}
    {allowKey : Bool} {k : Nat} {r : List Char} {ts : List Token} (hr : LineStart k r)
    (hrest : c.rest = '\n' :: (List.replicate k ' ' ++ r))
    (h : ∀ c' : Cursor, c'.rest = r → c'.column = k →
      Yields ⟨c', items, fresh, indent, indents, 0, true, []⟩ ts) :
    Yields ⟨c, items, fresh, indent, indents, 0, allowKey, []⟩ ts := by
  obtain ⟨hend, hcol⟩ := advance_of_line hrest
  have hafter := h _ hend hcol
  refine yields_of_skip ?_ (fun fuel hfuel => ?_) ?_ hafter
  · dsimp only
    rw [hrest]
    exact List.cons_ne_nil _ _
  · -- on both sides the lexer comes to the first token of the line
    have hline := skipToToken_line hrest hr.noSpace hr.noComment false hfuel
    obtain ⟨j, rfl⟩ : ∃ j, fuel = j + 1 := ⟨fuel - 1, by omega⟩
    rw [skip_of_skipToToken (Lexer.next_mark_eq_false hrest (by decide)) hline,
      skip_here hr hend j]
    simp
  · dsimp only
    rw [hend, hrest]
    simp only [List.length_cons, List.length_append]
    omega

section Value

variable {c : Cursor} {items : List Item} {fresh k : Nat} {indents : List Int} {r : List Char}
  {ts : List Token}

/-- In front of a value there is a blank, after which it is taken. -/
lemma next_value {x : Char} {s : List Char} {l : Lexer} (hrest : c.rest = ' ' :: x :: s)
    (hcolumn : 2 ≤ c.column) (hx : isSpace x = false) (hcomment : x ≠ '#') {fuel : Nat}
    (htake : (⟨⟨x :: s, c.line, c.column + 1, c.index + 1⟩, items, fresh, 2, indents, 0, false,
      []⟩ : Lexer).takeToken (fuel + 1) x s = .ok l) :
    (⟨c, items, fresh, 2, indents, 0, false, []⟩ : Lexer).next (fuel + 1) = .ok (l, false) := by
  have hto : skipToToken (fuel + 1) false c = (false, c.advance 1) :=
    skipToToken_blanks (n := 1) hrest (noSpaceHere_cons hx s) (by simpa using hcomment) false
      (Nat.succ_pos _)
  have hstep : c.advance 1 = ⟨x :: s, c.line, c.column + 1, c.index + 1⟩ :=
    Cursor.step_of_not_break hrest (by decide) (by decide)
  rw [hstep] at hto
  have hskip := skip_of_skipToToken (l := ⟨c, items, fresh, 2, indents, 0, false, []⟩)
    (next_mark_eq_false hrest (by decide)) hto
  refine next_of_takeToken hskip rfl rfl ?_ htake
  dsimp only
  omega

/-- A word begins as a scalar without quotes does, if it has no leading indicator with what follows
it in the text; what follows it when written may be something else. -/
lemma startsPlain_word {w s : List Char} (hw : PlainWord w)
    (hlead : ScalarStyle.hasLeadingIndicator (w ++ s) = false) (hs : startsWith isSpace s = true)
    (t : List Char) : ∃ x t', w ++ t = x :: t' ∧ StartsPlain x t' ∧ x ≠ '#' := by
  obtain ⟨x, w, rfl⟩ := List.exists_cons_of_ne_nil hw.ne_nil
  rw [List.cons_append, ScalarStyle.hasLeadingIndicator, Bool.or_eq_false_iff] at hlead
  refine ⟨x, w ++ t, rfl, ⟨(hw.chars x (List.mem_cons_self ..)).1, hlead.1, fun hsign => ?_⟩,
    fun hx => hw.head (congrArg some hx)⟩
  cases w with
  | nil =>
    -- a sign alone would be an indicator in the text as well
    rw [List.nil_append, hs, Bool.and_true] at hlead
    have hnot := hlead.2
    simp only [Bool.or_eq_false_iff, beq_eq_false_iff_ne] at hnot
    rcases hsign with h | h | h
    · exact absurd h hnot.1.1
    · exact absurd h hnot.1.2
    · exact absurd h hnot.2
  | cons d w => exact (hw.chars d (List.mem_cons_of_mem _ (List.mem_cons_self ..))).1

/-- What is written without quotes begins as a scalar without quotes does. -/
lemma startsPlain_writePlain {ss : List Stretch} (h : PlainStretches ss)
    (hlead : ScalarStyle.hasLeadingIndicator (ss.flatMap Stretch.text) = false)
    (indent column : Nat) (tail : List Char) :
    ∃ x t, writePlain indent column ss ++ '\n' :: tail = x :: t ∧ StartsPlain x t ∧ x ≠ '#' := by
  cases h with
  | one hw =>
    rw [writePlain, List.append_assoc]
    exact startsPlain_word (s := []) hw (by simpa [Stretch.text] using hlead) rfl _
  | @more w n rs hw hn hrs =>
    obtain ⟨m, rfl⟩ : ∃ m, n = m + 1 := ⟨n - 1, by omega⟩
    rw [writePlain, List.append_assoc]
    exact startsPlain_word (s := List.replicate (m + 1) ' ' ++ rs.flatMap Stretch.text) hw
      (by simpa [Stretch.text] using hlead) rfl _

/-- A scalar without quotes is one token. -/
lemma yields_plain {ss : List Stretch} (hss : PlainStretches ss)
    (hlead : ScalarStyle.hasLeadingIndicator (ss.flatMap Stretch.text) = false)
    (hr : LineStart k r) {column : Nat}
    (hrest : c.rest = ' ' :: (writePlain 4 column ss ++ '\n' :: (List.replicate k ' ' ++ r)))
    (hcolumn : 2 ≤ c.column)
    (h : ∀ c' : Cursor, c'.rest = r → c'.column = k →
      Yields ⟨c', .token (.scalar (ss.flatMap Stretch.text : List Char) true) :: items, fresh, 2,
        indents, 0, true, []⟩ ts) :
    Yields ⟨c, items, fresh, 2, indents, 0, false, []⟩ ts := by
  obtain ⟨x, t, htext, hstart, hcomment⟩ := startsPlain_writePlain hss hlead 4 column
    (List.replicate k ' ' ++ r)
  refine yields_of_next fun fuel hfuel => ?_
  have hfirst : c.rest = ' ' :: x :: t := by rw [hrest, htext]
  have hroom : (x :: t).length < fuel + 1 := by
    rw [hfirst] at hfuel
    exact Nat.lt_succ_of_le (Nat.le_of_succ_le hfuel)
  have hdeep : 3 ≤ c.column + 1 := by omega
  obtain ⟨c', hread, hc', hcol⟩ : ∃ c', readWords false 3 (fuel + 1) [] false
      ⟨x :: t, c.line, c.column + 1, c.index + 1⟩ = ([] ++ ss.flatMap Stretch.text, true, c') ∧
        c'.rest = r ∧ c'.column = k :=
    hss.readWords_writePlain hr.shallow (by decide) hr.noSpace hr.noMarker htext.symm hdeep hroom
  refine ⟨_, next_value hfirst hcolumn hstart.noSpace hcomment ?_, ?_, h c' hc' hcol⟩
  · -- no key may begin behind a key, so that no place is kept for one
    rw [takeToken_plain rfl rfl hstart (fun h => absurd h (Nat.succ_ne_zero _))]
    exact takePlain_of_saveKey (saveKey_of_not_allowKey rfl) hread
  · dsimp only
    rw [hc', hrest]
    simp only [List.length_cons, List.length_append]
    omega

lemma takeToken_quote (q : Quote) {l : Lexer} {r : List Char} (hrest : l.cursor.rest = q.char :: r)
    (fuel : Nat) : l.takeToken fuel q.char r = l.takeQuoted q fuel := by
  have hmarker : l.cursor.atMarker = false :=
    Cursor.atMarker_eq_false hrest (by cases q <;> decide)
  rw [Cursor.atMarker, Bool.or_eq_false_iff] at hmarker
  unfold takeToken
  cases q with
  | single => simp [hmarker.1, hmarker.2, Quote.char]
  | double => simp [hmarker.1, hmarker.2, Quote.char]

lemma yields_quoted {q : Quote} {t : List Char} {xs : List Point} (ht : ReadsBetween q t xs)
    (hr : LineStart k r)
    (hrest : c.rest = ' ' :: q.char :: (t ++ q.char :: '\n' :: (List.replicate k ' ' ++ r)))
    (hcolumn : 2 ≤ c.column)
    (h : ∀ c' : Cursor, c'.rest = r → c'.column = k →
      Yields ⟨c', .token (.scalar xs false) :: items, fresh, 2, indents, 0, true, []⟩ ts) :
    Yields ⟨c, items, fresh, 2, indents, 0, false, []⟩ ts := by
  have hquote : q.char ≠ '#' := by cases q <;> decide
  have hmark : q.char ≠ '\uFEFF' := by cases q <;> decide
  refine yields_of_next fun fuel hfuel => ?_
  have hlen := hfuel
  rw [hrest] at hlen
  simp only [List.length_cons, List.length_append] at hlen
  obtain ⟨c₁, hread, hc₁⟩ := ht ('\n' :: (List.replicate k ' ' ++ r))
    (Cursor.step ⟨q.char :: (t ++ q.char :: '\n' :: (List.replicate k ' ' ++ r)), c.line,
      c.column + 1, c.index + 1⟩) (fuel + 1) (by simp) (Cursor.rest_step_cons rfl) (by omega)
  refine ⟨⟨c₁, .token (.scalar xs false) :: items, fresh, 2, indents, 0, false, []⟩,
    next_value hrest hcolumn (isSpace_quote q) hquote ?_, ?_, ?_⟩
  · rw [takeToken_quote q rfl]
    exact takeQuoted_of_saveKey (saveKey_of_not_allowKey rfl) hread
  · dsimp only
    rw [hc₁, hrest]
    simp only [List.length_cons, List.length_append]
    omega
  · exact yields_line hr hc₁ h

/-- The token of a text that was written as a scalar. -/
def scalarToken (t : Text) : Token := .scalar (rereadText t).points (isBare t)

/-- Between quotation marks a text is one token, with all its points. -/
lemma yields_doubleQuoted (s : List Point) (hr : LineStart k r) {column : Nat}
    (hrest : c.rest = ' ' :: ('"' :: writeDouble 4 true false column s ++ ['"'] ++
      '\n' :: (List.replicate k ' ' ++ r)))
    (hcolumn : 2 ≤ c.column)
    (h : ∀ c' : Cursor, c'.rest = r → c'.column = k →
      Yields ⟨c', .token (.scalar s false) :: items, fresh, 2, indents, 0, true, []⟩ ts) :
    Yields ⟨c, items, fresh, 2, indents, 0, false, []⟩ ts := by
  have hfour : 0 < 4 := by decide
  have hread := readsBetween_writeDouble hfour (by decide) s true false column
  refine yields_quoted hread hr ?_ hcolumn h
  rw [hrest]
  simp [Quote.char]

/-- Characters that were written in the style that they allow are one token. -/
lemma yields_characters (s : List Char) (hr : LineStart k r) {column : Nat}
    (hrest : c.rest = ' ' :: (writeIn (ScalarStyle.ofText s) 4 column s ++
      '\n' :: (List.replicate k ' ' ++ r)))
    (hcolumn : 2 ≤ c.column)
    (h : ∀ c' : Cursor, c'.rest = r → c'.column = k →
      Yields ⟨c', .token (.scalar (reread s : List Char) (ScalarStyle.ofText s == .plain)) :: items,
        fresh, 2, indents, 0, true, []⟩ ts) :
    Yields ⟨c, items, fresh, 2, indents, 0, false, []⟩ ts := by
  unfold reread at h
  cases hstyle : ScalarStyle.ofText s with
  | plain =>
    rw [hstyle] at h hrest
    obtain ⟨x, s, rfl⟩ := ScalarStyle.eq_cons_of_ofText_eq_plain hstyle
    have hallows := (ScalarStyle.of_ofText_eq_plain hstyle).2
    have hplain := ScalarStyle.plainText_ofText hallows
    have hlead := (ScalarStyle.of_allowsPlain hallows).1
    have htext := (Stretch.ofText_spec (x :: s)).2
    refine yields_plain hplain.plainStretches (by rw [htext]; exact hlead) hr hrest hcolumn
      fun c' hc' hcol => ?_
    rw [htext]
    exact h c' hc' hcol
  | single =>
    rw [hstyle] at h hrest
    have hfour : 0 < 4 := by decide
    have hread := (ScalarStyle.singleStretches_ofText
      (ScalarStyle.of_ofText_eq_single hstyle)).readsBetween_writeSingle hfour true (column + 1)
    refine yields_quoted hread hr ?_ hcolumn h
    rw [hrest, writeIn]
    simp [Quote.char]
  | double =>
    rw [hstyle] at h hrest
    exact yields_doubleQuoted _ hr hrest hcolumn h

/-- **Values.**  What is yielded at the beginning of the next line, after the token of a text that
was written as a scalar, is yielded in front of the scalar. -/
theorem yields_scalar (t : Text) (hr : LineStart k r) {column : Nat}
    (hrest : c.rest = ' ' :: (writeScalar 4 column t ++ '\n' :: (List.replicate k ' ' ++ r)))
    (hcolumn : 2 ≤ c.column)
    (h : ∀ c' : Cursor, c'.rest = r → c'.column = k →
      Yields ⟨c', .token (scalarToken t) :: items, fresh, 2, indents, 0, true, []⟩ ts) :
    Yields ⟨c, items, fresh, 2, indents, 0, false, []⟩ ts := by
  obtain ⟨head, tail⟩ := t
  cases tail with
  | nil =>
    refine yields_characters head.toList hr hrest hcolumn fun c' hc' hcol => ?_
    have hyields := h c' hc' hcol
    rw [scalarToken, rereadText, Text.points_coe, String.toList_ofList] at hyields
    exact hyields
  | cons x r => exact yields_doubleQuoted _ hr hrest hcolumn h

end Value

/-! ### Items -/

section Item

variable {c : Cursor} {items : List Item} {fresh : Nat} {ts : List Token}

lemma dropStale_of_keys {l : Lexer} (hkeys : l.keys = []) : l.dropStale = .ok l := by
  cases l
  cases hkeys
  rfl

/-- Without places that may become keys, two lexers that come to the same after the collections
that are over have ended do the same. -/
lemma next_eq_of_unwind {l₁ l₂ l : Lexer} {fuel : Nat} (hskip₁ : l₁.skip fuel = l₁)
    (hskip₂ : l₂.skip fuel = l₂) (hkeys₁ : l₁.keys = []) (hkeys₂ : l₂.keys = [])
    (hunwind₁ : l₁.unwind l₁.cursor.column = l) (hunwind₂ : l₂.unwind l₂.cursor.column = l) :
    l₁.next fuel = l₂.next fuel := by
  rw [next, next, hskip₁, hskip₂, dropStale_of_keys hkeys₁, dropStale_of_keys hkeys₂, ok_bind,
    ok_bind]
  dsimp only
  rw [hunwind₁, hunwind₂]

lemma next_of_nil {l : Lexer} {fuel : Nat} (hskip : l.skip fuel = l) (hkeys : l.keys = [])
    (hunwind : l.unwind l.cursor.column = l) (hrest : l.cursor.rest = []) :
    l.next fuel = (do
      let l ← l.finish
      .ok (l, true)) := by
  rw [next, hskip, dropStale_of_keys hkeys, ok_bind]
  dsimp only
  rw [hunwind, hrest]

/-- A blank in front of a token is passed over. -/
lemma yields_blank {x : Char} {r : List Char} {indent : Int} {indents : List Int} {allowKey : Bool}
    (hrest : c.rest = ' ' :: x :: r) (hx : isSpace x = false) (hcomment : x ≠ '#')
    (hmark : x ≠ '\uFEFF')
    (h : Yields ⟨c.step, items, fresh, indent, indents, 0, allowKey, []⟩ ts) :
    Yields ⟨c, items, fresh, indent, indents, 0, allowKey, []⟩ ts := by
  have hstep : c.step.rest = x :: r := Cursor.rest_step_cons hrest
  refine yields_of_skip ?_ (fun fuel hfuel => ?_) ?_ h
  · dsimp only
    rw [hrest]
    exact List.cons_ne_nil _ _
  · obtain ⟨j, rfl⟩ : ∃ j, fuel = j + 1 := ⟨fuel - 1, by omega⟩
    have hblank : skipToToken (j + 1) false c = (false, c.advance 1) :=
      skipToToken_blanks hrest (noSpaceHere_cons hx r) (by simpa using hcomment) false
        (Nat.succ_pos _)
    rw [skip_of_skipToToken (next_mark_eq_false hrest (by decide)) hblank,
      skip_of_skipToToken (next_mark_eq_false hstep hmark)
        (skipToToken_here hstep hx hcomment false j)]
    rfl
  · dsimp only
    rw [hstep, hrest]
    exact Nat.le_succ _

lemma atThree_hyphen {r : List Char} (hrest : c.rest = '-' :: ' ' :: r) :
    c.atThree '-' = false ∧ c.atThree '.' = false := by
  unfold Cursor.atThree
  rw [hrest]
  cases r <;> simp

/-- A hyphen in the column of the mapping around it begins an item. -/
lemma yields_hyphen {x : Char} {r : List Char} (hcolumn : c.column = 0)
    (hrest : c.rest = '-' :: ' ' :: x :: r) (hx : isSpace x = false) (hcomment : x ≠ '#')
    (hmark : x ≠ '\uFEFF')
    (h : ∀ c' : Cursor, c'.rest = x :: r → c'.column = 2 →
      Yields ⟨c', .token .blockEntry :: items, fresh, 0, [-1], 0, true, []⟩ ts) :
    Yields ⟨c, items, fresh, 0, [-1], 0, true, []⟩ ts := by
  have hstep : c.step = ⟨' ' :: x :: r, c.line, 1, c.index + 1⟩ := by
    rw [Cursor.step_of_not_break hrest (by decide) (by decide), hcolumn]
  have hthree := atThree_hyphen hrest
  -- the indentation does not grow, so that no list is opened
  have htake (fuel : Nat) : (⟨c, items, fresh, 0, [-1], 0, true, []⟩ : Lexer).takeToken fuel '-'
      (' ' :: x :: r) =
        .ok ⟨c.step, .token .blockEntry :: items, fresh, 0, [-1], 0, true, []⟩ := by
    have halone : startsWith isSpace (' ' :: x :: r) = true := by
      change isSpace ' ' = true
      decide
    unfold takeToken
    simp [hthree.1, hthree.2, halone, takeHyphen, openBlock, isDeeper, hcolumn, allow, dropKey,
      key?, emit, moveTo]
  have hskip (fuel : Nat) := skip_of_skipToToken
    (l := ⟨c, items, fresh, 0, [-1], 0, true, []⟩) (next_mark_eq_false hrest (by decide))
    (skipToToken_here hrest (by decide) (by decide) false fuel)
  have hbehind : c.step.rest = ' ' :: x :: r := by rw [hstep]
  have hnext : c.step.step = ⟨x :: r, c.line, 2, c.index + 2⟩ := by
    rw [hstep]
    exact Cursor.step_of_not_break rfl (by decide) (by decide)
  have hitem := h c.step.step (by rw [hnext]) (by rw [hnext])
  refine yields_of_next fun fuel hfuel => ⟨_, next_of_takeToken (hskip fuel) rfl hrest
    (by dsimp only; omega) (htake (fuel + 1)), ?_, yields_blank hbehind hx hcomment hmark hitem⟩
  dsimp only
  rw [hstep, hrest]
  exact Nat.lt_succ_self _

/-- A mapping ends where the text falls back to the column of the mapping around it. -/
lemma yields_outdent {r : List Char} (hcolumn : c.column = 0) (hr : LineStart 0 r)
    (hrest : c.rest = r)
    (h : Yields ⟨c, .token .blockEnd :: items, fresh, 0, [-1], 0, true, []⟩ ts) :
    Yields ⟨c, items, fresh, 2, [0, -1], 0, true, []⟩ ts := by
  have hinner : (⟨c, items, fresh, 2, [0, -1], 0, true, []⟩ : Lexer).unwind c.column =
      ⟨c, .token .blockEnd :: items, fresh, 0, [-1], 0, true, []⟩ := by
    rw [hcolumn]
    rfl
  have houter : (⟨c, .token .blockEnd :: items, fresh, 0, [-1], 0, true, []⟩ : Lexer).unwind
      c.column = ⟨c, .token .blockEnd :: items, fresh, 0, [-1], 0, true, []⟩ := by
    rw [hcolumn]
    rfl
  exact yields_of_next_eq (fun fuel _ => next_eq_of_unwind (skip_here hr hrest fuel)
    (skip_here hr hrest fuel) rfl rfl hinner houter) (Nat.le_refl _) h

lemma lineStart_nil : LineStart 0 [] where
  shallow := by decide
  noSpace := fun _ h => absurd h (by simp)
  noComment := by simp
  noMark := by simp
  noMarker := fun c h => by
    unfold Cursor.atMarker Cursor.atThree
    rw [h]
    rfl

/-- At the end of the text the collections that are left end. -/
lemma yields_end (hcolumn : c.column = 0) (hrest : c.rest = []) :
    Yields ⟨c, items, fresh, 0, [-1], 0, true, []⟩
      (tokensOf items.reverse ++ [.blockEnd, .streamEnd]) := by
  intro fuel hfuel
  obtain ⟨k, rfl⟩ : ∃ k, fuel = k + 2 := ⟨fuel - 2, by omega⟩
  -- the mapping around the list is in the first column and ends only with the text
  have hunwind : (⟨c, items, fresh, 0, [-1], 0, true, []⟩ : Lexer).unwind c.column =
      ⟨c, items, fresh, 0, [-1], 0, true, []⟩ := by
    rw [hcolumn]
    rfl
  rw [run, next_of_nil (skip_here lineStart_nil hrest k) rfl hunwind hrest]
  change (tokensOf (Item.token .streamEnd :: Item.token .blockEnd :: items).reverse, none) = _
  simp

end Item

end Lexer

end CssMargin.Yaml
