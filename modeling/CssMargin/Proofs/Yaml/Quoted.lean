/-
# Reading what stands between quotes

`ReadsBetween q t xs` says that the characters `t` between quotes are read as the text `xs`.  There
is one rule for each thing that can stand at the beginning of `t`: a character that stands for
itself, a doubled apostrophe, a blank, line ends with the blanks that the next line begins with, an
escape, and a line end after a backslash.
-/
import CssMargin.Proofs.Chain
import CssMargin.Proofs.Yaml.Cursor
import CssMargin.Yaml.Scalar.Quoted
namespace CssMargin.Yaml

/-- Whether characters between quotes are read as a text. -/
def ReadsBetween (q : Quote) (t : List Char) (xs : List Point) : Prop :=
  ∀ (tail : List Char) (c : Cursor) (fuel : Nat), tail.head? ≠ some '\'' →
    c.rest = t ++ q.char :: tail → t.length < fuel →
      ∃ c', readQuotedBody q fuel c = .ok (xs, c') ∧ c'.rest = tail

/-- Whether the first character of a text, and there is one, is no blank and no line end. -/
def StartsWord (s : List Char) : Prop := ∃ x r, s = x :: r ∧ isSpace x = false

/-- Whether the blanks at the beginning of a text are followed by something else than a line end. -/
def KeepsBlanks (s : List Char) : Prop :=
  ∃ gap x r, s = gap ++ x :: r ∧ (∀ y ∈ gap, isGap y = true) ∧ isSpace x = false

lemma StartsWord.keepsBlanks {s : List Char} (h : StartsWord s) : KeepsBlanks s := by
  obtain ⟨x, r, rfl, hx⟩ := h
  exact ⟨[], x, r, rfl, fun _ h => absurd h List.not_mem_nil, hx⟩

lemma StartsWord.append {t : List Char} {y : Char} (h : StartsWord (t ++ [y])) (r : List Char) :
    ∃ x s, t ++ y :: r = x :: s ∧ isSpace x = false := by
  obtain ⟨x, s, hs, hx⟩ := h
  refine ⟨x, s ++ r, ?_, hx⟩
  rw [List.append_cons, hs]
  rfl

lemma KeepsBlanks.blank {s : List Char} (h : KeepsBlanks s) : KeepsBlanks (' ' :: s) := by
  obtain ⟨gap, x, r, rfl, hgap, hx⟩ := h
  refine ⟨' ' :: gap, x, r, rfl, fun y hy => ?_, hx⟩
  rcases List.mem_cons.1 hy with rfl | hy
  · rfl
  · exact hgap y hy

lemma isSpace_quote (q : Quote) : isSpace q.char = false := by
  cases q <;> decide

variable {q : Quote} {t : List Char} {xs : List Point}

/-! ### The end, and characters -/

lemma readsBetween_nil (q : Quote) : ReadsBetween q [] [] := by
  intro tail c fuel htail hrest hfuel
  obtain ⟨k, rfl⟩ : ∃ k, fuel = k + 1 := ⟨fuel - 1, by omega⟩
  have hclose : ¬ (q = .single ∧ tail.head? = some '\'') := fun h => htail h.2
  rw [List.nil_append] at hrest
  refine ⟨c.step, ?_, Cursor.rest_step_cons hrest⟩
  rw [readQuotedBody, hrest]
  simp [isSpace_quote, hclose]

lemma readsBetween_char {x : Char} (hx : isSpace x = false) (hq : x ≠ q.char)
    (hb : ¬ (q = .double ∧ x = '\\')) (h : ReadsBetween q t xs) :
    ReadsBetween q (x :: t) (.char x :: xs) := by
  intro tail c fuel htail hrest hfuel
  rw [List.length_cons] at hfuel
  obtain ⟨k, rfl⟩ : ∃ k, fuel = k + 1 := ⟨fuel - 1, by omega⟩
  obtain ⟨c', hread, hc'⟩ := h tail c.step k htail (Cursor.rest_step_cons hrest) (by omega)
  refine ⟨c', ?_, hc'⟩
  rw [readQuotedBody, hrest]
  simp [hx, hq, hb, hread]

lemma readsBetween_apostrophe (h : ReadsBetween .single t xs) :
    ReadsBetween .single ('\'' :: '\'' :: t) (.char '\'' :: xs) := by
  intro tail c fuel htail hrest hfuel
  rw [List.length_cons, List.length_cons] at hfuel
  obtain ⟨k, rfl⟩ : ∃ k, fuel = k + 1 := ⟨fuel - 1, by omega⟩
  have hadvance : (c.advance 2).rest = t ++ Quote.single.char :: tail :=
    Cursor.rest_advance_append (s := ['\'', '\'']) hrest
  obtain ⟨c', hread, hc'⟩ := h tail (c.advance 2) k htail hadvance (by omega)
  refine ⟨c', ?_, hc'⟩
  have hquote : isSpace '\'' = false := by decide
  rw [readQuotedBody, hrest]
  simp [hquote, Quote.char, hread]

/-! ### Blanks -/

/-- Where a blank or a line end comes, what stands between two words is read. -/
lemma readQuotedBody_of_isSpace {c : Cursor} {x : Char} {r : List Char} (hrest : c.rest = x :: r)
    (hx : isSpace x = true) (fuel : Nat) :
    readQuotedBody q (fuel + 1) c = (do
      let (ys, c') ← readGap fuel c
      let (zs, c') ← readQuotedBody q fuel c'
      .ok (ys ++ zs, c')) := by
  rw [readQuotedBody, hrest]
  dsimp only
  rw [if_pos hx]

lemma readGap_of_blanks {c : Cursor} {gap r : List Char} {x : Char} (hrest : c.rest = gap ++ x :: r)
    (hgap : ∀ y ∈ gap, isGap y = true) (hx : isSpace x = false) (fuel : Nat) :
    readGap fuel c = .ok (gap, c.advance gap.length) := by
  obtain ⟨hx, hb⟩ := isSpace_eq_false.1 hx
  have hafter : (c.advance gap.length).rest = x :: r := Cursor.rest_advance_append hrest
  rw [readGap, Cursor.spanWhile_append hrest hgap hx]
  dsimp only
  rw [Cursor.takeBreak?_of_not_break hafter hb, Cursor.atEnd_eq_false hafter]
  rfl

/-- A blank is kept when no line end follows the blanks that it belongs to. -/
lemma readsBetween_blank (h : ReadsBetween q t xs) (ht : KeepsBlanks (t ++ [q.char])) :
    ReadsBetween q (' ' :: t) (.char ' ' :: xs) := by
  intro tail c fuel htail hrest hfuel
  rw [List.length_cons] at hfuel
  obtain ⟨k, rfl⟩ : ∃ k, fuel = k + 1 := ⟨fuel - 1, by omega⟩
  obtain ⟨gap, x, r, hgt, hgap, hx⟩ := ht
  have htext : t ++ q.char :: tail = gap ++ x :: (r ++ tail) := by
    rw [List.append_cons, hgt]
    simp
  have hstep : c.step.rest = gap ++ x :: (r ++ tail) := by
    rw [← htext]
    exact Cursor.rest_step_cons hrest
  have hrest' : c.rest = (' ' :: gap) ++ x :: (r ++ tail) := by
    rw [hrest, List.cons_append, htext]
    rfl
  have hwhole : readGap k c = .ok (' ' :: gap, c.step.advance gap.length) := by
    refine readGap_of_blanks hrest' (fun y hy => ?_) hx k
    rcases List.mem_cons.1 hy with rfl | hy
    · rfl
    · exact hgap y hy
  rw [readQuotedBody_of_isSpace hrest (by decide) k, hwhole, ok_bind]
  dsimp only
  cases gap with
  | nil =>
    obtain ⟨c', hread, hc'⟩ := h tail c.step k htail (hstep.trans htext.symm) (by omega)
    refine ⟨c', ?_, hc'⟩
    rw [List.length_nil, Cursor.advance, hread]
    rfl
  | cons y gap =>
    -- the blanks that follow are read together with this one
    obtain ⟨c', hread, hc'⟩ := h tail c.step (k + 1) htail (hstep.trans htext.symm) (by omega)
    have hy : isSpace y = true := by
      rw [isSpace, hgap y (List.mem_cons_self ..)]
      rfl
    rw [readQuotedBody_of_isSpace hstep hy k, readGap_of_blanks hstep hgap hx k, ok_bind] at hread
    dsimp only at hread
    refine ⟨c', ?_, hc'⟩
    cases hbody : readQuotedBody q k (c.step.advance (y :: gap).length) with
    | error e =>
      rw [hbody] at hread
      cases hread
    | ok res =>
      rw [hbody, ok_bind] at hread
      cases hread
      rfl

lemma readsBetween_blanks (n : Nat) (h : ReadsBetween q t xs) (ht : StartsWord (t ++ [q.char])) :
    ReadsBetween q (List.replicate n ' ' ++ t) (List.replicate n (.char ' ') ++ xs) := by
  suffices hboth : ReadsBetween q (List.replicate n ' ' ++ t) (List.replicate n (.char ' ') ++ xs) ∧
      KeepsBlanks (List.replicate n ' ' ++ t ++ [q.char]) from hboth.1
  induction n with
  | zero => exact ⟨h, ht.keepsBlanks⟩
  | succ n ih => exact ⟨readsBetween_blank ih.1 ih.2, ih.2.blank⟩

/-! ### Line ends -/

/-- Line ends, and the blanks that the line after them begins with, are read as the line ends. -/
lemma readBreaks_append {bs gap r : List Char} {x : Char} (hbs : ∀ y ∈ bs, isBreak y = true)
    (hne : gap ≠ []) (hgap : ∀ y ∈ gap, isGap y = true) (hx : isSpace x = false) {c : Cursor}
    (hrest : c.rest = bs ++ (gap ++ x :: r)) {fuel : Nat} (hfuel : bs.length < fuel) :
    ∃ c', readBreaks fuel c = .ok (bs.map unifiedBreak, c') ∧ c'.rest = x :: r := by
  obtain ⟨hxg, hxb⟩ := isSpace_eq_false.1 hx
  induction bs generalizing c fuel with
  | nil =>
    obtain ⟨k, rfl⟩ : ∃ k, fuel = k + 1 := ⟨fuel - 1, by omega⟩
    obtain ⟨y, gap, rfl⟩ := List.exists_cons_of_ne_nil hne
    have hrest : c.rest = (y :: gap) ++ x :: r := hrest
    have hmarker : y ≠ '-' ∧ y ≠ '.' := by
      have hy := hgap y (List.mem_cons_self ..)
      constructor <;> rintro rfl <;> cases hy
    have hafter : (c.advance (y :: gap).length).rest = x :: r := Cursor.rest_advance_append hrest
    refine ⟨c.advance (y :: gap).length, ?_, hafter⟩
    rw [readBreaks, Cursor.atMarker_eq_false hrest hmarker, Cursor.skipWhile,
      Cursor.spanWhile_append hrest hgap hxg]
    dsimp only
    rw [Cursor.takeBreak?_of_not_break hafter hxb]
    rfl
  | cons b bs ih =>
    -- between two line ends there is nothing
    obtain ⟨k, rfl⟩ : ∃ k, fuel = k + 1 := ⟨fuel - 1, by omega⟩
    have hb := hbs b (List.mem_cons_self ..)
    have hmarker : b ≠ '-' ∧ b ≠ '.' := by
      constructor <;> rintro rfl <;> cases hb
    have hstep : c.step.rest = bs ++ (gap ++ x :: r) := Cursor.rest_step_cons hrest
    have hspan := Cursor.spanWhile_of_not hrest (isGap_of_isBreak hb)
    rw [List.length_cons] at hfuel
    have hroom : bs.length < k := by omega
    obtain ⟨c', hread, hc'⟩ := ih (fun y hy => hbs y (List.mem_cons_of_mem _ hy)) hstep hroom
    refine ⟨c', ?_, hc'⟩
    rw [readBreaks, Cursor.atMarker_eq_false hrest hmarker, Cursor.skipWhile, hspan]
    dsimp only
    rw [Cursor.takeBreak?_of_break hrest hb]
    dsimp only
    rw [hread]
    rfl

/-- Line ends are folded, and the blanks that the line after them begins with are dropped. -/
lemma readsBetween_breaks {b : Char} {bs gap : List Char} (hb : isBreak b = true)
    (hbs : ∀ y ∈ bs, isBreak y = true) (hne : gap ≠ []) (hgap : ∀ y ∈ gap, isGap y = true)
    (h : ReadsBetween q t xs) (ht : StartsWord (t ++ [q.char])) :
    ReadsBetween q (b :: bs ++ gap ++ t)
      ((foldBreaks (unifiedBreak b) (bs.map unifiedBreak)).map .char ++ xs) := by
  intro tail c fuel htail hrest hfuel
  simp only [List.length_append, List.length_cons] at hfuel
  obtain ⟨k, rfl⟩ : ∃ k, fuel = k + 1 := ⟨fuel - 1, by omega⟩
  obtain ⟨x, r, htext, hx⟩ := ht.append tail
  have hrest' : c.rest = b :: (bs ++ (gap ++ x :: r)) := by
    rw [hrest, ← htext]
    simp
  have hspan := Cursor.spanWhile_of_not hrest' (isGap_of_isBreak hb)
  have hroom : bs.length < k := by omega
  obtain ⟨c₁, hread₁, hc₁⟩ :=
    readBreaks_append hbs hne hgap hx (Cursor.rest_step_cons hrest') hroom
  obtain ⟨c', hread, hc'⟩ := h tail c₁ k htail (hc₁.trans htext.symm) (by omega)
  refine ⟨c', ?_, hc'⟩
  rw [readQuotedBody_of_isSpace hrest' (isSpace_of_isBreak hb) k, readGap, hspan]
  dsimp only
  rw [Cursor.takeBreak?_of_break hrest' hb]
  dsimp only
  rw [hread₁, ok_bind, ok_bind, hread]
  rfl

/-! ### Escapes -/

/-- An escape is read as the character that it stands for. -/
lemma readsBetween_escape {e : List Char} {x : Point}
    (he : ∀ (c : Cursor) (r : List Char) (fuel : Nat), c.rest = e ++ r →
      ∃ c', readEscape fuel c = .ok ([x], c') ∧ c'.rest = r)
    (h : ReadsBetween .double t xs) : ReadsBetween .double ('\\' :: e ++ t) (x :: xs) := by
  intro tail c fuel htail hrest hfuel
  simp only [List.length_append, List.length_cons] at hfuel
  obtain ⟨k, rfl⟩ : ∃ k, fuel = k + 1 := ⟨fuel - 1, by omega⟩
  have hrest' : c.rest = '\\' :: (e ++ (t ++ Quote.double.char :: tail)) := by
    rw [hrest]
    simp
  obtain ⟨c₁, hread₁, hc₁⟩ := he c.step _ k (Cursor.rest_step_cons hrest')
  obtain ⟨c', hread, hc'⟩ := h tail c₁ k htail hc₁ (by omega)
  have hback : isSpace '\\' = false := by decide
  have hquote : '\\' ≠ Quote.double.char := by decide
  refine ⟨c', ?_, hc'⟩
  rw [readQuotedBody, hrest']
  simp [hback, hquote, hread₁, hread]

/-- A line end after a backslash stands for nothing. -/
lemma readsBetween_fold {gap : List Char} (hne : gap ≠ []) (hgap : ∀ y ∈ gap, isGap y = true)
    (h : ReadsBetween .double t xs) (ht : StartsWord (t ++ [Quote.double.char])) :
    ReadsBetween .double ('\\' :: '\n' :: gap ++ t) xs := by
  intro tail c fuel htail hrest hfuel
  simp only [List.length_append, List.length_cons] at hfuel
  obtain ⟨k, rfl⟩ : ∃ k, fuel = k + 1 := ⟨fuel - 1, by omega⟩
  obtain ⟨x, r, htext, hx⟩ := ht.append tail
  have hrest' : c.rest = '\\' :: '\n' :: (gap ++ x :: r) := by
    rw [hrest, ← htext]
    simp
  have hstep : c.step.rest = '\n' :: (gap ++ x :: r) := Cursor.rest_step_cons hrest'
  have hnone : ∀ y ∈ ([] : List Char), isBreak y = true := fun _ h => absurd h List.not_mem_nil
  have hroom : ([] : List Char).length < k := by
    rw [List.length_nil]
    omega
  obtain ⟨c₁, hread₁, hc₁⟩ :=
    readBreaks_append hnone hne hgap hx (Cursor.rest_step_cons hstep) hroom
  obtain ⟨c', hread, hc'⟩ := h tail c₁ k htail (hc₁.trans htext.symm) (by omega)
  have hescape : readEscape k c.step = .ok ([], c₁) := by
    rw [readEscape, hstep]
    change (readBreaks k c.step.step >>= _) = _
    rw [hread₁]
    rfl
  have hback : isSpace '\\' = false := by decide
  have hquote : '\\' ≠ Quote.double.char := by decide
  refine ⟨c', ?_, hc'⟩
  rw [readQuotedBody, hrest']
  simp [hback, hquote, hescape, hread]

end CssMargin.Yaml
