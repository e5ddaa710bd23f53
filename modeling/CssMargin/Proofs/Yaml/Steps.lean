/-
# Steps of the lexer

`Lexer.Yields l ts` says that from `l` on the whole rest of a text is read, and that `ts` are then
all of its tokens, those that `l` has and those that follow.  What is yielded is worked out from the
end of a text: each rule says that a step, or a few of them, do not change what is yielded.
-/
import CssMargin.Proofs.Yaml.Scalar
import CssMargin.Yaml.Token.Lexer
namespace CssMargin.Yaml

namespace Lexer

/-! ### Yielding -/

/-- Whether the rest of a text is read without a fault, and all the tokens of the text. -/
def Yields (l : Lexer) (ts : List Token) : Prop :=
  ∀ fuel, l.cursor.rest.length + 2 ≤ fuel → run fuel l = (ts, none)

@[simp] lemma tokensOf_nil : tokensOf [] = [] := rfl

@[simp] lemma tokensOf_append (is js : List Item) :
    tokensOf (is ++ js) = tokensOf is ++ tokensOf js :=
  List.filterMap_append

@[simp] lemma tokensOf_cons_token (t : Token) (items : List Item) :
    tokensOf (Item.token t :: items) = t :: tokensOf items := rfl

/-- What is yielded after a step is yielded before it. -/
lemma yields_of_next {l : Lexer} {ts : List Token}
    (h : ∀ fuel, l.cursor.rest.length ≤ fuel → ∃ l', l.next (fuel + 1) = .ok (l', false) ∧
      l'.cursor.rest.length < l.cursor.rest.length ∧ l'.Yields ts) :
    l.Yields ts := by
  intro fuel hfuel
  obtain ⟨k, rfl⟩ : ∃ k, fuel = k + 2 := ⟨fuel - 2, by omega⟩
  obtain ⟨l', hnext, hlt, hyields⟩ := h k (by omega)
  rw [run, hnext]
  exact hyields (k + 1) (by omega)

/-- Two lexers that do the same next yield the same. -/
lemma yields_of_next_eq {l l' : Lexer} {ts : List Token}
    (h : ∀ fuel, l.cursor.rest.length ≤ fuel → l.next (fuel + 1) = l'.next (fuel + 1))
    (hlen : l'.cursor.rest.length ≤ l.cursor.rest.length) (hyields : l'.Yields ts) :
    l.Yields ts := by
  intro fuel hfuel
  obtain ⟨k, rfl⟩ : ∃ k, fuel = k + 2 := ⟨fuel - 2, by omega⟩
  have hrun := hyields (k + 2) (by omega)
  rw [run] at hrun ⊢
  rw [h k (by omega)]
  cases hres : l'.next (k + 1) with
  | error f =>
    rw [hres] at hrun
    exact absurd (congrArg Prod.snd hrun) (by simp)
  | ok res =>
    obtain ⟨l₁, final⟩ := res
    rw [hres] at hrun
    cases final
    · exact hrun
    · exact hrun

/-- Blanks and line ends in front of a token do not matter. -/
lemma yields_of_skip {l l' : Lexer} {ts : List Token} (hne : l.cursor.rest ≠ [])
    (h : ∀ fuel, 2 ≤ fuel → l.skip fuel = l'.skip fuel)
    (hlen : l'.cursor.rest.length ≤ l.cursor.rest.length) (hyields : l'.Yields ts) :
    l.Yields ts := by
  have hpos := List.length_pos_iff.2 hne
  refine yields_of_next_eq (fun fuel hfuel => ?_) hlen hyields
  rw [next, next, h (fuel + 1) (by omega)]

/-! ### Going to the next token -/

section Skip

variable {c : Cursor} {r : List Char}

lemma next_comment_eq_false (hrest : c.rest = r) (hcomment : r.head? ≠ some '#') :
    c.next (· == '#') = false := by
  rw [Cursor.next, hrest]
  cases r with
  | nil => rfl
  | cons x r =>
    have hx : x ≠ '#' := fun e => hcomment (congrArg some e)
    simp [hx]

lemma skipToToken_blanks {n : Nat} (hrest : c.rest = List.replicate n ' ' ++ r)
    (hr : NoSpaceHere r) (hcomment : r.head? ≠ some '#') (passed : Bool) {fuel : Nat}
    (hfuel : 0 < fuel) : skipToToken fuel passed c = (passed, c.advance n) := by
  obtain ⟨k, rfl⟩ : ∃ k, fuel = k + 1 := ⟨fuel - 1, by omega⟩
  have htake : c.rest.takeWhile (· == ' ') = List.replicate n ' ' := by
    have hnone : r.takeWhile (· == ' ') = [] := by
      cases r with
      | nil => rfl
      | cons x r =>
        have hx : (x == ' ') = false := by
          by_contra h
          simp only [Bool.not_eq_false, beq_iff_eq] at h
          exact absurd (hr x rfl) (by rw [h]; decide)
        simp [hx]
    rw [hrest, List.takeWhile_append_of_pos (fun y hy => by rw [List.eq_of_mem_replicate hy]; rfl),
      hnone, List.append_nil]
  have hspan : c.skipWhile (· == ' ') = c.advance n := by
    rw [Cursor.skipWhile, Cursor.spanWhile, htake, List.length_replicate]
  have hafter : (c.advance n).rest = r := by
    have := Cursor.rest_advance_append hrest
    rwa [List.length_replicate] at this
  rw [skipToToken, hspan, next_comment_eq_false hafter hcomment]
  simp [takeBreak?_eq_none hafter hr]

/-- Where a token begins nothing is passed over. -/
lemma skipToToken_here {x : Char} (hrest : c.rest = x :: r) (hx : isSpace x = false)
    (hcomment : x ≠ '#') (passed : Bool) (fuel : Nat) :
    skipToToken (fuel + 1) passed c = (passed, c) :=
  skipToToken_blanks (n := 0) hrest (noSpaceHere_cons hx r) (by simpa using hcomment) passed
    (Nat.succ_pos _)

lemma skipToToken_line {n : Nat} (hrest : c.rest = '\n' :: (List.replicate n ' ' ++ r))
    (hr : NoSpaceHere r) (hcomment : r.head? ≠ some '#') (passed : Bool) {fuel : Nat}
    (hfuel : 2 ≤ fuel) : skipToToken fuel passed c = (true, c.step.advance n) := by
  obtain ⟨k, rfl⟩ : ∃ k, fuel = k + 1 := ⟨fuel - 1, by omega⟩
  have hspan : c.skipWhile (· == ' ') = c := by
    rw [Cursor.skipWhile, Cursor.spanWhile_of_not hrest (by decide)]
  have hnext : c.next (· == '#') = false := next_comment_eq_false hrest (by simp)
  rw [skipToToken, hspan, hnext, if_neg Bool.false_ne_true,
    Cursor.takeBreak?_of_break hrest (by decide)]
  exact skipToToken_blanks (Cursor.rest_step_cons hrest) hr hcomment true (by omega)

end Skip

lemma skip_of_skipToToken {l : Lexer} {fuel : Nat} {passed : Bool} {c : Cursor}
    (hmark : l.cursor.next (· == '\uFEFF') = false)
    (h : skipToToken fuel false l.cursor = (passed, c)) :
    l.skip fuel =
      { l with cursor := c, allowKey := l.allowKey || (passed && l.level == 0) } := by
  have hno : ¬ (l.cursor.index = 0 ∧ l.cursor.next (· == '\uFEFF') = true) := by
    rw [hmark]
    exact fun h => Bool.false_ne_true h.2
  rw [skip, if_neg hno, h]

lemma next_mark_eq_false {c : Cursor} {x : Char} {r : List Char} (hrest : c.rest = x :: r)
    (hx : x ≠ '\uFEFF') : c.next (· == '\uFEFF') = false := by
  rw [Cursor.next, hrest]
  simp [hx]

/-! ### Reading a token -/

lemma unwind_of_le {column : Int} {l : Lexer} (h : l.indent ≤ column) : l.unwind column = l := by
  unfold unwind
  split
  · cases hl : l.indents with
    | nil => rfl
    | cons i is => rw [unwindTo, if_neg (by omega)]
  · rfl

/-- A step outside all collections that would have to end reads the token that begins here. -/
lemma next_of_takeToken {l l₁ l₂ l₃ : Lexer} {fuel : Nat} {x : Char} {r : List Char}
    (hskip : l.skip fuel = l₁) (hstale : l₁.dropStale = .ok l₂) (hrest : l₂.cursor.rest = x :: r)
    (hindent : l₂.indent ≤ l₂.cursor.column) (htake : l₂.takeToken fuel x r = .ok l₃) :
    l.next fuel = .ok (l₃, false) := by
  rw [next, hskip, hstale, ok_bind]
  dsimp only
  rw [unwind_of_le hindent, hrest]
  dsimp only
  rw [htake]
  rfl

lemma saveKey_of_not_allowKey {l : Lexer} (h : l.allowKey = false) : l.saveKey = .ok l := by
  rw [saveKey, h, if_neg Bool.false_ne_true]

lemma takePlain_of_saveKey {l l' : Lexer} {fuel : Nat} {text : List Char} {crossed : Bool}
    {c : Cursor} (hsave : l.saveKey = .ok l')
    (hread : readPlain (l'.level != 0) (l'.indent + 1) fuel l'.cursor = (text, crossed, c)) :
    l.takePlain fuel = .ok ((l'.allow crossed).emit (.scalar text true) |>.moveTo c) := by
  rw [takePlain, hsave, ok_bind, hread]

lemma takeQuoted_of_saveKey {q : Quote} {l l' : Lexer} {fuel : Nat} {text : List Point} {c : Cursor}
    (hsave : l.saveKey = .ok l') (hread : readQuoted q fuel l'.cursor = .ok (text, c)) :
    l.takeQuoted q fuel = .ok ((l'.allow false).emit (.scalar text false) |>.moveTo c) := by
  rw [takeQuoted, hsave, ok_bind, hread, ok_bind]

/-- Whether a scalar without quotes begins with a character and goes on with a text. -/
structure StartsPlain (x : Char) (r : List Char) : Prop where
  /-- The character is no blank. -/
  noSpace : isSpace x = false
  /-- It does not begin another construct. -/
  noIndicator : ScalarStyle.isLeadingIndicator x = false
  /-- Nor does it together with what follows. -/
  noSign : x = '?' ∨ x = ':' ∨ x = '-' → startsWith isSpace r = false

/-- Signs and leading indicators are all the characters that begin another construct. -/
lemma startsPlain_of {l : Lexer} {x : Char} {r : List Char} (hlevel : l.level = 0)
    (hrest : l.cursor.rest = x :: r) (h : StartsPlain x r) : l.startsPlain = true := by
  have hindicator : x ∉ "#,[]\x7b\x7d&*!|>'\"%@`".toList := by
    simpa [ScalarStyle.isLeadingIndicator] using h.noIndicator
  have hall : ∀ y ∈ "-?:,[]\x7b\x7d#&*!|>'\"%@`".toList, y = '?' ∨ y = ':' ∨ y = '-' ∨
      y ∈ "#,[]\x7b\x7d&*!|>'\"%@`".toList := List.all_iff_forall_prop.1 (by decide)
  rw [startsPlain, hrest]
  dsimp only
  by_cases hsign : x = '?' ∨ x = ':' ∨ x = '-'
  · rw [h.noSign hsign, hlevel]
    rcases hsign with rfl | rfl | rfl <;> decide
  · have hin : x ∉ "-?:,[]\x7b\x7d#&*!|>'\"%@`".toList := by
      intro hx
      rcases hall x hx with hx | hx | hx | hx
      · exact hsign (Or.inl hx)
      · exact hsign (Or.inr (Or.inl hx))
      · exact hsign (Or.inr (Or.inr hx))
      · exact hindicator hx
    rw [List.contains_eq_mem, h.noSpace, decide_eq_false hin]
    rfl

lemma takeToken_plain {l : Lexer} {x : Char} {r : List Char} (hlevel : l.level = 0)
    (hrest : l.cursor.rest = x :: r) (h : StartsPlain x r)
    (hfirst : l.cursor.column = 0 → x ≠ '-' ∧ x ≠ '.') (fuel : Nat) :
    l.takeToken fuel x r = l.takePlain fuel := by
  have hne : ∀ y ∈ "#,[]\x7b\x7d&*!|>'\"%@`".toList, x ≠ y := by
    rintro y hy rfl
    have hindicator := h.noIndicator
    simp only [ScalarStyle.isLeadingIndicator, List.contains_eq_mem, decide_eq_false_iff_not]
      at hindicator
    exact hindicator hy
  have hmarker (y : Char) (hy : y = '-' ∨ y = '.') :
      ¬ ((l.cursor.column == 0) = true ∧ l.cursor.atThree y = true) := by
    rintro ⟨hcolumn, hthree⟩
    have hno := Cursor.atMarker_eq_false hrest (hfirst (by simpa using hcolumn))
    rw [Cursor.atMarker, Bool.or_eq_false_iff] at hno
    rcases hy with rfl | rfl
    · exact absurd hthree (by rw [hno.1]; decide)
    · exact absurd hthree (by rw [hno.2]; decide)
  have hunsigned (y : Char) (hy : y = '?' ∨ y = ':' ∨ y = '-') :
      ¬ (x = y ∧ startsWith isSpace r = true) := by
    rintro ⟨rfl, hr⟩
    rw [h.noSign hy] at hr
    cases hr
  have hlevel' : ¬ l.level ≠ 0 := fun h => h hlevel
  -- none of the cases in front of a scalar without quotes applies
  unfold takeToken
  dsimp only
  rw [if_neg fun h => hne '%' (by decide) h.1, if_neg (hmarker '-' (Or.inl rfl)),
    if_neg (hmarker '.' (Or.inr rfl)), if_neg (hne '[' (by decide)),
    if_neg (hne '\x7b' (by decide)), if_neg (hne ']' (by decide)),
    if_neg (hne '\x7d' (by decide)), if_neg (hne ',' (by decide)),
    if_neg (hunsigned '-' (by decide)),
    if_neg fun h => h.2.elim hlevel' fun hr => hunsigned '?' (by decide) ⟨h.1, hr⟩,
    if_neg fun h => h.2.elim hlevel' fun hr => hunsigned ':' (by decide) ⟨h.1, hr⟩,
    if_neg (hne '*' (by decide)), if_neg (hne '&' (by decide)), if_neg (hne '!' (by decide)),
    if_neg fun h => hne '|' (by decide) h.1, if_neg fun h => hne '>' (by decide) h.1,
    if_neg (hne '\'' (by decide)), if_neg (hne '"' (by decide)),
    if_pos (startsPlain_of hlevel hrest h)]

end Lexer

end CssMargin.Yaml
