/-
# Words that only ASCII letters spell

Making a text small is a matter of all of Unicode: a letter outside ASCII may have a small form
inside it, as the sign for kelvin has the letter `k`, or a small form of several letters.  A word
that is looked for without regard to letter case is nevertheless spelled by ASCII letters alone, as
long as it has no `k`: the small form of any other letter outside ASCII has a letter outside ASCII.
For such words the full mapping and the one of ASCII agree.
-/
import CssMargin.Text.Blank
import CssMargin.Text.Case
import Mathlib.Tactic.Common
namespace CssMargin.Text

lemma toNat_lt_of_toLower_lt {c : Char} (h : c.toLower.toNat < 0x80) : c.toNat < 0x80 := by
  unfold Char.toLower at h
  split at h
  · rename_i hc
    have hZ : c.toNat ≤ 'Z'.toNat := hc.2
    exact Nat.lt_of_le_of_lt hZ (by decide)
  · exact h

/-- The runs of capital letters keep away from ASCII and from the surrogates, except for the sign
for kelvin. -/
lemma smallRuns_image : ∀ r ∈ smallRuns,
    (0x80 ≤ r.first + r.shift ∧
      (r.last + r.shift < 0xD800 ∨ 0xDFFF < r.first + r.shift ∧ r.last + r.shift < 0x110000)) ∨
    (r.first = r.last ∧ r.first + r.shift = ('k'.toNat : Int)) := by
  decide +kernel

lemma toNat_ofNat_of_isValidChar {n : Nat} (h : n.isValidChar) : (Char.ofNat n).toNat = n := by
  rw [Char.ofNat, dif_pos h]
  rfl

/-- The small form of a letter outside ASCII has a letter outside ASCII, or is `k`. -/
lemma exists_mem_small {c : Char} (hc : 0x80 ≤ c.toNat) :
    ∃ x ∈ small c, 0x80 ≤ x.toNat ∨ x = 'k' := by
  rw [small, if_neg (by omega)]
  dsimp only [changeCase]
  split
  · -- the capital i with a dot, which has a small form of two letters
    rename_i letters hfind
    have hmem := List.mem_of_find?_eq_some hfind
    simp only [smallLong, List.mem_singleton] at hmem
    obtain ⟨rfl, rfl⟩ := Prod.mk.inj hmem
    exact ⟨Char.ofNat 0x307, by simp, Or.inl (by decide)⟩
  · split
    · -- a letter of a run, moved by the shift of the run
      rename_i r hfind
      have hr := List.find?_some hfind
      simp only [CaseRun.holds, Bool.and_eq_true, decide_eq_true_eq] at hr
      obtain ⟨⟨hfirst, hlast⟩, -⟩ := hr
      refine ⟨_, List.mem_singleton.mpr rfl, ?_⟩
      rcases smallRuns_image r (List.mem_of_find?_eq_some hfind) with ⟨hlow, hhigh⟩ | ⟨hone, hk⟩
      · left
        rw [toNat_ofNat_of_isValidChar]
        · omega
        · rcases hhigh with h | ⟨h, h'⟩
          · exact Or.inl (by omega)
          · exact Or.inr ⟨by omega, by omega⟩
      · right
        have hn : ((c.toNat : Int) + r.shift).toNat = 'k'.toNat := by omega
        rw [hn]
        rfl
    · exact ⟨c, List.mem_singleton.mpr rfl, Or.inl hc⟩

lemma lower_eq_lowerAscii {s : List Char} (h : ∀ c ∈ s, c.toNat < 0x80) :
    lower s = lowerAscii s := by
  induction s with
  | nil => rfl
  | cons c r ih =>
    have hc : small c = [c.toLower] := if_pos (h c (List.mem_cons_self ..))
    have hr := ih fun x hx => h x (List.mem_cons_of_mem _ hx)
    simp only [lower, lowerAscii, List.flatMap_cons, List.map_cons, hc] at hr ⊢
    rw [hr]
    rfl

/-- A word of ASCII characters other than `k` is the small form of a text exactly when it is its
small form in ASCII. -/
theorem lower_eq_iff_lowerAscii_eq {w s : List Char} (hw : ∀ c ∈ w, c.toNat < 0x80 ∧ c ≠ 'k') :
    lower s = w ↔ lowerAscii s = w := by
  constructor
  · intro h
    have hs : ∀ c ∈ s, c.toNat < 0x80 := by
      intro c hc
      by_contra hbig
      obtain ⟨x, hx, hx'⟩ := exists_mem_small (Nat.le_of_not_lt hbig)
      have hxw : x ∈ w := h ▸ List.mem_flatMap.mpr ⟨c, hc, hx⟩
      rcases hx' with hx' | hx'
      · exact absurd (hw x hxw).1 (by omega)
      · exact (hw x hxw).2 hx'
    rw [← lower_eq_lowerAscii hs, h]
  · intro h
    have hs : ∀ c ∈ s, c.toNat < 0x80 := by
      intro c hc
      have hmem : c.toLower ∈ w := h ▸ List.mem_map_of_mem hc
      exact toNat_lt_of_toLower_lt (hw _ hmem).1
    rw [lower_eq_lowerAscii hs, h]

end CssMargin.Text
