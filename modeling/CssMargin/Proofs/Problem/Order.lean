/-
# The order of reports

Problems are compared by file, then by place, then by code, which is the lexicographic order of
texts in three places.  It is a linear order of keys, so a report is put in order by sorting it, and
a report that is in order stays as it is when it is sorted once more: problems with one key do not
change places.
-/
import CssMargin.Problem
import Mathlib.Data.List.Nodup
import Mathlib.Data.Prod.Lex
import Mathlib.Data.String.Basic
namespace CssMargin.Problem

/-- The key of a problem with the order of its three places. -/
def lexKey (p : Problem) : List Nat ×ₗ String ×ₗ String := toLex (p.key.1, toLex p.key.2)

lemma le_iff_lexKey_le {p q : Problem} : p.le q = true ↔ p.lexKey ≤ q.lexKey := by
  simp only [le, keyLe, lexKey, Prod.Lex.toLex_le_toLex, Bool.or_eq_true, Bool.and_eq_true,
    decide_eq_true_eq, beq_iff_eq]

lemma trans_le (p q r : Problem) (hpq : p.le q = true) (hqr : q.le r = true) :
    p.le r = true := by
  rw [le_iff_lexKey_le] at *
  exact hpq.trans hqr

lemma total_le (p q : Problem) : (p.le q || q.le p) = true := by
  rw [Bool.or_eq_true, le_iff_lexKey_le, le_iff_lexKey_le]
  exact le_total p.lexKey q.lexKey

/-- A sorted report is in order. -/
lemma pairwise_sort (ps : List Problem) : (sort ps).Pairwise fun p q => p.le q = true :=
  List.pairwise_mergeSort trans_le total_le ps

/-- Sorting a report that is in order does nothing. -/
lemma sort_eq_self {ps : List Problem} (h : ps.Pairwise fun p q => p.le q = true) :
    sort ps = ps := List.mergeSort_of_pairwise h

/-- In a report in which no two problems have one key, the order does not depend on how the problems
were found. -/
lemma sort_eq_of_perm {ps qs : List Problem} (hperm : ps.Perm qs)
    (hqs : qs.Pairwise fun p q => p.lexKey < q.lexKey) : sort ps = qs := by
  have hkeys : (qs.map lexKey).Nodup := by
    rw [List.Nodup, List.pairwise_map]
    exact hqs.imp fun h => h.ne
  have hsorted : (sort ps).Perm qs := (sort_perm ps).trans hperm
  refine hsorted.eq_of_pairwise (fun p q hp hq hpq hqp => ?_) (pairwise_sort ps)
    (hqs.imp fun h => le_iff_lexKey_le.2 h.le)
  rw [le_iff_lexKey_le] at hpq hqp
  exact List.inj_on_of_nodup_map hkeys (hsorted.mem_iff.1 hp) hq (le_antisymm hpq hqp)

section Place

variable {p q : Problem} {a b : String}

/-- Of two problems of one file the one at the smaller place comes first. -/
lemma lexKey_lt_of_place_lt (hfile : p.file = q.file) (hp : p.place = some a)
    (hq : q.place = some b) (h : a < b) : p.lexKey < q.lexKey := by
  simp only [lexKey, key, hfile, hp, hq, Prod.Lex.toLex_lt_toLex, Option.getD_some]
  exact .inr ⟨trivial, .inl h⟩

lemma place_lt_of_le (hle : p.le q = true) (hfile : p.file = q.file) (hp : p.place = some a)
    (hq : q.place = some b) (hne : a ≠ b) : a < b := by
  rcases lt_or_gt_of_ne hne with h | h
  · exact h
  · have hlt : q.lexKey < p.lexKey := lexKey_lt_of_place_lt hfile.symm hq hp h
    exact absurd (le_iff_lexKey_le.1 hle) hlt.not_ge

end Place

@[simp] lemma sort_sort (ps : List Problem) : sort (sort ps) = sort ps :=
  sort_eq_self (pairwise_sort ps)

@[simp] lemma sort_nil : sort [] = [] := sort_eq_self List.Pairwise.nil

@[simp] lemma sort_singleton (p : Problem) : sort [p] = [p] :=
  sort_eq_self (List.pairwise_singleton _ p)

end CssMargin.Problem
