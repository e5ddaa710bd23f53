/-
# The four sides of a box

The `margin` shorthand stands for one longhand property on each side of a box.  How many values it
has decides which value goes to which side, and also the order in which the longhands are listed.
That order goes round the box for one and for four values; for two and for three values it follows
the values instead.
-/
namespace CssMargin

/-- A side of a box. -/
inductive Side where
  | top
  | right
  | bottom
  | left
deriving DecidableEq, Repr

/-- The four sides, clockwise from the top. -/
def Side.all : List Side := [.top, .right, .bottom, .left]

/-- The longhand property of a side. -/
def Side.longhand : Side → String
  | .top => "margin-top"
  | .right => "margin-right"
  | .bottom => "margin-bottom"
  | .left => "margin-left"

/-- A number of values that a shorthand can have. -/
inductive Arity where
  /-- One value for all sides. -/
  | one
  /-- A vertical and a horizontal value. -/
  | two
  /-- A value for the top, one for left and right, one for the bottom. -/
  | three
  /-- A value for each side. -/
  | four
deriving DecidableEq, Repr

namespace Arity

/-- All arities in increasing order. -/
def all : List Arity := [.one, .two, .three, .four]

/-- An arity as a number. -/
def toNat : Arity → Nat
  | .one => 1
  | .two => 2
  | .three => 3
  | .four => 4

/-- The arity of so many values, if a shorthand can have so many. -/
def ofNat? : Nat → Option Arity
  | 1 => some .one
  | 2 => some .two
  | 3 => some .three
  | 4 => some .four
  | _ => none

/-- Which value each side takes, counted from zero, in the order of listing. -/
def table : Arity → List (Side × Nat)
  | .one => [(.top, 0), (.right, 0), (.bottom, 0), (.left, 0)]
  | .two => [(.top, 0), (.bottom, 0), (.right, 1), (.left, 1)]
  | .three => [(.top, 0), (.right, 1), (.left, 1), (.bottom, 2)]
  | .four => [(.top, 0), (.right, 1), (.bottom, 2), (.left, 3)]

@[simp] theorem ofNat?_toNat (a : Arity) : ofNat? a.toNat = some a := by cases a <;> rfl

theorem ofNat?_eq_some_iff {n : Nat} {a : Arity} : ofNat? n = some a ↔ n = a.toNat := by
  constructor
  · intro h
    unfold ofNat? at h
    split at h <;> cases h <;> rfl
  · rintro rfl
    exact ofNat?_toNat a

/-- A shorthand has between one and four values. -/
theorem isSome_ofNat?_iff {n : Nat} : (ofNat? n).isSome = true ↔ 1 ≤ n ∧ n ≤ 4 := by
  match n with
  | 0 | 1 | 2 | 3 | 4 => simp [ofNat?]
  | n + 5 => simp [ofNat?]

theorem snd_lt_of_mem_table {a : Arity} {p : Side × Nat} (h : p ∈ a.table) : p.2 < a.toNat := by
  cases a <;> simp only [table, List.mem_cons, List.not_mem_nil, or_false] at h <;>
    rcases h with rfl | rfl | rfl | rfl <;> decide

end Arity

end CssMargin
