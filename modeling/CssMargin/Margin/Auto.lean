/-
# The value `auto`

Margins have no automatic size here: a value that says `auto`, in any letter case and between any
blanks, is replaced by zero.  Only ASCII letters have `a`, `u`, `t` or `o` as their small form, so
that the letter case is a matter of ASCII.
-/
import CssMargin.Decimal.Binary64
import CssMargin.Text.Blank
namespace CssMargin

/-- Whether a value says `auto`. -/
def isAuto (value : Text) : Bool := value.isWord "auto"

/-- A number used as a value. -/
structure Scalar where
  /-- How it is written. -/
  text : String
  /-- Its type among the primitive values. -/
  kind : String
  /-- The number. -/
  number : Binary64
deriving DecidableEq, Repr

/-- The zero that takes the place of `auto`. -/
def Scalar.zero : Scalar := ⟨"0", "integer", Binary64.zero false⟩

/-- A value after substitution: the zero, or one of the values given. -/
inductive Resolved (α : Type) where
  /-- The value said `auto`. -/
  | zero
  /-- The value is used as it is. -/
  | given (a : α)
deriving DecidableEq, Repr

/-- Substitute the zero for a value whose text says `auto`. -/
def substituteAuto {α : Type} (text : α → Text) (a : α) : Resolved α :=
  if isAuto (text a) then .zero else .given a

/-- The text of a value after substitution. -/
def Resolved.text {α : Type} (text : α → Text) : Resolved α → Text
  | .zero => Scalar.zero.text
  | .given a => text a

theorem substituteAuto_of_isAuto {α : Type} {text : α → Text} {a : α}
    (h : isAuto (text a) = true) : substituteAuto text a = .zero := by
  simp [substituteAuto, h]

theorem substituteAuto_of_not_isAuto {α : Type} {text : α → Text} {a : α}
    (h : isAuto (text a) = false) : substituteAuto text a = .given a := by
  simp [substituteAuto, h]

/-- The zero does not say `auto`. -/
theorem isAuto_zero : isAuto Scalar.zero.text = false := by decide

end CssMargin
