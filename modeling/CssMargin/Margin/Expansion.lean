/-
# Expanding the shorthand

A shorthand with one to four values becomes four longhand declarations.  Each value is read once,
before it is used for several sides; `auto` is replaced by the zero; importance and origin are
handed on as they are.  A shorthand with another number of values becomes nothing: it is refused
without reading any value.

Reading a value, making a declaration and refusing are given by a record of three operations in a
monad, so that one definition serves both to compute declarations and to follow what is done and
in which order.
-/
import CssMargin.Margin.Auto
import CssMargin.Margin.Side
namespace CssMargin

/-- A longhand declaration. -/
structure Declaration where
  /-- The property. -/
  name : String
  /-- The text of the value. -/
  value : Text
  /-- Whether it is marked as important. -/
  important : Bool
  /-- Which style sheet it comes from. -/
  origin : Text
deriving DecidableEq, Repr

/-- The operations that an expansion is made of. -/
structure Expander (m : Type → Type) (α β : Type) where
  /-- Read the text of a value. -/
  read : α → m Text
  /-- Make a declaration for a side. -/
  build : Side → Resolved α → Bool → Text → m β
  /-- Take note of a shorthand with an unsupported number of values. -/
  refuse : Nat → m Unit

namespace Expander

variable {m : Type → Type} [Monad m] {α β : Type}

/-- Read a value and substitute the zero for `auto`. -/
def resolve (x : Expander m α β) (a : α) : m (Resolved α) := do
  if isAuto (← x.read a) then pure .zero else pure (.given a)

/-- The value for each side, in the order of listing. -/
def place (arity : Arity) (values : List (Resolved α)) : List (Side × Resolved α) :=
  arity.table.filterMap fun (side, i) => values[i]?.map (side, ·)

/-- Expand a shorthand. -/
def expand (x : Expander m α β) (values : List α) (important : Bool) (origin : Text) :
    m (List β) :=
  match Arity.ofNat? values.length with
  | none => do
    x.refuse values.length
    pure []
  | some arity => do
    let resolved ← values.mapM x.resolve
    (place arity resolved).mapM fun (side, value) => x.build side value important origin

end Expander

/-- The declaration for a side. -/
def Side.declare (side : Side) (value : Resolved Text) (important : Bool) (origin : Text) :
    Declaration :=
  ⟨side.longhand, value.text id, important, origin⟩

/-- Expansion that only computes. -/
def Expander.computing : Expander Id Text Declaration where
  read := id
  build := Side.declare
  refuse _ := ()

/-- The four declarations of a shorthand, none when the number of values is unsupported. -/
def expandMargin (values : List Text) (important : Bool) (origin : Text) : List Declaration :=
  Id.run (Expander.computing.expand values important origin)

theorem expandMargin_of_unsupported {values : List Text}
    (h : Arity.ofNat? values.length = none) (important : Bool) (origin : Text) :
    expandMargin values important origin = [] := by
  simp [expandMargin, Expander.expand, h]

theorem expandMargin_of_arity {values : List Text} {arity : Arity}
    (h : Arity.ofNat? values.length = some arity) (important : Bool) (origin : Text) :
    expandMargin values important origin =
      (Expander.place arity (values.map (substituteAuto id))).map fun p =>
        p.1.declare p.2 important origin := by
  have hr : ∀ v, Expander.computing.resolve v = Pure.pure (f := Id) (substituteAuto id v) := by
    intro v
    change (if isAuto v = true then Pure.pure (f := Id) Resolved.zero else
      Pure.pure (Resolved.given v)) = _
    unfold substituteAuto
    split <;> simp_all
  have hm : ∀ vs : List Text,
      vs.mapM (m := Id) Expander.computing.resolve = Pure.pure (vs.map (substituteAuto id)) := by
    intro vs
    induction vs with
    | nil => rfl
    | cons v vs ih => rw [List.mapM_cons, hr, ih]; rfl
  have hb : ∀ ps : List (Side × Resolved Text),
      ps.mapM (m := Id) (fun p => Expander.computing.build p.1 p.2 important origin) =
        Pure.pure (ps.map fun p => p.1.declare p.2 important origin) := by
    intro ps
    induction ps with
    | nil => rfl
    | cons p ps ih => rw [List.mapM_cons, ih]; rfl
  simp only [expandMargin, Expander.expand, h]
  rw [hm]
  exact congrArg Id.run (hb _)

end CssMargin
