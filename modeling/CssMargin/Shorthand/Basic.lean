/-
# Shorthands and documents

A document lists shorthands of the `margin` property.  Before it is checked it is just a value
that was found under `declarations`; a shorthand is what an entry that passed the check says.
-/
import CssMargin.Margin.Expansion
import CssMargin.Origin
import CssMargin.Value
namespace CssMargin

/-- A checked shorthand. -/
structure Shorthand where
  /-- The property. -/
  property : String
  /-- The values, one to four. -/
  values : List Text
  /-- Whether it is marked as important. -/
  important : Bool
  /-- Which style sheet it comes from. -/
  origin : Origin
  /-- Its position in the document. -/
  index : Nat
deriving DecidableEq, Repr

/-- The longhand declarations of a shorthand. -/
def Shorthand.expand (s : Shorthand) : List Declaration :=
  expandMargin s.values s.important s.origin.name

/-- A document before it is checked. -/
structure Document where
  /-- What stands under `declarations`, `null` if nothing does. -/
  declarations : Value
  /-- The file it was read from. -/
  file : Option Text

/-- What holds for an entry that does not say otherwise.  Any values are possible; ill-typed ones
are found when an entry needs them. -/
structure EntryDefaults where
  /-- The origin. -/
  origin : Value
  /-- The importance. -/
  important : Value

/-- Author style sheets, not important. -/
def EntryDefaults.standard : EntryDefaults := ⟨.text Origin.author.name, .bool false⟩

end CssMargin
