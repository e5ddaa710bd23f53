/-
# Paths

A path is a root, which is empty for a path from the working directory, and the parts between the
slashes.  Empty parts and parts that consist of one dot say nothing and are dropped; two dots stay,
since what they mean depends on the disk.  Two slashes at the beginning, and no more, are a root of
their own.
-/
import CssMargin.Text.Basic
namespace CssMargin

/-- A path. -/
structure Path where
  /-- What it starts from: nothing, `/` or `//`. -/
  root : String
  /-- The parts. -/
  parts : List Text
deriving DecidableEq, Repr

namespace Path

/-- The root of a path with so many slashes at its beginning. -/
def rootOf (slashes : Nat) : String :=
  if slashes = 0 then "" else if slashes = 2 then "//" else "/"

/-- Whether a part says something. -/
def isPart (p : List Point) : Bool := p ≠ [] && p ≠ [.char '.']

/-- The path that a text names. -/
def ofText (t : Text) : Path :=
  ⟨rootOf (t.points.takeWhile (· == .char '/')).length,
    ((Text.cutAt (.char '/') t.points).filter isPart).map Text.ofPoints⟩

/-- The text of a path. -/
def text (p : Path) : Text :=
  if p.root = "" ∧ p.parts = [] then "." else p.root ++ Text.join "/" p.parts

/-- The path of the directory that a path is in. -/
def parent (p : Path) : Path := { p with parts := p.parts.dropLast }

/-- The last part, empty if there is none. -/
def name (p : Path) : Text := p.parts.getLast?.getD ""

/-- The text from the last dot of the last part on, unless that dot is its first or last
character. -/
def suffix (p : Path) : List Point :=
  let reversed := p.name.points.reverse
  let extension := (reversed.takeWhile (· ≠ .char '.')).reverse
  let stem := (reversed.dropWhile (· ≠ .char '.')).drop 1
  if extension.isEmpty || stem.isEmpty then [] else .char '.' :: extension

/-- Whether a path starts from the root of the disk. -/
def isAbsolute (p : Path) : Bool := p.root ≠ ""

end Path

end CssMargin
