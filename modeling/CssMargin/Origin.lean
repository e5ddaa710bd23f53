/-
# Origins of style sheets

A declaration comes from a style sheet of the user agent, of the user or of the author.  The order
is that of increasing weight in the cascade.
-/
import CssMargin.Text.Basic
namespace CssMargin

/-- Where a style sheet comes from. -/
inductive Origin where
  /-- Built into the user agent. -/
  | userAgent
  /-- Made by the reader of the document. -/
  | user
  /-- Made by the author of the document. -/
  | author
deriving DecidableEq, Repr, Inhabited

namespace Origin

/-- All origins, in the order of the cascade. -/
def all : List Origin := [.userAgent, .user, .author]

/-- The name of an origin. -/
def name : Origin → String
  | .userAgent => "user-agent"
  | .user => "user"
  | .author => "author"

/-- The origin with a given name. -/
def ofName? (t : Text) : Option Origin := all.find? fun o => t == o.name

@[simp] theorem ofName?_name (o : Origin) : ofName? o.name = some o := by cases o <;> decide

theorem ofName?_eq_some_iff {t : Text} {o : Origin} : ofName? t = some o ↔ t = o.name := by
  constructor
  · intro h
    have hs := List.find?_some h
    simpa only [beq_iff_eq] using hs
  · rintro rfl
    exact ofName?_name o

end Origin

end CssMargin
