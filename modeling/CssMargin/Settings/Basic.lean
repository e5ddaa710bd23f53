/-
# Settings

Three things can be set: the origin and the importance of shorthands that do not say otherwise,
and the format of results.  A settings file sets some of them; what it does not set keeps its
standard value.
-/
import CssMargin.Origin
import CssMargin.Json.Basic
namespace CssMargin

/-- The formats of results: lines of CSS, a JSON object, or a YAML document. -/
inductive OutputFormat where
  | text
  | json
  | yaml
deriving DecidableEq, Repr

namespace OutputFormat

/-- All formats. -/
def all : List OutputFormat := [.text, .json, .yaml]

/-- The name of a format. -/
def name : OutputFormat → String
  | .text => "text"
  | .json => "json"
  | .yaml => "yaml"

/-- The format with a given name. -/
def ofName? (t : Text) : Option OutputFormat := all.find? fun f => t == f.name

@[simp] theorem ofName?_name (f : OutputFormat) : ofName? f.name = some f := by cases f <;> decide

theorem ofName?_eq_some_iff {t : Text} {f : OutputFormat} : ofName? t = some f ↔ t = f.name := by
  constructor
  · intro h
    have hs := List.find?_some h
    simpa only [beq_iff_eq] using hs
  · rintro rfl
    exact ofName?_name f

end OutputFormat

/-- The settings in force. -/
structure Settings where
  /-- The origin. -/
  origin : Origin
  /-- The importance. -/
  important : Bool
  /-- The format of results. -/
  format : OutputFormat
deriving DecidableEq, Repr

/-- What a settings file sets. -/
structure Overrides where
  /-- The origin. -/
  origin : Option Origin
  /-- The importance. -/
  important : Option Bool
  /-- The format of results. -/
  format : Option OutputFormat
deriving DecidableEq, Repr

/-- The standard settings. -/
def Settings.standard : Settings := ⟨.author, false, .text⟩

/-- Nothing set. -/
def Overrides.nothing : Overrides := ⟨none, none, none⟩

/-- Settings with some of them replaced. -/
def Settings.override (s : Settings) (o : Overrides) : Settings :=
  ⟨o.origin.getD s.origin, o.important.getD s.important, o.format.getD s.format⟩

/-- Settings as the members of an object. -/
def Settings.members (s : Settings) : List (Text × Json) :=
  [("origin", .text s.origin.name), ("important", .bool s.important),
    ("format", .text s.format.name)]

/-- What is set as the members of an object. -/
def Overrides.members (o : Overrides) : List (Text × Json) :=
  (o.origin.map fun x => (("origin" : Text), Json.text x.name)).toList ++
    (o.important.map fun b => (("important" : Text), Json.bool b)).toList ++
    (o.format.map fun f => (("format" : Text), Json.text f.name)).toList

end CssMargin
