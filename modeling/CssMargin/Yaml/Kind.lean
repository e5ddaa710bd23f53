/-
# Kinds of plain scalars

A scalar without quotes and without a tag is a number, a date, a truth value and so on when it is
spelled like one, and a text otherwise.  The spellings are those of YAML 1.1, with numbers to the
base sixty, digits grouped by underscores, and truth values such as `yes` and `off`.  An exponent
has to have a sign, and `<<` and `=` have a meaning of their own.
-/
import CssMargin.Text.Pattern
namespace CssMargin.Yaml
open Text (Pattern)

/-- What a plain scalar is by its spelling. -/
inductive Kind where
  /-- A text. -/
  | text
  /-- No value. -/
  | null
  /-- A truth value. -/
  | bool
  /-- An integer. -/
  | int
  /-- A number with a fraction. -/
  | float
  /-- A day or a moment. -/
  | timestamp
  /-- The key whose mapping is merged into the surrounding one. -/
  | merge
  /-- The key of the value that stands for a mapping. -/
  | default
  /-- A lone indicator. -/
  | indicator
deriving DecidableEq, Repr

namespace Kind

/-- An ASCII digit. -/
def digit : Pattern := .one [('0', '9')]

/-- An ASCII digit or an underscore. -/
def digitOrScore : Pattern := .one [('0', '9'), ('_', '_')]

/-- A sign or nothing. -/
def sign : Pattern := .optional (.one [('+', '+'), ('-', '-')])

/-- A signed exponent or nothing. -/
def exponent : Pattern :=
  .optional (.all [.one [('e', 'e'), ('E', 'E')], .one [('+', '+'), ('-', '-')], .some digit])

/-- Places to the base sixty after the first. -/
def sixties : Pattern :=
  .some (.all [.char ':', .optional (.one [('0', '5')]), digit])

/-- Truth values. -/
def boolSpelling : Pattern :=
  .anyWord ["yes", "Yes", "YES", "no", "No", "NO", "true", "True", "TRUE", "false", "False",
    "FALSE", "on", "On", "ON", "off", "Off", "OFF"]

/-- Numbers with a fraction. -/
def floatSpelling : Pattern :=
  .alt (.all [sign, digit, .many digitOrScore, .char '.', .many digitOrScore, exponent])
    (.alt (.all [.char '.', digit, .many digitOrScore, exponent])
      (.alt (.all [sign, digit, .many digitOrScore, sixties, .char '.', .many digitOrScore])
        (.alt (.all [sign, .anyWord [".inf", ".Inf", ".INF"]])
          (.anyWord [".nan", ".NaN", ".NAN"]))))

/-- Integers: binary, octal, decimal, hexadecimal, and to the base sixty. -/
def intSpelling : Pattern :=
  .seq sign
    (.alt (.seq (.word "0b") (.some (.one [('0', '1'), ('_', '_')])))
      (.alt (.seq (.char '0') (.some (.one [('0', '7'), ('_', '_')])))
        (.alt (.alt (.char '0') (.seq (.one [('1', '9')]) (.many digitOrScore)))
          (.alt (.seq (.word "0x")
              (.some (.one [('0', '9'), ('a', 'f'), ('A', 'F'), ('_', '_')])))
            (.all [.one [('1', '9')], .many digitOrScore, sixties])))))

/-- No value. -/
def nullSpelling : Pattern := .anyWord ["~", "null", "Null", "NULL", ""]

/-- Two digits. -/
def twoDigits : Pattern := .seq digit digit

/-- One digit or two. -/
def oneOrTwo : Pattern := .seq digit (.optional digit)

/-- Four digits. -/
def fourDigits : Pattern := .seq twoDigits twoDigits

/-- Blanks and tabs. -/
def gap : Pattern := .one [(' ', ' '), ('\t', '\t')]

/-- The distance from universal time. -/
def zone : Pattern :=
  .seq (.many gap) (.alt (.char 'Z')
    (.all [.one [('+', '+'), ('-', '-')], oneOrTwo, .optional (.seq (.char ':') twoDigits)]))

/-- A day, and a moment. -/
def timestampSpelling : Pattern :=
  .alt (.all [fourDigits, .char '-', twoDigits, .char '-', twoDigits])
    (.all [fourDigits, .char '-', oneOrTwo, .char '-', oneOrTwo,
      .alt (.one [('T', 'T'), ('t', 't')]) (.some gap), oneOrTwo, .char ':', twoDigits, .char ':',
      twoDigits, .optional (.seq (.char '.') (.many digit)), .optional zone])

/-- The spellings, in the order in which they are tried. -/
def spellings : List (Kind × Pattern) :=
  [(.bool, boolSpelling), (.float, floatSpelling), (.int, intSpelling), (.merge, .word "<<"),
    (.null, nullSpelling), (.timestamp, timestampSpelling), (.default, .word "="),
    (.indicator, .one [('!', '!'), ('&', '&'), ('*', '*')])]

/-- A text without one line feed at its end. -/
def withoutFinalLine (s : List Char) : List Char :=
  if s.length > 1 ∧ s.getLast? = some '\n' then s.dropLast else s

/-- The kind of a scalar.  A line feed at its end does not count. -/
def ofText (s : List Char) : Kind :=
  match spellings.find? fun k => k.2.accepts (withoutFinalLine s) with
  | some (k, _) => k
  | none => .text

end Kind

end CssMargin.Yaml
