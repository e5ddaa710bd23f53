/-
# Patterns of characters

The spellings that a plain YAML scalar is recognised by (numbers, dates, truth values) are regular
sets of texts.  A pattern describes such a set; a text is matched by taking the derivative of the
pattern by each of its characters in turn, that is, the pattern of what may still come, and looking
at the end whether nothing may come.
-/
namespace CssMargin.Text

/-- A regular set of texts. -/
inductive Pattern where
  /-- No text. -/
  | never
  /-- The empty text. -/
  | empty
  /-- One character out of some ranges. -/
  | one (ranges : List (Char × Char))
  /-- One after the other. -/
  | seq (p q : Pattern)
  /-- One or the other. -/
  | alt (p q : Pattern)
  /-- Any number of repetitions. -/
  | many (p : Pattern)
deriving DecidableEq, Repr

namespace Pattern

/-- A given character. -/
def char (c : Char) : Pattern := .one [(c, c)]

/-- A given text. -/
def word (s : String) : Pattern := s.toList.foldr (fun c p => .seq (char c) p) .empty

/-- One of several given texts. -/
def anyWord (ws : List String) : Pattern := ws.foldr (fun w p => .alt (word w) p) .never

/-- Patterns one after the other. -/
def all (ps : List Pattern) : Pattern := ps.foldr .seq .empty

/-- A pattern or nothing. -/
def optional (p : Pattern) : Pattern := .alt p .empty

/-- A pattern once or more often. -/
def some (p : Pattern) : Pattern := .seq p (.many p)

/-- Whether the empty text belongs to a set. -/
def acceptsEmpty : Pattern → Bool
  | never => false
  | empty => true
  | one _ => false
  | seq p q => p.acceptsEmpty && q.acceptsEmpty
  | alt p q => p.acceptsEmpty || q.acceptsEmpty
  | many _ => true

/-- One after the other, where trivial parts are left out. -/
def joinSeq : Pattern → Pattern → Pattern
  | never, _ => never
  | empty, q => q
  | p, q => if q = never then never else .seq p q

/-- One or the other, where trivial parts are left out. -/
def joinAlt (p q : Pattern) : Pattern :=
  if p = never then q else if q = never then p else if p = q then p else .alt p q

/-- What may follow a character. -/
def derive (c : Char) : Pattern → Pattern
  | never => never
  | empty => never
  | one ranges => if ranges.any fun r => decide (r.1 ≤ c) && decide (c ≤ r.2) then empty else never
  | seq p q =>
    let first := joinSeq (p.derive c) q
    if p.acceptsEmpty then joinAlt first (q.derive c) else first
  | alt p q => joinAlt (p.derive c) (q.derive c)
  | many p => joinSeq (p.derive c) (.many p)

/-- Whether a text belongs to a set. -/
def accepts (p : Pattern) : List Char → Bool
  | [] => p.acceptsEmpty
  | c :: r => p != never && (p.derive c).accepts r

end Pattern

end CssMargin.Text
