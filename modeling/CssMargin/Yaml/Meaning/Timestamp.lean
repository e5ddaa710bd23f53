/-
# Days and moments in YAML

A day is written as year, month and day.  A moment adds a time after the letter T or blanks,
possibly a fraction of a second, of which six digits count, and possibly its distance from
universal time.
-/
import CssMargin.Yaml.Cursor
import CssMargin.Yaml.Fault
namespace CssMargin.Yaml

/-- Between `least` and `most` digits from the front of a text, as many as there are. -/
def takeDigits? (least most : Nat) (s : List Char) : Option (Nat × List Char) :=
  let ds := (s.take most).takeWhile Char.isDigit
  if ds.length < least then none else some (Text.decimalValue ds, s.drop ds.length)

/-- A given character from the front of a text. -/
def takeChar? (c : Char) (s : List Char) : Option (List Char) :=
  match s with
  | x :: r => if x = c then some r else none
  | [] => none

/-- What separates the day from the time. -/
def takeSeparator? (s : List Char) : Option (List Char) :=
  match s with
  | c :: r =>
    if c = 'T' ∨ c = 't' then some r
    else if isGap c then some (r.dropWhile isGap)
    else none
  | [] => none

/-- The fraction of a second in millionths. -/
def takeFraction (s : List Char) : Nat × List Char :=
  match s with
  | '.' :: r =>
    let ds := (r.takeWhile Char.isDigit).take 6
    (Text.decimalValue ds * tenTo (6 - ds.length), r.dropWhile Char.isDigit)
  | s => (0, s)

/-- The distance from universal time that makes up the end of a text. -/
def zone? (s : List Char) : Option (Option Int) :=
  if s.isEmpty then some none
  else match s.dropWhile isGap with
    | ['Z'] => some (some 0)
    | c :: r =>
      if c = '+' ∨ c = '-' then do
        let (hours, r) ← takeDigits? 1 2 r
        let (minutes, r) ← match r with
          | ':' :: r => takeDigits? 2 2 r
          | r => some (0, r)
        if r.isEmpty then
          let seconds : Int := hours * 3600 + minutes * 60
          some (some (if c = '-' then -seconds else seconds))
        else none
      else none
    | [] => none

/-- The numbers of a day. -/
structure DayFields where
  /-- The year. -/
  year : Nat
  /-- The month. -/
  month : Nat
  /-- The day. -/
  day : Nat

/-- The numbers of a time. -/
structure TimeFields where
  /-- The hour. -/
  hour : Nat
  /-- The minute. -/
  minute : Nat
  /-- The second. -/
  second : Nat
  /-- The millionth of a second. -/
  micro : Nat
  /-- The distance from universal time. -/
  offset : Option Int

/-- A day from the front of a text. -/
def takeDay? (s : List Char) : Option (DayFields × List Char) := do
  let (year, s) ← takeDigits? 4 4 s
  let s ← takeChar? '-' s
  let (month, s) ← takeDigits? 1 2 s
  let s ← takeChar? '-' s
  let (day, s) ← takeDigits? 1 2 s
  some (⟨year, month, day⟩, s)

/-- A time that makes up a text. -/
def time? (s : List Char) : Option TimeFields := do
  let (hour, s) ← takeDigits? 1 2 s
  let s ← takeChar? ':' s
  let (minute, s) ← takeDigits? 2 2 s
  let s ← takeChar? ':' s
  let (second, s) ← takeDigits? 2 2 s
  let (micro, s) := takeFraction s
  let offset ← zone? s
  some ⟨hour, minute, second, micro, offset⟩

/-- The day or the moment that characters spell. -/
def timestampOf (s : List Char) : Except Mishap (Date ⊕ Moment) :=
  let s := if s.getLast? = some '\n' then s.dropLast else s
  match takeDay? s with
  | none => .error .timestamp
  | some (d, r) =>
    if r.isEmpty then
      match Date.of d.year d.month d.day with
      | .ok d => .ok (.inl d)
      | .error f => .error (.calendar f)
    else match (takeSeparator? r).bind time? with
      | none => .error .timestamp
      | some t =>
        match Moment.of d.year d.month d.day t.hour t.minute t.second t.micro t.offset with
        | .ok m => .ok (.inr m)
        | .error f => .error (.calendar f)

/-- Read a day or a moment. -/
def readTimestamp (s : List Point) : Except Mishap (Date ⊕ Moment) :=
  match chars? s with
  | some s => timestampOf s
  | none => .error .timestamp

end CssMargin.Yaml
