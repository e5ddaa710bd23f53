/-
# Message templates

The message of a log record is a template and arguments.  A directive in the template starts with
a percent sign; then follow, each of them optional, the name of an argument in parentheses, flags,
a width, a precision and a letter for the size, and at last the letter that says how the argument is
shown.  Two percent signs stand for one.  The width and the precision may be asterisks; then they
are arguments themselves.

The arguments are a sequence, which has to be used up, or a mapping, from which arguments are taken
by name; a directive without a name takes the mapping as a whole.

A template is first cut into pieces, which cannot fail: a directive that breaks off is a piece too.
The pieces are then filled from left to right, and the first fault ends this.
-/
import CssMargin.Decimal.Fixed
import CssMargin.Text.Numeral
import CssMargin.Value.Shown
namespace CssMargin.Log

/-! ### Pieces -/

/-- The name of an argument in a directive. -/
inductive Key where
  /-- There is none. -/
  | absent
  /-- A name. -/
  | named (name : String)
  /-- A name whose parenthesis is not closed. -/
  | unclosed
deriving DecidableEq, Repr

/-- A width or a precision in a directive. -/
inductive Extent where
  /-- There is none. -/
  | absent
  /-- A number. -/
  | given (n : Nat)
  /-- An asterisk. -/
  | argument
deriving DecidableEq, Repr

/-- The flags of a directive. -/
structure Flags where
  /-- `-`: the padding is on the right. -/
  left : Bool
  /-- `+`: a sign is always shown. -/
  plus : Bool
  /-- A blank: a blank stands where a minus would. -/
  blank : Bool
  /-- `#`: the other form. -/
  alternate : Bool
  /-- `0`: the padding is with zeros. -/
  zero : Bool
deriving DecidableEq, Repr

/-- A directive. -/
structure Directive where
  /-- The name of the argument. -/
  key : Key
  /-- The flags. -/
  flags : Flags
  /-- The width. -/
  width : Extent
  /-- The precision. -/
  precision : Extent
  /-- The letter at the end, missing if the template breaks off. -/
  letter : Option Char
  /-- The position of the letter in the template. -/
  position : Nat
deriving DecidableEq, Repr

/-- A piece of a template. -/
inductive Piece where
  /-- A character that stands for itself. -/
  | char (c : Char)
  /-- A directive. -/
  | directive (d : Directive)
deriving DecidableEq, Repr

/-- The text up to the parenthesis that closes, and what follows it.  Parentheses in between have
to match. -/
def closeKey : (depth : Nat) → List Char → Option (List Char × List Char)
  | _, [] => none
  | depth, c :: r =>
    if c = ')' then
      match depth with
      | 0 => some ([], r)
      | depth + 1 => (closeKey depth r).map fun x => (c :: x.1, x.2)
    else (closeKey (if c = '(' then depth + 1 else depth) r).map fun x => (c :: x.1, x.2)

/-- Read the name of an argument. -/
def readKey : List Char → Key × List Char
  | '(' :: r =>
    match closeKey 0 r with
    | some (name, rest) => (.named (String.ofList name), rest)
    | none => (.unclosed, [])
  | s => (.absent, s)

/-- Whether a character is a flag. -/
def isFlag (c : Char) : Bool := c == '-' || c == '+' || c == ' ' || c == '#' || c == '0'

/-- The flags that occur in a text. -/
def Flags.of (s : List Char) : Flags :=
  ⟨s.contains '-', s.contains '+', s.contains ' ', s.contains '#', s.contains '0'⟩

/-- Read a width. -/
def readWidth : List Char → Extent × List Char
  | '*' :: r => (.argument, r)
  | s =>
    match s.takeWhile Char.isDigit with
    | [] => (.absent, s)
    | ds => (.given (Text.decimalValue ds), s.dropWhile Char.isDigit)

/-- Read a precision; a point alone stands for zero. -/
def readPrecision : List Char → Extent × List Char
  | '.' :: r =>
    match readWidth r with
    | (.absent, rest) => (.given 0, rest)
    | x => x
  | s => (.absent, s)

/-- Pass over the letter for the size. -/
def dropSize : List Char → List Char
  | c :: r => if c = 'h' ∨ c = 'l' ∨ c = 'L' then r else c :: r
  | [] => []

/-- Read a directive after its percent sign.  The number of characters of the whole template is
needed to say where the letter stands. -/
def readDirective (total : Nat) (s : List Char) : Directive × List Char :=
  let (key, s) := readKey s
  let flags := Flags.of (s.takeWhile isFlag)
  let (width, s) := readWidth (s.dropWhile isFlag)
  let (precision, s) := readPrecision s
  let s := dropSize s
  (⟨key, flags, width, precision, s.head?, total - s.length⟩, s.drop 1)

/-- Cut a template into pieces, of which there are at most as many as characters. -/
def cutPieces (total : Nat) : (fuel : Nat) → List Char → List Piece
  | 0, _ | _, [] => []
  | fuel + 1, '%' :: '%' :: r => .char '%' :: cutPieces total fuel r
  | fuel + 1, '%' :: r =>
    let (d, rest) := readDirective total r
    .directive d :: cutPieces total fuel rest
  | fuel + 1, c :: r => .char c :: cutPieces total fuel r

/-- The pieces of a template. -/
def pieces (template : List Char) : List Piece :=
  cutPieces template.length template.length template

/-! ### Arguments -/

/-- The arguments of a template. -/
inductive Arguments where
  /-- A sequence. -/
  | sequence (items : List Value)
  /-- A mapping. -/
  | mapping (entries : List (Value × Value))

/-- Given arguments: a single mapping that is not empty is taken by name. -/
def Arguments.of : List Value → Arguments
  | [.map (e :: r)] => .mapping (e :: r)
  | items => .sequence items

/-- Whether there are no arguments at all, so that the template is the message. -/
def Arguments.isEmpty : Arguments → Bool
  | .sequence items => items.isEmpty
  | .mapping _ => false

/-- What is left of the arguments. -/
inductive Supply where
  /-- The rest of a sequence. -/
  | sequence (items : List Value)
  /-- A mapping, and the argument that is to be taken next. -/
  | mapping (entries : List (Value × Value)) (next : Option Value)

/-- All arguments; of a mapping, the mapping itself is the first. -/
def Arguments.supply : Arguments → Supply
  | .sequence items => .sequence items
  | .mapping entries => .mapping entries (some (.map entries))

/-- What a number in a directive is used for. -/
inductive Range where
  /-- It is a width. -/
  | width
  /-- It is a precision. -/
  | precision
deriving DecidableEq, Repr

/-- The least natural number that is too big. -/
def Range.bound : Range → Nat
  | .width => twoTo 63
  | .precision => twoTo 31

/-- What a number is used for, in words. -/
def Range.name : Range → String
  | .width => "width"
  | .precision => "precision"

/-- The type that holds the numbers. -/
def Range.type : Range → String
  | .width => "ssize_t"
  | .precision => "int"

/-- What can be wrong with a template and its arguments. -/
inductive TemplateFault where
  /-- There are too few arguments. -/
  | tooFew
  /-- There are too many arguments. -/
  | tooMany
  /-- A name is given, but the arguments are no mapping. -/
  | noMapping
  /-- There is no argument of that name. -/
  | missing (name : String)
  /-- The parenthesis of a name is not closed. -/
  | openKey
  /-- A directive breaks off. -/
  | brokenOff
  /-- A directive ends with an unknown letter. -/
  | unknown (c : Char) (position : Nat)
  /-- An asterisk takes an argument that is no integer. -/
  | starred
  /-- A number in a directive is too big. -/
  | tooBig (range : Range)
  /-- An argument taken for an asterisk is too big. -/
  | starredTooBig (range : Range)
  /-- A directive needs a number. -/
  | needsNumber (letter : Char) (type : String)
  /-- A directive needs an integer. -/
  | needsInteger (letter : Char) (type : String)
  /-- A directive needs a number with a fraction. -/
  | needsFraction (type : String)
  /-- An integer is too large for a number with a fraction. -/
  | tooLarge
  /-- Not-a-number is to be shown as an integer. -/
  | notANumber
  /-- An infinity is to be shown as an integer. -/
  | infinite
  /-- A directive needs one character. -/
  | needsCharacter
  /-- There is no character at that position. -/
  | noCharacter
  /-- An integer has too many digits to be shown. -/
  | longInteger
deriving DecidableEq, Repr

/-- How an unknown letter is shown. -/
def letterText (c : Char) : String :=
  "'" ++ String.singleton (if 31 ≤ c.toNat ∧ c.toNat < 126 then c else '?') ++ "' (0x" ++
    String.ofList (Nat.toDigits 16 c.toNat) ++ ")"

/-- The wording of a fault. -/
def TemplateFault.message : TemplateFault → String
  | .tooFew => "not enough arguments for format string"
  | .tooMany => "not all arguments converted during string formatting"
  | .noMapping => "format requires a mapping"
  | .missing name => Text.literal name
  | .openKey => "incomplete format key"
  | .brokenOff => "incomplete format"
  | .unknown c position =>
    "unsupported format character " ++ letterText c ++ " at index " ++ toString position
  | .starred => "* wants int"
  | .tooBig range => range.name ++ " too big"
  | .starredTooBig range => "Python int too large to convert to C " ++ range.type
  | .needsNumber letter type =>
    "%" ++ String.singleton letter ++ " format: a real number is required, not " ++ type
  | .needsInteger letter type =>
    "%" ++ String.singleton letter ++ " format: an integer is required, not " ++ type
  | .needsFraction type => "must be real number, not " ++ type
  | .tooLarge => "int too large to convert to float"
  | .notANumber => "cannot convert float NaN to integer"
  | .infinite => "cannot convert float infinity to integer"
  | .needsCharacter => "%c requires int or char"
  | .noCharacter => "%c arg not in range(0x110000)"
  | .longInteger => Text.longIntegerMessage none

end CssMargin.Log
