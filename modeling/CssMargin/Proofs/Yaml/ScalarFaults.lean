/-
# Scalars that are not what their tag says

A scalar is converted as its tag says, and what is said need not be so: a date may not exist, a
scalar that is tagged as an integer may be none.  `Mishap.Under` lists the mishaps that can come of
this for each tag; texts, bytes and empty scalars have none of them.
-/
import CssMargin.Proofs.Chain
import CssMargin.Yaml.Meaning.Scalar
namespace CssMargin.Yaml

/-- The mishaps that the conversion of a scalar with a tag can have. -/
inductive Mishap.Under : Tag → Mishap → Prop where
  /-- An integer without digits. -/
  | emptyInteger : Under (.kind .int) .emptyNumber
  /-- Not an integer. -/
  | integer (base : Nat) (text : List Point) : Under (.kind .int) (.integer base text)
  /-- An integer with too many digits. -/
  | longInteger {digits : Nat} (h : Text.digitLimit < digits) :
    Under (.kind .int) (.longInteger digits)
  /-- A number that is empty. -/
  | emptyNumber : Under (.kind .float) .emptyNumber
  /-- Not a number. -/
  | number (text : List Point) : Under (.kind .float) (.number text)
  /-- A number to the base sixty with too many places. -/
  | largeWeight : Under (.kind .float) .largeWeight
  /-- Not a truth value. -/
  | truth (text : List Point) : Under (.kind .bool) (.truth text)
  /-- Not of the form of a day or a moment. -/
  | timestamp : Under (.kind .timestamp) .timestamp
  /-- A day or a time of day that does not exist. -/
  | calendar (fault : CalendarFault) : Under (.kind .timestamp) (.calendar fault)

/-- Whether a conversion has only the mishaps that its tag allows. -/
def Converts {α : Type} (tag : Tag) (r : Except Mishap α) : Prop :=
  Ends (fun m => m.Under tag) (fun _ => True) r

lemma Converts.map {α β : Type} {tag : Tag} {r : Except Mishap α} (h : Converts tag r)
    (f : α → β) : Converts tag (f <$> r) := Ends.map h fun _ _ => trivial

/-! ### Integers -/

lemma converts_integerOf (base : Nat) (s : List Point) :
    Converts (.kind .int) (integerOf base s) := by
  rw [integerOf]
  dsimp only
  split
  · rename_i hlong
    exact .longInteger hlong.2
  · split
    · exact .integer base s
    · trivial

lemma converts_magnitudeOf (s : List Point) : Converts (.kind .int) (magnitudeOf s) := by
  rw [magnitudeOf.eq_def]
  split
  · exact .emptyInteger
  · trivial
  · exact converts_integerOf 2 _
  · exact converts_integerOf 16 _
  · exact converts_integerOf 8 _
  · split
    · exact Converts.map ((Ends.mapM fun x _ => converts_integerOf 10 x).mono (fun _ h => h)
        fun _ _ => trivial) _
    · exact converts_integerOf 10 _

lemma converts_readInteger (s : List Point) : Converts (.kind .int) (readInteger s) := by
  rw [readInteger]
  dsimp only
  split
  · exact .emptyInteger
  · exact (converts_magnitudeOf _).map _

/-! ### Numbers with a fraction -/

lemma converts_numberOf (s : List Point) : Converts (.kind .float) (numberOf s) := by
  rw [numberOf]
  dsimp only
  split
  · trivial
  · split
    · trivial
    · split
      · trivial
      · exact .number s

lemma converts_sumSixties (weight : Nat) (sum : Binary64) (places : List Binary64) :
    Converts (.kind .float) (sumSixties weight sum places) := by
  induction places generalizing weight sum with
  | nil => trivial
  | cons p places ih =>
    rw [sumSixties]
    split
    · exact .largeWeight
    · exact ih _ _

lemma converts_readNumber (s : List Point) : Converts (.kind .float) (readNumber s) := by
  rw [readNumber]
  dsimp only
  split
  · exact .emptyNumber
  · split
    · trivial
    · split
      · trivial
      · split
        · exact (Ends.mapM fun x _ => converts_numberOf x).bind fun _ _ =>
            (converts_sumSixties _ _ _).map _
        · exact (converts_numberOf _).map _

/-! ### All scalars -/

lemma converts_readTruth (s : List Point) : Converts (.kind .bool) (readTruth s) := by
  rw [readTruth]
  split
  · trivial
  · split
    · trivial
    · exact .truth _

lemma converts_timestampOf (s : List Char) : Converts (.kind .timestamp) (timestampOf s) := by
  rw [timestampOf]
  split
  · exact .timestamp
  · split
    · split
      · trivial
      · exact .calendar _
    · split
      · exact .timestamp
      · split
        · trivial
        · exact .calendar _

lemma converts_readTimestamp (s : List Point) :
    Converts (.kind .timestamp) (readTimestamp s) := by
  rw [readTimestamp]
  split
  · exact converts_timestampOf _
  · exact .timestamp

/-- Whether a scalar that cannot be converted is malformed or has one of the mishaps of its tag. -/
def IsScalarFault (tag : Tag) (f : Fault) : Prop :=
  f = .malformed ∨ ∃ m, f = .mishap m ∧ m.Under tag

theorem ends_scalarValue (tag : Tag) (s : List Point) :
    Ends (IsScalarFault tag) (fun _ => True) (scalarValue tag s) := by
  have hscalar {α : Type} {tag : Tag} {r : Except Mishap α} {f : α → Value}
      (h : Converts tag r) : Ends (IsScalarFault tag) (fun _ => True) (ofScalar f r) := by
    cases r with
    | ok a => trivial
    | error m => exact .inr ⟨m, rfl, h⟩
  unfold scalarValue
  split
  · trivial
  · trivial
  · exact hscalar (converts_readTruth s)
  · exact hscalar (converts_readInteger s)
  · exact hscalar (converts_readNumber s)
  · exact hscalar (converts_readTimestamp s)
  · rw [readBinary]
    split
    · split
      · trivial
      · exact .inl rfl
    · exact .inl rfl
  · exact .inl rfl

end CssMargin.Yaml
