/-
# JSON values

The values that a JSON text can stand for.  An object keeps its members in the order of the text.
They are the document values whose mappings have texts for keys; `Json.toValue` says which.
-/
import CssMargin.Value
namespace CssMargin

/-- A JSON value. -/
inductive Json where
  /-- `null`. -/
  | null
  /-- `true` or `false`. -/
  | bool (b : Bool)
  /-- A number without a fraction and an exponent. -/
  | int (n : Int)
  /-- Any other number; infinities and not-a-number are among them. -/
  | float (x : Binary64)
  /-- A text. -/
  | text (s : Text)
  /-- An array. -/
  | list (items : List Json)
  /-- An object. -/
  | object (members : List (Text × Json))
deriving Inhabited

namespace Json

mutual

/-- The document value that a JSON value is. -/
def toValue : Json → Value
  | .null => .null
  | .bool b => .bool b
  | .int n => .int n
  | .float x => .float x
  | .text s => .text s
  | .list items => .list (toValues items)
  | .object members => .map (toEntries members)

/-- The document values of the items of an array. -/
def toValues : List Json → List Value
  | [] => []
  | j :: r => j.toValue :: toValues r

/-- The entries of a mapping for the members of an object. -/
def toEntries : List (Text × Json) → List (Value × Value)
  | [] => []
  | (k, j) :: r => (.text k, j.toValue) :: toEntries r

end

theorem toValues_eq_map (items : List Json) : toValues items = items.map toValue := by
  induction items with
  | nil => rfl
  | cons j r ih => simp [toValues, ih]

theorem toEntries_eq_map (members : List (Text × Json)) :
    toEntries members = members.map fun m => (.text m.1, m.2.toValue) := by
  induction members with
  | nil => rfl
  | cons m r ih => simp [toEntries, ih]

/-- Put a member into an object.  A key that is there already keeps its place and takes the new
value. -/
def insert (k : Text) (j : Json) : List (Text × Json) → List (Text × Json)
  | [] => [(k, j)]
  | m :: r => if m.1 == k then (m.1, j) :: r else m :: insert k j r

/-- The members of an object that is filled in the order of a list. -/
def ofMembers (ms : List (Text × Json)) : List (Text × Json) :=
  ms.foldl (fun acc m => insert m.1 m.2 acc) []

/-- The value of a key of an object. -/
def get? (k : String) : Json → Option Json
  | .object ms => (ms.find? (·.1 == (k : Text))).map (·.2)
  | _ => none

mutual

/-- Whether an integer with too many digits to be shown occurs in a value. -/
def hasLongInteger : Json → Bool
  | .int n => Text.isLongInteger n
  | .list items => anyLongInteger items
  | .object members => anyLongMember members
  | _ => false

/-- Whether such an integer occurs in one of the items of an array. -/
def anyLongInteger : List Json → Bool
  | [] => false
  | j :: r => j.hasLongInteger || anyLongInteger r

/-- Whether such an integer occurs in one of the members of an object. -/
def anyLongMember : List (Text × Json) → Bool
  | [] => false
  | (_, j) :: r => j.hasLongInteger || anyLongMember r

end

/-- Whether a value is `null`. -/
def isNull : Json → Bool
  | .null => true
  | _ => false

theorem anyLongInteger_eq_any (items : List Json) :
    anyLongInteger items = items.any hasLongInteger := by
  induction items with
  | nil => rfl
  | cons j r ih => rw [anyLongInteger, ih, List.any_cons]

theorem anyLongMember_eq_any (members : List (Text × Json)) :
    anyLongMember members = members.any fun m => m.2.hasLongInteger := by
  induction members with
  | nil => rfl
  | cons m r ih => rw [anyLongMember, ih, List.any_cons]

theorem insert_eq_append {k : Text} {j : Json} {ms : List (Text × Json)}
    (h : ∀ m ∈ ms, m.1 ≠ k) : insert k j ms = ms ++ [(k, j)] := by
  induction ms with
  | nil => rfl
  | cons m r ih =>
    have hm : (m.1 == k) = false := by simpa using h m (List.mem_cons_self ..)
    simp only [insert, hm, Bool.false_eq_true, ↓reduceIte, List.cons_append]
    rw [ih fun x hx => h x (List.mem_cons_of_mem _ hx)]

/-- Members with different keys stay as they are when an object is filled with them. -/
theorem ofMembers_eq_self {ms : List (Text × Json)} (h : (ms.map (·.1)).Nodup) :
    ofMembers ms = ms := by
  suffices ∀ acc, ((acc ++ ms).map (·.1)).Nodup →
      ms.foldl (fun acc m => insert m.1 m.2 acc) acc = acc ++ ms from this [] (by simpa using h)
  induction ms with
  | nil => simp
  | cons m r ih =>
    intro acc hacc
    simp only [List.map_append, List.map_cons, List.nodup_append, List.nodup_cons] at h hacc
    have hk : ∀ x ∈ acc, x.1 ≠ m.1 := fun x hx =>
      hacc.2.2 x.1 (List.mem_map_of_mem hx) m.1 (List.mem_cons_self ..)
    rw [List.foldl_cons, insert_eq_append hk, ih h.2 (acc ++ [m])]
    · simp
    · simp only [List.append_assoc, List.singleton_append, List.map_append, List.map_cons,
        List.nodup_append, List.nodup_cons]
      exact hacc

end Json

end CssMargin
