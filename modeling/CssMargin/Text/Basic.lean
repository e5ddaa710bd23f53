/-
# Texts

A text is a sequence of characters, with one exception.  An escape in a file can name one half of a
surrogate pair, and a byte of the command line that belongs to no character is kept as such a half.
A half is no character and cannot be written as UTF-8.

A text is kept as the characters in front of its first half and, for each half, the characters
behind it, so that a text without halves is just a string.
-/
import CssMargin.Text.Numeral
namespace CssMargin

/-- One half of a surrogate pair, as its distance from U+D800. -/
abbrev Half := Fin 0x800

/-- The position of a half. -/
def Half.position (h : Half) : Nat := 0xD800 + h.val

/-- How a half is written where it cannot stand itself. -/
def Half.escape (h : Half) : List Char := '\\' :: 'u' :: Text.hexDigits 4 h.position

/-- What can stand at a place of a text. -/
inductive Point where
  /-- A character. -/
  | char (c : Char)
  /-- One half of a surrogate pair. -/
  | half (h : Half)
deriving DecidableEq, Repr

namespace Point

/-- The position of a point. -/
def position : Point → Nat
  | .char c => c.toNat
  | .half h => h.position

/-- The point at a position, which is not beyond the last character. -/
def ofPosition (n : Nat) : Point :=
  if 0xD800 ≤ n ∧ n < 0xE000 then .half (Fin.ofNat 0x800 (n - 0xD800)) else .char (Char.ofNat n)

/-- The character that a point is. -/
def char? : Point → Option Char
  | .char c => some c
  | .half _ => none

/-- The character that a point counts as when characters are classified: a half is no letter, no
digit and no blank, as the last position of the first plane. -/
def face : Point → Char
  | .char c => c
  | .half _ => '\uFFFF'

end Point

/-- Characters are points. -/
instance : Coe (List Char) (List Point) := ⟨List.map Point.char⟩

/-- The characters that points are, if they are all characters. -/
def chars? (ps : List Point) : Option (List Char) := ps.mapM Point.char?

/-- A text. -/
structure Text where
  /-- The characters in front of the first half. -/
  head : String
  /-- The halves, each with the characters behind it. -/
  tail : List (Half × String)
deriving DecidableEq, Repr, Inhabited

/-- A string is a text without halves. -/
instance : Coe String Text := ⟨fun s => ⟨s, []⟩⟩

namespace Text

/-- The points of a text. -/
def points (t : Text) : List Point :=
  t.head.toList.map .char ++ t.tail.flatMap fun r => .half r.1 :: r.2.toList.map .char

/-- The positions of the points of a text; texts are put in order by them. -/
def positions (t : Text) : List Nat := t.points.map Point.position

/-- Points cut at the halves. -/
def cutHalves : List Point → List Char × List (Half × List Char)
  | [] => ([], [])
  | .char c :: r => (c :: (cutHalves r).1, (cutHalves r).2)
  | .half h :: r => ([], (h, (cutHalves r).1) :: (cutHalves r).2)

/-- The text with given points. -/
def ofPoints (ps : List Point) : Text :=
  let (s, r) := cutHalves ps
  ⟨String.ofList s, r.map fun x => (x.1, String.ofList x.2)⟩

/-- A text in front of another one, given by its parts. -/
def appendTo (u : Text) : String → List (Half × String) → Text
  | s, [] => ⟨s ++ u.head, u.tail⟩
  | s, (h, s') :: r =>
    let t := appendTo u s' r
    ⟨s, (h, t.head) :: t.tail⟩

instance : Append Text := ⟨fun t u => appendTo u t.head t.tail⟩

/-- Texts with a separator between them. -/
def join (separator : Text) : List Text → Text
  | [] => ""
  | [t] => t
  | t :: r => t ++ separator ++ join separator r

/-- A sequence cut at every place where a given element stands; there is one piece more than there
are such places. -/
def cutAt {α : Type} [DecidableEq α] (x : α) : List α → List (List α)
  | [] => [[]]
  | a :: r =>
    if a = x then [] :: cutAt x r
    else match cutAt x r with
      | p :: ps => (a :: p) :: ps
      | [] => [[a]]

/-- A text whose strings between the halves are changed. -/
def map (f : String → String) (t : Text) : Text := ⟨f t.head, t.tail.map fun r => (r.1, f r.2)⟩

/-- Whether a text has no halves. -/
def isWhole (t : Text) : Bool := t.tail.isEmpty

/-- A text with its halves written as escapes. -/
def escaped (t : Text) : String :=
  t.head ++ String.join (t.tail.map fun r => String.ofList r.1.escape ++ r.2)

/-! ### Writing a text as UTF-8 -/

/-- A stretch of halves that cannot be written. -/
structure Stray where
  /-- The first of them. -/
  half : Half
  /-- Its place in the text. -/
  first : Nat
  /-- The place of the last one. -/
  last : Nat
deriving DecidableEq, Repr

/-- The report on a stretch of halves. -/
def Stray.message (x : Stray) : String :=
  let place :=
    if x.first = x.last then
      "character '" ++ String.ofList x.half.escape ++ "' in position " ++ toString x.first
    else "characters in position " ++ toString x.first ++ "-" ++ toString x.last
  "'utf-8' codec can't encode " ++ place ++ ": surrogates not allowed"

/-- The first stretch that begins with a half of a given kind; it ends where a character follows. -/
def findStray (bad : Half → Bool) : (place : Nat) → List Point → Option Stray
  | _, [] => none
  | place, .char _ :: r => findStray bad (place + 1) r
  | place, .half h :: r =>
    if bad h then some ⟨h, place, place + (r.takeWhile fun p => p.char?.isNone).length⟩
    else findStray bad (place + 1) r

/-- The string that a text is, unless halves keep it from being written. -/
def whole (t : Text) : Except Stray String :=
  match findStray (fun _ => true) 0 t.points with
  | some x => .error x
  | none => .ok t.head

/-! ### Lemmas -/

@[simp] theorem face_chars (s : List Char) : (s.map Point.char).map Point.face = s := by
  induction s with
  | nil => rfl
  | cons c r ih => rw [List.map_cons, List.map_cons, ih, Point.face]

@[simp] theorem ofPosition_toNat (c : Char) : Point.ofPosition c.toNat = .char c := by
  have hvalid : c.toNat < 0xD800 ∨ (0xDFFF < c.toNat ∧ c.toNat < 0x110000) := c.valid
  rw [Point.ofPosition, if_neg (by omega), Char.ofNat_toNat]

@[simp] theorem ofPosition_position (h : Half) : Point.ofPosition h.position = .half h := by
  have hlt := h.isLt
  rw [Point.ofPosition, if_pos (by rw [Half.position]; omega), Half.position,
    Nat.add_sub_cancel_left]
  exact congrArg Point.half (Fin.ofNat_val_eq_self h)

@[simp] theorem coe_inj {s t : String} : (s : Text) = (t : Text) ↔ s = t := by
  rw [mk.injEq]
  exact and_iff_left rfl

@[simp] theorem points_coe (s : String) : points s = s.toList.map .char := by
  simp [points]

@[simp] theorem isWhole_coe (s : String) : isWhole s = true := rfl

@[simp] theorem isWhole_append (t u : Text) : (t ++ u).isWhole = (t.isWhole && u.isWhole) := by
  obtain ⟨s, r⟩ := t
  cases r <;> rfl

theorem eq_coe_of_isWhole {t : Text} (h : t.isWhole = true) : t = t.head := by
  obtain ⟨s, r⟩ := t
  obtain rfl : r = [] := List.isEmpty_iff.1 h
  rfl

@[simp] theorem map_coe (f : String → String) (s : String) : map f s = f s := rfl

@[simp] theorem coe_append_coe (s t : String) :
    (s : Text) ++ (t : Text) = ((s ++ t : String) : Text) := rfl

theorem cons_append (s : String) (x : Half × String) (r : List (Half × String)) (u : Text) :
    (⟨s, x :: r⟩ : Text) ++ u =
      ⟨s, (x.1, ((⟨x.2, r⟩ : Text) ++ u).head) :: ((⟨x.2, r⟩ : Text) ++ u).tail⟩ := rfl

@[simp] theorem points_append (t u : Text) : (t ++ u).points = t.points ++ u.points := by
  obtain ⟨s, r⟩ := t
  induction r generalizing s with
  | nil =>
    have hnil : (⟨s, []⟩ : Text) ++ u = ⟨s ++ u.head, u.tail⟩ := rfl
    simp [hnil, points]
  | cons x r ih =>
    have hrest := ih x.2
    rw [cons_append]
    simp only [points, List.flatMap_cons] at hrest ⊢
    rw [List.cons_append, hrest]
    simp

@[simp] theorem cutHalves_chars (s : List Char) : cutHalves (s.map .char) = (s, []) := by
  induction s with
  | nil => rfl
  | cons c r ih => simp [cutHalves, ih]

@[simp] theorem ofPoints_chars (s : List Char) : ofPoints (s.map .char) = String.ofList s := by
  simp [ofPoints]

theorem cutHalves_chars_append (s : List Char) (ps : List Point) :
    cutHalves (s.map .char ++ ps) = (s ++ (cutHalves ps).1, (cutHalves ps).2) := by
  induction s with
  | nil => rfl
  | cons c r ih => rw [List.map_cons, List.cons_append, cutHalves, ih, List.cons_append]

/-- A text is made up of its points. -/
@[simp] theorem ofPoints_points (t : Text) : ofPoints t.points = t := by
  obtain ⟨head, tail⟩ := t
  have htail : cutHalves (tail.flatMap fun r => Point.half r.1 :: r.2.toList.map .char) =
      ([], tail.map fun r => (r.1, r.2.toList)) := by
    induction tail with
    | nil => rfl
    | cons x r ih =>
      rw [List.flatMap_cons, List.cons_append, cutHalves, cutHalves_chars_append, ih,
        List.append_nil, List.map_cons]
  rw [ofPoints, points, cutHalves_chars_append, htail, List.append_nil]
  simp [Function.comp_def]

@[simp] theorem points_ofPoints (ps : List Point) : (ofPoints ps).points = ps := by
  have hhead : ∀ ps, ((cutHalves ps).1.map .char ++ (cutHalves ps).2.flatMap fun r =>
      .half r.1 :: r.2.map .char) = ps := by
    intro ps
    induction ps with
    | nil => rfl
    | cons p r ih => cases p <;> simp [cutHalves, ih]
  simpa [ofPoints, points, List.flatMap_map] using hhead ps

@[simp] theorem append_empty (t : Text) : t ++ (("" : String) : Text) = t := by
  rw [← ofPoints_points (t ++ _), points_append, points_coe, String.toList_empty, List.map_nil,
    List.append_nil, ofPoints_points]

theorem append_assoc (t u v : Text) : t ++ u ++ v = t ++ (u ++ v) := by
  rw [← ofPoints_points (t ++ u ++ v), ← ofPoints_points (t ++ (u ++ v))]
  simp only [points_append, List.append_assoc]

@[simp] theorem findStray_chars (bad : Half → Bool) (place : Nat) (s : List Char) :
    findStray bad place (s.map .char) = none := by
  induction s generalizing place with
  | nil => rfl
  | cons c r ih => simp [findStray, ih]

@[simp] theorem whole_coe (s : String) : whole s = .ok s := by
  simp [whole]

theorem findStray_chars_append (bad : Half → Bool) (place : Nat) (s : List Char) (ps : List Point) :
    findStray bad place (s.map .char ++ ps) = findStray bad (place + s.length) ps := by
  induction s generalizing place with
  | nil => rfl
  | cons c r ih =>
    rw [List.map_cons, List.cons_append, findStray, ih, List.length_cons, Nat.add_right_comm,
      Nat.add_assoc]

/-- A text with halves cannot be written. -/
theorem exists_whole_eq_error {t : Text} (h : t.isWhole = false) : ∃ x, t.whole = .error x := by
  obtain ⟨s, r⟩ := t
  cases r with
  | nil => cases h
  | cons x r =>
    rw [whole, points, findStray_chars_append, List.flatMap_cons, List.cons_append, findStray,
      if_pos rfl]
    exact ⟨_, rfl⟩

theorem exists_half_mem_points {t : Text} (h : t.isWhole = false) : ∃ x, .half x ∈ t.points := by
  obtain ⟨s, r⟩ := t
  cases r with
  | nil => cases h
  | cons x r => exact ⟨x.1, by simp [points]⟩

theorem isWhole_eq_false_of_mem {t : Text} {x : Half} (h : .half x ∈ t.points) :
    t.isWhole = false := by
  cases hwhole : t.isWhole with
  | false => rfl
  | true =>
    rw [eq_coe_of_isWhole hwhole, points_coe] at h
    obtain ⟨c, -, hc⟩ := List.mem_map.1 h
    cases hc

/-- What can be written is a string, and is written as it is. -/
theorem eq_coe_of_whole {t : Text} {s : String} (h : t.whole = .ok s) : t = s := by
  cases hwhole : t.isWhole with
  | true =>
    rw [eq_coe_of_isWhole hwhole, whole_coe] at h
    rw [eq_coe_of_isWhole hwhole, Except.ok.inj h]
  | false =>
    obtain ⟨x, hx⟩ := exists_whole_eq_error hwhole
    rw [hx] at h
    cases h

end Text

end CssMargin
