/-
# JSON written and read

A value without fractions, whose texts have no two halves that make up a pair, whose objects have no
key twice and whose integers are not too long, is read as it was written, in every layout; a layout
that sorts members gives it back with its members sorted.

Which characters the text has depends on the layout: in ASCII there are none but those that can be
seen, blanks and line feeds, and on one line there are no control characters.  Both are instances of
one induction over the value, with the kind of characters as a parameter.
-/
import CssMargin.Proofs.Json.Collections
import CssMargin.Text.Terminal
import Mathlib.Data.Bool.AllAny
namespace CssMargin.Json

/-! ### What can be read again -/

/-- A value whose text is read as a value of the same kind. -/
inductive Readable : Json → Prop
  | null : Readable .null
  | bool (b : Bool) : Readable (.bool b)
  | int {n : Int} (h : (Nat.toDigits 10 n.natAbs).length ≤ Text.digitLimit) : Readable (.int n)
  | text {t : Text} (h : Unpaired t.points) : Readable (.text t)
  | list {items : List Json} (h : ∀ j ∈ items, Readable j) : Readable (.list items)
  | object {members : List (Text × Json)} (hkeys : (members.map (·.1)).Nodup)
      (hpaired : ∀ m ∈ members, Unpaired m.1.points) (h : ∀ m ∈ members, Readable m.2) :
      Readable (.object members)

/-- Texts of characters alone can be read again. -/
lemma Readable.string (s : String) : Readable (.text s) := .text (unpaired_coe s)

/-- An object whose keys are different strings can be read again if its values can. -/
lemma Readable.object_of_strings {members : List (Text × Json)} {keys : List String}
    (hkeys : members.map (·.1) = keys.map fun k : String => (k : Text)) (hnodup : keys.Nodup)
    (h : ∀ m ∈ members, Readable m.2) : Readable (.object members) := by
  refine .object ?_ (fun m hm => ?_) h
  · rw [hkeys]
    exact List.Pairwise.map _ (fun k k' hne hk => hne (Text.coe_inj.1 hk)) hnodup
  · have hkey := List.mem_map_of_mem (f := (·.1)) hm
    rw [hkeys, List.mem_map] at hkey
    obtain ⟨k, -, hk⟩ := hkey
    exact hk ▸ unpaired_coe k

mutual

/-- A value with the members of its objects in the order of a layout. -/
def arranged (l : Layout) : Json → Json
  | .list items => .list (arrangedItems l items)
  | .object members => .object (l.arrange (arrangedMembers l members))
  | j => j

/-- The items of an array, each of them in the order of a layout. -/
def arrangedItems (l : Layout) : List Json → List Json
  | [] => []
  | j :: r => arranged l j :: arrangedItems l r

/-- The members of an object, the value of each in the order of a layout. -/
def arrangedMembers (l : Layout) : List (Text × Json) → List (Text × Json)
  | [] => []
  | (k, j) :: r => (k, arranged l j) :: arrangedMembers l r

end

lemma arrangedItems_eq_map (l : Layout) (items : List Json) :
    arrangedItems l items = items.map (arranged l) := by
  induction items with
  | nil => rfl
  | cons j r ih => rw [arrangedItems, ih, List.map_cons]

lemma arrangedMembers_eq_map (l : Layout) (ms : List (Text × Json)) :
    arrangedMembers l ms = ms.map fun m => (m.1, arranged l m.2) := by
  induction ms with
  | nil => rfl
  | cons m r ih => rw [arrangedMembers, ih, List.map_cons]

/-! ### The order of a layout -/

namespace Layout

variable {α β : Type}

lemma arrange_perm (l : Layout) (ms : List (Text × α)) : (l.arrange ms).Perm ms := by
  unfold arrange
  split
  · exact List.mergeSort_perm ms _
  · exact List.Perm.refl ms

/-- The order depends on the keys alone. -/
lemma arrange_map (l : Layout) (f : α → β) (ms : List (Text × α)) :
    l.arrange (ms.map fun m => (m.1, f m.2)) = (l.arrange ms).map fun m => (m.1, f m.2) := by
  unfold arrange
  split
  · rw [sortMembers, sortMembers, List.map_mergeSort]
    intros
    rfl
  · rfl

/-- A new line is blank. -/
lemma blank_newline (l : Layout) (level : Nat) : Blank (l.newline level) := by
  unfold newline
  split
  · exact fun c hc => by cases hc
  · intro c hc
    rcases List.mem_cons.1 hc with rfl | hc
    · rfl
    · rw [List.eq_of_mem_replicate hc]
      rfl

/-- What stands between two items is a comma and blanks. -/
lemma exists_separator (l : Layout) (level : Nat) :
    ∃ gap, l.separator level = ',' :: gap ∧ Blank gap := by
  unfold separator
  split
  · exact ⟨[' '], rfl, fun c hc => by rw [List.mem_singleton.1 hc]; rfl⟩
  · exact ⟨l.newline level, rfl, blank_newline l level⟩

end Layout

/-! ### The round trip -/

/-- What was written is read as the value in the order of the layout. -/
theorem Readable.reads {j : Json} (h : Readable j) (l : Layout) (level : Nat) :
    Reads (writeAt l level j) (arranged l j) := by
  induction h generalizing level with
  | null => exact reads_null
  | bool b => exact reads_bool b
  | int h => exact reads_int _ h
  | text h => exact reads_text l.ascii h
  | @list items _ ih =>
    obtain ⟨gap, hsep, hgap⟩ := l.exists_separator (level + 1)
    rw [writeAt, arranged, writeItems_eq_map, arrangedItems_eq_map]
    cases items with
    | nil => exact reads_list_nil
    | cons j r =>
      have hitems : List.Forall₂ Reads ((j :: r).map (writeAt l (level + 1)))
          ((j :: r).map (arranged l)) := by
        rw [List.forall₂_map_left_iff, List.forall₂_map_right_iff, List.forall₂_same]
        exact fun i hi => ih i hi (level + 1)
      rw [hsep]
      exact reads_list (l.blank_newline _) hgap (l.blank_newline _) (List.cons_ne_nil _ _) hitems
  | @object members hkeys hpaired _ ih =>
    obtain ⟨gap, hsep, hgap⟩ := l.exists_separator (level + 1)
    have hperm := l.arrange_perm members
    -- the writer sorts the texts of the members and `arranged` their values
    rw [writeAt, arranged, writeMembers_eq_map, arrangedMembers_eq_map, l.arrange_map,
      l.arrange_map]
    have hkeys' : (((l.arrange members).map fun m => (m.1, arranged l m.2)).map (·.1)).Nodup := by
      rw [List.map_map]
      exact (hperm.map (·.1)).nodup_iff.2 hkeys
    cases hms : l.arrange members with
    | nil => exact reads_object_nil
    | cons m r =>
      rw [hms] at hkeys' hperm
      have hmembers : List.Forall₂ (ReadsMember l.ascii)
          (((m :: r).map fun m => (m.1, writeAt l (level + 1) m.2)).map
            fun t => writeText l.ascii t.1 ++ ':' :: ' ' :: t.2)
          ((m :: r).map fun m => (m.1, arranged l m.2)) := by
        rw [List.forall₂_map_left_iff, List.forall₂_map_left_iff, List.forall₂_map_right_iff,
          List.forall₂_same]
        intro i hi
        have hmem := hperm.mem_iff.1 hi
        exact ⟨hpaired i hmem, _, rfl, ih i hmem (level + 1)⟩
      rw [hsep]
      exact reads_object (l.blank_newline _) hgap (l.blank_newline _) (List.cons_ne_nil _ _) hkeys'
        hmembers

/-- A text that was written is read as the value in the order of the layout, also when blanks
follow it. -/
theorem read_writeAt {j : Json} (h : Readable j) (l : Layout) {blanks : List Char}
    (hblanks : Blank blanks) : read (writeAt l 0 j ++ blanks) = .ok (arranged l j) := by
  have hreads := h.reads l 0
  obtain ⟨c, r, ht, hc, -, hmark⟩ := hreads.starts
  have hskip : skip (writeAt l 0 j ++ blanks) = writeAt l 0 j ++ blanks := by
    rw [ht]
    exact skip_cons hc _
  have hend : skip blanks = [] := by
    have hall := skip_append (s := []) hblanks
    rwa [List.append_nil] at hall
  have hnumber : EndsNumber blanks := by
    have hnil : EndsNumber [] := fun _ h => by cases h
    simpa using endsNumber_append hblanks hnil
  have hfuel : 2 * (writeAt l 0 j).length ≤ 2 * (writeAt l 0 j ++ blanks).length + 1 := by
    rw [List.length_append]
    omega
  have hhead : (writeAt l 0 j ++ blanks).head? ≠ some '\uFEFF' := by
    rw [ht]
    exact fun h => hmark (Option.some.inj h)
  -- nothing is skipped in front of the value, and everything behind it
  rw [read, if_neg hhead, hskip, hreads.read _ _ hfuel hnumber, ok_bind]
  dsimp only
  rw [hend]

/-- A layout that does not sort leaves a value as it is. -/
lemma Readable.arranged_eq_self {j : Json} (h : Readable j) {l : Layout} (hl : l.sorted = false) :
    arranged l j = j := by
  induction h with
  | null | bool | int | text => rfl
  | @list items _ ih =>
    rw [arranged, arrangedItems_eq_map, List.map_congr_left ih, List.map_id']
  | @object members _ _ _ ih =>
    have hmembers : members.map (fun m => (m.1, arranged l m.2)) = members :=
      (List.map_congr_left fun m hm => congrArg (m.1, ·) (ih m hm)).trans (List.map_id' members)
    rw [arranged, arrangedMembers_eq_map, hmembers, Layout.arrange, hl]
    rfl

/-! ### The characters of the text -/

/-- A value without fractions, whatever its integers and keys are. -/
inductive Integral : Json → Prop
  | null : Integral .null
  | bool (b : Bool) : Integral (.bool b)
  | int (n : Int) : Integral (.int n)
  | text (t : Text) : Integral (.text t)
  | list {items : List Json} (h : ∀ j ∈ items, Integral j) : Integral (.list items)
  | object {members : List (Text × Json)} (h : ∀ m ∈ members, Integral m.2) :
      Integral (.object members)

/-- What can be read again has no integers that are too long. -/
lemma Readable.hasLongInteger {j : Json} (h : Readable j) : j.hasLongInteger = false := by
  induction h with
  | null | bool | text => rfl
  | int h => exact decide_eq_false (Nat.not_lt.2 h)
  | list _ ih =>
    rw [Json.hasLongInteger, anyLongInteger_eq_any]
    exact List.any_eq_false.2 fun j hj => by simp [ih j hj]
  | object _ _ _ ih =>
    rw [Json.hasLongInteger, anyLongMember_eq_any]
    exact List.any_eq_false.2 fun m hm => by simp [ih m hm]

lemma Readable.integral {j : Json} (h : Readable j) : Integral j := by
  induction h with
  | null => exact .null
  | bool b => exact .bool b
  | int _ => exact .int _
  | text _ => exact .text _
  | list _ ih => exact .list ih
  | object _ _ _ ih => exact .object ih

/-- Whether the characters that a layout makes use of are all of one kind. -/
structure Layout.UsesOnly (l : Layout) (P : Char → Prop) : Prop where
  /-- Those that are visible in ASCII, and blanks. -/
  visible : ∀ c, 0x20 ≤ c.toNat ∧ c.toNat < 0x7F → P c
  /-- Line feeds, if there is more than one line. -/
  lineFeed : l.indent ≠ none → P '\n'
  /-- Those outside ASCII, if they are not escaped. -/
  other : l.ascii = false → ∀ c, 0x20 ≤ c.toNat → P c

section Characters

variable {l : Layout} {P : Char → Prop} (hl : l.UsesOnly P)

include hl

/-- A text that is written by itself consists of visible characters. -/
lemma Layout.UsesOnly.of_visible {t : List Char}
    (ht : ∀ c ∈ t, 0x20 ≤ c.toNat ∧ c.toNat < 0x7F) : ∀ c ∈ t, P c :=
  fun c hc => hl.visible c (ht c hc)

lemma forall_mem_unicodeEscape (n : Nat) : ∀ c ∈ unicodeEscape n, P c := by
  refine hl.of_visible fun c hc => ?_
  simp only [unicodeEscape, List.mem_cons] at hc
  rcases hc with rfl | rfl | hc
  · decide
  · decide
  · obtain ⟨k, hk, rfl⟩ := Text.mem_hexDigits hc
    have hall : ∀ k < 16, 0x20 ≤ (Nat.digitChar k).toNat ∧ (Nat.digitChar k).toNat < 0x7F := by
      decide
    exact hall k hk

lemma forall_mem_writeChar (x : Char) : ∀ c ∈ writeChar l.ascii x, P c := by
  intro c hc
  have hwritten := written_writeChar l.ascii x
  generalize writeChar l.ascii x = t at hwritten hc
  cases hwritten with
  | letter _ hvisible =>
    simp only [List.mem_cons, List.not_mem_nil, or_false] at hc
    rcases hc with rfl | rfl
    · exact hl.visible _ (by decide)
    · exact hl.visible _ hvisible
  | number _ => exact forall_mem_unicodeEscape hl _ c hc
  | self _ _ hlow hascii =>
    rw [List.mem_singleton.1 hc]
    rcases hascii with h | h
    · exact hl.other h x hlow
    · exact hl.visible x ⟨hlow, h⟩
  | pair _ =>
    rcases List.mem_append.1 hc with hc | hc
    · exact forall_mem_unicodeEscape hl _ c hc
    · exact forall_mem_unicodeEscape hl _ c hc

lemma forall_mem_writePoint (p : Point) : ∀ c ∈ writePoint l.ascii p, P c := by
  cases p with
  | char x => exact forall_mem_writeChar hl x
  | half h => exact forall_mem_unicodeEscape hl h.position

lemma forall_mem_writeText (t : Text) : ∀ c ∈ writeText l.ascii t, P c := by
  intro c hc
  simp only [writeText, List.mem_append, List.mem_cons, List.mem_flatMap, List.not_mem_nil,
    or_false] at hc
  rcases hc with (rfl | ⟨p, -, hc⟩) | rfl
  · exact hl.visible _ (by decide)
  · exact forall_mem_writePoint hl p c hc
  · exact hl.visible _ (by decide)

lemma forall_mem_newline (level : Nat) : ∀ c ∈ l.newline level, P c := by
  intro c hc
  unfold Layout.newline at hc
  split at hc
  · cases hc
  · rename_i hindent
    rcases List.mem_cons.1 hc with rfl | hc
    · exact hl.lineFeed (by rw [hindent]; exact Option.some_ne_none _)
    · rw [List.eq_of_mem_replicate hc]
      exact hl.visible _ (by decide)

lemma forall_mem_separator (level : Nat) : ∀ c ∈ l.separator level, P c := by
  intro c hc
  unfold Layout.separator at hc
  split at hc
  · exact hl.of_visible (List.all_iff_forall_prop.1 (by decide)) c hc
  · rcases List.mem_cons.1 hc with rfl | hc
    · exact hl.visible _ (by decide)
    · exact forall_mem_newline hl level c hc

omit hl in
lemma forall_mem_intercalate {sep : List Char} {ts : List (List Char)}
    (hsep : ∀ c ∈ sep, P c) (hts : ∀ t ∈ ts, ∀ c ∈ t, P c) :
    ∀ c ∈ sep.intercalate ts, P c := by
  induction ts with
  | nil => exact fun c hc => by cases hc
  | cons t ts ih =>
    have ht := hts t (List.mem_cons_self ..)
    have hrest := ih fun t ht => hts t (List.mem_cons_of_mem _ ht)
    cases ts with
    | nil => simpa using ht
    | cons =>
      intro c hc
      rw [List.intercalate_cons_cons, List.mem_append, List.mem_append] at hc
      rcases hc with (hc | hc) | hc
      · exact ht c hc
      · exact hsep c hc
      · exact hrest c hc

/-- Between its brackets a collection has the characters of its parts, separators and new lines. -/
lemma forall_mem_brackets (level : Nat) {open' close : Char} {ts : List (List Char)}
    (hopen : P open') (hclose : P close) (hts : ∀ t ∈ ts, ∀ c ∈ t, P c) :
    ∀ c ∈ open' :: l.newline (level + 1) ++ (l.separator (level + 1)).intercalate ts ++
      l.newline level ++ [close], P c := by
  intro c hc
  simp only [List.mem_append, List.mem_cons, List.not_mem_nil, or_false] at hc
  rcases hc with (((rfl | hc) | hc) | hc) | rfl
  · exact hopen
  · exact forall_mem_newline hl _ c hc
  · exact forall_mem_intercalate (forall_mem_separator hl _) hts c hc
  · exact forall_mem_newline hl _ c hc
  · exact hclose

/-- The digits and the sign of an integer. -/
lemma forall_mem_toString (n : Int) : ∀ c ∈ (toString n).toList, P c := by
  have hdigits (m : Nat) : ∀ c ∈ Nat.toDigits 10 m, P c := by
    refine hl.of_visible fun c hc => ?_
    have hd := Nat.isDigit_of_mem_toDigits (by decide) (by decide) hc
    simp only [Char.isDigit, Bool.and_eq_true, decide_eq_true_eq] at hd
    have hlow : 48 ≤ c.toNat := hd.1
    have hhigh : c.toNat ≤ 57 := hd.2
    omega
  intro c hc
  cases n with
  | ofNat m =>
    rw [Int.ofNat_eq_natCast, toList_toString_ofNat] at hc
    exact hdigits m c hc
  | negSucc m =>
    rw [toList_toString_negSucc] at hc
    rcases List.mem_cons.1 hc with rfl | hc
    · exact hl.visible _ (by decide)
    · exact hdigits _ c hc

/-- The text of a value has no characters but those of its layout. -/
theorem Integral.forall_mem_writeAt {j : Json} (h : Integral j) (level : Nat) :
    ∀ c ∈ writeAt l level j, P c := by
  induction h generalizing level with
  | null =>
    rw [writeAt]
    exact hl.of_visible (List.all_iff_forall_prop.1 (by decide))
  | bool b =>
    rw [writeAt]
    refine hl.of_visible ?_
    cases b
    · exact List.all_iff_forall_prop.1 (by decide)
    · exact List.all_iff_forall_prop.1 (by decide)
  | int n =>
    rw [writeAt]
    exact forall_mem_toString hl n
  | text s =>
    rw [writeAt]
    exact forall_mem_writeText hl s
  | @list items _ ih =>
    rw [writeAt, writeItems_eq_map]
    split
    · exact hl.of_visible (List.all_iff_forall_prop.1 (by decide))
    · refine forall_mem_brackets hl level (hl.visible _ (by decide)) (hl.visible _ (by decide)) ?_
      rintro t ht
      obtain ⟨j, hj, rfl⟩ := List.mem_map.1 ht
      exact ih j hj (level + 1)
  | @object members _ ih =>
    rw [writeAt, writeMembers_eq_map, l.arrange_map]
    split
    · exact hl.of_visible (List.all_iff_forall_prop.1 (by decide))
    · refine forall_mem_brackets hl level (hl.visible _ (by decide)) (hl.visible _ (by decide)) ?_
      rintro t ht
      rw [List.map_map] at ht
      obtain ⟨m, hm, rfl⟩ := List.mem_map.1 ht
      -- the text of a member is that of its key, a colon and a blank, and that of its value
      intro c hc
      dsimp only [Function.comp_apply] at hc
      rw [List.mem_append, List.mem_cons, List.mem_cons] at hc
      rcases hc with hc | rfl | rfl | hc
      · exact forall_mem_writeText hl m.1 c hc
      · exact hl.visible _ (by decide)
      · exact hl.visible _ (by decide)
      · exact ih m ((l.arrange_perm members).mem_iff.1 hm) (level + 1) c hc

end Characters

/-- Whether a character is visible in ASCII, a blank or a line feed. -/
def IsPlainChar (c : Char) : Prop := c = '\n' ∨ 0x20 ≤ c.toNat ∧ c.toNat < 0x7F

instance (c : Char) : Decidable (IsPlainChar c) :=
  inferInstanceAs (Decidable (c = '\n' ∨ 0x20 ≤ c.toNat ∧ c.toNat < 0x7F))

lemma Layout.usesOnly_isPlainChar {l : Layout} (hascii : l.ascii = true) :
    l.UsesOnly IsPlainChar where
  visible _ h := .inr h
  lineFeed _ := .inl rfl
  other h := absurd (h.symm.trans hascii) Bool.false_ne_true

/-- A layout of one line has no control characters. -/
lemma Layout.usesOnly_of_indent {l : Layout} (hline : l.indent = none) :
    l.UsesOnly fun c => 0x20 ≤ c.toNat where
  visible _ h := h.1
  lineFeed h := absurd hline h
  other _ _ h := h

/-- The text of a value in a layout in ASCII. -/
theorem Integral.isPlainChar {j : Json} (h : Integral j) {l : Layout} (hascii : l.ascii = true)
    (level : Nat) : ∀ c ∈ writeAt l level j, IsPlainChar c :=
  h.forall_mem_writeAt (Layout.usesOnly_isPlainChar hascii) level

theorem Readable.isPlainChar {j : Json} (h : Readable j) {l : Layout} (hascii : l.ascii = true)
    (level : Nat) : ∀ c ∈ writeAt l level j, IsPlainChar c := h.integral.isPlainChar hascii level

/-- A line with a result has no control sequence that could be left out. -/
lemma Integral.plain_write {j : Json} (h : Integral j) :
    Text.plain (write .result j ++ "\n" : String) = (write .result j ++ "\n" : String) := by
  have hesc : '\x1b' ∉ writeAt .result 0 j := fun hmem =>
    absurd (h.isPlainChar rfl 0 _ hmem) (by decide)
  rw [← Text.coe_append_coe, Text.plain_concat_newline, Text.plain_coe, write,
    String.toList_ofList, Text.dropControls_eq_self hesc]

end CssMargin.Json
