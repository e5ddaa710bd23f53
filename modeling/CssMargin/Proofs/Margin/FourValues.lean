/-
# Shorthands with four values

Every shorthand can be written with four values: those that its expansion has for the top, the
right, the bottom and the left.  To expand these again gives the same declarations, though mostly in
another order, since each number of values has an order of its own.  So the four values, with the
zero in the place of `auto`, say all that an expansion says about the sides.

This holds whether values are texts or are kept as what they are, so that the zero and a value that
is written like it are told apart.  A `BoxLayout` is what the two have in common: a substitution
that changes nothing the second time, and declarations from which the side and the value can be read
back.
-/
import CssMargin.Proofs.Margin.AutoText
import CssMargin.Proofs.Margin.BoxRule
namespace CssMargin

/-! ### Boxes -/

namespace Box

variable {γ γ' : Type}

/-- The same done to what a box has for each side. -/
def map (f : γ → γ') (b : Box γ) : Box γ' := ⟨f b.top, f b.right, f b.bottom, f b.left⟩

/-- What a box has for the sides, clockwise from the top. -/
def toList (b : Box γ) : List γ := [b.top, b.right, b.bottom, b.left]

lemma get_map (f : γ → γ') (b : Box γ) (side : Side) : (b.map f).get side = f (b.get side) := by
  cases side <;> rfl

/-- The rule only puts values in their places. -/
lemma ofValues?_map (f : γ → γ') (values : List γ) :
    ofValues? (values.map f) = (ofValues? values).map (Box.map f) := by
  cases values with
  | nil => rfl
  | cons top others =>
    simp only [List.map_cons, ofValues?, List.getElem?_map, Option.map_some, Box.map,
      Option.getD_map]

lemma ofValues?_toList (b : Box γ) : ofValues? b.toList = some b := rfl

/-- A box is what it has for the sides. -/
lemma eq_of_get {b b' : Box γ} (h : ∀ side, b.get side = b'.get side) : b = b' := by
  obtain ⟨_, _, _, _⟩ := b
  obtain ⟨_, _, _, _⟩ := b'
  have htop := h .top
  have hright := h .right
  have hbottom := h .bottom
  have hleft := h .left
  simp only [get] at htop hright hbottom hleft
  subst htop hright hbottom hleft
  rfl

end Box

/-! ### Layouts -/

/-- The properties of the declarations of so many values, in their order. -/
def longhandsInOrder (count : Nat) : List String :=
  match Arity.ofNat? count with
  | some arity => arity.sides.map Side.longhand
  | none => []

/-- Whatever their order, each property has one side. -/
lemma Arity.find?_sides (arity : Arity) (name : String) :
    arity.sides.find? (·.longhand == name) = Side.all.find? (·.longhand == name) := by
  by_cases h : ∃ side : Side, side.longhand = name
  · obtain ⟨side, rfl⟩ := h
    cases arity <;> cases side <;> rfl
  · have hnone (sides : List Side) : sides.find? (·.longhand == name) = none :=
      List.find?_eq_none.2 fun side _ hside => h ⟨side, beq_iff_eq.1 hside⟩
    rw [hnone, hnone]

/-- How declarations for the sides of a box are made of values, and what can be read back. -/
structure BoxLayout (γ δ : Type) where
  /-- What stands for a value. -/
  substitute : γ → γ
  /-- The declaration of a value for a side. -/
  declare : Side → γ → δ
  /-- The property of a declaration. -/
  name : δ → String
  /-- The value of a declaration. -/
  value : δ → γ
  /-- What stands for a value stands for itself. -/
  substitute_substitute : ∀ v, substitute (substitute v) = substitute v
  /-- The property is that of the side. -/
  name_declare : ∀ side v, name (declare side v) = side.longhand
  /-- The value is kept. -/
  value_declare : ∀ side v, value (declare side v) = v

namespace BoxLayout

variable {γ δ : Type} (x : BoxLayout γ δ)

/-- The four values that a list of values comes to by the box rule, after substitution. -/
def form (values : List γ) : Option (Box γ) := Box.ofValues? (values.map x.substitute)

/-- Declarations by their properties. -/
def byName (ds : List δ) (name : String) : Option δ := ds.find? (x.name · == name)

/-- The values of declarations for the top, the right, the bottom and the left. -/
def fourValues (ds : List δ) : List γ :=
  Side.all.filterMap fun side => (x.byName ds side.longhand).map x.value

/-- Whether declarations are those for a list of values: each side has what the box has for it, and
the order is that of the number of values. -/
def Lays (values : List γ) (ds : List δ) : Prop :=
  ∃ (arity : Arity) (box : Box γ), values.length = arity.toNat ∧ x.form values = some box ∧
    ds = arity.sides.map fun side => x.declare side (box.get side)

/-- The declarations for a box by their properties. -/
def declared (box : Box γ) (name : String) : Option δ :=
  (Side.all.find? (·.longhand == name)).map fun side => x.declare side (box.get side)

variable {x}

lemma declared_longhand (box : Box γ) (side : Side) :
    x.declared box side.longhand = some (x.declare side (box.get side)) := by
  cases side <;> rfl

lemma declared_injective {box box' : Box γ} (h : x.declared box = x.declared box') :
    box = box' := by
  refine Box.eq_of_get fun side => ?_
  have hside := congrFun h side.longhand
  rw [declared_longhand, declared_longhand, Option.some.injEq] at hside
  rw [← x.value_declare side (box.get side), hside, x.value_declare]

lemma Lays.byName_eq {values : List γ} {ds : List δ} (h : x.Lays values ds) :
    ∃ box, x.form values = some box ∧ x.byName ds = x.declared box := by
  obtain ⟨arity, box, -, hform, rfl⟩ := h
  refine ⟨box, hform, funext fun name => ?_⟩
  rw [byName, declared, List.find?_map, ← arity.find?_sides]
  congr 1
  refine congrArg (List.find? · arity.sides) (funext fun side => ?_)
  rw [Function.comp_apply, x.name_declare]

lemma fourValues_eq {ds : List δ} {box : Box γ} (h : x.byName ds = x.declared box) :
    x.fourValues ds = box.toList := by
  have hvalue (side : Side) : (x.declared box side.longhand).map x.value = some (box.get side) := by
    rw [declared_longhand, Option.map_some, x.value_declare]
  rw [fourValues, h]
  simp only [hvalue]
  rfl

/-- The form of four values that are a form is this form. -/
lemma form_toList {values : List γ} {box : Box γ} (h : x.form values = some box) :
    x.form box.toList = some box := by
  rw [form, Box.ofValues?_map] at h
  obtain ⟨box', -, rfl⟩ := Option.map_eq_some_iff.1 h
  rw [form, Box.ofValues?_map, Box.ofValues?_toList, Option.map_some, Option.some.injEq]
  refine Box.eq_of_get fun side => ?_
  rw [Box.get_map, Box.get_map, x.substitute_substitute]

/-! ### The law of the four values -/

/-- Whether an expansion says of the sides exactly what its four values say. -/
structure FourValueLaw (x : BoxLayout γ δ) (expand : List γ → List δ) : Prop where
  /-- An expansion has the values of the form for its four sides, and these are expanded to the same
  declarations. -/
  again : ∀ values, 1 ≤ values.length ∧ values.length ≤ 4 →
    ∃ box, x.form values = some box ∧ x.fourValues (expand values) = box.toList ∧
      x.byName (expand (x.fourValues (expand values))) = x.byName (expand values)
  /-- Two expansions have the same declarations exactly when the values come to the same form. -/
  same_iff : ∀ values values', 1 ≤ values.length ∧ values.length ≤ 4 →
    1 ≤ values'.length ∧ values'.length ≤ 4 →
    (x.byName (expand values) = x.byName (expand values') ↔ x.form values = x.form values')
  /-- A value that is repeated for the other sides. -/
  one : ∀ a, x.byName (expand [a, a]) = x.byName (expand [a]) ∧
    x.byName (expand [a, a, a]) = x.byName (expand [a]) ∧
    x.byName (expand [a, a, a, a]) = x.byName (expand [a])
  /-- Two values that are repeated for the opposite sides. -/
  two : ∀ a b, x.byName (expand [a, b, a]) = x.byName (expand [a, b]) ∧
    x.byName (expand [a, b, a, b]) = x.byName (expand [a, b])
  /-- A value that is repeated for the left. -/
  three : ∀ a b c, x.byName (expand [a, b, c, b]) = x.byName (expand [a, b, c])

lemma Lays.same_iff {values values' : List γ} {ds ds' : List δ} (h : x.Lays values ds)
    (h' : x.Lays values' ds') : x.byName ds = x.byName ds' ↔ x.form values = x.form values' := by
  obtain ⟨box, hform, hname⟩ := h.byName_eq
  obtain ⟨box', hform', hname'⟩ := h'.byName_eq
  rw [hname, hname', hform, hform', Option.some.injEq]
  exact ⟨declared_injective, congrArg _⟩

/-- The law holds of an expansion that follows the layout. -/
lemma fourValueLaw_of_lays {expand : List γ → List δ}
    (h : ∀ values, 1 ≤ values.length ∧ values.length ≤ 4 → x.Lays values (expand values)) :
    x.FourValueLaw expand := by
  have hsame (values values' : List γ) (hvalues : 1 ≤ values.length ∧ values.length ≤ 4)
      (hvalues' : 1 ≤ values'.length ∧ values'.length ≤ 4)
      (hform : x.form values = x.form values') :
      x.byName (expand values) = x.byName (expand values') :=
    ((h values hvalues).same_iff (h values' hvalues')).2 hform
  constructor
  · intro values hvalues
    obtain ⟨box, hform, hname⟩ := (h values hvalues).byName_eq
    have hfour : x.fourValues (expand values) = box.toList := fourValues_eq hname
    refine ⟨box, hform, hfour, ?_⟩
    rw [hfour]
    exact hsame _ _ (by simp [Box.toList]) hvalues ((form_toList hform).trans hform.symm)
  · intro values values' hvalues hvalues'
    exact (h values hvalues).same_iff (h values' hvalues')
  · intro a
    exact ⟨hsame _ _ (by simp) (by simp) rfl, hsame _ _ (by simp) (by simp) rfl,
      hsame _ _ (by simp) (by simp) rfl⟩
  · intro a b
    exact ⟨hsame _ _ (by simp) (by simp) rfl, hsame _ _ (by simp) (by simp) rfl⟩
  · intro a b c
    exact hsame _ _ (by simp) (by simp) rfl

/-- The properties of declarations that are laid out come from the number of values alone. -/
lemma Lays.map_name {values : List γ} {ds : List δ} (h : x.Lays values ds) :
    ds.map x.name = longhandsInOrder values.length := by
  obtain ⟨arity, box, hlength, -, rfl⟩ := h
  rw [longhandsInOrder, hlength, Arity.ofNat?_toNat, List.map_map]
  exact List.map_congr_left fun side _ => x.name_declare side _

end BoxLayout

/-! ### Declarations with texts -/

/-- The layout of declarations whose values are texts. -/
def textLayout (important : Bool) (origin : Text) : BoxLayout Text Declaration where
  substitute v := (substituteAuto id v).text id
  declare side v := ⟨side.longhand, v, important, origin⟩
  name d := d.name
  value d := d.value
  substitute_substitute v := by
    have hgiven : substituteAuto id ((substituteAuto id v).text id) = .given _ :=
      (substituteAuto_eq_given_iff id _).2 (not_autoText_text_substituteAuto id v)
    rw [hgiven]
    rfl
  name_declare _ _ := rfl
  value_declare _ _ := rfl

lemma lays_expandMargin {values : List Text} (h : 1 ≤ values.length ∧ values.length ≤ 4)
    (important : Bool) (origin : Text) :
    (textLayout important origin).Lays values (expandMargin values important origin) := by
  obtain ⟨arity, harity⟩ := Arity.exists_toNat_eq h
  obtain ⟨box, hbox, hmap⟩ := exists_box_expandMargin harity important origin
  refine ⟨arity, box.map (Resolved.text id), harity, ?_, ?_⟩
  · have hsubstitute : values.map (textLayout important origin).substitute =
        (values.map fun v => Resolved.ofText v v).map (Resolved.text id) := by
      rw [List.map_map]
      exact List.map_congr_left fun v _ =>
        congrArg (Resolved.text id) (substituteAuto_eq_ofText id v)
    rw [BoxLayout.form, hsubstitute, Box.ofValues?_map, hbox, Option.map_some]
  · rw [hmap]
    exact List.map_congr_left fun side _ => by rw [Box.get_map]; rfl

/-! ### Declarations that keep their values -/

/-- A declaration whose value is the zero or a value that was given. -/
structure KeptDeclaration (α : Type) where
  /-- The property. -/
  name : String
  /-- The value. -/
  value : Resolved α
  /-- Whether it is marked as important. -/
  important : Bool
  /-- Which style sheet it comes from. -/
  origin : Text

/-- The value that is left when the zero, or a value that was given, is substituted again. -/
def Resolved.flatten {α : Type} : Resolved (Resolved α) → Resolved α
  | .zero => .zero
  | .given r => r

section Kept

variable {α : Type} (text : α → Text)

lemma Resolved.text_flatten (r : Resolved (Resolved α)) :
    r.flatten.text text = r.text (Resolved.text text) := by
  cases r <;> rfl

/-- Expansion that keeps the values; the zero may be among those that it is given. -/
def Expander.keeping : Expander Id (Resolved α) (KeptDeclaration α) where
  read := Resolved.text text
  build side value important origin := ⟨side.longhand, value.flatten, important, origin⟩
  refuse _ := ()

/-- The declarations of a shorthand with the values kept. -/
def expandKept (values : List (Resolved α)) (important : Bool) (origin : Text) :
    List (KeptDeclaration α) :=
  Id.run ((Expander.keeping text).expand values important origin)

/-- The layout of declarations that keep their values. -/
def keptLayout (important : Bool) (origin : Text) :
    BoxLayout (Resolved α) (KeptDeclaration α) where
  substitute r := (substituteAuto (Resolved.text text) r).flatten
  declare side r := ⟨side.longhand, r, important, origin⟩
  name d := d.name
  value d := d.value
  substitute_substitute r := by
    have hnot : ¬ AutoText ((substituteAuto (Resolved.text text) r).flatten.text text) := by
      rw [Resolved.text_flatten]
      exact not_autoText_text_substituteAuto (Resolved.text text) r
    rw [(substituteAuto_eq_given_iff (Resolved.text text) _).2 hnot]
    rfl
  name_declare _ _ := rfl
  value_declare _ _ := rfl

lemma lays_expandKept {values : List (Resolved α)} (h : 1 ≤ values.length ∧ values.length ≤ 4)
    (important : Bool) (origin : Text) :
    (keptLayout text important origin).Lays values (expandKept text values important origin) := by
  obtain ⟨arity, harity⟩ := Arity.exists_toNat_eq h
  have hcount : (values.map (substituteAuto (Resolved.text text))).length = arity.toNat := by
    rw [List.length_map, harity]
  obtain ⟨box, hbox, hplace⟩ := exists_box_place hcount
  have hresolve : values.mapM (Expander.keeping text).resolve =
      (pure (values.map (substituteAuto (Resolved.text text))) : Id _) := by
    -- to resolve a value is to substitute it, as nothing else happens when its text is read
    rw [← List.mapM_pure]
    rfl
  refine ⟨arity, box.map Resolved.flatten, harity, ?_, ?_⟩
  · have hsubstitute : values.map (keptLayout text important origin).substitute =
        (values.map (substituteAuto (Resolved.text text))).map Resolved.flatten := by
      rw [List.map_map]
      rfl
    rw [BoxLayout.form, hsubstitute, Box.ofValues?_map, hbox, Option.map_some]
  · rw [expandKept, Expander.expand, harity, Arity.ofNat?_toNat]
    dsimp only
    rw [hresolve, pure_bind, hplace, List.mapM_map, List.idRun_mapM]
    exact List.map_congr_left fun side _ => by rw [Box.get_map]; rfl

end Kept

/-- **Four values say it all.**  This is so for the declarations of a shorthand, and also when
values are kept instead of texts, with the zero among them.

* With one to four values, the values of the declarations for the top, the right, the bottom and the
  left are expanded to the same declarations.
* Two lists of one to four values are expanded to the same declarations exactly when, substituted,
  they come to the same four values by the box rule.  So a value that is repeated where the rule
  takes it over makes no difference.
* The properties and their order depend on nothing but the number of values. -/
theorem expansion_says_its_fourValues {α : Type} (text : α → Text) (important : Bool)
    (origin : Text) :
    (textLayout important origin).FourValueLaw (expandMargin · important origin) ∧
    (keptLayout text important origin).FourValueLaw (expandKept text · important origin) ∧
    (∀ values, (expandMargin values important origin).map (·.name) =
      longhandsInOrder values.length) ∧
    ∀ values, (expandKept text values important origin).map (·.name) =
      longhandsInOrder values.length := by
  refine ⟨BoxLayout.fourValueLaw_of_lays fun values h => lays_expandMargin h important origin,
    BoxLayout.fourValueLaw_of_lays fun values h => lays_expandKept text h important origin,
    fun values => ?_, fun values => ?_⟩
  · by_cases h : 1 ≤ values.length ∧ values.length ≤ 4
    · exact (lays_expandMargin h important origin).map_name
    · have hnone : Arity.ofNat? values.length = none := Arity.ofNat?_eq_none (by omega)
      rw [expandMargin_of_unsupported hnone, longhandsInOrder, hnone]
      rfl
  · by_cases h : 1 ≤ values.length ∧ values.length ≤ 4
    · exact (lays_expandKept text h important origin).map_name
    · have hnone : Arity.ofNat? values.length = none := Arity.ofNat?_eq_none (by omega)
      rw [expandKept, Expander.expand, longhandsInOrder, hnone]
      rfl

end CssMargin
