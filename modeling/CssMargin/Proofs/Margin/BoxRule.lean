/-
# The box rule

The box model has a rule for shorthands that knows no tables: the values go to the top, the right,
the bottom and the left, and a side that has no value of its own takes over that of another side.
`Box.ofValues?` is this rule.  An expansion follows it for every number of values, although each
number has a table of its own with an order of its own.

What an expansion does besides, with values that are read and declarations that are made by
whatever it is given, is seen from its calls.  `Expander.followed` writes them down with what comes
back; reading and making may change a state and depend on it.
-/
import CssMargin.Proofs.Shorthand.Expansion
namespace CssMargin

/-! ### The rule -/

/-- Something for each side of a box. -/
structure Box (γ : Type) where
  /-- For the upper side. -/
  top : γ
  /-- For the right side. -/
  right : γ
  /-- For the lower side. -/
  bottom : γ
  /-- For the left side. -/
  left : γ

namespace Box

variable {γ : Type}

/-- What a box has for a side. -/
def get (b : Box γ) : Side → γ
  | .top => b.top
  | .right => b.right
  | .bottom => b.bottom
  | .left => b.left

/-- The box for a list of values, if it has any: without a value of their own the right and the
bottom take over that of the top, and the left that of the right. -/
def ofValues? : List γ → Option (Box γ)
  | [] => none
  | top :: others =>
    let right := others[0]?.getD top
    let bottom := others[1]?.getD top
    let left := others[2]?.getD right
    some ⟨top, right, bottom, left⟩

end Box

lemma Arity.sides_perm (a : Arity) : a.sides.Perm Side.all := by cases a <;> decide

lemma Arity.exists_toNat_eq {n : Nat} (h : 1 ≤ n ∧ n ≤ 4) : ∃ arity : Arity, n = arity.toNat := by
  obtain ⟨arity, harity⟩ := Option.isSome_iff_exists.1 (Arity.isSome_ofNat?_iff.2 h)
  exact ⟨arity, Arity.ofNat?_eq_some_iff.1 harity⟩

lemma Arity.ofNat?_eq_none {n : Nat} (h : n = 0 ∨ 5 ≤ n) : Arity.ofNat? n = none := by
  rw [← Option.not_isSome_iff_eq_none, Arity.isSome_ofNat?_iff]
  omega

/-- The tables say what the rule says. -/
lemma exists_box_place {α : Type} {arity : Arity} {values : List (Resolved α)}
    (h : values.length = arity.toNat) :
    ∃ box, Box.ofValues? values = some box ∧
      Expander.place arity values = arity.sides.map fun side => (side, box.get side) := by
  cases arity with
  | one =>
    obtain ⟨a, rfl⟩ := List.length_eq_one_iff.1 h
    exact ⟨_, rfl, rfl⟩
  | two =>
    obtain ⟨a, b, rfl⟩ := List.length_eq_two.1 h
    exact ⟨_, rfl, rfl⟩
  | three =>
    obtain ⟨a, b, c, rfl⟩ := List.length_eq_three.1 h
    exact ⟨_, rfl, rfl⟩
  | four =>
    obtain ⟨a, b, c, d, rfl⟩ := List.length_eq_four.1 h
    exact ⟨_, rfl, rfl⟩

/-! ### Substitution -/

instance : DecidablePred SaysAuto := fun value =>
  inferInstanceAs (Decidable
    (value.isWhole = true ∧ Text.lower (Text.trim value.head.toList) = "auto".toList))

/-- What stands for a value once its text is read: the zero if the text says `auto`, and else the
value itself. -/
def Resolved.ofText {α : Type} (a : α) (text : Text) : Resolved α :=
  if SaysAuto text then .zero else .given a

lemma substituteAuto_eq_ofText {α : Type} (text : α → Text) (a : α) :
    substituteAuto text a = Resolved.ofText a (text a) := by
  simp only [substituteAuto, Resolved.ofText, isAuto_iff]

section Monad

variable {m : Type → Type} [Monad m] [LawfulMonad m] {α β : Type}

lemma Expander.resolve_eq_map (x : Expander m α β) (a : α) :
    x.resolve a = Resolved.ofText a <$> x.read a := by
  rw [resolve, map_eq_pure_bind]
  congr 1
  funext text
  simp only [Resolved.ofText, isAuto_iff]
  split <;> rfl

/-- Values are resolved from their texts, after all of these are read. -/
lemma Expander.mapM_resolve (x : Expander m α β) (values : List α) :
    values.mapM x.resolve =
      (fun texts => List.zipWith Resolved.ofText values texts) <$> values.mapM x.read := by
  induction values with
  | nil => simp
  | cons a r ih => simp [List.mapM_cons, ih, x.resolve_eq_map]

end Monad

/-! ### Calls -/

/-- What an expansion calls for, with what comes back. -/
inductive Call (α β : Type) where
  /-- The text of a value. -/
  | read (a : α) (text : Text)
  /-- A declaration for a side. -/
  | build (side : Side) (value : Resolved α) (important : Bool) (origin : Text) (made : β)
  /-- That an event is logged. -/
  | log (e : Log.Event)

section Calls

variable {σ α β γ δ : Type}

/-- Do something and note a call with what comes back. -/
def noted (call : γ → Call α β) (r : StateM σ γ) : StateT (List (Call α β)) (StateM σ) γ := do
  let c ← r
  modify (· ++ [call c])
  pure c

/-- The expander that reads texts and makes declarations in the ways given, and whose calls are
written down in their order. -/
def Expander.followed (read : α → StateM σ Text)
    (build : Side → Resolved α → Bool → Text → StateM σ β) :
    Expander (StateT (List (Call α β)) (StateM σ)) α β where
  read a := noted (.read a) (read a)
  build side value important origin :=
    noted (.build side value important origin) (build side value important origin)
  refuse count := modify (· ++ [.log (.notExpanded count)])

/-- The calls for the texts of values. -/
def readCalls (values : List α) (texts : List Text) : List (Call α β) :=
  List.zipWith .read values texts

/-- The calls for the declarations of a shorthand with so many values. -/
def buildCalls (arity : Arity) (box : Box (Resolved α)) (important : Bool) (origin : Text)
    (ds : List β) : List (Call α β) :=
  List.zipWith (fun side d => .build side (box.get side) important origin d) arity.sides ds

/-- What comes after goes on with the calls and the state that are left. -/
lemma run_bind_followed {r : StateT (List (Call α β)) (StateM σ) γ}
    {f : γ → StateT (List (Call α β)) (StateM σ) δ} {calls calls' : List (Call α β)} {s s' : σ}
    {c : γ} (h : (r.run calls).run s = ((c, calls'), s')) :
    ((r >>= f).run calls).run s = ((f c).run calls').run s' := by
  rw [StateT.run_bind, StateT.run_bind, h]
  rfl

/-- One call is written down behind those that are there. -/
lemma exists_run_noted (call : γ → Call α β) (r : StateM σ γ) (calls : List (Call α β)) (s : σ) :
    ∃ c s', ((noted call r).run calls).run s = ((c, calls ++ [call c]), s') :=
  ⟨(r.run s).1, (r.run s).2, rfl⟩

/-- Doing something for each of several things writes one call down for each, in their order. -/
lemma exists_run_mapM_noted (f : γ → StateM σ δ) (call : γ → δ → Call α β) (xs : List γ)
    (calls : List (Call α β)) (s : σ) :
    ∃ ys s', ys.length = xs.length ∧
      ((xs.mapM fun x => noted (call x) (f x)).run calls).run s =
        ((ys, calls ++ List.zipWith call xs ys), s') := by
  induction xs generalizing calls s with
  | nil =>
    refine ⟨[], s, rfl, ?_⟩
    rw [List.zipWith_nil_left, List.append_nil]
    rfl
  | cons x r ih =>
    obtain ⟨y, s₁, hy⟩ := exists_run_noted (call x) (f x) calls s
    obtain ⟨ys, s₂, hlength, hys⟩ := ih (calls ++ [call x y]) s₁
    refine ⟨y :: ys, s₂, by rw [List.length_cons, List.length_cons, hlength], ?_⟩
    rw [List.mapM_cons, run_bind_followed hy, run_bind_followed hys, List.zipWith_cons_cons,
      List.append_assoc]
    rfl

section Expand

variable (read : α → StateM σ Text) (build : Side → Resolved α → Bool → Text → StateM σ β)

/-- An expansion of a supported number of values reads their texts and then makes the declarations,
each side with what the box has for it. -/
lemma exists_run_expand_followed {values : List α} {arity : Arity}
    (h : values.length = arity.toNat) (important : Bool) (origin : Text) (s : σ) :
    ∃ texts box ds s', texts.length = values.length ∧ ds.length = 4 ∧
      Box.ofValues? (List.zipWith Resolved.ofText values texts) = some box ∧
      (((Expander.followed read build).expand values important origin).run []).run s =
        ((ds, readCalls values texts ++ buildCalls arity box important origin ds), s') := by
  obtain ⟨texts, s₁, htexts, hread⟩ := exists_run_mapM_noted read Call.read values [] s
  have hresolved : (List.zipWith Resolved.ofText values texts).length = arity.toNat := by
    rw [List.length_zipWith, htexts, min_self, h]
  obtain ⟨box, hbox, hplace⟩ := exists_box_place hresolved
  obtain ⟨ds, s₂, hds, hbuild⟩ := exists_run_mapM_noted
    (fun side => build side (box.get side) important origin)
    (fun side d => Call.build side (box.get side) important origin d) arity.sides
    (readCalls values texts) s₁
  refine ⟨texts, box, ds, s₂, htexts, ?_, hbox, ?_⟩
  · rw [hds]
    cases arity <;> rfl
  · rw [Expander.expand, h, Arity.ofNat?_toNat]
    dsimp only
    -- substitution calls for nothing but texts, so these come before all declarations
    rw [Expander.mapM_resolve, ← bind_pure_comp, bind_assoc]
    have hread' : ((values.mapM (Expander.followed read build).read).run []).run s =
      ((texts, readCalls values texts), s₁) := hread
    rw [run_bind_followed hread', pure_bind, hplace, List.mapM_map]
    exact hbuild

/-- Another number of values is refused: that is logged, and nothing else is done. -/
lemma run_expand_followed_of_unsupported {values : List α}
    (h : Arity.ofNat? values.length = none) (important : Bool) (origin : Text) (s : σ) :
    (((Expander.followed read build).expand values important origin).run []).run s =
      (([], [.log (.notExpanded values.length)]), s) := by
  rw [Expander.expand, h]
  rfl

end Expand

end Calls

/-- The declarations that are only computed are those of the box. -/
lemma exists_box_expandMargin {values : List Text} {arity : Arity}
    (h : values.length = arity.toNat) (important : Bool) (origin : Text) :
    ∃ box, Box.ofValues? (values.map fun v => Resolved.ofText v v) = some box ∧
      expandMargin values important origin =
        arity.sides.map fun side => side.declare (box.get side) important origin := by
  have hsome : Arity.ofNat? values.length = some arity := Arity.ofNat?_eq_some_iff.2 h
  have hresolved : values.map (substituteAuto id) = values.map fun v => Resolved.ofText v v :=
    List.map_congr_left fun v _ => substituteAuto_eq_ofText id v
  have hcount : (values.map fun v => Resolved.ofText v v).length = arity.toNat := by
    rw [List.length_map, h]
  obtain ⟨box, hbox, hplace⟩ := exists_box_place hcount
  refine ⟨box, hbox, ?_⟩
  rw [expandMargin_of_arity hsome, hresolved, hplace, List.map_map]
  rfl

/-- **The box rule.**  Let values be read and declarations be made in any way that gives an answer.

* With one to four values, what is called for is first the text of each value, once and in order,
  and then a declaration for each of the four sides, in the order of the number of values.  A side
  gets what the rule has for it, where a value whose text says `auto` is the zero and any other is
  itself; importance and origin are handed on.  The result is what comes back for the sides.
* With no value and with five or more, the result is empty, and all that is called for is one record
  at the level for debugging, which carries the number of values.
* When texts themselves are the values and declarations are only computed, the result has the
  declaration of the rule for each side, or it is empty. -/
theorem expand_follows_boxRule {σ α β : Type} (read : α → StateM σ Text)
    (build : Side → Resolved α → Bool → Text → StateM σ β) (values : List α) (important : Bool)
    (origin : Text) (s : σ) :
    (1 ≤ values.length ∧ values.length ≤ 4 →
      ∃ arity texts box ds s', arity.toNat = values.length ∧ arity.sides.Perm Side.all ∧
        texts.length = values.length ∧ ds.length = 4 ∧
        Box.ofValues? (List.zipWith Resolved.ofText values texts) = some box ∧
        (((Expander.followed read build).expand values important origin).run []).run s =
          ((ds, readCalls values texts ++ buildCalls arity box important origin ds), s')) ∧
    (values.length = 0 ∨ 5 ≤ values.length →
      (((Expander.followed read build).expand values important origin).run []).run s =
          (([], [.log (.notExpanded values.length)]), s) ∧
        ∀ time, ((Log.Event.notExpanded values.length).record time).level = Log.debugLevel ∧
          ((Log.Event.notExpanded values.length).record time).fields =
            [("arity", .int values.length)]) ∧
    ∀ texts : List Text,
      (1 ≤ texts.length ∧ texts.length ≤ 4 →
        ∃ box, Box.ofValues? (texts.map fun t => Resolved.ofText t t) = some box ∧
          (expandMargin texts important origin).Perm
            (Side.all.map fun side => side.declare (box.get side) important origin)) ∧
      (texts.length = 0 ∨ 5 ≤ texts.length → expandMargin texts important origin = []) := by
  refine ⟨fun h => ?_, fun h => ⟨?_, fun time => ⟨rfl, rfl⟩⟩,
    fun texts => ⟨fun h => ?_, fun h => ?_⟩⟩
  · obtain ⟨arity, harity⟩ := Arity.exists_toNat_eq h
    obtain ⟨texts, box, ds, s', htexts, hds, hbox, hrun⟩ :=
      exists_run_expand_followed read build harity important origin s
    exact ⟨arity, texts, box, ds, s', harity.symm, arity.sides_perm, htexts, hds, hbox, hrun⟩
  · exact run_expand_followed_of_unsupported read build (Arity.ofNat?_eq_none h) important origin s
  · obtain ⟨arity, harity⟩ := Arity.exists_toNat_eq h
    obtain ⟨box, hbox, hmap⟩ := exists_box_expandMargin harity important origin
    exact ⟨box, hbox, hmap ▸ arity.sides_perm.map _⟩
  · exact expandMargin_of_unsupported (Arity.ofNat?_eq_none h) important origin

end CssMargin
