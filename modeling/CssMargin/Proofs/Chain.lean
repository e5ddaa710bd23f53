/-
# Chains of steps that may fail

A reader is a chain of steps, each of which may fail.  The chain goes on with the result of a step
that does not, and ends with the first fault.  What a chain can end with is worked out step by
step: `Ends` says what is true of its result, if it has one, and of its fault, if it has one.
-/
import Mathlib.Tactic.Common
namespace CssMargin

variable {ε α β : Type}

@[simp] lemma ok_bind (a : α) (f : α → Except ε β) : (Except.ok a >>= f) = f a := rfl

@[simp] lemma error_bind (e : ε) (f : α → Except ε β) :
    ((Except.error e : Except ε α) >>= f) = .error e := rfl

/-- A chain ends with a fault if it does so when its result is changed. -/
lemma eq_error_of_map {r : Except ε α} {f : α → β} {e : ε} (h : r.map f = .error e) :
    r = .error e := by
  cases r with
  | ok a => cases h
  | error e' =>
    cases h
    rfl

/-- Whether a fault of a chain has one property and a result of it another. -/
def Ends (P : ε → Prop) (Q : α → Prop) : Except ε α → Prop
  | .ok a => Q a
  | .error e => P e

variable {P P' : ε → Prop} {Q : α → Prop} {R : β → Prop} {r : Except ε α}

@[simp] lemma ends_ok {a : α} : Ends P Q (.ok a : Except ε α) ↔ Q a := Iff.rfl

@[simp] lemma ends_error {e : ε} : Ends P Q (.error e : Except ε α) ↔ P e := Iff.rfl

/-- A chain that nothing is said about. -/
lemma ends_trivial (r : Except ε α) : Ends (fun _ => True) (fun _ => True) r := by
  cases r <;> trivial

lemma Ends.of_error {e : ε} (h : Ends P Q r) (he : r = .error e) : P e := by
  rwa [he] at h

lemma Ends.of_ok {a : α} (h : Ends P Q r) (ha : r = .ok a) : Q a := by
  rwa [ha] at h

lemma Ends.bind {f : α → Except ε β} (h : Ends P Q r) (hf : ∀ a, Q a → Ends P R (f a)) :
    Ends P R (r >>= f) := by
  cases r with
  | error e => exact h
  | ok a => exact hf a h

lemma Ends.map {f : α → β} (h : Ends P Q r) (hf : ∀ a, Q a → R (f a)) : Ends P R (f <$> r) := by
  cases r with
  | error e => exact h
  | ok a => exact hf a h

lemma Ends.mono {Q' : α → Prop} (h : Ends P Q r) (hP : ∀ e, P e → P' e) (hQ : ∀ a, Q a → Q' a) :
    Ends P' Q' r := by
  cases r with
  | error e => exact hP e h
  | ok a => exact hQ a h

lemma Ends.ite {p : Prop} [Decidable p] {r' : Except ε α} (h : Ends P Q r) (h' : Ends P Q r') :
    Ends P Q (if p then r else r') := by
  split
  · exact h
  · exact h'

/-- What is done under a condition may rely on it. -/
lemma Ends.ite_of {p : Prop} [Decidable p] {r' : Except ε α} (h : p → Ends P Q r)
    (h' : Ends P Q r') : Ends P Q (if p then r else r') := by
  split
  · rename_i hp
    exact h hp
  · exact h'

/-- When the steps are taken for each of several things, all results have what each one has. -/
lemma Ends.mapM {f : α → Except ε β} {xs : List α} (h : ∀ x ∈ xs, Ends P R (f x)) :
    Ends P (fun ys => ∀ y ∈ ys, R y) (xs.mapM f) := by
  induction xs with
  | nil => exact fun y hy => absurd hy List.not_mem_nil
  | cons x xs ih =>
    rw [List.mapM_cons]
    refine (h x (List.mem_cons_self ..)).bind fun y hy => ?_
    refine (ih fun z hz => h z (List.mem_cons_of_mem _ hz)).bind fun ys hys => ?_
    exact List.forall_mem_cons.2 ⟨hy, hys⟩

/-- What every step of a fold keeps holds in the end. -/
lemma Ends.foldlM {f : β → α → Except ε β} {xs : List α} {b : β} (hb : R b)
    (h : ∀ x ∈ xs, ∀ b, R b → Ends P R (f b x)) : Ends P R (xs.foldlM f b) := by
  induction xs generalizing b with
  | nil => exact hb
  | cons x xs ih =>
    rw [List.foldlM_cons]
    refine (h x (List.mem_cons_self ..) b hb).bind fun b' hb' => ?_
    exact ih hb' fun y hy => h y (List.mem_cons_of_mem _ hy)

end CssMargin
