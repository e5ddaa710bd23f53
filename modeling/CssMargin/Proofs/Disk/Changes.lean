/-
# What changes on a disk

Making a directory together with those it is in changes nothing that is there: it only adds
directories at places where there was nothing, on the way to the one that is wanted.  This holds
also when it fails half way.  `GrownAlong` says this of two disks; it goes on from one directory to
the next, because a path that leads somewhere still leads to the same place when a directory has
been added.  Writing a file then changes the one place that its path leads to.
-/
import CssMargin.Proofs.Disk.WriteRead
namespace CssMargin

/-- Whether a path is another one or leads to a directory on the way to it. -/
def Path.IsOnWayTo (q p : Path) : Prop := q.root = p.root ∧ q.parts <+: p.parts

lemma Path.isOnWayTo_refl (p : Path) : p.IsOnWayTo p := ⟨rfl, List.prefix_refl _⟩

lemma Path.IsOnWayTo.of_parent {q p : Path} (h : q.IsOnWayTo p.parent) : q.IsOnWayTo p :=
  ⟨h.1, h.2.trans (List.dropLast_prefix _)⟩

namespace Disk

/-- Whether there is a directory at a place where there was nothing, on the way to a path. -/
structure IsNewDirectory (p : Path) (d d' : Disk) (l : Location) : Prop where
  /-- There was nothing. -/
  missing : d.at? l = none
  /-- There is a directory. -/
  directory : d'.at? l = some .directory
  /-- A path on the way leads to it. -/
  onWay : ∃ q : Path, q.IsOnWayTo p ∧ d'.locate q = .ok l

/-- Whether a disk differs from an earlier one by nothing but new directories on the way to a
path. -/
structure GrownAlong (p : Path) (d d' : Disk) : Prop where
  /-- A path that led somewhere leads there still. -/
  located : ∀ q l, d.locate q = .ok l → d'.locate q = .ok l
  /-- Every change is a new directory. -/
  changes : ∀ l, d'.at? l ≠ d.at? l → IsNewDirectory p d d' l

namespace GrownAlong

variable {p q : Path} {d d' d'' : Disk}

lemma refl (p : Path) (d : Disk) : GrownAlong p d d :=
  ⟨fun _ _ h => h, fun _ h => absurd rfl h⟩

lemma mono (h : GrownAlong q d d') (hq : ∀ r : Path, r.IsOnWayTo q → r.IsOnWayTo p) :
    GrownAlong p d d' := by
  refine ⟨h.located, fun l hl => ?_⟩
  obtain ⟨hmissing, hdirectory, r, hr, hlocate⟩ := h.changes l hl
  exact ⟨hmissing, hdirectory, r, hq r hr, hlocate⟩

lemma trans (h : GrownAlong p d d') (h' : GrownAlong p d' d'') : GrownAlong p d d'' := by
  refine ⟨fun q l hq => h'.located q l (h.located q l hq), fun l hl => ?_⟩
  by_cases hsame : d'.at? l = d.at? l
  · -- the place changed in the second step only
    obtain ⟨hmissing, hdirectory, hway⟩ := h'.changes l (hsame ▸ hl)
    exact ⟨hsame ▸ hmissing, hdirectory, hway⟩
  · -- it changed in the first step, and then it is no longer missing
    obtain ⟨hmissing, hdirectory, q, hq, hlocate⟩ := h.changes l hsame
    have hkept : d''.at? l = d'.at? l := by
      by_contra hchange
      rw [(h'.changes l hchange).missing] at hdirectory
      cases hdirectory
    exact ⟨hmissing, hkept.trans hdirectory, q, hq, h'.located q l hlocate⟩

end GrownAlong

variable {d d' : Disk} {p : Path}

/-- A directory is made at the place of its path, where there was nothing. -/
lemma grownAlong_makeDirectory (h : d.makeDirectory p = .ok d') : GrownAlong p d d' := by
  rw [makeDirectory] at h
  cases hl : d.locate p with
  | error f =>
    rw [hl] at h
    cases h
  | ok l =>
    rw [hl, ok_bind] at h
    split at h
    · cases h
    · rename_i hnone
      cases h
      have hne : d.at? l ≠ some .directory := by simp [hnone]
      refine ⟨fun q k hq => locate_put hne _ hq, fun k hk => ?_⟩
      have hkl : k = l := by
        by_contra hkl
        exact hk (at?_put_of_ne hkl _)
      subst hkl
      exact ⟨hnone, at?_put_self .., p, p.isOnWayTo_refl, locate_put hne _ hl⟩

/-- Making a directory together with those it is in adds directories on the way to it, even if it
fails. -/
lemma grownAlong_makeDirectories (fuel : Nat) (d : Disk) (p : Path) :
    GrownAlong p d (d.makeDirectories fuel p).2 := by
  induction fuel generalizing d p with
  | zero => exact .refl p d
  | succ fuel ih =>
    rw [makeDirectories]
    cases hmake : d.makeDirectory p with
    | ok d₁ => exact grownAlong_makeDirectory hmake
    | error f =>
      split
      · rename_i h
        cases h
      · -- the directory around it is missing, and is made first
        split
        · exact .refl p d
        · have hparent : GrownAlong p d (d.makeDirectories fuel p.parent).2 :=
            (ih d p.parent).mono fun r hr => hr.of_parent
          revert hparent
          rcases d.makeDirectories fuel p.parent with ⟨r, d₁⟩
          intro hparent
          cases r with
          | error f => exact hparent
          | ok u =>
            dsimp only
            cases hagain : d₁.makeDirectory p with
            | ok d₂ => exact hparent.trans (grownAlong_makeDirectory hagain)
            | error f => exact hparent
      · exact .refl p d
      · exact .refl p d
      · exact .refl p d

/-- Writing a file changes no other place than its own, and a path that led somewhere leads there
still. -/
lemma exists_place_of_writeText {s : List Char} (h : d.writeText p s = .ok d') :
    ∃ l, d'.locate p = .ok l ∧ d'.at? l = some (.file (Text.encodeUtf8 s)) ∧
      (∀ k, k ≠ l → d'.at? k = d.at? k) ∧ ∀ q k, d.locate q = .ok k → d'.locate q = .ok k := by
  obtain ⟨l, hl, hdir, rfl⟩ := eq_put_of_writeFile h
  exact ⟨l, locate_put hdir _ hl, at?_put_self .., fun k hk => at?_put_of_ne hk _,
    fun q k hq => locate_put hdir _ hq⟩

end Disk

end CssMargin
