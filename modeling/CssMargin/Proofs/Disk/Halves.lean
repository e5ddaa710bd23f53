/-
# Halves in paths

The names on a disk are bytes.  A path that leads somewhere can hold halves of surrogate pairs only
for bytes that are no UTF-8, and these are second halves.  Tidying a path up drops empty parts and
single dots, and with them no half; so the text that a path was given by has second halves at most,
and no two of its points make up a pair.
-/
import CssMargin.Proofs.Disk.WriteRead
import CssMargin.Proofs.Json.Strings
namespace CssMargin

/-! ### Halves of a text -/

namespace Text

/-- When no half is found, all halves are of the other kind. -/
lemma eq_false_of_findStray_eq_none {bad : Half → Bool} {place : Nat} {ps : List Point}
    (hnone : findStray bad place ps = none) {x : Half} (hx : .half x ∈ ps) : bad x = false := by
  induction ps generalizing place with
  | nil => cases hx
  | cons p r ih =>
    cases p with
    | char c => exact ih hnone (List.mem_of_ne_of_mem (by rintro ⟨⟩) hx)
    | half y =>
      rw [findStray] at hnone
      split at hnone
      · cases hnone
      · rename_i hy
        rcases List.mem_cons.1 hx with heq | hr
        · cases heq
          exact Bool.eq_false_iff.2 hy
        · exact ih hnone hr

/-- What is in a sequence and does not cut it is in a piece. -/
lemma exists_mem_cutAt {α : Type} [DecidableEq α] {x a : α} {s : List α} (ha : a ∈ s)
    (hne : a ≠ x) : ∃ piece ∈ cutAt x s, a ∈ piece := by
  induction s with
  | nil => cases ha
  | cons b r ih =>
    rw [cutAt]
    split
    · rename_i hb
      obtain ⟨piece, hpiece, hmem⟩ := ih (List.mem_of_ne_of_mem (fun h => hne (h.trans hb)) ha)
      exact ⟨piece, List.mem_cons_of_mem _ hpiece, hmem⟩
    · split
      · rename_i p ps hcut
        rw [hcut] at ih
        rcases List.mem_cons.1 ha with rfl | hr
        · exact ⟨_, List.mem_cons_self .., List.mem_cons_self ..⟩
        · obtain ⟨piece, hpiece, hmem⟩ := ih hr
          rcases List.mem_cons.1 hpiece with rfl | hps
          · exact ⟨_, List.mem_cons_self .., List.mem_cons_of_mem _ hmem⟩
          · exact ⟨piece, List.mem_cons_of_mem _ hps, hmem⟩
      · rename_i hcut
        rw [hcut] at ih
        rcases List.mem_cons.1 ha with rfl | hr
        · exact ⟨_, List.mem_cons_self .., List.mem_cons_self ..⟩
        · obtain ⟨piece, hpiece, -⟩ := ih hr
          cases hpiece

lemma mem_points_join {separator : Text} {parts : List Text} {t : Text} {p : Point}
    (ht : t ∈ parts) (hp : p ∈ t.points) : p ∈ (join separator parts).points := by
  induction parts with
  | nil => cases ht
  | cons u r ih =>
    cases r with
    | nil =>
      cases List.mem_singleton.1 ht
      exact hp
    | cons v r =>
      change p ∈ (u ++ separator ++ join separator (v :: r)).points
      rw [points_append, points_append, List.mem_append, List.mem_append]
      rcases List.mem_cons.1 ht with rfl | hr
      · exact .inl (.inl hp)
      · exact .inr (ih hr)

end Text

/-! ### Halves of a path -/

/-- Tidying a path up keeps its halves. -/
lemma Path.half_mem_text_ofText {t : Text} {x : Half} (hx : .half x ∈ t.points) :
    .half x ∈ (Path.ofText t).text.points := by
  obtain ⟨piece, hpiece, hmem⟩ := Text.exists_mem_cutAt hx
    (show Point.half x ≠ .char '/' by rintro ⟨⟩)
  -- a piece with a half is neither empty nor a dot
  have hpart : isPart piece = true := by
    rw [isPart, Bool.and_eq_true, decide_eq_true_iff, decide_eq_true_iff]
    constructor
    · rintro rfl
      cases hmem
    · rintro rfl
      cases List.mem_singleton.1 hmem
  have hparts : Text.ofPoints piece ∈ (Path.ofText t).parts :=
    List.mem_map_of_mem (List.mem_filter.2 ⟨hpiece, hpart⟩)
  have hne : ¬ ((Path.ofText t).root = "" ∧ (Path.ofText t).parts = []) := by
    rintro ⟨-, hnil⟩
    rw [hnil] at hparts
    cases hparts
  rw [Path.text, if_neg hne, Text.points_append, List.mem_append]
  exact .inr (Text.mem_points_join hparts (by rwa [Text.points_ofPoints]))

namespace Disk

variable {d : Disk} {p : Path}

lemma findStray_of_locate {l : Location} (h : d.locate p = .ok l) :
    Text.findStray (fun h => !h.isByte) 0 p.text.points = none := by
  rw [locate] at h
  split at h
  · cases h
  · assumption

/-- The path of a text that can be read leads somewhere. -/
lemma exists_locate_of_readText {s : List Char} (h : d.readText p = .ok s) :
    ∃ l, d.locate p = .ok l := by
  cases hl : d.locate p with
  | error f =>
    rw [readText, readFile, find, hl] at h
    cases h
  | ok l => exact ⟨l, rfl⟩

/-- No two points of a path make up a surrogate pair if a text can be read there. -/
theorem unpaired_of_readText {t : Text} {s : List Char} (h : d.readText (Path.ofText t) = .ok s) :
    Json.Unpaired t.points := by
  obtain ⟨l, hl⟩ := exists_locate_of_readText h
  refine Json.unpaired_of_second fun x hx => ?_
  have hbyte : x.isByte = true := by
    simpa using Text.eq_false_of_findStray_eq_none (findStray_of_locate hl)
      (Path.half_mem_text_ofText hx)
  rw [Half.isByte, Bool.and_eq_true, decide_eq_true_iff] at hbyte
  omega

end Disk

end CssMargin
