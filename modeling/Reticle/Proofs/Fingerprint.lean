import Reticle.Board.Basic
import Reticle.Proofs.Joining
import Std.Data.String.ToInt

/-!
# Fingerprints tell obstacles apart

A fingerprint writes every obstacle as two whole numbers with a comma between them and sets a bar
between obstacles. Neither mark occurs in a written whole number, and no written cell is empty, so
the obstacles can be read back by cutting at the marks (`fingerprint_inj`).
-/

namespace Reticle

/-! ## Written cells -/

/-- A written whole number consists of digits and at most a minus sign. -/
theorem isDigit_or_minus_of_mem_toString {n : Int} {c : Char} (h : c ∈ (toString n).toList) :
    c.isDigit = true ∨ c = '-' := by
  rw [Int.toString_eq_repr, Int.repr_eq_if] at h
  split at h
  · rw [Nat.toList_repr] at h
    exact Or.inl (Nat.isDigit_of_mem_toDigits (by decide) (by decide) h)
  · rw [String.toList_append, Nat.toList_repr, List.mem_append] at h
    rcases h with h | h
    · exact Or.inr (List.mem_singleton.mp h)
    · exact Or.inl (Nat.isDigit_of_mem_toDigits (by decide) (by decide) h)

/-- Numbers are written with digits and the minus sign only. -/
theorem not_mem_toString {n : Int} {mark : Char} (hd : mark.isDigit = false) (hm : mark ≠ '-') :
    mark ∉ (toString n).toList := by
  intro h
  rcases isDigit_or_minus_of_mem_toString h with h | h
  · rw [hd] at h
    exact Bool.false_ne_true h
  · exact hm h

/-- Every number is written with at least one character. -/
theorem toString_toList_ne_nil (n : Int) : (toString n).toList ≠ [] := by
  rw [Int.toString_eq_repr, Int.repr_eq_if]
  split
  · rw [Nat.toList_repr]
    exact Nat.toDigits_ne_nil
  · simp

/-- The two written coordinates of a cell. -/
def Cell.coordinates (c : Cell) : List (List Char) :=
  [(toString c.row).toList, (toString c.col).toList]

/-- A written coordinate is not empty and holds no comma. -/
theorem Cell.coordinates_clean {c : Cell} : ∀ part ∈ c.coordinates, ',' ∉ part ∧ part ≠ [] := by
  intro part hpart
  simp only [coordinates, List.mem_cons, List.not_mem_nil, or_false] at hpart
  rcases hpart with rfl | rfl <;>
    exact ⟨not_mem_toString (by decide) (by decide), toString_toList_ne_nil _⟩

/-- A cell is known from its written coordinates. -/
theorem Cell.coordinates_inj {a b : Cell} (h : a.coordinates = b.coordinates) : a = b := by
  simp only [coordinates, List.cons.injEq, and_true, String.toList_inj, Int.toString_eq_repr,
    Int.repr_inj] at h
  obtain ⟨r, c⟩ := a
  obtain ⟨r', c'⟩ := b
  rw [Cell.mk.injEq]
  exact h

/-- The written cell, as it stands in a fingerprint. -/
def Cell.written (c : Cell) : List Char :=
  Text.joinWith ',' c.coordinates

/-- A cell is written with a comma between its coordinates. -/
theorem Cell.written_eq (c : Cell) :
    (toString c.row ++ "," ++ toString c.col).toList = c.written := by
  rw [String.toList_append, String.toList_append]
  simp [written, coordinates, Text.joinWith]

/-- A written cell is not empty and holds no bar. -/
theorem Cell.written_clean (c : Cell) : '|' ∉ c.written ∧ c.written ≠ [] := by
  simp only [written, coordinates, Text.joinWith]
  constructor
  · rw [List.mem_append, List.mem_cons]
    rintro (h | h | h)
    · exact not_mem_toString (by decide) (by decide) h
    · exact absurd h (by decide)
    · exact not_mem_toString (by decide) (by decide) h
  · simp

/-- Different cells are written differently. -/
theorem Cell.written_inj {a b : Cell} (h : a.written = b.written) : a = b :=
  coordinates_inj (Text.joinWith_inj coordinates_clean coordinates_clean h)

/-! ## Fingerprints -/

namespace Board

/-- A fingerprint is the obstacles as they are written, in reading order, with bars between them. -/
theorem toList_fingerprint (b : Board) :
    b.fingerprint.toList = Text.joinWith '|' (b.obstacles.cells.map Cell.written) := by
  unfold fingerprint
  rw [show "|" = String.singleton '|' from rfl, Text.toList_join, List.map_map]
  congr 1
  exact List.map_congr_left fun c _ => c.written_eq

/-- Boards have the same fingerprint exactly when they have the same obstacles. -/
theorem fingerprint_inj {b b' : Board} :
    b.fingerprint = b'.fingerprint ↔ b.obstacles = b'.obstacles := by
  constructor
  · intro h
    have hclean : ∀ cells : List Cell, ∀ part ∈ cells.map Cell.written,
        '|' ∉ part ∧ part ≠ [] := by
      intro cells part hpart
      obtain ⟨c, -, rfl⟩ := List.mem_map.mp hpart
      exact c.written_clean
    have hcells : b.obstacles.cells = b'.obstacles.cells := by
      have hjoin := congrArg String.toList h
      rw [toList_fingerprint, toList_fingerprint] at hjoin
      have hmap := Text.joinWith_inj (hclean _) (hclean _) hjoin
      exact List.map_inj_right (fun _ _ => Cell.written_inj) |>.mp hmap
    exact CellSet.ext fun c => by rw [CellSet.mem_def, CellSet.mem_def, hcells]
  · intro h
    unfold fingerprint
    rw [h]

end Board

end Reticle
