import Reticle.Area.Shape
import Reticle.Proofs.Orbits
import Reticle.Proofs.Sightlines

/-!
# Symmetric areas and where they face

A listed area that turns with the facing direction turns all of its offsets. Facing a quarter turn
further is the same as turning the offsets first (`Alike.turnedTo_quarterTurn`), up to the order of
the terms of a sum, and a list that was completed under a symmetry has the turned offsets already.
So such an area covers the same cells in four directions that are quarter turns apart; in the
cardinal ones these are the cells of the area as it is listed, since facing south changes no value
(`Alike.turnedTo_south`). Diagonal offsets are sums, which may be rounded or overflow, but in the
same way for all four.
-/

namespace Reticle

open Number

/-! ## Offsets with the same readings -/

/-- Doubles with the same reading round to the same coordinate. -/
theorem Number.round_congr {x y : Float} (h : exact x = exact y) : round x = round y := by
  unfold round floor
  rw [exact_add_congr h rfl]

/-- Whether a double is finite depends on its value only. -/
theorem Number.isFinite_congr {x y : Float} (h : exact x = exact y) : x.isFinite = y.isFinite := by
  rw [Bool.eq_iff_iff, isFinite_iff, isFinite_iff, h]

namespace Offset

/-- Two offsets that stand for the same rows and columns, infinite and undefined ones included. -/
structure Alike (o p : Offset) : Prop where
  row : exact o.row = exact p.row
  col : exact o.col = exact p.col

namespace Alike

/-- Being alike is symmetric. -/
theorem symm {o p : Offset} (h : Alike o p) : Alike p o :=
  ⟨h.row.symm, h.col.symm⟩

/-- Being alike is transitive. -/
theorem trans {o p r : Offset} (h : Alike o p) (h' : Alike p r) : Alike o r :=
  ⟨h.row.trans h'.row, h.col.trans h'.col⟩

/-- Finite offsets of the same value are alike: they differ in the signs of zeros at most. -/
theorem of_value {o p : Offset} (ho : o.IsFinite) (hp : p.IsFinite) (h : o.value = p.value) :
    Alike o p := by
  obtain ⟨hrow, hcol⟩ := Prod.mk_inj.1 h
  refine ⟨?_, ?_⟩
  · rw [exact_eq_value ho.row, exact_eq_value hp.row, hrow]
  · rw [exact_eq_value ho.col, exact_eq_value hp.col, hcol]

/-- Such offsets lead to the same cell. -/
theorem cellFrom?_eq {o p : Offset} (h : Alike o p) (anchor : Cell) :
    o.cellFrom? anchor = p.cellFrom? anchor := by
  have hrow := exact_add_congr_right (Float.ofInt anchor.row) h.row
  have hcol := exact_add_congr_right (Float.ofInt anchor.col) h.col
  unfold cellFrom?
  dsimp only
  rw [isFinite_congr hrow, isFinite_congr hcol, round_congr hrow, round_congr hcol]

variable {o p : Offset} (ho : o.IsFinite) (d : Direction)
include ho

/-- Offsets of the same value stay alike when they are turned. -/
theorem turnedTo (hp : p.IsFinite) (h : o.value = p.value) :
    Alike (o.turnedTo d) (p.turnedTo d) := by
  obtain ⟨hrow, hcol⟩ := of_value ho hp h
  have hterm : ∀ {a : Int} {x y : Float}, (a = -1 ∨ a = 0 ∨ a = 1) → x.isFinite = true →
      exact x = exact y → exact (Float.ofInt a * x) = exact (Float.ofInt a * y) := by
    intro a x y ha hx hxy
    rw [exact_ofInt_mul ha (exact_eq_value hx), exact_ofInt_mul ha (hxy ▸ exact_eq_value hx)]
  exact ⟨exact_add_congr (hterm d.row_cases ho.row hrow) (hterm d.quarterTurn.row_cases ho.col hcol),
    exact_add_congr (hterm d.col_cases ho.row hrow) (hterm d.quarterTurn.col_cases ho.col hcol)⟩

/-- Facing a quarter turn further is facing the same way with the offset turned. -/
theorem turnedTo_quarterTurn : Alike (o.turnedTo d.quarterTurn) (o.quarterTurn.turnedTo d) := by
  have hsum : ∀ {a b b' : Int}, (b = -1 ∨ b = 0 ∨ b = 1) → b' = -b →
      exact (Float.ofInt a * o.row + Float.ofInt b' * o.col) =
        exact (Float.ofInt b * -o.col + Float.ofInt a * o.row) := by
    rintro a b _ hb rfl
    have hneg : exact (Float.ofInt (-b) * o.col) = exact (Float.ofInt b * -o.col) := by
      have hcol := exact_eq_value ho.col
      rw [exact_ofInt_mul (by omega) hcol, exact_ofInt_mul hb (exact_neg hcol), Int.cast_neg,
        neg_mul, mul_neg]
    rw [float_add_comm]
    exact exact_add_congr hneg rfl
  refine ⟨hsum d.row_cases ?_, hsum d.col_cases ?_⟩
  · rw [Direction.row_quarterTurn, Direction.col_quarterTurn]
  · rw [Direction.col_quarterTurn, Direction.row_quarterTurn]

/-- South is ahead as the offsets are written. -/
theorem turnedTo_south : Alike (o.turnedTo .south) o := by
  have hone : ∀ {x : Float}, x.isFinite = true → exact (Float.ofInt 1 * x) = exact x := by
    intro x hx
    rw [exact_ofInt_mul (.inr (.inr rfl)) (exact_eq_value hx), Int.cast_one, one_mul,
      exact_eq_value hx]
  have hzero : ∀ {x : Float}, x.isFinite = true → exact (Float.ofInt 0 * x) = .finite 0 := by
    intro x hx
    rw [exact_ofInt_mul (.inr (.inl rfl)) (exact_eq_value hx), Int.cast_zero, zero_mul]
  refine ⟨?_, ?_⟩
  · show exact (Float.ofInt 1 * o.row + Float.ofInt 0 * o.col) = _
    rw [exact_add_zero _ (hzero ho.col), hone ho.row]
  · show exact (Float.ofInt 0 * o.row + Float.ofInt 1 * o.col) = _
    rw [float_add_comm, exact_add_zero _ (hzero ho.row), hone ho.col]

end Alike

/-! ## Lists with all their turns -/

/-- Finite offsets among which every value is there with its turns. -/
structure Turnable (offsets : List Offset) : Prop where
  finite : ∀ o ∈ offsets, o.IsFinite
  turned : ∀ o ∈ offsets, ∀ v ∈ Symmetry.turned o.value, ∃ p ∈ offsets, p.value = v

/-- The completed offsets of finite ones can be turned. -/
theorem turnable_completed {offsets : List Offset} (h : ∀ o ∈ offsets, o.IsFinite) :
    Turnable (completed offsets) := by
  refine ⟨fun o ho => finite_of_mem_completed h ho, fun o ho v hv => ?_⟩
  exact List.mem_map.1 (mem_completed_of_turned h (List.mem_map.2 ⟨o, ho, rfl⟩) hv)

/-- Under each symmetry but the identity the offsets can be turned. -/
theorem turnable_symmetrize {offsets : List Offset} (h : ∀ o ∈ offsets, o.IsFinite)
    {symmetry : Symmetry} (hsymmetry : symmetry ≠ .identity) :
    Turnable (symmetrize offsets symmetry) := by
  cases symmetry with
  | identity => exact absurd rfl hsymmetry
  | fourWay =>
    rw [symmetrize_fourWay h]
    exact turnable_completed h
  | eightWay =>
    rw [symmetrize_eightWay h]
    exact turnable_completed (finite_or_transposed h)

variable {offsets : List Offset} {grid : Grid} {anchor c : Cell}

/-- Lists with alike offsets, in whatever order, cover the same cells. -/
theorem mem_place_congr {others : List Offset} (h : ∀ o ∈ offsets, ∃ p ∈ others, Alike o p)
    (h' : ∀ p ∈ others, ∃ o ∈ offsets, Alike p o) :
    c ∈ place grid anchor offsets ↔ c ∈ place grid anchor others := by
  rw [mem_place, mem_place]
  refine and_congr_right fun _ => ?_
  constructor
  · rintro ⟨o, ho, hcell⟩
    obtain ⟨p, hp, halike⟩ := h o ho
    exact ⟨p, hp, halike.cellFrom?_eq anchor ▸ hcell⟩
  · rintro ⟨p, hp, hcell⟩
    obtain ⟨o, ho, halike⟩ := h' p hp
    exact ⟨o, ho, halike.cellFrom?_eq anchor ▸ hcell⟩

namespace Turnable

variable (h : Turnable offsets)
include h

/-- A quarter turn further the same cells are covered. -/
theorem mem_place_quarterTurn (d : Direction) :
    c ∈ place grid anchor (orient offsets (some d.quarterTurn)) ↔
      c ∈ place grid anchor (orient offsets (some d)) := by
  unfold orient
  apply mem_place_congr
  · intro r hr
    obtain ⟨o, ho, rfl⟩ := List.mem_map.1 hr
    have hfinite := h.finite o ho
    obtain ⟨p, hp, hvalue⟩ := h.turned o ho (Symmetry.turn o.value) (by simp [Symmetry.turned])
    rw [← value_quarterTurn hfinite] at hvalue
    exact ⟨p.turnedTo d, List.mem_map.2 ⟨p, hp, rfl⟩, (Alike.turnedTo_quarterTurn hfinite d).trans
      (Alike.turnedTo hfinite.quarterTurn d (h.finite p hp) hvalue.symm)⟩
  · intro r hr
    obtain ⟨o, ho, rfl⟩ := List.mem_map.1 hr
    -- Three quarter turns lead to the offset that one more takes back.
    obtain ⟨p, hp, hvalue⟩ := h.turned o ho (Symmetry.turn (Symmetry.turn (Symmetry.turn o.value)))
      (by simp [Symmetry.turned])
    have hfinite := h.finite p hp
    have hback : p.quarterTurn.value = o.value := by
      rw [value_quarterTurn hfinite, hvalue]
      simp [Symmetry.turn]
    exact ⟨p.turnedTo d.quarterTurn, List.mem_map.2 ⟨p, hp, rfl⟩,
      (Alike.turnedTo (h.finite o ho) d hfinite.quarterTurn hback.symm).trans
        (Alike.turnedTo_quarterTurn hfinite d).symm⟩

/-- Offsets are written as they lie facing south. -/
theorem mem_place_south :
    c ∈ place grid anchor (orient offsets (some .south)) ↔ c ∈ place grid anchor offsets := by
  unfold orient
  apply mem_place_congr
  · intro r hr
    obtain ⟨o, ho, rfl⟩ := List.mem_map.1 hr
    exact ⟨o, ho, .turnedTo_south (h.finite o ho)⟩
  · intro o ho
    exact ⟨o.turnedTo .south, List.mem_map.2 ⟨o, ho, rfl⟩,
      (Alike.turnedTo_south (h.finite o ho)).symm⟩

/-- Four directions that are quarter turns apart. -/
theorem mem_place_quarterTurns (d : Direction) :
    (c ∈ place grid anchor (orient offsets (some d.quarterTurn)) ↔
      c ∈ place grid anchor (orient offsets (some d))) ∧
    (c ∈ place grid anchor (orient offsets (some d.quarterTurn.quarterTurn)) ↔
      c ∈ place grid anchor (orient offsets (some d))) ∧
    (c ∈ place grid anchor (orient offsets (some d.quarterTurn.quarterTurn.quarterTurn)) ↔
      c ∈ place grid anchor (orient offsets (some d))) := by
  have hone := @mem_place_quarterTurn _ grid anchor c h d
  have htwo := (h.mem_place_quarterTurn d.quarterTurn).trans hone
  exact ⟨hone, htwo, (h.mem_place_quarterTurn d.quarterTurn.quarterTurn).trans htwo⟩

/-- Symmetrized offsets cover the same cells facing any cardinal direction as they do when they are
not turned. -/
theorem mem_place_cardinal {d : Direction} (hd : d ∈ Direction.cardinals) :
    c ∈ place grid anchor (orient offsets (some d)) ↔ c ∈ place grid anchor offsets := by
  obtain ⟨heast, hnorth, hwest⟩ :=
    @mem_place_quarterTurns _ grid anchor c h .south
  rw [← h.mem_place_south]
  simp only [Direction.cardinals, List.mem_cons, List.not_mem_nil, or_false] at hd
  rcases hd with rfl | rfl | rfl | rfl
  · exact hnorth
  · exact Iff.rfl
  · exact hwest
  · exact heast

/-- Symmetrized offsets cover the same cells facing any diagonal direction. -/
theorem mem_place_diagonal {d : Direction} (hd : d ∈ Direction.diagonals) :
    c ∈ place grid anchor (orient offsets (some d)) ↔
      c ∈ place grid anchor (orient offsets (some .northWest)) := by
  obtain ⟨hsouthWest, hsouthEast, hnorthEast⟩ :=
    @mem_place_quarterTurns _ grid anchor c h .northWest
  simp only [Direction.diagonals, List.mem_cons, List.not_mem_nil, or_false] at hd
  rcases hd with rfl | rfl | rfl | rfl
  · exact Iff.rfl
  · exact hnorthEast
  · exact hsouthWest
  · exact hsouthEast

end Turnable

end Offset

/-- A turning area that was completed under a symmetry covers the cells of the area that does not
turn, without a facing direction and in the four cardinal ones, and it covers the same cells in the
four diagonal ones. -/
theorem Shape.cells_custom_of_symmetrize {offsets : List Offset} (h : ∀ o ∈ offsets, o.IsFinite)
    {symmetry : Symmetry} (hsymmetry : symmetry ≠ .identity) (grid : Grid) (anchor c : Cell) :
    let turning := custom (Offset.symmetrize offsets symmetry) true
    let still := custom (Offset.symmetrize offsets symmetry) false
    (∀ facing ∈ none :: Direction.cardinals.map some, ∀ other,
      (c ∈ turning.cells grid anchor facing ↔ c ∈ still.cells grid anchor other)) ∧
    ∀ d ∈ Direction.diagonals, ∀ e ∈ Direction.diagonals,
      (c ∈ turning.cells grid anchor (some d) ↔ c ∈ turning.cells grid anchor (some e)) := by
  have hturnable := Offset.turnable_symmetrize h hsymmetry
  refine ⟨fun facing hfacing other => ?_, fun d hd e he => ?_⟩
  · rcases List.mem_cons.1 hfacing with rfl | hfacing
    · exact Iff.rfl
    · obtain ⟨d, hd, rfl⟩ := List.mem_map.1 hfacing
      exact hturnable.mem_place_cardinal hd
  · exact (hturnable.mem_place_diagonal hd).trans (hturnable.mem_place_diagonal he).symm

/-- Four arms that start half a row off. -/
theorem Shape.cells_custom_of_symmetrize_example :
    let offsets : List Offset := [⟨0.5, 1⟩, ⟨0.5, 2⟩]
    let turning := custom (Offset.symmetrize offsets .fourWay) true
    let still := custom (Offset.symmetrize offsets .fourWay) false
    (∀ o ∈ offsets, o.IsFinite) ∧ Symmetry.fourWay ≠ .identity ∧
      ∀ c : Cell, c ∈ turning.cells (.ofSide 7) ⟨3, 3⟩ (some .west) ↔
        c ∈ still.cells (.ofSide 7) ⟨3, 3⟩ none := by
  have hfinite : ∀ o ∈ ([⟨0.5, 1⟩, ⟨0.5, 2⟩] : List Offset), o.IsFinite := by
    simp only [List.mem_cons, List.not_mem_nil, or_false]
    rintro o (rfl | rfl) <;> exact ⟨by decide +kernel, by decide +kernel⟩
  refine ⟨hfinite, by decide, fun c => ?_⟩
  exact (cells_custom_of_symmetrize hfinite (by decide) (.ofSide 7) ⟨3, 3⟩ c).1 (some .west)
    (by decide) none

end Reticle
