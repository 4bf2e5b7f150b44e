import Reticle.Board.Basic

/-!
# Remembering what was derived from a board

A memo keeps one derived value together with the fingerprint of the board that it was derived
from, and derives it anew when the fingerprint is another.
-/

namespace Reticle

/-- A derived value with the fingerprint of its board, if one was derived yet. -/
structure Memo (α : Type) where
  entry : Option (String × α)

namespace Memo

/-- Nothing was derived yet. -/
def cold {α : Type} : Memo α :=
  ⟨none⟩

/-- What asking a memo gives. -/
structure Answer (α : Type) where
  value : α
  /-- Whether the value had to be derived for this answer. -/
  computed : Bool
  memo : Memo α

/-- The value for a board: the remembered one if the fingerprint is still the same. -/
def get {α : Type} (m : Memo α) (board : Board) (derive : Board → α) : Answer α :=
  match m.entry.filter (·.1 == board.fingerprint) with
  | some (_, value) => ⟨value, false, m⟩
  | none =>
    let value := derive board
    ⟨value, true, ⟨some (board.fingerprint, value)⟩⟩

end Memo

end Reticle
