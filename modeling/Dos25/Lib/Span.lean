/-
# Spans of byte positions

A span is a start and a length, `[start, start + size)`. Whether it lies below
a limit (`Inside`) and whether two spans share no position (`Disjoint`) are
stated over positions and decided by their ends.
-/
import Mathlib.Data.Nat.Basic
import Mathlib.Order.Basic

/-- The positions `start ≤ x < start + size`. -/
structure Span where
  start : ℕ
  size : ℕ
  deriving DecidableEq, Repr

namespace Span

variable (s t : Span)

def Contains (x : ℕ) : Prop := s.start ≤ x ∧ x < s.start + s.size

/-- Every position is below `limit`. -/
def Inside (limit : ℕ) : Prop := ∀ x, s.Contains x → x < limit

/-- No common position. -/
def Disjoint : Prop := ∀ x, ¬ (s.Contains x ∧ t.Contains x)

theorem inside_of_le {limit : ℕ} (h : s.start + s.size ≤ limit) : s.Inside limit :=
  fun _ hx => lt_of_lt_of_le hx.2 h

/-- A span that is not empty is inside exactly when its end is. -/
theorem inside_iff {limit : ℕ} (h : 0 < s.size) :
    s.Inside limit ↔ s.start + s.size ≤ limit := by
  refine ⟨fun hi => ?_, s.inside_of_le⟩
  have := hi (s.start + (s.size - 1)) ⟨by omega, by omega⟩
  omega

theorem disjoint_of_le (h : s.start + s.size ≤ t.start) : s.Disjoint t := by
  rintro x ⟨⟨-, hs⟩, ⟨ht, -⟩⟩
  omega

end Span
