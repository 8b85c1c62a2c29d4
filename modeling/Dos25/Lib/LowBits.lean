/-
# Words that agree in their low bits

Two words agree below `i` if their `i` lowest bits are the same (`AgreeBelow`).
Exclusive or keeps that, a shift to the left raises `i` and one to the right
lowers it. A map that gets its bits below `i + 1` from those of its argument
below `i` has exactly one fixed point (`Raises.existsUnique_fixed`): any word,
mapped as often as there are bits, is it.

Key definitions: `AgreeBelow`, `Raises`.
-/
import Mathlib.Data.BitVec
import Mathlib.Logic.Function.Iterate

namespace LowBits

variable {w : ℕ}

/-- The bits below `i` are the same. -/
def AgreeBelow (i : ℕ) (x y : BitVec w) : Prop := ∀ k < i, x.getLsbD k = y.getLsbD k

/-- The value's bits below `i + 1` come from the argument's below `i`. -/
def Raises (f : BitVec w → BitVec w) : Prop :=
  ∀ i x y, AgreeBelow i x y → AgreeBelow (i + 1) (f x) (f y)

namespace AgreeBelow

variable {i j : ℕ} {x y u v : BitVec w}

theorem refl (i : ℕ) (x : BitVec w) : AgreeBelow i x x := fun _ _ => rfl

theorem mono (h : AgreeBelow i x y) (hj : j ≤ i) : AgreeBelow j x y :=
  fun k hk => h k (hk.trans_le hj)

/-- All bits are the same. -/
theorem eq (h : AgreeBelow w x y) : x = y := BitVec.eq_of_getLsbD_eq h

theorem xor (h : AgreeBelow i x y) (h' : AgreeBelow i u v) :
    AgreeBelow i (x ^^^ u) (y ^^^ v) := by
  intro k hk
  rw [BitVec.getLsbD_xor, BitVec.getLsbD_xor, h k hk, h' k hk]

theorem shiftLeft (h : AgreeBelow i x y) (n : ℕ) : AgreeBelow (i + n) (x <<< n) (y <<< n) := by
  intro k hk
  rw [BitVec.getLsbD_shiftLeft, BitVec.getLsbD_shiftLeft]
  by_cases hn : k < n
  · simp [hn]
  · rw [h (k - n) (by omega)]

theorem ushiftRight (h : AgreeBelow i x y) (n : ℕ) :
    AgreeBelow (i - n) (x >>> n) (y >>> n) := by
  intro k hk
  rw [BitVec.getLsbD_ushiftRight, BitVec.getLsbD_ushiftRight, h (n + k) (by omega)]

theorem and (h : AgreeBelow i x y) (m : BitVec w) : AgreeBelow i (x &&& m) (y &&& m) := by
  intro k hk
  rw [BitVec.getLsbD_and, BitVec.getLsbD_and, h k hk]

end AgreeBelow

namespace Raises

variable {f : BitVec w → BitVec w}

/-- Each time one bit more is settled. -/
theorem iterate (h : Raises f) (n : ℕ) (x y : BitVec w) : AgreeBelow n (f^[n] x) (f^[n] y) := by
  induction n with
  | zero => exact fun k hk => absurd hk (Nat.not_lt_zero k)
  | succ n ih =>
    rw [Function.iterate_succ_apply', Function.iterate_succ_apply']
    exact h n _ _ ih

/-- **Exactly one fixed point.** -/
theorem existsUnique_fixed (h : Raises f) : ∃! x, f x = x := by
  refine ⟨f^[w] 0#w, ?_, fun x hx => ?_⟩
  · calc f (f^[w] 0#w)
        = f^[w] (f 0#w) := by
          rw [← Function.iterate_succ_apply' f, Function.iterate_succ_apply]
      _ = f^[w] 0#w := (h.iterate w (f 0#w) 0#w).eq
  · rw [← Function.iterate_fixed hx w]
    exact (h.iterate w x 0#w).eq

/-- A constant difference settles nothing and disturbs nothing. -/
theorem xor (h : Raises f) (c : BitVec w) : Raises fun x => c ^^^ f x :=
  fun i x y hxy => (AgreeBelow.refl (i + 1) c).xor (h i x y hxy)

end Raises

end LowBits
