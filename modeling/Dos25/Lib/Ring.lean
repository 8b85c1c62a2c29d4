/-
# A ring of slots, read as the list it holds

A ring buffer keeps `n` slots and two free-running positions; the slot of
position `p` is `p % n`. What it holds is the `window` of the slots from the
oldest position on. Writing the slot behind a window that is not the whole
ring appends to it (`window_update`), and moving the start on by one drops
its head (`window_succ`); everything a queue needs from the wrap-around is in
`ofNat_ne`: two positions less than `n` apart never share a slot.

Key definition: `window`.
Key theorems: `window_succ`, `window_update`, `ofNat_ne`.
-/
import Mathlib.Tactic.Ring

namespace Ring

variable {α : Type*} {n : ℕ} [NeZero n]

/-- The `k` slots from position `c` on, oldest first. -/
def window (slots : Fin n → α) (c k : ℕ) : List α :=
  (List.range k).map fun i => slots (Fin.ofNat n (c + i))

@[simp] theorem window_length (slots : Fin n → α) (c k : ℕ) : (window slots c k).length = k := by
  simp [window]

/-- The oldest slot comes first; the rest is the window one position on. -/
theorem window_succ (slots : Fin n → α) (c k : ℕ) :
    window slots c (k + 1) = slots (Fin.ofNat n c) :: window slots (c + 1) k := by
  simp only [window, List.range_succ_eq_map, List.map_cons, List.map_map, Nat.add_zero]
  congr 1
  refine List.map_congr_left fun i _ => ?_
  simp only [Function.comp_apply, Nat.succ_eq_add_one]
  congr 2
  omega

/-- Only the slots it covers matter to a window. -/
theorem window_congr {slots slots' : Fin n → α} {c k : ℕ}
    (h : ∀ i < k, slots (Fin.ofNat n (c + i)) = slots' (Fin.ofNat n (c + i))) :
    window slots c k = window slots' c k :=
  List.map_congr_left fun i hi => h i (List.mem_range.mp hi)

/-- A position and its slot number start the same window. -/
theorem window_mod (slots : Fin n → α) (c k : ℕ) : window slots (c % n) k = window slots c k := by
  refine List.map_congr_left fun i _ => ?_
  congr 1
  apply Fin.ext
  simp [Fin.ofNat]

/-- Positions less than `n` apart have different slots. -/
theorem ofNat_ne {c i k : ℕ} (hi : i < k) (hk : k < n) :
    Fin.ofNat n (c + i) ≠ Fin.ofNat n (c + k) := by
  intro h
  have hv : (c + i) % n = (c + k) % n := congrArg Fin.val h
  have hz : (k - i) % n = 0 := by
    have := Nat.sub_mod_eq_zero_of_mod_eq hv.symm
    rwa [show c + k - (c + i) = k - i by omega] at this
  rw [Nat.mod_eq_of_lt (by omega)] at hz
  omega

/-- Writing the slot behind the window leaves the window as it was. -/
theorem window_update_behind (slots : Fin n → α) (c : ℕ) {k : ℕ} (hk : k < n) (a : α) :
    window (Function.update slots (Fin.ofNat n (c + k)) a) c k = window slots c k :=
  window_congr fun _ hi => Function.update_of_ne (ofNat_ne hi hk) _ _

/-- A window one longer ends in one more slot. -/
theorem window_succ_last (slots : Fin n → α) (c k : ℕ) :
    window slots c (k + 1) = window slots c k ++ [slots (Fin.ofNat n (c + k))] := by
  simp [window, List.range_succ]

/-- **Writing the slot behind the window appends.** -/
theorem window_update (slots : Fin n → α) (c : ℕ) {k : ℕ} (hk : k < n) (a : α) :
    window (Function.update slots (Fin.ofNat n (c + k)) a) c (k + 1) = window slots c k ++ [a] := by
  rw [window_succ_last, window_update_behind slots c hk, Function.update_self]

end Ring
