/-
# Shift-and-xor sums

A list of words is summed by shifting the sum left by `k` bits and adding the
next word with exclusive or. The start value and the words enter the sum
independently (`fold_eq_xor`), and what is shifted by the whole width is gone:
the sum depends on the last words only (`fold_append_of_le`, `fold_drop`). A
word that is exchanged for another adds the difference of the two, shifted past
the words behind it (`fold_set`), and a list exchanged for another adds the sum
of the differences (`fold_zipWith_xor`).
-/
import Mathlib.Data.BitVec
import Mathlib.Data.Nat.Prime.Basic

namespace ShiftXor

variable {w : ℕ} (k : ℕ)

/-- The sum of `xs` on top of `s`. -/
def fold (s : BitVec w) (xs : List (BitVec w)) : BitVec w := xs.foldl (fun s x => (s <<< k) ^^^ x) s

theorem fold_cons (s x : BitVec w) (xs : List (BitVec w)) :
    fold k s (x :: xs) = fold k ((s <<< k) ^^^ x) xs := rfl

theorem fold_append (s : BitVec w) (xs ys : List (BitVec w)) :
    fold k s (xs ++ ys) = fold k (fold k s xs) ys := List.foldl_append

/-- The start value is shifted through, the words are summed on their own. -/
theorem fold_eq_xor (s : BitVec w) (xs : List (BitVec w)) :
    fold k s xs = (s <<< (k * xs.length)) ^^^ fold k 0#w xs := by
  induction xs generalizing s with
  | nil => simp [fold]
  | cons x xs ih =>
    have hshift : (s <<< k) <<< (k * xs.length) = s <<< (k * (x :: xs).length) := by
      rw [← BitVec.shiftLeft_add, List.length_cons, Nat.mul_succ, Nat.add_comm]
    calc fold k s (x :: xs)
        = (((s <<< k) ^^^ x) <<< (k * xs.length)) ^^^ fold k 0#w xs := by rw [fold_cons, ih]
      _ = (s <<< (k * (x :: xs).length)) ^^^ ((x <<< (k * xs.length)) ^^^ fold k 0#w xs) := by
        rw [BitVec.shiftLeft_xor_distrib, hshift, BitVec.xor_assoc]
      _ = (s <<< (k * (x :: xs).length)) ^^^ fold k 0#w (x :: xs) := by
        rw [fold_cons, BitVec.zero_shiftLeft, BitVec.zero_xor, ← ih x]

/-- Enough words shift the start value out. -/
theorem fold_of_le (s : BitVec w) {xs : List (BitVec w)} (h : w ≤ k * xs.length) :
    fold k s xs = fold k 0#w xs := by
  rw [fold_eq_xor, BitVec.shiftLeft_eq_zero h, BitVec.zero_xor]

/-- Enough words shift out those before them. -/
theorem fold_append_of_le (s : BitVec w) (xs : List (BitVec w)) {ys : List (BitVec w)}
    (h : w ≤ k * ys.length) : fold k s (xs ++ ys) = fold k 0#w ys := by
  rw [fold_append, fold_of_le k _ h]

/-- Only the last words count. -/
theorem fold_drop (s : BitVec w) {xs : List (BitVec w)} {n : ℕ}
    (h : w ≤ k * (xs.length - n)) : fold k s xs = fold k 0#w (xs.drop n) := by
  conv_lhs => rw [← List.take_append_drop n xs]
  exact fold_append_of_le k s _ (by rwa [List.length_drop])

/-- Another word in one place. -/
theorem fold_change (s x y : BitVec w) (xs ys : List (BitVec w)) :
    fold k s (xs ++ y :: ys) = fold k s (xs ++ x :: ys) ^^^ ((x ^^^ y) <<< (k * ys.length)) := by
  have hsum : ∀ z, fold k s (xs ++ z :: ys) =
      ((fold k s xs <<< k) <<< (k * ys.length)) ^^^ (z <<< (k * ys.length)) ^^^ fold k 0#w ys := by
    intro z
    rw [fold_append, fold_cons, fold_eq_xor, BitVec.shiftLeft_xor_distrib]
  rw [hsum, hsum, BitVec.shiftLeft_xor_distrib]
  simp only [BitVec.xor_assoc]
  rw [BitVec.xor_comm (fold k 0#w ys), ← BitVec.xor_assoc (x <<< (k * ys.length)),
    ← BitVec.xor_assoc (x <<< (k * ys.length)), BitVec.xor_self, BitVec.zero_xor]

theorem fold_set (s y : BitVec w) {xs : List (BitVec w)} {i : ℕ} (h : i < xs.length) :
    fold k s (xs.set i y) = fold k s xs ^^^ ((xs[i] ^^^ y) <<< (k * (xs.length - 1 - i))) := by
  have hxs : xs = xs.take i ++ xs[i] :: xs.drop (i + 1) := by
    rw [← List.drop_eq_getElem_cons h, List.take_append_drop]
  have hlen : (xs.drop (i + 1)).length = xs.length - 1 - i := by
    rw [List.length_drop]
    omega
  have hchange := fold_change k s xs[i] y (xs.take i) (xs.drop (i + 1))
  rw [← hxs, hlen] at hchange
  rw [List.set_eq_take_append_cons_drop, if_pos h, hchange]

/-- The sum of differences is the difference of the sums. -/
theorem fold_zipWith_xor : ∀ (s t : BitVec w) {xs ys : List (BitVec w)}, xs.length = ys.length →
    fold k (s ^^^ t) (List.zipWith (· ^^^ ·) xs ys) = fold k s xs ^^^ fold k t ys
  | s, t, [], [], _ => rfl
  | s, t, x :: xs, y :: ys, h => by
    have hstep : ((s ^^^ t) <<< k) ^^^ (x ^^^ y) = ((s <<< k) ^^^ x) ^^^ ((t <<< k) ^^^ y) := by
      rw [BitVec.shiftLeft_xor_distrib]
      ac_rfl
    rw [List.zipWith_cons_cons, fold_cons, hstep, fold_zipWith_xor _ _ (Nat.succ.inj h)]
    rfl

/-! ### Shifts -/

variable {k}

/-- A word below the shift fills the gap. -/
theorem shiftLeft_xor_of_lt (x : BitVec w) {y : BitVec w} (h : y.toNat < 2 ^ k) :
    (x <<< k) ^^^ y = (x <<< k) + y := by
  have hlow : ∀ i, (x <<< k).getLsbD i = true → y.getLsbD i = false := by
    intro i hi
    have hk : k ≤ i := by
      by_contra hlt
      simp [BitVec.getLsbD_shiftLeft, Nat.lt_of_not_le hlt] at hi
    exact Nat.testBit_lt_two_pow (h.trans_le (Nat.pow_le_pow_right (by decide) hk))
  have hand : (x <<< k) &&& y = 0#w := by
    apply BitVec.eq_of_getLsbD_eq
    intro i _
    rw [BitVec.getLsbD_and, BitVec.getLsbD_zero]
    cases hx : (x <<< k).getLsbD i with
    | false => rfl
    | true => rw [hlow i hx]; rfl
  rw [BitVec.add_eq_or_of_and_eq_zero _ _ hand]
  apply BitVec.eq_of_getLsbD_eq
  intro i _
  rw [BitVec.getLsbD_xor, BitVec.getLsbD_or]
  cases hx : (x <<< k).getLsbD i with
  | false => simp
  | true => rw [hlow i hx]; rfl

/-- What a shift keeps of a word are its lowest bits. -/
theorem shiftLeft_inj_iff (n : ℕ) (x y : BitVec w) :
    x <<< n = y <<< n ↔ x.toNat % 2 ^ (w - n) = y.toNat % 2 ^ (w - n) := by
  rcases le_total w n with h | h
  · rw [BitVec.shiftLeft_eq_zero h, BitVec.shiftLeft_eq_zero h, Nat.sub_eq_zero_of_le h, pow_zero,
      Nat.mod_one, Nat.mod_one]
    exact iff_of_true rfl rfl
  · have hpow : 2 ^ w = 2 ^ (w - n) * 2 ^ n := by rw [← pow_add, Nat.sub_add_cancel h]
    rw [← BitVec.toNat_inj, BitVec.toNat_shiftLeft, BitVec.toNat_shiftLeft, Nat.shiftLeft_eq,
      Nat.shiftLeft_eq, hpow, Nat.mul_mod_mul_right, Nat.mul_mod_mul_right]
    exact Nat.mul_left_inj (Nat.two_pow_pos n).ne'

/-- A shift moves every word but zero. -/
theorem shiftLeft_eq_self_iff {x : BitVec w} {m : ℕ} (hm : 0 < m) : x <<< m = x ↔ x = 0#w := by
  refine ⟨fun h => ?_, fun h => by rw [h, BitVec.zero_shiftLeft]⟩
  have hall : ∀ n, x <<< (m * n) = x := by
    intro n
    induction n with
    | zero => exact BitVec.shiftLeft_zero x
    | succ n ih => rw [Nat.mul_succ, BitVec.shiftLeft_add, ih, h]
  rw [← hall w]
  exact BitVec.shiftLeft_eq_zero (Nat.le_mul_of_pos_left w hm)

/-- Two shifts of a word agree only if they are the same, when one of them
loses nothing. -/
theorem shiftLeft_eq_shiftLeft_iff {e : BitVec w} {a b : ℕ} (h0 : 0 < e.toNat)
    (hb : e.toNat * 2 ^ b < 2 ^ w) : e <<< a = e <<< b ↔ a = b := by
  refine ⟨fun h => ?_, fun h => by rw [h]⟩
  have hmod : e.toNat * 2 ^ a % 2 ^ w = e.toNat * 2 ^ b := by
    rw [← BitVec.toNat_inj, BitVec.toNat_shiftLeft, BitVec.toNat_shiftLeft, Nat.shiftLeft_eq,
      Nat.shiftLeft_eq, Nat.mod_eq_of_lt hb] at h
    exact h
  rcases le_or_gt a b with hab | hab
  · have hle : e.toNat * 2 ^ a ≤ e.toNat * 2 ^ b :=
      Nat.mul_le_mul_left _ (Nat.pow_le_pow_right (by decide) hab)
    rw [Nat.mod_eq_of_lt (hle.trans_lt hb)] at hmod
    exact Nat.pow_right_injective le_rfl (Nat.eq_of_mul_eq_mul_left h0 hmod)
  · exfalso
    obtain ⟨m, rfl⟩ := Nat.exists_eq_add_of_lt hab
    set x := e.toNat * 2 ^ b with hx
    have hxpos : 0 < x := Nat.mul_pos h0 (Nat.two_pow_pos b)
    -- what the longer shift adds is a multiple of `2 ^ w` and an odd multiple of `x`
    have hshift : e.toNat * 2 ^ (b + m + 1) = x + x * (2 ^ (m + 1) - 1) := by
      have hone : 2 ^ (m + 1) = 1 + (2 ^ (m + 1) - 1) := (Nat.add_sub_of_le Nat.one_le_two_pow).symm
      calc e.toNat * 2 ^ (b + m + 1) = x * 2 ^ (m + 1) := by rw [hx, Nat.add_assoc, pow_add, Nat.mul_assoc]
        _ = x + x * (2 ^ (m + 1) - 1) := by
          conv_lhs => rw [hone]
          rw [Nat.mul_add, Nat.mul_one]
    have hdvd : 2 ^ w ∣ x * (2 ^ (m + 1) - 1) := by
      rw [hshift] at hmod
      exact (Nat.modEq_zero_iff_dvd).mp (Nat.ModEq.add_left_cancel' x (by
        show (x + x * (2 ^ (m + 1) - 1)) % 2 ^ w = (x + 0) % 2 ^ w
        rw [hmod, Nat.add_zero, Nat.mod_eq_of_lt hb]))
    have hodd : Nat.Coprime (2 ^ w) (2 ^ (m + 1) - 1) := by
      refine Nat.Coprime.pow_left w (Nat.coprime_two_left.mpr ?_)
      rw [pow_succ']
      exact ⟨2 ^ m - 1, by have := Nat.one_le_two_pow (n := m); omega⟩
    exact absurd (Nat.le_of_dvd hxpos (hodd.dvd_of_dvd_mul_right hdvd)) (Nat.not_le.mpr hb)

end ShiftXor
