/-
# Scanning for a terminator

A scan takes elements as long as a predicate accepts them. It sees the list up
to the first element that is rejected and nothing behind it
(`takeWhile_eq_of_take_eq`); as long as it has rejected none, it sees the next
one (`getElem?_eq_of_takeWhile_eq`).
-/
import Mathlib.Data.List.Basic

namespace Scan

variable {α : Type*} {p : α → Bool}

/-- Lists that agree up to the first element `p` rejects. -/
theorem takeWhile_eq_of_take_eq : ∀ {k : ℕ} {xs ys : List α} {x : α},
    xs.take (k + 1) = ys.take (k + 1) → xs[k]? = some x → p x = false →
    xs.takeWhile p = ys.takeWhile p
  | _, [], _, _, _, hx, _ => by simp at hx
  | _, _ :: _, [], _, h, _, _ => by simp at h
  | k, a :: xs, b :: ys, x, h, hx, hp => by
    rw [List.take_succ_cons, List.take_succ_cons, List.cons.injEq] at h
    obtain ⟨rfl, htail⟩ := h
    rw [List.takeWhile_cons, List.takeWhile_cons]
    cases ha : p a with
    | false => rfl
    | true =>
      cases k with
      | zero =>
        obtain rfl : a = x := by simpa using hx
        exact absurd (ha.symm.trans hp) (by decide)
      | succ k =>
        rw [takeWhile_eq_of_take_eq htail (by simpa using hx) hp]

/-- Behind a common start that `p` accepts, the first element shows, if there
is only one that `p` rejects. -/
theorem getElem?_eq_of_takeWhile_eq (hone : ∀ a b, p a = false → p b = false → a = b) :
    ∀ {k : ℕ} {xs ys : List α} {x y : α}, xs.take k = ys.take k → (∀ a ∈ xs.take k, p a = true) →
      xs.takeWhile p = ys.takeWhile p → xs[k]? = some x → ys[k]? = some y → x = y
  | _, [], _, _, _, _, _, _, hx, _ => by simp at hx
  | _, _ :: _, [], _, _, _, _, _, _, hy => by simp at hy
  | 0, a :: xs, b :: ys, x, y, _, _, h, hx, hy => by
    obtain rfl : a = x := by simpa using hx
    obtain rfl : b = y := by simpa using hy
    rw [List.takeWhile_cons, List.takeWhile_cons] at h
    cases ha : p a <;> cases hb : p b <;> simp only [ha, hb] at h
    · exact hone a b ha hb
    · simp at h
    · simp at h
    · exact (List.cons.inj h).1
  | k + 1, a :: xs, b :: ys, x, y, htake, hp, h, hx, hy => by
    rw [List.take_succ_cons, List.take_succ_cons, List.cons.injEq] at htake
    rw [List.take_succ_cons] at hp
    obtain ⟨rfl, htake⟩ := htake
    have ha : p a = true := hp a List.mem_cons_self
    rw [List.takeWhile_cons, List.takeWhile_cons, ha] at h
    exact getElem?_eq_of_takeWhile_eq hone htake (fun c hc => hp c (List.mem_cons_of_mem _ hc))
      (List.cons.inj h).2 (by simpa using hx) (by simpa using hy)

/-- A scan stops at the first element rejected, at the latest. -/
theorem length_takeWhile_le : ∀ {k : ℕ} {xs : List α} {x : α}, xs[k]? = some x → p x = false →
    (xs.takeWhile p).length ≤ k
  | _, [], _, hx, _ => by simp at hx
  | 0, a :: xs, x, hx, hp => by
    obtain rfl : a = x := by simpa using hx
    rw [List.takeWhile_cons, hp]
    exact Nat.le_refl 0
  | k + 1, a :: xs, x, hx, hp => by
    have ih : (xs.takeWhile p).length ≤ k := length_takeWhile_le (by simpa using hx) hp
    rw [List.takeWhile_cons]
    cases p a with
    | false => exact Nat.zero_le _
    | true => exact Nat.succ_le_succ ih

/-- What a scan stops at. -/
theorem getElem?_length_takeWhile : ∀ {xs : List α}, (∃ x ∈ xs, p x = false) →
    ∃ x, xs[(xs.takeWhile p).length]? = some x ∧ p x = false
  | [], h => by simp at h
  | a :: xs, h => by
    rw [List.takeWhile_cons]
    cases ha : p a with
    | false => exact ⟨a, rfl, ha⟩
    | true =>
      obtain ⟨x, hx, hp⟩ := h
      rcases List.mem_cons.mp hx with rfl | hx
      · exact absurd (ha.symm.trans hp) (by decide)
      · exact getElem?_length_takeWhile ⟨x, hx, hp⟩

end Scan
