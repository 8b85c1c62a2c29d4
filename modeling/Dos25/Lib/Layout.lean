/-
# C struct layout

A C object type as far as its layout goes: a size and an alignment. Fields
of a struct are placed in order, each at the next multiple of its alignment
(`offsets`), and the struct is padded to a multiple of the largest one
(`struct`). A field lies inside its struct (`offset_add_size_le`) and an
element inside its array (`Ty.elem_le`).
-/
import Mathlib.Data.Nat.Basic
import Mathlib.Order.Basic
import Mathlib.Tactic.Linarith

namespace Layout

/-- The size and alignment of an object type, in bytes. -/
structure Ty where
  size : ℕ
  align : ℕ
  deriving DecidableEq, Repr

/-- An unsigned integer or pointer of `k` bytes, naturally aligned. -/
def Ty.scalar (k : ℕ) : Ty := ⟨k, k⟩

/-- An array of `k` objects. -/
def Ty.array (t : Ty) (k : ℕ) : Ty := ⟨t.size * k, t.align⟩

/-- The least multiple of `a` from `n` on. -/
def alignUp (n a : ℕ) : ℕ := (n + (a - 1)) / a * a

theorem le_alignUp (n : ℕ) {a : ℕ} (ha : 0 < a) : n ≤ alignUp n a := by
  have h := Nat.div_add_mod (n + (a - 1)) a
  have hm := Nat.mod_lt (n + (a - 1)) ha
  unfold alignUp
  rw [Nat.mul_comm]
  omega

/-- The offset of every field, the first one placed from `start` on. -/
def offsets : ℕ → List Ty → List ℕ
  | _, [] => []
  | start, t :: ts => alignUp start t.align :: offsets (alignUp start t.align + t.size) ts

/-- Where the last field ends. -/
def fieldsEnd : ℕ → List Ty → ℕ
  | start, [] => start
  | start, t :: ts => fieldsEnd (alignUp start t.align + t.size) ts

/-- A struct: its fields in order, padded to its largest alignment. -/
def Ty.struct (ts : List Ty) : Ty :=
  ⟨alignUp (fieldsEnd 0 ts) (ts.foldr (fun t a => max t.align a) 1),
    ts.foldr (fun t a => max t.align a) 1⟩

/-- The offset of field number `i`. -/
def offset (ts : List Ty) (i : ℕ) : ℕ := (offsets 0 ts).getD i 0

theorem le_fieldsEnd : ∀ (ts : List Ty) (start : ℕ), (∀ t ∈ ts, 0 < t.align) →
    start ≤ fieldsEnd start ts
  | [], _, _ => le_rfl
  | t :: ts, start, h => by
    have h1 := le_alignUp start (h t List.mem_cons_self)
    have h2 := le_fieldsEnd ts (alignUp start t.align + t.size) fun u hu =>
      h u (List.mem_cons_of_mem _ hu)
    simp only [fieldsEnd]
    omega

theorem offsets_add_size_le {t : Ty} : ∀ (ts : List Ty) (start i : ℕ), ts[i]? = some t →
    (∀ t ∈ ts, 0 < t.align) → (offsets start ts).getD i 0 + t.size ≤ fieldsEnd start ts
  | [], _, _, h, _ => by simp at h
  | u :: ts, start, 0, h, hp => by
    obtain rfl : u = t := Option.some.inj h
    simpa [offsets, fieldsEnd] using
      le_fieldsEnd ts (alignUp start u.align + u.size) fun v hv => hp v (List.mem_cons_of_mem _ hv)
  | u :: ts, start, i + 1, h, hp => by
    have ih := offsets_add_size_le ts (alignUp start u.align + u.size) i h
      fun v hv => hp v (List.mem_cons_of_mem _ hv)
    simpa [offsets, fieldsEnd] using ih

theorem one_le_maxAlign (ts : List Ty) : 1 ≤ ts.foldr (fun t a => max t.align a) 1 := by
  induction ts with
  | nil => exact le_rfl
  | cons t ts ih => exact le_trans ih (le_max_right _ _)

/-- A field lies inside its struct. -/
theorem offset_add_size_le {ts : List Ty} {i : ℕ} {t : Ty} (h : ts[i]? = some t)
    (hp : ∀ t ∈ ts, 0 < t.align) : offset ts i + t.size ≤ (Ty.struct ts).size :=
  le_trans (offsets_add_size_le ts 0 i h hp) (le_alignUp _ (one_le_maxAlign ts))

/-- An element lies inside its array. -/
theorem Ty.elem_le (t : Ty) {i k : ℕ} (h : i < k) : i * t.size + t.size ≤ (t.array k).size := by
  have : (i + 1) * t.size ≤ k * t.size := Nat.mul_le_mul_right _ h
  simp only [Ty.array]
  nlinarith

end Layout
