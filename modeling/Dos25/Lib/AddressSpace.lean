/-
# Bytes at addresses

A memory with a byte at every address, not bounded: no object in it wraps
around. Bytes are written as a list (`write`) or all the same (`fill`), and a
value of a fixed-size type is loaded and stored by its encoding (`Scalar`).
What a step leaves alone is a span outside which the memory agrees with the one
before (`AgreeOff`); a load sees no step whose span it does not meet
(`Scalar.load_congr`).

Key definitions: `Mem`, `write`, `fill`, `Scalar`, `AgreeOn`, `AgreeOff`.
-/
import Dos25.Lib.Bytes
import Dos25.Lib.Span

namespace AddressSpace

open Bytes

/-- A byte at every address. -/
abbrev Mem := ℕ → UInt8

/-- The `k` bytes from `a` on. -/
def bytesAt (m : Mem) (a k : ℕ) : List UInt8 := (List.range k).map fun i => m (a + i)

/-- `bs` from `a` on. -/
def write (m : Mem) (a : ℕ) (bs : List UInt8) : Mem :=
  fun x => if h : a ≤ x ∧ x - a < bs.length then bs[x - a] else m x

/-- `SetMem`. -/
def fill (m : Mem) (a k : ℕ) (b : UInt8) : Mem := fun x => if a ≤ x ∧ x < a + k then b else m x

/-! ### What a step leaves alone -/

/-- The same bytes in the span. -/
def AgreeOn (s : Span) (m m' : Mem) : Prop := ∀ x, s.Contains x → m x = m' x

/-- The same bytes outside the span. -/
def AgreeOff (s : Span) (m m' : Mem) : Prop := ∀ x, ¬ s.Contains x → m x = m' x

section

variable {s t : Span} {m m' m'' : Mem}

theorem AgreeOn.mono (h : AgreeOn s m m') (hle : s.start ≤ t.start)
    (hend : t.start + t.size ≤ s.start + s.size) : AgreeOn t m m' :=
  fun x hx => h x ⟨hle.trans hx.1, hx.2.trans_le hend⟩

theorem AgreeOff.refl (s : Span) (m : Mem) : AgreeOff s m m := fun _ _ => rfl

theorem AgreeOff.trans (h : AgreeOff s m m') (h' : AgreeOff s m' m'') : AgreeOff s m m'' :=
  fun x hx => (h x hx).trans (h' x hx)

theorem AgreeOff.mono (h : AgreeOff s m m') (hle : t.start ≤ s.start)
    (hend : s.start + s.size ≤ t.start + t.size) : AgreeOff t m m' :=
  fun x hx => h x fun hs => hx ⟨hle.trans hs.1, hs.2.trans_le hend⟩

/-- A span elsewhere. -/
theorem AgreeOff.agreeOn (h : AgreeOff s m m')
    (hd : t.start + t.size ≤ s.start ∨ s.start + s.size ≤ t.start) : AgreeOn t m m' := by
  intro x hx
  refine h x fun hs => ?_
  have h1 := hx.1
  have h2 := hx.2
  have h3 := hs.1
  have h4 := hs.2
  omega

/-- Another field of the same object. -/
theorem AgreeOff.field {a o k o' k' : ℕ} (h : AgreeOff ⟨a + o, k⟩ m m')
    (hd : o' + k' ≤ o ∨ o + k ≤ o') : AgreeOn ⟨a + o', k'⟩ m m' :=
  h.agreeOn (by dsimp only; omega)

theorem agreeOff_write (m : Mem) (a : ℕ) (bs : List UInt8) :
    AgreeOff ⟨a, bs.length⟩ m (write m a bs) := by
  intro x hx
  rw [write, dif_neg]
  rintro ⟨h1, h2⟩
  exact hx ⟨h1, show x < a + bs.length by omega⟩

theorem agreeOff_fill (m : Mem) (a k : ℕ) (b : UInt8) : AgreeOff ⟨a, k⟩ m (fill m a k b) :=
  fun _ hx => (if_neg hx).symm

end

/-! ### Bytes -/

@[simp] theorem bytesAt_length (m : Mem) (a k : ℕ) : (bytesAt m a k).length = k := by
  simp [bytesAt]

theorem bytesAt_congr {m m' : Mem} {a k : ℕ} (h : AgreeOn ⟨a, k⟩ m m') :
    bytesAt m a k = bytesAt m' a k := by
  refine List.map_congr_left fun i hi => ?_
  have hik := List.mem_range.mp hi
  exact h (a + i) ⟨Nat.le_add_right a i, Nat.add_lt_add_left hik a⟩

/-- Part of what was written. -/
theorem bytesAt_write (m : Mem) (a : ℕ) (bs : List UInt8) {o k : ℕ} (h : o + k ≤ bs.length) :
    bytesAt (write m a bs) (a + o) k = (bs.drop o).take k := by
  refine List.ext_getElem (by simp; omega) fun i h1 h2 => ?_
  have hi : i < k := by simpa using h1
  have hx : a + o + i - a = o + i := by omega
  simp only [bytesAt, List.getElem_map, List.getElem_range, List.getElem_take, List.getElem_drop]
  rw [write, dif_pos ⟨by omega, by omega⟩]
  simp only [hx]

theorem bytesAt_fill (m : Mem) (b : UInt8) {a k c n : ℕ} (hle : a ≤ c) (hend : c + n ≤ a + k) :
    bytesAt (fill m a k b) c n = List.replicate n b := by
  refine List.ext_getElem (by simp) fun i h1 h2 => ?_
  have hi : i < n := by simpa using h1
  simp only [bytesAt, List.getElem_map, List.getElem_range, List.getElem_replicate]
  exact if_pos ⟨by omega, by omega⟩

/-- One of the parts of what was written. -/
theorem bytesAt_write_flatten (m : Mem) (a : ℕ) (parts : List (List UInt8)) {i : ℕ}
    {bs : List UInt8} (h : parts[i]? = some bs) {o : ℕ}
    (ho : ((parts.take i).map List.length).sum = o) :
    bytesAt (write m a parts.flatten) (a + o) bs.length = bs := by
  obtain ⟨hi, rfl⟩ := List.getElem?_eq_some_iff.mp h
  have hparts : parts.flatten =
      (parts.take i).flatten ++ (parts[i] ++ (parts.drop (i + 1)).flatten) := by
    rw [← List.flatten_cons, ← List.drop_eq_getElem_cons hi, ← List.flatten_append,
      List.take_append_drop]
  have hlen : (parts.take i).flatten.length = o := by rw [List.length_flatten, ho]
  rw [hparts, bytesAt_write m a _ (by simp only [List.length_append]; omega), List.drop_left' hlen,
    List.take_left]

theorem bytesAt_eq_ofFn {m : Mem} {a n : ℕ} {f : Fin n → UInt8}
    (h : bytesAt m a n = List.ofFn f) (j : Fin n) : m (a + j) = f j := by
  have hj := congrArg (fun l => l[j.val]?) h
  simpa [bytesAt] using hj

/-! ### Values -/

/-- A type whose values have a fixed number of bytes. -/
structure Scalar (α : Type) [OfNat α 0] where
  size : ℕ
  encode : α → List UInt8
  decode : List UInt8 → α
  encode_length : ∀ v, (encode v).length = size
  decode_encode : ∀ v, decode (encode v) = v
  decode_zero : decode (List.replicate size 0) = 0

namespace Scalar

variable {α : Type} [OfNat α 0] (c : Scalar α)

def load (m : Mem) (a : ℕ) : α := c.decode (bytesAt m a c.size)

def store (m : Mem) (a : ℕ) (v : α) : Mem := write m a (c.encode v)

theorem load_congr {m m' : Mem} {a : ℕ} (h : AgreeOn ⟨a, c.size⟩ m m') :
    c.load m a = c.load m' a := congrArg c.decode (bytesAt_congr h)

/-- A field of an object that is the same in both. -/
theorem load_congr_field {m m' : Mem} {a n : ℕ} (h : AgreeOn ⟨a, n⟩ m m') {o : ℕ}
    (hle : o + c.size ≤ n) : c.load m (a + o) = c.load m' (a + o) :=
  c.load_congr (h.mono (Nat.le_add_right a o) (by dsimp only; omega))

theorem agreeOff_store (m : Mem) (a : ℕ) (v : α) : AgreeOff ⟨a, c.size⟩ m (c.store m a v) := by
  have h := agreeOff_write m a (c.encode v)
  rwa [c.encode_length] at h

/-- One of the parts of what was written is a value. -/
theorem load_write_flatten (m : Mem) (a : ℕ) (parts : List (List UInt8)) {i : ℕ} {v : α}
    (h : parts[i]? = some (c.encode v)) {o : ℕ} (ho : ((parts.take i).map List.length).sum = o) :
    c.load (write m a parts.flatten) (a + o) = v := by
  have hbytes := bytesAt_write_flatten m a parts h ho
  rw [c.encode_length] at hbytes
  rw [load, hbytes, c.decode_encode]

@[simp] theorem load_store (m : Mem) (a : ℕ) (v : α) : c.load (c.store m a v) a = v := by
  have h := c.load_write_flatten m a [c.encode v] (i := 0) rfl rfl
  rwa [List.flatten_singleton] at h

/-- A store to a field of an object changes the object only. -/
theorem agreeOff_store_field {m m' : Mem} {a n : ℕ} (h : AgreeOff ⟨a, n⟩ m m') (v : α) {o : ℕ}
    (hle : o + c.size ≤ n) : AgreeOff ⟨a, n⟩ m (c.store m' (a + o) v) :=
  h.trans ((c.agreeOff_store m' (a + o) v).mono (Nat.le_add_right a o) (by dsimp only; omega))

/-- A store to another field of the same object is not seen. -/
theorem load_store_field {β : Type} [OfNat β 0] (d : Scalar β) (m : Mem) (a : ℕ) (v : β)
    {o o' : ℕ} (h : o' + c.size ≤ o ∨ o + d.size ≤ o') :
    c.load (d.store m (a + o) v) (a + o') = c.load m (a + o') :=
  (c.load_congr ((d.agreeOff_store m (a + o) v).field h)).symm

theorem load_fill (m : Mem) {a k b : ℕ} (hle : a ≤ b) (hend : b + c.size ≤ a + k) :
    c.load (fill m a k 0) b = 0 := by
  rw [load, bytesAt_fill m 0 hle hend, c.decode_zero]

end Scalar

/-! ### Little-endian words -/

theorem decode_replicate_zero (k : ℕ) : decode (List.replicate k 0) = 0 := by
  induction k with
  | zero => rfl
  | succ k ih =>
    rw [List.replicate_succ, decode, ih]
    rfl

def word32 : Scalar UInt32 where
  size := 4
  encode v := encode 4 v.toNat
  decode bs := UInt32.ofNat (decode bs)
  encode_length _ := encode_length 4 _
  decode_encode v := by rw [decode_encode v.toNat_lt, UInt32.ofNat_toNat]
  decode_zero := by
    rw [decode_replicate_zero]
    rfl

def word64 : Scalar UInt64 where
  size := 8
  encode v := encode 8 v.toNat
  decode bs := UInt64.ofNat (decode bs)
  encode_length _ := encode_length 8 _
  decode_encode v := by rw [decode_encode v.toNat_lt, UInt64.ofNat_toNat]
  decode_zero := by
    rw [decode_replicate_zero]
    rfl

end AddressSpace
