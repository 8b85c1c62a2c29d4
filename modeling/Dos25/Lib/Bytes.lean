/-
# Little-endian numbers and byte buffers

A number as `k` bytes, lowest first (`encode`), and back (`decode`); below
`256 ^ k` it comes back as it was (`decode_encode`). A fixed-size buffer is a
function from its indices; `write` stores a list of bytes at an offset and
`read` takes bytes back out (`read_write`, `read_write_of_disjoint`).
-/
import Mathlib.Data.List.Basic
import Mathlib.Data.List.OfFn
import Mathlib.Tactic.Ring

namespace Bytes

/-! ### Little-endian numbers -/

/-- The `k` lowest bytes of `x`, lowest first. -/
def encode : ℕ → ℕ → List UInt8
  | 0, _ => []
  | k + 1, x => UInt8.ofNat x :: encode k (x / 256)

/-- The number a list of bytes stands for, lowest byte first. -/
def decode : List UInt8 → ℕ
  | [] => 0
  | b :: bs => b.toNat + 256 * decode bs

@[simp] theorem encode_length : ∀ k x : ℕ, (encode k x).length = k
  | 0, _ => rfl
  | k + 1, x => by simp [encode, encode_length k]

theorem decode_encode_mod : ∀ k x : ℕ, decode (encode k x) = x % 256 ^ k
  | 0, x => by simp [encode, decode, Nat.mod_one]
  | k + 1, x => by
    have h : x % 256 ^ (k + 1) = x % 256 + 256 * (x / 256 % 256 ^ k) := by
      rw [pow_succ', Nat.mod_mul]
    simp only [encode, decode, decode_encode_mod k, h, UInt8.toNat_ofNat']

/-- A number that fits comes back. -/
theorem decode_encode {k x : ℕ} (h : x < 256 ^ k) : decode (encode k x) = x := by
  rw [decode_encode_mod, Nat.mod_eq_of_lt h]

/-- The lowest bytes of the lowest bytes. -/
theorem take_encode : ∀ {j k : ℕ} (x : ℕ), j ≤ k → (encode k x).take j = encode j x
  | 0, _, _, _ => rfl
  | j + 1, k + 1, x, h => by
    rw [encode, encode, List.take_succ_cons, take_encode (x / 256) (Nat.le_of_succ_le_succ h)]

/-- Numbers with the same lowest bytes. -/
theorem encode_congr : ∀ {k x y : ℕ}, x % 256 ^ k = y % 256 ^ k → encode k x = encode k y
  | 0, _, _, _ => rfl
  | k + 1, x, y, h => by
    rw [pow_succ'] at h
    have hlow : x % 256 = y % 256 := by
      rw [← Nat.mod_mul_right_mod x 256 (256 ^ k), h, Nat.mod_mul_right_mod]
    have hhigh : x / 256 % 256 ^ k = y / 256 % 256 ^ k := by
      rw [← Nat.mod_mul_right_div_self, h, Nat.mod_mul_right_div_self]
    have hbyte : UInt8.ofNat x = UInt8.ofNat y := by
      rw [← UInt8.toNat_inj, UInt8.toNat_ofNat', UInt8.toNat_ofNat']
      exact hlow
    rw [encode, encode, hbyte, encode_congr hhigh]

/-! ### Buffers -/

variable {n : ℕ}

/-- Stores `bs` at `off`; what does not fit is lost. -/
def write (buf : Fin n → UInt8) (off : ℕ) (bs : List UInt8) : Fin n → UInt8 :=
  fun i => if h : off ≤ i ∧ i - off < bs.length then bs[i - off] else buf i

/-- The `k` bytes at `off`; a byte behind the end reads as zero. -/
def read (buf : Fin n → UInt8) (off k : ℕ) : List UInt8 :=
  (List.range k).map fun i => if h : off + i < n then buf ⟨off + i, h⟩ else 0

@[simp] theorem read_length (buf : Fin n → UInt8) (off k : ℕ) : (read buf off k).length = k := by
  simp [read]

theorem read_getElem (buf : Fin n → UInt8) (off k : ℕ) {i : ℕ} (h : i < (read buf off k).length) :
    (read buf off k)[i] = if h : off + i < n then buf ⟨off + i, h⟩ else 0 := by
  simp [read]

theorem read_congr {buf buf' : Fin n → UInt8} {off k : ℕ}
    (h : ∀ i : Fin n, i < off + k → buf i = buf' i) : read buf off k = read buf' off k := by
  refine List.map_congr_left fun i hi => ?_
  have hik := List.mem_range.mp hi
  split_ifs with hn
  · exact h ⟨off + i, hn⟩ (by dsimp only; omega)
  · rfl

/-- A read in two parts. -/
theorem read_add (buf : Fin n → UInt8) (off j k : ℕ) :
    read buf off (j + k) = read buf off j ++ read buf (off + j) k := by
  simp only [read, List.range_add, List.map_append, List.map_map]
  congr 1
  refine List.map_congr_left fun i _ => ?_
  simp only [Function.comp_apply, Nat.add_assoc]

theorem take_read (buf : Fin n → UInt8) (off : ℕ) {j k : ℕ} (h : j ≤ k) :
    (read buf off k).take j = read buf off j := by
  obtain ⟨i, rfl⟩ := Nat.exists_eq_add_of_le h
  rw [read_add, List.take_left' (read_length buf off j)]

theorem drop_read (buf : Fin n → UInt8) (off : ℕ) {j k : ℕ} (h : j ≤ k) :
    (read buf off k).drop j = read buf (off + j) (k - j) := by
  obtain ⟨i, rfl⟩ := Nat.exists_eq_add_of_le h
  rw [read_add, List.drop_left' (read_length buf off j), Nat.add_sub_cancel_left]

/-- What was written is read back. -/
theorem read_write (buf : Fin n → UInt8) {off : ℕ} (bs : List UInt8) (h : off + bs.length ≤ n) :
    read (write buf off bs) off bs.length = bs := by
  refine List.ext_getElem (read_length _ _ _) fun i h1 h2 => ?_
  have hi : off + i < n := by omega
  rw [read_getElem, dif_pos hi]
  unfold write
  rw [dif_pos ⟨Nat.le_add_right off i, by simpa using h2⟩]
  simp

theorem read_write_encode (buf : Fin n → UInt8) {off k : ℕ} (x : ℕ) (h : off + k ≤ n) :
    read (write buf off (encode k x)) off k = encode k x := by
  have := read_write buf (encode k x) (by rwa [encode_length])
  rwa [encode_length] at this

/-- A write elsewhere is not seen. -/
theorem read_write_of_disjoint (buf : Fin n → UInt8) {off o k : ℕ} (bs : List UInt8)
    (h : o + k ≤ off ∨ off + bs.length ≤ o) : read (write buf off bs) o k = read buf o k := by
  refine List.map_congr_left fun i hi => ?_
  have hik : i < k := List.mem_range.mp hi
  split_ifs with hn
  · unfold write
    rw [dif_neg]
    rintro ⟨h1, h2⟩
    dsimp only at h1 h2
    omega
  · rfl

end Bytes
