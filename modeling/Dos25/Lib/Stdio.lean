/-
# C streams

A stream is the bytes of its file, a position and the mode it was opened with
(`File`). How many of the bytes a call asks for it really moves, and what the
blocks of `malloc` hold, is up to the environment (`Libc`): calls that move
data and allocations are numbered by the caller. A read takes the next bytes, a
write behind the end appends, as many as the transfer moves (`fread_rb`,
`fwrite_append`); where every transfer is complete (`Libc.Complete`), these are
all (`fread_eq`, `fwrite_end`).

A stream opened for writing delivers no bytes when it is read, one opened for
reading takes none.
-/
import Mathlib.Data.List.Basic

namespace Stdio

/-- The outcomes of the calls of a run. -/
structure Libc where
  /-- `fopen(path, "wb")` succeeds. -/
  canCreate : String → Bool
  /-- How many of `n` bytes transfer number `call` moves. An `fwrite` moves the
  bytes that reach the file: what is lost when `fseek` or `fclose` write the
  buffer out was not moved. -/
  transfer : ℕ → ℕ → ℕ
  transfer_le : ∀ call n, transfer call n ≤ n
  /-- What allocation number `i`, of `n` bytes, returns: NULL, or a block with
  the contents it has before it is written. -/
  malloc : ℕ → ℕ → Option (List UInt8)
  malloc_length : ∀ {i n block}, malloc i n = some block → block.length = n

/-- Every transfer is complete. -/
def Libc.Complete (lib : Libc) : Prop := ∀ call n, lib.transfer call n = n

/-- Every transfer is complete and every allocation succeeds, also of no bytes. -/
structure Libc.Works (lib : Libc) : Prop where
  transfer : ∀ call n, lib.transfer call n = n
  malloc : ∀ i n, ∃ block, lib.malloc i n = some block

theorem Libc.Works.complete {lib : Libc} (h : lib.Works) : lib.Complete := h.transfer

/-- An environment that works, with blocks of zero bytes. -/
def Libc.zeroed : Libc where
  canCreate _ := true
  transfer _ n := n
  transfer_le _ n := Nat.le_refl n
  malloc _ n := some (List.replicate n 0)
  malloc_length h := by
    cases h
    exact List.length_replicate

theorem Libc.zeroed_works : Libc.zeroed.Works where
  transfer _ _ := rfl
  malloc _ n := ⟨List.replicate n 0, rfl⟩

/-- The same calls succeed and move as much; only what the blocks hold may
differ. -/
structure Libc.SameButHeap (lib lib' : Libc) : Prop where
  canCreate : lib'.canCreate = lib.canCreate
  transfer : lib'.transfer = lib.transfer
  malloc : ∀ i n, (lib'.malloc i n).isSome = (lib.malloc i n).isSome

theorem Libc.SameButHeap.refl (lib : Libc) : lib.SameButHeap lib := ⟨rfl, rfl, fun _ _ => rfl⟩

/-- Every byte of every block is another one. -/
def Libc.flipped (lib : Libc) : Libc where
  canCreate := lib.canCreate
  transfer := lib.transfer
  transfer_le := lib.transfer_le
  malloc i n := (lib.malloc i n).map (List.map (· ^^^ 1))
  malloc_length h := by
    obtain ⟨block, hm, rfl⟩ := Option.map_eq_some_iff.mp h
    rw [List.length_map, lib.malloc_length hm]

theorem Libc.SameButHeap.flipped (lib : Libc) : lib.SameButHeap lib.flipped :=
  ⟨rfl, rfl, fun _ _ => Option.isSome_map⟩

/-- The modes `"rb"` and `"wb"`. -/
inductive Mode
  | rb
  | wb
  deriving DecidableEq, Repr

structure File where
  mode : Mode
  bytes : List UInt8
  pos : ℕ

namespace File

/-- `fopen(path, "rb")` on a file with these bytes. -/
def openRead (bytes : List UInt8) : File := ⟨.rb, bytes, 0⟩

/-- `fopen(path, "wb")`: an empty file. -/
def create : File := ⟨.wb, [], 0⟩

/-- `fseek(f, off, SEEK_SET)`. -/
def seekSet (f : File) (off : ℕ) : File := { f with pos := off }

/-- `fseek(f, 0, SEEK_END)`. -/
def seekEnd (f : File) : File := { f with pos := f.bytes.length }

def ftell (f : File) : ℕ := f.pos

/-- Asks for `n` bytes; those that arrive. -/
def fread (lib : Libc) (call n : ℕ) (f : File) : List UInt8 × File :=
  match f.mode with
  | .wb => ([], f)
  | .rb =>
    let got := (f.bytes.drop f.pos).take (lib.transfer call (min n (f.bytes.length - f.pos)))
    (got, { f with pos := f.pos + got.length })

/-- Stores `data`, or as much as the transfer moves, at the position. A gap
behind the end is filled with zeros. -/
def fwrite (lib : Libc) (call : ℕ) (data : List UInt8) (f : File) : File :=
  match f.mode with
  | .rb => f
  | .wb =>
    let put := data.take (lib.transfer call data.length)
    { f with
      bytes := f.bytes.take f.pos ++ List.replicate (f.pos - f.bytes.length) 0 ++ put ++
        f.bytes.drop (f.pos + put.length)
      pos := f.pos + put.length }

/-- What is left of a stream to read. -/
def left (f : File) : ℕ := f.bytes.length - f.pos

variable {lib : Libc}

/-- A read that delivers leaves less to read. -/
theorem fread_left_lt {call n : ℕ} {f : File} (h : 0 < (f.fread lib call n).1.length) :
    (f.fread lib call n).2.left < f.left := by
  unfold fread at h ⊢
  cases hm : f.mode with
  | wb => simp [hm] at h
  | rb =>
    simp only [hm, List.length_take, List.length_drop] at h ⊢
    unfold left
    dsimp only
    omega

theorem fread_congr {lib' : Libc} (h : lib.SameButHeap lib') (call n : ℕ) (f : File) :
    f.fread lib' call n = f.fread lib call n := by
  unfold fread
  rw [h.transfer]

theorem fread_wb {f : File} (h : f.mode = .wb) (call n : ℕ) : f.fread lib call n = ([], f) := by
  unfold fread
  rw [h]

/-- A read takes as many of the next bytes as the transfer moves. -/
theorem fread_rb (lib : Libc) {f : File} (h : f.mode = .rb) (call n : ℕ) : f.fread lib call n =
    ((f.bytes.drop f.pos).take (lib.transfer call (min n f.left)),
      { f with pos := f.pos + lib.transfer call (min n f.left) }) := by
  have hle : lib.transfer call (min n f.left) ≤ f.bytes.length - f.pos :=
    Nat.le_trans (lib.transfer_le _ _) (Nat.min_le_right _ _)
  unfold fread
  rw [h]
  simp only [List.length_take, List.length_drop, left] at hle ⊢
  rw [Nat.min_eq_left hle]

/-- A complete read takes what is there, up to `n` bytes. -/
theorem fread_eq (hc : lib.Complete) (call n : ℕ) {f : File} (h : f.mode = .rb) :
    f.fread lib call n = ((f.bytes.drop f.pos).take n,
      { f with pos := f.pos + ((f.bytes.drop f.pos).take n).length }) := by
  have htake : (f.bytes.drop f.pos).take (min n f.left) = (f.bytes.drop f.pos).take n := by
    rw [left, ← List.length_drop, ← List.take_eq_take_min]
  have hlen : ((f.bytes.drop f.pos).take n).length = min n f.left := by
    rw [List.length_take, List.length_drop, left]
  rw [fread_rb lib h, hc, htake, hlen]

/-- A write behind the end appends as much as the transfer moves. -/
theorem fwrite_append (lib : Libc) {f : File} (h : f.mode = .wb) (hp : f.pos = f.bytes.length)
    (call : ℕ) (data : List UInt8) : f.fwrite lib call data =
      ⟨.wb, f.bytes ++ data.take (lib.transfer call data.length),
        f.bytes.length + lib.transfer call data.length⟩ := by
  have hle := lib.transfer_le call data.length
  unfold fwrite
  rw [h]
  simp [hp, Nat.min_eq_left hle]

/-- A write at the start replaces the first bytes. -/
theorem fwrite_zero (lib : Libc) {f : File} (h : f.mode = .wb) (hp : f.pos = 0) (call : ℕ)
    (data : List UInt8) : f.fwrite lib call data =
      ⟨.wb, data.take (lib.transfer call data.length) ++ f.bytes.drop (lib.transfer call data.length),
        lib.transfer call data.length⟩ := by
  have hle := lib.transfer_le call data.length
  unfold fwrite
  rw [h]
  simp [hp, Nat.min_eq_left hle]

/-- A complete write behind the end appends. -/
theorem fwrite_end (hc : lib.Complete) (call : ℕ) (data : List UInt8) {f : File} (h : f.mode = .wb)
    (hp : f.pos = f.bytes.length) :
    f.fwrite lib call data = ⟨.wb, f.bytes ++ data, f.bytes.length + data.length⟩ := by
  rw [fwrite_append lib h hp, hc, List.take_length]

end File

end Stdio
