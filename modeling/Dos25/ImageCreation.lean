/-
# What a successful creation leaves

`create_dsf_image` counts in 32 bits and looks at no result of `fread` or
`fwrite`. So its sizes are the true ones exactly below 4 GiB
(`created_sizes_true_iff`), and the file it leaves is the complete image
exactly when no transfer fell short (`created_image_complete_iff`).

Key definitions: `SizesTrue`, `Undisturbed`.
-/
import Dos25.DiskImage

namespace Dos25

open Stdio

variable {lib : Libc} {outputPath : String} {b k : List UInt8}

/-! ### Sizes -/

/-- Below four bytes, the difference of the sizes wraps around. -/
theorem checksumBehindSignature_underflow {block : List UInt8} {totalSize : UInt32}
    (h : block.length = totalSize.toNat) (h4 : totalSize.toNat < 4) :
    ∃ e, checksumBehindSignature block totalSize = .error e := by
  have hlen : (totalSize.toUInt64 - 4).toNat = 2 ^ 64 + totalSize.toNat - 4 := by
    rw [UInt64.toNat_sub, UInt32.toNat_toUInt64]
    show (2 ^ 64 - 4 + totalSize.toNat) % 2 ^ 64 = _
    omega
  unfold checksumBehindSignature
  dsimp only
  rw [hlen, if_neg (by omega)]
  exact ⟨_, rfl⟩

/-- The header has the true sizes, and the checksum stays in its block: for this
pair of files, whatever a run on them returns. -/
structure SizesTrue (lib : Libc) (outputPath : String) (b k : List UInt8) : Prop where
  bootSize : (newHeader (.openRead b) (.openRead k)).bootSize.toNat = b.length
  kernelSize : (newHeader (.openRead b) (.openRead k)).kernelSize.toNat = k.length
  totalSize : (newHeader (.openRead b) (.openRead k)).totalSize.toNat =
    dsfHeaderSize + b.length + k.length
  inBlock : ∀ e, createDsfImage lib outputPath (some b) (some k) ≠ .error e

/-- A run that cannot create its output or allocate its block ends with -1. -/
theorem createDsfImage_cases (lib : Libc) (outputPath : String) (b k : List UInt8) :
    (∃ output, createDsfImage lib outputPath (some b) (some k) = .ok ⟨-1, output⟩) ∨
      (lib.canCreate outputPath = true ∧
        ∃ block, lib.malloc 0 (createdHeader b k 0).totalSize.toNat = some block) := by
  simp only [createDsfImage, newHeader_eq]
  by_cases hc : lib.canCreate outputPath = true
  swap
  · rw [if_neg hc]
    exact .inl ⟨none, rfl⟩
  cases hm : lib.malloc 0 (createdHeader b k 0).totalSize.toNat with
  | none =>
    rw [if_pos hc]
    simp only [storeChecksum, hm]
    exact .inl ⟨_, rfl⟩
  | some block => exact .inr ⟨hc, block, rfl⟩

/-- A run that succeeds got its block, which is at least four bytes long. -/
theorem createDsfImage_succeeds {image : List UInt8}
    (h : createDsfImage lib outputPath (some b) (some k) = .ok ⟨0, some image⟩) :
    lib.canCreate outputPath = true ∧
      ∃ block, lib.malloc 0 (createdHeader b k 0).totalSize.toNat = some block ∧
        checksumBehindSignature block (createdHeader b k 0).totalSize =
          .ok (calculateChecksum (block.drop 4)) := by
  rcases createDsfImage_cases lib outputPath b k with ⟨_, he⟩ | ⟨hc, block, hm⟩
  · have hne : (-1 : Int) ≠ 0 := by decide
    rw [he] at h
    exact absurd (congrArg Created.status (Except.ok.inj h)) hne
  refine ⟨hc, block, hm, ?_⟩
  by_cases h4 : 4 ≤ (createdHeader b k 0).totalSize.toNat
  · exact checksumBehindSignature_eq (lib.malloc_length hm) h4
  · obtain ⟨e, hover⟩ := checksumBehindSignature_underflow (lib.malloc_length hm) (not_le.mp h4)
    obtain ⟨_, _, _, _, -, -, he⟩ := createDsfImage_run hc hm
    rw [he, hover] at h
    exact nomatch h

theorem createDsfImage_inBlock (lib : Libc) (outputPath : String)
    (h4 : 4 ≤ (createdHeader b k 0).totalSize.toNat) (e : Overrun) :
    createDsfImage lib outputPath (some b) (some k) ≠ .error e := by
  rcases createDsfImage_cases lib outputPath b k with ⟨_, he⟩ | ⟨hc, block, hm⟩
  · rw [he]
    exact nofun
  · obtain ⟨_, _, _, _, -, -, he⟩ := createDsfImage_run hc hm
    rw [he, checksumBehindSignature_eq (lib.malloc_length hm) h4]
    exact nofun

/-- **When the sizes are true.** In every run, `boot_size`, `kernel_size` and
`total_size` are the true lengths and the checksum is taken inside its block,
if and only if the image is shorter than 4 GiB. Where all transfers are
complete, this is the header of a created image, and the image has that true
length. -/
theorem created_sizes_true_iff (lib : Libc) (outputPath : String) (b k : List UInt8) :
    (SizesTrue lib outputPath b k ↔ dsfHeaderSize + b.length + k.length < 2 ^ 32) ∧
    ∀ image, lib.Complete → createDsfImage lib outputPath (some b) (some k) = .ok ⟨0, some image⟩ →
      image.length = dsfHeaderSize + b.length + k.length ∧
      ∃ checksum, DsfHeader.ofBytes image =
        { newHeader (.openRead b) (.openRead k) with checksum := checksum } := by
  refine ⟨⟨fun h => ?_, fun h => ?_⟩, fun image hall h => ?_⟩
  · rw [← h.totalSize]
    exact UInt32.toNat_lt _
  · have ht : (createdHeader b k 0).totalSize.toNat = dsfHeaderSize + b.length + k.length :=
      length_toNat h
    refine ⟨?_, ?_, ?_, createDsfImage_inBlock lib outputPath ?_⟩
    · rw [newHeader_eq]
      exact length_toNat (by omega)
    · rw [newHeader_eq]
      exact length_toNat (by omega)
    · rw [newHeader_eq]
      exact ht
    · rw [ht]
      unfold dsfHeaderSize
      omega
  · obtain ⟨hc, block, hm, hsum⟩ := createDsfImage_succeeds h
    rw [createDsfImage_complete hall hc hm, hsum] at h
    obtain rfl : createdImage b k (calculateChecksum (block.drop 4)) = image :=
      Option.some.inj (congrArg Created.output (Except.ok.inj h))
    refine ⟨createdImage_length b k _, calculateChecksum (block.drop 4), ?_⟩
    rw [createdImage_header, newHeader_eq]
    rfl

/-- A boot file of 4 GiB: the header says 0. With 32 bytes less, `total_size`
is 0, and the checksum leaves its block. -/
theorem created_sizes_wrap :
    (¬ ∀ b k image : List UInt8,
      createDsfImage .zeroed "system.dsf" (some b) (some k) = .ok ⟨0, some image⟩ →
      (DsfHeader.ofBytes image).bootSize.toNat = b.length) ∧
    ¬ ∀ (b k : List UInt8) (e : Overrun),
      createDsfImage .zeroed "system.dsf" (some b) (some k) ≠ .error e := by
  have hc : Libc.zeroed.canCreate "system.dsf" = true := rfl
  have hall : Libc.zeroed.Complete := Libc.zeroed_works.complete
  have hfile : ∀ n, ∃ b : List UInt8, b.length = n := fun n =>
    ⟨List.replicate n 0, List.length_replicate⟩
  constructor
  · intro h
    obtain ⟨b, hb⟩ := hfile (2 ^ 32)
    have ht : (createdHeader b [] 0).totalSize = 32 := by
      unfold createdHeader
      rw [hb]
      rfl
    obtain ⟨block, hm⟩ := Libc.zeroed_works.malloc 0 (createdHeader b [] 0).totalSize.toNat
    have hsum := checksumBehindSignature_eq (Libc.zeroed.malloc_length hm) (by rw [ht]; decide)
    have hrun := createDsfImage_complete hall hc hm
    rw [hsum] at hrun
    have hsize := h b [] _ hrun
    rw [createdImage_header, createdHeader, hb] at hsize
    have hwrap : (UInt32.ofNat (2 ^ 32)).toNat ≠ 2 ^ 32 := by decide
    exact hwrap hsize
  · intro h
    obtain ⟨b, hb⟩ := hfile (2 ^ 32 - 32)
    have ht : (createdHeader b [] 0).totalSize = 0 := by
      unfold createdHeader
      rw [hb]
      rfl
    obtain ⟨block, hm⟩ := Libc.zeroed_works.malloc 0 (createdHeader b [] 0).totalSize.toNat
    obtain ⟨e, hover⟩ := checksumBehindSignature_underflow (Libc.zeroed.malloc_length hm)
      (by rw [ht]; decide)
    have hrun := createDsfImage_complete hall hc hm
    rw [hover] at hrun
    exact h b [] e hrun

/-! ### Contents -/

/-- No transfer falls short: not in the copy loops, not with the first header
(unless there is nothing else to write, and the second comes in full), nor with
the second, as far as it differs from the first. -/
structure Undisturbed (lib : Libc) (b k : List UInt8) (checksum : UInt32) (call1 call2 : ℕ) :
    Prop where
  boot : Copies lib 1 b.length call1
  kernel : Copies lib call1 k.length call2
  header : lib.transfer 0 dsfHeaderSize = dsfHeaderSize ∨
    b = [] ∧ k = [] ∧ lib.transfer (call2 + 1) dsfHeaderSize = dsfHeaderSize
  rewritten : (createdHeader b k checksum).toBytes.drop (lib.transfer (call2 + 1) dsfHeaderSize) =
    (createdHeader b k 0).toBytes.drop (lib.transfer (call2 + 1) dsfHeaderSize)

/-- Complete transfers do not. -/
theorem Undisturbed.of_complete (hc : lib.Complete) (b k : List UInt8) (checksum : UInt32) :
    ∃ call1 call2, Undisturbed lib b k checksum call1 call2 := by
  obtain ⟨call1, hboot⟩ := Copies.of_complete hc b.length 1
  obtain ⟨call2, hkernel⟩ := Copies.of_complete hc k.length call1
  refine ⟨call1, call2, hboot, hkernel, .inl (hc _ _), ?_⟩
  rw [hc, List.drop_of_length_le (DsfHeader.toBytes_length _).le,
    List.drop_of_length_le (DsfHeader.toBytes_length _).le]

section Overwrite

variable {old new rest : List UInt8} {n : ℕ}

/-- Over too little, a new start makes up for nothing but itself. -/
theorem complete_of_short (hn : n ≤ new.length) (hshort : old.length < new.length + rest.length)
    (h : new.take n ++ old.drop n = new ++ rest) : n = new.length ∧ rest = [] := by
  have hlen := congrArg List.length h
  rw [List.length_append, List.length_append, List.length_take, List.length_drop,
    Nat.min_eq_left hn] at hlen
  have hrest : rest.length = 0 := by omega
  exact ⟨by omega, List.length_eq_zero_iff.mp hrest⟩

/-- Over an old start of the same length, what it leaves of that one decides. -/
theorem complete_iff (hn : n ≤ old.length) (hlen : old.length = new.length) :
    new.take n ++ (old ++ rest).drop n = new ++ rest ↔ new.drop n = old.drop n := by
  rw [List.drop_append_of_le_length hn, ← List.append_assoc]
  refine ⟨fun h => ?_, fun h => by rw [← h, List.take_append_drop]⟩
  have hnew := List.append_cancel_right h
  have hdrop := congrArg (List.drop n) hnew
  rw [List.drop_left' (by rw [List.length_take]; omega)] at hdrop
  exact hdrop.symm

end Overwrite

section Run

variable {call1 call2 : ℕ} {boot kernel : List UInt8} (checksum : UInt32)
  (hboot : Copied lib 1 b call1 boot) (hkernel : Copied lib call1 k call2 kernel)

/-- The file, as a run leaves it. -/
def leftImage (lib : Libc) (call2 : ℕ) (b k : List UInt8) (checksum : UInt32)
    (boot kernel : List UInt8) : List UInt8 :=
  (createdHeader b k checksum).toBytes.take (lib.transfer (call2 + 1) dsfHeaderSize) ++
    ((createdHeader b k 0).toBytes.take (lib.transfer 0 dsfHeaderSize) ++ boot ++ kernel).drop
      (lib.transfer (call2 + 1) dsfHeaderSize)

theorem leftImage_full (h : lib.transfer 0 dsfHeaderSize = dsfHeaderSize) :
    leftImage lib call2 b k checksum b k = createdImage b k checksum ↔
      (createdHeader b k checksum).toBytes.drop (lib.transfer (call2 + 1) dsfHeaderSize) =
        (createdHeader b k 0).toBytes.drop (lib.transfer (call2 + 1) dsfHeaderSize) := by
  have hold := DsfHeader.toBytes_length (createdHeader b k 0)
  have hnew := DsfHeader.toBytes_length (createdHeader b k checksum)
  have hn := lib.transfer_le (call2 + 1) dsfHeaderSize
  have htake : (createdHeader b k 0).toBytes.take dsfHeaderSize = (createdHeader b k 0).toBytes :=
    List.take_of_length_le hold.le
  rw [leftImage, createdImage, h, htake, List.append_assoc, List.append_assoc]
  exact complete_iff (by rwa [hold]) (hold.trans hnew.symm)

include hboot hkernel

theorem undisturbed_of_eq (h : leftImage lib call2 b k checksum boot kernel =
    createdImage b k checksum) : Undisturbed lib b k checksum call1 call2 := by
  have hnew := DsfHeader.toBytes_length (createdHeader b k checksum)
  have hput : ((createdHeader b k 0).toBytes.take (lib.transfer 0 dsfHeaderSize)).length =
      lib.transfer 0 dsfHeaderSize := by
    rw [List.length_take, DsfHeader.toBytes_length]
    exact Nat.min_eq_left (lib.transfer_le _ _)
  have hn0 := lib.transfer_le 0 dsfHeaderSize
  have hb := hboot.length_le
  have hk := hkernel.length_le
  by_cases hshort : lib.transfer 0 dsfHeaderSize + boot.length + kernel.length <
      dsfHeaderSize + (b ++ k).length
  · -- only an image without files can be made up for by the second header
    rw [leftImage, createdImage, List.append_assoc _ b k] at h
    obtain ⟨hn1, hnil⟩ := complete_of_short (by rw [hnew]; exact lib.transfer_le _ _)
      (by rwa [List.length_append, List.length_append, hput, hnew]) h
    obtain ⟨rfl, rfl⟩ := List.append_eq_nil_iff.mp hnil
    rw [hnew] at hn1
    refine ⟨hboot.complete ?_, hkernel.complete ?_, .inr ⟨rfl, rfl, hn1⟩, ?_⟩
    · exact Nat.le_zero.mp hb
    · exact Nat.le_zero.mp hk
    · rw [hn1, List.drop_of_length_le hnew.le, List.drop_of_length_le (DsfHeader.toBytes_length _).le]
  · rw [List.length_append] at hshort
    have h0 : lib.transfer 0 dsfHeaderSize = dsfHeaderSize := by omega
    have hcb := hboot.complete (by omega)
    have hck := hkernel.complete (by omega)
    obtain ⟨-, rfl⟩ := hboot.all _ hcb
    obtain ⟨-, rfl⟩ := hkernel.all _ hck
    exact ⟨hcb, hck, .inl h0, (leftImage_full checksum h0).mp h⟩

theorem eq_of_undisturbed {call1' call2' : ℕ} (h : Undisturbed lib b k checksum call1' call2') :
    leftImage lib call2 b k checksum boot kernel = createdImage b k checksum := by
  obtain ⟨rfl, rfl⟩ := hboot.all _ h.boot
  obtain ⟨rfl, rfl⟩ := hkernel.all _ h.kernel
  rcases h.header with h0 | ⟨rfl, rfl, hn1⟩
  · exact (leftImage_full checksum h0).mpr h.rewritten
  · have hnew := DsfHeader.toBytes_length (createdHeader [] [] checksum)
    have hold : ((createdHeader [] [] 0).toBytes.take (lib.transfer 0 dsfHeaderSize)).length ≤
        dsfHeaderSize := by
      rw [List.length_take]
      exact le_trans (Nat.min_le_left _ _) (lib.transfer_le _ _)
    rw [leftImage, createdImage, hn1, List.take_of_length_le hnew.le, List.append_nil,
      List.append_nil, List.drop_of_length_le hold, List.append_nil, List.append_nil]

end Run

/-- **When a created image is complete.** A run that returns 0 leaves header,
boot file and kernel file, with length `total_size`, if and only if the image
is shorter than 4 GiB and none of the run's transfers fell short. -/
theorem created_image_complete_iff {image : List UInt8}
    (h : createDsfImage lib outputPath (some b) (some k) = .ok ⟨0, some image⟩) :
    ∃ block, lib.malloc 0 (createdHeader b k 0).totalSize.toNat = some block ∧
      ((image = createdImage b k (calculateChecksum (block.drop 4)) ∧
          image.length = (createdHeader b k 0).totalSize.toNat) ↔
        dsfHeaderSize + b.length + k.length < 2 ^ 32 ∧
          ∃ call1 call2, Undisturbed lib b k (calculateChecksum (block.drop 4)) call1 call2) := by
  obtain ⟨hc, block, hm, hsum⟩ := createDsfImage_succeeds h
  obtain ⟨call1, call2, boot, kernel, hboot, hkernel, he⟩ := createDsfImage_run hc hm
  rw [he, hsum] at h
  obtain rfl : leftImage lib call2 b k (calculateChecksum (block.drop 4)) boot kernel = image :=
    Option.some.inj (congrArg Created.output (Except.ok.inj h))
  refine ⟨block, hm, ⟨fun ⟨heq, hlen⟩ => ⟨?_, call1, call2, undisturbed_of_eq _ hboot hkernel heq⟩,
    fun ⟨hsize, call1', call2', hu⟩ => ?_⟩⟩
  · rw [heq, createdImage_length] at hlen
    rw [hlen]
    exact UInt32.toNat_lt _
  · have heq := eq_of_undisturbed _ hboot hkernel hu
    exact ⟨heq, by rw [heq, createdImage_length]; exact (length_toNat hsize).symm⟩

theorem created_image_complete_iff_works : ∃ image checksum,
    createDsfImage .zeroed "system.dsf" (some [0x55, 0xAA]) (some [0x7F]) = .ok ⟨0, some image⟩ ∧
    image = createdImage [0x55, 0xAA] [0x7F] checksum ∧ image.length = 35 := by
  have hc : Libc.zeroed.canCreate "system.dsf" = true := rfl
  obtain ⟨block, -, hrun⟩ := createDsfImage_spec Libc.zeroed_works hc (b := [0x55, 0xAA])
    (k := [0x7F]) (by decide)
  obtain ⟨block', -, hiff⟩ := created_image_complete_iff hrun
  obtain ⟨heq, hlen⟩ := hiff.mpr ⟨by decide, Undisturbed.of_complete Libc.zeroed_works.complete _ _ _⟩
  exact ⟨_, _, hrun, heq, hlen⟩

/-- An environment whose first write of data moves nothing. -/
def diskFull : Libc where
  canCreate _ := true
  transfer call n := if call = 2 then 0 else n
  transfer_le call n := by split_ifs <;> omega
  malloc := Libc.zeroed.malloc
  malloc_length := Libc.zeroed.malloc_length

/-- The boot sector does not arrive. -/
theorem created_image_truncated :
    ¬ ∀ (lib : Libc) (b k image : List UInt8),
      createDsfImage lib "system.dsf" (some b) (some k) = .ok ⟨0, some image⟩ →
      ∃ checksum, image = createdImage b k checksum := by
  intro h
  obtain ⟨block, hm⟩ := Libc.zeroed_works.malloc 0 (createdHeader [0x55, 0xAA] [] 0).totalSize.toNat
  have hc : diskFull.canCreate "system.dsf" = true := rfl
  obtain ⟨call1, call2, boot, kernel, hboot, hkernel, he⟩ := createDsfImage_run hc hm
  rw [checksumBehindSignature_eq (Libc.zeroed.malloc_length hm) (by decide)] at he
  obtain ⟨checksum, heq⟩ := h _ _ _ _ he
  have hshort : boot.length ≠ 2 := by
    intro hlen
    rcases (hboot.complete hlen).cases with ⟨h0, -⟩ | ⟨hread, hwrite, -⟩
    · exact absurd h0 (by decide)
    · exact absurd hwrite.symm hread.ne'
  have hkernel0 : kernel.length ≤ 0 := hkernel.length_le
  have hheader : diskFull.transfer 0 32 = 32 := rfl
  have hle := diskFull.transfer_le (call2 + 1) 32
  have hlen := congrArg List.length heq
  simp only [List.length_append, List.length_take, List.length_drop, DsfHeader.toBytes_length,
    createdImage_length, hheader, dsfHeaderSize, List.length_cons, List.length_nil] at hlen
  omega

end Dos25
