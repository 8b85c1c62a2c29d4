/-
# What verification says about an image

`create_dsf_image` takes its checksum over a block it never filled, as its
stream is open for writing only. The 32-bit sum keeps the last 11 bytes only
(`calculateChecksum_lastBytes`), so a created image is accepted exactly when
the last 11 bytes of that block happen to have the sum of the image's last 11
(`created_image_verifies_iff`).

`verify_dsf_image` checks the signature, the length and the checksum. None of
these says anything about the offsets and sizes of the two parts, which the
extraction trusts (`verify_accepts`).

Key definitions: `HeapMatches`, `craftedImage`.
-/
import Dos25.DiskImage

namespace Dos25

open Stdio

/-! ### A created image -/

/-- The block that `malloc` returned ends as the files do, up to the checksum.
Before the files, where they are shorter than 11 bytes, the header ends with
`kernel_offset`, `kernel_size` and this checksum. -/
def HeapMatches (b k block : List UInt8) : Prop :=
  let sum := calculateChecksum (lastBytes 11 block)
  let front := u32Bytes 544 ++ u32Bytes (UInt32.ofNat k.length) ++ u32Bytes sum
  calculateChecksum (lastBytes 11 (front ++ (b ++ k))) = sum

theorem lastBytes_append {n : ℕ} (xs : List UInt8) {ys : List UInt8} (h : n ≤ ys.length) :
    lastBytes n (xs ++ ys) = lastBytes n ys := by
  have hlen : (xs ++ ys).length - n = xs.length + (ys.length - n) := by
    rw [List.length_append]
    omega
  unfold lastBytes
  rw [hlen, List.drop_length_add_append]

/-- Of a file of some size, the checksum behind the signature is that of the
last 11 bytes. -/
theorem calculateChecksum_drop {data : List UInt8} (h : dsfHeaderSize ≤ data.length) :
    calculateChecksum (data.drop 4) = calculateChecksum (lastBytes 11 data) := by
  have h15 : 15 ≤ data.length := le_trans (by decide) h
  have hlen : 11 ≤ (data.drop 4).length := by
    rw [List.length_drop]
    omega
  rw [← calculateChecksum_lastBytes hlen, ← lastBytes_append (data.take 4) hlen,
    List.take_append_drop]

/-- With 11 bytes of files or more, the header plays no part. -/
theorem heapMatches_iff_payload {b k : List UInt8} (h : 11 ≤ b.length + k.length)
    (block : List UInt8) : HeapMatches b k block ↔
      calculateChecksum (lastBytes 11 (b ++ k)) = calculateChecksum (lastBytes 11 block) := by
  have hlen : 11 ≤ (b ++ k).length := by rwa [List.length_append]
  unfold HeapMatches
  dsimp only
  rw [lastBytes_append _ hlen]

/-- The last 11 bytes of an image are among the last three fields of its
header and the files. -/
theorem lastBytes_createdImage (b k : List UInt8) (checksum : UInt32) :
    lastBytes 11 (createdImage b k checksum) = lastBytes 11
      (u32Bytes 544 ++ u32Bytes (UInt32.ofNat k.length) ++ u32Bytes checksum ++ (b ++ k)) := by
  have hlen : 11 ≤ (u32Bytes 544 ++ u32Bytes (UInt32.ofNat k.length) ++ u32Bytes checksum ++
      (b ++ k)).length := by
    simp only [List.length_append, u32Bytes_length]
    omega
  have himage : createdImage b k checksum =
      (List.ofFn (createdHeader b k checksum).signature ++
        u32Bytes (createdHeader b k checksum).version ++
        u32Bytes (createdHeader b k checksum).totalSize ++
        u32Bytes (createdHeader b k checksum).bootOffset ++
        u32Bytes (createdHeader b k checksum).bootSize) ++
      (u32Bytes 544 ++ u32Bytes (UInt32.ofNat k.length) ++ u32Bytes checksum ++ (b ++ k)) := by
    have ho : (createdHeader b k checksum).kernelOffset = 544 := rfl
    have hs : (createdHeader b k checksum).kernelSize = UInt32.ofNat k.length := rfl
    have hc : (createdHeader b k checksum).checksum = checksum := rfl
    unfold createdImage
    rw [DsfHeader.toBytes, ho, hs, hc]
    simp only [List.append_assoc]
  rw [himage, lastBytes_append _ hlen]

/-- A created image is accepted exactly when the block matches. -/
theorem createdImage_accepted_iff_heap {b k block : List UInt8}
    (hsize : dsfHeaderSize + b.length + k.length < 2 ^ 32)
    (hblock : block.length = dsfHeaderSize + b.length + k.length) :
    Accepted (createdImage b k (calculateChecksum (block.drop 4))) ↔ HeapMatches b k block := by
  have hb : dsfHeaderSize ≤ block.length := by omega
  have hi : ∀ c, dsfHeaderSize ≤ (createdImage b k c).length := by
    intro c
    rw [createdImage_length]
    omega
  rw [createdImage_accepted_iff hsize, calculateChecksum_drop (hi _), calculateChecksum_drop hb,
    lastBytes_createdImage]
  rfl

/-- **When a created image passes verification.** With every file operation
and allocation succeeding, `verify_dsf_image` accepts the image that
`create_dsf_image` writes if and only if the last 11 bytes of the block
`malloc` returned have the checksum of the last 11 bytes of the files, or, of
shorter files, of the header's end and the files. -/
theorem created_image_verifies_iff {lib lib' : Libc} (hw : lib.Works) (hw' : lib'.Works)
    {outputPath : String} (hc : lib.canCreate outputPath = true) {b k : List UInt8}
    (hsize : dsfHeaderSize + b.length + k.length < 2 ^ 32) :
    ∃ block image, lib.malloc 0 (dsfHeaderSize + b.length + k.length) = some block ∧
      createDsfImage lib outputPath (some b) (some k) = .ok ⟨0, some image⟩ ∧
      (verifyDsfImage lib' (some image) = .ok 0 ↔ HeapMatches b k block) ∧
      (11 ≤ b.length + k.length → (HeapMatches b k block ↔
        calculateChecksum (lastBytes 11 (b ++ k)) = calculateChecksum (lastBytes 11 block))) := by
  obtain ⟨block, hm, he⟩ := createDsfImage_spec hw hc hsize
  refine ⟨block, _, hm, he, ?_, fun h => heapMatches_iff_payload h block⟩
  rw [verifyDsfImage_iff hw']
  exact createdImage_accepted_iff_heap hsize (lib.malloc_length hm)

/-- Files that end in zeros, and a block of zeros. -/
theorem created_image_verifies_iff_zeros : ∃ image,
    createDsfImage .zeroed "system.dsf" (some [0x55, 0xAA]) (some (List.replicate 11 0)) =
      .ok ⟨0, some image⟩ ∧ verifyDsfImage .zeroed (some image) = .ok 0 := by
  have hc : Libc.zeroed.canCreate "system.dsf" = true := rfl
  obtain ⟨block, image, hm, he, hiff, hpay⟩ := created_image_verifies_iff Libc.zeroed_works
    Libc.zeroed_works hc (b := [0x55, 0xAA]) (k := List.replicate 11 0) (by decide)
  cases hm
  exact ⟨image, he, hiff.mpr ((hpay (by decide)).mpr (by decide))⟩

/-- A boot file that does not end in zeros, and a block of zeros: the image
carries the checksum 0 and is rejected. -/
theorem created_image_rejected :
    ¬ ∀ (lib lib' : Libc), lib.Works → lib'.Works → ∀ (b k image : List UInt8),
      dsfHeaderSize + b.length + k.length < 2 ^ 32 →
      createDsfImage lib "system.dsf" (some b) (some k) = .ok ⟨0, some image⟩ →
      verifyDsfImage lib' (some image) = .ok 0 := by
  intro h
  have hc : Libc.zeroed.canCreate "system.dsf" = true := rfl
  obtain ⟨block, hm, he⟩ := createDsfImage_spec Libc.zeroed_works hc (b := [0x55, 0xAA]) (k := [])
    (by decide)
  have hv := h .zeroed .zeroed Libc.zeroed_works Libc.zeroed_works _ _ _ (by decide) he
  rw [verifyDsfImage_iff Libc.zeroed_works,
    createdImage_accepted_iff_heap (by decide) (Libc.zeroed.malloc_length hm)] at hv
  cases hm
  exact absurd hv (by unfold HeapMatches; decide)

/-! ### Any accepted image -/

/-- An image with these offsets and sizes, and 11 zero bytes behind its
header. -/
def craftedImage (bootOffset bootSize kernelOffset kernelSize : UInt32) : List UInt8 :=
  DsfHeader.toBytes ⟨![68, 83, 70, 0], 1, 43, bootOffset, bootSize, kernelOffset, kernelSize, 0⟩ ++
    List.replicate 11 0

/-- It is accepted, whatever the offsets and sizes. -/
theorem craftedImage_accepted (bootOffset bootSize kernelOffset kernelSize : UInt32) :
    Accepted (craftedImage bootOffset bootSize kernelOffset kernelSize) := by
  have hlen : (craftedImage bootOffset bootSize kernelOffset kernelSize).length = 43 := by
    simp [craftedImage, dsfHeaderSize]
  have hheader : DsfHeader.ofBytes (craftedImage bootOffset bootSize kernelOffset kernelSize) =
      ⟨![68, 83, 70, 0], 1, 43, bootOffset, bootSize, kernelOffset, kernelSize, 0⟩ :=
    DsfHeader.ofBytes_toBytes _ _
  refine ⟨by rw [hlen]; decide, by rw [hheader]; rfl, by rw [hlen, hheader]; rfl, ?_⟩
  rw [calculateChecksum_drop (by rw [hlen]; decide), craftedImage,
    lastBytes_append _ (by rw [List.length_replicate]), DsfHeader.ofBytes_toBytes]
  show calculateChecksum (lastBytes 11 (List.replicate 11 0)) = 0
  decide

/-- **What verification says about an image, and what not.** An image is
accepted exactly when it holds a header with the signature, its length as
`total_size` and the checksum of its bytes from the fifth on. Offsets and
sizes may be any. Extraction from an accepted image returns as many bytes as
announced, and the bytes of the image at that place if the region lies in the
image. -/
theorem verify_accepts {lib lib' : Libc} (hw : lib.Works) (hw' : lib'.Works)
    {bootOutput kernelOutput : String} (hb : bootOutput ≠ "") (hk : kernelOutput ≠ "")
    (hcb : lib'.canCreate bootOutput = true) (hck : lib'.canCreate kernelOutput = true) :
    (∀ image, verifyDsfImage lib (some image) = .ok 0 ↔ Accepted image) ∧
    (∀ bootOffset bootSize kernelOffset kernelSize : UInt32, ∃ image,
      verifyDsfImage lib (some image) = .ok 0 ∧
      (DsfHeader.ofBytes image).bootRegion = ⟨bootOffset.toNat, bootSize.toNat⟩ ∧
      (DsfHeader.ofBytes image).kernelRegion = ⟨kernelOffset.toNat, kernelSize.toNat⟩) ∧
    ∀ image, verifyDsfImage lib (some image) = .ok 0 → ∃ boot kernel,
      extractDsfImage lib' (some image) (some bootOutput) (some kernelOutput) =
        ⟨0, some boot, some kernel⟩ ∧
      boot.length = (DsfHeader.ofBytes image).bootSize.toNat ∧
      kernel.length = (DsfHeader.ofBytes image).kernelSize.toNat ∧
      ((DsfHeader.ofBytes image).bootRegion.Inside image.length →
        boot = slice image (DsfHeader.ofBytes image).bootRegion) ∧
      ((DsfHeader.ofBytes image).kernelRegion.Inside image.length →
        kernel = slice image (DsfHeader.ofBytes image).kernelRegion) := by
  refine ⟨verifyDsfImage_iff hw, fun bo bs ko ks => ?_, fun image h => ?_⟩
  · refine ⟨_, (verifyDsfImage_iff hw _).mpr (craftedImage_accepted bo bs ko ks), ?_, ?_⟩ <;>
      rw [craftedImage, DsfHeader.ofBytes_toBytes] <;> rfl
  · have ha := (verifyDsfImage_iff hw image).mp h
    obtain ⟨boot, kernel, he, hboot, hkernel⟩ := extractDsfImage_spec hw' hb hk hcb hck ha.header
    exact ⟨boot, kernel, he, hboot.length, hkernel.length, hboot.eq_slice, hkernel.eq_slice⟩

theorem verify_accepts_zeroed : ∃ image, verifyDsfImage .zeroed (some image) = .ok 0 ∧
    (DsfHeader.ofBytes image).bootRegion = ⟨0, 0xFFFFFFFF⟩ := by
  have hc : ∀ path, Libc.zeroed.canCreate path = true := fun _ => rfl
  have hb : "boot.bin" ≠ "" := by decide
  have hk : "kernel.elf" ≠ "" := by decide
  obtain ⟨image, hv, hr, -⟩ := (verify_accepts Libc.zeroed_works Libc.zeroed_works hb hk (hc _)
    (hc _)).2.1 0 0xFFFFFFFF 0 0
  exact ⟨image, hv, hr⟩

/-- An accepted image of 43 bytes that announces a boot sector of 4 GiB. -/
theorem accepted_regions_missing :
    ¬ ∀ (lib : Libc), lib.Works → ∀ image, verifyDsfImage lib (some image) = .ok 0 →
      32 ≤ (DsfHeader.ofBytes image).bootOffset.toNat ∧
      32 ≤ (DsfHeader.ofBytes image).kernelOffset.toNat ∧
      (DsfHeader.ofBytes image).bootRegion.Inside (DsfHeader.ofBytes image).totalSize.toNat ∧
      (DsfHeader.ofBytes image).kernelRegion.Inside (DsfHeader.ofBytes image).totalSize.toNat ∧
      (DsfHeader.ofBytes image).bootRegion.Disjoint (DsfHeader.ofBytes image).kernelRegion := by
  intro h
  obtain ⟨-, -, hinside, -⟩ := h .zeroed Libc.zeroed_works _
    ((verifyDsfImage_iff Libc.zeroed_works _).mpr (craftedImage_accepted 32 0xFFFFFFFF 32 0))
  rw [craftedImage, DsfHeader.ofBytes_toBytes, Span.inside_iff _ (by decide)] at hinside
  exact absurd hinside (by decide)

end Dos25
