/-
# Do the announced regions hold the parts?

`create_dsf_image` writes the kernel right behind the boot sector but always
announces it at byte 544. The regions announced are disjoint, lie inside the
image and hold the two files, and extraction returns these, exactly when the
boot file has the customary 512 bytes or there is no kernel to place
(`created_image_extracts_iff`).
-/
import Dos25.DiskImage

namespace Dos25

open Stdio

/-- The announced regions hold `b` and `k`, and extraction returns these. An
empty region has no byte outside the image, wherever it starts. -/
structure RoundTrips (lib : Libc) (bootOutput kernelOutput : String) (b k image : List UInt8) :
    Prop where
  disjoint : (DsfHeader.ofBytes image).bootRegion.Disjoint (DsfHeader.ofBytes image).kernelRegion
  boot_inside : (DsfHeader.ofBytes image).bootRegion.Inside image.length
  kernel_inside : (DsfHeader.ofBytes image).kernelRegion.Inside image.length
  boot : slice image (DsfHeader.ofBytes image).bootRegion = b
  kernel : slice image (DsfHeader.ofBytes image).kernelRegion = k
  extracted : extractDsfImage lib (some image) (some bootOutput) (some kernelOutput) =
    ⟨0, some b, some k⟩

section

variable {b k : List UInt8} (hsize : dsfHeaderSize + b.length + k.length < 2 ^ 32)
  (checksum : UInt32)

include hsize

theorem createdImage_bootRegion :
    (DsfHeader.ofBytes (createdImage b k checksum)).bootRegion = ⟨dsfHeaderSize, b.length⟩ := by
  have hb : (UInt32.ofNat b.length).toNat = b.length := length_toNat (by omega)
  rw [createdImage_header, DsfHeader.bootRegion, createdHeader, hb]
  rfl

theorem createdImage_kernelRegion :
    (DsfHeader.ofBytes (createdImage b k checksum)).kernelRegion =
      ⟨dsfHeaderSize + 512, k.length⟩ := by
  have hk : (UInt32.ofNat k.length).toNat = k.length := length_toNat (by omega)
  rw [createdImage_header, DsfHeader.kernelRegion, createdHeader, hk]
  rfl

end

/-- The boot file lies where the header says. -/
theorem slice_boot (b k : List UInt8) (checksum : UInt32) :
    slice (createdImage b k checksum) ⟨dsfHeaderSize, b.length⟩ = b := by
  unfold slice
  rw [createdImage, List.append_assoc, List.drop_left' (DsfHeader.toBytes_length _),
    List.take_left]

/-- The kernel file lies right behind the boot file. -/
theorem slice_kernel (b k : List UInt8) (checksum : UInt32) :
    slice (createdImage b k checksum) ⟨dsfHeaderSize + b.length, k.length⟩ = k := by
  have hlen : ((createdHeader b k checksum).toBytes ++ b).length = dsfHeaderSize + b.length := by
    rw [List.length_append, DsfHeader.toBytes_length]
  unfold slice
  rw [createdImage, List.drop_left' hlen, List.take_length]

/-- Where both regions lie inside the image and hold the files, extraction
returns the files. -/
theorem RoundTrips.of_regions {lib : Libc} (hw : lib.Works) {bootOutput kernelOutput : String}
    (hb : bootOutput ≠ "") (hk : kernelOutput ≠ "") (hcb : lib.canCreate bootOutput = true)
    (hck : lib.canCreate kernelOutput = true) {b k image : List UInt8}
    (hh : dsfHeaderSize ≤ image.length)
    (hd : (DsfHeader.ofBytes image).bootRegion.Disjoint (DsfHeader.ofBytes image).kernelRegion)
    (hib : (DsfHeader.ofBytes image).bootRegion.Inside image.length)
    (hik : (DsfHeader.ofBytes image).kernelRegion.Inside image.length)
    (hsb : slice image (DsfHeader.ofBytes image).bootRegion = b)
    (hsk : slice image (DsfHeader.ofBytes image).kernelRegion = k) :
    RoundTrips lib bootOutput kernelOutput b k image := by
  obtain ⟨boot, kernel, he, hboot, hkernel⟩ := extractDsfImage_spec hw hb hk hcb hck hh
  refine ⟨hd, hib, hik, hsb, hsk, ?_⟩
  rw [he, hboot.eq_slice hib, hkernel.eq_slice hik, hsb, hsk]

/-- Where the kernel's region is right: it is empty, or starts where the boot
file ends. -/
theorem kernelRegion_fits {b k : List UInt8} (h : k = [] ∨ b.length = 512) (checksum : UInt32) :
    (⟨dsfHeaderSize, b.length⟩ : Span).Disjoint ⟨dsfHeaderSize + 512, k.length⟩ ∧
      (⟨dsfHeaderSize + 512, k.length⟩ : Span).Inside (dsfHeaderSize + b.length + k.length) ∧
      slice (createdImage b k checksum) ⟨dsfHeaderSize + 512, k.length⟩ = k := by
  rcases h with rfl | h512
  · refine ⟨?_, ?_, rfl⟩
    · rintro x ⟨-, hl, hr⟩
      exact absurd hr (not_lt.mpr hl)
    · rintro x ⟨hl, hr⟩
      exact absurd hr (not_lt.mpr hl)
  · refine ⟨Span.disjoint_of_le _ _ (by rw [h512]), Span.inside_of_le _ (by rw [h512]), ?_⟩
    rw [← h512]
    exact slice_kernel b k checksum

/-- Elsewhere it reaches behind the image or into the boot sector's. -/
theorem kernelRegion_misfits {b k : List UInt8}
    (hd : (⟨dsfHeaderSize, b.length⟩ : Span).Disjoint ⟨dsfHeaderSize + 512, k.length⟩)
    (hi : (⟨dsfHeaderSize + 512, k.length⟩ : Span).Inside (dsfHeaderSize + b.length + k.length)) :
    k = [] ∨ b.length = 512 := by
  by_contra hne
  obtain ⟨hnil, h512⟩ := not_or.mp hne
  have hpos : 0 < k.length := List.length_pos_of_ne_nil hnil
  rw [Span.inside_iff _ hpos] at hi
  have hlong : 512 < b.length := by
    simp only at hi
    omega
  -- byte 544 lies in both regions
  refine hd (dsfHeaderSize + 512) ⟨⟨Nat.le_add_right _ _, ?_⟩, ⟨le_rfl, ?_⟩⟩
  · exact Nat.add_lt_add_left hlong _
  · exact Nat.lt_add_of_pos_right hpos

/-- What the regions of a created image need. -/
theorem createdImage_roundTrips_iff {lib : Libc} (hw : lib.Works)
    {bootOutput kernelOutput : String} (hb : bootOutput ≠ "") (hk : kernelOutput ≠ "")
    (hcb : lib.canCreate bootOutput = true) (hck : lib.canCreate kernelOutput = true)
    {b k : List UInt8} (hsize : dsfHeaderSize + b.length + k.length < 2 ^ 32) (checksum : UInt32) :
    RoundTrips lib bootOutput kernelOutput b k (createdImage b k checksum) ↔
      k = [] ∨ b.length = 512 := by
  have hboot := createdImage_bootRegion hsize checksum
  have hkernel := createdImage_kernelRegion hsize checksum
  have hlen := createdImage_length b k checksum
  constructor
  · intro h
    have hdisjoint := h.disjoint
    have hinside := h.kernel_inside
    rw [hboot, hkernel] at hdisjoint
    rw [hkernel, hlen] at hinside
    exact kernelRegion_misfits hdisjoint hinside
  · intro h
    obtain ⟨hdisjoint, hinside, hslice⟩ := kernelRegion_fits h checksum
    refine .of_regions hw hb hk hcb hck (by rw [hlen]; omega) ?_ ?_ ?_ ?_ ?_
    · rw [hboot, hkernel]
      exact hdisjoint
    · rw [hboot, hlen]
      exact Span.inside_of_le _ (Nat.le_add_right _ _)
    · rw [hkernel, hlen]
      exact hinside
    · rw [hboot]
      exact slice_boot b k checksum
    · rw [hkernel]
      exact hslice

/-- **When the announced regions hold the parts.** With every file operation
and allocation succeeding, `create_dsf_image` writes an image of `b` and `k`
whose regions are disjoint, inside the file and hold `b` and `k`, and from
which `extract_dsf_image` returns exactly these, if and only if `k` is empty
or `b` is 512 bytes long. -/
theorem created_image_extracts_iff {lib lib' : Libc} (hw : lib.Works) (hw' : lib'.Works)
    {outputPath bootOutput kernelOutput : String} (hc : lib.canCreate outputPath = true)
    (hb : bootOutput ≠ "") (hk : kernelOutput ≠ "") (hcb : lib'.canCreate bootOutput = true)
    (hck : lib'.canCreate kernelOutput = true) {b k : List UInt8}
    (hsize : dsfHeaderSize + b.length + k.length < 2 ^ 32) :
    ∃ image, createDsfImage lib outputPath (some b) (some k) = .ok ⟨0, some image⟩ ∧
      (RoundTrips lib' bootOutput kernelOutput b k image ↔ k = [] ∨ b.length = 512) := by
  obtain ⟨block, -, he⟩ := createDsfImage_spec hw hc hsize
  exact ⟨_, he, createdImage_roundTrips_iff hw' hb hk hcb hck hsize _⟩

/-- A boot sector of 512 bytes and a kernel of one. -/
theorem created_image_extracts_iff_bootSector : ∃ image,
    createDsfImage .zeroed "system.dsf" (some (List.replicate 512 0x55)) (some [0x7F]) =
      .ok ⟨0, some image⟩ ∧
    RoundTrips .zeroed "boot.bin" "kernel.elf" (List.replicate 512 0x55) [0x7F] image := by
  have hc : ∀ path, Libc.zeroed.canCreate path = true := fun _ => rfl
  have hb : "boot.bin" ≠ "" := by decide
  have hk : "kernel.elf" ≠ "" := by decide
  obtain ⟨image, he, hiff⟩ := created_image_extracts_iff Libc.zeroed_works Libc.zeroed_works
    (hc "system.dsf") hb hk (hc _) (hc _) (b := List.replicate 512 0x55) (k := [0x7F])
    (by rw [List.length_replicate]; decide)
  exact ⟨image, he, hiff.mpr (.inr List.length_replicate)⟩

/-- A boot file of two bytes: the kernel is announced behind the end. -/
theorem short_boot_file_lost :
    ¬ ∀ (lib lib' : Libc), lib.Works → lib'.Works → ∀ (b k image : List UInt8),
      dsfHeaderSize + b.length + k.length < 2 ^ 32 →
      createDsfImage lib "system.dsf" (some b) (some k) = .ok ⟨0, some image⟩ →
      RoundTrips lib' "boot.bin" "kernel.elf" b k image := by
  intro h
  have hc : Libc.zeroed.canCreate "system.dsf" = true := rfl
  obtain ⟨block, -, he⟩ := createDsfImage_spec Libc.zeroed_works hc (b := [0x55, 0xAA]) (k := [0x7F])
    (by decide)
  have hr := h .zeroed .zeroed Libc.zeroed_works Libc.zeroed_works _ _ _ (by decide) he
  rw [createdImage_roundTrips_iff Libc.zeroed_works (by decide) (by decide) rfl rfl (by decide)] at hr
  exact absurd hr (by decide)

end Dos25
