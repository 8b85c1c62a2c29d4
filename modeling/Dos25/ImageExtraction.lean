/-
# What a successful extraction leaves

`extract_dsf_image` checks that it can read a header, create the outputs and
allocate the blocks, and no more: the reads of the parts may be short, and the
blocks are written in the announced length all the same. So a successful run
leaves the announced slices, whatever the heap holds, exactly when each
requested region lies inside the image and is read and written completely
(`extracted_slices_iff`).

Key definitions: `Requested`, `written`, `Slices`, `Delivered`.
-/
import Dos25.ImageVerify

namespace Dos25

open Stdio

/-- The path is given and not empty. -/
def Requested (output : Option String) : Prop := ∃ path, output = some path ∧ path ≠ ""

/-- How much of a part the read delivers. -/
def delivered (lib : Libc) (call : ℕ) (image : List UInt8) (region : Span) : ℕ :=
  lib.transfer call (min region.size (image.length - region.start))

/-- What one part's turn writes: what was read, then the rest of the block, as
far as the write goes. -/
def written (lib : Libc) (call : ℕ) (image : List UInt8) (region : Span) (block : List UInt8) :
    List UInt8 :=
  ((image.drop region.start).take (delivered lib call image region) ++
    block.drop (delivered lib call image region)).take (lib.transfer (call + 1) region.size)

/-! ### One part -/

section Part

variable (lib : Libc) (call : ℕ) (image : List UInt8) (region : Span)

theorem delivered_le : delivered lib call image region ≤ region.size ∧
    delivered lib call image region ≤ image.length - region.start := by
  have h := lib.transfer_le call (min region.size (image.length - region.start))
  unfold delivered
  omega

theorem fread_region : (⟨.rb, image, region.start⟩ : File).fread lib call region.size =
    ((image.drop region.start).take (delivered lib call image region),
      ⟨.rb, image, region.start + delivered lib call image region⟩) :=
  File.fread_rb lib rfl call region.size

theorem take_delivered_length : ((image.drop region.start).take
    (delivered lib call image region)).length = delivered lib call image region := by
  rw [List.length_take, List.length_drop]
  exact Nat.min_eq_left (delivered_le lib call image region).2

theorem filled_length {block : List UInt8} (hb : block.length = region.size) :
    ((image.drop region.start).take (delivered lib call image region) ++
      block.drop (delivered lib call image region)).length = region.size := by
  rw [List.length_append, take_delivered_length, List.length_drop, hb]
  exact Nat.add_sub_of_le (delivered_le lib call image region).1

variable {lib call image region} {lib' : Libc} {i : ℕ} {block : List UInt8}

theorem written_length (hb : block.length = region.size) :
    (written lib call image region block).length = lib.transfer (call + 1) region.size := by
  unfold written
  rw [List.length_take, filled_length _ _ _ _ hb]
  exact Nat.min_eq_left (lib.transfer_le _ _)

/-- A write that goes no further than the read is part of the image. -/
theorem written_of_le (h : lib.transfer (call + 1) region.size ≤ delivered lib call image region) :
    written lib call image region block =
      (image.drop region.start).take (lib.transfer (call + 1) region.size) := by
  unfold written
  rw [List.take_append_of_le_length (by rwa [take_delivered_length]), List.take_take,
    Nat.min_eq_left h]

/-- Another write shows a byte of the block. -/
theorem getElem?_written (h : delivered lib call image region < lib.transfer (call + 1) region.size) :
    (written lib call image region block)[delivered lib call image region]? =
      block[delivered lib call image region]? := by
  have hlen := take_delivered_length lib call image region
  unfold written
  rw [List.getElem?_take_of_lt h, List.getElem?_append_right hlen.le, hlen, Nat.sub_self,
    List.getElem?_drop, Nat.add_zero]

theorem xor_one_ne (x : UInt8) : x ^^^ 1 ≠ x := by
  intro h
  have hone : x ^^^ (x ^^^ 1) = x ^^^ x := congrArg (x ^^^ ·) h
  rw [← UInt8.xor_assoc, UInt8.xor_self, UInt8.zero_xor] at hone
  exact absurd hone (by decide)

/-- A changed block shows exactly where the write goes further than the read. -/
theorem written_flipped_iff (hb : block.length = region.size) :
    written lib call image region (block.map (· ^^^ 1)) = written lib call image region block ↔
      lib.transfer (call + 1) region.size ≤ delivered lib call image region := by
  refine ⟨fun h => ?_, fun h => by rw [written_of_le h, written_of_le h]⟩
  by_contra hlt
  have hd : delivered lib call image region < lib.transfer (call + 1) region.size := by omega
  have hw := lib.transfer_le (call + 1) region.size
  have hpos : delivered lib call image region < block.length := by omega
  have hbyte := congrArg (fun out => out[delivered lib call image region]?) h
  simp only [getElem?_written hd, List.getElem?_map, List.getElem?_eq_getElem hpos,
    Option.map_some, Option.some_inj] at hbyte
  exact xor_one_ne _ hbyte

/-- What the turn of a part leaves for an output. -/
structure PartRun (lib : Libc) (call i : ℕ) (image : List UInt8) (region : Span)
    (output : Option String) (out : Option (List UInt8)) : Prop where
  requested : Requested output → ∃ block, lib.malloc i region.size = some block ∧
    out = some (written lib call image region block)
  skipped : ¬ Requested output → out = none

variable {offset size : UInt32} {output : Option String}

theorem extractPart_run {path : String} {pos : ℕ}
    (h : (extractPart lib call i ⟨.rb, image, pos⟩ offset size path).succeeds = true) :
    ∃ pos' block, lib.malloc i size.toNat = some block ∧
      extractPart lib call i ⟨.rb, image, pos⟩ offset size path =
        ⟨true, some (written lib call image ⟨offset.toNat, size.toNat⟩ block),
          ⟨.rb, image, pos'⟩⟩ := by
  unfold extractPart at h ⊢
  by_cases hc : lib.canCreate path = true
  swap
  · rw [if_neg hc] at h
    exact absurd h Bool.false_ne_true
  rw [if_pos hc] at h ⊢
  cases hm : lib.malloc i size.toNat with
  | none =>
    rw [hm] at h
    exact absurd h Bool.false_ne_true
  | some block =>
    have hread := fread_region lib call image ⟨offset.toNat, size.toNat⟩
    have hgot := take_delivered_length lib call image ⟨offset.toNat, size.toNat⟩
    have hfilled := filled_length lib call image ⟨offset.toNat, size.toNat⟩ (lib.malloc_length hm)
    dsimp only at hread hgot hfilled
    refine ⟨offset.toNat + delivered lib call image ⟨offset.toNat, size.toNat⟩, block, rfl, ?_⟩
    simp only [File.seekSet, hread, hgot, File.fwrite_append lib (f := File.create) rfl rfl, hfilled]
    rfl

theorem extractRequested_run {pos : ℕ}
    (h : (extractRequested lib call i ⟨.rb, image, pos⟩ offset size output).succeeds = true) :
    ∃ pos', (extractRequested lib call i ⟨.rb, image, pos⟩ offset size output).dsfFile =
        ⟨.rb, image, pos'⟩ ∧
      PartRun lib call i image ⟨offset.toNat, size.toNat⟩ output
        (extractRequested lib call i ⟨.rb, image, pos⟩ offset size output).output := by
  cases output with
  | none =>
    refine ⟨pos, rfl, ?_, fun _ => rfl⟩
    rintro ⟨path, h, -⟩
    exact absurd h.symm (Option.some_ne_none path)
  | some path =>
    simp only [extractRequested] at h ⊢
    by_cases hp : path = ""
    · rw [if_neg (not_not.mpr hp)]
      refine ⟨pos, rfl, ?_, fun _ => rfl⟩
      rintro ⟨other, h, hne⟩
      exact absurd ((Option.some.inj h).symm.trans hp) hne
    · rw [if_pos hp] at h ⊢
      obtain ⟨pos', block, hm, he⟩ := extractPart_run h
      rw [he]
      exact ⟨pos', rfl, fun _ => ⟨block, hm, rfl⟩, fun hno => absurd ⟨path, rfl, hp⟩ hno⟩

/-- Whether a part's turn succeeds does not depend on what the heap holds. -/
theorem extractRequested_congr (hs : lib.SameButHeap lib') (file : File) :
    (extractRequested lib' call i file offset size output).succeeds =
        (extractRequested lib call i file offset size output).succeeds ∧
      (extractRequested lib' call i file offset size output).dsfFile =
        (extractRequested lib call i file offset size output).dsfFile := by
  have hmalloc := hs.malloc i size.toNat
  cases output with
  | none => exact ⟨rfl, rfl⟩
  | some path =>
    simp only [extractRequested, extractPart, hs.canCreate, File.fread_congr hs]
    split_ifs with hp hc
    · cases hm : lib.malloc i size.toNat <;> cases hm' : lib'.malloc i size.toNat <;>
        simp_all
    · exact ⟨rfl, rfl⟩
    · exact ⟨rfl, rfl⟩

end Part

/-- The region lies inside the image and is read and written completely. -/
structure Delivered (lib : Libc) (call : ℕ) (image : List UInt8) (region : Span) : Prop where
  inside : region.Inside image.length
  read : lib.transfer call region.size = region.size
  write : lib.transfer (call + 1) region.size = region.size

/-- No more is written than was read. -/
def WritesRead (lib : Libc) (call : ℕ) (image : List UInt8) (region : Span) : Prop :=
  lib.transfer (call + 1) region.size ≤ delivered lib call image region

section Slices

variable {lib lib' : Libc} {call i : ℕ} {image : List UInt8} {region : Span} {output : Option String}
  {out out' : Option (List UInt8)}

theorem min_eq_size (h : region.Inside image.length) :
    min region.size (image.length - region.start) = region.size := by
  rcases Nat.eq_zero_or_pos region.size with h0 | h0
  · rw [h0, Nat.zero_min]
  · have := (region.inside_iff h0).mp h
    omega

theorem Delivered.congr (hs : lib.SameButHeap lib') (h : Delivered lib call image region) :
    Delivered lib' call image region where
  inside := h.inside
  read := by rw [hs.transfer, h.read]
  write := by rw [hs.transfer, h.write]

/-- Where every transfer is complete, being inside is all there is to it. -/
theorem delivered_iff_inside (hc : lib.Complete) :
    Delivered lib call image region ↔ region.Inside image.length :=
  ⟨Delivered.inside, fun h => ⟨h, hc _ _, hc _ _⟩⟩

/-- So it is for writing no more than was read. -/
theorem writesRead_iff_inside (hc : lib.Complete) :
    WritesRead lib call image region ↔ region.Inside image.length := by
  unfold WritesRead delivered
  rw [hc, hc]
  refine ⟨fun h => ?_, fun h => (min_eq_size h).ge⟩
  rcases Nat.eq_zero_or_pos region.size with h0 | h0
  · rintro x ⟨hl, hr⟩
    omega
  · rw [region.inside_iff h0]
    omega

theorem PartRun.eq_slice (h : PartRun lib call i image region output out) (hr : Requested output)
    (hd : Delivered lib call image region) : out = some (slice image region) := by
  obtain ⟨block, -, ho⟩ := h.requested hr
  have hread : delivered lib call image region = region.size := by
    rw [delivered, min_eq_size hd.inside, hd.read]
  rw [ho, written_of_le (by rw [hread, hd.write]), hd.write]
  rfl

/-- A part that comes out the same with every byte of the block changed. -/
theorem PartRun.writesRead (h : PartRun lib call i image region output out)
    (h' : PartRun lib.flipped call i image region output out) (hr : Requested output) :
    WritesRead lib call image region := by
  obtain ⟨block, hm, ho⟩ := h.requested hr
  obtain ⟨block', hm', ho'⟩ := h'.requested hr
  have hflip : block' = block.map (· ^^^ 1) := by
    have hmap : lib.flipped.malloc i region.size = some (block.map (· ^^^ 1)) :=
      congrArg (Option.map (List.map (· ^^^ 1))) hm
    exact Option.some.inj (hm'.symm.trans hmap)
  rw [hflip] at ho'
  exact (written_flipped_iff (lib.malloc_length hm)).mp (Option.some.inj (ho'.symm.trans ho))

theorem PartRun.delivered_of_slices (h : PartRun lib call i image region output out)
    (h' : PartRun lib.flipped call i image region output out') (hr : Requested output)
    (hi : region.Inside image.length) (ho : out = some (slice image region))
    (ho' : out' = some (slice image region)) : Delivered lib call image region := by
  obtain ⟨block, hm, hw⟩ := h.requested hr
  have hlen := congrArg List.length (Option.some.inj (hw.symm.trans ho))
  rw [written_length (lib.malloc_length hm), slice_length_of_inside hi] at hlen
  rw [ho', ← ho] at h'
  have hle := h.writesRead h' hr
  have hread := (delivered_le lib call image region).1
  refine ⟨hi, ?_, hlen⟩
  unfold WritesRead at hle
  rw [delivered, min_eq_size hi] at hle hread
  omega

theorem PartRun.eq_of_writesRead (hs : lib.SameButHeap lib')
    (h : PartRun lib call i image region output out)
    (h' : PartRun lib' call i image region output out')
    (hw : Requested output → WritesRead lib call image region) : out' = out := by
  by_cases hr : Requested output
  · obtain ⟨block, -, ho⟩ := h.requested hr
    obtain ⟨block', -, ho'⟩ := h'.requested hr
    have hwritten : written lib' call image region block' = written lib call image region block' := by
      unfold written delivered
      rw [hs.transfer]
    rw [ho, ho', hwritten, written_of_le (hw hr), written_of_le (hw hr)]
  · rw [h.skipped hr, h'.skipped hr]

end Slices

/-! ### A run -/

section Run

variable {lib lib' : Libc} {image : List UInt8} {bootOutput kernelOutput : Option String}

/-- The first read gets a header or too little. -/
theorem fread_first (lib : Libc) (image : List UInt8) :
    ∃ got pos, (File.openRead image).fread lib 0 dsfHeaderSize = (got, ⟨.rb, image, pos⟩) ∧
      (got.length = dsfHeaderSize → DsfHeader.ofBytes got = DsfHeader.ofBytes image) := by
  have hread := File.fread_rb lib (f := .openRead image) rfl 0 dsfHeaderSize
  refine ⟨_, _, hread, fun hlen => ?_⟩
  have hle := lib.transfer_le 0 (min dsfHeaderSize (File.openRead image).left)
  rw [List.length_take] at hlen
  have htransfer : lib.transfer 0 (min dsfHeaderSize (File.openRead image).left) = dsfHeaderSize := by
    omega
  rw [htransfer]
  exact DsfHeader.ofBytes_take image

/-- **What a successful run leaves.** -/
theorem extractDsfImage_run
    (h : (extractDsfImage lib (some image) bootOutput kernelOutput).status = 0) :
    PartRun lib 1 0 image (DsfHeader.ofBytes image).bootRegion bootOutput
        (extractDsfImage lib (some image) bootOutput kernelOutput).boot ∧
      PartRun lib 3 1 image (DsfHeader.ofBytes image).kernelRegion kernelOutput
        (extractDsfImage lib (some image) bootOutput kernelOutput).kernel := by
  obtain ⟨got, pos, hread, hheader⟩ := fread_first lib image
  have hfails : ¬ (-1 : Int) = 0 := by decide
  simp only [extractDsfImage, hread] at h ⊢
  by_cases hlen : got.length = dsfHeaderSize
  swap
  · rw [if_pos hlen] at h
    exact absurd h hfails
  rw [if_neg (not_not.mpr hlen)] at h ⊢
  rw [hheader hlen] at h ⊢
  by_cases hb : (extractRequested lib 1 0 ⟨.rb, image, pos⟩ (DsfHeader.ofBytes image).bootOffset
      (DsfHeader.ofBytes image).bootSize bootOutput).succeeds = true
  swap
  · rw [if_pos (by simpa using hb)] at h
    exact absurd h hfails
  obtain ⟨pos', hfile, hboot⟩ := extractRequested_run hb
  rw [if_neg (by simpa using hb)] at h ⊢
  rw [hfile] at h ⊢
  by_cases hk : (extractRequested lib 3 1 ⟨.rb, image, pos'⟩ (DsfHeader.ofBytes image).kernelOffset
      (DsfHeader.ofBytes image).kernelSize kernelOutput).succeeds = true
  swap
  · rw [if_pos (by simpa using hk)] at h
    exact absurd h hfails
  obtain ⟨-, -, hkernel⟩ := extractRequested_run hk
  rw [if_neg (by simpa using hk)]
  exact ⟨hboot, hkernel⟩

/-- Whether a run succeeds does not depend on what the heap holds. -/
theorem extractDsfImage_status_congr (hs : lib.SameButHeap lib') :
    (extractDsfImage lib' (some image) bootOutput kernelOutput).status =
      (extractDsfImage lib (some image) bootOutput kernelOutput).status := by
  simp only [extractDsfImage, File.fread_congr hs, (extractRequested_congr hs _).1,
    (extractRequested_congr hs _).2]
  split_ifs <;> rfl

/-- Each requested output is the announced slice, and the region lies inside
the image. -/
structure Slices (image : List UInt8) (bootOutput kernelOutput : Option String) (r : Extracted) :
    Prop where
  boot : Requested bootOutput → (DsfHeader.ofBytes image).bootRegion.Inside image.length ∧
    r.boot = some (slice image (DsfHeader.ofBytes image).bootRegion)
  kernel : Requested kernelOutput → (DsfHeader.ofBytes image).kernelRegion.Inside image.length ∧
    r.kernel = some (slice image (DsfHeader.ofBytes image).kernelRegion)

/-- Whatever the heap holds, the run leaves slices. -/
def SlicesAlways (lib : Libc) (image : List UInt8) (bootOutput kernelOutput : Option String) : Prop :=
  ∀ lib', lib.SameButHeap lib' →
    Slices image bootOutput kernelOutput (extractDsfImage lib' (some image) bootOutput kernelOutput)

/-- The run leaves the same files whatever the heap holds. -/
def HeapFree (lib : Libc) (image : List UInt8) (bootOutput kernelOutput : Option String) : Prop :=
  ∀ lib', lib.SameButHeap lib' → extractDsfImage lib' (some image) bootOutput kernelOutput =
    extractDsfImage lib (some image) bootOutput kernelOutput

theorem SlicesAlways.delivered (h : (extractDsfImage lib (some image) bootOutput kernelOutput).status = 0)
    (hs : SlicesAlways lib image bootOutput kernelOutput) :
    (Requested bootOutput → Delivered lib 1 image (DsfHeader.ofBytes image).bootRegion) ∧
      (Requested kernelOutput → Delivered lib 3 image (DsfHeader.ofBytes image).kernelRegion) := by
  obtain ⟨hboot, hkernel⟩ := extractDsfImage_run h
  obtain ⟨hboot', hkernel'⟩ := extractDsfImage_run
    ((extractDsfImage_status_congr (.flipped lib)).trans h)
  have hslices := hs lib (.refl lib)
  have hslices' := hs lib.flipped (.flipped lib)
  constructor
  · intro hr
    obtain ⟨hi, ho⟩ := hslices.boot hr
    exact hboot.delivered_of_slices hboot' hr hi ho (hslices'.boot hr).2
  · intro hr
    obtain ⟨hi, ho⟩ := hslices.kernel hr
    exact hkernel.delivered_of_slices hkernel' hr hi ho (hslices'.kernel hr).2

theorem SlicesAlways.of_delivered
    (h : (extractDsfImage lib (some image) bootOutput kernelOutput).status = 0)
    (hb : Requested bootOutput → Delivered lib 1 image (DsfHeader.ofBytes image).bootRegion)
    (hk : Requested kernelOutput → Delivered lib 3 image (DsfHeader.ofBytes image).kernelRegion) :
    SlicesAlways lib image bootOutput kernelOutput := by
  intro lib' hs
  obtain ⟨hboot, hkernel⟩ := extractDsfImage_run ((extractDsfImage_status_congr hs).trans h)
  constructor
  · intro hr
    exact ⟨(hb hr).inside, hboot.eq_slice hr ((hb hr).congr hs)⟩
  · intro hr
    exact ⟨(hk hr).inside, hkernel.eq_slice hr ((hk hr).congr hs)⟩

theorem HeapFree.written_le (h : (extractDsfImage lib (some image) bootOutput kernelOutput).status = 0)
    (hf : HeapFree lib image bootOutput kernelOutput) :
    (Requested bootOutput → WritesRead lib 1 image (DsfHeader.ofBytes image).bootRegion) ∧
      (Requested kernelOutput → WritesRead lib 3 image (DsfHeader.ofBytes image).kernelRegion) := by
  obtain ⟨hboot, hkernel⟩ := extractDsfImage_run h
  obtain ⟨hboot', hkernel'⟩ := extractDsfImage_run
    ((extractDsfImage_status_congr (.flipped lib)).trans h)
  rw [hf lib.flipped (.flipped lib)] at hboot' hkernel'
  exact ⟨hboot.writesRead hboot', hkernel.writesRead hkernel'⟩

theorem HeapFree.of_written_le
    (h : (extractDsfImage lib (some image) bootOutput kernelOutput).status = 0)
    (hb : Requested bootOutput → WritesRead lib 1 image (DsfHeader.ofBytes image).bootRegion)
    (hk : Requested kernelOutput → WritesRead lib 3 image (DsfHeader.ofBytes image).kernelRegion) :
    HeapFree lib image bootOutput kernelOutput := by
  intro lib' hs
  have hstatus : (extractDsfImage lib' (some image) bootOutput kernelOutput).status =
      (extractDsfImage lib (some image) bootOutput kernelOutput).status :=
    extractDsfImage_status_congr hs
  obtain ⟨hboot, hkernel⟩ := extractDsfImage_run h
  obtain ⟨hboot', hkernel'⟩ := extractDsfImage_run (hstatus.trans h)
  exact Extracted.ext hstatus (hboot.eq_of_writesRead hs hboot' hb)
    (hkernel.eq_of_writesRead hs hkernel' hk)

end Run

/-- **When a successful extraction leaves the announced slices.** Of an input
and the outcomes of the calls of a run that returns 0: whatever the heap holds,
each requested output is the announced slice and lies inside the input, if and
only if each requested region lies inside the input and is read and written
completely. And no byte of the heap shows in an output, if and only if no
requested part is written further than it was read. -/
theorem extracted_slices_iff {lib : Libc} {image : List UInt8}
    {bootOutput kernelOutput : Option String}
    (h : (extractDsfImage lib (some image) bootOutput kernelOutput).status = 0) :
    (SlicesAlways lib image bootOutput kernelOutput ↔
      (Requested bootOutput → Delivered lib 1 image (DsfHeader.ofBytes image).bootRegion) ∧
      (Requested kernelOutput → Delivered lib 3 image (DsfHeader.ofBytes image).kernelRegion)) ∧
    (HeapFree lib image bootOutput kernelOutput ↔
      (Requested bootOutput → WritesRead lib 1 image (DsfHeader.ofBytes image).bootRegion) ∧
      (Requested kernelOutput → WritesRead lib 3 image (DsfHeader.ofBytes image).kernelRegion)) :=
  ⟨⟨fun hs => hs.delivered h, fun hd => .of_delivered h hd.1 hd.2⟩,
    ⟨fun hf => hf.written_le h, fun hw => .of_written_le h hw.1 hw.2⟩⟩

theorem craftedImage_length (bootOffset bootSize kernelOffset kernelSize : UInt32) :
    (craftedImage bootOffset bootSize kernelOffset kernelSize).length = 43 := by
  rw [craftedImage, List.length_append, DsfHeader.toBytes_length, List.length_replicate]
  rfl

theorem extract_craftedImage (bootOffset bootSize kernelOffset kernelSize : UInt32) :
    (extractDsfImage .zeroed (some (craftedImage bootOffset bootSize kernelOffset kernelSize))
      (some "boot.bin") (some "kernel.elf")).status = 0 := by
  have hb : "boot.bin" ≠ "" := by decide
  have hk : "kernel.elf" ≠ "" := by decide
  have hh : dsfHeaderSize ≤ (craftedImage bootOffset bootSize kernelOffset kernelSize).length := by
    rw [craftedImage_length]
    decide
  obtain ⟨boot, kernel, he, -⟩ := extractDsfImage_spec Libc.zeroed_works hb hk rfl rfl hh
  rw [he]

/-- Two regions behind the header. -/
theorem extracted_slices_iff_inside :
    SlicesAlways .zeroed (craftedImage 32 1 33 10) (some "boot.bin") (some "kernel.elf") := by
  have hc : Libc.zeroed.Complete := Libc.zeroed_works.complete
  refine (extracted_slices_iff (extract_craftedImage 32 1 33 10)).1.mpr
    ⟨fun _ => (delivered_iff_inside hc).mpr ?_, fun _ => (delivered_iff_inside hc).mpr ?_⟩
  · rw [craftedImage_length, craftedImage, DsfHeader.ofBytes_toBytes]
    exact Span.inside_of_le _ (by decide)
  · rw [craftedImage_length, craftedImage, DsfHeader.ofBytes_toBytes]
    exact Span.inside_of_le _ (by decide)

/-- A boot sector of one byte, announced where the image ends: the byte that
comes out is the heap's. -/
theorem extracted_behind_end :
    ¬ ∀ lib : Libc, lib.Works → ∀ (image : List UInt8) (bootOutput kernelOutput : Option String),
      (extractDsfImage lib (some image) bootOutput kernelOutput).status = 0 →
      Slices image bootOutput kernelOutput
        (extractDsfImage lib (some image) bootOutput kernelOutput) := by
  intro h
  have hslices := h .zeroed Libc.zeroed_works _ _ _ (extract_craftedImage 43 1 32 0)
  obtain ⟨hinside, -⟩ := hslices.boot ⟨_, rfl, by decide⟩
  rw [craftedImage_length, craftedImage, DsfHeader.ofBytes_toBytes,
    Span.inside_iff _ (by decide)] at hinside
  exact absurd hinside (by decide)

end Dos25
