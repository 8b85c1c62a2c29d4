/-
# What the disk image tool writes, accepts and extracts

In an environment that works, `create_dsf_image` writes header, boot file and
kernel file one behind the other (`createDsfImage_spec`), `verify_dsf_image`
accepts by signature, length and checksum (`verifyDsfImage_iff`), and
`extract_dsf_image` reads whatever the header announces
(`extractDsfImage_spec`).

Key definitions: `createdImage`, `Accepted`, `DsfHeader.bootRegion`,
`DsfHeader.kernelRegion`.
-/
import Dos25.Disk
import Dos25.Lib.Span

namespace Dos25

open Stdio

variable {lib : Libc}

/-! ### Creating -/

/-- From transfer number `call` on, `left` bytes are copied completely: each
read delivers something, each write takes all of it, and transfer number
`call'` is the next one. -/
inductive Copies (lib : Libc) : ℕ → ℕ → ℕ → Prop
  | done (call : ℕ) : Copies lib call 0 (call + 1)
  | step {call left call' : ℕ} : 0 < lib.transfer call (min 4096 left) →
      lib.transfer (call + 1) (lib.transfer call (min 4096 left)) =
        lib.transfer call (min 4096 left) →
      Copies lib (call + 2) (left - lib.transfer call (min 4096 left)) call' →
      Copies lib call left call'

theorem Copies.of_complete (hc : lib.Complete) (left call : ℕ) :
    ∃ call', Copies lib call left call' := by
  rcases Nat.eq_zero_or_pos left with rfl | hpos
  · exact ⟨_, .done call⟩
  · have hread : lib.transfer call (min 4096 left) = min 4096 left := hc _ _
    obtain ⟨call', h⟩ := Copies.of_complete hc (left - min 4096 left) (call + 2)
    refine ⟨call', .step ?_ ?_ ?_⟩
    · rw [hread]
      omega
    · rw [hread]
      exact hc _ _
    · rwa [hread]
termination_by left

/-- One round of a complete copy. -/
theorem Copies.cases {call left call' : ℕ} (h : Copies lib call left call') :
    (left = 0 ∧ call' = call + 1) ∨
      (0 < lib.transfer call (min 4096 left) ∧
        lib.transfer (call + 1) (lib.transfer call (min 4096 left)) =
          lib.transfer call (min 4096 left) ∧
        Copies lib (call + 2) (left - lib.transfer call (min 4096 left)) call') := by
  cases h with
  | done => exact .inl ⟨rfl, rfl⟩
  | step hpos hfull hrest => exact .inr ⟨hpos, hfull, hrest⟩

/-- What the copy loop appends, with `rest` left of the source: at most that
many bytes, and all of them exactly if the copy is complete. -/
structure Copied (lib : Libc) (call : ℕ) (rest : List UInt8) (call' : ℕ) (w : List UInt8) :
    Prop where
  length_le : w.length ≤ rest.length
  complete : w.length = rest.length → Copies lib call rest.length call'
  all : ∀ c, Copies lib call rest.length c → c = call' ∧ w = rest

/-- The read of nothing ends the loop. -/
theorem Copied.stop {call : ℕ} {rest : List UInt8} (h : lib.transfer call (min 4096 rest.length) = 0) :
    Copied lib call rest (call + 1) [] where
  length_le := Nat.zero_le _
  complete hlen := by
    rw [← hlen]
    exact .done call
  all c hcopies := by
    rcases hcopies.cases with ⟨hlen, rfl⟩ | ⟨hpos, -, -⟩
    · exact ⟨rfl, (List.length_eq_zero_iff.mp hlen).symm⟩
    · omega

/-- A round that reads `n` bytes and writes `m` of them goes before the others. -/
theorem Copied.round {call call' n m : ℕ} {rest w : List UInt8}
    (hn : lib.transfer call (min 4096 rest.length) = n) (hm : lib.transfer (call + 1) n = m)
    (hpos : 0 < n) (h : Copied lib (call + 2) (rest.drop n) call' w) :
    Copied lib call rest call' (rest.take m ++ w) := by
  have hle : n ≤ rest.length := hn ▸ Nat.le_trans (lib.transfer_le _ _) (Nat.min_le_right _ _)
  have hmn : m ≤ n := hm ▸ lib.transfer_le _ _
  have hput : (rest.take m).length = m := by
    rw [List.length_take]
    omega
  have hdrop : (rest.drop n).length = rest.length - n := List.length_drop
  have hwle := h.length_le
  rw [hdrop] at hwle
  refine ⟨?_, fun hlen => ?_, fun c hcopies => ?_⟩
  · rw [List.length_append, hput]
    omega
  · rw [List.length_append, hput] at hlen
    have hfull : m = n := by omega
    have hcopies := h.complete (by omega)
    rw [hdrop] at hcopies
    subst hn
    exact .step hpos (hm.trans hfull) hcopies
  · rcases hcopies.cases with ⟨hlen, -⟩ | ⟨-, hfull, hrest⟩
    · omega
    · rw [hn] at hfull hrest
      rw [← hdrop] at hrest
      obtain ⟨rfl, rfl⟩ := h.all c hrest
      refine ⟨rfl, ?_⟩
      rw [← hm, hfull, List.take_append_drop]

/-- **The copy loop**, whatever its transfers move. -/
theorem copyLoop_copied (lib : Libc) (call : ℕ) (bytes : List UInt8) (pos : ℕ) (out : List UInt8) :
    ∃ call' src' w, copyLoop lib call ⟨.rb, bytes, pos⟩ ⟨.wb, out, out.length⟩ =
        (call', src', ⟨.wb, out ++ w, (out ++ w).length⟩) ∧
      Copied lib call (bytes.drop pos) call' w := by
  have hleft : (⟨.rb, bytes, pos⟩ : File).left = (bytes.drop pos).length := List.length_drop.symm
  obtain ⟨n, hn⟩ : ∃ n, lib.transfer call (min 4096 (bytes.drop pos).length) = n := ⟨_, rfl⟩
  have hle : n ≤ (bytes.drop pos).length :=
    hn ▸ Nat.le_trans (lib.transfer_le _ _) (Nat.min_le_right _ _)
  have hread := File.fread_rb lib (f := ⟨.rb, bytes, pos⟩) rfl call 4096
  rw [hleft, hn] at hread
  have hgot : ((bytes.drop pos).take n).length = n := by
    rw [List.length_take]
    omega
  rw [copyLoop, hread]
  dsimp only
  rw [hgot]
  by_cases h : 0 < n
  · obtain ⟨m, hm⟩ : ∃ m, lib.transfer (call + 1) n = m := ⟨_, rfl⟩
    have hmn : m ≤ n := hm ▸ lib.transfer_le _ _
    have hwrite := File.fwrite_append lib (f := ⟨.wb, out, out.length⟩) rfl rfl (call + 1)
      ((bytes.drop pos).take n)
    have hput : (out ++ (bytes.drop pos).take m).length = out.length + m := by
      rw [List.length_append, List.length_take]
      omega
    rw [hgot, hm, List.take_take, Nat.min_eq_left hmn] at hwrite
    dsimp only at hwrite
    rw [← hput] at hwrite
    have hlt : bytes.length - (pos + n) < bytes.length - pos := by
      rw [List.length_drop] at hle
      omega
    obtain ⟨call', src', w, he, hw⟩ := copyLoop_copied lib (call + 2) bytes (pos + n)
      (out ++ (bytes.drop pos).take m)
    rw [if_pos h, hwrite, he]
    rw [← List.drop_drop] at hw
    exact ⟨call', src', (bytes.drop pos).take m ++ w, by rw [List.append_assoc], hw.round hn hm h⟩
  · obtain rfl : n = 0 := by omega
    rw [if_neg h]
    exact ⟨call + 1, _, [], by rw [List.append_nil], .stop hn⟩
termination_by bytes.length - pos

/-- A complete copy loop appends the source. -/
theorem Copied.eq_of_complete (hc : lib.Complete) {call call' : ℕ} {rest w : List UInt8}
    (h : Copied lib call rest call' w) : w = rest := by
  obtain ⟨c, hcopies⟩ := Copies.of_complete hc rest.length call
  exact (h.all c hcopies).2

/-- The header `create_dsf_image` writes for the files `b` and `k`. -/
def createdHeader (b k : List UInt8) (checksum : UInt32) : DsfHeader where
  signature := ![68, 83, 70, 0]
  version := 1
  totalSize := UInt32.ofNat (dsfHeaderSize + b.length + k.length)
  bootOffset := UInt32.ofNat dsfHeaderSize
  bootSize := UInt32.ofNat b.length
  kernelOffset := UInt32.ofNat (dsfHeaderSize + 512)
  kernelSize := UInt32.ofNat k.length
  checksum := checksum

/-- The image: header, boot file, kernel file. -/
def createdImage (b k : List UInt8) (checksum : UInt32) : List UInt8 :=
  (createdHeader b k checksum).toBytes ++ b ++ k

@[simp] theorem createdImage_length (b k : List UInt8) (checksum : UInt32) :
    (createdImage b k checksum).length = dsfHeaderSize + b.length + k.length := by
  simp [createdImage, Nat.add_assoc]

theorem createdImage_header (b k : List UInt8) (checksum : UInt32) :
    DsfHeader.ofBytes (createdImage b k checksum) = createdHeader b k checksum := by
  unfold createdImage
  rw [List.append_assoc, DsfHeader.ofBytes_toBytes]

/-- A length that fits in 32 bits. -/
theorem length_toNat {n : ℕ} (h : n < 2 ^ 32) : (UInt32.ofNat n).toNat = n :=
  UInt32.toNat_ofNat_of_lt' h

/-- The sum is the same modulo `2^32`, whether of the lengths or of the sizes. -/
theorem newHeader_eq (b k : List UInt8) :
    newHeader (.openRead b) (.openRead k) = createdHeader b k 0 := by
  have htotal : UInt32.ofNat (dsfHeaderSize + (UInt32.ofNat b.length).toNat +
      (UInt32.ofNat k.length).toNat) = UInt32.ofNat (dsfHeaderSize + b.length + k.length) := by
    simp only [UInt32.ofNat_add, UInt32.ofNat_toNat]
  simp only [newHeader, createdHeader, File.openRead, File.seekEnd, File.ftell, htotal]

/-- **What is written before the checksum**, whatever the transfers move. -/
theorem writeParts_run (lib : Libc) (header : DsfHeader) (b k : List UInt8) :
    ∃ call1 call2 boot kernel, Copied lib 1 b call1 boot ∧ Copied lib call1 k call2 kernel ∧
      writeParts lib header (.openRead b) (.openRead k) .create = (call2, ⟨.wb,
        header.toBytes.take (lib.transfer 0 dsfHeaderSize) ++ boot ++ kernel,
        (header.toBytes.take (lib.transfer 0 dsfHeaderSize) ++ boot ++ kernel).length⟩) := by
  have hput : (header.toBytes.take (lib.transfer 0 dsfHeaderSize)).length =
      lib.transfer 0 dsfHeaderSize := by
    rw [List.length_take, DsfHeader.toBytes_length]
    exact Nat.min_eq_left (lib.transfer_le _ _)
  have hhead := File.fwrite_append lib (f := .create) rfl rfl 0 header.toBytes
  rw [DsfHeader.toBytes_length, File.create, List.nil_append, List.length_nil, Nat.zero_add] at hhead
  obtain ⟨call1, bootFile, boot, h1, hboot⟩ := copyLoop_copied lib 1 b 0
    (header.toBytes.take (lib.transfer 0 dsfHeaderSize))
  obtain ⟨call2, kernelFile, kernel, h2, hkernel⟩ := copyLoop_copied lib call1 k 0
    (header.toBytes.take (lib.transfer 0 dsfHeaderSize) ++ boot)
  rw [hput] at h1
  refine ⟨call1, call2, boot, kernel, hboot, hkernel, ?_⟩
  unfold writeParts
  simp only [File.openRead, File.create, hhead, h1, h2]

/-- **The checksum's turn.** It is that of the allocated block, as the stream
is open for writing and delivers nothing. -/
theorem storeChecksum_run {block : List UInt8} {header : DsfHeader} (call : ℕ)
    (out : List UInt8) (pos : ℕ) (hm : lib.malloc 0 header.totalSize.toNat = some block) :
    storeChecksum lib call header ⟨.wb, out, pos⟩ =
      (checksumBehindSignature block header.totalSize).map fun checksum =>
        ⟨0, some ({ header with checksum := checksum }.toBytes.take
          (lib.transfer (call + 1) dsfHeaderSize) ++
            out.drop (lib.transfer (call + 1) dsfHeaderSize))⟩ := by
  simp only [storeChecksum, hm, File.seekSet, File.fread_wb (f := ⟨.wb, _, _⟩) rfl,
    List.length_nil, List.drop_zero, List.nil_append]
  cases checksumBehindSignature block header.totalSize with
  | error e => rfl
  | ok checksum =>
    simp only [bind, Except.bind, Except.map, File.fwrite_zero lib (f := ⟨.wb, _, 0⟩) rfl rfl,
      DsfHeader.toBytes_length]

/-- A run that can create its output and allocate its block. -/
theorem createDsfImage_run {outputPath : String} (hc : lib.canCreate outputPath = true)
    {b k block : List UInt8}
    (hm : lib.malloc 0 (createdHeader b k 0).totalSize.toNat = some block) :
    ∃ call1 call2 boot kernel, Copied lib 1 b call1 boot ∧ Copied lib call1 k call2 kernel ∧
      createDsfImage lib outputPath (some b) (some k) =
        (checksumBehindSignature block (createdHeader b k 0).totalSize).map fun checksum =>
          ⟨0, some ((createdHeader b k checksum).toBytes.take
            (lib.transfer (call2 + 1) dsfHeaderSize) ++
              ((createdHeader b k 0).toBytes.take (lib.transfer 0 dsfHeaderSize) ++ boot ++
                kernel).drop (lib.transfer (call2 + 1) dsfHeaderSize))⟩ := by
  obtain ⟨call1, call2, boot, kernel, hboot, hkernel, hparts⟩ :=
    writeParts_run lib (createdHeader b k 0) b k
  refine ⟨call1, call2, boot, kernel, hboot, hkernel, ?_⟩
  have hcreate : createDsfImage lib outputPath (some b) (some k) =
      storeChecksum lib (writeParts lib (createdHeader b k 0) (.openRead b) (.openRead k) .create).1
        (createdHeader b k 0)
        (writeParts lib (createdHeader b k 0) (.openRead b) (.openRead k) .create).2 := by
    simp only [createDsfImage, hc, if_true, newHeader_eq]
    rfl
  rw [hcreate, hparts, storeChecksum_run _ _ _ hm]
  rfl

/-- With complete transfers, the checksum is all that can go wrong. -/
theorem createDsfImage_complete (hall : lib.Complete) {outputPath : String}
    (hc : lib.canCreate outputPath = true) {b k block : List UInt8}
    (hm : lib.malloc 0 (createdHeader b k 0).totalSize.toNat = some block) :
    createDsfImage lib outputPath (some b) (some k) =
      (checksumBehindSignature block (createdHeader b k 0).totalSize).map fun checksum =>
        ⟨0, some (createdImage b k checksum)⟩ := by
  obtain ⟨call1, call2, boot, kernel, hboot, hkernel, he⟩ := createDsfImage_run hc hm
  have htake : ∀ c, (createdHeader b k c).toBytes.take dsfHeaderSize =
      (createdHeader b k c).toBytes := by
    intro c
    rw [← DsfHeader.toBytes_length (createdHeader b k c), List.take_length]
  have hdrop : ((createdHeader b k 0).toBytes ++ (b ++ k)).drop dsfHeaderSize = b ++ k :=
    List.drop_left' (DsfHeader.toBytes_length _)
  simp only [he, hboot.eq_of_complete hall, hkernel.eq_of_complete hall, hall 0, hall (call2 + 1),
    htake, hdrop, createdImage, List.append_assoc]

/-- **What `create_dsf_image` writes.** -/
theorem createDsfImage_spec (hw : lib.Works) {outputPath : String}
    (hc : lib.canCreate outputPath = true) {b k : List UInt8}
    (hsize : dsfHeaderSize + b.length + k.length < 2 ^ 32) :
    ∃ block, lib.malloc 0 (dsfHeaderSize + b.length + k.length) = some block ∧
      createDsfImage lib outputPath (some b) (some k) =
        .ok ⟨0, some (createdImage b k (calculateChecksum (block.drop 4)))⟩ := by
  have ht : (createdHeader b k 0).totalSize.toNat = dsfHeaderSize + b.length + k.length :=
    length_toNat hsize
  obtain ⟨block, hm⟩ := hw.malloc 0 (createdHeader b k 0).totalSize.toNat
  have h4 : 4 ≤ (createdHeader b k 0).totalSize.toNat := by
    rw [ht]
    unfold dsfHeaderSize
    omega
  refine ⟨block, ht ▸ hm, ?_⟩
  rw [createDsfImage_complete hw.complete hc hm,
    checksumBehindSignature_eq (lib.malloc_length hm) h4]
  rfl

/-! ### Verifying -/

/-- What `verify_dsf_image` accepts. -/
structure Accepted (image : List UInt8) : Prop where
  header : dsfHeaderSize ≤ image.length
  signed : (DsfHeader.ofBytes image).signed = true
  size : image.length = (DsfHeader.ofBytes image).totalSize.toNat
  checksum : calculateChecksum (image.drop 4) = (DsfHeader.ofBytes image).checksum

theorem rejected : ¬ (.ok (-1) : Except Overrun Int) = .ok 0 := by simp

/-- The first read of a file. -/
theorem fread_header (hc : lib.Complete) (image : List UInt8) :
    (File.openRead image).fread lib 0 dsfHeaderSize =
      (image.take dsfHeaderSize, ⟨.rb, image, (image.take dsfHeaderSize).length⟩) := by
  rw [File.fread_eq hc _ _ rfl]
  simp [File.openRead]

/-- **What `verify_dsf_image` answers.** Nothing else of the header is looked
at. -/
theorem verifyDsfImage_spec (hw : lib.Works) (image : List UInt8) :
    (Accepted image ∧ verifyDsfImage lib (some image) = .ok 0) ∨
      (¬ Accepted image ∧ verifyDsfImage lib (some image) = .ok (-1)) := by
  have hread := fread_header hw.complete image
  simp only [verifyDsfImage, hread, DsfHeader.ofBytes_take, File.seekEnd, File.ftell, File.seekSet]
  by_cases hh : dsfHeaderSize ≤ image.length
  swap
  · rw [if_pos (by rw [List.length_take]; omega)]
    exact .inr ⟨fun h => hh h.header, rfl⟩
  rw [if_neg (by rw [List.length_take]; omega)]
  by_cases hs : (DsfHeader.ofBytes image).signed = true
  swap
  · rw [if_pos (by simpa using hs)]
    exact .inr ⟨fun h => hs h.signed, rfl⟩
  rw [if_neg (by simpa using hs)]
  by_cases hz : image.length = (DsfHeader.ofBytes image).totalSize.toNat
  swap
  · rw [if_pos hz]
    exact .inr ⟨fun h => hz h.size, rfl⟩
  rw [if_neg (not_not.mpr hz)]
  obtain ⟨block, hm⟩ := hw.malloc 0 (DsfHeader.ofBytes image).totalSize.toNat
  have hfull : (⟨.rb, image, 0⟩ : File).fread lib 1 (DsfHeader.ofBytes image).totalSize.toNat =
      (image, ⟨.rb, image, image.length⟩) := by
    rw [File.fread_eq hw.complete _ _ rfl, ← hz]
    simp
  have hblock : image ++ block.drop image.length = image := by
    rw [List.drop_of_length_le (by rw [lib.malloc_length hm, hz]), List.append_nil]
  have h4 : 4 ≤ (DsfHeader.ofBytes image).totalSize.toNat := by
    rw [← hz]
    exact le_trans (by decide) hh
  simp only [hm, hfull, hblock, checksumBehindSignature_eq hz h4, bind, Except.bind]
  by_cases hc : calculateChecksum (image.drop 4) = (DsfHeader.ofBytes image).checksum
  · rw [if_neg (not_not.mpr hc)]
    exact .inl ⟨⟨hh, hs, hz, hc⟩, rfl⟩
  · rw [if_pos hc]
    exact .inr ⟨fun h => hc h.checksum, rfl⟩

theorem verifyDsfImage_iff (hw : lib.Works) (image : List UInt8) :
    verifyDsfImage lib (some image) = .ok 0 ↔ Accepted image := by
  rcases verifyDsfImage_spec hw image with ⟨ha, he⟩ | ⟨ha, he⟩
  · exact iff_of_true he ha
  · rw [he]
    exact iff_of_false rejected ha

theorem verifyDsfImage_rejects_iff (hw : lib.Works) (image : List UInt8) :
    verifyDsfImage lib (some image) = .ok (-1) ↔ ¬ Accepted image := by
  rcases verifyDsfImage_spec hw image with ⟨ha, he⟩ | ⟨ha, he⟩
  · rw [he]
    exact iff_of_false (by simp) (not_not.mpr ha)
  · exact iff_of_true he ha

/-- A created image carries the signature and its length; its checksum
decides. -/
theorem createdImage_accepted_iff {b k : List UInt8}
    (hsize : dsfHeaderSize + b.length + k.length < 2 ^ 32) (checksum : UInt32) :
    Accepted (createdImage b k checksum) ↔
      calculateChecksum ((createdImage b k checksum).drop 4) = checksum := by
  have hheader := createdImage_header b k checksum
  refine ⟨fun h => h.checksum.trans (by rw [hheader]; rfl), fun h => ⟨?_, ?_, ?_, ?_⟩⟩
  · rw [createdImage_length]
    omega
  · rw [hheader]
    rfl
  · rw [hheader, createdImage_length]
    exact (length_toNat hsize).symm
  · rw [hheader, h]
    rfl

/-! ### Extracting -/

/-- The bytes of a span, as far as there are any. -/
def slice (bytes : List UInt8) (s : Span) : List UInt8 := (bytes.drop s.start).take s.size

theorem slice_length_of_inside {bytes : List UInt8} {s : Span} (h : s.Inside bytes.length) :
    (slice bytes s).length = s.size := by
  unfold slice
  rw [List.length_take, List.length_drop]
  rcases Nat.eq_zero_or_pos s.size with h0 | h0
  · rw [h0, Nat.zero_min]
  · have := (s.inside_iff h0).mp h
    omega

/-- What the header announces as the boot sector and as the kernel. -/
def DsfHeader.bootRegion (h : DsfHeader) : Span := ⟨h.bootOffset.toNat, h.bootSize.toNat⟩

def DsfHeader.kernelRegion (h : DsfHeader) : Span := ⟨h.kernelOffset.toNat, h.kernelSize.toNat⟩

/-- `out` is what a part at `region` comes out as: as many bytes as announced,
the first of them the image's, the others whatever the block held. -/
structure PartOf (image : List UInt8) (region : Span) (out : List UInt8) : Prop where
  length : out.length = region.size
  starts : slice image region <+: out

theorem PartOf.eq_slice {image out : List UInt8} {region : Span} (h : PartOf image region out)
    (hi : region.Inside image.length) : out = slice image region :=
  (h.starts.eq_of_length ((slice_length_of_inside hi).trans h.length.symm)).symm

theorem extractPart_spec (hw : lib.Works) {path : String} (hc : lib.canCreate path = true)
    (call i : ℕ) (image : List UInt8) (pos : ℕ) (offset size : UInt32) :
    ∃ out pos', extractPart lib call i ⟨.rb, image, pos⟩ offset size path =
      ⟨true, some out, ⟨.rb, image, pos'⟩⟩ ∧ PartOf image ⟨offset.toNat, size.toNat⟩ out := by
  obtain ⟨block, hm⟩ := hw.malloc i size.toNat
  have hlen := lib.malloc_length hm
  have hread := File.fread_eq hw.complete call size.toNat (f := ⟨.rb, image, offset.toNat⟩) rfl
  simp only [extractPart, hc, if_true, File.seekSet, hm, hread,
    File.fwrite_end hw.complete (f := File.create) _ _ rfl rfl]
  refine ⟨_, _, rfl, ⟨?_, ?_⟩⟩
  · simp only [File.create, List.nil_append, List.length_append, List.length_drop, List.length_take,
      hlen]
    omega
  · exact List.prefix_append _ _

theorem extractRequested_spec (hw : lib.Works) {path : String} (hc : lib.canCreate path = true)
    (hp : path ≠ "") (call i : ℕ) (image : List UInt8) (pos : ℕ) (offset size : UInt32) :
    ∃ out pos', extractRequested lib call i ⟨.rb, image, pos⟩ offset size (some path) =
      ⟨true, some out, ⟨.rb, image, pos'⟩⟩ ∧ PartOf image ⟨offset.toNat, size.toNat⟩ out := by
  simp only [extractRequested, ne_eq, hp, not_false_eq_true, if_true]
  exact extractPart_spec hw hc call i image pos offset size

/-- **What `extract_dsf_image` writes** for an input that holds a header. -/
theorem extractDsfImage_spec (hw : lib.Works) {bootOutput kernelOutput : String}
    (hb : bootOutput ≠ "") (hk : kernelOutput ≠ "") (hcb : lib.canCreate bootOutput = true)
    (hck : lib.canCreate kernelOutput = true) {image : List UInt8}
    (hh : dsfHeaderSize ≤ image.length) :
    ∃ boot kernel, extractDsfImage lib (some image) (some bootOutput) (some kernelOutput) =
        ⟨0, some boot, some kernel⟩ ∧
      PartOf image (DsfHeader.ofBytes image).bootRegion boot ∧
      PartOf image (DsfHeader.ofBytes image).kernelRegion kernel := by
  have hread := fread_header hw.complete image
  obtain ⟨boot, pos1, h1, hboot⟩ := extractRequested_spec hw hcb hb 1 0 image
    (image.take dsfHeaderSize).length (DsfHeader.ofBytes image).bootOffset
    (DsfHeader.ofBytes image).bootSize
  obtain ⟨kernel, pos2, h2, hkernel⟩ := extractRequested_spec hw hck hk 3 1 image pos1
    (DsfHeader.ofBytes image).kernelOffset (DsfHeader.ofBytes image).kernelSize
  refine ⟨boot, kernel, ?_, hboot, hkernel⟩
  have hlen : (image.take dsfHeaderSize).length = dsfHeaderSize := by
    rw [List.length_take]
    omega
  simp only [extractDsfImage, hread, hlen, DsfHeader.ofBytes_take, ne_eq, not_true_eq_false, if_false]
  rw [hlen] at h1
  simp only [h1, h2, Bool.not_true, Bool.false_eq_true, if_false]

end Dos25
