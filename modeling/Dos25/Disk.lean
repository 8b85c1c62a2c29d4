/-
# `dos25-disk.c`: the disk image tool

The 32-byte header, `calculate_checksum`, and the three operations
`create_dsf_image`, `verify_dsf_image` and `extract_dsf_image` over streams.
The files of one run are different files, given by their bytes (`none` if
they cannot be opened); what the tool prints is left out. The one access that
can leave its block, the checksum's, is an `Overrun`.

Key definitions: `DsfHeader`, `calculateChecksum`, `createDsfImage`,
`verifyDsfImage`, `extractDsfImage`.
-/
import Dos25.Lib.Bytes
import Dos25.Lib.ShiftXor
import Dos25.Lib.Stdio
import Mathlib.Data.Fin.VecNotation
import Mathlib.Data.List.GetD

namespace Dos25

open Stdio

/-- `struct dsf_header`, 32 bytes. -/
@[ext]
structure DsfHeader where
  signature : Fin 4 → UInt8
  version : UInt32
  totalSize : UInt32
  bootOffset : UInt32
  bootSize : UInt32
  kernelOffset : UInt32
  kernelSize : UInt32
  checksum : UInt32

/-- `sizeof(struct dsf_header)`. -/
def dsfHeaderSize : ℕ := 32

/-- A `uint32_t` in memory. -/
def u32Bytes (x : UInt32) : List UInt8 := Bytes.encode 4 x.toNat

def DsfHeader.toBytes (h : DsfHeader) : List UInt8 :=
  List.ofFn h.signature ++ u32Bytes h.version ++ u32Bytes h.totalSize ++ u32Bytes h.bootOffset ++
    u32Bytes h.bootSize ++ u32Bytes h.kernelOffset ++ u32Bytes h.kernelSize ++ u32Bytes h.checksum

/-- The `uint32_t` at byte `off`. -/
def u32At (bytes : List UInt8) (off : ℕ) : UInt32 :=
  UInt32.ofNat (Bytes.decode ((bytes.drop off).take 4))

/-- The header that the first 32 bytes hold. -/
def DsfHeader.ofBytes (bytes : List UInt8) : DsfHeader where
  signature i := bytes.getD i 0
  version := u32At bytes 4
  totalSize := u32At bytes 8
  bootOffset := u32At bytes 12
  bootSize := u32At bytes 16
  kernelOffset := u32At bytes 20
  kernelSize := u32At bytes 24
  checksum := u32At bytes 28

def calculateChecksum (data : List UInt8) : UInt32 :=
  data.foldl (fun sum byte => (sum <<< 3) ^^^ byte.toUInt32) 0

/-- A read of `len` bytes from byte 4 on leaves its block. -/
structure Overrun where
  len : ℕ
  block : ℕ

/-- `calculate_checksum(file_data + sizeof(uint32_t), total_size - sizeof(uint32_t))`,
the difference a `size_t`. -/
def checksumBehindSignature (fileData : List UInt8) (totalSize : UInt32) : Except Overrun UInt32 :=
  let len := (totalSize.toUInt64 - 4).toNat
  if 4 + len ≤ fileData.length then .ok (calculateChecksum ((fileData.drop 4).take len))
  else .error ⟨len, fileData.length⟩

/-! ### Creating an image -/

/-- The loop that copies `src` behind `dst` in pieces of 4096 bytes; the next
transfer is number `call`. -/
def copyLoop (lib : Libc) (call : ℕ) (src dst : File) : ℕ × File × File :=
  if 0 < (src.fread lib call 4096).1.length then
    copyLoop lib (call + 2) (src.fread lib call 4096).2
      (dst.fwrite lib (call + 1) (src.fread lib call 4096).1)
  else (call + 1, (src.fread lib call 4096).2, dst)
termination_by src.left
decreasing_by exact File.fread_left_lt (by assumption)

/-- The result of `create_dsf_image` and the file it leaves. -/
structure Created where
  status : Int
  output : Option (List UInt8)
  deriving DecidableEq, Repr

/-- The header before its checksum is known; the sizes are where the streams
end. -/
def newHeader (bootFile kernelFile : File) : DsfHeader :=
  let header : DsfHeader := {
    signature := ![68, 83, 70, 0]
    version := 1
    totalSize := 0
    bootOffset := UInt32.ofNat dsfHeaderSize
    bootSize := 0
    kernelOffset := UInt32.ofNat (dsfHeaderSize + 512)
    kernelSize := 0
    checksum := 0 }
  let header := { header with bootSize := UInt32.ofNat bootFile.seekEnd.ftell }
  let header := { header with kernelSize := UInt32.ofNat kernelFile.seekEnd.ftell }
  { header with
    totalSize := UInt32.ofNat (dsfHeaderSize + header.bootSize.toNat + header.kernelSize.toNat) }

/-- Writes the header, the boot sector and the kernel. -/
def writeParts (lib : Libc) (header : DsfHeader) (bootFile kernelFile dsfFile : File) : ℕ × File :=
  let dsfFile := dsfFile.fwrite lib 0 header.toBytes
  let (call, _, dsfFile) := copyLoop lib 1 bootFile dsfFile
  let (call, _, dsfFile) := copyLoop lib call kernelFile dsfFile
  (call, dsfFile)

/-- Reads the file back for its checksum and rewrites the header with it. -/
def storeChecksum (lib : Libc) (call : ℕ) (header : DsfHeader) (dsfFile : File) :
    Except Overrun Created :=
  let dsfFile := dsfFile.seekSet 0
  match lib.malloc 0 header.totalSize.toNat with
  | none => .ok ⟨-1, some dsfFile.bytes⟩
  | some block => do
    let (got, dsfFile) := dsfFile.fread lib call header.totalSize.toNat
    let checksum ← checksumBehindSignature (got ++ block.drop got.length) header.totalSize
    let header := { header with checksum := checksum }
    let dsfFile := (dsfFile.seekSet 0).fwrite lib (call + 1) header.toBytes
    .ok ⟨0, some dsfFile.bytes⟩

/-- The output is neither of the files read. -/
def createDsfImage (lib : Libc) (outputPath : String) (bootBin kernelBin : Option (List UInt8)) :
    Except Overrun Created :=
  match bootBin, kernelBin with
  | some boot, some kernel =>
    let bootFile := File.openRead boot
    let kernelFile := File.openRead kernel
    let header := newHeader bootFile kernelFile
    if lib.canCreate outputPath then
      let (call, dsfFile) := writeParts lib header (bootFile.seekSet 0) (kernelFile.seekSet 0) .create
      storeChecksum lib call header dsfFile
    else .ok ⟨-1, none⟩
  | _, _ => .ok ⟨-1, none⟩

/-! ### Verifying an image -/

/-- `memcmp(header.signature, "DSF", 3) == 0`. -/
def DsfHeader.signed (h : DsfHeader) : Bool :=
  h.signature 0 == 68 && h.signature 1 == 83 && h.signature 2 == 70

def verifyDsfImage (lib : Libc) (dsf : Option (List UInt8)) : Except Overrun Int :=
  match dsf with
  | none => .ok (-1)
  | some bytes =>
    let file := File.openRead bytes
    let (got, file) := file.fread lib 0 dsfHeaderSize
    if got.length ≠ dsfHeaderSize then .ok (-1)
    else
      let header := DsfHeader.ofBytes got
      if !header.signed then .ok (-1)
      else
        let file := file.seekEnd
        if file.ftell ≠ header.totalSize.toNat then .ok (-1)
        else
          let file := file.seekSet 0
          match lib.malloc 0 header.totalSize.toNat with
          | none => .ok (-1)
          | some block => do
            let (got, _) := file.fread lib 1 header.totalSize.toNat
            let fileData := got ++ block.drop got.length
            let calculated ← checksumBehindSignature fileData header.totalSize
            if calculated ≠ header.checksum then .ok (-1) else .ok 0

/-! ### Extracting the parts -/

/-- One part's turn: whether it succeeds, the file it leaves, and the image's
stream afterwards. -/
structure Extraction where
  succeeds : Bool
  output : Option (List UInt8)
  dsfFile : File

/-- The body of both extraction branches; the allocation is number `i`. -/
def extractPart (lib : Libc) (call i : ℕ) (dsfFile : File) (offset size : UInt32)
    (output : String) : Extraction :=
  if lib.canCreate output then
    let outFile := File.create
    let dsfFile := dsfFile.seekSet offset.toNat
    match lib.malloc i size.toNat with
    | none => ⟨false, some outFile.bytes, dsfFile⟩
    | some block =>
      let (got, dsfFile) := dsfFile.fread lib call size.toNat
      let outFile := outFile.fwrite lib (call + 1) (got ++ block.drop got.length)
      ⟨true, some outFile.bytes, dsfFile⟩
  else ⟨false, none, dsfFile⟩

/-- A part is extracted if its path is given and not empty. -/
def extractRequested (lib : Libc) (call i : ℕ) (dsfFile : File) (offset size : UInt32)
    (output : Option String) : Extraction :=
  match output with
  | none => ⟨true, none, dsfFile⟩
  | some path =>
    if path ≠ "" then extractPart lib call i dsfFile offset size path else ⟨true, none, dsfFile⟩

/-- The result of `extract_dsf_image` and the files it leaves. -/
@[ext]
structure Extracted where
  status : Int
  boot : Option (List UInt8)
  kernel : Option (List UInt8)
  deriving DecidableEq, Repr

/-- The outputs are two files, and neither is the image. -/
def extractDsfImage (lib : Libc) (dsf : Option (List UInt8))
    (bootOutput kernelOutput : Option String) : Extracted :=
  match dsf with
  | none => ⟨-1, none, none⟩
  | some bytes =>
    let dsfFile := File.openRead bytes
    let (got, dsfFile) := dsfFile.fread lib 0 dsfHeaderSize
    if got.length ≠ dsfHeaderSize then ⟨-1, none, none⟩
    else
      let header := DsfHeader.ofBytes got
      let boot := extractRequested lib 1 0 dsfFile header.bootOffset header.bootSize bootOutput
      if !boot.succeeds then ⟨-1, boot.output, none⟩
      else
        let kernel := extractRequested lib 3 1 boot.dsfFile header.kernelOffset header.kernelSize
          kernelOutput
        if !kernel.succeeds then ⟨-1, boot.output, kernel.output⟩
        else ⟨0, boot.output, kernel.output⟩

/-! ### Header and checksum -/

@[simp] theorem u32Bytes_length (x : UInt32) : (u32Bytes x).length = 4 := Bytes.encode_length 4 _

@[simp] theorem DsfHeader.toBytes_length (h : DsfHeader) : h.toBytes.length = dsfHeaderSize := by
  simp [toBytes, dsfHeaderSize]

theorem u32At_skip {pre : List UInt8} (h : pre.length = 4) (post : List UInt8) (off : ℕ) :
    u32At (pre ++ post) (4 + off) = u32At post off := by
  have hd : (pre ++ post).drop (4 + off) = post.drop off := by
    rw [← h, List.drop_length_add_append]
  unfold u32At
  rw [hd]

theorem u32At_u32Bytes (x : UInt32) (post : List UInt8) : u32At (u32Bytes x ++ post) 0 = x := by
  unfold u32At
  rw [List.drop_zero, List.take_left' (u32Bytes_length x), u32Bytes,
    Bytes.decode_encode x.toNat_lt]
  exact UInt32.ofNat_toNat

/-- Word number `i` of a row of words. -/
theorem u32At_words (rest : List UInt8) {x : UInt32} : ∀ (words : List UInt32) (i : ℕ),
    words[i]? = some x → u32At (words.flatMap u32Bytes ++ rest) (4 * i) = x
  | [], _, h => by simp at h
  | y :: words, 0, h => by
    obtain rfl : y = x := Option.some.inj h
    rw [List.flatMap_cons, List.append_assoc]
    exact u32At_u32Bytes y _
  | y :: words, i + 1, h => by
    have ih := u32At_words rest words i h
    rw [List.flatMap_cons, List.append_assoc, Nat.mul_succ, Nat.add_comm,
      u32At_skip (u32Bytes_length y), ih]

/-- A header comes back from its bytes. -/
theorem DsfHeader.ofBytes_toBytes (h : DsfHeader) (rest : List UInt8) :
    ofBytes (h.toBytes ++ rest) = h := by
  have hs : (List.ofFn h.signature).length = 4 := List.length_ofFn
  have hbytes : h.toBytes ++ rest = List.ofFn h.signature ++ ([h.version, h.totalSize, h.bootOffset,
      h.bootSize, h.kernelOffset, h.kernelSize, h.checksum].flatMap u32Bytes ++ rest) := by
    simp only [toBytes, List.flatMap_cons, List.flatMap_nil, List.append_assoc, List.nil_append]
  have hword : ∀ {i : ℕ} {x : UInt32}, [h.version, h.totalSize, h.bootOffset, h.bootSize,
      h.kernelOffset, h.kernelSize, h.checksum][i]? = some x →
      u32At (h.toBytes ++ rest) (4 + 4 * i) = x := by
    intro i x hx
    rw [hbytes, u32At_skip hs]
    exact u32At_words rest _ i hx
  ext1
  · funext i
    have hi : (i : ℕ) < (List.ofFn h.signature).length := hs.symm ▸ i.isLt
    show (h.toBytes ++ rest).getD i 0 = h.signature i
    rw [hbytes, List.getD_append _ _ _ _ hi, List.getD_eq_getElem _ _ hi, List.getElem_ofFn]
  · exact hword (i := 0) rfl
  · exact hword (i := 1) rfl
  · exact hword (i := 2) rfl
  · exact hword (i := 3) rfl
  · exact hword (i := 4) rfl
  · exact hword (i := 5) rfl
  · exact hword (i := 6) rfl

/-- The header is in the first 32 bytes. -/
theorem DsfHeader.ofBytes_take (bytes : List UInt8) :
    ofBytes (bytes.take dsfHeaderSize) = ofBytes bytes := by
  have hat : ∀ off, off ≤ 28 → u32At (bytes.take dsfHeaderSize) off = u32At bytes off := by
    intro off h
    have hroom : 4 ≤ dsfHeaderSize - off := by
      unfold dsfHeaderSize
      omega
    unfold u32At
    rw [List.drop_take, List.take_take, Nat.min_eq_left hroom]
  ext1
  · funext i
    have hi : (i : ℕ) < dsfHeaderSize := i.isLt.trans (by decide)
    simp [ofBytes, List.getD_eq_getElem?_getD, List.getElem?_take, hi]
  all_goals exact hat _ (by decide)

/-- The last `n` bytes. -/
def lastBytes (n : ℕ) (bytes : List UInt8) : List UInt8 := bytes.drop (bytes.length - n)

/-- The checksum is a shift-and-xor sum. -/
theorem calculateChecksum_toBitVec (data : List UInt8) :
    (calculateChecksum data).toBitVec =
      ShiftXor.fold 3 0#32 (data.map fun byte => byte.toUInt32.toBitVec) := by
  have hfrom : ∀ s : UInt32,
      (data.foldl (fun (sum : UInt32) byte => (sum <<< 3) ^^^ byte.toUInt32) s).toBitVec =
        ShiftXor.fold 3 s.toBitVec (data.map fun byte => byte.toUInt32.toBitVec) := by
    induction data with
    | nil => exact fun _ => rfl
    | cons byte data ih => exact fun s => ih _
  exact hfrom 0

/-- The checksum depends on the last 11 bytes only: 33 bits are shifted
through by then. -/
theorem calculateChecksum_lastBytes {data : List UInt8} (h : 11 ≤ data.length) :
    calculateChecksum (lastBytes 11 data) = calculateChecksum data := by
  apply UInt32.toBitVec_inj.mp
  rw [calculateChecksum_toBitVec, calculateChecksum_toBitVec, lastBytes, List.map_drop]
  refine (ShiftXor.fold_drop 3 _ ?_).symm
  rw [List.length_map]
  omega

theorem checksumBehindSignature_eq {fileData : List UInt8} {totalSize : UInt32}
    (h : fileData.length = totalSize.toNat) (h4 : 4 ≤ totalSize.toNat) :
    checksumBehindSignature fileData totalSize = .ok (calculateChecksum (fileData.drop 4)) := by
  have hlen : (totalSize.toUInt64 - 4).toNat = totalSize.toNat - 4 := by
    rw [UInt64.toNat_sub_of_le _ _ (UInt64.le_iff_toNat_le.mpr (by simpa using h4)),
      UInt32.toNat_toUInt64]
    rfl
  unfold checksumBehindSignature
  rw [hlen, if_pos (by omega), List.take_of_length_le]
  rw [List.length_drop]
  omega

end Dos25
