/-
# More than one changed byte

The checksum of an image is linear. Another payload of the same length is
noticed exactly if the bytewise difference of the two payloads has a checksum
of its own (`payload_change_rejected_iff`), and two bytes that change places
exactly if the later of them counts (`exchanged_bytes_rejected_iff`). Of two
files of one length `verify_dsf_image` compares no more than signature,
`total_size`, stored checksum and the last 11 bytes: where these agree, so
does the verdict (`verdict_of_agree`).

Key definitions: `payload`, `difference`.
-/
import Dos25.ImageCorruption

namespace Dos25

open Stdio

/-- What is behind the header. -/
def payload (image : List UInt8) : List UInt8 := image.drop dsfHeaderSize

/-- Two files of one length, byte by byte. -/
def difference (a b : List UInt8) : List UInt8 := List.zipWith (· ^^^ ·) a b

/-! ### Linear checksums -/

theorem byteWord_of_xor (a b : UInt8) : byteWord (a ^^^ b) = byteWord a ^^^ byteWord b := by
  apply BitVec.eq_of_toNat_eq
  rw [BitVec.toNat_xor, byteWord_toNat, byteWord_toNat, byteWord_toNat, UInt8.toNat_xor]

theorem calculateChecksum_difference {a b : List UInt8} (h : a.length = b.length) :
    calculateChecksum (difference a b) = calculateChecksum a ^^^ calculateChecksum b := by
  have hmap : ∀ xs ys : List UInt8, (difference xs ys).map byteWord =
      List.zipWith (· ^^^ ·) (xs.map byteWord) (ys.map byteWord) := by
    intro xs ys
    unfold difference
    rw [List.map_zipWith, List.zipWith_map]
    simp only [byteWord_of_xor]
  have hlen : (a.map byteWord).length = (b.map byteWord).length := by simpa using h
  apply UInt32.toBitVec_inj.mp
  rw [UInt32.toBitVec_xor, calculateChecksum_toBitVec, calculateChecksum_toBitVec,
    calculateChecksum_toBitVec]
  have hsum := ShiftXor.fold_zipWith_xor 3 0#32 0#32 hlen
  rw [← hmap, BitVec.xor_self] at hsum
  exact hsum

/-- What comes first is shifted past the rest. -/
theorem calculateChecksum_append (a b : List UInt8) : (calculateChecksum (a ++ b)).toBitVec =
    ((calculateChecksum a).toBitVec <<< (3 * b.length)) ^^^ (calculateChecksum b).toBitVec := by
  rw [calculateChecksum_toBitVec, calculateChecksum_toBitVec, calculateChecksum_toBitVec,
    List.map_append, ShiftXor.fold_append, ShiftXor.fold_eq_xor, List.length_map]

/-- Behind the same bytes, two sums differ as the rest does. -/
theorem calculateChecksum_append_inj (head : List UInt8) {a b : List UInt8}
    (h : a.length = b.length) : calculateChecksum (head ++ a) = calculateChecksum (head ++ b) ↔
      calculateChecksum a = calculateChecksum b := by
  rw [← UInt32.toBitVec_inj, calculateChecksum_append, calculateChecksum_append, h,
    BitVec.xor_right_inj, UInt32.toBitVec_inj]

/-! ### The verdict -/

section

variable {image image' : List UInt8}

/-- What a verdict depends on. -/
theorem accepted_of_agree (hlen : image'.length = image.length)
    (hsigned : (DsfHeader.ofBytes image').signature = (DsfHeader.ofBytes image).signature)
    (htotal : u32At image' 8 = u32At image 8) (hstored : u32At image' 28 = u32At image 28)
    (hsum : calculateChecksum (image'.drop 4) = calculateChecksum (image.drop 4))
    (ha : Accepted image) : Accepted image' where
  header := hlen ▸ ha.header
  signed := by
    have hsame : (DsfHeader.ofBytes image').signed = (DsfHeader.ofBytes image).signed := by
      unfold DsfHeader.signed
      rw [hsigned]
    rw [hsame]
    exact ha.signed
  size := by
    have hsize : image.length = (u32At image 8).toNat := ha.size
    show image'.length = (u32At image' 8).toNat
    rw [hlen, htotal, hsize]
  checksum := by
    have hchecksum : calculateChecksum (image.drop 4) = u32At image 28 := ha.checksum
    show calculateChecksum (image'.drop 4) = u32At image' 28
    rw [hsum, hstored, hchecksum]

/-- With the header in place, the sum alone decides. -/
theorem accepted_header_iff (ha : Accepted image) (hlen : image'.length = image.length)
    (hhead : image'.take dsfHeaderSize = image.take dsfHeaderSize) :
    Accepted image' ↔ calculateChecksum (image'.drop 4) = calculateChecksum (image.drop 4) := by
  have hheader : DsfHeader.ofBytes image' = DsfHeader.ofBytes image := by
    rw [← DsfHeader.ofBytes_take, hhead, DsfHeader.ofBytes_take]
  constructor
  · intro ha'
    rw [ha.checksum, ha'.checksum, hheader]
  · intro hsum
    exact accepted_of_agree hlen (congrArg _ hheader) (congrArg DsfHeader.totalSize hheader)
      (congrArg DsfHeader.checksum hheader) hsum ha

/-- Of a file of some size, the sum is that of its last bytes. -/
theorem accepted_of_lastBytes (hlen : image'.length = image.length)
    (hsigned : (DsfHeader.ofBytes image').signature = (DsfHeader.ofBytes image).signature)
    (htotal : u32At image' 8 = u32At image 8) (hstored : u32At image' 28 = u32At image 28)
    (hlast : lastBytes 11 image' = lastBytes 11 image) (ha : Accepted image) :
    Accepted image' := by
  refine accepted_of_agree hlen hsigned htotal hstored ?_ ha
  rw [calculateChecksum_drop ha.header, calculateChecksum_drop (hlen ▸ ha.header), hlast]

end

/-- **What a verdict does not depend on.** Of two files of one length that
agree in signature, `total_size`, stored checksum and the last 11 bytes, both
are accepted or both are rejected. -/
theorem verdict_of_agree {lib lib' : Libc} (hw : lib.Works) (hw' : lib'.Works)
    {image image' : List UInt8} (hlen : image'.length = image.length)
    (hsigned : (DsfHeader.ofBytes image').signature = (DsfHeader.ofBytes image).signature)
    (htotal : u32At image' 8 = u32At image 8) (hstored : u32At image' 28 = u32At image 28)
    (hlast : lastBytes 11 image' = lastBytes 11 image) :
    verifyDsfImage lib' (some image') = verifyDsfImage lib (some image) := by
  rcases verifyDsfImage_spec hw image with ⟨ha, he⟩ | ⟨ha, he⟩
  · rw [he, verifyDsfImage_iff hw']
    exact accepted_of_lastBytes hlen hsigned htotal hstored hlast ha
  · rw [he, verifyDsfImage_rejects_iff hw']
    intro ha'
    exact ha (accepted_of_lastBytes hlen.symm hsigned.symm htotal.symm hstored.symm hlast.symm ha')

/-- The sizes and offsets of the two parts may be any. -/
theorem verdict_of_agree_regions :
    verifyDsfImage .zeroed (some (craftedImage 0 0xFFFFFFFF 7 9)) =
      verifyDsfImage .zeroed (some (craftedImage 32 0 32 0)) :=
  verdict_of_agree Libc.zeroed_works Libc.zeroed_works (by decide) (by decide) (by decide)
    (by decide) (by decide)

/-! ### Another payload -/

/-- An image whose payload ends in the bytes 1 and 2, with their checksum. -/
def endingImage : List UInt8 :=
  DsfHeader.toBytes ⟨![68, 83, 70, 0], 1, 43, 32, 0, 32, 11, 10⟩ ++ (List.replicate 9 0 ++ [1, 2])

theorem endingImage_accepted : verifyDsfImage .zeroed (some endingImage) = .ok 0 := by
  refine (verifyDsfImage_iff Libc.zeroed_works _).mpr ⟨by decide, by decide, by decide, ?_⟩
  rw [calculateChecksum_drop (by decide)]
  decide

/-- **When another payload is rejected.** The bytes behind the header of an
accepted image are exchanged for as many others: the image is rejected if and
only if the difference has a checksum other than zero. -/
theorem payload_change_rejected_iff {lib lib' : Libc} (hw : lib.Works) (hw' : lib'.Works)
    {image : List UInt8} (ha : verifyDsfImage lib (some image) = .ok 0) {bytes : List UInt8}
    (hlen : bytes.length = (payload image).length) :
    verifyDsfImage lib' (some (image.take dsfHeaderSize ++ bytes)) = .ok (-1) ↔
      calculateChecksum (difference (payload image) bytes) ≠ 0 := by
  have haccepted := (verifyDsfImage_iff hw image).mp ha
  have hhead : (image.take dsfHeaderSize).length = dsfHeaderSize :=
    List.length_take_of_le haccepted.header
  have hlen' : (image.take dsfHeaderSize ++ bytes).length = image.length := by
    rw [List.length_append, hlen, ← List.length_append]
    exact congrArg List.length (List.take_append_drop dsfHeaderSize image)
  have hdrop : ∀ rest, (image.take dsfHeaderSize ++ rest).drop 4 =
      (image.take dsfHeaderSize).drop 4 ++ rest :=
    fun rest => List.drop_append_of_le_length (by rw [hhead]; decide)
  have himage : image.drop 4 = (image.take dsfHeaderSize).drop 4 ++ payload image := by
    rw [← hdrop]
    exact congrArg (List.drop 4) (List.take_append_drop dsfHeaderSize image).symm
  rw [verifyDsfImage_rejects_iff hw', not_iff_not,
    accepted_header_iff haccepted hlen' (List.take_left' hhead), hdrop, himage,
    calculateChecksum_append_inj _ hlen, calculateChecksum_difference hlen.symm,
    UInt32.xor_eq_zero_iff, eq_comm]

/-- The bytes 0 and 10 in place of 1 and 2. -/
theorem payload_change_rejected_iff_unnoticed : verifyDsfImage .zeroed
    (some (endingImage.take dsfHeaderSize ++ (List.replicate 9 0 ++ [0, 10]))) ≠ .ok (-1) := by
  rw [Ne, payload_change_rejected_iff Libc.zeroed_works Libc.zeroed_works endingImage_accepted
    (by decide), not_not]
  decide

/-! ### Two bytes that change places -/

/-- The bytes at `p` and `q` in each other's place. -/
def exchanged (image : List UInt8) (p q : ℕ) : List UInt8 :=
  (image.set p (image.getD q 0)).set q (image.getD p 0)

/-- A difference that counts at the later place is not made up for at the
earlier one. -/
theorem shifted_twice_eq_zero_iff (e : BitVec 32) {m n : ℕ} (h : m < n) :
    (e <<< n) ^^^ (e <<< m) = 0#32 ↔ e <<< m = 0#32 := by
  obtain ⟨d, rfl⟩ := Nat.exists_eq_add_of_lt h
  rw [BitVec.xor_eq_zero_iff, Nat.add_assoc, BitVec.shiftLeft_add]
  exact ShiftXor.shiftLeft_eq_self_iff (Nat.succ_pos d)

section

variable {image : List UInt8} {p q : ℕ}

theorem exchanged_length : (exchanged image p q).length = image.length := by
  unfold exchanged
  rw [List.length_set, List.length_set]

theorem exchanged_header (hp : dsfHeaderSize ≤ p) (hq : dsfHeaderSize ≤ q) :
    (exchanged image p q).take dsfHeaderSize = image.take dsfHeaderSize := by
  unfold exchanged
  rw [List.take_set_of_le hq, List.take_set_of_le hp]

/-- Both places show in the sum, by the same difference. -/
theorem exchanged_checksum (hp : 4 ≤ p) (hpq : p < q) (hq : q < image.length) :
    (calculateChecksum ((exchanged image p q).drop 4)).toBitVec =
      (calculateChecksum (image.drop 4)).toBitVec ^^^
        (((byteWord (image.getD q 0) ^^^ byteWord (image.getD p 0)) <<<
            (3 * (image.length - 1 - p))) ^^^
          ((byteWord (image.getD q 0) ^^^ byteWord (image.getD p 0)) <<<
            (3 * (image.length - 1 - q)))) := by
  have hp' : p < image.length := hpq.trans hq
  have hq' : q < (image.set p (image.getD q 0)).length := by rwa [List.length_set]
  have hbyte : (image.set p (image.getD q 0))[q] = image.getD q 0 := by
    rw [List.getElem_set_ne hpq.ne]
    exact (List.getD_eq_getElem _ _ hq).symm
  have hfirst := checksum_set (v := image.getD q 0) hp hp'
  have hsecond := checksum_set (v := image.getD p 0) (hp.trans hpq.le) hq'
  rw [hbyte, List.length_set, hfirst, ← List.getD_eq_getElem _ 0 hp'] at hsecond
  unfold exchanged
  rw [hsecond, BitVec.xor_assoc, BitVec.xor_comm (byteWord (image.getD p 0))]

end

/-- **When two bytes that change places are noticed.** Two bytes behind the
header of an accepted image are exchanged: the image is rejected if and only if
the earlier byte would be `Detected` in the place of the later. -/
theorem exchanged_bytes_rejected_iff {lib lib' : Libc} (hw : lib.Works) (hw' : lib'.Works)
    {image : List UInt8} (ha : verifyDsfImage lib (some image) = .ok 0) {p q : ℕ}
    (hp : dsfHeaderSize ≤ p) (hpq : p < q) (hq : q < image.length) :
    verifyDsfImage lib' (some (exchanged image p q)) = .ok (-1) ↔
      Detected image q (image.getD p 0) := by
  have haccepted := (verifyDsfImage_iff hw image).mp ha
  have hp4 : 4 ≤ p := le_trans (by decide) hp
  have h32 : 32 ≤ p := hp
  rw [verifyDsfImage_rejects_iff hw', accepted_header_iff haccepted exchanged_length
    (exchanged_header hp (hp.trans hpq.le)), ← UInt32.toBitVec_inj, exchanged_checksum hp4 hpq hq,
    xor_eq_self_iff, shifted_twice_eq_zero_iff _ (by omega), BitVec.shiftLeft_xor_distrib,
    BitVec.xor_eq_zero_iff, ShiftXor.shiftLeft_inj_iff, byteWord_toNat, byteWord_toNat, Detected,
    if_neg (by omega), if_neg (by omega)]

theorem exchanged_bytes_rejected_iff_last :
    verifyDsfImage .zeroed (some (exchanged endingImage 41 42)) = .ok (-1) := by
  refine (exchanged_bytes_rejected_iff Libc.zeroed_works Libc.zeroed_works endingImage_accepted
    (by decide) (by decide) (by decide)).mpr ?_
  unfold Detected
  decide

end Dos25
