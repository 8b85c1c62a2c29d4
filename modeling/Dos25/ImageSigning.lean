/-
# How many checksums an image can carry

The stored checksum lies in the bytes that are summed. Behind it, nine bytes
shift it far enough for the sum to settle bit by bit: there is exactly one
checksum with which the image is accepted, whatever the header and the payload
say. With eight bytes or fewer there is never exactly one, as the sum follows
some change of the stored checksum (`checksum_unique_iff`).

Key definitions: `signedImage`, `ownSum`, `followed`.
-/
import Dos25.Lib.LowBits
import Dos25.ImageTampering

namespace Dos25

open LowBits Stdio

/-- An image with this header, but for the checksum, and this payload. -/
def signedImage (h : DsfHeader) (payload : List UInt8) (checksum : UInt32) : List UInt8 :=
  { h with checksum := checksum }.toBytes ++ payload

/-- What a stored checksum adds to the sum of its image, with `n` bytes behind
it. -/
def ownSum (n : ℕ) (checksum : BitVec 32) : BitVec 32 :=
  (calculateChecksum (u32Bytes ⟨checksum⟩)).toBitVec <<< (3 * n)

/-! ### The bytes of a checksum -/

/-- The byte at `j`, from the lowest on. -/
def byteAt (x : BitVec 32) (j : ℕ) : BitVec 32 := (x >>> (8 * j)) &&& 255#32

theorem byteAt_xor (x y : BitVec 32) (j : ℕ) :
    byteAt (x ^^^ y) j = byteAt x j ^^^ byteAt y j := by
  apply BitVec.eq_of_getLsbD_eq
  intro i _
  simp only [byteAt, BitVec.ushiftRight_xor_distrib, BitVec.getLsbD_and, BitVec.getLsbD_xor,
    Bool.and_xor_distrib_right]

theorem byteWord_ofNat (x : BitVec 32) (j : ℕ) :
    byteWord (UInt8.ofNat (x.toNat / 256 ^ j)) = byteAt x j := by
  have hmask : (255#32).toNat = 2 ^ 8 - 1 := rfl
  apply BitVec.eq_of_toNat_eq
  rw [byteWord_toNat, UInt8.toNat_ofNat', byteAt, BitVec.toNat_and, BitVec.toNat_ushiftRight, hmask,
    Nat.and_two_pow_sub_one_eq_mod, Nat.shiftRight_eq_div_pow, Nat.pow_mul]

theorem u32Bytes_words (x : BitVec 32) : (u32Bytes ⟨x⟩).map byteWord =
    [byteAt x 0, byteAt x 1, byteAt x 2, byteAt x 3] := by
  have hbytes : u32Bytes ⟨x⟩ = [UInt8.ofNat (x.toNat / 256 ^ 0), UInt8.ofNat (x.toNat / 256 ^ 1),
      UInt8.ofNat (x.toNat / 256 ^ 2), UInt8.ofNat (x.toNat / 256 ^ 3)] := by
    show [UInt8.ofNat x.toNat, UInt8.ofNat (x.toNat / 256), UInt8.ofNat (x.toNat / 256 / 256),
      UInt8.ofNat (x.toNat / 256 / 256 / 256)] = _
    simp only [Nat.div_div_eq_div_mul, Nat.pow_zero, Nat.div_one]
    rfl
  rw [hbytes]
  simp only [List.map_cons, List.map_nil, byteWord_ofNat]

theorem ownSum_eq (n : ℕ) (x : BitVec 32) : ownSum n x =
    byteAt x 0 <<< (3 * (n + 3)) ^^^ byteAt x 1 <<< (3 * (n + 2)) ^^^
      byteAt x 2 <<< (3 * (n + 1)) ^^^ byteAt x 3 <<< (3 * n) := by
  have hsum : (calculateChecksum (u32Bytes ⟨x⟩)).toBitVec =
      byteAt x 0 <<< (3 + 3 + 3) ^^^ byteAt x 1 <<< (3 + 3) ^^^ byteAt x 2 <<< 3 ^^^
        byteAt x 3 := by
    rw [calculateChecksum_toBitVec]
    show ShiftXor.fold 3 0#32 ((u32Bytes ⟨x⟩).map byteWord) = _
    rw [u32Bytes_words]
    show (((0#32 <<< 3 ^^^ byteAt x 0) <<< 3 ^^^ byteAt x 1) <<< 3 ^^^ byteAt x 2) <<< 3 ^^^
      byteAt x 3 = _
    simp only [BitVec.zero_shiftLeft, BitVec.zero_xor, BitVec.shiftLeft_xor_distrib,
      ← BitVec.shiftLeft_add]
  have h3 : 3 * (n + 3) = 3 + 3 + 3 + 3 * n := by ring
  have h2 : 3 * (n + 2) = 3 + 3 + 3 * n := by ring
  have h1 : 3 * (n + 1) = 3 + 3 * n := by ring
  unfold ownSum
  rw [hsum, h3, h2, h1]
  simp only [BitVec.shiftLeft_xor_distrib, ← BitVec.shiftLeft_add]

theorem ownSum_xor (n : ℕ) (x y : BitVec 32) :
    ownSum n (x ^^^ y) = ownSum n x ^^^ ownSum n y := by
  simp only [ownSum_eq, byteAt_xor, BitVec.shiftLeft_xor_distrib]
  ac_rfl

/-- A byte of words that agree. -/
theorem agreeBelow_byteAt {i : ℕ} {x y : BitVec 32} (h : AgreeBelow i x y) (j : ℕ) :
    AgreeBelow (i - 8 * j) (byteAt x j) (byteAt y j) :=
  (h.ushiftRight (8 * j)).and 255#32

/-- With nine bytes behind it, each byte is shifted further than its place in
the checksum. -/
theorem ownSum_raises {n : ℕ} (h : 9 ≤ n) : Raises (ownSum n) := by
  intro i x y hxy
  rw [ownSum_eq, ownSum_eq]
  have hbyte : ∀ j shift, i + 1 ≤ i - 8 * j + shift →
      AgreeBelow (i + 1) (byteAt x j <<< shift) (byteAt y j <<< shift) :=
    fun j shift hle => ((agreeBelow_byteAt hxy j).shiftLeft shift).mono hle
  have h0 := hbyte 0 (3 * (n + 3)) (by omega)
  have h1 := hbyte 1 (3 * (n + 2)) (by omega)
  have h2 := hbyte 2 (3 * (n + 1)) (by omega)
  have h3 := hbyte 3 (3 * n) (by omega)
  exact ((h0.xor h1).xor h2).xor h3

/-- With so many bytes behind it, this change of a checksum changes the sum
alike. -/
def followed : Fin 9 → BitVec 32 :=
  ![0x1bfc8, 0x5ff40, 0xffe00, 0x7ff000, 0x2ffa000, 0x13fd8000, 0x1ffc0000, 0xffe00000, 0x1000000]

theorem ownSum_followed : ∀ n : Fin 9, followed n ≠ 0#32 ∧
    byteAt (followed n) 0 <<< (3 * (n.val + 3)) ^^^ byteAt (followed n) 1 <<< (3 * (n.val + 2)) ^^^
      byteAt (followed n) 2 <<< (3 * (n.val + 1)) ^^^ byteAt (followed n) 3 <<< (3 * n.val) =
    followed n := by
  decide

/-- With eight bytes or fewer behind it, the sum follows some change of the
checksum. -/
theorem exists_followed {n : ℕ} (h : n < 9) :
    ∃ change : BitVec 32, change ≠ 0#32 ∧ ownSum n change = change := by
  obtain ⟨hne, hfollows⟩ := ownSum_followed ⟨n, h⟩
  exact ⟨followed ⟨n, h⟩, hne, (ownSum_eq n _).trans hfollows⟩

/-! ### Which checksums are accepted -/

section

variable {h : DsfHeader} {payload : List UInt8}

/-- The sum of an image, as a function of the checksum it carries. -/
theorem signedImage_sum (h : DsfHeader) (payload : List UInt8) :
    ∃ rest : BitVec 32, ∀ checksum : UInt32,
      (calculateChecksum ((signedImage h payload checksum).drop 4)).toBitVec =
        rest ^^^ ownSum payload.length checksum.toBitVec := by
  let fields := [h.version, h.totalSize, h.bootOffset, h.bootSize, h.kernelOffset, h.kernelSize]
  refine ⟨((calculateChecksum (fields.flatMap u32Bytes)).toBitVec <<<
    (3 * (4 + payload.length))) ^^^ (calculateChecksum payload).toBitVec, fun checksum => ?_⟩
  have hdrop : (signedImage h payload checksum).drop 4 =
      fields.flatMap u32Bytes ++ (u32Bytes checksum ++ payload) := by
    have himage : signedImage h payload checksum = List.ofFn h.signature ++
        (fields.flatMap u32Bytes ++ (u32Bytes checksum ++ payload)) := by
      simp [signedImage, DsfHeader.toBytes, fields]
    rw [himage]
    exact List.drop_left' List.length_ofFn
  have hlen : (u32Bytes checksum ++ payload).length = 4 + payload.length := by
    rw [List.length_append, u32Bytes_length]
  rw [hdrop, calculateChecksum_append, hlen, calculateChecksum_append]
  unfold ownSum
  ac_rfl

theorem accepted_signedImage_iff (hs : h.signed = true)
    (hsize : h.totalSize.toNat = dsfHeaderSize + payload.length) (checksum : UInt32) :
    Accepted (signedImage h payload checksum) ↔
      calculateChecksum ((signedImage h payload checksum).drop 4) = checksum := by
  have hheader : DsfHeader.ofBytes (signedImage h payload checksum) =
      { h with checksum := checksum } := DsfHeader.ofBytes_toBytes _ _
  have hlen : (signedImage h payload checksum).length = dsfHeaderSize + payload.length := by
    rw [signedImage, List.length_append, DsfHeader.toBytes_length]
  constructor
  · intro ha
    rw [ha.checksum, hheader]
  · intro hsum
    refine ⟨hlen ▸ Nat.le_add_right _ _, ?_, ?_, ?_⟩
    · rw [hheader]
      exact hs
    · rw [hlen, hheader]
      exact hsize.symm
    · rw [hheader]
      exact hsum

/-- The checksums with which an image is accepted are the fixed points of its
sum. -/
theorem accepted_fixed (hs : h.signed = true)
    (hsize : h.totalSize.toNat = dsfHeaderSize + payload.length) :
    ∃ rest : BitVec 32, ∀ checksum : UInt32, Accepted (signedImage h payload checksum) ↔
      rest ^^^ ownSum payload.length checksum.toBitVec = checksum.toBitVec := by
  obtain ⟨rest, hrest⟩ := signedImage_sum h payload
  refine ⟨rest, fun checksum => ?_⟩
  rw [accepted_signedImage_iff hs hsize, ← hrest, UInt32.toBitVec_inj]

end

/-- **How many checksums an image can carry.** Of a header with the signature
and the right size and of a payload: there is exactly one checksum with which
they are accepted if and only if the payload has nine bytes or more. -/
theorem checksum_unique_iff {lib : Libc} (hw : lib.Works) {h : DsfHeader} (hs : h.signed = true)
    {payload : List UInt8} (hsize : h.totalSize.toNat = dsfHeaderSize + payload.length) :
    (∃! checksum, verifyDsfImage lib (some (signedImage h payload checksum)) = .ok 0) ↔
      9 ≤ payload.length := by
  obtain ⟨rest, hfixed⟩ := accepted_fixed hs hsize
  simp only [verifyDsfImage_iff hw, hfixed]
  constructor
  · rintro ⟨checksum, hsum, hunique⟩
    by_contra hshort
    -- the followed change of the checksum is accepted with it
    obtain ⟨change, hne, hfollows⟩ := exists_followed (Nat.lt_of_not_le hshort)
    have hother : rest ^^^ ownSum payload.length (checksum.toBitVec ^^^ change) =
        checksum.toBitVec ^^^ change := by
      rw [ownSum_xor, hfollows, ← BitVec.xor_assoc, hsum]
    have hsame : checksum.toBitVec ^^^ change = checksum.toBitVec :=
      congrArg UInt32.toBitVec (hunique ⟨checksum.toBitVec ^^^ change⟩ hother)
    exact hne ((xor_eq_self_iff _ _).mp hsame)
  · intro hlong
    obtain ⟨checksum, hsum, hunique⟩ := ((ownSum_raises hlong).xor rest).existsUnique_fixed
    refine ⟨⟨checksum⟩, hsum, fun other hother => ?_⟩
    exact UInt32.toBitVec_inj.mp (hunique other.toBitVec hother)

/-- Eight zero bytes, and nine. -/
theorem checksum_unique_iff_zeros :
    (¬ ∃! checksum, verifyDsfImage .zeroed (some (signedImage
      ⟨![68, 83, 70, 0], 1, 40, 32, 0, 32, 8, 0⟩ (List.replicate 8 0) checksum)) = .ok 0) ∧
    ∃! checksum, verifyDsfImage .zeroed (some (signedImage
      ⟨![68, 83, 70, 0], 1, 41, 32, 0, 32, 9, 0⟩ (List.replicate 9 0) checksum)) = .ok 0 := by
  constructor
  · rw [checksum_unique_iff Libc.zeroed_works rfl rfl]
    decide
  · rw [checksum_unique_iff Libc.zeroed_works rfl rfl]
    decide

end Dos25
