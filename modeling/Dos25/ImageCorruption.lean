/-
# One corrupted byte

A byte of an accepted image is exchanged for another. What that does to the
checksum is the difference of the two bytes, shifted left by three bits for
each byte behind it: the last nine bytes count in full, the two before them in
part, all others not at all. The stored checksum may be hit itself, and
`total_size` is compared with the length. So the corrupted image is rejected
exactly where `Detected` says (`single_byte_rejected_iff`).

Key definitions: `Detected`.
-/
import Dos25.ImageVerify

namespace Dos25

open Stdio

/-! ### A byte in a sum and in a word -/

/-- A byte as a 32-bit word. -/
def byteWord (b : UInt8) : BitVec 32 := b.toUInt32.toBitVec

theorem byteWord_toNat (b : UInt8) : (byteWord b).toNat = b.toNat := UInt8.toNat_toUInt32 b

/-- Two bytes differ in a word that fits eight bits. -/
theorem byteWord_xor {a b : UInt8} (h : b ≠ a) :
    0 < (byteWord a ^^^ byteWord b).toNat ∧ (byteWord a ^^^ byteWord b).toNat < 2 ^ 8 := by
  constructor
  · refine Nat.pos_of_ne_zero fun h0 => h ?_
    have hxor : byteWord a ^^^ byteWord b = 0#32 := BitVec.eq_of_toNat_eq h0
    have heq : byteWord b = byteWord a := (BitVec.xor_eq_zero_iff.mp hxor).symm
    apply UInt8.toNat_inj.mp
    rw [← byteWord_toNat, ← byteWord_toNat, heq]
  · rw [BitVec.toNat_xor, byteWord_toNat, byteWord_toNat]
    exact Nat.xor_lt_two_pow a.toNat_lt b.toNat_lt

theorem xor_eq_self_iff (s d : BitVec 32) : s ^^^ d = s ↔ d = 0#32 := by
  refine ⟨fun h => ?_, fun h => by rw [h, BitVec.xor_zero]⟩
  exact (BitVec.xor_right_inj s).mp (h.trans BitVec.xor_zero.symm)

theorem calculateChecksum_set {data : List UInt8} {i : ℕ} (h : i < data.length) (v : UInt8) :
    (calculateChecksum (data.set i v)).toBitVec = (calculateChecksum data).toBitVec ^^^
      ((byteWord data[i] ^^^ byteWord v) <<< (3 * (data.length - 1 - i))) := by
  have hi : i < (data.map byteWord).length := by rwa [List.length_map]
  have hset := ShiftXor.fold_set 3 0#32 (byteWord v) hi
  simp only [List.getElem_map, List.length_map] at hset
  rw [calculateChecksum_toBitVec, calculateChecksum_toBitVec, List.map_set]
  exact hset

/-- A little-endian number is a sum with shifts by eight, from the last byte
on. -/
theorem ofNat_decode : ∀ bytes : List UInt8,
    BitVec.ofNat 32 (Bytes.decode bytes) = ShiftXor.fold 8 0#32 (bytes.reverse.map byteWord)
  | [] => rfl
  | b :: bytes => by
    have hb : (byteWord b).toNat < 2 ^ 8 := by
      rw [byteWord_toNat]
      exact b.toNat_lt
    have hsum : BitVec.ofNat 32 (Bytes.decode (b :: bytes)) =
        (BitVec.ofNat 32 (Bytes.decode bytes) <<< 8) + byteWord b := by
      apply BitVec.eq_of_toNat_eq
      rw [BitVec.toNat_add, BitVec.toNat_shiftLeft, byteWord_toNat, Nat.shiftLeft_eq,
        BitVec.toNat_ofNat, BitVec.toNat_ofNat, Bytes.decode]
      omega
    rw [hsum, ← ShiftXor.shiftLeft_xor_of_lt _ hb, ofNat_decode bytes, List.reverse_cons,
      List.map_append, ShiftXor.fold_append]
    rfl

theorem u32At_toBitVec (bytes : List UInt8) (off : ℕ) : (u32At bytes off).toBitVec =
    ShiftXor.fold 8 0#32 (((bytes.drop off).take 4).reverse.map byteWord) := by
  rw [← ofNat_decode]
  rfl

section

variable {image : List UInt8} {p off : ℕ} (v : UInt8)

/-- A word that the byte belongs to. -/
theorem u32At_set (hp : p < image.length) (hoff : off ≤ p) (hp4 : p < off + 4) :
    (u32At (image.set p v) off).toBitVec = (u32At image off).toBitVec ^^^
      ((byteWord image[p] ^^^ byteWord v) <<< (8 * (p - off))) := by
  let word := (image.drop off).take 4
  have hi : p - off < word.length := by
    simp only [word, List.length_take, List.length_drop]
    omega
  have hbyte : word[p - off] = image[p] := by
    simp only [word, List.getElem_take, List.getElem_drop, Nat.add_sub_of_le hoff]
  have hset : ((image.set p v).drop off).take 4 = word.set (p - off) v := by
    rw [List.drop_set, if_neg (by omega), List.take_set]
  have hword : word = word.take (p - off) ++ image[p] :: word.drop (p - off + 1) := by
    rw [← hbyte, ← List.drop_eq_getElem_cons hi, List.take_append_drop]
  have hlen : ((word.take (p - off)).reverse.map byteWord).length = p - off := by
    rw [List.length_map, List.length_reverse, List.length_take, Nat.min_eq_left hi.le]
  have hsplit : ∀ b : UInt8, (word.take (p - off) ++ b :: word.drop (p - off + 1)).reverse.map
      byteWord = (word.drop (p - off + 1)).reverse.map byteWord ++
        byteWord b :: (word.take (p - off)).reverse.map byteWord := by
    intro b
    simp
  have hchange := ShiftXor.fold_change 8 0#32 (byteWord image[p]) (byteWord v)
    ((word.drop (p - off + 1)).reverse.map byteWord) ((word.take (p - off)).reverse.map byteWord)
  rw [hlen, ← hsplit, ← hsplit, ← hword] at hchange
  rw [u32At_toBitVec, u32At_toBitVec, hset, List.set_eq_take_append_cons_drop, if_pos hi]
  exact hchange

/-- A word that it does not belong to. -/
theorem u32At_set_of_disjoint (h : p < off ∨ off + 4 ≤ p) :
    u32At (image.set p v) off = u32At image off := by
  unfold u32At
  rw [List.drop_set]
  split_ifs with hlt
  · rfl
  · rw [List.take_set_of_le (by omega)]

theorem signed_set (h4 : 4 ≤ p) :
    (DsfHeader.ofBytes (image.set p v)).signed = (DsfHeader.ofBytes image).signed := by
  have hat : ∀ i, i < 4 → (image.set p v).getD i 0 = image.getD i 0 := by
    intro i hi
    rw [List.getD_eq_getElem?_getD, List.getD_eq_getElem?_getD, List.getElem?_set_ne (by omega)]
  simp only [DsfHeader.signed, DsfHeader.ofBytes, hat _ (by decide : (0 : Fin 4).val < 4),
    hat _ (by decide : (1 : Fin 4).val < 4), hat _ (by decide : (2 : Fin 4).val < 4)]

end

/-! ### Rejection -/

/-- The byte at `p` is replaced by `v`, and it shows: in `total_size` always,
in the stored checksum unless the computed one changes alike, elsewhere if
the bits differ that are not shifted out. -/
def Detected (image : List UInt8) (p : ℕ) (v : UInt8) : Prop :=
  if 8 ≤ p ∧ p < 12 then True
  else if 28 ≤ p ∧ p < 32 then ¬ (p = 31 ∧ image.length = 40)
  else (image.getD p 0).toNat % 2 ^ (32 - 3 * (image.length - 1 - p)) ≠
    v.toNat % 2 ^ (32 - 3 * (image.length - 1 - p))

section

variable {image : List UInt8} {p : ℕ} {v : UInt8}

/-- The checksum of the corrupted image. -/
theorem checksum_set (h4 : 4 ≤ p) (hp : p < image.length) :
    (calculateChecksum ((image.set p v).drop 4)).toBitVec =
      (calculateChecksum (image.drop 4)).toBitVec ^^^
        ((byteWord image[p] ^^^ byteWord v) <<< (3 * (image.length - 1 - p))) := by
  have hi : p - 4 < (image.drop 4).length := by
    rw [List.length_drop]
    omega
  have hbyte : (image.drop 4)[p - 4] = image[p] := by
    simp only [List.getElem_drop, Nat.add_sub_of_le h4]
  have hdist : (image.drop 4).length - 1 - (p - 4) = image.length - 1 - p := by
    rw [List.length_drop]
    omega
  rw [List.drop_set, if_neg (by omega), calculateChecksum_set hi, hbyte, hdist]

/-- Once the size is right, the two checksums decide. -/
theorem accepted_set_iff (ha : Accepted image) (h4 : 4 ≤ p) : Accepted (image.set p v) ↔
    u32At (image.set p v) 8 = u32At image 8 ∧
      calculateChecksum ((image.set p v).drop 4) = u32At (image.set p v) 28 := by
  have hsize : image.length = (u32At image 8).toNat := ha.size
  constructor
  · intro h
    have hsize' : (image.set p v).length = (u32At (image.set p v) 8).toNat := h.size
    rw [List.length_set, hsize] at hsize'
    exact ⟨(UInt32.toNat_inj.mp hsize').symm, h.checksum⟩
  · rintro ⟨htotal, hsum⟩
    refine ⟨?_, ?_, ?_, hsum⟩
    · rw [List.length_set]
      exact ha.header
    · rw [signed_set v h4]
      exact ha.signed
    · show (image.set p v).length = (u32At (image.set p v) 8).toNat
      rw [List.length_set, htotal, hsize]

/-- A byte is not shifted out of a word by less than its own width. -/
theorem shift_byte_ne_zero {e : BitVec 32} {n : ℕ} (hpos : 0 < e.toNat) (hlt : e.toNat < 2 ^ 8)
    (hn : n ≤ 24) : e <<< n ≠ 0#32 := by
  intro h
  have hpow : 2 ^ 8 ≤ 2 ^ (32 - n) := Nat.pow_le_pow_right (by decide) (by omega)
  rw [← BitVec.zero_shiftLeft n, ShiftXor.shiftLeft_inj_iff, BitVec.toNat_zero, Nat.zero_mod,
    Nat.mod_eq_of_lt (hlt.trans_le hpow)] at h
  omega

/-- **Which corruptions are noticed.** -/
theorem accepted_set_iff_not_detected (ha : Accepted image) (h4 : 4 ≤ p) (hp : p < image.length)
    (hne : v ≠ image[p]) : Accepted (image.set p v) ↔ ¬ Detected image p v := by
  obtain ⟨hpos, hlt⟩ := byteWord_xor hne
  have hsum := checksum_set (v := v) h4 hp
  have hstored : calculateChecksum (image.drop 4) = u32At image 28 := ha.checksum
  have hlen : 32 ≤ image.length := ha.header
  rw [accepted_set_iff ha h4, Detected]
  by_cases htotal : 8 ≤ p ∧ p < 12
  · -- the length is no longer what `total_size` says
    rw [if_pos htotal]
    refine iff_of_false (fun h => ?_) (not_not.mpr trivial)
    have hword := u32At_set v hp htotal.1 (by omega)
    rw [h.1, eq_comm, xor_eq_self_iff] at hword
    exact shift_byte_ne_zero hpos hlt (by omega) hword
  have hsize : u32At (image.set p v) 8 = u32At image 8 := u32At_set_of_disjoint v (by omega)
  rw [if_neg htotal, and_iff_right hsize, ← UInt32.toBitVec_inj, hsum, hstored]
  by_cases hcheck : 28 ≤ p ∧ p < 32
  · -- both checksums change
    have hroom : (byteWord image[p] ^^^ byteWord v).toNat * 2 ^ (8 * (p - 28)) < 2 ^ 32 := by
      calc (byteWord image[p] ^^^ byteWord v).toNat * 2 ^ (8 * (p - 28))
          < 2 ^ 8 * 2 ^ (8 * (p - 28)) := Nat.mul_lt_mul_of_pos_right hlt (Nat.two_pow_pos _)
        _ ≤ 2 ^ 32 := by
          rw [← pow_add]
          exact Nat.pow_le_pow_right (by decide) (by omega)
    rw [if_pos hcheck, not_not, u32At_set v hp hcheck.1 (by omega), BitVec.xor_right_inj,
      ShiftXor.shiftLeft_eq_shiftLeft_iff hpos hroom]
    omega
  · -- the computed one changes by what is not shifted out
    have hbyte : image.getD p 0 = image[p] := List.getD_eq_getElem _ _ hp
    rw [if_neg hcheck, not_not, u32At_set_of_disjoint v (by omega), xor_eq_self_iff,
      BitVec.shiftLeft_xor_distrib, BitVec.xor_eq_zero_iff, ShiftXor.shiftLeft_inj_iff,
      byteWord_toNat, byteWord_toNat, hbyte]

end

/-- **When one corrupted byte is rejected.** A byte of an accepted image behind
the signature is replaced by another: the image is rejected if and only if
that is `Detected`. -/
theorem single_byte_rejected_iff {lib lib' : Libc} (hw : lib.Works) (hw' : lib'.Works)
    {image : List UInt8} (ha : verifyDsfImage lib (some image) = .ok 0) {p : ℕ} (h4 : 4 ≤ p)
    (hp : p < image.length) {v : UInt8} (hne : v ≠ image[p]) :
    verifyDsfImage lib' (some (image.set p v)) = .ok (-1) ↔ Detected image p v := by
  rw [verifyDsfImage_rejects_iff hw',
    accepted_set_iff_not_detected ((verifyDsfImage_iff hw image).mp ha) h4 hp hne, not_not]

/-- An accepted image of 43 bytes with empty parts. -/
theorem emptyImage_accepted :
    verifyDsfImage .zeroed (some (craftedImage 32 0 32 0)) = .ok 0 :=
  (verifyDsfImage_iff Libc.zeroed_works _).mpr (craftedImage_accepted 32 0 32 0)

/-- The last byte counts in full. -/
theorem single_byte_rejected_iff_last :
    verifyDsfImage .zeroed (some ((craftedImage 32 0 32 0).set 42 1)) = .ok (-1) := by
  refine (single_byte_rejected_iff Libc.zeroed_works Libc.zeroed_works emptyImage_accepted
    (by decide) (by decide) (by decide)).mpr ?_
  unfold Detected
  decide

/-- The version of the image is corrupted, 38 bytes before its end. -/
theorem corrupted_version_accepted :
    ¬ ∀ lib : Libc, lib.Works → ∀ image, verifyDsfImage lib (some image) = .ok 0 →
      ∀ p, 4 ≤ p → ∀ hp : p < image.length, ∀ v, v ≠ image[p] →
        verifyDsfImage lib (some (image.set p v)) = .ok (-1) := by
  intro h
  have haccepted := emptyImage_accepted
  have hrejected := h .zeroed Libc.zeroed_works _ haccepted 4 (by decide) (by decide) 2 (by decide)
  rw [verifyDsfImage_iff Libc.zeroed_works] at haccepted
  rw [verifyDsfImage_rejects_iff Libc.zeroed_works,
    accepted_set_iff_not_detected haccepted (by decide) (by decide) (by decide), not_not,
    Detected] at hrejected
  revert hrejected
  decide

end Dos25
