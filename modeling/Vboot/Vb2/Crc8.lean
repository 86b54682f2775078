import Vboot.Lib.ShiftRegister
import Vboot.Vb2.Secdata

/-! The checksum of firmware/2lib/2crc8.c as a shift register, and the changes of a few bits that the
checks of the stored records see. -/
namespace Vboot.Vb2
open Vboot.Lib ShiftRegister

/-- The polynomial is x^8 + x^2 + x + 1. -/
def crc8Register : ShiftRegister 8 where
  step s := s <<< 1 ^^^ if s.msb then 0x07#8 else 0#8
  tap := 0x07#8
  step_xor a b := by
    have hmsb : (if (a ^^^ b).msb then 0x07#8 else 0#8) =
        (if a.msb then 0x07#8 else 0#8) ^^^ if b.msb then 0x07#8 else 0#8 := by
      rw [BitVec.msb_xor]
      cases a.msb <;> cases b.msb <;> rfl
    rw [BitVec.shiftLeft_xor_distrib, hmsb]
    ac_rfl

def byteBits (b : UInt8) : List Bool := (List.range 8).map b.toBitVec.getMsbD

/-- The bits of a byte string, in the order in which the checksum takes them. -/
def bitsOf (bytes : List UInt8) : List Bool := bytes.flatMap byteBits

/-- The number of bits in which two byte strings differ. -/
def bitDistance (a b : List UInt8) : Nat := (bitsOf (List.zipWith (· ^^^ ·) a b)).count true

/-- The register is the second byte of the variable crc. -/
def crcWord (s : BitVec 8) : UInt32 := (UInt8.ofBitVec s).toUInt32 <<< 8
variable (bytes : List UInt8) (s : BitVec 8) (b : UInt8)

theorem crcWord_xor : crcWord s ^^^ b.toUInt32 <<< 8 = crcWord (s ^^^ b.toBitVec) := by
  rw [crcWord, crcWord, ← UInt32.shiftLeft_xor]
  rfl

theorem crc8Bit_crcWord : ∀ s, crc8Bit (crcWord s) = crcWord (crc8Register.step s) := by
  decide +kernel

theorem absorb_byteBits :
    crc8Register.absorb s (byteBits b) = crc8Register.step^[8] (s ^^^ b.toBitVec) := by
  have hzero : ∀ t : BitVec 8, crc8Register.absorb 0#8 (byteBits (UInt8.ofBitVec t)) =
      crc8Register.step^[8] t := by
    decide +kernel
  rw [absorb_of_zero, iterate_xor]
  exact congrArg (crc8Register.step^[8] s ^^^ ·) (hzero b.toBitVec)

theorem crc8Byte_crcWord : crc8Byte (crcWord s) b = crcWord (crc8Register.absorb s (byteBits b)) := by
  have hbits : Function.Semiconj crcWord crc8Register.step crc8Bit := fun t => (crc8Bit_crcWord t).symm
  rw [crc8Byte, crcWord_xor, absorb_byteBits]
  exact (hbits.iterate_right 8 _).symm

theorem foldl_crc8Byte :
    bytes.foldl crc8Byte (crcWord s) = crcWord (crc8Register.absorb s (bitsOf bytes)) := by
  induction bytes generalizing s with
  | nil => rfl
  | cons b bytes ih => rw [List.foldl_cons, crc8Byte_crcWord, ih, bitsOf, bitsOf, List.flatMap_cons, absorb_append]

theorem vb2Crc8_eq : vb2Crc8 bytes = UInt8.ofBitVec (crc8Register.absorb 0#8 (bitsOf bytes)) := by
  have hlow : ∀ s, (crcWord s >>> 8).toUInt8 = UInt8.ofBitVec s := by decide +kernel
  rw [vb2Crc8, ← hlow, ← foldl_crc8Byte]
  rfl

theorem bitsOf_append (a b : List UInt8) : bitsOf (a ++ b) = bitsOf a ++ bitsOf b := List.flatMap_append

/-- A string with its checksum behind it leaves nothing in the register. -/
theorem vb2Crc8_eq_iff (c : UInt8) :
    vb2Crc8 bytes = c ↔ crc8Register.absorb 0#8 (bitsOf (bytes ++ [c])) = 0#8 := by
  have hzero : ∀ s, crc8Register.step^[8] s = 0#8 ↔ s = 0#8 := by decide +kernel
  have hlast : bitsOf [c] = byteBits c := List.flatMap_singleton _ _
  rw [vb2Crc8_eq, bitsOf_append, absorb_append, hlast, absorb_byteBits, hzero, BitVec.xor_eq_zero_iff,
    ← UInt8.toBitVec_inj]

theorem length_bitsOf : (bitsOf bytes).length = 8 * bytes.length := by
  induction bytes with
  | nil => rfl
  | cons b bytes ih =>
    rw [bitsOf, List.flatMap_cons, List.length_append, ← bitsOf, ih, List.length_cons]
    simp [byteBits]
    omega

theorem bitsOf_xor {a b : List UInt8} (h : a.length = b.length) :
    bitsOf (List.zipWith (· ^^^ ·) a b) = List.zipWith (· ^^ ·) (bitsOf a) (bitsOf b) := by
  induction a generalizing b with
  | nil => rfl
  | cons x a ih =>
    cases b with
    | nil => cases h
    | cons y b =>
      have hbyte : byteBits (x ^^^ y) = List.zipWith (· ^^ ·) (byteBits x) (byteBits y) := by
        simp [byteBits]
      rw [List.zipWith_cons_cons, bitsOf, bitsOf, bitsOf, List.flatMap_cons, List.flatMap_cons, List.flatMap_cons,
        List.zipWith_append (by simp [byteBits]), hbyte, ← bitsOf, ih (Nat.succ.inj h)]
      rfl

/-- A record whose last byte is the checksum of the others. -/
def Summed (record : List UInt8) : Prop := crc8Register.absorb 0#8 (bitsOf record) = 0#8

theorem Summed.distance {a b : List UInt8} (ha : Summed a) (hb : Summed b) (hlen : a.length = b.length)
    (hpos : 1 ≤ bitDistance a b) (hle : bitDistance a b ≤ 3) :
    ∃ i j, ones (bitsOf (List.zipWith (· ^^^ ·) a b)) = [j, i] ∧ crc8Register.echo j = crc8Register.echo i := by
  have hstep : ∀ s, parity (crc8Register.step s) = parity s := by decide +kernel
  have hdiff : crc8Register.absorb 0#8 (bitsOf (List.zipWith (· ^^^ ·) a b)) = 0#8 := by
    have hbits : (bitsOf a).length = (bitsOf b).length := by rw [length_bitsOf, length_bitsOf, hlen]
    rw [bitsOf_xor hlen, ← BitVec.xor_self, absorb_xor crc8Register hbits, ha, hb, BitVec.xor_self]
  by_contra hnone
  exact absorb_ne_zero hstep (by decide) hpos hle (fun i j hones heq => hnone ⟨i, j, hones, heq⟩) hdiff

/-- What a bit leaves in the register comes back after 127 bits. In two records of 16 bytes that are equal
in all but three bits, the first bit is then one that differs. -/
theorem Summed.first {a b : List UInt8} (ha : Summed a) (hb : Summed b) (hlen : a.length = b.length)
    (hmax : a.length ≤ 16) (hpos : 1 ≤ bitDistance a b) (hle : bitDistance a b ≤ 3) :
    a.length = 16 ∧ ∃ i, ones (bitsOf (List.zipWith (· ^^^ ·) a b)) = [127, i] := by
  have hdistinct : ∀ j < 127, ∀ i < j, crc8Register.echo j ≠ crc8Register.echo i := by decide +kernel
  obtain ⟨i, j, hones, hecho⟩ := ha.distance hb hlen hpos hle
  have hij : i < j := by
    have horder := ones_decreasing (bitsOf (List.zipWith (· ^^^ ·) a b))
    rw [hones] at horder
    exact List.rel_of_pairwise_cons horder List.mem_cons_self
  have hj : j < 8 * a.length := by
    have hlt := @ones_lt (bitsOf (List.zipWith (· ^^^ ·) a b)) j (hones ▸ List.mem_cons_self)
    rwa [length_bitsOf, List.length_zipWith, ← hlen, Nat.min_self] at hlt
  have hlast : ¬ j < 127 := fun hlt => hdistinct j hlt i hij hecho
  obtain rfl : j = 127 := by omega
  exact ⟨by omega, i, hones⟩

variable {i : Nat}

theorem summed_take {n : Nat} {v : Vector UInt8 n} {hi : i < n} (h : vb2Crc8 (v.toList.take i) = v[i]) :
    Summed (v.toList.take (i + 1)) := by
  have hlast : v.toList.take (i + 1) = v.toList.take i ++ [v[i]] := by
    rw [List.take_succ_eq_append_getElem (by simpa using hi), Vector.getElem_toList]
  exact hlast ▸ (vb2Crc8_eq_iff _ _).mp h

theorem summed_toList {v : Vector UInt8 (i + 1)} (h : vb2Crc8 (v.toList.take i) = v[i]) :
    Summed v.toList := by
  have hall : v.toList.take (i + 1) = v.toList := List.take_of_length_le (by simp)
  exact hall ▸ summed_take h

variable {ctx : Vb2Context}

theorem secdata_summed (h : vb2SecdataCheckCrc ctx = .ok ()) : Summed ctx.secdata.toList := by
  rw [vb2SecdataCheckCrc, reject_bind_eq_ok, ne_eq, not_not] at h
  exact summed_toList h.1.symm

theorem secdatak_summed (h : vb2SecdatakCheckCrc ctx = .ok ()) :
    Summed (ctx.secdatak.toList.take 13) := by
  rw [vb2SecdatakCheckCrc, reject_eq_ok, ne_eq, not_not] at h
  exact summed_take h.symm

theorem nvdata_summed {raw : NvRaw} (h : raw.signed) : Summed raw.toList := summed_toList h.2

theorem bitsOf_cons (bytes : List UInt8) :
    bitsOf (b :: bytes) = b.toBitVec.msb :: ((byteBits b).tail ++ bitsOf bytes) := rfl

theorem nvdata_first {raw raw' : NvRaw} (h : raw.signed) (h' : raw'.signed) :
    ones (bitsOf (List.zipWith (· ^^^ ·) raw.toList raw'.toList)) ≠ [127, i] := by
  have hsignature : ∀ s, UInt8.ofBitVec s &&& headerMask = headerSignature → s.msb = false := by
    decide +kernel
  have hcons (raw : NvRaw) : raw.toList = raw[0] :: raw.toList.drop 1 := by
    have hpos : 0 < raw.toList.length := by simp
    rw [← Vector.getElem_toList, ← List.drop_eq_getElem_cons hpos, List.drop_zero]
    exact hpos
  intro hones
  have hlen := length_bitsOf (List.zipWith (· ^^^ ·) raw.toList raw'.toList)
  rw [List.length_zipWith, Vector.length_toList, Vector.length_toList] at hlen
  rw [hcons raw, hcons raw', List.zipWith_cons_cons, bitsOf_cons] at hones hlen
  have hdiff := head_of_ones (hones.trans (congrArg (· :: [i]) (Nat.succ.inj hlen).symm))
  rw [UInt8.toBitVec_xor, BitVec.msb_xor, hsignature raw[0].toBitVec h.1,
    hsignature raw'[0].toBitVec h'.1] at hdiff
  cases hdiff

/-- A change of up to three bits of a valid record is seen by its check. In the 16 bytes of the NV block
the first and the last bit leave the same in the register; the header check sees the first one. -/
theorem vb2CheckCrc_three_bits (ctx ctx' : Vb2Context) :
    (vb2NvCheckCrc ctx = .ok () → 1 ≤ bitDistance ctx.nvdata.toList ctx'.nvdata.toList →
      bitDistance ctx.nvdata.toList ctx'.nvdata.toList ≤ 3 → vb2NvCheckCrc ctx' ≠ .ok ()) ∧
    (vb2SecdataCheckCrc ctx = .ok () → 1 ≤ bitDistance ctx.secdata.toList ctx'.secdata.toList →
      bitDistance ctx.secdata.toList ctx'.secdata.toList ≤ 3 → vb2SecdataCheckCrc ctx' ≠ .ok ()) ∧
    (vb2SecdatakCheckCrc ctx = .ok () →
      1 ≤ bitDistance (ctx.secdatak.toList.take 13) (ctx'.secdatak.toList.take 13) →
      bitDistance (ctx.secdatak.toList.take 13) (ctx'.secdatak.toList.take 13) ≤ 3 →
      vb2SecdatakCheckCrc ctx' ≠ .ok ()) := by
  refine ⟨fun hok hpos hle hok' => ?_, fun hok hpos hle hok' => ?_, fun hok hpos hle hok' => ?_⟩
  · rw [vb2NvCheckCrc_ok_iff] at hok hok'
    obtain ⟨-, i, hones⟩ := (nvdata_summed hok).first (nvdata_summed hok') (by simp) (by simp) hpos hle
    exact nvdata_first hok hok' hones
  · have hlen := ((secdata_summed hok).first (secdata_summed hok') (by simp) (by simp) hpos hle).1
    simp at hlen
  · have hlen := ((secdatak_summed hok).first (secdatak_summed hok') (by simp) (by simp) hpos hle).1
    simp at hlen

end Vboot.Vb2
