import Vboot.Common.Inside

/-! KeyBlockVerify of firmware/lib/vboot_common.c: where the parts of an accepted block lie, and the
bytes on which the verdict depends. -/
namespace Vboot
open Vboot.Lib

/-- The offset of the signature that is checked, which is that of the checksum in hash mode. -/
def checkedAt (hashOnly : Bool) : Nat := if hashOnly then 48 else 24

/-- The parts of a block lie inside it, with offsets and sizes in exact arithmetic. The signature that was
checked is at offset n. -/
structure KeyBlockInside (block : Ptr) (size : UInt64) (n : Nat) : Prop where
  header : 112 ≤ (block.add n).dataSize.toNat
  signed : (block.add n).dataSize.toNat ≤ block.keyBlockSize.toNat
  whole : block.keyBlockSize.toNat ≤ size.toNat
  signature : MemberInside 0 block.keyBlockSize.toNat n 24 (block.add n).sigOffset.toNat
    (block.add n).sigSize.toNat
  dataKey : MemberInside 0 block.keyBlockSize.toNat 80 32 block.dataKey.keyOffset.toNat
    block.dataKey.keySize.toNat
  dataKeySigned : MemberInside 0 (block.add n).dataSize.toNat 80 32 block.dataKey.keyOffset.toNat
    block.dataKey.keySize.toNat

theorem KeyBlockFits.keyBlockInside {block : Ptr} {size : UInt64} {n : Nat} (hn : n ≤ 80)
    (h : KeyBlockFits block size n) : KeyBlockInside block size n := by
  obtain ⟨-, -, -, hinside, hsig, hmuch, henough, hkey⟩ := h
  exact ⟨henough, hmuch, hinside, ⟨by omega, by omega, by omega, by omega⟩,
    ⟨by omega, by omega, by omega, by omega⟩, ⟨by omega, by omega, by omega, by omega⟩⟩

section
variable {Ctx : Type} (crypto : Crypto Ctx)

/-- The number of bytes that are compared with the hash or taken as the RSA signature. -/
def checkedSize (key : Option Ptr) (hashOnly : Bool) : Option Nat :=
  if hashOnly then some 64
  else (key.bind publicKeyToRSA).map fun rsa => siglenMap.getD rsa.algorithm 0

theorem keyBlockInside_of_ok {block : Ptr} {size : UInt64} {key : Option Ptr} {hashOnly : Bool}
    (h : keyBlockVerify crypto block size key hashOnly = .ok ()) :
    KeyBlockInside block size (checkedAt hashOnly) ∧
      checkedSize key hashOnly = some (block.add (checkedAt hashOnly)).sigSize.toNat := by
  cases hashOnly with
  | true =>
    obtain ⟨hfits, hsize, -⟩ := (keyBlockVerify_hashed crypto).mp h
    refine ⟨hfits.keyBlockInside (by decide), ?_⟩
    change some 64 = some block.keyBlockChecksum.sigSize.toNat
    rw [hsize]
    rfl
  | false =>
    cases key with
    | none =>
      simp [keyBlockVerify, require_bind_eq_ok] at h
    | some key =>
      obtain ⟨hfits, rsa, hrsa, hdata⟩ := (keyBlockVerify_signed crypto).mp h
      refine ⟨hfits.keyBlockInside (by decide), ?_⟩
      change (publicKeyToRSA key).map _ = some block.keyBlockSignature.sigSize.toNat
      rw [hrsa, Option.map_some, ((verifyData_eq_false crypto).mp hdata).1]

section
variable {block other : Ptr} {size : UInt64} (h : other.bytes size.toNat = block.bytes size.toNat)
  (hheader : 112 ≤ size.toNat) (hwhole : block.keyBlockSize.toNat ≤ size.toNat)
include h hheader hwhole

theorem keyBlockHash_congr : keyBlockHash crypto other = keyBlockHash crypto block := by
  have hb := Ptr.add_congr h 48
  have hsize : other.keyBlockSize = block.keyBlockSize := Ptr.u64_congr h (by omega)
  have hoffset : other.keyBlockChecksum.sigOffset = block.keyBlockChecksum.sigOffset :=
    Ptr.u64_congr hb (by omega)
  have hsig : other.keyBlockChecksum.sigSize = block.keyBlockChecksum.sigSize := Ptr.u64_congr hb (by omega)
  have hdata : other.keyBlockChecksum.dataSize = block.keyBlockChecksum.dataSize :=
    Ptr.u64_congr hb (by omega)
  have hinside : verifySignatureInside other block.keyBlockSize other.keyBlockChecksum =
      verifySignatureInside block block.keyBlockSize block.keyBlockChecksum :=
    verifySignatureInside_congr h _ (by omega) (by omega)
  dsimp only [keyBlockHash]
  rw [hsize, hsig, hdata, hinside]
  refine reject_bind_congr Iff.rfl fun hinside => ?_
  refine reject_bind_congr Iff.rfl fun h64 => ?_
  refine reject_bind_congr Iff.rfl fun hsigned => ?_
  rw [not_not] at h64
  rw [UInt64.not_lt, UInt64.le_iff_toNat_le] at hsigned
  rw [Bool.not_eq_true, Ptr.keyBlockChecksum, verifySignatureInside_eq_false (by omega)] at hinside
  have hlen : 48 + block.keyBlockChecksum.sigOffset.toNat + 64 ≤ size.toNat := by
    have h64' : (block.add 48).sigSize.toNat = 64 := congrArg UInt64.toNat h64
    rw [Ptr.keyBlockChecksum]
    omega
  have hhash : (getSignatureData other.keyBlockChecksum).bytes 64 =
      (getSignatureData block.keyBlockChecksum).bytes 64 := by
    rw [getSignatureData, getSignatureData, hoffset]
    exact Ptr.bytes_congr (Ptr.add_congr hb _) (by omega)
  rw [Ptr.bytes_congr h (by omega), hhash]

theorem keyBlockSigned_congr (key : Ptr) :
    keyBlockSigned crypto other size key = keyBlockSigned crypto block size key := by
  have hb := Ptr.add_congr h 24
  have hsize : other.keyBlockSize = block.keyBlockSize := Ptr.u64_congr h (by omega)
  have hdata : other.keyBlockSignature.dataSize = block.keyBlockSignature.dataSize :=
    Ptr.u64_congr hb (by omega)
  have hinside : verifySignatureInside other block.keyBlockSize other.keyBlockSignature =
      verifySignatureInside block block.keyBlockSize block.keyBlockSignature :=
    verifySignatureInside_congr h _ (by omega) (by omega)
  dsimp only [keyBlockSigned]
  rw [hsize, hdata, hinside]
  refine reject_bind_congr Iff.rfl fun hinside => ?_
  refine congrArg _ (funext fun rsa => ?_)
  refine reject_bind_congr Iff.rfl fun hsigned => ?_
  rw [UInt64.not_lt, UInt64.le_iff_toNat_le] at hsigned
  rw [Bool.not_eq_true, Ptr.keyBlockSignature, verifySignatureInside_eq_false (by omega)] at hinside
  rw [Ptr.keyBlockSignature, Ptr.keyBlockSignature, verifyData_of_bytes crypto h (by omega)
    (hsigned.trans hwhole) (by omega)]

end

theorem keyBlockVerify_congr {block other : Ptr} {size : UInt64}
    (h : other.bytes size.toNat = block.bytes size.toNat) (key : Option Ptr) (hashOnly : Bool) :
    keyBlockVerify crypto other size key hashOnly = keyBlockVerify crypto block size key hashOnly := by
  unfold keyBlockVerify
  refine reject_bind_congr Iff.rfl fun hheader => ?_
  have h112 : vbKeyBlockHeaderSize.toNat = 112 := rfl
  rw [UInt64.not_lt, UInt64.le_iff_toNat_le, h112] at hheader
  have hsize : other.keyBlockSize = block.keyBlockSize := Ptr.u64_congr h (by omega)
  have hmajor : other.keyBlockHeaderVersionMajor = block.keyBlockHeaderVersionMajor :=
    Ptr.u32_congr h (by omega)
  have hchecksum : other.keyBlockChecksum.dataSize = block.keyBlockChecksum.dataSize :=
    Ptr.u64_congr (Ptr.add_congr h 48) (by omega)
  have hsignature : other.keyBlockSignature.dataSize = block.keyBlockSignature.dataSize :=
    Ptr.u64_congr (Ptr.add_congr h 24) (by omega)
  have hkey (n : UInt64) : verifyPublicKeyInside other n other.dataKey =
      verifyPublicKeyInside block n block.dataKey := verifyPublicKeyInside_congr h n (by omega) (by omega)
  rw [Ptr.bytes_congr h (by omega : 8 ≤ size.toNat), hmajor, hsize]
  refine reject_bind_congr Iff.rfl fun _ => reject_bind_congr Iff.rfl fun _ =>
    reject_bind_congr Iff.rfl fun hwhole => ?_
  rw [UInt64.not_lt, UInt64.le_iff_toNat_le] at hwhole
  cases hashOnly with
  | true => simp only [if_true, keyBlockHash_congr crypto h hheader hwhole, hchecksum, hkey]
  | false =>
    simp only [Bool.false_eq_true, if_false, keyBlockSigned_congr crypto h hheader hwhole, hsignature, hkey]

/-- In either mode the parts of an accepted block are inside it, the bytes that are checked are those the
signature declares, and the verdict is a function of the bytes of the buffer and the key. -/
theorem keyBlockVerify_confined (block : Ptr) (size : UInt64) (key : Option Ptr) (hashOnly : Bool) :
    (keyBlockVerify crypto block size key hashOnly = .ok () →
      KeyBlockInside block size (checkedAt hashOnly) ∧
        checkedSize key hashOnly = some (block.add (checkedAt hashOnly)).sigSize.toNat) ∧
    ∀ other : Ptr, other.bytes size.toNat = block.bytes size.toNat →
      keyBlockVerify crypto other size key hashOnly = keyBlockVerify crypto block size key hashOnly :=
  ⟨keyBlockInside_of_ok crypto, fun _ h => keyBlockVerify_congr crypto h key hashOnly⟩

end

end Vboot
