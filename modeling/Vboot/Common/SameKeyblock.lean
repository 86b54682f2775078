import Vboot.Common.SameKey

/-! Keyblocks as the two libraries see them. KeyBlockVerify of firmware/lib/vboot_common.c reads 64-bit
fields where vb2_verify_keyblock of firmware/lib20/common.c reads their lower halves and calls the upper
ones reserved. -/
namespace Vboot
open Vboot.Lib Vboot.Vb2

/-- The reserved words of struct vb2_keyblock. -/
def keyblockReserved : List Nat := [20, 28, 36, 44, 52, 60, 68, 76, 84, 92, 100, 108]

theorem u64_of_reserved {p : Ptr} {i : Nat} (h : p.u32 (i + 4) = 0) :
    (p.u64 i).toNat = fieldAt (p.mem.window p.off) i := by
  rw [fieldAt, le32_window, ← UInt32.toNat_toUInt64]
  exact congrArg UInt64.toNat (le64_of_high_zero h)

theorem add_u64_of_reserved {p : Ptr} {n i : Nat} (h : p.u32 (n + i + 4) = 0) :
    ((p.add n).u64 i).toNat = fieldAt (p.mem.window p.off) (n + i) := by
  rw [← u64_of_reserved h, Ptr.u64, Ptr.u64, Ptr.add, Nat.add_assoc]

/-- The signature or hash of a keyblock, which is at offset n, and the data key do not have their data over
themselves. -/
structure KeyblockApart (w : Mem) (n : Nat) : Prop where
  signature : 0 < fieldAt w (n + 8) → 24 ≤ fieldAt w n
  dataKey : 0 < fieldAt w 88 → 32 ≤ fieldAt w 80

/-- The fields of a signature in a keyblock with reserved words of zero. -/
structure SigFields (p : Ptr) (n : Nat) : Prop where
  offset : (p.add n).sigOffset.toNat = fieldAt (p.mem.window p.off) n
  size : (p.add n).sigSize.toNat = fieldAt (p.mem.window p.off) (n + 8)
  dataSize : (p.add n).dataSize.toNat = fieldAt (p.mem.window p.off) (n + 16)

section
variable {p : Ptr} (hzero : ReservedZero p keyblockReserved)
include hzero

theorem signatureFields {n : Nat} (hn : n = 24 ∨ n = 48) : SigFields p n := by
  rcases hn with rfl | rfl
  · exact ⟨add_u64_of_reserved (hzero 28 (by decide)), add_u64_of_reserved (hzero 36 (by decide)),
      add_u64_of_reserved (hzero 44 (by decide))⟩
  · exact ⟨add_u64_of_reserved (hzero 52 (by decide)), add_u64_of_reserved (hzero 60 (by decide)),
      add_u64_of_reserved (hzero 68 (by decide))⟩

theorem keyblockSane_iff {size : UInt64} {n : Nat} (hn : n = 24 ∨ n = 48) :
    KeyblockSane (p.mem.window p.off) size.toNat n ↔
      KeyBlockFits p size n ∧ KeyblockApart (p.mem.window p.off) n := by
  have hsig := signatureFields hzero hn
  have hblock : p.keyBlockSize.toNat = fieldAt (p.mem.window p.off) 16 := u64_of_reserved (hzero 20 (by decide))
  have hoffset : p.dataKey.keyOffset.toNat = fieldAt (p.mem.window p.off) 80 :=
    add_u64_of_reserved (hzero 84 (by decide))
  have hkeySize : p.dataKey.keySize.toNat = fieldAt (p.mem.window p.off) (80 + 8) :=
    add_u64_of_reserved (hzero 92 (by decide))
  have hmagic : p.bytes 8 = (p.mem.window p.off).load 0 8 := by
    rw [Mem.load_window]
    rfl
  have hmajor : p.keyBlockHeaderVersionMajor = le32 (p.mem.window p.off) 8 := (le32_window _ _ 8).symm
  constructor
  · rintro ⟨hheader, hm, hv, hinside, hs, hmuch, henough, hk, hks⟩
    refine ⟨⟨hheader, ?_, ?_, ?_, ?_, ?_, ?_, ?_⟩, hs.apart, hk.apart⟩
    · rw [hmagic]
      exact hm
    · rw [hmajor]
      exact hv
    · rw [hblock]
      exact hinside
    · rw [hsig.offset, hsig.size, hblock]
      exact hs.data
    · rw [hsig.dataSize, hblock]
      exact hmuch
    · rw [hsig.dataSize]
      exact henough
    · rw [hoffset, hkeySize, hsig.dataSize]
      exact hks.data
  · rintro ⟨⟨hheader, hm, hv, hinside, hs, hmuch, henough, hk⟩, hsigApart, hkeyApart⟩
    rw [hmagic] at hm
    rw [hmajor] at hv
    rw [hblock] at hinside hs hmuch
    rw [hsig.offset, hsig.size] at hs
    rw [hsig.dataSize] at hmuch henough hk
    rw [hoffset, hkeySize] at hk
    refine ⟨hheader, hm, hv, hinside, ⟨by omega, hsigApart, hs⟩, hmuch, henough, ⟨by omega, hkeyApart, by omega⟩,
      ⟨by omega, hkeyApart, hk⟩⟩

end

/-- The digest algorithms in the order of hash_type_map. -/
def digestAlgorithm (alg : Nat) : Vb2HashAlgorithm := [.sha1, .sha256, .sha512].getD alg .invalid

/-- The cryptography of the first library over the hash functions of the second. -/
def rsaCrypto (hash : Vb2HashAlgorithm → List UInt8 → List UInt8) : Crypto (Vb2HashAlgorithm × List UInt8) where
  init alg := (digestAlgorithm alg, [])
  update ctx data := (ctx.1, ctx.2 ++ data)
  final ctx := hash ctx.1 ctx.2
  digestBuf data alg := hash (digestAlgorithm alg) data
  rsaVerify := rsaVerify

section
variable {hash : Vb2HashAlgorithm → List UInt8 → List UInt8}

theorem digestBuf_rsaCrypto {t : Nat} (ht : t < kNumAlgorithms) (data : List UInt8) :
    digestBuf (rsaCrypto hash) data t = hash (cryptoToHash.getD t .invalid) data := by
  have htable : ∀ t < kNumAlgorithms, digestAlgorithm (hashTypeMap.getD t 0) = cryptoToHash.getD t .invalid := by
    decide
  exact congrArg (hash · data) (htable t ht)

theorem verifyData_window {p : Ptr} {n : Nat} (hsig : SigFields p n) {rsa : RSAPublicKey}
    (halg : rsa.algorithm < kNumAlgorithms) (hlen : 4 * rsa.len.toNat = siglenMap.getD rsa.algorithm 0)
    {size : UInt64} :
    verifyData (rsaCrypto hash) p size (p.add n) rsa = false ↔
      SignedBy hash rsa.toVb2 (p.mem.window p.off) size.toNat n := by
  have hsize : (vb2RsaSigSize rsa.toVb2.sigAlg).toNat = siglenMap.getD rsa.algorithm 0 :=
    (algorithm_tables rsa.algorithm halg).2.1
  have hbytes : (getSignatureData (p.add n)).bytes (fieldAt (p.mem.window p.off) (n + 8)) =
      sigBytes (p.mem.window p.off) n := by
    rw [sigBytes, Mem.load_window, ← hsig.offset, ← Nat.add_assoc]
    rfl
  have hdata (k : Nat) : p.bytes k = (p.mem.window p.off).load 0 k := by
    rw [Mem.load_window]
    rfl
  have hrsa (hl : fieldAt (p.mem.window p.off) (n + 8) = siglenMap.getD rsa.algorithm 0) :
      rsaVerifyBinary (rsaCrypto hash) rsa p (fieldAt (p.mem.window p.off) (n + 16)) (getSignatureData (p.add n))
        rsa.algorithm = true ↔ RsaAccepts rsa.toVb2 (sigBytes (p.mem.window p.off) n)
          (hash rsa.toVb2.hashAlg ((p.mem.window p.off).load 0 (fieldAt (p.mem.window p.off) (n + 16)))) := by
    rw [rsaVerifyBinary, if_neg (by omega), digestBuf_rsaCrypto halg, ← hl, hbytes, hdata]
    exact rsaVerify_iff halg hlen (by rw [sigBytes, Mem.length_load, hl])
  rw [verifyData_eq_false, hsig.size, UInt64.le_iff_toNat_le, hsig.dataSize]
  constructor
  · rintro ⟨hl, hle, h⟩
    exact ⟨hle, hl.trans hsize.symm, (hrsa hl).mp h⟩
  · rintro ⟨hle, hl, h⟩
    have hl' := hl.trans hsize
    exact ⟨hl', hle, (hrsa hl').mpr h⟩

theorem keyBlockVerify_signed_window {p : Ptr} (hzero : ReservedZero p keyblockReserved) {key : Ptr}
    {rsa : RSAPublicKey} (hkey : publicKeyToRSA key = some rsa) {size : UInt64} :
    (keyBlockVerify (rsaCrypto hash) p size (some key) false = .ok () ∧ KeyblockApart (p.mem.window p.off) 24) ↔
      KeyblockSigned hash rsa.toVb2 (p.mem.window p.off) size.toNat := by
  obtain ⟨halg, hlen⟩ := publicKeyToRSA_length hkey
  have hdata := @verifyData_window hash p 24 (signatureFields hzero (.inl rfl)) rsa halg hlen size
  have hsane := @keyblockSane_iff p hzero size 24 (.inl rfl)
  rw [keyBlockVerify_signed]
  constructor
  · rintro ⟨⟨hfits, rsa', hrsa, hd⟩, hapart⟩
    rw [hkey] at hrsa
    cases hrsa
    exact ⟨hsane.mpr ⟨hfits, hapart⟩, hdata.mp hd⟩
  · rintro ⟨hs, hd⟩
    obtain ⟨hfits, hapart⟩ := hsane.mp hs
    exact ⟨⟨hfits, rsa, hkey, hdata.mpr hd⟩, hapart⟩

/-- KeyBlockVerify with a hash, for such a block. Only the first library looks at the length of the hash. -/
theorem keyBlockVerify_hashed_window {p : Ptr} (hzero : ReservedZero p keyblockReserved) {key : Option Ptr}
    {size : UInt64} :
    (keyBlockVerify (rsaCrypto hash) p size key true = .ok () ∧ KeyblockApart (p.mem.window p.off) 48) ↔
      KeyblockHashed hash (p.mem.window p.off) size.toNat ∧ fieldAt (p.mem.window p.off) 56 = 64 := by
  have hsig := signatureFields hzero (.inr rfl)
  have hsane := @keyblockSane_iff p hzero size 48 (.inr rfl)
  have h64 : (64 : UInt64).toNat = 64 := rfl
  have hlength : p.keyBlockChecksum.sigSize = 64 ↔ fieldAt (p.mem.window p.off) 56 = 64 := by
    rw [← UInt64.toNat_inj, h64, Ptr.keyBlockChecksum, hsig.size]
  have hdigest : digestBuf (rsaCrypto hash) (p.bytes p.keyBlockChecksum.dataSize.toNat) 2 =
      hash .sha512 ((p.mem.window p.off).load 0 (fieldAt (p.mem.window p.off) 64)) := by
    rw [digestBuf_rsaCrypto (by decide), Mem.load_window, Ptr.keyBlockChecksum, hsig.dataSize]
    rfl
  have hbytes : (getSignatureData p.keyBlockChecksum).bytes 64 =
      (p.mem.window p.off).load (48 + fieldAt (p.mem.window p.off) 48) 64 := by
    rw [Mem.load_window, ← hsig.offset, ← Nat.add_assoc]
    rfl
  rw [keyBlockVerify_hashed, hlength, hdigest, hbytes]
  constructor
  · rintro ⟨⟨hfits, hl, hd⟩, hapart⟩
    exact ⟨⟨hsane.mpr ⟨hfits, hapart⟩, hd.symm⟩, hl⟩
  · rintro ⟨⟨hs, hd⟩, hl⟩
    obtain ⟨hfits, hapart⟩ := hsane.mp hs
    exact ⟨⟨hfits, hl, hd.symm⟩, hapart⟩

theorem ReservedZero.copy {p q : Ptr} {size : Nat} {reserved : List Nat} (h : ReservedZero p reserved)
    (hcopy : q.bytes size = p.bytes size) (hin : ∀ i ∈ reserved, i + 4 ≤ size) : ReservedZero q reserved := by
  intro i hi
  have hsame := Mem.load_eq_iff.mp hcopy
  have hword : q.u32 i = p.u32 i := by
    refine le32_congr fun j hj => ?_
    rw [Nat.add_assoc, Nat.add_assoc]
    exact hsame (i + j) (by have := hin i hi; omega)
  rw [hword]
  exact h i hi

/-- A keyblock that vb2_verify_keyblock accepts is accepted by KeyBlockVerify, if the reserved words of the
keyblock and of the packed key are zero. The copy is one of the keyblock before the RSA step. -/
theorem keyBlockVerify_of_vb2VerifyKeyblock {align : UInt32} {m m' keys : Mem} {block buf : UInt64}
    {size keySize : UInt32} {key : Vb2PublicKey} {wb : Vb2Workbuf} {copy : Ptr}
    (hkey : vb2UnpackKey keys buf keySize = .ok key) (hkeyZero : ReservedZero ⟨keys, buf.toNat⟩ packedKeyReserved)
    (hzero : ReservedZero ⟨m, block.toNat⟩ keyblockReserved)
    (haddr : block.toNat + size.toNat < 2 ^ 64) (hspace : VerifySpace align key wb)
    (h : vb2VerifyKeyblock align hash block size key wb m = (.ok (), m'))
    (hcopy : copy.bytes size.toNat = m.load block.toNat size.toNat) :
    keyBlockVerify (rsaCrypto hash) copy size.toUInt64 (some ⟨keys, buf.toNat⟩) false = .ok () := by
  obtain ⟨hsigned, -⟩ := @vb2VerifyKeyblock_window align hash key (vb2UnpackKey_usable hkey) wb hspace m block size haddr
  rw [h] at hsigned
  have hgood := hsigned.mp rfl
  have hheader := hgood.sane.header
  have hcopyZero : ReservedZero copy keyblockReserved := by
    refine hzero.copy hcopy fun i hi => ?_
    have hbound : ∀ i ∈ keyblockReserved, i + 4 ≤ 112 := by decide
    have hi' := hbound i hi
    omega
  have hagree : Mem.Agree (m.window block.toNat) (copy.mem.window copy.off) size.toNat :=
    fun i hi => (Mem.load_eq_iff.mp hcopy i hi).symm
  obtain ⟨rsa, hrsa, rfl⟩ := publicKeyToRSA_of_unpack hkeyZero hkey
  have hgood' := hgood.agree hagree
  rw [← UInt32.toNat_toUInt64] at hgood'
  exact ((keyBlockVerify_signed_window hcopyZero hrsa).mpr hgood').1

end

/-- A keyblock of 504 bytes, signed with the sample key. -/
def signedKeyblock : List UInt8 := sampleKeyblock 0 126 (sampleKeyData 32)

theorem signedKeyblock_verified : ∃ m', vb2VerifyKeyblock 16 sumHash 0x101b0 504 Vb2.sampleKey ⟨0x103b0, 0x3c50⟩
    (sampleLoaded signedKeyblock 504) = (.ok (), m') := by
  refine sample_keyblock_verified ⟨⟨by decide, by decide⟩, by decide⟩ (by decide +kernel)
    ⟨by decide +kernel, by decide +kernel⟩ ?_ ?_
  · have hptr : (vb2SignatureData (sampleLoaded signedKeyblock 504)
        (Vb2Keyblock.keyblockSignature 0x101b0)).toNat = 0x101b0 + 376 := by decide +kernel
    rw [hptr, load_sampleLoaded _ (by decide) (by decide +kernel)]
    decide +kernel
  · decide +kernel

theorem signedKeyblock_reserved : ReservedZero ⟨sampleLoaded signedKeyblock 504, 0x101b0⟩ keyblockReserved := by
  decide +kernel

/-- The packed sample key with a reserved word that is not zero, the one behind its algorithm. -/
def reservedKey : Mem := sampleRoot.store 0x10094 [1]

/-- The first library takes the reserved word for a part of the algorithm. -/
theorem reserved_key_rejected :
    vb2UnpackKey reservedKey 0x10080 296 = .ok Vb2.sampleKey ∧
    ReservedZero ⟨sampleLoaded signedKeyblock 504, 0x101b0⟩ keyblockReserved ∧
    VerifySpace 16 Vb2.sampleKey ⟨0x103b0, 0x3c50⟩ ∧
    (∃ m', vb2VerifyKeyblock 16 sumHash 0x101b0 504 Vb2.sampleKey ⟨0x103b0, 0x3c50⟩
      (sampleLoaded signedKeyblock 504) = (.ok (), m')) ∧
    keyBlockVerify (rsaCrypto sumHash) ⟨sampleLoaded signedKeyblock 504, 0x101b0⟩ 504
      (some ⟨reservedKey, 0x10080⟩) false = .error .publicKeyInvalid :=
  ⟨by decide +kernel, signedKeyblock_reserved, ⟨⟨by decide, by decide⟩, by decide⟩, signedKeyblock_verified,
    by decide +kernel⟩

theorem keyBlockVerify_of_vb2VerifyKeyblock_sample :
    keyBlockVerify (rsaCrypto sumHash) ⟨sampleLoaded signedKeyblock 504, 0x101b0⟩ 504
      (some ⟨sampleRoot, 0x10080⟩) false = .ok () := by
  obtain ⟨m', h⟩ := signedKeyblock_verified
  have hcopy (m : Mem) (n : Nat) : (⟨m, 0x101b0⟩ : Ptr).bytes n = m.load (UInt64.toNat 0x101b0) n := rfl
  exact @keyBlockVerify_of_vb2VerifyKeyblock sumHash 16 (sampleLoaded signedKeyblock 504) m' sampleRoot 0x101b0
    0x10080 504 296 Vb2.sampleKey ⟨0x103b0, 0x3c50⟩ ⟨sampleLoaded signedKeyblock 504, 0x101b0⟩ sampleRoot_unpacked
    (by decide +kernel) signedKeyblock_reserved (by decide) ⟨⟨by decide, by decide⟩, by decide⟩ h (hcopy _ _)

end Vboot
