import Vboot.Common.Rsa
import Vboot.Vb2.KernelVerdict

/-! Packed keys as the two libraries see them: PublicKeyToRSA of firmware/lib/vboot_common.c reads 64-bit
fields where vb2_unpack_key of firmware/lib20/packed_key.c reads their lower halves and calls the upper
ones reserved. The RSA steps decide alike with the key. -/
namespace Vboot
open Vboot.Lib Vboot.Vb2

/-- The reserved words of struct vb2_packed_key. -/
def packedKeyReserved : List Nat := [4, 12, 20, 28]

def ReservedZero (p : Ptr) (reserved : List Nat) : Prop := ∀ i ∈ reserved, p.u32 i = 0

instance (p : Ptr) (reserved : List Nat) : Decidable (ReservedZero p reserved) :=
  inferInstanceAs (Decidable (∀ i ∈ reserved, p.u32 i = 0))

def parsedKey (data : Ptr) (algorithm : Nat) : RSAPublicKey where
  len := data.u32 0
  n0inv := data.u32 4
  n := words (data.add 8) (siglenMap.getD algorithm 0)
  rr := words (data.add (8 + siglenMap.getD algorithm 0)) (siglenMap.getD algorithm 0)
  algorithm := algorithm

/-- The data has the size of the algorithm, and its first word agrees with that. -/
structure KeyLengths (algorithm size words : Nat) : Prop where
  known : algorithm < kNumAlgorithms
  size : size = 2 * siglenMap.getD algorithm 0 + 8
  words : 4 * words = siglenMap.getD algorithm 0

theorem siglenMap_cases : ∀ t < kNumAlgorithms, siglenMap.getD t 0 = 128 ∨ siglenMap.getD t 0 = 256 ∨
    siglenMap.getD t 0 = 512 ∨ siglenMap.getD t 0 = 1024 := by decide

theorem publicKeyToRSA_eq_some {key : Ptr} {rsa : RSAPublicKey} :
    publicKeyToRSA key = some rsa ↔
      KeyLengths key.algorithm.toNat key.keySize.toNat ((getPublicKeyData key).u32 0).toNat ∧
      rsa = parsedKey (getPublicKeyData key) key.algorithm.toNat := by
  by_cases hknown : key.algorithm.toNat < kNumAlgorithms
  · have hcases := siglenMap_cases _ hknown
    rw [publicKeyToRSA, if_neg (Nat.not_le.mpr hknown), rsaProcessedKeySize, if_pos hknown, rsaPublicKeyFromBuf]
    dsimp only
    constructor
    · intro h
      split_ifs at h with hsize hshort hlen htotal
      have hsize' := Option.some.inj (not_not.mp hsize)
      have hwords : 4 * ((getPublicKeyData key).u32 0).toNat = siglenMap.getD key.algorithm.toNat 0 := by omega
      cases h
      refine ⟨⟨hknown, by omega, hwords⟩, ?_⟩
      rw [parsedKey, hwords]
    · rintro ⟨⟨-, hsize, hwords⟩, rfl⟩
      rw [if_neg (by rw [not_not]; exact congrArg some (by omega)), if_neg (by omega), if_neg (by omega),
        if_neg (by omega), hwords, parsedKey]
  · rw [publicKeyToRSA, if_pos (Nat.not_lt.mp hknown)]
    exact iff_of_false (fun h => by cases h) fun h => hknown h.1.known

theorem publicKeyToRSA_length {key : Ptr} {rsa : RSAPublicKey} (h : publicKeyToRSA key = some rsa) :
    rsa.algorithm < kNumAlgorithms ∧ 4 * rsa.len.toNat = siglenMap.getD rsa.algorithm 0 := by
  obtain ⟨hlengths, rfl⟩ := publicKeyToRSA_eq_some.mp h
  exact ⟨hlengths.known, hlengths.words⟩

theorem cryptoToSig_invalid (t : Nat) :
    (cryptoToSig.getD t .invalid = .invalid ↔ ¬ t < kNumAlgorithms) ∧
      (cryptoToHash.getD t .invalid = .invalid ↔ ¬ t < kNumAlgorithms) := by
  by_cases h : t < kNumAlgorithms
  · have hall : ∀ t < kNumAlgorithms, cryptoToSig.getD t .invalid ≠ .invalid ∧
        cryptoToHash.getD t .invalid ≠ .invalid := by decide
    obtain ⟨hsig, hhash⟩ := hall t h
    exact ⟨iff_of_false hsig (not_not.mpr h), iff_of_false hhash (not_not.mpr h)⟩
  · exact ⟨iff_of_true (List.getD_eq_default _ _ (Nat.not_lt.mp h)) h,
      iff_of_true (List.getD_eq_default _ _ (Nat.not_lt.mp h)) h⟩

theorem expected_sizes {t : Nat} (h : t < kNumAlgorithms) (keySize arrsize : UInt32) :
    (¬(vb2PackedKeySize (cryptoToSig.getD t .invalid) = 0 ∨
        vb2PackedKeySize (cryptoToSig.getD t .invalid) ≠ keySize) ↔
      keySize.toNat = 2 * siglenMap.getD t 0 + 8) ∧
    (¬ arrsize.toUInt64 * 4 ≠ (vb2RsaSigSize (cryptoToSig.getD t .invalid)).toUInt64 ↔
      4 * arrsize.toNat = siglenMap.getD t 0) := by
  have hsizes : ∀ t < kNumAlgorithms, vb2PackedKeySize (cryptoToSig.getD t .invalid) ≠ 0 ∧
      (vb2PackedKeySize (cryptoToSig.getD t .invalid)).toNat = 2 * siglenMap.getD t 0 + 8 := by decide
  obtain ⟨hpos, hsize⟩ := hsizes t h
  obtain ⟨-, hsiglen, -, -⟩ := algorithm_tables t h
  have hfour : (4 : UInt64).toNat = 4 := rfl
  have harr := arrsize.toNat_lt
  constructor
  · rw [not_or, not_not]
    exact ⟨fun hx => (congrArg UInt32.toNat hx.2).symm.trans hsize,
      fun hx => ⟨hpos, UInt32.toNat_inj.mp (hsize.trans hx.symm)⟩⟩
  · rw [not_not, ← UInt64.toNat_inj, UInt64.toNat_mul, UInt32.toNat_toUInt64, UInt32.toNat_toUInt64, hfour,
      Nat.mod_eq_of_lt (by omega), hsiglen, Nat.mul_comm]

variable {m : Mem}

theorem vb2UnpackKey_eq_ok {buf : UInt64} {size : UInt32} {key : Vb2PublicKey} :
    vb2UnpackKey m buf size = .ok key ↔
      vb2VerifyPackedKeyInside m buf size buf = .ok () ∧ vb2Aligned (vb2PackedKeyData m buf) 4 = true ∧
      KeyLengths (Vb2PackedKey.algorithm m buf).toNat (Vb2PackedKey.keySize m buf).toNat
        (le32 m (vb2PackedKeyData m buf).toNat).toNat ∧
      key = (parsedKey ⟨m, (vb2PackedKeyData m buf).toNat⟩ (Vb2PackedKey.algorithm m buf).toNat).toVb2 := by
  obtain ⟨hsig, hhash⟩ := cryptoToSig_invalid (Vb2PackedKey.algorithm m buf).toNat
  rw [vb2UnpackKey, bind_eq_ok]
  simp only [reject_bind_eq_ok]
  simp only [vb2CryptoToSignature, vb2CryptoToHash, hsig, hhash, not_not]
  have hkey (hwords : 4 * (le32 m (vb2PackedKeyData m buf).toNat).toNat =
        siglenMap.getD (Vb2PackedKey.algorithm m buf).toNat 0) :
      (parsedKey ⟨m, (vb2PackedKeyData m buf).toNat⟩ (Vb2PackedKey.algorithm m buf).toNat).toVb2 =
        { arrsize := le32 m (vb2PackedKeyData m buf).toNat
          n0inv := le32 m ((vb2PackedKeyData m buf).toNat + 4)
          n := words ⟨m, (vb2PackedKeyData m buf).toNat + 8⟩ (4 * (le32 m (vb2PackedKeyData m buf).toNat).toNat)
          rr := words ⟨m, (vb2PackedKeyData m buf).toNat + 8 + 4 * (le32 m (vb2PackedKeyData m buf).toNat).toNat⟩
            (4 * (le32 m (vb2PackedKeyData m buf).toNat).toNat)
          sigAlg := cryptoToSig.getD (Vb2PackedKey.algorithm m buf).toNat .invalid
          hashAlg := cryptoToHash.getD (Vb2PackedKey.algorithm m buf).toNat .invalid } := by
    rw [hwords, Nat.add_assoc]
    rfl
  constructor
  · rintro ⟨_, hin, hknown, -, hsize, haligned, harr, h⟩
    obtain ⟨hexpected, hwords⟩ := expected_sizes hknown (Vb2PackedKey.keySize m buf)
      (le32 m (vb2PackedKeyData m buf).toNat)
    have hwords' := hwords.mp (not_not.mpr harr)
    refine ⟨hin, haligned, ⟨hknown, hexpected.mp hsize, hwords'⟩, ?_⟩
    rw [hkey hwords']
    exact (Except.ok.inj h).symm
  · rintro ⟨hin, haligned, ⟨hknown, hsize, hwords⟩, rfl⟩
    obtain ⟨hexpected, hwords'⟩ := expected_sizes hknown (Vb2PackedKey.keySize m buf)
      (le32 m (vb2PackedKeyData m buf).toNat)
    refine ⟨(), hin, hknown, hknown, hexpected.mpr hsize, haligned, not_not.mp (hwords'.mpr hwords), ?_⟩
    rw [hkey hwords]
    rfl

structure PackedKeyFields (m : Mem) (buf : UInt64) : Prop where
  offset : (Ptr.keyOffset ⟨m, buf.toNat⟩).toNat = (Vb2PackedKey.keyOffset m buf).toNat
  size : (Ptr.keySize ⟨m, buf.toNat⟩).toNat = (Vb2PackedKey.keySize m buf).toNat
  algorithm : (Ptr.algorithm ⟨m, buf.toNat⟩).toNat = (Vb2PackedKey.algorithm m buf).toNat

theorem packedKeyFields {buf : UInt64} (hzero : ReservedZero ⟨m, buf.toNat⟩ packedKeyReserved) :
    PackedKeyFields m buf where
  offset := congrArg UInt64.toNat (le64_of_high_zero (hzero 4 (by decide)))
  size := congrArg UInt64.toNat (le64_of_high_zero (hzero 12 (by decide)))
  algorithm := congrArg UInt64.toNat (le64_of_high_zero (hzero 20 (by decide)))

theorem publicKeyToRSA_fields {buf : UInt64} {rsa : RSAPublicKey}
    (hzero : ReservedZero ⟨m, buf.toNat⟩ packedKeyReserved)
    (haddr : buf.toNat + (Vb2PackedKey.keyOffset m buf).toNat < 2 ^ 64) :
    publicKeyToRSA ⟨m, buf.toNat⟩ = some rsa ↔
      KeyLengths (Vb2PackedKey.algorithm m buf).toNat (Vb2PackedKey.keySize m buf).toNat
        (le32 m (vb2PackedKeyData m buf).toNat).toNat ∧
      rsa = parsedKey ⟨m, (vb2PackedKeyData m buf).toNat⟩ (Vb2PackedKey.algorithm m buf).toNat := by
  have hfields := packedKeyFields hzero
  have hdata : getPublicKeyData ⟨m, buf.toNat⟩ = ⟨m, (vb2PackedKeyData m buf).toNat⟩ := by
    rw [getPublicKeyData, hfields.offset, vb2PackedKeyData_toNat haddr, Ptr.add]
  rw [publicKeyToRSA_eq_some, hfields.algorithm, hfields.size, hdata]
  exact Iff.rfl

/-- A packed key that the vboot2 library unpacks is one for the first library too, if its reserved words
are zero. -/
theorem publicKeyToRSA_of_unpack {buf : UInt64} {size : UInt32} {key : Vb2PublicKey}
    (hzero : ReservedZero ⟨m, buf.toNat⟩ packedKeyReserved) (h : vb2UnpackKey m buf size = .ok key) :
    ∃ rsa, publicKeyToRSA ⟨m, buf.toNat⟩ = some rsa ∧ rsa.toVb2 = key := by
  obtain ⟨hin, -, hlengths, rfl⟩ := vb2UnpackKey_eq_ok.mp h
  obtain ⟨haddr, -, -, hdata⟩ := vb2VerifyPackedKeyInside_self.mp hin
  exact ⟨_, (publicKeyToRSA_fields hzero (by omega)).mpr ⟨hlengths, rfl⟩, rfl⟩

/-- A packed key whose header and data are in the buffer, with aligned data and reserved words of zero, is
unpacked exactly if PublicKeyToRSA takes it and its data is behind its header. Both have the same words. -/
theorem unpackKey_iff_publicKeyToRSA {buf : UInt64} {size : UInt32}
    (hzero : ReservedZero ⟨m, buf.toNat⟩ packedKeyReserved)
    (haddr : buf.toNat + size.toNat < 2 ^ 64) (hheader : 32 ≤ size.toNat)
    (hdata : (Vb2PackedKey.keyOffset m buf).toNat + (Vb2PackedKey.keySize m buf).toNat ≤ size.toNat)
    (haligned : vb2Aligned (vb2PackedKeyData m buf) 4 = true) :
    ((∃ key, vb2UnpackKey m buf size = .ok key) ↔
      (∃ rsa, publicKeyToRSA ⟨m, buf.toNat⟩ = some rsa) ∧ 32 ≤ (Vb2PackedKey.keyOffset m buf).toNat) ∧
    ∀ key rsa, vb2UnpackKey m buf size = .ok key → publicKeyToRSA ⟨m, buf.toNat⟩ = some rsa →
      rsa.len = key.arrsize ∧ rsa.n0inv = key.n0inv ∧ rsa.n = key.n ∧ rsa.rr = key.rr := by
  have hfields (rsa : RSAPublicKey) := @publicKeyToRSA_fields m buf rsa hzero (by omega)
  refine ⟨⟨?_, ?_⟩, fun key rsa hkey hrsa => ?_⟩
  · rintro ⟨key, h⟩
    obtain ⟨hin, -, hlengths, -⟩ := vb2UnpackKey_eq_ok.mp h
    obtain ⟨-, -, hapart, -⟩ := vb2VerifyPackedKeyInside_self.mp hin
    have hsize := hlengths.size
    exact ⟨⟨_, (hfields _).mpr ⟨hlengths, rfl⟩⟩, hapart (by omega)⟩
  · rintro ⟨⟨rsa, h⟩, hapart⟩
    obtain ⟨hlengths, -⟩ := (hfields rsa).mp h
    have hin := vb2VerifyPackedKeyInside_self.mpr ⟨haddr, hheader, fun _ => hapart, hdata⟩
    exact ⟨_, vb2UnpackKey_eq_ok.mpr ⟨hin, haligned, hlengths, rfl⟩⟩
  · obtain ⟨-, -, -, rfl⟩ := vb2UnpackKey_eq_ok.mp hkey
    obtain ⟨-, rfl⟩ := (hfields rsa).mp hrsa
    exact ⟨rfl, rfl, rfl, rfl⟩

theorem unpackKey_iff_publicKeyToRSA_sample :
    (∃ rsa, publicKeyToRSA ⟨sampleRoot, 0x10080⟩ = some rsa) ∧
      32 ≤ (Vb2PackedKey.keyOffset sampleRoot 0x10080).toNat :=
  (@unpackKey_iff_publicKeyToRSA sampleRoot 0x10080 296 (by decide +kernel) (by decide) (by decide)
    (by decide +kernel) (by decide +kernel)).1.mp ⟨Vb2.sampleKey, sampleRoot_unpacked⟩

/-- A key whose data begins in its header: the version is the number of words and the reserved word
behind it is n0inv. -/
def overlappingKey : Mem :=
  Mem.ofList (leBytes64 24 ++ leBytes64 264 ++ leBytes64 0 ++ leBytes64 32)

theorem overlappingKey_rejected :
    ReservedZero ⟨overlappingKey, 0⟩ packedKeyReserved ∧
    (Vb2PackedKey.keyOffset overlappingKey 0).toNat + (Vb2PackedKey.keySize overlappingKey 0).toNat ≤ 288 ∧
    vb2Aligned (vb2PackedKeyData overlappingKey 0) 4 = true ∧
    (publicKeyToRSA ⟨overlappingKey, 0⟩).isSome = true ∧
    vb2UnpackKey overlappingKey 0 288 = .error vb2ErrorInsideDataOverlap := by
  decide +kernel

/-- With a key of the length of its algorithm and a sufficient work buffer, RSAVerify accepts a signature
exactly if vb2_rsa_verify_digest does. -/
theorem rsaVerify_iff_vb2RsaVerifyDigest {key : RSAPublicKey} (halg : key.algorithm < kNumAlgorithms)
    (hlen : 4 * key.len.toNat = siglenMap.getD key.algorithm 0) {sig : List UInt8}
    (hsig : sig.length = siglenMap.getD key.algorithm 0) (digest : List UInt8) {align : UInt32} {wb : Vb2Workbuf}
    (hwb : (vb2WorkbufAlloc align wb (3 * (key.len * 4))).1 ≠ none) :
    rsaVerify key sig key.algorithm digest = true ↔
      (vb2RsaVerifyDigest align (some key.toVb2) (some sig) (some digest) wb).1 = vb2Success := by
  obtain ⟨hpos, hsize, -, -⟩ := algorithm_tables key.algorithm halg
  have hwords := mul_four (hlen.trans hsize.symm)
  rw [rsaVerify_iff halg hlen hsig]
  exact (@vb2RsaVerifyDigest_space key.toVb2 align wb hpos hwords sig digest hwb).1.symm

def sampleRsaKey : RSAPublicKey := ⟨32, 1, List.replicate 32 0xffffffff, 1 :: List.replicate 31 0, 0⟩

theorem rsaVerify_iff_vb2RsaVerifyDigest_sample :
    rsaVerify sampleRsaKey Vb2.sampleSignature sampleRsaKey.algorithm sampleDigest = true :=
  (@rsaVerify_iff_vb2RsaVerifyDigest sampleRsaKey (by decide) (by decide) Vb2.sampleSignature
    (by decide +kernel) sampleDigest 16 ⟨0, 0x1000⟩ (by decide)).mpr (sampleKey_verifies sampleSignature_rsa (by decide))

end Vboot
