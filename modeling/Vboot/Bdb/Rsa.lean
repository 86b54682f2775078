import Vboot.Vb2.Pkcs1

/-! RSA signature verification of the boot descriptor block, bdb/rsa.c. Its multiplication and its
comparisons are those of firmware/2lib/2rsa.c, with fixed sizes and SHA-256 only. -/
namespace Vboot.Bdb
open Vboot.Lib Vboot.Vb2

/- The return codes that the verification has. -/
def bdbSuccess : UInt32 := 0
def bdbErrorDigest : UInt32 := 120

def bdbSha256DigestSize : UInt32 := 32
def arrsize4096 : UInt32 := 4096 / 32
def arrsize3072B : UInt32 := 3072 / 32

/-- The key in a buffer, which is read as words. It has no algorithms of its own. -/
def unpackKey (kdata32 : List UInt32) : Vb2PublicKey where
  arrsize := kdata32.getD 0 0
  n0inv := kdata32.getD 1 0
  n := (kdata32.drop 2).take (kdata32.getD 0 0).toNat
  rr := (kdata32.drop (2 + (kdata32.getD 0 0).toNat)).take (kdata32.getD 0 0).toNat
  sigAlg := .invalid
  hashAlg := .sha256

def bdbCheckPadding (sig : List UInt8) (padSize : UInt32) : UInt32 :=
  if checkTail sig padSize sha256Tail = vb2Success then bdbSuccess else bdbErrorDigest

def modpow3 (key : Vb2PublicKey) (inout : List UInt8) : List UInt8 :=
  let a := toWords key.arrsize.toNat inout
  let aR := montMul key a key.rr
  let aaR := montMul key aR aR
  let aaa := montMul key aaR a
  toBytes (if vb2MontGe key aaa then subM key aaa else aaa)

/-- The two verification functions differ in the size and in the power. -/
def bdbRsaVerify (arrsize : UInt32) (modpow : Vb2PublicKey → List UInt8 → List UInt8)
    (kdata32 : List UInt32) (sig digest : List UInt8) : UInt32 :=
  if kdata32.getD 0 0 ≠ arrsize then bdbErrorDigest
  else
    let key := unpackKey kdata32
    let sigWork := modpow key (sig.take (4 * arrsize.toNat))
    let padSize := key.arrsize * 4 - bdbSha256DigestSize
    let rv := bdbCheckPadding sigWork padSize
    if vb2SafeMemcmp (sigWork.drop padSize.toNat) digest bdbSha256DigestSize.toNat then bdbErrorDigest
    else rv

def bdbRsa4096Verify := bdbRsaVerify arrsize4096 modpowF4

def bdbRsa3072bVerify := bdbRsaVerify arrsize3072B modpow3

theorem modpow3_spec {key : Vb2PublicKey} (hk : key.WellFormed) {sig : List UInt8}
    (h : sig.length = 4 * key.words) :
    modpow3 key sig = toBigEndian (4 * key.words) (beValue sig ^ 3 % key.modulus) := by
  obtain ⟨ha, hv⟩ := toWords_value key.words sig h
  obtain ⟨hl, hbase⟩ := montMul_rr hk ha
  obtain ⟨hl₂, h₂⟩ := montMul_represents hk hl hl hbase hbase
  obtain ⟨hl₃, h₃⟩ := montMul_plain hk hl₂ ha h₂
  have hp : value (toWords key.words sig) * value (toWords key.words sig) *
      value (toWords key.words sig) = beValue sig ^ 3 := by
    rw [hv]
    ring
  rw [hp] at h₃
  rw [← h₃]
  exact toBytes_reduced hk hl₃

theorem bdbRsaVerify_iff {arrsize : UInt32} {modpow : Vb2PublicKey → List UInt8 → List UInt8}
    {kdata32 : List UInt32} (hsize : (unpackKey kdata32).arrsize = arrsize) {sig digest : List UInt8}
    {power : Nat} (hsig : sig.length = 4 * arrsize.toNat) (hdigest : digest.length = 32)
    (hpower : modpow (unpackKey kdata32) sig = toBigEndian (4 * arrsize.toNat) power)
    (hpad : (arrsize * 4 - 32).toNat = 4 * arrsize.toNat - 32)
    (hcount : (arrsize * 4 - 32 - 20 - 2).toNat = 4 * arrsize.toNat - 51 - 3) (hroom : 54 ≤ 4 * arrsize.toNat) :
    bdbRsaVerify arrsize modpow kdata32 sig digest = bdbSuccess ↔
      emsaPkcs1 .sha256 digest (4 * arrsize.toNat) = some (toBigEndian (4 * arrsize.toNat) power) := by
  have hne : bdbErrorDigest ≠ bdbSuccess := by decide
  have htail : sha256Tail.length = 20 := rfl
  have hword : kdata32.getD 0 0 = arrsize := hsize
  have hiff := @checkTail_iff (toBigEndian (4 * arrsize.toNat) power) sha256Tail digest (arrsize * 4 - 32) _
    (by rw [hpad, htail]; omega) (by rw [hpad, length_toBigEndian]; omega) hcount
  have hencoding : emsaPkcs1 .sha256 digest (4 * arrsize.toNat) =
      some (fullPadding (4 * arrsize.toNat - 51 - 3) sha256Tail ++ digest) := by
    simp [emsaPkcs1, digestInfo, sha256Tail, hdigest]
  rw [hencoding, Option.some.injEq, eq_comm (b := toBigEndian _ _), ← hiff, hdigest, bdbRsaVerify, if_neg (not_not.mpr hword),
    List.take_of_length_le hsig.le]
  dsimp only
  rw [hpower, hsize, bdbCheckPadding]
  split_ifs with h₁ h₂
  · exact iff_of_false hne fun h => Bool.false_ne_true (h.2.symm.trans h₁)
  · exact iff_of_true rfl ⟨h₂, Bool.eq_false_of_not_eq_true h₁⟩
  · exact iff_of_false hne fun h => h₂ h.1

/-- For a well-formed key of the right size, acceptance means that the power of the signature is the
encoding of the digest. -/
theorem bdbRsaVerify_exact {kdata32 : List UInt32} (hk : (unpackKey kdata32).WellFormed)
    {sig digest : List UInt8} (hsig : sig.length = 4 * (unpackKey kdata32).words)
    (hdigest : digest.length = 32) :
    ((unpackKey kdata32).arrsize = arrsize4096 → (bdbRsa4096Verify kdata32 sig digest = bdbSuccess ↔
      emsaPkcs1 .sha256 digest 512 =
        some (toBigEndian 512 (beValue sig ^ 65537 % (unpackKey kdata32).modulus)))) ∧
    ((unpackKey kdata32).arrsize = arrsize3072B → (bdbRsa3072bVerify kdata32 sig digest = bdbSuccess ↔
      emsaPkcs1 .sha256 digest 384 =
        some (toBigEndian 384 (beValue sig ^ 3 % (unpackKey kdata32).modulus)))) := by
  have hF4 := modpowF4_spec hk hsig
  have h3 := modpow3_spec hk hsig
  rw [Vb2PublicKey.words] at hsig hF4 h3
  constructor <;> intro hw <;> rw [hw] at hsig hF4 h3
  · exact bdbRsaVerify_iff hw hsig hdigest hF4 (by decide) (by decide) (by decide)
  · exact bdbRsaVerify_iff hw hsig hdigest h3 (by decide) (by decide) (by decide)

/-- The encoding of a small digest, as a number. -/
def sampleEncoding (words digest : Nat) : Nat :=
  (2 ^ (32 * words - 431) - 1) * 2 ^ 416 + 0x3031300d060960864801650304020105000420 * 2 ^ 256 + digest

def sampleWords (words x : Nat) : List UInt32 :=
  (List.range words).map fun i => UInt32.ofNat (x / 2 ^ (32 * i))

/- The modulus is a multiple of E + 1 for an encoding E. The other factor divides E - 1, so that every odd
   power of E is E. -/
def sampleKey (words digest : Nat) (n0inv : UInt32) : List UInt32 :=
  let n := 16385 * (sampleEncoding words digest + 1)
  UInt32.ofNat words :: n0inv :: sampleWords words n ++ sampleWords words (2 ^ (64 * words) % n)

theorem bdbRsaVerify_samples :
    bdbRsa4096Verify (sampleKey 128 0x645c 0x672cb00b) (toBigEndian 512 (sampleEncoding 128 0x645c))
      (toBigEndian 32 0x645c) = bdbSuccess ∧
    bdbRsa3072bVerify (sampleKey 96 0x63bc 0x5051d06b) (toBigEndian 384 (sampleEncoding 96 0x63bc))
      (toBigEndian 32 0x63bc) = bdbSuccess := by
  have h₁ : (unpackKey (sampleKey 128 0x645c 0x672cb00b)).WellFormed := by constructor <;> decide +kernel
  have h₂ : (unpackKey (sampleKey 96 0x63bc 0x5051d06b)).WellFormed := by constructor <;> decide +kernel
  have hd (x : Nat) : (toBigEndian 32 x).length = 32 := length_toBigEndian 32 x
  constructor
  · rw [(bdbRsaVerify_exact h₁ (length_toBigEndian 512 _) (hd _)).1 rfl]
    decide +kernel
  · rw [(bdbRsaVerify_exact h₂ (length_toBigEndian 384 _) (hd _)).2 rfl]
    decide +kernel

end Vboot.Bdb
