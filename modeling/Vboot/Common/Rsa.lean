import Vboot.Common.Signed
import Vboot.Vb2.Window

/-! RSAVerify of firmware/lib/cryptolib/rsa.c with the tables of padding.c. It decides as the RSA step of
the vboot2 library does. -/
namespace Vboot
open Vboot.Lib Vboot.Vb2

/-- The key as the vboot2 library has it. -/
def RSAPublicKey.toVb2 (key : RSAPublicKey) : Vb2PublicKey where
  arrsize := key.len
  n0inv := key.n0inv
  n := key.n
  rr := key.rr
  sigAlg := cryptoToSig.getD key.algorithm .invalid
  hashAlg := cryptoToHash.getD key.algorithm .invalid

/- subM, geM, montMulAdd, montMul and modpowF4 of rsa.c are those of firmware/2lib/2rsa.c, with len in
   place of arrsize. -/
def modpowF4 (key : RSAPublicKey) (inout : List UInt8) : List UInt8 := Vb2.modpowF4 key.toVb2 inout

/-- A table of padding.c: two bytes, a number of bytes 0xff and a tail. -/
def padding (count : Nat) (tail : List UInt8) : List UInt8 :=
  [0x00, 0x01] ++ List.replicate count 0xff ++ tail

def paddingMap : List (List UInt8) :=
  [padding 90 sha1Tail, padding 74 sha256Tail, padding 42 sha512Tail,
    padding 218 sha1Tail, padding 202 sha256Tail, padding 170 sha512Tail,
    padding 474 sha1Tail, padding 458 sha256Tail, padding 426 sha512Tail,
    padding 986 sha1Tail, padding 970 sha256Tail, padding 938 sha512Tail]

def paddingSizeMap : List Nat :=
  [128 - 20, 128 - 32, 128 - 64, 256 - 20, 256 - 32, 256 - 64, 512 - 20, 512 - 32, 512 - 64,
    1024 - 20, 1024 - 32, 1024 - 64]

/- The length of the signature is the one of the list. Memory is not exhausted, and SafeMemcmp is
   vb2_safe_memcmp. -/
def rsaVerify (key : RSAPublicKey) (sig : List UInt8) (sigType : Nat) (hash : List UInt8) : Bool :=
  if sig.length ≠ 4 * key.len.toNat then false
  else if kNumAlgorithms ≤ sigType then false
  else if key.len.toNat ≠ siglenMap.getD sigType 0 / 4 then false
  else
    let buf := modpowF4 key sig
    let paddingLen := paddingSizeMap.getD sigType 0
    !vb2SafeMemcmp buf (paddingMap.getD sigType []) paddingLen &&
      !vb2SafeMemcmp (buf.drop paddingLen) hash (sig.length - paddingLen)

theorem algorithm_tables : ∀ t < kNumAlgorithms,
    vb2RsaSigSize (cryptoToSig.getD t .invalid) ≠ 0 ∧
    (vb2RsaSigSize (cryptoToSig.getD t .invalid)).toNat = siglenMap.getD t 0 ∧
    (vb2RsaSigSize (cryptoToSig.getD t .invalid) - vb2DigestSize (cryptoToHash.getD t .invalid)).toNat =
      paddingSizeMap.getD t 0 ∧
    paddingSizeMap.getD t 0 ≤ siglenMap.getD t 0 := by
  decide

variable {key : RSAPublicKey}

theorem vb2CheckPadding_table (halg : key.algorithm < kNumAlgorithms) (buf : List UInt8) :
    vb2CheckPadding buf key.toVb2 = vb2Success ↔
      vb2SafeMemcmp buf (paddingMap.getD key.algorithm []) (paddingSizeMap.getD key.algorithm 0) = false := by
  rw [vb2CheckPadding, RSAPublicKey.toVb2]
  dsimp only
  generalize key.algorithm = t at halg
  have ht : t < 12 := halg
  interval_cases t
  all_goals exact checkTail_fullPadding rfl

theorem rsaVerify_iff (halg : key.algorithm < kNumAlgorithms)
    (hlen : 4 * key.len.toNat = siglenMap.getD key.algorithm 0) {sig digest : List UInt8}
    (hsig : sig.length = siglenMap.getD key.algorithm 0) :
    rsaVerify key sig key.algorithm digest = true ↔ RsaAccepts key.toVb2 sig digest := by
  obtain ⟨hpos, hsize, hpad, hle⟩ := algorithm_tables key.algorithm halg
  have hwords := mul_four (hlen.trans hsize.symm)
  have hrest : (key.len * 4 - (vb2RsaSigSize (cryptoToSig.getD key.algorithm .invalid) -
      vb2DigestSize (cryptoToHash.getD key.algorithm .invalid))).toNat =
      sig.length - paddingSizeMap.getD key.algorithm 0 := by
    rw [hwords, UInt32.toNat_sub_of_le _ _ (UInt32.le_iff_toNat_le.mpr (by omega)), hpad, hsize, hsig]
  rw [rsaVerify, if_neg (by omega), if_neg (by omega), if_neg (by omega)]
  dsimp only
  rw [Bool.and_eq_true, Bool.not_eq_true', Bool.not_eq_true', ← vb2CheckPadding_table halg, ← hrest, ← hpad]
  exact ⟨fun h => ⟨hpos, hwords, h.1, h.2⟩, fun h => ⟨h.2.2.1, h.2.2.2⟩⟩

end Vboot
