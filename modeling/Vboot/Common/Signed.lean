import Mathlib.Data.UInt
import Vboot.Common.Verify

/-! The ranges that the checks of firmware/lib/vboot_common.c leave inside a block, and the bytes on
which the verdict on a preamble depends. -/
namespace Vboot
open Vboot.Lib

theorem verifyMemberInside_eq_false {parent parentSize member memberSize offset size : UInt64} :
    verifyMemberInside parent parentSize member memberSize offset size = false ↔
      (member - parent).toNat + memberSize.toNat ≤ parentSize.toNat ∧
      (member - parent).toNat + offset.toNat + size.toNat ≤ parentSize.toNat := by
  unfold verifyMemberInside offsetOf
  generalize member - parent = start
  have hmax : uint64Max.toNat = 2 ^ 64 - 1 := rfl
  have hstart := start.toNat_lt
  have hparent := parentSize.toNat_lt
  have hmember := memberSize.toNat_lt
  have hoffset := offset.toNat_lt
  have hsize := size.toNat_lt
  simp only [UInt64.lt_iff_toNat_lt, gt_iff_lt, UInt64.toNat_add, UInt64.toNat_sub, hmax]
  split_ifs
  all_goals first
    | exact iff_of_false not_false (by omega)
    | exact iff_of_true rfl (by omega)

theorem address_add_sub (p : Ptr) (n : Nat) : ((p.add n).address - p.address).toNat = n % 2 ^ 64 := by
  unfold Ptr.address Ptr.add
  rw [UInt64.toNat_sub, UInt64.toNat_ofNat', UInt64.toNat_ofNat']
  dsimp only
  omega

theorem verifySignatureInside_eq_false {parent : Ptr} {parentSize : UInt64} {n : Nat} (hn : n < 2 ^ 64) :
    verifySignatureInside parent parentSize (parent.add n) = false ↔
      n + 24 ≤ parentSize.toNat ∧
      n + (parent.add n).sigOffset.toNat + (parent.add n).sigSize.toNat ≤ parentSize.toNat := by
  have hsize : vbSignatureSize.toNat = 24 := rfl
  rw [verifySignatureInside, verifyMemberInside_eq_false, address_add_sub, Nat.mod_eq_of_lt hn, hsize]

section
variable {Ctx : Type} (crypto : Crypto Ctx)

/-- Data that passes is signed up to data_size, which the buffer has, by a signature of the length
that belongs to the algorithm. -/
theorem verifyData_eq_false {data : Ptr} {size : UInt64} {sig : Ptr} {key : RSAPublicKey} :
    verifyData crypto data size sig key = false ↔
      sig.sigSize.toNat = siglenMap.getD key.algorithm 0 ∧ sig.dataSize ≤ size ∧
      rsaVerifyBinary crypto key data sig.dataSize.toNat (getSignatureData sig) key.algorithm = true := by
  unfold verifyData
  split_ifs with hsize hdata
  · exact iff_of_false (by decide) fun h => hsize h.1
  · exact iff_of_false (by decide) fun h => UInt64.not_le.mpr hdata h.2.1
  · simp only [Bool.not_eq_eq_eq_not, Bool.not_false]
    exact ⟨fun h => ⟨not_not.mp hsize, UInt64.not_lt.mp hdata, h⟩, fun h => h.2.2⟩

end

theorem verifyPublicKeyInside_eq_false {parent : Ptr} {parentSize : UInt64} {n : Nat} (hn : n < 2 ^ 64) :
    verifyPublicKeyInside parent parentSize (parent.add n) = false ↔
      n + 32 ≤ parentSize.toNat ∧
      n + (parent.add n).keyOffset.toNat + (parent.add n).keySize.toNat ≤ parentSize.toNat := by
  have hsize : vbPublicKeySize.toNat = 32 := rfl
  rw [verifyPublicKeyInside, verifyMemberInside_eq_false, address_add_sub, Nat.mod_eq_of_lt hn, hsize]

theorem safeMemcmp_eq_false {a b : List UInt8} : safeMemcmp a b = false ↔ a = b := by
  rw [safeMemcmp, decide_eq_false_iff_not, not_not]

/-- What KeyBlockVerify asks of a block besides a good signature or hash, which is at offset n. -/
structure KeyBlockFits (block : Ptr) (size : UInt64) (n : Nat) : Prop where
  header : 112 ≤ size.toNat
  magic : block.bytes 8 = keyBlockMagic
  major : block.keyBlockHeaderVersionMajor = 2
  inside : block.keyBlockSize.toNat ≤ size.toNat
  signature : n + (block.add n).sigOffset.toNat + (block.add n).sigSize.toNat ≤ block.keyBlockSize.toNat
  notTooMuch : (block.add n).dataSize.toNat ≤ block.keyBlockSize.toNat
  enough : 112 ≤ (block.add n).dataSize.toNat
  dataKey : 80 + block.dataKey.keyOffset.toNat + block.dataKey.keySize.toNat ≤ (block.add n).dataSize.toNat

theorem keyBlockFits_iff {block : Ptr} {size : UInt64} {n : Nat} (hn : n ≤ 80) :
    KeyBlockFits block size n ↔
      ¬ size < vbKeyBlockHeaderSize ∧ safeMemcmp (block.bytes 8) keyBlockMagic = false ∧
      ¬ block.keyBlockHeaderVersionMajor ≠ 2 ∧ ¬ size < block.keyBlockSize ∧
      verifySignatureInside block block.keyBlockSize (block.add n) = false ∧
      ¬ block.keyBlockSize < (block.add n).dataSize ∧ ¬ (block.add n).dataSize < vbKeyBlockHeaderSize ∧
      verifyPublicKeyInside block block.keyBlockSize block.dataKey = false ∧
      verifyPublicKeyInside block (block.add n).dataSize block.dataKey = false := by
  have h112 : vbKeyBlockHeaderSize.toNat = 112 := rfl
  have hkey {size : UInt64} := @verifyPublicKeyInside_eq_false block size 80 (by decide)
  rw [safeMemcmp_eq_false, verifySignatureInside_eq_false (by omega), Ptr.dataKey, hkey, hkey, not_not]
  simp only [UInt64.not_lt, UInt64.le_iff_toNat_le, h112]
  constructor
  · rintro ⟨hheader, hmagic, hmajor, hinside, hsig, hmuch, henough, hdata⟩
    rw [Ptr.dataKey] at hdata
    exact ⟨hheader, hmagic, hmajor, hinside, ⟨by omega, hsig⟩, hmuch, henough, ⟨by omega, by omega⟩, henough, hdata⟩
  · rintro ⟨hheader, hmagic, hmajor, hinside, ⟨-, hsig⟩, hmuch, henough, -, -, hdata⟩
    exact ⟨hheader, hmagic, hmajor, hinside, hsig, hmuch, henough, hdata⟩

section
variable {Ctx : Type} (crypto : Crypto Ctx)

theorem keyBlockVerify_signed {block : Ptr} {size : UInt64} {key : Ptr} :
    keyBlockVerify crypto block size (some key) false = .ok () ↔
      KeyBlockFits block size 24 ∧
      ∃ rsa, publicKeyToRSA key = some rsa ∧ verifyData crypto block size block.keyBlockSignature rsa = false := by
  rw [keyBlockFits_iff (by omega)]
  simp only [keyBlockVerify, keyBlockSigned, reject_bind_eq_ok, reject_eq_ok, Bool.false_eq_true, if_false,
    require_bind_eq_ok, bind_assoc, Bool.not_eq_true, Option.some.injEq, exists_eq_left']
  constructor
  · rintro ⟨h1, h2, h3, h4, h5, rsa, hrsa, h6, hdata, h7, h8, h9⟩
    exact ⟨⟨h1, h2, h3, h4, h5, h6, h7, h8, h9⟩, rsa, hrsa, hdata⟩
  · rintro ⟨⟨h1, h2, h3, h4, h5, h6, h7, h8, h9⟩, rsa, hrsa, hdata⟩
    exact ⟨h1, h2, h3, h4, h5, rsa, hrsa, h6, hdata, h7, h8, h9⟩

theorem keyBlockVerify_hashed {block : Ptr} {size : UInt64} {key : Option Ptr} :
    keyBlockVerify crypto block size key true = .ok () ↔
      KeyBlockFits block size 48 ∧ block.keyBlockChecksum.sigSize = 64 ∧
      digestBuf crypto (block.bytes block.keyBlockChecksum.dataSize.toNat) 2 =
        (getSignatureData block.keyBlockChecksum).bytes 64 := by
  rw [keyBlockFits_iff (by omega)]
  simp only [keyBlockVerify, keyBlockHash, reject_bind_eq_ok, reject_eq_ok, if_true, bind_assoc, Bool.not_eq_true]
  rw [@safeMemcmp_eq_false (digestBuf crypto _ 2), not_not (a := block.keyBlockChecksum.sigSize = 64)]
  constructor
  · rintro ⟨h1, h2, h3, h4, h5, hsize, h6, hdata, h7, h8, h9⟩
    exact ⟨⟨h1, h2, h3, h4, h5, h6, h7, h8, h9⟩, hsize, hdata⟩
  · rintro ⟨⟨h1, h2, h3, h4, h5, h6, h7, h8, h9⟩, hsize, hdata⟩
    exact ⟨h1, h2, h3, h4, h5, hsize, h6, hdata, h7, h8, h9⟩

end

/-- What VerifyKernelPreamble asks of a preamble besides a good signature. -/
structure KernelPreambleFits (preamble : Ptr) (size : UInt64) : Prop where
  header : 116 ≤ size.toNat
  major : preamble.preambleVersionMajor = 2
  inside : preamble.preambleSize.toNat ≤ size.toNat
  signature : 32 ≤ preamble.preambleSize.toNat ∧
    8 + preamble.preambleSignature.sigOffset.toNat + preamble.preambleSignature.sigSize.toNat ≤
      preamble.preambleSize.toNat
  enough : 116 ≤ preamble.preambleSignature.dataSize.toNat
  body : 72 + preamble.kernelBodySignature.sigOffset.toNat + preamble.kernelBodySignature.sigSize.toNat ≤
    preamble.preambleSignature.dataSize.toNat

theorem verifyKernelPreamble_eq_ok {Ctx : Type} (crypto : Crypto Ctx) {preamble : Ptr} {size : UInt64}
    {key : RSAPublicKey} :
    verifyKernelPreamble crypto preamble size key = .ok () ↔
      KernelPreambleFits preamble size ∧
      verifyData crypto preamble size preamble.preambleSignature key = false := by
  have h116 : vbKernelPreambleHeaderSize.toNat = 116 := rfl
  have h112 : vbKernelPreambleHeader21Size.toNat = 112 := rfl
  have h116' : vbKernelPreambleHeader22Size.toNat = 116 := rfl
  have hsig {size : UInt64} := @verifySignatureInside_eq_false preamble size 8 (by decide)
  have hbody {size : UInt64} := @verifySignatureInside_eq_false preamble size 72 (by decide)
  simp only [verifyKernelPreamble, reject_bind_eq_ok, reject_eq_ok, Bool.not_eq_true]
  simp only [Ptr.preambleSignature, Ptr.kernelBodySignature, hsig, hbody, UInt64.lt_iff_toNat_lt, h116,
    h112, h116', Nat.not_lt, not_and]
  constructor
  · rintro ⟨hheader, hmajor, hinside, hsig, hdata, henough, ⟨-, hbody⟩, -, -⟩
    exact ⟨⟨hheader, not_not.mp hmajor, hinside, hsig, henough, hbody⟩, hdata⟩
  · rintro ⟨⟨hheader, hmajor, hinside, hsig, henough, hbody⟩, hdata⟩
    rw [Ptr.preambleSignature] at hsig henough hbody
    exact ⟨hheader, not_not.mpr hmajor, hinside, hsig, hdata, henough, ⟨by omega, hbody⟩,
      fun _ _ => by omega, fun _ _ => hheader⟩

/-- Two memories that hold the same n bytes at an address. -/
structure SameBytes (p q : Ptr) (n : Nat) : Prop where
  off : q.off = p.off
  bytes : ∀ i < n, q.mem (p.off + i) = p.mem (p.off + i)

theorem SameBytes.load {p q : Ptr} {n : Nat} (h : SameBytes p q n) : q.bytes n = p.bytes n := by
  rw [Ptr.bytes, Ptr.bytes, h.off]
  exact Mem.load_congr h.bytes

section
variable {p q : Ptr} {n : Nat} (h : q.bytes n = p.bytes n)
include h

/-! What is read from the first n bytes, wherever they are. -/

variable {k : Nat}

theorem Ptr.bytes_congr (hk : k ≤ n) : q.bytes k = p.bytes k := Mem.load_eq_of_le hk h

theorem Ptr.add_congr (k : Nat) : (q.add k).bytes (n - k) = (p.add k).bytes (n - k) := by
  refine Mem.load_congr fun i hi => ?_
  change q.mem (q.off + k + i) = p.mem (p.off + k + i)
  rw [Nat.add_assoc, Nat.add_assoc]
  exact Mem.load_eq_iff.mp h (k + i) (by omega)

theorem Ptr.u32_congr {i : Nat} (hi : i + 4 ≤ n) : q.u32 i = p.u32 i := by
  refine le32_congr fun j hj => ?_
  rw [Nat.add_assoc, Nat.add_assoc]
  exact Mem.load_eq_iff.mp h (i + j) (by omega)

theorem Ptr.u64_congr {i : Nat} (hi : i + 8 ≤ n) : q.u64 i = p.u64 i := by
  refine le64_congr fun j hj => ?_
  rw [Nat.add_assoc, Nat.add_assoc]
  exact Mem.load_eq_iff.mp h (i + j) (by omega)

theorem verifySignatureInside_congr (size : UInt64) (hk : k + 24 ≤ n) (hlt : k < 2 ^ 64) :
    verifySignatureInside q size (q.add k) = verifySignatureInside p size (p.add k) := by
  have hsig := Ptr.add_congr h k
  rw [Bool.eq_iff_iff, ← not_iff_not, Bool.not_eq_true, Bool.not_eq_true, verifySignatureInside_eq_false hlt,
    verifySignatureInside_eq_false hlt, Ptr.sigOffset, Ptr.sigOffset, Ptr.sigSize, Ptr.sigSize,
    Ptr.u64_congr hsig (by omega), Ptr.u64_congr hsig (by omega)]

theorem verifyPublicKeyInside_congr (size : UInt64) (hk : k + 32 ≤ n) (hlt : k < 2 ^ 64) :
    verifyPublicKeyInside q size (q.add k) = verifyPublicKeyInside p size (p.add k) := by
  have hkey := Ptr.add_congr h k
  rw [Bool.eq_iff_iff, ← not_iff_not, Bool.not_eq_true, Bool.not_eq_true, verifyPublicKeyInside_eq_false hlt,
    verifyPublicKeyInside_eq_false hlt, Ptr.keyOffset, Ptr.keyOffset, Ptr.keySize, Ptr.keySize,
    Ptr.u64_congr hkey (by omega), Ptr.u64_congr hkey (by omega)]

end

section
variable {Ctx : Type} (crypto : Crypto Ctx)

theorem verifyData_of_bytes {p q : Ptr} {n : Nat} (h : q.bytes n = p.bytes n) {size : UInt64} {k : Nat}
    {key : RSAPublicKey} (hk : k + 24 ≤ n) (hdata : (p.add k).dataSize.toNat ≤ n)
    (hsig : k + (p.add k).sigOffset.toNat + (p.add k).sigSize.toNat ≤ n) :
    verifyData crypto q size (q.add k) key = verifyData crypto p size (p.add k) key := by
  have hs := Ptr.add_congr h k
  have hoffset : (q.add k).sigOffset = (p.add k).sigOffset := Ptr.u64_congr hs (by omega)
  have hsize : (q.add k).sigSize = (p.add k).sigSize := Ptr.u64_congr hs (by omega)
  have hdsize : (q.add k).dataSize = (p.add k).dataSize := Ptr.u64_congr hs (by omega)
  rw [verifyData, verifyData, hsize, hdsize]
  split_ifs with hlen hle
  · rfl
  · rfl
  · have hbytes : (getSignatureData (q.add k)).bytes (siglenMap.getD key.algorithm 0) =
        (getSignatureData (p.add k)).bytes (siglenMap.getD key.algorithm 0) := by
      rw [getSignatureData, getSignatureData, hoffset]
      exact Ptr.bytes_congr (Ptr.add_congr hs _) (by omega)
    rw [rsaVerifyBinary, rsaVerifyBinary, Ptr.bytes_congr h hdata, hbytes]

end

/-- A checksum in place of a digest, and signatures of one digest only. -/
def sumCrypto (digest : UInt8) : Crypto Unit where
  init _ := ()
  update _ _ := ()
  final _ := []
  digestBuf bytes _ := [bytes.sum]
  rsaVerify _ _ _ d := d = [digest]

/-- A kernel preamble of 244 bytes, the last 128 of them for the signature. -/
def shortPreamble (dataSize : UInt64) : Mem :=
  ((((Mem.store (fun _ => 0) 0 (leBytes64 244)).store 8 (leBytes64 108)).store 16 (leBytes64 128)).store 24
    (leBytes64 dataSize)).store 32 [2]

def shortKey : RSAPublicKey := ⟨32, 0, [], [], 0⟩

end Vboot
