import Vboot.Lib.Endian

/-! Packed keys and signatures of firmware/include/vboot_struct.h as they lie in memory,
and the key handling of firmware/lib/cryptolib. Hashing and the RSA operation
itself are given functions. -/
namespace Vboot
open Vboot.Lib

/-- A C pointer: an object and an offset into it. -/
structure Ptr where
  mem : Mem
  off : Nat

namespace Ptr

def add (p : Ptr) (n : Nat) : Ptr := ⟨p.mem, p.off + n⟩

def u8 (p : Ptr) (i : Nat) : UInt8 := p.mem (p.off + i)

def u32 (p : Ptr) (i : Nat) : UInt32 := le32 p.mem (p.off + i)

def u64 (p : Ptr) (i : Nat) : UInt64 := le64 p.mem (p.off + i)

def bytes (p : Ptr) (n : Nat) : List UInt8 := p.mem.load p.off n

end Ptr

/- struct VbPublicKey -/
def Ptr.keyOffset (key : Ptr) : UInt64 := key.u64 0
def Ptr.keySize (key : Ptr) : UInt64 := key.u64 8
def Ptr.algorithm (key : Ptr) : UInt64 := key.u64 16
def Ptr.keyVersion (key : Ptr) : UInt64 := key.u64 24
def vbPublicKeySize : UInt64 := 32

/- struct VbSignature -/
def Ptr.sigOffset (sig : Ptr) : UInt64 := sig.u64 0
def Ptr.sigSize (sig : Ptr) : UInt64 := sig.u64 8
def Ptr.dataSize (sig : Ptr) : UInt64 := sig.u64 16
def vbSignatureSize : UInt64 := 24

def getPublicKeyData (key : Ptr) : Ptr := key.add key.keyOffset.toNat

def getSignatureData (sig : Ptr) : Ptr := sig.add sig.sigOffset.toNat

def kNumAlgorithms : Nat := 12

def siglenMap : List Nat := [128, 128, 128, 256, 256, 256, 512, 512, 512, 1024, 1024, 1024]

/-- SHA-1, SHA-256 and SHA-512 as hash_type_map orders them. -/
def hashTypeMap : List Nat := [0, 1, 2, 0, 1, 2, 0, 1, 2, 0, 1, 2]

structure RSAPublicKey where
  len : UInt32
  n0inv : UInt32
  n : List UInt32
  rr : List UInt32
  algorithm : Nat
  deriving DecidableEq

def rsaProcessedKeySize (algorithm : Nat) : Option Nat :=
  if algorithm < kNumAlgorithms then some (2 * siglenMap.getD algorithm 0 + 4 + 4) else none

/-- The words of an array of the given number of bytes. -/
def words (p : Ptr) (size : Nat) : List UInt32 := (List.range (size / 4)).map fun i => p.u32 (4 * i)

/- The stateful copies of RSAPublicKeyFromBuf overrun exactly if the buffer is shorter
   than the length that its first word announces. -/
def rsaPublicKeyFromBuf (buf : Ptr) (len : Nat) : Option RSAPublicKey :=
  if len < 4 then none
  else
    let keyLen := 4 * (buf.u32 0).toNat
    if keyLen ≠ 128 ∧ keyLen ≠ 256 ∧ keyLen ≠ 512 ∧ keyLen ≠ 1024 then none
    else if len ≠ 4 + 4 + keyLen + keyLen then none
    else some
      { len := buf.u32 0
        n0inv := buf.u32 4
        n := words (buf.add 8) keyLen
        rr := words (buf.add (8 + keyLen)) keyLen
        algorithm := kNumAlgorithms }

def publicKeyToRSA (key : Ptr) : Option RSAPublicKey :=
  if kNumAlgorithms ≤ key.algorithm.toNat then none
  else if rsaProcessedKeySize key.algorithm.toNat ≠ some key.keySize.toNat then none
  else match rsaPublicKeyFromBuf (getPublicKeyData key) key.keySize.toNat with
    | none => none
    | some rsa => some { rsa with algorithm := key.algorithm.toNat }

/-- The hash functions and the RSA signature check. A digest algorithm is 0, 1 or 2. -/
structure Crypto (Ctx : Type) where
  init : Nat → Ctx
  update : Ctx → List UInt8 → Ctx
  final : Ctx → List UInt8
  digestBuf : List UInt8 → Nat → List UInt8
  rsaVerify : RSAPublicKey → List UInt8 → Nat → List UInt8 → Bool

section
variable {Ctx : Type} (crypto : Crypto Ctx)

def digestInit (sigAlgorithm : Nat) : Ctx := crypto.init (hashTypeMap.getD sigAlgorithm 0)

def digestBuf (buf : List UInt8) (sigAlgorithm : Nat) : List UInt8 :=
  crypto.digestBuf buf (hashTypeMap.getD sigAlgorithm 0)

/- Called with a parsed key and no key blob. -/
def rsaVerifyBinaryWithDigest (key : RSAPublicKey) (digest : List UInt8) (sig : Ptr)
    (algorithm : Nat) : Bool :=
  if kNumAlgorithms ≤ algorithm then false
  else crypto.rsaVerify key (sig.bytes (siglenMap.getD algorithm 0)) algorithm digest

def rsaVerifyBinary (key : RSAPublicKey) (buf : Ptr) (len : Nat) (sig : Ptr) (algorithm : Nat) :
    Bool :=
  if kNumAlgorithms ≤ algorithm then false
  else crypto.rsaVerify key (sig.bytes (siglenMap.getD algorithm 0)) algorithm
    (digestBuf crypto (buf.bytes len) algorithm)

end
end Vboot
