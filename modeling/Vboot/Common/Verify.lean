import Vboot.Common.Crypto
import Vboot.Lib.Check

/-! Key blocks and preambles, firmware/lib/vboot_common.c. -/
namespace Vboot
open Vboot.Lib

inductive VbootError where
  | keyBlockInvalid | keyBlockSignature | keyBlockHash | publicKeyInvalid
  | preambleInvalid | preambleSignature | sharedDataInvalid | kernelPreambleNoFlags
  deriving DecidableEq, Repr

/-- The difference of two addresses. -/
def offsetOf (base ptr : UInt64) : UInt64 := ptr - base

def uint64Max : UInt64 := 0xFFFFFFFFFFFFFFFF

/-- True is the C result 1: the member or its data is not inside the parent. -/
def verifyMemberInside (parent parentSize member memberSize memberDataOffset memberDataSize : UInt64) :
    Bool :=
  let start := offsetOf parent member
  if start > parentSize then true
  else if uint64Max - start < memberSize then true
  else if start + memberSize > parentSize then true
  else if uint64Max - start < memberDataOffset then true
  else
    let start := start + memberDataOffset
    if start > parentSize then true
    else if uint64Max - start < memberDataSize then true
    else if start + memberDataSize > parentSize then true
    else false

def Ptr.address (p : Ptr) : UInt64 := UInt64.ofNat p.off

def verifyPublicKeyInside (parent : Ptr) (parentSize : UInt64) (key : Ptr) : Bool :=
  verifyMemberInside parent.address parentSize key.address vbPublicKeySize key.keyOffset key.keySize

def verifySignatureInside (parent : Ptr) (parentSize : UInt64) (sig : Ptr) : Bool :=
  verifyMemberInside parent.address parentSize sig.address vbSignatureSize sig.sigOffset sig.sigSize

/- struct VbKeyBlockHeader -/
def keyBlockMagic : List UInt8 := [0x43, 0x48, 0x52, 0x4f, 0x4d, 0x45, 0x4f, 0x53]
def Ptr.keyBlockHeaderVersionMajor (block : Ptr) : UInt32 := block.u32 8
def Ptr.keyBlockSize (block : Ptr) : UInt64 := block.u64 16
def Ptr.keyBlockSignature (block : Ptr) : Ptr := block.add 24
def Ptr.keyBlockChecksum (block : Ptr) : Ptr := block.add 48
def Ptr.keyBlockFlags (block : Ptr) : UInt64 := block.u64 72
def Ptr.dataKey (block : Ptr) : Ptr := block.add 80
def vbKeyBlockHeaderSize : UInt64 := 112
def keyBlockFlagDeveloper0 : UInt64 := 0x01
def keyBlockFlagDeveloper1 : UInt64 := 0x02
def keyBlockFlagRecovery0 : UInt64 := 0x04
def keyBlockFlagRecovery1 : UInt64 := 0x08

/- struct VbFirmwarePreambleHeader -/
def Ptr.preambleSize (preamble : Ptr) : UInt64 := preamble.u64 0
def Ptr.preambleSignature (preamble : Ptr) : Ptr := preamble.add 8
def Ptr.preambleVersionMajor (preamble : Ptr) : UInt32 := preamble.u32 32
def Ptr.preambleVersionMinor (preamble : Ptr) : UInt32 := preamble.u32 36
def Ptr.firmwareVersion (preamble : Ptr) : UInt64 := preamble.u64 40
def Ptr.kernelSubkey (preamble : Ptr) : Ptr := preamble.add 48
def Ptr.fwBodySignature (preamble : Ptr) : Ptr := preamble.add 80
def Ptr.fwFlags (preamble : Ptr) : UInt32 := preamble.u32 104
def vbFirmwarePreambleHeader20Size : UInt64 := 104
def vbFirmwarePreambleHeaderSize : UInt64 := 108
def vbFirmwarePreambleUseRoNormal : UInt32 := 1

/- struct VbKernelPreambleHeader; it starts with the same four fields. -/
def Ptr.kernelVersion (preamble : Ptr) : UInt64 := preamble.u64 40
def Ptr.bodyLoadAddress (preamble : Ptr) : UInt64 := preamble.u64 48
def Ptr.bootloaderAddress (preamble : Ptr) : UInt64 := preamble.u64 56
def Ptr.bootloaderSize (preamble : Ptr) : UInt64 := preamble.u64 64
def Ptr.kernelBodySignature (preamble : Ptr) : Ptr := preamble.add 72
def Ptr.kernelFlags (preamble : Ptr) : UInt32 := preamble.u32 112
def vbKernelPreambleHeaderSize : UInt64 := 116
def vbKernelPreambleHeader21Size : UInt64 := 112
def vbKernelPreambleHeader22Size : UInt64 := 116

/-- SafeMemcmp: true is a difference. -/
def safeMemcmp (a b : List UInt8) : Bool := a ≠ b

section
variable {Ctx : Type} (crypto : Crypto Ctx)

/-- True is the C result 1. -/
def verifyData (data : Ptr) (size : UInt64) (sig : Ptr) (key : RSAPublicKey) : Bool :=
  if sig.sigSize.toNat ≠ siglenMap.getD key.algorithm 0 then true
  else if sig.dataSize > size then true
  else !rsaVerifyBinary crypto key data sig.dataSize.toNat (getSignatureData sig) key.algorithm

def verifyDigest (digest : List UInt8) (sig : Ptr) (key : RSAPublicKey) : Bool :=
  if sig.sigSize.toNat ≠ siglenMap.getD key.algorithm 0 then true
  else !rsaVerifyBinaryWithDigest crypto key digest (getSignatureData sig) key.algorithm

def keyBlockHash (block : Ptr) : Except VbootError Unit := do
  let sig := block.keyBlockChecksum
  reject (verifySignatureInside block block.keyBlockSize sig) .keyBlockInvalid
  reject (sig.sigSize ≠ 64) .keyBlockInvalid
  reject (block.keyBlockSize < sig.dataSize) .keyBlockInvalid
  reject (safeMemcmp (digestBuf crypto (block.bytes sig.dataSize.toNat) 2)
    ((getSignatureData sig).bytes 64)) .keyBlockHash

def keyBlockSigned (block : Ptr) (size : UInt64) (key : Ptr) : Except VbootError Unit := do
  let sig := block.keyBlockSignature
  reject (verifySignatureInside block block.keyBlockSize sig) .keyBlockInvalid
  let rsa ← require (publicKeyToRSA key) .publicKeyInvalid
  reject (block.keyBlockSize < sig.dataSize) .keyBlockInvalid
  reject (verifyData crypto block size sig rsa) .keyBlockSignature

/- A key is required unless only the hash is checked. -/
def keyBlockVerify (block : Ptr) (size : UInt64) (key : Option Ptr) (hashOnly : Bool) :
    Except VbootError Unit := do
  reject (size < vbKeyBlockHeaderSize) .keyBlockInvalid
  reject (safeMemcmp (block.bytes 8) keyBlockMagic) .keyBlockInvalid
  reject (block.keyBlockHeaderVersionMajor ≠ 2) .keyBlockInvalid
  reject (size < block.keyBlockSize) .keyBlockInvalid
  let sig := if hashOnly then block.keyBlockChecksum else block.keyBlockSignature
  if hashOnly then keyBlockHash crypto block
  else keyBlockSigned crypto block size (← require key .publicKeyInvalid)
  reject (sig.dataSize < vbKeyBlockHeaderSize) .keyBlockInvalid
  reject (verifyPublicKeyInside block block.keyBlockSize block.dataKey) .keyBlockInvalid
  reject (verifyPublicKeyInside block sig.dataSize block.dataKey) .keyBlockInvalid

def verifyFirmwarePreamble (preamble : Ptr) (size : UInt64) (key : RSAPublicKey) :
    Except VbootError Unit := do
  let sig := preamble.preambleSignature
  reject (size < vbFirmwarePreambleHeader20Size) .preambleInvalid
  reject (preamble.preambleVersionMajor ≠ 2) .preambleInvalid
  reject (size < preamble.preambleSize) .preambleInvalid
  reject (verifySignatureInside preamble preamble.preambleSize sig) .preambleInvalid
  reject (preamble.preambleSize < sig.dataSize) .preambleInvalid
  reject (verifyData crypto preamble size sig key) .preambleSignature
  reject (sig.dataSize < vbFirmwarePreambleHeaderSize) .preambleInvalid
  reject (verifySignatureInside preamble sig.dataSize preamble.fwBodySignature) .preambleInvalid
  reject (verifyPublicKeyInside preamble sig.dataSize preamble.kernelSubkey) .preambleInvalid
  reject (preamble.preambleVersionMinor ≥ 1 ∧ size < vbFirmwarePreambleHeaderSize) .preambleInvalid

def vbGetFirmwarePreambleFlags (preamble : Ptr) : UInt32 :=
  if preamble.preambleVersionMinor < 1 then 0 else preamble.fwFlags

/- Unlike the firmware preamble, no comparison of the signed size with preamble_size. -/
def verifyKernelPreamble (preamble : Ptr) (size : UInt64) (key : RSAPublicKey) :
    Except VbootError Unit := do
  let sig := preamble.preambleSignature
  reject (size < vbKernelPreambleHeaderSize) .preambleInvalid
  reject (preamble.preambleVersionMajor ≠ 2) .preambleInvalid
  reject (size < preamble.preambleSize) .preambleInvalid
  reject (verifySignatureInside preamble preamble.preambleSize sig) .preambleInvalid
  reject (verifyData crypto preamble size sig key) .preambleSignature
  reject (sig.dataSize < vbKernelPreambleHeaderSize) .preambleInvalid
  reject (verifySignatureInside preamble sig.dataSize preamble.kernelBodySignature) .preambleInvalid
  reject (preamble.preambleVersionMinor ≥ 1 ∧ preamble.preambleVersionMinor = 1 ∧
    size < vbKernelPreambleHeader21Size) .preambleInvalid
  reject (preamble.preambleVersionMinor ≥ 1 ∧ preamble.preambleVersionMinor = 2 ∧
    size < vbKernelPreambleHeader22Size) .preambleInvalid

end
end Vboot
