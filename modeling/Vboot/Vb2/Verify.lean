import Vboot.Common.Crypto
import Vboot.Lib.Check
import Vboot.Lib.Program
import Vboot.Vb2.Rsa

/-! Packed keys, signatures, keyblocks and preambles of the vboot2 library, firmware/lib20/common.c
and packed_key.c, with the rest of the work buffer of firmware/2lib/2common.c. Objects are given by
their address. The space in the work buffer that a check uses for itself is not tracked. -/
namespace Vboot.Vb2
open Vboot.Lib

def vb2ErrorAlignBiggerThanSize : UInt32 := 0x10050001
def vb2ErrorAlignSize : UInt32 := 0x10050002
def vb2ErrorInsideParentWraps : UInt32 := 0x10050003
def vb2ErrorInsideMemberWraps : UInt32 := 0x10050004
def vb2ErrorInsideMemberOutside : UInt32 := 0x10050005
def vb2ErrorInsideDataWraps : UInt32 := 0x10050006
def vb2ErrorInsideDataOutside : UInt32 := 0x10050007
def vb2ErrorUnpackKeySigAlgorithm : UInt32 := 0x10050008
def vb2ErrorUnpackKeySize : UInt32 := 0x10050009
def vb2ErrorUnpackKeyAlign : UInt32 := 0x1005000a
def vb2ErrorUnpackKeyArraySize : UInt32 := 0x1005000b
def vb2ErrorVdataSigSize : UInt32 := 0x1005000d
def vb2ErrorVdataNotEnoughData : UInt32 := 0x1005000e
def vb2ErrorVdataWorkbufDigest : UInt32 := 0x1005000f
def vb2ErrorVdataWorkbufHashing : UInt32 := 0x10050010
def vb2ErrorVdataDigestSize : UInt32 := 0x10050011
def vb2ErrorUnpackKeyHashAlgorithm : UInt32 := 0x10050012
def vb2ErrorInsideDataOverlap : UInt32 := 0x10050013
def vb2ErrorKeyblockTooSmallForHeader : UInt32 := 0x10060001
def vb2ErrorKeyblockMagic : UInt32 := 0x10060002
def vb2ErrorKeyblockHeaderVersion : UInt32 := 0x10060003
def vb2ErrorKeyblockSize : UInt32 := 0x10060004
def vb2ErrorKeyblockSigOutside : UInt32 := 0x10060005
def vb2ErrorKeyblockSignedTooMuch : UInt32 := 0x10060006
def vb2ErrorKeyblockSignedTooLittle : UInt32 := 0x10060007
def vb2ErrorKeyblockSigInvalid : UInt32 := 0x10060008
def vb2ErrorKeyblockDataKeyOutside : UInt32 := 0x10060009
def vb2ErrorKeyblockDataKeyUnsigned : UInt32 := 0x1006000a
def vb2ErrorPreambleTooSmallForHeader : UInt32 := 0x10070001
def vb2ErrorPreambleHeaderVersion : UInt32 := 0x10070002
def vb2ErrorPreambleHeaderOld : UInt32 := 0x10070003
def vb2ErrorPreambleSize : UInt32 := 0x10070004
def vb2ErrorPreambleSigOutside : UInt32 := 0x10070005
def vb2ErrorPreambleSignedTooMuch : UInt32 := 0x10070006
def vb2ErrorPreambleSignedTooLittle : UInt32 := 0x10070007
def vb2ErrorPreambleSigInvalid : UInt32 := 0x10070008
def vb2ErrorPreambleBodySigOutside : UInt32 := 0x10070009
def vb2ErrorPreambleKernelSubkeyOutside : UInt32 := 0x1007000a

/- struct vb2_packed_key -/
def Vb2PackedKey.keyOffset (m : Mem) (key : UInt64) : UInt32 := le32 m key.toNat
def Vb2PackedKey.keySize (m : Mem) (key : UInt64) : UInt32 := le32 m (key.toNat + 8)
def Vb2PackedKey.algorithm (m : Mem) (key : UInt64) : UInt32 := le32 m (key.toNat + 16)
def Vb2PackedKey.keyVersion (m : Mem) (key : UInt64) : UInt32 := le32 m (key.toNat + 24)
def vb2PackedKeyHeaderSize : UInt32 := 32

/- struct vb2_signature -/
def Vb2Signature.sigOffset (m : Mem) (sig : UInt64) : UInt32 := le32 m sig.toNat
def Vb2Signature.sigSize (m : Mem) (sig : UInt64) : UInt32 := le32 m (sig.toNat + 8)
def Vb2Signature.dataSize (m : Mem) (sig : UInt64) : UInt32 := le32 m (sig.toNat + 16)
def vb2SignatureHeaderSize : UInt32 := 24

/- struct vb2_keyblock -/
def Vb2Keyblock.magic (m : Mem) (block : UInt64) : List UInt8 := m.load block.toNat 8
def Vb2Keyblock.headerVersionMajor (m : Mem) (block : UInt64) : UInt32 := le32 m (block.toNat + 8)
def Vb2Keyblock.keyblockSize (m : Mem) (block : UInt64) : UInt32 := le32 m (block.toNat + 16)
def Vb2Keyblock.keyblockSignature (block : UInt64) : UInt64 := block + 24
def Vb2Keyblock.dataKey (block : UInt64) : UInt64 := block + 80
def vb2KeyblockHeaderSize : UInt32 := 112
def vb2KeyBlockMagic : List UInt8 := [0x43, 0x48, 0x52, 0x4f, 0x4d, 0x45, 0x4f, 0x53]
def vb2KeyBlockHeaderVersionMajor : UInt32 := 2

/- struct vb2_fw_preamble -/
def Vb2FwPreamble.preambleSize (m : Mem) (pre : UInt64) : UInt32 := le32 m pre.toNat
def Vb2FwPreamble.preambleSignature (pre : UInt64) : UInt64 := pre + 8
def Vb2FwPreamble.headerVersionMajor (m : Mem) (pre : UInt64) : UInt32 := le32 m (pre.toNat + 32)
def Vb2FwPreamble.headerVersionMinor (m : Mem) (pre : UInt64) : UInt32 := le32 m (pre.toNat + 36)
def Vb2FwPreamble.firmwareVersion (m : Mem) (pre : UInt64) : UInt32 := le32 m (pre.toNat + 40)
def Vb2FwPreamble.kernelSubkey (pre : UInt64) : UInt64 := pre + 48
def Vb2FwPreamble.bodySignature (pre : UInt64) : UInt64 := pre + 80
def vb2FwPreambleHeaderSize : UInt32 := 108
def firmwarePreambleHeaderVersionMajor : UInt32 := 2

/-- sizeof(struct vb2_digest_context) with all hash algorithms -/
def vb2DigestContextSize : UInt32 := 336

def vb2Aligned (ptr align : UInt64) : Bool := ptr &&& (align - 1) = 0

def vb2Align (align : UInt32) (wb : Vb2Workbuf) (wantSize : UInt32) : Except UInt32 Vb2Workbuf := do
  let offs := wb.buf &&& (align.toUInt64 - 1)
  let wb ← if offs = 0 then pure wb
    else do
      let offs := align.toUInt64 - offs
      reject (wb.size.toUInt64 < offs) vb2ErrorAlignBiggerThanSize
      pure ⟨wb.buf + offs, wb.size - offs.toUInt32⟩
  reject (wb.size < wantSize) vb2ErrorAlignSize
  pure wb

def vb2WorkbufInit (align : UInt32) (buf : UInt64) (size : UInt32) : Vb2Workbuf :=
  match vb2Align align ⟨buf, size⟩ 0 with
  | .ok wb => wb
  | .error _ => ⟨buf, 0⟩

def vb2WorkbufFree (align : UInt32) (wb : Vb2Workbuf) (size : UInt32) : Vb2Workbuf :=
  let size := wbRoundUp align size
  ⟨wb.buf - size.toUInt64, wb.size + size⟩

def vb2WorkbufRealloc (align : UInt32) (wb : Vb2Workbuf) (oldsize newsize : UInt32) :
    Option UInt64 × Vb2Workbuf :=
  vb2WorkbufAlloc align (vb2WorkbufFree align wb oldsize) newsize

def vb2OffsetOf (base ptr : UInt64) : UInt64 := ptr - base

/- Offsets are signed, and become unsigned again where they are compared with a size. -/
def vb2VerifyMemberInside (parent parentSize member memberSize : UInt64) (memberDataOffset : Int64)
    (memberDataSize : UInt64) : Except UInt32 Unit := do
  let parentEnd := parent + parentSize
  let memberOffs := (vb2OffsetOf parent member).toInt64
  let memberEndOffs := (memberOffs.toUInt64 + memberSize).toInt64
  let dataOffs := memberOffs + memberDataOffset
  let dataEndOffs := (dataOffs.toUInt64 + memberDataSize).toInt64
  reject (parentEnd < parent) vb2ErrorInsideParentWraps
  reject (memberEndOffs < memberOffs) vb2ErrorInsideMemberWraps
  reject (memberOffs < 0 ∨ memberOffs.toUInt64 > parentSize ∨ memberEndOffs.toUInt64 > parentSize)
    vb2ErrorInsideMemberOutside
  reject (memberDataSize > 0 ∧ dataOffs < memberEndOffs) vb2ErrorInsideDataOverlap
  reject (dataEndOffs < dataOffs) vb2ErrorInsideDataWraps
  reject (dataOffs < 0 ∨ dataOffs.toUInt64 > parentSize ∨ dataEndOffs.toUInt64 > parentSize)
    vb2ErrorInsideDataOutside

def vb2VerifySignatureInside (m : Mem) (parent : UInt64) (parentSize : UInt32) (sig : UInt64) :
    Except UInt32 Unit :=
  vb2VerifyMemberInside parent parentSize.toUInt64 sig vb2SignatureHeaderSize.toUInt64
    (Vb2Signature.sigOffset m sig).toUInt64.toInt64 (Vb2Signature.sigSize m sig).toUInt64

def vb2VerifyPackedKeyInside (m : Mem) (parent : UInt64) (parentSize : UInt32) (key : UInt64) :
    Except UInt32 Unit :=
  vb2VerifyMemberInside parent parentSize.toUInt64 key vb2PackedKeyHeaderSize.toUInt64
    (Vb2PackedKey.keyOffset m key).toUInt64.toInt64 (Vb2PackedKey.keySize m key).toUInt64

def cryptoToSig : List Vb2SignatureAlgorithm :=
  [.rsa1024, .rsa1024, .rsa1024, .rsa2048, .rsa2048, .rsa2048, .rsa4096, .rsa4096, .rsa4096,
    .rsa8192, .rsa8192, .rsa8192]

def vb2CryptoToSignature (algorithm : UInt32) : Vb2SignatureAlgorithm :=
  cryptoToSig.getD algorithm.toNat .invalid

def cryptoToHash : List Vb2HashAlgorithm :=
  [.sha1, .sha256, .sha512, .sha1, .sha256, .sha512, .sha1, .sha256, .sha512, .sha1, .sha256, .sha512]

def vb2CryptoToHash (algorithm : UInt32) : Vb2HashAlgorithm :=
  cryptoToHash.getD algorithm.toNat .invalid

def vb2PackedKeySize (sigAlg : Vb2SignatureAlgorithm) : UInt32 :=
  let sigSize := vb2RsaSigSize sigAlg
  if sigSize = 0 then 0 else 2 * sigSize + 2 * 4

def vb2PackedKeyData (m : Mem) (key : UInt64) : UInt64 := key + (Vb2PackedKey.keyOffset m key).toUInt64

def vb2SignatureData (m : Mem) (sig : UInt64) : UInt64 := sig + (Vb2Signature.sigOffset m sig).toUInt64

/- The key takes its words from the buffer here, the C key later on, through pointers. -/
def vb2UnpackKey (m : Mem) (buf : UInt64) (size : UInt32) : Except UInt32 Vb2PublicKey := do
  vb2VerifyPackedKeyInside m buf size buf
  let sigAlg := vb2CryptoToSignature (Vb2PackedKey.algorithm m buf)
  reject (sigAlg = .invalid) vb2ErrorUnpackKeySigAlgorithm
  let hashAlg := vb2CryptoToHash (Vb2PackedKey.algorithm m buf)
  reject (hashAlg = .invalid) vb2ErrorUnpackKeyHashAlgorithm
  let expectedKeySize := vb2PackedKeySize sigAlg
  reject (expectedKeySize = 0 ∨ expectedKeySize ≠ Vb2PackedKey.keySize m buf) vb2ErrorUnpackKeySize
  let buf32 := vb2PackedKeyData m buf
  reject (¬vb2Aligned buf32 4) vb2ErrorUnpackKeyAlign
  let arrsize := le32 m buf32.toNat
  reject (arrsize.toUInt64 * 4 ≠ (vb2RsaSigSize sigAlg).toUInt64) vb2ErrorUnpackKeyArraySize
  let bytes := 4 * arrsize.toNat
  pure
    { arrsize
      n0inv := le32 m (buf32.toNat + 4)
      n := words ⟨m, buf32.toNat + 8⟩ bytes
      rr := words ⟨m, buf32.toNat + 8 + bytes⟩ bytes
      sigAlg
      hashAlg }

section
variable (align : UInt32) (hash : Vb2HashAlgorithm → List UInt8 → List UInt8)

/-- The signature is replaced by its power. -/
def vb2VerifyDigest (key : Vb2PublicKey) (sig : UInt64) (digest : List UInt8) (wb : Vb2Workbuf) :
    Program UInt32 Mem Unit := do
  let sigData ← observe fun m => vb2SignatureData m sig
  let sigSize := vb2RsaSigSize key.sigAlg
  inspect fun m => reject (Vb2Signature.sigSize m sig ≠ sigSize) vb2ErrorVdataSigSize
  let (rv, power) ← observe fun m =>
    vb2RsaVerifyDigest align (some key) (some (m.load sigData.toNat sigSize.toNat)) (some digest) wb
  update fun m => m.store sigData.toNat (power.getD [])
  inspect fun _ => reject (rv ≠ vb2Success) rv

/- All hash algorithms are compiled in, so that hashing itself cannot fail. -/
def vb2VerifyData (data : UInt64) (size : UInt32) (sig : UInt64) (key : Vb2PublicKey)
    (wb : Vb2Workbuf) : Program UInt32 Mem Unit := do
  let dataSize ← observe fun m => Vb2Signature.dataSize m sig
  inspect fun _ => reject (dataSize > size) vb2ErrorVdataNotEnoughData
  let digestSize := vb2DigestSize key.hashAlg
  inspect fun _ => reject (digestSize = 0) vb2ErrorVdataDigestSize
  let (digest, wb) := vb2WorkbufAlloc align wb digestSize
  inspect fun _ => reject (digest = none) vb2ErrorVdataWorkbufDigest
  let (dc, wb) := vb2WorkbufAlloc align wb vb2DigestContextSize
  inspect fun _ => reject (dc = none) vb2ErrorVdataWorkbufHashing
  let digest ← observe fun m => hash key.hashAlg (m.load data.toNat dataSize.toNat)
  vb2VerifyDigest align key sig digest (vb2WorkbufFree align wb vb2DigestContextSize)

def vb2CheckKeyblock (m : Mem) (block : UInt64) (size : UInt32) (sig : UInt64) : Except UInt32 Unit := do
  let keyblockSize := Vb2Keyblock.keyblockSize m block
  let dataSize := Vb2Signature.dataSize m sig
  let dataKey := Vb2Keyblock.dataKey block
  reject (size < vb2KeyblockHeaderSize) vb2ErrorKeyblockTooSmallForHeader
  reject (Vb2Keyblock.magic m block ≠ vb2KeyBlockMagic) vb2ErrorKeyblockMagic
  reject (Vb2Keyblock.headerVersionMajor m block ≠ vb2KeyBlockHeaderVersionMajor)
    vb2ErrorKeyblockHeaderVersion
  reject (size < keyblockSize) vb2ErrorKeyblockSize
  reject (vb2VerifySignatureInside m block keyblockSize sig ≠ .ok ⟨⟩) vb2ErrorKeyblockSigOutside
  reject (keyblockSize < dataSize) vb2ErrorKeyblockSignedTooMuch
  reject (dataSize < vb2KeyblockHeaderSize) vb2ErrorKeyblockSignedTooLittle
  reject (vb2VerifyPackedKeyInside m block keyblockSize dataKey ≠ .ok ⟨⟩) vb2ErrorKeyblockDataKeyOutside
  reject (vb2VerifyPackedKeyInside m block dataSize dataKey ≠ .ok ⟨⟩) vb2ErrorKeyblockDataKeyUnsigned

def vb2VerifyKeyblock (block : UInt64) (size : UInt32) (key : Vb2PublicKey) (wb : Vb2Workbuf) :
    Program UInt32 Mem Unit := do
  let sig := Vb2Keyblock.keyblockSignature block
  inspect fun m => vb2CheckKeyblock m block size sig
  match ← attempt (vb2VerifyData align hash block size sig key wb) with
  | .error _ => throw vb2ErrorKeyblockSigInvalid
  | .ok _ => pure ⟨⟩

def checkPreambleHeader (m : Mem) (preamble : UInt64) (size : UInt32) : Except UInt32 Unit := do
  let sig := Vb2FwPreamble.preambleSignature preamble
  let preambleSize := Vb2FwPreamble.preambleSize m preamble
  reject (size < vb2FwPreambleHeaderSize) vb2ErrorPreambleTooSmallForHeader
  reject (Vb2FwPreamble.headerVersionMajor m preamble ≠ firmwarePreambleHeaderVersionMajor)
    vb2ErrorPreambleHeaderVersion
  reject (Vb2FwPreamble.headerVersionMinor m preamble < 1) vb2ErrorPreambleHeaderOld
  reject (size < preambleSize) vb2ErrorPreambleSize
  reject (vb2VerifySignatureInside m preamble preambleSize sig ≠ .ok ⟨⟩) vb2ErrorPreambleSigOutside
  reject (preambleSize < Vb2Signature.dataSize m sig) vb2ErrorPreambleSignedTooMuch

def checkPreambleSigned (m : Mem) (preamble : UInt64) : Except UInt32 Unit := do
  let dataSize := Vb2Signature.dataSize m (Vb2FwPreamble.preambleSignature preamble)
  reject (dataSize < vb2FwPreambleHeaderSize) vb2ErrorPreambleSignedTooLittle
  reject (vb2VerifySignatureInside m preamble dataSize (Vb2FwPreamble.bodySignature preamble) ≠ .ok ⟨⟩)
    vb2ErrorPreambleBodySigOutside
  reject (vb2VerifyPackedKeyInside m preamble dataSize (Vb2FwPreamble.kernelSubkey preamble) ≠ .ok ⟨⟩)
    vb2ErrorPreambleKernelSubkeyOutside

def vb2VerifyFwPreamble (preamble : UInt64) (size : UInt32) (key : Vb2PublicKey) (wb : Vb2Workbuf) :
    Program UInt32 Mem Unit := do
  inspect fun m => checkPreambleHeader m preamble size
  match ← attempt (vb2VerifyData align hash preamble size (Vb2FwPreamble.preambleSignature preamble) key
      wb) with
  | .error _ => throw vb2ErrorPreambleSigInvalid
  | .ok _ => inspect fun m => checkPreambleSigned m preamble

end
end Vboot.Vb2
