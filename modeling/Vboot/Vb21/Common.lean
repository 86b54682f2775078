import Vboot.Lib.Access
import Vboot.Vb2.Verify

/-! The verification functions of firmware/lib21/common.c, over one buffer whose bytes count from 0. Reads
and writes of the buffer are recorded; keys, digests and the work buffer are apart from it. -/
namespace Vboot.Vb21
open Vboot.Lib Vboot.Vb2

def vb2MagicKeyblock : UInt32 := 0x42326256
def vb2MagicFwPreamble : UInt32 := 0x46326256
def vb2MagicSignature : UInt32 := 0x53326256

def vb2KeyblockVersionMajor : UInt16 := 3
def vb2FwPreambleVersionMajor : UInt16 := 3
def vb2SignatureVersionMajor : UInt16 := 3

def vb2ErrorCommonTotalSize : UInt32 := 0x10050015
def vb2ErrorCommonFixedSize : UInt32 := 0x10050016
def vb2ErrorCommonDescSize : UInt32 := 0x10050017
def vb2ErrorCommonMemberSize : UInt32 := 0x10050018
def vb2ErrorCommonTotalUnaligned : UInt32 := 0x10050019
def vb2ErrorCommonFixedUnaligned : UInt32 := 0x1005001a
def vb2ErrorCommonDescUnaligned : UInt32 := 0x1005001b
def vb2ErrorCommonMemberUnaligned : UInt32 := 0x1005001c
def vb2ErrorCommonDescWraps : UInt32 := 0x1005001d
def vb2ErrorCommonMemberWraps : UInt32 := 0x1005001e
def vb2ErrorCommonDescTerminator : UInt32 := 0x1005001f
def vb2ErrorCommonMemberOverlap : UInt32 := 0x10050020
def vb2ErrorSigMagic : UInt32 := 0x10050021
def vb2ErrorSigVersion : UInt32 := 0x10050022
def vb2ErrorSigHeaderSize : UInt32 := 0x10050023
def vb2ErrorSigAlgorithm : UInt32 := 0x10050024
def vb2ErrorSigSize : UInt32 := 0x10050025
def vb2ErrorVdataAlgorithm : UInt32 := 0x1005000c
def vb2ErrorVdataSize : UInt32 := 0x10050026
def vb2ErrorVdataVerifyDigest : UInt32 := 0x10050027
def vb2ErrorVdataAlgorithmMismatch : UInt32 := 0x10050028
def vb2ErrorKeyblockSignedSize : UInt32 := 0x1006000b
def vb2ErrorKeyblockSigId : UInt32 := 0x1006000c
def vb2ErrorPreambleMagic : UInt32 := 0x1007000b
def vb2ErrorPreambleHashSigned : UInt32 := 0x1007000c

/- Sizes of the structs. -/
def commonSize : Nat := 20
def signatureSize : Nat := 56
def keyblockSize : Nat := 36
def fwPreambleSize : Nat := 40
def vb2IdNumBytes : Nat := 20

/- struct vb2_struct_common -/
namespace Common
def magic (m : Mem) (c : Nat) : UInt32 := le32 m c
def structVersionMajor (m : Mem) (c : Nat) : UInt16 := le16 m (c + 4)
def totalSize (m : Mem) (c : Nat) : UInt32 := le32 m (c + 8)
def fixedSize (m : Mem) (c : Nat) : UInt32 := le32 m (c + 12)
def descSize (m : Mem) (c : Nat) : UInt32 := le32 m (c + 16)
end Common

/- struct vb2_signature -/
namespace Signature
def sigOffset (m : Mem) (s : Nat) : UInt32 := le32 m (s + 20)
def sigSize (m : Mem) (s : Nat) : UInt32 := le32 m (s + 24)
def dataSize (m : Mem) (s : Nat) : UInt32 := le32 m (s + 28)
def sigAlg (m : Mem) (s : Nat) : UInt16 := le16 m (s + 32)
def hashAlg (m : Mem) (s : Nat) : UInt16 := le16 m (s + 34)
def id (m : Mem) (s : Nat) : List UInt8 := m.load (s + 36) vb2IdNumBytes
end Signature

/- struct vb2_keyblock -/
namespace Keyblock
def keyOffset (m : Mem) : UInt32 := le32 m 24
def sigCount (m : Mem) : UInt32 := le32 m 28
def sigOffset (m : Mem) : UInt32 := le32 m 32
end Keyblock

/- struct vb2_fw_preamble -/
namespace FwPreamble
def sigOffset (m : Mem) : UInt32 := le32 m 28
def hashCount (m : Mem) : UInt32 := le32 m 32
def hashOffset (m : Mem) : UInt32 := le32 m 36
end FwPreamble

/-- A key with the identifier of its signatures. -/
structure PublicKey extends Vb2PublicKey where
  id : List UInt8

/- The values of enum vb2_signature_algorithm and enum vb2_hash_algorithm in the structs. -/
def sigAlgCode : Vb2SignatureAlgorithm → UInt16
  | .invalid => 0 | .none => 1 | .rsa1024 => 2 | .rsa2048 => 3 | .rsa4096 => 4 | .rsa8192 => 5

def hashAlgCode : Vb2HashAlgorithm → UInt16
  | .invalid => 0 | .sha1 => 1 | .sha256 => 2 | .sha512 => 3

def sigAlgOf (code : UInt16) : Vb2SignatureAlgorithm :=
  if code = 1 then .none else if code = 2 then .rsa1024 else if code = 3 then .rsa2048
  else if code = 4 then .rsa4096 else if code = 5 then .rsa8192 else .invalid

def hashAlgOf (code : UInt16) : Vb2HashAlgorithm :=
  if code = 1 then .sha1 else if code = 2 then .sha256 else if code = 3 then .sha512 else .invalid

abbrev BufM := Program UInt32 Traced

/- Reads of one field. -/
def read16 (view : Mem → Nat → UInt16) (c offset : Nat) : BufM UInt16 := readAt (c + offset) 2 (view · c)
def read32 (view : Mem → Nat → UInt32) (c offset : Nat) : BufM UInt32 := readAt (c + offset) 4 (view · c)

/-- Sizes and offsets have to be multiples of 32 bits. -/
def aligned (x : UInt32) : Prop := x &&& 3 = 0

instance (x : UInt32) : Decidable (aligned x) := inferInstanceAs (Decidable (_ = _))

def verifyDesc (parent : Nat) (totalSize fixedSize descSize : UInt32) : BufM Unit :=
  if descSize > 0 then do
    refuse (fixedSize + descSize < fixedSize) vb2ErrorCommonDescWraps
    refuse (fixedSize + descSize > totalSize) vb2ErrorCommonDescSize
    let last := parent + fixedSize.toNat + (descSize - 1).toNat
    let terminator ← readAt last 1 (· last)
    refuse (terminator ≠ 0) vb2ErrorCommonDescTerminator
  else pure ()

def vb2VerifyCommonHeader (parent : Nat) (parentSize : UInt32) : BufM Unit := do
  let totalSize ← read32 Common.totalSize parent 8
  refuse (parentSize < totalSize) vb2ErrorCommonTotalSize
  let fixedSize ← read32 Common.fixedSize parent 12
  refuse (totalSize < fixedSize ∨ fixedSize < 20) vb2ErrorCommonFixedSize
  refuse (¬aligned totalSize) vb2ErrorCommonTotalUnaligned
  refuse (¬aligned fixedSize) vb2ErrorCommonFixedUnaligned
  let descSize ← read32 Common.descSize parent 16
  refuse (¬aligned descSize) vb2ErrorCommonDescUnaligned
  verifyDesc parent totalSize fixedSize descSize

/-- The first member has to be after the header and its description. -/
def initMinOffset (parent : Nat) (minOffset : UInt32) : BufM UInt32 :=
  if minOffset = 0 then do
    let fixedSize ← read32 Common.fixedSize parent 12
    let descSize ← read32 Common.descSize parent 16
    pure (fixedSize + descSize)
  else pure minOffset

/-- The result is the minimum offset of the next member. -/
def vb2VerifyCommonMember (parent : Nat) (minOffset memberOffset memberSize : UInt32) : BufM UInt32 := do
  let memberEnd := memberOffset + memberSize
  refuse (memberEnd < memberOffset) vb2ErrorCommonMemberWraps
  refuse (¬aligned memberOffset ∨ ¬aligned memberSize) vb2ErrorCommonMemberUnaligned
  let minOffset ← initMinOffset parent minOffset
  refuse (memberOffset < minOffset) vb2ErrorCommonMemberOverlap
  let totalSize ← read32 Common.totalSize parent 8
  refuse (memberEnd > totalSize) vb2ErrorCommonMemberSize
  pure memberEnd

def vb2VerifyCommonSubobject (parent : Nat) (minOffset memberOffset : UInt32) : BufM UInt32 := do
  let _ ← vb2VerifyCommonMember parent minOffset memberOffset 20
  let totalSize ← read32 Common.totalSize parent 8
  vb2VerifyCommonHeader (parent + memberOffset.toNat) (totalSize - memberOffset)
  let memberSize ← read32 Common.totalSize (parent + memberOffset.toNat) 8
  pure (memberOffset + memberSize)

def vb2SigSize (sigAlg : Vb2SignatureAlgorithm) (hashAlg : Vb2HashAlgorithm) : UInt32 :=
  if vb2DigestSize hashAlg = 0 then 0
  else if sigAlg = .none then vb2DigestSize hashAlg
  else vb2RsaSigSize sigAlg

def vb2VerifySignature (sig : Nat) (size : UInt32) : BufM Unit := do
  let magic ← read32 Common.magic sig 0
  refuse (magic ≠ vb2MagicSignature) vb2ErrorSigMagic
  vb2VerifyCommonHeader sig size
  let version ← read16 Common.structVersionMajor sig 4
  refuse (version ≠ vb2SignatureVersionMajor) vb2ErrorSigVersion
  let fixedSize ← read32 Common.fixedSize sig 12
  refuse (fixedSize < 56) vb2ErrorSigHeaderSize
  let sigOffset ← read32 Signature.sigOffset sig 20
  let sigSize ← read32 Signature.sigSize sig 24
  let _ ← vb2VerifyCommonMember sig 0 sigOffset sigSize
  let sigAlg ← read16 Signature.sigAlg sig 32
  let hashAlg ← read16 Signature.hashAlg sig 34
  let expectSigSize := vb2SigSize (sigAlgOf sigAlg) (hashAlgOf hashAlg)
  refuse (expectSigSize = 0) vb2ErrorSigAlgorithm
  refuse (sigSize ≠ expectSigSize) vb2ErrorSigSize

/-- How the loops over signatures and hashes start a round. The result is the new minimum offset. -/
def verifyEntry (minOffset offset : UInt32) : BufM UInt32 := do
  let minOffset ← vb2VerifyCommonSubobject 0 minOffset offset
  let totalSize ← read32 Common.totalSize 0 8
  vb2VerifySignature offset.toNat (totalSize - offset)
  pure minOffset

section
variable (align : UInt32) (hash : Vb2HashAlgorithm → List UInt8 → List UInt8)

/-- vb2_rsa_verify_digest gets to the power. -/
def rsaReached (key : Vb2PublicKey) (wb : Vb2Workbuf) : Prop :=
  vb2RsaSigSize key.sigAlg ≠ 0 ∧ key.arrsize * 4 = vb2RsaSigSize key.sigAlg ∧
    (vb2WorkbufAlloc align wb (3 * (key.arrsize * 4))).1 ≠ none

instance (key : Vb2PublicKey) (wb : Vb2Workbuf) : Decidable (rsaReached align key wb) :=
  inferInstanceAs (Decidable (_ ∧ _ ∧ _))

/- The signature becomes its own power. Before that the function can fail without a look at it. -/
def rsaInPlace (key : Vb2PublicKey) (data : Nat) (digest : List UInt8) (wb : Vb2Workbuf) : BufM Unit :=
  if rsaReached align key wb then do
    let size := (vb2RsaSigSize key.sigAlg).toNat
    let sig ← readAt data size (·.load data size)
    let (rv, power) := vb2RsaVerifyDigest align (some key) (some sig) (some digest) wb
    writeAt data size (power.getD [])
    refuse (rv ≠ vb2Success) rv
  else throw (vb2RsaVerifyDigest align (some key) (some []) (some digest) wb).1

def vb2VerifyDigest (key : Vb2PublicKey) (sig : Nat) (digest : List UInt8) (wb : Vb2Workbuf) :
    BufM Unit := do
  let keySigSize := vb2SigSize key.sigAlg key.hashAlg
  refuse (keySigSize = 0) vb2ErrorVdataAlgorithm
  let sigAlg ← read16 Signature.sigAlg sig 32
  refuse (sigAlgCode key.sigAlg ≠ sigAlg) vb2ErrorVdataAlgorithmMismatch
  let hashAlg ← read16 Signature.hashAlg sig 34
  refuse (hashAlgCode key.hashAlg ≠ hashAlg) vb2ErrorVdataAlgorithmMismatch
  let sigSize ← read32 Signature.sigSize sig 24
  refuse (sigSize ≠ keySigSize) vb2ErrorVdataSigSize
  let sigOffset ← read32 Signature.sigOffset sig 20
  let data := sig + sigOffset.toNat
  if key.sigAlg = .none then do
    let bytes ← readAt data keySigSize.toNat (·.load data keySigSize.toNat)
    refuse (vb2SafeMemcmp bytes digest keySigSize.toNat) vb2ErrorVdataVerifyDigest
  else rsaInPlace align key data digest wb

/- The data is at the start of the buffer. All hash algorithms are compiled in. -/
def vb2VerifyData (size : UInt32) (sig : Nat) (key : Vb2PublicKey) (wb : Vb2Workbuf) : BufM Unit := do
  let dataSize ← read32 Signature.dataSize sig 28
  refuse (dataSize ≠ size) vb2ErrorVdataSize
  let digestSize := vb2DigestSize key.hashAlg
  refuse (digestSize = 0) vb2ErrorVdataDigestSize
  let (digest, wb) := vb2WorkbufAlloc align wb digestSize
  refuse (digest = none) vb2ErrorVdataWorkbufDigest
  let (dc, wb) := vb2WorkbufAlloc align wb vb2DigestContextSize
  refuse (dc = none) vb2ErrorVdataWorkbufHashing
  let digest ← readAt 0 size.toNat fun m => hash key.hashAlg (m.load 0 size.toNat)
  vb2VerifyDigest align key sig digest (vb2WorkbufFree align wb vb2DigestContextSize)

/-- The loop over the signatures of a keyblock, where i counts as in the source. Without fuel there is no
result. -/
def keyblockLoop (key : PublicKey) (wb : Vb2Workbuf) : Nat → UInt32 → UInt32 → UInt32 → BufM (Option Unit)
  | 0, _, _, _ => pure none
  | fuel + 1, i, sigOffset, minOffset => do
    let sigCount ← readAt 28 4 Keyblock.sigCount
    if i < sigCount then do
      let minOffset ← verifyEntry minOffset sigOffset
      let sig := sigOffset.toNat
      let id ← readAt (sig + 36) vb2IdNumBytes (Signature.id · sig)
      -- a signature of another key is skipped
      if id ≠ key.id then keyblockLoop key wb fuel (i + 1) minOffset minOffset
      else do
        let dataSize ← read32 Signature.dataSize sig 28
        let signed ← readAt 32 4 Keyblock.sigOffset
        refuse (dataSize ≠ signed) vb2ErrorKeyblockSignedSize
        vb2VerifyData align hash signed sig key.toVb2PublicKey wb
        pure (some ())
    else throw vb2ErrorKeyblockSigId

def verifyObjectHeader (size : UInt32) (magic : UInt32) (version : UInt16) (structSize : UInt32)
    (magicError versionError sizeError : UInt32) : BufM Unit := do
  let found ← read32 Common.magic 0 0
  refuse (found ≠ magic) magicError
  vb2VerifyCommonHeader 0 size
  let major ← read16 Common.structVersionMajor 0 4
  refuse (major ≠ version) versionError
  let fixedSize ← read32 Common.fixedSize 0 12
  refuse (fixedSize < structSize) sizeError

def vb2VerifyKeyblock (fuel : Nat) (size : UInt32) (key : PublicKey) (wb : Vb2Workbuf) :
    BufM (Option Unit) := do
  verifyObjectHeader size vb2MagicKeyblock vb2KeyblockVersionMajor 36
    vb2ErrorKeyblockMagic vb2ErrorKeyblockHeaderVersion vb2ErrorKeyblockSize
  let keyOffset ← readAt 24 4 Keyblock.keyOffset
  let minOffset ← vb2VerifyCommonSubobject 0 0 keyOffset
  let sigOffset ← readAt 32 4 Keyblock.sigOffset
  keyblockLoop align hash key wb fuel 0 sigOffset minOffset

/-- The loop over the hashes of a preamble. The result is the minimum offset after them. -/
def hashLoop : Nat → UInt32 → UInt32 → UInt32 → BufM (Option UInt32)
  | 0, _, _, _ => pure none
  | fuel + 1, i, hashOffset, minOffset => do
    let hashCount ← readAt 32 4 FwPreamble.hashCount
    if i < hashCount then do
      let minOffset ← verifyEntry minOffset hashOffset
      let sigAlg ← read16 Signature.sigAlg hashOffset.toNat 32
      refuse (sigAlg ≠ sigAlgCode .none) vb2ErrorPreambleHashSigned
      hashLoop fuel (i + 1) minOffset minOffset
    else pure (some minOffset)

/-- What vb2_verify_fw_preamble does before the data is verified. The signature is only checked as an
object with a common header. The result is its offset. -/
def checkFwPreamble (fuel : Nat) (size : UInt32) : BufM (Option UInt32) := do
  verifyObjectHeader size vb2MagicFwPreamble vb2FwPreambleVersionMajor 40
    vb2ErrorPreambleMagic vb2ErrorPreambleHeaderVersion vb2ErrorPreambleSize
  let hashOffset ← readAt 36 4 FwPreamble.hashOffset
  match ← hashLoop fuel 0 hashOffset 0 with
  | none => pure none
  | some minOffset => do
    let sigOffset ← readAt 28 4 FwPreamble.sigOffset
    let _ ← vb2VerifyCommonSubobject 0 minOffset sigOffset
    pure (some sigOffset)

def vb2VerifyFwPreamble (fuel : Nat) (size : UInt32) (key : Vb2PublicKey) (wb : Vb2Workbuf) :
    BufM (Option Unit) := do
  match ← checkFwPreamble fuel size with
  | none => pure none
  | some sigOffset => do
    vb2VerifyData align hash sigOffset sigOffset.toNat key wb
    pure (some ())

end
end Vboot.Vb21
