import Vboot.Common.NvStorage
import Vboot.Common.SharedData

/-! Selection of the rewritable firmware, LoadFirmware of firmware/lib/vboot_firmware.c. -/
namespace Vboot
open Vboot.Lib

/- Results of checking one slot. -/
def checkDevMismatch : UInt8 := 1
def checkRecMismatch : UInt8 := 2
def checkVerifyKeyblock : UInt8 := 3
def checkKeyRollback : UInt8 := 4
def checkDataKeyParse : UInt8 := 5
def checkVerifyPreamble : UInt8 := 6
def checkFwRollback : UInt8 := 7
def checkHeaderValid : UInt8 := 8
def checkGetFwBody : UInt8 := 9
def checkHashWrongSize : UInt8 := 10
def checkVerifyBody : UInt8 := 11
def checkValid : UInt8 := 12
def checkNoRoNormal : UInt8 := 13

/-- One call of VbUpdateFirmwareBodyHash. -/
structure Chunk where
  data : Mem
  size : UInt32

/-- What the platform supplies: the GBB header that was read before, access to the GBB, the
contents of uninitialised memory, the verification blocks of the two slots, and
for each slot the result of VbExHashFirmwareBody with the data that it hashes.
In the CBMC build the kernel subkey is not saved. -/
structure FirmwareParams where
  gbb : Ptr
  gbbAccess : GbbAccess
  heap : Mem
  heap' : Mem
  verificationBlockA : Mem
  verificationBlockB : Mem
  verificationSizeA : UInt32
  verificationSizeB : UInt32
  hashFirmwareBody : Nat → UInt32 × List Chunk
  cbmc : Bool

namespace FirmwareParams

def keyBlock (p : FirmwareParams) (index : Nat) : Ptr :=
  ⟨if index = 0 then p.verificationBlockA else p.verificationBlockB, 0⟩

def vblockSize (p : FirmwareParams) (index : Nat) : UInt64 :=
  (if index = 0 then p.verificationSizeA else p.verificationSizeB).toUInt64

/-- The preamble follows the key block. -/
def preamble (p : FirmwareParams) (index : Nat) : Ptr :=
  (p.keyBlock index).add (p.keyBlock index).keyBlockSize.toNat

def rollbackCheck (p : FirmwareParams) : Bool := p.gbb.gbbFlags &&& gbbFlagDisableFwRollbackCheck == 0

def combinedVersion (p : FirmwareParams) (index : Nat) : UInt32 :=
  ((p.keyBlock index).dataKey.keyVersion <<< 16 |||
    ((p.preamble index).firmwareVersion &&& 0xFFFF)).toUInt32

def vbGbbReadRootKey (p : FirmwareParams) : Except UInt32 Ptr :=
  vbGbbReadKey p.gbbAccess p.gbb.rootkeyOffset p.heap p.heap'

end FirmwareParams

/-- A nonzero result of one of the verification functions. -/
def fails {ε α : Type} : Except ε α → Bool
  | .ok _ => false
  | .error _ => true

@[simp] theorem fails_eq_false {ε : Type} {x : Except ε Unit} : fails x = false ↔ x = .ok ⟨⟩ := by
  cases x <;> simp [fails]

def bootDevSwitchOn (shared : VbSharedData) : Bool := shared.flags &&& vbsdBootDevSwitchOn != 0

section
variable {Ctx : Type} (crypto : Crypto Ctx) (p : FirmwareParams)

/-- The checks of a slot's key block, preamble and versions. The result is the data key. -/
def checkHeader (rootKey : Ptr) (isDev : Bool) (fwVersionTpm : UInt32) (index : Nat) :
    Except UInt8 RSAPublicKey := do
  let keyBlock := p.keyBlock index
  reject (keyBlock.keyBlockFlags &&&
    (if isDev then keyBlockFlagDeveloper1 else keyBlockFlagDeveloper0) = 0) checkDevMismatch
  reject (keyBlock.keyBlockFlags &&& keyBlockFlagRecovery0 = 0) checkRecMismatch
  reject (fails (keyBlockVerify crypto keyBlock (p.vblockSize index) (some rootKey) false))
    checkVerifyKeyblock
  let keyVersion := keyBlock.dataKey.keyVersion
  reject (p.rollbackCheck ∧ keyVersion < (fwVersionTpm >>> 16).toUInt64) checkKeyRollback
  reject (p.rollbackCheck ∧ keyVersion > 0xFFFF) checkKeyRollback
  let dataKey ← require (publicKeyToRSA keyBlock.dataKey) checkDataKeyParse
  reject (fails (verifyFirmwarePreamble crypto (p.preamble index)
    (p.vblockSize index - keyBlock.keyBlockSize) dataKey)) checkVerifyPreamble
  reject (p.combinedVersion index < fwVersionTpm ∧ p.rollbackCheck) checkFwRollback
  return dataKey

/-- VbUpdateFirmwareBodyHash: the digest and the number of bytes, which is a 32-bit counter. -/
def vbUpdateFirmwareBodyHash (lfi : Ctx × UInt32) (c : Chunk) : Ctx × UInt32 :=
  (crypto.update lfi.1 (c.data.load 0 c.size.toNat), lfi.2 + c.size)

def useRoNormal (index : Nat) : Bool :=
  vbGetFirmwarePreambleFlags (p.preamble index) &&& vbFirmwarePreambleUseRoNormal != 0

/-- Either the read-only path, which the platform has to support, or a body with a good
signature. -/
def checkBody (flags : UInt32) (dataKey : RSAPublicKey) (index : Nat) : Except UInt8 Unit := do
  if useRoNormal p index then
    reject (flags &&& vbsdBootRoNormalSupport = 0) checkNoRoNormal
  else
    let lfi := (p.hashFirmwareBody index).2.foldl (vbUpdateFirmwareBodyHash crypto)
      (digestInit crypto dataKey.algorithm, 0)
    let bodySignature := (p.preamble index).fwBodySignature
    reject ((p.hashFirmwareBody index).1 ≠ vbErrorSuccess) checkGetFwBody
    reject (lfi.2.toUInt64 ≠ bodySignature.dataSize) checkHashWrongSize
    reject (verifyDigest crypto (crypto.final lfi.1) bodySignature dataKey) checkVerifyBody

/-- The variables that the loop over the slots carries. -/
structure Search where
  shared : VbSharedData
  lowestVersion : UInt32
  goodIndex : Option Nat

def setCheckResult (shared : VbSharedData) (index : Nat) (r : UInt8) : VbSharedData :=
  if index = 0 then { shared with checkFwAResult := r } else { shared with checkFwBResult := r }

/-- Save the key of the slot that was found, unless this is the CBMC build. -/
def saveKernelKey (shared : VbSharedData) (index : Nat) : Bool × VbSharedData :=
  if p.cbmc then (false, shared)
  else vbSharedDataSetKernelKey shared (p.preamble index).kernelSubkey

/-- The marks of a slot that passed every check. -/
def markValid (shared : VbSharedData) (index : Nat) : VbSharedData :=
  setCheckResult (if useRoNormal p index then
    { shared with flags := shared.flags ||| vbsdLfUseRoNormal } else shared) index checkValid

/-- Take a slot that passed every check. The loop stops if the TPM needs no update. -/
def takeSlot (index : Nat) (s : Search) : Search × Bool :=
  let (err, shared) := saveKernelKey p (markValid p s.shared index) index
  if err then ({ s with shared := shared }, false)
  else
    ({ s with
      shared := { shared with
        firmwareIndex := UInt8.ofNat index
        fwKeyblockFlags := (p.keyBlock index).keyBlockFlags }
      goodIndex := some index },
    p.combinedVersion index == shared.fwVersionTpm)

/-- A slot with a good header counts for the lowest version. -/
def sawHeader (index : Nat) (s : Search) : Search :=
  { s with
    shared := setCheckResult s.shared index checkHeaderValid
    lowestVersion := if s.lowestVersion > p.combinedVersion index then p.combinedVersion index
      else s.lowestVersion }

/-- One iteration of the loop. -/
def trySlot (rootKey : Ptr) (isDev : Bool) (index : Nat) (s : Search) : Search × Bool :=
  match checkHeader crypto p rootKey isDev s.shared.fwVersionTpm index with
  | .error r => ({ s with shared := setCheckResult s.shared index r }, false)
  | .ok dataKey =>
    let s := sawHeader p index s
    if s.goodIndex ≠ none then (s, false)
    else match checkBody crypto p s.shared.flags dataKey index with
      | .error r => ({ s with shared := setCheckResult s.shared index r }, false)
      | .ok _ => takeSlot p index s

def search (rootKey : Ptr) (isDev : Bool) : List Nat → Search → Search
  | [], s => s
  | index :: rest, s =>
    let (s, stop) := trySlot crypto p rootKey isDev index s
    if stop then s else search rootKey isDev rest s

def tryOrder (tryBCount : UInt32) : List Nat := if tryBCount ≠ 0 then [1, 0] else [0, 1]

/-- The flags that are set before the loop, and the try-B count. -/
def startSearch (shared : VbSharedData) (vnc : VbNvContext) : VbSharedData × VbNvContext :=
  let shared := if bootDevSwitchOn shared then
    { shared with flags := shared.flags ||| vbsdLfDevSwitchOn } else shared
  let tryBCount := vbNvGet vnc .tryBCount
  if tryBCount ≠ 0 then
    ({ shared with flags := shared.flags ||| vbsdFwbTried },
      if shared.flags &&& vbsdNofailBoot = 0 then vbNvSet vnc .tryBCount (tryBCount - 1) else vnc)
  else (shared, vnc)

/-- The recovery reason when no slot was good. -/
def noFirmwareReason (shared : VbSharedData) : UInt32 :=
  let a := shared.checkFwAResult
  let b := shared.checkFwBResult
  let bestCheck := (if a > b then a else b) + recoveryRoInvalidRwCheckMin
  if bestCheck ≥ recoveryRoInvalidRwCheckMin ∧ bestCheck ≤ recoveryRoInvalidRwCheckMax then
    bestCheck.toUInt32
  else recoveryRoInvalidRw

def loadFirmwareExit (retval recovery : UInt32) (shared : VbSharedData) (vnc : VbNvContext) :
    UInt32 × VbSharedData × VbNvContext :=
  let vnc := vbNvSet vnc .recoveryRequest
    (if vbErrorSuccess ≠ retval then recovery else recoveryNotRequested)
  let shared := if shared.flags &&& vbsdBootRoNormalSupport = 0 ∧ shared.recoveryReason = 0 ∧
      vbErrorSuccess ≠ retval then
    { shared with recoveryReason := recovery.toUInt8 } else shared
  (retval, shared, vnc)

def loadFirmware (shared : VbSharedData) (vnc : VbNvContext) :
    UInt32 × VbSharedData × VbNvContext :=
  let shared := { shared with firmwareIndex := 0xFF }
  match p.vbGbbReadRootKey with
  | .error _ => loadFirmwareExit vbErrorInvalidGbb recoveryRoUnspecified shared vnc
  | .ok rootKey =>
    let isDev := bootDevSwitchOn shared
    let order := tryOrder (vbNvGet vnc .tryBCount)
    let (shared, vnc) := startSearch shared vnc
    let s := search crypto p rootKey isDev order ⟨shared, 0xFFFFFFFF, none⟩
    match s.goodIndex with
    | some _ =>
      let shared := { s.shared with
        fwVersionLowest := s.lowestVersion
        fwVersionTpm := if s.lowestVersion > s.shared.fwVersionTpm then s.lowestVersion
          else s.shared.fwVersionTpm }
      loadFirmwareExit vbErrorSuccess recoveryRoUnspecified shared vnc
    | none => loadFirmwareExit vbErrorLoadFirmware (noFirmwareReason s.shared) s.shared vnc

end
end Vboot
