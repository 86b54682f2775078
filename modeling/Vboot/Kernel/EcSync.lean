import Vboot.Kernel.Platform

/-! Software sync of the embedded controller: EcProtect, EcUpdateImage and VbEcSoftwareSync of
firmware/lib/vboot_api_kernel.c. -/
namespace Vboot
open Vboot.Lib

def recoveryEcSoftwareSync : UInt32 := 0x22
def recoveryEcUnknownImage : UInt32 := 0x23
def recoveryEcExpectedImage : UInt32 := 0x25
def recoveryEcUpdate : UInt32 := 0x26
def recoveryEcJumpRw : UInt32 := 0x27
def recoveryEcProtect : UInt32 := 0x28
def recoveryEcExpectedHash : UInt32 := 0x29
def recoveryEcHashMismatch : UInt32 := 0x2A
def recoveryEcHashFailed : UInt32 := 0x57
def recoveryEcHashSize : UInt32 := 0x58

def vbErrorVgaOpromMismatch : UInt32 := 0x10021
def vbErrorEcRebootToRoRequired : UInt32 := 0x10022
def vbErrorEcGetExpectedHashFromImage : UInt32 := 0x20000

def sha256DigestSize : Nat := 32

section
variable {W H S : Type} (platform : Platform W H S) (sha256 : List UInt8 → List UInt8)
  (devidx : Nat) (shared : VbSharedData)

/-- Ask for recovery and for a reboot of the EC. -/
def ecFail (reason : UInt32) : UiM W UInt32 := do
  vbSetRecoveryRequest reason
  return vbErrorEcRebootToRoRequired

def ecProtect (select : EcImage) : UiM W UInt32 := do
  let rv ← call (platform.ecProtect devidx select)
  doIf (rv != vbErrorEcRebootToRoRequired && rv != vbErrorSuccess)
    (vbSetRecoveryRequest recoveryEcProtect)
  return rv

def ecReadHash (select : EcImage) : UiM W (UInt32 ⊕ List UInt8) := do
  let (rv, hash, hashSize) ← call (platform.ecHashImage devidx select)
  if rv ≠ 0 then do
    let rv ← ecFail recoveryEcHashFailed
    return .inl rv
  else if hashSize ≠ sha256DigestSize then do
    let rv ← ecFail recoveryEcHashSize
    return .inl rv
  else return .inr (hash.load 0 sha256DigestSize)

def ecReadExpectedHash (select : EcImage) : UiM W (UInt32 ⊕ Option (List UInt8)) := do
  let (rv, hash, hashSize) ← call (platform.ecGetExpectedImageHash devidx select)
  if rv = vbErrorEcGetExpectedHashFromImage then return .inr none
  else if rv ≠ 0 ∨ hashSize ≠ sha256DigestSize then do
    let rv ← ecFail recoveryEcExpectedHash
    return .inl rv
  else return .inr (some (hash.load 0 sha256DigestSize))

def ecReadExpectedImage (select : EcImage) : UiM W (UInt32 ⊕ List UInt8) := do
  let (rv, expected) ← call (platform.ecGetExpectedImage devidx select)
  if rv ≠ 0 then do
    let rv ← ecFail recoveryEcExpectedImage
    return .inl rv
  else return .inr expected

def opromReload : Bool :=
  hasFlag shared.flags vbsdOpromMatters && !hasFlag shared.flags vbsdOpromLoaded

/-- Write the image and read the hash back. The hash is compared with the one that was
supplied; if none was, the comparison is with the null pointer, whose bytes are the memory at
address 0. -/
def ecWriteImage (select : EcImage) (hash : Option (List UInt8)) (expected : List UInt8)
    (null : List UInt8) : UiM W UInt32 := do
  let rv ← call (platform.ecUpdateImage devidx select expected)
  if rv ≠ vbErrorSuccess then do
    doIf (rv != vbErrorEcRebootToRoRequired) (vbSetRecoveryRequest recoveryEcUpdate)
    return vbErrorEcRebootToRoRequired
  else do
    let ecHash ← ecReadHash platform devidx select
    match ecHash with
    | .inl rv => return rv
    | .inr ecHash =>
      if safeMemcmp ecHash (hash.getD null) then ecFail recoveryEcUpdate
      else return vbErrorSuccess

/-- The update of an image that is not the running one. A slow update shows a screen, which
needs the option ROM. -/
def ecReplaceImage (select : EcImage) (hash : Option (List UInt8)) (expected : List UInt8)
    (null : List UInt8) : UiM W UInt32 :=
  if hasFlag shared.flags vbsdEcSlowUpdate then
    if opromReload shared then do
      nvSet .opromNeeded 1
      return vbErrorVgaOpromMismatch
    else do
      vbDisplayScreen platform .wait
      ecWriteImage platform devidx select hash expected null
  else ecWriteImage platform devidx select hash expected null

def ecUpdateKnown (select : EcImage) (inRw : Int) (needUpdate : Bool)
    (hash : Option (List UInt8)) (expected : List UInt8) (null : List UInt8) : UiM W UInt32 :=
  if inRw ≠ 0 ∧ select ≠ .readonly then
    if needUpdate then do
      doIf (hasFlag shared.flags vbsdEcSlowUpdate && opromReload shared) (nvSet .opromNeeded 1)
      return vbErrorEcRebootToRoRequired
    else return vbErrorSuccess
  else if needUpdate then ecReplaceImage platform devidx shared select hash expected null
  else return vbErrorSuccess

/-- The result is the return value and need_update. The expected image is only read if it is
needed. -/
def ecUpdateImage (select : EcImage) (inRw : Int) (null : List UInt8) : UiM W (UInt32 × Bool) := do
  let ecHash ← ecReadHash platform devidx select
  match ecHash with
  | .inl rv => return (rv, false)
  | .inr ecHash => do
    let hash ← ecReadExpectedHash platform devidx select
    match hash with
    | .inl rv => return (rv, false)
    | .inr none => do
      let expected ← ecReadExpectedImage platform devidx select
      match expected with
      | .inl rv => return (rv, false)
      | .inr expected => do
        let needUpdate := safeMemcmp ecHash (sha256 expected)
        let rv ← ecUpdateKnown platform devidx shared select inRw needUpdate none expected null
        return (rv, needUpdate)
    | .inr (some hash) =>
      if safeMemcmp ecHash hash then do
        let expected ← ecReadExpectedImage platform devidx select
        match expected with
        | .inl rv => return (rv, true)
        | .inr expected =>
          if safeMemcmp hash (sha256 expected) then do
            let rv ← ecFail recoveryEcHashMismatch
            return (rv, true)
          else do
            let rv ← ecUpdateKnown platform devidx shared select inRw true (some hash) expected null
            return (rv, true)
      else do
        let rv ← ecUpdateKnown platform devidx shared select inRw false (some hash) [] null
        return (rv, false)

/-- The last step of software sync: the EC must not jump again. -/
def ecDisableJump : UiM W UInt32 := do
  let rv ← call (platform.ecDisableJump devidx)
  if rv ≠ vbErrorSuccess then ecFail recoveryEcSoftwareSync else return vbErrorSuccess

/-- Software sync in recovery mode: only make sure that the EC is not known to be in RW. -/
def ecSyncRecovery (rv : UInt32) (inRw : Int) : UiM W UInt32 :=
  if rv = vbErrorSuccess ∧ inRw = 1 then ecFail shared.recoveryReason.toUInt32
  else return vbErrorSuccess

/-- Software sync when the main firmware is the read-only one. -/
def ecSyncRoNormal (selectRw : EcImage) (inRw : Int) : UiM W UInt32 :=
  if inRw = 1 then return vbErrorEcRebootToRoRequired
  else do
    let rv ← ecProtect platform devidx selectRw
    if rv ≠ vbErrorSuccess then return rv else ecDisableJump platform devidx

def ecJump (inRw : Int) : UiM W UInt32 :=
  if inRw ≠ 0 then return vbErrorSuccess
  else do
    let rv ← call (platform.ecJumpToRW devidx)
    if rv ≠ vbErrorSuccess then do
      doIf (rv != vbErrorEcRebootToRoRequired) (vbSetRecoveryRequest recoveryEcJumpRw)
      return vbErrorEcRebootToRoRequired
    else return vbErrorSuccess

/-- The two tries at the RO image. A success after a failure restores the recovery request
from before. -/
def ecTryRoSync (inRw : Int) (null : List UInt8) (recoveryRequest : UInt32) : UiM W UInt32 := do
  let first ← ecUpdateImage platform sha256 devidx shared .readonly inRw null
  if first.1 = vbErrorSuccess then return first.1
  else do
    let second ← ecUpdateImage platform sha256 devidx shared .readonly inRw null
    doIf (second.1 == vbErrorSuccess) (vbSetRecoveryRequest recoveryRequest)
    return second.1

/-- Update the RO image if that was asked for. -/
def ecSyncRo (inRw : Int) (null : List UInt8) : UiM W UInt32 := do
  let tryRoSync ← nvGet .tryRoSync
  if devidx = 0 ∧ tryRoSync ≠ 0 ∧ hasFlag shared.flags vbsdBootFirmwareWpEnabled = false then do
    nvSet .tryRoSync 0
    let recoveryRequest ← nvGet .recoveryRequest
    ecTryRoSync platform sha256 devidx shared inRw null recoveryRequest
  else return vbErrorSuccess

/-- Protect both images, and unload the option ROM if it was only needed for the update. -/
def ecFinish (selectRw : EcImage) (updatedRw : Bool) : UiM W UInt32 := do
  let rv ← ecProtect platform devidx .readonly
  if rv ≠ vbErrorSuccess then return rv
  else do
    let rv ← ecProtect platform devidx selectRw
    if rv ≠ vbErrorSuccess then return rv
    else do
      let rv ← ecDisableJump platform devidx
      if rv ≠ vbErrorSuccess then return rv
      else if updatedRw ∧ bootDevSwitchOn shared = false ∧ hasFlag shared.flags vbsdEcSlowUpdate ∧
          hasFlag shared.flags vbsdOpromMatters ∧ hasFlag shared.flags vbsdOpromLoaded then do
        nvSet .opromNeeded 0
        return vbErrorVgaOpromMismatch
      else return vbErrorSuccess

def ecSyncRw (selectRw : EcImage) (inRw : Int) (null : List UInt8) : UiM W UInt32 := do
  let (rv, updatedRw) ← ecUpdateImage platform sha256 devidx shared selectRw inRw null
  if rv ≠ vbErrorSuccess then return rv
  else do
    let rv ← ecJump platform devidx inRw
    if rv ≠ vbErrorSuccess then return rv
    else do
      let rv ← ecSyncRo platform sha256 devidx shared inRw null
      if rv ≠ vbErrorSuccess then return rv
      else ecFinish platform devidx shared selectRw updatedRw

/- null is the memory at address 0, which EcUpdateImage may read. -/
def vbEcSoftwareSync (null : List UInt8) : UiM W UInt32 := do
  let selectRw : EcImage := if shared.firmwareIndex ≠ 0 then .b else .a
  let (rv, inRw) ← call (platform.ecRunningRW devidx)
  if shared.recoveryReason ≠ 0 then ecSyncRecovery shared rv inRw
  else if rv ≠ vbErrorSuccess then ecFail recoveryEcUnknownImage
  else if hasFlag shared.flags vbsdLfUseRoNormal then ecSyncRoNormal platform devidx selectRw inRw
  else ecSyncRw platform sha256 devidx shared selectRw inRw null

end
end Vboot
