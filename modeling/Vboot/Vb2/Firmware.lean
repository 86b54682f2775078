import Vboot.Vb2.Misc

/-! Verification of the firmware keyblock and preamble, firmware/lib20/misc.c, and the phases of
firmware verification, firmware/2lib/2api.c and firmware/lib20/api.c. -/
namespace Vboot.Vb2
open Vboot.Lib

def vb2ErrorFwKeyblockWorkbufRootKey : UInt32 := 0x10080008
def vb2ErrorFwKeyblockWorkbufHeader : UInt32 := 0x10080009
def vb2ErrorFwKeyblockWorkbuf : UInt32 := 0x1008000a
def vb2ErrorFwKeyblockVersionRange : UInt32 := 0x1008000b
def vb2ErrorFwKeyblockVersionRollback : UInt32 := 0x1008000c
def vb2ErrorFwPreamble2DataKey : UInt32 := 0x1008000d
def vb2ErrorFwPreamble2WorkbufHeader : UInt32 := 0x1008000e
def vb2ErrorFwPreamble2Workbuf : UInt32 := 0x1008000f
def vb2ErrorFwPreambleVersionRange : UInt32 := 0x10080010
def vb2ErrorFwPreambleVersionRollback : UInt32 := 0x10080011
def vb2ErrorApiPhase1Recovery : UInt32 := 0x1009000e
def vb2ErrorApiPhase1SecdataReboot : UInt32 := 0x10090019

def onWorkbuf {α : Type} (x : Program UInt32 Mem α) : Vb2M α :=
  zoom (·.workbuf) (fun m ctx => { ctx with workbuf := m }) x

def rollbackAllowed (ctx : Vb2Context) : Prop := ctx.sd.gbbFlags &&& vb2GbbFlagDisableFwRollbackCheck ≠ 0

instance (ctx : Vb2Context) : Decidable (rollbackAllowed ctx) := inferInstanceAs (Decidable (_ ≠ _))

def checkKeyVersion (keyVersion : UInt32) (ctx : Vb2Context) : Except UInt32 Unit := do
  reject (keyVersion > 0xffff) vb2ErrorFwKeyblockVersionRange
  reject (keyVersion < ctx.sd.fwVersionSecdata >>> 16 ∧ ¬rollbackAllowed ctx)
    vb2ErrorFwKeyblockVersionRollback

def checkFwVersion (firmwareVersion : UInt32) (ctx : Vb2Context) : Except UInt32 Unit := do
  reject (firmwareVersion > 0xffff) vb2ErrorFwPreambleVersionRange
  reject (ctx.sd.fwVersion < ctx.sd.fwVersionSecdata ∧ ¬rollbackAllowed ctx)
    vb2ErrorFwPreambleVersionRollback

/-- The data key replaces the root key in the work buffer. It may run into the keyblock. -/
def copyDataKey (m : Mem) (keyData dataKey : UInt64) : Mem :=
  let m := m.store (keyData.toNat + 16) (leBytes32 (Vb2PackedKey.algorithm m dataKey))
  let m := m.store (keyData.toNat + 24) (leBytes32 (Vb2PackedKey.keyVersion m dataKey))
  let m := m.store (keyData.toNat + 8) (leBytes32 (Vb2PackedKey.keySize m dataKey))
  m.store (vb2PackedKeyData m keyData).toNat
    (m.load (vb2PackedKeyData m dataKey).toNat (Vb2PackedKey.keySize m keyData).toNat)

def saveDataKey (keyData kb : UInt64) (ctx : Vb2Context) : Vb2Context :=
  let m := copyDataKey ctx.workbuf keyData (Vb2Keyblock.dataKey kb)
  let offset := (vb2OffsetOf ctx.workbufAddr keyData).toUInt32
  let size := Vb2PackedKey.keyOffset m keyData + Vb2PackedKey.keySize m keyData
  { ctx with
    workbuf := m
    sd := { ctx.sd with
      workbufDataKeyOffset := offset
      workbufDataKeySize := size
      vblockPreambleOffset := Vb2Keyblock.keyblockSize m kb }
    workbufUsed := offset + size }

def savePreamble (pre : UInt64) (preSize : UInt32) (ctx : Vb2Context) : Vb2Context :=
  let offset := (vb2OffsetOf ctx.workbufAddr pre).toUInt32
  { ctx with
    sd := { ctx.sd with
      workbufPreambleOffset := offset
      workbufPreambleSize := preSize }
    workbufUsed := offset + preSize }

/-- The version is newer, and the last boot used the same slot with success. -/
def canRollForward (sd : Vb2SharedData) : Prop :=
  sd.fwVersion > sd.fwVersionSecdata ∧ sd.lastFwSlot = sd.fwSlot ∧ sd.lastFwResult = vb2FwResultSuccess

instance (sd : Vb2SharedData) : Decidable (canRollForward sd) := inferInstanceAs (Decidable (_ ∧ _))

def rollForward : Vb2M Unit := do
  let sd ← observe (·.sd)
  doIf (canRollForward sd) do
    update fun ctx => { ctx with sd := { ctx.sd with fwVersionSecdata := sd.fwVersion } }
    transform (vb2SecdataSet · .versions sd.fwVersion)

section
variable (align : UInt32) (hash : Vb2HashAlgorithm → List UInt8 → List UInt8) (ex : Vb2Ex)

/-- The first part of vb2_load_fw_keyblock: the root key, for which it returns the buffer and the
key, in the work buffer. -/
def loadRootKey : Vb2M (UInt64 × Vb2PublicKey × Vb2Workbuf) := do
  let wb ← observe (vb2WorkbufFromCtx align)
  let sd ← observe (·.sd)
  let (keyData, wb) ← allocate (vb2WorkbufAlloc align wb sd.gbbRootkeySize)
    vb2ErrorFwKeyblockWorkbufRootKey
  vb2exReadResource ex .gbb sd.gbbRootkeyOffset keyData sd.gbbRootkeySize
  let rootKey ← inspect fun ctx => vb2UnpackKey ctx.workbuf keyData sd.gbbRootkeySize
  pure (keyData, rootKey, wb)

/-- The second part: the keyblock behind the root key, verified. -/
def loadKeyblock (rootKey : Vb2PublicKey) (wb : Vb2Workbuf) : Vb2M UInt64 := do
  let (kb, wb) ← allocate (vb2WorkbufAlloc align wb vb2KeyblockHeaderSize)
    vb2ErrorFwKeyblockWorkbufHeader
  vb2exReadResource ex .fwVblock 0 kb vb2KeyblockHeaderSize
  let blockSize ← observe fun ctx => Vb2Keyblock.keyblockSize ctx.workbuf kb
  let (kb, wb) ← allocate (vb2WorkbufRealloc align wb vb2KeyblockHeaderSize blockSize)
    vb2ErrorFwKeyblockWorkbuf
  vb2exReadResource ex .fwVblock 0 kb blockSize
  orFail vb2RecoveryFwKeyblock (onWorkbuf (vb2VerifyKeyblock align hash kb blockSize rootKey wb))
  pure kb

def vb2LoadFwKeyblock : Vb2M Unit := do
  let (keyData, rootKey, wb) ← loadRootKey align ex
  let kb ← loadKeyblock align hash ex rootKey wb
  let keyVersion ← observe fun ctx => Vb2PackedKey.keyVersion ctx.workbuf (Vb2Keyblock.dataKey kb)
  orFail vb2RecoveryFwKeyRollback (inspect (checkKeyVersion keyVersion))
  update fun ctx => { ctx with sd := { ctx.sd with fwVersion := keyVersion <<< 16 } }
  update (saveDataKey keyData kb)

/-- The first part of vb2_load_fw_preamble: the data key that is in the work buffer. -/
def loadDataKey : Vb2M Vb2PublicKey := do
  let sd ← observe (·.sd)
  inspect fun ctx => do
    reject (sd.workbufDataKeySize = 0) vb2ErrorFwPreamble2DataKey
    vb2UnpackKey ctx.workbuf (ctx.workbufAddr + sd.workbufDataKeyOffset.toUInt64) sd.workbufDataKeySize

/-- The second part: the preamble and its size, verified. -/
def loadPreamble (dataKey : Vb2PublicKey) : Vb2M (UInt64 × UInt32) := do
  let wb ← observe (vb2WorkbufFromCtx align)
  let offset ← observe (·.sd.vblockPreambleOffset)
  let (pre, wb) ← allocate (vb2WorkbufAlloc align wb vb2FwPreambleHeaderSize)
    vb2ErrorFwPreamble2WorkbufHeader
  vb2exReadResource ex .fwVblock offset pre vb2FwPreambleHeaderSize
  let preSize ← observe fun ctx => Vb2FwPreamble.preambleSize ctx.workbuf pre
  let (pre, wb) ← allocate (vb2WorkbufRealloc align wb vb2FwPreambleHeaderSize preSize)
    vb2ErrorFwPreamble2Workbuf
  vb2exReadResource ex .fwVblock offset pre preSize
  orFail vb2RecoveryFwPreamble (onWorkbuf (vb2VerifyFwPreamble align hash pre preSize dataKey wb))
  pure (pre, preSize)

def vb2LoadFwPreamble : Vb2M Unit := do
  let dataKey ← loadDataKey
  let (pre, preSize) ← loadPreamble align hash ex dataKey
  let firmwareVersion ← observe fun ctx => Vb2FwPreamble.firmwareVersion ctx.workbuf pre
  update fun ctx => { ctx with sd := { ctx.sd with fwVersion := ctx.sd.fwVersion ||| firmwareVersion } }
  orFail vb2RecoveryFwRollback (inspect (checkFwVersion firmwareVersion))
  rollForward
  update (savePreamble pre preSize)

/-- The caller asks for a reboot because of secdata, which is done once. -/
def secdataReboot : Vb2M Unit := do
  let ctx ← observe id
  if ctx.flags &&& vb2ContextSecdataWantsReboot = 0 then update (vb2NvSet · .tpmRequestedReboot 0)
  else if vb2NvGet ctx .tpmRequestedReboot ≠ 0 then update (vb2Fail vb2RecoveryRoTpmReboot 0)
  else do
    update (vb2NvSet · .tpmRequestedReboot 1)
    throw vb2ErrorApiPhase1SecdataReboot

/-- The last part of phase 1: the GBB, recovery mode and developer mode. -/
def fwPhase1Mode : Vb2M Unit := do
  failAndGoOn vb2RecoveryGbbHeader (vb2FwParseGbb align ex)
  update vb2CheckRecovery
  let rv ← attempt (vb2CheckDevSwitch ex)
  let recovery ← observe fun ctx => decide (ctx.flags &&& vb2ContextRecoveryMode ≠ 0)
  if recovery then do
    update fun ctx => { ctx with flags := ctx.flags ||| vb2ContextClearRam }
    throw vb2ErrorApiPhase1Recovery
  else orFail vb2RecoveryDevSwitch (inspect fun _ => rv)

def vb2apiFwPhase1 : Vb2M Unit := do
  let _ ← attempt (transform (vb2InitContext align) : Vb2M Unit)
  update vb2NvInit
  secdataReboot
  failAndGoOn vb2RecoverySecdataInit (transform vb2SecdataInit)
  fwPhase1Mode align ex

/-- A resume takes the slot of the last boot and does not count as a choice. -/
def resumeSlot (ctx : Vb2Context) : Vb2Context :=
  let fwSlot := vb2NvGet ctx .fwTried
  { ctx with
    sd := { ctx.sd with fwSlot }
    flags := if fwSlot ≠ 0 then ctx.flags ||| vb2ContextFwSlotB else ctx.flags }

def vb2apiFwPhase2 : Vb2M Unit := do
  let ctx ← observe id
  if ctx.flags &&& vb2ContextS3Resume ≠ 0 then update resumeSlot
  else do
    doIf (ctx.flags &&& vb2ContextDeveloperMode ≠ 0)
      (update fun ctx => { ctx with flags := ctx.flags ||| vb2ContextClearRam })
    orFail vb2RecoveryTpmClearOwner (vb2CheckTpmClear ex)
    update vb2SelectFwSlot

def vb2apiFwPhase3 : Vb2M Unit := do
  orFail vb2RecoveryRoInvalidRw (vb2LoadFwKeyblock align hash ex)
  orFail vb2RecoveryRoInvalidRw (vb2LoadFwPreamble align hash ex)

/-- The calls of one boot, up to the first that fails. -/
def fwPhases : Vb2M Unit := do
  vb2apiFwPhase1 align ex
  vb2apiFwPhase2 ex
  vb2apiFwPhase3 align hash ex

end
end Vboot.Vb2
