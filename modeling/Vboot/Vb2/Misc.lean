import Vboot.Vb2.Secdata
import Vboot.Vb2.Verify

/-! Recovery requests, the GBB header, the developer switch and the choice of a slot,
firmware/2lib/2misc.c. -/
namespace Vboot.Vb2
open Vboot.Lib

/- The fields of enum vb2_recovery_reasons that are used -/
def vb2RecoveryNotRequested : UInt32 := 0x00
def vb2RecoveryRoManual : UInt32 := 0x02
def vb2RecoveryRoInvalidRw : UInt8 := 0x03
def vb2RecoveryFwKeyblock : UInt8 := 0x13
def vb2RecoveryFwKeyRollback : UInt8 := 0x14
def vb2RecoveryFwPreamble : UInt8 := 0x16
def vb2RecoveryFwRollback : UInt8 := 0x17
def vb2RecoveryRoTpmReboot : UInt8 := 0x21
def vb2RecoverySecdataInit : UInt8 := 0x2b
def vb2RecoveryGbbHeader : UInt8 := 0x2c
def vb2RecoveryTpmClearOwner : UInt8 := 0x2d
def vb2RecoveryDevSwitch : UInt8 := 0x2e
def vb2RecoverySecdatakInit : UInt8 := 0x5d

def vb2ErrorInitctxWorkbufSmall : UInt32 := 0x10080001
def vb2ErrorInitctxWorkbufAlign : UInt32 := 0x10080002
def vb2ErrorGbbWorkbuf : UInt32 := 0x10080003
def vb2ErrorGbbMagic : UInt32 := 0x10080004
def vb2ErrorGbbVersion : UInt32 := 0x10080005
def vb2ErrorGbbTooOld : UInt32 := 0x10080006
def vb2ErrorGbbHeaderSize : UInt32 := 0x10080007

/- enum vb2_gbb_flag -/
def vb2GbbFlagForceDevSwitchOn : UInt32 := 0x8
def vb2GbbFlagDisableFwRollbackCheck : UInt32 := 0x20

/- struct vb2_gbb_header -/
def Vb2Gbb.signature (m : Mem) (gbb : UInt64) : List UInt8 := m.load gbb.toNat 4
def Vb2Gbb.majorVersion (m : Mem) (gbb : UInt64) : UInt16 := le16 m (gbb.toNat + 4)
def Vb2Gbb.minorVersion (m : Mem) (gbb : UInt64) : UInt16 := le16 m (gbb.toNat + 6)
def Vb2Gbb.headerSize (m : Mem) (gbb : UInt64) : UInt32 := le32 m (gbb.toNat + 8)
def Vb2Gbb.flags (m : Mem) (gbb : UInt64) : UInt32 := le32 m (gbb.toNat + 12)
def Vb2Gbb.rootkeyOffset (m : Mem) (gbb : UInt64) : UInt32 := le32 m (gbb.toNat + 24)
def Vb2Gbb.rootkeySize (m : Mem) (gbb : UInt64) : UInt32 := le32 m (gbb.toNat + 28)
def Vb2Gbb.recoveryKeyOffset (m : Mem) (gbb : UInt64) : UInt32 := le32 m (gbb.toNat + 40)
def Vb2Gbb.recoveryKeySize (m : Mem) (gbb : UInt64) : UInt32 := le32 m (gbb.toNat + 44)
def vb2GbbHeaderSize : UInt32 := 128
def vb2GbbMajorVer : UInt16 := 1
def vb2GbbMinorVer : UInt16 := 2
def vb2GbbXorSignature : List UInt8 := [0x0e, 0x6d, 0x68, 0x68]
def vb2GbbXorChars : List UInt8 := [0x2a, 0x2a, 0x2a, 0x2a]

/-- sizeof(struct vb2_shared_data) -/
def vb2SharedDataSize : UInt32 := 128

inductive Vb2ResourceIndex where
  | gbb | fwVblock | kernelVblock
  deriving DecidableEq, Repr

/-- The functions that the calling firmware provides. What they do may depend on the context. -/
structure Vb2Ex where
  readResource : Vb2Context → Vb2ResourceIndex → UInt32 → UInt32 → Except UInt32 Mem
  tpmClearOwner : Vb2Context → UInt32

/-- A function that reports errors in the context that it changes. -/
abbrev Vb2M := Program UInt32 Vb2Context

def vb2WorkbufFromCtx (align : UInt32) (ctx : Vb2Context) : Vb2Workbuf :=
  vb2WorkbufInit align (ctx.workbufAddr + ctx.workbufUsed.toUInt64) (ctx.workbufSize - ctx.workbufUsed)

/-- An allocation in the work buffer, with the error if there is no space. -/
def allocate (result : Option UInt64 × Vb2Workbuf) (e : UInt32) : Vb2M (UInt64 × Vb2Workbuf) :=
  inspect fun _ => do
    let ptr ← require result.1 e
    pure (ptr, result.2)

/-- Try the other slot next time, or request recovery if that failed last time. -/
def vb2Fail (reason subcode : UInt8) (ctx : Vb2Context) : Vb2Context :=
  let ctx := if ctx.sd.status &&& vb2SdStatusNvInit = 0 then vb2NvInit ctx else ctx
  let chose := ctx.sd.status &&& vb2SdStatusChoseSlot ≠ 0
  let ctx := if chose then
      vb2NvSets ctx [(.fwResult, vb2FwResultFailure), (.tryCount, 0), (.tryNext, 1 - ctx.sd.fwSlot)]
    else ctx
  if chose ∧ (ctx.sd.lastFwSlot ≠ 1 - ctx.sd.fwSlot ∨ ctx.sd.lastFwResult ≠ vb2FwResultFailure) then ctx
  else if vb2NvGet ctx .recoveryRequest = 0 then
    vb2NvSets ctx [(.recoveryRequest, reason.toUInt32), (.recoverySubcode, subcode.toUInt32)]
  else ctx

/-- Report the error of a function, and return it. -/
def orFail {α : Type} (reason : UInt8) (x : Vb2M α) : Vb2M α :=
  tryCatch x fun rv => do
    update (vb2Fail reason rv.toUInt8)
    throw rv

/-- Report the error of a function, and go on. -/
def failAndGoOn (reason : UInt8) (x : Vb2M Unit) : Vb2M Unit :=
  tryCatch x fun rv => update (vb2Fail reason rv.toUInt8)

def Vb2SharedData.zero : Vb2SharedData :=
  ⟨0, 0, 0, 0, 0, 0, 0, 0, 0, 0, 0, 0, 0, 0, 0, 0, 0, 0, 0, 0, 0, 0, 0, 0⟩

section
variable (align : UInt32)

def vb2InitContext (ctx : Vb2Context) : Except UInt32 Vb2Context :=
  if ctx.workbufUsed ≠ 0 then pure ctx
  else do
    reject (ctx.workbufSize < vb2SharedDataSize) vb2ErrorInitctxWorkbufSmall
    reject (¬vb2Aligned ctx.workbufAddr align.toUInt64) vb2ErrorInitctxWorkbufAlign
    pure { ctx with sd := .zero, workbufUsed := vb2SharedDataSize }

variable (ex : Vb2Ex)

def vb2exReadResource (index : Vb2ResourceIndex) (offset : UInt32) (buf : UInt64) (size : UInt32) :
    Vb2M Unit :=
  transform fun ctx => do
    let bytes ← ex.readResource ctx index offset size
    pure { ctx with workbuf := ctx.workbuf.store buf.toNat (bytes.load 0 size.toNat) }

def vb2ValidateGbbSignature (sig : List UInt8) : Except UInt32 Unit :=
  reject (sig ≠ List.zipWith (· ^^^ ·) vb2GbbXorSignature vb2GbbXorChars) vb2ErrorGbbMagic

def vb2ReadGbbHeader (gbb : UInt64) : Vb2M Unit := do
  vb2exReadResource ex .gbb 0 gbb vb2GbbHeaderSize
  inspect fun ctx => do
    vb2ValidateGbbSignature (Vb2Gbb.signature ctx.workbuf gbb)
    reject (Vb2Gbb.majorVersion ctx.workbuf gbb ≠ vb2GbbMajorVer) vb2ErrorGbbVersion
    reject (Vb2Gbb.minorVersion ctx.workbuf gbb < vb2GbbMinorVer) vb2ErrorGbbTooOld
    reject (Vb2Gbb.headerSize ctx.workbuf gbb < vb2GbbHeaderSize) vb2ErrorGbbHeaderSize

def vb2FwParseGbb : Vb2M Unit := do
  let wb ← observe (vb2WorkbufFromCtx align)
  let (gbb, _) ← allocate (vb2WorkbufAlloc align wb vb2GbbHeaderSize) vb2ErrorGbbWorkbuf
  vb2ReadGbbHeader ex gbb
  update fun ctx => { ctx with
    sd := { ctx.sd with
      gbbFlags := Vb2Gbb.flags ctx.workbuf gbb
      gbbRootkeyOffset := Vb2Gbb.rootkeyOffset ctx.workbuf gbb
      gbbRootkeySize := Vb2Gbb.rootkeySize ctx.workbuf gbb } }

/-- The request of the last boot is taken over and cleared. -/
def vb2CheckRecovery (ctx : Vb2Context) : Vb2Context :=
  let reason := vb2NvGet ctx .recoveryRequest
  let subcode := vb2NvGet ctx .recoverySubcode
  let recoveryReason := if ctx.sd.recoveryReason = 0 then reason else ctx.sd.recoveryReason
  let ctx := vb2NvSets ctx
    [(.recoveryRequest, vb2RecoveryNotRequested), (.recoverySubcode, vb2RecoveryNotRequested)]
  let forced := ctx.flags &&& vb2ContextForceRecoveryMode ≠ 0
  let recoveryReason := if ¬forced then recoveryReason
    else if subcode ≠ 0 ∧ recoveryReason = 0 then subcode
    else vb2RecoveryRoManual
  { ctx with
    sd := { ctx.sd with
      recoveryReason
      flags := if forced then ctx.sd.flags ||| vb2SdFlagManualRecovery else ctx.sd.flags }
    flags := if recoveryReason ≠ 0 then ctx.flags ||| vb2ContextRecoveryMode else ctx.flags }

/-- Whether secdata is used, and its flags. In recovery mode it may be unreadable. -/
def secureFlags (ctx : Vb2Context) : Except UInt32 (Bool × UInt32) :=
  match vb2SecdataGet ctx .flags with
  | .ok flags => .ok (true, flags)
  | .error rv => if ctx.flags &&& vb2ContextRecoveryMode ≠ 0 then .ok (false, 0) else .error rv

/-- The mode that is entered, be it by the flags in secdata, by the caller or by the GBB. -/
def isDev (ctx : Vb2Context) (flags : UInt32) : Bool :=
  flags &&& vb2SecdataFlagDevMode ≠ 0 ∨ ctx.flags &&& vb2ContextForceDeveloperMode ≠ 0 ∨
    ctx.sd.gbbFlags &&& vb2GbbFlagForceDevSwitchOn ≠ 0

def enterDev (ctx : Vb2Context) : Vb2Context :=
  { ctx with
    sd := { ctx.sd with flags := ctx.sd.flags ||| vb2SdDevModeEnabled }
    flags := ctx.flags ||| vb2ContextDeveloperMode }

/-- The options of developer mode are off when it is entered the next time. -/
def enterNormal (ctx : Vb2Context) : Vb2Context :=
  vb2NvSets ctx [(.devBootUsb, 0), (.devBootLegacy, 0), (.devBootSignedOnly, 0),
    (.devBootFastbootFullCap, 0), (.devDefaultBoot, 0), (.fastbootUnlockInFw, 0)]

def clearOwner (useSecdata : Bool) (flags : UInt32) : Vb2M Unit := do
  let rv ← observe ex.tpmClearOwner
  doIf useSecdata do
    orFail vb2RecoveryTpmClearOwner (inspect fun _ => reject (rv ≠ vb2Success) rv)
    transform (vb2SecdataSet · .flags flags)

def vb2CheckDevSwitch : Vb2M Unit := do
  let (useSecdata, oldFlags) ← inspect secureFlags
  let disable ← observe fun ctx => useSecdata && vb2NvGet ctx .disableDevRequest ≠ 0
  doIf disable (update (vb2NvSet · .disableDevRequest 0))
  let flags := if disable then oldFlags &&& ~~~vb2SecdataFlagDevMode else oldFlags
  let ctx ← observe id
  let flags := if ctx.flags &&& vb2DisableDeveloperMode ≠ 0 then flags &&& ~~~vb2SecdataFlagDevMode
    else flags
  update (if isDev ctx flags then enterDev else enterNormal)
  let flags := if isDev ctx flags then flags ||| vb2SecdataFlagLastBootDeveloper
    else flags &&& ~~~vb2SecdataFlagLastBootDeveloper
  doIf (ctx.flags &&& vb2ContextForceWipeoutMode ≠ 0) (update (vb2NvSet · .reqWipeout 1))
  doIf (flags ≠ oldFlags) (clearOwner ex useSecdata flags)

def vb2CheckTpmClear : Vb2M Unit := do
  let request ← observe (vb2NvGet · .clearTpmOwnerRequest)
  doIf (request ≠ 0) do
    update (vb2NvSet · .clearTpmOwnerRequest 0)
    let rv ← observe ex.tpmClearOwner
    orFail vb2RecoveryTpmClearOwner (inspect fun _ => reject (rv ≠ vb2Success) rv)
    update (vb2NvSet · .clearTpmOwnerDone 1)

def triesUsedUp (lastFwSlot lastFwResult slot tries : UInt32) : Prop :=
  lastFwResult = vb2FwResultTrying ∧ lastFwSlot = slot ∧ tries = 0

instance (lastFwSlot lastFwResult slot tries : UInt32) :
    Decidable (triesUsedUp lastFwSlot lastFwResult slot tries) :=
  inferInstanceAs (Decidable (_ ∧ _))

def vb2SelectFwSlot (ctx : Vb2Context) : Vb2Context :=
  let lastFwSlot := vb2NvGet ctx .fwTried
  let lastFwResult := vb2NvGet ctx .fwResult
  let ctx := vb2NvSets ctx [(.fwPrevTried, lastFwSlot), (.fwPrevResult, lastFwResult),
    (.fwResult, vb2FwResultUnknown)]
  let slot := vb2NvGet ctx .tryNext
  let tries := vb2NvGet ctx .tryCount
  let fallBack := triesUsedUp lastFwSlot lastFwResult slot tries
  let fwSlot := if fallBack then 1 - slot else slot
  let ctx := if fallBack then vb2NvSet ctx .tryNext fwSlot else ctx
  let ctx := if tries > 0 then vb2NvSet ctx .fwResult vb2FwResultTrying else ctx
  let ctx := if tries > 0 ∧ ctx.flags &&& vb2ContextNofailBoot = 0 then vb2NvSet ctx .tryCount (tries - 1)
    else ctx
  let ctx := vb2NvSet ctx .fwTried fwSlot
  { ctx with
    flags := if fwSlot ≠ 0 then ctx.flags ||| vb2ContextFwSlotB else ctx.flags
    sd := { ctx.sd with
      lastFwSlot
      lastFwResult
      fwSlot
      status := ctx.sd.status ||| vb2SdStatusChoseSlot } }

end
end Vboot.Vb2
