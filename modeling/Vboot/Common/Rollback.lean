import Vboot.Common.NvStorage
import Vboot.Lib.Endian
import Vboot.Lib.Program

/-! The rollback spaces in the TPM, firmware/lib/rollback_index.c, over the functions of the
TPM library. Builds for particular boards (TEGRA_SOFT_REBOOT_WORKAROUND,
TPM_MANUAL_SELFTEST) are not modelled. -/
namespace Vboot
open Vboot.Lib

/-- The fields of TPM_PERMANENT_FLAGS that the initialization reads. -/
structure PermanentFlags where
  physicalPresenceLifetimeLock : Bool
  nvLocked : Bool

/-- The TPM library, tlcl.h, over the states of a TPM. Each function returns the TPM's result
code, 0 for success, and read also the contents of the buffer. -/
structure Tlcl (T : Type) where
  libInit : T → UInt32 × T
  startup : T → UInt32 × T
  resume : T → UInt32 × T
  selfTestFull : T → UInt32 × T
  assertPhysicalPresence : T → UInt32 × T
  physicalPresenceCMDEnable : T → UInt32 × T
  finalizePhysicalPresence : T → UInt32 × T
  lockPhysicalPresence : T → UInt32 × T
  setNvLocked : T → UInt32 × T
  setGlobalLock : T → UInt32 × T
  forceClear : T → UInt32 × T
  setEnable : T → UInt32 × T
  setDeactivated : UInt8 → T → UInt32 × T
  getFlags : T → UInt32 × (UInt8 × UInt8) × T
  getPermanentFlags : T → UInt32 × PermanentFlags × T
  getPermissions : UInt32 → T → UInt32 × UInt32 × T
  defineSpace : UInt32 → UInt32 → Nat → T → UInt32 × T
  read : UInt32 → Nat → T → UInt32 × Mem × T
  write : UInt32 → List UInt8 → T → UInt32 × T
  extend : Nat → List UInt8 → T → UInt32 × T

def tpmEBadIndex : UInt32 := 0x02
def tpmEInvalidPostinit : UInt32 := 0x26
def tpmEMaxNvWrites : UInt32 := 0x48
def tpmEMustReboot : UInt32 := 0x5002
def tpmECorruptedState : UInt32 := 0x5003
def tpmNvPerPpWrite : UInt32 := 0x1
def tpmNvPerGlobalLock : UInt32 := 0x8000

def firmwareNvIndex : UInt32 := 0x1007
def kernelNvIndex : UInt32 := 0x1008
def backupNvIndex : UInt32 := 0x1009
def backupNvSize : Nat := 16

/- Both spaces start with struct_version and end with the checksum; the versions are at
   these offsets. -/
def firmwareSpaceSize : Nat := 10
def firmwareVersionsOffset : Nat := 2
def kernelSpaceSize : Nat := 13
def kernelVersionsOffset : Nat := 5

def rollbackSpaceKernelUid : UInt32 := 0x4752574C
def flagLastBootDeveloper : UInt8 := 0x01
def flagVirtualDevModeOn : UInt8 := 0x02

/-- Programs that end with the first TPM command that fails. -/
abbrev TpmM (T : Type) := Program UInt32 T

section
variable {T α : Type}

/-- RETURN_ON_FAILURE of a command. -/
def command (op : T → UInt32 × T) : TpmM T Unit := fun t =>
  (if (op t).1 = 0 then .ok () else .error (op t).1, (op t).2)

/-- RETURN_ON_FAILURE of a command with an output. -/
def query (op : T → UInt32 × α × T) : TpmM T α := fun t =>
  (if (op t).1 = 0 then .ok (op t).2.1 else .error (op t).1, (op t).2.2)

theorem command_ok {op : T → UInt32 × T} {t t' : T} {u : Unit} (h : command op t = (.ok u, t')) :
    (op t).1 = 0 ∧ t' = (op t).2 := by
  refine ⟨?_, (congrArg Prod.snd h).symm⟩
  by_contra hne
  have hfail : (command op t).1 = .error (op t).1 := if_neg hne
  rw [h] at hfail
  cases hfail

theorem query_ok {op : T → UInt32 × α × T} {t t' : T} {a : α} (h : query op t = (.ok a, t')) :
    (op t).1 = 0 ∧ a = (op t).2.1 ∧ t' = (op t).2.2 := by
  have hfst : (query op t).1 = .ok a := congrArg Prod.fst h
  by_cases hzero : (op t).1 = 0
  · rw [query, if_pos hzero] at hfst
    exact ⟨hzero, (Except.ok.inj hfst).symm, (congrArg Prod.snd h).symm⟩
  · rw [query, if_neg hzero] at hfst
    cases hfst

/-- The result code of a function and the TPM afterwards. -/
def TpmM.status (x : TpmM T α) (t : T) : UInt32 × T :=
  (match (x t).1 with | .ok _ => 0 | .error e => e, (x t).2)

variable (tlcl : Tlcl T)

def tpmClearAndReenable : TpmM T Unit := do
  command tlcl.forceClear
  command tlcl.setEnable
  command (tlcl.setDeactivated 0)

/-- A command that is repeated after a clear if the TPM has run out of writes. -/
def retryCleared (op : T → UInt32 × T) : TpmM T Unit :=
  tryCatch (command op) fun e =>
    if e = tpmEMaxNvWrites then do
      tpmClearAndReenable tlcl
      command op
    else throw e

def safeWrite (index : UInt32) (data : List UInt8) : TpmM T Unit :=
  retryCleared tlcl (tlcl.write index data)

def safeDefineSpace (index perm : UInt32) (size : Nat) : TpmM T Unit :=
  retryCleared tlcl (tlcl.defineSpace index perm size)

/-- The loop of ReadSpaceFirmware and ReadSpaceKernel. A version without a checksum becomes
version 2. -/
def readSpace (index : UInt32) (size : Nat) : Nat → TpmM T Mem
  | 0 => throw tpmECorruptedState
  | attempts + 1 => do
    let rs ← query (tlcl.read index size)
    if rs 0 < 2 then return Function.update rs 0 2
    else if rs (size - 1) = crc8 (rs.load 0 (size - 1)) then return rs
    else readSpace index size attempts

def readSpaceFirmware : TpmM T Mem := readSpace tlcl firmwareNvIndex firmwareSpaceSize 3

def readSpaceKernel : TpmM T Mem := readSpace tlcl kernelNvIndex kernelSpaceSize 3

/-- The record as it is written, with at least version 2 and its checksum. -/
def sealSpace (size : Nat) (rs : Mem) : Mem :=
  let rs : Mem := if rs 0 < 2 then Function.update rs 0 2 else rs
  Function.update rs (size - 1) (crc8 (rs.load 0 (size - 1)))

/-- The loop of WriteSpaceFirmware and WriteSpaceKernel, which only looks at the result of the
read. -/
def writeAttempts (index : UInt32) (size : Nat) (rs : Mem) : Nat → TpmM T Unit
  | 0 => throw tpmECorruptedState
  | attempts + 1 => do
    safeWrite tlcl index (rs.load 0 size)
    tryCatch (do let _ ← readSpace tlcl index size 3) fun _ => writeAttempts index size rs attempts

/-- The result is the caller's record, which was sealed. -/
def writeSpace (index : UInt32) (size : Nat) (rs : Mem) : TpmM T Mem := do
  let rs := sealSpace size rs
  writeAttempts tlcl index size rs 3
  return rs

def writeSpaceFirmware (rsf : Mem) : TpmM T Mem :=
  writeSpace tlcl firmwareNvIndex firmwareSpaceSize rsf

def writeSpaceKernel (rsk : Mem) : TpmM T Mem :=
  writeSpace tlcl kernelNvIndex kernelSpaceSize rsk

def rsfInit : Mem := Mem.ofList [2]

def rskInit : Mem := Mem.ofList (2 :: leBytes32 rollbackSpaceKernelUid)

def oneTimeInitializeTPM : TpmM T Mem := do
  command tlcl.selfTestFull
  let pflags ← query tlcl.getPermanentFlags
  doIf (!pflags.physicalPresenceLifetimeLock) (command tlcl.finalizePhysicalPresence)
  doIf (!pflags.nvLocked) (command tlcl.setNvLocked)
  tpmClearAndReenable tlcl
  safeDefineSpace tlcl backupNvIndex tpmNvPerPpWrite backupNvSize
  safeDefineSpace tlcl kernelNvIndex tpmNvPerPpWrite kernelSpaceSize
  let _ ← writeSpaceKernel tlcl rskInit
  -- the firmware space comes last, so that an interrupted initialization is repeated
  safeDefineSpace tlcl firmwareNvIndex (tpmNvPerGlobalLock ||| tpmNvPerPpWrite) firmwareSpaceSize
  writeSpaceFirmware tlcl rsfInit

def assertPresence : TpmM T Unit :=
  tryCatch (command tlcl.assertPhysicalPresence) fun _ => do
    command tlcl.physicalPresenceCMDEnable
    command tlcl.assertPhysicalPresence

def readOrInitialize : TpmM T Mem :=
  tryCatch (readSpaceFirmware tlcl) fun e =>
    if e = tpmEBadIndex then oneTimeInitializeTPM tlcl else throw tpmECorruptedState

def setupFlags (developerMode disableDevRequest : Bool) (inFlags : UInt8) : UInt8 × Bool :=
  let flags := if disableDevRequest then inFlags &&& ~~~flagVirtualDevModeOn else inFlags
  let dev := developerMode || flags &&& flagVirtualDevModeOn != 0
  (if dev then flags ||| flagLastBootDeveloper else flags &&& ~~~flagLastBootDeveloper, dev)

/-- Flags that have changed are written back. -/
def storeFlags (flags : UInt8) (rsf : Mem) : TpmM T Mem :=
  if flags ≠ rsf 1 then writeSpaceFirmware tlcl (Function.update rsf 1 flags)
  else pure (Function.update rsf 1 flags)

/-- The second half of SetupTPM: clear the owner if needed and store the flags. -/
def updateFlags (developerMode disableDevRequest clearTpmOwnerRequest : Bool) (rsf : Mem) :
    TpmM T Mem := do
  let next := setupFlags developerMode disableDevRequest (rsf 1)
  doIf ((if next.2 then flagLastBootDeveloper else 0) != rsf 1 &&& flagLastBootDeveloper ||
    clearTpmOwnerRequest) (tpmClearAndReenable tlcl)
  storeFlags tlcl next.1 rsf

def setupTPM (developerMode disableDevRequest clearTpmOwnerRequest : Bool) : TpmM T Mem := do
  command tlcl.libInit
  command tlcl.startup
  assertPresence tlcl
  let (disable, deactivated) ← query tlcl.getFlags
  if disable ≠ 0 ∨ deactivated ≠ 0 then do
    command tlcl.setEnable
    command (tlcl.setDeactivated 0)
    throw tpmEMustReboot
  else do
    let rsf ← readOrInitialize tlcl
    updateFlags tlcl developerMode disableDevRequest clearTpmOwnerRequest rsf

/-- The version and the virtual developer switch. -/
def rollbackFirmwareSetup (isHwDev disableDevRequest clearTpmOwnerRequest : Bool) :
    TpmM T (UInt32 × Bool) := do
  let rsf ← setupTPM tlcl isHwDev disableDevRequest clearTpmOwnerRequest
  return (le32 rsf firmwareVersionsOffset, rsf 1 &&& flagVirtualDevModeOn != 0)

def rollbackFirmwareWrite (version : UInt32) : TpmM T Unit := do
  let rsf ← readSpaceFirmware tlcl
  let _ ← writeSpaceFirmware tlcl (rsf.store firmwareVersionsOffset (leBytes32 version))

def rollbackFirmwareLock : TpmM T Unit := command tlcl.setGlobalLock

def rollbackKernelRead : TpmM T UInt32 := do
  let rsk ← readSpaceKernel tlcl
  let perms ← query (tlcl.getPermissions kernelNvIndex)
  if tpmNvPerPpWrite ≠ perms ∨ rollbackSpaceKernelUid ≠ le32 rsk 1 then throw tpmECorruptedState
  else return le32 rsk kernelVersionsOffset

def rollbackKernelWrite (version : UInt32) : TpmM T Unit := do
  let rsk ← readSpaceKernel tlcl
  let _ ← writeSpaceKernel tlcl (rsk.store kernelVersionsOffset (leBytes32 version))

def vbErrorTpmSetBootModeState : UInt32 := 0x10006
def vbErrorTpmFirmwareSetup : UInt32 := 0x10008

/-- The flag for the last boot is left to SetupTPM in the next boot. -/
def setVirtualDevMode (val : Bool) : TpmM T Unit := do
  let rsf ← tryCatch (readSpaceFirmware tlcl) fun _ => throw vbErrorTpmFirmwareSetup
  let flags := if val then rsf 1 ||| flagVirtualDevModeOn else rsf 1 &&& ~~~flagVirtualDevModeOn
  let _ ← tryCatch (writeSpaceFirmware tlcl (Function.update rsf 1 flags)) fun _ =>
    throw vbErrorTpmSetBootModeState

/- kernelLocked is a static variable of the function. -/
def rollbackKernelLock (recoveryMode kernelLocked : Bool) (t : T) : UInt32 × Bool × T :=
  if recoveryMode || kernelLocked then (0, kernelLocked, t)
  else ((tlcl.lockPhysicalPresence t).1, (tlcl.lockPhysicalPresence t).1 == 0,
    (tlcl.lockPhysicalPresence t).2)

end
end Vboot
