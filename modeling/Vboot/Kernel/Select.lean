import Vboot.Common.Rollback
import Vboot.Kernel.EcSync

/-! Selection of the kernel, VbSelectAndLoadKernel of firmware/lib/vboot_api_kernel.c with the
three boot paths. Timers are left out. -/
namespace Vboot
open Vboot.Lib Vboot.Gpt

def vbErrorUnknown : UInt32 := 0x10000
def vbErrorTpmRebootRequired : UInt32 := 0x10007
def vbErrorTpmReadKernel : UInt32 := 0x10009
def vbErrorDevFirmwareSwitchMismatch : UInt32 := 0x1000A
def vbErrorTpmWriteKernel : UInt32 := 0x1000B
def vbErrorTpmLockKernel : UInt32 := 0x1000C
def vbErrorShutdownRequested : UInt32 := 0x1000D
def vbErrorNoDiskFound : UInt32 := 0x1000E
def vbErrorLoadKernelRecovery : UInt32 := 0x10011

def recoveryRwDevScreen : UInt32 := 0x41
def recoveryRwDevMismatch : UInt32 := 0x45
def recoveryRwTpmRError : UInt32 := 0x54
def recoveryRwTpmWError : UInt32 := 0x55
def recoveryRwTpmLError : UInt32 := 0x56
def recoveryRwNoDisk : UInt32 := 0x5A
def recoveryRwNoKernel : UInt32 := 0x5B

def devDefaultBootUsb : UInt32 := 1
def devDefaultBootLegacy : UInt32 := 2

/-- The compiled variants: merged or recovery firmware, and separate normal and developer
builds. -/
inductive FirmwareType where
  | merged | normal | developer
  deriving DecidableEq, Repr

structure VbSelectAndLoadKernelParams (H : Type) where
  kernelBuffer : UInt64
  kernelBufferSize : UInt64
  diskHandle : Option H
  partitionNumber : UInt32
  bootloaderAddress : UInt64
  bootloaderSize : UInt32
  partitionGuid : List UInt8
  flags : UInt32

/-- The state of a boot from VbSelectAndLoadKernel on. params is uninitialised at first. -/
structure KernelBoot (W T H : Type) where
  ui : Ui W
  tpm : T
  kernelLocked : Bool
  shared : VbSharedData
  params : LoadKernelParams
  diskHandle : Option H
  ram : Mem
  kparams : VbSelectAndLoadKernelParams H

abbrev KernelM (W T H : Type) := Program Stop (KernelBoot W T H)

/-- What the build and the platform fix: the hash function and the compile-time options, the
memory at address 0, and uninitialised memory for the partition table. -/
structure KernelConfig where
  sha256 : List UInt8 → List UInt8
  firmwareType : FirmwareType
  pdSync : Bool
  null : List UInt8
  gpt : GptData

section
variable {W T H S α Ctx : Type}

def withUi (x : UiM W α) : KernelM W T H α := zoom (·.ui) (fun u s => { s with ui := u }) x

def withTpm (x : TpmM T α) : KernelM W T H (Except UInt32 α) :=
  zoom (·.tpm) (fun t s => { s with tpm := t }) (attempt x)

def setShared (f : VbSharedData → VbSharedData) : KernelM W T H Unit :=
  update fun s => { s with shared := f s.shared }

def setDiskHandle (handle : Option H) : KernelM W T H Unit :=
  update fun s => { s with diskHandle := handle }

variable (crypto : Crypto Ctx) (tlcl : Tlcl T) (platform : Platform W H S) (config : KernelConfig)
  (cparams : VbCommonParams)

/- The result of the TPM. -/
def lockKernel (recoveryMode : Bool) : KernelM W T H UInt32 := fun s =>
  let (r, locked, t) := rollbackKernelLock tlcl recoveryMode s.kernelLocked s.tpm
  (.ok r, { s with tpm := t, kernelLocked := locked })

def beepTwice : UiM W Unit := do
  call (platform.beep 120 400)
  call (platform.sleepMs 120)
  call (platform.beep 120 400)

/-- Hand over to legacy firmware, which does not come back if it succeeds. -/
def callLegacy : UiM W Unit := do
  let left ← call platform.legacy
  doIf left (throw .legacy)

def vbTryLegacy (allowed : Bool) : KernelM W T H Unit :=
  if allowed then do
    let r ← lockKernel tlcl false
    doIf (r == 0) (withUi (callLegacy platform))
    withUi (beepTwice platform)
  else withUi (beepTwice platform)

/-- 512-byte sectors, not too small, and only the flags that were asked for. -/
def diskUsable (getInfoFlags : UInt32) (info : VbDiskInfo H) : Bool :=
  info.bytesPerLba = 512 ∧ 16 ≤ info.lbaCount ∧
    getInfoFlags = info.flags &&& ~~~vbDiskFlagExternalGpt

/- The flag for an external table is added to the boot flags. -/
def diskParams (info : VbDiskInfo H) (p : LoadKernelParams) : LoadKernelParams :=
  { p with
    bytesPerLba := info.bytesPerLba
    gptLbaCount := info.lbaCount
    streamingLbaCount := if info.streamingLbaCount ≠ 0 then info.streamingLbaCount else info.lbaCount
    bootFlags := p.bootFlags |||
      (if hasFlag info.flags vbDiskFlagExternalGpt then bootFlagExternalGpt else 0) }

def KernelBoot.kernelState (s : KernelBoot W T H) (info : VbDiskInfo H) : KernelState W where
  params := diskParams info s.params
  shared := s.shared
  vnc := s.ui.vnc
  ram := s.ram
  disk := s.ui.world

def KernelBoot.withKernel (s : KernelBoot W T H) (info : VbDiskInfo H) (k : KernelState W) :
    KernelBoot W T H :=
  { s with
    ui := { s.ui with world := k.disk, vnc := k.vnc }
    shared := k.shared
    params := k.params
    ram := k.ram
    diskHandle := some info.handle }

def tryDisk (info : VbDiskInfo H) : KernelM W T H UInt32 := fun s =>
  let (retval, k) := loadKernel crypto (platform.disk info.handle) platform.overrideGptEntryPriority
    cparams config.gpt (s.kernelState info)
  (.ok retval, s.withKernel info k)

def tryDisks (getInfoFlags : UInt32) : UInt32 → List (VbDiskInfo H) → KernelM W T H UInt32
  | retval, [] => return retval
  | retval, info :: rest =>
    if diskUsable getInfoFlags info then do
      let retval ← tryDisk crypto platform config cparams info
      if retval = vbErrorSuccess then return retval else tryDisks getInfoFlags retval rest
    else tryDisks getInfoFlags retval rest

/-- Without a kernel no disk handle is returned. -/
def noKernel : KernelM W T H Unit := do
  withUi (vbSetRecoveryRequest recoveryRwNoKernel)
  setDiskHandle none

def endSearch (retval : UInt32) : KernelM W T H UInt32 := do
  doIf (retval != vbErrorSuccess) noKernel
  let handle ← observe fun s => s.diskHandle
  withUi (call (platform.diskFreeInfo handle))
  return retval

def vbTryLoadKernel (getInfoFlags : UInt32) : KernelM W T H UInt32 := do
  setDiskHandle none
  let info ← withUi (call (platform.diskGetInfo getInfoFlags))
  let disks := if info.1 = vbErrorSuccess then info.2 else []
  if disks.isEmpty then do
    withUi (vbSetRecoveryRequest recoveryRwNoDisk)
    return vbErrorNoDiskFound
  else do
    let retval ← tryDisks crypto platform config cparams getInfoFlags vbErrorUnknown disks
    endSearch platform retval

/-- A failure clears the recovery request. -/
def vbTryUsb : KernelM W T H UInt32 := do
  let retval ← vbTryLoadKernel crypto platform config cparams vbDiskFlagRemovable
  doIf (retval != vbErrorSuccess) (withUi do
    call (platform.beep 250 200)
    call (platform.sleepMs 120)
    vbSetRecoveryRequest recoveryNotRequested)
  return retval

def vbBootNormal : KernelM W T H UInt32 :=
  vbTryLoadKernel crypto platform config cparams vbDiskFlagFixed

/-- What VbBootDeveloper found out before its loop. -/
structure DevSettings where
  allowUsb : Bool
  allowLegacy : Bool
  useUsb : Bool
  useLegacy : Bool

def devSettings (gbbFlags : UInt32) (vnc : VbNvContext) : DevSettings :=
  let defaultBoot := vbNvGet vnc .devDefaultBoot
  let forceLegacy := hasFlag gbbFlags gbbFlagDefaultDevBootLegacy
  { allowUsb := vbNvGet vnc .devBootUsb != 0 || hasFlag gbbFlags gbbFlagForceDevBootUsb
    allowLegacy := vbNvGet vnc .devBootLegacy != 0 || hasFlag gbbFlags gbbFlagForceDevBootLegacy
    useUsb := defaultBoot == devDefaultBootUsb && !forceLegacy
    useLegacy := defaultBoot == devDefaultBootLegacy || forceLegacy }

/-- What a key press does to the developer screen: leave with a result, leave the loop, or
stay. -/
inductive DevStep where
  | done (retval : UInt32)
  | fallout
  | stay
  deriving DecidableEq, Repr

variable (gbbFlags : UInt32) (rounds : Nat)

/-- The user wants to leave developer mode. The audio context is closed while the user is
asked. -/
def devToNorm (shared : VbSharedData) : UiM W DevStep := do
  call platform.audioClose
  if hasFlag gbbFlags gbbFlagForceDevSwitchOn then do
    call platform.displayDebugInfo
    call (platform.beep 120 400)
    return .stay
  else do
    vbDisplayScreen platform .developerToNorm
    let answer ← vbUserConfirms platform gbbFlags shared 0 rounds false
    match answer with
    | .yes => do
      nvSet .disableDevRequest 1
      vbDisplayScreen platform .toNormConfirmed
      call (platform.sleepMs 5000)
      return .done vbErrorTpmRebootRequired
    | .shutdown => return .done vbErrorShutdownRequested
    | .no => do
      vbDisplayScreen platform .developerWarning
      call platform.audioOpen
      return .stay

/-- Space, or enter if the GBB says so. -/
def devSpace (shared : VbSharedData) : UiM W DevStep :=
  if hasFlag shared.flags vbsdHonorVirtDevSwitch ∧ bootDevSwitchOn shared then
    devToNorm platform gbbFlags rounds shared
  else do
    vbSetRecoveryRequest recoveryRwDevScreen
    call platform.audioClose
    return .done vbErrorLoadKernelRecovery

def devUsb (allowUsb : Bool) : KernelM W T H DevStep :=
  if allowUsb then do
    withUi (vbDisplayScreen platform .blank)
    let retval ← vbTryUsb crypto platform config cparams
    if retval = vbErrorSuccess then do
      withUi (call platform.audioClose)
      return .done vbErrorSuccess
    else do
      withUi (vbDisplayScreen platform .developerWarning)
      return .stay
  else do
    withUi (call platform.displayDebugInfo)
    withUi (beepTwice platform)
    return .stay

def devKey (settings : DevSettings) (key : UInt32) : KernelM W T H DevStep :=
  if key = 0 then return .stay
  else if key = keyEnter ∧ hasFlag gbbFlags gbbFlagEnterTriggersTonorm = false then return .stay
  else if key = keyEnter ∨ key = keySpace then do
    let shared ← observe fun s => s.shared
    withUi (devSpace platform gbbFlags rounds shared)
  else if key = keyCtrlD then return .fallout
  else if key = keyCtrlL then do
    vbTryLegacy tlcl platform settings.allowLegacy
    return .stay
  else if key = vbKeyCtrlEnter ∨ key = keyCtrlU then
    devUsb crypto platform config cparams settings.allowUsb
  else do
    withUi (vbCheckDisplayKey platform key)
    return .stay

/-- The developer screen, for the given number of rounds. The result is the return value, or
whether Ctrl-D ended the delay. -/
def devLoop (settings : DevSettings) : Nat → KernelM W T H (UInt32 ⊕ Bool)
  | 0 => throw .running
  | n + 1 => do
    let shutdown ← withUi (vbWantShutdown platform gbbFlags)
    if shutdown then do
      withUi (call platform.audioClose)
      return .inl vbErrorShutdownRequested
    else do
      let key ← withUi (call platform.keyboardRead)
      let step ← devKey crypto tlcl platform config cparams gbbFlags rounds settings key
      match step with
      | .done retval => return .inl retval
      | .fallout => return .inr true
      | .stay => do
        let looping ← withUi (call platform.audioLooping)
        if looping then devLoop settings n else return .inr false

/-- After the delay or Ctrl-D: legacy, USB or the fixed disk. -/
def devFallout (settings : DevSettings) (ctrlDPressed : Bool) : KernelM W T H UInt32 := do
  doIf (settings.useLegacy && !ctrlDPressed) (vbTryLegacy tlcl platform settings.allowLegacy)
  if settings.useUsb ∧ ctrlDPressed = false ∧ settings.allowUsb then do
    let retval ← vbTryUsb crypto platform config cparams
    withUi (call platform.audioClose)
    if retval = vbErrorSuccess then return vbErrorSuccess
    else vbTryLoadKernel crypto platform config cparams vbDiskFlagFixed
  else do
    withUi (call platform.audioClose)
    vbTryLoadKernel crypto platform config cparams vbDiskFlagFixed

def vbBootDeveloper : KernelM W T H UInt32 := do
  let settings ← observe fun s => devSettings gbbFlags s.ui.vnc
  withUi (vbDisplayScreen platform .developerWarning)
  withUi (call platform.audioOpen)
  let result ← devLoop crypto tlcl platform config cparams gbbFlags rounds settings rounds
  match result with
  | .inl retval => return retval
  | .inr ctrlDPressed => devFallout crypto tlcl platform config cparams settings ctrlDPressed

/-- The screen that says that the system is broken, until the user shuts down. -/
def osBroken : Nat → UiM W UInt32
  | 0 => throw .running
  | n + 1 => do
    let key ← call platform.keyboardRead
    vbCheckDisplayKey platform key
    let shutdown ← vbWantShutdown platform gbbFlags
    if shutdown then return vbErrorShutdownRequested
    else do
      call (platform.sleepMs 20)
      osBroken n

/-- The user pressed Ctrl-D and developer mode may be entered, apart from the state of a
physical recovery button. -/
def wantsDev (shared : VbSharedData) (key : UInt32) : UiM W Bool :=
  if key = keyCtrlD ∧ hasFlag shared.flags vbsdHonorVirtDevSwitch ∧ bootDevSwitchOn shared = false ∧
      hasFlag shared.flags vbsdBootRecSwitchOn then call platform.trustEC
  else return false

def recButtonHeld (shared : VbSharedData) : UiM W Bool :=
  if hasFlag shared.flags vbsdBootRecSwitchVirtual then return false
  else do
    let switches ← call (platform.getSwitches vbInitFlagRecButtonPressed)
    return switches != 0

/-- The user has confirmed developer mode. -/
def enableDev : KernelM W T H UInt32 := do
  let r ← withTpm (setVirtualDevMode tlcl true)
  match r with
  | .error _ => return vbErrorTpmSetBootModeState
  | .ok _ => do
    let allow ← withUi (call (platform.getSwitches vbInitFlagAllowUsbBoot))
    doIf (allow != 0) (withUi (nvSet .devBootUsb 1))
    return vbErrorTpmRebootRequired

/-- Ask whether to enter developer mode. The result is a return value, or none to go on. -/
def confirmDev (shared : VbSharedData) : KernelM W T H (Option UInt32) := do
  withUi (vbDisplayScreen platform .recoveryToDev)
  let answer ← withUi (vbUserConfirms platform gbbFlags shared
    (vbConfirmSpaceMeansNo ||| vbConfirmMustTrustKeyboard) rounds false)
  match answer with
  | .yes => do
    let retval ← enableDev tlcl platform
    return some retval
  | .shutdown => return some vbErrorShutdownRequested
  | .no => return none

def recoveryKey (shared : VbSharedData) (dev : Bool) (key : UInt32) :
    KernelM W T H (Option UInt32) :=
  if dev then confirmDev tlcl platform gbbFlags rounds shared
  else do
    withUi (vbCheckDisplayKey platform key)
    return none

/-- Scan the keyboard until it is time to look at the disks again. The time i counts in
milliseconds; a dialogue that ends with no sets it to 4. -/
def recoveryKeys : Nat → Nat → KernelM W T H (Option UInt32)
  | 0, _ => throw .running
  | n + 1, i =>
    if i ≥ 1000 then return none
    else do
      let shared ← observe fun s => s.shared
      let key ← withUi (call platform.keyboardRead)
      let dev ← withUi (wantsDev platform shared key)
      let held ← withUi (if dev then recButtonHeld platform shared else pure false)
      if held then do
        withUi (call (platform.beep 120 400))
        recoveryKeys n (i + 20)
      else do
        let retval ← recoveryKey tlcl platform gbbFlags rounds shared dev key
        match retval with
        | some retval => return some retval
        | none => do
          let shutdown ← withUi (vbWantShutdown platform gbbFlags)
          if shutdown then return some vbErrorShutdownRequested
          else do
            withUi (call (platform.sleepMs 20))
            recoveryKeys n (if dev then 24 else i + 20)

def recoveryLoop : Nat → KernelM W T H UInt32
  | 0 => throw .running
  | n + 1 => do
    let retval ← vbTryLoadKernel crypto platform config cparams vbDiskFlagRemovable
    withUi (vbSetRecoveryRequest recoveryNotRequested)
    if retval = vbErrorSuccess then return vbErrorSuccess
    else do
      withUi (vbDisplayScreen platform
        (if vbErrorNoDiskFound = retval then .recoveryInsert else .recoveryNoGood))
      let result ← recoveryKeys tlcl platform gbbFlags rounds rounds 0
      match result with
      | some retval => return retval
      | none => recoveryLoop n

def vbBootRecovery : KernelM W T H UInt32 := do
  let shared ← observe fun s => s.shared
  if bootDevSwitchOn shared = false ∧ hasFlag shared.flags vbsdBootRecSwitchOn = false then do
    withUi (nvSet .recoverySubcode shared.recoveryReason.toUInt32)
    withUi vbNvCommit
    withUi (vbDisplayScreen platform .osBroken)
    withUi (osBroken platform gbbFlags rounds)
  else recoveryLoop crypto tlcl platform config cparams gbbFlags rounds rounds

/-- One software sync; a mismatch of the option ROM is remembered. -/
def ecSyncDevice (devidx : Nat) : KernelM W T H (UInt32 × Bool) := do
  let shared ← observe fun s => s.shared
  let retval ← withUi (vbEcSoftwareSync platform config.sha256 devidx shared config.null)
  if retval = vbErrorVgaOpromMismatch then return (vbErrorSuccess, true) else return (retval, false)

/-- Software sync of the EC, and of the PD chip where that is compiled in. -/
def ecSyncAll : KernelM W T H UInt32 := do
  let shared ← observe fun s => s.shared
  if hasFlag shared.flags vbsdEcSoftwareSync ∧
      hasFlag gbbFlags gbbFlagDisableEcSoftwareSync = false then do
    let ec ← ecSyncDevice platform config 0
    if ec.1 ≠ vbErrorSuccess then return ec.1
    else if config.pdSync ∧ hasFlag gbbFlags gbbFlagDisablePdSoftwareSync = false then do
      let pd ← ecSyncDevice platform config 1
      if pd.1 ≠ vbErrorSuccess then return pd.1
      else return (if ec.2 || pd.2 then vbErrorVgaOpromMismatch else vbErrorSuccess)
    else return (if ec.2 then vbErrorVgaOpromMismatch else vbErrorSuccess)
  else return vbErrorSuccess

/-- Read the kernel version from the TPM. Errors are ignored in recovery mode. -/
def readKernelVersion : KernelM W T H UInt32 := do
  let shared ← observe fun s => s.shared
  let r ← withTpm (rollbackKernelRead tlcl)
  match r with
  | .error _ =>
    if shared.recoveryReason = 0 then do
      withUi (vbSetRecoveryRequest recoveryRwTpmRError)
      return vbErrorTpmReadKernel
    else do
      setShared fun shared => { shared with kernelVersionTpmStart := shared.kernelVersionTpm }
      return vbErrorSuccess
  | .ok version => do
    setShared fun shared => { shared with
      kernelVersionTpm := version
      kernelVersionTpmStart := version }
    return vbErrorSuccess

/-- The developer switch as the build sees it. -/
def devBoot (firmwareType : FirmwareType) (shared : VbSharedData) : Bool :=
  match firmwareType with
  | .normal => false
  | .merged | .developer => bootDevSwitchOn shared

def startParams (firmwareType : FirmwareType) (sharedDataSize : UInt32) (shared : VbSharedData)
    (kparams : VbSelectAndLoadKernelParams H) : LoadKernelParams where
  sharedDataSize := sharedDataSize.toUInt64
  bytesPerLba := 0
  streamingLbaCount := 0
  gptLbaCount := 0
  kernelBuffer := kparams.kernelBuffer
  kernelBufferSize := kparams.kernelBufferSize
  bootFlags := (if devBoot firmwareType shared then bootFlagDeveloper else 0) |||
    (if shared.recoveryReason ≠ 0 then bootFlagRecovery else 0)
  partitionNumber := 0
  bootloaderAddress := 0
  bootloaderSize := 0
  partitionGuid := List.replicate 16 0
  flags := 0

def tryingFirmwareB (shared : VbSharedData) : Bool :=
  shared.firmwareIndex == 1 && hasFlag shared.flags vbsdFwbTried

def updateKernelVersion : KernelM W T H UInt32 := do
  let shared ← observe fun s => s.shared
  if shared.kernelVersionTpm > shared.kernelVersionTpmStart then do
    let r ← withTpm (rollbackKernelWrite tlcl shared.kernelVersionTpm)
    match r with
    | .error _ => do
      withUi (vbSetRecoveryRequest recoveryRwTpmWError)
      return vbErrorTpmWriteKernel
    | .ok _ => return vbErrorSuccess
  else return vbErrorSuccess

/-- The normal path. A firmware B that is tried does not advance the TPM. -/
def normalPath : KernelM W T H UInt32 := do
  withUi (call (platform.ecEnteringMode .normal))
  let retval ← vbBootNormal crypto platform config cparams
  let shared ← observe fun s => s.shared
  if tryingFirmwareB shared then do
    doIf (retval == vbErrorInvalidKernelFound) (withUi (vbSetRecoveryRequest recoveryNotRequested))
    return retval
  else do
    let written ← updateKernelVersion tlcl
    return (if written ≠ vbErrorSuccess then written else retval)

def recoveryPath : KernelM W T H UInt32 := do
  let retval ← vbBootRecovery crypto tlcl platform config cparams gbbFlags rounds
  withUi (call (platform.ecEnteringMode .recovery))
  withUi (vbDisplayScreen platform .blank)
  return retval

def developerPath : KernelM W T H UInt32 := do
  let retval ← vbBootDeveloper crypto tlcl platform config cparams gbbFlags rounds
  withUi (call (platform.ecEnteringMode .developer))
  withUi (vbDisplayScreen platform .blank)
  return retval

def bootPath : KernelM W T H UInt32 := do
  let shared ← observe fun s => s.shared
  if config.firmwareType = .developer ∧ bootDevSwitchOn shared = false then do
    withUi (vbSetRecoveryRequest recoveryRwDevMismatch)
    return vbErrorDevFirmwareSwitchMismatch
  else if shared.recoveryReason ≠ 0 then
    recoveryPath crypto tlcl platform config cparams gbbFlags rounds
  else if devBoot config.firmwareType shared then
    developerPath crypto tlcl platform config cparams gbbFlags rounds
  else normalPath crypto tlcl platform config cparams

/-- Report the kernel and lock the versions. Errors are ignored in recovery mode. -/
def finishKernel : KernelM W T H UInt32 := do
  update fun s => { s with kparams := { s.kparams with
    diskHandle := s.diskHandle
    partitionNumber := s.params.partitionNumber.toUInt32
    bootloaderAddress := s.params.bootloaderAddress
    bootloaderSize := s.params.bootloaderSize.toUInt32
    flags := s.params.flags
    partitionGuid := s.params.partitionGuid } }
  let shared ← observe fun s => s.shared
  let r ← lockKernel tlcl (shared.recoveryReason != 0)
  if r ≠ 0 ∧ shared.recoveryReason = 0 then do
    withUi (vbSetRecoveryRequest recoveryRwTpmLError)
    return vbErrorTpmLockKernel
  else return vbErrorSuccess

/-- The part of VbSelectAndLoadKernel after software sync. -/
def bootKernel : KernelM W T H UInt32 := do
  let shared ← observe fun s => s.shared
  let retval ← withUi (call (platform.ecVbootDone (shared.recoveryReason != 0)))
  if retval ≠ vbErrorSuccess then return retval
  else do
    let retval ← readKernelVersion tlcl
    if retval ≠ vbErrorSuccess then return retval
    else do
      update fun s => { s with
        params := startParams config.firmwareType cparams.sharedDataSize s.shared s.kparams
        diskHandle := none }
      let retval ← bootPath crypto tlcl platform config cparams gbbFlags rounds
      if retval ≠ vbErrorSuccess then return retval else finishKernel tlcl

/-- The part of VbSelectAndLoadKernel after the outputs have been cleared, with the result of
reading the GBB header. -/
def selectKernel (header : UInt32) : KernelM W T H UInt32 :=
  if header ≠ vbErrorSuccess then return header
  else do
    let retval ← ecSyncAll platform config gbbFlags
    if retval ≠ vbErrorSuccess then return retval
    else bootKernel crypto tlcl platform config cparams gbbFlags rounds

def VbCommonParams.readHeader : UInt32 × VbCommonParams :=
  let (ret, header) := vbRegionReadData cparams.gbbAccess 0 gbbHeaderSize cparams.heap
  (ret, { cparams with gbb := ⟨header, 0⟩ })

/-- Set up the NV context and clear the outputs. -/
def startKernel : KernelM W T H Unit := update fun s =>
  { s with
    ui := { s.ui with vnc := vbNvSetup s.ui.storage }
    kparams := { s.kparams with
      diskHandle := none
      partitionNumber := 0
      bootloaderAddress := 0
      bootloaderSize := 0
      flags := 0
      partitionGuid := List.replicate 16 0 } }

/- rounds bounds the rounds of each dialogue with the user; a boot in which one takes longer
   is still running. -/
def vbSelectAndLoadKernel : KernelM W T H UInt32 := do
  startKernel
  let (ret, cparams) := cparams.readHeader
  let retval ← selectKernel crypto tlcl platform config cparams cparams.gbb.gbbFlags rounds ret
  withUi vbNvCommit
  update fun s => { s with kparams := { s.kparams with
    kernelBuffer := s.params.kernelBuffer
    kernelBufferSize := s.params.kernelBufferSize } }
  return retval

end
end Vboot
