import Vboot.Kernel.Load
import Vboot.Lib.Program

/-! The platform that kernel selection runs on, and its dialogue with the user:
VbUserConfirms of firmware/lib/vboot_api_kernel.c and the key handling of
firmware/lib/vboot_display.c. What is drawn on the screen is left to the platform. -/
namespace Vboot
open Vboot.Lib Vboot.Gpt

structure VbDiskInfo (H : Type) where
  handle : H
  bytesPerLba : UInt64
  lbaCount : UInt64
  streamingLbaCount : UInt64
  flags : UInt32

def vbDiskFlagRemovable : UInt32 := 0x00000001
def vbDiskFlagFixed : UInt32 := 0x00000002
def vbDiskFlagExternalGpt : UInt32 := 0x00000004

inductive VbEcBootMode where
  | normal | developer | recovery
  deriving DecidableEq, Repr

/-- The parts of the firmware that the EC knows about. -/
inductive EcImage where
  | a | b | readonly
  deriving DecidableEq, Repr

inductive Screen where
  | blank | developerWarning | recoveryInsert | recoveryNoGood | recoveryToDev | developerToNorm
  | wait | toNormConfirmed | osBroken
  deriving DecidableEq, Repr

/-- The callbacks of vboot_api.h over the states W of everything outside the boot loader, with
disk handles H and streams S. The drawing of screens, the audio delay and the debug display
are taken as callbacks too; displayScreen says whether there is no such localization. -/
structure Platform (W H S : Type) where
  diskGetInfo : UInt32 → W → (UInt32 × List (VbDiskInfo H)) × W
  diskFreeInfo : Option H → W → Unit × W
  disk : H → Disk W S
  overrideGptEntryPriority : Ptr → UInt8
  isShutdownRequested : W → UInt32 × W
  keyboardRead : W → UInt32 × W
  keyboardReadWithFlags : W → (UInt32 × UInt32) × W
  getSwitches : UInt32 → W → UInt32 × W
  beep : UInt32 → UInt32 → W → Unit × W
  sleepMs : UInt32 → W → Unit × W
  displayScreen : Screen → UInt32 → W → Bool × W
  redrawScreen : UInt32 → W → Bool × W
  displayDebugInfo : W → Unit × W
  localizationCount : W → (UInt32 × UInt32) × W
  audioOpen : W → Unit × W
  audioLooping : W → Bool × W
  audioClose : W → Unit × W
  legacy : W → Bool × W
  trustEC : W → Bool × W
  ecRunningRW : Nat → W → (UInt32 × Int) × W
  ecJumpToRW : Nat → W → UInt32 × W
  ecDisableJump : Nat → W → UInt32 × W
  ecHashImage : Nat → EcImage → W → (UInt32 × Mem × Int) × W
  ecGetExpectedImage : Nat → EcImage → W → (UInt32 × List UInt8) × W
  ecGetExpectedImageHash : Nat → EcImage → W → (UInt32 × Mem × Int) × W
  ecUpdateImage : Nat → EcImage → List UInt8 → W → UInt32 × W
  ecProtect : Nat → EcImage → W → UInt32 × W
  ecEnteringMode : VbEcBootMode → W → Unit × W
  ecVbootDone : Bool → W → UInt32 × W

/-- Why a boot has not come back: legacy firmware took over, or it is still running. -/
inductive Stop where
  | legacy | running
  deriving DecidableEq, Repr

/-- The outside, the NV context and the NV storage. -/
structure Ui (W : Type) where
  world : W
  vnc : VbNvContext
  storage : NvRaw

/-- Programs that talk to the outside and use the NV context. -/
abbrev UiM (W : Type) := Program Stop (Ui W)

section
variable {W H S α : Type}

def call (f : W → α × W) : UiM W α := fun u =>
  (.ok (f u.world).1, { u with world := (f u.world).2 })

def nvGet (param : VbNvParam) : UiM W UInt32 := observe fun u => vbNvGet u.vnc param

def nvSet (param : VbNvParam) (value : UInt32) : UiM W Unit :=
  update fun u => { u with vnc := vbNvSet u.vnc param value }

def vbSetRecoveryRequest (recoveryRequest : UInt32) : UiM W Unit :=
  nvSet .recoveryRequest recoveryRequest

def vbNvCommit : UiM W Unit := update fun u =>
  { u with
    vnc := vbNvTeardown u.vnc
    storage := if (vbNvTeardown u.vnc).rawChanged then (vbNvTeardown u.vnc).raw else u.storage }

def vbShutdownRequestLidClosed : UInt32 := 0x00000002
def gbbFlagForceDevSwitchOn : UInt32 := 0x00000008
def gbbFlagForceDevBootUsb : UInt32 := 0x00000010
def gbbFlagEnterTriggersTonorm : UInt32 := 0x00000040
def gbbFlagForceDevBootLegacy : UInt32 := 0x00000080
def gbbFlagDisableEcSoftwareSync : UInt32 := 0x00000200
def gbbFlagDefaultDevBootLegacy : UInt32 := 0x00000400
def gbbFlagDisablePdSoftwareSync : UInt32 := 0x00000800
def gbbFlagDisableLidShutdown : UInt32 := 0x00001000

def vbsdBootRecSwitchOn : UInt32 := 0x00000020
def vbsdBootFirmwareWpEnabled : UInt32 := 0x00000040
def vbsdHonorVirtDevSwitch : UInt32 := 0x00000400
def vbsdEcSoftwareSync : UInt32 := 0x00000800
def vbsdEcSlowUpdate : UInt32 := 0x00001000
def vbsdBootRecSwitchVirtual : UInt32 := 0x00004000
def vbsdOpromMatters : UInt32 := 0x00010000
def vbsdOpromLoaded : UInt32 := 0x00020000

def vbInitFlagRecButtonPressed : UInt32 := 0x00000002
def vbInitFlagAllowUsbBoot : UInt32 := 0x00004000
def vbConfirmMustTrustKeyboard : UInt32 := 0x00000001
def vbConfirmSpaceMeansNo : UInt32 := 0x00000002
def vbKeyFlagTrustedKeyboard : UInt32 := 0x00000001

/- Keys -/
def keyEnter : UInt32 := 0x0D
def keySpace : UInt32 := 0x20
def keyEscape : UInt32 := 0x1B
def keyTab : UInt32 := 0x09
def keyCtrlD : UInt32 := 0x04
def keyCtrlL : UInt32 := 0x0C
def keyCtrlU : UInt32 := 0x15
def vbKeyUp : UInt32 := 0x100
def vbKeyDown : UInt32 := 0x101
def vbKeyLeft : UInt32 := 0x102
def vbKeyRight : UInt32 := 0x103
def vbKeyCtrlEnter : UInt32 := 0x104

def hasFlag (flags mask : UInt32) : Bool := flags &&& mask != 0

variable (platform : Platform W H S)

def vbWantShutdown (gbbFlags : UInt32) : UiM W Bool := do
  let shutdownRequest ← call platform.isShutdownRequested
  return (if hasFlag gbbFlags gbbFlagDisableLidShutdown then
    shutdownRequest &&& ~~~vbShutdownRequestLidClosed else shutdownRequest) != 0

/-- A localization that does not exist is replaced by the first one. -/
def clipLocalization : UiM W Unit := do
  nvSet .localizationIndex 0
  nvSet .backupNvramRequest 1

def vbDisplayScreen (screen : Screen) : UiM W Unit := do
  let locale ← nvGet .localizationIndex
  let clipped ← call (platform.displayScreen screen locale)
  doIf clipped clipLocalization

/-- Draw the current screen again. -/
def redraw : UiM W Unit := do
  let locale ← nvGet .localizationIndex
  let clipped ← call (platform.redrawScreen locale)
  doIf clipped clipLocalization

/-- The localization that an arrow key selects. Without a count it is the first one. -/
def nextLocalization (key loc : UInt32) (count : UInt32 × UInt32) : UInt32 :=
  if count.1 ≠ vbErrorSuccess then 0
  else if key = vbKeyRight ∨ key = vbKeyUp then if loc < count.2 - 1 then loc + 1 else 0
  else if loc > 0 then loc - 1 else count.2 - 1

def isArrowKey (key : UInt32) : Bool :=
  key == vbKeyLeft || key == vbKeyRight || key == vbKeyDown || key == vbKeyUp

/- The word that only makes the screen be drawn again is left to the platform. -/
def vbCheckDisplayKey (key : UInt32) : UiM W Unit :=
  if key = keyTab then call platform.displayDebugInfo
  else if isArrowKey key then do
    let loc ← nvGet .localizationIndex
    let count ← call platform.localizationCount
    nvSet .localizationIndex (nextLocalization key loc count)
    nvSet .backupNvramRequest 1
    redraw platform
  else pure ()

/-- The answers 1, 0 and -1. -/
inductive Confirm where
  | yes | no | shutdown
  deriving DecidableEq, Repr

/-- What one key press means to VbUserConfirms: an answer, or whether the recovery button has
been pressed so far. A physical button counts as yes when it is released. -/
def confirmKey (shared : VbSharedData) (confirmFlags key keyFlags button : UInt32)
    (recButtonWasPressed : Bool) : UiM W (Confirm ⊕ Bool) :=
  if key = keyEnter then
    if hasFlag confirmFlags vbConfirmMustTrustKeyboard ∧
        hasFlag keyFlags vbKeyFlagTrustedKeyboard = false then do
      call (platform.beep 120 400)
      return .inr recButtonWasPressed
    else return .inl .yes
  else if key = keySpace then
    if hasFlag confirmFlags vbConfirmSpaceMeansNo then return .inl .no
    else return .inr recButtonWasPressed
  else if key = keyEscape then return .inl .no
  else if hasFlag shared.flags vbsdBootRecSwitchVirtual = false ∧ button = 0 ∧
      recButtonWasPressed then return .inl .yes
  else do
    vbCheckDisplayKey platform key
    return .inr (recButtonWasPressed ||
      (hasFlag shared.flags vbsdBootRecSwitchVirtual == false && button != 0))

/-- Wait for an answer, for the given number of rounds. -/
def vbUserConfirms (gbbFlags : UInt32) (shared : VbSharedData) (confirmFlags : UInt32) :
    Nat → Bool → UiM W Confirm
  | 0, _ => throw .running
  | rounds + 1, recButtonWasPressed => do
    let shutdown ← vbWantShutdown platform gbbFlags
    if shutdown then return .shutdown
    else do
      let key ← call platform.keyboardReadWithFlags
      let button ← call (platform.getSwitches vbInitFlagRecButtonPressed)
      let answer ← confirmKey platform shared confirmFlags key.1 key.2 button recButtonWasPressed
      match answer with
      | .inl answer => return answer
      | .inr recButtonWasPressed => do
        call (platform.sleepMs 20)
        vbUserConfirms gbbFlags shared confirmFlags rounds recButtonWasPressed

end
end Vboot
