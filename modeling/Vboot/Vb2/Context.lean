import Vboot.Common.NvStorage
import Vboot.Lib.Mem

/-! The context that the functions of the vboot2 library share, firmware/2lib/include/2api.h and
2struct.h. -/
namespace Vboot.Vb2
open Vboot.Lib

/- enum vb2_context_flags -/
def vb2ContextNvdataChanged : UInt32 := 0x1
def vb2ContextSecdataChanged : UInt32 := 0x2
def vb2ContextRecoveryMode : UInt32 := 0x4
def vb2ContextDeveloperMode : UInt32 := 0x8
def vb2ContextForceRecoveryMode : UInt32 := 0x10
def vb2ContextForceDeveloperMode : UInt32 := 0x20
def vb2ContextFwSlotB : UInt32 := 0x40
def vb2ContextClearRam : UInt32 := 0x80
def vb2ContextForceWipeoutMode : UInt32 := 0x100
def vb2DisableDeveloperMode : UInt32 := 0x200
def vb2ContextSecdatakChanged : UInt32 := 0x400
def vb2ContextAllowKernelRollForward : UInt32 := 0x800
def vb2ContextNofailBoot : UInt32 := 0x1000
def vb2ContextSecdataWantsReboot : UInt32 := 0x2000
def vb2ContextS3Resume : UInt32 := 0x4000

/- enum vb2_shared_data_flags and enum vb2_shared_data_status -/
def vb2SdFlagManualRecovery : UInt32 := 0x1
def vb2SdDevModeEnabled : UInt32 := 0x2
def vb2SdFlagKernelSigned : UInt32 := 0x4
def vb2SdStatusNvReinit : UInt32 := 0x1
def vb2SdStatusNvInit : UInt32 := 0x2
def vb2SdStatusSecdataInit : UInt32 := 0x4
def vb2SdStatusChoseSlot : UInt32 := 0x8
def vb2SdStatusSecdatakInit : UInt32 := 0x10

/-- The secure storage space of the firmware version. -/
abbrev Secdata := Vector UInt8 10

/-- The secure storage space of the kernel version. -/
abbrev Secdatak := Vector UInt8 14

/-- All fields but the digest of the hardware ID. -/
structure Vb2SharedData where
  flags : UInt32
  gbbFlags : UInt32
  recoveryReason : UInt32
  lastFwSlot : UInt32
  lastFwResult : UInt32
  fwSlot : UInt32
  fwVersion : UInt32
  fwVersionSecdata : UInt32
  status : UInt32
  gbbRootkeyOffset : UInt32
  gbbRootkeySize : UInt32
  vblockPreambleOffset : UInt32
  workbufDataKeyOffset : UInt32
  workbufDataKeySize : UInt32
  workbufPreambleOffset : UInt32
  workbufPreambleSize : UInt32
  kernelVersion : UInt32
  kernelVersionSecdatak : UInt32
  workbufHashOffset : UInt32
  workbufHashSize : UInt32
  hashTag : UInt32
  hashRemainingSize : UInt32
  workbufKernelKeyOffset : UInt32
  workbufKernelKeySize : UInt32

/-- The work buffer is given by its address, its size and the memory that it lies in. The shared
data is kept apart from the memory, although it lies at the start of the buffer. -/
structure Vb2Context where
  flags : UInt32
  nvdata : NvRaw
  secdata : Secdata
  secdatak : Secdatak
  sd : Vb2SharedData
  workbuf : Mem
  workbufAddr : UInt64
  workbufSize : UInt32
  workbufUsed : UInt32

end Vboot.Vb2
