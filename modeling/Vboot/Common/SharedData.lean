import Vboot.Common.Verify

/-! The data that the boot stages share, VbSharedDataHeader, with the fields that
LoadFirmware, LoadKernel and their callers use, and the GBB. -/
namespace Vboot
open Vboot.Lib

structure VbPublicKey where
  keyOffset : UInt64
  keySize : UInt64
  algorithm : UInt64
  keyVersion : UInt64
  deriving DecidableEq

/- data is the part of the blob after the header, addressed from the start of the blob. -/
structure VbSharedData where
  dataSize : UInt64
  dataUsed : UInt64
  flags : UInt32
  kernelSubkey : VbPublicKey
  kernelSubkeyDataOffset : UInt64
  kernelSubkeyDataSize : UInt64
  fwVersionTpm : UInt32
  kernelVersionTpm : UInt32
  checkFwAResult : UInt8
  checkFwBResult : UInt8
  firmwareIndex : UInt8
  fwVersionTpmStart : UInt32
  fwVersionLowest : UInt32
  recoveryReason : UInt8
  fwKeyblockFlags : UInt64
  kernelVersionTpmStart : UInt32
  kernelVersionLowest : UInt32
  data : Mem

def vbsdFwbTried : UInt32 := 0x00000001
def vbsdKernelKeyVerified : UInt32 := 0x00000002
def vbsdLfDevSwitchOn : UInt32 := 0x00000004
def vbsdLfUseRoNormal : UInt32 := 0x00000008
def vbsdBootDevSwitchOn : UInt32 := 0x00000010
def vbsdBootRoNormalSupport : UInt32 := 0x00000200
def vbsdNofailBoot : UInt32 := 0x00040000

/-- The offset of kernel_subkey in the header. -/
def kernelSubkeyFieldOffset : UInt64 := 40

/- The result 0 is a failure. -/
def vbSharedDataReserve (header : VbSharedData) (size : UInt64) : UInt64 × VbSharedData :=
  if size > header.dataSize - header.dataUsed then (0, header)
  else (header.dataUsed, { header with dataUsed := header.dataUsed + size })

/-- Allocate space for the kernel key, if that has not been done yet. -/
def reserveKernelKey (header : VbSharedData) (src : Ptr) : Bool × VbSharedData :=
  if header.kernelSubkeyDataOffset = 0 then
    let (offs, header) := vbSharedDataReserve header src.keySize
    let header := { header with kernelSubkeyDataOffset := offs }
    if offs = 0 then (true, header)
    else (false, { header with kernelSubkeyDataSize := src.keySize })
  else (false, header)

/-- PublicKeyInit and PublicKeyCopy to the reserved space. -/
def copyKernelKey (header : VbSharedData) (src : Ptr) : Bool × VbSharedData :=
  let header := { header with
    kernelSubkey :=
      { keyOffset := header.kernelSubkeyDataOffset - kernelSubkeyFieldOffset
        keySize := header.kernelSubkeyDataSize
        algorithm := UInt64.ofNat kNumAlgorithms
        keyVersion := 0 } }
  if header.kernelSubkey.keySize < src.keySize then (true, header)
  else (false, { header with
    kernelSubkey := { header.kernelSubkey with
      keySize := src.keySize
      algorithm := src.algorithm
      keyVersion := src.keyVersion }
    data := header.data.store header.kernelSubkeyDataOffset.toNat
      ((getPublicKeyData src).bytes src.keySize.toNat) })

/- True is a nonzero C result. -/
def vbSharedDataSetKernelKey (header : VbSharedData) (src : Ptr) : Bool × VbSharedData :=
  let (err, header) := reserveKernelKey header src
  if err then (true, header) else copyKernelKey header src

/- struct GoogleBinaryBlockHeader -/
def Ptr.gbbMinorVersion (gbb : Ptr) : UInt32 := (gbb.u8 6).toUInt32 ||| (gbb.u8 7).toUInt32 <<< 8
def Ptr.gbbFlags (gbb : Ptr) : UInt32 := gbb.u32 12
def Ptr.rootkeyOffset (gbb : Ptr) : UInt32 := gbb.u32 24
def Ptr.recoveryKeyOffset (gbb : Ptr) : UInt32 := gbb.u32 40
def Ptr.hwidDigest (gbb : Ptr) : Ptr := gbb.add 48
def gbbHeaderSize : UInt32 := 128
def gbbFlagDisableFwRollbackCheck : UInt32 := 0x00000020

def vbErrorSuccess : UInt32 := 0
def vbErrorLoadFirmware : UInt32 := 0x10003
def vbErrorTpmWriteFirmware : UInt32 := 0x10004
def vbErrorTpmLockFirmware : UInt32 := 0x10005
def vbErrorInvalidGbb : UInt32 := 0x10013

/-- How the platform gives access to the GBB: a buffer, or the region-read callback
where that is compiled in. -/
inductive GbbAccess where
  | buffer (data : Mem) (size : UInt32)
  | region (read : UInt32 → UInt32 → UInt32 × Mem)
  | none

/- The sum offset + size is taken in 32 bits. On success the buffer holds size bytes of
   the GBB from offset on; heap is what it held before. -/
def vbRegionReadData (gbb : GbbAccess) (offset size : UInt32) (heap : Mem) : UInt32 × Mem :=
  match gbb with
  | .buffer data gbbSize =>
    if offset + size > gbbSize then (vbErrorInvalidGbb, heap)
    else (vbErrorSuccess, heap.store 0 (data.load offset.toNat size.toNat))
  | .region read =>
    let (ret, data) := read offset size
    if ret ≠ 0 then (ret, heap) else (vbErrorSuccess, heap.store 0 (data.load 0 size.toNat))
  | .none => (vbErrorInvalidGbb, heap)

/- The size of the key is also a 32-bit sum. heap and heap' are the uninitialised contents
   of the header on the stack and of the allocated key. -/
def vbGbbReadKey (gbb : GbbAccess) (offset : UInt32) (heap heap' : Mem) : Except UInt32 Ptr :=
  let (ret, hdr) := vbRegionReadData gbb offset 32 heap
  if ret ≠ 0 then .error ret
  else
    let key : Ptr := ⟨hdr, 0⟩
    let size := (key.keyOffset + key.keySize).toUInt32
    let size := if size < 32 then 32 else size
    let (ret, data) := vbRegionReadData gbb offset size heap'
    if ret ≠ 0 then .error ret else .ok ⟨data, 0⟩

end Vboot
