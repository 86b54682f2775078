import Vboot.Vb2.Firmware

/-! Verification of kernel keyblocks and preambles, firmware/lib20/kernel.c, and the phases of
kernel verification, firmware/lib20/api_kernel.c. -/
namespace Vboot.Vb2
open Vboot.Lib

def vb2ErrorPreambleBootloaderOutside : UInt32 := 0x1007000d
def vb2ErrorPreambleVmlinuzHeaderOutside : UInt32 := 0x1007000e
def vb2ErrorKernelKeyblockWorkbufHeader : UInt32 := 0x10080013
def vb2ErrorKernelKeyblockWorkbuf : UInt32 := 0x10080014
def vb2ErrorKernelKeyblockVersionRange : UInt32 := 0x10080015
def vb2ErrorKernelKeyblockVersionRollback : UInt32 := 0x10080016
def vb2ErrorKernelKeyblockDevFlag : UInt32 := 0x10080017
def vb2ErrorKernelKeyblockRecFlag : UInt32 := 0x10080018
def vb2ErrorKernelPreamble2DataKey : UInt32 := 0x10080019
def vb2ErrorKernelPreamble2WorkbufHeader : UInt32 := 0x1008001a
def vb2ErrorKernelPreamble2Workbuf : UInt32 := 0x1008001b
def vb2ErrorKernelPreambleVersionRange : UInt32 := 0x1008001c
def vb2ErrorKernelPreambleVersionRollback : UInt32 := 0x1008001d
def vb2ErrorApiKphase1WorkbufRecKey : UInt32 := 0x10090013
def vb2ErrorApiKphase1Preamble : UInt32 := 0x10090014

/- The rest of struct vb2_keyblock -/
def Vb2Keyblock.keyblockHash (block : UInt64) : UInt64 := block + 48
def Vb2Keyblock.keyblockFlags (m : Mem) (block : UInt64) : UInt32 := le32 m (block.toNat + 72)
def vb2KeyBlockFlagDeveloper0 : UInt32 := 0x01
def vb2KeyBlockFlagDeveloper1 : UInt32 := 0x02
def vb2KeyBlockFlagRecovery0 : UInt32 := 0x04
def vb2KeyBlockFlagRecovery1 : UInt32 := 0x08

/- struct vb2_kernel_preamble; it starts with the same four fields as the one of the firmware. -/
def Vb2KernelPreamble.preambleSize (m : Mem) (pre : UInt64) : UInt32 := le32 m pre.toNat
def Vb2KernelPreamble.preambleSignature (pre : UInt64) : UInt64 := pre + 8
def Vb2KernelPreamble.headerVersionMajor (m : Mem) (pre : UInt64) : UInt32 := le32 m (pre.toNat + 32)
def Vb2KernelPreamble.headerVersionMinor (m : Mem) (pre : UInt64) : UInt32 := le32 m (pre.toNat + 36)
def Vb2KernelPreamble.kernelVersion (m : Mem) (pre : UInt64) : UInt32 := le32 m (pre.toNat + 40)
def Vb2KernelPreamble.bodyLoadAddress (m : Mem) (pre : UInt64) : UInt64 := le64 m (pre.toNat + 48)
def Vb2KernelPreamble.bootloaderAddress (m : Mem) (pre : UInt64) : UInt64 := le64 m (pre.toNat + 56)
def Vb2KernelPreamble.bootloaderSize (m : Mem) (pre : UInt64) : UInt32 := le32 m (pre.toNat + 64)
def Vb2KernelPreamble.bodySignature (pre : UInt64) : UInt64 := pre + 72
def Vb2KernelPreamble.vmlinuzHeaderAddress (m : Mem) (pre : UInt64) : UInt64 := le64 m (pre.toNat + 96)
def Vb2KernelPreamble.vmlinuzHeaderSize (m : Mem) (pre : UInt64) : UInt32 := le32 m (pre.toNat + 104)
def Vb2KernelPreamble.flags (m : Mem) (pre : UInt64) : UInt32 := le32 m (pre.toNat + 112)
def vb2KernelPreambleHeaderSize : UInt32 := 116
def kernelPreambleHeaderVersionMajor : UInt32 := 2

/-- Recovery and normal mode need a signed kernel, developer mode on request only. -/
def vb2NeedSignedKernel (ctx : Vb2Context) : Bool :=
  ctx.flags &&& vb2ContextRecoveryMode ≠ 0 ∨ ctx.flags &&& vb2ContextDeveloperMode = 0 ∨
    vb2NvGet ctx .devBootSignedOnly ≠ 0

/-- A check of the keyblock that makes it invalid, which is an error if it has to be valid. -/
def invalidIf (need valid : Bool) (failed : Prop) [Decidable failed] (e : UInt32) : Except UInt32 Bool :=
  if failed then if need then .error e else .ok false
  else .ok valid

/- The flags that a keyblock has for the mode of the boot -/
def devFlag (ctx : Vb2Context) : UInt32 :=
  if ctx.flags &&& vb2ContextDeveloperMode ≠ 0 then vb2KeyBlockFlagDeveloper1 else vb2KeyBlockFlagDeveloper0

def recFlag (ctx : Vb2Context) : UInt32 :=
  if ctx.flags &&& vb2ContextRecoveryMode ≠ 0 then vb2KeyBlockFlagRecovery1 else vb2KeyBlockFlagRecovery0

/-- The checks of flags and version. In recovery mode the version does not count. -/
def checkKernelKeyblock (need : Bool) (kb : UInt64) (valid : Bool) (ctx : Vb2Context) :
    Except UInt32 Bool := do
  let recovery := ctx.flags &&& vb2ContextRecoveryMode ≠ 0
  let flags := Vb2Keyblock.keyblockFlags ctx.workbuf kb
  let keyVersion := Vb2PackedKey.keyVersion ctx.workbuf (Vb2Keyblock.dataKey kb)
  let valid ← invalidIf need valid (flags &&& devFlag ctx = 0) vb2ErrorKernelKeyblockDevFlag
  let valid ← invalidIf need valid (flags &&& recFlag ctx = 0) vb2ErrorKernelKeyblockRecFlag
  let valid ← invalidIf need valid (¬recovery ∧ keyVersion > 0xffff) vb2ErrorKernelKeyblockVersionRange
  invalidIf need valid (¬recovery ∧ keyVersion < ctx.sd.kernelVersionSecdatak >>> 16)
    vb2ErrorKernelKeyblockVersionRollback

/-- The data key goes behind the kernel key, with its data right behind its header. -/
def moveDataKey (m : Mem) (dst dataKey : UInt64) : Mem :=
  let m := m.store dst.toNat (m.load dataKey.toNat vb2PackedKeyHeaderSize.toNat)
  let m := m.store dst.toNat (leBytes32 vb2PackedKeyHeaderSize)
  m.store (dst + vb2PackedKeyHeaderSize.toUInt64).toNat
    (m.load (vb2PackedKeyData m dataKey).toNat (Vb2PackedKey.keySize m dst).toNat)

def saveKernelDataKey (kb : UInt64) (ctx : Vb2Context) : Vb2Context :=
  let offset := ctx.workbufUsed
  let dst := ctx.workbufAddr + offset.toUInt64
  let m := moveDataKey ctx.workbuf dst (Vb2Keyblock.dataKey kb)
  let size := Vb2PackedKey.keyOffset m dst + Vb2PackedKey.keySize m dst
  { ctx with
    workbuf := m
    sd := { ctx.sd with
      vblockPreambleOffset := Vb2Keyblock.keyblockSize ctx.workbuf kb
      workbufDataKeyOffset := offset
      workbufDataKeySize := size }
    workbufUsed := offset + size }

def checkKernelPreambleHeader (m : Mem) (preamble : UInt64) (size : UInt32) : Except UInt32 Unit := do
  let sig := Vb2KernelPreamble.preambleSignature preamble
  let preambleSize := Vb2KernelPreamble.preambleSize m preamble
  reject (size < vb2KernelPreambleHeaderSize) vb2ErrorPreambleTooSmallForHeader
  reject (Vb2KernelPreamble.headerVersionMajor m preamble ≠ kernelPreambleHeaderVersionMajor)
    vb2ErrorPreambleHeaderVersion
  reject (Vb2KernelPreamble.headerVersionMinor m preamble < 2) vb2ErrorPreambleHeaderOld
  reject (size < preambleSize) vb2ErrorPreambleSize
  reject (vb2VerifySignatureInside m preamble preambleSize sig ≠ .ok ⟨⟩) vb2ErrorPreambleSigOutside
  reject (preambleSize < Vb2Signature.dataSize m sig) vb2ErrorPreambleSignedTooMuch

/- The checks after the one of its signature. The signed size is compared with the size of the
   header of a firmware preamble. -/
def checkKernelPreambleSigned (m : Mem) (preamble : UInt64) : Except UInt32 Unit := do
  let dataSize := Vb2Signature.dataSize m (Vb2KernelPreamble.preambleSignature preamble)
  let body := Vb2KernelPreamble.bodyLoadAddress m preamble
  let bodySize := (Vb2Signature.dataSize m (Vb2KernelPreamble.bodySignature preamble)).toUInt64
  let bootloaderSize := Vb2KernelPreamble.bootloaderSize m preamble
  let vmlinuzHeaderSize := Vb2KernelPreamble.vmlinuzHeaderSize m preamble
  reject (dataSize < vb2FwPreambleHeaderSize) vb2ErrorPreambleSignedTooLittle
  reject (vb2VerifySignatureInside m preamble dataSize (Vb2KernelPreamble.bodySignature preamble) ≠ .ok ⟨⟩)
    vb2ErrorPreambleBodySigOutside
  reject (bootloaderSize ≠ 0 ∧ vb2VerifyMemberInside body bodySize
    (Vb2KernelPreamble.bootloaderAddress m preamble) bootloaderSize.toUInt64 0 0 ≠ .ok ⟨⟩)
    vb2ErrorPreambleBootloaderOutside
  reject (vmlinuzHeaderSize ≠ 0 ∧ vb2VerifyMemberInside body bodySize
    (Vb2KernelPreamble.vmlinuzHeaderAddress m preamble) vmlinuzHeaderSize.toUInt64 0 0 ≠ .ok ⟨⟩)
    vb2ErrorPreambleVmlinuzHeaderOutside

section
variable (align : UInt32) (hash : Vb2HashAlgorithm → List UInt8 → List UInt8) (ex : Vb2Ex)

def vb2VerifyKeyblockHash (block : UInt64) (size : UInt32) (wb : Vb2Workbuf) : Program UInt32 Mem Unit :=
  inspect fun m => do
    let sig := Vb2Keyblock.keyblockHash block
    vb2CheckKeyblock m block size sig
    let digestSize := vb2DigestSize .sha512
    let (digest, wb) := vb2WorkbufAlloc align wb digestSize
    reject (digest = none) vb2ErrorVdataWorkbufDigest
    let (dc, _) := vb2WorkbufAlloc align wb vb2DigestContextSize
    reject (dc = none) vb2ErrorVdataWorkbufHashing
    let digest := hash .sha512 (m.load block.toNat (Vb2Signature.dataSize m sig).toNat)
    reject (m.load (vb2SignatureData m sig).toNat digestSize.toNat ≠ digest) vb2ErrorKeyblockSigInvalid

def vb2VerifyKernelPreamble (preamble : UInt64) (size : UInt32) (key : Vb2PublicKey) (wb : Vb2Workbuf) :
    Program UInt32 Mem Unit := do
  inspect fun m => checkKernelPreambleHeader m preamble size
  match ← attempt (vb2VerifyData align hash preamble size (Vb2KernelPreamble.preambleSignature preamble)
      key wb) with
  | .error _ => throw vb2ErrorPreambleSigInvalid
  | .ok _ => inspect fun m => checkKernelPreambleSigned m preamble

/-- The first part of vb2_load_kernel_keyblock: the keyblock is read, and its size. -/
def readKernelKeyblock (wb : Vb2Workbuf) : Vb2M (UInt64 × UInt32 × Vb2Workbuf) := do
  let (kb, wb) ← allocate (vb2WorkbufAlloc align wb vb2KeyblockHeaderSize)
    vb2ErrorKernelKeyblockWorkbufHeader
  vb2exReadResource ex .kernelVblock 0 kb vb2KeyblockHeaderSize
  let blockSize ← observe fun ctx => Vb2Keyblock.keyblockSize ctx.workbuf kb
  let (kb, wb) ← allocate (vb2WorkbufRealloc align wb vb2KeyblockHeaderSize blockSize)
    vb2ErrorKernelKeyblockWorkbuf
  vb2exReadResource ex .kernelVblock 0 kb blockSize
  pure (kb, blockSize, wb)

/-- The second part: it is signed, or at least has the right hash. -/
def verifyKernelKeyblock (need : Bool) (kb : UInt64) (size : UInt32) (key : Vb2PublicKey)
    (wb : Vb2Workbuf) : Vb2M Bool := do
  match ← attempt (onWorkbuf (vb2VerifyKeyblock align hash kb size key wb)) with
  | .ok _ => pure true
  | .error rv =>
    if need then throw rv
    else do
      onWorkbuf (vb2VerifyKeyblockHash align hash kb size wb)
      pure false

def vb2LoadKernelKeyblock : Vb2M Unit := do
  let wb ← observe (vb2WorkbufFromCtx align)
  let need ← observe vb2NeedSignedKernel
  update fun ctx => { ctx with sd := { ctx.sd with flags := ctx.sd.flags &&& ~~~vb2SdFlagKernelSigned } }
  let kernelKey ← inspect fun ctx => vb2UnpackKey ctx.workbuf
    (ctx.workbufAddr + ctx.sd.workbufKernelKeyOffset.toUInt64) ctx.sd.workbufKernelKeySize
  let (kb, size, wb) ← readKernelKeyblock align ex wb
  let valid ← verifyKernelKeyblock align hash need kb size kernelKey wb
  let valid ← inspect (checkKernelKeyblock need kb valid)
  update fun ctx => { ctx with sd := { ctx.sd with
    kernelVersion := Vb2PackedKey.keyVersion ctx.workbuf (Vb2Keyblock.dataKey kb) <<< 16
    flags := if valid then ctx.sd.flags ||| vb2SdFlagKernelSigned else ctx.sd.flags } }
  update (saveKernelDataKey kb)

/-- The first part of vb2_load_kernel_preamble: the preamble and its size, verified. -/
def loadKernelPreamble (dataKey : Vb2PublicKey) : Vb2M (UInt64 × UInt32) := do
  let wb ← observe (vb2WorkbufFromCtx align)
  let offset ← observe (·.sd.vblockPreambleOffset)
  let (pre, wb) ← allocate (vb2WorkbufAlloc align wb vb2KernelPreambleHeaderSize)
    vb2ErrorKernelPreamble2WorkbufHeader
  vb2exReadResource ex .kernelVblock offset pre vb2KernelPreambleHeaderSize
  let preSize ← observe fun ctx => Vb2KernelPreamble.preambleSize ctx.workbuf pre
  let (pre, wb) ← allocate (vb2WorkbufRealloc align wb vb2KernelPreambleHeaderSize preSize)
    vb2ErrorKernelPreamble2Workbuf
  vb2exReadResource ex .kernelVblock offset pre preSize
  onWorkbuf (vb2VerifyKernelPreamble align hash pre preSize dataKey wb)
  pure (pre, preSize)

def vb2LoadKernelPreamble : Vb2M Unit := do
  let dataKey ← inspect fun ctx => do
    reject (ctx.sd.workbufDataKeySize = 0) vb2ErrorKernelPreamble2DataKey
    vb2UnpackKey ctx.workbuf (ctx.workbufAddr + ctx.sd.workbufDataKeyOffset.toUInt64)
      ctx.sd.workbufDataKeySize
  let (pre, preSize) ← loadKernelPreamble align hash ex dataKey
  let kernelVersion ← observe fun ctx => Vb2KernelPreamble.kernelVersion ctx.workbuf pre
  inspect fun _ => reject (kernelVersion > 0xffff) vb2ErrorKernelPreambleVersionRange
  update fun ctx => { ctx with sd := { ctx.sd with
    kernelVersion := ctx.sd.kernelVersion ||| kernelVersion } }
  inspect fun ctx => reject (vb2NeedSignedKernel ctx ∧ ctx.sd.kernelVersion < ctx.sd.kernelVersionSecdatak)
    vb2ErrorKernelPreambleVersionRollback
  update (savePreamble pre preSize)

/-- The version in secdatak goes to the shared data. -/
def getKernelVersion : Vb2M Unit := do
  transform vb2SecdatakInit
  let version ← inspect vb2SecdatakGet
  update fun ctx => { ctx with sd := { ctx.sd with kernelVersionSecdatak := version } }

/-- It does not have to be readable in recovery mode. -/
def readKernelVersion : Vb2M Unit := do
  let rv ← attempt getKernelVersion
  let recovery ← observe fun ctx => decide (ctx.flags &&& vb2ContextRecoveryMode ≠ 0)
  match rv with
  | .ok _ => pure ()
  | .error rv =>
    if recovery then update fun ctx => { ctx with sd := { ctx.sd with kernelVersionSecdatak := 0 } }
    else do
      update (vb2Fail vb2RecoverySecdatakInit rv.toUInt8)
      throw rv

def loadRecoveryKey (wb : Vb2Workbuf) : Vb2M (UInt64 × UInt32) := do
  let (gbb, wb) ← allocate (vb2WorkbufAlloc align wb vb2GbbHeaderSize) vb2ErrorGbbWorkbuf
  vb2ReadGbbHeader ex gbb
  let keyOffset ← observe fun ctx => Vb2Gbb.recoveryKeyOffset ctx.workbuf gbb
  let keySize ← observe fun ctx => Vb2Gbb.recoveryKeySize ctx.workbuf gbb
  let wb := vb2WorkbufFree align wb vb2GbbHeaderSize
  let (keyData, _) ← allocate (vb2WorkbufAlloc align wb keySize) vb2ErrorApiKphase1WorkbufRecKey
  vb2exReadResource ex .gbb keyOffset keyData keySize
  pure (keyData, keySize)

/-- The kernel subkey of the firmware preamble moves to the start of the work buffer. The size of
its data is read from the preamble. -/
def moveKernelSubkey (m : Mem) (dst key : UInt64) : Mem :=
  let m := m.store dst.toNat (m.load key.toNat vb2PackedKeyHeaderSize.toNat)
  let m := m.store dst.toNat (leBytes32 vb2PackedKeyHeaderSize)
  m.store (dst + vb2PackedKeyHeaderSize.toUInt64).toNat
    (m.load (vb2PackedKeyData m key).toNat (Vb2PackedKey.keySize m key).toNat)

def loadKernelSubkey : Vb2M (UInt64 × UInt32) := do
  inspect fun ctx => reject (ctx.sd.workbufPreambleSize = 0) vb2ErrorApiKphase1Preamble
  let dst ← observe fun ctx => ctx.workbufAddr + vb2SharedDataSize.toUInt64
  let key ← observe fun ctx =>
    Vb2FwPreamble.kernelSubkey (ctx.workbufAddr + ctx.sd.workbufPreambleOffset.toUInt64)
  update fun ctx => { ctx with workbuf := moveKernelSubkey ctx.workbuf dst key }
  let size ← observe fun ctx => Vb2PackedKey.keyOffset ctx.workbuf dst + Vb2PackedKey.keySize ctx.workbuf dst
  pure (dst, size)

def saveKernelKey (keyData : UInt64) (keySize : UInt32) (ctx : Vb2Context) : Vb2Context :=
  let offset := (vb2OffsetOf ctx.workbufAddr keyData).toUInt32
  { ctx with
    sd := { ctx.sd with
      workbufDataKeySize := 0
      workbufPreambleSize := 0
      workbufHashSize := 0
      workbufKernelKeyOffset := offset
      workbufKernelKeySize := keySize }
    workbufUsed := offset + keySize }

def vb2apiKernelPhase1 : Vb2M Unit := do
  let wb ← observe (vb2WorkbufFromCtx align)
  readKernelVersion
  let recovery ← observe fun ctx => decide (ctx.flags &&& vb2ContextRecoveryMode ≠ 0)
  let (keyData, keySize) ← if recovery then loadRecoveryKey align ex wb else loadKernelSubkey
  update (saveKernelKey keyData keySize)

def vb2apiLoadKernelVblock : Vb2M Unit := do
  vb2LoadKernelKeyblock align hash ex
  vb2LoadKernelPreamble align hash ex

/-- The kernel is newer than secdatak says, signed, and may move the version on. -/
def canRollKernel (ctx : Vb2Context) : Prop :=
  ctx.sd.kernelVersion > ctx.sd.kernelVersionSecdatak ∧ ctx.sd.flags &&& vb2SdFlagKernelSigned ≠ 0 ∧
    ctx.flags &&& vb2ContextRecoveryMode = 0 ∧ ctx.flags &&& vb2ContextAllowKernelRollForward ≠ 0

instance (ctx : Vb2Context) : Decidable (canRollKernel ctx) := inferInstanceAs (Decidable (_ ∧ _))

def vb2apiKernelPhase3 : Vb2M Unit := do
  let ctx ← observe id
  doIf (canRollKernel ctx) do
    transform (vb2SecdatakSet · ctx.sd.kernelVersion)
    update fun ctx => { ctx with sd := { ctx.sd with kernelVersionSecdatak := ctx.sd.kernelVersion } }

end
end Vboot.Vb2
