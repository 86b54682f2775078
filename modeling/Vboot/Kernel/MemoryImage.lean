import Vboot.Kernel.Policy
import Vboot.Kernel.Select

/-! Booting an image that is already in memory, VbVerifyMemoryBootImage of
firmware/lib/vboot_api_kernel.c. -/
namespace Vboot
open Vboot.Lib

def gbbFlagForceDevBootFastbootFullCap : UInt32 := 0x00002000

def allowFastbootFullCap (vnc : VbNvContext) (gbbFlags : UInt32) : Bool :=
  vbNvGet vnc .devBootFastbootFullCap != 0 || hasFlag gbbFlags gbbFlagForceDevBootFastbootFullCap

def imagePreamble (image : Ptr) : Ptr := image.add image.keyBlockSize.toNat

def imageBodyOffset (image : Ptr) : UInt64 := image.keyBlockSize + (imagePreamble image).preambleSize

section
variable {Ctx H : Type} (crypto : Crypto Ctx)

/-- The checks of the image, which all fail with the same result. A developer who may use the full
capability only gets a check of its integrity. -/
def checkMemoryImage (devSwitch hashOnly : Bool) (kernelSubkey : Option Ptr) (image : Ptr) (size : UInt64) :
    Except Unit Unit := do
  reject (fails (keyBlockVerify crypto image size kernelSubkey hashOnly)) ()
  reject (image.keyBlockFlags &&&
    (if devSwitch then keyBlockFlagDeveloper1 else keyBlockFlagDeveloper0) = 0 ∧ hashOnly = false) ()
  reject (image.keyBlockFlags &&& keyBlockFlagRecovery1 = 0 ∧ hashOnly = false) ()
  let dataKey ← require (publicKeyToRSA image.dataKey) ()
  let preamble := imagePreamble image
  reject (fails (verifyKernelPreamble crypto preamble (size - image.keyBlockSize) dataKey)) ()
  let bodyOffset := imageBodyOffset image
  reject (verifyData crypto (image.add bodyOffset.toNat) (size - bodyOffset) preamble.kernelBodySignature
    dataKey) ()

/-- Clear the outputs in case the call fails. -/
def VbSelectAndLoadKernelParams.clear (kparams : VbSelectAndLoadKernelParams H) :
    VbSelectAndLoadKernelParams H :=
  { kparams with
    diskHandle := none
    partitionNumber := 0
    bootloaderAddress := 0
    bootloaderSize := 0
    flags := 0
    partitionGuid := List.replicate 16 0 }

def reportImage (image : Ptr) (size : UInt64) (kparams : VbSelectAndLoadKernelParams H) :
    VbSelectAndLoadKernelParams H :=
  let preamble := imagePreamble image
  { kparams with
    kernelBuffer := (image.add (imageBodyOffset image).toNat).address
    kernelBufferSize := size - imageBodyOffset image
    bootloaderAddress := preamble.bootloaderAddress
    bootloaderSize := preamble.bootloaderSize.toUInt32
    flags := if vbKernelHasFlags preamble then preamble.kernelFlags else kparams.flags }

/-- The key that has to have signed the key block, or none if only its hash counts. -/
def imageKey (cparams : VbCommonParams) (hashOnly : Bool) : Except UInt32 (Option Ptr) :=
  if hashOnly then .ok none else (vbGbbReadRecoveryKey cparams).map some

variable (cparams : VbCommonParams) (shared : VbSharedData) (storage : NvRaw)

/-- Nothing but the integrity of the image is asked for. -/
def integrityOnly : Bool :=
  bootDevSwitchOn shared && allowFastbootFullCap (vbNvSetup storage) cparams.readHeader.2.gbb.gbbFlags

/- An image at address 0 is the null pointer. -/
def vbVerifyMemoryBootImage (image : Ptr) (size : UInt64) (kparams : VbSelectAndLoadKernelParams H) :
    UInt32 × VbSelectAndLoadKernelParams H :=
  if image.address = 0 ∨ size = 0 then (vbErrorInvalidParameter, kparams)
  else
    let kparams := kparams.clear
    let (ret, cparams') := cparams.readHeader
    if ret ≠ vbErrorSuccess then (ret, kparams)
    else
      let hashOnly := integrityOnly cparams shared storage
      match imageKey cparams' hashOnly with
      | .error e => (e, kparams)
      | .ok kernelSubkey =>
        match checkMemoryImage crypto (bootDevSwitchOn shared) hashOnly kernelSubkey image size with
        | .error _ => (vbErrorInvalidKernelFound, kparams)
        | .ok _ => (vbErrorSuccess, reportImage image size kparams)

/-- The key block was signed by the recovery key of the GBB and allows recovery in the current
developer state. -/
structure RecoverySigned (devSwitch : Bool) (image : Ptr) (size : UInt64) (recoveryKey : Ptr) : Prop where
  signed : keyBlockVerify crypto image size (some recoveryKey) false = .ok ()
  developer : image.keyBlockFlags &&&
    (if devSwitch then keyBlockFlagDeveloper1 else keyBlockFlagDeveloper0) ≠ 0
  recovery : image.keyBlockFlags &&& keyBlockFlagRecovery1 ≠ 0

/-- Key block, preamble and body follow each other in the image, and the data key of the key block
verifies the other two. -/
structure ImageVerified (image : Ptr) (size : UInt64) (key : RSAPublicKey) : Prop where
  dataKey : publicKeyToRSA image.dataKey = some key
  inside : image.keyBlockSize.toNat + (imagePreamble image).preambleSize.toNat +
    (imagePreamble image).kernelBodySignature.dataSize.toNat ≤ size.toNat
  preamble : verifyKernelPreamble crypto (imagePreamble image) (size - image.keyBlockSize) key = .ok ()
  body : rsaVerifyBinary crypto key
    (image.add (image.keyBlockSize.toNat + (imagePreamble image).preambleSize.toNat))
    (imagePreamble image).kernelBodySignature.dataSize.toNat
    (getSignatureData (imagePreamble image).kernelBodySignature) key.algorithm = true

variable {hashOnly : Bool} {subkey : Option Ptr} {image : Ptr} {size : UInt64} {devSwitch : Bool}

theorem checkMemoryImage_ok
    (h : checkMemoryImage crypto devSwitch hashOnly subkey image size = .ok ()) :
    keyBlockVerify crypto image size subkey hashOnly = .ok () ∧
    (hashOnly = false → image.keyBlockFlags &&&
        (if devSwitch then keyBlockFlagDeveloper1 else keyBlockFlagDeveloper0) ≠ 0 ∧
      image.keyBlockFlags &&& keyBlockFlagRecovery1 ≠ 0) ∧
    ∃ key, publicKeyToRSA image.dataKey = some key ∧
      verifyKernelPreamble crypto (imagePreamble image) (size - image.keyBlockSize) key = .ok () ∧
      verifyData crypto (image.add (imageBodyOffset image).toNat) (size - imageBodyOffset image)
        (imagePreamble image).kernelBodySignature key = false := by
  simp only [checkMemoryImage, reject_bind_eq_ok, reject_eq_ok, require_bind_eq_ok, Bool.not_eq_true,
    fails_eq_false] at h
  obtain ⟨hblock, hdev, hrec, key, hkey, hpre, hbody⟩ := h
  exact ⟨hblock, fun hh => ⟨fun hz => hdev ⟨hz, hh⟩, fun hz => hrec ⟨hz, hh⟩⟩, key, hkey, hpre, hbody⟩

theorem keyBlockVerify_inside (h : keyBlockVerify crypto image size subkey hashOnly = .ok ()) :
    image.keyBlockSize.toNat ≤ size.toNat := by
  simp only [keyBlockVerify, reject_bind_eq_ok] at h
  exact UInt64.le_iff_toNat_le.mp (UInt64.not_lt.mp h.2.2.2.1)

theorem checkMemoryImage_verified
    (h : checkMemoryImage crypto devSwitch hashOnly subkey image size = .ok ()) :
    ∃ key, ImageVerified crypto image size key := by
  obtain ⟨hblock, -, key, hkey, hpre, hbody⟩ := checkMemoryImage_ok crypto h
  have hsize := size.toNat_lt
  have hin := keyBlockVerify_inside crypto hblock
  have hpsize := ((verifyKernelPreamble_eq_ok crypto).mp hpre).1.inside
  rw [UInt64.toNat_sub_of_le _ _ (UInt64.le_iff_toNat_le.mpr hin)] at hpsize
  have hoffset : (imageBodyOffset image).toNat =
      image.keyBlockSize.toNat + (imagePreamble image).preambleSize.toNat := by
    rw [imageBodyOffset, UInt64.toNat_add]
    omega
  obtain ⟨-, hdata, hver⟩ := (verifyData_eq_false crypto).mp hbody
  have hle : imageBodyOffset image ≤ size := by
    rw [UInt64.le_iff_toNat_le, hoffset]
    omega
  rw [UInt64.le_iff_toNat_le, UInt64.toNat_sub_of_le _ _ hle, hoffset] at hdata
  refine ⟨key, hkey, by omega, hpre, ?_⟩
  rw [← hoffset]
  exact hver

theorem vbVerifyMemoryBootImage_success {kparams : VbSelectAndLoadKernelParams H}
    (h : (vbVerifyMemoryBootImage crypto cparams shared storage image size kparams).1 = vbErrorSuccess) :
    ∃ subkey, imageKey cparams.readHeader.2 (integrityOnly cparams shared storage) = .ok subkey ∧
      checkMemoryImage crypto (bootDevSwitchOn shared) (integrityOnly cparams shared storage) subkey image
        size = .ok () := by
  have hparameter : ¬ vbErrorInvalidParameter = vbErrorSuccess := by decide
  have hinvalid : ¬ vbErrorInvalidKernelFound = vbErrorSuccess := by decide
  unfold vbVerifyMemoryBootImage at h
  dsimp only at h
  split_ifs at h with hnull hheader
  · exact absurd h hparameter
  · exact absurd h hheader
  · cases hkey : imageKey cparams.readHeader.2 (integrityOnly cparams shared storage) with
    | error e =>
      rw [hkey] at h
      unfold imageKey at hkey
      split_ifs at hkey
      cases hread : vbGbbReadRecoveryKey cparams.readHeader.2 with
      | ok k =>
        rw [hread] at hkey
        cases hkey
      | error e' =>
        rw [hread] at hkey
        cases hkey
        exact absurd h (vbGbbReadKey_error hread)
    | ok subkey =>
      rw [hkey] at h
      dsimp only at h
      cases hc : checkMemoryImage crypto (bootDevSwitchOn shared) (integrityOnly cparams shared storage)
          subkey image size with
      | error e =>
        rw [hc] at h
        exact absurd h hinvalid
      | ok u => exact ⟨subkey, rfl, hc⟩

/-- The image of a successful call consists of a key block, a preamble and a body, and the data key
verifies preamble and body. Without the full capability of a developer the key block is signed by
the recovery key and may be used for recovery. -/
theorem vbVerifyMemoryBootImage_verified (image : Ptr) (size : UInt64)
    (kparams : VbSelectAndLoadKernelParams H)
    (h : (vbVerifyMemoryBootImage crypto cparams shared storage image size kparams).1 = vbErrorSuccess) :
    (∃ key, ImageVerified crypto image size key) ∧
    (¬ (bootDevSwitchOn shared = true ∧
        allowFastbootFullCap (vbNvSetup storage) cparams.readHeader.2.gbb.gbbFlags = true) →
      ∃ recoveryKey, vbGbbReadRecoveryKey cparams.readHeader.2 = .ok recoveryKey ∧
        RecoverySigned crypto (bootDevSwitchOn shared) image size recoveryKey) := by
  obtain ⟨subkey, hkey, hc⟩ := vbVerifyMemoryBootImage_success crypto cparams shared storage h
  refine ⟨checkMemoryImage_verified crypto hc, fun hfull => ?_⟩
  have hhash : integrityOnly cparams shared storage = false := by
    rw [← Bool.and_eq_true] at hfull
    exact Bool.not_eq_true _ ▸ hfull
  rw [hhash] at hkey hc
  obtain ⟨hblock, hflags, -⟩ := checkMemoryImage_ok crypto hc
  cases hread : vbGbbReadRecoveryKey cparams.readHeader.2 with
  | error e =>
    rw [imageKey, hread] at hkey
    cases hkey
  | ok recoveryKey =>
    rw [imageKey, hread] at hkey
    cases hkey
    exact ⟨recoveryKey, rfl, hblock, (hflags rfl).1, (hflags rfl).2⟩

end

/-- The sample kernel at address 4096, of 884 bytes, with a key block for every switch. -/
def sampleImage : Ptr :=
  ⟨(Mem.store (fun _ => 0) 4096 ((sampleKernel 1 2).load 0 884)).store 4168 [15], 4096⟩

/-- The recovery key is the root key. -/
def recoveryCommon : VbCommonParams :=
  { sampleCommon with gbbAccess := .buffer (sampleGbb.store 40 (bytes64 128)) 424 }

theorem vbVerifyMemoryBootImage_sample :
    (∃ key, ImageVerified anyCrypto sampleImage 884 key) ∧
    (¬ (bootDevSwitchOn (sampleShared 0) = true ∧
        allowFastbootFullCap (vbNvSetup (Vector.replicate 16 0)) recoveryCommon.readHeader.2.gbb.gbbFlags =
          true) →
      ∃ recoveryKey, vbGbbReadRecoveryKey recoveryCommon.readHeader.2 = .ok recoveryKey ∧
        RecoverySigned anyCrypto (bootDevSwitchOn (sampleShared 0)) sampleImage 884 recoveryKey) :=
  vbVerifyMemoryBootImage_verified anyCrypto recoveryCommon (sampleShared 0) (Vector.replicate 16 0)
    sampleImage 884 (⟨0, 0, none, 0, 0, 0, [], 0⟩ : VbSelectAndLoadKernelParams Unit) (by decide +kernel)

end Vboot
