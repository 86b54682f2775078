import Vboot.Common.Rollback
import Vboot.Firmware.Policy

/-! VbSelectFirmware of firmware/lib/vboot_api_firmware.c, with the boot mode measurement of
firmware/lib/tpm_bootmode.c. -/
namespace Vboot
open Vboot.Lib

/- SHA1 of the three bytes developer mode, recovery mode and key block mode, in this order. -/
def kBootStateSHA1Digests : List (List UInt8) :=
  [[0x29, 0xe2, 0xdc, 0xfb, 0xb1, 0x6f, 0x63, 0xbb, 0x02, 0x54, 0xdf, 0x75, 0x85,
    0xa1, 0x5b, 0xb6, 0xfb, 0x5e, 0x92, 0x7d],
   [0x25, 0x47, 0xcc, 0x73, 0x6e, 0x95, 0x1f, 0xa4, 0x91, 0x98, 0x53, 0xc4, 0x3a,
    0xe8, 0x90, 0x86, 0x1a, 0x3b, 0x32, 0x64],
   [0x1e, 0xf6, 0x24, 0x48, 0x2d, 0x62, 0x0e, 0x43, 0xe6, 0xd3, 0x4d, 0xa1, 0xaf,
    0xe4, 0x62, 0x67, 0xfc, 0x69, 0x5d, 0x9b],
   [0x62, 0x57, 0x18, 0x91, 0x21, 0x5b, 0x4e, 0xfc, 0x1c, 0xea, 0xb7, 0x44, 0xce,
    0x59, 0xdd, 0x0b, 0x66, 0xea, 0x6f, 0x73],
   [0xee, 0xe4, 0x47, 0xed, 0xc7, 0x9f, 0xea, 0x1c, 0xa7, 0xc7, 0xd3, 0x4e, 0x46,
    0x32, 0x61, 0xcd, 0xa4, 0xba, 0x33, 0x9e],
   [0x0c, 0x7a, 0x62, 0x3f, 0xd2, 0xbb, 0xc0, 0x5b, 0x06, 0x42, 0x3b, 0xe3, 0x59,
    0xe4, 0x02, 0x1d, 0x36, 0xe7, 0x21, 0xad],
   [0x95, 0x08, 0xe9, 0x05, 0x48, 0xb0, 0x44, 0x0a, 0x4a, 0x61, 0xe5, 0x74, 0x3b,
    0x76, 0xc1, 0xe3, 0x09, 0xb2, 0x3b, 0x7f],
   [0xc4, 0x2a, 0xc1, 0xc4, 0x6f, 0x1d, 0x4e, 0x21, 0x1c, 0x73, 0x5c, 0xc7, 0xdf,
    0xad, 0x4f, 0xf8, 0x39, 0x11, 0x10, 0xe9],
   [0xfa, 0x01, 0x0d, 0x26, 0x64, 0xcc, 0x5b, 0x3b, 0x82, 0xee, 0x48, 0x8f, 0xe2,
    0xb9, 0xf5, 0x0f, 0x49, 0x32, 0xeb, 0x8f],
   [0x47, 0xec, 0x8d, 0x98, 0x36, 0x64, 0x33, 0xdc, 0x00, 0x2e, 0x77, 0x21, 0xc9,
    0xe3, 0x7d, 0x50, 0x67, 0x54, 0x79, 0x37],
   [0x28, 0xd8, 0x6c, 0x56, 0xb3, 0xbf, 0x26, 0xd2, 0x36, 0x56, 0x9b, 0x8d, 0xc8,
    0xc3, 0xf9, 0x1f, 0x32, 0xf4, 0x7b, 0xc7],
   [0x12, 0xa3, 0x40, 0xd7, 0x89, 0x7f, 0xe7, 0x13, 0xfc, 0x8f, 0x02, 0xac, 0x53,
    0x65, 0xb8, 0x6e, 0xbf, 0x35, 0x31, 0x78]]

def kBootInvalidSHA1Digest : List UInt8 := List.replicate 20 0xFF

def getBootStateIndex (devMode recMode : Bool) (keyblockFlags : UInt64) : Nat :=
  (if keyblockFlags = 6 then 2 else if keyblockFlags = 7 then 1 else 0) +
    (if recMode then 3 else 0) + (if devMode then 6 else 0)

def bootModePcr : Nat := 0
def hwidDigestPcr : Nat := 1

/-- What VB_SELECT_FIRMWARE tells the caller to run. -/
inductive SelectedFirmware where
  | recovery | a | b | readonly
  deriving DecidableEq, Repr

/-- The result of the call with everything that it leaves behind. -/
structure Selection (T : Type) where
  retval : UInt32
  selected : Option SelectedFirmware
  shared : VbSharedData
  storage : NvRaw
  tpm : T

def FirmwareParams.readHeader (p : FirmwareParams) : UInt32 × FirmwareParams :=
  let (ret, header) := vbRegionReadData p.gbbAccess 0 gbbHeaderSize p.heap
  (ret, { p with gbb := ⟨header, 0⟩ })

def selectedPath (shared : VbSharedData) : SelectedFirmware :=
  if shared.flags &&& vbsdLfUseRoNormal ≠ 0 then .readonly
  else if shared.firmwareIndex = 0 then .a else .b

section
variable {T Ctx : Type} (crypto : Crypto Ctx) (tlcl : Tlcl T)

/- The caller only looks whether the result is zero. -/
def setTPMBootModeState (developerMode recoveryMode : Bool) (fwKeyblockFlags : UInt64)
    (gbb : Option Ptr) (t : T) : UInt32 × T :=
  let index := getBootStateIndex developerMode recoveryMode fwKeyblockFlags
  let (result0, t) :=
    tlcl.extend bootModePcr (kBootStateSHA1Digests.getD index kBootInvalidSHA1Digest) t
  let (result1, t) := match gbb with
    | some gbb => if gbb.gbbMinorVersion ≥ 2 then
        tlcl.extend hwidDigestPcr (gbb.hwidDigest.bytes 20) t else (0, t)
    | none => (0, t)
  (if result0 ≠ 0 ∨ result1 ≠ 0 then 1 else 0, t)

/-- The version is only written if it rises. -/
def updateFirmwareVersion (shared : VbSharedData) (t : T) : UInt32 × T :=
  if shared.fwVersionTpmStart < shared.fwVersionTpm then
    (rollbackFirmwareWrite tlcl shared.fwVersionTpm).status t
  else (0, t)

/-- The steps after a successful LoadFirmware. The result is the error code, with the recovery
request that goes with it, or success. -/
def secureTpm (isDev : Bool) (gbb : Ptr) (shared : VbSharedData) (vnc : VbNvContext) (t : T) :
    UInt32 × VbNvContext × T :=
  let (status, t) := updateFirmwareVersion tlcl shared t
  if status ≠ 0 then
    (vbErrorTpmWriteFirmware, vbNvSet vnc .recoveryRequest recoveryRoTpmWError, t)
  else
    let (status, t) := (rollbackFirmwareLock tlcl).status t
    if status ≠ 0 then
      (vbErrorTpmLockFirmware, vbNvSet vnc .recoveryRequest recoveryRoTpmLError, t)
    else
      let (status, t) :=
        setTPMBootModeState tlcl isDev false shared.fwKeyblockFlags (some gbb) t
      if status ≠ 0 then
        (vbErrorTpmSetBootModeState, vbNvSet vnc .recoveryRequest recoveryRoTpmUError, t)
      else (vbErrorSuccess, vnc, t)

def vbSelectFirmware (p : FirmwareParams) (shared : VbSharedData) (storage : NvRaw) (t : T) :
    Selection T :=
  let isRec : Bool := shared.recoveryReason != 0
  let isDev := bootDevSwitchOn shared
  let vnc := vbNvSetup storage
  let (ret, p) := p.readHeader
  if isRec then
    -- a GBB that cannot be read is ignored, and so is the result of the measurement
    let gbb := if ret = vbErrorSuccess then some p.gbb else none
    let (_, t) := setTPMBootModeState tlcl isDev true shared.fwKeyblockFlags gbb t
    ⟨vbErrorSuccess, some .recovery, shared, vnc.saved storage, t⟩
  else if ret ≠ vbErrorSuccess then ⟨ret, none, shared, vnc.saved storage, t⟩
  else
    let (retval, shared, vnc) := loadFirmware crypto p shared vnc
    if retval ≠ vbErrorSuccess then ⟨retval, none, shared, vnc.saved storage, t⟩
    else
      let (retval, vnc, t) := secureTpm tlcl isDev p.gbb shared vnc t
      ⟨retval, some (selectedPath shared), shared, vnc.saved storage, t⟩

/-- LoadFirmware as it is called. -/
def selectLoad (p : FirmwareParams) (shared : VbSharedData) (storage : NvRaw) :
    UInt32 × VbSharedData × VbNvContext :=
  loadFirmware crypto p.readHeader.2 shared (vbNvSetup storage)

/-- The three TPM steps succeed: the version is written if it has to rise, the space is
locked, and the boot mode is measured. -/
structure Secured (isDev : Bool) (gbb : Ptr) (shared : VbSharedData) (t : T) : Prop where
  write : shared.fwVersionTpmStart < shared.fwVersionTpm →
    ((rollbackFirmwareWrite tlcl shared.fwVersionTpm).status t).1 = 0
  lock : ((rollbackFirmwareLock tlcl).status (updateFirmwareVersion tlcl shared t).2).1 = 0
  extend : (setTPMBootModeState tlcl isDev false shared.fwKeyblockFlags (some gbb)
    ((rollbackFirmwareLock tlcl).status (updateFirmwareVersion tlcl shared t).2).2).1 = 0

variable {shared : VbSharedData}

theorem updateFirmwareVersion_ok {t : T} :
    (updateFirmwareVersion tlcl shared t).1 = 0 ↔
      (shared.fwVersionTpmStart < shared.fwVersionTpm →
        ((rollbackFirmwareWrite tlcl shared.fwVersionTpm).status t).1 = 0) := by
  unfold updateFirmwareVersion
  by_cases h : shared.fwVersionTpmStart < shared.fwVersionTpm
  · rw [if_pos h]
    exact ⟨fun h' _ => h', fun h' => h' h⟩
  · rw [if_neg h]
    exact ⟨fun _ h' => absurd h' h, fun _ => rfl⟩

variable {isDev : Bool} {gbb : Ptr} {vnc : VbNvContext}

theorem secureTpm_success_iff {t : T} :
    (secureTpm tlcl isDev gbb shared vnc t).1 = vbErrorSuccess ↔
      Secured tlcl isDev gbb shared t := by
  unfold secureTpm
  dsimp only
  split_ifs with hw hl he
  · have hne : vbErrorTpmWriteFirmware ≠ vbErrorSuccess := by decide
    refine ⟨fun h => absurd h hne, fun h => absurd ?_ hw⟩
    exact (updateFirmwareVersion_ok tlcl).mpr h.write
  · have hne : vbErrorTpmLockFirmware ≠ vbErrorSuccess := by decide
    exact ⟨fun h => absurd h hne, fun h => absurd h.lock hl⟩
  · have hne : vbErrorTpmSetBootModeState ≠ vbErrorSuccess := by decide
    exact ⟨fun h => absurd h hne, fun h => absurd h.extend he⟩
  · rw [ne_eq, not_not] at hw hl he
    exact ⟨fun _ => ⟨(updateFirmwareVersion_ok tlcl).mp hw, hl, he⟩, fun _ => rfl⟩

theorem secureTpm_recovery {t : T}
    (h : (secureTpm tlcl isDev gbb shared vnc t).1 ≠ vbErrorSuccess) :
    vbNvGet (secureTpm tlcl isDev gbb shared vnc t).2.1 .recoveryRequest ≠ 0 := by
  unfold secureTpm at h ⊢
  dsimp only at h ⊢
  split_ifs at h ⊢
  · rw [get_set_recovery vnc recoveryRoTpmWError (by decide)]
    decide
  · rw [get_set_recovery vnc recoveryRoTpmLError (by decide)]
    decide
  · rw [get_set_recovery vnc recoveryRoTpmUError (by decide)]
    decide
  · exact absurd rfl h

variable {storage : NvRaw}

theorem secureTpm_loaded (h : vnc.Loaded storage) (t : T) :
    (secureTpm tlcl isDev gbb shared vnc t).2.1.Loaded storage := by
  unfold secureTpm
  dsimp only
  split_ifs
  · exact h.set _ _
  · exact h.set _ _
  · exact h.set _ _
  · exact h

theorem startSearch_loaded (h : vnc.Loaded storage) (shared : VbSharedData) :
    (startSearch shared vnc).2.Loaded storage := by
  unfold startSearch
  dsimp only
  split_ifs
  all_goals first
    | exact h
    | exact h.set _ _

theorem loadFirmware_loaded (h : vnc.Loaded storage) (p : FirmwareParams)
    (shared : VbSharedData) : (loadFirmware crypto p shared vnc).2.2.Loaded storage := by
  unfold loadFirmware
  cases p.vbGbbReadRootKey with
  | error e => exact h.set _ _
  | ok rootKey =>
    have hs := startSearch_loaded h { shared with firmwareIndex := 0xFF }
    dsimp only
    split
    · exact hs.set _ _
    · exact hs.set _ _

theorem loadFirmware_recovery {p : FirmwareParams}
    (h : (loadFirmware crypto p shared vnc).1 ≠ vbErrorSuccess) :
    vbNvGet (loadFirmware crypto p shared vnc).2.2 .recoveryRequest ≠ 0 := by
  cases hk : p.vbGbbReadRootKey with
  | error e =>
    rw [(loadFirmware_noKey crypto p shared vnc hk).2]
    decide
  | ok rootKey =>
    cases hi : firmwareSlot crypto p rootKey shared vnc with
    | none => exact (loadFirmware_none crypto p shared vnc hk hi).2
    | some i => exact absurd (loadFirmware_some crypto p shared vnc hk hi).1 h

variable (p : FirmwareParams) (shared : VbSharedData) (storage : NvRaw) (t : T)

theorem vbSelectFirmware_load (hr : shared.recoveryReason = 0)
    (hh : p.readHeader.1 = vbErrorSuccess) :
    vbSelectFirmware crypto tlcl p shared storage t =
      if (selectLoad crypto p shared storage).1 ≠ vbErrorSuccess then
        ⟨(selectLoad crypto p shared storage).1, none, (selectLoad crypto p shared storage).2.1,
          (selectLoad crypto p shared storage).2.2.saved storage, t⟩
      else
        ⟨(secureTpm tlcl (bootDevSwitchOn shared) p.readHeader.2.gbb
            (selectLoad crypto p shared storage).2.1 (selectLoad crypto p shared storage).2.2 t).1,
          some (selectedPath (selectLoad crypto p shared storage).2.1),
          (selectLoad crypto p shared storage).2.1,
          (secureTpm tlcl (bootDevSwitchOn shared) p.readHeader.2.gbb
            (selectLoad crypto p shared storage).2.1
            (selectLoad crypto p shared storage).2.2 t).2.1.saved storage,
          (secureTpm tlcl (bootDevSwitchOn shared) p.readHeader.2.gbb
            (selectLoad crypto p shared storage).2.1
            (selectLoad crypto p shared storage).2.2 t).2.2⟩ := by
  have hrec : (shared.recoveryReason != 0) = false := by simp [hr]
  simp only [vbSelectFirmware, hrec, Bool.false_eq_true, if_false, hh, ne_eq, not_true_eq_false]
  rfl

theorem vbSelectFirmware_noHeader (hr : shared.recoveryReason = 0)
    (hh : p.readHeader.1 ≠ vbErrorSuccess) :
    (vbSelectFirmware crypto tlcl p shared storage t).retval = p.readHeader.1 := by
  have hrec : (shared.recoveryReason != 0) = false := by simp [hr]
  simp only [vbSelectFirmware, hrec, Bool.false_eq_true, if_false, ne_eq, hh, not_false_eq_true,
    if_true]

/-- Outside recovery the call succeeds exactly when the header was read, LoadFirmware
succeeded and the TPM was updated, locked and extended; each failure of these steps is
an error that requests recovery in the saved storage. In recovery the call succeeds and
whatever the lock command would do is not seen, since it is not given. -/
theorem vbSelectFirmware_steps :
    (shared.recoveryReason = 0 →
      ((vbSelectFirmware crypto tlcl p shared storage t).retval = vbErrorSuccess ↔
        p.readHeader.1 = vbErrorSuccess ∧ (selectLoad crypto p shared storage).1 = vbErrorSuccess ∧
        Secured tlcl (bootDevSwitchOn shared) p.readHeader.2.gbb
          (selectLoad crypto p shared storage).2.1 t) ∧
      (p.readHeader.1 = vbErrorSuccess →
        ¬((selectLoad crypto p shared storage).1 = vbErrorSuccess ∧
          Secured tlcl (bootDevSwitchOn shared) p.readHeader.2.gbb
            (selectLoad crypto p shared storage).2.1 t) →
        (vbSelectFirmware crypto tlcl p shared storage t).retval ≠ vbErrorSuccess ∧
        vbNvGet (vbNvSetup (vbSelectFirmware crypto tlcl p shared storage t).storage)
          .recoveryRequest ≠ 0)) ∧
    (shared.recoveryReason ≠ 0 →
      (vbSelectFirmware crypto tlcl p shared storage t).retval = vbErrorSuccess ∧
      ∀ lock, vbSelectFirmware crypto { tlcl with setGlobalLock := lock } p shared storage t =
        vbSelectFirmware crypto tlcl p shared storage t) := by
  have hl : (selectLoad crypto p shared storage).2.2.Loaded storage :=
    loadFirmware_loaded crypto (loaded_setup storage) _ shared
  refine ⟨fun hr => ?_, fun hr => ?_⟩
  · by_cases hh : p.readHeader.1 = vbErrorSuccess
    · rw [vbSelectFirmware_load crypto tlcl p shared storage t hr hh]
      by_cases hload : (selectLoad crypto p shared storage).1 = vbErrorSuccess
      · rw [if_neg (not_not.mpr hload)]
        refine ⟨?_, fun _ hfail => ?_⟩
        · rw [secureTpm_success_iff]
          exact ⟨fun h => ⟨hh, hload, h⟩, fun h => h.2.2⟩
        · have hne : (secureTpm tlcl (bootDevSwitchOn shared) p.readHeader.2.gbb
              (selectLoad crypto p shared storage).2.1
              (selectLoad crypto p shared storage).2.2 t).1 ≠ vbErrorSuccess :=
            fun h => hfail ⟨hload, (secureTpm_success_iff tlcl).mp h⟩
          refine ⟨hne, ?_⟩
          rw [(secureTpm_loaded tlcl hl t).get_saved]
          exact secureTpm_recovery tlcl hne
      · rw [if_pos hload]
        refine ⟨⟨fun h => absurd h hload, fun h => absurd h.2.1 hload⟩, fun _ _ => ⟨hload, ?_⟩⟩
        rw [hl.get_saved]
        exact loadFirmware_recovery crypto hload
    · have he := vbSelectFirmware_noHeader crypto tlcl p shared storage t hr hh
      refine ⟨⟨fun h => absurd (he.symm.trans h) hh, fun h => absurd h.1 hh⟩,
        fun h => absurd h hh⟩
  · have hrec : (shared.recoveryReason != 0) = true := by simp [hr]
    refine ⟨?_, fun lock => ?_⟩
    · simp only [vbSelectFirmware, hrec, if_true]
    · simp only [vbSelectFirmware, hrec, if_true, setTPMBootModeState]

end
end Vboot
