import Vboot.Common.Spaces
import Vboot.Firmware.Select
import Vboot.Lib.Run

/-! Sequences of normal boots and the firmware version that the TPM keeps from one to the
next. -/
namespace Vboot
open Vboot.Lib Vboot.Lib.Program

/-- What one boot finds: the platform and the flash, the shared data and the NV storage as
VbInit leaves them, and the arguments of RollbackFirmwareSetup. -/
structure Boot where
  params : FirmwareParams
  shared : VbSharedData
  storage : NvRaw
  isHwDev : Bool
  disableDevRequest : Bool
  clearTpmOwnerRequest : Bool

namespace Boot

def sharedAt (b : Boot) (version : UInt32) : VbSharedData :=
  { b.shared with fwVersionTpm := version, fwVersionTpmStart := version, recoveryReason := 0 }

def withHeader (b : Boot) : FirmwareParams := b.params.readHeader.2

def isDev (b : Boot) : Bool := bootDevSwitchOn b.shared

end Boot

section
variable {T Ctx : Type} (crypto : Crypto Ctx) (tlcl : Tlcl T)

/-- One boot: VbInit sets up the TPM and reads the version, then VbSelectFirmware runs. -/
def normalBoot (t : T) (b : Boot) : T :=
  match rollbackFirmwareSetup tlcl b.isHwDev b.disableDevRequest b.clearTpmOwnerRequest t with
  | (.error _, t) => t
  | (.ok (version, _), t) =>
    (vbSelectFirmware crypto tlcl b.params (b.sharedAt version) b.storage t).tpm

def headerAccepted (b : Boot) (rootKey : Ptr) (v : UInt32) (j : Nat) : Prop :=
  fails (checkHeader crypto b.withHeader rootKey b.isDev v j) = false

/-- Boot b raises the version from v to v': it boots slot g, and v' is bounded by the
versions of g and of every slot with an accepted header, which stays accepted. -/
structure Raises (b : Boot) (v v' : UInt32) : Prop where
  above : v < v'
  booted : ∃ rootKey g, b.withHeader.vbGbbReadRootKey = .ok rootKey ∧ g < 2 ∧
    (selectLoad crypto b.params (b.sharedAt v) b.storage).1 = vbErrorSuccess ∧
    (selectLoad crypto b.params (b.sharedAt v) b.storage).2.1.firmwareIndex = UInt8.ofNat g ∧
    v' ≤ b.withHeader.combinedVersion g ∧
    ∀ j < 2, headerAccepted crypto b rootKey v j →
      v' ≤ b.withHeader.combinedVersion j ∧ headerAccepted crypto b rootKey v' j

theorem fails_false {ε α : Type} {x : Except ε α} : fails x = false ↔ ∃ a, x = .ok a := by
  cases x <;> simp [fails]

variable {j : Nat}

theorem foldl_lower_le (p : FirmwareParams) (rootKey : Ptr) (isDev : Bool) (tpm : UInt32)
    {is : List Nat} (hj : j ∈ is)
    (hok : fails (checkHeader crypto p rootKey isDev tpm j) = false) (v : UInt32) :
    is.foldl (lower crypto p rootKey isDev tpm) v ≤ p.combinedVersion j := by
  have hle (is : List Nat) (v : UInt32) : is.foldl (lower crypto p rootKey isDev tpm) v ≤ v := by
    induction is generalizing v with
    | nil => exact UInt32.le_refl v
    | cons i is ih =>
      apply UInt32.le_trans (ih _)
      unfold lower
      split_ifs with _ hv
      · exact UInt32.le_refl v
      · exact UInt32.le_of_lt hv
      · exact UInt32.le_refl v
  induction is generalizing v with
  | nil => cases hj
  | cons i is ih =>
    cases hj with
    | head =>
      obtain ⟨k, hk⟩ := fails_false.mp hok
      exact UInt32.le_trans (hle is _) (lower_le_combined crypto p rootKey isDev v hk)
    | tail _ hj => exact ih hj _

theorem toNat_combinedVersion (p : FirmwareParams) (i : Nat)
    (h : (p.keyBlock i).dataKey.keyVersion ≤ 0xFFFF) :
    (p.combinedVersion i).toNat = (p.keyBlock i).dataKey.keyVersion.toNat * 2 ^ 16 +
      (p.preamble i).firmwareVersion.toNat % 2 ^ 16 := by
  have hk : (p.keyBlock i).dataKey.keyVersion.toNat ≤ 0xFFFF := UInt64.le_iff_toNat_le.mp h
  have hs : UInt64.toNat 16 % 64 = 16 := rfl
  have hm : UInt64.toNat 0xFFFF = 2 ^ 16 - 1 := rfl
  rw [FirmwareParams.combinedVersion, UInt64.toNat_toUInt32, UInt64.toNat_or, UInt64.toNat_and,
    UInt64.toNat_shiftLeft, hs, hm, Nat.and_two_pow_sub_one_eq_mod, Nat.shiftLeft_eq,
    Nat.mod_eq_of_lt (a := _ * 2 ^ 16) (by omega),
    mul_or _ _ 16 (Nat.mod_lt _ (by decide))]
  omega

theorem headerAccepted_raise {b : Boot} {rootKey : Ptr} {v v' : UInt32}
    (hr : b.withHeader.rollbackCheck = true) (h : headerAccepted crypto b rootKey v j)
    (hv : v' ≤ b.withHeader.combinedVersion j) : headerAccepted crypto b rootKey v' j := by
  obtain ⟨k, hc⟩ := fails_false.mp h
  obtain ⟨h1, h2, h3, h4, h5, h6, h7, -⟩ := (checkHeader_ok crypto _).mp hc
  have hkey : (v' >>> 16).toUInt64 ≤ (b.withHeader.keyBlock j).dataKey.keyVersion := by
    have hn := UInt32.le_iff_toNat_le.mp hv
    have hs : UInt32.toNat 16 % 32 = 16 := rfl
    rw [toNat_combinedVersion _ j (h5 hr)] at hn
    rw [UInt64.le_iff_toNat_le, UInt32.toNat_toUInt64, UInt32.toNat_shiftRight, hs,
      Nat.shiftRight_eq_div_pow]
    omega
  exact fails_false.mpr ⟨k, (checkHeader_ok crypto _).mpr ⟨h1, h2, h3, fun _ => hkey, h5, h6, h7, fun _ => hv⟩⟩

theorem mem_tryOrder_of_lt {n : UInt32} (h : j < 2) : j ∈ tryOrder n := by
  have hj : j = 0 ∨ j = 1 := by omega
  unfold tryOrder
  rcases hj with rfl | rfl <;> split_ifs <;> simp

theorem loadFirmware_version {b : Boot} {v : UInt32} (hr : b.withHeader.rollbackCheck = true)
    (hok : (selectLoad crypto b.params (b.sharedAt v) b.storage).1 = vbErrorSuccess) :
    (selectLoad crypto b.params (b.sharedAt v) b.storage).2.1.fwVersionTpm = v ∨
      Raises crypto b v (selectLoad crypto b.params (b.sharedAt v) b.storage).2.1.fwVersionTpm := by
  set shared := b.sharedAt v
  set vnc := vbNvSetup b.storage
  have htpm : shared.fwVersionTpm = v := rfl
  change (loadFirmware crypto b.withHeader shared vnc).1 = vbErrorSuccess at hok
  cases hk : b.withHeader.vbGbbReadRootKey with
  | error e =>
    rw [(loadFirmware_noKey crypto b.withHeader shared vnc hk).1] at hok
    exact absurd hok (by decide)
  | ok rootKey =>
    cases hg : firmwareSlot crypto b.withHeader rootKey shared vnc with
    | none =>
      rw [(loadFirmware_none crypto b.withHeader shared vnc hk hg).1] at hok
      exact absurd hok (by decide)
    | some g =>
      obtain ⟨-, hindex, hversion⟩ := loadFirmware_some crypto b.withHeader shared vnc hk hg
      obtain ⟨-, -, hlow⟩ := firmwareSearch_spec crypto b.withHeader rootKey shared vnc
      obtain ⟨hmem, hchecks⟩ := bootSlot_checks crypto b.withHeader hg
      obtain ⟨k, hheader, -⟩ := (slotChecks_ok crypto b.withHeader rootKey _).mp hchecks
      change (loadFirmware crypto b.withHeader shared vnc).2.1.fwVersionTpm = v ∨
        Raises crypto b v (loadFirmware crypto b.withHeader shared vnc).2.1.fwVersionTpm
      rw [hversion]
      by_cases hgt : (firmwareSearch crypto b.withHeader rootKey shared vnc).lowestVersion >
          shared.fwVersionTpm
      · right
        rw [if_pos hgt]
        have hbound (j : Nat) (hj : j < 2) (ha : headerAccepted crypto b rootKey v j) :
            (firmwareSearch crypto b.withHeader rootKey shared vnc).lowestVersion ≤
              b.withHeader.combinedVersion j := by
          rw [hlow hgt]
          exact foldl_lower_le crypto _ _ _ _ (mem_tryOrder_of_lt hj) ha _
        have hg2 := mem_tryOrder hmem
        exact ⟨hgt, rootKey, g, hk, hg2, hok, hindex, hbound g hg2 (fails_false.mpr ⟨k, hheader⟩), fun j hj ha =>
          ⟨hbound j hj ha, headerAccepted_raise crypto hr ha (hbound j hj ha)⟩⟩
      · left
        rw [if_neg hgt]
        exact htpm

variable {crypto tlcl} {nv : Contents T}

theorem extend_quiet (F : Faithful tlcl nv) (isDev isRec : Bool) (flags : UInt64) (gbb : Option Ptr)
    (t : T) : nv (setTPMBootModeState tlcl isDev isRec flags gbb t).2 = nv t := by
  unfold setTPMBootModeState
  cases gbb with
  | none => exact F.extend _ _ t
  | some gbb =>
    dsimp only
    split_ifs
    · exact (F.extend _ _ _).trans (F.extend _ _ t)
    · exact F.extend _ _ t

theorem secureTpm_wrote (F : Faithful tlcl nv) (isDev : Bool) (gbb : Ptr) (shared : VbSharedData)
    (vnc : VbNvContext) {t : T} (hd : Defined nv firmwareNvIndex firmwareSpaceSize t) :
    Wrote nv firmwareNvIndex firmwareSpaceSize firmwareVersionsOffset shared.fwVersionTpm t
      (secureTpm tlcl isDev gbb shared vnc t).2.2 := by
  have hw : Wrote nv firmwareNvIndex firmwareSpaceSize firmwareVersionsOffset shared.fwVersionTpm t
      (updateFirmwareVersion tlcl shared t).2 := by
    unfold updateFirmwareVersion
    split_ifs
    · exact rewrite_ends F shared.fwVersionTpm hd (by decide) (by decide)
    · exact .of_quiet hd rfl
  have hl : nv ((rollbackFirmwareLock tlcl).status (updateFirmwareVersion tlcl shared t).2).2 =
      nv (updateFirmwareVersion tlcl shared t).2 := F.setGlobalLock _
  have he := extend_quiet F isDev false shared.fwKeyblockFlags (some gbb)
    ((rollbackFirmwareLock tlcl).status (updateFirmwareVersion tlcl shared t).2).2
  unfold secureTpm
  dsimp only
  split_ifs
  · exact hw
  · exact hw.congr rfl hl
  · exact hw.congr rfl (he.trans hl)
  · exact hw.congr rfl (he.trans hl)

/-- The result of one boot for the version in the TPM. -/
def BootKeeps (crypto : Crypto Ctx) (nv : Contents T) (b : Boot) (t t' : T) : Prop :=
  firmwareVersion nv t' = firmwareVersion nv t ∨
    Raises crypto b (firmwareVersion nv t) (firmwareVersion nv t')

section
variable (crypto : Crypto Ctx) (F : Faithful tlcl nv) {b : Boot} (hr : b.withHeader.rollbackCheck = true)
  {t : T} (hd : Defined nv firmwareNvIndex firmwareSpaceSize t)
include F hr hd

theorem vbSelectFirmware_keeps :
    Defined nv firmwareNvIndex firmwareSpaceSize (vbSelectFirmware crypto tlcl b.params
      (b.sharedAt (firmwareVersion nv t)) b.storage t).tpm ∧
    BootKeeps crypto nv b t (vbSelectFirmware crypto tlcl b.params
      (b.sharedAt (firmwareVersion nv t)) b.storage t).tpm := by
  by_cases hh : b.params.readHeader.1 = vbErrorSuccess
  · rw [vbSelectFirmware_load crypto tlcl b.params _ b.storage t rfl hh]
    by_cases hload : (selectLoad crypto b.params (b.sharedAt (firmwareVersion nv t)) b.storage).1 =
        vbErrorSuccess
    · rw [if_neg (not_not.mpr hload)]
      have hw := secureTpm_wrote F (bootDevSwitchOn (b.sharedAt (firmwareVersion nv t)))
        b.params.readHeader.2.gbb
        (selectLoad crypto b.params (b.sharedAt (firmwareVersion nv t)) b.storage).2.1
        (selectLoad crypto b.params (b.sharedAt (firmwareVersion nv t)) b.storage).2.2 hd
      refine ⟨hw.defined, ?_⟩
      unfold BootKeeps
      cases hw.version with
      | inl h => exact .inl h
      | inr h =>
        unfold firmwareVersion at h ⊢
        rw [h]
        exact loadFirmware_version crypto hr hload
    · rw [if_pos hload]
      exact ⟨hd, .inl rfl⟩
  · have hrec : (b.sharedAt (firmwareVersion nv t)).recoveryReason = 0 := rfl
    simp only [vbSelectFirmware, hrec, hh, ne_eq, not_false_eq_true, if_true]
    exact ⟨hd, .inl rfl⟩

theorem normalBoot_keeps :
    Defined nv firmwareNvIndex firmwareSpaceSize (normalBoot crypto tlcl t b) ∧
      BootKeeps crypto nv b t (normalBoot crypto tlcl t b) := by
  have hs := rollbackFirmwareSetup_ends F hd b.isHwDev b.disableDevRequest b.clearTpmOwnerRequest
  unfold normalBoot
  unfold Ends at hs
  generalize rollbackFirmwareSetup tlcl b.isHwDev b.disableDevRequest b.clearTpmOwnerRequest t = r at hs
  obtain ⟨r, t₁⟩ := r
  obtain ⟨hw, hv⟩ := hs
  have hsame : firmwareVersion nv t₁ = firmwareVersion nv t := hw.version.elim id id
  cases r with
  | error e => exact ⟨hw.defined, .inl hsame⟩
  | ok r =>
    obtain ⟨version, virt⟩ := r
    have hversion := hv version virt rfl
    subst hversion
    have hk := vbSelectFirmware_keeps crypto F hr hw.defined
    unfold BootKeeps at hk ⊢
    rw [hsame] at hk
    exact hk

end

/-- Over every sequence of normal boots the firmware version in the TPM never decreases, and
a boot that changes it raises it to at most the versions of the slot that it boots and of
every slot whose header it accepts, which therefore stay acceptable. -/
theorem firmware_version_boots (crypto : Crypto Ctx) (F : Faithful tlcl nv) (bs : List Boot) (t : T)
    (hr : ∀ b ∈ bs, b.withHeader.rollbackCheck = true)
    (hd : Defined nv firmwareNvIndex firmwareSpaceSize t) :
    (∀ u v, bs = u ++ v → firmwareVersion nv (run (normalBoot crypto tlcl) t u) ≤
      firmwareVersion nv (run (normalBoot crypto tlcl) t bs)) ∧
    ∀ u b v, bs = u ++ b :: v →
      BootKeeps crypto nv b (run (normalBoot crypto tlcl) t u)
        (run (normalBoot crypto tlcl) t (u ++ [b])) := by
  have hstep (b : Boot) (hb : b ∈ bs) (t : T) (hd : Defined nv firmwareNvIndex firmwareSpaceSize t) :
      Defined nv firmwareNvIndex firmwareSpaceSize (normalBoot crypto tlcl t b) ∧
      firmwareVersion nv t ≤ firmwareVersion nv (normalBoot crypto tlcl t b) ∧
      BootKeeps crypto nv b t (normalBoot crypto tlcl t b) := by
    obtain ⟨hdef, hkeep⟩ := normalBoot_keeps crypto F (hr b hb) hd
    refine ⟨hdef, ?_, hkeep⟩
    cases hkeep with
    | inl h =>
      rw [h]
      exact UInt32.le_refl _
    | inr h => exact UInt32.le_of_lt h.above
  obtain ⟨hrises, hall⟩ := run_rises (firmwareVersion nv) hstep hd
  refine ⟨hrises, fun u b v he => ?_⟩
  rw [run_append]
  exact hall u b v he

end

/-- A TPM that is nothing but its spaces. -/
def plainTlcl : Tlcl (UInt32 → List UInt8) where
  libInit t := (0, t)
  startup t := (0, t)
  resume t := (0, t)
  selfTestFull t := (0, t)
  assertPhysicalPresence t := (0, t)
  physicalPresenceCMDEnable t := (0, t)
  finalizePhysicalPresence t := (0, t)
  lockPhysicalPresence t := (0, t)
  setNvLocked t := (0, t)
  setGlobalLock t := (0, t)
  forceClear t := (0, t)
  setEnable t := (0, t)
  setDeactivated _ t := (0, t)
  getFlags t := (0, (0, 0), t)
  getPermanentFlags t := (0, ⟨true, true⟩, t)
  getPermissions _ t := (0, tpmNvPerPpWrite, t)
  defineSpace index _ size t := (0, Function.update t index (List.replicate size 0xFF))
  read index size t :=
    (if t index = [] then tpmEBadIndex else if (t index).length < size then 0x11 else 0,
      Mem.ofList (t index), t)
  write index data t :=
    if (t index).length < data.length then (0x11, t)
    else (0, Function.update t index (data ++ (t index).drop data.length))
  extend _ _ t := (0, t)

theorem plainTlcl_faithful : Faithful plainTlcl id where
  libInit _ := rfl
  startup _ := rfl
  assertPhysicalPresence _ := rfl
  physicalPresenceCMDEnable _ := rfl
  lockPhysicalPresence _ := rfl
  setGlobalLock _ := rfl
  forceClear _ := rfl
  setEnable _ := rfl
  setDeactivated _ _ := rfl
  extend _ _ _ := rfl
  getFlags _ := rfl
  getPermissions _ _ := rfl
  read _ _ _ := rfl
  read_ok index n t h := by
    simp only [plainTlcl] at h ⊢
    split_ifs at h with h1 h2
    · exact absurd h (by decide)
    · exact absurd h (by decide)
    · apply List.ext_getElem
      · simp
        omega
      · intro i hi1 hi2
        simp only [Mem.length_load] at hi1
        simp only [id, List.getElem_take, Mem.load, Mem.ofList, List.getElem_map,
          List.getElem_range, Nat.zero_add]
        exact (List.getElem_eq_getD 0).symm
  read_bad index n t h := by
    simp only [plainTlcl] at h
    split_ifs at h with h1 h2
    · exact h1
    · exact absurd h (by decide)
    · exact absurd h (by decide)
  write_ok index data t h := by
    simp only [plainTlcl] at h ⊢
    split_ifs at h ⊢
    · have hne : (0x11 : UInt32) ≠ 0 := by decide
      exact absurd h hne
    · rfl
  write_error index data t h := by
    simp only [plainTlcl] at h ⊢
    split_ifs at h ⊢
    · rfl
    · exact absurd rfl h

/-- A boot of two slots with version 1.1. -/
def sampleBoot : Boot where
  params := sampleParams 5 [⟨fun _ => 0, 5⟩]
  shared := sampleShared 0
  storage := Vector.replicate 16 0
  isHwDev := false
  disableDevRequest := false
  clearTpmOwnerRequest := false

def sampleTpm (version : UInt32) : UInt32 → List UInt8 :=
  Function.update (fun _ => []) firmwareNvIndex
    ((sealSpace firmwareSpaceSize (Mem.ofList ([2, 0] ++ leBytes32 version))).load 0
      firmwareSpaceSize)

/-- The first of two boots raises the version from 1.0 to 1.1. -/
theorem firmware_version_sample_boots :
    firmwareVersion id (sampleTpm 0x10000) = 0x10000 ∧
    firmwareVersion id (run (normalBoot anyCrypto plainTlcl) (sampleTpm 0x10000)
      [sampleBoot, sampleBoot]) = 0x10001 ∧
    BootKeeps anyCrypto id sampleBoot (sampleTpm 0x10000)
      (run (normalBoot anyCrypto plainTlcl) (sampleTpm 0x10000) [sampleBoot]) :=
  ⟨by decide +kernel, by decide +kernel,
    (firmware_version_boots anyCrypto plainTlcl_faithful [sampleBoot, sampleBoot] (sampleTpm 0x10000)
      (by
        intro b hb
        have he : b = sampleBoot := by simpa using hb
        subst he
        decide +kernel)
      (by unfold Defined; decide +kernel)).2 [] sampleBoot [sampleBoot] rfl⟩

end Vboot
