import Vboot.Common.NvFields
import Vboot.Common.Rollback

/-! The backup of parameters of the non-volatile storage in the TPM,
firmware/lib/vboot_nvstorage_rollback.c. -/
namespace Vboot
open Vboot.Lib Vboot.Lib.Program

def backupParams : List VbNvParam :=
  [.kernelField, .localizationIndex, .devBootUsb, .devBootLegacy, .devBootSignedOnly,
   .devBootFastbootFullCap, .devDefaultBoot, .fastbootUnlockInFw]

/-- The loop of both functions, which copies the parameters of one context to another. -/
def copyParams (params : List VbNvParam) (source target : VbNvContext) : VbNvContext :=
  params.foldl (fun c param => vbNvSet c param (vbNvGet source param)) target

section
variable {T : Type} (tlcl : Tlcl T)

def rollbackBackupRead : TpmM T NvRaw := do
  let raw ← query (tlcl.read backupNvIndex backupNvSize)
  return Vector.ofFn fun i => raw i

def rollbackBackupWrite (raw : NvRaw) : TpmM T Unit := command (tlcl.write backupNvIndex raw.toList)

/-- The context with the parameters restored. All errors are 1 and leave it as it is. -/
def restoreNvFromBackup (vnc : VbNvContext) : TpmM T VbNvContext := do
  let raw ← tryCatch (rollbackBackupRead tlcl) fun _ => throw 1
  let bvnc := vbNvSetup raw
  if bvnc.regenerateCrc then throw 1 else return copyParams backupParams bvnc vnc

def saveNvToBackup (vnc : VbNvContext) : TpmM T VbNvContext := do
  let raw ← tryCatch (rollbackBackupRead tlcl) fun _ => throw 1
  let bvnc := vbNvTeardown (copyParams backupParams vnc (vbNvSetup raw))
  -- data that is already there is not written
  if bvnc.rawChanged = false then return vbNvSet vnc .backupNvramRequest 0
  else do
    tryCatch (rollbackBackupWrite tlcl bvnc.raw) fun _ => throw 1
    return vbNvSet vnc .backupNvramRequest 0

end

theorem VbNvContext.Loaded.copyParams {storage : NvRaw} {c : VbNvContext} (h : c.Loaded storage)
    (source : VbNvContext) (params : List VbNvParam) : (copyParams params source c).Loaded storage := by
  induction params generalizing c with
  | nil => exact h
  | cons p params ih => exact ih (h.set p _)

theorem keeps_get (c : VbNvContext) (p : VbNvParam) : p.keeps (vbNvGet c p) = vbNvGet c p := by
  rw [vbNvGet_field, ← nvField_norm, Lib.Field.norm_get (nvField_wellFormed p)]

variable {params : List VbNvParam}

theorem copyParams_other {q : VbNvParam} (h : ∀ p ∈ params, ¬ p.Shares q)
    (source target : VbNvContext) : vbNvGet (copyParams params source target) q = vbNvGet target q := by
  induction params generalizing target with
  | nil => rfl
  | cons p params ih =>
    have hp := vbNvGet_set_other target (h p List.mem_cons_self) (vbNvGet source p)
    exact (ih (fun r hr => h r (List.mem_cons_of_mem p hr)) _).trans hp

theorem copyParams_get (h : params.Pairwise fun p q => ¬ q.Shares p)
    (source target : VbNvContext) {p : VbNvParam} (hp : p ∈ params) :
    vbNvGet (copyParams params source target) p = vbNvGet source p := by
  induction params generalizing target with
  | nil => cases hp
  | cons q params ih =>
    obtain ⟨hq, hrest⟩ := List.pairwise_cons.mp h
    rcases List.mem_cons.mp hp with rfl | hp
    · calc vbNvGet (copyParams params source (vbNvSet target p (vbNvGet source p))) p
          = vbNvGet (vbNvSet target p (vbNvGet source p)) p := copyParams_other hq _ _
        _ = p.keeps (vbNvGet source p) := vbNvGet_set _ _ _
        _ = vbNvGet source p := keeps_get source p
    · exact ih hrest _ hp

theorem backupParams_pairwise : backupParams.Pairwise fun p q => ¬ q.Shares p := by decide

theorem backupParams_other {q : VbNvParam} (h : q ∉ backupParams) : ∀ p ∈ backupParams, ¬ p.Shares q := by
  revert q
  have hall : ∀ q ∈ nvParams, q ∉ backupParams → ∀ p ∈ backupParams, ¬ p.Shares q := by decide +kernel
  exact fun {q} h => hall q (mem_nvParams q) h

/-- The TPM keeps the backup: a read returns what is there, and a write replaces it. -/
structure KeepsBackup {T : Type} (tlcl : Tlcl T) (backup : T → List UInt8) : Prop where
  read : ∀ t, backup (tlcl.read backupNvIndex backupNvSize t).2.2 = backup t
  read_ok : ∀ t, (tlcl.read backupNvIndex backupNvSize t).1 = 0 →
    (tlcl.read backupNvIndex backupNvSize t).2.1.load 0 backupNvSize = backup t
  write_ok : ∀ data t, data.length = backupNvSize → (tlcl.write backupNvIndex data t).1 = 0 →
    backup (tlcl.write backupNvIndex data t).2 = data

section
variable {T : Type} {tlcl : Tlcl T} {backup : T → List UInt8}

section
variable (hb : KeepsBackup tlcl backup)
include hb

variable {t t' : T}

theorem rollbackBackupRead_ok {raw : NvRaw}
    (h : rollbackBackupRead tlcl t = (.ok raw, t')) : backup t = raw.toList ∧ backup t' = backup t := by
  obtain ⟨m, t₁, hread, hret⟩ := bind_ok.mp h
  obtain ⟨hzero, rfl, rfl⟩ := query_ok hread
  obtain ⟨rfl, rfl⟩ := pure_ok.mp hret
  refine ⟨?_, hb.read t⟩
  rw [← hb.read_ok t hzero, Vector.toList_ofFn]
  rfl

theorem rollbackBackupWrite_ok {raw : NvRaw} {u : Unit}
    (h : rollbackBackupWrite tlcl raw t = (.ok u, t')) : backup t' = raw.toList := by
  obtain ⟨hzero, rfl⟩ := command_ok h
  exact hb.write_ok _ t raw.length_toList hzero

theorem saveNvToBackup_ok {vnc vnc' : VbNvContext}
    (h : saveNvToBackup tlcl vnc t = (.ok vnc', t')) :
    ∃ raw : NvRaw, backup t' = raw.toList ∧
      ∀ p ∈ backupParams, vbNvGet (vbNvSetup raw) p = vbNvGet vnc p := by
  obtain ⟨old, t₁, hread, h₁⟩ := bind_ok.mp h
  obtain ⟨hold, ht₁⟩ := rollbackBackupRead_ok hb ((catch_ok fun _ _ _ _ => throw_ok).mp hread)
  have hloaded := (loaded_setup old).copyParams vnc backupParams
  have hsaved (p : VbNvParam) (hp : p ∈ backupParams) :
      vbNvGet (vbNvSetup ((copyParams backupParams vnc (vbNvSetup old)).saved old)) p = vbNvGet vnc p :=
    (hloaded.get_saved p).trans (copyParams_get backupParams_pairwise vnc _ hp)
  refine ⟨_, ?_, hsaved⟩
  rw [VbNvContext.saved]
  cases hchanged : (vbNvTeardown (copyParams backupParams vnc (vbNvSetup old))).rawChanged with
  | false =>
    rw [hchanged, if_pos rfl] at h₁
    obtain ⟨-, rfl⟩ := pure_ok.mp h₁
    rw [ht₁, hold]
    rfl
  | true =>
    rw [hchanged, if_neg Bool.true_eq_false.mp] at h₁
    obtain ⟨_, t₂, hwrite, h₂⟩ := bind_ok.mp h₁
    obtain ⟨-, rfl⟩ := pure_ok.mp h₂
    exact rollbackBackupWrite_ok hb ((catch_ok fun _ _ _ _ => throw_ok).mp hwrite)

end

/-- A saved backup restores its parameters into any context, and no others. -/
theorem nv_backup_restored (hb : KeepsBackup tlcl backup) {t t₁ t₂ t₃ : T} {vnc vnc' c c' : VbNvContext}
    (hsave : saveNvToBackup tlcl vnc t = (.ok vnc', t₁)) (hkept : backup t₂ = backup t₁)
    (hrestore : restoreNvFromBackup tlcl c t₂ = (.ok c', t₃)) :
    (∀ p ∈ backupParams, vbNvGet c' p = vbNvGet vnc p) ∧ ∀ q ∉ backupParams, vbNvGet c' q = vbNvGet c q := by
  obtain ⟨raw, hraw, hsaved⟩ := saveNvToBackup_ok hb hsave
  obtain ⟨raw', t₄, hread, h₁⟩ := bind_ok.mp hrestore
  obtain ⟨hraw', -⟩ := rollbackBackupRead_ok hb ((catch_ok fun _ _ _ _ => throw_ok).mp hread)
  have hsame : raw' = raw := Vector.toList_inj.mp (hraw'.symm.trans (hkept.trans hraw))
  subst hsame
  cases hbad : (vbNvSetup raw').regenerateCrc with
  | true =>
    rw [hbad, if_pos rfl] at h₁
    exact absurd h₁ throw_ok
  | false =>
    rw [hbad, if_neg Bool.false_ne_true] at h₁
    obtain ⟨rfl, -⟩ := pure_ok.mp h₁
    refine ⟨fun p hp => ?_, fun q hq => copyParams_other (backupParams_other hq) _ c⟩
    rw [copyParams_get backupParams_pairwise _ c hp, hsaved p hp]

end

/-- A TPM with nothing but the backup. -/
def backupTpm : Tlcl (List UInt8) where
  libInit t := (0, t)
  startup t := (0, t)
  resume t := (0, t)
  selfTestFull t := (0, t)
  assertPhysicalPresence t := (0, t)
  physicalPresenceCMDEnable t := (0, t)
  finalizePhysicalPresence t := (0, t)
  lockPhysicalPresence t := (0, t)
  setNvLocked t := (0, t)
  setGlobalLock t := (0, t)
  forceClear t := (0, t)
  setEnable t := (0, t)
  setDeactivated _ t := (0, t)
  getFlags t := (0, (0, 0), t)
  getPermanentFlags t := (0, ⟨true, true⟩, t)
  getPermissions _ t := (0, tpmNvPerPpWrite, t)
  defineSpace _ _ _ t := (0, t)
  read _ n t := (if t.length = n then 0 else tpmEBadIndex, Mem.ofList t, t)
  write _ data _ := (0, data)
  extend _ _ t := (0, t)

theorem backupTpm_keeps : KeepsBackup backupTpm id where
  read _ := rfl
  read_ok t h := by
    have hlen : t.length = backupNvSize := by
      by_contra hne
      have hcode : (if t.length = backupNvSize then (0 : UInt32) else tpmEBadIndex) = 0 := h
      rw [if_neg hne] at hcode
      exact absurd hcode (by decide)
    rw [← hlen]
    exact Mem.load_ofList t
  write_ok _ _ _ _ := rfl

/-- All bits are backed up and restored into an empty block. -/
theorem nv_backup_restored_sample : ∃ vnc' t₁ c' t₃,
    saveNvToBackup backupTpm ⟨Vector.replicate 16 0xff, false, false⟩ (List.replicate 16 0) = (.ok vnc', t₁) ∧
    restoreNvFromBackup backupTpm ⟨Vector.replicate 16 0, false, false⟩ t₁ = (.ok c', t₃) ∧
    vbNvGet c' .kernelField = 0xffffffff ∧ vbNvGet c' .recoveryRequest = 0 := by
  obtain ⟨vnc', t₁, hsave⟩ := ok_of_isOk (by decide +kernel :
    (saveNvToBackup backupTpm ⟨Vector.replicate 16 0xff, false, false⟩ (List.replicate 16 0)).1.isOk = true)
  have hvalid : (restoreNvFromBackup backupTpm ⟨Vector.replicate 16 0, false, false⟩
      (saveNvToBackup backupTpm ⟨Vector.replicate 16 0xff, false, false⟩ (List.replicate 16 0)).2).1.isOk = true := by
    decide +kernel
  rw [hsave] at hvalid
  obtain ⟨c', t₃, hrestore⟩ := ok_of_isOk hvalid
  obtain ⟨hparams, hothers⟩ := nv_backup_restored backupTpm_keeps hsave rfl hrestore
  refine ⟨vnc', t₁, c', t₃, hsave, hrestore, ?_, ?_⟩
  · rw [hparams .kernelField (by decide)]
    decide +kernel
  · rw [hothers .recoveryRequest (by decide)]
    decide +kernel

end Vboot
