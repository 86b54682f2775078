import Vboot.Common.NvStorage

/-! The parameters of the non-volatile storage as fields of the block. -/
namespace Vboot

def nvParams : List VbNvParam :=
  [.firmwareSettingsReset, .kernelSettingsReset, .debugResetMode, .tryBCount, .fwTryCount,
   .recoveryRequest, .localizationIndex, .kernelField, .devBootUsb, .devBootLegacy,
   .devBootSignedOnly, .devBootFastbootFullCap, .devDefaultBoot, .disableDevRequest, .opromNeeded,
   .clearTpmOwnerRequest, .clearTpmOwnerDone, .tpmRequestedReboot, .recoverySubcode,
   .backupNvramRequest, .fwTryNext, .fwTried, .fwResult, .fwPrevTried, .fwPrevResult,
   .fwReqWipeout, .fastbootUnlockInFw, .bootOnAcDetect, .tryRoSync]
variable (c : VbNvContext) (p : VbNvParam) (value : UInt32)

theorem mem_nvParams : p ∈ nvParams := by
  cases p <;> decide

/-- Where a parameter is stored, and the values it takes. -/
def nvField : VbNvParam → Lib.Field 16
  | .firmwareSettingsReset => .flag 0 headerFirmwareSettingsReset
  | .kernelSettingsReset => .flag 0 headerKernelSettingsReset
  | .debugResetMode => .flag 1 bootDebugResetMode
  | .tryBCount | .fwTryCount => .bits 1 bootTryBCountMask 0 0x0F 0x0F
  | .recoveryRequest => .bits 2 0xFF 0 0xFF recoveryLegacy
  | .recoverySubcode => .bits 6 0xFF 0 0xFFFFFFFF 0
  | .localizationIndex => .bits 3 0xFF 0 0xFF 0
  | .kernelField => .word 11 12 13 14
  | .devBootUsb => .flag 4 devBootUsbMask
  | .devBootLegacy => .flag 4 devBootLegacyMask
  | .devDefaultBoot => .bits 4 devDefaultBootMask 4 3 0
  | .devBootSignedOnly => .flag 4 devBootSignedOnlyMask
  | .devBootFastbootFullCap => .flag 4 devBootFastbootFullCapMask
  | .disableDevRequest => .flag 1 bootDisableDevRequest
  | .opromNeeded => .flag 1 bootOpromNeeded
  | .clearTpmOwnerRequest => .flag 5 tpmClearOwnerRequest
  | .clearTpmOwnerDone => .flag 5 tpmClearOwnerDone
  | .tpmRequestedReboot => .flag 5 tpmRebooted
  | .backupNvramRequest => .flag 1 bootBackupNvram
  | .fwTryNext => .flag 7 boot2TryNext
  | .fwTried => .flag 7 boot2Tried
  | .fwResult => .bits 7 boot2ResultMask 0 3 0
  | .fwPrevTried => .flag 7 boot2PrevTried
  | .fwPrevResult => .bits 7 boot2PrevResultMask 4 3 0
  | .fwReqWipeout => .flag 0 headerWipeout
  | .fastbootUnlockInFw => .flag 8 miscUnlockFastboot
  | .bootOnAcDetect => .flag 8 miscBootOnAcDetect
  | .tryRoSync => .flag 8 miscTryRoSync

theorem nvField_wellFormed : (nvField p).WellFormed := by
  have h : ∀ p ∈ nvParams, (nvField p).WellFormed := by decide +kernel
  exact h p (mem_nvParams p)

/-- The count of tries has two names. -/
def VbNvParam.Shares (p q : VbNvParam) : Prop :=
  p = q ∨ (p = .tryBCount ∧ q = .fwTryCount) ∨ (p = .fwTryCount ∧ q = .tryBCount)

instance (p q : VbNvParam) : Decidable (p.Shares q) := inferInstanceAs (Decidable (_ ∨ _))

theorem nvField_apart {p q : VbNvParam} (h : ¬ p.Shares q) : (nvField p).Apart (nvField q) := by
  have ha : ∀ p ∈ nvParams, ∀ q ∈ nvParams, ¬ p.Shares q → (nvField p).Apart (nvField q) := by
    decide +kernel
  exact ha p (mem_nvParams p) q (mem_nvParams q) h

theorem vbNvGet_field : vbNvGet c p = (nvField p).get c.raw := by
  cases p with
  | tryBCount | fwTryCount | recoveryRequest | recoverySubcode | localizationIndex | fwResult =>
    simp [vbNvGet, nvField, Lib.Field.get, Lib.and_full]
  | _ => rfl

theorem le_full : value ≤ 0xFFFFFFFF :=
  UInt32.le_iff_toNat_le.mpr (Nat.le_of_lt_succ value.toNat_lt)

theorem nvPut_field (raw : NvRaw) (value : UInt32) (p : VbNvParam) :
    nvPut raw value p = (nvField p).put raw value := by
  cases p with
  | tryBCount | fwTryCount | fwResult =>
    simp only [nvPut, nvField, Lib.Field.put, UInt8.shiftLeft_zero]
    rfl
  | recoveryRequest | localizationIndex =>
    simp only [nvPut, nvField, Lib.Field.put, UInt8.shiftLeft_zero, Lib.replace_full]
    rfl
  | recoverySubcode =>
    simp only [nvPut, nvField, Lib.Field.put, UInt8.shiftLeft_zero, Lib.replace_full,
      Lib.capped_of_le (le_full value)]
    rfl
  | _ => rfl

/-- What a parameter keeps of a value: flags are normalised, numbers out of range are
clipped or mapped, and the subcode is cut to its byte. -/
def VbNvParam.keeps (value : UInt32) : VbNvParam → UInt32
  | .tryBCount | .fwTryCount => clip value 15 15
  | .recoveryRequest => clip value 255 recoveryLegacy
  | .localizationIndex => clip value 255 0
  | .devDefaultBoot | .fwResult | .fwPrevResult => clip value 3 0
  | .recoverySubcode => value % 256
  | .kernelField => value
  | _ => if value ≠ 0 then 1 else 0

theorem nvField_norm (p : VbNvParam) : (nvField p).norm value = p.keeps value := by
  cases p with
  | recoverySubcode =>
    simp only [nvField, Lib.Field.norm, Lib.capped_of_le (le_full value)]
    apply UInt32.toNat_inj.mp
    simp [VbNvParam.keeps]
  | tryBCount | fwTryCount | recoveryRequest | localizationIndex | devDefaultBoot | fwResult
  | fwPrevResult => exact Lib.capped_toUInt8 (by decide) (by decide)
  | _ => rfl

theorem vbNvGet_set : vbNvGet (vbNvSet c p value) p = p.keeps value := by
  unfold vbNvSet
  split_ifs with h
  · rw [← h, vbNvGet_field, ← nvField_norm, Lib.Field.norm_get (nvField_wellFormed p)]
  · rw [vbNvGet_field, nvPut_field, Lib.Field.get_put (nvField_wellFormed p), nvField_norm]

theorem vbNvGet_set_other {p q : VbNvParam} (h : ¬ p.Shares q) (value : UInt32) :
    vbNvGet (vbNvSet c p value) q = vbNvGet c q := by
  unfold vbNvSet
  split_ifs
  · rfl
  · rw [vbNvGet_field, nvPut_field, (nvField_apart h).get_put (nvField_wellFormed p),
      vbNvGet_field]

def vbNvSets (c : VbNvContext) (ops : List (VbNvParam × UInt32)) : VbNvContext :=
  ops.foldl (fun c op => vbNvSet c op.1 op.2) c

theorem VbNvContext.Loaded.sets {storage : NvRaw} {c : VbNvContext} (h : c.Loaded storage)
    (ops : List (VbNvParam × UInt32)) : (vbNvSets c ops).Loaded storage := by
  induction ops generalizing c with
  | nil => exact h
  | cons op ops ih => exact ih (h.set op.1 op.2)

theorem VbNvContext.Loaded.raw_teardown {storage : NvRaw} {c : VbNvContext}
    (h : c.Loaded storage) : (vbNvTeardown c).raw = c.saved storage := by
  unfold VbNvContext.saved vbNvTeardown
  cases hr : c.regenerateCrc with
  | false => simp [h.unchanged, (h.same hr).1]
  | true => simp

/-- Parameters are independent variables that survive until the next boot. -/
theorem vbNv_parameters (storage : NvRaw) (ops : List (VbNvParam × UInt32)) :
    let c := vbNvSets (vbNvSetup storage) ops
    (∀ p value, vbNvGet (vbNvSet c p value) p = p.keeps value) ∧
    (∀ p q value, ¬ p.Shares q → vbNvGet (vbNvSet c p value) q = vbNvGet c q) ∧
    vbNvSetup (vbNvTeardown c).raw = ⟨(vbNvTeardown c).raw, false, false⟩ ∧
    (∀ p, vbNvGet (vbNvSetup (vbNvTeardown c).raw) p = vbNvGet c p) ∧
    ((vbNvTeardown c).raw ≠ storage → (vbNvTeardown c).rawChanged = true) := by
  intro c
  have hc : c.Loaded storage := (loaded_setup storage).sets ops
  rw [hc.raw_teardown]
  refine ⟨vbNvGet_set c, fun p q value h => vbNvGet_set_other c h value,
    if_pos hc.saved_signed, hc.get_saved, fun h => ?_⟩
  by_contra hch
  exact h (if_neg hch)

/-- The value of a parameter after a set. -/
def VbNvParam.after (p : VbNvParam) (old : UInt32) (op : VbNvParam × UInt32) : UInt32 :=
  if op.1.Shares p then op.1.keeps op.2 else old

theorem vbNvGet_sets (ops : List (VbNvParam × UInt32)) :
    vbNvGet (vbNvSets c ops) p = ops.foldl p.after (vbNvGet c p) := by
  induction ops generalizing c with
  | nil => rfl
  | cons op ops ih =>
    have hset : vbNvGet (vbNvSet c op.1 op.2) p = p.after (vbNvGet c p) op := by
      rw [VbNvParam.after]
      split_ifs with h
      · rw [← vbNvGet_set c]
        -- the counters of tries are one field
        rcases h with h | ⟨h, rfl⟩ | ⟨h, rfl⟩ <;> simp [h, vbNvGet]
      · exact vbNvGet_set_other c h op.2
    rw [List.foldl_cons, ← hset]
    exact ih _

end Vboot
