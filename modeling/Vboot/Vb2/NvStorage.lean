import Vboot.Common.NvFields
import Vboot.Vb2.Context

/-! Non-volatile storage of the vboot2 library, firmware/2lib/2nvstorage.c with 2crc8.c, and its
agreement with the one of vboot1. -/
namespace Vboot.Vb2
open Vboot.Lib

def vb2Crc8 (data : List UInt8) : UInt8 := (data.foldl crc8Byte 0 >>> 8).toUInt8

inductive Vb2NvParam where
  | firmwareSettingsReset | kernelSettingsReset | debugResetMode | tryNext | tryCount
  | recoveryRequest | localizationIndex | kernelField
  | devBootUsb | devBootLegacy | devBootSignedOnly | devBootFastbootFullCap | devDefaultBoot
  | disableDevRequest | opromNeeded
  | clearTpmOwnerRequest | clearTpmOwnerDone | tpmRequestedReboot
  | recoverySubcode | backupNvramRequest
  | fwTried | fwResult | fwPrevTried | fwPrevResult | reqWipeout
  | fastbootUnlockInFw | bootOnAcDetect | tryRoSync
  deriving DecidableEq, Repr

/- enum vb2_nv_offset -/
def vb2NvOffsHeader : Fin 16 := 0
def vb2NvOffsBoot : Fin 16 := 1
def vb2NvOffsRecovery : Fin 16 := 2
def vb2NvOffsLocalization : Fin 16 := 3
def vb2NvOffsDev : Fin 16 := 4
def vb2NvOffsTpm : Fin 16 := 5
def vb2NvOffsRecoverySubcode : Fin 16 := 6
def vb2NvOffsBoot2 : Fin 16 := 7
def vb2NvOffsMisc : Fin 16 := 8
def vb2NvOffsKernel : Fin 16 := 11
def vb2NvOffsCrc : Fin 16 := 15

def vb2NvHeaderWipeout : UInt8 := 0x08
def vb2NvHeaderKernelSettingsReset : UInt8 := 0x10
def vb2NvHeaderFwSettingsReset : UInt8 := 0x20
def vb2NvHeaderSignature : UInt8 := 0x40
def vb2NvHeaderMask : UInt8 := 0xc0
def vb2NvBootTryCountMask : UInt8 := 0x0f
def vb2NvBootBackupNvram : UInt8 := 0x10
def vb2NvBootOpromNeeded : UInt8 := 0x20
def vb2NvBootDisableDev : UInt8 := 0x40
def vb2NvBootDebugReset : UInt8 := 0x80
def vb2NvBoot2ResultMask : UInt8 := 0x03
def vb2NvBoot2Tried : UInt8 := 0x04
def vb2NvBoot2TryNext : UInt8 := 0x08
def vb2NvBoot2PrevResultMask : UInt8 := 0x30
def vb2NvBoot2PrevTried : UInt8 := 0x40
def vb2NvDevFlagUsb : UInt8 := 0x01
def vb2NvDevFlagSignedOnly : UInt8 := 0x02
def vb2NvDevFlagLegacy : UInt8 := 0x04
def vb2NvDevFlagFastbootFullCap : UInt8 := 0x08
def vb2NvDevFlagDefaultBoot : UInt8 := 0x30
def vb2NvTpmClearOwnerRequest : UInt8 := 0x01
def vb2NvTpmClearOwnerDone : UInt8 := 0x02
def vb2NvTpmRebooted : UInt8 := 0x04
def vb2NvMiscUnlockFastboot : UInt8 := 0x01
def vb2NvMiscBootOnAcDetect : UInt8 := 0x02
def vb2NvMiscTryRoSync : UInt8 := 0x04

/- enum vb2_fw_result -/
def vb2FwResultUnknown : UInt32 := 0
def vb2FwResultTrying : UInt32 := 1
def vb2FwResultSuccess : UInt32 := 2
def vb2FwResultFailure : UInt32 := 3

def vb2RecoveryLegacy : UInt32 := 0x01

def vb2ErrorNvHeader : UInt32 := 0x10030001
def vb2ErrorNvCrc : UInt32 := 0x10030002

def vb2NvRegenCrc (ctx : Vb2Context) : Vb2Context :=
  { ctx with
    nvdata := ctx.nvdata.set vb2NvOffsCrc (vb2Crc8 (ctx.nvdata.toList.take 15))
    flags := ctx.flags ||| vb2ContextNvdataChanged }

def vb2NvCheckCrc (ctx : Vb2Context) : Except UInt32 Unit :=
  let p := ctx.nvdata
  if vb2NvHeaderSignature ≠ p[vb2NvOffsHeader] &&& vb2NvHeaderMask then .error vb2ErrorNvHeader
  else if vb2Crc8 (p.toList.take 15) ≠ p[vb2NvOffsCrc] then .error vb2ErrorNvCrc
  else .ok ()

def Vb2Context.addStatus (ctx : Vb2Context) (status : UInt32) : Vb2Context :=
  { ctx with sd := { ctx.sd with status := ctx.sd.status ||| status } }

/-- Inconsistent data is reset to the defaults. -/
def vb2NvInit (ctx : Vb2Context) : Vb2Context :=
  let ctx := match vb2NvCheckCrc ctx with
    | .ok () => ctx
    | .error _ => (vb2NvRegenCrc { ctx with
        nvdata := (Vector.replicate 16 0).set vb2NvOffsHeader
          (vb2NvHeaderSignature ||| vb2NvHeaderFwSettingsReset ||| vb2NvHeaderKernelSettingsReset)
        }).addStatus vb2SdStatusNvReinit
  ctx.addStatus vb2SdStatusNvInit

def getBit (p : NvRaw) (offs : Fin 16) (mask : UInt8) : UInt32 := if p[offs] &&& mask ≠ 0 then 1 else 0

def vb2NvGet (ctx : Vb2Context) (param : Vb2NvParam) : UInt32 :=
  let p := ctx.nvdata
  match param with
  | .firmwareSettingsReset => getBit p vb2NvOffsHeader vb2NvHeaderFwSettingsReset
  | .kernelSettingsReset => getBit p vb2NvOffsHeader vb2NvHeaderKernelSettingsReset
  | .debugResetMode => getBit p vb2NvOffsBoot vb2NvBootDebugReset
  | .tryNext => getBit p vb2NvOffsBoot2 vb2NvBoot2TryNext
  | .tryCount => (p[vb2NvOffsBoot] &&& vb2NvBootTryCountMask).toUInt32
  | .fwTried => getBit p vb2NvOffsBoot2 vb2NvBoot2Tried
  | .fwResult => (p[vb2NvOffsBoot2] &&& vb2NvBoot2ResultMask).toUInt32
  | .fwPrevTried => getBit p vb2NvOffsBoot2 vb2NvBoot2PrevTried
  | .fwPrevResult => ((p[vb2NvOffsBoot2] &&& vb2NvBoot2PrevResultMask) >>> 4).toUInt32
  | .recoveryRequest => p[vb2NvOffsRecovery].toUInt32
  | .recoverySubcode => p[vb2NvOffsRecoverySubcode].toUInt32
  | .localizationIndex => p[vb2NvOffsLocalization].toUInt32
  | .kernelField => p[vb2NvOffsKernel].toUInt32 ||| p[vb2NvOffsKernel + 1].toUInt32 <<< 8 |||
      p[vb2NvOffsKernel + 2].toUInt32 <<< 16 ||| p[vb2NvOffsKernel + 3].toUInt32 <<< 24
  | .devBootUsb => getBit p vb2NvOffsDev vb2NvDevFlagUsb
  | .devBootLegacy => getBit p vb2NvOffsDev vb2NvDevFlagLegacy
  | .devBootSignedOnly => getBit p vb2NvOffsDev vb2NvDevFlagSignedOnly
  | .devBootFastbootFullCap => getBit p vb2NvOffsDev vb2NvDevFlagFastbootFullCap
  | .devDefaultBoot => ((p[vb2NvOffsDev] &&& vb2NvDevFlagDefaultBoot) >>> 4).toUInt32
  | .disableDevRequest => getBit p vb2NvOffsBoot vb2NvBootDisableDev
  | .opromNeeded => getBit p vb2NvOffsBoot vb2NvBootOpromNeeded
  | .backupNvramRequest => getBit p vb2NvOffsBoot vb2NvBootBackupNvram
  | .clearTpmOwnerRequest => getBit p vb2NvOffsTpm vb2NvTpmClearOwnerRequest
  | .clearTpmOwnerDone => getBit p vb2NvOffsTpm vb2NvTpmClearOwnerDone
  | .tpmRequestedReboot => getBit p vb2NvOffsTpm vb2NvTpmRebooted
  | .reqWipeout => getBit p vb2NvOffsHeader vb2NvHeaderWipeout
  | .fastbootUnlockInFw => getBit p vb2NvOffsMisc vb2NvMiscUnlockFastboot
  | .bootOnAcDetect => getBit p vb2NvOffsMisc vb2NvMiscBootOnAcDetect
  | .tryRoSync => getBit p vb2NvOffsMisc vb2NvMiscTryRoSync

def setBit (p : NvRaw) (offs : Fin 16) (mask : UInt8) (value : UInt32) : NvRaw :=
  if value ≠ 0 then p.set offs (p[offs] ||| mask) else p.set offs (p[offs] &&& ~~~mask)

def setBits (p : NvRaw) (offs : Fin 16) (mask bits : UInt8) : NvRaw :=
  let p := p.set offs (p[offs] &&& ~~~mask)
  p.set offs (p[offs] ||| bits)

/-- The stores of vb2_nv_set, before the checksum is made anew. -/
def vb2NvPut (p : NvRaw) (value : UInt32) : Vb2NvParam → NvRaw
  | .firmwareSettingsReset => setBit p vb2NvOffsHeader vb2NvHeaderFwSettingsReset value
  | .kernelSettingsReset => setBit p vb2NvOffsHeader vb2NvHeaderKernelSettingsReset value
  | .debugResetMode => setBit p vb2NvOffsBoot vb2NvBootDebugReset value
  | .tryNext => setBit p vb2NvOffsBoot2 vb2NvBoot2TryNext value
  | .tryCount =>
    let value := if value > vb2NvBootTryCountMask.toUInt32 then vb2NvBootTryCountMask.toUInt32 else value
    setBits p vb2NvOffsBoot vb2NvBootTryCountMask value.toUInt8
  | .fwTried => setBit p vb2NvOffsBoot2 vb2NvBoot2Tried value
  | .fwResult =>
    let value := if value > vb2NvBoot2ResultMask.toUInt32 then vb2FwResultUnknown else value
    setBits p vb2NvOffsBoot2 vb2NvBoot2ResultMask value.toUInt8
  | .fwPrevTried => setBit p vb2NvOffsBoot2 vb2NvBoot2PrevTried value
  | .fwPrevResult =>
    let value := if value > vb2NvBoot2ResultMask.toUInt32 then vb2FwResultUnknown else value
    setBits p vb2NvOffsBoot2 vb2NvBoot2PrevResultMask (value <<< 4).toUInt8
  | .recoveryRequest =>
    let value := if value > 0xff then vb2RecoveryLegacy else value
    p.set vb2NvOffsRecovery value.toUInt8
  | .recoverySubcode => p.set vb2NvOffsRecoverySubcode value.toUInt8
  | .localizationIndex =>
    let value := if value > 0xFF then 0 else value
    p.set vb2NvOffsLocalization value.toUInt8
  | .kernelField =>
    (((p.set vb2NvOffsKernel value.toUInt8).set (vb2NvOffsKernel + 1) (value >>> 8).toUInt8).set
      (vb2NvOffsKernel + 2) (value >>> 16).toUInt8).set (vb2NvOffsKernel + 3) (value >>> 24).toUInt8
  | .devBootUsb => setBit p vb2NvOffsDev vb2NvDevFlagUsb value
  | .devBootLegacy => setBit p vb2NvOffsDev vb2NvDevFlagLegacy value
  | .devBootSignedOnly => setBit p vb2NvOffsDev vb2NvDevFlagSignedOnly value
  | .devBootFastbootFullCap => setBit p vb2NvOffsDev vb2NvDevFlagFastbootFullCap value
  | .devDefaultBoot =>
    let value := if value > (vb2NvDevFlagDefaultBoot >>> 4).toUInt32 then 0 else value
    setBits p vb2NvOffsDev vb2NvDevFlagDefaultBoot (value <<< 4).toUInt8
  | .disableDevRequest => setBit p vb2NvOffsBoot vb2NvBootDisableDev value
  | .opromNeeded => setBit p vb2NvOffsBoot vb2NvBootOpromNeeded value
  | .backupNvramRequest => setBit p vb2NvOffsBoot vb2NvBootBackupNvram value
  | .clearTpmOwnerRequest => setBit p vb2NvOffsTpm vb2NvTpmClearOwnerRequest value
  | .clearTpmOwnerDone => setBit p vb2NvOffsTpm vb2NvTpmClearOwnerDone value
  | .tpmRequestedReboot => setBit p vb2NvOffsTpm vb2NvTpmRebooted value
  | .reqWipeout => setBit p vb2NvOffsHeader vb2NvHeaderWipeout value
  | .fastbootUnlockInFw => setBit p vb2NvOffsMisc vb2NvMiscUnlockFastboot value
  | .bootOnAcDetect => setBit p vb2NvOffsMisc vb2NvMiscBootOnAcDetect value
  | .tryRoSync => setBit p vb2NvOffsMisc vb2NvMiscTryRoSync value

def vb2NvSet (ctx : Vb2Context) (param : Vb2NvParam) (value : UInt32) : Vb2Context :=
  if vb2NvGet ctx param = value then ctx
  else vb2NvRegenCrc { ctx with nvdata := vb2NvPut ctx.nvdata value param }

/-- The parameter of the same meaning; the two names of the count of tries are one here. -/
def vb2Param : VbNvParam → Vb2NvParam
  | .firmwareSettingsReset => .firmwareSettingsReset
  | .kernelSettingsReset => .kernelSettingsReset
  | .debugResetMode => .debugResetMode
  | .tryBCount | .fwTryCount => .tryCount
  | .recoveryRequest => .recoveryRequest
  | .localizationIndex => .localizationIndex
  | .kernelField => .kernelField
  | .devBootUsb => .devBootUsb
  | .devBootLegacy => .devBootLegacy
  | .devBootSignedOnly => .devBootSignedOnly
  | .devBootFastbootFullCap => .devBootFastbootFullCap
  | .devDefaultBoot => .devDefaultBoot
  | .disableDevRequest => .disableDevRequest
  | .opromNeeded => .opromNeeded
  | .clearTpmOwnerRequest => .clearTpmOwnerRequest
  | .clearTpmOwnerDone => .clearTpmOwnerDone
  | .tpmRequestedReboot => .tpmRequestedReboot
  | .recoverySubcode => .recoverySubcode
  | .backupNvramRequest => .backupNvramRequest
  | .fwTryNext => .tryNext
  | .fwTried => .fwTried
  | .fwResult => .fwResult
  | .fwPrevTried => .fwPrevTried
  | .fwPrevResult => .fwPrevResult
  | .fwReqWipeout => .reqWipeout
  | .fastbootUnlockInFw => .fastbootUnlockInFw
  | .bootOnAcDetect => .bootOnAcDetect
  | .tryRoSync => .tryRoSync

theorem vb2NvGet_field (ctx : Vb2Context) (p : VbNvParam) :
    vb2NvGet ctx (vb2Param p) = (nvField p).get ctx.nvdata := by
  cases p with
  | tryBCount | fwTryCount | recoveryRequest | recoverySubcode | localizationIndex | fwResult =>
    simp only [vb2Param, vb2NvGet, nvField, Field.get, and_full, UInt8.shiftRight_zero]
    rfl
  | _ => rfl

theorem setBit_flag (p : NvRaw) (offs : Fin 16) (mask : UInt8) (value : UInt32) :
    setBit p offs mask value = (Field.flag offs mask).put p value := by
  simp only [setBit, Field.put]
  split_ifs <;> rfl

theorem setBits_eq (p : NvRaw) (offs : Fin 16) (mask bits : UInt8) :
    setBits p offs mask bits = p.set offs ((p[offs] &&& ~~~mask) ||| bits) := by
  simp [setBits]

variable (raw : NvRaw)

theorem vb2NvPut_field (value : UInt32) (p : VbNvParam) :
    vb2NvPut raw value (vb2Param p) = (nvField p).put raw value := by
  cases p with
  | tryBCount | fwTryCount | fwResult =>
    simp only [vb2Param, vb2NvPut, nvField, Field.put, UInt8.shiftLeft_zero, setBits_eq]
    rfl
  | fwPrevResult | devDefaultBoot =>
    simp only [vb2Param, vb2NvPut, nvField, Field.put, setBits_eq,
      UInt32.toUInt8_shiftLeft _ 4 (by decide)]
    rfl
  | recoveryRequest | localizationIndex =>
    simp only [vb2Param, vb2NvPut, nvField, Field.put, UInt8.shiftLeft_zero, replace_full]
    rfl
  | recoverySubcode =>
    simp only [vb2Param, vb2NvPut, nvField, Field.put, UInt8.shiftLeft_zero, replace_full,
      capped_of_le (le_full value)]
    rfl
  | kernelField => rfl
  | _ => exact setBit_flag raw _ _ value

theorem crc_lt : 15 < 16 := by decide

/-- The block with its checksum. -/
def sealed : NvRaw := raw.set 15 (crc8 (raw.toList.take 15)) crc_lt

theorem getElem_sealed {x : Fin 16} (hx : x ≠ 15) : (sealed raw)[x] = raw[x] :=
  (Field.getElem_set_fin raw 15 x _).trans (if_neg hx)

theorem sealed_congr {a b : NvRaw} (h : ∀ x : Fin 16, x ≠ 15 → a[x] = b[x]) :
    sealed a = sealed b := by
  have htake : a.toList.take 15 = b.toList.take 15 := by
    apply List.ext_getElem (by simp)
    intro i h1 h2
    have hi : i < 15 := by simpa using h1
    simpa using h ⟨i, by omega⟩ (by simp [Fin.ext_iff]; omega)
  apply Vector.ext
  intro i hi
  by_cases h15 : i = 15
  · subst h15
    simp [sealed, htake]
  · have hx : (⟨i, hi⟩ : Fin 16) ≠ 15 := fun he => h15 (congrArg Fin.val he)
    exact (getElem_sealed a hx).trans ((h _ hx).trans (getElem_sealed b hx).symm)

theorem sealed_put (f : Field 16) (raw : NvRaw) (value : UInt32) :
    sealed (f.put (sealed raw) value) = sealed (f.put raw value) :=
  sealed_congr fun _ hx => f.getElem_put_congr (getElem_sealed raw hx) value

theorem nvField_mask_crc (p : VbNvParam) : (nvField p).mask 15 = 0 := by
  cases p <;> rfl

theorem get_sealed (p : VbNvParam) (raw : NvRaw) :
    (nvField p).get (sealed raw) = (nvField p).get raw := by
  apply Field.get_congr
  intro x
  by_cases hx : x = 15
  · rw [hx, nvField_mask_crc, UInt8.and_zero, UInt8.and_zero]
  · rw [getElem_sealed raw hx]

theorem sealed_of_signed {raw : NvRaw} (h : raw.signed) : sealed raw = raw := by
  rw [sealed, h.2]
  exact Vector.set_getElem_self _

/-- The contexts of the two libraries after the same calls: vboot2 keeps the checksum up to
date, vboot1 brings it up to date at the teardown. -/
structure Agree (c : VbNvContext) (ctx : Vb2Context) : Prop where
  block : ctx.nvdata = sealed c.raw
  fresh : c.regenerateCrc = false → sealed c.raw = c.raw

theorem vb2NvCheckCrc_ok_iff (ctx : Vb2Context) : vb2NvCheckCrc ctx = .ok () ↔ ctx.nvdata.signed := by
  unfold vb2NvCheckCrc NvRaw.signed
  by_cases hh : vb2NvHeaderSignature = ctx.nvdata[vb2NvOffsHeader] &&& vb2NvHeaderMask
  · by_cases hc : vb2Crc8 (ctx.nvdata.toList.take 15) = ctx.nvdata[vb2NvOffsCrc]
    · simp only [ne_eq, hh, hc, not_true_eq_false, if_false]
      exact ⟨fun _ => ⟨hh.symm, hc⟩, fun _ => trivial⟩
    · simp only [ne_eq, hh, hc, not_true_eq_false, not_false_eq_true, if_false, if_true]
      exact ⟨fun h => (by cases h), fun h => absurd h.2 hc⟩
  · simp only [ne_eq, hh, not_false_eq_true, if_true]
    exact ⟨fun h => (by cases h), fun h => absurd h.1.symm hh⟩

theorem agree_init (ctx : Vb2Context) : Agree (vbNvSetup ctx.nvdata) (vb2NvInit ctx) := by
  by_cases h : ctx.nvdata.signed
  · have hok := (vb2NvCheckCrc_ok_iff ctx).mpr h
    rw [vbNvSetup, if_pos h]
    have hs := sealed_of_signed h
    constructor
    · simp only [vb2NvInit, hok]
      exact hs.symm
    · exact fun _ => hs
  · rw [vbNvSetup, if_neg h]
    constructor
    · cases hcrc : vb2NvCheckCrc ctx with
      | ok u => exact absurd ((vb2NvCheckCrc_ok_iff ctx).mp hcrc) h
      | error e =>
        simp only [vb2NvInit, hcrc]
        rfl
    · exact fun hr => by cases hr

variable {c : VbNvContext} {ctx : Vb2Context} {q : Vb2NvParam}

theorem Agree.get (h : Agree c ctx) (p : VbNvParam) : vb2NvGet ctx (vb2Param p) = vbNvGet c p := by
  rw [vb2NvGet_field, h.block, get_sealed, vbNvGet_field]

theorem Agree.set (h : Agree c ctx) (p : VbNvParam) (value : UInt32) :
    Agree (vbNvSet c p value) (vb2NvSet ctx (vb2Param p) value) := by
  unfold vbNvSet vb2NvSet
  rw [h.get p]
  split_ifs
  · exact h
  · constructor
    · change sealed (vb2NvPut ctx.nvdata value (vb2Param p)) = sealed (nvPut c.raw value p)
      rw [vb2NvPut_field, nvPut_field, h.block, sealed_put]
    · exact fun hr => by cases hr

theorem Agree.raw_teardown (h : Agree c ctx) : (vbNvTeardown c).raw = ctx.nvdata := by
  unfold vbNvTeardown
  cases hr : c.regenerateCrc with
  | false => exact (h.fresh hr).symm.trans h.block.symm
  | true => exact h.block.symm

def vb2NvSets (ctx : Vb2Context) (ops : List (Vb2NvParam × UInt32)) : Vb2Context :=
  ops.foldl (fun ctx op => vb2NvSet ctx op.1 op.2) ctx

theorem Agree.sets (h : Agree c ctx) (ops : List (VbNvParam × UInt32)) :
    Agree (vbNvSets c ops) (vb2NvSets ctx (ops.map fun op => (vb2Param op.1, op.2))) := by
  induction ops generalizing c ctx with
  | nil => exact h
  | cons op ops ih => exact ih (h.set op.1 op.2)

/-- The two libraries are interchangeable on the block. -/
theorem nv_libraries_agree (ctx : Vb2Context) (ops : List (VbNvParam × UInt32)) :
    let c1 := vbNvSets (vbNvSetup ctx.nvdata) ops
    let c2 := vb2NvSets (vb2NvInit ctx) (ops.map fun op => (vb2Param op.1, op.2))
    (vbNvTeardown c1).raw = c2.nvdata ∧
    (∀ p, vbNvGet c1 p = vb2NvGet c2 (vb2Param p)) ∧
    ∀ p, vbNvGet (vbNvTeardown c1) p = vb2NvGet c2 (vb2Param p) := by
  intro c1 c2
  have h : Agree c1 c2 := (agree_init ctx).sets ops
  refine ⟨h.raw_teardown, fun p => (h.get p).symm, fun p => ?_⟩
  rw [vbNvGet_field, h.raw_teardown, vb2NvGet_field]

/-- The parameter of vboot1 with the same meaning. -/
def vbParam : Vb2NvParam → VbNvParam
  | .firmwareSettingsReset => .firmwareSettingsReset
  | .kernelSettingsReset => .kernelSettingsReset
  | .debugResetMode => .debugResetMode
  | .tryNext => .fwTryNext
  | .tryCount => .fwTryCount
  | .recoveryRequest => .recoveryRequest
  | .localizationIndex => .localizationIndex
  | .kernelField => .kernelField
  | .devBootUsb => .devBootUsb
  | .devBootLegacy => .devBootLegacy
  | .devBootSignedOnly => .devBootSignedOnly
  | .devBootFastbootFullCap => .devBootFastbootFullCap
  | .devDefaultBoot => .devDefaultBoot
  | .disableDevRequest => .disableDevRequest
  | .opromNeeded => .opromNeeded
  | .clearTpmOwnerRequest => .clearTpmOwnerRequest
  | .clearTpmOwnerDone => .clearTpmOwnerDone
  | .tpmRequestedReboot => .tpmRequestedReboot
  | .recoverySubcode => .recoverySubcode
  | .backupNvramRequest => .backupNvramRequest
  | .fwTried => .fwTried
  | .fwResult => .fwResult
  | .fwPrevTried => .fwPrevTried
  | .fwPrevResult => .fwPrevResult
  | .reqWipeout => .fwReqWipeout
  | .fastbootUnlockInFw => .fastbootUnlockInFw
  | .bootOnAcDetect => .bootOnAcDetect
  | .tryRoSync => .tryRoSync

theorem vb2Param_vbParam (p : Vb2NvParam) : vb2Param (vbParam p) = p := by cases p <;> rfl

theorem vbParam_apart {p : Vb2NvParam} (h : p ≠ q) : ¬ (vbParam p).Shares (vbParam q) := by
  rintro (hs | ⟨hp, -⟩ | ⟨-, hq⟩)
  · exact h (by rw [← vb2Param_vbParam p, hs, vb2Param_vbParam])
  · cases p <;> cases hp
  · cases q <;> cases hq

def vb2Field (p : Vb2NvParam) : Field 16 := nvField (vbParam p)

theorem vb2NvGet_eq (ctx : Vb2Context) (p : Vb2NvParam) : vb2NvGet ctx p = (vb2Field p).get ctx.nvdata := by
  rw [vb2Field, ← vb2NvGet_field, vb2Param_vbParam]

theorem vb2NvPut_eq (value : UInt32) (p : Vb2NvParam) :
    vb2NvPut raw value p = (vb2Field p).put raw value := by
  rw [vb2Field, ← vb2NvPut_field, vb2Param_vbParam]

theorem vb2NvRegenCrc_get (ctx : Vb2Context) (p : Vb2NvParam) :
    vb2NvGet (vb2NvRegenCrc ctx) p = vb2NvGet ctx p := by
  rw [vb2NvGet_eq, vb2NvGet_eq]
  exact get_sealed (vbParam p) ctx.nvdata

theorem vb2NvGet_set (ctx : Vb2Context) (p : Vb2NvParam) (value : UInt32) :
    vb2NvGet (vb2NvSet ctx p value) p = (vbParam p).keeps value := by
  unfold vb2NvSet
  split_ifs with h
  · rw [← h, vb2NvGet_eq, ← nvField_norm]
    exact (Field.norm_get (nvField_wellFormed (vbParam p)) ctx.nvdata).symm
  · rw [vb2NvRegenCrc_get, vb2NvGet_eq]
    dsimp only
    rw [vb2NvPut_eq, vb2Field, Field.get_put (nvField_wellFormed (vbParam p)), nvField_norm]

theorem vb2NvGet_set_other (ctx : Vb2Context) {p : Vb2NvParam} (h : p ≠ q) (value : UInt32) :
    vb2NvGet (vb2NvSet ctx p value) q = vb2NvGet ctx q := by
  unfold vb2NvSet
  split_ifs
  · rfl
  · rw [vb2NvRegenCrc_get, vb2NvGet_eq, vb2NvGet_eq]
    dsimp only
    rw [vb2NvPut_eq]
    exact (nvField_apart (vbParam_apart h)).get_put (nvField_wellFormed (vbParam p)) ctx.nvdata value

theorem vb2NvGet_sets_other (ctx : Vb2Context) {ops : List (Vb2NvParam × UInt32)}
    (h : ∀ op ∈ ops, op.1 ≠ q) : vb2NvGet (vb2NvSets ctx ops) q = vb2NvGet ctx q := by
  induction ops generalizing ctx with
  | nil => rfl
  | cons op ops ih =>
    have hrest := ih (vb2NvSet ctx op.1 op.2) fun o ho => h o (List.mem_cons_of_mem op ho)
    exact hrest.trans (vb2NvGet_set_other ctx (h op List.mem_cons_self) op.2)

/-- A set changes the block and the flag that says so. -/
structure NvOnly (a b : Vb2Context) : Prop where
  flags : b.flags = a.flags ∨ b.flags = a.flags ||| vb2ContextNvdataChanged
  rest : b = { a with flags := b.flags, nvdata := b.nvdata }

theorem NvOnly.refl (a : Vb2Context) : NvOnly a a := ⟨.inl rfl, rfl⟩

theorem NvOnly.trans {a b c : Vb2Context} (h : NvOnly a b) (h' : NvOnly b c) : NvOnly a c := by
  constructor
  · have hor : (a.flags ||| vb2ContextNvdataChanged) ||| vb2ContextNvdataChanged =
        a.flags ||| vb2ContextNvdataChanged := by
      rw [UInt32.or_assoc, UInt32.or_self]
    rcases h.flags with h1 | h1 <;> rcases h'.flags with h2 | h2 <;> rw [h2, h1]
    · exact .inl rfl
    · exact .inr rfl
    · exact .inr rfl
    · exact .inr hor
  · rw [h'.rest, h.rest]

theorem vb2NvSet_only (ctx : Vb2Context) (p : Vb2NvParam) (value : UInt32) :
    NvOnly ctx (vb2NvSet ctx p value) := by
  unfold vb2NvSet
  split_ifs
  · exact .refl ctx
  · exact ⟨.inr rfl, rfl⟩

theorem vb2NvSets_only (ctx : Vb2Context) (ops : List (Vb2NvParam × UInt32)) :
    NvOnly ctx (vb2NvSets ctx ops) := by
  induction ops generalizing ctx with
  | nil => exact .refl ctx
  | cons op ops ih => exact (vb2NvSet_only ctx op.1 op.2).trans (ih _)

theorem sealed_signed {raw : NvRaw} (h : raw[vb2NvOffsHeader] &&& headerMask = headerSignature) :
    (sealed raw).signed := by
  refine ⟨?_, ?_⟩
  · rw [← h]
    exact congrArg (· &&& headerMask) (getElem_sealed raw (x := 0) (by decide))
  · simp [sealed, Vector.toList_set, List.take_set_of_le]

theorem vb2NvInit_signed (ctx : Vb2Context) : (vb2NvInit ctx).nvdata.signed := by
  cases hcrc : vb2NvCheckCrc ctx with
  | ok u =>
    simp only [vb2NvInit, hcrc]
    exact (vb2NvCheckCrc_ok_iff ctx).mp hcrc
  | error e =>
    simp only [vb2NvInit, hcrc]
    exact sealed_signed (by dsimp only; decide)

theorem vb2NvSet_signed (h : ctx.nvdata.signed) (p : Vb2NvParam) (value : UInt32) :
    (vb2NvSet ctx p value).nvdata.signed := by
  unfold vb2NvSet
  split_ifs
  · exact h
  · refine sealed_signed ?_
    rw [vb2NvPut_eq, vb2Field, ← nvPut_field]
    exact (nvPut_header ..).trans h.1

theorem vb2NvSets_signed (h : ctx.nvdata.signed) (ops : List (Vb2NvParam × UInt32)) :
    (vb2NvSets ctx ops).nvdata.signed := by
  induction ops generalizing ctx with
  | nil => exact h
  | cons op ops ih => exact ih (vb2NvSet_signed h op.1 op.2)

theorem vb2NvInit_of_signed (h : ctx.nvdata.signed) : (vb2NvInit ctx).nvdata = ctx.nvdata := by
  simp only [vb2NvInit, (vb2NvCheckCrc_ok_iff ctx).mpr h]
  rfl

theorem vb2NvGet_congr {a b : Vb2Context} (h : a.nvdata = b.nvdata) (p : Vb2NvParam) :
    vb2NvGet a p = vb2NvGet b p := by
  rw [vb2NvGet_eq, vb2NvGet_eq, h]

theorem vb2NvGet_vb2NvSet (ctx : Vb2Context) (p q : Vb2NvParam) (value : UInt32) :
    vb2NvGet (vb2NvSet ctx p value) q = if p = q then (vbParam p).keeps value else vb2NvGet ctx q := by
  split_ifs with h
  · rw [← h, vb2NvGet_set]
  · exact vb2NvGet_set_other ctx h value

/-- A boot: its context, with vboot2, and what it sets. -/
abbrev NvBoot := Option Vb2Context × List (VbNvParam × UInt32)

/-- The block that a boot leaves. -/
def nvBoot (b : NvBoot) : NvRaw :=
  match b.1 with
  | none => (vbNvSets (vbNvSetup raw) b.2).saved raw
  | some ctx => (vb2NvSets (vb2NvInit { ctx with nvdata := raw })
      (b.2.map fun op => (vb2Param op.1, op.2))).nvdata

/-- Whichever library handles each boot, a parameter has the value of its last set. -/
theorem nv_over_boots (boots : List NvBoot) (p : VbNvParam) :
    vbNvGet (vbNvSetup (boots.foldl nvBoot raw)) p =
      (boots.flatMap Prod.snd).foldl p.after (vbNvGet (vbNvSetup raw) p) := by
  induction boots generalizing raw with
  | nil => rfl
  | cons b boots ih =>
    have hc := (loaded_setup raw).sets b.2
    have hboot : nvBoot raw b = (vbNvSets (vbNvSetup raw) b.2).saved raw := by
      unfold nvBoot
      cases b.1 with
      | none => rfl
      | some ctx =>
        rw [← hc.raw_teardown]
        exact ((agree_init { ctx with nvdata := raw }).sets b.2).raw_teardown.symm
    rw [List.foldl_cons, ih, hboot, hc.get_saved, vbNvGet_sets, List.flatMap_cons, List.foldl_append]

end Vboot.Vb2
