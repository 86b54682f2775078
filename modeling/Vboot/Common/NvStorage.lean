import Vboot.Lib.BitField

/-! Non-volatile storage, firmware/lib/vboot_nvstorage.c, with the checksum of
firmware/lib/crc8.c. -/
namespace Vboot

def crc8Bit (crc : UInt32) : UInt32 :=
  (if crc &&& 0x8000 ≠ 0 then crc ^^^ ((0x1070 : UInt32) <<< 3) else crc) <<< 1

def crc8Byte (crc : UInt32) (b : UInt8) : UInt32 := crc8Bit^[8] (crc ^^^ (b.toUInt32 <<< 8))

def crc8 (data : List UInt8) : UInt8 := (data.foldl crc8Byte 0 >>> 8).toUInt8

inductive VbNvParam where
  | firmwareSettingsReset | kernelSettingsReset | debugResetMode
  | tryBCount | fwTryCount | recoveryRequest | localizationIndex | kernelField
  | devBootUsb | devBootLegacy | devBootSignedOnly | devBootFastbootFullCap | devDefaultBoot
  | disableDevRequest | opromNeeded
  | clearTpmOwnerRequest | clearTpmOwnerDone | tpmRequestedReboot
  | recoverySubcode | backupNvramRequest
  | fwTryNext | fwTried | fwResult | fwPrevTried | fwPrevResult | fwReqWipeout
  | fastbootUnlockInFw | bootOnAcDetect | tryRoSync
  deriving DecidableEq, Repr

abbrev NvRaw := Vector UInt8 16

instance NvRaw.neZero : NeZero 16 := ⟨by decide⟩

structure VbNvContext where
  raw : NvRaw
  rawChanged : Bool
  regenerateCrc : Bool

def headerMask : UInt8 := 0xC0
def headerSignature : UInt8 := 0x40
def headerFirmwareSettingsReset : UInt8 := 0x20
def headerKernelSettingsReset : UInt8 := 0x10
def headerWipeout : UInt8 := 0x08
def bootDebugResetMode : UInt8 := 0x80
def bootDisableDevRequest : UInt8 := 0x40
def bootOpromNeeded : UInt8 := 0x20
def bootBackupNvram : UInt8 := 0x10
def bootTryBCountMask : UInt8 := 0x0F
def devBootUsbMask : UInt8 := 0x01
def devBootSignedOnlyMask : UInt8 := 0x02
def devBootLegacyMask : UInt8 := 0x04
def devBootFastbootFullCapMask : UInt8 := 0x08
def devDefaultBootMask : UInt8 := 0x30
def tpmClearOwnerRequest : UInt8 := 0x01
def tpmClearOwnerDone : UInt8 := 0x02
def tpmRebooted : UInt8 := 0x04
def boot2ResultMask : UInt8 := 0x03
def boot2Tried : UInt8 := 0x04
def boot2TryNext : UInt8 := 0x08
def boot2PrevResultMask : UInt8 := 0x30
def boot2PrevTried : UInt8 := 0x40
def miscUnlockFastboot : UInt8 := 0x01
def miscBootOnAcDetect : UInt8 := 0x02
def miscTryRoSync : UInt8 := 0x04

/- Recovery reason codes. -/
def recoveryNotRequested : UInt32 := 0x00
def recoveryLegacy : UInt32 := 0x01
def recoveryRoInvalidRw : UInt32 := 0x03
def recoveryRoInvalidRwCheckMin : UInt8 := 0x10
def recoveryRoInvalidRwCheckMax : UInt8 := 0x1F
def recoveryRoUnspecified : UInt32 := 0x3F
def recoveryRoTpmWError : UInt32 := 0x51
def recoveryRoTpmLError : UInt32 := 0x52
def recoveryRoTpmUError : UInt32 := 0x53

def NvRaw.signed (raw : NvRaw) : Prop :=
  raw[0] &&& headerMask = headerSignature ∧ crc8 (raw.toList.take 15) = raw[15]

instance (raw : NvRaw) : Decidable raw.signed := inferInstanceAs (Decidable (_ ∧ _))

/-- Take over valid data; reset anything else to the defaults. -/
def vbNvSetup (raw : NvRaw) : VbNvContext :=
  if raw.signed then ⟨raw, false, false⟩
  else ⟨(Vector.replicate 16 0).set 0
    (headerSignature ||| headerFirmwareSettingsReset ||| headerKernelSettingsReset), false, true⟩

def vbNvTeardown (c : VbNvContext) : VbNvContext :=
  if c.regenerateCrc then
    { raw := c.raw.set 15 (crc8 (c.raw.toList.take 15)), rawChanged := true, regenerateCrc := false }
  else c

def flag (b mask : UInt8) : UInt32 := if b &&& mask ≠ 0 then 1 else 0

def vbNvGet (c : VbNvContext) : VbNvParam → UInt32
  | .firmwareSettingsReset => flag c.raw[0] headerFirmwareSettingsReset
  | .kernelSettingsReset => flag c.raw[0] headerKernelSettingsReset
  | .debugResetMode => flag c.raw[1] bootDebugResetMode
  | .tryBCount | .fwTryCount => (c.raw[1] &&& bootTryBCountMask).toUInt32
  | .recoveryRequest => c.raw[2].toUInt32
  | .recoverySubcode => c.raw[6].toUInt32
  | .localizationIndex => c.raw[3].toUInt32
  | .kernelField => c.raw[11].toUInt32 ||| c.raw[12].toUInt32 <<< 8 |||
      c.raw[13].toUInt32 <<< 16 ||| c.raw[14].toUInt32 <<< 24
  | .devBootUsb => flag c.raw[4] devBootUsbMask
  | .devBootLegacy => flag c.raw[4] devBootLegacyMask
  | .devDefaultBoot => ((c.raw[4] &&& devDefaultBootMask) >>> 4).toUInt32
  | .devBootSignedOnly => flag c.raw[4] devBootSignedOnlyMask
  | .devBootFastbootFullCap => flag c.raw[4] devBootFastbootFullCapMask
  | .disableDevRequest => flag c.raw[1] bootDisableDevRequest
  | .opromNeeded => flag c.raw[1] bootOpromNeeded
  | .clearTpmOwnerRequest => flag c.raw[5] tpmClearOwnerRequest
  | .clearTpmOwnerDone => flag c.raw[5] tpmClearOwnerDone
  | .tpmRequestedReboot => flag c.raw[5] tpmRebooted
  | .backupNvramRequest => flag c.raw[1] bootBackupNvram
  | .fwTryNext => flag c.raw[7] boot2TryNext
  | .fwTried => flag c.raw[7] boot2Tried
  | .fwResult => (c.raw[7] &&& boot2ResultMask).toUInt32
  | .fwPrevTried => flag c.raw[7] boot2PrevTried
  | .fwPrevResult => ((c.raw[7] &&& boot2PrevResultMask) >>> 4).toUInt32
  | .fwReqWipeout => flag c.raw[0] headerWipeout
  | .fastbootUnlockInFw => flag c.raw[8] miscUnlockFastboot
  | .bootOnAcDetect => flag c.raw[8] miscBootOnAcDetect
  | .tryRoSync => flag c.raw[8] miscTryRoSync

def putFlag (b mask : UInt8) (value : UInt32) : UInt8 :=
  if value ≠ 0 then b ||| mask else b &&& ~~~mask

def putBits (b mask value : UInt8) : UInt8 := (b &&& ~~~mask) ||| value

/-- Values above max are replaced by the given one. -/
def clip (value max other : UInt32) : UInt32 := if value > max then other else value

/-- The stores of VbNvSet, before the checksum is marked as stale. -/
def nvPut (raw : NvRaw) (value : UInt32) : VbNvParam → NvRaw
  | .firmwareSettingsReset => raw.set 0 (putFlag raw[0] headerFirmwareSettingsReset value)
  | .kernelSettingsReset => raw.set 0 (putFlag raw[0] headerKernelSettingsReset value)
  | .debugResetMode => raw.set 1 (putFlag raw[1] bootDebugResetMode value)
  | .tryBCount | .fwTryCount =>
    raw.set 1 (putBits raw[1] bootTryBCountMask (clip value 0x0F 0x0F).toUInt8)
  | .recoveryRequest => raw.set 2 (clip value 0xFF recoveryLegacy).toUInt8
  | .recoverySubcode => raw.set 6 value.toUInt8
  | .localizationIndex => raw.set 3 (clip value 0xFF 0).toUInt8
  | .kernelField =>
    (((raw.set 11 value.toUInt8).set 12 (value >>> 8).toUInt8).set 13 (value >>> 16).toUInt8).set 14
      (value >>> 24).toUInt8
  | .devBootUsb => raw.set 4 (putFlag raw[4] devBootUsbMask value)
  | .devBootLegacy => raw.set 4 (putFlag raw[4] devBootLegacyMask value)
  | .devDefaultBoot => raw.set 4 (putBits raw[4] devDefaultBootMask ((clip value 3 0).toUInt8 <<< 4))
  | .devBootSignedOnly => raw.set 4 (putFlag raw[4] devBootSignedOnlyMask value)
  | .devBootFastbootFullCap => raw.set 4 (putFlag raw[4] devBootFastbootFullCapMask value)
  | .disableDevRequest => raw.set 1 (putFlag raw[1] bootDisableDevRequest value)
  | .opromNeeded => raw.set 1 (putFlag raw[1] bootOpromNeeded value)
  | .clearTpmOwnerRequest => raw.set 5 (putFlag raw[5] tpmClearOwnerRequest value)
  | .clearTpmOwnerDone => raw.set 5 (putFlag raw[5] tpmClearOwnerDone value)
  | .tpmRequestedReboot => raw.set 5 (putFlag raw[5] tpmRebooted value)
  | .backupNvramRequest => raw.set 1 (putFlag raw[1] bootBackupNvram value)
  | .fwTryNext => raw.set 7 (putFlag raw[7] boot2TryNext value)
  | .fwTried => raw.set 7 (putFlag raw[7] boot2Tried value)
  | .fwResult => raw.set 7 (putBits raw[7] boot2ResultMask (clip value 3 0).toUInt8)
  | .fwPrevTried => raw.set 7 (putFlag raw[7] boot2PrevTried value)
  | .fwPrevResult => raw.set 7 (putBits raw[7] boot2PrevResultMask ((clip value 3 0).toUInt8 <<< 4))
  | .fwReqWipeout => raw.set 0 (putFlag raw[0] headerWipeout value)
  | .fastbootUnlockInFw => raw.set 8 (putFlag raw[8] miscUnlockFastboot value)
  | .bootOnAcDetect => raw.set 8 (putFlag raw[8] miscBootOnAcDetect value)
  | .tryRoSync => raw.set 8 (putFlag raw[8] miscTryRoSync value)

/- A value that is already there leaves the context alone. -/
def vbNvSet (c : VbNvContext) (param : VbNvParam) (value : UInt32) : VbNvContext :=
  if vbNvGet c param = value then c
  else { c with raw := nvPut c.raw value param, regenerateCrc := true }

theorem get_set_recovery (c : VbNvContext) (v : UInt32) (h : v.toNat ≤ 255) :
    vbNvGet (vbNvSet c .recoveryRequest v) .recoveryRequest = v := by
  unfold vbNvSet
  split_ifs with hc
  · exact hc
  · have hv : ¬ v > 0xFF := by
      rw [gt_iff_lt, UInt32.lt_iff_toNat_lt]
      simpa using h
    simp only [vbNvGet, nvPut, clip, hv, if_false, Vector.getElem_set_self]
    apply UInt32.toNat_inj.mp
    simp
    omega

/-- What the caller finds in the storage after the teardown: the raw data if it
changed, the old contents otherwise. -/
def VbNvContext.saved (c : VbNvContext) (storage : NvRaw) : NvRaw :=
  if (vbNvTeardown c).rawChanged then (vbNvTeardown c).raw else storage

theorem putFlag_and {mask m : UInt8} (h : mask &&& m = 0) (b : UInt8) (value : UInt32) :
    putFlag b mask value &&& m = b &&& m := by
  unfold putFlag
  split_ifs
  · exact Lib.or_and_of_disjoint h
  · exact Lib.clear_and_of_disjoint h

theorem nvPut_header (raw : NvRaw) (value : UInt32) (param : VbNvParam) :
    (nvPut raw value param)[0] &&& headerMask = raw[0] &&& headerMask := by
  cases param with
  | firmwareSettingsReset | kernelSettingsReset | fwReqWipeout =>
    simp only [nvPut, Vector.getElem_set_self]
    exact putFlag_and (by decide) raw[0] value
  | _ => simp [nvPut]

/-- The context was set up from the storage: the header is signed, and as long as the
checksum is not stale the raw data is the valid data that was read. -/
structure VbNvContext.Loaded (storage : NvRaw) (c : VbNvContext) : Prop where
  unchanged : c.rawChanged = false
  header : c.raw[0] &&& headerMask = headerSignature
  same : c.regenerateCrc = false → c.raw = storage ∧ storage.signed

theorem loaded_setup (storage : NvRaw) : (vbNvSetup storage).Loaded storage := by
  unfold vbNvSetup
  split_ifs with h
  · exact ⟨rfl, h.1, fun _ => ⟨rfl, h⟩⟩
  · exact ⟨rfl, by simp; decide, fun h => by cases h⟩

variable {storage : NvRaw} {c : VbNvContext}

theorem VbNvContext.Loaded.set (h : c.Loaded storage)
    (param : VbNvParam) (value : UInt32) : (vbNvSet c param value).Loaded storage := by
  unfold vbNvSet
  split_ifs
  · exact h
  · exact ⟨h.unchanged, (nvPut_header c.raw value param).trans h.header, fun hr => by cases hr⟩

theorem VbNvContext.Loaded.saved_signed
    (h : c.Loaded storage) : (c.saved storage).signed := by
  unfold VbNvContext.saved vbNvTeardown
  cases hr : c.regenerateCrc with
  | false => simpa [h.unchanged] using (h.same hr).2
  | true =>
    have hhead : (c.raw.set 15 (crc8 (c.raw.toList.take 15)))[0] = c.raw[0] := by simp
    simp only [if_true]
    refine ⟨by rw [hhead]; exact h.header, ?_⟩
    simp [Vector.toList_set, List.take_set_of_le]

theorem VbNvContext.Loaded.get_saved (h : c.Loaded storage)
    (param : VbNvParam) : vbNvGet (vbNvSetup (c.saved storage)) param = vbNvGet c param := by
  rw [vbNvSetup, if_pos h.saved_signed]
  unfold VbNvContext.saved vbNvTeardown
  cases hr : c.regenerateCrc with
  | false =>
    rw [if_neg Bool.false_ne_true, h.unchanged, if_neg Bool.false_ne_true, ← (h.same hr).1]
    cases param <;> rfl
  | true =>
    simp only [if_true]
    cases param <;> simp [vbNvGet]

end Vboot
