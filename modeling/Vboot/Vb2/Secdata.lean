import Vboot.Lib.Check
import Vboot.Vb2.NvStorage
import Vboot.Vb2.Rsa

/-! Secure storage of the vboot2 library, firmware/2lib/2secdata.c and 2secdatak.c. -/
namespace Vboot.Vb2
open Vboot.Lib

def vb2SecdataVersion : UInt8 := 2

/- enum vb2_secdata_flags -/
def vb2SecdataFlagLastBootDeveloper : UInt32 := 0x1
def vb2SecdataFlagDevMode : UInt32 := 0x2

def vb2ErrorSecdataCrc : UInt32 := 0x10040001
def vb2ErrorSecdataZero : UInt32 := 0x10040002
def vb2ErrorSecdataSetFlags : UInt32 := 0x10040005
def vb2ErrorSecdataGetUninitialized : UInt32 := 0x10040006
def vb2ErrorSecdataSetUninitialized : UInt32 := 0x10040007

inductive Vb2SecdataParam where
  | flags | versions
  deriving DecidableEq, Repr

namespace Secdata

/- struct vb2_secdata -/
def structVersion (sec : Secdata) : UInt8 := sec[0]
def flags (sec : Secdata) : UInt8 := sec[1]
def fwVersions (sec : Secdata) : UInt32 := be32 sec[5] sec[4] sec[3] sec[2]
def crc8 (sec : Secdata) : UInt8 := sec[9]

def setFlags (sec : Secdata) (value : UInt8) : Secdata := sec.set 1 value

def setFwVersions (sec : Secdata) (value : UInt32) : Secdata :=
  (((sec.set 2 value.toUInt8).set 3 (value >>> 8).toUInt8).set 4 (value >>> 16).toUInt8).set 5
    (value >>> 24).toUInt8

/-- The checksum of the bytes before it. -/
def sum (sec : Secdata) : UInt8 := vb2Crc8 (sec.toList.take 9)

def regenCrc (sec : Secdata) : Secdata := sec.set 9 sec.sum

@[simp] theorem fwVersions_regenCrc (sec : Secdata) : sec.regenCrc.fwVersions = sec.fwVersions := by
  simp [fwVersions, regenCrc]

@[simp] theorem fwVersions_setFlags (sec : Secdata) (value : UInt8) :
    (sec.setFlags value).fwVersions = sec.fwVersions := by
  simp [fwVersions, setFlags]

@[simp] theorem fwVersions_setFwVersions (sec : Secdata) (value : UInt32) :
    (sec.setFwVersions value).fwVersions = value := by
  simpa [fwVersions, setFwVersions] using be32_bytes32 value

end Secdata

def vb2SecdataCheckCrc (ctx : Vb2Context) : Except UInt32 Unit := do
  reject (ctx.secdata.crc8 ≠ ctx.secdata.sum) vb2ErrorSecdataCrc
  reject (ctx.secdata.structVersion = 0) vb2ErrorSecdataZero

def vb2SecdataGet (ctx : Vb2Context) (param : Vb2SecdataParam) : Except UInt32 UInt32 := do
  reject (ctx.sd.status &&& vb2SdStatusSecdataInit = 0) vb2ErrorSecdataGetUninitialized
  match param with
  | .flags => pure ctx.secdata.flags.toUInt32
  | .versions => pure ctx.secdata.fwVersions

/-- The store of vb2_secdata_set, before the checksum is made anew. -/
def vb2SecdataPut (sec : Secdata) (value : UInt32) : Vb2SecdataParam → Except UInt32 Secdata
  | .flags => do
    reject (value > 0xff) vb2ErrorSecdataSetFlags
    pure (sec.setFlags value.toUInt8)
  | .versions => pure (sec.setFwVersions value)

/- A value that is there already is not stored. -/
def vb2SecdataSet (ctx : Vb2Context) (param : Vb2SecdataParam) (value : UInt32) :
    Except UInt32 Vb2Context := do
  reject (ctx.sd.status &&& vb2SdStatusSecdataInit = 0) vb2ErrorSecdataSetUninitialized
  if vb2SecdataGet ctx param = .ok value then pure ctx
  else
    let sec ← vb2SecdataPut ctx.secdata value param
    pure { ctx with secdata := sec.regenCrc, flags := ctx.flags ||| vb2ContextSecdataChanged }

/- The status is set before the version is read, so that the read cannot fail. -/
def vb2SecdataInit (ctx : Vb2Context) : Except UInt32 Vb2Context := do
  vb2SecdataCheckCrc ctx
  let ctx := ctx.addStatus vb2SdStatusSecdataInit
  let version ← vb2SecdataGet ctx .versions
  pure { ctx with sd := { ctx.sd with fwVersionSecdata := version } }

def vb2SecdatakUid : UInt32 := 0x4752574c

def vb2ErrorSecdatakCrc : UInt32 := 0x10040008
def vb2ErrorSecdatakUid : UInt32 := 0x1004000a
def vb2ErrorSecdatakGetUninitialized : UInt32 := 0x1004000e
def vb2ErrorSecdatakSetUninitialized : UInt32 := 0x1004000f

namespace Secdatak

/- struct vb2_secdatak, which is one byte shorter than the space -/
def uid (sec : Secdatak) : UInt32 := be32 sec[4] sec[3] sec[2] sec[1]
def kernelVersions (sec : Secdatak) : UInt32 := be32 sec[8] sec[7] sec[6] sec[5]
def crc8 (sec : Secdatak) : UInt8 := sec[12]

def setKernelVersions (sec : Secdatak) (value : UInt32) : Secdatak :=
  (((sec.set 5 value.toUInt8).set 6 (value >>> 8).toUInt8).set 7 (value >>> 16).toUInt8).set 8
    (value >>> 24).toUInt8

/-- The checksum of the bytes before it. -/
def sum (sec : Secdatak) : UInt8 := vb2Crc8 (sec.toList.take 12)

def regenCrc (sec : Secdatak) : Secdatak := sec.set 12 sec.sum

@[simp] theorem kernelVersions_regenCrc (sec : Secdatak) :
    sec.regenCrc.kernelVersions = sec.kernelVersions := by
  simp [kernelVersions, regenCrc]

@[simp] theorem kernelVersions_setKernelVersions (sec : Secdatak) (value : UInt32) :
    (sec.setKernelVersions value).kernelVersions = value := by
  simpa [kernelVersions, setKernelVersions] using be32_bytes32 value

end Secdatak

def vb2SecdatakCheckCrc (ctx : Vb2Context) : Except UInt32 Unit :=
  reject (ctx.secdatak.crc8 ≠ ctx.secdatak.sum) vb2ErrorSecdatakCrc

def vb2SecdatakInit (ctx : Vb2Context) : Except UInt32 Vb2Context := do
  vb2SecdatakCheckCrc ctx
  reject (ctx.secdatak.uid ≠ vb2SecdatakUid) vb2ErrorSecdatakUid
  pure (ctx.addStatus vb2SdStatusSecdatakInit)

/- The only parameter is the kernel version. -/
def vb2SecdatakGet (ctx : Vb2Context) : Except UInt32 UInt32 := do
  reject (ctx.sd.status &&& vb2SdStatusSecdatakInit = 0) vb2ErrorSecdatakGetUninitialized
  pure ctx.secdatak.kernelVersions

def vb2SecdatakSet (ctx : Vb2Context) (value : UInt32) : Except UInt32 Vb2Context := do
  reject (ctx.sd.status &&& vb2SdStatusSecdatakInit = 0) vb2ErrorSecdatakSetUninitialized
  if vb2SecdatakGet ctx = .ok value then pure ctx
  else pure { ctx with
    secdatak := (ctx.secdatak.setKernelVersions value).regenCrc
    flags := ctx.flags ||| vb2ContextSecdatakChanged }

/-- What a set does: nothing, if the value is there, or a store with a new checksum. -/
theorem vb2SecdataSet_ok {ctx ctx' : Vb2Context} {param : Vb2SecdataParam} {value : UInt32}
    (h : vb2SecdataSet ctx param value = .ok ctx') :
    ctx.sd.status &&& vb2SdStatusSecdataInit ≠ 0 ∧
    (vb2SecdataGet ctx param = .ok value ∧ ctx' = ctx ∨
      ∃ sec, vb2SecdataPut ctx.secdata value param = .ok sec ∧
        ctx' = { ctx with
          secdata := sec.regenCrc, flags := ctx.flags ||| vb2ContextSecdataChanged }) := by
  rw [vb2SecdataSet, reject_bind_eq_ok] at h
  refine ⟨h.1, ?_⟩
  have hset := h.2
  split_ifs at hset with hg
  · exact .inl ⟨hg, (Except.ok.inj hset).symm⟩
  · obtain ⟨sec, hput, hc⟩ := bind_eq_ok.mp hset
    exact .inr ⟨sec, hput, (Except.ok.inj hc).symm⟩

theorem vb2SecdataPut_flags {sec sec' : Secdata} {value : UInt32}
    (h : vb2SecdataPut sec value .flags = .ok sec') : value ≤ 0xff ∧ sec' = sec.setFlags value.toUInt8 := by
  rw [vb2SecdataPut, reject_bind_eq_ok] at h
  exact ⟨UInt32.not_lt.mp h.1, (Except.ok.inj h.2).symm⟩

theorem vb2SecdataInit_ok {ctx ctx' : Vb2Context} (h : vb2SecdataInit ctx = .ok ctx') :
    ctx' = { ctx with sd := { ctx.sd with
      status := ctx.sd.status ||| vb2SdStatusSecdataInit
      fwVersionSecdata := ctx.secdata.fwVersions } } := by
  obtain ⟨-, -, h'⟩ := bind_eq_ok.mp h
  obtain ⟨version, hget, hc⟩ := bind_eq_ok.mp h'
  rw [vb2SecdataGet, reject_bind_eq_ok] at hget
  have hv : version = ctx.secdata.fwVersions := (Except.ok.inj hget.2).symm
  rw [← Except.ok.inj hc, hv]
  rfl

end Vboot.Vb2
