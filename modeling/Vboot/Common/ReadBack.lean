import Vboot.Common.Writes

/-! The read-back after a write of a rollback space, over a TPM of which nothing is assumed: a write
may report success and store other bytes. -/
namespace Vboot
open Vboot.Lib Vboot.Lib.Program

section
variable {T : Type}

/-- A TPM and the contents that the last read returned. -/
structure Remembered (T : Type) where
  tpm : T
  last : Option Mem

def unremembered (op : T → UInt32 × T) (s : Remembered T) : UInt32 × Remembered T :=
  ((op s.tpm).1, { s with tpm := (op s.tpm).2 })

def unrememberedQuery {α : Type} (op : T → UInt32 × α × T) (s : Remembered T) :
    UInt32 × α × Remembered T :=
  ((op s.tpm).1, (op s.tpm).2.1, { s with tpm := (op s.tpm).2.2 })

def remembering (tlcl : Tlcl T) : Tlcl (Remembered T) where
  libInit := unremembered tlcl.libInit
  startup := unremembered tlcl.startup
  resume := unremembered tlcl.resume
  selfTestFull := unremembered tlcl.selfTestFull
  assertPhysicalPresence := unremembered tlcl.assertPhysicalPresence
  physicalPresenceCMDEnable := unremembered tlcl.physicalPresenceCMDEnable
  finalizePhysicalPresence := unremembered tlcl.finalizePhysicalPresence
  lockPhysicalPresence := unremembered tlcl.lockPhysicalPresence
  setNvLocked := unremembered tlcl.setNvLocked
  setGlobalLock := unremembered tlcl.setGlobalLock
  forceClear := unremembered tlcl.forceClear
  setEnable := unremembered tlcl.setEnable
  setDeactivated flag := unremembered (tlcl.setDeactivated flag)
  getFlags := unrememberedQuery tlcl.getFlags
  getPermanentFlags := unrememberedQuery tlcl.getPermanentFlags
  getPermissions index := unrememberedQuery (tlcl.getPermissions index)
  defineSpace index perm size := unremembered (tlcl.defineSpace index perm size)
  read index n s := ((tlcl.read index n s.tpm).1, (tlcl.read index n s.tpm).2.1,
    ⟨(tlcl.read index n s.tpm).2.2, some (tlcl.read index n s.tpm).2.1⟩)
  write index data := unremembered (tlcl.write index data)
  extend pcr digest := unremembered (tlcl.extend pcr digest)

theorem remembering_follows (tlcl : Tlcl T) : Follows Remembered.tpm (remembering tlcl) tlcl where
  forceClear _ := ⟨rfl, rfl⟩
  setEnable _ := ⟨rfl, rfl⟩
  setDeactivated _ _ := ⟨rfl, rfl⟩
  defineSpace _ _ _ _ := ⟨rfl, rfl⟩
  read _ _ _ := ⟨rfl, rfl⟩
  write _ _ _ := ⟨rfl, rfl⟩

inductive RollbackSpace where
  | firmware | kernel
  deriving DecidableEq, Repr

namespace RollbackSpace

def index : RollbackSpace → UInt32
  | firmware => firmwareNvIndex
  | kernel => kernelNvIndex

def size : RollbackSpace → Nat
  | firmware => firmwareSpaceSize
  | kernel => kernelSpaceSize

def write (tlcl : Tlcl T) : RollbackSpace → Mem → TpmM T Mem
  | firmware => writeSpaceFirmware tlcl
  | kernel => writeSpaceKernel tlcl

theorem write_eq (tlcl : Tlcl T) (space : RollbackSpace) (rs : Mem) :
    space.write tlcl rs = writeSpace tlcl space.index space.size rs := by
  cases space <;> rfl

def record (space : RollbackSpace) (rs : Mem) : List UInt8 := (sealSpace space.size rs).load 0 space.size

def ReadsBack (tlcl : Tlcl T) (space : RollbackSpace) (rs : Mem) : Prop :=
  ∀ t rs' t', space.write tlcl rs t = (.ok rs', t') →
    ∃ c, (space.write (remembering tlcl) rs ⟨t, none⟩).2.last = some c ∧
      c.load 0 space.size = space.record rs

/-- A read-back that is accepted right after the record was written holds the record. -/
def Detects (tlcl : Tlcl T) (space : RollbackSpace) (rs : Mem) : Prop :=
  ∀ t t₁ rs' t', safeWrite tlcl space.index (space.record rs) t = (.ok (), t₁) →
    readSpace tlcl space.index space.size 3 t₁ = (.ok rs', t') →
    ∃ c, (readSpace (remembering tlcl) space.index space.size 3 ⟨t₁, none⟩).2.last = some c ∧
      c.load 0 space.size = space.record rs

end RollbackSpace

open RollbackSpace

theorem writeSpace_of_attempt {tlcl : Tlcl T} {index : UInt32} {size : Nat} {rs rs' : Mem} {t t₁ t₂ : T}
    (hwrite : safeWrite tlcl index ((sealSpace size rs).load 0 size) t = (.ok (), t₁))
    (hread : readSpace tlcl index size 3 t₁ = (.ok rs', t₂)) :
    writeSpace tlcl index size rs t = (.ok (sealSpace size rs), t₂) := by
  have hback : (do let _ ← readSpace tlcl index size 3 : TpmM T Unit) t₁ = (.ok (), t₂) :=
    bind_ok.mpr ⟨rs', t₂, hread, rfl⟩
  exact bind_ok.mpr ⟨(), t₂, bind_ok.mpr ⟨(), t₁, hwrite, catch_of_ok hback⟩, rfl⟩

theorem remembers {α : Type} {x : TpmM (Remembered T) α} {y : TpmM T α} (h : Projects Remembered.tpm x y)
    {t t' : T} {r : Except UInt32 α} (hy : y t = (r, t')) (last : Option Mem) :
    ∃ last', x ⟨t, last⟩ = (r, ⟨t', last'⟩) := by
  obtain ⟨hr, ht⟩ := h ⟨t, last⟩
  rw [hy] at hr ht
  dsimp only at hr ht
  exact ⟨(x ⟨t, last⟩).2.last, Prod.ext hr (by rw [← ht])⟩

theorem readSpace_last {tlcl : Tlcl T} {index : UInt32} {size attempts : Nat} {s s' : Remembered T} {rs : Mem}
    (h : readSpace (remembering tlcl) index size attempts s = (.ok rs, s')) :
    readSpace (remembering tlcl) index size attempts ⟨s.tpm, none⟩ = (.ok rs, s') := by
  cases attempts with
  | zero => cases h
  | succ n =>
    obtain ⟨c, s₁, hquery, hrest⟩ := bind_ok.mp h
    exact bind_ok.mpr ⟨c, s₁, hquery, hrest⟩

end

/-- A TPM that reports success for every command, stores nothing and reads zeroes. -/
def forgetfulTpm : Tlcl Unit where
  libInit t := (0, t)
  startup t := (0, t)
  resume t := (0, t)
  selfTestFull t := (0, t)
  assertPhysicalPresence t := (0, t)
  physicalPresenceCMDEnable t := (0, t)
  finalizePhysicalPresence t := (0, t)
  lockPhysicalPresence t := (0, t)
  setNvLocked t := (0, t)
  setGlobalLock t := (0, t)
  forceClear t := (0, t)
  setEnable t := (0, t)
  setDeactivated _ t := (0, t)
  getFlags t := (0, (0, 0), t)
  getPermanentFlags t := (0, ⟨true, true⟩, t)
  getPermissions _ t := (0, tpmNvPerPpWrite, t)
  defineSpace _ _ _ t := (0, t)
  read _ _ t := (0, fun _ => 0, t)
  write _ _ t := (0, t)
  extend _ _ t := (0, t)

end Vboot
