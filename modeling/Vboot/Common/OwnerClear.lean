import Vboot.Common.Writes
import Vboot.Lib.Run

/-! The flag for a developer boot in the firmware space and the owner of the TPM. SetupTPM runs over a
TPM whose commands are logged; nothing is assumed about what the spaces hold. -/
namespace Vboot
open Vboot.Lib Vboot.Lib.Program

section
variable {T : Type}

/-- The commands of SetupTPM do what they should or fail without an effect. A space that has just been
defined may hold anything. -/
structure SetupFaithful (tlcl : Tlcl T) (nv : Contents T) : Prop where
  libInit : Quiet nv tlcl.libInit
  startup : Quiet nv tlcl.startup
  selfTestFull : Quiet nv tlcl.selfTestFull
  assertPhysicalPresence : Quiet nv tlcl.assertPhysicalPresence
  physicalPresenceCMDEnable : Quiet nv tlcl.physicalPresenceCMDEnable
  finalizePhysicalPresence : Quiet nv tlcl.finalizePhysicalPresence
  setNvLocked : Quiet nv tlcl.setNvLocked
  forceClear : Quiet nv tlcl.forceClear
  setEnable : Quiet nv tlcl.setEnable
  setDeactivated : ∀ flag, Quiet nv (tlcl.setDeactivated flag)
  getFlags : QuietQuery nv tlcl.getFlags
  getPermanentFlags : QuietQuery nv tlcl.getPermanentFlags
  read : ∀ index n, QuietQuery nv (tlcl.read index n)
  read_ok : ∀ index n t, (tlcl.read index n t).1 = 0 →
    (tlcl.read index n t).2.1.load 0 n = (nv t index).take n
  define_ok : ∀ index perm size t, (tlcl.defineSpace index perm size t).1 = 0 →
    ∀ i, i ≠ index → nv (tlcl.defineSpace index perm size t).2 i = nv t i
  define_error : ∀ index perm size t, (tlcl.defineSpace index perm size t).1 ≠ 0 →
    nv (tlcl.defineSpace index perm size t).2 = nv t
  write_ok : ∀ index data t, (tlcl.write index data t).1 = 0 →
    nv (tlcl.write index data t).2 =
      Function.update (nv t) index (data ++ (nv t index).drop data.length)
  write_error : ∀ index data t, (tlcl.write index data t).1 ≠ 0 →
    nv (tlcl.write index data t).2 = nv t

/-- A command that was given, and whether it was a clear of the owner that succeeded. -/
structure TpmStep (T : Type) where
  before : T
  after : T
  cleared : Bool

/-- A TPM and the commands so far. -/
structure Logged (T : Type) where
  tpm : T
  steps : List (TpmStep T)

def logged (clears : Bool) (op : T → UInt32 × T) (s : Logged T) : UInt32 × Logged T :=
  ((op s.tpm).1, ⟨(op s.tpm).2, s.steps ++ [⟨s.tpm, (op s.tpm).2, clears && (op s.tpm).1 == 0⟩]⟩)

def loggedQuery {α : Type} (op : T → UInt32 × α × T) (s : Logged T) : UInt32 × α × Logged T :=
  ((op s.tpm).1, (op s.tpm).2.1, ⟨(op s.tpm).2.2, s.steps ++ [⟨s.tpm, (op s.tpm).2.2, false⟩]⟩)

def logging (tlcl : Tlcl T) : Tlcl (Logged T) where
  libInit := logged false tlcl.libInit
  startup := logged false tlcl.startup
  resume := logged false tlcl.resume
  selfTestFull := logged false tlcl.selfTestFull
  assertPhysicalPresence := logged false tlcl.assertPhysicalPresence
  physicalPresenceCMDEnable := logged false tlcl.physicalPresenceCMDEnable
  finalizePhysicalPresence := logged false tlcl.finalizePhysicalPresence
  lockPhysicalPresence := logged false tlcl.lockPhysicalPresence
  setNvLocked := logged false tlcl.setNvLocked
  setGlobalLock := logged false tlcl.setGlobalLock
  forceClear := logged true tlcl.forceClear
  setEnable := logged false tlcl.setEnable
  setDeactivated flag := logged false (tlcl.setDeactivated flag)
  getFlags := loggedQuery tlcl.getFlags
  getPermanentFlags := loggedQuery tlcl.getPermanentFlags
  getPermissions index := loggedQuery (tlcl.getPermissions index)
  defineSpace index perm size := logged false (tlcl.defineSpace index perm size)
  read index n := loggedQuery (tlcl.read index n)
  write index data := logged false (tlcl.write index data)
  extend pcr digest := logged false (tlcl.extend pcr digest)

def loggedContents (nv : Contents T) : Contents (Logged T) := fun s => nv s.tpm

theorem logging_faithful {tlcl : Tlcl T} {nv : Contents T} (F : SetupFaithful tlcl nv) :
    SetupFaithful (logging tlcl) (loggedContents nv) where
  libInit s := F.libInit s.tpm
  startup s := F.startup s.tpm
  selfTestFull s := F.selfTestFull s.tpm
  assertPhysicalPresence s := F.assertPhysicalPresence s.tpm
  physicalPresenceCMDEnable s := F.physicalPresenceCMDEnable s.tpm
  finalizePhysicalPresence s := F.finalizePhysicalPresence s.tpm
  setNvLocked s := F.setNvLocked s.tpm
  forceClear s := F.forceClear s.tpm
  setEnable s := F.setEnable s.tpm
  setDeactivated flag s := F.setDeactivated flag s.tpm
  getFlags s := F.getFlags s.tpm
  getPermanentFlags s := F.getPermanentFlags s.tpm
  read index n s := F.read index n s.tpm
  read_ok index n s := F.read_ok index n s.tpm
  define_ok index perm size s := F.define_ok index perm size s.tpm
  define_error index perm size s := F.define_error index perm size s.tpm
  write_ok index data s := F.write_ok index data s.tpm
  write_error index data s := F.write_error index data s.tpm

section
variable (tlcl : Tlcl T)

theorem projects_command (clears : Bool) (op : T → UInt32 × T) :
    Projects Logged.tpm (command (logged clears op)) (command op) := fun _ => ⟨rfl, rfl⟩

theorem projects_query {α : Type} (op : T → UInt32 × α × T) :
    Projects Logged.tpm (query (loggedQuery op)) (query op) := fun _ => ⟨rfl, rfl⟩

theorem logging_follows : Follows Logged.tpm (logging tlcl) tlcl where
  forceClear := projects_command _ _
  setEnable := projects_command _ _
  setDeactivated _ := projects_command _ _
  defineSpace _ _ _ := projects_command _ _
  read _ _ := projects_query _
  write _ _ := projects_command _ _

theorem projects_oneTimeInitializeTPM :
    Projects Logged.tpm (oneTimeInitializeTPM (logging tlcl)) (oneTimeInitializeTPM tlcl) := by
  have h := logging_follows tlcl
  refine (projects_command _ _).bind fun _ => (projects_query _).bind fun pflags => ?_
  refine (projects_command _ _).doIf.bind fun _ => (projects_command _ _).doIf.bind fun _ => ?_
  refine h.clear.bind fun _ => (h.retryCleared (h.defineSpace _ _ _)).bind fun _ => ?_
  refine (h.retryCleared (h.defineSpace _ _ _)).bind fun _ => (h.writeSpace _ _ _).bind fun _ => ?_
  exact (h.retryCleared (h.defineSpace _ _ _)).bind fun _ => h.writeSpace _ _ _

variable (dev disable clear : Bool)

theorem projects_updateFlags (rsf : Mem) :
    Projects Logged.tpm (updateFlags (logging tlcl) dev disable clear rsf)
      (updateFlags tlcl dev disable clear rsf) :=
  (logging_follows tlcl).clear.doIf.bind fun _ =>
    ((logging_follows tlcl).writeSpace _ _ _).ite (projects_pure _)

theorem projects_setupTPM :
    Projects Logged.tpm (setupTPM (logging tlcl) dev disable clear) (setupTPM tlcl dev disable clear) := by
  refine (projects_command _ _).bind fun _ => (projects_command _ _).bind fun _ => ?_
  refine ((projects_command _ _).catch fun _ =>
    (projects_command _ _).bind fun _ => projects_command _ _).bind fun _ => ?_
  refine (projects_query _).bind fun flags => ?_
  refine ((projects_command _ _).bind fun _ => (projects_command _ _).bind fun _ =>
    projects_throw _).ite ?_
  refine (((logging_follows tlcl).readSpace _ _ 3).catch fun _ =>
    (projects_oneTimeInitializeTPM tlcl).ite (projects_throw _)).bind fun rsf => ?_
  exact projects_updateFlags tlcl dev disable clear rsf

end

/-- The flags in the firmware space, if it holds any. -/
def storedFlags (nv : Contents T) (t : T) : Option UInt8 := (nv t firmwareNvIndex)[1]?

def developerFlag (flags : UInt8) : Bool := flags &&& flagLastBootDeveloper != 0

def lastBootDeveloper (nv : Contents T) (t : T) : Option Bool := (storedFlags nv t).map developerFlag

/-- The command changed the flag for the last boot. -/
def TpmStep.Changes (nv : Contents T) (e : TpmStep T) : Prop :=
  lastBootDeveloper nv e.after ≠ lastBootDeveloper nv e.before

/-- In these commands the flag only changes after the owner was cleared. -/
def ClearedFirst (nv : Contents T) (es : List (TpmStep T)) : Prop :=
  Preceded (fun e => e.cleared = true) (TpmStep.Changes nv) es

/-- Between two states the flag only changes after the owner was cleared. -/
def Ordered (nv : Contents T) (s s' : Logged T) : Prop :=
  ∃ es, s'.steps = s.steps ++ es ∧ ClearedFirst nv es

def OwnerCleared (s s' : Logged T) : Prop :=
  ∃ es, s'.steps = s.steps ++ es ∧ ∃ e ∈ es, e.cleared = true

/-- From a state with the flag b, the flag stays. -/
def Steady (nv : Contents T) (b : Bool) (s s' : Logged T) : Prop :=
  lastBootDeveloper nv s.tpm = some b → lastBootDeveloper nv s'.tpm = some b ∧ Ordered nv s s'

/-- The commands lead from one state of the TPM to another. -/
def Path : List (TpmStep T) → T → T → Prop
  | [], t, t' => t' = t
  | e :: es, t, t' => e.before = t ∧ Path es e.after t'

/-- The log of one state continues that of the other, with the commands that lead there. -/
def Continues (s s' : Logged T) : Prop := ∃ es, s'.steps = s.steps ++ es ∧ Path es s.tpm s'.tpm

section
variable {nv : Contents T} {s s' s'' : Logged T}

theorem Path.append {es es' : List (TpmStep T)} {t t' t'' : T} (h : Path es t t') (h' : Path es' t' t'') :
    Path (es ++ es') t t'' := by
  induction es generalizing t with
  | nil =>
    obtain rfl : t' = t := h
    exact h'
  | cons e es ih => exact ⟨h.1, ih h.2⟩

theorem Path.changes {es : List (TpmStep T)} {t t' : T} (h : Path es t t')
    (hne : lastBootDeveloper nv t' ≠ lastBootDeveloper nv t) :
    ∃ u e v, es = u ++ e :: v ∧ e.Changes nv := by
  induction es generalizing t with
  | nil =>
    obtain rfl : t' = t := h
    exact absurd rfl hne
  | cons e es ih =>
    obtain ⟨rfl, hrest⟩ := h
    by_cases he : lastBootDeveloper nv e.after = lastBootDeveloper nv e.before
    · obtain ⟨u, d, v, hd, hchange⟩ := ih hrest fun hr => hne (hr.trans he)
      exact ⟨e :: u, d, v, congrArg (e :: ·) hd, hchange⟩
    · exact ⟨[], e, es, rfl, he⟩

instance : @Std.Refl (Logged T) Continues := ⟨fun s => ⟨[], (List.append_nil s.steps).symm, rfl⟩⟩

theorem Continues.trans (h : Continues s s') (h' : Continues s' s'') : Continues s s'' := by
  obtain ⟨es, he, hp⟩ := h
  obtain ⟨es', he', hp'⟩ := h'
  exact ⟨es ++ es', by rw [he', he, List.append_assoc], hp.append hp'⟩

instance : IsTrans (Logged T) Continues := ⟨fun _ _ _ => Continues.trans⟩

instance : Std.Refl (Ordered nv) :=
  ⟨fun s => ⟨[], (List.append_nil s.steps).symm, preceded_of_forall fun _ h => by cases h⟩⟩

theorem Ordered.trans (h : Ordered nv s s') (h' : Ordered nv s' s'') : Ordered nv s s'' := by
  obtain ⟨es, he, hp⟩ := h
  obtain ⟨es', he', hp'⟩ := h'
  exact ⟨es ++ es', by rw [he', he, List.append_assoc], hp.append (.inr hp')⟩

instance : IsTrans (Logged T) (Ordered nv) := ⟨fun _ _ _ => Ordered.trans⟩

theorem Ordered.continue (h : Ordered nv s s') (hc : OwnerCleared s s') (h' : Continues s' s'') :
    Ordered nv s s'' := by
  obtain ⟨es, he, hp⟩ := h
  obtain ⟨es₁, he₁, hc⟩ := hc
  obtain ⟨es', he', -⟩ := h'
  have heq : es₁ = es := List.append_cancel_left (he₁.symm.trans he)
  rw [heq] at hc
  exact ⟨es ++ es', by rw [he', he, List.append_assoc], hp.append (.inl hc)⟩

theorem OwnerCleared.continue (h : OwnerCleared s s') (h' : Continues s' s'') : OwnerCleared s s'' := by
  obtain ⟨es, he, e, hmem, hc⟩ := h
  obtain ⟨es', he', -⟩ := h'
  exact ⟨es ++ es', by rw [he', he, List.append_assoc], e, List.mem_append_left es' hmem, hc⟩

theorem OwnerCleared.after (h : Continues s s') (h' : OwnerCleared s' s'') : OwnerCleared s s'' := by
  obtain ⟨es, he, -⟩ := h
  obtain ⟨es', he', e, hmem, hc⟩ := h'
  exact ⟨es ++ es', by rw [he', he, List.append_assoc], e, List.mem_append_right es hmem, hc⟩

instance (b : Bool) : IsTrans (Logged T) (Steady nv b) where
  trans _ _ _ h h' hb :=
    have h1 := h hb
    have h2 := h' h1.1
    ⟨h2.1, h1.2.trans h2.2⟩

instance (b : Bool) : Std.Refl (Steady nv b) := ⟨fun s hb => ⟨hb, refl s⟩⟩

theorem lastBootDeveloper_congr {t t' : T} (h : nv t' = nv t) :
    lastBootDeveloper nv t' = lastBootDeveloper nv t := by
  rw [lastBootDeveloper, storedFlags, h, lastBootDeveloper, storedFlags]

theorem ordered_step {e : TpmStep T} (hs : s'.steps = s.steps ++ [e]) (he : ¬e.Changes nv) :
    Ordered nv s s' :=
  ⟨[e], hs, preceded_of_forall fun _ hmem => List.mem_singleton.mp hmem ▸ he⟩

/-- What is done before the firmware space is read leaves the spaces alone. -/
structure Calm (nv : Contents T) (s s' : Logged T) : Prop where
  same : nv s'.tpm = nv s.tpm
  continues : Continues s s'

instance : Std.Refl (Calm nv) := ⟨fun s => ⟨rfl, refl s⟩⟩

instance : IsTrans (Logged T) (Calm nv) :=
  ⟨fun _ _ _ h h' => ⟨h'.same.trans h.same, h.continues.trans h'.continues⟩⟩

end

section
variable {tlcl : Tlcl T} {nv : Contents T} {R : Logged T → Logged T → Prop}
variable (clears : Bool) (flags : UInt8) (b : Bool)

/-- A command that leaves the spaces alone keeps R when it is logged. -/
def Permits (nv : Contents T) (R : Logged T → Logged T → Prop) : Prop :=
  ∀ s t c, nv t = nv s.tpm → R s ⟨t, s.steps ++ [⟨s.tpm, t, c⟩]⟩

theorem permits_continues : Permits nv Continues := fun _ _ _ _ => ⟨_, rfl, rfl, rfl⟩

theorem permits_calm : Permits nv (Calm nv) := fun s t c h => ⟨h, permits_continues s t c h⟩

theorem permits_ordered : Permits nv (Ordered nv) :=
  fun _ _ _ h => ordered_step rfl (not_not.mpr (lastBootDeveloper_congr h))

theorem permits_steady : Permits nv (Steady nv b) :=
  fun s t c h hb => ⟨(lastBootDeveloper_congr h).trans hb, permits_ordered s t c h⟩

variable {α : Type} {op : T → UInt32 × T} {s s' : Logged T} {u : Unit} {rs rsf rsf' : Mem} {t t' : T}
  {dev : Bool}

theorem Permits.command (h : Permits nv R) (hop : Quiet nv op) : (command (logged clears op)).Keeps R :=
  fun s => h s _ _ (hop s.tpm)

theorem Permits.query (h : Permits nv R) {op : T → UInt32 × α × T} (hop : QuietQuery nv op) :
    (query (loggedQuery op)).Keeps R := fun s => h s _ _ (hop s.tpm)

theorem command_continues (op : T → UInt32 × T) :
    (command (logged clears op)).Keeps Continues := fun _ => ⟨_, rfl, rfl, rfl⟩

theorem query_continues (op : T → UInt32 × α × T) :
    (query (loggedQuery op)).Keeps Continues := fun _ => ⟨_, rfl, rfl, rfl⟩

variable (tlcl) in
theorem clear_continues : (tpmClearAndReenable (logging tlcl)).Keeps Continues :=
  (command_continues _ _).bind fun _ => (command_continues _ _).bind fun _ => command_continues _ _

section
variable [Std.Refl R] [IsTrans (Logged T) R] (h : Permits nv R) (F : SetupFaithful tlcl nv)
include h F

theorem Permits.clear : (tpmClearAndReenable (logging tlcl)).Keeps R :=
  (h.command _ F.forceClear).bind fun _ =>
    (h.command _ F.setEnable).bind fun _ => h.command _ (F.setDeactivated 0)

theorem Permits.assertPresence : (assertPresence (logging tlcl)).Keeps R :=
  (h.command _ F.assertPhysicalPresence).catch fun _ =>
    (h.command _ F.physicalPresenceCMDEnable).bind fun _ => h.command _ F.assertPhysicalPresence

theorem Permits.setupTPM {disable clear : Bool} (hrest : Keeps R (do
      let rsf ← readOrInitialize (logging tlcl)
      updateFlags (logging tlcl) dev disable clear rsf)) :
    (setupTPM (logging tlcl) dev disable clear).Keeps R := by
  refine (h.command _ F.libInit).bind fun _ => (h.command _ F.startup).bind fun _ => ?_
  refine (h.assertPresence F).bind fun _ => (h.query F.getFlags).bind fun flags => ?_
  exact ((h.command _ F.setEnable).bind fun _ => (h.command _ (F.setDeactivated 0)).bind fun _ =>
    keeps_throw _).ite hrest

end

theorem clear_ok (h : tpmClearAndReenable (logging tlcl) s = (.ok u, s')) : OwnerCleared s s' := by
  obtain ⟨_, s₁, hclear, hrest⟩ := bind_ok.mp h
  obtain ⟨hzero, hs₁⟩ := command_ok hclear
  have hfirst : OwnerCleared s s₁ := by
    rw [hs₁]
    refine ⟨_, rfl, _, List.mem_singleton_self _, ?_⟩
    change (true && (tlcl.forceClear s.tpm).1 == 0) = true
    exact beq_iff_eq.mpr hzero
  have hkeeps : Keeps Continues (do
      command (logging tlcl).setEnable
      command ((logging tlcl).setDeactivated 0)) :=
    (command_continues _ _).bind fun _ => command_continues _ _
  exact hfirst.continue (hkeeps.of_run hrest)

theorem clear_bind_ordered (F : SetupFaithful tlcl nv) {f : Unit → TpmM (Logged T) α}
    (hf : ∀ u, (f u).Keeps Continues) :
    Keeps (Ordered nv) (tpmClearAndReenable (logging tlcl) >>= f) := by
  have hclear := permits_ordered.clear F
  exact hclear.bind_of_run fun s u s₁ hx => (hclear.of_run hx).continue (clear_ok hx) (hf u s₁)

variable (tlcl) in
theorem writeSpace_continues (index : UInt32) (size : Nat) (rs : Mem) :
    (writeSpace (logging tlcl) index size rs).Keeps Continues :=
  writeSpace_keeps (clear_continues tlcl) (query_continues _) (command_continues _ _)

variable (tlcl) in
theorem safeDefineSpace_continues (index perm : UInt32) (size : Nat) :
    (safeDefineSpace (logging tlcl) index perm size).Keeps Continues :=
  retryCleared_keeps (clear_continues tlcl) (command_continues _ _)

theorem write_flags (F : SetupFaithful tlcl nv)
    (h : (tlcl.write firmwareNvIndex (rs.load 0 firmwareSpaceSize) t).1 = 0) :
    storedFlags nv (tlcl.write firmwareNvIndex (rs.load 0 firmwareSpaceSize) t).2 = some (rs 1) := by
  rw [storedFlags, F.write_ok _ _ _ h, Function.update_self]
  rfl

theorem write_steady (F : SetupFaithful tlcl nv) (rs : Mem) :
    (command ((logging tlcl).write firmwareNvIndex (rs.load 0 firmwareSpaceSize))).Keeps
      (Steady nv (developerFlag (rs 1))) := by
  intro s hb
  have hafter : lastBootDeveloper nv
      (tlcl.write firmwareNvIndex (rs.load 0 firmwareSpaceSize) s.tpm).2 = some (developerFlag (rs 1)) := by
    by_cases h : (tlcl.write firmwareNvIndex (rs.load 0 firmwareSpaceSize) s.tpm).1 = 0
    · rw [lastBootDeveloper, write_flags F h]
      rfl
    · rw [lastBootDeveloper_congr (F.write_error _ _ _ h)]
      exact hb
  exact ⟨hafter, ordered_step rfl (not_not.mpr (hafter.trans hb.symm))⟩

theorem sealFirmware_flags (rsf : Mem) : sealSpace firmwareSpaceSize rsf 1 = rsf 1 :=
  sealSpace_of_lt firmwareSpaceSize rsf (by decide) (by decide)

section
variable (F : SetupFaithful tlcl nv)
include F

theorem writeSpaceFirmware_steady (rsf : Mem) :
    (writeSpaceFirmware (logging tlcl) rsf).Keeps (Steady nv (developerFlag (rsf 1))) := by
  have hwrite := write_steady F (sealSpace firmwareSpaceSize rsf)
  rw [sealFirmware_flags] at hwrite
  exact writeSpace_keeps ((permits_steady _).clear F) ((permits_steady _).query (F.read _ _)) hwrite

theorem readSpaceFirmware_ok (attempts : Nat)
    (h : readSpace tlcl firmwareNvIndex firmwareSpaceSize attempts t = (.ok rsf, t')) :
    storedFlags nv t = some (rsf 1) ∧ nv t' = nv t := by
  induction attempts generalizing t with
  | zero => cases h
  | succ n ih =>
    obtain ⟨rs, t₁, hquery, hrest⟩ := bind_ok.mp h
    obtain ⟨hzero, hrs, ht₁⟩ := query_ok hquery
    have hsame : nv t₁ = nv t := by
      rw [ht₁]
      exact F.read _ _ t
    have hflags : storedFlags nv t = some (rs 1) := by
      have hload := congrArg (·[1]?) (F.read_ok _ _ t hzero)
      rw [← hrs] at hload
      rw [List.getElem?_take_of_lt (by decide)] at hload
      exact hload.symm
    split_ifs at hrest
    · obtain ⟨rfl, rfl⟩ := pure_ok.mp hrest
      exact ⟨hflags, hsame⟩
    · obtain ⟨rfl, rfl⟩ := pure_ok.mp hrest
      exact ⟨hflags, hsame⟩
    · obtain ⟨hih, hsame'⟩ := ih hrest
      rw [storedFlags, hsame] at hih
      exact ⟨hih, hsame'.trans hsame⟩

theorem safeWrite_ok (h : safeWrite tlcl firmwareNvIndex (rs.load 0 firmwareSpaceSize) t = (.ok u, t')) :
    storedFlags nv t' = some (rs 1) := by
  have hcommand {t₁ : T} (hc : command (tlcl.write firmwareNvIndex (rs.load 0 firmwareSpaceSize)) t₁ =
      (.ok u, t')) : storedFlags nv t' = some (rs 1) := by
    obtain ⟨hzero, rfl⟩ := command_ok hc
    exact write_flags F hzero
  rw [safeWrite, retryCleared, catch_run] at h
  split at h
  next hfirst =>
    cases h
    exact hcommand hfirst
  next e t₁ hfirst =>
    split_ifs at h
    · obtain ⟨_, t₂, -, hsecond⟩ := bind_ok.mp h
      exact hcommand hsecond
    · cases h

theorem writeSpaceFirmware_ok (h : writeSpaceFirmware tlcl rsf t = (.ok rsf', t')) :
    rsf' 1 = rsf 1 ∧ storedFlags nv t' = some (rsf 1) := by
  obtain ⟨_, t₁, hwrite, hpure⟩ := bind_ok.mp h
  obtain ⟨rfl, rfl⟩ := pure_ok.mp hpure
  obtain ⟨_, t₁, _, hlast, hread⟩ := writeAttempts_last hwrite
  have hflags := safeWrite_ok F hlast
  rw [storedFlags, ← (readSpaceFirmware_ok F 3 hread).2, sealFirmware_flags] at hflags
  exact ⟨sealFirmware_flags rsf, hflags⟩

theorem storeFlags_ok {flags : UInt8} (hstored : storedFlags nv t = some (rsf 1))
    (h : storeFlags tlcl flags rsf t = (.ok rsf', t')) :
    rsf' 1 = flags ∧ storedFlags nv t' = some flags := by
  rw [storeFlags] at h
  split_ifs at h with hne
  · exact writeSpaceFirmware_ok F h
  · obtain ⟨rfl, rfl⟩ := pure_ok.mp h
    rw [not_not] at hne
    rw [hstored, hne]
    exact ⟨rfl, rfl⟩

end

/-- What is done after the owner has been cleared in the initialization. -/
def initializeSpaces (tlcl : Tlcl T) : TpmM T Mem := do
  safeDefineSpace tlcl backupNvIndex tpmNvPerPpWrite backupNvSize
  safeDefineSpace tlcl kernelNvIndex tpmNvPerPpWrite kernelSpaceSize
  let _ ← writeSpaceKernel tlcl rskInit
  safeDefineSpace tlcl firmwareNvIndex (tpmNvPerGlobalLock ||| tpmNvPerPpWrite) firmwareSpaceSize
  writeSpaceFirmware tlcl rsfInit

variable (tlcl) in
theorem initializeSpaces_continues : (initializeSpaces (logging tlcl)).Keeps Continues := by
  refine (safeDefineSpace_continues tlcl _ _ _).bind fun _ =>
    (safeDefineSpace_continues tlcl _ _ _).bind fun _ => ?_
  refine (writeSpace_continues tlcl _ _ _).bind fun _ =>
    (safeDefineSpace_continues tlcl _ _ _).bind fun _ => ?_
  exact writeSpace_continues tlcl _ _ _

section
variable (F : SetupFaithful tlcl nv)
include F

theorem initializeSpaces_ok (h : initializeSpaces tlcl t = (.ok rsf, t')) :
    rsf 1 = 0 ∧ storedFlags nv t' = some 0 := by
  obtain ⟨_, t₁, -, h₁⟩ := bind_ok.mp h
  obtain ⟨_, t₂, -, h₂⟩ := bind_ok.mp h₁
  obtain ⟨_, t₃, -, h₃⟩ := bind_ok.mp h₂
  obtain ⟨_, t₄, -, h₄⟩ := bind_ok.mp h₃
  exact writeSpaceFirmware_ok F h₄

theorem oneTimeInitializeTPM_ordered : (oneTimeInitializeTPM (logging tlcl)).Keeps (Ordered nv) := by
  have h : Permits nv (Ordered nv) := permits_ordered
  refine (h.command _ F.selfTestFull).bind fun _ => (h.query F.getPermanentFlags).bind fun _ => ?_
  refine (h.command _ F.finalizePhysicalPresence).doIf.bind fun _ =>
    (h.command _ F.setNvLocked).doIf.bind fun _ => ?_
  exact clear_bind_ordered F fun _ => initializeSpaces_continues tlcl

theorem oneTimeInitializeTPM_ok (h : oneTimeInitializeTPM (logging tlcl) s = (.ok rsf, s')) :
    rsf 1 = 0 ∧ storedFlags nv s'.tpm = some 0 ∧ OwnerCleared s s' := by
  obtain ⟨_, s₁, hself, h₁⟩ := bind_ok.mp h
  obtain ⟨_, s₂, hflags, h₂⟩ := bind_ok.mp h₁
  obtain ⟨_, s₃, hpresence, h₃⟩ := bind_ok.mp h₂
  obtain ⟨_, s₄, hlocked, h₄⟩ := bind_ok.mp h₃
  obtain ⟨_, s₅, hclear, h₅⟩ := bind_ok.mp h₄
  have h02 : Continues s s₂ := ((command_continues _ _).of_run hself).trans ((query_continues _).of_run hflags)
  have h24 : Continues s₂ s₄ := ((command_continues _ _).doIf.of_run hpresence).trans
    ((command_continues _ _).doIf.of_run hlocked)
  have hcleared : OwnerCleared s s₅ := .after (h02.trans h24) (clear_ok hclear)
  obtain ⟨hzero, hstored⟩ := initializeSpaces_ok (logging_faithful F) h₅
  exact ⟨hzero, hstored, hcleared.continue ((initializeSpaces_continues tlcl).of_run h₅)⟩

theorem readOrInitialize_ordered : (readOrInitialize (logging tlcl)).Keeps (Ordered nv) :=
  (readSpace_keeps (permits_ordered.query (F.read _ _)) 3).catch fun _ =>
    (oneTimeInitializeTPM_ordered F).ite (keeps_throw _)

theorem readOrInitialize_ok (h : readOrInitialize (logging tlcl) s = (.ok rsf, s')) :
    storedFlags nv s'.tpm = some (rsf 1) ∧
      (storedFlags nv s.tpm = some (rsf 1) ∨ rsf 1 = 0 ∧ OwnerCleared s s') := by
  rw [readOrInitialize, catch_run] at h
  split at h
  next hread =>
    cases h
    obtain ⟨hflags, hsame⟩ := readSpaceFirmware_ok (logging_faithful F) 3 hread
    refine ⟨?_, .inl hflags⟩
    change storedFlags (loggedContents nv) s' = _
    rw [storedFlags, hsame]
    exact hflags
  next e s₁ hread =>
    split_ifs at h
    · obtain ⟨hzero, hstored, hcleared⟩ := oneTimeInitializeTPM_ok F h
      have hread' : Continues s s₁ := (readSpace_keeps (query_continues _) 3).of_run hread
      exact ⟨by rw [hzero]; exact hstored, .inr ⟨hzero, .after hread' hcleared⟩⟩
    · cases h

end

theorem developerFlag_set : developerFlag (flags ||| flagLastBootDeveloper) = true := by
  rw [developerFlag, or_and_self]
  rfl

theorem developerFlag_reset : developerFlag (flags &&& ~~~flagLastBootDeveloper) = false := by
  rw [developerFlag, clear_and_self]
  rfl

theorem developerFlag_setupFlags (dev disable : Bool) (flags : UInt8) :
    developerFlag (setupFlags dev disable flags).1 = (setupFlags dev disable flags).2 := by
  unfold setupFlags
  dsimp only
  generalize (if disable then flags &&& ~~~flagVirtualDevModeOn else flags) = f
  generalize (dev || f &&& flagVirtualDevModeOn != 0) = d
  cases d with
  | true => exact developerFlag_set f
  | false => exact developerFlag_reset f

theorem developerFlag_of_same {flags : UInt8}
    (h : (if dev then flagLastBootDeveloper else 0) = flags &&& flagLastBootDeveloper) :
    developerFlag flags = dev := by
  rw [developerFlag, ← h]
  cases dev <;> rfl

variable (tlcl) in
theorem storeFlags_continues (rsf : Mem) : (storeFlags (logging tlcl) flags rsf).Keeps Continues :=
  (writeSpace_continues tlcl _ _ _).ite (keeps_pure _)

section
variable (F : SetupFaithful tlcl nv)
include F

theorem storeFlags_steady (flags : UInt8) (rsf : Mem) :
    (storeFlags (logging tlcl) flags rsf).Keeps (Steady nv (developerFlag flags)) := by
  have hwrite := writeSpaceFirmware_steady F (Function.update rsf 1 flags)
  rw [Function.update_self] at hwrite
  exact hwrite.ite (keeps_pure _)

theorem updateFlags_ordered (dev disable clear : Bool)
    (hstored : storedFlags nv s.tpm = some (rsf 1)) :
    Ordered nv s (updateFlags (logging tlcl) dev disable clear rsf s).2 := by
  rw [updateFlags]
  generalize hnext : setupFlags dev disable (rsf 1) = next
  generalize hc : ((if next.2 then flagLastBootDeveloper else 0) != rsf 1 &&& flagLastBootDeveloper ||
    clear) = c
  cases c with
  | true => exact clear_bind_ordered F (fun _ => storeFlags_continues tlcl next.1 rsf) s
  | false =>
    -- the owner is not cleared, so the flag is written as it was
    have hsame := developerFlag_of_same (bne_eq_false_iff_eq.mp (Bool.or_eq_false_iff.mp hc).1)
    have hflag : developerFlag next.1 = next.2 := by
      rw [← hnext]
      exact developerFlag_setupFlags dev disable (rsf 1)
    have hlast : lastBootDeveloper nv s.tpm = some (developerFlag next.1) := by
      rw [lastBootDeveloper, hstored, hflag, ← hsame]
      rfl
    exact (storeFlags_steady F next.1 rsf s hlast).2

theorem updateFlags_ok {disable clear : Bool}
    (hstored : storedFlags nv t = some (rsf 1))
    (h : updateFlags tlcl dev disable clear rsf t = (.ok rsf', t')) :
    rsf' 1 = (setupFlags dev disable (rsf 1)).1 ∧
      storedFlags nv t' = some (setupFlags dev disable (rsf 1)).1 := by
  obtain ⟨_, t₁, hclear, hstore⟩ := bind_ok.mp h
  have hsame : nv t₁ = nv t := (clear_same F.forceClear F.setEnable (F.setDeactivated 0)).doIf.of_run hclear
  have hstored₁ : storedFlags nv t₁ = some (rsf 1) := by
    rw [storedFlags, hsame]
    exact hstored
  exact storeFlags_ok F hstored₁ hstore

theorem setupTPM_ordered (dev disable clear : Bool) :
    (setupTPM (logging tlcl) dev disable clear).Keeps (Ordered nv) := by
  have hfirst := readOrInitialize_ordered F
  refine permits_ordered.setupTPM F (hfirst.bind_of_run fun s rsf s₁ hx => ?_)
  exact (hfirst.of_run hx).trans (updateFlags_ordered F dev disable clear (readOrInitialize_ok F hx).1)

end

variable (tlcl) in
theorem updateFlags_continues (dev disable clear : Bool) (rsf : Mem) :
    (updateFlags (logging tlcl) dev disable clear rsf).Keeps Continues :=
  (clear_continues tlcl).doIf.bind fun _ => storeFlags_continues tlcl _ rsf

variable (tlcl) in
theorem oneTimeInitializeTPM_continues : (oneTimeInitializeTPM (logging tlcl)).Keeps Continues := by
  refine (command_continues _ _).bind fun _ => (query_continues _).bind fun _ => ?_
  refine (command_continues _ _).doIf.bind fun _ => (command_continues _ _).doIf.bind fun _ => ?_
  exact (clear_continues tlcl).bind fun _ => initializeSpaces_continues tlcl

theorem setupTPM_continues (F : SetupFaithful tlcl nv) (dev disable clear : Bool) :
    (setupTPM (logging tlcl) dev disable clear).Keeps Continues := by
  refine permits_continues.setupTPM F (((readSpace_keeps (query_continues _) 3).catch fun _ =>
    (oneTimeInitializeTPM_continues tlcl).ite (keeps_throw _)).bind fun rsf => ?_)
  exact updateFlags_continues tlcl dev disable clear rsf

/-- If SetupTPM succeeds, the flags in the space and in the record are those made from the flags that
were there, or from zero in a space that is new after the owner was cleared. -/
theorem setupTPM_ok (F : SetupFaithful tlcl nv) {disable clear : Bool}
    (h : setupTPM (logging tlcl) dev disable clear s = (.ok rsf, s')) :
    ∃ inFlags, (storedFlags nv s.tpm = some inFlags ∨ inFlags = 0 ∧ OwnerCleared s s') ∧
      rsf 1 = (setupFlags dev disable inFlags).1 ∧
      storedFlags nv s'.tpm = some (setupFlags dev disable inFlags).1 := by
  obtain ⟨_, s₁, hinit, h₁⟩ := bind_ok.mp h
  obtain ⟨_, s₂, hstartup, h₂⟩ := bind_ok.mp h₁
  obtain ⟨_, s₃, hpresence, h₃⟩ := bind_ok.mp h₂
  obtain ⟨⟨off, deactivated⟩, s₄, hflags, h₄⟩ := bind_ok.mp h₃
  have hcalm₂ : Calm nv s s₂ := IsTrans.trans s s₁ s₂ ((permits_calm.command _ F.libInit).of_run hinit)
    ((permits_calm.command _ F.startup).of_run hstartup)
  have hcalm₄ : Calm nv s₂ s₄ := IsTrans.trans s₂ s₃ s₄ ((permits_calm.assertPresence F).of_run hpresence)
    ((permits_calm.query F.getFlags).of_run hflags)
  have hcalm : Calm nv s s₄ := IsTrans.trans s s₂ s₄ hcalm₂ hcalm₄
  dsimp only at h₄
  split_ifs at h₄ with hoff
  · obtain ⟨_, s₅, -, h₅⟩ := bind_ok.mp h₄
    obtain ⟨_, s₆, -, h₆⟩ := bind_ok.mp h₅
    cases h₆
  · obtain ⟨rsf₁, s₅, hread, hupdate⟩ := bind_ok.mp h₄
    obtain ⟨hstored, hfrom⟩ := readOrInitialize_ok F hread
    refine ⟨rsf₁ 1, ?_, updateFlags_ok (logging_faithful F) hstored hupdate⟩
    cases hfrom with
    | inl hflags =>
      left
      rw [storedFlags, ← hcalm.same]
      exact hflags
    | inr hnew =>
      have hrest := (updateFlags_continues tlcl dev disable clear rsf₁).of_run hupdate
      exact .inr ⟨hnew.1, (OwnerCleared.after hcalm.continues hnew.2).continue hrest⟩

end

structure SetupCall (nv : Contents T) where
  tlcl : Tlcl T
  faithful : SetupFaithful tlcl nv
  developerMode : Bool
  disableDevRequest : Bool
  clearTpmOwnerRequest : Bool

namespace SetupCall
variable {nv : Contents T}

def result (c : SetupCall nv) (t : T) : Except UInt32 Mem × T :=
  setupTPM c.tlcl c.developerMode c.disableDevRequest c.clearTpmOwnerRequest t

def steps (c : SetupCall nv) (t : T) : List (TpmStep T) :=
  (setupTPM (logging c.tlcl) c.developerMode c.disableDevRequest c.clearTpmOwnerRequest ⟨t, []⟩).2.steps

/-- The call clears the owner before the flag changes, whatever fails, and a call that succeeds leaves
the developer state that it computed. -/
structure Safe (c : SetupCall nv) (t : T) : Prop where
  path : Path (c.steps t) t (c.result t).2
  ordered : ClearedFirst nv (c.steps t)
  stored : ∀ rsf, (c.result t).1 = .ok rsf → ∃ inFlags,
    (storedFlags nv t = some inFlags ∨ inFlags = 0 ∧ ∃ e ∈ c.steps t, e.cleared = true) ∧
    rsf 1 = (setupFlags c.developerMode c.disableDevRequest inFlags).1 ∧
    lastBootDeveloper nv (c.result t).2 =
      some (setupFlags c.developerMode c.disableDevRequest inFlags).2

theorem safe (c : SetupCall nv) (t : T) : c.Safe t := by
  obtain ⟨hresult, htpm⟩ := projects_setupTPM c.tlcl c.developerMode c.disableDevRequest
    c.clearTpmOwnerRequest ⟨t, []⟩
  obtain ⟨es, hes, hpath⟩ := setupTPM_continues c.faithful c.developerMode c.disableDevRequest
    c.clearTpmOwnerRequest ⟨t, []⟩
  obtain ⟨es', hes', hordered⟩ := setupTPM_ordered c.faithful c.developerMode c.disableDevRequest
    c.clearTpmOwnerRequest ⟨t, []⟩
  rw [List.nil_append] at hes hes'
  have hsteps : c.steps t = es := hes
  have htpm' : _ = (c.result t).2 := htpm
  refine ⟨?_, ?_, fun rsf hok => ?_⟩
  · rw [hsteps, ← htpm']
    exact hpath
  · rw [hsteps, ← hes, hes']
    exact hordered
  · obtain ⟨inFlags, hfrom, hrsf, hstored⟩ := setupTPM_ok c.faithful (Prod.ext (hresult.trans hok) rfl)
    refine ⟨inFlags, hfrom.imp_right fun hnew => ⟨hnew.1, ?_⟩, hrsf, ?_⟩
    · obtain ⟨es'', hes'', hcleared⟩ := hnew.2
      rw [List.nil_append] at hes''
      rw [steps, hes'']
      exact hcleared
    · rw [← htpm', lastBootDeveloper, hstored, ← developerFlag_setupFlags]
      rfl

theorem Safe.cleared {c : SetupCall nv} {t : T} (h : c.Safe t)
    (hne : lastBootDeveloper nv (c.result t).2 ≠ lastBootDeveloper nv t) :
    ∃ e ∈ c.steps t, e.cleared = true := by
  obtain ⟨u, e, v, he, hchange⟩ := h.path.changes hne
  obtain ⟨d, hmem, hd⟩ := h.ordered u e v he hchange
  exact ⟨d, by rw [he]; exact List.mem_append_left _ hmem, hd⟩

end SetupCall

/-- What happens to a TPM over the boots: calls of SetupTPM, and whatever is done between them. -/
inductive TpmEvent (nv : Contents T) where
  | setup (c : SetupCall nv)
  | other (f : T → T)

def tpmEventStep {nv : Contents T} (t : T) : TpmEvent nv → T
  | .setup c => (c.result t).2
  | .other f => f t

end
end Vboot
