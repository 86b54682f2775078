import Vboot.Common.Writes
import Vboot.Kernel.Policy
import Vboot.Kernel.Select

/-! What the boot paths do to the TPM and to the kernel version in the shared data. -/
namespace Vboot
open Vboot.Lib Vboot.Lib.Program Vboot.Gpt

section
variable {W T H S α Ctx : Type}

structure SameData (s s' : KernelBoot W T H) : Prop where
  tpm : s'.tpm = s.tpm
  shared : s'.shared = s.shared

def SameTpm (s s' : KernelBoot W T H) : Prop := s'.tpm = s.tpm

/-- The kernel space of the TPM is left alone. -/
def KernelUntouched (nv : Contents T) (s s' : KernelBoot W (Recorded T) H) : Prop :=
  Untouched nv kernelNvIndex s.tpm s'.tpm

section
variable {nv : Contents T}

instance : Std.Refl (SameData (W := W) (T := T) (H := H)) := ⟨fun _ => ⟨rfl, rfl⟩⟩

instance : IsTrans (KernelBoot W T H) SameData :=
  ⟨fun _ _ _ h h' => ⟨h'.tpm.trans h.tpm, h'.shared.trans h.shared⟩⟩

instance : Std.Refl (SameTpm (W := W) (T := T) (H := H)) := ⟨fun _ => rfl⟩

instance : IsTrans (KernelBoot W T H) SameTpm := ⟨fun _ _ _ h h' => h'.trans h⟩

instance : Std.Refl (KernelUntouched (W := W) (H := H) nv) := ⟨fun s => refl s.tpm⟩

instance : IsTrans (KernelBoot W (Recorded T) H) (KernelUntouched nv) :=
  ⟨fun s s' s'' h h' => IsTrans.trans s.tpm s'.tpm s''.tpm h h'⟩

theorem SameTpm.untouched {s s' : KernelBoot W (Recorded T) H} (h : SameTpm s s') :
    KernelUntouched nv s s' := by
  rw [KernelUntouched, h]
  exact refl s.tpm

theorem withUi_untouched (x : UiM W α) :
    (withUi x : KernelM W (Recorded T) H α).Keeps (KernelUntouched nv) :=
  fun s => refl s.tpm

theorem withTpm_untouched {x : TpmM (Recorded T) α} (h : x.Keeps (Untouched nv kernelNvIndex)) :
    (withTpm x : KernelM W (Recorded T) H (Except UInt32 α)).Keeps (KernelUntouched nv) :=
  fun s => h s.tpm

end

variable {s : KernelBoot W T H}

theorem withUi_bind_ends {β : Type} {x : UiM W α} {f : α → KernelM W T H β}
    {Q : Except Stop β → KernelBoot W T H → Prop} (he : ∀ e u, Q (.error e) { s with ui := u })
    (h : ∀ a u, (f a).Ends { s with ui := u } Q) : Ends (withUi x >>= f) s Q := by
  refine ends_bind_of_run (fun a s' hx => ?_) fun e s' hx => ?_
  · obtain rfl : _ = s' := congrArg Prod.snd hx
    exact h a _
  · obtain rfl : _ = s' := congrArg Prod.snd hx
    exact he e _

theorem withTpm_bind_ends {β : Type} {x : TpmM T α} {f : Except UInt32 α → KernelM W T H β}
    {P : Except UInt32 α → T → Prop}
    {Q : Except Stop β → KernelBoot W T H → Prop} (hx : x.Ends s.tpm P)
    (h : ∀ r t, P r t → (f r).Ends { s with tpm := t } Q) : Ends (withTpm x >>= f) s Q :=
  Ends.bind (h _ _ hx)

theorem withUi_sameData (x : UiM W α) : (withUi x : KernelM W T H α).Keeps SameData :=
  fun _ => ⟨rfl, rfl⟩

theorem withUi_sameTpm (x : UiM W α) : (withUi x : KernelM W T H α).Keeps SameTpm :=
  fun _ => rfl

theorem setDiskHandle_sameTpm (handle : Option H) :
    (setDiskHandle handle : KernelM W T H Unit).Keeps SameTpm :=
  fun _ => rfl

variable {tlcl : Tlcl T} {nv : Contents T} (F : Faithful tlcl nv) (crypto : Crypto Ctx)
  (platform : Platform W H S) (config : KernelConfig) (cparams : VbCommonParams)
  (gbbFlags : UInt32) (rounds : Nat)

include F

theorem lockKernel_untouched (recoveryMode : Bool) :
    (lockKernel (recording tlcl) recoveryMode : KernelM W (Recorded T) H UInt32).Keeps
      (KernelUntouched nv) := by
  intro s
  dsimp only [lockKernel, rollbackKernelLock]
  split_ifs
  · exact refl s.tpm
  · exact (unrecorded_silent F.lockPhysicalPresence s.tpm).untouched

theorem vbTryLegacy_untouched (allowed : Bool) :
    (vbTryLegacy (recording tlcl) platform allowed).Keeps (KernelUntouched nv) := by
  unfold vbTryLegacy
  cases allowed with
  | false => exact withUi_untouched _
  | true =>
    apply (lockKernel_untouched F false).bind
    intro r
    exact (Keeps.doIf (withUi_untouched _)).bind fun _ => withUi_untouched _

omit F
variable (getInfoFlags : UInt32) (settings : DevSettings) (n : Nat) (retval : UInt32)
  (disks : List (VbDiskInfo H))

theorem tryDisks_sameTpm :
    (tryDisks crypto platform config cparams getInfoFlags retval disks : KernelM W T H UInt32).Keeps
      SameTpm := by
  induction disks generalizing retval with
  | nil => exact keeps_pure _
  | cons info rest ih =>
    have hdisk : (tryDisk crypto platform config cparams info : KernelM W T H UInt32).Keeps SameTpm :=
      fun _ => rfl
    exact (hdisk.bind fun r => (keeps_pure _).ite (ih r)).ite (ih retval)

theorem vbTryLoadKernel_sameTpm :
    (vbTryLoadKernel crypto platform config cparams getInfoFlags : KernelM W T H UInt32).Keeps
      SameTpm := by
  apply (setDiskHandle_sameTpm none).bind
  intro _
  apply (withUi_sameTpm _).bind
  intro info
  apply Keeps.ite
  · exact (withUi_sameTpm _).bind fun _ => keeps_pure _
  · apply (tryDisks_sameTpm crypto platform config cparams getInfoFlags _ _).bind
    intro retval
    have hno : (noKernel : KernelM W T H Unit).Keeps SameTpm :=
      (withUi_sameTpm _).bind fun _ => setDiskHandle_sameTpm none
    exact hno.doIf.bind fun _ => Keeps.bind (keeps_observe _) fun _ =>
      (withUi_sameTpm _).bind fun _ => keeps_pure _

theorem vbTryLoadKernel_untouched :
    (vbTryLoadKernel crypto platform config cparams getInfoFlags :
      KernelM W (Recorded T) H UInt32).Keeps (KernelUntouched nv) :=
  (vbTryLoadKernel_sameTpm crypto platform config cparams getInfoFlags).mono fun _ _ h => h.untouched

theorem vbTryUsb_untouched :
    (vbTryUsb crypto platform config cparams : KernelM W (Recorded T) H UInt32).Keeps
      (KernelUntouched nv) := by
  apply (vbTryLoadKernel_untouched crypto platform config cparams _).bind
  intro retval
  exact (Keeps.doIf (withUi_untouched _)).bind fun _ => keeps_pure _

theorem devUsb_untouched (allowUsb : Bool) :
    (devUsb crypto platform config cparams allowUsb : KernelM W (Recorded T) H DevStep).Keeps
      (KernelUntouched nv) := by
  unfold devUsb
  apply Keeps.ite
  · apply (withUi_untouched _).bind
    intro _
    apply (vbTryUsb_untouched crypto platform config cparams).bind
    intro retval
    apply Keeps.ite
    · exact (withUi_untouched _).bind fun _ => keeps_pure _
    · exact (withUi_untouched _).bind fun _ => keeps_pure _
  · exact (withUi_untouched _).bind fun _ => (withUi_untouched _).bind fun _ => keeps_pure _

include F

theorem devKey_untouched (key : UInt32) :
    (devKey crypto (recording tlcl) platform config cparams gbbFlags rounds settings key).Keeps
      (KernelUntouched nv) := by
  unfold devKey
  refine (keeps_pure _).ite ((keeps_pure _).ite (Keeps.ite ?_ ((keeps_pure _).ite
    (Keeps.ite ?_ (Keeps.ite ?_ ?_)))))
  · exact Keeps.bind (keeps_observe _) fun _ => withUi_untouched _
  · exact (vbTryLegacy_untouched F platform _).bind fun _ => keeps_pure _
  · exact devUsb_untouched crypto platform config cparams _
  · exact (withUi_untouched _).bind fun _ => keeps_pure _

theorem devLoop_untouched :
    (devLoop crypto (recording tlcl) platform config cparams gbbFlags rounds settings n).Keeps
      (KernelUntouched nv) := by
  induction n with
  | zero => exact keeps_throw _
  | succ n ih =>
    apply (withUi_untouched _).bind
    intro shutdown
    apply Keeps.ite
    · exact (withUi_untouched _).bind fun _ => keeps_pure _
    · apply (withUi_untouched _).bind
      intro key
      apply (devKey_untouched F crypto platform config cparams gbbFlags rounds settings key).bind
      intro step
      cases step with
      | done retval => exact keeps_pure _
      | fallout => exact keeps_pure _
      | stay => exact (withUi_untouched _).bind fun looping => ih.ite (keeps_pure _)

theorem devFallout_untouched (ctrlDPressed : Bool) :
    (devFallout crypto (recording tlcl) platform config cparams settings ctrlDPressed).Keeps
      (KernelUntouched nv) := by
  have hload : (vbTryLoadKernel crypto platform config cparams vbDiskFlagFixed).Keeps
      (KernelUntouched nv) := vbTryLoadKernel_untouched crypto platform config cparams _
  apply (vbTryLegacy_untouched F platform _).doIf.bind
  intro _
  apply Keeps.ite
  · apply (vbTryUsb_untouched crypto platform config cparams).bind
    intro retval
    exact (withUi_untouched _).bind fun _ => (keeps_pure _).ite hload
  · exact (withUi_untouched _).bind fun _ => hload

theorem vbBootDeveloper_untouched :
    (vbBootDeveloper crypto (recording tlcl) platform config cparams gbbFlags rounds).Keeps
      (KernelUntouched nv) := by
  refine Keeps.bind (keeps_observe _) ?_
  intro settings
  apply (withUi_untouched _).bind
  intro _
  apply (withUi_untouched _).bind
  intro _
  apply (devLoop_untouched F crypto platform config cparams gbbFlags rounds settings rounds).bind
  intro result
  cases result with
  | inl retval => exact keeps_pure _
  | inr pressed => exact devFallout_untouched F crypto platform config cparams settings pressed

theorem recoveryKey_untouched (shared : VbSharedData) (dev : Bool) (key : UInt32) :
    (recoveryKey (recording tlcl) platform gbbFlags rounds shared dev key).Keeps
      (KernelUntouched nv) := by
  have henable : (enableDev (recording tlcl) platform).Keeps (KernelUntouched nv) := by
    have hne : firmwareNvIndex ≠ kernelNvIndex := by decide
    have hset := (respects_untouched F hne firmwareSpaceSize).setVirtualDevMode true
    apply (withTpm_untouched hset).bind
    intro r
    cases r with
    | error e => exact keeps_pure _
    | ok _ =>
      apply (withUi_untouched _).bind
      intro allow
      exact (Keeps.doIf (withUi_untouched _)).bind fun _ => keeps_pure _
  unfold recoveryKey
  apply Keeps.ite
  · apply (withUi_untouched _).bind
    intro _
    apply (withUi_untouched _).bind
    intro answer
    cases answer with
    | yes => exact henable.bind fun _ => keeps_pure _
    | shutdown => exact keeps_pure _
    | no => exact keeps_pure _
  · exact (withUi_untouched _).bind fun _ => keeps_pure _

theorem recoveryKeys_untouched (i : Nat) :
    (recoveryKeys (recording tlcl) platform gbbFlags rounds n i).Keeps (KernelUntouched nv) := by
  induction n generalizing i with
  | zero => exact keeps_throw _
  | succ n ih =>
    refine (keeps_pure _).ite ?_
    refine Keeps.bind (keeps_observe _) ?_
    intro shared
    apply (withUi_untouched _).bind
    intro key
    apply (withUi_untouched _).bind
    intro dev
    apply (withUi_untouched _).bind
    intro held
    apply Keeps.ite
    · exact (withUi_untouched _).bind fun _ => ih (i + 20)
    · apply (recoveryKey_untouched F platform gbbFlags rounds shared dev key).bind
      intro retval
      cases retval with
      | some retval => exact keeps_pure _
      | none =>
        apply (withUi_untouched _).bind
        intro shutdown
        exact (keeps_pure _).ite ((withUi_untouched _).bind fun _ => ih _)

theorem recoveryLoop_untouched :
    (recoveryLoop crypto (recording tlcl) platform config cparams gbbFlags rounds n).Keeps
      (KernelUntouched nv) := by
  induction n with
  | zero => exact keeps_throw _
  | succ n ih =>
    apply (vbTryLoadKernel_untouched crypto platform config cparams _).bind
    intro retval
    apply (withUi_untouched _).bind
    intro _
    refine (keeps_pure _).ite ?_
    apply (withUi_untouched _).bind
    intro _
    apply (recoveryKeys_untouched F platform gbbFlags rounds rounds 0).bind
    intro result
    cases result with
    | some retval => exact keeps_pure _
    | none => exact ih

theorem vbBootRecovery_untouched :
    (vbBootRecovery crypto (recording tlcl) platform config cparams gbbFlags rounds).Keeps
      (KernelUntouched nv) := by
  refine Keeps.bind (keeps_observe _) ?_
  intro shared
  refine Keeps.ite ?_ (recoveryLoop_untouched F crypto platform config cparams gbbFlags rounds rounds)
  exact (withUi_untouched _).bind fun _ => (withUi_untouched _).bind fun _ =>
    (withUi_untouched _).bind fun _ => withUi_untouched _

omit F

/-- The kernel that a boot has selected: a call of LoadKernel on the disk succeeded, the
outputs are those of the call, and kbuf is the start of the partition that it reports, which
met the policy. -/
structure Selected (handle : H) (k : KernelState W) (kbuf : Mem) (s : KernelBoot W T H) : Prop where
  success : (loadKernel crypto (platform.disk handle) platform.overrideGptEntryPriority cparams
    config.gpt k).1 = vbErrorSuccess
  params : s.params = (loadKernel crypto (platform.disk handle) platform.overrideGptEntryPriority
    cparams config.gpt k).2.params
  ram : s.ram = (loadKernel crypto (platform.disk handle) platform.overrideGptEntryPriority
    cparams config.gpt k).2.ram
  disk : s.diskHandle = some handle
  policy : ∃ subkey table i,
    kernelKey cparams k.shared k.params.bootMode = .ok subkey ∧
    (readGpt (platform.disk handle) (gptFor config.gpt k.params) k.disk).1 = some table ∧
    Reported (platform.disk handle) table i kbuf s.params ∧
    KernelAccepted crypto (kernelChecks k.params k.shared k.vnc subkey) kbuf s.ram s.params

/-- The outputs of LoadKernel are still the same. -/
structure SameKernel (s s' : KernelBoot W T H) : Prop where
  params : s'.params = s.params
  ram : s'.ram = s.ram
  handle : s'.diskHandle = s.diskHandle

variable {crypto platform config cparams} in
theorem Selected.congr {handle : H} {k : KernelState W} {kbuf : Mem} {s' : KernelBoot W T H}
    (h : Selected crypto platform config cparams handle k kbuf s) (hs : SameKernel s s') :
    Selected crypto platform config cparams handle k kbuf s' := by
  obtain ⟨subkey, table, i, hkey, hread, hr, ha⟩ := h.policy
  refine ⟨h.success, hs.params.trans h.params, hs.ram.trans h.ram, hs.handle.trans h.disk,
    subkey, table, i, hkey, hread, ?_, ?_⟩
  · rw [hs.params]
    exact hr
  · rw [hs.params, hs.ram]
    exact ha

/-- In normal mode a search for a kernel either leaves the version alone, or selects a kernel
and raises the version to at most its own. -/
inductive SearchOutcome (s s' : KernelBoot W T H) (retval : UInt32) : Prop where
  | failed (error : retval ≠ vbErrorSuccess)
      (shared : SharedAfter s.shared s'.shared s.shared.kernelVersionTpm)
  | selected (success : retval = vbErrorSuccess) (handle : H) (k : KernelState W) (kbuf : Mem)
      (selected : Selected crypto platform config cparams handle k kbuf s')
      (shared : SharedAfter s.shared s'.shared s'.shared.kernelVersionTpm)
      (bound : s.shared.kernelVersionTpm < s'.shared.kernelVersionTpm →
        s'.shared.kernelVersionTpm ≤ kernelCombinedVersion kbuf)

theorem SharedAfter.trans {a b c : VbSharedData} {v : UInt32}
    (h : SharedAfter a b a.kernelVersionTpm) (h' : SharedAfter b c v) : SharedAfter a c v :=
  ⟨h'.version, h'.start.trans h.start, h'.tried.trans h.tried, h'.index.trans h.index⟩

theorem or_and (a b m : UInt64) : (a ||| b) &&& m = a &&& m ||| b &&& m :=
  UInt64.toBitVec_inj.mp BitVec.and_or_distrib_right

theorem or_external (flags : UInt64) (external : Bool) (mask : UInt64)
    (h : bootFlagExternalGpt &&& mask = 0) :
    (flags ||| (if external then bootFlagExternalGpt else 0)) &&& mask = flags &&& mask := by
  have hx : (if external then bootFlagExternalGpt else 0) &&& mask = 0 := by
    cases external with
    | true => exact h
    | false => exact UInt64.zero_and
  rw [or_and, hx, UInt64.or_zero]

theorem bootMode_congr {p p' : LoadKernelParams}
    (hrec : p'.bootFlags &&& bootFlagRecovery = p.bootFlags &&& bootFlagRecovery)
    (hdev : p'.bootFlags &&& bootFlagDeveloper = p.bootFlags &&& bootFlagDeveloper) :
    p'.bootMode = p.bootMode := by
  have h1 : p'.recSwitch = p.recSwitch := congrArg (· != 0) hrec
  have h2 : p'.devSwitch = p.devSwitch := congrArg (· != 0) hdev
  rw [LoadKernelParams.bootMode, LoadKernelParams.bootMode, h1, h2]

variable (info : VbDiskInfo H)

theorem diskParams_bootMode (p : LoadKernelParams) :
    (diskParams info p).bootMode = p.bootMode :=
  bootMode_congr (or_external p.bootFlags _ bootFlagRecovery (by decide))
    (or_external p.bootFlags _ bootFlagDeveloper (by decide))

theorem raiseKernelVersion_le {shared : VbSharedData} {lowest bound : UInt32}
    (hl : lowest ≤ bound)
    (h : shared.kernelVersionTpm < (raiseKernelVersion shared lowest).kernelVersionTpm) :
    (raiseKernelVersion shared lowest).kernelVersionTpm ≤ bound := by
  dsimp only [raiseKernelVersion] at h ⊢
  split_ifs at h ⊢
  · exact hl
  · exact absurd h (UInt32.lt_irrefl _)

theorem tryDisk_outcome
    (hm : s.params.bootMode = .normal) :
    (tryDisk crypto platform config cparams info).Ends s fun r s' =>
      s'.params.bootMode = .normal ∧
      ∀ retval, r = .ok retval → SearchOutcome crypto platform config cparams s s' retval := by
  have hmode : (s.kernelState info).params.bootMode = .normal :=
    (diskParams_bootMode info s.params).trans hm
  constructor
  · have hflags := loadKernel_bootFlags crypto (platform.disk info.handle)
      platform.overrideGptEntryPriority cparams config.gpt (s.kernelState info)
    exact (bootMode_congr (congrArg (· &&& _) hflags) (congrArg (· &&& _) hflags)).trans hmode
  · intro retval hr
    cases hr
    have hout := loadKernel_outcome crypto (platform.disk info.handle)
      platform.overrideGptEntryPriority cparams config.gpt (s.kernelState info)
    cases hout with
    | failed error shared => exact .failed error shared
    | booted success subkey table valid lowest i kbuf key read booting shared =>
      have hdev : (kernelChecks (s.kernelState info).params (s.kernelState info).shared
          (s.kernelState info).vnc subkey).mode ≠ .developer := by
        change (s.kernelState info).params.bootMode ≠ .developer
        rw [hmode]
        decide
      have hlow := booting.lowest (booting.signed hdev)
      have hversion := shared.version
      refine .selected success info.handle (s.kernelState info) kbuf
        ⟨success, rfl, rfl, rfl, subkey, table, i, key, read, booting.reported, booting.accepted⟩
        ⟨rfl, shared.start, shared.tried, shared.index⟩ fun hlt => ?_
      change s.shared.kernelVersionTpm < (loadKernel crypto _ _ cparams _ _).2.shared.kernelVersionTpm
        at hlt
      change (loadKernel crypto _ _ cparams _ _).2.shared.kernelVersionTpm ≤ _
      rw [hversion] at hlt ⊢
      exact raiseKernelVersion_le hlow hlt

theorem tryDisks_outcome
    (hm : s.params.bootMode = .normal) (hr : retval ≠ vbErrorSuccess) :
    (tryDisks crypto platform config cparams getInfoFlags retval disks).Ends s fun r s' =>
      ∀ retval, r = .ok retval → SearchOutcome crypto platform config cparams s s' retval := by
  induction disks generalizing retval s with
  | nil =>
    refine ends_pure fun retval' h => ?_
    cases h
    exact .failed hr ⟨rfl, rfl, rfl, rfl⟩
  | cons info rest ih =>
    unfold tryDisks
    split_ifs
    · refine (tryDisk_outcome crypto platform config cparams info hm).seq (fun _ _ _ _ h => by cases h) ?_
      rintro retval₁ s₁ ⟨hm₁, h1⟩
      split_ifs with hsuccess
      · exact ends_pure h1
      cases h1 retval₁ rfl with
      | selected success => exact absurd success hsuccess
      | failed error shared =>
        -- a disk without a kernel leaves the version for the next one
        apply (ih retval₁ hm₁ hsuccess).mono
        intro r s₂ h2 retval₂ hok
        cases h2 retval₂ hok with
        | failed error₂ shared₂ => exact .failed error₂ (shared.version ▸ shared.trans shared₂)
        | selected success₂ handle k kbuf selected shared₂ bound =>
          exact .selected success₂ handle k kbuf selected (shared.trans shared₂) (shared.version ▸ bound)
    · exact ih retval hm hr

theorem endSearch_ends (s : KernelBoot W T H) :
    (endSearch platform retval).Ends s fun r s' => s'.shared = s.shared ∧
      (retval = vbErrorSuccess → SameKernel s s') ∧ ∀ retval', r = .ok retval' → retval' = retval := by
  have hrest (s₁ : KernelBoot W T H) (hs : s₁.shared = s.shared)
      (hk : retval = vbErrorSuccess → SameKernel s s₁) :
      Ends (do
        let handle ← observe fun s => s.diskHandle
        withUi (call (platform.diskFreeInfo handle))
        return retval : KernelM W T H UInt32) s₁ fun r s' => s'.shared = s.shared ∧
        (retval = vbErrorSuccess → SameKernel s s') ∧
        ∀ retval', r = .ok retval' → retval' = retval := by
    apply ends_observe_bind
    apply withUi_bind_ends
    · exact fun e u => ⟨hs, fun h => ⟨(hk h).params, (hk h).ram, (hk h).handle⟩, fun _ h => by cases h⟩
    · intro _ u
      refine ends_pure ⟨hs, fun h => ⟨(hk h).params, (hk h).ram, (hk h).handle⟩, fun _ h => ?_⟩
      cases h
      rfl
  unfold endSearch
  by_cases h : retval = vbErrorSuccess
  · rw [h, bne_self_eq_false]
    apply Ends.bind
    rw [h] at hrest
    exact hrest s rfl fun _ => ⟨rfl, rfl, rfl⟩
  · rw [bne_iff_ne.mpr h]
    apply Ends.bind
    apply withUi_bind_ends
    · exact fun e u => ⟨rfl, fun h' => absurd h' h, fun _ h => by cases h⟩
    · exact fun _ u => hrest { s with ui := u, diskHandle := none } rfl fun h' => absurd h' h

theorem vbTryLoadKernel_outcome (hm : s.params.bootMode = .normal) :
    (vbTryLoadKernel crypto platform config cparams getInfoFlags).Ends s fun r s' =>
      ∀ retval, r = .ok retval → SearchOutcome crypto platform config cparams s s' retval := by
  have herror (e : Stop) (s' : KernelBoot W T H) (retval : UInt32)
      (h : (.error e : Except Stop UInt32) = .ok retval) :
      SearchOutcome crypto platform config cparams s s' retval := by cases h
  have hno : vbErrorNoDiskFound ≠ vbErrorSuccess := by decide
  apply ends_update_bind
  apply withUi_bind_ends (fun e _ => herror e _)
  intro info u
  dsimp only
  generalize (if info.1 = vbErrorSuccess then info.2 else []) = disks
  split_ifs
  · apply withUi_bind_ends (fun e _ => herror e _)
    intro _ u
    refine ends_pure fun retval h => ?_
    cases h
    exact .failed hno ⟨rfl, rfl, rfl, rfl⟩
  · refine (tryDisks_outcome crypto platform config cparams getInfoFlags vbErrorUnknown disks
      (s := { s with diskHandle := none, ui := u }) hm (by decide)).seq (fun e s₁ _ => herror e s₁) ?_
    intro retval s₁ h1
    apply (endSearch_ends platform retval s₁).mono
    rintro r s₂ ⟨hs, hk, hr⟩ retval' hok
    rw [hr retval' hok]
    cases h1 retval rfl with
    | failed error shared => exact .failed error (hs ▸ shared)
    | selected success handle k kbuf selected shared bound =>
      exact .selected success handle k kbuf (selected.congr (hk success)) (hs ▸ shared) (hs ▸ bound)

end
end Vboot
