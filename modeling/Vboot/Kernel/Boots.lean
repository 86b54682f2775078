import Vboot.Firmware.Boots
import Vboot.Kernel.Paths

/-! Sequences of boots through VbSelectAndLoadKernel and the kernel version that the TPM keeps
from one to the next. -/
namespace Vboot
open Vboot.Lib Vboot.Lib.Program Vboot.Gpt

section
variable {W T H S Ctx : Type} (crypto : Crypto Ctx) (platform : Platform W H S)
  (config : KernelConfig) (cparams : VbCommonParams) (nv : Contents T)

structure KernelWrite (s s' : KernelBoot W (Recorded T) H) (w : WriteCommand T) : Prop where
  recovery : s.shared.recoveryReason = 0
  developer : devBoot config.firmwareType s.shared = false
  tried : tryingFirmwareB s.shared = false
  before : kernelVersion nv w.before = kernelVersion nv s.tpm.tpm
  above : kernelVersion nv w.before < w.version kernelVersionsOffset
  booted : ∃ handle k kbuf, Selected crypto platform config cparams handle k kbuf s' ∧
    w.version kernelVersionsOffset ≤ kernelCombinedVersion kbuf

structure BootWrites (s s' : KernelBoot W (Recorded T) H) : Prop where
  issued : Issued (fun w => w.index = kernelNvIndex →
    KernelWrite crypto platform config cparams nv s s' w) s.tpm s'.tpm
  accounted : Accounted nv kernelNvIndex kernelVersionsOffset s.tpm s'.tpm
  defined : Defined nv kernelNvIndex kernelSpaceSize s'.tpm.tpm

/-- The TPM is left alone apart from other spaces, and the selected kernel is the same. -/
structure After (s s' : KernelBoot W (Recorded T) H) : Prop where
  kernel : SameKernel s s'
  untouched : KernelUntouched nv s s'

instance : Std.Refl (After (W := W) (H := H) nv) :=
  ⟨fun s => ⟨⟨rfl, rfl, rfl⟩, refl s⟩⟩

instance : IsTrans (KernelBoot W (Recorded T) H) (After nv) where
  trans s s' s'' h h' :=
    ⟨⟨h'.kernel.params.trans h.kernel.params, h'.kernel.ram.trans h.kernel.ram,
      h'.kernel.handle.trans h.kernel.handle⟩, IsTrans.trans s s' s'' h.untouched h'.untouched⟩

variable {crypto platform config cparams nv} {tlcl : Tlcl T}

section
variable {s₀ s s' : KernelBoot W (Recorded T) H}

theorem BootWrites.of_untouched (hd : Defined nv kernelNvIndex kernelSpaceSize s₀.tpm.tpm)
    (h : KernelUntouched nv s₀ s) : BootWrites crypto platform config cparams nv s₀ s where
  issued := h.issued.mono fun _ hne hi => absurd hi hne
  accounted := h.accounted
  defined := by
    rw [Defined, h.same]
    exact hd

theorem BootWrites.after (h : BootWrites crypto platform config cparams nv s₀ s)
    (ha : After nv s s') : BootWrites crypto platform config cparams nv s₀ s' where
  issued := by
    refine Issued.trans (h.issued.mono fun w hw hi => ?_)
      (ha.untouched.issued.mono fun _ hne hi => absurd hi hne)
    obtain ⟨hrec, hdev, htried, hbefore, habove, handle, k, kbuf, hsel, hle⟩ := hw hi
    exact ⟨hrec, hdev, htried, hbefore, habove, handle, k, kbuf, hsel.congr ha.kernel, hle⟩
  accounted := IsTrans.trans s₀.tpm s.tpm s'.tpm h.accounted ha.untouched.accounted
  defined := by
    rw [Defined, ha.untouched.same]
    exact h.defined

theorem withUi_after {α : Type} (x : UiM W α) :
    (withUi x : KernelM W (Recorded T) H α).Keeps (After nv) :=
  fun s => ⟨⟨rfl, rfl, rfl⟩, refl s.tpm⟩

end

/-- Reading the version leaves the TPM alone, and what was read is in the shared data. -/
structure VersionRead (nv : Contents T) (s s' : KernelBoot W (Recorded T) H)
    (r : Except Stop UInt32) : Prop where
  silent : Silent nv s.tpm s'.tpm
  reason : s'.shared.recoveryReason = s.shared.recoveryReason
  flags : s'.shared.flags = s.shared.flags
  index : s'.shared.firmwareIndex = s.shared.firmwareIndex
  version : r = .ok vbErrorSuccess → s.shared.recoveryReason = 0 →
    s'.shared.kernelVersionTpm = kernelVersion nv s.tpm.tpm ∧
    s'.shared.kernelVersionTpmStart = kernelVersion nv s.tpm.tpm

section
variable (F : Faithful tlcl nv)
include F

theorem readKernelVersion_ends {s : KernelBoot W (Recorded T) H}
    (hd : Defined nv kernelNvIndex kernelSpaceSize s.tpm.tpm) :
    (readKernelVersion (recording tlcl)).Ends s fun r s' => VersionRead nv s s' r := by
  have hread : (rollbackKernelRead (recording tlcl)).Ends s.tpm fun r t => Silent nv s.tpm t ∧
      ∀ v, r = .ok v → v = kernelVersion nv s.tpm.tpm :=
    ⟨rollbackKernelRead_silent F s.tpm, rollbackKernelRead_ends (recording_faithful F) hd⟩
  have hne : vbErrorTpmReadKernel ≠ vbErrorSuccess := by decide
  apply ends_observe_bind
  apply withTpm_bind_ends hread
  rintro r t ⟨hs, hv⟩
  cases r with
  | error e =>
    dsimp only
    split_ifs with hrec
    · apply withUi_bind_ends
      · exact fun e u => ⟨hs, rfl, rfl, rfl, fun h => by cases h⟩
      · exact fun _ u => ends_pure ⟨hs, rfl, rfl, rfl, fun h => absurd (Except.ok.inj h) hne⟩
    · apply ends_update_bind
      exact ends_pure ⟨hs, rfl, rfl, rfl, fun _ h => absurd h hrec⟩
  | ok version =>
    apply ends_update_bind
    exact ends_pure ⟨hs, rfl, rfl, rfl, fun _ _ => ⟨hv version rfl, hv version rfl⟩⟩

variable (hread : ∀ t, Defined nv kernelNvIndex kernelSpaceSize t →
  (tlcl.read kernelNvIndex kernelSpaceSize t).1 = 0) {s₀ s : KernelBoot W (Recorded T) H}
  (hd : Defined nv kernelNvIndex kernelSpaceSize s₀.tpm.tpm)
include hread hd

theorem updateKernelVersion_writes (hs : Silent nv s₀.tpm s.tpm)
    (hrec : s₀.shared.recoveryReason = 0) (hdev : devBoot config.firmwareType s₀.shared = false)
    (htried : tryingFirmwareB s₀.shared = false)
    (hraise : s.shared.kernelVersionTpm > s.shared.kernelVersionTpmStart →
      kernelVersion nv s₀.tpm.tpm < s.shared.kernelVersionTpm ∧
      ∃ handle k kbuf, Selected crypto platform config cparams handle k kbuf s ∧
        s.shared.kernelVersionTpm ≤ kernelCombinedVersion kbuf) :
    (updateKernelVersion (recording tlcl)).Ends s fun _ s' =>
      BootWrites crypto platform config cparams nv s₀ s' := by
  apply ends_observe_bind
  split_ifs with hgt
  · obtain ⟨habove, handle, k, kbuf, hsel, hle⟩ := hraise hgt
    have hds : Defined nv kernelNvIndex kernelSpaceSize s.tpm.tpm := by
      rw [Defined, hs.same]
      exact hd
    have hw : (rollbackKernelWrite (recording tlcl) s.shared.kernelVersionTpm).Ends s.tpm fun _ t =>
        Issued (fun w => w.index = kernelNvIndex ∧
          w.version kernelVersionsOffset = s.shared.kernelVersionTpm ∧ nv w.before = nv s.tpm.tpm)
          s.tpm t ∧
        Accounted nv kernelNvIndex kernelVersionsOffset s.tpm t ∧
        Defined nv kernelNvIndex kernelSpaceSize t.tpm :=
      ⟨rollbackKernelWrite_issued F hread _ hds,
        (respects_accounted F (by decide)).rollbackKernelWrite _ s.tpm,
        (rollbackKernelWrite_wrote (recording_faithful F) _ hds).defined⟩
    apply withTpm_bind_ends hw
    rintro r t ⟨hi, ha, hdt⟩
    have hwrites : BootWrites crypto platform config cparams nv s₀ { s with tpm := t } := by
      refine ⟨(Issued.of_eq hs.writes).trans (hi.mono fun w hw _ => ?_),
        IsTrans.trans s₀.tpm s.tpm t hs.untouched.accounted ha, hdt⟩
      have hb := kernelVersion_congr (congrFun (hw.2.2.trans hs.same) _)
      refine ⟨hrec, hdev, htried, hb, ?_, handle, k, kbuf, hsel.congr ⟨rfl, rfl, rfl⟩, ?_⟩
      · rw [hb, hw.2.1]
        exact habove
      · rw [hw.2.1]
        exact hle
    cases r with
    | error e =>
      apply withUi_bind_ends
      · exact fun e u => hwrites.after ⟨⟨rfl, rfl, rfl⟩, refl t⟩
      · exact fun _ u => ends_pure (hwrites.after ⟨⟨rfl, rfl, rfl⟩, refl t⟩)
    | ok _ => exact ends_pure hwrites
  · exact ends_pure (.of_untouched hd hs.untouched)

omit F hread hd in
theorem tryingFirmwareB_after {a b : VbSharedData} {v : UInt32} (h : SharedAfter a b v) :
    tryingFirmwareB b = tryingFirmwareB a := by
  rw [tryingFirmwareB, tryingFirmwareB, hasFlag, hasFlag, h.index, h.tried]

theorem normalPath_writes (hs : Silent nv s₀.tpm s.tpm)
    (hrec : s₀.shared.recoveryReason = 0) (hdev : devBoot config.firmwareType s₀.shared = false)
    (htried : tryingFirmwareB s.shared = tryingFirmwareB s₀.shared)
    (hversion : s.shared.kernelVersionTpm = kernelVersion nv s₀.tpm.tpm)
    (hstart : s.shared.kernelVersionTpmStart = kernelVersion nv s₀.tpm.tpm)
    (hm : s.params.bootMode = .normal) :
    (normalPath crypto (recording tlcl) platform config cparams).Ends s fun _ s' =>
      BootWrites crypto platform config cparams nv s₀ s' := by
  have hquiet {s' : KernelBoot W (Recorded T) H} (h : s'.tpm = s.tpm) :
      BootWrites crypto platform config cparams nv s₀ s' :=
    .of_untouched hd (IsTrans.trans s₀ s s' hs.untouched (SameTpm.untouched h))
  apply withUi_bind_ends
  · exact fun e u => hquiet rfl
  intro _ u
  have hsearch : (vbBootNormal crypto platform config cparams).Ends { s with ui := u } fun r s' =>
      s'.tpm = s.tpm ∧
      ∀ retval, r = .ok retval →
        SearchOutcome crypto platform config cparams { s with ui := u } s' retval :=
    ⟨vbTryLoadKernel_sameTpm crypto platform config cparams _ { s with ui := u },
      vbTryLoadKernel_outcome crypto platform config cparams _ hm⟩
  refine hsearch.seq (fun _ _ h => hquiet h.1) ?_
  rintro retval s₁ ⟨ht, hout⟩
  have hs₁ : Silent nv s₀.tpm s₁.tpm := ht ▸ hs
  -- what the search leaves for the decision whether to write
  have hb : tryingFirmwareB s₁.shared = tryingFirmwareB s₀.shared := by
    rw [← htried]
    cases hout retval rfl with
    | failed _ shared => exact tryingFirmwareB_after shared
    | selected _ _ _ _ _ shared => exact tryingFirmwareB_after shared
  have hraise (hgt : s₁.shared.kernelVersionTpm > s₁.shared.kernelVersionTpmStart) :
      kernelVersion nv s₀.tpm.tpm < s₁.shared.kernelVersionTpm ∧
      ∃ handle k kbuf, Selected crypto platform config cparams handle k kbuf s₁ ∧
        s₁.shared.kernelVersionTpm ≤ kernelCombinedVersion kbuf := by
    cases hout retval rfl with
    | failed _ shared =>
      rw [shared.version, shared.start, hstart, hversion] at hgt
      exact absurd hgt (UInt32.lt_irrefl _)
    | selected _ handle k kbuf selected shared bound =>
      rw [shared.start, hstart] at hgt
      exact ⟨hgt, handle, k, kbuf, selected, bound (by rw [hversion]; exact hgt)⟩
  apply ends_observe_bind
  split_ifs with htry
  · apply Ends.bind
    cases (retval == vbErrorInvalidKernelFound) with
    | false => exact hquiet ht
    | true => exact hquiet ht
  · have hnot : tryingFirmwareB s₀.shared = false := by
      rw [← hb]
      exact Bool.not_eq_true _ ▸ htry
    exact (updateKernelVersion_writes F hread hd hs₁ hrec hdev hnot hraise).seq (fun _ _ h => h) fun _ _ h => h

variable (gbbFlags : UInt32) (rounds : Nat)

omit F hread hd in
theorem startParams_normal {firmwareType : FirmwareType} {size : UInt32} {shared : VbSharedData}
    {kparams : VbSelectAndLoadKernelParams H} (hrec : shared.recoveryReason = 0)
    (hdev : devBoot firmwareType shared = false) :
    (startParams firmwareType size shared kparams).bootMode = .normal := by
  have hflags : (startParams firmwareType size shared kparams).bootFlags = 0 := by
    rw [startParams, hdev, hrec]
    rfl
  rw [LoadKernelParams.bootMode, LoadKernelParams.recSwitch, LoadKernelParams.devSwitch, hflags]
  rfl

theorem bootPath_writes
    (hv : VersionRead nv s₀ s (.ok vbErrorSuccess))
    (hp : s.params = startParams config.firmwareType cparams.sharedDataSize s.shared s.kparams) :
    (bootPath crypto (recording tlcl) platform config cparams gbbFlags rounds).Ends s fun _ s' =>
      BootWrites crypto platform config cparams nv s₀ s' := by
  have hquiet {x : KernelM W (Recorded T) H UInt32} (hx : x.Keeps (KernelUntouched nv)) :
      x.Ends s fun _ s' => BootWrites crypto platform config cparams nv s₀ s' :=
    .of_untouched hd (IsTrans.trans s₀ s _ hv.silent.untouched (hx s))
  have hdevBoot : devBoot config.firmwareType s.shared = devBoot config.firmwareType s₀.shared := by
    have hon : bootDevSwitchOn s.shared = bootDevSwitchOn s₀.shared := by
      rw [bootDevSwitchOn, hv.flags, bootDevSwitchOn]
    cases config.firmwareType with
    | normal => rfl
    | merged => exact hon
    | developer => exact hon
  apply ends_observe_bind
  split_ifs with h1 h2 h3
  · exact hquiet ((withUi_untouched _).bind fun _ => keeps_pure _)
  · exact hquiet ((vbBootRecovery_untouched F crypto platform config cparams gbbFlags rounds).bind
      fun _ => (withUi_untouched _).bind fun _ => (withUi_untouched _).bind fun _ => keeps_pure _)
  · exact hquiet ((vbBootDeveloper_untouched F crypto platform config cparams gbbFlags rounds).bind
      fun _ => (withUi_untouched _).bind fun _ => (withUi_untouched _).bind fun _ => keeps_pure _)
  · have hrec := not_not.mp h2
    have hrec₀ := hv.reason.symm.trans hrec
    have hdev := Bool.not_eq_true _ ▸ h3
    obtain ⟨hversion, hstart⟩ := hv.version rfl hrec₀
    refine normalPath_writes F hread hd hv.silent hrec₀ (hdevBoot.symm.trans hdev) ?_ hversion hstart ?_
    · rw [tryingFirmwareB, tryingFirmwareB, hv.index, hv.flags]
    · rw [hp]
      exact startParams_normal hrec hdev

omit hread hd in
theorem finishKernel_after :
    (finishKernel (recording tlcl) : KernelM W (Recorded T) H UInt32).Keeps (After nv) := by
  have hset : (update fun s => { s with kparams := { s.kparams with
      diskHandle := s.diskHandle
      partitionNumber := s.params.partitionNumber.toUInt32
      bootloaderAddress := s.params.bootloaderAddress
      bootloaderSize := s.params.bootloaderSize.toUInt32
      flags := s.params.flags
      partitionGuid := s.params.partitionGuid } } : KernelM W (Recorded T) H Unit).Keeps
        (After nv) := fun s => ⟨⟨rfl, rfl, rfl⟩, refl s.tpm⟩
  have hlock (b : Bool) : (lockKernel (recording tlcl) b : KernelM W (Recorded T) H UInt32).Keeps
      (After nv) := fun s => ⟨⟨rfl, rfl, rfl⟩, lockKernel_untouched F b s⟩
  apply hset.bind
  intro _
  refine Keeps.bind (keeps_observe _) fun shared => ?_
  apply (hlock _).bind
  intro r
  exact ((withUi_after _).bind fun _ => keeps_pure _).ite (keeps_pure _)

theorem bootKernel_writes (hs : SameData s₀ s) :
    (bootKernel crypto (recording tlcl) platform config cparams gbbFlags rounds).Ends s fun _ s' =>
      BootWrites crypto platform config cparams nv s₀ s' := by
  have hquiet {s' : KernelBoot W (Recorded T) H} (h : Silent nv s₀.tpm s'.tpm) :
      BootWrites crypto platform config cparams nv s₀ s' := .of_untouched hd h.untouched
  have hsame : Silent nv s₀.tpm s.tpm := ⟨congrArg _ hs.tpm, congrArg (fun t => nv t.tpm) hs.tpm⟩
  apply ends_observe_bind
  apply withUi_bind_ends
  · exact fun e u => hquiet hsame
  intro done u
  split_ifs
  · exact ends_pure (hquiet hsame)
  have hread' := readKernelVersion_ends F (s := { s with ui := u }) (hs.tpm ▸ hd)
  have hsilent {s₁ : KernelBoot W (Recorded T) H} {r : Except Stop UInt32}
      (h1 : VersionRead nv { s with ui := u } s₁ r) : Silent nv s₀.tpm s₁.tpm := hs.tpm ▸ h1.silent
  refine hread'.seq (fun _ _ h1 => hquiet (hsilent h1)) fun retval s₁ h1 => ?_
  have hs₁ := hsilent h1
  split_ifs with hok
  · exact ends_pure (hquiet hs₁)
  have hv : VersionRead nv s₀ s₁ (.ok vbErrorSuccess) := by
    obtain ⟨-, hreason, hflags, hindex, hversion⟩ := h1
    rw [not_not.mp hok] at hversion
    change _ → s.shared.recoveryReason = 0 → _ = kernelVersion nv s.tpm.tpm ∧
      _ = kernelVersion nv s.tpm.tpm at hversion
    rw [hs.tpm, hs.shared] at hversion
    exact ⟨hs₁, hreason.trans (congrArg _ hs.shared), hflags.trans (congrArg _ hs.shared),
      hindex.trans (congrArg _ hs.shared), hversion⟩
  apply ends_update_bind
  refine Ends.seq (bootPath_writes F hread hd gbbFlags rounds ?_ rfl) (fun _ _ h => h) fun retval s₂ h2 => ?_
  · exact ⟨hv.silent, hv.reason, hv.flags, hv.index, hv.version⟩
  split_ifs
  · exact ends_pure h2
  · exact ((finishKernel_after F).ends s₂).mono fun _ s₃ h3 => h2.after h3

omit F hread hd in
theorem ecSyncAll_sameData :
    (ecSyncAll platform config gbbFlags : KernelM W T H UInt32).Keeps SameData := by
  have hsync (devidx : Nat) :
      (ecSyncDevice platform config devidx : KernelM W T H (UInt32 × Bool)).Keeps SameData :=
    Keeps.bind (keeps_observe _) fun _ => (withUi_sameData _).bind fun _ =>
      (keeps_pure _).ite (keeps_pure _)
  refine Keeps.bind (keeps_observe _) fun shared => ?_
  refine Keeps.ite ?_ (keeps_pure _)
  apply (hsync 0).bind
  intro ec
  refine (keeps_pure _).ite (Keeps.ite ?_ (keeps_pure _))
  exact (hsync 1).bind fun pd => (keeps_pure _).ite (keeps_pure _)

theorem vbSelectAndLoadKernel_writes :
    (vbSelectAndLoadKernel crypto (recording tlcl) platform config cparams rounds).Ends s₀
      fun _ s' => BootWrites crypto platform config cparams.readHeader.2 nv s₀ s' := by
  have hquiet {s' : KernelBoot W (Recorded T) H} (h : SameData s₀ s') :
      BootWrites crypto platform config cparams.readHeader.2 nv s₀ s' :=
    .of_untouched hd (SameTpm.untouched h.tpm)
  apply ends_update_bind
  have hselect : (selectKernel crypto (recording tlcl) platform config cparams.readHeader.2
      cparams.readHeader.2.gbb.gbbFlags rounds cparams.readHeader.1).Ends
      { s₀ with
        ui := { s₀.ui with vnc := vbNvSetup s₀.ui.storage }
        kparams := { s₀.kparams with
          diskHandle := none
          partitionNumber := 0
          bootloaderAddress := 0
          bootloaderSize := 0
          flags := 0
          partitionGuid := List.replicate 16 0 } }
      fun _ s' => BootWrites crypto platform config cparams.readHeader.2 nv s₀ s' := by
    unfold selectKernel
    split_ifs
    · exact ends_pure (hquiet ⟨rfl, rfl⟩)
    · refine ((ecSyncAll_sameData _).ends _).seq (fun _ _ h1 => hquiet ⟨h1.tpm, h1.shared⟩) fun _ s₁ h1 => ?_
      split_ifs
      · exact ends_pure (hquiet ⟨h1.tpm, h1.shared⟩)
      · exact bootKernel_writes F hread hd _ rounds ⟨h1.tpm, h1.shared⟩
  refine hselect.seq (fun _ _ h => h) fun retval s₁ h1 => ?_
  have hlast {s' : KernelBoot W (Recorded T) H} (hk : SameKernel s₁ s') (ht : s'.tpm = s₁.tpm) :=
    h1.after ⟨hk, SameTpm.untouched ht⟩
  exact withUi_bind_ends (fun _ _ => hlast ⟨rfl, rfl, rfl⟩ rfl)
    fun _ _ => ends_update_bind (ends_pure (hlast ⟨rfl, rfl, rfl⟩ rfl))

end

structure Outputs (s : KernelBoot W T H) : Prop where
  diskHandle : s.kparams.diskHandle = s.diskHandle
  partitionNumber : s.kparams.partitionNumber = s.params.partitionNumber.toUInt32
  bootloaderAddress : s.kparams.bootloaderAddress = s.params.bootloaderAddress
  bootloaderSize : s.kparams.bootloaderSize = s.params.bootloaderSize.toUInt32
  flags : s.kparams.flags = s.params.flags
  partitionGuid : s.kparams.partitionGuid = s.params.partitionGuid

section
variable (tlcl : Tlcl T) (gbbFlags : UInt32) (rounds : Nat) (s : KernelBoot W T H)

theorem lockKernel_bind_ends {β : Type} {recoveryMode : Bool} {f : UInt32 → KernelM W T H β}
    {s : KernelBoot W T H} {Q : Except Stop β → KernelBoot W T H → Prop}
    (h : ∀ r t locked, (f r).Ends { s with tpm := t, kernelLocked := locked } Q) :
    Ends (lockKernel tlcl recoveryMode >>= f) s Q :=
  Ends.bind (h _ _ _)

theorem finishKernel_outputs : (finishKernel tlcl).Ends s fun _ s' => Outputs s' := by
  apply ends_update_bind
  apply ends_observe_bind
  apply lockKernel_bind_ends
  intro r t locked
  split_ifs
  · exact withUi_bind_ends (fun e u => ⟨rfl, rfl, rfl, rfl, rfl, rfl⟩)
      fun _ u => ends_pure ⟨rfl, rfl, rfl, rfl, rfl, rfl⟩
  · exact ends_pure ⟨rfl, rfl, rfl, rfl, rfl, rfl⟩

theorem ends_checked {x y : KernelM W T H UInt32} {P : KernelBoot W T H → Prop} {s : KernelBoot W T H}
    (hy : ∀ s, y.Ends s fun r s' => r = .ok vbErrorSuccess → P s') :
    Ends (x >>= fun retval => if retval ≠ vbErrorSuccess then pure retval else y) s fun r s' =>
      r = .ok vbErrorSuccess → P s' := by
  refine ends_bind_of_run (fun retval s₁ _ => ?_) fun _ _ _ h => by cases h
  split_ifs with hr
  · exact ends_pure fun h => absurd (Except.ok.inj h) hr
  · exact hy s₁

theorem vbSelectAndLoadKernel_outputs :
    (vbSelectAndLoadKernel crypto tlcl platform config cparams rounds).Ends s fun r s' =>
      r = .ok vbErrorSuccess → Outputs s' := by
  have hboot (gbbFlags : UInt32) (cparams : VbCommonParams) (s : KernelBoot W T H) :
      (bootKernel crypto tlcl platform config cparams gbbFlags rounds).Ends s fun r s' =>
        r = .ok vbErrorSuccess → Outputs s' := by
    apply ends_observe_bind
    apply ends_checked
    intro s
    apply ends_checked
    intro s
    apply ends_update_bind
    apply ends_checked
    exact fun s => (finishKernel_outputs tlcl s).mono fun _ _ h _ => h
  have hselect (s : KernelBoot W T H) : (selectKernel crypto tlcl platform config
      cparams.readHeader.2 cparams.readHeader.2.gbb.gbbFlags rounds cparams.readHeader.1).Ends s
      fun r s' => r = .ok vbErrorSuccess → Outputs s' := by
    unfold selectKernel
    split_ifs with hh
    · exact ends_pure fun h => absurd (Except.ok.inj h) hh
    · exact ends_checked (hboot _ _)
  refine ends_update_bind ((hselect _).seq (fun _ _ _ h => by cases h) fun retval s₁ h1 => ?_)
  refine withUi_bind_ends (fun e u h => by cases h) fun _ u => ends_update_bind (ends_pure fun h => ?_)
  obtain ⟨h1, h2, h3, h4, h5, h6⟩ := h1 h
  exact ⟨h1, h2, h3, h4, h5, h6⟩

end

/-- What one boot finds besides the TPM. Uninitialised memory is part of it, and what happens
to the TPM between the boot before and this one. -/
structure KernelBootInput (W T H S Ctx : Type) where
  crypto : Crypto Ctx
  platform : Platform W H S
  config : KernelConfig
  cparams : VbCommonParams
  rounds : Nat
  ui : Ui W
  kernelLocked : Bool
  shared : VbSharedData
  params : LoadKernelParams
  diskHandle : Option H
  ram : Mem
  kparams : VbSelectAndLoadKernelParams H
  between : T → T

namespace KernelBootInput

/-- The state in which VbSelectAndLoadKernel is called. -/
def start (b : KernelBootInput W T H S Ctx) (t : Recorded T) : KernelBoot W (Recorded T) H where
  ui := b.ui
  tpm := { t with tpm := b.between t.tpm }
  kernelLocked := b.kernelLocked
  shared := b.shared
  params := b.params
  diskHandle := b.diskHandle
  ram := b.ram
  kparams := b.kparams

/-- The result of the boot and the state that it leaves. -/
def finish (tlcl : Tlcl T) (b : KernelBootInput W T H S Ctx) (t : Recorded T) :
    Except Stop UInt32 × KernelBoot W (Recorded T) H :=
  vbSelectAndLoadKernel b.crypto (recording tlcl) b.platform b.config b.cparams b.rounds (b.start t)

end KernelBootInput

def kernelBoot (tlcl : Tlcl T) (t : Recorded T) (b : KernelBootInput W T H S Ctx) : Recorded T :=
  (b.finish tlcl t).2.tpm

/-- The rules for the kernel version in one boot: every write of it is one that is allowed, it
only changes by such a write, and a boot that succeeds reports the kernel it has selected. -/
structure KernelBootKeeps (tlcl : Tlcl T) (nv : Contents T) (b : KernelBootInput W T H S Ctx)
    (t : Recorded T) : Prop where
  writes : ∃ ws, (kernelBoot tlcl t b).writes = t.writes ++ ws ∧
    (∀ w ∈ ws, w.index = kernelNvIndex → KernelWrite b.crypto b.platform b.config
      b.cparams.readHeader.2 nv (b.start t) (b.finish tlcl t).2 w) ∧
    (kernelVersion nv (kernelBoot tlcl t b).tpm = kernelVersion nv t.tpm ∨
      ∃ w ∈ ws, w.index = kernelNvIndex ∧
        w.version kernelVersionsOffset = kernelVersion nv (kernelBoot tlcl t b).tpm)
  outputs : (b.finish tlcl t).1 = .ok vbErrorSuccess → Outputs (b.finish tlcl t).2

section
variable {tlcl : Tlcl T} (F : Faithful tlcl nv)
  (hread : ∀ t, Defined nv kernelNvIndex kernelSpaceSize t →
    (tlcl.read kernelNvIndex kernelSpaceSize t).1 = 0)
include F hread

variable {b : KernelBootInput W T H S Ctx}

theorem kernelBoot_keeps
    (hb : ∀ t, nv (b.between t) kernelNvIndex = nv t kernelNvIndex) {t : Recorded T}
    (hd : Defined nv kernelNvIndex kernelSpaceSize t.tpm) :
    KernelBootKeeps tlcl nv b t ∧
      Defined nv kernelNvIndex kernelSpaceSize (kernelBoot tlcl t b).tpm := by
  have hd₀ : Defined nv kernelNvIndex kernelSpaceSize (b.between t.tpm) := by
    rw [Defined, hb]
    exact hd
  have hv₀ := kernelVersion_congr (hb t.tpm)
  have hwrites : BootWrites b.crypto b.platform b.config b.cparams.readHeader.2 nv (b.start t)
      (b.finish tlcl t).2 := vbSelectAndLoadKernel_writes F hread hd₀ b.rounds
  obtain ⟨⟨ws, hw, hissued⟩, ⟨ws', hw', haccount⟩, hdefined⟩ := hwrites
  have hws : ws' = ws := List.append_cancel_left (hw'.symm.trans hw)
  rw [hws] at haccount
  refine ⟨⟨⟨ws, hw, hissued, ?_⟩, ?_⟩, hdefined⟩
  · rw [← hv₀]
    exact haccount
  · exact vbSelectAndLoadKernel_outputs (recording tlcl) b.rounds (b.start t)

omit F hread in
theorem KernelBootKeeps.le {t : Recorded T}
    (hb : ∀ t, nv (b.between t) kernelNvIndex = nv t kernelNvIndex)
    (h : KernelBootKeeps tlcl nv b t) :
    kernelVersion nv t.tpm ≤ kernelVersion nv (kernelBoot tlcl t b).tpm := by
  obtain ⟨ws, -, hallowed, hversion⟩ := h.writes
  rcases hversion with hsame | ⟨w, hmem, hi, hv⟩
  · rw [hsame]
    exact UInt32.le_refl _
  · have hw := hallowed w hmem hi
    rw [← hv, ← kernelVersion_congr (hb t.tpm)]
    exact UInt32.le_of_lt (hw.before ▸ hw.above)

variable (bs : List (KernelBootInput W T H S Ctx))
  (hb : ∀ b ∈ bs, ∀ t, nv (b.between t) kernelNvIndex = nv t kernelNvIndex)
include hb

/-- Over every sequence of boots the kernel version in the TPM never decreases. It is written
only in normal mode and not while firmware B is tried, each time with a higher version, which
is at most that of the kernel that the boot selects. -/
theorem kernel_version_boots (t : T) (hd : Defined nv kernelNvIndex kernelSpaceSize t) :
    (∀ u v, bs = u ++ v → kernelVersion nv (run (kernelBoot tlcl) ⟨t, []⟩ u).tpm ≤
      kernelVersion nv (run (kernelBoot tlcl) ⟨t, []⟩ bs).tpm) ∧
    ∀ u b v, bs = u ++ b :: v → KernelBootKeeps tlcl nv b (run (kernelBoot tlcl) ⟨t, []⟩ u) := by
  have hstep (b : KernelBootInput W T H S Ctx) (hmem : b ∈ bs) (t : Recorded T)
      (hd : Defined nv kernelNvIndex kernelSpaceSize t.tpm) :
      Defined nv kernelNvIndex kernelSpaceSize (kernelBoot tlcl t b).tpm ∧
      kernelVersion nv t.tpm ≤ kernelVersion nv (kernelBoot tlcl t b).tpm ∧ KernelBootKeeps tlcl nv b t := by
    obtain ⟨hkeep, hdef⟩ := kernelBoot_keeps F hread (hb b hmem) hd
    exact ⟨hdef, hkeep.le (hb b hmem), hkeep⟩
  exact run_rises (fun t : Recorded T => kernelVersion nv t.tpm) hstep hd

end
end

/-- A platform with one disk, no user and nothing else. -/
def samplePlatform (kernel : Mem) : Platform Unit Unit Unit where
  diskGetInfo flags _ := ((0, [⟨(), 512, 100, 0, flags ||| vbDiskFlagExternalGpt⟩]), ())
  diskFreeInfo _ _ := ((), ())
  disk _ := sampleDisk kernel
  overrideGptEntryPriority _ := 0
  isShutdownRequested _ := (0, ())
  keyboardRead _ := (0, ())
  keyboardReadWithFlags _ := ((0, 0), ())
  getSwitches _ _ := (0, ())
  beep _ _ _ := ((), ())
  sleepMs _ _ := ((), ())
  displayScreen _ _ _ := (false, ())
  redrawScreen _ _ := (false, ())
  displayDebugInfo _ := ((), ())
  localizationCount _ := ((0, 1), ())
  audioOpen _ := ((), ())
  audioLooping _ := (false, ())
  audioClose _ := ((), ())
  legacy _ := (false, ())
  trustEC _ := (true, ())
  ecRunningRW _ _ := ((0, 0), ())
  ecJumpToRW _ _ := (0, ())
  ecDisableJump _ _ := (0, ())
  ecHashImage _ _ _ := ((0, fun _ => 0, 32), ())
  ecGetExpectedImage _ _ _ := ((0, []), ())
  ecGetExpectedImageHash _ _ _ := ((0, fun _ => 0, 32), ())
  ecUpdateImage _ _ _ _ := (0, ())
  ecProtect _ _ _ := (0, ())
  ecEnteringMode _ _ := ((), ())
  ecVbootDone _ _ := (0, ())

/-- A normal boot of a kernel of version 1.2. -/
def sampleKernelBoot : KernelBootInput Unit (UInt32 → List UInt8) Unit Unit Unit where
  crypto := anyCrypto
  platform := samplePlatform (sampleKernel 1 2)
  config := ⟨fun _ => [], .merged, false, [], sampleTable⟩
  cparams := sampleCommon
  rounds := 0
  ui := ⟨(), vbNvSetup (Vector.replicate 16 0), Vector.replicate 16 0⟩
  kernelLocked := false
  shared := (sampleKernelState 0).shared
  params := (sampleKernelState 0).params
  diskHandle := none
  ram := fun _ => 0
  kparams := ⟨0, 0, none, 0, 0, 0, [], 0⟩
  between := id

def sampleKernelTpm (version : UInt32) : UInt32 → List UInt8 :=
  Function.update (fun _ => []) kernelNvIndex
    ((sealSpace kernelSpaceSize (Mem.ofList (2 :: leBytes32 rollbackSpaceKernelUid ++
      leBytes32 version))).load 0 kernelSpaceSize)

theorem plainTlcl_read (t : UInt32 → List UInt8) (index : UInt32) {size : Nat}
    (h : Defined id index size t) (hs : 0 < size) : (plainTlcl.read index size t).1 = 0 := by
  have hlen : (t index).length = size := h
  have hne : t index ≠ [] := fun hnil => by
    rw [hnil, List.length_nil] at hlen
    omega
  have hge : ¬ (t index).length < size := by omega
  change (if t index = [] then _ else if (t index).length < size then _ else 0) = 0
  rw [if_neg hne, if_neg hge]

/-- Two boots from version 1.1. -/
theorem kernel_version_sample_boots :
    kernelVersion id (sampleKernelTpm 0x10001) = 0x10001 ∧
    KernelBootKeeps plainTlcl id sampleKernelBoot ⟨sampleKernelTpm 0x10001, []⟩ ∧
    KernelBootKeeps plainTlcl id sampleKernelBoot
      (run (kernelBoot plainTlcl) ⟨sampleKernelTpm 0x10001, []⟩ [sampleKernelBoot]) := by
  have hboots := (kernel_version_boots plainTlcl_faithful
    (fun t h => plainTlcl_read t kernelNvIndex h (by decide)) [sampleKernelBoot, sampleKernelBoot]
    (fun b hb t => by
      have he : b = sampleKernelBoot := by simpa using hb
      rw [he]
      rfl)
    (sampleKernelTpm 0x10001) (by unfold Defined; decide +kernel)).2
  exact ⟨by decide +kernel, hboots [] sampleKernelBoot [sampleKernelBoot] rfl,
    hboots [sampleKernelBoot] sampleKernelBoot [] rfl⟩

end Vboot
