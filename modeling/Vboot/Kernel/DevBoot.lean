import Vboot.Kernel.Independence

/-! What VbBootDeveloper may boot from. A callback that it does not call makes no difference when it is
replaced by another. -/
namespace Vboot
open Vboot.Lib Vboot.Lib.Program Vboot.Gpt

section
variable {W T H S α β Ctx : Type} (crypto : Crypto Ctx) (tlcl : Tlcl T) (platform : Platform W H S)
  (config : KernelConfig) (cparams : VbCommonParams) (gbbFlags : UInt32) (rounds : Nat)
  (settings : DevSettings) (getInfo : UInt32 → W → (UInt32 × List (VbDiskInfo H)) × W) (legacy : W → Bool × W)

/-- Other disks and other legacy firmware. -/
def Platform.replace : Platform W H S := { platform with diskGetInfo := getInfo, legacy := legacy }

/-- Only removable disks that are not allowed are others, and the legacy firmware may take over where
it did not. -/
structure Replaces : Prop where
  fixed : getInfo vbDiskFlagFixed = platform.diskGetInfo vbDiskFlagFixed
  usb : settings.allowUsb = true → getInfo vbDiskFlagRemovable = platform.diskGetInfo vbDiskFlagRemovable
  legacy : ∀ w, legacy w = platform.legacy w ∨ (legacy w).1 = true

/-- Legacy firmware is allowed, and the new one has taken over right after the kernel space was
locked. -/
def LegacyLocked (r : Except Stop α × KernelBoot W T H) : Prop :=
  settings.allowLegacy = true ∧ r.1 = .error .legacy ∧ ∃ s₀ s₁, lockKernel tlcl false s₀ = (.ok 0, s₁) ∧
    legacy s₁.ui.world ≠ platform.legacy s₁.ui.world ∧
    r.2 = { s₁ with ui := { s₁.ui with world := (legacy s₁.ui.world).2 } }

theorem tryDisks_replace (flags retval : UInt32) (disks : List (VbDiskInfo H)) :
    (tryDisks crypto (platform.replace getInfo legacy) config cparams flags retval disks :
      KernelM W T H UInt32) = tryDisks crypto platform config cparams flags retval disks := by
  induction disks generalizing retval with
  | nil => rfl
  | cons info rest ih =>
    simp only [tryDisks, ih]
    rfl

theorem vbUserConfirms_replace (shared : VbSharedData) (flags : UInt32) (n : Nat) (pressed : Bool) :
    vbUserConfirms (platform.replace getInfo legacy) gbbFlags shared flags n pressed =
      vbUserConfirms platform gbbFlags shared flags n pressed := by
  induction n generalizing pressed with
  | zero => rfl
  | succ n ih =>
    simp only [vbUserConfirms, ih]
    rfl

variable {platform settings getInfo legacy}

theorem vbTryLoadKernel_replace {flags : UInt32} (h : getInfo flags = platform.diskGetInfo flags) :
    (vbTryLoadKernel crypto (platform.replace getInfo legacy) config cparams flags : KernelM W T H UInt32) =
      vbTryLoadKernel crypto platform config cparams flags := by
  unfold vbTryLoadKernel
  simp only [tryDisks_replace]
  change _ = (setDiskHandle none >>= fun _ => withUi (call (platform.diskGetInfo flags)) >>= _)
  rw [← h]
  rfl

theorem callLegacy_run (platform : Platform W H S) (s : KernelBoot W T H) :
    withUi (callLegacy platform) s = (if (platform.legacy s.ui.world).1 then .error .legacy else .ok (),
      { s with ui := { s.ui with world := (platform.legacy s.ui.world).2 } }) := by
  have hrun : callLegacy platform s.ui = (if (platform.legacy s.ui.world).1 then .error .legacy else .ok (),
      { s.ui with world := (platform.legacy s.ui.world).2 }) := by
    have hcall : call platform.legacy s.ui = (.ok (platform.legacy s.ui.world).1, _) := rfl
    rw [callLegacy, bind_of_ok hcall]
    cases (platform.legacy s.ui.world).1 <;> rfl
  simp only [withUi, zoom, hrun]

/-- Both programs do the same unless legacy firmware takes over in the second. -/
def SameOrLocked (platform : Platform W H S) (settings : DevSettings) (legacy : W → Bool × W)
    (x y : KernelM W T H α) : Prop :=
  ∀ s, y s = x s ∨ LegacyLocked tlcl platform settings legacy (y s)

variable {tlcl} {x y : KernelM W T H α}

theorem SameOrLocked.of_eq (h : y = x) : SameOrLocked tlcl platform settings legacy x y :=
  fun s => .inl (congrFun h s)

theorem SameOrLocked.bind {f g : α → KernelM W T H β}
    (h : SameOrLocked tlcl platform settings legacy x y) (hf : ∀ a, SameOrLocked tlcl platform settings legacy (f a) (g a)) :
    SameOrLocked tlcl platform settings legacy (x >>= f) (y >>= g) := by
  intro s
  cases h s with
  | inr hlocked =>
    obtain ⟨ha, he, hl⟩ := hlocked
    rw [bind_of_error (Prod.ext he rfl)]
    exact .inr ⟨ha, rfl, hl⟩
  | inl hsame =>
    rw [bind_run y, bind_run x, hsame]
    rcases x s with ⟨e | a, s₁⟩
    · exact .inl rfl
    · exact hf a s₁

namespace Replaces
variable (h : Replaces platform settings getInfo legacy)
include h

theorem vbTryLegacy : SameOrLocked tlcl platform settings legacy
    (Vboot.vbTryLegacy (H := H) tlcl platform settings.allowLegacy)
    (Vboot.vbTryLegacy tlcl (platform.replace getInfo legacy) settings.allowLegacy) := by
  unfold Vboot.vbTryLegacy
  split_ifs with ha
  · intro s
    obtain ⟨r, s₁, hlock⟩ : ∃ r s₁, lockKernel tlcl false s = (.ok r, s₁) := ⟨_, _, rfl⟩
    rw [bind_of_ok hlock, bind_of_ok hlock]
    by_cases hr : r = 0
    · subst hr
      have hcall := callLegacy_run (T := T) (platform.replace getInfo legacy) s₁
      simp only [doIf, beq_self_eq_true, if_true]
      by_cases hsame : legacy s₁.ui.world = platform.legacy s₁.ui.world
      · left
        have hcall' := callLegacy_run (T := T) platform s₁
        rw [← hsame] at hcall'
        simp only [bind_run, hcall, hcall']
        rfl
      · right
        have hover := hcall.trans (congrArg (·, _) (if_pos ((h.legacy s₁.ui.world).resolve_left hsame)))
        rw [bind_of_error hover]
        exact ⟨ha, rfl, s, s₁, hlock, hsame, rfl⟩
    · left
      simp only [doIf, beq_false_of_ne hr, Bool.false_eq_true, if_false]
      rfl
  · exact .of_eq rfl

theorem devUsb : (Vboot.devUsb crypto (platform.replace getInfo legacy) config cparams settings.allowUsb :
    KernelM W T H DevStep) = Vboot.devUsb crypto platform config cparams settings.allowUsb := by
  cases ha : settings.allowUsb with
  | false => rfl
  | true =>
    unfold Vboot.devUsb vbTryUsb
    rw [vbTryLoadKernel_replace crypto config cparams (h.usb ha)]
    rfl

theorem devKey (key : UInt32) : SameOrLocked tlcl platform settings legacy
    (Vboot.devKey crypto tlcl platform config cparams gbbFlags rounds settings key : KernelM W T H DevStep)
    (Vboot.devKey crypto tlcl (platform.replace getInfo legacy) config cparams gbbFlags rounds settings key) := by
  unfold Vboot.devKey
  simp only [devSpace, devToNorm, vbUserConfirms_replace, h.devUsb]
  split_ifs
  any_goals exact .of_eq rfl
  exact h.vbTryLegacy.bind fun _ => .of_eq rfl

theorem devLoop (n : Nat) : SameOrLocked tlcl platform settings legacy
    (Vboot.devLoop crypto tlcl platform config cparams gbbFlags rounds settings n : KernelM W T H _)
    (Vboot.devLoop crypto tlcl (platform.replace getInfo legacy) config cparams gbbFlags rounds settings n) := by
  induction n with
  | zero => exact .of_eq rfl
  | succ n ih =>
    refine SameOrLocked.bind (.of_eq rfl) fun shutdown => ?_
    split_ifs
    · exact .of_eq rfl
    · refine SameOrLocked.bind (.of_eq rfl) fun key => (h.devKey crypto config cparams gbbFlags rounds key).bind ?_
      intro step
      cases step with
      | done retval => exact .of_eq rfl
      | fallout => exact .of_eq rfl
      | stay =>
        refine SameOrLocked.bind (.of_eq rfl) fun looping => ?_
        split_ifs
        · exact ih
        · exact .of_eq rfl

theorem devFallout (ctrlDPressed : Bool) : SameOrLocked tlcl platform settings legacy
    (Vboot.devFallout crypto tlcl platform config cparams settings ctrlDPressed : KernelM W T H UInt32)
    (Vboot.devFallout crypto tlcl (platform.replace getInfo legacy) config cparams settings ctrlDPressed) := by
  have hfixed := @vbTryLoadKernel_replace W T H S Ctx crypto platform config cparams getInfo legacy _ h.fixed
  refine SameOrLocked.bind ?_ fun _ => .of_eq ?_
  · cases settings.useLegacy && !ctrlDPressed with
    | true => exact h.vbTryLegacy
    | false => exact .of_eq rfl
  · split_ifs with hc
    · unfold vbTryUsb
      rw [hfixed, vbTryLoadKernel_replace crypto config cparams (h.usb hc.2.2)]
      rfl
    · rw [hfixed]
      rfl

end Replaces

theorem vbBootDeveloper_replace (s : KernelBoot W T H)
    (h : Replaces platform (devSettings gbbFlags s.ui.vnc) getInfo legacy) :
    vbBootDeveloper crypto tlcl (platform.replace getInfo legacy) config cparams gbbFlags rounds s =
      vbBootDeveloper crypto tlcl platform config cparams gbbFlags rounds s ∨
    LegacyLocked tlcl platform (devSettings gbbFlags s.ui.vnc) legacy
      (vbBootDeveloper crypto tlcl (platform.replace getInfo legacy) config cparams gbbFlags rounds s) := by
  rw [vbBootDeveloper, vbBootDeveloper, observe_bind, observe_bind]
  generalize devSettings gbbFlags s.ui.vnc = settings at h ⊢
  refine SameOrLocked.bind (.of_eq rfl) (fun _ => SameOrLocked.bind (.of_eq rfl) fun _ =>
    (h.devLoop crypto config cparams gbbFlags rounds rounds).bind fun result => ?_) s
  cases result with
  | inl retval => exact .of_eq rfl
  | inr pressed => exact h.devFallout crypto config cparams pressed

/-- VbBootDeveloper looks for removable disks only if they are allowed when it is called. Wherever
legacy firmware takes over, it is allowed, and the kernel space was locked for that. -/
theorem developer_boot_allowed (tlcl : Tlcl T) (platform : Platform W H S) (s : KernelBoot W T H) :
    let allowed := devSettings gbbFlags s.ui.vnc
    let boot := fun platform => vbBootDeveloper crypto tlcl platform config cparams gbbFlags rounds s
    (allowed.allowUsb = false →
      ∀ getInfo, getInfo vbDiskFlagFixed = platform.diskGetInfo vbDiskFlagFixed →
        boot { platform with diskGetInfo := getInfo } = boot platform) ∧
    ∀ legacy, (∀ w, legacy w = platform.legacy w ∨ (legacy w).1 = true) →
      boot { platform with legacy := legacy } = boot platform ∨
        LegacyLocked tlcl platform allowed legacy (boot { platform with legacy := legacy }) := by
  refine ⟨fun husb getInfo hfixed => ?_, fun legacy hlegacy => ?_⟩
  · have h : Replaces platform (devSettings gbbFlags s.ui.vnc) getInfo platform.legacy :=
      ⟨hfixed, fun ha => absurd (ha.symm.trans husb) (by decide), fun _ => .inl rfl⟩
    refine (vbBootDeveloper_replace crypto config cparams gbbFlags rounds s h).resolve_right ?_
    rintro ⟨-, -, _, _, -, hne, -⟩
    exact hne rfl
  · exact vbBootDeveloper_replace crypto config cparams gbbFlags rounds s
      ⟨rfl, fun _ => rfl, hlegacy⟩

end
/-- Nothing is allowed: neither removable disks nor legacy firmware would make a difference. -/
theorem developer_boot_sample :
    let s : KernelBoot Unit (UInt32 → List UInt8) Unit := { noFlagsBoot with tpm := fun _ => [] }
    let boot := fun platform => vbBootDeveloper anyCrypto plainTlcl platform sampleKernelBoot.config
      sampleCommon 0 1 s
    (devSettings 0 s.ui.vnc).allowUsb = false ∧ (devSettings 0 s.ui.vnc).allowLegacy = false ∧
    boot { deadPlatform with diskGetInfo := fun flags => if flags = vbDiskFlagFixed then
      deadPlatform.diskGetInfo flags else fun _ => ((1, []), ()) } = boot deadPlatform ∧
    boot { deadPlatform with legacy := fun _ => (true, ()) } = boot deadPlatform := by
  intro s boot
  have hallowed := developer_boot_allowed anyCrypto sampleKernelBoot.config sampleCommon 0 1 plainTlcl
    deadPlatform s
  have hlegacy : (devSettings 0 s.ui.vnc).allowLegacy = false := by decide
  refine ⟨by decide, hlegacy, hallowed.1 (by decide) _ rfl, (hallowed.2 _ fun _ => .inr rfl).resolve_right ?_⟩
  exact fun h => absurd (h.1.symm.trans hlegacy) (by decide)

end Vboot
