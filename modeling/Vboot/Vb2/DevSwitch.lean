import Vboot.Common.OwnerClear
import Vboot.Firmware.Boots
import Vboot.Vb2.Frame
import Vboot.Vb2.Slots

/-! The flag for a developer boot in secdata, and the clear of the TPM owner in vb2_check_dev_switch; with
SetupTPM the same over runs of boots. -/
namespace Vboot.Vb2
open Vboot.Lib Vboot.Lib.Program

def secdataLastBoot (sec : Secdata) : Bool :=
  sec.flags.toUInt32 &&& vb2SecdataFlagLastBootDeveloper != 0

def requestedFlags (ctx : Vb2Context) : UInt32 :=
  let flags := if vb2NvGet ctx .disableDevRequest ≠ 0 then
    ctx.secdata.flags.toUInt32 &&& ~~~vb2SecdataFlagDevMode else ctx.secdata.flags.toUInt32
  if ctx.flags &&& vb2DisableDeveloperMode ≠ 0 then flags &&& ~~~vb2SecdataFlagDevMode else flags

def devState (ctx : Vb2Context) : Bool := isDev ctx (requestedFlags ctx)

def switchFlags (ctx : Vb2Context) : UInt32 :=
  if devState ctx then requestedFlags ctx ||| vb2SecdataFlagLastBootDeveloper
  else requestedFlags ctx &&& ~~~vb2SecdataFlagLastBootDeveloper

def afterRequest (ctx : Vb2Context) : Vb2Context :=
  if vb2NvGet ctx .disableDevRequest ≠ 0 then vb2NvSet ctx .disableDevRequest 0 else ctx

/-- The context in which the owner is cleared, if that is needed. -/
def beforeClear (ctx : Vb2Context) : Vb2Context :=
  let entered := if devState ctx then enterDev (afterRequest ctx) else enterNormal (afterRequest ctx)
  if ctx.flags &&& vb2ContextForceWipeoutMode ≠ 0 then vb2NvSet entered .reqWipeout 1 else entered

section
variable {ctx : Vb2Context}

theorem afterRequest_only (ctx : Vb2Context) : NvOnly ctx (afterRequest ctx) := by
  unfold afterRequest
  split_ifs
  · exact vb2NvSet_only ctx _ _
  · exact .refl ctx

theorem afterRequest_flags {m : UInt32} (hm : vb2ContextNvdataChanged &&& m = 0) :
    (afterRequest ctx).flags &&& m = ctx.flags &&& m := by
  cases (afterRequest_only ctx).flags with
  | inl h => rw [h]
  | inr h => rw [h, Flags.or_and_of_disjoint hm]

theorem isDev_afterRequest (flags : UInt32) : isDev (afterRequest ctx) flags = isDev ctx flags := by
  have hsd : (afterRequest ctx).sd = ctx.sd := by rw [(afterRequest_only ctx).rest]
  rw [isDev, isDev, afterRequest_flags (by decide), hsd]

theorem beforeClear_kept (ctx : Vb2Context) :
    (beforeClear ctx).secdata = ctx.secdata ∧ (beforeClear ctx).sd.status = ctx.sd.status := by
  have hentered : (if devState ctx then enterDev (afterRequest ctx) else enterNormal (afterRequest ctx)).secdata =
      ctx.secdata ∧ (if devState ctx then enterDev (afterRequest ctx) else
        enterNormal (afterRequest ctx)).sd.status = ctx.sd.status := by
    split_ifs
    · rw [enterDev, (afterRequest_only ctx).rest]
      exact ⟨rfl, rfl⟩
    · rw [enterNormal, ((afterRequest_only ctx).trans (vb2NvSets_only _ _)).rest]
      exact ⟨rfl, rfl⟩
  unfold beforeClear
  dsimp only
  split_ifs at hentered ⊢
  all_goals first
    | exact hentered
    | rw [(vb2NvSet_only _ _ _).rest]
      exact hentered

theorem vb2SecdataGet_flags (h : ctx.sd.status &&& vb2SdStatusSecdataInit ≠ 0) :
    vb2SecdataGet ctx .flags = .ok ctx.secdata.flags.toUInt32 := by
  rw [vb2SecdataGet, reject_bind_of_not h]
  rfl

variable (ex : Vb2Ex)

theorem vb2CheckDevSwitch_eq (h : ctx.sd.status &&& vb2SdStatusSecdataInit ≠ 0) :
    vb2CheckDevSwitch ex ctx = doIf (switchFlags ctx ≠ ctx.secdata.flags.toUInt32)
      (clearOwner ex true (switchFlags ctx)) (beforeClear ctx) := by
  have hsecure : inspect secureFlags ctx =
      ((.ok (true, ctx.secdata.flags.toUInt32) : Except UInt32 (Bool × UInt32)), ctx) := by
    rw [inspect, secureFlags, vb2SecdataGet_flags h]
  rw [vb2CheckDevSwitch, bind_of_ok hsecure]
  dsimp only
  rw [observe_bind, bind_of_ok (doIf_update _ _ _), observe_bind, update_bind,
    bind_of_ok (doIf_update _ _ _)]
  have hafter : (if vb2NvGet ctx .disableDevRequest ≠ 0 then vb2NvSet ctx .disableDevRequest 0 else ctx) =
      afterRequest ctx := rfl
  simp only [id, Bool.true_and, decide_eq_true_eq]
  rw [hafter]
  have hdisable : (afterRequest ctx).flags &&& vb2DisableDeveloperMode =
      ctx.flags &&& vb2DisableDeveloperMode := afterRequest_flags (by decide)
  have hwipeout : (afterRequest ctx).flags &&& vb2ContextForceWipeoutMode =
      ctx.flags &&& vb2ContextForceWipeoutMode := afterRequest_flags (by decide)
  simp only [hdisable, hwipeout, isDev_afterRequest]
  have hentered : (if devState ctx then enterDev else enterNormal) (afterRequest ctx) =
      if devState ctx then enterDev (afterRequest ctx) else enterNormal (afterRequest ctx) := by
    cases devState ctx <;> rfl
  rw [beforeClear, ← hentered]
  rfl

theorem clearOwner_eq (flags : UInt32) (s : Vb2Context) :
    clearOwner ex true flags s = if ex.tpmClearOwner s = vb2Success then
      transform (vb2SecdataSet · .flags flags) s
    else (.error (ex.tpmClearOwner s), vb2Fail vb2RecoveryTpmClearOwner (ex.tpmClearOwner s).toUInt8 s) := by
  rw [clearOwner, observe_bind, doIf, if_pos rfl]
  split_ifs with h
  · rw [h]
    rfl
  · have hrejected : inspect (fun _ => reject (ex.tpmClearOwner s ≠ vb2Success) (ex.tpmClearOwner s)) s =
        ((.error (ex.tpmClearOwner s) : Except UInt32 Unit), s) := by
      rw [inspect, reject, if_pos h]
    exact bind_of_error (catch_of_error hrejected)

theorem toUInt8_toUInt32_of_le {value : UInt32} (h : value ≤ 0xff) : value.toUInt8.toUInt32 = value := by
  have hle := UInt32.le_iff_toNat_le.mp h
  change value.toNat ≤ 255 at hle
  apply UInt32.toNat_inj.mp
  rw [UInt8.toNat_toUInt32, UInt32.toNat_toUInt8]
  omega

theorem vb2SecdataSet_stores {s : Vb2Context} (hread : s.sd.status &&& vb2SdStatusSecdataInit ≠ 0)
    {flags : UInt32} (hle : flags ≤ 0xff) :
    ∃ s', transform (vb2SecdataSet · .flags flags) s = ((.ok () : Except UInt32 Unit), s') ∧
      s'.secdata.flags.toUInt32 = flags := by
  have hset : ∃ s', vb2SecdataSet s .flags flags = .ok s' := by
    rw [vb2SecdataSet, reject_bind_of_not hread, vb2SecdataPut, reject_bind_of_not (UInt32.not_lt.mpr hle)]
    split_ifs
    · exact ⟨_, rfl⟩
    · exact ⟨_, rfl⟩
  obtain ⟨s', hset⟩ := hset
  refine ⟨s', transform_ok.mpr hset, ?_⟩
  rcases (vb2SecdataSet_ok hset).2 with ⟨hget, rfl⟩ | ⟨sec, hput, rfl⟩
  · rw [vb2SecdataGet_flags hread] at hget
    exact Except.ok.inj hget
  · obtain ⟨-, rfl⟩ := vb2SecdataPut_flags hput
    have hflags : (s.secdata.setFlags flags.toUInt8).regenCrc.flags = flags.toUInt8 := by
      simp [Secdata.flags, Secdata.setFlags, Secdata.regenCrc]
    rw [hflags, toUInt8_toUInt32_of_le hle]

theorem switchFlags_le (ctx : Vb2Context) : switchFlags ctx ≤ 0xff := by
  have hand {a : UInt32} (m : UInt32) (h : a ≤ 0xff) : a &&& m ≤ 0xff := by
    rw [UInt32.le_iff_toNat_le, UInt32.toNat_and]
    exact Nat.and_le_left.trans (UInt32.le_iff_toNat_le.mp h)
  have hflags : ctx.secdata.flags.toUInt32 ≤ 0xff := by
    rw [UInt32.le_iff_toNat_le, UInt8.toNat_toUInt32]
    exact Nat.le_of_lt_succ ctx.secdata.flags.toNat_lt
  have hrequested : requestedFlags ctx ≤ 0xff := by
    unfold requestedFlags
    dsimp only
    split_ifs
    · exact hand _ (hand _ hflags)
    · exact hand _ hflags
    · exact hand _ hflags
    · exact hflags
  unfold switchFlags
  split_ifs
  · rw [UInt32.le_iff_toNat_le, UInt32.toNat_or]
    exact Nat.le_of_lt_succ (Nat.or_lt_two_pow (n := 8) (Nat.lt_succ_of_le (UInt32.le_iff_toNat_le.mp hrequested))
      (by decide))
  · exact hand _ hrequested

theorem switchFlags_lastBoot (ctx : Vb2Context) :
    (switchFlags ctx &&& vb2SecdataFlagLastBootDeveloper != 0) = devState ctx := by
  unfold switchFlags
  cases devState ctx with
  | true =>
    rw [if_pos rfl, Flags.or_and_self]
    rfl
  | false =>
    rw [if_neg (by decide), Flags.clear_and_self]
    rfl

theorem switchFlags_dev (h : vb2NvGet ctx .disableDevRequest ≠ 0) :
    switchFlags ctx &&& vb2SecdataFlagDevMode = 0 := by
  have hrequested : requestedFlags ctx &&& vb2SecdataFlagDevMode = 0 := by
    rw [requestedFlags, if_pos h]
    split_ifs
    · exact Flags.clear_and_self _ _
    · exact Flags.clear_and_self _ _
  unfold switchFlags
  split_ifs
  · rw [Flags.or_and_of_disjoint (by decide), hrequested]
  · rw [UInt32.and_assoc, UInt32.and_comm (~~~_), ← UInt32.and_assoc, hrequested, UInt32.zero_and]

/-- With readable secdata the call stores the flags that it computed if and only if the owner is
cleared. -/
theorem vb2CheckDevSwitch_flags (h : ctx.sd.status &&& vb2SdStatusSecdataInit ≠ 0) :
    (vb2CheckDevSwitch ex ctx).2.secdata.flags.toUInt32 =
      if ex.tpmClearOwner (beforeClear ctx) = vb2Success then switchFlags ctx
      else ctx.secdata.flags.toUInt32 := by
  rw [vb2CheckDevSwitch_eq ex h, doIf]
  by_cases hsame : switchFlags ctx = ctx.secdata.flags.toUInt32
  · rw [if_neg (by rw [decide_eq_true_eq, not_not]; exact hsame), hsame, ite_self]
    exact congrArg (fun sec => sec.flags.toUInt32) (beforeClear_kept ctx).1
  · rw [if_pos (decide_eq_true hsame), clearOwner_eq]
    split_ifs
    · obtain ⟨s', hset, hstored⟩ := vb2SecdataSet_stores 
        ((beforeClear_kept ctx).2 ▸ h) (switchFlags_le ctx)
      rw [hset]
      exact hstored
    · rw [(vb2Fail_secure _ _ _).1, (beforeClear_kept ctx).1]

end

/-- The call of vb2_check_dev_switch with a context of any contents, the functions of the caller in this
boot, and whether the caller then gets secdata back into the TPM. -/
structure SwitchBoot where
  ctx : Vb2Context
  ex : Vb2Ex
  saved : Bool

namespace SwitchBoot

def context (b : SwitchBoot) (sec : Secdata) : Vb2Context := { b.ctx with secdata := sec }

def result (b : SwitchBoot) (sec : Secdata) : Except UInt32 Unit × Vb2Context :=
  vb2CheckDevSwitch b.ex (b.context sec)

/-- With readable secdata, the call goes on from a context with the old data to the clear of the owner,
the flag is only changed if that succeeds, and a call that succeeds leaves the developer state that it
computed. -/
structure Safe (b : SwitchBoot) (sec : Secdata) : Prop where
  early : (beforeClear (b.context sec)).secdata = sec
  clears : b.ctx.sd.status &&& vb2SdStatusSecdataInit ≠ 0 →
    secdataLastBoot (b.result sec).2.secdata ≠ secdataLastBoot sec →
    b.result sec = clearOwner b.ex true (switchFlags (b.context sec)) (beforeClear (b.context sec)) ∧
      b.ex.tpmClearOwner (beforeClear (b.context sec)) = vb2Success
  stored : b.ctx.sd.status &&& vb2SdStatusSecdataInit ≠ 0 → (b.result sec).1 = .ok () →
    secdataLastBoot (b.result sec).2.secdata = devState (b.context sec)

theorem safe (b : SwitchBoot) (sec : Secdata) : b.Safe sec := by
  have hflags (hr : b.ctx.sd.status &&& vb2SdStatusSecdataInit ≠ 0) :
      (b.result sec).2.secdata.flags.toUInt32 = _ := vb2CheckDevSwitch_flags b.ex hr
  have heq (hr : b.ctx.sd.status &&& vb2SdStatusSecdataInit ≠ 0) : b.result sec = _ :=
    vb2CheckDevSwitch_eq b.ex hr
  refine ⟨(beforeClear_kept (b.context sec)).1, fun hr hne => ?_, fun hr hok => ?_⟩
  · have hchanged : (b.result sec).2.secdata.flags.toUInt32 ≠ (b.context sec).secdata.flags.toUInt32 := by
      intro hsame
      rw [secdataLastBoot, hsame] at hne
      exact hne rfl
    rw [hflags hr] at hchanged
    by_cases hclear : b.ex.tpmClearOwner (beforeClear (b.context sec)) = vb2Success
    · rw [if_pos hclear] at hchanged
      refine ⟨(heq hr).trans ?_, hclear⟩
      rw [doIf, if_pos (decide_eq_true hchanged)]
    · rw [if_neg hclear] at hchanged
      exact absurd rfl hchanged
  · rw [secdataLastBoot, hflags hr, ← switchFlags_lastBoot]
    split_ifs with hclear
    · rfl
    · -- without a clear of the owner a call only succeeds if it has nothing to store
      by_cases hsame : switchFlags (b.context sec) = (b.context sec).secdata.flags.toUInt32
      · rw [hsame]
      · rw [heq hr, doIf, if_pos (decide_eq_true hsame), clearOwner_eq, if_neg hclear] at hok
        cases hok

end SwitchBoot

variable {ctx : Vb2Context}

theorem vb2Fail_disableDevRequest (h : vb2NvGet ctx .disableDevRequest = 0)
    (reason subcode : UInt8) : vb2NvGet (vb2Fail reason subcode ctx) .disableDevRequest = 0 := by
  have hinit : vb2NvGet (vb2NvInit ctx) .disableDevRequest = 0 := by
    unfold vb2NvInit
    cases vb2NvCheckCrc ctx with
    | ok u => exact h
    | error e =>
      change vb2NvGet (vb2NvRegenCrc _) .disableDevRequest = 0
      rw [vb2NvRegenCrc_get]
      dsimp only [vb2NvGet]
      decide
  have hother (c : Vb2Context) {ops : List (Vb2NvParam × UInt32)} (ho : ∀ op ∈ ops, op.1 ≠ .disableDevRequest) :=
    vb2NvGet_sets_other c ho
  unfold vb2Fail
  dsimp only
  split_ifs <;> simp only [hother, hinit, h, List.forall_mem_cons, ne_eq, reduceCtorEq, not_false_eq_true,
    List.not_mem_nil, false_imp_iff, implies_true, and_self]

theorem beforeClear_disableDevRequest (h : vb2NvGet ctx .disableDevRequest ≠ 0) :
    vb2NvGet (beforeClear ctx) .disableDevRequest = 0 := by
  have hafter : vb2NvGet (afterRequest ctx) .disableDevRequest = 0 := by
    rw [afterRequest, if_pos h, vb2NvGet_set]
    rfl
  have hdev : vb2NvGet (enterDev (afterRequest ctx)) .disableDevRequest = 0 := hafter
  have hnormal : vb2NvGet (enterNormal (afterRequest ctx)) .disableDevRequest = 0 :=
    (vb2NvGet_sets_other _ (by simp)).trans hafter
  have hwipeout (c : Vb2Context) := @vb2NvGet_set_other .disableDevRequest c .reqWipeout (by decide) 1
  unfold beforeClear
  dsimp only
  split_ifs <;> simp only [hwipeout, hdev, hnormal]

/-- The request to leave developer mode and the flag for it after the call. -/
def DisableKept (ex : Vb2Ex) (ctx : Vb2Context) : Prop :=
  vb2NvGet (vb2CheckDevSwitch ex ctx).2 .disableDevRequest ≠ 0 ∨
    (vb2CheckDevSwitch ex ctx).2.secdata.flags.toUInt32 &&& vb2SecdataFlagDevMode = 0

theorem not_disableKept {ex : Vb2Ex} (hread : ctx.sd.status &&& vb2SdStatusSecdataInit ≠ 0)
    (hrequest : vb2NvGet ctx .disableDevRequest ≠ 0)
    (hdev : ctx.secdata.flags.toUInt32 &&& vb2SecdataFlagDevMode ≠ 0)
    (hfail : ex.tpmClearOwner (beforeClear ctx) ≠ vb2Success) : ¬ DisableKept ex ctx := by
  have hchanged : switchFlags ctx ≠ ctx.secdata.flags.toUInt32 := by
    intro hsame
    rw [← hsame, switchFlags_dev hrequest] at hdev
    exact hdev rfl
  rintro (hkept | hclear)
  · rw [vb2CheckDevSwitch_eq ex hread, doIf, if_pos (decide_eq_true hchanged), clearOwner_eq, if_neg hfail] at hkept
    exact hkept (vb2Fail_disableDevRequest (beforeClear_disableDevRequest hrequest) _ _)
  · rw [vb2CheckDevSwitch_flags ex hread, if_neg hfail] at hclear
    exact hdev hclear

/-- With readable secdata, a request to leave developer mode is kept unless the virtual developer switch
is on and the TPM owner cannot be cleared: the request is taken back before that is known. -/
theorem disable_request_kept_iff (ex : Vb2Ex) {ctx : Vb2Context}
    (hread : ctx.sd.status &&& vb2SdStatusSecdataInit ≠ 0)
    (hrequest : vb2NvGet ctx .disableDevRequest ≠ 0) :
    DisableKept ex ctx ↔ ctx.secdata.flags.toUInt32 &&& vb2SecdataFlagDevMode = 0 ∨
      ex.tpmClearOwner (beforeClear ctx) = vb2Success := by
  constructor
  · intro hkept
    by_contra hnot
    obtain ⟨hdev, hfail⟩ := not_or.mp hnot
    exact not_disableKept hread hrequest hdev hfail hkept
  · intro h
    right
    rw [vb2CheckDevSwitch_flags ex hread]
    split_ifs with hclear
    · exact switchFlags_dev hrequest
    · exact h.resolve_right hclear

/-- In developer mode, with a request to leave it. -/
def leavingContext : Vb2Context :=
  vb2NvSet { trialContext 0 with
    secdata := #v[0, vb2SecdataFlagDevMode.toUInt8, 0, 0, 0, 0, 0, 0, 0, 0]
    sd := { Vb2SharedData.zero with status := vb2SdStatusNvInit ||| vb2SdStatusSecdataInit } } .disableDevRequest 1

theorem disable_request_lost :
    leavingContext.sd.status &&& vb2SdStatusSecdataInit ≠ 0 ∧
    vb2NvGet leavingContext .disableDevRequest = 1 ∧
    ¬ DisableKept ⟨fun _ _ _ _ => .error 1, fun _ => 1⟩ leavingContext := by
  have hread : leavingContext.sd.status &&& vb2SdStatusSecdataInit ≠ 0 := by decide +kernel
  have hrequest : vb2NvGet leavingContext .disableDevRequest = 1 := vb2NvGet_set _ _ _
  exact ⟨hread, hrequest, not_disableKept hread (by rw [hrequest]; decide) (by decide +kernel) (by decide)⟩

theorem disable_request_kept_sample : DisableKept ⟨fun _ _ _ _ => .error 1, fun _ => 0⟩ leavingContext :=
  (disable_request_kept_iff _ (by decide +kernel) (by decide +kernel)).mpr (.inr rfl)

/-- What happens to secdata over the boots. -/
inductive SwitchEvent where
  | boot (b : SwitchBoot)
  | other (f : Secdata → Secdata)

def switchEventStep (sec : Secdata) : SwitchEvent → Secdata
  | .boot b => if b.saved then (b.result sec).2.secdata else sec
  | .other f => f sec

/-- After any run of boots in which any commands fail, SetupTPM and vb2_check_dev_switch change the flag
for the last boot only after they have cleared the TPM owner, and leave the developer state that they
computed if they succeed. If nothing else touches the flag, a run that changes it has a call that cleared
the owner. -/
theorem developer_flag_over_boots {T : Type} {nv : Contents T} (t : T) (u : List (TpmEvent nv))
    (sec : Secdata) (v : List SwitchEvent) :
    (∀ c : SetupCall nv, c.Safe (run tpmEventStep t u)) ∧
    (∀ b : SwitchBoot, b.Safe (run switchEventStep sec v)) ∧
    ((∀ f, .other f ∈ u → ∀ t, lastBootDeveloper nv (f t) = lastBootDeveloper nv t) →
      lastBootDeveloper nv (run tpmEventStep t u) ≠ lastBootDeveloper nv t →
      ∃ u₁ c u₂, u = u₁ ++ .setup c :: u₂ ∧ ∃ e ∈ c.steps (run tpmEventStep t u₁), e.cleared = true) ∧
    ((∀ f, .other f ∈ v → ∀ sec, secdataLastBoot (f sec) = secdataLastBoot sec) →
      (∀ b, .boot b ∈ v → b.ctx.sd.status &&& vb2SdStatusSecdataInit ≠ 0) →
      secdataLastBoot (run switchEventStep sec v) ≠ secdataLastBoot sec →
      ∃ v₁ b v₂, v = v₁ ++ .boot b :: v₂ ∧
        b.ex.tpmClearOwner (beforeClear (b.context (run switchEventStep sec v₁))) = vb2Success) := by
  refine ⟨fun c => c.safe _, fun b => b.safe _, fun hother hne => ?_, fun hother hread hne => ?_⟩
  · obtain ⟨u₁, i, u₂, hu, hi⟩ := run_changes (lastBootDeveloper nv) hne
    have hmem : i ∈ u := by
      rw [hu]
      exact List.mem_append_right u₁ List.mem_cons_self
    cases i with
    | setup c => exact ⟨u₁, c, u₂, hu, (c.safe _).cleared hi⟩
    | other f => exact absurd (hother f hmem _) hi
  · obtain ⟨v₁, i, v₂, hv, hi⟩ := run_changes secdataLastBoot hne
    have hmem : i ∈ v := by
      rw [hv]
      exact List.mem_append_right v₁ List.mem_cons_self
    cases i with
    | other f => exact absurd (hother f hmem _) hi
    | boot b =>
      refine ⟨v₁, b, v₂, hv, ?_⟩
      rw [switchEventStep] at hi
      split_ifs at hi
      · exact ((b.safe _).clears (hread b hmem) hi).2
      · exact absurd rfl hi

theorem plainTlcl_setupFaithful : SetupFaithful plainTlcl id where
  libInit := plainTlcl_faithful.libInit
  startup := plainTlcl_faithful.startup
  selfTestFull _ := rfl
  assertPhysicalPresence := plainTlcl_faithful.assertPhysicalPresence
  physicalPresenceCMDEnable := plainTlcl_faithful.physicalPresenceCMDEnable
  finalizePhysicalPresence _ := rfl
  setNvLocked _ := rfl
  forceClear := plainTlcl_faithful.forceClear
  setEnable := plainTlcl_faithful.setEnable
  setDeactivated := plainTlcl_faithful.setDeactivated
  getFlags := plainTlcl_faithful.getFlags
  getPermanentFlags _ := rfl
  read := plainTlcl_faithful.read
  read_ok := plainTlcl_faithful.read_ok
  define_ok _ _ _ _ _ _ hi := Function.update_of_ne hi _ _
  define_error _ _ _ _ h := absurd rfl h
  write_ok := plainTlcl_faithful.write_ok
  write_error := plainTlcl_faithful.write_error

/-- A first boot with the developer switch on, in a TPM without spaces. -/
def firstDeveloperBoot : SetupCall (id : Contents (UInt32 → List UInt8)) :=
  ⟨plainTlcl, plainTlcl_setupFaithful, true, false, false⟩

theorem developer_flag_first_boot :
    lastBootDeveloper id (firstDeveloperBoot.result fun _ => []).2 = some true ∧
      ∃ e ∈ firstDeveloperBoot.steps fun _ => [], e.cleared = true := by
  have hflag : lastBootDeveloper id (firstDeveloperBoot.result fun _ => []).2 = some true := by
    decide +kernel
  have hsafe : firstDeveloperBoot.Safe fun _ => [] :=
    (developer_flag_over_boots (fun _ => []) [] (Vector.replicate _ 0) []).1 firstDeveloperBoot
  refine ⟨hflag, hsafe.cleared ?_⟩
  rw [hflag]
  decide

end Vboot.Vb2
