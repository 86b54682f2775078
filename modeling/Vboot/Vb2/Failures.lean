import Vboot.Vb2.Frame
import Vboot.Vb2.Slots

/-! Failures reported by vb2_fail: several in one boot, and one boot after the other. -/
namespace Vboot.Vb2
open Vboot.Lib

/-- The last boot tried the other slot, and it failed too. -/
def OtherFailed (ctx : Vb2Context) : Prop :=
  ctx.sd.lastFwSlot = 1 - ctx.sd.fwSlot ∧ ctx.sd.lastFwResult = vb2FwResultFailure

instance (ctx : Vb2Context) : Decidable (OtherFailed ctx) := inferInstanceAs (Decidable (_ ∧ _))

instance (ctx : Vb2Context) : Decidable ctx.Chose := inferInstanceAs (Decidable (_ ≠ _))

/-- The part of vb2_fail that gives up the slot. -/
def recordFailure (ctx : Vb2Context) : Vb2Context :=
  if ctx.Chose then
    vb2NvSets ctx [(.fwResult, vb2FwResultFailure), (.tryCount, 0), (.tryNext, 1 - ctx.sd.fwSlot)]
  else ctx

/-- The part of vb2_fail that asks for recovery; an earlier request stays. -/
def requestRecovery (reason subcode : UInt8) (ctx : Vb2Context) : Vb2Context :=
  if vb2NvGet ctx .recoveryRequest = 0 then
    vb2NvSets ctx [(.recoveryRequest, reason.toUInt32), (.recoverySubcode, subcode.toUInt32)]
  else ctx

theorem NvOnly.sd {a b : Vb2Context} (h : NvOnly a b) : b.sd = a.sd := by rw [h.rest]

theorem recordFailure_only (ctx : Vb2Context) : NvOnly ctx (recordFailure ctx) := by
  unfold recordFailure
  split_ifs
  · exact vb2NvSets_only ctx _
  · exact .refl ctx
variable (reason subcode : UInt8)

theorem requestRecovery_only (ctx : Vb2Context) : NvOnly ctx (requestRecovery reason subcode ctx) := by
  unfold requestRecovery
  split_ifs
  · exact vb2NvSets_only ctx _
  · exact .refl ctx

variable {ctx : Vb2Context}

theorem vb2Fail_init (h : ¬ ctx.NvInit) :
    vb2Fail reason subcode ctx = vb2Fail reason subcode (vb2NvInit ctx) := by
  have hzero : ctx.sd.status &&& vb2SdStatusNvInit = 0 := not_not.mp h
  have hset : ¬ (vb2NvInit ctx).sd.status &&& vb2SdStatusNvInit = 0 := vb2NvInit_nvInit ctx
  simp only [vb2Fail, if_pos hzero, if_neg hset]

theorem vb2Fail_eq (h : ctx.NvInit) :
    vb2Fail reason subcode ctx =
      if ctx.Chose ∧ ¬ OtherFailed ctx then recordFailure ctx
      else requestRecovery reason subcode (recordFailure ctx) := by
  have hset : ¬ ctx.sd.status &&& vb2SdStatusNvInit = 0 := h
  have hsd := (recordFailure_only ctx).sd
  have hcond : (ctx.Chose ∧ ¬ OtherFailed ctx) ↔ ctx.Chose ∧
      ((recordFailure ctx).sd.lastFwSlot ≠ 1 - (recordFailure ctx).sd.fwSlot ∨
        (recordFailure ctx).sd.lastFwResult ≠ vb2FwResultFailure) := by
    rw [hsd, OtherFailed, not_and_or]
  simp only [vb2Fail, if_neg hset]
  by_cases hearly : ctx.Chose ∧ ¬ OtherFailed ctx
  · rw [if_pos hearly]
    exact if_pos (hcond.mp hearly)
  · rw [if_neg hearly]
    exact if_neg (mt hcond.mpr hearly)

theorem vb2Fail_only (h : ctx.NvInit) : NvOnly ctx (vb2Fail reason subcode ctx) := by
  rw [vb2Fail_eq reason subcode h]
  split_ifs
  · exact recordFailure_only ctx
  · exact (recordFailure_only ctx).trans (requestRecovery_only reason subcode _)

section
variable {ctx : Vb2Context}

theorem sealed_sealed (raw : NvRaw) : sealed (sealed raw) = sealed raw :=
  sealed_congr fun _ hx => getElem_sealed raw hx

/-- The next slot is recorded, in a block that another write of it does not change. -/
structure NextRecorded (ctx : Vb2Context) (value : UInt32) : Prop where
  kept : vb2NvGet ctx .tryNext = if value ≠ 0 then 1 else 0
  settled : vb2NvGet ctx .tryNext = value ∨ sealed ctx.nvdata = ctx.nvdata

theorem nextRecorded_set (value : UInt32) : NextRecorded (vb2NvSet ctx .tryNext value) value := by
  have hkept := vb2NvGet_set ctx .tryNext value
  refine ⟨hkept, ?_⟩
  by_cases h : vb2NvGet ctx .tryNext = value
  · rw [vb2NvSet, if_pos h]
    exact .inl h
  · rw [vb2NvSet, if_neg h]
    exact .inr (sealed_sealed _)

theorem NextRecorded.set {value : UInt32} (h : NextRecorded ctx value) {p : Vb2NvParam} (hp : p ≠ .tryNext)
    (other : UInt32) : NextRecorded (vb2NvSet ctx p other) value := by
  have hget := vb2NvGet_set_other ctx hp other
  refine ⟨hget.trans h.kept, ?_⟩
  cases h.settled with
  | inl hv => exact .inl (hget.trans hv)
  | inr hs =>
    unfold vb2NvSet
    split_ifs
    · exact .inr hs
    · exact .inr (sealed_sealed _)

theorem or_of_bit {b : UInt8} (h : b &&& vb2NvBoot2TryNext ≠ 0) : b ||| vb2NvBoot2TryNext = b := by
  have hall : ∀ n < 256, UInt8.ofNat n &&& vb2NvBoot2TryNext ≠ 0 →
      UInt8.ofNat n ||| vb2NvBoot2TryNext = UInt8.ofNat n := by decide +kernel
  have hb := hall b.toNat b.toNat_lt
  rw [UInt8.ofNat_toNat] at hb
  exact hb h

theorem NextRecorded.again {value : UInt32} (h : NextRecorded ctx value) :
    (vb2NvSet ctx .tryNext value).nvdata = ctx.nvdata := by
  unfold vb2NvSet
  split_ifs with hv
  · rfl
  · -- a value other than 0 and 1 is stored as 1 each time
    have hne : value ≠ 0 := by
      intro h0
      exact hv (h.kept.trans (by rw [h0]; rfl))
    have hbit : ctx.nvdata[vb2NvOffsBoot2] &&& vb2NvBoot2TryNext ≠ 0 := by
      intro h0
      have hget : vb2NvGet ctx .tryNext = 0 := if_neg (not_not.mpr h0)
      have hkept := hget.symm.trans h.kept
      rw [if_pos hne] at hkept
      exact absurd hkept (by decide)
    have hput : vb2NvPut ctx.nvdata value .tryNext = ctx.nvdata := by
      rw [vb2NvPut, setBit, if_pos hne, or_of_bit hbit]
      exact Vector.set_getElem_self _
    change sealed (vb2NvPut ctx.nvdata value .tryNext) = ctx.nvdata
    rw [hput]
    exact h.settled.resolve_left hv

/-- Nothing is left to do for another failure in the same boot. -/
structure Settled (ctx : Vb2Context) : Prop where
  nvInit : ctx.NvInit
  result : ctx.Chose → vb2NvGet ctx .fwResult = vb2FwResultFailure
  count : ctx.Chose → vb2NvGet ctx .tryCount = 0
  next : ctx.Chose → NextRecorded ctx (1 - ctx.sd.fwSlot)
  request : (ctx.Chose ∧ ¬ OtherFailed ctx) ∨ vb2NvGet ctx .recoveryRequest ≠ 0

theorem Settled.recordFailure (h : Settled ctx) : (recordFailure ctx).nvdata = ctx.nvdata := by
  unfold Vb2.recordFailure
  split_ifs with hc
  · have hresult : vb2NvSet ctx .fwResult vb2FwResultFailure = ctx := if_pos (h.result hc)
    have hcount : vb2NvSet ctx .tryCount 0 = ctx := if_pos (h.count hc)
    change (vb2NvSet (vb2NvSet (vb2NvSet ctx .fwResult vb2FwResultFailure) .tryCount 0) .tryNext _).nvdata = _
    rw [hresult, hcount]
    exact (h.next hc).again
  · rfl

theorem Settled.vb2Fail (h : Settled ctx) (reason subcode : UInt8) :
    (vb2Fail reason subcode ctx).nvdata = ctx.nvdata := by
  rw [vb2Fail_eq reason subcode h.nvInit]
  have hrecord := h.recordFailure
  split_ifs with hearly
  · exact hrecord
  · have hrequest : ¬ vb2NvGet (Vb2.recordFailure ctx) .recoveryRequest = 0 := by
      rw [vb2NvGet_congr hrecord]
      exact h.request.resolve_left hearly
    rw [requestRecovery, if_neg hrequest]
    exact hrecord

theorem Settled.congr {ctx' : Vb2Context} (h : Settled ctx) (hsd : ctx'.sd = ctx.sd)
    (hnv : ctx'.nvdata = ctx.nvdata) : Settled ctx' := by
  have hget (p : Vb2NvParam) := vb2NvGet_congr hnv p
  have hc : ctx'.Chose ↔ ctx.Chose := by rw [Vb2Context.Chose, Vb2Context.Chose, hsd]
  refine ⟨?_, ?_, ?_, ?_, ?_⟩
  · rw [Vb2Context.NvInit, hsd]
    exact h.nvInit
  · rw [hc, hget]
    exact h.result
  · rw [hc, hget]
    exact h.count
  · intro hchose
    obtain ⟨hkept, hsettled⟩ := h.next (hc.mp hchose)
    rw [hsd]
    exact ⟨(hget _).trans hkept, by rwa [hget, hnv]⟩
  · rw [hc, hget, OtherFailed, hsd]
    exact h.request

theorem requestRecovery_set (h : vb2NvGet ctx .recoveryRequest = 0) :
    requestRecovery reason subcode ctx =
      vb2NvSet (vb2NvSet ctx .recoveryRequest reason.toUInt32) .recoverySubcode subcode.toUInt32 :=
  if_pos h

theorem requestRecovery_other {p : Vb2NvParam}
    (hp : p ≠ .recoveryRequest ∧ p ≠ .recoverySubcode) :
    vb2NvGet (requestRecovery reason subcode ctx) p = vb2NvGet ctx p := by
  unfold requestRecovery
  split_ifs
  · exact vb2NvGet_sets_other ctx (by simp [hp.1.symm, hp.2.symm])
  · rfl

variable {reason : UInt8}

theorem toUInt32_ne_zero (h : reason ≠ 0) : (vbParam .recoveryRequest).keeps reason.toUInt32 ≠ 0 := by
  have hle : ¬ reason.toUInt32 > 255 := by
    rw [UInt32.not_lt, UInt32.le_iff_toNat_le, UInt8.toNat_toUInt32]
    exact Nat.le_of_lt_succ reason.toNat_lt
  intro h0
  rw [vbParam, VbNvParam.keeps, clip, if_neg hle] at h0
  have hnat := congrArg UInt32.toNat h0
  rw [UInt8.toNat_toUInt32] at hnat
  exact h (UInt8.toNat_inj.mp hnat)

theorem requestRecovery_request (hreason : reason ≠ 0) (subcode : UInt8) :
    vb2NvGet (requestRecovery reason subcode ctx) .recoveryRequest ≠ 0 := by
  by_cases h : vb2NvGet ctx .recoveryRequest = 0
  · rw [requestRecovery_set reason subcode h, vb2NvGet_set_other _ (by decide), vb2NvGet_set]
    exact toUInt32_ne_zero hreason
  · rw [requestRecovery, if_neg h]
    exact h

structure FailureRecorded (ctx : Vb2Context) (slot : UInt32) : Prop where
  result : vb2NvGet ctx .fwResult = vb2FwResultFailure
  count : vb2NvGet ctx .tryCount = 0
  next : NextRecorded ctx (1 - slot)

theorem recordFailure_recorded (h : ctx.Chose) : FailureRecorded (recordFailure ctx) ctx.sd.fwSlot := by
  have hset : recordFailure ctx = vb2NvSet (vb2NvSet (vb2NvSet ctx .fwResult vb2FwResultFailure) .tryCount 0)
      .tryNext (1 - ctx.sd.fwSlot) := if_pos h
  rw [hset]
  refine ⟨?_, ?_, nextRecorded_set _⟩
  · rw [vb2NvGet_set_other _ (by decide), vb2NvGet_set_other _ (by decide), vb2NvGet_set]
    rfl
  · rw [vb2NvGet_set_other _ (by decide), vb2NvGet_set]
    rfl

theorem FailureRecorded.requestRecovery {slot : UInt32} (h : FailureRecorded ctx slot) (reason subcode : UInt8) :
    FailureRecorded (requestRecovery reason subcode ctx) slot := by
  refine ⟨?_, ?_, ?_⟩
  · rw [requestRecovery_other reason subcode (by decide)]
    exact h.result
  · rw [requestRecovery_other reason subcode (by decide)]
    exact h.count
  · by_cases h0 : vb2NvGet ctx .recoveryRequest = 0
    · rw [requestRecovery_set reason subcode h0]
      exact (h.next.set (by decide) _).set (by decide) _
    · rw [Vb2.requestRecovery, if_neg h0]
      exact h.next

theorem vb2Fail_recorded (reason subcode : UInt8) (hn : ctx.NvInit) (hc : ctx.Chose) :
    FailureRecorded (vb2Fail reason subcode ctx) ctx.sd.fwSlot := by
  have hrecord := recordFailure_recorded hc
  rw [vb2Fail_eq reason subcode hn]
  split_ifs
  · exact hrecord
  · exact hrecord.requestRecovery reason subcode

theorem settled_of_vb2Fail (hreason : reason ≠ 0) (subcode : UInt8) (hn : ctx.NvInit) :
    Settled (vb2Fail reason subcode ctx) := by
  have hsd := (vb2Fail_only reason subcode hn).sd
  have hc : (vb2Fail reason subcode ctx).Chose ↔ ctx.Chose := by
    rw [Vb2Context.Chose, Vb2Context.Chose, hsd]
  have hrecorded (h : (vb2Fail reason subcode ctx).Chose) := vb2Fail_recorded reason subcode hn (hc.mp h)
  refine ⟨?_, fun h => (hrecorded h).result, fun h => (hrecorded h).count, ?_, ?_⟩
  · rw [Vb2Context.NvInit, hsd]
    exact hn
  · intro h
    rw [hsd]
    exact (hrecorded h).next
  · by_cases hearly : ctx.Chose ∧ ¬ OtherFailed ctx
    · rw [hc, OtherFailed, hsd]
      exact .inl hearly
    · rw [vb2Fail_eq reason subcode hn, if_neg hearly]
      exact .inr (requestRecovery_request hreason subcode)

/-- A sequence of failures in one boot. -/
def vb2Fails (ctx : Vb2Context) (fails : List (UInt8 × UInt8)) : Vb2Context :=
  fails.foldl (fun ctx f => vb2Fail f.1 f.2 ctx) ctx

theorem Settled.vb2Fails (h : Settled ctx) (fails : List (UInt8 × UInt8)) :
    (vb2Fails ctx fails).nvdata = ctx.nvdata := by
  induction fails generalizing ctx with
  | nil => rfl
  | cons f fails ih =>
    have hnv := h.vb2Fail f.1 f.2
    exact (ih (h.congr (vb2Fail_only f.1 f.2 h.nvInit).sd hnv)).trans hnv

end

/-- The first failure of a boot settles NV storage, with the reason for recovery. -/
theorem vb2Fails_after_first (ctx : Vb2Context) (reason subcode : UInt8) (hreason : reason ≠ 0)
    (fails : List (UInt8 × UInt8)) :
    (vb2Fails (vb2Fail reason subcode ctx) fails).nvdata = (vb2Fail reason subcode ctx).nvdata := by
  by_cases hn : ctx.NvInit
  · exact (settled_of_vb2Fail hreason subcode hn).vb2Fails fails
  · rw [vb2Fail_init reason subcode hn]
    exact (settled_of_vb2Fail hreason subcode (vb2NvInit_nvInit ctx)).vb2Fails fails

theorem vb2Fails_after_first_sample :
    (vb2Fails (vb2Fail 0x13 1 (trialContext 0)) [(0x2c, 0), (0, 7)]).nvdata =
      (vb2Fail 0x13 1 (trialContext 0)).nvdata :=
  vb2Fails_after_first (trialContext 0) 0x13 1 (by decide) [(0x2c, 0), (0, 7)]

/-- What a boot does with NV storage, next to the choice of the slot. -/
inductive BootEvent where
  | set (param : Vb2NvParam) (value : UInt32)
  | fail (reason subcode : UInt8)

def BootEvent.apply (ctx : Vb2Context) : BootEvent → Vb2Context
  | .set param value => vb2NvSet ctx param value
  | .fail reason subcode => vb2Fail reason subcode ctx

/-- The parameters of which vb2_select_fw_slot and vb2_fail alone take care. -/
def slotParams : List Vb2NvParam := [.tryNext, .tryCount, .fwTried, .fwResult]

/-- A boot that chooses a slot and fails after that. Requests for recovery are cleared before the choice
only, by vb2_check_recovery. -/
structure FailingBoot where
  ctx : Vb2Context
  before : List BootEvent
  after : List BootEvent
  fresh : ¬ ctx.Chose
  beforeApart : ∀ p v, .set p v ∈ before → p ∉ slotParams
  afterApart : ∀ p v, .set p v ∈ after → p ∉ slotParams ∧ p ≠ .recoveryRequest
  failed : ∃ reason subcode, reason ≠ 0 ∧ .fail reason subcode ∈ after

namespace FailingBoot

/-- The context when the slot is chosen. -/
def started (nv : NvRaw) (b : FailingBoot) : Vb2Context :=
  run BootEvent.apply (vb2NvInit { b.ctx with nvdata := nv }) b.before

def selected (nv : NvRaw) (b : FailingBoot) : Vb2Context := vb2SelectFwSlot (started nv b)

def ended (nv : NvRaw) (b : FailingBoot) : Vb2Context := run BootEvent.apply (selected nv b) b.after

def slot (nv : NvRaw) (b : FailingBoot) : UInt32 := (selected nv b).sd.fwSlot

/-- The block that the next boot finds. -/
def left (nv : NvRaw) (b : FailingBoot) : NvRaw := (ended nv b).nvdata

end FailingBoot

section
variable {ctx : Vb2Context}

theorem recordFailure_signed (h : ctx.nvdata.signed) : (recordFailure ctx).nvdata.signed := by
  unfold recordFailure
  split_ifs
  · exact vb2NvSets_signed h _
  · exact h

theorem requestRecovery_signed (h : ctx.nvdata.signed) (reason subcode : UInt8) :
    (requestRecovery reason subcode ctx).nvdata.signed := by
  unfold requestRecovery
  split_ifs
  · exact vb2NvSets_signed h _
  · exact h

theorem vb2Fail_signed (hn : ctx.NvInit) (h : ctx.nvdata.signed) (reason subcode : UInt8) :
    (vb2Fail reason subcode ctx).nvdata.signed := by
  rw [vb2Fail_eq reason subcode hn]
  split_ifs
  · exact recordFailure_signed h
  · exact requestRecovery_signed (recordFailure_signed h) reason subcode

/-- A context with NV storage in use, and the shared data that all events leave alone. -/
structure Live (shared : Vb2SharedData) (ctx : Vb2Context) : Prop where
  sd : ctx.sd = shared
  nvInit : ctx.NvInit
  signed : ctx.nvdata.signed

variable {sd : Vb2SharedData}

theorem Live.apply (h : Live sd ctx) (e : BootEvent) : Live sd (e.apply ctx) := by
  have honly : NvOnly ctx (e.apply ctx) := by
    cases e with
    | set p v => exact vb2NvSet_only ctx p v
    | fail reason subcode => exact vb2Fail_only reason subcode h.nvInit
  refine ⟨honly.sd.trans h.sd, ?_, ?_⟩
  · rw [Vb2Context.NvInit, honly.sd]
    exact h.nvInit
  · cases e with
    | set p v => exact vb2NvSet_signed h.signed p v
    | fail reason subcode => exact vb2Fail_signed h.nvInit h.signed reason subcode

theorem Live.run (h : Live sd ctx) (es : List BootEvent) :
    Live sd (run BootEvent.apply ctx es) :=
  run_invariant (fun _ e hl => hl.apply e) es ctx h

theorem Live.before (h : Live sd ctx) (hc : sd.status &&& vb2SdStatusChoseSlot = 0)
    {es : List BootEvent} (hes : ∀ p v, .set p v ∈ es → p ∉ slotParams) {q : Vb2NvParam} (hq : q ∈ slotParams) :
    vb2NvGet (Lib.run BootEvent.apply ctx es) q = vb2NvGet ctx q := by
  induction es generalizing ctx with
  | nil => rfl
  | cons e es ih =>
    have hrest := ih (h.apply e) fun p v hp => hes p v (List.mem_cons_of_mem e hp)
    refine hrest.trans ?_
    cases e with
    | set p v =>
      refine vb2NvGet_set_other ctx (fun he => ?_) v
      exact hes p v List.mem_cons_self (he ▸ hq)
    | fail reason subcode =>
      have hnot : ¬ ctx.Chose := by
        rw [Vb2Context.Chose, h.sd]
        exact not_not.mpr hc
      have hother : q ≠ .recoveryRequest ∧ q ≠ .recoverySubcode := by
        constructor <;> (intro he; subst he; revert hq; decide)
      change vb2NvGet (vb2Fail reason subcode ctx) q = _
      rw [vb2Fail_eq reason subcode h.nvInit, if_neg fun hx => hnot hx.1, requestRecovery_other reason subcode hother,
        recordFailure, if_neg hnot]

/-- The slot is given up, and recovery is requested if the other one failed before. -/
structure GivenUp (shared : Vb2SharedData) (ctx : Vb2Context) : Prop extends Live shared ctx where
  recorded : FailureRecorded ctx shared.fwSlot
  request : OtherFailed ctx → vb2NvGet ctx .recoveryRequest ≠ 0

theorem otherFailed_congr {ctx' : Vb2Context} (h : ctx'.sd = ctx.sd) : OtherFailed ctx' ↔ OtherFailed ctx := by
  rw [OtherFailed, OtherFailed, h]

theorem recordFailure_request : vb2NvGet (recordFailure ctx) .recoveryRequest = vb2NvGet ctx .recoveryRequest := by
  unfold recordFailure
  split_ifs
  · exact vb2NvGet_sets_other ctx (by simp)
  · rfl

variable {sd : Vb2SharedData} (hchose : sd.status &&& vb2SdStatusChoseSlot ≠ 0)
include hchose

theorem Live.chose (h : Live sd ctx) : ctx.Chose := by
  rw [Vb2Context.Chose, h.sd]
  exact hchose

theorem Live.fail (h : Live sd ctx) {reason : UInt8} (subcode : UInt8)
    (hreason : reason ≠ 0 ∨ (OtherFailed ctx → vb2NvGet ctx .recoveryRequest ≠ 0)) :
    GivenUp sd (vb2Fail reason subcode ctx) := by
  have hsd := (vb2Fail_only reason subcode h.nvInit).sd
  have hrecorded := vb2Fail_recorded reason subcode h.nvInit (h.chose hchose)
  rw [h.sd] at hrecorded
  refine ⟨h.apply (.fail reason subcode), hrecorded, fun hother => ?_⟩
  rw [otherFailed_congr hsd] at hother
  rw [vb2Fail_eq reason subcode h.nvInit, if_neg fun hx => hx.2 hother]
  cases hreason with
  | inl hne => exact requestRecovery_request hne subcode
  | inr hold =>
    have hkept : ¬ vb2NvGet (recordFailure ctx) .recoveryRequest = 0 := by
      rw [recordFailure_request]
      exact hold hother
    rw [requestRecovery, if_neg hkept]
    exact hkept

theorem GivenUp.apply (h : GivenUp sd ctx) {e : BootEvent}
    (he : ∀ p v, e = .set p v → p ∉ slotParams ∧ p ≠ .recoveryRequest) : GivenUp sd (e.apply ctx) := by
  cases e with
  | fail reason subcode => exact h.toLive.fail hchose subcode (.inr h.request)
  | set p v =>
    obtain ⟨hslot, hrequest⟩ := he p v rfl
    simp only [slotParams, List.mem_cons, List.not_mem_nil, or_false, not_or] at hslot
    obtain ⟨hnext, hcount, -, hresult⟩ := hslot
    refine ⟨h.toLive.apply (.set p v), ⟨?_, ?_, h.recorded.next.set hnext v⟩, ?_⟩
    · exact (vb2NvGet_set_other ctx hresult v).trans h.recorded.result
    · exact (vb2NvGet_set_other ctx hcount v).trans h.recorded.count
    · intro hother
      have hget : vb2NvGet (BootEvent.apply ctx (.set p v)) .recoveryRequest = _ :=
        vb2NvGet_set_other ctx hrequest v
      rw [hget]
      exact h.request ((otherFailed_congr (vb2NvSet_only ctx p v).sd).mp hother)

theorem GivenUp.run (h : GivenUp sd ctx) {es : List BootEvent}
    (hes : ∀ p v, .set p v ∈ es → p ∉ slotParams ∧ p ≠ .recoveryRequest) :
    GivenUp sd (Lib.run BootEvent.apply ctx es) := by
  induction es generalizing ctx with
  | nil => exact h
  | cons e es ih =>
    refine ih (h.apply hchose ?_) fun p v hp => hes p v (List.mem_cons_of_mem e hp)
    rintro p v rfl
    exact hes p v List.mem_cons_self

theorem Live.givenUp (h : Live sd ctx) {es : List BootEvent}
    (hes : ∀ p v, .set p v ∈ es → p ∉ slotParams ∧ p ≠ .recoveryRequest) {reason subcode : UInt8}
    (hreason : reason ≠ 0) (hfail : .fail reason subcode ∈ es) :
    GivenUp sd (Lib.run BootEvent.apply ctx es) := by
  obtain ⟨u, v, rfl⟩ := List.append_of_mem hfail
  rw [run_append]
  have hfirst := (h.run u).fail hchose subcode (.inl hreason)
  exact hfirst.run hchose fun p w hp => hes p w (List.mem_append_right u (List.mem_cons_of_mem _ hp))

omit hchose in
theorem Live.tried (h : Live sd ctx) {es : List BootEvent}
    (hes : ∀ p v, .set p v ∈ es → p ≠ .fwTried) :
    vb2NvGet (Lib.run BootEvent.apply ctx es) .fwTried = vb2NvGet ctx .fwTried := by
  induction es generalizing ctx with
  | nil => rfl
  | cons e es ih =>
    refine (ih (h.apply e) fun p v hp => hes p v (List.mem_cons_of_mem e hp)).trans ?_
    cases e with
    | set p v => exact vb2NvGet_set_other ctx (hes p v List.mem_cons_self) v
    | fail reason subcode => exact (vb2Fail_frame reason subcode ctx).tried h.nvInit

end

namespace FailingBoot
variable (nv : NvRaw) (b : FailingBoot)

theorem init_live (ctx : Vb2Context) : Live (vb2NvInit ctx).sd (vb2NvInit ctx) :=
  ⟨rfl, vb2NvInit_nvInit ctx, vb2NvInit_signed ctx⟩

theorem started_live : Live (vb2NvInit { b.ctx with nvdata := nv }).sd (started nv b) :=
  (init_live _).run b.before

theorem started_get {p : Vb2NvParam} (hp : p ∈ slotParams) :
    vb2NvGet (started nv b) p = vb2NvGet (vb2NvInit { b.ctx with nvdata := nv }) p := by
  have hfresh : (vb2NvInit { b.ctx with nvdata := nv }).sd.status &&& vb2SdStatusChoseSlot = 0 := by
    obtain ⟨status, hstatus, flags, he⟩ := vb2NvInit_eq { b.ctx with nvdata := nv }
    rw [congrArg Vb2Context.sd he]
    exact (Flags.or_and_of_disjoint hstatus).trans (not_not.mp b.fresh)
  exact (init_live _).before hfresh b.beforeApart hp

theorem selected_selected : Selected (started nv b) (selected nv b) := vb2SelectFwSlot_selected _

theorem selected_chose : (selected nv b).sd.status &&& vb2SdStatusChoseSlot ≠ 0 := by
  have hone : vb2SdStatusChoseSlot ≠ 0 := by decide
  obtain ⟨e, flags, -, he⟩ := vb2SelectFwSlot_rest (started nv b)
  rw [selected, he]
  dsimp only
  rw [Flags.or_and_self]
  exact hone

theorem selected_live : Live (selected nv b).sd (selected nv b) := by
  have hstart := started_live nv b
  refine ⟨rfl, ?_, vb2SelectFwSlot_signed hstart.signed⟩
  obtain ⟨e, flags, honly, he⟩ := vb2SelectFwSlot_rest (started nv b)
  rw [selected, he]
  refine Flags.or_ne_zero ?_
  rw [honly.sd]
  exact hstart.nvInit

theorem ended_givenUp : GivenUp (selected nv b).sd (ended nv b) := by
  obtain ⟨reason, subcode, hreason, hfail⟩ := b.failed
  exact (selected_live nv b).givenUp (selected_chose nv b) b.afterApart hreason hfail

theorem ended_tried : vb2NvGet (ended nv b) .fwTried = slot nv b := by
  have hkept : vb2NvGet (ended nv b) .fwTried = vb2NvGet (selected nv b) .fwTried := by
    refine (selected_live nv b).tried fun p v hp he => ?_
    exact (b.afterApart p v hp).1 (by rw [he]; decide)
  rw [hkept, (selected_selected nv b).tried, slot, (selected_selected nv b).slot]

theorem slot_cases : slot nv b = 0 ∨ slot nv b = 1 := by
  rw [slot, (selected_selected nv b).slot]
  exact chosenSlot_cases _

variable (b' : FailingBoot)
include b'

theorem next_get {p : Vb2NvParam} (hp : p ∈ slotParams) :
    vb2NvGet (started (left nv b) b') p = vb2NvGet (ended nv b) p := by
  rw [started_get _ b' hp]
  exact vb2NvGet_congr (vb2NvInit_of_signed (by exact (ended_givenUp nv b).signed)) p

theorem next_result :
    vb2NvGet (started (left nv b) b') .fwResult = vb2FwResultFailure :=
  (next_get nv b b' (by decide)).trans (ended_givenUp nv b).recorded.result

theorem next_slot : slot (left nv b) b' = 1 - slot nv b := by
  have hbit : (1 - slot nv b = 0) ∨ 1 - slot nv b = 1 := by
    cases slot_cases nv b with
    | inl h => rw [h]; exact .inr rfl
    | inr h => rw [h]; exact .inl rfl
  have hnext : vb2NvGet (started (left nv b) b') .tryNext = 1 - slot nv b := by
    rw [next_get nv b b' (by decide), (ended_givenUp nv b).recorded.next.kept]
    exact keeps_bit hbit
  have hnot : ¬ vb2NvGet (started (left nv b) b') .fwResult = vb2FwResultTrying := by
    rw [next_result]
    decide
  rw [slot, (selected_selected _ b').slot, chosenSlot, if_neg fun hx => hnot hx.1, hnext]

theorem next_request :
    vb2NvGet (ended (left nv b) b') .recoveryRequest ≠ 0 := by
  have hup := ended_givenUp (left nv b) b'
  refine hup.request ((otherFailed_congr hup.sd).mpr ⟨?_, ?_⟩)
  · rw [(selected_selected _ b').lastSlot, next_get nv b b' (by decide), ended_tried nv b]
    change slot nv b = 1 - slot (left nv b) b'
    rw [next_slot]
    cases slot_cases nv b with
    | inl h => rw [h]; rfl
    | inr h => rw [h]; rfl
  · exact (selected_selected _ b').lastResult.trans (next_result nv b b')

end FailingBoot

def slotsTried (nv : NvRaw) (boots : List FailingBoot) : List UInt32 :=
  log FailingBoot.left (fun nv b => some (FailingBoot.slot nv b)) nv boots

/-- As long as failures go on, the slots alternate, and after every second failure in a row recovery is
requested. -/
theorem failures_alternate (nv : NvRaw) (boots : List FailingBoot) :
    (slotsTried nv boots).IsChain (fun s t => t = 1 - s) ∧
      ∀ u b b' v, boots = u ++ b :: b' :: v →
        vb2NvGet (FailingBoot.ended (run FailingBoot.left nv (u ++ [b])) b') .recoveryRequest ≠ 0 := by
  constructor
  · induction boots generalizing nv with
    | nil => exact List.IsChain.nil
    | cons b boots ih =>
      cases boots with
      | nil => exact List.IsChain.singleton _
      | cons b' boots =>
        exact List.IsChain.cons_cons (FailingBoot.next_slot nv b b') (ih (FailingBoot.left nv b))
  · intro u b b' v _
    rw [run_append]
    exact FailingBoot.next_request _ b b'

/-- A boot that clears a request for recovery, chooses a slot and fails twice. -/
def preambleFailure : FailingBoot where
  ctx := trialContext 0
  before := [.set .recoveryRequest 0]
  after := [.fail vb2RecoveryFwPreamble 4, .set .localizationIndex 3, .fail vb2RecoveryRoInvalidRw 0]
  fresh := by decide
  beforeApart := by simp [slotParams]
  afterApart := by simp [slotParams]
  failed := ⟨vb2RecoveryFwPreamble, 4, by decide, by simp⟩

example : slotsTried trialNv [preambleFailure, preambleFailure, preambleFailure] = [1, 0, 1] := by decide +kernel

end Vboot.Vb2
