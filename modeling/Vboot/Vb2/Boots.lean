import Vboot.Vb2.Accept
import Vboot.Vb2.Slots

/-! Sequences of firmware boots with the vboot2 library, and the firmware version that secdata
keeps from one to the next. -/
namespace Vboot.Vb2
open Vboot.Lib Vboot.Lib.Program

section
variable {align : UInt32} {hash : Vb2HashAlgorithm → List UInt8 → List UInt8} {ex : Vb2Ex}

theorem keeps_fwPhase1Mode : (fwPhase1Mode align ex).Keeps Frame := by
  have hgbb : (vb2FwParseGbb align ex).Keeps Frame :=
    keeps_vb2FwParseGbb align ex (fun _ _ => .of_fields rfl rfl rfl rfl rfl rfl rfl id)
      fun _ _ _ _ => .of_fields rfl rfl rfl rfl rfl rfl rfl id
  refine (keeps_failAndGoOn hgbb).bind fun _ => (keeps_update vb2CheckRecovery_frame).bind fun _ => ?_
  refine (Keeps.attempt (keeps_vb2CheckDevSwitch ex)).bind fun rv => ?_
  refine (keeps_observe _).bind fun recovery => Keeps.ite ?_ (keeps_orFail (keeps_inspect _))
  refine (keeps_update fun ctx => ?_).bind fun _ => keeps_throw _
  exact .of_fields rfl rfl rfl rfl rfl rfl rfl Flags.or_ne_zero

/-- A recovery request waits for vb2_check_recovery. -/
structure Vb2Context.Pending (ctx : Vb2Context) : Prop where
  nvInit : ctx.NvInit
  request : vb2NvGet ctx .recoveryRequest ≠ 0

theorem vb2FwParseGbb_pending :
    (failAndGoOn vb2RecoveryGbbHeader (vb2FwParseGbb align ex)).Keeps (Stable Vb2Context.Pending) := by
  have hparse : (vb2FwParseGbb align ex).Keeps (Stable Vb2Context.Pending) :=
    keeps_vb2FwParseGbb align ex (fun _ _ h => ⟨h.nvInit, h.request⟩) fun _ _ _ _ h => ⟨h.nvInit, h.request⟩
  refine hparse.catch fun rv => keeps_update fun ctx h => ?_
  exact ⟨(vb2Fail_frame _ _ ctx).nvInit h.nvInit, vb2Fail_request h.nvInit (by decide) _ fun _ => h.request⟩

variable {s s' ctx ctx' a : Vb2Context} {u : Unit} {r : Except UInt32 Unit}

theorem fwPhase1Mode_pending (hp : s.Pending) : ¬ fwPhase1Mode align ex s = (.ok u, s') := by
  intro h
  obtain ⟨_, s₁, hgbb, h₁⟩ := bind_ok.mp h
  have hp₁ : s₁.Pending := vb2FwParseGbb_pending.of_run hgbb hp
  rw [update_bind, attempt_bind, observe_bind] at h₁
  have hrecovery : (vb2CheckDevSwitch ex (vb2CheckRecovery s₁)).2.flags &&& vb2ContextRecoveryMode ≠ 0 :=
    (keeps_vb2CheckDevSwitch ex _).recovery (vb2CheckRecovery_recovery hp₁.request)
  rw [if_pos (decide_eq_true hrecovery), update_bind] at h₁
  exact throw_ok h₁

theorem Vb2Context.Pending.fail (h : ctx.Pending) {reason : UInt8} (hreason : reason ≠ 0) (subcode : UInt8) :
    (vb2Fail reason subcode ctx).Pending :=
  ⟨(vb2Fail_frame _ _ ctx).nvInit h.nvInit, vb2Fail_request h.nvInit hreason _ fun _ => h.request⟩

theorem secdataReboot_pending : secdataReboot.Keeps (Stable Vb2Context.Pending) := by
  have hset (value : UInt32) (ctx : Vb2Context) (h : ctx.Pending) :
      (vb2NvSet ctx .tpmRequestedReboot value).Pending :=
    ⟨(Frame.set ctx value (by simp) (by simp)).nvInit h.nvInit,
      (vb2NvGet_set_other ctx (by simp) value).trans_ne h.request⟩
  refine (keeps_observe _).bind fun _ => Keeps.ite (keeps_update (hset 0)) (Keeps.ite ?_ ?_)
  · exact keeps_update fun _ h => h.fail (by decide) 0
  · exact (keeps_update (hset 1)).bind fun _ => keeps_throw _

theorem vb2InitContext_run (hused : ctx.workbufUsed = 0) (hsize : vb2SharedDataSize ≤ ctx.workbufSize)
    (halign : vb2Aligned ctx.workbufAddr align.toUInt64) :
    vb2InitContext align ctx = .ok { ctx with sd := .zero, workbufUsed := vb2SharedDataSize } := by
  rw [vb2InitContext, if_neg (not_not.mpr hused), reject_bind_eq_ok]
  refine ⟨UInt32.not_lt.mpr hsize, ?_⟩
  rw [reject_bind_eq_ok]
  exact ⟨not_not.mpr halign, rfl⟩

theorem secdataInit_run (hn : s.NvInit) (hc : ¬ s.Chose)
    (h : failAndGoOn vb2RecoverySecdataInit (transform vb2SecdataInit) s = (.ok u, s')) :
    s'.Ready ∨ s'.Pending := by
  cases hinit : vb2SecdataInit s with
  | ok s₁ =>
    have hrun : (transform vb2SecdataInit : Vb2M Unit) s = (.ok (), s₁) := transform_ok.mpr hinit
    rw [failAndGoOn, catch_of_ok hrun] at h
    cases h
    exact .inl (vb2SecdataInit_frame hinit).2
  | error e =>
    have hrun : (transform vb2SecdataInit : Vb2M Unit) s = (.error e, s) := by
      rw [transform, hinit]
    rw [failAndGoOn, catch_of_error hrun, update_ok] at h
    rw [h]
    exact .inr ⟨(vb2Fail_frame _ _ s).nvInit hn,
      vb2Fail_request hn (by decide) _ fun hchose => absurd hchose hc⟩

/-- The context with which the phases begin: the shared data is new and NV storage is read. -/
def startContext (ctx : Vb2Context) : Vb2Context :=
  vb2NvInit { ctx with sd := .zero, workbufUsed := vb2SharedDataSize }

theorem startContext_frame (ctx : Vb2Context) :
    Frame { ctx with sd := .zero, workbufUsed := vb2SharedDataSize } (startContext ctx) :=
  vb2NvInit_frame fun h => h (by dsimp only [Vb2SharedData.zero]; decide)

theorem startContext_chose (ctx : Vb2Context) : ¬ (startContext ctx).Chose :=
  fun h => (startContext_frame ctx).chose.mp h (by dsimp only [Vb2SharedData.zero]; decide)

/-- The caller provides a work buffer for the shared data. -/
structure HasWorkbuf (align : UInt32) (ctx : Vb2Context) : Prop where
  unused : ctx.workbufUsed = 0
  size : vb2SharedDataSize ≤ ctx.workbufSize
  aligned : vb2Aligned ctx.workbufAddr align.toUInt64

theorem vb2apiFwPhase1_eq (hw : HasWorkbuf align ctx) :
    vb2apiFwPhase1 align ex ctx = (do
      secdataReboot
      failAndGoOn vb2RecoverySecdataInit (transform vb2SecdataInit)
      fwPhase1Mode align ex : Vb2M Unit) (startContext ctx) := by
  have hrun : (transform (vb2InitContext align) : Vb2M Unit) ctx = (.ok (), _) :=
    transform_ok.mpr (vb2InitContext_run hw.unused hw.size hw.aligned)
  rw [vb2apiFwPhase1, attempt_bind, update_bind, hrun]
  rfl

theorem vb2apiFwPhase1_frame (hw : HasWorkbuf align ctx) :
    Frame (startContext ctx) (vb2apiFwPhase1 align ex ctx).2 := by
  have hinit : Keeps Frame (transform vb2SecdataInit : Vb2M Unit) :=
    keeps_transform fun _ _ h => (vb2SecdataInit_frame h).1
  rw [vb2apiFwPhase1_eq hw]
  exact (keeps_secdataReboot.bind fun _ => (keeps_failAndGoOn hinit).bind fun _ => keeps_fwPhase1Mode) _

theorem vb2apiFwPhase1_ready (hw : HasWorkbuf align ctx) (h : vb2apiFwPhase1 align ex ctx = (.ok u, s')) :
    s'.Ready := by
  rw [vb2apiFwPhase1_eq hw] at h
  obtain ⟨_, s₁, hreboot, h₁⟩ := bind_ok.mp h
  obtain ⟨_, s₂, hsec, h₂⟩ := bind_ok.mp h₁
  have hframe := keeps_secdataReboot.of_run hreboot
  have hn : s₁.NvInit := hframe.nvInit (vb2NvInit_nvInit _)
  have hc : ¬ s₁.Chose := fun hc => startContext_chose ctx (hframe.chose.mp hc)
  cases secdataInit_run hn hc hsec with
  | inl hready => exact (keeps_fwPhase1Mode.of_run h₂).ready hready
  | inr hpending => exact absurd h₂ (fwPhase1Mode_pending hpending)

theorem vb2apiFwPhase2_cases (h : vb2apiFwPhase2 ex s = (r, s')) :
    (∃ e, r = .error e) ∧ Frame s s' ∨ r = .ok () ∧ s' = resumeSlot s ∨
      r = .ok () ∧ ∃ s₁, Frame s s₁ ∧ s' = vb2SelectFwSlot s₁ := by
  rw [vb2apiFwPhase2, observe_bind] at h
  dsimp only [id] at h
  split_ifs at h with hresume
  · cases h
    exact .inr (.inl ⟨rfl, rfl⟩)
  · rw [bind_of_ok (doIf_update _ _ s)] at h
    have hram : Frame s (if decide (s.flags &&& vb2ContextDeveloperMode ≠ 0) then
        { s with flags := s.flags ||| vb2ContextClearRam } else s) := by
      split_ifs
      · exact .of_fields rfl rfl rfl rfl rfl rfl rfl Flags.or_ne_zero
      · exact .refl s
    generalize (if decide (s.flags &&& vb2ContextDeveloperMode ≠ 0) then
        { s with flags := s.flags ||| vb2ContextClearRam } else s) = s₁ at h hram
    have hkeeps : (orFail vb2RecoveryTpmClearOwner (vb2CheckTpmClear ex)).Keeps Frame :=
      keeps_orFail (keeps_vb2CheckTpmClear ex)
    obtain ⟨e, he, hclear⟩ | ⟨u, s₂, hclear, h⟩ := bind_cases h
    · exact .inl ⟨⟨e, he⟩, hram.trans (hkeeps.of_run hclear)⟩
    · cases h
      exact .inr (.inr ⟨rfl, s₂, hram.trans (hkeeps.of_run hclear), rfl⟩)

theorem vb2SecdataSet_versions (h : ctx.sd.status &&& vb2SdStatusSecdataInit ≠ 0)
    (value : UInt32) : ∃ sec flags, sec.fwVersions = value ∧
      vb2SecdataSet ctx .versions value = .ok { ctx with secdata := sec, flags := ctx.flags ||| flags } := by
  by_cases hget : vb2SecdataGet ctx .versions = .ok value
  · have hvalue : ctx.secdata.fwVersions = value := by
      rw [vb2SecdataGet, reject_bind_eq_ok] at hget
      exact Except.ok.inj hget.2
    refine ⟨ctx.secdata, 0, hvalue, ?_⟩
    rw [vb2SecdataSet, reject_bind_eq_ok, if_pos hget, UInt32.or_zero]
    exact ⟨h, rfl⟩
  · refine ⟨(ctx.secdata.setFwVersions value).regenCrc, vb2ContextSecdataChanged, by simp, ?_⟩
    rw [vb2SecdataSet, reject_bind_eq_ok, if_neg hget]
    exact ⟨h, rfl⟩

theorem rollForward_run (h : ctx.Ready) : ∃ sec flags,
    rollForward ctx = (.ok (), { ctx with
      secdata := sec
      flags := ctx.flags ||| flags
      sd := { ctx.sd with fwVersionSecdata := sec.fwVersions } }) ∧
    sec.fwVersions = if canRollForward ctx.sd then ctx.sd.fwVersion else ctx.secdata.fwVersions := by
  rw [rollForward, observe_bind]
  split_ifs with hroll
  · obtain ⟨sec, flags, hsec, hset⟩ := @vb2SecdataSet_versions
      { ctx with sd := { ctx.sd with fwVersionSecdata := ctx.sd.fwVersion } } h.status ctx.sd.fwVersion
    refine ⟨sec, flags, ?_, hsec⟩
    rw [decide_eq_true hroll, hsec]
    exact (update_bind _ _ ctx).trans (transform_ok.mpr hset)
  · refine ⟨ctx.secdata, 0, ?_, rfl⟩
    rw [decide_eq_false hroll, UInt32.or_zero, ← h.version]
    rfl

theorem vb2LoadFwPreamble_run (hr : ctx.Ready) (h : vb2LoadFwPreamble align hash ex ctx = (r, ctx')) :
    (∃ e, r = .error e) ∧ Frame ctx ctx' ∨
    r = .ok () ∧ Record ctx ctx' ∧ ∃ pre size m₁ m₂, PreambleVerified align hash ex ctx pre size m₁ m₂ ∧
      Vb2FwPreamble.firmwareVersion m₂ pre ≤ 0xffff ∧
      (¬rollbackAllowed ctx →
        ctx.secdata.fwVersions ≤ ctx.sd.fwVersion ||| Vb2FwPreamble.firmwareVersion m₂ pre) ∧
      ctx'.secdata.fwVersions =
        if ctx.secdata.fwVersions < ctx.sd.fwVersion ||| Vb2FwPreamble.firmwareVersion m₂ pre ∧
          ctx.sd.lastFwSlot = ctx.sd.fwSlot ∧ ctx.sd.lastFwResult = vb2FwResultSuccess then
          ctx.sd.fwVersion ||| Vb2FwPreamble.firmwareVersion m₂ pre
        else ctx.secdata.fwVersions := by
  rw [vb2LoadFwPreamble] at h
  obtain ⟨e, he, hk⟩ | ⟨dataKey, s₁, hk, h⟩ := bind_cases h
  · exact .inl ⟨⟨e, he⟩, keeps_loadDataKey.of_run hk⟩
  obtain ⟨-, hunpack, hs₁⟩ := loadDataKey_ok.mp hk
  rw [hs₁] at h
  obtain ⟨e, he, hp⟩ | ⟨⟨pre, preSize⟩, s₂, hp, h⟩ := bind_cases h
  · exact .inl ⟨⟨e, he⟩, (keeps_loadPreamble align hash ex dataKey).of_run hp⟩
  obtain ⟨m₁, m₂, hverified, hs₂⟩ := loadPreamble_ok hunpack hp
  rw [hs₂] at h
  dsimp only at h hverified
  rw [observe_bind, update_bind] at h
  dsimp only at h
  -- from here on the combined version is in the shared data
  generalize hc : ({ ctx with
    workbuf := m₂
    sd := { ctx.sd with fwVersion := ctx.sd.fwVersion ||| Vb2FwPreamble.firmwareVersion m₂ pre } } :
      Vb2Context) = c at h
  have hframe : Frame ctx c := by
    rw [← hc]
    exact .of_fields rfl rfl rfl rfl rfl rfl rfl id
  have hkeeps : (orFail vb2RecoveryFwRollback (inspect (checkFwVersion
      (Vb2FwPreamble.firmwareVersion m₂ pre)))).Keeps Frame := keeps_orFail (keeps_inspect _)
  obtain ⟨e, he, hcheck⟩ | ⟨u, s₃, hcheck, h⟩ := bind_cases h
  · exact .inl ⟨⟨e, he⟩, hframe.trans (hkeeps.of_run hcheck)⟩
  obtain ⟨hversion, hs₃⟩ := inspect_ok.mp (orFail_ok.mp hcheck)
  obtain ⟨hrange, hroll⟩ := checkFwVersion_ok hversion
  obtain ⟨sec, flags, hforward, hsec⟩ := rollForward_run (hframe.ready hr)
  rw [hs₃, bind_of_ok hforward] at h
  have hready := (hframe.ready hr).version
  cases h
  subst hc
  refine .inr ⟨rfl, ?_, pre, preSize, m₁, m₂, hverified, hrange, fun hra => hready ▸ hroll hra, ?_⟩
  · exact hframe.toRecord.trans ⟨id, .rfl, rfl, rfl, fun _ => rfl, fun _ => .inl rfl⟩
  · have hcond : canRollForward { ctx.sd with
        fwVersion := ctx.sd.fwVersion ||| Vb2FwPreamble.firmwareVersion m₂ pre } ↔
      ctx.secdata.fwVersions < ctx.sd.fwVersion ||| Vb2FwPreamble.firmwareVersion m₂ pre ∧
        ctx.sd.lastFwSlot = ctx.sd.fwSlot ∧ ctx.sd.lastFwResult = vb2FwResultSuccess := by
      rw [canRollForward, ← hr.version]
    exact hsec.trans (if_congr hcond rfl rfl)

/-- A slot is verified from a context: its keyblock, with key version k, under the root key, and its
preamble, with firmware version f, under the data key that was saved. -/
def SlotVerified (align : UInt32) (hash : Vb2HashAlgorithm → List UInt8 → List UInt8) (ex : Vb2Ex)
    (ctx : Vb2Context) (k f : UInt32) : Prop :=
  ∃ keyData rootKey wb m kb size m₁ m₂ pre preSize m₃ m₄,
    RootKeyRead align ex ctx keyData rootKey wb m ∧
    KeyblockVerified align hash ex rootKey wb { ctx with workbuf := m } kb size m₁ m₂ ∧
    k = Vb2PackedKey.keyVersion m₂ (Vb2Keyblock.dataKey kb) ∧
    PreambleVerified align hash ex (saveDataKey keyData kb
      { ctx with workbuf := m₂, sd := { ctx.sd with fwVersion := k <<< 16 } }) pre preSize m₃ m₄ ∧
    f = Vb2FwPreamble.firmwareVersion m₄ pre

/-- Phase 3 succeeded with the versions k and f. -/
structure Passed (align : UInt32) (hash : Vb2HashAlgorithm → List UInt8 → List UInt8) (ex : Vb2Ex)
    (ctx ctx' : Vb2Context) (k f : UInt32) : Prop where
  record : Record ctx ctx'
  verified : SlotVerified align hash ex ctx k f
  range : k ≤ 0xffff ∧ f ≤ 0xffff
  rollback : ¬rollbackAllowed ctx →
    ctx.secdata.fwVersions >>> 16 ≤ k ∧ ctx.secdata.fwVersions ≤ k <<< 16 ||| f
  version : ctx'.secdata.fwVersions =
    if ctx.secdata.fwVersions < k <<< 16 ||| f ∧ ctx.sd.lastFwSlot = ctx.sd.fwSlot ∧
      ctx.sd.lastFwResult = vb2FwResultSuccess then k <<< 16 ||| f
    else ctx.secdata.fwVersions

theorem vb2apiFwPhase3_run (hr : ctx.Ready) (h : vb2apiFwPhase3 align hash ex ctx = (r, ctx')) :
    (∃ e, r = .error e) ∧ Frame ctx ctx' ∨ r = .ok () ∧ ∃ k f, Passed align hash ex ctx ctx' k f := by
  rw [vb2apiFwPhase3] at h
  have hkeeps : (orFail vb2RecoveryRoInvalidRw (vb2LoadFwKeyblock align hash ex)).Keeps Frame :=
    keeps_orFail (keeps_vb2LoadFwKeyblock align hash ex)
  obtain ⟨e, he, hk⟩ | ⟨u, s, hk, h⟩ := bind_cases h
  · exact .inl ⟨⟨e, he⟩, hkeeps.of_run hk⟩
  have hframe := hkeeps.of_run hk
  obtain ⟨keyData, rootKey, wb, m, kb, size, m₁, m₂, hroot, hkb, hversion, hs⟩ :=
    vb2LoadFwKeyblock_ok (orFail_ok.mp hk)
  obtain ⟨hrange, hroll⟩ := checkKeyVersion_ok hversion
  cases orFail_cases h with
  | inr hfail =>
    obtain ⟨e, s₁, he, hpre, hs₁⟩ := hfail
    cases vb2LoadFwPreamble_run (hframe.ready hr) hpre with
    | inl herr =>
      refine .inl ⟨⟨e, he⟩, (hframe.trans herr.2).trans ?_⟩
      rw [hs₁]
      exact vb2Fail_frame _ _ s₁
    | inr hok => exact absurd hok.1 (by simp)
  | inl hok =>
    obtain ⟨u, he, hpre⟩ := hok
    cases vb2LoadFwPreamble_run (hframe.ready hr) hpre with
    | inl herr =>
      obtain ⟨e, he⟩ := herr.1
      cases he
    | inr hok =>
      obtain ⟨-, hrecord, pre, preSize, m₃, m₄, hpreamble, hfrange, hfroll, hforward⟩ := hok
      have hfw : s.sd.fwVersion = Vb2PackedKey.keyVersion m₂ (Vb2Keyblock.dataKey kb) <<< 16 := by
        rw [hs]
        rfl
      have hallowed : rollbackAllowed s ↔ rollbackAllowed ctx := by
        rw [hs]
        rfl
      rw [hfw, hframe.versions, hframe.lastSlot, hframe.lastResult, hframe.slot] at hforward
      rw [hfw, hframe.versions, hallowed] at hfroll
      rw [hs] at hpreamble
      exact .inr ⟨he, _, _, hframe.toRecord.trans hrecord,
        ⟨keyData, rootKey, wb, m, kb, size, m₁, m₂, pre, preSize, m₃, m₄, hroot, hkb, rfl, hpreamble, rfl⟩,
        ⟨hrange, hfrange⟩, fun hra => ⟨hr.version ▸ hroll hra, hfroll hra⟩, hforward⟩

/-- What phases 1 and 2 leave when both succeed. A resume takes no notice of the last boot. -/
structure Chosen (a c : Vb2Context) : Prop where
  ready : c.Ready
  nvInit : c.NvInit
  versions : c.secdata.fwVersions = a.secdata.fwVersions
  record : ¬ c.Chose ∧ c.sd.lastFwResult = vb2FwResultUnknown ∧
      vb2NvGet c .fwTried = vb2NvGet a .fwTried ∧ vb2NvGet c .fwResult = vb2NvGet a .fwResult ∨
    c.Chose ∧ c.sd.lastFwSlot = vb2NvGet a .fwTried ∧ c.sd.lastFwResult = vb2NvGet a .fwResult ∧
      vb2NvGet c .fwTried = c.sd.fwSlot ∧ vb2NvGet c .fwResult ≠ vb2FwResultSuccess

theorem Frame.result_eq {b : Vb2Context} (h : Frame a b) (hn : a.NvInit) (hc : ¬ a.Chose) :
    vb2NvGet b .fwResult = vb2NvGet a .fwResult :=
  (h.result hn).resolve_right fun hx => hc hx.1

theorem chosen_resumeSlot (hn : a.NvInit) (hc : ¬ a.Chose)
    (hlast : a.sd.lastFwResult = vb2FwResultUnknown) (h : Frame a s) (hr : s.Ready) :
    Chosen a (resumeSlot s) where
  ready := ⟨hr.status, hr.version⟩
  nvInit := h.nvInit hn
  versions := h.versions
  record := .inl ⟨fun hx => hc (h.chose.mp hx), h.lastResult.trans hlast, h.tried hn, h.result_eq hn hc⟩

theorem chosen_vb2SelectFwSlot (hn : a.NvInit) (hc : ¬ a.Chose) (h : Frame a s) (hr : s.Ready) :
    Chosen a (vb2SelectFwSlot s) := by
  have hsel := vb2SelectFwSlot_selected s
  obtain ⟨e, flags, honly, hrest⟩ := vb2SelectFwSlot_rest s
  have hsd : e.sd = s.sd := by rw [honly.rest]
  have hsecdata : (vb2SelectFwSlot s).secdata = s.secdata := by rw [hrest, honly.rest]
  have hstatus : (vb2SelectFwSlot s).sd.status = s.sd.status ||| vb2SdStatusChoseSlot := by rw [hrest, hsd]
  have hstored : (vb2SelectFwSlot s).sd.fwVersionSecdata = s.sd.fwVersionSecdata := by rw [hrest, hsd]
  refine ⟨⟨?_, ?_⟩, ?_, ?_, .inr ⟨?_, ?_, ?_, ?_, ?_⟩⟩
  · rw [hstatus]
    exact Flags.or_ne_zero hr.status
  · rw [hstored, hsecdata]
    exact hr.version
  · rw [Vb2Context.NvInit, hstatus]
    exact Flags.or_ne_zero (h.nvInit hn)
  · rw [hsecdata]
    exact h.versions
  · rw [Vb2Context.Chose, hstatus, Flags.or_and_self]
    decide
  · exact hsel.lastSlot.trans (h.tried hn)
  · exact hsel.lastResult.trans (h.result_eq hn hc)
  · exact hsel.tried.trans hsel.slot.symm
  · rw [hsel.result]
    split_ifs <;> decide

/-- Phases 1 and 2. -/
def choosePhases (align : UInt32) (ex : Vb2Ex) : Vb2M Unit := do
  vb2apiFwPhase1 align ex
  vb2apiFwPhase2 ex

theorem choosePhases_run (hw : HasWorkbuf align ctx) (h : choosePhases align ex ctx = (r, ctx')) :
    (∃ e, r = .error e) ∧ Frame (startContext ctx) ctx' ∨ r = .ok () ∧ Chosen (startContext ctx) ctx' := by
  have hn : (startContext ctx).NvInit := vb2NvInit_nvInit _
  have hc := startContext_chose ctx
  have hframe : Frame (startContext ctx) (vb2apiFwPhase1 align ex ctx).2 := vb2apiFwPhase1_frame hw
  rw [choosePhases] at h
  obtain ⟨e, he, h1⟩ | ⟨u, s₁, h1, h⟩ := bind_cases h
  · rw [h1] at hframe
    exact .inl ⟨⟨e, he⟩, hframe⟩
  · rw [h1] at hframe
    have hready := vb2apiFwPhase1_ready hw h1
    rcases vb2apiFwPhase2_cases h with herr | ⟨hok, hs⟩ | ⟨hok, s₂, hf₂, hs⟩
    · exact .inl ⟨herr.1, hframe.trans herr.2⟩
    · rw [hs]
      exact .inr ⟨hok, chosen_resumeSlot hn hc (startContext_frame ctx).lastResult hframe hready⟩
    · rw [hs]
      exact .inr ⟨hok, chosen_vb2SelectFwSlot hn hc (hframe.trans hf₂) (hf₂.ready hready)⟩

theorem fwPhases_eq : fwPhases align hash ex = (do
    choosePhases align ex
    vb2apiFwPhase3 align hash ex) := by
  rw [fwPhases, choosePhases, bind_assoc]

end

/-- What one boot finds: the functions of the caller, what became of NV storage since the last
boot, the flags, and a work buffer with any contents. -/
structure FwBoot (align : UInt32) where
  ex : Vb2Ex
  nv : NvRaw → NvRaw
  flags : UInt32
  sd : Vb2SharedData
  workbuf : Mem
  workbufAddr : UInt64
  workbufSize : UInt32
  size : vb2SharedDataSize ≤ workbufSize
  aligned : vb2Aligned workbufAddr align.toUInt64

section
variable {align : UInt32} (hash : Vb2HashAlgorithm → List UInt8 → List UInt8)

namespace FwBoot

def context (b : FwBoot align) (s : Vb2Context) : Vb2Context :=
  ⟨b.flags, b.nv s.nvdata, s.secdata, s.secdatak, b.sd, b.workbuf, b.workbufAddr, b.workbufSize, 0⟩

/-- The same when NV storage is read. -/
def start (b : FwBoot align) (s : Vb2Context) : Vb2Context := startContext (b.context s)

def chosen (b : FwBoot align) (s : Vb2Context) : Except UInt32 Unit × Vb2Context :=
  choosePhases align b.ex (b.context s)

def booted (b : FwBoot align) (s : Vb2Context) : Except UInt32 Unit × Vb2Context :=
  fwPhases align hash b.ex (b.context s)

theorem hasWorkbuf (b : FwBoot align) (s : Vb2Context) : HasWorkbuf align (b.context s) :=
  ⟨rfl, b.size, b.aligned⟩

end FwBoot

def fwStep (s : Vb2Context) (b : FwBoot align) : Vb2Context := (b.booted hash s).2

def Vb2Context.version (s : Vb2Context) : UInt32 := s.secdata.fwVersions

variable (s : Vb2Context) (b : FwBoot align)

theorem fwStep_cases :
    (∃ e, (b.booted hash s).1 = .error e) ∧ Frame (b.start s) (fwStep hash s b) ∨
    ∃ c, b.chosen s = (.ok (), c) ∧ Chosen (b.start s) c ∧
      ((∃ e, (b.booted hash s).1 = .error e) ∧ Frame c (fwStep hash s b) ∨
        (b.booted hash s).1 = .ok () ∧ ∃ k f, Passed align hash b.ex c (fwStep hash s b) k f) := by
  have heq : b.booted hash s = (choosePhases align b.ex >>= fun _ => vb2apiFwPhase3 align hash b.ex)
      (b.context s) := congrFun fwPhases_eq _
  unfold fwStep
  cases hc : b.chosen s with
  | mk r c =>
    cases choosePhases_run (b.hasWorkbuf s) hc with
    | inl herr =>
      obtain ⟨⟨e, he⟩, hframe⟩ := herr
      subst he
      rw [FwBoot.chosen] at hc
      rw [bind_of_error hc] at heq
      rw [heq]
      exact .inl ⟨⟨e, rfl⟩, hframe⟩
    | inr hok =>
      obtain ⟨he, hchosen⟩ := hok
      subst he
      have hrun : choosePhases align b.ex (b.context s) = (.ok (), c) := hc
      rw [bind_of_ok hrun] at heq
      refine .inr ⟨c, rfl, hchosen, ?_⟩
      rw [heq]
      exact vb2apiFwPhase3_run hchosen.ready rfl

/-- While recovery is requested no boot passes the phases. -/
theorem recovery_request_honoured :
    vb2NvGet (b.start s) .recoveryRequest = 0 ∨ ∃ e, (b.booted hash s).1 = .error e := by
  rcases hb : b.booted hash s with ⟨e | u, t⟩
  · exact .inr ⟨e, rfl⟩
  · left
    by_contra hrequest
    obtain ⟨_, s1, h1, -⟩ := bind_ok.mp hb
    rw [vb2apiFwPhase1_eq (b.hasWorkbuf s)] at h1
    obtain ⟨_, s2, hreboot, h2⟩ := bind_ok.mp h1
    obtain ⟨_, s3, hsec, h3⟩ := bind_ok.mp h2
    have hp2 : s2.Pending := secdataReboot_pending.of_run hreboot ⟨vb2NvInit_nvInit _, hrequest⟩
    have hinit : Keeps (Stable Vb2Context.Pending) (transform vb2SecdataInit : Vb2M Unit) := by
      refine keeps_transform fun _ _ h hp => ⟨(vb2SecdataInit_frame h).1.nvInit hp.nvInit, ?_⟩
      rw [vb2SecdataInit_ok h]
      exact hp.request
    have hp3 := (hinit.catch fun rv => keeps_update fun _ h => h.fail (by decide) _).of_run hsec hp2
    exact fwPhase1Mode_pending hp3 h3

theorem start_versions (s : Vb2Context) : (b.start s).version = s.version :=
  (startContext_frame (b.context s)).versions

/-- Boot b raises the version of context s: it passes all phases, the new version is the one of the
keyblock and the preamble that it verified, and NV storage has the slot of this boot as the one of
the last boot, with success. -/
structure VersionRaised (s : Vb2Context) (b : FwBoot align) : Prop where
  above : s.version < (fwStep hash s b).version
  booted : (b.booted hash s).1 = .ok ()
  verified : ∃ c k f, b.chosen s = (.ok (), c) ∧ SlotVerified align hash b.ex c k f ∧
    k ≤ 0xffff ∧ f ≤ 0xffff ∧ (fwStep hash s b).version = k <<< 16 ||| f
  lastSlot : vb2NvGet (b.start s) .fwTried = (fwStep hash s b).sd.fwSlot
  lastResult : vb2NvGet (b.start s) .fwResult = vb2FwResultSuccess

theorem fwStep_version :
    (fwStep hash s b).version = s.version ∨ VersionRaised hash s b := by
  rcases fwStep_cases hash s b with ⟨-, hframe⟩ | ⟨c, hc, hchosen, ⟨-, hframe⟩ | ⟨hok, k, f, hpassed⟩⟩
  · exact .inl (hframe.versions.trans (start_versions b s))
  · exact .inl ((hframe.versions.trans hchosen.versions).trans (start_versions b s))
  · have hstored : c.secdata.fwVersions = s.version := hchosen.versions.trans (start_versions b s)
    have hversion := hpassed.version
    split_ifs at hversion with hroll
    · obtain ⟨habove, hslot, hresult⟩ := hroll
      rw [hstored] at habove
      -- a resume does not know a success
      rcases hchosen.record with ⟨-, hunknown, -⟩ | ⟨-, hlast, hlastResult, -⟩
      · rw [hunknown] at hresult
        exact absurd hresult (by decide)
      · refine .inr ⟨?_, hok, ⟨c, k, f, hc, hpassed.verified, hpassed.range.1, hpassed.range.2, hversion⟩,
          ?_, hlastResult.symm.trans hresult⟩
        · change s.version < (fwStep hash s b).secdata.fwVersions
          rw [hversion]
          exact habove
        · exact (hlast.symm.trans hslot).trans hpassed.record.slot.symm
    · exact .inl (hversion.trans hstored)

theorem fwStep_version_le : s.version ≤ (fwStep hash s b).version := by
  cases fwStep_version hash s b with
  | inl h =>
    rw [h]
    exact UInt32.le_refl _
  | inr h => exact UInt32.le_of_lt h.above

theorem run_version_le (u : List (FwBoot align)) :
    s.version ≤ (run (fwStep hash) s u).version := by
  have hstep (t : Vb2Context) (b : FwBoot align) (h : s.version ≤ t.version) :
      s.version ≤ (fwStep hash t b).version :=
    UInt32.le_trans h (fwStep_version_le hash t b)
  exact run_invariant hstep u s (UInt32.le_refl _)

theorem fwStep_record :
    ((fwStep hash s b).Chose → vb2NvGet (fwStep hash s b) .fwTried = (fwStep hash s b).sd.fwSlot ∧
      vb2NvGet (fwStep hash s b) .fwResult ≠ vb2FwResultSuccess) ∧
    (¬ (fwStep hash s b).Chose → vb2NvGet (fwStep hash s b) .fwTried = vb2NvGet (b.start s) .fwTried ∧
      vb2NvGet (fwStep hash s b) .fwResult = vb2NvGet (b.start s) .fwResult) := by
  have hn : (b.start s).NvInit := vb2NvInit_nvInit _
  have hc := startContext_chose (b.context s)
  -- the choice of a slot settles the record, the rest may turn the result into a failure
  have hlater {c t : Vb2Context} (hchosen : Chosen (b.start s) c) (hrec : Record c t) :
      (t.Chose → vb2NvGet t .fwTried = t.sd.fwSlot ∧ vb2NvGet t .fwResult ≠ vb2FwResultSuccess) ∧
      (¬ t.Chose → vb2NvGet t .fwTried = vb2NvGet (b.start s) .fwTried ∧
        vb2NvGet t .fwResult = vb2NvGet (b.start s) .fwResult) := by
    rw [hrec.chose, hrec.tried hchosen.nvInit, hrec.slot]
    rcases hchosen.record with ⟨hnot, -, htried, hresult⟩ | ⟨hchose, -, -, htried, hresult⟩
    · refine ⟨fun hx => absurd hx hnot, fun _ => ⟨htried, ?_⟩⟩
      exact ((hrec.result hchosen.nvInit).resolve_right fun hx => hnot hx.1).trans hresult
    · refine ⟨fun _ => ⟨htried, ?_⟩, fun hx => absurd hchose hx⟩
      cases hrec.result hchosen.nvInit with
      | inl he => rw [he]; exact hresult
      | inr hf => rw [hf.2]; decide
  rcases fwStep_cases hash s b with ⟨-, hframe⟩ | ⟨c, -, hchosen, ⟨-, hframe⟩ | ⟨-, k, f, hpassed⟩⟩
  · exact ⟨fun hx => absurd (hframe.chose.mp hx) hc, fun _ => ⟨hframe.tried hn, hframe.result_eq hn hc⟩⟩
  · exact hlater hchosen hframe.toRecord
  · exact hlater hchosen hpassed.record

def NoChoice (s : Vb2Context) (u : List (FwBoot align)) : Prop :=
  Along (fwStep hash) (fun s b => ¬ (fwStep hash s b).Chose) s u

/-- Nothing but the choice of a slot writes the slot of the last boot. -/
def TriedKept (s : Vb2Context) (u : List (FwBoot align)) : Prop :=
  Along (fwStep hash) (fun s b => vb2NvGet (b.start s) .fwTried = vb2NvGet s .fwTried) s u

/-- Between two boots of the run the result of the last boot becomes a success. -/
def SuccessReported (u : List (FwBoot align)) : Prop :=
  ∃ v d w, u = v ++ d :: w ∧ vb2NvGet (run (fwStep hash) s v) .fwResult ≠ vb2FwResultSuccess ∧
    vb2NvGet (d.start (run (fwStep hash) s v)) .fwResult = vb2FwResultSuccess

/-- Before boot b the last boot that chose a slot chose this one, and then success was reported. -/
def LastSucceeded (s : Vb2Context) (u : List (FwBoot align)) (b : FwBoot align) (slot : UInt32) : Prop :=
  ∃ u₁ c u₂, u = u₁ ++ c :: u₂ ∧ (run (fwStep hash) s (u₁ ++ [c])).Chose ∧
    (run (fwStep hash) s (u₁ ++ [c])).sd.fwSlot = slot ∧
    NoChoice hash (run (fwStep hash) s (u₁ ++ [c])) u₂ ∧
    SuccessReported hash (run (fwStep hash) s (u₁ ++ [c])) (u₂ ++ [b])

variable {s : Vb2Context} {u : List (FwBoot align)} {b : FwBoot align}

theorem SuccessReported.cons (h : SuccessReported hash (fwStep hash s b) u) :
    SuccessReported hash s (b :: u) := by
  obtain ⟨v, d, w, he, hbefore, hafter⟩ := h
  exact ⟨b :: v, d, w, congrArg (b :: ·) he, hbefore, hafter⟩

theorem record_run (hno : NoChoice hash s u) (hkept : TriedKept hash s u) :
    vb2NvGet (run (fwStep hash) s u) .fwTried = vb2NvGet s .fwTried ∧
    (vb2NvGet (run (fwStep hash) s u) .fwResult = vb2FwResultSuccess →
      vb2NvGet s .fwResult = vb2FwResultSuccess ∨ SuccessReported hash s u) := by
  induction u generalizing s with
  | nil => exact ⟨rfl, .inl⟩
  | cons b u ih =>
    obtain ⟨htried, hresult⟩ := ih hno.2 hkept.2
    obtain ⟨htried₁, hresult₁⟩ := (fwStep_record hash s b).2 hno.1
    refine ⟨htried.trans (htried₁.trans hkept.1), fun hsuccess => ?_⟩
    cases hresult hsuccess with
    | inr hreported => exact .inr hreported.cons
    | inl hstep =>
      by_cases hs : vb2NvGet s .fwResult = vb2FwResultSuccess
      · exact .inl hs
      · exact .inr ⟨[], b, u, rfl, hs, hresult₁.symm.trans hstep⟩

theorem lastSucceeded_of_raised (hr : VersionRaised hash (run (fwStep hash) s u) b)
    (hkept : TriedKept hash s (u ++ [b])) :
    NoChoice hash s u ∨
      LastSucceeded hash s u b (fwStep hash (run (fwStep hash) s u) b).sd.fwSlot := by
  refine (along_or_last (fwStep hash) Vb2Context.Chose u s).imp id ?_
  rintro ⟨u₁, c, u₂, rfl, hchose, hno⟩
  refine ⟨u₁, c, u₂, rfl, hchose, ?_⟩
  have hsplit : u₁ ++ c :: u₂ = (u₁ ++ [c]) ++ u₂ := by simp
  have hrun : run (fwStep hash) s (u₁ ++ c :: u₂) =
      run (fwStep hash) (run (fwStep hash) s (u₁ ++ [c])) u₂ := by
    rw [hsplit, run_append]
  rw [hsplit, List.append_assoc] at hkept
  rw [hrun] at hr ⊢
  obtain ⟨hkept₂, hkeptb⟩ := hkept.of_append.2.of_append
  generalize ht : run (fwStep hash) s (u₁ ++ [c]) = t at hr hchose hno hkept₂ hkeptb ⊢
  have hrecord : vb2NvGet t .fwTried = t.sd.fwSlot ∧ vb2NvGet t .fwResult ≠ vb2FwResultSuccess := by
    rw [← ht, run_append] at hchose ⊢
    exact (fwStep_record hash _ c).1 hchose
  obtain ⟨htried, hresult⟩ := record_run hash hno hkept₂
  refine ⟨?_, hno, ?_⟩
  · rw [← hrecord.1, ← htried, ← hkeptb.1]
    exact hr.lastSlot
  · by_cases hs : vb2NvGet (run (fwStep hash) t u₂) .fwResult = vb2FwResultSuccess
    · obtain ⟨v, d, w, he, hbefore, hafter⟩ := (hresult hs).resolve_left hrecord.2
      exact ⟨v, d, w ++ [b], by simp [he], hbefore, hafter⟩
    · exact ⟨u₂, b, [], rfl, hs, hr.lastResult⟩

/-- The version in secdata over a run of boots. It never falls, a boot raises it only to the version
of the slot that it verified, after a boot of that slot that was a success, and no slot with an
older version passes unless the GBB allows it. -/
theorem fw_version_over_boots (s : Vb2Context) (u : List (FwBoot align)) :
    (∀ v, (run (fwStep hash) s u).version ≤ (run (fwStep hash) s (u ++ v)).version) ∧
    ∀ b, let t := run (fwStep hash) s u
      ((fwStep hash t b).version ≠ t.version → VersionRaised hash t b ∧
        (TriedKept hash s (u ++ [b]) →
          NoChoice hash s u ∨ LastSucceeded hash s u b (fwStep hash t b).sd.fwSlot)) ∧
      ((b.booted hash t).1 = .ok () → ∃ c k f, b.chosen t = (.ok (), c) ∧
        SlotVerified align hash b.ex c k f ∧
        (¬rollbackAllowed c → t.version >>> 16 ≤ k ∧ t.version ≤ k <<< 16 ||| f)) := by
  refine ⟨fun v => ?_, fun b => ⟨fun hne => ?_, fun hok => ?_⟩⟩
  · rw [run_append]
    exact run_version_le hash _ v
  · have hraised := (fwStep_version hash (run (fwStep hash) s u) b).resolve_left hne
    exact ⟨hraised, lastSucceeded_of_raised hash hraised⟩
  · rcases fwStep_cases hash (run (fwStep hash) s u) b with
      ⟨⟨e, he⟩, -⟩ | ⟨c, hc, hchosen, ⟨⟨e, he⟩, -⟩ | ⟨-, k, f, hpassed⟩⟩
    · cases he.symm.trans hok
    · cases he.symm.trans hok
    · refine ⟨c, k, f, hc, hpassed.verified, fun hra => ?_⟩
      have hstored := hchosen.versions.trans (start_versions b (run (fwStep hash) s u))
      have hroll := hpassed.rollback hra
      rw [hstored] at hroll
      exact hroll

end
end Vboot.Vb2
