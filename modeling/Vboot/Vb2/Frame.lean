import Vboot.Lib.Flags
import Vboot.Vb2.Firmware

/-! What the functions of firmware verification leave alone: the version in secdata, the record of
the last boot and the status. -/
namespace Vboot.Vb2
open Vboot.Lib Vboot.Lib.Program

namespace Vb2Context

def NvInit (ctx : Vb2Context) : Prop := ctx.sd.status &&& vb2SdStatusNvInit ≠ 0

def Chose (ctx : Vb2Context) : Prop := ctx.sd.status &&& vb2SdStatusChoseSlot ≠ 0

def Recovery (ctx : Vb2Context) : Prop := ctx.flags &&& vb2ContextRecoveryMode ≠ 0

/-- Secdata is readable, and the shared data has its version. -/
structure Ready (ctx : Vb2Context) : Prop where
  status : ctx.sd.status &&& vb2SdStatusSecdataInit ≠ 0
  version : ctx.sd.fwVersionSecdata = ctx.secdata.fwVersions

end Vb2Context

/-- A step that does not concern the choice of a slot. A failure may be recorded, but only after
the choice. -/
structure Record (a b : Vb2Context) : Prop where
  nvInit : a.NvInit → b.NvInit
  chose : b.Chose ↔ a.Chose
  lastResult : b.sd.lastFwResult = a.sd.lastFwResult
  slot : b.sd.fwSlot = a.sd.fwSlot
  tried : a.NvInit → vb2NvGet b .fwTried = vb2NvGet a .fwTried
  result : a.NvInit → vb2NvGet b .fwResult = vb2NvGet a .fwResult ∨
    a.Chose ∧ vb2NvGet b .fwResult = vb2FwResultFailure

/-- The version in secdata is left alone, too. -/
structure Frame (a b : Vb2Context) : Prop extends Record a b where
  versions : b.secdata.fwVersions = a.secdata.fwVersions
  ready : a.Ready → b.Ready
  recovery : a.Recovery → b.Recovery
  lastSlot : b.sd.lastFwSlot = a.sd.lastFwSlot

section
variable {a b c : Vb2Context}

theorem Record.of_sd (h : b.sd = a.sd) (htried : vb2NvGet b .fwTried = vb2NvGet a .fwTried)
    (hresult : vb2NvGet b .fwResult = vb2NvGet a .fwResult ∨
      a.Chose ∧ vb2NvGet b .fwResult = vb2FwResultFailure) : Record a b :=
  ⟨by rw [Vb2Context.NvInit, Vb2Context.NvInit, h]; exact id, by rw [Vb2Context.Chose, Vb2Context.Chose, h],
    congrArg _ h, congrArg _ h, fun _ => htried, fun _ => hresult⟩

theorem Record.trans (h : Record a b) (h' : Record b c) : Record a c where
  nvInit hn := h'.nvInit (h.nvInit hn)
  chose := h'.chose.trans h.chose
  lastResult := h'.lastResult.trans h.lastResult
  slot := h'.slot.trans h.slot
  tried hn := (h'.tried (h.nvInit hn)).trans (h.tried hn)
  result hn := by
    cases h'.result (h.nvInit hn) with
    | inr hf => exact .inr ⟨h.chose.mp hf.1, hf.2⟩
    | inl he => rw [he]; exact h.result hn

namespace Frame

theorem refl (a : Vb2Context) : Frame a a :=
  ⟨.of_sd rfl rfl (.inl rfl), rfl, id, id, rfl⟩

theorem trans (h : Frame a b) (h' : Frame b c) : Frame a c where
  toRecord := h.toRecord.trans h'.toRecord
  versions := h'.versions.trans h.versions
  ready hr := h'.ready (h.ready hr)
  recovery hr := h'.recovery (h.recovery hr)
  lastSlot := h'.lastSlot.trans h.lastSlot

instance : Std.Refl Frame := ⟨refl⟩

instance : IsTrans Vb2Context Frame := ⟨fun _ _ _ => trans⟩

theorem of_fields (hsec : b.secdata = a.secdata) (hnv : b.nvdata = a.nvdata)
    (hstored : b.sd.fwVersionSecdata = a.sd.fwVersionSecdata) (hstatus : b.sd.status = a.sd.status)
    (hlast : b.sd.lastFwSlot = a.sd.lastFwSlot) (hresult : b.sd.lastFwResult = a.sd.lastFwResult)
    (hslot : b.sd.fwSlot = a.sd.fwSlot) (hflags : a.Recovery → b.Recovery) : Frame a b where
  versions := congrArg _ hsec
  ready hr := ⟨by rw [hstatus]; exact hr.status, by rw [hstored, hsec]; exact hr.version⟩
  nvInit hn := by rw [Vb2Context.NvInit, hstatus]; exact hn
  chose := by rw [Vb2Context.Chose, hstatus]; exact .rfl
  recovery := hflags
  lastSlot := hlast
  lastResult := hresult
  slot := hslot
  tried _ := by rw [vb2NvGet_eq, hnv, vb2NvGet_eq]
  result _ := by rw [vb2NvGet_eq, hnv, vb2NvGet_eq]; exact .inl rfl

theorem of_nv (h : NvOnly a b) (htried : vb2NvGet b .fwTried = vb2NvGet a .fwTried)
    (hresult : vb2NvGet b .fwResult = vb2NvGet a .fwResult ∨
      a.Chose ∧ vb2NvGet b .fwResult = vb2FwResultFailure) : Frame a b := by
  have hsd : b.sd = a.sd := by rw [h.rest]
  have hsec : b.secdata = a.secdata := by rw [h.rest]
  refine ⟨.of_sd hsd htried hresult, congrArg _ hsec,
    fun hr => ⟨by rw [hsd]; exact hr.status, by rw [hsd, hsec]; exact hr.version⟩, ?_, congrArg _ hsd⟩
  intro hr
  cases h.flags with
  | inl hf => rw [Vb2Context.Recovery, hf]; exact hr
  | inr hf => rw [Vb2Context.Recovery, hf]; exact Flags.or_ne_zero hr

theorem sets (ctx : Vb2Context) {ops : List (Vb2NvParam × UInt32)}
    (htried : ∀ op ∈ ops, op.1 ≠ .fwTried) (hresult : ∀ op ∈ ops, op.1 ≠ .fwResult) :
    Frame ctx (vb2NvSets ctx ops) :=
  of_nv (vb2NvSets_only ctx ops) (vb2NvGet_sets_other ctx htried) (.inl (vb2NvGet_sets_other ctx hresult))

theorem set (ctx : Vb2Context) {p : Vb2NvParam} (value : UInt32) (htried : p ≠ .fwTried)
    (hresult : p ≠ .fwResult) : Frame ctx (vb2NvSet ctx p value) :=
  of_nv (vb2NvSet_only ctx p value) (vb2NvGet_set_other ctx htried value)
    (.inl (vb2NvGet_set_other ctx hresult value))

end Frame
end

variable (ctx : Vb2Context)

theorem vb2NvInit_eq : ∃ status, status &&& vb2SdStatusChoseSlot = 0 ∧
    ∃ flags, vb2NvInit ctx = { ctx with
      sd := { ctx.sd with status := ctx.sd.status ||| status }
      nvdata := (vb2NvInit ctx).nvdata
      flags := ctx.flags ||| flags } := by
  have hzero : ctx.flags ||| 0 = ctx.flags := UInt32.or_zero
  unfold vb2NvInit
  cases vb2NvCheckCrc ctx with
  | ok u =>
    refine ⟨vb2SdStatusNvInit, rfl, 0, ?_⟩
    rw [hzero]
    rfl
  | error e =>
    refine ⟨vb2SdStatusNvReinit ||| vb2SdStatusNvInit, rfl, vb2ContextNvdataChanged, ?_⟩
    rw [← UInt32.or_assoc]
    rfl

theorem vb2NvInit_nvInit : (vb2NvInit ctx).NvInit := by
  have hone : vb2SdStatusNvInit ≠ 0 := by decide
  unfold Vb2Context.NvInit vb2NvInit
  dsimp only [Vb2Context.addStatus]
  rw [Flags.or_and_self]
  exact hone

theorem vb2NvInit_frame {ctx : Vb2Context} (h : ¬ ctx.NvInit) : Frame ctx (vb2NvInit ctx) := by
  obtain ⟨status, hchose, flags, he⟩ := vb2NvInit_eq ctx
  have hsd := congrArg Vb2Context.sd he
  have hsec := congrArg Vb2Context.secdata he
  have hflags := congrArg Vb2Context.flags he
  refine ⟨⟨fun hn => absurd hn h, ?_, ?_, ?_, fun hn => absurd hn h, fun hn => absurd hn h⟩,
    congrArg _ hsec, fun hr => ⟨?_, ?_⟩, ?_, ?_⟩
  · rw [Vb2Context.Chose, Vb2Context.Chose, hsd]
    dsimp only
    rw [Flags.or_and_of_disjoint hchose]
  · rw [hsd]
  · rw [hsd]
  · rw [hsd]
    exact Flags.or_ne_zero hr.status
  · rw [hsd, hsec]
    exact hr.version
  · intro hr
    rw [Vb2Context.Recovery, hflags]
    exact Flags.or_ne_zero hr
  · rw [hsd]

variable (reason subcode : UInt8)

theorem vb2Fail_frame (ctx : Vb2Context) : Frame ctx (vb2Fail reason subcode ctx) := by
  have hfirst : Frame ctx (if ctx.sd.status &&& vb2SdStatusNvInit = 0 then vb2NvInit ctx else ctx) := by
    split_ifs with h
    · exact vb2NvInit_frame (not_not.mpr h)
    · exact .refl ctx
  unfold vb2Fail
  dsimp only
  generalize (if ctx.sd.status &&& vb2SdStatusNvInit = 0 then vb2NvInit ctx else ctx) = ctx₁ at hfirst ⊢
  refine hfirst.trans ?_
  -- a failure is recorded after the choice of a slot, recovery is requested in any case
  have hfailure : ctx₁.Chose → Frame ctx₁ (vb2NvSets ctx₁
      [(.fwResult, vb2FwResultFailure), (.tryCount, 0), (.tryNext, 1 - ctx₁.sd.fwSlot)]) := by
    intro hc
    refine .of_nv (vb2NvSets_only _ _) (vb2NvGet_sets_other _ (by simp)) (.inr ⟨hc, ?_⟩)
    have hrest : vb2NvGet (vb2NvSets (vb2NvSet ctx₁ .fwResult vb2FwResultFailure)
        [(.tryCount, 0), (.tryNext, 1 - ctx₁.sd.fwSlot)]) .fwResult = _ :=
      vb2NvGet_sets_other _ (by simp)
    exact hrest.trans (vb2NvGet_set ctx₁ .fwResult vb2FwResultFailure)
  have hrequest (c : Vb2Context) : Frame c (if vb2NvGet c .recoveryRequest = 0 then
      vb2NvSets c [(.recoveryRequest, reason.toUInt32), (.recoverySubcode, subcode.toUInt32)]
    else c) := by
    split_ifs
    · exact .sets c (by simp) (by simp)
    · exact .refl c
  by_cases hc : ctx₁.sd.status &&& vb2SdStatusChoseSlot ≠ 0
  · rw [if_pos hc]
    refine (hfailure hc).trans ?_
    split_ifs
    · exact .refl _
    · exact .sets _ (by simp) (by simp)
    · exact .refl _
  · rw [if_neg hc, if_neg fun h => hc h.1]
    exact hrequest ctx₁

theorem vb2Fail_secure (ctx : Vb2Context) :
    (vb2Fail reason subcode ctx).secdata = ctx.secdata ∧
      (vb2Fail reason subcode ctx).secdatak = ctx.secdatak := by
  have hinit : (vb2NvInit ctx).secdata = ctx.secdata ∧ (vb2NvInit ctx).secdatak = ctx.secdatak := by
    obtain ⟨_, _, _, he⟩ := vb2NvInit_eq ctx
    rw [he]
    exact ⟨rfl, rfl⟩
  have hsets (c : Vb2Context) (ops : List (Vb2NvParam × UInt32)) :
      (vb2NvSets c ops).secdata = c.secdata ∧ (vb2NvSets c ops).secdatak = c.secdatak := by
    rw [(vb2NvSets_only c ops).rest]
    exact ⟨rfl, rfl⟩
  unfold vb2Fail
  dsimp only
  split_ifs <;> simp only [hsets, hinit, and_self]

variable {α : Type} {reason : UInt8} {x : Vb2M α} {a : Vb2Context}

theorem keeps_orFail (h : x.Keeps Frame) : (orFail reason x).Keeps Frame :=
  h.catch fun _ => (keeps_update (vb2Fail_frame reason _)).bind fun _ => keeps_throw _

theorem keeps_failAndGoOn {x : Vb2M Unit} (h : x.Keeps Frame) : (failAndGoOn reason x).Keeps Frame :=
  h.catch fun rv => keeps_update (vb2Fail_frame reason rv.toUInt8)

variable {s s' : Vb2Context}

theorem orFail_ok {a : α} : orFail reason x s = (.ok a, s') ↔ x s = (.ok a, s') :=
  catch_ok fun _ _ _ _ h => by cases h

theorem orFail_cases {r : Except UInt32 α} (h : orFail reason x s = (r, s')) :
    (∃ a, r = .ok a ∧ x s = (.ok a, s')) ∨
      ∃ e s₁, r = .error e ∧ x s = (.error e, s₁) ∧ s' = vb2Fail reason e.toUInt8 s₁ := by
  cases hx : x s with
  | mk r₁ s₁ =>
    cases r₁ with
    | ok a =>
      rw [orFail, catch_of_ok hx] at h
      cases h
      exact .inl ⟨a, rfl, rfl⟩
    | error e =>
      rw [orFail, catch_of_error hx] at h
      cases h
      exact .inr ⟨e, s₁, rfl, rfl, rfl⟩

theorem keeps_allocate (result : Option UInt64 × Vb2Workbuf) (e : UInt32) :
    (allocate result e).Keeps Frame := keeps_inspect _

theorem keeps_onWorkbuf (x : Program UInt32 Mem α) : (onWorkbuf x).Keeps Frame :=
  Keeps.zoom x fun _ _ => .of_fields rfl rfl rfl rfl rfl rfl rfl id

theorem Frame.of_secdata {sec : Secdata} {flags : UInt32} (h : sec.fwVersions = a.secdata.fwVersions) :
    Frame a { a with secdata := sec, flags := a.flags ||| flags } where
  toRecord := .of_sd rfl rfl (.inl rfl)
  versions := h
  ready hr := ⟨hr.status, hr.version.trans h.symm⟩
  recovery hr := Flags.or_ne_zero hr
  lastSlot := rfl

theorem vb2SecdataSet_flags_frame {flags : UInt32} {b : Vb2Context}
    (h : vb2SecdataSet a .flags flags = .ok b) : Frame a b := by
  obtain ⟨-, ⟨-, rfl⟩ | ⟨sec, hput, rfl⟩⟩ := vb2SecdataSet_ok h
  · exact .refl b
  · obtain ⟨-, rfl⟩ := vb2SecdataPut_flags hput
    exact .of_secdata (by simp)

theorem vb2SecdataInit_frame {b : Vb2Context} (h : vb2SecdataInit a = .ok b) : Frame a b ∧ b.Ready := by
  obtain rfl := vb2SecdataInit_ok h
  have hready : Vb2Context.Ready { a with sd := { a.sd with
      status := a.sd.status ||| vb2SdStatusSecdataInit
      fwVersionSecdata := a.secdata.fwVersions } } := by
    refine ⟨?_, rfl⟩
    dsimp only
    rw [Flags.or_and_self]
    decide
  refine ⟨⟨⟨Flags.or_ne_zero, ?_, rfl, rfl, fun _ => rfl, fun _ => .inl rfl⟩, rfl, fun _ => hready, id, rfl⟩,
    hready⟩
  rw [Vb2Context.Chose, Vb2Context.Chose]
  dsimp only
  rw [Flags.or_and_of_disjoint rfl]

theorem vb2CheckRecovery_frame : Frame ctx (vb2CheckRecovery ctx) := by
  have hsets : Frame ctx (vb2NvSets ctx
      [(.recoveryRequest, vb2RecoveryNotRequested), (.recoverySubcode, vb2RecoveryNotRequested)]) :=
    .sets ctx (by simp) (by simp)
  unfold vb2CheckRecovery
  dsimp only
  generalize vb2NvSets ctx _ = cleared at hsets ⊢
  refine hsets.trans (.of_fields rfl rfl rfl rfl rfl rfl rfl fun hr => ?_)
  rw [Vb2Context.Recovery]
  dsimp only
  split_ifs
  all_goals first | exact hr | exact Flags.or_ne_zero hr

theorem enterDev_frame : Frame ctx (enterDev ctx) :=
  .of_fields rfl rfl rfl rfl rfl rfl rfl Flags.or_ne_zero

theorem enterNormal_frame : Frame ctx (enterNormal ctx) :=
  .sets ctx (by simp) (by simp)

theorem enter_frame (dev : Bool) (ctx : Vb2Context) :
    Frame ctx ((if dev then enterDev else enterNormal) ctx) := by
  cases dev with
  | true => exact enterDev_frame ctx
  | false => exact enterNormal_frame ctx

section
variable (align : UInt32) (hash : Vb2HashAlgorithm → List UInt8 → List UInt8) (ex : Vb2Ex)
  {R : Vb2Context → Vb2Context → Prop}

theorem keeps_read [Std.Refl R]
    (hbuf : ∀ ctx m, R ctx { ctx with workbuf := m }) (index : Vb2ResourceIndex) (offset : UInt32)
    (buf : UInt64) (size : UInt32) : (vb2exReadResource ex index offset buf size).Keeps R := by
  refine keeps_transform fun s s' h => ?_
  obtain ⟨bytes, -, hs⟩ := bind_eq_ok.mp h
  cases hs
  exact hbuf s _

theorem keeps_vb2exReadResource (index : Vb2ResourceIndex) (offset : UInt32) (buf : UInt64)
    (size : UInt32) : (vb2exReadResource ex index offset buf size).Keeps Frame :=
  keeps_read ex (fun _ _ => .of_fields rfl rfl rfl rfl rfl rfl rfl id) index offset buf size

theorem keeps_vb2FwParseGbb [Std.Refl R] [IsTrans Vb2Context R]
    (hbuf : ∀ ctx m, R ctx { ctx with workbuf := m })
    (hgbb : ∀ ctx flags offset size, R ctx { ctx with sd := { ctx.sd with
      gbbFlags := flags, gbbRootkeyOffset := offset, gbbRootkeySize := size } }) :
    (vb2FwParseGbb align ex).Keeps R := by
  refine (keeps_observe _).bind fun wb => Keeps.bind (keeps_inspect _) fun p => ?_
  refine Keeps.bind ?_ fun _ => keeps_update fun ctx => hgbb ctx _ _ _
  exact (keeps_read ex hbuf _ _ _ _).bind fun _ => keeps_inspect _

theorem keeps_clearOwner (useSecdata : Bool) (flags : UInt32) :
    (clearOwner ex useSecdata flags).Keeps Frame := by
  refine (keeps_observe _).bind fun rv => Keeps.doIf ?_
  refine (keeps_orFail (keeps_inspect _)).bind fun _ => ?_
  exact keeps_transform fun _ _ h => vb2SecdataSet_flags_frame h

theorem keeps_vb2CheckDevSwitch : (vb2CheckDevSwitch ex).Keeps Frame := by
  refine (keeps_inspect _).bind fun p => (keeps_observe _).bind fun disable => ?_
  refine (Keeps.doIf (keeps_update fun ctx => .set ctx _ (by simp) (by simp))).bind fun _ => ?_
  refine (keeps_observe _).bind fun ctx => ?_
  refine (keeps_update (enter_frame _)).bind fun _ => ?_
  refine (Keeps.doIf (keeps_update fun ctx => .set ctx _ (by simp) (by simp))).bind fun _ => ?_
  exact Keeps.doIf (keeps_clearOwner ex _ _)

theorem keeps_vb2CheckTpmClear : (vb2CheckTpmClear ex).Keeps Frame := by
  refine (keeps_observe _).bind fun request => Keeps.doIf ?_
  refine (keeps_update fun ctx => .set ctx _ (by simp) (by simp)).bind fun _ => ?_
  refine (keeps_observe _).bind fun rv => (keeps_orFail (keeps_inspect _)).bind fun _ => ?_
  exact keeps_update fun ctx => .set ctx _ (by simp) (by simp)

theorem keeps_secdataReboot : secdataReboot.Keeps Frame := by
  refine (keeps_observe _).bind fun ctx => Keeps.ite ?_ (Keeps.ite ?_ ?_)
  · exact keeps_update fun ctx => .set ctx _ (by simp) (by simp)
  · exact keeps_update (vb2Fail_frame _ _)
  · refine (keeps_update fun ctx => .set ctx _ (by simp) (by simp)).bind fun _ => keeps_throw _

theorem keeps_loadRootKey : (loadRootKey align ex).Keeps Frame := by
  refine (keeps_observe _).bind fun wb => (keeps_observe _).bind fun sd => ?_
  refine (keeps_allocate _ _).bind fun p => (keeps_vb2exReadResource ex _ _ _ _).bind fun _ => ?_
  exact (keeps_inspect _).bind fun _ => keeps_pure _

theorem keeps_loadKeyblock (rootKey : Vb2PublicKey) (wb : Vb2Workbuf) :
    (loadKeyblock align hash ex rootKey wb).Keeps Frame := by
  refine (keeps_allocate _ _).bind fun p => (keeps_vb2exReadResource ex _ _ _ _).bind fun _ => ?_
  refine (keeps_observe _).bind fun size => (keeps_allocate _ _).bind fun p => ?_
  refine (keeps_vb2exReadResource ex _ _ _ _).bind fun _ => ?_
  exact (keeps_orFail (keeps_onWorkbuf _)).bind fun _ => keeps_pure _

theorem keeps_vb2LoadFwKeyblock : (vb2LoadFwKeyblock align hash ex).Keeps Frame := by
  refine (keeps_loadRootKey align ex).bind fun p => (keeps_loadKeyblock align hash ex _ _).bind fun kb => ?_
  refine (keeps_observe _).bind fun v => (keeps_orFail (keeps_inspect _)).bind fun _ => ?_
  refine (keeps_update fun ctx => .of_fields rfl rfl rfl rfl rfl rfl rfl id).bind fun _ => ?_
  exact keeps_update fun ctx => .of_fields rfl rfl rfl rfl rfl rfl rfl id

theorem keeps_loadDataKey : loadDataKey.Keeps Frame :=
  (keeps_observe _).bind fun _ => keeps_inspect _

theorem keeps_loadPreamble (dataKey : Vb2PublicKey) :
    (loadPreamble align hash ex dataKey).Keeps Frame := by
  refine (keeps_observe _).bind fun wb => (keeps_observe _).bind fun offset => ?_
  refine (keeps_allocate _ _).bind fun p => (keeps_vb2exReadResource ex _ _ _ _).bind fun _ => ?_
  refine (keeps_observe _).bind fun size => (keeps_allocate _ _).bind fun p => ?_
  refine (keeps_vb2exReadResource ex _ _ _ _).bind fun _ => ?_
  exact (keeps_orFail (keeps_onWorkbuf _)).bind fun _ => keeps_pure _

variable {ctx : Vb2Context}

theorem vb2Fail_request (hn : ctx.NvInit) {reason : UInt8} (hreason : reason ≠ 0)
    (subcode : UInt8) (h : ctx.Chose → vb2NvGet ctx .recoveryRequest ≠ 0) :
    vb2NvGet (vb2Fail reason subcode ctx) .recoveryRequest ≠ 0 := by
  have hset (c : Vb2Context) : vb2NvGet (vb2NvSets c
      [(.recoveryRequest, reason.toUInt32), (.recoverySubcode, subcode.toUInt32)]) .recoveryRequest ≠ 0 := by
    have hother : vb2NvGet (vb2NvSets (vb2NvSet c .recoveryRequest reason.toUInt32)
        [(.recoverySubcode, subcode.toUInt32)]) .recoveryRequest = _ := vb2NvGet_sets_other _ (by simp)
    have hle : ¬ reason.toUInt32 > 255 := by
      rw [UInt32.not_lt, UInt32.le_iff_toNat_le, UInt8.toNat_toUInt32]
      exact Nat.le_of_lt_succ reason.toNat_lt
    rw [vb2NvGet_set] at hother
    intro h0
    have hzero : (vbParam .recoveryRequest).keeps reason.toUInt32 = 0 := hother.symm.trans h0
    rw [vbParam, VbNvParam.keeps, clip, if_neg hle] at hzero
    have hnat := congrArg UInt32.toNat hzero
    rw [UInt8.toNat_toUInt32] at hnat
    exact hreason (UInt8.toNat_inj.mp hnat)
  unfold vb2Fail
  rw [if_neg hn]
  dsimp only
  by_cases hc : ctx.sd.status &&& vb2SdStatusChoseSlot ≠ 0
  · rw [if_pos hc]
    have hkept : vb2NvGet (vb2NvSets ctx [(.fwResult, vb2FwResultFailure), (.tryCount, 0),
        (.tryNext, 1 - ctx.sd.fwSlot)]) .recoveryRequest ≠ 0 := by
      rw [vb2NvGet_sets_other _ (by simp)]
      exact h hc
    split_ifs
    · exact hkept
    · exact hkept
  · rw [if_neg hc, if_neg fun hx => hc hx.1]
    split_ifs with h0
    · exact hset ctx
    · exact h0

theorem vb2CheckRecovery_recovery (h : vb2NvGet ctx .recoveryRequest ≠ 0) :
    (vb2CheckRecovery ctx).Recovery := by
  have hreason : (if ctx.sd.recoveryReason = 0 then vb2NvGet ctx .recoveryRequest
      else ctx.sd.recoveryReason) ≠ 0 := by
    split_ifs with h0
    · exact h
    · exact h0
  unfold vb2CheckRecovery Vb2Context.Recovery
  dsimp only
  generalize (if ctx.sd.recoveryReason = 0 then vb2NvGet ctx .recoveryRequest
    else ctx.sd.recoveryReason) = reason at hreason ⊢
  generalize vb2NvSets ctx _ = cleared
  rw [if_pos, Flags.or_and_self]
  · decide
  · split_ifs with hforced hsub
    · exact hsub.1
    · decide
    · exact hreason

end
end Vboot.Vb2
