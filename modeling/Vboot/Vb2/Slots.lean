import Vboot.Lib.Flags
import Vboot.Lib.Run
import Vboot.Vb2.Misc

/-! The slots that vb2_select_fw_slot chooses over a sequence of boots, and the tries that it
counts down in NV storage. -/
namespace Vboot.Vb2
open Vboot.Lib

theorem getBit_cases (p : NvRaw) (offs : Fin 16) (mask : UInt8) :
    getBit p offs mask = 0 ∨ getBit p offs mask = 1 := by
  unfold getBit
  split_ifs
  · exact .inr rfl
  · exact .inl rfl
variable (ctx : Vb2Context) (c : Prop) (p : Vb2NvParam) (value : UInt32)

theorem tryCount_le : vb2NvGet ctx .tryCount ≤ 15 := by
  have hand : (ctx.nvdata[vb2NvOffsBoot] &&& vb2NvBootTryCountMask).toNat ≤ 15 := by
    rw [UInt8.toNat_and]
    exact Nat.and_le_right
  rw [UInt32.le_iff_toNat_le]
  exact (UInt8.toNat_toUInt32 _).trans_le hand

def chosenSlot : UInt32 :=
  if triesUsedUp (vb2NvGet ctx .fwTried) (vb2NvGet ctx .fwResult) (vb2NvGet ctx .tryNext)
      (vb2NvGet ctx .tryCount) then 1 - vb2NvGet ctx .tryNext
  else vb2NvGet ctx .tryNext

theorem chosenSlot_cases : chosenSlot ctx = 0 ∨ chosenSlot ctx = 1 := by
  unfold chosenSlot
  have h : vb2NvGet ctx .tryNext = 0 ∨ vb2NvGet ctx .tryNext = 1 := getBit_cases _ _ _
  split_ifs
  · cases h with
    | inl h => rw [h]; exact .inr rfl
    | inr h => rw [h]; exact .inl rfl
  · exact h

theorem keeps_bit {slot : UInt32} (h : slot = 0 ∨ slot = 1) :
    (if slot ≠ 0 then (1 : UInt32) else 0) = slot := by
  cases h with
  | inl h => rw [h]; rfl
  | inr h => rw [h]; rfl

theorem toNat_pred {count : UInt32} (h : count > 0) : (count - 1).toNat = count.toNat - 1 := by
  have hle : 1 ≤ count := UInt32.le_iff_toNat_le.mpr (UInt32.lt_iff_toNat_lt.mp h)
  exact UInt32.toNat_sub_of_le count 1 hle

theorem pred_le {count bound : UInt32} (h : count > 0) (hle : count ≤ bound) : count - 1 ≤ bound := by
  rw [UInt32.le_iff_toNat_le, toNat_pred h]
  have := UInt32.le_iff_toNat_le.mp hle
  omega

theorem keeps_count {count : UInt32} (h : count ≤ 15) : (vbParam .tryCount).keeps count = count :=
  if_neg (UInt32.not_lt.mpr h)

/-- What the choice of a slot leaves in the shared data and in NV storage. -/
structure Selected (ctx ctx' : Vb2Context) : Prop where
  slot : ctx'.sd.fwSlot = chosenSlot ctx
  lastSlot : ctx'.sd.lastFwSlot = vb2NvGet ctx .fwTried
  lastResult : ctx'.sd.lastFwResult = vb2NvGet ctx .fwResult
  next : vb2NvGet ctx' .tryNext = chosenSlot ctx
  tried : vb2NvGet ctx' .fwTried = chosenSlot ctx
  result : vb2NvGet ctx' .fwResult =
    if vb2NvGet ctx .tryCount > 0 then vb2FwResultTrying else vb2FwResultUnknown
  count : vb2NvGet ctx' .tryCount =
    if vb2NvGet ctx .tryCount > 0 ∧ ctx.flags &&& vb2ContextNofailBoot = 0 then
      vb2NvGet ctx .tryCount - 1
    else vb2NvGet ctx .tryCount

theorem vb2NvGet_ite_set [Decidable c] (q : Vb2NvParam) (value : UInt32) :
    vb2NvGet (if c then vb2NvSet ctx p value else ctx) q =
      if c ∧ p = q then (vbParam p).keeps value else vb2NvGet ctx q := by
  by_cases h : c
  · simp [h, vb2NvGet_vb2NvSet]
  · simp [h]

theorem nofail_ite_set [Decidable c] :
    (if c then vb2NvSet ctx p value else ctx).flags &&& vb2ContextNofailBoot =
      ctx.flags &&& vb2ContextNofailBoot := by
  split_ifs
  · cases (vb2NvSet_only ctx p value).flags with
    | inl h => rw [h]
    | inr h => rw [h, Flags.or_and_of_disjoint rfl]
  · rfl

theorem nofail_sets (ops : List (Vb2NvParam × UInt32)) :
    (vb2NvSets ctx ops).flags &&& vb2ContextNofailBoot = ctx.flags &&& vb2ContextNofailBoot := by
  cases (vb2NvSets_only ctx ops).flags with
  | inl h => rw [h]
  | inr h => rw [h, Flags.or_and_of_disjoint rfl]

theorem vb2SelectFwSlot_selected : Selected ctx (vb2SelectFwSlot ctx) := by
  unfold vb2SelectFwSlot
  dsimp only
  generalize ha : vb2NvSets ctx [(.fwPrevTried, vb2NvGet ctx .fwTried),
    (.fwPrevResult, vb2NvGet ctx .fwResult), (.fwResult, vb2FwResultUnknown)] = a
  have hnext : vb2NvGet a .tryNext = vb2NvGet ctx .tryNext := by
    rw [← ha]
    exact vb2NvGet_sets_other ctx (by simp)
  have hcount : vb2NvGet a .tryCount = vb2NvGet ctx .tryCount := by
    rw [← ha]
    exact vb2NvGet_sets_other ctx (by simp)
  have hresult : vb2NvGet a .fwResult = vb2FwResultUnknown := by
    rw [← ha]
    exact vb2NvGet_set _ .fwResult vb2FwResultUnknown
  have hflags : a.flags &&& vb2ContextNofailBoot = ctx.flags &&& vb2ContextNofailBoot := by
    rw [← ha]
    exact nofail_sets ctx _
  have hslot := keeps_bit (chosenSlot_cases ctx)
  have hnv (p : Vb2NvParam) (flags : UInt32) (sd : Vb2SharedData) (c : Vb2Context) :
      vb2NvGet { c with flags := flags, sd := sd } p = vb2NvGet c p := vb2NvGet_congr rfl p
  rw [hnext, hcount, ← chosenSlot, nofail_ite_set, nofail_ite_set, hflags]
  refine ⟨rfl, rfl, rfl, ?_, ?_, ?_, ?_⟩
  all_goals rw [hnv, vb2NvGet_vb2NvSet]
  · -- without the fall back the slot is the next one already
    rw [if_neg (by decide), vb2NvGet_ite_set, if_neg (by simp), vb2NvGet_ite_set, if_neg (by simp),
      vb2NvGet_ite_set]
    split_ifs with h
    · exact hslot
    · rw [hnext, chosenSlot, if_neg fun hused => h ⟨hused, rfl⟩]
  · rw [if_pos rfl]
    exact hslot
  · rw [if_neg (by decide), vb2NvGet_ite_set, if_neg (by simp), vb2NvGet_ite_set]
    simp only [and_true]
    refine if_congr .rfl rfl ?_
    rw [vb2NvGet_ite_set, if_neg (by simp), hresult]
  · rw [if_neg (by decide), vb2NvGet_ite_set]
    by_cases h : vb2NvGet ctx .tryCount > 0 ∧ ctx.flags &&& vb2ContextNofailBoot = 0
    · rw [if_pos ⟨h, rfl⟩, if_pos h]
      exact keeps_count (pred_le h.1 (tryCount_le ctx))
    · rw [if_neg fun hc => h hc.1, if_neg h, vb2NvGet_ite_set, if_neg (by simp), vb2NvGet_ite_set,
        if_neg (by simp), hcount]

variable {a b : Vb2Context}

theorem NvOnly.ite_set (h : NvOnly a b) (c : Prop) [Decidable c] (p : Vb2NvParam)
    (value : UInt32) : NvOnly a (if c then vb2NvSet b p value else b) := by
  split_ifs
  · exact h.trans (vb2NvSet_only b p value)
  · exact h

theorem vb2SelectFwSlot_rest : ∃ e flags, NvOnly ctx e ∧
    vb2SelectFwSlot ctx = { e with
      flags := flags
      sd := { e.sd with
        lastFwSlot := (vb2SelectFwSlot ctx).sd.lastFwSlot
        lastFwResult := (vb2SelectFwSlot ctx).sd.lastFwResult
        fwSlot := (vb2SelectFwSlot ctx).sd.fwSlot
        status := e.sd.status ||| vb2SdStatusChoseSlot } } := by
  refine ⟨_, _, ?_, rfl⟩
  refine NvOnly.trans ?_ (vb2NvSet_only _ _ _)
  exact (((vb2NvSets_only ctx _).ite_set _ _ _).ite_set _ _ _).ite_set _ _ _

/-- A boot that chooses a slot. Later on, NV storage may be used for other purposes. -/
structure SlotBoot where
  ctx : Vb2Context
  others : List (Vb2NvParam × UInt32)
  apart : ∀ op ∈ others, op.1 ∉ [.tryNext, .tryCount, .fwTried, .fwResult]

/-- The boot may fail, as far as the caller says. -/
def SlotBoot.counts (b : SlotBoot) : Bool := b.ctx.flags &&& vb2ContextNofailBoot = 0

def readSlots (nv : NvRaw) (b : SlotBoot) : Vb2Context := vb2NvInit { b.ctx with nvdata := nv }

def selectSlot (nv : NvRaw) (b : SlotBoot) : Vb2Context := vb2SelectFwSlot (readSlots nv b)

def slotStep (nv : NvRaw) (b : SlotBoot) : NvRaw := (vb2NvSets (selectSlot nv b) b.others).nvdata

/-- Where a run stands that started with n tries of slot s, after k boots that count. -/
inductive SlotPhase (s : UInt32) (n k : Nat) (c : Vb2Context) : Prop where
  | trying (left : k < n) (next : vb2NvGet c .tryNext = s) (count : (vb2NvGet c .tryCount).toNat = n - k)
  | spent (left : n ≤ k) (next : vb2NvGet c .tryNext = s) (count : vb2NvGet c .tryCount = 0)
    (tried : vb2NvGet c .fwTried = s) (result : vb2NvGet c .fwResult = vb2FwResultTrying)
  | fallen (left : n ≤ k) (next : vb2NvGet c .tryNext = 1 - s) (count : vb2NvGet c .tryCount = 0)
    (result : vb2NvGet c .fwResult = vb2FwResultUnknown)

namespace SlotPhase
variable {s : UInt32} {n k : Nat} {c c' : Vb2Context}

variable (h : SlotPhase s n k c)
include h

theorem congr
    (he : ∀ p ∈ [Vb2NvParam.tryNext, .tryCount, .fwTried, .fwResult], vb2NvGet c' p = vb2NvGet c p) :
    SlotPhase s n k c' := by
  have hnext := he .tryNext (by simp)
  have hcount := he .tryCount (by simp)
  have htried := he .fwTried (by simp)
  have hresult := he .fwResult (by simp)
  cases h with
  | trying left next count => exact .trying left (hnext.trans next) (hcount ▸ count)
  | spent left next count tried result =>
    exact .spent left (hnext.trans next) (hcount.trans count) (htried.trans tried) (hresult.trans result)
  | fallen left next count result =>
    exact .fallen left (hnext.trans next) (hcount.trans count) (hresult.trans result)

theorem slot : chosenSlot c = if k < n then s else 1 - s := by
  cases h with
  | trying left next count =>
    have hne : ¬ vb2NvGet c .tryCount = 0 := by
      intro h0
      rw [h0] at count
      change 0 = n - k at count
      omega
    rw [chosenSlot, if_neg fun h => hne h.2.2, if_pos left, next]
  | spent left next count tried result =>
    rw [chosenSlot, if_pos ⟨result, tried.trans next.symm, count⟩, if_neg (by omega), next]
  | fallen left next count result =>
    have hne : ¬ vb2NvGet c .fwResult = vb2FwResultTrying := by
      rw [result]
      decide
    rw [chosenSlot, if_neg fun h => hne h.1, if_neg (by omega), next]

theorem step (hs : Selected c c') :
    SlotPhase s n (k + if c.flags &&& vb2ContextNofailBoot = 0 then 1 else 0) c' := by
  have hslot := h.slot
  cases h with
  | trying left next count =>
    have hpos : vb2NvGet c .tryCount > 0 := by
      rw [gt_iff_lt, UInt32.lt_iff_toNat_lt]
      change 0 < _
      omega
    rw [if_pos left] at hslot
    have hnext : vb2NvGet c' .tryNext = s := hs.next.trans hslot
    have hcount := hs.count
    split_ifs with hf
    · rw [if_pos ⟨hpos, hf⟩] at hcount
      have hleft : (vb2NvGet c' .tryCount).toNat = n - (k + 1) := by
        rw [hcount, toNat_pred hpos]
        omega
      by_cases hk : k + 1 < n
      · exact .trying hk hnext hleft
      · have hzero : vb2NvGet c' .tryCount = 0 := by
          apply UInt32.toNat_inj.mp
          change _ = 0
          omega
        exact .spent (by omega) hnext hzero (hs.tried.trans hslot) (hs.result.trans (if_pos hpos))
    · rw [if_neg fun h => hf h.2] at hcount
      exact .trying left hnext (hcount ▸ count)
  | spent left next count tried result =>
    rw [if_neg (by omega)] at hslot
    have hnot : ¬ vb2NvGet c .tryCount > 0 := by
      rw [count]
      decide
    exact .fallen (by omega) (hs.next.trans hslot)
      ((hs.count.trans (if_neg fun h => hnot h.1)).trans count) (hs.result.trans (if_neg hnot))
  | fallen left next count result =>
    rw [if_neg (by omega)] at hslot
    have hnot : ¬ vb2NvGet c .tryCount > 0 := by
      rw [count]
      decide
    exact .fallen (by omega) (hs.next.trans hslot)
      ((hs.count.trans (if_neg fun h => hnot h.1)).trans count) (hs.result.trans (if_neg hnot))

end SlotPhase

theorem vb2NvInit_congr (h : a.nvdata = b.nvdata) :
    (vb2NvInit a).nvdata = (vb2NvInit b).nvdata := by
  rw [(agree_init a).block, (agree_init b).block, h]

theorem readSlots_flags (nv : NvRaw) (b : SlotBoot) :
    (readSlots nv b).flags &&& vb2ContextNofailBoot = b.ctx.flags &&& vb2ContextNofailBoot := by
  unfold readSlots vb2NvInit
  cases vb2NvCheckCrc { b.ctx with nvdata := nv } with
  | ok u => rfl
  | error e => exact Flags.or_and_of_disjoint rfl

variable {ctx : Vb2Context}

theorem ite_set_signed (h : ctx.nvdata.signed) (c : Prop) [Decidable c] (p : Vb2NvParam)
    (value : UInt32) : (if c then vb2NvSet ctx p value else ctx).nvdata.signed := by
  split_ifs
  · exact vb2NvSet_signed h p value
  · exact h

theorem vb2SelectFwSlot_signed (h : ctx.nvdata.signed) :
    (vb2SelectFwSlot ctx).nvdata.signed :=
  vb2NvSet_signed (ite_set_signed (ite_set_signed (ite_set_signed (vb2NvSets_signed h _) _ _ _) _ _ _)
    _ _ _) _ _

theorem readSlots_slotStep (nv : NvRaw) (b b' : SlotBoot) {p : Vb2NvParam}
    (hp : p ∈ [Vb2NvParam.tryNext, .tryCount, .fwTried, .fwResult]) :
    vb2NvGet (readSlots (slotStep nv b) b') p = vb2NvGet (selectSlot nv b) p := by
  have hsigned : (slotStep nv b).signed :=
    vb2NvSets_signed (vb2SelectFwSlot_signed (vb2NvInit_signed _)) b.others
  calc vb2NvGet (readSlots (slotStep nv b) b') p
      = vb2NvGet { b'.ctx with nvdata := slotStep nv b } p := vb2NvGet_congr (vb2NvInit_of_signed (by exact hsigned)) p
    _ = vb2NvGet (vb2NvSets (selectSlot nv b) b.others) p := vb2NvGet_congr rfl p
    _ = vb2NvGet (selectSlot nv b) p := vb2NvGet_sets_other _ fun op ho he => b.apart op ho (he ▸ hp)

theorem slotPhase_step {s : UInt32} {n k : Nat} {nv : NvRaw} {b : SlotBoot} (b' : SlotBoot)
    (h : SlotPhase s n k (readSlots nv b)) :
    SlotPhase s n (k + if b.counts then 1 else 0) (readSlots (slotStep nv b) b') := by
  have hstep := h.step (vb2SelectFwSlot_selected (readSlots nv b))
  rw [readSlots_flags] at hstep
  have hcounts : (if b.counts then 1 else 0) = if b.ctx.flags &&& vb2ContextNofailBoot = 0 then 1 else 0 := by
    simp [SlotBoot.counts]
  rw [hcounts]
  exact hstep.congr fun p hp => readSlots_slotStep nv b b' hp

theorem slotPhase_run {s : UInt32} {n k : Nat} {nv : NvRaw} (u : List SlotBoot) (b : SlotBoot)
    (h : ∀ b, SlotPhase s n k (readSlots nv b)) :
    SlotPhase s n (k + u.countP (·.counts)) (readSlots (run slotStep nv u) b) := by
  induction u generalizing nv k with
  | nil => exact h b
  | cons c u ih =>
    have hrun := ih fun b' => slotPhase_step b' (h c)
    rw [List.countP_cons, Nat.add_comm (u.countP _), ← Nat.add_assoc]
    exact hrun

/-- Slot s is chosen until n boots that count were made with it, then always the other one. -/
theorem slot_of_tries (ctx : Vb2Context) {s n : UInt32} (hnext : vb2NvGet (vb2NvInit ctx) .tryNext = s)
    (hcount : vb2NvGet (vb2NvInit ctx) .tryCount = n) (hn : 1 ≤ n) (u : List SlotBoot) (b : SlotBoot) :
    (selectSlot (run slotStep ctx.nvdata u) b).sd.fwSlot =
      if u.countP (·.counts) < n.toNat then s else 1 - s := by
  have hread (b : SlotBoot) (p : Vb2NvParam) :
      vb2NvGet (readSlots ctx.nvdata b) p = vb2NvGet (vb2NvInit ctx) p :=
    vb2NvGet_congr (vb2NvInit_congr (by rfl)) p
  have hstart (b : SlotBoot) : SlotPhase s n.toNat 0 (readSlots ctx.nvdata b) := by
    refine .trying (UInt32.le_iff_toNat_le.mp hn) ((hread b _).trans hnext) ?_
    rw [hread, hcount, Nat.sub_zero]
  have hrun := (slotPhase_run u b hstart).slot
  rw [Nat.zero_add] at hrun
  exact (vb2SelectFwSlot_selected _).slot.trans hrun

/-- A block with two tries of slot B. -/
def trialNv : NvRaw :=
  sealed #v[vb2NvHeaderSignature, 2, 0, 0, 0, 0, 0, vb2NvBoot2TryNext, 0, 0, 0, 0, 0, 0, 0, 0]

def trialContext (flags : UInt32) : Vb2Context :=
  ⟨flags, trialNv, Vector.replicate 10 0, Vector.replicate 14 0, .zero, fun _ => 0, 0, 0, 0⟩

def trialBoot (flags : UInt32) : SlotBoot := ⟨trialContext flags, [(.localizationIndex, 3)], by simp⟩

theorem slot_of_tries_sample :
    (selectSlot (run slotStep (trialContext 0).nvdata
      [trialBoot 0, trialBoot vb2ContextNofailBoot, trialBoot 0]) (trialBoot 0)).sd.fwSlot = 0 :=
  slot_of_tries (trialContext 0) (s := 1) (n := 2) (by decide +kernel) (by decide +kernel) (by decide) _ _

end Vboot.Vb2
