import Vboot.Firmware.Load
import Vboot.Lib.Flags

/-! The slot that LoadFirmware reports is the first one, in the order in which it tries
them, that passes all checks. -/
namespace Vboot
open Vboot.Lib

/-- What saving a kernel subkey and the check of the read-only path look at. -/
structure SameStart (a b : VbSharedData) : Prop where
  tpm : b.fwVersionTpm = a.fwVersionTpm
  ro : b.flags &&& vbsdBootRoNormalSupport = a.flags &&& vbsdBootRoNormalSupport
  offset : b.kernelSubkeyDataOffset = a.kernelSubkeyDataOffset
  keySize : b.kernelSubkeyDataSize = a.kernelSubkeyDataSize
  size : b.dataSize = a.dataSize
  used : b.dataUsed = a.dataUsed

theorem SameStart.refl (a : VbSharedData) : SameStart a a := ⟨rfl, rfl, rfl, rfl, rfl, rfl⟩

theorem SameStart.trans {a b c : VbSharedData} (h : SameStart a b) (h' : SameStart b c) :
    SameStart a c :=
  ⟨h'.tpm.trans h.tpm, h'.ro.trans h.ro, h'.offset.trans h.offset, h'.keySize.trans h.keySize,
    h'.size.trans h.size, h'.used.trans h.used⟩

theorem setCheckResult_same (a : VbSharedData) (i : Nat) (r : UInt8) :
    SameStart a (setCheckResult a i r) := by
  unfold setCheckResult
  split_ifs <;> exact ⟨rfl, rfl, rfl, rfl, rfl, rfl⟩

variable {a b : VbSharedData}

theorem reserve_congr (h : SameStart a b) (src : Ptr) :
    (reserveKernelKey b src).1 = (reserveKernelKey a src).1 ∧
      SameStart (reserveKernelKey a src).2 (reserveKernelKey b src).2 := by
  simp only [reserveKernelKey, vbSharedDataReserve, h.offset, h.size, h.used]
  split_ifs
  all_goals
    refine ⟨rfl, ?_, ?_, ?_, ?_, ?_, ?_⟩ <;>
      simp [h.tpm, h.ro, h.offset, h.keySize, h.size, h.used]

theorem copy_congr (h : SameStart a b) (src : Ptr) :
    (copyKernelKey b src).1 = (copyKernelKey a src).1 ∧
      SameStart (copyKernelKey a src).2 (copyKernelKey b src).2 := by
  simp only [copyKernelKey, h.keySize]
  split_ifs
  all_goals exact ⟨rfl, h.tpm, h.ro, h.offset, rfl, h.size, h.used⟩

section
variable {Ctx : Type} (crypto : Crypto Ctx) (p : FirmwareParams)

variable {a b : VbSharedData} {i g : Nat} {s : Search}

theorem saveKernelKey_congr (h : SameStart a b) (i : Nat) :
    (saveKernelKey p b i).1 = (saveKernelKey p a i).1 ∧
      SameStart (saveKernelKey p a i).2 (saveKernelKey p b i).2 := by
  unfold saveKernelKey
  cases p.cbmc with
  | true => exact ⟨rfl, h⟩
  | false =>
    simp only [Bool.false_eq_true, if_false, vbSharedDataSetKernelKey]
    obtain ⟨he, hr⟩ := reserve_congr h (p.preamble i).kernelSubkey
    rw [he]
    split_ifs
    · exact ⟨rfl, hr⟩
    · exact copy_congr hr _

theorem saveKernelKey_frame (a : VbSharedData) (i : Nat) :
    (saveKernelKey p a i).2.fwVersionTpm = a.fwVersionTpm ∧
      (saveKernelKey p a i).2.flags = a.flags := by
  simp only [saveKernelKey, vbSharedDataSetKernelKey, reserveKernelKey, vbSharedDataReserve,
    copyKernelKey]
  split_ifs <;> exact ⟨rfl, rfl⟩

/-- All checks of a slot, up to saving its kernel subkey. -/
def slotChecks (rootKey : Ptr) (isDev : Bool) (a : VbSharedData) (i : Nat) : Bool :=
  match checkHeader crypto p rootKey isDev a.fwVersionTpm i with
  | .error _ => false
  | .ok dataKey => !fails (checkBody crypto p a.flags dataKey i)

/-- The first slot of a list that passes and whose kernel subkey can be saved. -/
def bootSlot (rootKey : Ptr) (isDev : Bool) : VbSharedData → List Nat → Option Nat
  | _, [] => none
  | a, i :: is =>
    if slotChecks crypto p rootKey isDev a i then
      if (saveKernelKey p a i).1 then bootSlot rootKey isDev (saveKernelKey p a i).2 is else some i
    else bootSlot rootKey isDev a is

theorem checkBody_congr {f g : UInt32} (k : RSAPublicKey) (i : Nat)
    (h : g &&& vbsdBootRoNormalSupport = f &&& vbsdBootRoNormalSupport) :
    checkBody crypto p g k i = checkBody crypto p f k i := by
  simp only [checkBody, h]

theorem markValid_same (h : SameStart a b) (i : Nat) : SameStart a (markValid p b i) := by
  refine h.trans (SameStart.trans ?_ (setCheckResult_same _ i checkValid))
  split_ifs
  · exact ⟨rfl, Flags.or_and_of_disjoint (by decide), rfl, rfl, rfl, rfl⟩
  · exact SameStart.refl _

theorem takeSlot_error (hs : SameStart a s.shared) (he : (saveKernelKey p a i).1 = true) :
    ∃ b, takeSlot p i s = ({ s with shared := b }, false) ∧ SameStart (saveKernelKey p a i).2 b := by
  obtain ⟨h1, h2⟩ := saveKernelKey_congr p (markValid_same p hs i) i
  refine ⟨(saveKernelKey p (markValid p s.shared i) i).2, ?_, h2⟩
  rw [he] at h1
  simp [takeSlot, h1]

theorem takeSlot_ok (hs : SameStart a s.shared) (he : (saveKernelKey p a i).1 = false) :
    ∃ b, takeSlot p i s = ({ s with shared := b, goodIndex := some i },
        p.combinedVersion i == a.fwVersionTpm) ∧
      b.fwVersionTpm = a.fwVersionTpm ∧ b.firmwareIndex = UInt8.ofNat i := by
  obtain ⟨h1, -⟩ := saveKernelKey_congr p (markValid_same p hs i) i
  have hv : (saveKernelKey p (markValid p s.shared i) i).2.fwVersionTpm = a.fwVersionTpm := by
    rw [(saveKernelKey_frame p _ i).1]
    exact (markValid_same p hs i).tpm
  refine ⟨{ (saveKernelKey p (markValid p s.shared i) i).2 with
    firmwareIndex := UInt8.ofNat i
    fwKeyblockFlags := (p.keyBlock i).keyBlockFlags }, ?_, hv, rfl⟩
  rw [he] at h1
  simp [takeSlot, h1, hv]

/-- The state of the loop once a slot has been taken: the index and the TPM version stay. -/
structure Found (a : VbSharedData) (g : Nat) (s : Search) : Prop where
  good : s.goodIndex = some g
  index : s.shared.firmwareIndex = UInt8.ofNat g
  tpm : s.shared.fwVersionTpm = a.fwVersionTpm

/-- The state of the loop as long as no slot has been taken. -/
structure Looking (a : VbSharedData) (s : Search) : Prop where
  good : s.goodIndex = none
  same : SameStart a s.shared

/-- The lowest version after the header of slot i has been checked. -/
def lower (rootKey : Ptr) (isDev : Bool) (fwVersionTpm : UInt32) (v : UInt32) (i : Nat) : UInt32 :=
  if fails (checkHeader crypto p rootKey isDev fwVersionTpm i) then v
  else if v > p.combinedVersion i then p.combinedVersion i else v

theorem setCheckResult_frame (a : VbSharedData) (i : Nat) (r : UInt8) :
    (setCheckResult a i r).fwVersionTpm = a.fwVersionTpm ∧
      (setCheckResult a i r).firmwareIndex = a.firmwareIndex := by
  unfold setCheckResult
  split_ifs <;> exact ⟨rfl, rfl⟩

theorem except_cases {ε : Type} (x : Except ε Unit) : (∃ r, x = .error r) ∨ x = .ok () := by
  cases x with
  | error r => exact .inl ⟨r, rfl⟩
  | ok _ => exact .inr rfl

variable (rootKey : Ptr) (isDev : Bool)

theorem Found.step (h : Found a g s) (i : Nat) :
    ∃ s', trySlot crypto p rootKey isDev i s = (s', false) ∧ Found a g s' ∧
      s'.lowestVersion = lower crypto p rootKey isDev a.fwVersionTpm s.lowestVersion i := by
  rw [trySlot, h.tpm, lower]
  cases checkHeader crypto p rootKey isDev a.fwVersionTpm i with
  | error r =>
    obtain ⟨ht, hi⟩ := setCheckResult_frame s.shared i r
    exact ⟨_, rfl, ⟨h.good, hi.trans h.index, ht.trans h.tpm⟩, rfl⟩
  | ok k =>
    obtain ⟨ht, hi⟩ := setCheckResult_frame s.shared i checkHeaderValid
    have hg : (sawHeader p i s).goodIndex ≠ none := by
      change s.goodIndex ≠ none
      simp [h.good]
    exact ⟨sawHeader p i s, if_pos hg, ⟨h.good, hi.trans h.index, ht.trans h.tpm⟩, rfl⟩

/-- One iteration without a slot yet: the slot is taken, or the state stays comparable
with the one before. -/
theorem Looking.step (h : Looking a s) (i : Nat) :
    ∃ s' stop, trySlot crypto p rootKey isDev i s = (s', stop) ∧
      s'.lowestVersion = lower crypto p rootKey isDev a.fwVersionTpm s.lowestVersion i ∧
      if slotChecks crypto p rootKey isDev a i then
        if (saveKernelKey p a i).1 then Looking (saveKernelKey p a i).2 s' ∧ stop = false
        else Found a i s' ∧ stop = (p.combinedVersion i == a.fwVersionTpm)
      else Looking a s' ∧ stop = false := by
  rw [trySlot, h.same.tpm, lower, slotChecks]
  cases checkHeader crypto p rootKey isDev a.fwVersionTpm i with
  | error r => exact ⟨_, _, rfl, rfl, ⟨h.good, h.same.trans (setCheckResult_same _ _ _)⟩, rfl⟩
  | ok k =>
    have hlow : (sawHeader p i s).lowestVersion = if s.lowestVersion > p.combinedVersion i then
      p.combinedVersion i else s.lowestVersion := rfl
    have hsame : SameStart a (sawHeader p i s).shared :=
      h.same.trans (setCheckResult_same s.shared i checkHeaderValid)
    have hg : (sawHeader p i s).goodIndex = none := h.good
    have hb := checkBody_congr crypto p k i hsame.ro
    generalize sawHeader p i s = s₁ at *
    have hfalse : fails (Except.ok k : Except UInt8 RSAPublicKey) = false := rfl
    rw [hfalse, if_neg Bool.false_ne_true]
    simp only [hg, ne_eq, not_true_eq_false, if_false, hb]
    rcases except_cases (checkBody crypto p a.flags k i) with ⟨r, hr⟩ | hr
    · simp only [hr]
      exact ⟨_, _, rfl, hlow, ⟨rfl, hsame.trans (setCheckResult_same _ _ _)⟩, rfl⟩
    · simp only [hr]
      cases he : (saveKernelKey p a i).1 with
      | true =>
        obtain ⟨b, hb, hs⟩ := takeSlot_error p hsame he
        exact ⟨_, _, hb, hlow, ⟨hg, hs⟩, rfl⟩
      | false =>
        obtain ⟨b, hb, ht, hi⟩ := takeSlot_ok p hsame he
        exact ⟨_, _, hb, hlow, ⟨rfl, hi, ht⟩, rfl⟩

theorem Found.search (is : List Nat) (h : Found a g s) :
    Found a g (Vboot.search crypto p rootKey isDev is s) ∧
      (Vboot.search crypto p rootKey isDev is s).lowestVersion =
        is.foldl (lower crypto p rootKey isDev a.fwVersionTpm) s.lowestVersion := by
  induction is generalizing s with
  | nil => exact ⟨h, rfl⟩
  | cons i is ih =>
    obtain ⟨s', hs', hf, hl⟩ := h.step crypto p rootKey isDev i
    obtain ⟨hf', hl'⟩ := ih hf
    rw [Vboot.search, hs']
    refine ⟨hf', ?_⟩
    rw [List.foldl_cons, ← hl]
    exact hl'

theorem Found.congr (h : Found a g s) (hv : a.fwVersionTpm = b.fwVersionTpm) : Found b g s :=
  ⟨h.good, h.index, h.tpm.trans hv⟩

theorem slotChecks_ok : slotChecks crypto p rootKey isDev a i = true ↔
    ∃ k, checkHeader crypto p rootKey isDev a.fwVersionTpm i = .ok k ∧
      fails (checkBody crypto p a.flags k i) = false := by
  unfold slotChecks
  cases checkHeader crypto p rootKey isDev a.fwVersionTpm i with
  | error r => simp
  | ok k => simp

theorem lower_le_combined {k : RSAPublicKey} {version : UInt32} (v : UInt32)
    (h : checkHeader crypto p rootKey isDev version i = .ok k) :
    lower crypto p rootKey isDev version v i ≤ p.combinedVersion i := by
  rw [lower, h, fails, if_neg Bool.false_ne_true]
  split_ifs with hv
  · exact UInt32.le_refl _
  · exact UInt32.not_lt.mp hv

/-- The loop finds the first slot that passes. If the lowest version is above the one in the
TPM, the headers of all slots were looked at. -/
theorem Looking.search (is : List Nat) (h : Looking a s) :
    (Vboot.search crypto p rootKey isDev is s).goodIndex = bootSlot crypto p rootKey isDev a is ∧
    (∀ g, bootSlot crypto p rootKey isDev a is = some g →
      Found a g (Vboot.search crypto p rootKey isDev is s)) ∧
    (a.fwVersionTpm < (Vboot.search crypto p rootKey isDev is s).lowestVersion →
      (Vboot.search crypto p rootKey isDev is s).lowestVersion =
        is.foldl (lower crypto p rootKey isDev a.fwVersionTpm) s.lowestVersion) := by
  induction is generalizing a s with
  | nil => exact ⟨h.good, fun g hg => (by cases hg), fun _ => rfl⟩
  | cons i is ih =>
    obtain ⟨s', stop, hs', hl, hcase⟩ := h.step crypto p rootKey isDev i
    rw [Vboot.search, hs', bootSlot, List.foldl_cons, ← hl]
    dsimp only
    by_cases hc : slotChecks crypto p rootKey isDev a i = true
    · rw [if_pos hc] at hcase ⊢
      by_cases he : (saveKernelKey p a i).1 = true
      · rw [if_pos he] at hcase ⊢
        obtain ⟨hlook, hstop⟩ := hcase
        have hv := (saveKernelKey_frame p a i).1
        obtain ⟨h1, h2, h3⟩ := ih hlook
        rw [hv] at h3
        rw [hstop, if_neg Bool.false_ne_true]
        exact ⟨h1, fun g hg => (h2 g hg).congr hv, h3⟩
      · rw [if_neg he] at hcase ⊢
        obtain ⟨hf, hstop⟩ := hcase
        by_cases hq : stop = true
        · rw [if_pos hq]
          refine ⟨hf.good, fun g hg => (by cases hg; exact hf), fun hlt => ?_⟩
          -- the loop stopped because the slot's version is the TPM's, and the lowest is not above
          obtain ⟨k, hk, -⟩ := (slotChecks_ok crypto p rootKey isDev).mp hc
          have hle := lower_le_combined crypto p rootKey isDev s.lowestVersion hk
          have heq : p.combinedVersion i = a.fwVersionTpm := by
            rw [hq] at hstop
            exact beq_iff_eq.mp hstop.symm
          rw [← hl, heq] at hle
          exact absurd hlt (UInt32.not_lt.mpr hle)
        · rw [if_neg hq]
          obtain ⟨hf', hl'⟩ := hf.search crypto p rootKey isDev is
          exact ⟨hf'.good, fun g hg => (by cases hg; exact hf'), fun _ => hl'⟩
    · rw [if_neg hc] at hcase ⊢
      obtain ⟨hlook, hstop⟩ := hcase
      rw [hstop, if_neg Bool.false_ne_true]
      exact ih hlook

end
end Vboot
