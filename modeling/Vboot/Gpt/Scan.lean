import Vboot.Gpt.Order
import Vboot.Gpt.Repair
import Mathlib.Tactic.IntervalCases

/-! The scan over the kernel partitions returns every partition that may be booted exactly once,
best first, although the entries are updated while it goes on. -/
namespace Vboot.Gpt
open Vboot.Lib
variable (att : UInt16) (gpt : GptData) (tries : UInt16)

/-- Writing the bits of a mask leaves the bits of another one. -/
theorem and_masked {m k : UInt16} (h : m &&& k = 0) (v : UInt16) :
    ((att &&& ~~~m) ||| (v &&& m)) &&& k = att &&& k := by
  apply UInt16.toBitVec_inj.mp
  ext i hi
  have hbit : (m.toBitVec[i] && k.toBitVec[i]) = false := by
    simpa using congrArg (fun x : UInt16 => x.toBitVec[i]) h
  cases hm : m.toBitVec[i] <;> simp_all

theorem priority_attWithTries : attWithTries att tries &&& priorityMask = att &&& priorityMask :=
  and_masked att rfl _

theorem priority_attWithPriority_zero : attWithPriority att 0 &&& priorityMask = 0 := by
  apply UInt16.toBitVec_inj.mp
  ext i hi
  simp only [attWithPriority, priorityMask]
  interval_cases i <;> simp

theorem successful_attWithTries : attWithTries att tries &&& successfulMask = att &&& successfulMask :=
  and_masked att rfl _

theorem successful_attWithPriority (priority : UInt16) :
    attWithPriority att priority &&& successfulMask = att &&& successfulMask :=
  and_masked att rfl priority

theorem tries_attWithPriority (priority : UInt16) :
    attWithPriority att priority &&& triesMask = att &&& triesMask :=
  and_masked att rfl priority

theorem tries_attWithTries : (attWithTries att tries &&& triesMask) >>> triesOffset = tries &&& 0xF := by
  apply UInt16.toBitVec_inj.mp
  ext i hi
  simp only [attWithTries, triesMask, triesOffset]
  interval_cases i <;> simp

theorem att_of_bytes : (att >>> 8).toUInt8.toUInt16 <<< 8 ||| att.toUInt8.toUInt16 = att := by
  apply UInt16.toNat_inj.mp
  have hatt := att.toNat_lt
  have h8 : UInt16.toNat 8 % 16 = 8 := rfl
  simp only [UInt16.toNat_or, UInt16.toNat_shiftLeft, UInt8.toNat_toUInt16, UInt16.toNat_toUInt8,
    UInt16.toNat_shiftRight, h8, Nat.shiftLeft_eq, Nat.shiftRight_eq_div_pow]
  rw [Nat.mod_eq_of_lt (by omega), mul_or _ _ 8 (by omega)]
  omega

section
variable (entries : Mem) (i j : Nat) (att : UInt16)

theorem gptAtt_setGptAtt : gptAtt (entryAt (setGptAtt entries i att) i) = att := by
  have hlow : (entryAt (setGptAtt entries i att) i).u8 gptAttOffset = att.toUInt8 :=
    Mem.store_inside entries _ 0 _ 0 (by simp)
  have hhigh : (entryAt (setGptAtt entries i att) i).u8 (gptAttOffset + 1) = (att >>> 8).toUInt8 :=
    Mem.store_inside entries _ 1 _ 0 (by simp)
  rw [gptAtt, hlow, hhigh, att_of_bytes]

theorem gptAtt_setGptAtt_ne (h : j ≠ i) :
    gptAtt (entryAt (setGptAtt entries i att) j) = gptAtt (entryAt entries j) := by
  have hbyte (x : Nat) (hx : x < 128) :
      (entryAt (setGptAtt entries i att) j).u8 x = (entryAt entries j).u8 x := by
    apply Mem.store_outside
    have hlen : [att.toUInt8, (att >>> 8).toUInt8].length = 2 := rfl
    rw [hlen, gptAttOffset]
    dsimp only [entryAt]
    omega
  rw [gptAtt, gptAtt, hbyte _ (by decide), hbyte _ (by decide)]

end

/-- The priority of an entry that the platform does not override. -/
def priorityOf (i : Nat) : Nat :=
  (gptAtt (entryAt gpt.primaryEntries i) &&& priorityMask).toNat

/-- The kernel entries that may be booted. -/
structure Eligible (i : Nat) : Prop where
  inside : i < (fields gpt.primaryHeader).numberOfEntries.toNat
  candidate : isCandidate (entryAt gpt.primaryEntries i) = true
  priority : 0 < priorityOf gpt i

def Precedes (i j : Nat) : Prop :=
  priorityOf gpt j < priorityOf gpt i ∨ (priorityOf gpt j = priorityOf gpt i ∧ i < j)

/-- The scan has yet to come to entry i. -/
structure Ahead (i : Nat) : Prop extends Eligible gpt i where
  place : priorityOf gpt i < gpt.currentPriority ∨
    (priorityOf gpt i = gpt.currentPriority ∧ ∃ k, gpt.currentKernel = some k ∧ k < i)

structure First (i : Nat) : Prop where
  ahead : Ahead gpt i
  best : ∀ j, Ahead gpt j → j = i ∨ Precedes gpt i j

/-- The platform gives no entry a priority of its own. -/
def NoOverride (override : Ptr → UInt8) : Prop := ∀ e, ¬ (0 < override e ∧ override e < 16)

section
variable {override : Ptr → UInt8} (hov : NoOverride override) {gpt : GptData}
include hov

theorem getEntryPriority_eq (i : Nat) :
    getEntryPriority override (entryAt gpt.primaryEntries i) = priorityOf gpt i :=
  if_neg (hov _)

theorem first_of_same {k i : Nat} (hk : gpt.currentKernel = some k) (hpos : 0 < gpt.currentPriority)
    (h : sameKernelPriority override gpt k = some i) :
    First gpt i ∧ priorityOf gpt i = gpt.currentPriority := by
  obtain ⟨hlt, hin, hc⟩ := sameKernelPriority_some override h
  rw [sameKernelPriority, List.find?_eq_some_iff_getElem] at h
  obtain ⟨hi, m, hm, hmi, hbefore⟩ := h
  simp only [List.getElem_drop, List.getElem_range, List.length_drop, List.length_range] at hm hmi
  rw [Bool.and_eq_true, getEntryPriority_eq hov, beq_iff_eq] at hi
  refine ⟨⟨⟨⟨hin, hc, by omega⟩, .inr ⟨hi.2, k, hk, hlt⟩⟩, fun j hj => ?_⟩, hi.2⟩
  obtain ⟨⟨hjin, hjc, hjp⟩, hplace⟩ := hj
  rcases hplace with hless | ⟨heq, k', hk', hlt'⟩
  · exact .inr (.inl (by omega))
  · cases hk.symm.trans hk'
    -- an entry between the current one and i would have been found first
    have hnot : ¬ j < i := by
      intro hji
      have hb := hbefore (j - (k + 1)) (by omega)
      rw [List.getElem_drop, List.getElem_range, show k + 1 + (j - (k + 1)) = j by omega, hjc,
        getEntryPriority_eq hov, heq] at hb
      simp at hb
    by_cases hji : j = i
    · exact .inl hji
    · exact .inr (.inr ⟨by omega, by omega⟩)

theorem not_ahead_of_same {k j : Nat} (hk : gpt.currentKernel = some k)
    (h : sameKernelPriority override gpt k = none) (hj : Ahead gpt j) :
    priorityOf gpt j < gpt.currentPriority := by
  rcases hj.place with hless | ⟨heq, k', hk', hlt⟩
  · exact hless
  · cases hk.symm.trans hk'
    have hn := hj.inside
    rw [sameKernelPriority, List.find?_eq_none] at h
    have hmem : j ∈ (List.range (fields gpt.primaryHeader).numberOfEntries.toNat).drop (k + 1) := by
      rw [List.mem_iff_getElem]
      refine ⟨j - (k + 1), by simp; omega, ?_⟩
      rw [List.getElem_drop, List.getElem_range]
      omega
    have hb := h j hmem
    rw [hj.candidate, getEntryPriority_eq hov, heq] at hb
    simp at hb

end

section
variable {override : Ptr → UInt8} (hov : NoOverride override) (gpt : GptData) (limit : Nat)

/-- An entry that a scan below the limit may find. -/
def Below (i : Nat) : Prop :=
  isCandidate (entryAt gpt.primaryEntries i) = true ∧ priorityOf gpt i < limit ∧ 0 < priorityOf gpt i

include hov

theorem foldl_range (n : Nat) :
    ((List.range n).foldl (scanPriority override gpt.primaryEntries limit) (none, 0) = (none, 0) ∧
      ∀ j < n, ¬ Below gpt limit j) ∨
    ∃ i < n, (List.range n).foldl (scanPriority override gpt.primaryEntries limit) (none, 0) =
        (some i, priorityOf gpt i) ∧ Below gpt limit i ∧
      ∀ j < n, Below gpt limit j → j = i ∨ Precedes gpt i j := by
  induction n with
  | zero => exact .inl ⟨rfl, fun j hj => absurd hj (Nat.not_lt_zero j)⟩
  | succ n ih =>
    rw [List.range_succ, List.foldl_append, List.foldl_cons, List.foldl_nil]
    rcases ih with ⟨he, hnone⟩ | ⟨i, hi, he, hb, hbest⟩
    · rw [he, scanPriority, getEntryPriority_eq hov]
      split_ifs with hc
      · refine .inr ⟨n, Nat.lt_succ_self n, rfl, hc, fun j hj hj' => ?_⟩
        rcases Nat.lt_succ_iff_lt_or_eq.mp hj with hlt | rfl
        · exact absurd hj' (hnone j hlt)
        · exact .inl rfl
      · refine .inl ⟨rfl, fun j hj hj' => ?_⟩
        rcases Nat.lt_succ_iff_lt_or_eq.mp hj with hlt | rfl
        · exact hnone j hlt hj'
        · exact hc hj'
    · rw [he, scanPriority, getEntryPriority_eq hov]
      split_ifs with hc
      · refine .inr ⟨n, Nat.lt_succ_self n, rfl, ⟨hc.1, hc.2.1, hb.2.2.trans hc.2.2⟩,
          fun j hj hj' => ?_⟩
        rcases Nat.lt_succ_iff_lt_or_eq.mp hj with hlt | rfl
        · rcases hbest j hlt hj' with rfl | hp
          · exact .inr (.inl hc.2.2)
          · have := hc.2.2
            unfold Precedes at hp ⊢
            omega
        · exact .inl rfl
      · refine .inr ⟨i, Nat.lt_succ_of_lt hi, rfl, hb, fun j hj hj' => ?_⟩
        rcases Nat.lt_succ_iff_lt_or_eq.mp hj with hlt | rfl
        · exact hbest j hlt hj'
        · have hle : ¬ priorityOf gpt i < priorityOf gpt j := fun hlt => hc ⟨hj'.1, hj'.2.1, hlt⟩
          unfold Precedes
          omega

end

section
variable {override : Ptr → UInt8} (hov : NoOverride override) {gpt : GptData}
include hov

theorem gptNextKernelEntry_cases (hpos : gpt.currentKernel ≠ none → 0 < gpt.currentPriority) :
    (∃ i, First gpt i ∧ gptNextKernelEntry override gpt = (some (partitionOf gpt i),
      { gpt with currentKernel := some i, currentPriority := priorityOf gpt i })) ∨
    ((∀ j, ¬ Ahead gpt j) ∧ gptNextKernelEntry override gpt = (none,
      { gpt with currentKernel := none, currentPriority := 0 })) := by
  rw [gptNextKernelEntry]
  cases hs : gpt.currentKernel.bind (sameKernelPriority override gpt) with
  | some i =>
    obtain ⟨k, hk, hi⟩ := Option.bind_eq_some_iff.mp hs
    obtain ⟨hfirst, hprio⟩ := first_of_same hov hk (hpos (by rw [hk]; simp)) hi
    refine .inl ⟨i, hfirst, ?_⟩
    rw [hprio]
  | none =>
    have hbelow (j : Nat) (hj : Ahead gpt j) : Below gpt gpt.currentPriority j := by
      refine ⟨hj.candidate, ?_, hj.priority⟩
      cases hk : gpt.currentKernel with
      | none =>
        rcases hj.place with hlt | ⟨-, k, hk', -⟩
        · exact hlt
        · rw [hk] at hk'
          cases hk'
      | some k =>
        rw [hk] at hs
        exact not_ahead_of_same hov hk hs hj
    rcases foldl_range hov gpt gpt.currentPriority (fields gpt.primaryHeader).numberOfEntries.toNat
      with ⟨he, hnone⟩ | ⟨i, hi, he, hb, hbest⟩
    · refine .inr ⟨fun j hj => hnone j hj.inside (hbelow j hj), ?_⟩
      rw [nextKernelPriority, he]
      rfl
    · refine .inl ⟨i, ⟨⟨⟨hi, hb.1, hb.2.2⟩, .inl hb.2.1⟩, fun j hj =>
        hbest j hj.inside (hbelow j hj)⟩, ?_⟩
      rw [nextKernelPriority, he]
      rfl

end

theorem gptModified_entries : (gptModified gpt).primaryEntries = gpt.primaryEntries := by
  rw [gptModified_eq]

/-- An update changes the attributes of the current entry or nothing. -/
theorem gptUpdateKernelEntry_entries (u : UpdateType) :
    (gptUpdateKernelEntry gpt u).2.primaryEntries = gpt.primaryEntries ∨
    ∃ i att, gpt.currentKernel = some i ∧ updatedAtt (entryAt gpt.primaryEntries i) u = some att ∧
      (gptUpdateKernelEntry gpt u).2.primaryEntries = setGptAtt gpt.primaryEntries i att := by
  rcases gptUpdateKernelEntry_cases gpt u with h | ⟨i, att, hk, -, hu, h⟩
  · exact .inl (by rw [h])
  · exact .inr ⟨i, att, hk, hu, by rw [h]; exact gptModified_entries _⟩

section
variable {e : Ptr} {u : UpdateType} {att : UInt16} (hu : u = .try ∨ u = .bad)
  (h : updatedAtt e u = some att)
include hu h

theorem updatedAtt_priority :
    att &&& priorityMask = gptAtt e &&& priorityMask ∨ att &&& priorityMask = 0 := by
  rcases hu with rfl | rfl
  · rw [updatedAtt] at h
    split_ifs at h
    · cases h
      exact .inl (priority_attWithTries _ _)
    · cases h
      exact .inr (priority_attWithPriority_zero _)
  · rw [updatedAtt] at h
    split_ifs at h
    cases h
    exact .inr (priority_attWithPriority_zero _)

theorem updatedAtt_tries :
    getEntrySuccessful e = 0 ∧ att &&& successfulMask = gptAtt e &&& successfulMask ∧
      ((att &&& triesMask) >>> triesOffset).toNat ≤ (getEntryTries e).toNat - 1 := by
  have hbad : attWithPriority (attWithTries (gptAtt e) 0) 0 &&& successfulMask =
      gptAtt e &&& successfulMask ∧
      ((attWithPriority (attWithTries (gptAtt e) 0) 0 &&& triesMask) >>> triesOffset).toNat ≤
        (getEntryTries e).toNat - 1 := by
    rw [successful_attWithPriority, successful_attWithTries, tries_attWithPriority,
      tries_attWithTries, UInt16.zero_and]
    exact ⟨rfl, Nat.zero_le _⟩
  rcases hu with rfl | rfl
  · rw [updatedAtt] at h
    split_ifs at h with hs ht
    · cases h
      refine ⟨not_not.mp hs, successful_attWithTries _ _, ?_⟩
      have h1 : (1 : UInt16).toNat = 1 := rfl
      have hle : (1 : UInt16) ≤ getEntryTries e := UInt16.le_of_lt ht
      rw [tries_attWithTries, UInt16.toNat_and, ← h1, ← UInt16.toNat_sub_of_le _ _ hle]
      exact Nat.and_le_left
    · cases h
      exact ⟨not_not.mp hs, hbad⟩
  · rw [updatedAtt] at h
    split_ifs at h with hs
    cases h
    exact ⟨not_not.mp hs, hbad⟩

end

section
variable (gpt : GptData) (u : UpdateType)

theorem gptUpdateKernelEntry_other {j : Nat} (hj : gpt.currentKernel ≠ some j) :
    gptAtt (entryAt (gptUpdateKernelEntry gpt u).2.primaryEntries j) =
      gptAtt (entryAt gpt.primaryEntries j) := by
  rcases gptUpdateKernelEntry_entries gpt u with he | ⟨i, att, hk, -, he⟩
  · rw [he]
  · rw [he, gptAtt_setGptAtt_ne _ i j att fun h => hj (h ▸ hk)]

theorem gptUpdateKernelEntry_priority (hu : u = .try ∨ u = .bad) (j : Nat) :
    priorityOf (gptUpdateKernelEntry gpt u).2 j = priorityOf gpt j ∨
      priorityOf (gptUpdateKernelEntry gpt u).2 j = 0 := by
  rcases gptUpdateKernelEntry_entries gpt u with he | ⟨i, att, hk, hatt, he⟩
  · exact .inl (by rw [priorityOf, he, priorityOf])
  · rw [priorityOf, he, priorityOf]
    by_cases hj : j = i
    · subst hj
      rw [gptAtt_setGptAtt]
      rcases updatedAtt_priority hu hatt with hp | hp
      · exact .inl (by rw [hp])
      · exact .inr (by rw [hp]; rfl)
    · exact .inl (by rw [gptAtt_setGptAtt_ne _ _ _ _ hj])

end

theorem isCandidate_congr {e e' : Ptr} (hk : isKernelEntry e' = isKernelEntry e)
    (ha : gptAtt e' = gptAtt e) : isCandidate e' = isCandidate e := by
  rw [isCandidate, isCandidate, getEntrySuccessful, getEntrySuccessful, getEntryTries, getEntryTries,
    hk, ha]

/-- The entries that the scan has yet to come to, in order. They are as they were in the
table gpt₀, whatever happened to the others. -/
structure Rest (gpt₀ : GptData) (rest : List Nat) (gpt : GptData) : Prop where
  parts : SameParts gpt₀ gpt
  ahead : ∀ i, Ahead gpt i ↔ i ∈ rest
  same : ∀ i ∈ rest, priorityOf gpt i = priorityOf gpt₀ i
  sorted : rest.Pairwise (Precedes gpt₀)
  positive : gpt.currentKernel ≠ none → 0 < gpt.currentPriority
  current : ∀ k, gpt.currentKernel = some k →
    priorityOf gpt k = gpt.currentPriority ∨ priorityOf gpt k = 0

section
variable {gpt₀ gpt : GptData} {rest : List Nat}

section
variable (h : Rest gpt₀ rest gpt)
include h

theorem Rest.not_ahead_current {k : Nat} (hk : gpt.currentKernel = some k) : ¬ Ahead gpt k := by
  rintro ⟨⟨-, -, hpos⟩, hplace⟩
  rcases hplace with hlt | ⟨heq, k', hk', hlt⟩
  · have := h.current k hk
    omega
  · cases hk.symm.trans hk'
    omega

theorem Rest.change {gpt' : GptData} (hparts : SameParts gpt gpt')
    (hkernel : gpt'.currentKernel = gpt.currentKernel)
    (hpriority : gpt'.currentPriority = gpt.currentPriority) (hatt : ∀ j, gpt.currentKernel ≠ some j →
      gptAtt (entryAt gpt'.primaryEntries j) = gptAtt (entryAt gpt.primaryEntries j))
    (hlower : ∀ j, priorityOf gpt' j = priorityOf gpt j ∨ priorityOf gpt' j = 0) :
    Rest gpt₀ rest gpt' := by
  have hcurrent (k : Nat) (hk : gpt'.currentKernel = some k) :
      priorityOf gpt' k = gpt'.currentPriority ∨ priorityOf gpt' k = 0 := by
    have hold := h.current k (hkernel ▸ hk)
    have hnew := hlower k
    omega
  have hother (j : Nat) (hj : gpt.currentKernel ≠ some j) : priorityOf gpt' j = priorityOf gpt j := by
    rw [priorityOf, hatt j hj, priorityOf]
  have hahead (j : Nat) : Ahead gpt' j ↔ Ahead gpt j := by
    by_cases hj : gpt.currentKernel = some j
    · refine iff_of_false ?_ (h.not_ahead_current hj)
      rintro ⟨⟨-, -, hpos⟩, hplace⟩
      have hcur := hcurrent j (hkernel.trans hj)
      rcases hplace with hlt | ⟨heq, k', hk', hlt⟩
      · omega
      · cases (hkernel.trans hj).symm.trans hk'
        omega
    · have hc := isCandidate_congr (hparts.kernel j) (hatt j hj)
      have hp := hother j hj
      have hn := congrArg UInt32.toNat hparts.count
      constructor
      · rintro ⟨⟨hin, hcand, hpos⟩, hplace⟩
        rw [hkernel, hpriority, hp] at hplace
        exact ⟨⟨by omega, hc ▸ hcand, by omega⟩, hplace⟩
      · rintro ⟨⟨hin, hcand, hpos⟩, hplace⟩
        rw [← hkernel, ← hpriority, ← hp] at hplace
        exact ⟨⟨by omega, hc.trans hcand, by omega⟩, hplace⟩
  refine ⟨h.parts.trans hparts, fun i => (hahead i).trans (h.ahead i), fun i hi => ?_, h.sorted,
    ?_, hcurrent⟩
  · rw [hother i fun hk => h.not_ahead_current hk ((h.ahead i).mpr hi)]
    exact h.same i hi
  · rw [hkernel, hpriority]
    exact h.positive

theorem Rest.update {u : UpdateType} (hu : u = .try ∨ u = .bad) :
    Rest gpt₀ rest (gptUpdateKernelEntry gpt u).2 := by
  obtain ⟨hparts, hkernel, hpriority⟩ := gptUpdateKernelEntry_frame gpt u
  exact h.change hparts hkernel hpriority (fun _ hj => gptUpdateKernelEntry_other gpt u hj)
    (gptUpdateKernelEntry_priority gpt u hu)

theorem Rest.updates {us : List UpdateType} (hus : ∀ u ∈ us, u = .try ∨ u = .bad) :
    Rest gpt₀ rest (us.foldl (fun gpt u => (gptUpdateKernelEntry gpt u).2) gpt) := by
  induction us generalizing gpt with
  | nil => exact h
  | cons u us ih =>
    exact ih (h.update (hus u List.mem_cons_self)) fun u' hu' => hus u' (List.mem_cons_of_mem u hu')

theorem Rest.first_eq {i : Nat} (hi : First gpt i) : ∃ tail, rest = i :: tail := by
  have hmem := (h.ahead i).mp hi.ahead
  cases rest with
  | nil => cases hmem
  | cons a tail =>
    have ha : a ∈ a :: tail := List.mem_cons_self
    rcases List.mem_cons.mp hmem with rfl | htail
    · exact ⟨tail, rfl⟩
    · -- a comes before i in the list and i before a in the scan
      have h1 : Precedes gpt₀ a i := List.rel_of_pairwise_cons h.sorted htail
      rcases hi.best a ((h.ahead a).mpr ha) with rfl | h2
      · exact ⟨tail, rfl⟩
      · have hsa := h.same a ha
        have hsi := h.same i hmem
        unfold Precedes at h1 h2
        omega

end

theorem First.ahead_after {i : Nat} (hi : First gpt i) (j : Nat) :
    Ahead { gpt with currentKernel := some i, currentPriority := priorityOf gpt i } j ↔
      Ahead gpt j ∧ j ≠ i := by
  constructor
  · rintro ⟨⟨hin, hc, hpos⟩, hplace⟩
    change priorityOf gpt j < priorityOf gpt i ∨
      (priorityOf gpt j = priorityOf gpt i ∧ ∃ k, some i = some k ∧ k < j) at hplace
    have hpre : priorityOf gpt j < priorityOf gpt i ∨
        (priorityOf gpt j = priorityOf gpt i ∧ i < j) := by
      rcases hplace with hlt | ⟨heq, k, hk, hlt⟩
      · exact .inl hlt
      · cases hk
        exact .inr ⟨heq, hlt⟩
    refine ⟨⟨⟨hin, hc, hpos⟩, ?_⟩, by rintro rfl; omega⟩
    rcases hi.ahead.place with hlt | ⟨heq, k, hk, hlt⟩
    · exact .inl (by omega)
    · rcases hpre with hp | ⟨hp, hij⟩
      · exact .inl (by omega)
      · exact .inr ⟨hp.trans heq, k, hk, hlt.trans hij⟩
  · rintro ⟨hj, hne⟩
    refine ⟨⟨hj.inside, hj.candidate, hj.priority⟩, ?_⟩
    rcases hi.best j hj with he | hlt | ⟨heq, hlt⟩
    · exact absurd he hne
    · exact .inl hlt
    · exact .inr ⟨heq, i, rfl, hlt⟩

theorem Rest.next {override : Ptr → UInt8} (hov : NoOverride override) (h : Rest gpt₀ rest gpt) :
    (gptNextKernelEntry override gpt).1 = rest.head?.map (partitionOf gpt₀) ∧
    (gptNextKernelEntry override gpt).2.currentKernel = rest.head? ∧
    Rest gpt₀ rest.tail (gptNextKernelEntry override gpt).2 := by
  rcases gptNextKernelEntry_cases hov h.positive with ⟨i, hi, he⟩ | ⟨hnone, he⟩
  · obtain ⟨tail, rfl⟩ := h.first_eq hi
    have hsorted := List.pairwise_cons.mp h.sorted
    rw [he]
    refine ⟨congrArg some (h.parts.part i), rfl, h.parts.trans (.of_eq rfl rfl), fun j => ?_,
      fun j hj => h.same j (List.mem_cons_of_mem i hj), hsorted.2,
      fun _ => hi.ahead.priority, fun k hk => ?_⟩
    · have hnot : i ∉ tail := fun hmem => by
        have := hsorted.1 i hmem
        unfold Precedes at this
        omega
      rw [hi.ahead_after, h.ahead, List.mem_cons, List.tail_cons]
      constructor
      · rintro ⟨hmem, hne⟩
        exact hmem.resolve_left hne
      · intro hmem
        exact ⟨.inr hmem, fun he => hnot (he ▸ hmem)⟩
    · cases hk
      exact .inl rfl
  · have hrest : rest = [] := List.eq_nil_iff_forall_not_mem.mpr fun j hj =>
      hnone j ((h.ahead j).mpr hj)
    subst hrest
    rw [he]
    refine ⟨rfl, rfl, h.parts.trans (.of_eq rfl rfl), fun j => ?_, h.same, h.sorted,
      fun hn => absurd rfl hn, fun k hk => by cases hk⟩
    refine iff_of_false ?_ (List.not_mem_nil)
    rintro ⟨-, hlt | ⟨-, k, hk, -⟩⟩
    · exact absurd hlt (Nat.not_lt_zero _)
    · cases hk

end

/-- The entries that may be booted, by falling priority and then by their place. -/
def kernelOrder : List Nat :=
  (List.range 16).reverse.flatMap fun p =>
    (List.range (fields gpt.primaryHeader).numberOfEntries.toNat).filter fun i =>
      isCandidate (entryAt gpt.primaryEntries i) && priorityOf gpt i != 0 && priorityOf gpt i == p

theorem priorityOf_lt (i : Nat) : priorityOf gpt i < 16 := by
  have h : priorityMask.toNat = 15 := rfl
  rw [priorityOf, UInt16.toNat_and, h]
  exact Nat.lt_succ_of_le Nat.and_le_right

theorem mem_kernelOrder {gpt : GptData} {i : Nat} : i ∈ kernelOrder gpt ↔ Eligible gpt i := by
  have hlt := priorityOf_lt gpt i
  simp only [kernelOrder, List.mem_flatMap, List.mem_reverse, List.mem_range, List.mem_filter,
    Bool.and_eq_true, bne_iff_ne, beq_iff_eq]
  constructor
  · rintro ⟨p, -, hin, ⟨hc, hpos⟩, -⟩
    exact ⟨hin, hc, Nat.pos_of_ne_zero hpos⟩
  · rintro ⟨hin, hc, hpos⟩
    exact ⟨priorityOf gpt i, hlt, hin, ⟨hc, hpos.ne'⟩, rfl⟩

theorem kernelOrder_sorted : (kernelOrder gpt).Pairwise (Precedes gpt) := by
  rw [kernelOrder, List.pairwise_flatMap]
  constructor
  · intro p _
    rw [List.pairwise_filter]
    refine List.pairwise_lt_range.imp fun hlt hi hj => .inr ⟨?_, hlt⟩
    simp only [Bool.and_eq_true, beq_iff_eq] at hi hj
    rw [hi.2, hj.2]
  · rw [List.pairwise_reverse]
    refine List.pairwise_lt_range.imp fun hlt i hi j hj => .inl ?_
    simp only [List.mem_filter, Bool.and_eq_true, beq_iff_eq] at hi hj
    omega

theorem gptInit_cursor :
    (gptInit gpt).2.currentKernel = none ∧ (gptInit gpt).2.currentPriority = 999 := by
  have hcheck (gpt : GptData) : (gptSanityCheck gpt).2.currentKernel = gpt.currentKernel ∧
      (gptSanityCheck gpt).2.currentPriority = gpt.currentPriority := by
    rw [gptSanityCheck_mark]
    exact ⟨rfl, rfl⟩
  have hrepair (gpt : GptData) : (gptRepair gpt).currentKernel = gpt.currentKernel ∧
      (gptRepair gpt).currentPriority = gpt.currentPriority := by
    rw [gptRepair, repairEntries, repairHeaders]
    split_ifs <;> exact ⟨rfl, rfl⟩
  have hs := hcheck gpt.restarted
  rw [gptInit]
  cases hc : gptSanityCheck gpt.restarted with
  | mk r gpt' =>
    rw [hc] at hs
    cases r with
    | some e => exact hs
    | none => exact ⟨(hrepair gpt').1.trans hs.1, (hrepair gpt').2.trans hs.2⟩

/-- The table before call k of the scan, with the updates between the calls. -/
def scanned (override : Ptr → UInt8) (updates : Nat → List UpdateType) (gpt : GptData) :
    Nat → GptData
  | 0 => gpt
  | k + 1 => (updates k).foldl (fun gpt u => (gptUpdateKernelEntry gpt u).2)
      (gptNextKernelEntry override (scanned override updates gpt k)).2

theorem rest_start {gpt : GptData} (hk : gpt.currentKernel = none) (hp : gpt.currentPriority = 999) :
    Rest gpt (kernelOrder gpt) gpt := by
  refine ⟨.of_eq rfl rfl, fun i => ?_, fun _ _ => rfl, kernelOrder_sorted gpt,
    fun hn => absurd hk hn, fun k hk' => by rw [hk] at hk'; cases hk'⟩
  rw [mem_kernelOrder]
  refine ⟨Ahead.toEligible, fun h => ⟨h, .inl ?_⟩⟩
  have hlt := priorityOf_lt gpt i
  omega

theorem rest_scanned {override : Ptr → UInt8} (hov : NoOverride override)
    {updates : Nat → List UpdateType} (hupdates : ∀ k, ∀ u ∈ updates k, u = .try ∨ u = .bad)
    {gpt : GptData} (h : Rest gpt (kernelOrder gpt) gpt) (k : Nat) :
    Rest gpt ((kernelOrder gpt).drop k) (scanned override updates gpt k) := by
  induction k with
  | zero => exact h
  | succ k ih =>
    have hnext := (ih.next hov).2.2
    rw [List.tail_drop] at hnext
    exact hnext.updates (hupdates k)

/-- Two kernels of priorities 1 and 2 with a try each. -/
def twoKernels : GptData :=
  { sampleGpt with
    primaryHeader := sampleGpt.secondaryHeader
    primaryEntries := Mem.ofList (chromeosKernelGuid ++ List.replicate 38 1 ++ [0x11, 0] ++
      List.replicate 72 0 ++ chromeosKernelGuid ++ List.replicate 38 2 ++ [0x12, 0]) }

end Vboot.Gpt
