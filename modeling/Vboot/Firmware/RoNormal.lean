import Vboot.Firmware.Policy

/-! The flag with which LoadFirmware tells its caller to stay on the read-only path. It is set when a
slot has passed its checks and before the slot's kernel subkey is saved, which can still fail. -/
namespace Vboot
open Vboot.Lib

def lfUseRoNormal (shared : VbSharedData) : Bool := shared.flags &&& vbsdLfUseRoNormal != 0

theorem lfUseRoNormal_congr {a b : VbSharedData} (h : b.flags = a.flags) :
    lfUseRoNormal b = lfUseRoNormal a := by
  rw [lfUseRoNormal, lfUseRoNormal, h]

theorem setCheckResult_flags (a : VbSharedData) (i : Nat) (r : UInt8) :
    (setCheckResult a i r).flags = a.flags := by
  unfold setCheckResult
  split_ifs <;> rfl

theorem startSearch_lfUseRoNormal (shared : VbSharedData) (vnc : VbNvContext) :
    lfUseRoNormal (startSearch shared vnc).1 = lfUseRoNormal shared := by
  have hor (f x : UInt32) (h : x &&& vbsdLfUseRoNormal = 0) :
      (f ||| x) &&& vbsdLfUseRoNormal = f &&& vbsdLfUseRoNormal := Flags.or_and_of_disjoint h
  have hdev : vbsdLfDevSwitchOn &&& vbsdLfUseRoNormal = 0 := by decide
  have hfwb : vbsdFwbTried &&& vbsdLfUseRoNormal = 0 := by decide
  unfold startSearch lfUseRoNormal
  by_cases hd : bootDevSwitchOn shared = true <;> by_cases ht : vbNvGet vnc .tryBCount = 0 <;>
    simp [hd, ht, hor _ _ hdev, hor _ _ hfwb]

section
variable {Ctx : Type} (crypto : Crypto Ctx) (p : FirmwareParams)

theorem markValid_lfUseRoNormal (shared : VbSharedData) (i : Nat) :
    lfUseRoNormal (markValid p shared i) = (lfUseRoNormal shared || useRoNormal p i) := by
  rw [markValid, lfUseRoNormal_congr (setCheckResult_flags _ _ _)]
  cases useRoNormal p i with
  | false => simp
  | true =>
    have hset : (shared.flags ||| vbsdLfUseRoNormal) &&& vbsdLfUseRoNormal ≠ 0 := by
      rw [Flags.or_and_self]
      decide
    simpa [lfUseRoNormal] using hset

theorem takeSlot_lfUseRoNormal (i : Nat) (s : Search) :
    lfUseRoNormal (takeSlot p i s).1.shared = (lfUseRoNormal s.shared || useRoNormal p i) := by
  rw [← markValid_lfUseRoNormal, takeSlot]
  have hsave := (saveKernelKey_frame p (markValid p s.shared i) i).2
  dsimp only
  split_ifs
  · exact lfUseRoNormal_congr hsave
  · exact lfUseRoNormal_congr hsave

variable (rootKey : Ptr) (isDev : Bool)

/-- One iteration sets the flag if no slot was taken before and this one passes its checks and asks
for the read-only path. -/
theorem trySlot_lfUseRoNormal (i : Nat) (s : Search) :
    lfUseRoNormal (trySlot crypto p rootKey isDev i s).1.shared =
      (lfUseRoNormal s.shared ||
        (s.goodIndex.isNone && slotChecks crypto p rootKey isDev s.shared i && useRoNormal p i)) := by
  rw [trySlot, slotChecks]
  cases checkHeader crypto p rootKey isDev s.shared.fwVersionTpm i with
  | error r =>
    rw [lfUseRoNormal_congr (setCheckResult_flags s.shared i r)]
    simp
  | ok k =>
    have hsaw : (sawHeader p i s).shared.flags = s.shared.flags := setCheckResult_flags _ _ _
    have hgood : (sawHeader p i s).goodIndex = s.goodIndex := rfl
    have hro := lfUseRoNormal_congr hsaw
    generalize sawHeader p i s = s₁ at *
    dsimp only
    rw [hsaw, hgood, ← hro]
    cases hg : s.goodIndex with
    | some g =>
      rw [if_pos (by simp)]
      simp
    | none =>
      rw [if_neg (by simp)]
      rcases except_cases (checkBody crypto p s.shared.flags k i) with ⟨r, hr⟩ | hr
      · simp only [hr]
        rw [lfUseRoNormal_congr (setCheckResult_flags s₁.shared i r)]
        simp [fails]
      · simp only [hr]
        rw [takeSlot_lfUseRoNormal]
        simp [fails]

variable {a : VbSharedData}

theorem Found.lfUseRoNormal {g : Nat} (is : List Nat) {s : Search} (h : Found a g s) :
    Vboot.lfUseRoNormal (Vboot.search crypto p rootKey isDev is s).shared =
      Vboot.lfUseRoNormal s.shared := by
  induction is generalizing s with
  | nil => rfl
  | cons i is ih =>
    obtain ⟨s', hs', hf, -⟩ := h.step crypto p rootKey isDev i
    have hstep := trySlot_lfUseRoNormal crypto p rootKey isDev i s
    rw [hs', h.good] at hstep
    rw [Vboot.search, hs']
    simpa using (ih hf).trans hstep

/-- Some slot that is tried before or as the one that is taken passes its checks and asks for the
read-only path. -/
def asksRoNormal : VbSharedData → List Nat → Bool
  | _, [] => false
  | a, i :: is =>
    if slotChecks crypto p rootKey isDev a i then
      useRoNormal p i || (saveKernelKey p a i).1 && asksRoNormal (saveKernelKey p a i).2 is
    else asksRoNormal a is

theorem Looking.lfUseRoNormal (is : List Nat) {s : Search} (h : Looking a s) :
    Vboot.lfUseRoNormal (Vboot.search crypto p rootKey isDev is s).shared =
      (Vboot.lfUseRoNormal s.shared || asksRoNormal crypto p rootKey isDev a is) := by
  induction is generalizing a s with
  | nil => simp [Vboot.search, asksRoNormal]
  | cons i is ih =>
    have hchecks : slotChecks crypto p rootKey isDev s.shared i = slotChecks crypto p rootKey isDev a i := by
      simp only [slotChecks, h.same.tpm, checkBody_congr crypto p _ i h.same.ro]
    have hstep := trySlot_lfUseRoNormal crypto p rootKey isDev i s
    obtain ⟨s', stop, hs', -, hcase⟩ := h.step crypto p rootKey isDev i
    rw [hs', h.good, hchecks] at hstep
    rw [Vboot.search, hs', asksRoNormal]
    dsimp only at hstep ⊢
    cases hc : slotChecks crypto p rootKey isDev a i with
    | false =>
      rw [hc, if_neg Bool.false_ne_true] at hcase
      rw [hcase.2, if_neg Bool.false_ne_true, ih hcase.1, hstep, hc]
      simp
    | true =>
      rw [hc, if_pos rfl] at hcase
      cases he : (saveKernelKey p a i).1 with
      | true =>
        rw [he, if_pos rfl] at hcase
        rw [hcase.2, if_neg Bool.false_ne_true, ih hcase.1, hstep, hc]
        simp [Bool.or_assoc]
      | false =>
        rw [he, if_neg Bool.false_ne_true] at hcase
        have hkeep := hcase.1.lfUseRoNormal crypto p rootKey isDev is
        rw [hc] at hstep
        by_cases hstop : stop = true
        · simpa [hstop] using hstep
        · simpa [hstop] using hkeep.trans hstep

/-- The first slot passes its checks and asks for the read-only path, its kernel subkey cannot be
saved, and the other slot does not ask for it. -/
structure Stranded (shared : VbSharedData) (i j : Nat) : Prop where
  passes : slotChecks crypto p rootKey (bootDevSwitchOn shared) shared i = true
  asks : useRoNormal p i = true
  unsaved : (saveKernelKey p shared i).1 = true
  other : useRoNormal p j = false

theorem asksRoNormal_single {isDev : Bool} {j g : Nat}
    (hg : bootSlot crypto p rootKey isDev a [j] = some g) :
    g = j ∧ asksRoNormal crypto p rootKey isDev a [j] = useRoNormal p j := by
  obtain ⟨hm, hc⟩ := bootSlot_checks crypto p hg
  obtain rfl := List.mem_singleton.mp hm
  refine ⟨rfl, ?_⟩
  rw [asksRoNormal, if_pos hc, asksRoNormal]
  simp

theorem asksRoNormal_iff {shared : VbSharedData} {i j g : Nat}
    (hg : bootSlot crypto p rootKey (bootDevSwitchOn shared) shared [i, j] = some g) :
    asksRoNormal crypto p rootKey (bootDevSwitchOn shared) shared [i, j] = useRoNormal p g ↔
      ¬ Stranded crypto p rootKey shared i j := by
  rw [bootSlot] at hg
  rw [asksRoNormal]
  by_cases hp : slotChecks crypto p rootKey (bootDevSwitchOn shared) shared i = true
  · rw [if_pos hp] at hg ⊢
    by_cases hu : (saveKernelKey p shared i).1 = true
    · rw [if_pos hu] at hg
      obtain ⟨rfl, hasks⟩ := asksRoNormal_single crypto p rootKey hg
      rw [hu, hasks, Bool.true_and]
      constructor
      · rintro he ⟨-, ha, -, ho⟩
        rw [ha, ho] at he
        cases he
      · intro hn
        cases ha : useRoNormal p i with
        | false => rfl
        | true =>
          cases ho : useRoNormal p g with
          | true => rfl
          | false => exact absurd ⟨hp, ha, hu, ho⟩ hn
    · rw [if_neg hu] at hg
      obtain rfl := Option.some.inj hg
      have hu' : (saveKernelKey p shared i).1 = false := by simpa using hu
      refine iff_of_true (by simp [hu']) fun hs => hu hs.unsaved
  · rw [if_neg hp] at hg ⊢
    obtain ⟨rfl, hasks⟩ := asksRoNormal_single crypto p rootKey hg
    exact iff_of_true hasks fun hs => hp hs.passes

theorem tryOrder_pair (n : UInt32) : ∃ i j, tryOrder n = [i, j] := by
  unfold tryOrder
  split_ifs
  · exact ⟨1, 0, rfl⟩
  · exact ⟨0, 1, rfl⟩

theorem loadFirmware_flags {g : Nat} (shared : VbSharedData) (vnc : VbNvContext)
    (h : p.vbGbbReadRootKey = .ok rootKey) (hg : firmwareSlot crypto p rootKey shared vnc = some g) :
    (loadFirmware crypto p shared vnc).2.1.flags =
      (firmwareSearch crypto p rootKey shared vnc).shared.flags := by
  rw [loadFirmware_found crypto p shared vnc h hg, exit_success]

/-- With the flag clear at first, a successful LoadFirmware leaves it set exactly if the slot that it
reports asks for the read-only path, unless a slot that asked for it before was given up
because its kernel subkey could not be saved and the other one does not ask. -/
theorem loadFirmware_roNormal_iff (shared : VbSharedData) (vnc : VbNvContext)
    (hclear : shared.flags &&& vbsdLfUseRoNormal = 0)
    (hok : (loadFirmware crypto p shared vnc).1 = vbErrorSuccess) :
    ∃ rootKey i j, p.vbGbbReadRootKey = .ok rootKey ∧
      tryOrder (vbNvGet vnc .tryBCount) = [i, j] ∧
      (((loadFirmware crypto p shared vnc).2.1.flags &&& vbsdLfUseRoNormal ≠ 0 ↔
        useRoNormal p (loadFirmware crypto p shared vnc).2.1.firmwareIndex.toNat = true) ↔
      ¬ Stranded crypto p rootKey shared i j) := by
  obtain ⟨i, j, hij⟩ := tryOrder_pair (vbNvGet vnc .tryBCount)
  cases hk : p.vbGbbReadRootKey with
  | error e =>
    rw [(loadFirmware_noKey crypto p shared vnc hk).1] at hok
    exact absurd hok (by decide)
  | ok rootKey =>
    cases hg : firmwareSlot crypto p rootKey shared vnc with
    | none =>
      rw [(loadFirmware_none crypto p shared vnc hk hg).1] at hok
      exact absurd hok (by decide)
    | some g =>
      refine ⟨rootKey, i, j, rfl, hij, ?_⟩
      obtain ⟨-, hindex, -⟩ := loadFirmware_some crypto p shared vnc hk hg
      have hboot : bootSlot crypto p rootKey (bootDevSwitchOn shared) shared [i, j] = some g := by
        rw [← hij]
        exact hg
      have hlt : g < 2 := mem_tryOrder (bootSlot_checks crypto p hg).1
      have hidx : (UInt8.ofNat g).toNat = g := by
        rw [UInt8.toNat_ofNat']
        omega
      have hstart : lfUseRoNormal (startSearch { shared with firmwareIndex := 0xFF } vnc).1 = false := by
        rw [startSearch_lfUseRoNormal]
        simpa [lfUseRoNormal] using hclear
      have hlook : Looking shared
          ⟨(startSearch { shared with firmwareIndex := 0xFF } vnc).1, 0xFFFFFFFF, none⟩ :=
        ⟨rfl, SameStart.trans (b := { shared with firmwareIndex := 0xFF })
          ⟨rfl, rfl, rfl, rfl, rfl, rfl⟩ (startSearch_same _ vnc)⟩
      have hflag : lfUseRoNormal (loadFirmware crypto p shared vnc).2.1 =
          asksRoNormal crypto p rootKey (bootDevSwitchOn shared) shared [i, j] := by
        rw [lfUseRoNormal_congr (loadFirmware_flags crypto p rootKey shared vnc hk hg), firmwareSearch, hij,
          hlook.lfUseRoNormal, hstart, Bool.false_or]
      rw [← asksRoNormal_iff crypto p rootKey hboot, ← hflag, hindex, hidx, lfUseRoNormal]
      constructor
      · intro h
        rw [Bool.eq_iff_iff, bne_iff_ne]
        exact h
      · intro h
        rw [Bool.eq_iff_iff, bne_iff_ne] at h
        exact h

end

/-- A slot that asks for the read-only path, with a kernel subkey of 128 bytes. -/
def roVblock : Mem :=
  ((sampleVblock 1 1 5).store 552 (bytes64 60 ++ bytes64 128 ++ bytes64 0 ++ bytes64 1)).store 608 [1, 0, 0, 0]

def roParams (cbmc : Bool) : FirmwareParams :=
  { sampleParams 5 [⟨fun _ => 0, 5⟩] with verificationBlockA := roVblock, cbmc := cbmc }

/-- A hundred bytes are left for the kernel subkey. -/
def roShared : VbSharedData :=
  { sampleShared 0x10001 with dataUsed := 2972, flags := vbsdBootRoNormalSupport }

/-- The checked build does not save the subkey, so that slot A is taken. -/
theorem loadFirmware_roNormal_sample :
    ∃ rootKey i j, (roParams true).vbGbbReadRootKey = .ok rootKey ∧
      tryOrder (vbNvGet (vbNvSetup (Vector.replicate 16 0)) .tryBCount) = [i, j] ∧
      (((loadFirmware anyCrypto (roParams true) roShared
          (vbNvSetup (Vector.replicate 16 0))).2.1.flags &&& vbsdLfUseRoNormal ≠ 0 ↔
        useRoNormal (roParams true) (loadFirmware anyCrypto (roParams true) roShared
          (vbNvSetup (Vector.replicate 16 0))).2.1.firmwareIndex.toNat = true) ↔
      ¬ Stranded anyCrypto (roParams true) rootKey roShared i j) :=
  loadFirmware_roNormal_iff anyCrypto (roParams true) roShared (vbNvSetup (Vector.replicate 16 0))
    (by decide) (by decide +kernel)

/-- Slot A asks for the read-only path and its subkey does not fit. Slot B is reported, and the flag
is set although B does not ask for it. -/
theorem roNormal_left_over :
    let r := loadFirmware anyCrypto (roParams false) roShared (vbNvSetup (Vector.replicate 16 0))
    r.1 = vbErrorSuccess ∧ r.2.1.firmwareIndex = 1 ∧ r.2.1.flags &&& vbsdLfUseRoNormal ≠ 0 ∧
      useRoNormal (roParams false) 1 = false := by
  decide +kernel

end Vboot
