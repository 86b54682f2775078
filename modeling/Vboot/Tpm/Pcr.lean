import Vboot.Lib.Run
import Vboot.Tpm.Fifo

/-! What a GO does, and the PCRs after arbitrary register traffic. -/
namespace Vboot.Tpm
open Vboot.Lib

inductive Command where
  | extend | read
  deriving DecidableEq, Repr

/-- The command that a GO would run successfully in state s, if any. -/
def State.command (s : State) : Option Command :=
  if s.complete ∧ s.pcrIndex ≤ 23 then
    if s.ordinalIs 0x14 then some .extend
    else if s.ordinalIs 0x15 then some .read
    else none
  else none

variable (s : State)

theorem ordinal_exclusive (h : s.ordinalIs 0x14 = true) :
    s.ordinalIs 0x15 = false := by
  simp only [State.ordinalIs, Bool.and_eq_true, beq_iff_eq] at h
  simp [State.ordinalIs, h.2]

theorem command_extend :
    s.command = some .extend ↔ (s.complete ∧ s.pcrIndex ≤ 23) ∧ s.ordinalIs 0x14 = true := by
  unfold State.command
  split_ifs with h h1 <;> simp_all

theorem command_read :
    s.command = some .read ↔ (s.complete ∧ s.pcrIndex ≤ 23) ∧ s.ordinalIs 0x15 = true := by
  unfold State.command
  split_ifs with h h1 h2
  · simp [ordinal_exclusive s h1]
  · simp [h, h2]
  · simp [h2]
  · simp [h]

theorem command_none (h : s.command = none) : s.complete →
    (s.ordinalIs 0x14 = true → 23 < s.pcrIndex) ∧ (s.ordinalIs 0x15 = true → 23 < s.pcrIndex) := by
  intro hc
  unfold State.command at h
  split_ifs at h with h1 h2 h3
  · simp_all
  · have hx : 23 < s.pcrIndex := by
      by_contra hx
      exact h1 ⟨hc, by omega⟩
    exact ⟨fun _ => hx, fun _ => hx⟩

section
variable (sha1 : List UInt8 → Digest)

/-- The value an extend gives to the PCR that it names. -/
def State.extended (s : State) : Digest :=
  sha1 ((s.pcr s.pcrIndex).toList ++ s.inDigest.toList)
variable (f : State → Int × State) (s : State) (a : Access)

@[simp] theorem runIf_false : runIf false f s = s := rfl

theorem runIf_ok (s' : State) (h : f s = (0, s')) : runIf true f s = { s' with cmdWorked := true } := by
  simp [runIf, h]

theorem runIf_err (c : Bool) (f : State → Int × State) (s : State)
    (h : c = true → f s = (-1, s)) : runIf c f s = s := by
  cases c with
  | false => rfl
  | true => simp [runIf, h rfl]

theorem pcrExtend_err (h : 23 < s.pcrIndex) : pcrExtend sha1 s = (-1, s) := by
  simp [pcrExtend, h]

theorem pcrRead_err (h : 23 < s.pcrIndex) : pcrRead s = (-1, s) := by
  simp [pcrRead, h]

theorem pcrExtend_ok (h : s.pcrIndex ≤ 23) :
    pcrExtend sha1 s = (0, { s with
      pcrData := s.pcrData.store (20 * s.pcrIndex) (s.extended sha1).toList
      fifoOutdata := pcrResponse s.fifoOutdata (s.extended sha1)
      fifoOutAmt := 30 }) := by
  rw [pcrExtend, if_neg (by omega)]
  rfl

theorem pcrRead_ok (h : s.pcrIndex ≤ 23) :
    pcrRead s = (0, { s with
      fifoOutdata := pcrResponse s.fifoOutdata (s.pcr s.pcrIndex)
      fifoOutAmt := 30 }) := by
  rw [pcrRead, if_neg (by omega)]

def State.afterExtend (s : State) : State :=
  { s with
    pcrData := s.pcrData.store (20 * s.pcrIndex) (s.extended sha1).toList
    fifoOutdata := pcrResponse s.fifoOutdata (s.extended sha1)
    fifoOutAmt := 30
    fifoState := .sending
    cmdWorked := true }

def State.afterRead : State :=
  { s with
    fifoOutdata := pcrResponse s.fifoOutdata (s.pcr s.pcrIndex)
    fifoOutAmt := 30
    fifoState := .sending
    cmdWorked := true }

theorem dispatch_eq :
    dispatch sha1 s = match s.command with
      | some .extend => { s.afterExtend sha1 with fifoState := s.fifoState }
      | some .read => { s.afterRead with fifoState := s.fifoState }
      | none => s := by
  by_cases hs : s.complete
  · rw [dispatch, if_pos hs]
    show runIf (State.ordinalIs (runIf _ _ _) _) pcrRead (runIf _ _ _) = _
    cases hc : s.command with
    | none =>
      have ho := command_none s hc hs
      rw [runIf_err _ _ _ fun h => pcrExtend_err sha1 _ (ho.1 h)]
      exact runIf_err _ _ _ fun h => pcrRead_err _ (ho.2 h)
    | some c =>
      cases c with
      | extend =>
        obtain ⟨⟨-, hi⟩, ho⟩ := (command_extend s).mp hc
        rw [ho, runIf_ok _ _ _ (pcrExtend_ok sha1 _ hi)]
        show runIf (s.ordinalIs 0x15) pcrRead _ = _
        rw [ordinal_exclusive s ho]
        rfl
      | read =>
        obtain ⟨⟨-, hi⟩, ho⟩ := (command_read s).mp hc
        have hx : s.ordinalIs 0x14 = false := by
          by_contra h
          rw [ordinal_exclusive s (by simpa using h)] at ho
          cases ho
        rw [hx, runIf_false, ho, runIf_ok _ _ _ (pcrRead_ok _ hi)]
        rfl
  · have hc : s.command = none := by simp [State.command, hs]
    rw [hc, dispatch, if_neg hs]

theorem tpmRunCmd_eq :
    tpmRunCmd sha1 s = match s.command with
      | some .extend => s.afterExtend sha1
      | some .read => s.afterRead
      | none => malformed { s with cmdWorked := false } := by
  rw [tpmRunCmd, dispatch_eq]
  show respond (match s.command with | some .extend => _ | some .read => _ | none => _) = _
  cases s.command with
  | none => rfl
  | some c => cases c <;> rfl

/-- A register read changes nothing but dataout and the output position. -/
theorem regRead_eq (addr : UInt32) (s : State) : ∃ d n,
    regRead addr s = { s with dataout := d, fifoOutAmt := n } ∧ n ≤ s.fifoOutAmt := by
  unfold regRead pop
  split_ifs <;> exact ⟨_, _, rfl, by simp⟩

/-- One tpm_update call. -/
structure Access where
  cmd : UInt32
  addr : UInt32
  data : UInt32
  deriving DecidableEq

def access (s : State) (a : Access) : State := tpmUpdate sha1 a.cmd a.addr a.data s

/-- The PCR and the digest of the extend that this access executes, if it is the
GO of an extend that the model accepts. -/
def acceptedExtend (s : State) (a : Access) : Option (Nat × Digest) :=
  if (a.cmd = WR ∧ a.addr = stsAddr ∧ a.data = stsGo) ∧
      s.fifoState = .accepting ∧ s.fifoInAmt = s.fifoInCmdsize ∧
      (s.fifoIndata 6 = 0 ∧ s.fifoIndata 7 = 0 ∧ s.fifoIndata 8 = 0 ∧ s.fifoIndata 9 = 0x14) ∧
      (s.fifoIndata 13).toNat ≤ 23 then
    some ((s.fifoIndata 13).toNat, s.inDigest)
  else none

theorem pcr_store (j i : Nat) (d : Digest) :
    State.pcr { s with pcrData := s.pcrData.store (20 * j) d.toList } i =
      Function.update s.pcr j d i := by
  apply Vector.ext
  intro k hk
  by_cases h : i = j
  · subst i
    simp [State.pcr, Mem.store_inside _ _ k d.toList 0 (by simpa using hk), hk]
  · rw [Function.update_of_ne h]
    simp only [State.pcr, Vector.getElem_ofFn]
    rcases Nat.lt_or_gt_of_ne h with hl | hl
    · exact Mem.store_of_lt _ _ _ _ (by omega)
    · exact Mem.store_of_ge _ _ _ _ (by simp; omega)

theorem acceptedExtend_go {s : State} {a : Access} {e : Nat × Digest}
    (h : acceptedExtend s a = some e) :
    (a.cmd = WR ∧ a.addr = stsAddr ∧ a.data = stsGo) ∧ s.command = some .extend ∧
      e = (s.pcrIndex, s.inDigest) := by
  unfold acceptedExtend at h
  split_ifs at h with hc
  obtain ⟨hgo, hs, hn, ⟨h6, h7, h8, h9⟩, hi⟩ := hc
  refine ⟨hgo, (command_extend s).mpr ⟨⟨⟨hs, hn⟩, hi⟩, ?_⟩, ?_⟩
  · simp [State.ordinalIs, h6, h7, h8, h9]
  · simpa [State.pcrIndex] using h.symm

theorem acceptedExtend_none {s : State} {a : Access} (h : acceptedExtend s a = none)
    (hgo : a.cmd = WR ∧ a.addr = stsAddr ∧ a.data = stsGo) : s.command ≠ some .extend := by
  intro hc
  obtain ⟨⟨hs, hi⟩, ho⟩ := (command_extend s).mp hc
  simp only [State.ordinalIs, Bool.and_eq_true, beq_iff_eq] at ho
  rw [acceptedExtend, if_pos ⟨hgo, hs.1, hs.2, ⟨ho.1.1.1, ho.1.1.2, ho.1.2, ho.2⟩, hi⟩] at h
  cases h

theorem tpmRunCmd_pcrData (h : s.command ≠ some .extend) : (tpmRunCmd sha1 s).pcrData = s.pcrData := by
  rw [tpmRunCmd_eq]
  cases hc : s.command with
  | none => rfl
  | some c =>
    cases c with
    | extend => exact absurd hc h
    | read => rfl

theorem regWrite_pcrData (hw : a.cmd = WR) (h : acceptedExtend s a = none) :
    (regWrite sha1 a.addr a.data s).pcrData = s.pcrData := by
  unfold regWrite
  split_ifs with h1 h2 h3
  · rfl
  · exact tpmRunCmd_pcrData sha1 s (acceptedExtend_none h ⟨hw, h1, h3⟩)
  all_goals rfl

theorem access_pcrData (h : acceptedExtend s a = none) : (access sha1 s a).pcrData = s.pcrData := by
  unfold access
  by_cases hr : a.cmd = RD
  · obtain ⟨d, n, he, -⟩ := regRead_eq a.addr { s with dataout := 0 }
    rw [hr, tpmUpdate_read, he]
  · by_cases hw : a.cmd = WR
    · rw [hw, tpmUpdate_write]
      exact regWrite_pcrData sha1 { s with dataout := 0 } a hw h
    · simp [tpmUpdate, hr, hw]

theorem access_extend (e : Nat × Digest) (h : acceptedExtend s a = some e) :
    (access sha1 s a).pcr =
      Function.update s.pcr e.1 (sha1 ((s.pcr e.1).toList ++ e.2.toList)) := by
  obtain ⟨⟨hw, ha, hd⟩, hc, rfl⟩ := acceptedExtend_go h
  have hrun : regWrite sha1 a.addr a.data { s with dataout := 0 } =
      State.afterExtend sha1 { s with dataout := 0 } := by
    rw [regWrite, if_pos ha, if_neg (by rw [hd]; decide), if_pos hd, tpmRunCmd_eq,
      show State.command { s with dataout := 0 } = some .extend from hc]
  funext i
  rw [access, hw, tpmUpdate_write, hrun]
  exact pcr_store s s.pcrIndex i (s.extended sha1)

/-- After any register traffic each PCR is its initial value extended by exactly the
digests of the extends that were accepted for it, in order, and an access that
is not such an extend changes no PCR. -/
theorem pcr_run (as : List Access) (i : Nat) :
    (run (access sha1) (tpmInit s) as).pcr i =
      (((log (access sha1) acceptedExtend (tpmInit s) as).filter (·.1 = i)).map Prod.snd).foldl
        (fun old d => sha1 (old.toList ++ d.toList)) ((tpmInit s).pcr i) ∧
    ∀ t a, acceptedExtend t a = none → (access sha1 t a).pcrData = t.pcrData := by
  refine ⟨?_, access_pcrData sha1⟩
  rw [← foldl_update (fun (old d : Digest) => sha1 (old.toList ++ d.toList))]
  apply congrFun
  apply view_run State.pcr
  · exact access_extend sha1
  · intro t a h
    funext j
    simp only [State.pcr, access_pcrData sha1 t a h]

end
end Vboot.Tpm
