import Vboot.Tpm.Exchange

/-! How far the FIFO of the TPM model is filled, over any register traffic. Bytes are accepted in every
state but FULL, so also while a response is pending. -/
namespace Vboot.Tpm
open Vboot.Lib

def writeIndex (s : State) (a : Access) : Option Nat :=
  if a.cmd = WR ∧ a.addr = fifoAddr ∧ s.fifoState ≠ .full then some s.fifoInAmt else none

def readIndex (s : State) (a : Access) : Option Nat :=
  if a.cmd = RD ∧ a.addr = fifoAddr ∧ s.fifoState = .sending ∧ 0 < s.fifoOutAmt then some s.fifoOutAmt
  else none

/-- The FIFO is full exactly if it holds as much as it can, and the longest response is that of a PCR. -/
structure State.Filled (s : State) : Prop where
  inAmt : s.fifoInAmt ≤ fifoMaxAmt
  full : s.fifoInAmt = fifoMaxAmt ↔ s.fifoState = .full
  outAmt : s.fifoOutAmt ≤ 30
  state : s.fifoState ≠ .working
  behind : ∀ x, fifoMaxAmt ≤ x → s.fifoIndata x = 0

section
variable (sha1 : List UInt8 → Digest) {s : State}

namespace State.Filled

section
variable (h : s.Filled)
include h

theorem dataout (d : UInt32) : State.Filled { s with dataout := d } :=
  ⟨h.inAmt, h.full, h.outAmt, h.state, h.behind⟩

theorem regRead (addr : UInt32) : (regRead addr s).Filled := by
  obtain ⟨d, n, he, hn⟩ := regRead_eq addr s
  rw [he]
  exact ⟨h.inAmt, h.full, hn.trans h.outAmt, h.state, h.behind⟩

omit h in
theorem of_amount {t : State} (n : Nat) (st : FifoState) (out : Nat) (hn : t.fifoInAmt = n)
    (hs : t.fifoState = st) (ho : t.fifoOutAmt = out) (hsmall : n < fifoMaxAmt ∧ out ≤ 30) (hst : st ≠ .full ∧ st ≠ .working)
    (hb : ∀ x, fifoMaxAmt ≤ x → t.fifoIndata x = 0) : t.Filled where
  inAmt := hn ▸ hsmall.1.le
  full := iff_of_false (hn ▸ hsmall.1.ne) (hs ▸ hst.1)
  outAmt := ho ▸ hsmall.2
  state := hs ▸ hst.2
  behind := hb

theorem commandReady : (commandReady s).Filled :=
  of_amount 0 .accepting 0 rfl rfl rfl (by decide) (by decide) fun x hx =>
    (if_neg (Nat.not_lt.mpr hx)).trans (h.behind x hx)

theorem push (hs : s.fifoState ≠ .full) (data : UInt32) : (push data s).Filled := by
  have hlt : s.fifoInAmt < fifoMaxAmt := lt_of_le_of_ne h.inAmt fun he => hs (h.full.mp he)
  refine ⟨hlt, ?_, h.outAmt, ?_, fun x hx => ?_⟩
  · change s.fifoInAmt + 1 = fifoMaxAmt ↔ (if s.fifoInAmt + 1 = fifoMaxAmt then _ else _) = _
    split_ifs with hmax
    · exact iff_of_true hmax rfl
    · exact iff_of_false hmax hs
  · change (if s.fifoInAmt + 1 = fifoMaxAmt then _ else _) ≠ _
    split_ifs with hmax
    · decide
    · exact h.state
  · exact (Function.update_of_ne (by omega) _ _).trans (h.behind x hx)

theorem tpmRunCmd : (tpmRunCmd sha1 s).Filled := by
  rw [tpmRunCmd_eq]
  cases hc : s.command with
  | none => exact of_amount 0 .sending 9 rfl rfl rfl (by decide) (by decide) h.behind
  | some c =>
    have haccepting : s.fifoState = .accepting := by
      cases c with
      | extend => exact ((command_extend s).mp hc).1.1.1
      | read => exact ((command_read s).mp hc).1.1.1
    have hlt : s.fifoInAmt < fifoMaxAmt := by
      refine lt_of_le_of_ne h.inAmt fun he => ?_
      have hfull := h.full.mp he
      rw [haccepting] at hfull
      cases hfull
    cases c with
    | extend => exact of_amount s.fifoInAmt .sending 30 rfl rfl rfl ⟨hlt, le_rfl⟩ (by decide) h.behind
    | read => exact of_amount s.fifoInAmt .sending 30 rfl rfl rfl ⟨hlt, le_rfl⟩ (by decide) h.behind

theorem regWrite (addr data : UInt32) : (regWrite sha1 addr data s).Filled := by
  unfold Tpm.regWrite
  split_ifs with _ _ _ _ hs
  · exact h.commandReady
  · exact h.tpmRunCmd sha1
  · exact h
  · exact h.push hs data
  · exact h
  · exact h

theorem access (a : Access) : (access sha1 s a).Filled := by
  have hsts {t : State} (ht : t.Filled) : State.Filled { t with fifoSts := t.stsByte } :=
    ⟨ht.inAmt, ht.full, ht.outAmt, ht.state, ht.behind⟩
  unfold Tpm.access
  by_cases hr : a.cmd = RD
  · rw [hr, tpmUpdate_read]
    exact hsts ((h.dataout 0).regRead a.addr)
  · by_cases hw : a.cmd = WR
    · rw [hw, tpmUpdate_write]
      exact hsts ((h.dataout 0).regWrite sha1 a.addr a.data)
    · simp only [tpmUpdate, hr, hw, if_false]
      exact hsts (h.dataout 0)

end

theorem init (s : State) : (tpmInit s).Filled :=
  of_amount 0 .idle 0 rfl rfl rfl (by decide) (by decide) fun _ _ => rfl

end State.Filled

theorem run_sts (s : State) {as : List Access} (h : as ≠ []) :
    (run (access sha1) s as).fifoSts = (run (access sha1) s as).stsByte := by
  induction as generalizing s with
  | nil => exact absurd rfl h
  | cons a as ih =>
    cases as with
    | nil => rfl
    | cons b as => exact ih (access sha1 s a) (List.cons_ne_nil b as)

/-- The input amount is at most that of the buffer, and reaches it exactly in state FULL; data is
written to and read from the buffers only; and once an access was made the status is valid, so that a
loop that waits for that ends at once. -/
theorem fifo_bounded (s : State) (as : List Access) :
    let t := run (access sha1) (tpmInit s) as
    (t.fifoInAmt ≤ fifoMaxAmt ∧ (t.fifoInAmt = fifoMaxAmt ↔ t.fifoState = .full)) ∧
      (∀ i ∈ log (access sha1) writeIndex (tpmInit s) as, i < fifoMaxAmt) ∧
      (∀ x, fifoMaxAmt ≤ x → t.fifoIndata x = (tpmInit s).fifoIndata x) ∧
      t.fifoOutAmt ≤ 30 ∧ (∀ i ∈ log (access sha1) readIndex (tpmInit s) as, i < fifoMaxAmt) ∧
      (as ≠ [] → t.fifoSts &&& stsValid ≠ 0 ∧
        ∀ fuel, waitValid sha1 (fuel + 1) t = .ok (t.fifoSts, { t with dataout := t.fifoSts })) := by
  intro t
  have hstep (s : State) (a : Access) (h : s.Filled) : (access sha1 s a).Filled := h.access sha1 a
  have ht : t.Filled := run_invariant hstep as _ (.init s)
  have hwrite : ∀ i ∈ log (access sha1) writeIndex (tpmInit s) as, i < fifoMaxAmt := by
    refine log_invariant hstep (fun s a i h hi => ?_) as _ (.init s)
    rw [writeIndex, Option.ite_none_right_eq_some] at hi
    obtain ⟨⟨-, -, hfull⟩, hi⟩ := hi
    cases hi
    exact lt_of_le_of_ne h.inAmt fun he => hfull (h.full.mp he)
  have hread : ∀ i ∈ log (access sha1) readIndex (tpmInit s) as, i < fifoMaxAmt := by
    refine log_invariant hstep (fun s a i h hi => ?_) as _ (.init s)
    rw [readIndex, Option.ite_none_right_eq_some] at hi
    obtain ⟨-, hi⟩ := hi
    cases hi
    exact lt_of_le_of_lt h.outAmt (by decide)
  refine ⟨⟨ht.inAmt, ht.full⟩, hwrite, ht.behind, ht.outAmt, hread, fun hne => ?_⟩
  have hsts : t.fifoSts = t.stsByte := run_sts sha1 (tpmInit s) hne
  refine ⟨?_, fun fuel => ?_⟩
  · rw [hsts]
    exact sts_valid t ht.state
  · rw [waitValid_ok sha1 fuel t hsts ht.state, ← hsts]

end
end Vboot.Tpm
