import Vboot.Tpm.Exchange

/-! What one command does to the PCRs and what comes back, as a function of the
request and of the state before it. The driver and the command library are
then shown to deliver exactly that. -/
namespace Vboot.Tpm
open Vboot.Lib

def requestByte (buf : Mem) (n j : Nat) : UInt8 := if j < n then buf j else 0

def requestOrdinal (buf : Mem) (n : Nat) (lo : UInt8) : Bool :=
  requestByte buf n 6 == 0 && requestByte buf n 7 == 0 && requestByte buf n 8 == 0 &&
    requestByte buf n 9 == lo

def requestPcr (buf : Mem) (n : Nat) : Nat := (requestByte buf n 13).toNat

def requestDigest (buf : Mem) (n : Nat) : Digest := Vector.ofFn fun k => requestByte buf n (14 + k)

/-- The command that the TPM executes on a request of n bytes, if it accepts one. A
request that fills the FIFO is never accepted. -/
def requestCommand (buf : Mem) (n : Nat) : Option Command :=
  if n < 126 ∧ requestPcr buf n ≤ 23 then
    if requestOrdinal buf n 0x14 then some .extend
    else if requestOrdinal buf n 0x15 then some .read
    else none
  else none

/-- What a command leaves behind: the PCRs, the output buffer, the number of bytes of
it that are sent, and cmd_worked. -/
structure Outcome where
  bank : Nat → Digest
  out : Mem
  size : Nat
  worked : Bool

def malformedResponse (out : Mem) : Mem :=
  Function.update (Function.update (Function.update out 8 0xc4) 4 9) 0 0xff

section
variable (sha1 : List UInt8 → Digest)

def outcome (s : State) (buf : Mem) (n : Nat) : Outcome :=
  match requestCommand buf n with
  | some .extend =>
    let d := sha1 ((s.pcr (requestPcr buf n)).toList ++ (requestDigest buf n).toList)
    ⟨Function.update s.pcr (requestPcr buf n) d, pcrResponse s.fifoOutdata d, 30, true⟩
  | some .read => ⟨s.pcr, pcrResponse s.fifoOutdata (s.pcr (requestPcr buf n)), 30, true⟩
  | none => ⟨s.pcr, malformedResponse s.fifoOutdata, 9, false⟩

theorem outcome_size (s : State) (buf : Mem) (n : Nat) :
    7 ≤ (outcome sha1 s buf n).size ∧ (outcome sha1 s buf n).size ≤ 255 ∧
      ((outcome sha1 s buf n).out ((outcome sha1 s buf n).size - 5)).toNat =
        (outcome sha1 s buf n).size := by
  unfold outcome
  cases requestCommand buf n with
  | none => simp [malformedResponse]
  | some c => cases c <;> simp [pcrResponse]

structure Shows (o : Outcome) (t : State) : Prop where
  bank : t.pcr = o.bank
  out : t.fifoOutdata = o.out
  worked : t.cmdWorked = o.worked

variable {s s₀ : State} {n : Nat} {buf : Mem}

theorem Shows.draining {o : Outcome} {t : State} (h : Shows o t) (hd : Draining t n s) : Shows o s := by
  refine ⟨?_, hd.outdata.trans h.out, hd.worked.trans h.worked⟩
  rw [← h.bank]
  funext i
  simp only [State.pcr, hd.pcr]

theorem Shows.ready {o : Outcome} {t : State} (h : Shows o t) :
    Shows o (write8 sha1 0x40 stsAddr t) := by
  have hr := Sending.ready sha1 t.fifoIndata t
  refine ⟨?_, hr.outdata.trans h.out, hr.worked.trans h.worked⟩
  rw [← h.bank]
  funext i
  simp only [State.pcr, hr.pcr]

section
variable (h : Sending buf n s₀ s)
include h

theorem Sending.byte {j : Nat} (hj : j < 126) :
    s.fifoIndata j = requestByte buf n j :=
  h.indata j hj

theorem Sending.inDigest : s.inDigest = requestDigest buf n := by
  apply Vector.ext
  intro k hk
  simp [State.inDigest, requestDigest, h.byte (show 14 + k < 126 by omega)]

theorem Sending.command (ha : s.fifoInAmt = s.fifoInCmdsize) :
    s.command = requestCommand buf n := by
  have hc : s.complete ↔ n < 126 := by
    rw [State.complete, h.state]
    by_cases hn : n < 126 <;> simp [hn, ha]
  have ho (lo : UInt8) : s.ordinalIs lo = requestOrdinal buf n lo := by
    simp [State.ordinalIs, requestOrdinal, h.byte]
  have hi : s.pcrIndex = requestPcr buf n := by
    simp [State.pcrIndex, requestPcr, h.byte]
  simp only [State.command, requestCommand, hc, ho, hi]

theorem Sending.go (ha : s.fifoInAmt = s.fifoInCmdsize) :
    Shows (outcome sha1 s₀ buf n) (write8 sha1 0x20 stsAddr s) ∧
      Draining (write8 sha1 0x20 stsAddr s) (outcome sha1 s₀ buf n).size
        (write8 sha1 0x20 stsAddr s) := by
  have hcmd : State.command { s with dataout := 0 } = requestCommand buf n := h.command ha
  have hpcr : s.pcr = s₀.pcr := by
    funext i
    simp only [State.pcr, h.pcr]
  have hi : s.pcrIndex = requestPcr buf n := by
    simp [State.pcrIndex, requestPcr, h.byte]
  rw [write8_go, tpmRunCmd_eq, hcmd, outcome]
  cases requestCommand buf n with
  | none =>
    refine ⟨⟨hpcr, ?_, rfl⟩, rfl, rfl, rfl, rfl, rfl, rfl⟩
    change malformedResponse s.fifoOutdata = _
    rw [h.outdata]
  | some c =>
    cases c with
    | extend =>
      have hd : State.extended sha1 { s with dataout := 0 } =
          sha1 ((s₀.pcr (requestPcr buf n)).toList ++ (requestDigest buf n).toList) := by
        change sha1 ((s.pcr s.pcrIndex).toList ++ s.inDigest.toList) = _
        rw [hpcr, hi, h.inDigest]
      refine ⟨⟨?_, ?_, rfl⟩, rfl, rfl, rfl, rfl, rfl, rfl⟩
      · funext i
        have hs := pcr_store s s.pcrIndex i (State.extended sha1 { s with dataout := 0 })
        rw [hi, hpcr, hd] at hs
        refine Eq.trans ?_ hs
        rw [← hd, ← hi]
        rfl
      · change pcrResponse s.fifoOutdata (State.extended sha1 { s with dataout := 0 }) = _
        rw [hd, h.outdata]
    | read =>
      refine ⟨⟨hpcr, ?_, rfl⟩, rfl, rfl, rfl, rfl, rfl, rfl⟩
      change pcrResponse s.fifoOutdata (s.pcr s.pcrIndex) = _
      rw [hpcr, hi, h.outdata]

end

/-- A request that is delivered and whose response fits has exactly its outcome; in every
other case the driver stops on an assertion or reports an error. -/
theorem vbExTpmSendReceive_spec (fuel : Nat) (request : Mem) (len : UInt32) (response : Mem)
    (maxLength : Int) (s : State) (hf : 2 ^ 32 < fuel) :
    if delivered request s.fifoInCmdsize len.toNat ∧
        (outcome sha1 s request len.toNat).size ≤ maxLength then
      ∃ t, vbExTpmSendReceive sha1 fuel request len response maxLength s =
        .ok (0, response.store 0 (drain (outcome sha1 s request len.toNat).out
          (outcome sha1 s request len.toNat).size (outcome sha1 s request len.toNat).size), t) ∧
        Shows (outcome sha1 s request len.toNat) t ∧ t.fifoOutAmt = 0
    else
      (misjudged request s.fifoInCmdsize len.toNat ∧
        vbExTpmSendReceive sha1 fuel request len response maxLength s = .error .assert) ∨
      ∃ response' t, vbExTpmSendReceive sha1 fuel request len response maxLength s =
        .ok (0xffffffff, response', t) := by
  obtain ⟨g, rfl⟩ : ∃ g, fuel = g + 2 := ⟨fuel - 2, by omega⟩
  rcases send_spec sha1 (g + 2) request len s hf with ⟨hd, u, hu, ha, hs⟩ | ⟨hd, hs⟩
  · obtain ⟨hshow, hdrain⟩ := hu.go sha1 ha
    set t := write8 sha1 0x20 stsAddr u with ht
    obtain ⟨h7, h255, hsize⟩ := outcome_size sha1 s request len.toNat
    set o := outcome sha1 s request len.toNat with ho
    rw [← hshow.out] at hsize
    by_cases hc : (o.size : Int) ≤ maxLength
    · rw [if_pos ⟨hd, hc⟩]
      obtain ⟨s', hs', hd'⟩ := recv_ok sha1 g response maxLength hdrain h7 h255 hsize hc
      refine ⟨write8 sha1 0x40 stsAddr s', ?_, (hshow.draining hd').ready sha1,
        (Sending.ready sha1 request s').out⟩
      rw [vbExTpmSendReceive, hs]
      simp only [ne_eq, not_true_eq_false, if_false, hs', hshow.out]
    · rw [if_neg fun h => hc h.2]
      obtain ⟨b, s', hs'⟩ := recv_short sha1 g response maxLength hdrain h7 hsize (by omega)
      refine .inr ⟨b, s', ?_⟩
      rw [vbExTpmSendReceive, hs]
      simp only [ne_eq, not_true_eq_false, if_false, hs']
      rfl
  · rw [if_neg fun h => hd h.1]
    rcases hs with ⟨hm, hs⟩ | ⟨-, k, u, hu, hs⟩
    · refine .inl ⟨hm, ?_⟩
      rw [vbExTpmSendReceive, hs]
    · right
      -- a request that claims 2^32 - 1 bytes takes the driver's -1 for its own length
      by_cases hl : 0xffffffff = len
      · obtain ⟨r, s', hr, h0⟩ := recv_empty sha1 (g + 2) response maxLength hu
        refine ⟨response, s', ?_⟩
        rw [vbExTpmSendReceive, hs]
        simp only [ne_eq, hl, not_true_eq_false, if_false, hr, h0, not_false_eq_true, if_true]
      · refine ⟨response, u, ?_⟩
        rw [vbExTpmSendReceive, hs]
        simp only [ne_eq, hl, not_false_eq_true, if_true]

end
end Vboot.Tpm
