import Vboot.Tpm.Pcr
import Vboot.Tpm.Tlcl

/-! One request and one response through the driver, from an arbitrary state of
the TPM model. -/
namespace Vboot.Tpm
open Vboot.Lib

variable (s : State)

theorem sts_expect : s.stsByte &&& stsDataExpect = 0 ↔ s.dataExpected = false := by
  have h (a v e : Bool) : stsFlags a v e &&& stsDataExpect = 0 ↔ e = false := by
    cases a <;> cases v <;> cases e <;> decide
  exact h _ _ _

theorem sts_valid (hs : s.fifoState ≠ .working) : s.stsByte &&& stsValid ≠ 0 := by
  have h (a e : Bool) : stsFlags a true e &&& stsValid ≠ 0 := by
    cases a <;> cases e <;> decide
  simpa [State.stsByte, hs] using h _ _

theorem sts_aval (hs : s.fifoState ≠ .working) :
    (s.stsByte &&& (stsDataAvail ||| stsValid) == (stsDataAvail ||| stsValid)) =
      decide (0 < s.fifoOutAmt) := by
  have h (a e : Bool) : (stsFlags a true e &&& (stsDataAvail ||| stsValid) ==
      (stsDataAvail ||| stsValid)) = a := by
    cases a <;> cases e <;> decide
  simpa [State.stsByte, hs] using h _ _

section
variable (sha1 : List UInt8 → Digest)

/-- After COMMAND_READY in state s₀ and the first k bytes of buf. A byte that
arrives when the FIFO is full is dropped. -/
structure Sending (buf : Mem) (k : Nat) (s₀ s : State) : Prop where
  state : s.fifoState = if k < 126 then .accepting else .full
  amt : s.fifoInAmt = min k 126
  cmdsize : s.fifoInCmdsize = if k ≤ 5 then s₀.fifoInCmdsize else (buf 5).toNat
  indata : ∀ j < 126, s.fifoIndata j = if j < k then buf j else 0
  out : s.fifoOutAmt = 0
  outdata : s.fifoOutdata = s₀.fifoOutdata
  pcr : s.pcrData = s₀.pcrData
  worked : s.cmdWorked = s₀.cmdWorked
  sts : s.fifoSts = s.stsByte

/-- GO. -/
theorem write8_go (s : State) : write8 sha1 0x20 stsAddr s =
    { tpmRunCmd sha1 { s with dataout := 0 } with
      fifoSts := (tpmRunCmd sha1 { s with dataout := 0 }).stsByte } := by
  have hrun : regWrite sha1 stsAddr (0x20 : UInt8).toUInt32 { s with dataout := 0 } =
      tpmRunCmd sha1 { s with dataout := 0 } := by
    rw [regWrite, if_pos rfl, if_neg (by decide), if_pos (by decide)]
  rw [write8, tpmUpdate_write, hrun]

variable (buf : Mem)

theorem Sending.ready (s₀ : State) :
    Sending buf 0 s₀ (write8 sha1 0x40 stsAddr s₀) := by
  have h : regWrite sha1 stsAddr (0x40 : UInt8).toUInt32 { s₀ with dataout := 0 } =
      commandReady { s₀ with dataout := 0 } := by
    rw [regWrite, if_pos rfl, if_pos (by decide)]
  rw [write8, tpmUpdate_write, h]
  exact ⟨rfl, rfl, rfl, fun j hj => by simp [commandReady, fifoMaxAmt, hj], rfl, rfl, rfl, rfl, rfl⟩

variable {buf : Mem} {k n : Nat} {s₀ s t : State}

theorem Sending.not_working (h : Sending buf k s₀ s) : s.fifoState ≠ .working := by
  rw [h.state]
  split_ifs <;> decide

theorem Sending.push (h : Sending buf k s₀ s) :
    Sending buf (k + 1) s₀ (write8 sha1 (buf k) fifoAddr s) := by
  have hw : regWrite sha1 fifoAddr (buf k).toUInt32 { s with dataout := 0 } =
      if s.fifoState ≠ .full then Tpm.push (buf k).toUInt32 { s with dataout := 0 }
      else { s with dataout := 0 } := by
    rw [regWrite, if_neg (by decide), if_pos rfl]
  rw [write8, tpmUpdate_write, hw]
  by_cases hk : k < 126
  · have hs : s.fifoState = .accepting := by rw [h.state, if_pos hk]
    have ha : s.fifoInAmt = k := by rw [h.amt]; omega
    rw [if_pos (by rw [hs]; decide)]
    constructor <;> dsimp only [Tpm.push, fifoMaxAmt]
    · have hf : k + 1 = 126 ↔ ¬ k + 1 < 126 := by omega
      rw [ha, hs]
      by_cases hl : k + 1 < 126 <;> simp [hf, hl]
    · omega
    · rw [ha, h.cmdsize]
      rcases Nat.lt_trichotomy k 5 with h5 | h5 | h5
      · rw [if_neg (by omega), if_pos (by omega), if_pos (by omega)]
      · simp [h5]
      · rw [if_neg (by omega), if_neg (by omega), if_neg (by omega)]
    · intro j hj
      rw [ha]
      by_cases hjk : j = k
      · subst j
        simp
      · have hl : j < k + 1 ↔ j < k := by omega
        simp only [Function.update_of_ne hjk, h.indata j hj, hl]
    · exact h.out
    · exact h.outdata
    · exact h.pcr
    · exact h.worked
    · rfl
  · have hs : s.fifoState = .full := by rw [h.state, if_neg hk]
    rw [if_neg (by simp [hs])]
    constructor <;> dsimp only
    · rw [hs, if_neg (by omega)]
    · rw [h.amt]; omega
    · rw [h.cmdsize, if_neg (by omega), if_neg (by omega)]
    · intro j hj
      rw [h.indata j hj, if_pos (by omega), if_pos (by omega)]
    · exact h.out
    · exact h.outdata
    · exact h.pcr
    · exact h.worked
    · rfl

theorem read8_sts (s : State) (h : s.fifoSts = s.stsByte) :
    read8 sha1 stsAddr s = (s.stsByte, { s with dataout := s.stsByte }) := by
  have hr : regRead stsAddr { s with dataout := 0 } = { s with dataout := s.stsByte } := by
    rw [regRead, if_pos rfl, ← h]
  rw [read8, tpmUpdate_read, hr]
  simp only [h, State.stsByte, State.dataExpected]

theorem Sending.dataout (h : Sending buf k s₀ s) (d : UInt32) :
    Sending buf k s₀ { s with dataout := d } :=
  ⟨h.state, h.amt, h.cmdsize, h.indata, h.out, h.outdata, h.pcr, h.worked, h.sts⟩

variable (out : Mem) (fuel last : Nat)

/-- The wait loop ends at its first iteration: the model is never in WORKING. -/
theorem waitValid_ok (s : State) (h : s.fifoSts = s.stsByte) (hw : s.fifoState ≠ .working) :
    waitValid sha1 (fuel + 1) s = .ok (s.stsByte, { s with dataout := s.stsByte }) := by
  rw [waitValid, read8_sts sha1 s h]
  simp only [sts_valid s hw, if_false]

theorem writeBurst_sending (b : Nat) (h : Sending buf k s₀ s) (hk : k ≤ last) :
    (writeBurst sha1 buf last b k s).1 = min (k + b) last ∧
      Sending buf (min (k + b) last) s₀ (writeBurst sha1 buf last b k s).2 := by
  induction b generalizing k s with
  | zero =>
    have hm : min (k + 0) last = k := by omega
    rw [hm]
    exact ⟨rfl, h⟩
  | succ b ih =>
    by_cases hl : k < last
    · have hs := ih (h.push sha1) (by omega)
      have hm : min (k + 1 + b) last = min (k + (b + 1)) last := by omega
      rw [writeBurst, if_pos hl, ← hm]
      exact hs
    · have hm : min (k + (b + 1)) last = k := by omega
      rw [writeBurst, if_neg hl, hm]
      exact ⟨rfl, h⟩

/-- The TPM expects more data after k bytes of buf, if c was the size left over from
the previous command. -/
def expects (buf : Mem) (c k : Nat) : Prop :=
  k < 4 ∨ min k 126 < (if k ≤ 5 then c else (buf 5).toNat)

theorem Sending.expected (h : Sending buf k s₀ s) :
    s.dataExpected = true ↔ expects buf s₀.fifoInCmdsize k := by
  simp only [State.dataExpected, h.state, h.amt, h.cmdsize, expects, Bool.or_eq_true,
    Bool.and_eq_true, beq_iff_eq, decide_eq_true_eq]
  by_cases hk : k < 126
  · simp only [hk, if_true, true_and]
    omega
  · simp only [hk, if_false]
    simp
    omega

theorem sendLoop_spec (fuel : Nat) (h : Sending buf k s₀ s) (hk : k ≤ last) (hf : last - k + 1 < fuel) :
    (∃ j s', sendLoop sha1 buf last fuel k s = .ok (none, s') ∧ Sending buf j s₀ s' ∧
      ¬ expects buf s₀.fifoInCmdsize j ∧ j ≤ last ∧ (j = last ∨ 126 ≤ j)) ∨
    (∃ s', sendLoop sha1 buf last fuel k s = .ok (some last, s') ∧ Sending buf last s₀ s' ∧
      (k < last → expects buf s₀.fifoInCmdsize last)) := by
  induction fuel generalizing k s with
  | zero => omega
  | succ fuel ih =>
    by_cases hl : k < last
    · obtain ⟨g, rfl⟩ : ∃ g, fuel = g + 1 := ⟨fuel - 1, by omega⟩
      have hb := writeBurst_sending sha1 last readBurstCount h hk
      set r := writeBurst sha1 buf last readBurstCount k s with hr
      have hwait := waitValid_ok sha1 g r.2 hb.2.sts hb.2.not_working
      have hloop : sendLoop sha1 buf last (g + 1 + 1) k s =
          if r.2.stsByte &&& stsDataExpect = 0 then
            .ok (none, { r.2 with dataout := r.2.stsByte })
          else sendLoop sha1 buf last (g + 1) r.1 { r.2 with dataout := r.2.stsByte } := by
        rw [sendLoop, if_pos hl, if_neg (by decide), ← hr]
        simp only [hwait]
      rw [hloop, hb.1]
      by_cases he : r.2.dataExpected = true
      · have hx : ¬ r.2.stsByte &&& stsDataExpect = 0 := by
          rw [sts_expect]
          simp [he]
        rw [if_neg hx]
        have hlast := hb.2.expected.mp he
        have hm : readBurstCount = 256 := rfl
        rcases ih (hb.2.dataout r.2.stsByte) (by omega) (by omega) with hn | ⟨s', hs', hd, hlt⟩
        · exact .inl hn
        · refine .inr ⟨s', hs', hd, fun _ => ?_⟩
          by_cases hj : min (k + readBurstCount) last < last
          · exact hlt hj
          · have hj' : min (k + readBurstCount) last = last := by omega
            rwa [hj'] at hlast
      · have hx : r.2.stsByte &&& stsDataExpect = 0 := by
          rw [sts_expect]
          simpa using he
        rw [if_pos hx]
        have hm : readBurstCount = 256 := rfl
        exact .inl ⟨_, _, rfl, hb.2.dataout _, fun hc => he (hb.2.expected.mpr hc), by omega, by omega⟩
    · have hkl : k = last := by omega
      subst k
      rw [sendLoop, if_neg hl]
      exact .inr ⟨s, rfl, h, fun hc => absurd hc hl⟩

/-- The driver hands over the whole request of length n, and the TPM takes it as complete.
Requests shorter than six bytes leave the size of the previous command c in place. -/
def delivered (buf : Mem) (c n : Nat) : Prop :=
  (7 ≤ n ∧ n ≤ 126 ∧ (buf 5).toNat = n) ∨ (n = 6 ∧ 5 < c ∧ (buf 5).toNat = n) ∨
  ((n = 4 ∨ n = 5) ∧ c = n)

instance (buf : Mem) (c n : Nat) : Decidable (delivered buf c n) :=
  inferInstanceAs (Decidable (_ ∨ _ ∨ _))

/-- The TPM takes a request of length n as complete although the FIFO count is not the size of
the command: the last status byte was judged by a size that is not this command's. -/
def misjudged (buf : Mem) (c n : Nat) : Prop :=
  (n = 4 ∧ c < 4) ∨ (n = 6 ∧ 5 < c ∧ (buf 5).toNat < 6)

instance (buf : Mem) (c n : Nat) : Decidable (misjudged buf c n) := inferInstanceAs (Decidable (_ ∨ _))

theorem delivered_not_misjudged {c : Nat} (h : delivered buf c n) : ¬ misjudged buf c n := by
  unfold delivered at h
  unfold misjudged
  omega

section
variable {c last : Nat} (hlast : last = (n + 4294967295) % 4294967296)
include hlast

theorem not_delivered {j : Nat} (hx : ¬ expects buf c j) (hj : j ≤ last) (hj' : j = last ∨ 126 ≤ j) :
    ¬ delivered buf c n ∧ ¬ misjudged buf c n := by
  unfold delivered misjudged
  unfold expects at hx
  split_ifs at hx <;> omega

theorem delivered_iff (hn : n < 2 ^ 32) (hx : 0 < last → expects buf c last) :
    delivered buf c n ↔ (¬ expects buf c (last + 1) ∧ n = min (last + 1) 126 ∧
      min (last + 1) 126 = if last + 1 ≤ 5 then c else (buf 5).toNat) := by
  unfold delivered
  unfold expects at hx ⊢
  have h5 := (buf 5).toNat_lt
  split_ifs at hx ⊢ <;> omega

theorem misjudged_iff (hn : n < 2 ^ 32) (hx : 0 < last → expects buf c last) :
    misjudged buf c n ↔ (¬ expects buf c (last + 1) ∧
      (n ≠ min (last + 1) 126 ∨ min (last + 1) 126 ≠ if last + 1 ≤ 5 then c else (buf 5).toNat)) := by
  unfold misjudged
  unfold expects at hx ⊢
  split_ifs at hx ⊢ <;> omega

end

theorem toNat_sub_one (len : UInt32) :
    (len - 1).toNat = (len.toNat + 4294967295) % 4294967296 := by
  rw [UInt32.toNat_sub]
  simp
  omega

/-- What the driver does with a request: either every byte reaches the FIFO and GO is
written with the FIFO holding exactly the announced number of bytes, or the
driver gives up before GO, on an assertion if the request was misjudged. -/
theorem send_spec (buf : Mem) (len : UInt32) (s₀ : State) (hf : 2 ^ 32 < fuel) :
    (delivered buf s₀.fifoInCmdsize len.toNat ∧ ∃ s, Sending buf len.toNat s₀ s ∧
      s.fifoInAmt = s.fifoInCmdsize ∧
      send sha1 fuel buf len s₀ = .ok (len, write8 sha1 0x20 stsAddr s)) ∨
    (¬ delivered buf s₀.fifoInCmdsize len.toNat ∧
      (misjudged buf s₀.fifoInCmdsize len.toNat ∧ send sha1 fuel buf len s₀ = .error .assert ∨
        ¬ misjudged buf s₀.fifoInCmdsize len.toNat ∧
          ∃ k s, Sending buf k s₀ s ∧ send sha1 fuel buf len s₀ = .ok (0xffffffff, s))) := by
  have hlen := len.toNat_lt
  have hlast := toNat_sub_one len
  set last := (len - 1).toNat with hl
  obtain ⟨g, rfl⟩ : ∃ g, fuel = g + 1 := ⟨fuel - 1, by omega⟩
  rcases sendLoop_spec sha1 last (g + 1) (Sending.ready sha1 buf s₀) (by omega) (by omega) with
    ⟨j, s, hs, hj, hx, hle, hor⟩ | ⟨s, hs, hd, hx⟩
  · have hnot := not_delivered hlast hx hle hor
    refine .inr ⟨hnot.1, .inr ⟨hnot.2, j, s, hj, ?_⟩⟩
    rw [send, ← hl]
    simp only [hs]
  · have hp := hd.push sha1
    set t := write8 sha1 (buf last) fifoAddr s with ht
    have hwait := waitValid_ok sha1 g t hp.sts hp.not_working
    have hsend : send sha1 (g + 1) buf len s₀ =
        if t.stsByte &&& stsDataExpect ≠ 0 then .ok (0xffffffff, { t with dataout := t.stsByte })
        else if len.toNat ≠ t.fifoInAmt ∨ t.fifoInAmt ≠ t.fifoInCmdsize then .error .assert
        else .ok (len, write8 sha1 0x20 stsAddr { t with dataout := t.stsByte }) := by
      rw [send, ← hl]
      simp only [hs, ← ht, hwait]
    have hiff := delivered_iff hlast (by omega) hx
    have hiff' := misjudged_iff hlast (by omega) hx
    rw [← hp.amt, ← hp.cmdsize, ← hp.expected] at hiff hiff'
    rw [hsend]
    by_cases he : t.dataExpected = true
    · refine .inr ⟨fun hc => (hiff.mp hc).1 he,
        .inr ⟨fun hc => (hiff'.mp hc).1 he, _, _, hp.dataout t.stsByte, if_pos ?_⟩⟩
      rw [ne_eq, sts_expect]
      simp [he]
    · have hz : ¬ (t.stsByte &&& stsDataExpect ≠ 0) := by
        rw [not_not, sts_expect]
        simpa using he
      rw [if_neg hz]
      by_cases ha : len.toNat ≠ t.fifoInAmt ∨ t.fifoInAmt ≠ t.fifoInCmdsize
      · rw [if_pos ha]
        exact .inr ⟨fun hc => by have := hiff.mp hc; omega, .inl ⟨hiff'.mpr ⟨he, ha⟩, rfl⟩⟩
      · rw [if_neg ha]
        have hdel := hiff.mpr ⟨he, by omega, by omega⟩
        have hk : last + 1 = len.toNat := by
          unfold delivered at hdel
          omega
        rw [hk] at hp
        exact .inl ⟨hdel, _, hp.dataout t.stsByte, by dsimp only; omega, rfl⟩

/-- n bytes of the response that GO left in state t are still unread. -/
structure Draining (t : State) (n : Nat) (s : State) : Prop where
  state : s.fifoState = .sending
  amt : s.fifoOutAmt = n
  outdata : s.fifoOutdata = t.fifoOutdata
  pcr : s.pcrData = t.pcrData
  worked : s.cmdWorked = t.cmdWorked
  sts : s.fifoSts = s.stsByte

/-- The next m bytes that the FIFO sends when n are left. -/
def drain (n m : Nat) : List UInt8 := (List.range m).map fun i => out (n - i)

theorem store_drain_zero (a n : Nat) : buf.store a (drain out n 0) = buf := by
  funext x
  simp [Mem.store, drain]

@[simp] theorem length_drain (n m : Nat) : (drain out n m).length = m := by
  simp [drain]

theorem drain_succ (n m : Nat) : drain out (n + 1) (m + 1) = out (n + 1) :: drain out n m := by
  simp [drain, List.range_succ_eq_map]

theorem drain_add (n k m : Nat) : drain out n (k + m) = drain out n k ++ drain out (n - k) m := by
  simp [drain, List.range_add, Nat.sub_sub]

theorem getD_drain (n m i : Nat) (d : UInt8) (h : i < m) : (drain out n m).getD i d = out (n - i) := by
  simp [drain, h]

theorem Draining.not_working (h : Draining t n s) : s.fifoState ≠ .working := by
  rw [h.state]
  decide

theorem Draining.dataout (h : Draining t n s) (d : UInt32) : Draining t n { s with dataout := d } :=
  ⟨h.state, h.amt, h.outdata, h.pcr, h.worked, h.sts⟩

theorem Draining.aval (h : Draining t n s) :
    ∃ s', isDataAval sha1 s = (decide (0 < n), s') ∧ Draining t n s' := by
  refine ⟨{ s with dataout := s.stsByte }, ?_, h.dataout _⟩
  rw [isDataAval, read8_sts sha1 s h.sts]
  simp only [sts_aval s h.not_working, h.amt]

theorem Draining.read (h : Draining t (n + 1) s) :
    ∃ s', read8 sha1 fifoAddr s = ((t.fifoOutdata (n + 1)).toUInt32, s') ∧ Draining t n s' := by
  have hr : regRead fifoAddr { s with dataout := 0 } =
      { s with dataout := (t.fifoOutdata (n + 1)).toUInt32, fifoOutAmt := n } := by
    rw [regRead, if_neg (by decide), if_neg (by decide), if_pos rfl, pop,
      if_pos (by simp [h.state, h.amt])]
    simp [h.amt, h.outdata]
  rw [read8, tpmUpdate_read, hr]
  exact ⟨_, rfl, h.state, rfl, h.outdata, h.pcr, h.worked, rfl⟩

theorem Draining.readBurst (off : Nat) (count : Int) (m n b size : Nat) (buf : Mem)
    (h : Draining t (n + m) s) (hb : m ≤ b) (hc : count = size + m) :
    ∃ s', Tpm.readBurst sha1 off count b size buf s =
      (b - m, size + m, buf.store (off + size) (drain t.fifoOutdata (n + m) m), s') ∧
      Draining t n s' := by
  induction m generalizing b size buf s with
  | zero =>
    refine ⟨s, ?_, h⟩
    rw [store_drain_zero]
    cases b with
    | zero => rfl
    | succ b => simp [Tpm.readBurst, hc]
  | succ m ih =>
    obtain ⟨c, rfl⟩ : ∃ c, b = c + 1 := ⟨b - 1, by omega⟩
    rw [← Nat.add_assoc] at h
    obtain ⟨s₁, hs₁, h₁⟩ := h.read sha1
    obtain ⟨s₂, hs₂, h₂⟩ := ih c (size + 1)
      (Function.update buf (off + size) (t.fifoOutdata (n + m + 1))) h₁ (by omega)
      (by push_cast at hc ⊢; omega)
    refine ⟨s₂, ?_, h₂⟩
    rw [Tpm.readBurst, if_pos (by push_cast at hc; omega), hs₁]
    simp only [UInt8.toUInt8_toUInt32]
    rw [hs₂, show off + (size + 1) = off + size + 1 by omega, Mem.store_cons,
      show n + (m + 1) = n + m + 1 by omega, drain_succ, show c + 1 - (m + 1) = c - m by omega,
      show size + (m + 1) = size + 1 + m by omega]

theorem Draining.recvHelper (off : Nat) (count : Int) (m fuel n : Nat) (buf : Mem)
    (h : Draining t (n + m) s) (hm : m ≤ 256) (hc : count = m) :
    ∃ s', Tpm.recvHelper sha1 off count (fuel + 2) 0 0 buf s =
      .ok (m, buf.store off (drain t.fifoOutdata (n + m) m), s') ∧ Draining t n s' := by
  obtain ⟨s₁, hs₁, h₁⟩ := h.aval sha1
  cases m with
  | zero =>
    refine ⟨s₁, ?_, h₁⟩
    rw [store_drain_zero, Tpm.recvHelper, hs₁]
    simp [hc]
  | succ m =>
    obtain ⟨s₂, hs₂, h₂⟩ := h₁.readBurst sha1 off count (m + 1) n 256 0 buf
      hm (by simpa using hc)
    obtain ⟨s₃, hs₃, h₃⟩ := h₂.aval sha1
    refine ⟨s₃, ?_, h₃⟩
    rw [Tpm.recvHelper, hs₁]
    simp only [readBurstCount, if_true]
    rw [if_pos ⟨by simp, by rw [hc]; simp⟩, if_neg (by decide), hs₂]
    simp only [Nat.zero_add, Nat.add_zero]
    rw [Tpm.recvHelper, hs₃]
    simp [hc]

/-- The header of the response tells its size. -/
theorem drained_size (hn : (out (n - 5)).toNat = n) (buf : Mem) :
    (buf.store 0 (drain out n 6) 5).toNat = n := by
  have hb := Mem.store_inside buf 0 5 (drain out n 6) 0 (by simp)
  rw [Nat.zero_add] at hb
  rw [hb, getD_drain _ _ _ _ _ (by omega)]
  exact hn

theorem recv_ok (buf : Mem) (count : Int) (h : Draining t n s) (h7 : 7 ≤ n) (h255 : n ≤ 255)
    (hn : (t.fifoOutdata (n - 5)).toNat = n) (hc : n ≤ count) :
    ∃ s', recv sha1 (fuel + 2) buf count s =
      .ok (0, buf.store 0 (drain t.fifoOutdata n n), write8 sha1 0x40 stsAddr s') ∧
      Draining t 0 s' := by
  obtain ⟨k, rfl⟩ : ∃ k, n = k + 7 := ⟨n - 7, by omega⟩
  obtain ⟨s₁, hs₁, h₁⟩ := h.aval sha1
  obtain ⟨s₂, hs₂, h₂⟩ := Draining.recvHelper sha1 0 6 6 fuel (k + 1) buf h₁ (by omega) rfl
  obtain ⟨s₃, hs₃, h₃⟩ := Draining.recvHelper sha1 6 k k fuel 1
    (buf.store 0 (drain t.fifoOutdata (k + 7) 6)) (by rwa [Nat.add_comm]) (by omega) rfl
  obtain ⟨s₄, hs₄, h₄⟩ := h₃.aval sha1
  obtain ⟨s₅, hs₅, h₅⟩ := Draining.recvHelper sha1 (6 + k) 1 1 fuel 0
    ((buf.store 0 (drain t.fifoOutdata (k + 7) 6)).store 6 (drain t.fifoOutdata (1 + k) k))
    h₄ (by omega) rfl
  obtain ⟨s₆, hs₆, h₆⟩ := h₅.aval sha1
  have hsize := drained_size t.fifoOutdata hn buf
  have hbuf : ((buf.store 0 (drain t.fifoOutdata (k + 7) 6)).store 6
      (drain t.fifoOutdata (1 + k) k)).store (6 + k) (drain t.fifoOutdata (0 + 1) 1) =
      buf.store 0 (drain t.fifoOutdata (k + 7) (k + 7)) := by
    have hd : drain t.fifoOutdata (k + 7) (k + 7) = (drain t.fifoOutdata (k + 7) 6 ++
        drain t.fifoOutdata (1 + k) k) ++ drain t.fifoOutdata (0 + 1) 1 := by
      have h1 : k + 7 - 6 = 1 + k := by omega
      have h2 : k + 7 - (6 + k) = 0 + 1 := by omega
      rw [← h1, ← drain_add, ← h2, ← drain_add]
      congr 1
      omega
    have h6 := Mem.store_store buf 0 (drain t.fifoOutdata (k + 7) 6) (drain t.fifoOutdata (1 + k) k)
    have h7 := Mem.store_store buf 0 (drain t.fifoOutdata (k + 7) 6 ++ drain t.fifoOutdata (1 + k) k)
      (drain t.fifoOutdata (0 + 1) 1)
    simp only [length_drain, Nat.zero_add, List.length_append] at h6 h7
    rw [hd, h6]
    exact h7
  refine ⟨s₆, ?_, h₆⟩
  have e3 : ((k + 7 : Nat) : Int) - 6 - 1 = k := by omega
  rw [recv, if_neg (by omega), hs₁]
  simp only [show 0 < k + 7 by omega, decide_true, Bool.true_eq_false, if_false]
  rw [show k + 7 = k + 1 + 6 by omega] at *
  simp only [hs₂, Nat.lt_irrefl, if_false, hsize, e3, hs₃]
  rw [if_neg (by omega), if_neg (by omega), hs₄]
  simp only [Nat.zero_lt_one, decide_true, Bool.true_eq_false, if_false, hs₅]
  rw [if_neg (by omega), hs₆, hbuf]
  rfl

theorem recv_short (buf : Mem) (count : Int) (h : Draining t n s) (h7 : 7 ≤ n)
    (hn : (t.fifoOutdata (n - 5)).toNat = n) (hc : count < n) :
    ∃ buf' s', recv sha1 (fuel + 2) buf count s = .ok (-1, buf', s') := by
  by_cases h6 : count < 6
  · exact ⟨buf, s, by rw [recv, if_pos h6]⟩
  · obtain ⟨k, rfl⟩ : ∃ k, n = k + 6 := ⟨n - 6, by omega⟩
    obtain ⟨s₁, hs₁, h₁⟩ := h.aval sha1
    obtain ⟨s₂, hs₂, h₂⟩ := Draining.recvHelper sha1 0 6 6 fuel k buf h₁ (by omega) rfl
    have hsize := drained_size t.fifoOutdata hn buf
    refine ⟨buf.store 0 (drain t.fifoOutdata (k + 6) 6), s₂, ?_⟩
    rw [recv, if_neg h6, hs₁]
    simp only [show 0 < k + 6 by omega, decide_true, Bool.true_eq_false, if_false, hs₂,
      Nat.lt_irrefl, hsize, if_pos hc]

theorem recv_empty (rsp : Mem) (count : Int) (h : Sending buf k s₀ s) :
    ∃ r s', recv sha1 fuel rsp count s = .ok (r, rsp, s') ∧ r ≠ 0 := by
  by_cases h6 : count < 6
  · exact ⟨-1, s, by rw [recv, if_pos h6], by decide⟩
  · refine ⟨-2, { s with dataout := s.stsByte }, ?_, by decide⟩
    rw [recv, if_neg h6, isDataAval, read8_sts sha1 s h.sts]
    simp only [sts_aval s h.not_working, h.out, Nat.lt_irrefl, decide_false, if_true]

end
end Vboot.Tpm
