import Vboot.Tpm.Outcome

/-! The driver of CBMC/tpm-fw.c with a record of the commands that it makes the TPM
run and of the bytes of the request that it looks at. Without the record it is the
driver itself. -/
namespace Vboot.Tpm
open Vboot.Lib

/-- The TPM and what was recorded so far: for each GO the input that the FIFO held and the
size of the response, and the offsets of the request bytes that were read. -/
structure Watched where
  tpm : State
  commands : List (List UInt8 × Nat)
  bytes : List Nat

namespace Watched

section
variable (sha1 : List UInt8 → Digest)

def read8 (addr : UInt32) (w : Watched) : UInt32 × Watched :=
  ((Tpm.read8 sha1 addr w.tpm).1, { w with tpm := (Tpm.read8 sha1 addr w.tpm).2 })

def write8 (data : UInt8) (addr : UInt32) (w : Watched) : Watched where
  tpm := Tpm.write8 sha1 data addr w.tpm
  commands :=
    if addr = stsAddr ∧ data.toUInt32 = stsGo then
      w.commands ++ [(w.tpm.fifoIndata.load 0 w.tpm.fifoInAmt,
        (Tpm.write8 sha1 data addr w.tpm).fifoOutAmt)]
    else w.commands
  bytes := w.bytes

def writeByte (buf : Mem) (i : Nat) (w : Watched) : Watched :=
  write8 sha1 (buf i) fifoAddr { w with bytes := w.bytes ++ [i] }

def isDataAval (w : Watched) : Bool × Watched :=
  let (status, w) := w.read8 sha1 stsAddr
  (status &&& (stsDataAvail ||| stsValid) == (stsDataAvail ||| stsValid), w)

def waitValid : Nat → Watched → Except Halt (UInt32 × Watched)
  | 0, _ => .error .fuel
  | fuel + 1, w =>
    let (status, w) := w.read8 sha1 stsAddr
    if status &&& stsValid = 0 then waitValid fuel w else .ok (status, w)

def writeBurst (buf : Mem) (last : Nat) : Nat → Nat → Watched → Nat × Watched
  | 0, count, w => (count, w)
  | burstcnt + 1, count, w =>
    if count < last then writeBurst buf last burstcnt (count + 1) (w.writeByte sha1 buf count)
    else (count, w)

def sendLoop (buf : Mem) (last : Nat) : Nat → Nat → Watched → Except Halt (Option Nat × Watched)
  | 0, _, _ => .error .fuel
  | fuel + 1, count, w =>
    if count < last then
      if readBurstCount = 0 then sendLoop buf last fuel count w
      else
        let (count, w) := writeBurst sha1 buf last readBurstCount count w
        match waitValid sha1 fuel w with
        | .error h => .error h
        | .ok (status, w) =>
          if status &&& stsDataExpect = 0 then .ok (none, w) else sendLoop buf last fuel count w
    else .ok (some count, w)

def send (fuel : Nat) (buf : Mem) (len : UInt32) (w : Watched) : Except Halt (UInt32 × Watched) :=
  let w := w.write8 sha1 0x40 stsAddr
  match sendLoop sha1 buf (len - 1).toNat fuel 0 w with
  | .error h => .error h
  | .ok (none, w) => .ok (0xffffffff, w)
  | .ok (some count, w) =>
    let w := w.writeByte sha1 buf count
    match waitValid sha1 fuel w with
    | .error h => .error h
    | .ok (status, w) =>
      if status &&& stsDataExpect ≠ 0 then .ok (0xffffffff, w)
      else if len.toNat ≠ w.tpm.fifoInAmt ∨ w.tpm.fifoInAmt ≠ w.tpm.fifoInCmdsize then .error .assert
      else .ok (len, w.write8 sha1 0x20 stsAddr)

def readBurst (off : Nat) (count : Int) : Nat → Nat → Mem → Watched → Nat × Nat × Mem × Watched
  | 0, size, buf, w => (0, size, buf, w)
  | burstcnt + 1, size, buf, w =>
    if (size : Int) < count then
      let (v, w) := w.read8 sha1 fifoAddr
      readBurst off count burstcnt (size + 1) (Function.update buf (off + size) v.toUInt8) w
    else (burstcnt + 1, size, buf, w)

def recvHelper (off : Nat) (count : Int) :
    Nat → Nat → Nat → Mem → Watched → Except Halt (Nat × Mem × Watched)
  | 0, _, _, _, _ => .error .fuel
  | fuel + 1, burstcnt, size, buf, w =>
    let (aval, w) := w.isDataAval sha1
    if aval ∧ (size : Int) < count then
      let burstcnt := if burstcnt = 0 then readBurstCount else burstcnt
      if burstcnt = 0 then recvHelper off count fuel burstcnt size buf w
      else
        let (burstcnt, size, buf, w) := readBurst sha1 off count burstcnt size buf w
        recvHelper off count fuel burstcnt size buf w
    else .ok (size, buf, w)

def recv (fuel : Nat) (buf : Mem) (count : Int) (w : Watched) : Except Halt (Int × Mem × Watched) :=
  if count < 6 then .ok (-1, buf, w)
  else
    let (aval, w) := w.isDataAval sha1
    if aval = false then .ok (-2, buf, w)
    else match recvHelper sha1 0 6 fuel 0 0 buf w with
    | .error h => .error h
    | .ok (size, buf, w) =>
      if size < 6 then .ok (-1, buf, w)
      else
        let commandSize := (buf 5).toNat
        if count < commandSize then .ok (-1, buf, w)
        else match recvHelper sha1 6 ((commandSize : Int) - 6 - 1) fuel 0 0 buf w with
        | .error h => .error h
        | .ok (n, buf, w) =>
          let size := size + n
          if (size : Int) < (commandSize : Int) - 1 then .ok (-1, buf, w)
          else
            let (aval, w) := w.isDataAval sha1
            if aval = false then .ok (-1, buf, w)
            else match recvHelper sha1 size 1 fuel 0 0 buf w with
            | .error h => .error h
            | .ok (n, buf, w) =>
              if size + n ≠ commandSize then .ok (-1, buf, w)
              else
                let (aval, w) := w.isDataAval sha1
                if aval then .ok (-1, buf, w)
                else .ok (0, buf, w.write8 sha1 0x40 stsAddr)

def vbExTpmSendReceive (fuel : Nat) (request : Mem) (requestLength : UInt32)
    (response : Mem) (responseLength : Int) (w : Watched) : Except Halt (UInt32 × Mem × Watched) :=
  match send sha1 fuel request requestLength w with
  | .error h => .error h
  | .ok (ret, w) =>
    if ret ≠ requestLength then .ok (0xffffffff, response, w)
    else match recv sha1 fuel response responseLength w with
    | .error h => .error h
    | .ok (ret, response, w) => .ok (if ret ≠ 0 then 0xffffffff else 0, response, w)
variable (fuel : Nat) (buf : Mem) (w : Watched)

theorem commands_writeByte (i : Nat) (w : Watched) : (w.writeByte sha1 buf i).commands = w.commands := by
  have hne : fifoAddr ≠ stsAddr := by decide
  simp [writeByte, write8, hne]

theorem commands_ready : (w.write8 sha1 0x40 stsAddr).commands = w.commands := by
  simp [write8, stsGo]

theorem commands_go : (w.write8 sha1 0x20 stsAddr).commands =
    w.commands ++ [(w.tpm.fifoIndata.load 0 w.tpm.fifoInAmt,
      (Tpm.write8 sha1 0x20 stsAddr w.tpm).fifoOutAmt)] := by
  simp [write8, stsGo]

/-! Forgetting the record. -/

theorem waitValid_tpm :
    (waitValid sha1 fuel w).map (Prod.map id tpm) = Tpm.waitValid sha1 fuel w.tpm := by
  induction fuel generalizing w with
  | zero => rfl
  | succ fuel ih =>
    rw [waitValid, Tpm.waitValid]
    dsimp only [read8]
    split_ifs
    · exact ih _
    · rfl

theorem writeBurst_tpm (last burstcnt count : Nat) (w : Watched) :
    Prod.map id tpm (writeBurst sha1 buf last burstcnt count w) =
      Tpm.writeBurst sha1 buf last burstcnt count w.tpm := by
  induction burstcnt generalizing count w with
  | zero => rfl
  | succ burstcnt ih =>
    rw [writeBurst, Tpm.writeBurst]
    split_ifs
    · exact ih _ _
    · rfl

theorem sendLoop_tpm (last fuel count : Nat) (w : Watched) :
    (sendLoop sha1 buf last fuel count w).map (Prod.map id tpm) =
      Tpm.sendLoop sha1 buf last fuel count w.tpm := by
  induction fuel generalizing count w with
  | zero => rfl
  | succ fuel ih =>
    rw [sendLoop, Tpm.sendLoop]
    split_ifs
    · exact ih _ _
    · rw [← writeBurst_tpm]
      dsimp only [Prod.map, id]
      rw [← waitValid_tpm]
      cases waitValid sha1 fuel (writeBurst sha1 buf last readBurstCount count w).2 with
      | error h => rfl
      | ok r =>
        dsimp only [Except.map, Prod.map, id]
        split_ifs
        · rfl
        · exact ih _ _
    · rfl

theorem send_tpm (len : UInt32) (w : Watched) :
    (send sha1 fuel buf len w).map (Prod.map id tpm) = Tpm.send sha1 fuel buf len w.tpm := by
  have hloop := sendLoop_tpm sha1 buf (len - 1).toNat fuel 0 (w.write8 sha1 0x40 stsAddr)
  rw [send, Tpm.send]
  dsimp only
  rw [show Tpm.write8 sha1 0x40 stsAddr w.tpm = (w.write8 sha1 0x40 stsAddr).tpm from rfl, ← hloop]
  cases sendLoop sha1 buf (len - 1).toNat fuel 0 (w.write8 sha1 0x40 stsAddr) with
  | error h => rfl
  | ok r =>
    obtain ⟨count, w'⟩ := r
    cases count with
    | none => rfl
    | some count =>
      dsimp only [Except.map, Prod.map, id]
      have hwait := waitValid_tpm sha1 fuel (w'.writeByte sha1 buf count)
      rw [show Tpm.write8 sha1 (buf count) fifoAddr w'.tpm = (w'.writeByte sha1 buf count).tpm from rfl,
        ← hwait]
      cases waitValid sha1 fuel (w'.writeByte sha1 buf count) with
      | error h => rfl
      | ok r =>
        dsimp only [Except.map, Prod.map, id]
        split_ifs <;> rfl

theorem readBurst_tpm (off : Nat) (count : Int) (burstcnt size : Nat) (buf : Mem) (w : Watched) :
    Prod.map id (Prod.map id (Prod.map id tpm)) (readBurst sha1 off count burstcnt size buf w) =
      Tpm.readBurst sha1 off count burstcnt size buf w.tpm := by
  induction burstcnt generalizing size buf w with
  | zero => rfl
  | succ burstcnt ih =>
    rw [readBurst, Tpm.readBurst]
    split_ifs
    · exact ih _ _ _
    · rfl

theorem recvHelper_tpm (off : Nat) (count : Int) (fuel burstcnt size : Nat) (buf : Mem) (w : Watched) :
    (recvHelper sha1 off count fuel burstcnt size buf w).map (Prod.map id (Prod.map id tpm)) =
      Tpm.recvHelper sha1 off count fuel burstcnt size buf w.tpm := by
  induction fuel generalizing burstcnt size buf w with
  | zero => rfl
  | succ fuel ih =>
    have haval : Tpm.isDataAval sha1 w.tpm = Prod.map id tpm (w.isDataAval sha1) := rfl
    rw [recvHelper, Tpm.recvHelper, haval]
    dsimp only [Prod.map, id]
    by_cases hmore : (w.isDataAval sha1).1 = true ∧ (size : Int) < count
    · rw [if_pos hmore, if_pos hmore]
      generalize (if burstcnt = 0 then readBurstCount else burstcnt) = b
      by_cases hb : b = 0
      · rw [if_pos hb, if_pos hb]
        exact ih _ _ _ _
      · rw [if_neg hb, if_neg hb, ← readBurst_tpm]
        exact ih _ _ _ _
    · rw [if_neg hmore, if_neg hmore]
      rfl

theorem recv_tpm (count : Int) (w : Watched) :
    (recv sha1 fuel buf count w).map (Prod.map id (Prod.map id tpm)) =
      Tpm.recv sha1 fuel buf count w.tpm := by
  have haval (w : Watched) : Tpm.isDataAval sha1 w.tpm = Prod.map id tpm (w.isDataAval sha1) := rfl
  rw [recv, Tpm.recv]
  simp only [haval, Prod.map, id, ← recvHelper_tpm]
  split_ifs
  · rfl
  · rfl
  · cases recvHelper sha1 0 6 fuel 0 0 buf (w.isDataAval sha1).2 with
    | error h => rfl
    | ok r =>
      obtain ⟨size, buf, w⟩ := r
      dsimp only [Except.map, Prod.map, id]
      split_ifs
      · rfl
      · rfl
      · simp only [← recvHelper_tpm]
        cases recvHelper sha1 6 (((buf 5).toNat : Int) - 6 - 1) fuel 0 0 buf w with
        | error h => rfl
        | ok r =>
          obtain ⟨n, buf', w⟩ := r
          dsimp only [Except.map, Prod.map, id]
          simp only [haval, Prod.map, id, ← recvHelper_tpm]
          split_ifs
          · rfl
          · rfl
          · cases recvHelper sha1 (size + n) 1 fuel 0 0 buf' (w.isDataAval sha1).2 with
            | error h => rfl
            | ok r =>
              dsimp only [Except.map, Prod.map, id]
              simp only [haval, Prod.map, id]
              split_ifs <;> rfl

theorem vbExTpmSendReceive_tpm (request : Mem) (len : UInt32) (response : Mem) (maxLength : Int)
    (w : Watched) :
    (vbExTpmSendReceive sha1 fuel request len response maxLength w).map
        (Prod.map id (Prod.map id tpm)) =
      Tpm.vbExTpmSendReceive sha1 fuel request len response maxLength w.tpm := by
  rw [vbExTpmSendReceive, Tpm.vbExTpmSendReceive, ← send_tpm]
  cases send sha1 fuel request len w with
  | error h => rfl
  | ok r =>
    dsimp only [Except.map, Prod.map, id]
    split_ifs
    · rfl
    · rw [← recv_tpm]
      cases recv sha1 fuel response maxLength r.2 with
      | error h => rfl
      | ok r => rfl

/-! What every register access of a loop keeps, the loop keeps. -/

section
variable {P : Watched → Prop} (hread : ∀ addr w, P w → P (w.read8 sha1 addr).2)
include hread

variable {w : Watched}

theorem waitValid_keeps {fuel : Nat} {r : UInt32 × Watched} (h : P w)
    (hok : waitValid sha1 fuel w = .ok r) : P r.2 := by
  induction fuel generalizing w with
  | zero => cases hok
  | succ fuel ih =>
    rw [waitValid] at hok
    dsimp only at hok
    split_ifs at hok
    · exact ih (hread _ _ h) hok
    · cases hok
      exact hread _ _ h

theorem readBurst_keeps (off : Nat) (count : Int) (burstcnt size : Nat) (buf : Mem)
    (h : P w) : P (readBurst sha1 off count burstcnt size buf w).2.2.2 := by
  induction burstcnt generalizing size buf w with
  | zero => exact h
  | succ burstcnt ih =>
    rw [readBurst]
    split_ifs
    · exact ih _ _ (hread _ _ h)
    · exact h

theorem recvHelper_keeps {off : Nat} {count : Int} {fuel burstcnt size : Nat} {buf : Mem}
    {r : Nat × Mem × Watched} (h : P w)
    (hok : recvHelper sha1 off count fuel burstcnt size buf w = .ok r) : P r.2.2 := by
  induction fuel generalizing burstcnt size buf w with
  | zero => cases hok
  | succ fuel ih =>
    have haval : P (w.isDataAval sha1).2 := hread stsAddr w h
    rw [recvHelper] at hok
    dsimp only at hok
    by_cases hmore : (w.isDataAval sha1).1 = true ∧ (size : Int) < count
    · rw [if_pos hmore] at hok
      generalize (if burstcnt = 0 then readBurstCount else burstcnt) = b at hok
      by_cases hb : b = 0
      · rw [if_pos hb] at hok
        exact ih haval hok
      · rw [if_neg hb] at hok
        exact ih (readBurst_keeps sha1 hread off count b size buf haval) hok
    · rw [if_neg hmore] at hok
      cases hok
      exact haval

theorem recv_keeps (hready : ∀ w, P w → P (w.write8 sha1 0x40 stsAddr)) {fuel : Nat} {buf : Mem}
    {count : Int} {r : Int × Mem × Watched} (h : P w)
    (hok : recv sha1 fuel buf count w = .ok r) : P r.2.2 := by
  have haval (w : Watched) (h : P w) : P (w.isDataAval sha1).2 := hread stsAddr w h
  rw [recv] at hok
  dsimp only at hok
  split_ifs at hok with h6 h0
  · cases hok
    exact h
  · cases hok
    exact haval w h
  · cases h1 : recvHelper sha1 0 6 fuel 0 0 buf (w.isDataAval sha1).2 with
    | error e =>
      rw [h1] at hok
      cases hok
    | ok a =>
      have ha := recvHelper_keeps sha1 hread (haval w h) h1
      rw [h1] at hok
      dsimp only at hok
      split_ifs at hok with h2 h3
      · cases hok
        exact ha
      · cases hok
        exact ha
      · cases h4 : recvHelper sha1 6 (((a.2.1 5).toNat : Int) - 6 - 1) fuel 0 0 a.2.1 a.2.2 with
        | error e =>
          rw [h4] at hok
          cases hok
        | ok b =>
          have hb := recvHelper_keeps sha1 hread ha h4
          rw [h4] at hok
          dsimp only at hok
          split_ifs at hok with h5 h6
          · cases hok
            exact hb
          · cases hok
            exact haval _ hb
          · cases h7 : recvHelper sha1 (a.1 + b.1) 1 fuel 0 0 b.2.1 (b.2.2.isDataAval sha1).2 with
            | error e =>
              rw [h7] at hok
              cases hok
            | ok c =>
              have hc := recvHelper_keeps sha1 hread (haval _ hb) h7
              rw [h7] at hok
              dsimp only at hok
              split_ifs at hok with h8 h9
              · cases hok
                exact hc
              · cases hok
                exact haval _ hc
              · cases hok
                exact hready _ (haval _ hc)

end

/-! What each access keeps of the record after n bytes holds when the bytes are sent. -/

section
variable {P : Nat → Watched → Prop} {buf : Mem} {last : Nat}
  (hbyte : ∀ n ≤ last, ∀ w, P n w → P (n + 1) (w.writeByte sha1 buf n))
include hbyte

theorem writeBurst_keeps (burstcnt : Nat) {count : Nat} {w : Watched} (h : P count w) (hle : count ≤ last) :
    count ≤ (writeBurst sha1 buf last burstcnt count w).1 ∧
    (writeBurst sha1 buf last burstcnt count w).1 ≤ last ∧
    P (writeBurst sha1 buf last burstcnt count w).1 (writeBurst sha1 buf last burstcnt count w).2 := by
  induction burstcnt generalizing count w with
  | zero => exact ⟨Nat.le_refl _, hle, h⟩
  | succ burstcnt ih =>
    rw [writeBurst]
    split_ifs with hl
    · obtain ⟨h1, h2⟩ := ih (hbyte count hle w h) hl
      exact ⟨Nat.le_of_succ_le h1, h2⟩
    · exact ⟨Nat.le_refl _, hle, h⟩

variable (hread : ∀ n addr w, P n w → P n (w.read8 sha1 addr).2)
include hread

/-- The loop ends either because the TPM stops expecting data or at the last byte. -/
theorem sendLoop_keeps {fuel count : Nat} {w : Watched} {r : Option Nat × Watched} (h : P count w)
    (hle : count ≤ last) (hok : sendLoop sha1 buf last fuel count w = .ok r) :
    (r.1 = none ∧ ∃ n > 0, P n r.2) ∨ (r.1 = some last ∧ P last r.2) := by
  induction fuel generalizing count w with
  | zero => cases hok
  | succ fuel ih =>
    rw [sendLoop] at hok
    split_ifs at hok with hl hb
    · exact ih h hle hok
    · obtain ⟨hmore, hle, hburst⟩ := writeBurst_keeps sha1 hbyte 255 (hbyte count hle w h) hl
      rw [readBurstCount, writeBurst, if_pos hl] at hok
      generalize writeBurst sha1 buf last 255 (count + 1) (w.writeByte sha1 buf count) = b at hmore hle hburst hok
      dsimp only at hok
      cases hw : waitValid sha1 fuel b.2 with
      | error e =>
        rw [hw] at hok
        cases hok
      | ok a =>
        have ha := waitValid_keeps sha1 (hread b.1) hburst hw
        rw [hw] at hok
        dsimp only at hok
        split_ifs at hok
        · cases hok
          exact .inl ⟨rfl, b.1, by omega, ha⟩
        · exact ih ha hle hok
    · cases hok
      obtain rfl : count = last := by omega
      exact .inr ⟨rfl, h⟩

end

theorem send_cases {P : Nat → Watched → Prop} {fuel : Nat} {buf : Mem} {len : UInt32} {w : Watched}
    {r : UInt32 × Watched} (hread : ∀ n addr w, P n w → P n (w.read8 sha1 addr).2)
    (hbyte : ∀ n ≤ (len - 1).toNat, ∀ w, P n w → P (n + 1) (w.writeByte sha1 buf n))
    (h : P 0 (w.write8 sha1 0x40 stsAddr)) (hok : send sha1 fuel buf len w = .ok r) :
    ∃ n > 0, (r.1 = 0xffffffff ∧ P n r.2) ∨
    (r.1 = len ∧ ∃ u, P n u ∧ u.tpm.fifoInAmt = len.toNat ∧ r.2 = u.write8 sha1 0x20 stsAddr) := by
  rw [send] at hok
  dsimp only at hok
  cases hl : sendLoop sha1 buf (len - 1).toNat fuel 0 (w.write8 sha1 0x40 stsAddr) with
  | error e =>
    rw [hl] at hok
    cases hok
  | ok a =>
    have ha := sendLoop_keeps sha1 hbyte hread h (Nat.zero_le _) hl
    obtain ⟨count, u⟩ := a
    rw [hl] at hok
    rcases ha with ⟨rfl, n, hn, ha⟩ | ⟨rfl, ha⟩
    · cases hok
      exact ⟨n, hn, .inl ⟨rfl, ha⟩⟩
    · dsimp only at hok
      cases hw : waitValid sha1 fuel (u.writeByte sha1 buf (len - 1).toNat) with
      | error e =>
        rw [hw] at hok
        cases hok
      | ok b =>
        have hb := waitValid_keeps sha1 (hread _) (hbyte _ (Nat.le_refl _) u ha) hw
        rw [hw] at hok
        dsimp only at hok
        split_ifs at hok with h1 h2
        · cases hok
          exact ⟨_, Nat.succ_pos _, .inl ⟨rfl, hb⟩⟩
        · cases hok
          exact ⟨_, Nat.succ_pos _, .inr ⟨rfl, b.2, hb, by omega, rfl⟩⟩

end
end Watched
end Vboot.Tpm
