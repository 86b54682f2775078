import Vboot.Tpm.Commands
import Vboot.Tpm.Watched

/-! Which bytes of a request the driver reads, when its assertions hold, and which
command the TPM runs on them. -/
namespace Vboot.Tpm
open Vboot.Lib

section
variable (sha1 : List UInt8 → Digest)

/-- On a buffer of length len, send returns, so that neither of its assertions fails, and it
reads only bytes of the buffer. -/
def SendSafe (buf : Mem) (len : UInt32) (s : State) : Prop :=
  ∃ r, Returns (fun fuel => Watched.send sha1 fuel buf len ⟨s, [], []⟩) r ∧
    ∀ i ∈ r.2.bytes, i < len.toNat

variable {fuel : Nat} {buf response request : Mem} {len : UInt32} {s : State} {maxLength : Int}
  {r : UInt32 × Mem × Watched}

theorem send_bytes {r : UInt32 × Watched} (hok : Watched.send sha1 fuel buf len ⟨s, [], []⟩ = .ok r) :
    (∀ i ∈ r.2.bytes, i ≤ (len - 1).toNat) ∧ 0 ∈ r.2.bytes := by
  have hbyte (n : Nat) (hn : n ≤ (len - 1).toNat) (w : Watched)
      (h : (∀ i ∈ w.bytes, i ≤ (len - 1).toNat) ∧ (0 < n → 0 ∈ w.bytes)) :
      (∀ i ∈ (w.writeByte sha1 buf n).bytes, i ≤ (len - 1).toNat) ∧
        (0 < n + 1 → 0 ∈ (w.writeByte sha1 buf n).bytes) := by
    constructor
    · intro i hi
      cases List.mem_append.mp hi with
      | inl hw => exact h.1 i hw
      | inr hi' => exact List.mem_singleton.mp hi' ▸ hn
    · intro _
      cases n with
      | zero => exact List.mem_append_right _ (List.mem_singleton.mpr rfl)
      | succ n => exact List.mem_append_left _ (h.2 n.succ_pos)
  obtain ⟨n, hn, ⟨-, h⟩ | ⟨-, u, h, -, hr⟩⟩ := Watched.send_cases sha1 (fun _ _ _ h => h) hbyte
    ⟨by simp [Watched.write8], fun h => absurd h (Nat.lt_irrefl 0)⟩ hok
  · exact ⟨h.1, h.2 hn⟩
  · rw [hr]
    exact ⟨h.1, h.2 hn⟩

theorem send_returns (buf : Mem) (len : UInt32) (s : State)
    (h : ¬ misjudged buf s.fifoInCmdsize len.toNat) :
    ∃ r, Returns (fun fuel => Watched.send sha1 fuel buf len ⟨s, [], []⟩) r := by
  have hret : ∃ r, send sha1 (2 ^ 32 + 1) buf len s = .ok r := by
    rcases send_spec sha1 (2 ^ 32 + 1) buf len s (by omega) with
      ⟨-, u, -, -, hs⟩ | ⟨-, ⟨hm, -⟩ | ⟨-, k, u, -, hs⟩⟩
    · exact ⟨_, hs⟩
    · exact absurd hm h
    · exact ⟨_, hs⟩
  obtain ⟨r, hr⟩ := hret
  obtain ⟨a, ha, -⟩ := ok_of_map ((Watched.send_tpm sha1 (2 ^ 32 + 1) buf len ⟨s, [], []⟩).trans hr)
  exact ⟨a, 2 ^ 32 + 1, ha⟩

theorem sendSafe_of (hlen : 1 ≤ len.toNat) (h : ¬ misjudged buf s.fifoInCmdsize len.toNat) :
    SendSafe sha1 buf len s := by
  obtain ⟨r, fuel, hr⟩ := send_returns sha1 buf len s h
  refine ⟨r, ⟨fuel, hr⟩, fun i hi => ?_⟩
  have hle := (send_bytes sha1 hr).1 i hi
  have hlast := toNat_sub_one len
  have hlt := len.toNat_lt
  omega

theorem not_sendSafe_zero (buf : Mem) (s : State) : ¬ SendSafe sha1 buf 0 s := by
  rintro ⟨r, ⟨fuel, hr⟩, hb⟩
  exact absurd (hb 0 (send_bytes sha1 hr).2) (by decide)

theorem not_sendSafe_misjudged (h : misjudged buf s.fifoInCmdsize len.toNat) :
    ¬ SendSafe sha1 buf len s := by
  rintro ⟨r, ⟨fuel, hr⟩, -⟩
  have hsend := Watched.send_tpm sha1 fuel buf len ⟨s, [], []⟩
  dsimp only at hr
  rw [hr] at hsend
  obtain ⟨m, hm, he⟩ := Returns.of_le ⟨fuel, hsend.symm⟩ (send_stable sha1 buf len s) (2 ^ 32 + 1)
  rcases send_spec sha1 m buf len s (by omega) with ⟨hd, -⟩ | ⟨-, ⟨-, ha⟩ | ⟨hn, -⟩⟩
  · exact delivered_not_misjudged hd h
  · rw [ha] at he
    cases he
  · exact hn h

/-- The driver's send is safe exactly on the nonempty requests that are not misjudged. -/
theorem send_safe_iff (s₀ : State) (as : List Access) (buf : Mem) (len : UInt32) :
    SendSafe sha1 buf len (run (access sha1) (tpmInit s₀) as) ↔
      1 ≤ len.toNat ∧
      ¬ misjudged buf (run (access sha1) (tpmInit s₀) as).fifoInCmdsize len.toNat := by
  constructor
  · intro h
    constructor
    · by_contra h0
      obtain rfl : len = 0 := UInt32.toNat_inj.mp (by simpa using h0)
      exact not_sendSafe_zero sha1 buf _ h
    · intro hm
      exact not_sendSafe_misjudged sha1 hm h
  · rintro ⟨hlen, hm⟩
    exact sendSafe_of sha1 hlen hm

/-- Right after tpm_init, four bytes are taken for a command of size 0, and an empty buffer is
read. -/
theorem send_unsafe_fresh :
    let s := run (access fun _ => sha1Zeroes) (tpmInit freshTpm) []
    ¬ SendSafe (fun _ => sha1Zeroes) (Mem.ofList [0, 0xc1, 0, 0]) 4 s ∧
      ¬ SendSafe (fun _ => sha1Zeroes) (Mem.ofList []) 0 s :=
  ⟨not_sendSafe_misjudged _ (by decide), not_sendSafe_zero _ _ _⟩

theorem go_fifoIndata (s : State) : (write8 sha1 0x20 stsAddr s).fifoIndata = s.fifoIndata := by
  rw [write8_go, tpmRunCmd_eq]
  cases State.command { s with dataout := 0 } with
  | none => rfl
  | some c => cases c <;> rfl

theorem recv_commands {count : Int} {w : Watched} {a : Int × Mem × Watched}
    (hok : Watched.recv sha1 fuel response count w = .ok a) : a.2.2.commands = w.commands :=
  Watched.recv_keeps sha1 (P := fun v => v.commands = w.commands) (fun _ _ h => h)
    (fun v h => (Watched.commands_ready sha1 v).trans h) rfl hok

theorem vbExTpmSendReceive_commands
    (hok : Watched.vbExTpmSendReceive sha1 fuel request len response maxLength ⟨s, [], []⟩ = .ok r) :
    (∃ w, Watched.send sha1 fuel request len ⟨s, [], []⟩ = .ok (0xffffffff, w) ∧
      r.2.2.commands = []) ∨
    (∃ u : Watched, Watched.send sha1 fuel request len ⟨s, [], []⟩ =
        .ok (len, u.write8 sha1 0x20 stsAddr) ∧
      r.2.2.commands = [(u.tpm.fifoIndata.load 0 len.toNat,
        (write8 sha1 0x20 stsAddr u.tpm).fifoOutAmt)]) := by
  rw [Watched.vbExTpmSendReceive] at hok
  cases hs : Watched.send sha1 fuel request len ⟨s, [], []⟩ with
  | error e =>
    rw [hs] at hok
    cases hok
  | ok a =>
    have hrest : r.2.2.commands = a.2.commands := by
      rw [hs] at hok
      dsimp only at hok
      split_ifs at hok
      · cases hok
        rfl
      · cases hr : Watched.recv sha1 fuel response maxLength a.2 with
        | error e =>
          rw [hr] at hok
          cases hok
        | ok b =>
          rw [hr] at hok
          cases hok
          exact recv_commands sha1 hr
    rw [hrest]
    obtain ⟨-, -, ⟨h1, h2⟩ | ⟨h1, u, h2, h3, h4⟩⟩ := Watched.send_cases sha1
      (P := fun _ w => w.commands = []) (fun _ _ _ h => h)
      (fun n _ w h => (Watched.commands_writeByte sha1 request n w).trans h)
      (Watched.commands_ready sha1 _) hs
    · exact .inl ⟨a.2, by rw [← h1], h2⟩
    · refine .inr ⟨u, by rw [← h1, ← h4], ?_⟩
      rw [h4, Watched.commands_go, h2, h3]
      rfl

theorem delivered_commands (hf : 2 ^ 32 < fuel) (hd : delivered request s.fifoInCmdsize len.toNat)
    (hlen : len.toNat ≤ 125)
    (hok : Watched.vbExTpmSendReceive sha1 fuel request len response maxLength ⟨s, [], []⟩ = .ok r) :
    r.2.2.commands = [(request.load 0 len.toNat, (outcome sha1 s request len.toNat).size)] := by
  rcases send_spec sha1 fuel request len s hf with ⟨-, v, hv, ha, hs⟩ | ⟨hnd, -⟩
  · have htpm := Watched.send_tpm sha1 fuel request len ⟨s, [], []⟩
    rw [hs] at htpm
    rcases vbExTpmSendReceive_commands sha1 hok with ⟨w, hw, -⟩ | ⟨u, hu, hc⟩
    · rw [hw] at htpm
      have hlen' : (0xffffffff : UInt32) = len := congrArg Prod.fst (Except.ok.inj htpm)
      rw [← hlen'] at hlen
      exact absurd hlen (by decide)
    · rw [hu] at htpm
      have hgo : write8 sha1 0x20 stsAddr u.tpm = write8 sha1 0x20 stsAddr v :=
        congrArg Prod.snd (Except.ok.inj htpm)
      have hin : u.tpm.fifoIndata = v.fifoIndata := by
        rw [← go_fifoIndata sha1 u.tpm, hgo, go_fifoIndata]
      have hload : v.fifoIndata.load 0 len.toNat = request.load 0 len.toNat := by
        apply Mem.load_congr
        intro i hi
        rw [Nat.zero_add, hv.indata i (by omega), if_pos hi]
      rw [hc, hgo, hin, hload, (hv.go sha1 ha).2.amt]
  · exact absurd hd hnd

theorem not_delivered_commands (hf : 2 ^ 32 < fuel) (hd : ¬ delivered request s.fifoInCmdsize len.toNat)
    (hok : Watched.vbExTpmSendReceive sha1 fuel request len response maxLength ⟨s, [], []⟩ = .ok r)
    (hlen : len.toNat ≤ 125) : r.2.2.commands = [] := by
  have htpm := Watched.send_tpm sha1 fuel request len ⟨s, [], []⟩
  rcases vbExTpmSendReceive_commands sha1 hok with ⟨w, -, hc⟩ | ⟨u, hu, -⟩
  · exact hc
  · rw [hu] at htpm
    rcases send_spec sha1 fuel request len s hf with ⟨hd', -⟩ | ⟨-, ⟨-, hs⟩ | ⟨-, k, v, -, hs⟩⟩
    · exact absurd hd' hd
    · rw [hs] at htpm
      cases htpm
    · rw [hs] at htpm
      have hlen' : len = 0xffffffff := congrArg Prod.fst (Except.ok.inj htpm)
      rw [hlen'] at hlen
      exact absurd hlen (by decide)

theorem outcome_size_cases (s : State) (buf : Mem) (n : Nat) :
    (outcome sha1 s buf n).size = 9 ∨ (outcome sha1 s buf n).size = 30 := by
  rw [outcome]
  cases requestCommand buf n with
  | none => exact .inl rfl
  | some c => cases c <;> exact .inr rfl

theorem toInt_toInt32 {n : UInt32} (h : n.toNat < 2 ^ 31) : n.toInt32.toInt = n.toNat := by
  have hsmall : 2 * n.toBitVec.toNat < 2 ^ 32 := by
    rw [UInt32.toNat_toBitVec]
    omega
  exact BitVec.toInt_eq_toNat_of_lt hsmall

/-- One exchange from any reachable state. A request that announces its own length arrives
whole, the TPM runs it and nothing else, and the driver reports success if the response
fits; any other request runs no command. -/
theorem exchange_delivers (s₀ : State) (as : List Access) (request : Mem) (len : UInt32)
    (response : Mem) (responseLength : UInt32) (h10 : 10 ≤ len.toNat) (h125 : len.toNat ≤ 125)
    (hresponse : responseLength.toNat < 2 ^ 31) :
    ∃ r, Returns (fun fuel => Watched.vbExTpmSendReceive sha1 fuel request len response
        responseLength.toInt32.toInt ⟨run (access sha1) (tpmInit s₀) as, [], []⟩) r ∧
      if (request 5).toNat = len.toNat then
        ∃ n, (n = 9 ∨ n = 30) ∧ r.2.2.commands = [(request.load 0 len.toNat, n)] ∧
          (r.1 = 0 ↔ n ≤ responseLength.toNat) ∧ (r.1 = 0 → r.2.2.tpm.fifoOutAmt = 0)
      else r.1 ≠ 0 ∧ r.2.2.commands = [] := by
  rw [toInt_toInt32 hresponse]
  generalize run (access sha1) (tpmInit s₀) as = s
  have hd : delivered request s.fifoInCmdsize len.toNat ↔ (request 5).toNat = len.toNat := by
    unfold delivered
    omega
  have hspec := vbExTpmSendReceive_spec sha1 (2 ^ 32 + 1) request len response
    responseLength.toNat s (by omega)
  have hret : ∃ r, vbExTpmSendReceive sha1 (2 ^ 32 + 1) request len response responseLength.toNat s =
      .ok r ∧ (r.1 = 0 ↔ delivered request s.fifoInCmdsize len.toNat ∧
        (outcome sha1 s request len.toNat).size ≤ responseLength.toNat) ∧
      (r.1 = 0 → r.2.2.fifoOutAmt = 0) := by
    split_ifs at hspec with hc
    · obtain ⟨t, ht, -, hout⟩ := hspec
      exact ⟨_, ht, by simpa using ⟨hc.1, by exact_mod_cast hc.2⟩, fun _ => hout⟩
    · rcases hspec with ⟨hm, -⟩ | ⟨b, t, ht⟩
      · unfold misjudged at hm
        omega
      · have hne : (0xffffffff : UInt32) ≠ 0 := by decide
        refine ⟨_, ht, ⟨fun h => absurd h hne, fun h => absurd ?_ hc⟩, fun h => absurd h hne⟩
        exact ⟨h.1, by exact_mod_cast h.2⟩
  obtain ⟨r, hr, hzero, hout⟩ := hret
  obtain ⟨a, ha, rfl⟩ := ok_of_map ((Watched.vbExTpmSendReceive_tpm sha1 (2 ^ 32 + 1) request len
    response responseLength.toNat ⟨s, [], []⟩).trans hr)
  refine ⟨a, ⟨_, ha⟩, ?_⟩
  by_cases hb : (request 5).toNat = len.toNat
  · rw [if_pos hb]
    refine ⟨_, outcome_size_cases sha1 s request len.toNat,
      delivered_commands sha1 (by omega) (hd.mpr hb) h125 ha, ?_, hout⟩
    exact hzero.trans ⟨fun h => h.2, fun h => ⟨hd.mpr hb, h⟩⟩
  · rw [if_neg hb]
    exact ⟨fun h => hb (hd.mp (hzero.mp h).1),
      not_delivered_commands sha1 (by omega) (fun h => hb (hd.mp h)) ha h125⟩

/-- A PCR read sent to the fresh TPM. -/
theorem exchange_delivers_fresh :
    ∃ r, Returns (fun fuel => Watched.vbExTpmSendReceive (fun _ => sha1Zeroes) fuel tpmPcrReadCmd 14
        (fun _ => 0) (30 : UInt32).toInt32.toInt
        ⟨run (access fun _ => sha1Zeroes) (tpmInit freshTpm) [], [], []⟩) r ∧
      if (tpmPcrReadCmd 5).toNat = (14 : UInt32).toNat then
        ∃ n, (n = 9 ∨ n = 30) ∧ r.2.2.commands = [(tpmPcrReadCmd.load 0 (14 : UInt32).toNat, n)] ∧
          (r.1 = 0 ↔ n ≤ (30 : UInt32).toNat) ∧ (r.1 = 0 → r.2.2.tpm.fifoOutAmt = 0)
      else r.1 ≠ 0 ∧ r.2.2.commands = [] :=
  exchange_delivers (fun _ => sha1Zeroes) freshTpm [] tpmPcrReadCmd 14 (fun _ => 0) 30 (by decide)
    (by decide) (by decide)

end
end Vboot.Tpm
