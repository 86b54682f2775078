import Vboot.Tpm.Outcome

/-! Extend, PCR read and arbitrary commands as a caller of the command library sees
them, from every state that register traffic can reach. -/
namespace Vboot.Tpm
open Vboot.Lib

/-- The output buffer above the PCR holds zeroes outside the tag and the size, as
tpm_init left it. The return code of an accepted command is read from there. -/
def State.CleanHeader (s : State) : Prop :=
  ∀ x, 21 ≤ x → x ≠ 25 → x ≠ 29 → s.fifoOutdata x = 0

section
variable (sha1 : List UInt8 → Digest)

variable {s : State} {cmd : Mem} {n : Nat} {lo : UInt8} {i : UInt32}

theorem pcrResponse_clean (h : s.CleanHeader) (d : Digest) (x : Nat) (h21 : 21 ≤ x) (h25 : x ≠ 25)
    (h29 : x ≠ 29) : pcrResponse s.fifoOutdata d x = 0 := by
  rw [pcrResponse, if_neg (by omega), if_neg h25, if_neg h29]
  exact h x h21 h25 h29

theorem tpmRunCmd_clean (h : s.CleanHeader) : (tpmRunCmd sha1 s).CleanHeader := by
  intro x h21 h25 h29
  rw [tpmRunCmd_eq]
  cases s.command with
  | none =>
    change malformedResponse s.fifoOutdata x = 0
    rw [malformedResponse, Function.update_of_ne (by omega), Function.update_of_ne (by omega),
      Function.update_of_ne (by omega)]
    exact h x h21 h25 h29
  | some c =>
    cases c with
    | extend => exact pcrResponse_clean h _ x h21 h25 h29
    | read => exact pcrResponse_clean h _ x h21 h25 h29

theorem access_clean (a : Access) (h : s.CleanHeader) : (access sha1 s a).CleanHeader := by
  unfold access
  by_cases hr : a.cmd = RD
  · obtain ⟨d, n, he, -⟩ := regRead_eq a.addr { s with dataout := 0 }
    rw [hr, tpmUpdate_read, he]
    exact h
  · by_cases hw : a.cmd = WR
    · rw [hw, tpmUpdate_write]
      change (regWrite sha1 a.addr a.data { s with dataout := 0 }).CleanHeader
      unfold regWrite
      split_ifs
      · exact h
      · exact tpmRunCmd_clean sha1 h
      all_goals exact h
    · simp only [tpmUpdate, hr, hw, if_false]
      exact h

theorem run_clean (s : State) (as : List Access) :
    (run (access sha1) (tpmInit s) as).CleanHeader := by
  apply run_invariant
  · exact fun t a => access_clean sha1 a
  · exact fun x _ _ _ => rfl

/-- The response buffer after a response of the given outcome has been received. -/
def answer (o : Outcome) (response : Mem) : Mem := response.store 0 (drain o.out o.size o.size)

theorem answer_byte (o : Outcome) (response : Mem) (i : Nat) (h : i < o.size) :
    answer o response i = o.out (o.size - i) := by
  have hs := Mem.store_inside response 0 i (drain o.out o.size o.size) 0 (by simpa using h)
  rw [Nat.zero_add] at hs
  rw [answer, hs, getD_drain _ _ _ _ _ h]

theorem answer_stale (o : Outcome) (response : Mem) (i : Nat) (h : o.size ≤ i) :
    answer o response i = response i :=
  Mem.store_of_ge _ _ _ _ (by simpa using h)

/-- A rejected command is answered with nine bytes, so the last byte of its return
code is whatever the caller's buffer held. -/
theorem returnCode_rejected (s : State) (buf response : Mem) (n : Nat)
    (h : requestCommand buf n = none) :
    tpmReturnCode (answer (outcome sha1 s buf n) response) =
      be32 (s.fifoOutdata 3) (s.fifoOutdata 2) (s.fifoOutdata 1) (response 9) := by
  have ho : outcome sha1 s buf n = ⟨s.pcr, malformedResponse s.fifoOutdata, 9, false⟩ := by
    rw [outcome, h]
  rw [ho]
  change be32 (answer _ _ 6) (answer _ _ 7) (answer _ _ 8) (answer _ _ 9) = _
  rw [answer_byte _ _ 6 (by simp), answer_byte _ _ 7 (by simp), answer_byte _ _ 8 (by simp),
    answer_stale _ _ 9 le_rfl]
  rfl

theorem returnCode_accepted (hs : s.CleanHeader) (buf response : Mem) (n : Nat)
    (h : requestCommand buf n ≠ none) :
    tpmReturnCode (answer (outcome sha1 s buf n) response) = tpmSuccess := by
  obtain ⟨bank, d, ho⟩ : ∃ bank d,
      outcome sha1 s buf n = ⟨bank, pcrResponse s.fifoOutdata d, 30, true⟩ := by
    rw [outcome]
    cases hc : requestCommand buf n with
    | none => exact absurd hc h
    | some c => cases c <;> exact ⟨_, _, rfl⟩
  rw [ho]
  change be32 (answer _ _ 6) (answer _ _ 7) (answer _ _ 8) (answer _ _ 9) = _
  rw [answer_byte _ _ 6 (by simp), answer_byte _ _ 7 (by simp), answer_byte _ _ 8 (by simp),
    answer_byte _ _ 9 (by simp)]
  change be32 (pcrResponse s.fifoOutdata d 24) (pcrResponse s.fifoOutdata d 23)
    (pcrResponse s.fifoOutdata d 22) (pcrResponse s.fifoOutdata d 21) = _
  rw [pcrResponse_clean hs d 24 (by decide) (by decide) (by decide),
    pcrResponse_clean hs d 23 (by decide) (by decide) (by decide),
    pcrResponse_clean hs d 22 (by decide) (by decide) (by decide),
    pcrResponse_clean hs d 21 (by decide) (by decide) (by decide)]
  rfl

theorem load_answer (bank : Nat → Digest) (out : Mem) (d : Digest) (worked : Bool)
    (response : Mem) :
    (answer ⟨bank, pcrResponse out d, 30, worked⟩ response).load kTpmResponseHeaderLength
      kPcrDigestLength = d.toList := by
  apply List.ext_getElem (by simp [kPcrDigestLength])
  intro i h1 h2
  have hi : i < 20 := by simpa [kPcrDigestLength] using h1
  have hb := answer_byte ⟨bank, pcrResponse out d, 30, worked⟩ response (10 + i)
    (show 10 + i < 30 by omega)
  have hr : pcrResponse out d (30 - (10 + i)) = d.toList.getD i 0 := by
    rw [pcrResponse, if_pos (by omega), show 20 - (30 - (10 + i)) = i by omega]
  simp [Mem.load, kTpmResponseHeaderLength, hb, hr, hi]

variable (build : TlclBuild) (stack stack' out : Mem) (fuel : Nat)

/-- One exchange of the command library: the return code is that of the answer, or the
library or the driver fails. -/
theorem tlclSendReceiveNoRetry_spec (request response : Mem) (maxLength : Int) (s : State)
    (hf : 2 ^ 32 < fuel) :
    if delivered request s.fifoInCmdsize (tpmCommandSize request).toNat ∧
        (outcome sha1 s request (tpmCommandSize request).toNat).size ≤ maxLength then
      ∃ t, tlclSendReceiveNoRetry sha1 fuel request response maxLength s =
        .ok (tpmReturnCode (answer (outcome sha1 s request (tpmCommandSize request).toNat) response),
          answer (outcome sha1 s request (tpmCommandSize request).toNat) response, t) ∧
        Shows (outcome sha1 s request (tpmCommandSize request).toNat) t
    else
      tlclSendReceiveNoRetry sha1 fuel request response maxLength s = .error .assert ∨
      ∃ response' t, tlclSendReceiveNoRetry sha1 fuel request response maxLength s =
        .ok (0xffffffff, response', t) := by
  have hv := vbExTpmSendReceive_spec sha1 fuel request (tpmCommandSize request) response maxLength
    s hf
  split_ifs at hv ⊢ with hd
  · obtain ⟨t, ht, hshow, -⟩ := hv
    refine ⟨t, ?_, hshow⟩
    rw [tlclSendReceiveNoRetry, ht]
    rfl
  · cases hv with
    | inl he =>
      left
      rw [tlclSendReceiveNoRetry, he.2]
    | inr hr =>
      obtain ⟨response', t, ht⟩ := hr
      refine .inr ⟨response', t, ?_⟩
      rw [tlclSendReceiveNoRetry, ht]
      rfl

variable (request response : Mem)

theorem tlclSendReceive_accepted (maxLength : Int) (hs : s.CleanHeader)
    (hf : 2 ^ 32 < fuel) (hd : delivered request s.fifoInCmdsize (tpmCommandSize request).toNat)
    (hc : requestCommand request (tpmCommandSize request).toNat ≠ none)
    (hm : (outcome sha1 s request (tpmCommandSize request).toNat).size ≤ maxLength) :
    ∃ t, tlclSendReceive sha1 build stack fuel request response maxLength s =
      .ok (tpmSuccess,
        answer (outcome sha1 s request (tpmCommandSize request).toNat) response, t) ∧
      Shows (outcome sha1 s request (tpmCommandSize request).toNat) t := by
  have hv := tlclSendReceiveNoRetry_spec sha1 fuel request response maxLength s hf
  rw [if_pos ⟨hd, hm⟩, returnCode_accepted sha1 hs _ _ _ hc] at hv
  obtain ⟨t, ht, hshow⟩ := hv
  refine ⟨t, ?_, hshow⟩
  rw [tlclSendReceive, ht]
  simp only [show tpmSuccess ≠ tpmENeedsSelftest by decide,
    show tpmSuccess ≠ tpmEDoingSelftest by decide, or_self, and_false, if_false]

/-- A PCR command: its header, the index in four bytes, and further data. -/
structure PcrRequest (cmd : Mem) (n : Nat) (lo : UInt8) (i : UInt32) : Prop where
  header : ∀ j < 10, cmd j = Mem.ofList [0, 0xc1, 0, 0, 0, UInt8.ofNat n, 0, 0, 0, lo] j
  index : cmd 13 = i.toUInt8
  bound : 14 ≤ n ∧ n < 126

section
variable (h : PcrRequest cmd n lo i)
include h

theorem PcrRequest.commandSize : (tpmCommandSize cmd).toNat = n := by
  have hb := h.bound
  change (be32 (cmd 2) (cmd 3) (cmd 4) (cmd 5)).toNat = n
  rw [h.header 2 (by omega), h.header 3 (by omega), h.header 4 (by omega), h.header 5 (by omega),
    toNat_be32]
  simp [Mem.ofList]
  omega

theorem PcrRequest.delivered (c : Nat) : Tpm.delivered cmd c n := by
  have hb := h.bound
  refine .inl ⟨by omega, by omega, ?_⟩
  rw [h.header 5 (by omega)]
  simp [Mem.ofList]
  omega

theorem PcrRequest.pcr : requestPcr cmd n = i.toNat % 256 := by
  have hb := h.bound
  rw [requestPcr, requestByte, if_pos (by omega), h.index, UInt32.toNat_toUInt8]

theorem PcrRequest.ordinal (x : UInt8) :
    requestOrdinal cmd n x = (lo == x) := by
  have hb := h.bound
  have h6 (j : Nat) (hj : j < 10) : requestByte cmd n j =
      Mem.ofList [0, 0xc1, 0, 0, 0, UInt8.ofNat n, 0, 0, 0, lo] j := by
    rw [requestByte, if_pos (by omega), h.header j hj]
  rw [requestOrdinal, h6 6 (by omega), h6 7 (by omega), h6 8 (by omega), h6 9 (by omega)]
  simp [Mem.ofList]

omit h in
theorem PcrRequest.extend (h : PcrRequest cmd n 0x14 i) (hi : i.toNat % 256 ≤ 23) :
    requestCommand cmd n = some .extend := by
  rw [requestCommand, h.pcr, if_pos ⟨h.bound.2, hi⟩, h.ordinal]
  rfl

omit h in
theorem PcrRequest.read (h : PcrRequest cmd n 0x15 i) (hi : i.toNat % 256 ≤ 23) :
    requestCommand cmd n = some .read := by
  rw [requestCommand, h.pcr, if_pos ⟨h.bound.2, hi⟩, h.ordinal, h.ordinal]
  rfl

theorem PcrRequest.rejected (hi : 23 < i.toNat % 256) :
    requestCommand cmd n = none := by
  rw [requestCommand, h.pcr, if_neg (by omega)]

end

variable (i : UInt32)

theorem extendCmd_request (d : Digest) :
    PcrRequest ((tpmExtendCmd.store 10 (toTpmUint32 i)).store 14 d.toList) 34 0x14 i := by
  refine ⟨fun j hj => ?_, ?_, by decide⟩
  · rw [Mem.store_of_lt _ _ _ _ (by omega), Mem.store_of_lt _ _ _ _ hj]
    rfl
  · rw [Mem.store_of_lt _ _ _ _ (by omega)]
    exact Mem.store_inside _ 10 3 (toTpmUint32 i) 0 (by simp [toTpmUint32])

theorem extendCmd_digest (d : Digest) :
    requestDigest ((tpmExtendCmd.store 10 (toTpmUint32 i)).store 14 d.toList) 34 = d := by
  apply Vector.ext
  intro k hk
  have hs := Mem.store_inside (tpmExtendCmd.store 10 (toTpmUint32 i)) 14 k d.toList 0 (by simpa)
  simp only [requestDigest, requestByte, Vector.getElem_ofFn]
  rw [if_pos (by omega), hs]
  simp [hk]

theorem pcrReadCmd_request :
    PcrRequest (tpmPcrReadCmd.store 10 (toTpmUint32 i)) 14 0x15 i := by
  refine ⟨fun j hj => ?_, ?_, by decide⟩
  · rw [Mem.store_of_lt _ _ _ _ hj]
    rfl
  · exact Mem.store_inside _ 10 3 (toTpmUint32 i) 0 (by simp [toTpmUint32])

theorem tlclExtend_ok (hi : i.toNat % 256 ≤ 23) (d : Digest) (hs : s.CleanHeader)
    (fuel : Nat) (hf : 2 ^ 32 < fuel) :
    ∃ t, tlclExtend sha1 build stack stack' fuel i d out s = .ok (tpmSuccess,
        out.store 0 (sha1 ((s.pcr (i.toNat % 256)).toList ++ d.toList)).toList, t) ∧
      t.pcr = Function.update s.pcr (i.toNat % 256)
        (sha1 ((s.pcr (i.toNat % 256)).toList ++ d.toList)) ∧ t.cmdWorked = true := by
  have hr := extendCmd_request i d
  have hdig := extendCmd_digest i d
  set cmd := (tpmExtendCmd.store 10 (toTpmUint32 i)).store 14 d.toList with hcmd
  set new := sha1 ((s.pcr (i.toNat % 256)).toList ++ d.toList) with hnew
  have ho : outcome sha1 s cmd 34 =
      ⟨Function.update s.pcr (i.toNat % 256) new, pcrResponse s.fifoOutdata new, 30, true⟩ := by
    rw [outcome, hr.extend hi, hr.pcr, hdig]
  have ha := tlclSendReceive_accepted sha1 build stack' fuel cmd stack
    (kTpmResponseHeaderLength + kPcrDigestLength : Nat) hs hf
    (by rw [hr.commandSize]; exact hr.delivered _)
    (by rw [hr.commandSize, hr.extend hi]; simp)
    (by rw [hr.commandSize, ho]; exact Int.ofNat_le.mpr (show 30 ≤ kTpmResponseHeaderLength + kPcrDigestLength by decide))
  rw [hr.commandSize, ho] at ha
  obtain ⟨t, ht, hshow⟩ := ha
  refine ⟨t, ?_, hshow.bank, hshow.worked⟩
  simp only [tlclExtend, ← hcmd, ht, ne_eq, not_true_eq_false, if_false, load_answer]

theorem tlclPCRRead_ok (data : Mem) (i length : UInt32) (hi : i.toNat % 256 ≤ 23) (hl : 20 ≤ length.toNat)
    (hs : s.CleanHeader) (fuel : Nat) (hf : 2 ^ 32 < fuel) :
    ∃ t, tlclPCRRead sha1 build stack stack' fuel i data length s = .ok (tpmSuccess,
        data.store 0 (s.pcr (i.toNat % 256)).toList, t) ∧ t.pcr = s.pcr ∧ t.cmdWorked = true := by
  have hr := pcrReadCmd_request i
  set cmd := tpmPcrReadCmd.store 10 (toTpmUint32 i) with hcmd
  have ho : outcome sha1 s cmd 14 =
      ⟨s.pcr, pcrResponse s.fifoOutdata (s.pcr (i.toNat % 256)), 30, true⟩ := by
    rw [outcome, hr.read hi, hr.pcr]
  have ha := tlclSendReceive_accepted sha1 build stack' fuel cmd stack
    (tpmLargeEnoughCommandSize : Nat) hs hf
    (by rw [hr.commandSize]; exact hr.delivered _)
    (by rw [hr.commandSize, hr.read hi]; simp)
    (by rw [hr.commandSize, ho]; exact Int.ofNat_le.mpr (show 30 ≤ tpmLargeEnoughCommandSize by decide))
  rw [hr.commandSize, ho] at ha
  obtain ⟨t, ht, hshow⟩ := ha
  refine ⟨t, ?_, hshow.bank, hshow.worked⟩
  rw [tlclPCRRead, if_neg (by simpa [kPcrDigestLength] using hl)]
  simp only [← hcmd, ht, if_true, load_answer]

/-- From every reachable state an extend succeeds, returns the new value and changes
exactly its PCR, and a PCR read succeeds, returns the value and changes none. -/
theorem tlcl_extend_read (s₀ : State) (as : List Access) (build : TlclBuild)
    (stack stack' out : Mem) (i : UInt32) (hi : i.toNat ≤ 23) (d : Digest) (length : UInt32)
    (hl : 20 ≤ length.toNat) :
    let s := run (access sha1) (tpmInit s₀) as
    let new := sha1 ((s.pcr i.toNat).toList ++ d.toList)
    (∃ t, Returns (fun fuel => tlclExtend sha1 build stack stack' fuel i d out s)
        (tpmSuccess, out.store 0 new.toList, t) ∧
      t.pcr i.toNat = new ∧ ∀ j, j ≠ i.toNat → t.pcr j = s.pcr j) ∧
    ∃ t, Returns (fun fuel => tlclPCRRead sha1 build stack stack' fuel i out length s)
        (tpmSuccess, out.store 0 (s.pcr i.toNat).toList, t) ∧ ∀ j, t.pcr j = s.pcr j := by
  intro s new
  have hs : s.CleanHeader := run_clean sha1 s₀ as
  have hf : 2 ^ 32 < 2 ^ 32 + 1 := by omega
  have hmod : i.toNat % 256 = i.toNat := Nat.mod_eq_of_lt (by omega)
  constructor
  · obtain ⟨t, ht, hp, -⟩ := tlclExtend_ok sha1 build stack stack' out i (by omega) d hs _ hf
    rw [hmod] at ht hp
    refine ⟨t, ⟨_, ht⟩, ?_, fun j hj => ?_⟩
    · rw [hp, Function.update_self]
    · rw [hp, Function.update_of_ne hj]
  · obtain ⟨t, ht, hp, -⟩ := tlclPCRRead_ok sha1 build stack stack' out i length (by omega) hl hs _ hf
    rw [hmod] at ht
    exact ⟨t, ⟨_, ht⟩, fun j => by rw [hp]⟩

/-- The SHA-1 digest of forty zero bytes. -/
def sha1Zeroes : Digest :=
  #v[0xb8, 0x0d, 0xe5, 0xd1, 0x38, 0x75, 0x85, 0x41, 0xc5, 0xf0, 0x52, 0x65, 0xad, 0x14, 0x4a,
    0xb9, 0xfa, 0x86, 0xd1, 0xdb]

def freshTpm : State := tpmInit ⟨0, 0, 0, 0, .idle, 0, fun _ => 0, fun _ => 0, fun _ => 0, false⟩

/-- Zeroes extended into the highest PCR of a fresh TPM, while a command is half sent. -/
theorem tlcl_extend_read_zeroes :
    let s := run (access fun _ => sha1Zeroes) (tpmInit freshTpm)
      [⟨WR, stsAddr, 0x40⟩, ⟨WR, fifoAddr, 0xc1⟩]
    (23 : UInt32).toNat ≤ 23 ∧ 20 ≤ (20 : UInt32).toNat ∧
    ∃ t, Returns (fun fuel => tlclExtend (fun _ => sha1Zeroes) ⟨true, false⟩ (fun _ => 0xaa)
        (fun _ => 0xaa) fuel 23 (Vector.replicate 20 0) (fun _ => 0xaa) s)
        (tpmSuccess, Mem.store (fun _ => 0xaa) 0 sha1Zeroes.toList, t) ∧ t.pcr 23 = sha1Zeroes := by
  intro s
  refine ⟨by decide, by decide, ?_⟩
  obtain ⟨t, ht, hp, -⟩ := (tlcl_extend_read (fun _ => sha1Zeroes) freshTpm
    [⟨WR, stsAddr, 0x40⟩, ⟨WR, fifoAddr, 0xc1⟩] ⟨true, false⟩ (fun _ => 0xaa) (fun _ => 0xaa)
    (fun _ => 0xaa) 23 (by decide) (Vector.replicate 20 0) 20 (by decide)).1
  exact ⟨t, ht, hp⟩

theorem continueSelfTest_delivered (c : Nat) :
    delivered tpmContinueselftestCmd c (tpmCommandSize tpmContinueselftestCmd).toNat :=
  .inl (by decide)

theorem continueSelfTest_rejected :
    requestCommand tpmContinueselftestCmd (tpmCommandSize tpmContinueselftestCmd).toNat = none := by
  decide

theorem outcome_rejected (s : State) {buf : Mem} (h : requestCommand buf n = none) :
    outcome sha1 s buf n = ⟨s.pcr, malformedResponse s.fifoOutdata, 9, false⟩ := by
  rw [outcome, h]

theorem noRetry_rejected (maxLength : Int) (s : State) (hf : 2 ^ 32 < fuel)
    (hd : delivered request s.fifoInCmdsize (tpmCommandSize request).toNat)
    (hc : requestCommand request (tpmCommandSize request).toNat = none) (hm : 9 ≤ maxLength) :
    ∃ response' t, tlclSendReceiveNoRetry sha1 fuel request response maxLength s =
        .ok (be32 (s.fifoOutdata 3) (s.fifoOutdata 2) (s.fifoOutdata 1) (response 9),
          response', t) ∧
      t.fifoOutdata = malformedResponse s.fifoOutdata ∧ t.cmdWorked = false ∧ t.pcr = s.pcr := by
  have hv := tlclSendReceiveNoRetry_spec sha1 fuel request response maxLength s hf
  have hs : ((outcome sha1 s request (tpmCommandSize request).toNat).size : Int) ≤ maxLength := by
    rw [outcome_rejected sha1 s hc]
    exact hm
  rw [if_pos ⟨hd, hs⟩, returnCode_rejected sha1 s request response _ hc,
    outcome_rejected sha1 s hc] at hv
  obtain ⟨t, ht, hshow⟩ := hv
  exact ⟨_, t, ht, hshow.out, hshow.worked, hshow.bank⟩

theorem selfTest_code {a b c d : UInt8}
    (h : be32 a b c d = tpmENeedsSelftest ∨ be32 a b c d = tpmEDoingSelftest) : c = 8 := by
  cases h with
  | inl h => exact (be32_inj (h.trans (show tpmENeedsSelftest = be32 0 0 8 1 by decide))).2.2.1
  | inr h => exact (be32_inj (h.trans (show tpmEDoingSelftest = be32 0 0 8 2 by decide))).2.2.1

theorem be32_eq_zero {a b c d : UInt8} :
    be32 a b c d = tpmSuccess ↔ a = 0 ∧ b = 0 ∧ c = 0 ∧ d = 0 := by
  constructor
  · intro h
    exact be32_inj (h.trans (show tpmSuccess = be32 0 0 0 0 by decide))
  · rintro ⟨rfl, rfl, rfl, rfl⟩
    decide

/-- A rejected command has the return code that the old contents of the output buffer and
of the response buffer spell. A retry does not turn it into a success. -/
theorem tlclSendReceive_rejected (maxLength : Int) (s : State)
    (hf : 2 ^ 32 < fuel) (hd : delivered request s.fifoInCmdsize (tpmCommandSize request).toNat)
    (hc : requestCommand request (tpmCommandSize request).toNat = none) (hm : 9 ≤ maxLength) :
    ∃ code response' t, tlclSendReceive sha1 build stack fuel request response maxLength s =
        .ok (code, response', t) ∧ t.cmdWorked = false ∧ t.pcr = s.pcr ∧
      (code = tpmSuccess ↔ s.fifoOutdata 1 = 0 ∧ s.fifoOutdata 2 = 0 ∧ s.fifoOutdata 3 = 0 ∧
        response 9 = 0) := by
  obtain ⟨response', t, ht, hout, hw, hp⟩ := noRetry_rejected sha1 fuel request response maxLength s
    hf hd hc hm
  have hz := @be32_eq_zero (s.fifoOutdata 3) (s.fifoOutdata 2) (s.fifoOutdata 1) (response 9)
  set code := be32 (s.fifoOutdata 3) (s.fifoOutdata 2) (s.fifoOutdata 1) (response 9) with hcode
  by_cases hb : build.chromeosEnvironment = false ∧
      (code = tpmENeedsSelftest ∨ code = tpmEDoingSelftest)
  · have h8 : s.fifoOutdata 1 = 8 := selfTest_code hb.2
    obtain ⟨r, u, hu, -, huw, hup⟩ := noRetry_rejected sha1 fuel tpmContinueselftestCmd stack
      tpmLargeEnoughCommandSize t hf (continueSelfTest_delivered _) continueSelfTest_rejected
      (by decide)
    have h1 : t.fifoOutdata 1 = 8 := by
      rw [hout]
      exact h8
    have hne : be32 (t.fifoOutdata 3) (t.fifoOutdata 2) (t.fifoOutdata 1) (stack 9) ≠ tpmSuccess := by
      rw [ne_eq, be32_eq_zero, h1]
      simp
    refine ⟨be32 (t.fifoOutdata 3) (t.fifoOutdata 2) (t.fifoOutdata 1) (stack 9), response', u, ?_,
      huw, hup.trans hp, ?_⟩
    · rw [tlclSendReceive, ht]
      simp only [tlclContinueSelfTest, hu, if_pos hb, if_pos hne]
    · exact iff_of_false hne (by simp [h8])
  · refine ⟨code, response', t, ?_, hw, hp, by rw [hz]; tauto⟩
    rw [tlclSendReceive, ht]
    simp only [if_neg hb]

/-- From every reachable state, success means that the command was executed, except
exactly when the TPM takes in the whole request and rejects it, the nine bytes of
its answer fit, and the output and response buffers happen to hold zeroes
where the return code is read. -/
theorem tlclSendReceive_success_iff (s₀ : State) (as : List Access) (build : TlclBuild)
    (stack request response : Mem) (maxLength : Int) :
    let s := run (access sha1) (tpmInit s₀) as
    (∀ response' t,
      Returns (fun fuel => tlclSendReceive sha1 build stack fuel request response maxLength s)
        (tpmSuccess, response', t) → t.cmdWorked = true) ↔
    ¬ (delivered request s.fifoInCmdsize (tpmCommandSize request).toNat ∧
      requestCommand request (tpmCommandSize request).toNat = none ∧ 9 ≤ maxLength ∧
      s.fifoOutdata 1 = 0 ∧ s.fifoOutdata 2 = 0 ∧ s.fifoOutdata 3 = 0 ∧ response 9 = 0) := by
  intro s
  have hs : s.CleanHeader := run_clean sha1 s₀ as
  have hstable := tlclSendReceive_stable sha1 build stack request response maxLength s
  constructor
  · rintro h ⟨hd, hc, hm, hz⟩
    obtain ⟨code, response', t, ht, hw, -, hcode⟩ := tlclSendReceive_rejected sha1 build stack
      (2 ^ 32 + 1) request response maxLength s (by omega) hd hc hm
    rw [hcode.mpr hz] at ht
    have hx := h response' t ⟨_, ht⟩
    rw [hw] at hx
    cases hx
  · intro h response' t hr
    obtain ⟨fuel, hf, he⟩ := hr.of_le hstable (2 ^ 32 + 1)
    have hf' : 2 ^ 32 < fuel := hf
    have hv := tlclSendReceiveNoRetry_spec sha1 fuel request response maxLength s hf'
    by_cases hd : delivered request s.fifoInCmdsize (tpmCommandSize request).toNat ∧
        (outcome sha1 s request (tpmCommandSize request).toNat).size ≤ maxLength
    · cases hc : requestCommand request (tpmCommandSize request).toNat with
      | none =>
        have hm : 9 ≤ maxLength := by
          have hsize := hd.2
          rw [outcome_rejected sha1 s hc] at hsize
          exact hsize
        obtain ⟨code, b, u, hu, hw, -, hcode⟩ := tlclSendReceive_rejected sha1 build stack fuel
          request response maxLength s hf' hd.1 hc hm
        have hsucc : code = tpmSuccess := congrArg Prod.fst (Except.ok.inj (hu.symm.trans he))
        exact absurd ⟨hd.1, hc, hm, hcode.mp hsucc⟩ h
      | some c =>
        obtain ⟨u, hu, hshow⟩ := tlclSendReceive_accepted sha1 build stack fuel request response
          maxLength hs hf' hd.1 (by rw [hc]; simp) hd.2
        have htu : u = t := congrArg (fun r => r.2.2) (Except.ok.inj (hu.symm.trans he))
        rw [← htu, hshow.worked, outcome, hc]
        cases c <;> rfl
    · rw [if_neg hd] at hv
      cases hv with
      | inl hv =>
        rw [tlclSendReceive, hv] at he
        cases he
      | inr hv =>
        obtain ⟨b, u, hu⟩ := hv
        have hne : ¬ (build.chromeosEnvironment = false ∧
            ((0xffffffff : UInt32) = tpmENeedsSelftest ∨
              (0xffffffff : UInt32) = tpmEDoingSelftest)) := by
          simp [tpmENeedsSelftest, tpmEDoingSelftest]
        rw [tlclSendReceive, hu] at he
        simp only [if_neg hne] at he
        have hcode := congrArg Prod.fst (Except.ok.inj he)
        cases hcode

/-- A fresh TPM rejects the self-test command, and a caller whose response buffer
is zero at byte 9 is told that it succeeded. -/
theorem rejected_reported_success : ∃ response' t,
    Returns (fun fuel => tlclSendReceive (fun _ => sha1Zeroes) ⟨false, false⟩ (fun _ => 0) fuel
      tpmContinueselftestCmd (fun _ => 0) 256 (run (access fun _ => sha1Zeroes) (tpmInit freshTpm) []))
      (tpmSuccess, response', t) ∧ t.cmdWorked = false := by
  obtain ⟨code, response', t, ht, hw, -, hcode⟩ := tlclSendReceive_rejected (fun _ => sha1Zeroes)
    ⟨false, false⟩ (fun _ => 0) (2 ^ 32 + 1) tpmContinueselftestCmd (fun _ => 0) 256
    (tpmInit freshTpm) (by omega) (continueSelfTest_delivered _) continueSelfTest_rejected
    (by decide)
  rw [hcode.mpr ⟨rfl, rfl, rfl, rfl⟩] at ht
  exact ⟨response', t, ⟨_, ht⟩, hw⟩

/-- The command was not executed and no PCR changed. -/
def Refused (s t : State) : Prop := t.cmdWorked = false ∧ t.pcr = s.pcr

theorem tlclExtend_refused (hi : 23 < i.toNat % 256) (d : Digest) (s : State) (fuel : Nat)
    (hf : 2 ^ 32 < fuel) :
    ∃ r, tlclExtend sha1 build stack stack' fuel i d out s = .ok r ∧ Refused s r.2.2 := by
  have hr := extendCmd_request i d
  set cmd := (tpmExtendCmd.store 10 (toTpmUint32 i)).store 14 d.toList with hcmd
  obtain ⟨code, response, t, ht, hw, hp, -⟩ := tlclSendReceive_rejected sha1 build stack' fuel cmd stack
    (kTpmResponseHeaderLength + kPcrDigestLength : Nat) s hf
    (by rw [hr.commandSize]; exact hr.delivered _)
    (by rw [hr.commandSize]; exact hr.rejected hi) (by decide)
  simp only [tlclExtend, ← hcmd, ht]
  split_ifs
  · exact ⟨_, rfl, hw, hp⟩
  · exact ⟨_, rfl, hw, hp⟩

theorem tlclPCRRead_refused (data : Mem) (i length : UInt32) (hi : 23 < i.toNat % 256)
    (hl : 20 ≤ length.toNat) (s : State) (fuel : Nat) (hf : 2 ^ 32 < fuel) :
    ∃ r, tlclPCRRead sha1 build stack stack' fuel i data length s = .ok r ∧ Refused s r.2.2 := by
  have hr := pcrReadCmd_request i
  set cmd := tpmPcrReadCmd.store 10 (toTpmUint32 i) with hcmd
  obtain ⟨code, response, t, ht, hw, hp, -⟩ := tlclSendReceive_rejected sha1 build stack' fuel cmd stack
    (tpmLargeEnoughCommandSize : Nat) s hf
    (by rw [hr.commandSize]; exact hr.delivered _)
    (by rw [hr.commandSize]; exact hr.rejected hi) (by decide)
  rw [tlclPCRRead, if_neg (by simpa [kPcrDigestLength] using hl)]
  simp only [← hcmd, ht]
  split_ifs
  · exact ⟨_, rfl, hw, hp⟩
  · exact ⟨_, rfl, hw, hp⟩

/-- GO on a complete extend or PCR read is refused exactly if the byte that the TPM looks at is
out of range. -/
theorem go_refused_iff (hc : s.complete) (ho : s.ordinalIs 0x14 = true ∨ s.ordinalIs 0x15 = true) :
    Refused s (write8 sha1 0x20 stsAddr s) ↔ 23 < s.pcrIndex := by
  rw [write8_go, tpmRunCmd_eq,
    show State.command { s with dataout := 0 } = s.command from rfl]
  by_cases hi : 23 < s.pcrIndex
  · have hcmd : s.command = none := by
      rw [State.command, if_neg (by omega)]
    rw [hcmd]
    exact ⟨fun _ => hi, fun _ => ⟨rfl, rfl⟩⟩
  · have hle : s.pcrIndex ≤ 23 := by omega
    have hcmd : s.command ≠ none := by
      rcases ho with ho | ho
      · rw [(command_extend s).mpr ⟨⟨hc, hle⟩, ho⟩]
        simp
      · rw [(command_read s).mpr ⟨⟨hc, hle⟩, ho⟩]
        simp
    refine iff_of_false ?_ hi
    cases hs : s.command with
    | none => exact absurd hs hcmd
    | some c =>
      cases c with
      | extend => exact fun h => absurd h.1 (by simp [State.afterExtend])
      | read => exact fun h => absurd h.1 (by simp [State.afterRead])

theorem fromTpmUint32_low (m : Mem) (a : Nat) : (fromTpmUint32 m a).toNat % 256 = (m (a + 3)).toNat := by
  have h3 := (m (a + 3)).toNat_lt
  change (be32 (m a) (m (a + 1)) (m (a + 2)) (m (a + 3))).toNat % 256 = _
  rw [toNat_be32]
  omega

/-- An index is refused, in the TPM and through the command library, exactly if its lowest byte is
above 23. -/
theorem pcr_index_refused_iff (s₀ : State) (as : List Access) (i : UInt32) :
    let s := run (access sha1) (tpmInit s₀) as
    (s.complete → (s.ordinalIs 0x14 = true ∨ s.ordinalIs 0x15 = true) →
      fromTpmUint32 s.fifoIndata 10 = i →
      (Refused s (write8 sha1 0x20 stsAddr s) ↔ 23 < i.toNat % 256)) ∧
    (∀ build stack stack' out d, ∃ r,
      Returns (fun fuel => tlclExtend sha1 build stack stack' fuel i d out s) r ∧
      (Refused s r.2.2 ↔ 23 < i.toNat % 256)) ∧
    ∀ build stack stack' data length, 20 ≤ length.toNat → ∃ r,
      Returns (fun fuel => tlclPCRRead sha1 build stack stack' fuel i data length s) r ∧
      (Refused s r.2.2 ↔ 23 < i.toNat % 256) := by
  intro s
  have hs : s.CleanHeader := run_clean sha1 s₀ as
  have hf : 2 ^ 32 < 2 ^ 32 + 1 := by omega
  have hnot {t : State} (hw : t.cmdWorked = true) : ¬ Refused s t := fun h => by
    rw [h.1] at hw
    cases hw
  refine ⟨fun hc ho hx => ?_, fun build stack stack' out d => ?_,
    fun build stack stack' data length hl => ?_⟩
  · rw [go_refused_iff sha1 hc ho, ← hx, fromTpmUint32_low]
    rfl
  · by_cases h : 23 < i.toNat % 256
    · obtain ⟨r, hr, href⟩ := tlclExtend_refused sha1 build stack stack' out i h d s _ hf
      exact ⟨r, ⟨_, hr⟩, fun _ => h, fun _ => href⟩
    · obtain ⟨t, ht, -, hw⟩ := tlclExtend_ok sha1 build stack stack' out i (by omega) d hs _ hf
      exact ⟨_, ⟨_, ht⟩, iff_of_false (hnot hw) h⟩
  · by_cases h : 23 < i.toNat % 256
    · obtain ⟨r, hr, href⟩ := tlclPCRRead_refused sha1 build stack stack' data i length h hl s _ hf
      exact ⟨r, ⟨_, hr⟩, fun _ => h, fun _ => href⟩
    · obtain ⟨t, ht, -, hw⟩ := tlclPCRRead_ok sha1 build stack stack' data i length (by omega) hl hs _ hf
      exact ⟨_, ⟨_, ht⟩, iff_of_false (hnot hw) h⟩

/-- Extending index 256 changes PCR 0. -/
theorem extend_index_256 : ∃ r,
    Returns (fun fuel => tlclExtend (fun _ => sha1Zeroes) ⟨true, false⟩ (fun _ => 0) (fun _ => 0) fuel 256
      (Vector.replicate 20 0) (fun _ => 0)
      (run (access fun _ => sha1Zeroes) (tpmInit freshTpm) [])) r ∧
    r.1 = tpmSuccess ∧ r.2.2.cmdWorked = true ∧ r.2.2.pcr 0 = sha1Zeroes ∧
    (run (access fun _ => sha1Zeroes) (tpmInit freshTpm) []).pcr 0 ≠ sha1Zeroes := by
  obtain ⟨t, ht, hp, hw⟩ := tlclExtend_ok (fun _ => sha1Zeroes) ⟨true, false⟩ (fun _ => 0) (fun _ => 0)
    (fun _ => 0) 256 (by decide) (Vector.replicate 20 0) (run_clean (fun _ => sha1Zeroes) freshTpm [])
    (2 ^ 32 + 1) (by omega)
  refine ⟨_, ⟨_, ht⟩, rfl, hw, ?_, by decide⟩
  change t.pcr 0 = _
  rw [hp]
  rfl

/-- Index 24 is refused. -/
theorem pcr_index_refused_24 : 23 < (24 : UInt32).toNat ∧ ∃ r,
    Returns (fun fuel => tlclExtend (fun _ => sha1Zeroes) ⟨true, false⟩ (fun _ => 0) (fun _ => 0) fuel 24
      (Vector.replicate 20 0) (fun _ => 0)
      (run (access fun _ => sha1Zeroes) (tpmInit freshTpm) [])) r ∧
    Refused (run (access fun _ => sha1Zeroes) (tpmInit freshTpm) []) r.2.2 := by
  refine ⟨by decide, ?_⟩
  obtain ⟨r, hr, href⟩ := (pcr_index_refused_iff (fun _ => sha1Zeroes) freshTpm [] 24).2.1
    ⟨true, false⟩ (fun _ => 0) (fun _ => 0) (fun _ => 0) (Vector.replicate 20 0)
  exact ⟨r, hr, href.mpr (by decide)⟩

end
end Vboot.Tpm
