import Vboot.Tpm.Tlcl

/-! The command library tlcl.c over an arbitrary TPM: VbExTpmSendReceive is a parameter
that may answer anything. TlclRead and TlclGetRandom copy as many bytes as the
response says, and the model records which bytes of which buffer they touch. -/
namespace Vboot.Tpm
open Vboot.Lib

/-- VbExTpmSendReceive over the states T of a TPM. -/
abbrev Transport (T : Type) :=
  Nat → Mem → UInt32 → Mem → Int → T → Except Halt (UInt32 × Mem × T)

def tpmEResponseTooLarge : UInt32 := 0x5005

def tpmNvReadCmd : Mem := Mem.ofList [0, 0xc1, 0, 0, 0, 0x16, 0, 0, 0, 0xcf]
def tpmGetRandomCmd : Mem := Mem.ofList [0, 0xc1, 0, 0, 0, 0xe, 0, 0, 0, 0x46]

/-- The caller's buffer and the local one. -/
inductive Buffer where
  | data | response
  deriving DecidableEq, Repr

structure BufferAccess where
  buffer : Buffer
  write : Bool
  start : Nat
  size : Nat
  deriving DecidableEq, Repr

def BufferAccess.Inside (length : Nat) (a : BufferAccess) : Prop :=
  a.start + a.size ≤ match a.buffer with
    | .data => length
    | .response => tpmLargeEnoughCommandSize

instance (length : Nat) (a : BufferAccess) : Decidable (a.Inside length) := inferInstanceAs (Decidable (_ ≤ _))

/-- What a command that fetches data leaves: its result, both buffers and the accesses to them. -/
structure Fetch where
  result : UInt32
  data : Mem
  response : Mem
  accesses : List BufferAccess

def resultLength (response : Mem) : UInt32 := fromTpmUint32 response kTpmResponseHeaderLength

/-- Memcpy of n bytes behind the size field to the start of data. -/
def copyOut (response data : Mem) (n : Nat) : Mem :=
  data.store 0 (response.load (kTpmResponseHeaderLength + 4) n)

def copyAccesses (n : Nat) : List BufferAccess :=
  [⟨.response, false, kTpmResponseHeaderLength + 4, n⟩, ⟨.data, true, 0, n⟩]

namespace Transport

section
variable {T : Type} (transport : Transport T)

def tlclSendReceiveNoRetry (fuel : Nat) (request response : Mem) (maxLength : Int) (s : T) :
    Except Halt (UInt32 × Mem × T) :=
  match transport fuel request (tpmCommandSize request) response maxLength s with
  | .error h => .error h
  | .ok (result, response, s) =>
    if result ≠ 0 then .ok (result, response, s)
    else .ok (tpmReturnCode response, response, s)

def tlclContinueSelfTest (fuel : Nat) (stack : Mem) (s : T) : Except Halt (UInt32 × T) :=
  match transport.tlclSendReceiveNoRetry fuel tpmContinueselftestCmd stack tpmLargeEnoughCommandSize s with
  | .error h => .error h
  | .ok (result, _, s) => .ok (result, s)

def resend (request : Mem) (maxLength : Int) : Nat → Mem → T → Except Halt (UInt32 × Mem × T)
  | 0, _, _ => .error .fuel
  | fuel + 1, response, s =>
    match transport.tlclSendReceiveNoRetry fuel request response maxLength s with
    | .error h => .error h
    | .ok (result, response, s) =>
      if result = tpmEDoingSelftest then resend request maxLength fuel response s
      else .ok (result, response, s)

def tlclSendReceive (build : TlclBuild) (stack : Mem) (fuel : Nat) (request response : Mem)
    (maxLength : Int) (s : T) : Except Halt (UInt32 × Mem × T) :=
  match transport.tlclSendReceiveNoRetry fuel request response maxLength s with
  | .error h => .error h
  | .ok (result, response, s) =>
    if build.chromeosEnvironment = false ∧
        (result = tpmENeedsSelftest ∨ result = tpmEDoingSelftest) then
      match transport.tlclContinueSelfTest fuel stack s with
      | .error h => .error h
      | .ok (result, s) =>
        if result ≠ tpmSuccess then .ok (result, response, s)
        else if build.blockingContinueSelfTest then
          transport.tlclSendReceiveNoRetry fuel request response maxLength s
        else transport.resend request maxLength fuel response s
    else .ok (result, response, s)

/- stack holds the uninitialised response buffer, stack' that of TlclContinueSelfTest. -/
def tlclRead (build : TlclBuild) (stack stack' : Mem) (fuel : Nat) (index length : UInt32) (data : Mem)
    (s : T) : Except Halt (Fetch × T) :=
  let cmd := (tpmNvReadCmd.store 10 (toTpmUint32 index)).store 18 (toTpmUint32 length)
  match transport.tlclSendReceive build stack' fuel cmd stack tpmLargeEnoughCommandSize s with
  | .error h => .error h
  | .ok (result, response, s) =>
    if result = tpmSuccess ∧ length > 0 then
      let n := (resultLength response).toNat
      .ok (⟨result, copyOut response data n, response,
        ⟨.response, false, kTpmResponseHeaderLength, 4⟩ :: copyAccesses n⟩, s)
    else .ok (⟨result, data, response, []⟩, s)

/-- The size is written as soon as the TPM reports success. -/
def tlclGetRandom (build : TlclBuild) (stack stack' : Mem) (fuel : Nat) (length size : UInt32) (data : Mem)
    (s : T) : Except Halt (Fetch × UInt32 × T) :=
  let cmd := tpmGetRandomCmd.store 10 (toTpmUint32 length)
  if length.toNat > tpmLargeEnoughCommandSize - kTpmResponseHeaderLength - 4 then
    .ok (⟨tpmEIoerror, data, stack, []⟩, size, s)
  else match transport.tlclSendReceive build stack' fuel cmd stack tpmLargeEnoughCommandSize s with
    | .error h => .error h
    | .ok (result, response, s) =>
      if result = tpmSuccess then
        let size := resultLength response
        if size > length then
          .ok (⟨tpmEResponseTooLarge, data, response,
            [⟨.response, false, kTpmResponseHeaderLength, 4⟩]⟩, size, s)
        else .ok (⟨result, copyOut response data size.toNat, response,
          ⟨.response, false, kTpmResponseHeaderLength, 4⟩ :: copyAccesses size.toNat⟩, size, s)
      else .ok (⟨result, data, response, []⟩, size, s)

end
end Transport

def fifoTransport (sha1 : List UInt8 → Digest) : Transport State := vbExTpmSendReceive sha1
variable (sha1 : List UInt8 → Digest) (fuel : Nat) (request response : Mem) (maxLength : Int) (s : State)

theorem noRetry_fifo :
    (fifoTransport sha1).tlclSendReceiveNoRetry fuel request response maxLength s =
      tlclSendReceiveNoRetry sha1 fuel request response maxLength s := by
  rw [Transport.tlclSendReceiveNoRetry, tlclSendReceiveNoRetry, fifoTransport]
  cases vbExTpmSendReceive sha1 fuel request (tpmCommandSize request) response maxLength s <;> rfl

theorem resend_fifo (fuel : Nat) (response : Mem) (s : State) :
    (fifoTransport sha1).resend request maxLength fuel response s =
      resend sha1 request maxLength fuel response s := by
  induction fuel generalizing response s with
  | zero => rfl
  | succ fuel ih =>
    rw [Transport.resend, resend, noRetry_fifo]
    cases tlclSendReceiveNoRetry sha1 fuel request response maxLength s with
    | error h => rfl
    | ok r => simp only [ih]

theorem tlclSendReceive_fifo (build : TlclBuild) (stack : Mem) (fuel : Nat) (request response : Mem)
    (maxLength : Int) (s : State) :
    (fifoTransport sha1).tlclSendReceive build stack fuel request response maxLength s =
      tlclSendReceive sha1 build stack fuel request response maxLength s := by
  rw [Transport.tlclSendReceive, tlclSendReceive, noRetry_fifo]
  cases tlclSendReceiveNoRetry sha1 fuel request response maxLength s with
  | error h => rfl
  | ok r =>
    dsimp only [Transport.tlclContinueSelfTest, tlclContinueSelfTest]
    simp only [noRetry_fifo, resend_fifo]
    cases tlclSendReceiveNoRetry sha1 fuel tpmContinueselftestCmd stack tpmLargeEnoughCommandSize r.2.2 <;>
      rfl

theorem copyAccesses_inside_iff (length n : Nat) :
    (∀ a ∈ copyAccesses n, a.Inside length) ↔ n ≤ length ∧ n ≤ 242 := by
  simp [copyAccesses, BufferAccess.Inside, kTpmResponseHeaderLength, tpmLargeEnoughCommandSize]
  omega

theorem sizeField_inside (length : Nat) :
    (⟨.response, false, kTpmResponseHeaderLength, 4⟩ : BufferAccess).Inside length := by
  change kTpmResponseHeaderLength + 4 ≤ tpmLargeEnoughCommandSize
  decide

section
variable {T : Type} (transport : Transport T)

/-- Whatever the TPM answers, TlclRead stays inside its buffers exactly if the response carries no
success, or nothing was asked for, or the length in the response fits both buffers. -/
theorem tlclRead_inside_iff {build : TlclBuild} {stack stack' data : Mem} {fuel : Nat}
    {index length : UInt32} {s t : T} {f : Fetch}
    (h : transport.tlclRead build stack stack' fuel index length data s = .ok (f, t)) :
    (∀ a ∈ f.accesses, a.Inside length.toNat) ↔
      (f.result ≠ tpmSuccess ∨ length = 0 ∨
        ((resultLength f.response).toNat ≤ length.toNat ∧ (resultLength f.response).toNat ≤ 242)) := by
  unfold Transport.tlclRead at h
  dsimp only at h
  split at h
  · cases h
  · rename_i result response u hx
    split_ifs at h with hc
    · cases h
      have hne : length ≠ 0 := fun h0 => absurd hc.2 (by simp [h0])
      rw [List.forall_mem_cons, copyAccesses_inside_iff]
      simp [hc.1, hne, sizeField_inside]
    · cases h
      have hor : result ≠ tpmSuccess ∨ length = 0 := by
        by_cases hr : result = tpmSuccess
        · right
          by_contra h0
          exact hc ⟨hr, UInt32.pos_iff_ne_zero.mpr h0⟩
        · exact .inl hr
      simp
      tauto

/-- TlclGetRandom compares the length with the caller's before it copies, so every access is
inside its buffer. -/
theorem tlclGetRandom_inside {build : TlclBuild} {stack stack' data : Mem} {fuel : Nat}
    {length size size' : UInt32} {s t : T} {f : Fetch}
    (h : transport.tlclGetRandom build stack stack' fuel length size data s = .ok (f, size', t)) :
    ∀ a ∈ f.accesses, a.Inside length.toNat := by
  unfold Transport.tlclGetRandom at h
  dsimp only at h
  split_ifs at h with hroom
  · cases h
    simp
  · split at h
    · cases h
    · rename_i result response u hx
      split_ifs at h with hok hlarge
      · cases h
        simp [sizeField_inside]
      · cases h
        have hle : (resultLength response).toNat ≤ length.toNat :=
          UInt32.le_iff_toNat_le.mp (UInt32.not_lt.mp hlarge)
        have h242 : length.toNat ≤ 242 := by
          simpa [tpmLargeEnoughCommandSize, kTpmResponseHeaderLength] using hroom
        rw [List.forall_mem_cons, copyAccesses_inside_iff]
        exact ⟨sizeField_inside _, hle, by omega⟩
      · cases h
        simp

end

/-- A TPM that answers every command with success and the given size field. -/
def answering (n : UInt32) : Transport Unit := fun _ _ _ _ _ s =>
  .ok (0, (Mem.ofList [0, 0xc4, 0, 0, 0, 14, 0, 0, 0, 0]).store 10 (toTpmUint32 n), s)

/-- A TPM that announces 2^32 - 1 bytes makes TlclRead write past the ten bytes of the caller. -/
theorem tlclRead_overruns : ∃ f t,
    (answering 0xffffffff).tlclRead ⟨true, false⟩ (fun _ => 0) (fun _ => 0) 1 0x1007 10 (fun _ => 0) () =
      .ok (f, t) ∧ ∃ a ∈ f.accesses, a.buffer = .data ∧ a.write = true ∧ ¬ a.Inside 10 := by
  have hread : ∃ f t, (answering 0xffffffff).tlclRead ⟨true, false⟩ (fun _ => 0) (fun _ => 0) 1 0x1007
      10 (fun _ => 0) () = .ok (f, t) ∧ ⟨.data, true, 0, 0xffffffff⟩ ∈ f.accesses :=
    ⟨_, (), rfl, by decide⟩
  obtain ⟨f, t, hf, ha⟩ := hread
  exact ⟨f, t, hf, _, ha, rfl, rfl, by decide⟩

theorem tlclGetRandom_ten : let m : Mem := fun _ => 0
    ∃ r, (answering 10).tlclGetRandom ⟨true, false⟩ m m 1 10 0 m () = .ok r ∧
      ∀ a ∈ r.1.accesses, a.Inside 10 := by
  intro m
  exact ⟨_, rfl, @tlclGetRandom_inside _ (answering 10) ⟨true, false⟩ m m m 1 10 0 10 () () _ rfl⟩

theorem tlclRead_inside_ten : ∃ f t,
    (answering 10).tlclRead ⟨true, false⟩ (fun _ => 0) (fun _ => 0) 1 0x1007 10 (fun _ => 0) () =
      .ok (f, t) ∧ ∀ a ∈ f.accesses, a.Inside (10 : UInt32).toNat := by
  have hread : ∃ f t, (answering 10).tlclRead ⟨true, false⟩ (fun _ => 0) (fun _ => 0) 1 0x1007 10
      (fun _ => 0) () = .ok (f, t) ∧ (resultLength f.response).toNat = 10 :=
    ⟨_, (), rfl, by decide⟩
  obtain ⟨f, t, hf, hn⟩ := hread
  refine ⟨f, t, hf, (tlclRead_inside_iff (answering 10) hf).mpr (.inr (.inr ?_))⟩
  rw [hn]
  decide

end Vboot.Tpm
