import Vboot.Lib.Endian
import Vboot.Tpm.Driver

/-! The command library firmware/lib/tpm_lite/tlcl.c over the FIFO driver: sending
with and without retry, PCR extend and PCR read. Local response buffers are
uninitialised in C, so their contents are arguments. -/
namespace Vboot.Tpm
open Vboot.Lib

def tpmSuccess : UInt32 := 0
def tpmEIoerror : UInt32 := 0x1f
def tpmENeedsSelftest : UInt32 := 0x801
def tpmEDoingSelftest : UInt32 := 0x802
def kTpmResponseHeaderLength : Nat := 10
def kPcrDigestLength : Nat := 20
def tpmLargeEnoughCommandSize : Nat := 256

/-- Big-endian bytes of a 32-bit value. -/
def toTpmUint32 (x : UInt32) : List UInt8 :=
  [(x >>> 24).toUInt8, (x >>> 16).toUInt8, (x >>> 8).toUInt8, x.toUInt8]

def fromTpmUint32 (buffer : Mem) (off : Nat) : UInt32 :=
  (buffer off).toUInt32 <<< 24 ||| (buffer (off + 1)).toUInt32 <<< 16 |||
  (buffer (off + 2)).toUInt32 <<< 8 ||| (buffer (off + 3)).toUInt32

def tpmCommandSize (buffer : Mem) : UInt32 := fromTpmUint32 buffer 2
def tpmCommandCode (buffer : Mem) : UInt32 := fromTpmUint32 buffer 6
def tpmReturnCode (buffer : Mem) : UInt32 := tpmCommandCode buffer

def tpmContinueselftestCmd : Mem := Mem.ofList [0, 0xc1, 0, 0, 0, 0xa, 0, 0, 0, 0x53]
def tpmExtendCmd : Mem := Mem.ofList [0, 0xc1, 0, 0, 0, 0x22, 0, 0, 0, 0x14]
def tpmPcrReadCmd : Mem := Mem.ofList [0, 0xc1, 0, 0, 0, 0xe, 0, 0, 0, 0x15]

structure TlclBuild where
  chromeosEnvironment : Bool
  blockingContinueSelfTest : Bool

section
variable (sha1 : List UInt8 → Digest)

def tlclSendReceiveNoRetry (fuel : Nat) (request response : Mem) (maxLength : Int) (s : State) :
    Except Halt (UInt32 × Mem × State) :=
  match vbExTpmSendReceive sha1 fuel request (tpmCommandSize request) response maxLength s with
  | .error h => .error h
  | .ok (result, response, s) =>
    if result ≠ 0 then .ok (result, response, s)
    else .ok (tpmReturnCode response, response, s)

def tlclContinueSelfTest (fuel : Nat) (stack : Mem) (s : State) : Except Halt (UInt32 × State) :=
  match tlclSendReceiveNoRetry sha1 fuel tpmContinueselftestCmd stack tpmLargeEnoughCommandSize s with
  | .error h => .error h
  | .ok (result, _, s) => .ok (result, s)

/-- Send again for as long as the TPM says that it is still testing itself. -/
def resend (request : Mem) (maxLength : Int) :
    Nat → Mem → State → Except Halt (UInt32 × Mem × State)
  | 0, _, _ => .error .fuel
  | fuel + 1, response, s =>
    match tlclSendReceiveNoRetry sha1 fuel request response maxLength s with
    | .error h => .error h
    | .ok (result, response, s) =>
      if result = tpmEDoingSelftest then resend request maxLength fuel response s
      else .ok (result, response, s)

/- stack holds the uninitialised response buffer of TlclContinueSelfTest. -/
def tlclSendReceive (build : TlclBuild) (stack : Mem) (fuel : Nat) (request response : Mem)
    (maxLength : Int) (s : State) : Except Halt (UInt32 × Mem × State) :=
  match tlclSendReceiveNoRetry sha1 fuel request response maxLength s with
  | .error h => .error h
  | .ok (result, response, s) =>
    if build.chromeosEnvironment = false ∧
        (result = tpmENeedsSelftest ∨ result = tpmEDoingSelftest) then
      match tlclContinueSelfTest sha1 fuel stack s with
      | .error h => .error h
      | .ok (result, s) =>
        if result ≠ tpmSuccess then .ok (result, response, s)
        else if build.blockingContinueSelfTest then
          tlclSendReceiveNoRetry sha1 fuel request response maxLength s
        else resend sha1 request maxLength fuel response s
    else .ok (result, response, s)

/-- The contents of out_digest on entry are out. -/
def tlclExtend (build : TlclBuild) (stack stack' : Mem) (fuel : Nat) (pcrNum : UInt32)
    (inDigest : Digest) (out : Mem) (s : State) : Except Halt (UInt32 × Mem × State) :=
  let cmd := (tpmExtendCmd.store 10 (toTpmUint32 pcrNum)).store 14 inDigest.toList
  match tlclSendReceive sha1 build stack' fuel cmd stack
      (kTpmResponseHeaderLength + kPcrDigestLength : Nat) s with
  | .error h => .error h
  | .ok (result, response, s) =>
    if result ≠ tpmSuccess then .ok (result, out, s)
    else .ok (result, out.store 0 (response.load kTpmResponseHeaderLength kPcrDigestLength), s)

def tlclPCRRead (build : TlclBuild) (stack stack' : Mem) (fuel : Nat) (index : UInt32)
    (data : Mem) (length : UInt32) (s : State) : Except Halt (UInt32 × Mem × State) :=
  if length.toNat < kPcrDigestLength then .ok (tpmEIoerror, data, s)
  else
    let cmd := tpmPcrReadCmd.store 10 (toTpmUint32 index)
    match tlclSendReceive sha1 build stack' fuel cmd stack tpmLargeEnoughCommandSize s with
    | .error h => .error h
    | .ok (result, response, s) =>
      if result = tpmSuccess then
        .ok (result, data.store 0 (response.load kTpmResponseHeaderLength kPcrDigestLength), s)
      else .ok (result, data, s)

theorem tlclSendReceiveNoRetry_stable (request response : Mem) (maxLength : Int) (s : State) :
    Stable fun fuel => tlclSendReceiveNoRetry sha1 fuel request response maxLength s := by
  intro n m r hnm h
  have hs := fun a => vbExTpmSendReceive_stable sha1 request (tpmCommandSize request) response
    maxLength s n m a hnm
  dsimp only [tlclSendReceiveNoRetry] at h hs ⊢
  grind

theorem tlclContinueSelfTest_stable (stack : Mem) (s : State) :
    Stable fun fuel => tlclContinueSelfTest sha1 fuel stack s := by
  intro n m r hnm h
  have hs := fun a => tlclSendReceiveNoRetry_stable sha1 tpmContinueselftestCmd stack
    tpmLargeEnoughCommandSize s n m a hnm
  dsimp only [tlclContinueSelfTest] at h hs ⊢
  grind

theorem resend_stable (request response : Mem) (maxLength : Int) (s : State) :
    Stable fun fuel => resend sha1 request maxLength fuel response s := by
  intro n m r hnm h
  dsimp only at h ⊢
  induction n generalizing m response s with
  | zero => cases h
  | succ n ih =>
    obtain ⟨m, rfl⟩ : ∃ k, m = k + 1 := ⟨m - 1, by omega⟩
    have hs := fun b t a => tlclSendReceiveNoRetry_stable sha1 request b maxLength t n m a (by omega)
    dsimp only at hs
    grind [resend]

theorem tlclSendReceive_stable (build : TlclBuild) (stack request response : Mem)
    (maxLength : Int) (s : State) :
    Stable fun fuel => tlclSendReceive sha1 build stack fuel request response maxLength s := by
  intro n m r hnm h
  have hs := fun b t a => tlclSendReceiveNoRetry_stable sha1 request b maxLength t n m a hnm
  have hc := fun t a => tlclContinueSelfTest_stable sha1 stack t n m a hnm
  have hr := fun b t a => resend_stable sha1 request b maxLength t n m a hnm
  dsimp only [tlclSendReceive] at h hs hc hr ⊢
  cases h1 : tlclSendReceiveNoRetry sha1 n request response maxLength s with
  | error e =>
    rw [h1] at h
    cases h
  | ok a =>
    rw [h1] at h
    rw [hs _ _ a h1]
    dsimp only at h ⊢
    by_cases hb : build.chromeosEnvironment = false ∧
        (a.1 = tpmENeedsSelftest ∨ a.1 = tpmEDoingSelftest)
    · rw [if_pos hb] at h ⊢
      cases h2 : tlclContinueSelfTest sha1 n stack a.2.2 with
      | error e =>
        rw [h2] at h
        cases h
      | ok b =>
        rw [h2] at h
        rw [hc _ b h2]
        dsimp only at h ⊢
        split_ifs at h ⊢
        · exact h
        · exact hs _ _ _ h
        · exact hr _ _ _ h
    · rw [if_neg hb] at h ⊢
      exact h

end
end Vboot.Tpm
