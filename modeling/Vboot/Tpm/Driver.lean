import Vboot.Lib.Fuel
import Vboot.Tpm.Fifo

/-! The FIFO driver of CBMC/tpm-fw.c at locality 0. Loops that wait for the TPM
take a fuel argument, and the two assertions of send are outcomes of their own. -/
namespace Vboot.Tpm
open Vboot.Lib

/-- Why a driver call did not return. -/
inductive Halt where
  | fuel | assert
  deriving DecidableEq, Repr

section
variable (sha1 : List UInt8 → Digest)

def read8 (addr : UInt32) (s : State) : UInt32 × State :=
  let s := tpmUpdate sha1 RD addr 0 s
  (s.dataout, s)

def write8 (data : UInt8) (addr : UInt32) (s : State) : State :=
  tpmUpdate sha1 WR addr data.toUInt32 s

def isDataAval (s : State) : Bool × State :=
  let (status, s) := read8 sha1 stsAddr s
  (status &&& (stsDataAvail ||| stsValid) == (stsDataAvail ||| stsValid), s)

def readBurstCount : Nat := 256

/-- Read the status register until it is valid. -/
def waitValid : Nat → State → Except Halt (UInt32 × State)
  | 0, _ => .error .fuel
  | fuel + 1, s =>
    let (status, s) := read8 sha1 stsAddr s
    if status &&& stsValid = 0 then waitValid fuel s else .ok (status, s)

/-- Write bytes of buf from count on until the burst is used up or last is reached. -/
def writeBurst (buf : Mem) (last : Nat) : Nat → Nat → State → Nat × State
  | 0, count, s => (count, s)
  | burstcnt + 1, count, s =>
    if count < last then
      writeBurst buf last burstcnt (count + 1) (write8 sha1 (buf count) fifoAddr s)
    else (count, s)

/-- All bytes but the last. The result is none when the TPM stops expecting data. -/
def sendLoop (buf : Mem) (last : Nat) : Nat → Nat → State → Except Halt (Option Nat × State)
  | 0, _, _ => .error .fuel
  | fuel + 1, count, s =>
    if count < last then
      if readBurstCount = 0 then sendLoop buf last fuel count s
      else
        let (count, s) := writeBurst sha1 buf last readBurstCount count s
        match waitValid sha1 fuel s with
        | .error h => .error h
        | .ok (status, s) =>
          if status &&& stsDataExpect = 0 then .ok (none, s) else sendLoop buf last fuel count s
    else .ok (some count, s)

/- len - 1 is taken in 32 bits, so a request of length 0 is sent as if it had
   2^32 bytes. The result -1 is the unsigned value 2^32 - 1. -/
def send (fuel : Nat) (buf : Mem) (len : UInt32) (s : State) : Except Halt (UInt32 × State) :=
  let s := write8 sha1 0x40 stsAddr s
  match sendLoop sha1 buf (len - 1).toNat fuel 0 s with
  | .error h => .error h
  | .ok (none, s) => .ok (0xffffffff, s)
  | .ok (some count, s) =>
    let s := write8 sha1 (buf count) fifoAddr s
    match waitValid sha1 fuel s with
    | .error h => .error h
    | .ok (status, s) =>
      if status &&& stsDataExpect ≠ 0 then .ok (0xffffffff, s)
      else if len.toNat ≠ s.fifoInAmt ∨ s.fifoInAmt ≠ s.fifoInCmdsize then .error .assert
      else .ok (len, write8 sha1 0x20 stsAddr s)

/-- Read bytes to buf + off until the burst is used up or count is reached. -/
def readBurst (off : Nat) (count : Int) : Nat → Nat → Mem → State → Nat × Nat × Mem × State
  | 0, size, buf, s => (0, size, buf, s)
  | burstcnt + 1, size, buf, s =>
    if (size : Int) < count then
      let (v, s) := read8 sha1 fifoAddr s
      readBurst off count burstcnt (size + 1) (Function.update buf (off + size) v.toUInt8) s
    else (burstcnt + 1, size, buf, s)

def recvHelper (off : Nat) (count : Int) :
    Nat → Nat → Nat → Mem → State → Except Halt (Nat × Mem × State)
  | 0, _, _, _, _ => .error .fuel
  | fuel + 1, burstcnt, size, buf, s =>
    let (aval, s) := isDataAval sha1 s
    if aval ∧ (size : Int) < count then
      let burstcnt := if burstcnt = 0 then readBurstCount else burstcnt
      if burstcnt = 0 then recvHelper off count fuel burstcnt size buf s
      else
        let (burstcnt, size, buf, s) := readBurst sha1 off count burstcnt size buf s
        recvHelper off count fuel burstcnt size buf s
    else .ok (size, buf, s)

/-- Receive one response of at most count bytes. -/
def recv (fuel : Nat) (buf : Mem) (count : Int) (s : State) : Except Halt (Int × Mem × State) :=
  if count < 6 then .ok (-1, buf, s)
  else
    let (aval, s) := isDataAval sha1 s
    if aval = false then .ok (-2, buf, s)
    else match recvHelper sha1 0 6 fuel 0 0 buf s with
    | .error h => .error h
    | .ok (size, buf, s) =>
      if size < 6 then .ok (-1, buf, s)
      else
        let commandSize := (buf 5).toNat
        if count < commandSize then .ok (-1, buf, s)
        else match recvHelper sha1 6 ((commandSize : Int) - 6 - 1) fuel 0 0 buf s with
        | .error h => .error h
        | .ok (n, buf, s) =>
          let size := size + n
          if (size : Int) < (commandSize : Int) - 1 then .ok (-1, buf, s)
          else
            let (aval, s) := isDataAval sha1 s
            if aval = false then .ok (-1, buf, s)
            else match recvHelper sha1 size 1 fuel 0 0 buf s with
            | .error h => .error h
            | .ok (n, buf, s) =>
              if size + n ≠ commandSize then .ok (-1, buf, s)
              else
                let (aval, s) := isDataAval sha1 s
                if aval then .ok (-1, buf, s)
                else .ok (0, buf, write8 sha1 0x40 stsAddr s)

def vbExTpmSendReceive (fuel : Nat) (request : Mem) (requestLength : UInt32)
    (response : Mem) (responseLength : Int) (s : State) : Except Halt (UInt32 × Mem × State) :=
  match send sha1 fuel request requestLength s with
  | .error h => .error h
  | .ok (ret, s) =>
    if ret ≠ requestLength then .ok (0xffffffff, response, s)
    else match recv sha1 fuel response responseLength s with
    | .error h => .error h
    | .ok (ret, response, s) => .ok (if ret ≠ 0 then 0xffffffff else 0, response, s)

theorem waitValid_stable (s : State) : Stable fun fuel => waitValid sha1 fuel s := by
  intro n m r hnm h
  dsimp only at h ⊢
  induction n generalizing m s with
  | zero => cases h
  | succ n ih =>
    obtain ⟨m, rfl⟩ : ∃ k, m = k + 1 := ⟨m - 1, by omega⟩
    grind [waitValid]

variable (buf : Mem)

theorem sendLoop_stable (last count : Nat) (s : State) :
    Stable fun fuel => sendLoop sha1 buf last fuel count s := by
  intro n m r hnm h
  dsimp only at h ⊢
  induction n generalizing m count s with
  | zero => cases h
  | succ n ih =>
    obtain ⟨m, rfl⟩ : ∃ k, m = k + 1 := ⟨m - 1, by omega⟩
    have hw := fun t a => waitValid_stable sha1 t n m a (by omega)
    dsimp only at hw
    grind [sendLoop]

theorem send_stable (len : UInt32) (s : State) :
    Stable fun fuel => send sha1 fuel buf len s := by
  intro n m r hnm h
  have hl := fun k t a => sendLoop_stable sha1 buf (len - 1).toNat k t n m a hnm
  have hw := fun t a => waitValid_stable sha1 t n m a hnm
  dsimp only [send] at h hl hw ⊢
  grind

theorem recvHelper_stable (off : Nat) (count : Int) (burstcnt size : Nat) (buf : Mem) (s : State) :
    Stable fun fuel => recvHelper sha1 off count fuel burstcnt size buf s := by
  intro n m r hnm h
  dsimp only at h ⊢
  induction n generalizing m burstcnt size buf s with
  | zero => cases h
  | succ n ih =>
    obtain ⟨m, rfl⟩ : ∃ k, m = k + 1 := ⟨m - 1, by omega⟩
    grind [recvHelper]

theorem recv_stable (count : Int) (s : State) :
    Stable fun fuel => recv sha1 fuel buf count s := by
  intro n m r hnm h
  have hs := fun off c b z buf s a => recvHelper_stable sha1 off c b z buf s n m a hnm
  dsimp only [recv] at h hs ⊢
  split_ifs at h ⊢
  · exact h
  · exact h
  · cases h1 : recvHelper sha1 0 6 n 0 0 buf (isDataAval sha1 s).2 with
    | error e =>
      rw [h1] at h
      cases h
    | ok a =>
      rw [h1] at h
      rw [hs _ _ _ _ _ _ a h1]
      dsimp only at h ⊢
      grind

theorem vbExTpmSendReceive_stable (request : Mem) (len : UInt32) (response : Mem) (maxLength : Int)
    (s : State) :
    Stable fun fuel => vbExTpmSendReceive sha1 fuel request len response maxLength s := by
  intro n m r hnm h
  have hs := send_stable sha1 request len s n m
  have hr := fun t a => recv_stable sha1 response maxLength t n m a hnm
  dsimp only [vbExTpmSendReceive] at h hs hr ⊢
  grind

end
end Vboot.Tpm
