import Vboot.Lib.Mem

/-! The TPM model of CBMC/tpm-c: the register interface of tpm_update.c, the
command dispatcher of tpm_run_cmd.c and the PCR commands of tpm_pcr.c. SHA1 is
the library function of that name, a parameter throughout. -/
namespace Vboot.Tpm
open Vboot.Lib

/-- A SHA-1 digest, the contents of one PCR. -/
abbrev Digest := Vector UInt8 20

inductive FifoState where
  | idle | accepting | full | sending | working
  deriving DecidableEq, Repr

/-- The file-scope variables of tpm_update.c and tpm_run_cmd.c. -/
structure State where
  dataout : UInt32
  fifoInAmt : Nat
  fifoInCmdsize : Nat
  fifoOutAmt : Nat
  fifoState : FifoState
  fifoSts : UInt32
  fifoOutdata : Mem
  fifoIndata : Mem
  pcrData : Mem
  cmdWorked : Bool

def RD : UInt32 := 1
def WR : UInt32 := 2
def fifoMaxAmt : Nat := 126
def stsValid : UInt32 := 0x80
def stsDataAvail : UInt32 := 0x10
def stsDataExpect : UInt32 := 0x08
def stsGo : UInt32 := 0x20
def stsCommandReady : UInt32 := 0x40
def stsAddr : UInt32 := 0x18
def fifoAddr : UInt32 := 0x24
def burstAddr : UInt32 := 0x1

/- tpm_init clears every variable except cmd_worked, which lives in another file. -/
def tpmInit (s : State) : State where
  dataout := 0
  fifoInAmt := 0
  fifoInCmdsize := 0
  fifoOutAmt := 0
  fifoState := .idle
  fifoSts := 0
  fifoOutdata := fun _ => 0
  fifoIndata := fun _ => 0
  pcrData := fun _ => 0
  cmdWorked := s.cmdWorked

def State.pcr (s : State) (i : Nat) : Digest := Vector.ofFn fun k => s.pcrData (20 * i + k)

/-- The digest of an extend request, at bytes 14..33 of the input buffer. -/
def State.inDigest (s : State) : Digest := Vector.ofFn fun k => s.fifoIndata (14 + k)

def State.pcrIndex (s : State) : Nat := (s.fifoIndata 13).toNat

/-- The tag, the size and the PCR of a 30-byte response. The output buffer is
sent from its high end, so the first byte of the PCR is stored at offset 20. -/
def pcrResponse (out : Mem) (d : Digest) : Mem := fun x =>
  if 1 ≤ x ∧ x ≤ 20 then d.toList.getD (20 - x) 0
  else if x = 25 then 30
  else if x = 29 then 0xc4
  else out x

section
variable (sha1 : List UInt8 → Digest)

/- The return code is 0 or -1; the pointer to the chosen PCR is formed before the
   index is checked but used only after. -/
def pcrExtend (s : State) : Int × State :=
  if 23 < s.pcrIndex then (-1, s)
  else
    let chosen := sha1 ((s.pcr s.pcrIndex).toList ++ s.inDigest.toList)
    (0, { s with
      pcrData := s.pcrData.store (20 * s.pcrIndex) chosen.toList
      fifoOutdata := pcrResponse s.fifoOutdata chosen
      fifoOutAmt := 30 })

def pcrRead (s : State) : Int × State :=
  if 23 < s.pcrIndex then (-1, s)
  else (0, { s with
    fifoOutdata := pcrResponse s.fifoOutdata (s.pcr s.pcrIndex)
    fifoOutAmt := 30 })

/-- Bytes 6..9 of the input buffer hold the ordinal 00 00 00 lo. -/
def State.ordinalIs (s : State) (lo : UInt8) : Bool :=
  s.fifoIndata 6 == 0 && s.fifoIndata 7 == 0 && s.fifoIndata 8 == 0 && s.fifoIndata 9 == lo

/-- Run one command and record in cmd_worked whether it returned 0. -/
def runIf (c : Bool) (f : State → Int × State) (s : State) : State :=
  if c then
    let (ret, s) := f s
    if ret = 0 then { s with cmdWorked := true } else s
  else s

/-- The response to a command that was not run. Byte 0 of the output buffer is
written too, but the FIFO stops before it. -/
def malformed (s : State) : State :=
  { s with
    fifoState := .sending
    fifoInAmt := 0
    fifoOutdata := Function.update (Function.update (Function.update s.fifoOutdata 8 0xc4) 4 9) 0 0xff
    fifoOutAmt := 9 }

/-- Only run commands if we are accepting data and the amount received is the
size that the command announced. -/
def State.complete (s : State) : Prop :=
  s.fifoState = .accepting ∧ s.fifoInAmt = s.fifoInCmdsize

instance (s : State) : Decidable s.complete := inferInstanceAs (Decidable (_ ∧ _))

def dispatch (s : State) : State :=
  if s.complete then
    let s := runIf (s.ordinalIs 0x14) (pcrExtend sha1) s
    runIf (s.ordinalIs 0x15) pcrRead s
  else s

def respond (s : State) : State :=
  if s.cmdWorked then { s with fifoState := .sending } else malformed s

def tpmRunCmd (s : State) : State :=
  respond (dispatch sha1 { s with cmdWorked := false })

def burstCount (s : State) : UInt32 :=
  match s.fifoState with
  | .accepting => UInt32.ofNat (fifoMaxAmt - s.fifoInAmt)
  | .sending => UInt32.ofNat s.fifoOutAmt
  | _ => s.dataout

/-- The next byte of the response, from the high end of the output buffer down. -/
def pop (s : State) : State :=
  if s.fifoState = .sending ∧ 0 < s.fifoOutAmt then
    { s with dataout := (s.fifoOutdata s.fifoOutAmt).toUInt32, fifoOutAmt := s.fifoOutAmt - 1 }
  else s

def regRead (addr : UInt32) (s : State) : State :=
  if addr = stsAddr then { s with dataout := s.fifoSts }
  else if addr = burstAddr then { s with dataout := burstCount s }
  else if addr = fifoAddr then pop s
  else s

/-- COMMAND_READY drops a half-sent command and an unread response. The size of
the last command stays. -/
def commandReady (s : State) : State :=
  { s with
    fifoIndata := fun x => if x < fifoMaxAmt then 0 else s.fifoIndata x
    fifoState := .accepting
    fifoInAmt := 0
    fifoOutAmt := 0 }

/-- A data byte; byte 5 is also taken as the size of the command. -/
def push (data : UInt32) (s : State) : State :=
  { s with
    fifoInCmdsize := if s.fifoInAmt = 5 then data.toNat else s.fifoInCmdsize
    fifoIndata := Function.update s.fifoIndata s.fifoInAmt data.toUInt8
    fifoInAmt := s.fifoInAmt + 1
    fifoState := if s.fifoInAmt + 1 = fifoMaxAmt then .full else s.fifoState }

def regWrite (addr data : UInt32) (s : State) : State :=
  if addr = stsAddr then
    if data = stsCommandReady then commandReady s
    else if data = stsGo then tpmRunCmd sha1 s
    else s
  else if addr = fifoAddr then
    if s.fifoState ≠ .full then push data s else s
  else s

/-- More input is expected: the header of a command that is being accepted, or
the rest of a command whose size byte has been seen. -/
def State.dataExpected (s : State) : Bool :=
  (s.fifoState == .accepting && s.fifoInAmt < 4) || s.fifoInAmt < s.fifoInCmdsize

def stsFlags (dataAval valid dataExpected : Bool) : UInt32 :=
  (if dataAval then stsDataAvail else 0) ||| (if valid then stsValid else 0) |||
  (if dataExpected then stsDataExpect else 0)

def State.stsByte (s : State) : UInt32 :=
  stsFlags (0 < s.fifoOutAmt) (s.fifoState ≠ .working) s.dataExpected

/-- One register access. The value returned to the bus is dataout afterwards. -/
def tpmUpdate (cmd addr data : UInt32) (s : State) : State :=
  let s := { s with dataout := 0 }
  let s := if cmd = RD then regRead addr s else s
  let s := if cmd = WR then regWrite sha1 addr data s else s
  { s with fifoSts := s.stsByte }

theorem tpmUpdate_read (addr data : UInt32) (s : State) :
    tpmUpdate sha1 RD addr data s =
      { regRead addr { s with dataout := 0 } with
        fifoSts := (regRead addr { s with dataout := 0 }).stsByte } := by
  simp [tpmUpdate, RD, WR]

theorem tpmUpdate_write (addr data : UInt32) (s : State) :
    tpmUpdate sha1 WR addr data s =
      { regWrite sha1 addr data { s with dataout := 0 } with
        fifoSts := (regWrite sha1 addr data { s with dataout := 0 }).stsByte } := by
  simp [tpmUpdate, RD, WR]

end
end Vboot.Tpm
