import Vboot.Lib.Run
import Vboot.Tpm.Fifo

/-! The ILA-backed TPM of CBMC/tpm-c: the circuit that tpm_export.c generates, the wrapper of
ila_tpm.c, the dispatcher of ila_run_cmd.c and the PCR commands of ila_pcr.c. -/
namespace Vboot.Tpm.Ila
open Vboot.Lib

/-- The fields of struct model_fifo that a transfer depends on, and pcr_data. -/
structure Port where
  fifoInAmt : Nat
  fifoInCmdsize : Nat
  fifoIndata : Mem
  fifoOutAmt : Nat
  fifoOutdata : Mem
  fifoState : FifoState
  pcrData : Mem

/-- The whole of struct model_fifo: dataout and fifo_sts are written by the circuit only. -/
structure ModelFifo extends Port where
  dataout : UInt64
  fifoSts : UInt64

def RD : UInt64 := 1
def WR : UInt64 := 2
def stsGo : UInt64 := 0x20
def stsCommandReady : UInt64 := 0x40
def stsAddr : UInt64 := 0x24
def fifoAddr : UInt64 := 0x18
def burstAddr : UInt64 := 0x1

/-- The conditions that the circuit computes, each into a local variable of its own. -/
inductive Row where
  /-- A write of data to the status register in a given state, with out bytes left to send. -/
  | sts (data : UInt64) (out : Nat) (state : FifoState)
  /-- The size byte of a command, in the sending state. -/
  | size (data : UInt64)
  /-- GO for a complete extend command. -/
  | run
  /-- An access in a given state. -/
  | reg (addr cmd : UInt64) (state : FifoState)
  deriving DecidableEq

/-- One call of tpm_update. The circuit leaves some of its locals unassigned and reads them all the
same; stale is what it finds there. -/
structure Op where
  cmd : UInt64
  addr : UInt64
  data : UInt64
  stale : Row → Bool

/-- Bytes 6..9 of the input buffer hold the ordinal 00 00 00 lo. -/
def Port.ordinalIs (p : Port) (lo : UInt8) : Bool :=
  p.fifoIndata 6 == 0 && p.fifoIndata 7 == 0 && p.fifoIndata 8 == 0 && p.fifoIndata 9 == lo

def Row.holds (p : Port) (op : Op) : Row → Bool
  | .sts data out state =>
    op.addr == stsAddr && op.cmd == WR && op.data == data && p.fifoOutAmt == out && p.fifoState == state
  | .size data =>
    op.addr == fifoAddr && p.fifoState == .sending && p.fifoInAmt == 5 && op.cmd == WR && op.data == data
  | .run =>
    op.addr == stsAddr && op.cmd == WR && op.data == stsGo && p.fifoState == .accepting &&
      p.fifoInAmt == p.fifoInCmdsize && p.ordinalIs 0x14
  | .reg addr cmd state => op.addr == addr && op.cmd == cmd && p.fifoState == state

def states : List FifoState := [.working, .sending, .full, .accepting, .idle]

def stsRows (data : UInt64) (out : Nat) : List Row := states.map (.sts data out)

def regRows (addr cmd : UInt64) : List Row := states.map (.reg addr cmd)

def stateRows (state : FifoState) : List Row :=
  [burstAddr, fifoAddr, stsAddr].flatMap fun addr => [2, 1, 0].map fun cmd => .reg addr cmd state

def resetRows : List Row :=
  stsRows stsGo 1 ++ stsRows stsGo 0 ++ stsRows stsCommandReady 1 ++ stsRows stsCommandReady 0

def sizeRows : List Row := [.size stsGo, .size stsCommandReady]

/-- The rows that take a data byte. -/
def pushRows : List Row := sizeRows ++ [.working, .sending, .accepting, .idle].map (.reg fifoAddr WR)

/-- The rows for which dataout is the burst count of a response. -/
def outRows : List Row :=
  stsRows stsGo 0 ++ stsRows stsCommandReady 0 ++ [.reg burstAddr RD .sending]

def zeroRows : List Row :=
  sizeRows ++ [.run] ++ stsRows stsGo 1 ++ stsRows stsCommandReady 1 ++ regRows burstAddr WR ++
    [.working, .full, .idle].map (.reg burstAddr RD) ++ regRows burstAddr 0 ++ regRows fifoAddr WR ++
    regRows fifoAddr RD ++ regRows fifoAddr 0 ++ regRows stsAddr WR ++ regRows stsAddr 0

/-- How deep in the nested conditionals for dataout the circuit assigns the local of a row. -/
def Row.level : Row → Nat
  | .sts _ 0 _ => 0
  | .reg addr cmd state =>
    if addr = burstAddr ∧ cmd = RD ∧ state = .sending then 0
    else if addr = burstAddr ∧ cmd = RD ∧ state = .accepting then 1
    else if addr = stsAddr ∧ cmd = RD then 2
    else 3
  | _ => 3

/-- How deep in those conditionals a call gets. -/
def depth (p : Port) (op : Op) : Nat :=
  if outRows.any (·.holds p op) then 0
  else if Row.holds p op (.reg burstAddr RD .accepting) then 1
  else if (regRows stsAddr RD).any (·.holds p op) then 2
  else 3

/-- The local variable of a row when the circuit reads it. -/
def Row.value (p : Port) (op : Op) (r : Row) : Bool :=
  if r.level ≤ depth p op then r.holds p op else op.stale r

/-- The generated circuit. -/
def update (op : Op) (s : ModelFifo) : ModelFifo :=
  let is (rows : List Row) : Bool := rows.any (·.value s.toPort op)
  { fifoInAmt :=
      if is resetRows then 0 else if is pushRows then (s.fifoInAmt + 1) % 256 else s.fifoInAmt
    fifoInCmdsize := if is sizeRows then op.data.toNat else s.fifoInCmdsize
    fifoIndata :=
      if is pushRows then Function.update s.fifoIndata s.fifoInAmt op.data.toUInt8 else s.fifoIndata
    fifoOutAmt :=
      if is [.run] then 30
      else if is (resetRows ++ [.reg fifoAddr RD .sending]) then 0
      else s.fifoOutAmt
    fifoOutdata := s.fifoOutdata
    fifoState :=
      if is (stateRows .working) then .working
      else if is (sizeRows ++ [.run] ++ stateRows .sending) then .sending
      else if is (stateRows .full) then .full
      else if is (stsRows stsCommandReady 1 ++ stsRows stsCommandReady 0 ++ stateRows .accepting) then
        .accepting
      else if is (stsRows stsGo 1 ++ stsRows stsGo 0 ++ stateRows .idle) then .idle
      else s.fifoState
    pcrData := s.pcrData
    dataout :=
      if is outRows then UInt64.ofNat s.fifoOutAmt
      else if is [.reg burstAddr RD .accepting] then (126 - UInt64.ofNat s.fifoInAmt) &&& 0xff
      else if is (regRows stsAddr RD) then s.fifoSts
      else if is zeroRows then 0
      else s.dataout
    fifoSts :=
      if is [.run] then 0x80 ||| 0x10
      else if is (stateRows .working) then 0
      else if is (sizeRows ++ stsRows stsCommandReady 1 ++ stsRows stsCommandReady 0 ++
          stateRows .accepting) then 0x80 ||| 0x08
      else if is (stsRows stsGo 1 ++ stsRows stsGo 0 ++ stateRows .sending ++ stateRows .full ++
          stateRows .idle) then 0x80
      else s.fifoSts }

def Port.pcr (p : Port) (i : Nat) : Digest := Vector.ofFn fun k => p.pcrData (20 * i + k)

def Port.inDigest (p : Port) : Digest := Vector.ofFn fun k => p.fifoIndata (14 + k)

def Port.pcrIndex (p : Port) : Nat := (p.fifoIndata 13).toNat

section
variable (sha1 : List UInt8 → Digest)

def pcrExtend (p : Port) : Int × Port :=
  if 23 < p.pcrIndex then (-1, p)
  else
    let chosen := sha1 ((p.pcr p.pcrIndex).toList ++ p.inDigest.toList)
    (0, { p with
      pcrData := p.pcrData.store (20 * p.pcrIndex) chosen.toList
      fifoOutdata := pcrResponse p.fifoOutdata chosen
      fifoOutAmt := 30 })

def pcrRead (p : Port) : Int × Port :=
  if 23 < p.pcrIndex then (-1, p)
  else (0, { p with
    fifoOutdata := pcrResponse p.fifoOutdata (p.pcr p.pcrIndex)
    fifoOutAmt := 30 })

/-- Run one command and note in the local cmd_worked whether it returned 0. -/
def runIf (c : Bool) (f : Port → Int × Port) (w : Bool × Port) : Bool × Port :=
  if c then
    let (ret, p) := f w.2
    (w.1 || ret = 0, p)
  else w

def dispatch (p : Port) : Bool × Port :=
  if p.fifoState = .accepting ∧ p.fifoInAmt = p.fifoInCmdsize then
    let (worked, p) := runIf (p.ordinalIs 0x14) (pcrExtend sha1) (false, p)
    runIf (p.ordinalIs 0x15) pcrRead (worked, p)
  else (false, p)

/-- The response to a command that was not run. -/
def malformed (p : Port) : Port :=
  { p with
    fifoState := .sending
    fifoInAmt := 0
    fifoOutdata := Function.update (Function.update (Function.update p.fifoOutdata 8 0xc4) 4 9) 1 0xff
    fifoOutAmt := 9 }

def ilarunCmd (p : Port) : Port :=
  let (worked, p) := dispatch sha1 p
  if worked then { p with fifoState := .sending } else malformed p

def commandReady (p : Port) : Port :=
  { p with fifoState := .accepting, fifoInAmt := 0, fifoOutAmt := 0 }

/- The test of the state in both register reads is written as an assignment, so a read puts the
   device into the sending state and never takes the other branch. -/
def readFifo (p : Port) : Option UInt32 × Port :=
  let p := { p with fifoState := .sending }
  if 0 < p.fifoOutAmt then
    (some (p.fifoOutdata p.fifoOutAmt).toUInt32, { p with fifoOutAmt := p.fifoOutAmt - 1 })
  else (some 0xDE, p)

def readBurst (p : Port) : Option UInt32 × Port :=
  let p := { p with fifoState := .sending }
  (some (UInt32.ofNat p.fifoOutAmt), p)

/-- The size byte, taken by the wrapper before the circuit sees the access. -/
def takeSize (op : Op) (p : Port) : Port :=
  { p with
    fifoInCmdsize :=
      if op.cmd = WR ∧ op.addr = fifoAddr ∧ p.fifoInAmt = 5 then op.data.toNat else p.fifoInCmdsize }

/-- One register access. Calls that reach the end of tpm_update return no value. -/
def tpmUpdate (op : Op) (s : ModelFifo) : Option UInt32 × ModelFifo :=
  if op.cmd = WR ∧ op.addr = stsAddr ∧ op.data = stsCommandReady then
    (none, { s with toPort := commandReady s.toPort })
  else if op.cmd = WR ∧ op.addr = stsAddr ∧ op.data = stsGo then
    (none, { s with toPort := ilarunCmd sha1 s.toPort })
  else if op.cmd = RD ∧ op.addr = fifoAddr then
    ((readFifo s.toPort).1, { s with toPort := (readFifo s.toPort).2 })
  else if op.cmd = RD ∧ op.addr = burstAddr then
    ((readBurst s.toPort).1, { s with toPort := (readBurst s.toPort).2 })
  else (none, update op { s with toPort := takeSize op s.toPort })

/-- The buffers come from malloc and start with any contents. -/
def tpmInit (indata outdata : Mem) : ModelFifo where
  fifoInAmt := 0
  fifoInCmdsize := 0
  fifoIndata := indata
  fifoOutAmt := 0
  fifoOutdata := outdata
  fifoState := .idle
  pcrData := fun _ => 0
  dataout := 0
  fifoSts := 0

/-- A status read that finds its unassigned locals clear. Every other access assigns the locals that
it uses. -/
def Op.Clean (op : Op) : Prop := op.cmd = RD → op.addr = stsAddr → ∀ r, op.stale r = false

/-- A data byte, wherever the input pointer stands; only the full state refuses it. -/
def push (data : UInt64) (p : Port) : Port :=
  if p.fifoState = .full then p
  else { p with
    fifoInAmt := (p.fifoInAmt + 1) % 256
    fifoIndata := Function.update p.fifoIndata p.fifoInAmt data.toUInt8 }

/-- What an access does, without the circuit. -/
def access (op : Op) (p : Port) : Option UInt32 × Port :=
  if op.cmd = WR ∧ op.addr = stsAddr ∧ op.data = stsCommandReady then (none, commandReady p)
  else if op.cmd = WR ∧ op.addr = stsAddr ∧ op.data = stsGo then (none, ilarunCmd sha1 p)
  else if op.cmd = RD ∧ op.addr = fifoAddr then readFifo p
  else if op.cmd = RD ∧ op.addr = burstAddr then readBurst p
  else if op.cmd = WR ∧ op.addr = fifoAddr then (none, push op.data (takeSize op p))
  else (none, p)

end

/-- The accesses that the wrapper leaves to the circuit. -/
structure Op.Left (op : Op) : Prop where
  ready : ¬(op.cmd = WR ∧ op.addr = stsAddr ∧ op.data = stsCommandReady)
  go : ¬(op.cmd = WR ∧ op.addr = stsAddr ∧ op.data = stsGo)
  fifo : ¬(op.cmd = RD ∧ op.addr = fifoAddr)
  burst : ¬(op.cmd = RD ∧ op.addr = burstAddr)

variable {op : Op}

theorem Op.Left.sts_holds (h : op.Left) (p : Port) {data : UInt64}
    (hd : data = stsGo ∨ data = stsCommandReady) (out : Nat) (state : FifoState) :
    Row.holds p op (.sts data out state) = false := by
  have hready := h.ready
  have hgo := h.go
  rcases hd with rfl | rfl <;> simp only [Row.holds] <;> grind

theorem Op.Left.run_holds (h : op.Left) (p : Port) : Row.holds p op .run = false := by
  have hgo := h.go
  simp only [Row.holds]
  grind

theorem Row.level_le (r : Row) : r.level ≤ 3 := by
  fun_cases Row.level r <;> omega

theorem Op.Left.depth_eq (h : op.Left) (p : Port) :
    depth p op = if op.cmd = RD ∧ op.addr = stsAddr then 2 else 3 := by
  have hburst := h.burst
  have hread (state : FifoState) : Row.holds p op (.reg burstAddr RD state) = false := by
    simp only [Row.holds]
    grind
  have hany : (regRows stsAddr RD).any (·.holds p op) = decide (op.cmd = RD ∧ op.addr = stsAddr) := by
    rw [Bool.eq_iff_iff]
    cases hs : p.fifoState <;> simp [regRows, states, Row.holds, hs, and_comm]
  simp [depth, outRows, stsRows, h.sts_holds, hread, hany]

theorem Op.Left.value_eq (h : op.Left) (hc : op.Clean) (p : Port) (r : Row) :
    r.value p op = r.holds p op := by
  simp only [Row.value, h.depth_eq]
  by_cases hr : op.cmd = RD ∧ op.addr = stsAddr
  · by_cases hl : r.level ≤ 2
    · simp [hr, hl]
    · have hholds : r.holds p op = false := by
        cases r <;> simp_all [Row.level, Row.holds, RD, WR, stsAddr, fifoAddr, burstAddr]
        grind
      simp [hr, hl, hholds, hc hr.1 hr.2 r]
  · simp [hr, r.level_le]

theorem any_pushRows (p : Port) (op : Op) :
    pushRows.any (·.holds p op) = decide (op.cmd = WR ∧ op.addr = fifoAddr ∧ p.fifoState ≠ .full) := by
  rw [Bool.eq_iff_iff]
  cases hs : p.fifoState <;> simp [pushRows, sizeRows, Row.holds, hs] <;> grind

theorem any_sizeRows {p : Port} (h : sizeRows.any (·.holds p op)) :
    op.cmd = WR ∧ op.addr = fifoAddr ∧ p.fifoState = .sending ∧ p.fifoInAmt = 5 := by
  simp only [sizeRows, Row.holds, List.any_cons, List.any_nil, Bool.or_false, Bool.or_eq_true,
    Bool.and_eq_true, beq_iff_eq] at h
  grind

theorem any_stateRows (p : Port) (op : Op) {state : FifoState} (h : state ≠ p.fifoState) :
    (stateRows state).any (·.holds p op) = false := by
  simp [stateRows, Row.holds, Ne.symm h]

theorem any_stsRows (h : op.Left) (p : Port) {data : UInt64} (hd : data = stsGo ∨ data = stsCommandReady)
    (out : Nat) : (stsRows data out).any (·.holds p op) = false := by
  simp [stsRows, h.sts_holds p hd]

theorem Op.Left.update_state (h : op.Left) (hc : op.Clean) (s : ModelFifo) :
    (update op s).fifoState = s.fifoState := by
  have hgo := any_stsRows h s.toPort (.inl rfl)
  have hready := any_stsRows h s.toPort (.inr rfl)
  have hsize : sizeRows.any (·.holds s.toPort op) = true → s.fifoState = .sending :=
    fun hany => (any_sizeRows hany).2.2.1
  have hrows (state : FifoState) :
      (stateRows state).any (·.holds s.toPort op) = true → s.fifoState = state := by
    intro hany
    by_contra hne
    simp [any_stateRows s.toPort op (Ne.symm hne)] at hany
  simp only [update, h.value_eq hc, List.any_append, List.any_cons, List.any_nil, hgo, hready, h.run_holds,
    Bool.false_or, Bool.or_false, Bool.or_eq_true]
  grind

/-- An access that the wrapper leaves to the circuit is a data byte or changes nothing that a transfer
depends on. -/
theorem Op.Left.update_port (h : op.Left) (hc : op.Clean) (s : ModelFifo)
    (hsize : op.cmd = WR ∧ op.addr = fifoAddr ∧ s.fifoInAmt = 5 → s.fifoInCmdsize = op.data.toNat) :
    (update op s).toPort = if op.cmd = WR ∧ op.addr = fifoAddr then push op.data s.toPort else s.toPort := by
  have hstate := h.update_state hc s
  have hgo := any_stsRows h s.toPort (.inl rfl)
  have hready := any_stsRows h s.toPort (.inr rfl)
  have hread : Row.holds s.toPort op (.reg fifoAddr RD .sending) = false := by
    have hfifo := h.fifo
    simp only [Row.holds]
    grind
  have hcmdsize : (if sizeRows.any (·.holds s.toPort op) then op.data.toNat else s.fifoInCmdsize) =
      s.fifoInCmdsize := by
    split
    case isTrue hany =>
      obtain ⟨hcmd, haddr, -, hin⟩ := any_sizeRows hany
      exact (hsize ⟨hcmd, haddr, hin⟩).symm
    case isFalse => rfl
  simp only [update, h.value_eq hc, resetRows, List.any_append, List.any_cons, List.any_nil, hgo, hready,
    h.run_holds, hread, any_pushRows, hcmdsize, Bool.false_or, Bool.or_false] at hstate ⊢
  rw [hstate]
  by_cases hb : op.cmd = WR ∧ op.addr = fifoAddr
  · by_cases hf : s.fifoState = .full
    · have hpush : ¬(op.cmd = WR ∧ op.addr = fifoAddr ∧ s.fifoState ≠ .full) := fun hp => hp.2.2 hf
      rw [if_pos hb, push, if_pos hf]
      simp [hpush]
    · simp [push, hb, hf]
  · have hpush : ¬(op.cmd = WR ∧ op.addr = fifoAddr ∧ s.fifoState ≠ .full) := fun hp => hb ⟨hp.1, hp.2.1⟩
    simp [hb, hpush]

theorem tpmUpdate_access (sha1 : List UInt8 → Digest) (hc : op.Clean) (s : ModelFifo) :
    (tpmUpdate sha1 op s).1 = (access sha1 op s.toPort).1 ∧
      (tpmUpdate sha1 op s).2.toPort = (access sha1 op s.toPort).2 := by
  simp only [tpmUpdate, access]
  split
  · exact ⟨rfl, rfl⟩
  split
  · exact ⟨rfl, rfl⟩
  split
  · exact ⟨rfl, rfl⟩
  split
  · exact ⟨rfl, rfl⟩
  case isFalse hready hgo hfifo hburst =>
    have hleft : op.Left := ⟨hready, hgo, hfifo, hburst⟩
    rw [hleft.update_port hc _ (fun hb => if_pos hb)]
    split
    · exact ⟨rfl, rfl⟩
    case isFalse hb =>
      refine ⟨rfl, ?_⟩
      have hsize : ¬(op.cmd = WR ∧ op.addr = fifoAddr ∧ s.fifoInAmt = 5) := fun hs => hb ⟨hs.1, hs.2.1⟩
      simp only [takeSize, if_neg hsize]

/-- Two devices that differ at most in how they wait, outside the accepting state. -/
structure Similar (p q : Port) : Prop where
  rest : { p with fifoState := .idle } = { q with fifoState := .idle }
  accepting : p.fifoState = .accepting ↔ q.fifoState = .accepting
  notFull : p.fifoState ≠ .full ∧ q.fifoState ≠ .full

section
variable (sha1 : List UInt8 → Digest)

variable {p q : Port}

theorem push_of_not_full (data : UInt64) (h : p.fifoState ≠ .full) :
    push data p = { p with
      fifoInAmt := (p.fifoInAmt + 1) % 256
      fifoIndata := Function.update p.fifoIndata p.fifoInAmt data.toUInt8 } :=
  if_neg h

theorem ilarunCmd_of_not_accepting (h : p.fifoState ≠ .accepting) : ilarunCmd sha1 p = malformed p := by
  simp [ilarunCmd, dispatch, h]

theorem ilarunCmd_state (p : Port) : (ilarunCmd sha1 p).fifoState = .sending := by
  simp only [ilarunCmd]
  split <;> rfl

theorem Similar.eq_of_accepting (h : Similar p q) (ha : p.fifoState = .accepting) : p = q := by
  have hrest := h.rest
  have hq := h.accepting.mp ha
  cases p
  cases q
  simp_all

theorem Similar.ilarunCmd_eq (h : Similar p q) : ilarunCmd sha1 p = ilarunCmd sha1 q := by
  by_cases ha : p.fifoState = .accepting
  · rw [h.eq_of_accepting ha]
  · rw [ilarunCmd_of_not_accepting sha1 ha, ilarunCmd_of_not_accepting sha1 (mt h.accepting.mpr ha)]
    have hrest := h.rest
    simp only [malformed, Port.mk.injEq] at hrest ⊢
    simp [hrest]

theorem Similar.access (h : Similar p q) (op : Op) :
    (access sha1 op p).1 = (access sha1 op q).1 ∧ Similar (access sha1 op p).2 (access sha1 op q).2 := by
  have hrest := h.rest
  simp only [Port.mk.injEq] at hrest
  obtain ⟨hin, hsize, hindata, hout, houtdata, -, hpcr⟩ := hrest
  simp only [Ila.access]
  split
  · refine ⟨rfl, ?_, ?_, ?_⟩ <;> simp [commandReady, *]
  split
  · rw [h.ilarunCmd_eq sha1]
    refine ⟨rfl, rfl, Iff.rfl, ?_⟩
    simp [ilarunCmd_state]
  split
  · simp only [readFifo, hout, houtdata]
    split
    · exact ⟨rfl, by simp [*], by simp, by simp⟩
    · exact ⟨rfl, by simp [*], by simp, by simp⟩
  split
  · simp only [readBurst, hout]
    exact ⟨trivial, by simp [*], by simp, by simp⟩
  split
  · rw [push_of_not_full (p := takeSize op p) op.data h.notFull.1,
      push_of_not_full (p := takeSize op q) op.data h.notFull.2]
    exact ⟨rfl, by simp [takeSize, *], h.accepting, h.notFull⟩
  · exact ⟨rfl, h⟩

/-- The input buffer never reports full: the input amount wraps at 256 instead. -/
structure Ready (p : Port) : Prop where
  notFull : p.fifoState ≠ .full
  inAmt : p.fifoInAmt < 256

theorem Ready.ilarunCmd (h : Ready p) : Ready (ilarunCmd sha1 p) := by
  refine ⟨by simp [ilarunCmd_state], ?_⟩
  have hin := h.inAmt
  have hdispatch : (dispatch sha1 p).2.fifoInAmt = p.fifoInAmt := by
    simp only [dispatch, runIf, pcrExtend, pcrRead]
    grind
  simp only [Ila.ilarunCmd]
  split
  · simpa [hdispatch] using hin
  · simp [malformed]

theorem Ready.access (h : Ready p) (op : Op) : Ready (access sha1 op p).2 := by
  have hin := h.inAmt
  simp only [Ila.access]
  split
  · exact ⟨by simp [commandReady], by simp [commandReady]⟩
  split
  · exact h.ilarunCmd sha1
  split
  · simp only [readFifo]
    split <;> exact ⟨by simp, hin⟩
  split
  · exact ⟨by simp [readBurst], hin⟩
  split
  · rw [push_of_not_full (p := takeSize op p) op.data h.notFull]
    exact ⟨h.notFull, Nat.mod_lt _ (by decide)⟩
  · exact h

/-- The reads that the driver may make at any time: status and burst count, and the FIFO while no
output is pending. -/
def ExtraRead (p : Port) (op : Op) : Prop :=
  op.cmd = RD ∧ (op.addr = stsAddr ∨ op.addr = burstAddr ∨ op.addr = fifoAddr ∧ p.fifoOutAmt = 0)

theorem ExtraRead.access (h : ExtraRead p op) :
    (access sha1 op p).2 = if op.addr = stsAddr then p else { p with fifoState := .sending } := by
  obtain ⟨hcmd, haddr⟩ := h
  rcases haddr with ha | ha | ⟨ha, hout⟩
  · simp [Ila.access, hcmd, ha, RD, WR, stsAddr, fifoAddr, burstAddr]
  · simp [Ila.access, hcmd, ha, RD, WR, stsAddr, fifoAddr, burstAddr, readBurst]
  · simp [Ila.access, hcmd, ha, RD, WR, stsAddr, fifoAddr, readFifo, hout]

def portStep (p : Port) (op : Op) : Port := (access sha1 op p).2

def step (s : ModelFifo) (op : Op) : ModelFifo := (tpmUpdate sha1 op s).2

/-- The values that the calls of a run return. -/
def results (s : ModelFifo) (ops : List Op) : List (Option UInt32) :=
  log (step sha1) (fun s op => some (tpmUpdate sha1 op s).1) s ops

def portResults (p : Port) (ops : List Op) : List (Option UInt32) :=
  log (portStep sha1) (fun p op => some (access sha1 op p).1) p ops

theorem results_eq {ops : List Op} (hc : ∀ op ∈ ops, op.Clean) (s : ModelFifo) :
    results sha1 s ops = portResults sha1 s.toPort ops ∧
      (run (step sha1) s ops).toPort = run (portStep sha1) s.toPort ops := by
  have hstep (s : ModelFifo) (p : Port) (op : Op) (hr : s.toPort = p) (hop : op.Clean) :
      some (tpmUpdate sha1 op s).1 = some (access sha1 op p).1 ∧ (step sha1 s op).toPort = portStep sha1 p op := by
    subst hr
    obtain ⟨hres, hport⟩ := tpmUpdate_access sha1 hop s
    exact ⟨congrArg some hres, hport⟩
  exact log_related hstep hc rfl

theorem Similar.portResults (h : Similar p q) (ops : List Op) :
    portResults sha1 p ops = portResults sha1 q ops := by
  have hstep (p q : Port) (op : Op) (hr : Similar p q) (_ : True) :
      some (Ila.access sha1 op p).1 = some (Ila.access sha1 op q).1 ∧
        Similar (portStep sha1 p op) (portStep sha1 q op) := by
    obtain ⟨hres, hport⟩ := hr.access sha1 op
    exact ⟨congrArg some hres, hport⟩
  exact (log_related hstep (fun _ _ => trivial) h).1

/-- Extra reads end in the sending state if one of them was not of the status, and change nothing else. -/
theorem run_extraReads {es : List Op} (h : Along (portStep sha1) ExtraRead p es) :
    run (portStep sha1) p es =
      if ∃ e ∈ es, e.addr ≠ stsAddr then { p with fifoState := .sending } else p := by
  induction es generalizing p with
  | nil => rfl
  | cons e es ih =>
    have hstep : portStep sha1 p e = if e.addr = stsAddr then p else { p with fifoState := .sending } :=
      h.1.access sha1
    change run (portStep sha1) (portStep sha1 p e) es = _
    rw [ih h.2, hstep]
    by_cases he : e.addr = stsAddr
    · simp [he]
    · simp [he]

def writeByte (data : UInt64) : Op := ⟨WR, fifoAddr, data, fun _ => false⟩

def go : Op := ⟨WR, stsAddr, stsGo, fun _ => false⟩

def readCount : Op := ⟨RD, burstAddr, 0, fun _ => false⟩

theorem portStep_writeByte (data : UInt64) (h : p.fifoState ≠ .full) :
    portStep sha1 p (writeByte data) = { p with
      fifoInAmt := (p.fifoInAmt + 1) % 256
      fifoInCmdsize := if p.fifoInAmt = 5 then data.toNat else p.fifoInCmdsize
      fifoIndata := Function.update p.fifoIndata p.fifoInAmt data.toUInt8 } := by
  have hpush := push_of_not_full (p := takeSize (writeByte data) p) data h
  simp [portStep, Ila.access, writeByte, WR, RD, fifoAddr, stsAddr, takeSize] at hpush ⊢
  exact hpush

theorem run_writeByte (ds : List UInt64) (h : Ready p) :
    (run (portStep sha1) p (ds.map writeByte)).fifoState = p.fifoState ∧
      (run (portStep sha1) p (ds.map writeByte)).fifoInAmt = (p.fifoInAmt + ds.length) % 256 := by
  induction ds generalizing p with
  | nil => exact ⟨rfl, (Nat.mod_eq_of_lt h.inAmt).symm⟩
  | cons d ds ih =>
    have hnext : Ready (portStep sha1 p (writeByte d)) := h.access sha1 (writeByte d)
    obtain ⟨hstate, hin⟩ := ih hnext
    have hone := portStep_writeByte sha1 d h.notFull
    have hamt : (portStep sha1 p (writeByte d)).fifoInAmt = (p.fifoInAmt + 1) % 256 :=
      congrArg Port.fifoInAmt hone
    have hsame : (portStep sha1 p (writeByte d)).fifoState = p.fifoState := by rw [hone]
    refine ⟨hstate.trans hsame, hin.trans ?_⟩
    rw [hamt, List.length_cons]
    omega

/-- The bytes of a request to read PCR 0. -/
def readRequest : List UInt64 := [0x00, 0xC1, 0x00, 0x00, 0x00, 0x0E, 0x00, 0x00, 0x00, 0x15, 0x00, 0x00, 0x00, 0x00]

theorem run_readRequest (h : Ready p) (hin : p.fifoInAmt = 0) :
    (run (portStep sha1) p (readRequest.map writeByte ++ [go])).fifoOutAmt =
      if p.fifoState = .accepting then 30 else 9 := by
  have hgo (p : Port) : portStep sha1 p go = Ila.ilarunCmd sha1 p := by
    simp [portStep, Ila.access, go, stsGo, stsCommandReady]
  have hfull := h.notFull
  simp only [readRequest, List.map, List.cons_append, List.nil_append, run, hgo]
  simp only [portStep_writeByte, ne_eq, hfull, hin, not_false_eq_true]
  by_cases ha : p.fifoState = .accepting
  · simp [Ila.ilarunCmd, dispatch, runIf, Port.ordinalIs, pcrRead, Port.pcrIndex, ha]
  · rw [ilarunCmd_of_not_accepting sha1, if_neg ha]
    · rfl
    · exact ha

/-- Bytes that bring the input amount back to zero. -/
def padding (p : Port) : List UInt64 := List.replicate ((256 - p.fifoInAmt) % 256) 0

/-- A request and a look at the length of its response, which tell the accepting state from the others. -/
def probe (p : Port) : List Op := (padding p).map writeByte ++ (readRequest.map writeByte ++ [go]) ++ [readCount]

theorem probe_clean (p : Port) : ∀ op ∈ probe p, op.Clean := by
  intro op hop hcmd haddr r
  simp only [probe, List.mem_append, List.mem_map, List.mem_singleton] at hop
  rcases hop with (⟨d, -, rfl⟩ | ⟨d, -, rfl⟩ | rfl) | rfl <;> rfl

theorem portResults_probe (h : Ready p) (q : Port) (hq : q.fifoInAmt = p.fifoInAmt) :
    ∃ u : List (Option UInt32), portResults sha1 p (probe q) =
      u ++ [some (if p.fifoState = .accepting then 30 else 9)] := by
  obtain ⟨hstate, hin⟩ := run_writeByte sha1 (padding q) h
  have hready : Ready (run (portStep sha1) p ((padding q).map writeByte)) :=
    run_invariant (fun _ op hp => hp.access sha1 op) _ _ h
  have hzero : (run (portStep sha1) p ((padding q).map writeByte)).fifoInAmt = 0 := by
    have hamt := h.inAmt
    rw [hin, padding, List.length_replicate, hq]
    omega
  have hout := run_readRequest sha1 hready hzero
  rw [hstate] at hout
  rw [← run_append] at hout
  have hcount (p : Port) : (Ila.access sha1 readCount p).1 = some (UInt32.ofNat p.fifoOutAmt) := rfl
  refine ⟨log (portStep sha1) (fun p op => some (Ila.access sha1 op p).1) p
    ((padding q).map writeByte ++ (readRequest.map writeByte ++ [go])), ?_⟩
  rw [portResults, probe, log_append]
  simp only [log, hcount, hout, Option.toList_some, List.append_nil]
  split <;> rfl

theorem along_port {es : List Op} (hc : ∀ op ∈ es, op.Clean) {s : ModelFifo}
    (h : Along (step sha1) (fun s op => ExtraRead s.toPort op) s es) :
    Along (portStep sha1) ExtraRead s.toPort es := by
  induction es generalizing s with
  | nil => trivial
  | cons e es ih =>
    have hport : (step sha1 s e).toPort = portStep sha1 s.toPort e :=
      (tpmUpdate_access sha1 (hc e List.mem_cons_self) s).2
    refine ⟨h.1, ?_⟩
    rw [← hport]
    exact ih (fun op hop => hc op (List.mem_cons_of_mem e hop)) h.2

/-- The state after a run of calls from tpm_init. -/
def reached (indata outdata : Mem) (ops : List Op) : ModelFifo := run (step sha1) (tpmInit indata outdata) ops

theorem reached_ready (indata outdata : Mem) {ops : List Op} (hc : ∀ op ∈ ops, op.Clean) :
    Ready (reached sha1 indata outdata ops).toPort := by
  rw [reached, (results_eq sha1 hc _).2]
  exact run_invariant (fun _ op hp => hp.access sha1 op) _ _ ⟨by simp [tpmInit], by simp [tpmInit]⟩

/-- Reads between two calls are harmless exactly outside the accepting state: there a burst-count or
FIFO read ends the transfer, and the rest of the command is refused. -/
theorem extraReads_iff (indata outdata : Mem) (before es : List Op) (hb : ∀ op ∈ before, op.Clean)
    (hc : ∀ op ∈ es, op.Clean)
    (he : Along (step sha1) (fun s op => ExtraRead s.toPort op) (reached sha1 indata outdata before) es) :
    (∀ after : List Op, (∀ op ∈ after, op.Clean) →
      results sha1 (reached sha1 indata outdata (before ++ es)) after =
        results sha1 (reached sha1 indata outdata before) after) ↔
    ¬((reached sha1 indata outdata before).fifoState = .accepting ∧ ∃ e ∈ es, e.addr ≠ stsAddr) := by
  have hready := reached_ready sha1 indata outdata hb
  have hreads : (reached sha1 indata outdata (before ++ es)).toPort =
      if ∃ e ∈ es, e.addr ≠ stsAddr then
        { (reached sha1 indata outdata before).toPort with fifoState := .sending }
      else (reached sha1 indata outdata before).toPort := by
    rw [reached, run_append, (results_eq sha1 hc _).2]
    exact run_extraReads sha1 (along_port sha1 hc he)
  generalize reached sha1 indata outdata before = s at *
  generalize reached sha1 indata outdata (before ++ es) = t at *
  constructor
  · rintro h ⟨ha, hother⟩
    rw [if_pos hother] at hreads
    have hclean := probe_clean s.toPort
    have hsame := h (probe s.toPort) hclean
    rw [(results_eq sha1 hclean t).1, (results_eq sha1 hclean s).1, hreads] at hsame
    obtain ⟨u, hu⟩ := portResults_probe sha1 hready s.toPort rfl
    obtain ⟨v, hv⟩ := portResults_probe sha1
      (p := { s.toPort with fifoState := .sending }) ⟨by simp, hready.inAmt⟩ s.toPort rfl
    rw [hu, hv] at hsame
    have hlast := (List.append_inj' hsame rfl).2
    simp [ha] at hlast
  · intro h after hafter
    rw [(results_eq sha1 hafter t).1, (results_eq sha1 hafter s).1]
    by_cases hother : ∃ e ∈ es, e.addr ≠ stsAddr
    · have ha : s.fifoState ≠ .accepting := fun ha => h ⟨ha, hother⟩
      rw [if_pos hother] at hreads
      rw [hreads]
      have hsimilar : Similar { s.toPort with fifoState := .sending } s.toPort :=
        ⟨rfl, by simp [ha], by simp, hready.notFull⟩
      exact hsimilar.portResults sha1 after
    · rw [if_neg hother] at hreads
      rw [hreads]

end

/-- A hash for runs that extend nothing. -/
def noSha1 : List UInt8 → Digest := fun _ => Vector.replicate 20 0

def readStatus : Op := ⟨RD, stsAddr, 0, fun _ => false⟩

def ready : Op := ⟨WR, stsAddr, stsCommandReady, fun _ => false⟩

theorem extraReads_sent : (reached noSha1 (fun _ => 0) (fun _ => 0) [ready, go]).fifoState ≠ .accepting ∧
    ∀ after : List Op, (∀ op ∈ after, op.Clean) →
      results noSha1 (reached noSha1 (fun _ => 0) (fun _ => 0) ([ready, go] ++ [readStatus, readCount])) after =
        results noSha1 (reached noSha1 (fun _ => 0) (fun _ => 0) [ready, go]) after := by
  have hclean : ∀ op ∈ [ready, go, readStatus, readCount], op.Clean := by
    intro op hop _ _ r
    simp only [List.mem_cons, List.not_mem_nil, or_false] at hop
    rcases hop with rfl | rfl | rfl | rfl <;> rfl
  refine ⟨by decide, (extraReads_iff noSha1 (fun _ => 0) (fun _ => 0) [ready, go] [readStatus, readCount]
    (fun op hop => hclean op ?_) (fun op hop => hclean op ?_) ?_).mpr ?_⟩
  · exact List.mem_append_left [readStatus, readCount] hop
  · exact List.mem_append_right [ready, go] hop
  · exact ⟨⟨rfl, .inl rfl⟩, ⟨rfl, .inr (.inl rfl)⟩, trivial⟩
  · decide

/-- A burst-count read between the last byte of a request and GO: the request is refused. -/
theorem burst_read_aborts :
    results noSha1 (reached noSha1 (fun _ => 0) (fun _ => 0) (ready :: readRequest.map writeByte))
        [go, readCount] = [none, some 30] ∧
      results noSha1 (reached noSha1 (fun _ => 0) (fun _ => 0) (ready :: readRequest.map writeByte ++ [readCount]))
        [go, readCount] = [none, some 9] := by
  decide +kernel

end Vboot.Tpm.Ila
