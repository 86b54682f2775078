import Vboot.Tpm.Pcr

/-! The reference for the register interface in Python, ILA/fifo_sim.py with the commands of
ILA/tpm_cmd_pcr.py and the constants of ILA/fifo_def.py, and that tpm_update answers as it does.
An exception is none. -/
namespace Vboot.Tpm.Reference
open Vboot.Lib

def RD : Nat := 1
def WR : Nat := 2
def stsAddr : Nat := 0x24
def fifoAddr : Nat := 0x18
def burstAddr : Nat := 0x1
def stsValid : Nat := 0x80
def stsDataAvail : Nat := 0x10
def stsDataExpect : Nat := 0x08
def stsGo : Nat := 0x20
def stsCommandReady : Nat := 0x40
def cmdSize : Nat := 0x1e

/-- The object fifo, with the module variable pcr_data. The lists have 126 items, and the PCRs are
24 lists of 20. -/
structure Fifo where
  fifoState : FifoState
  fifoSts : Nat
  fifoInAmt : Nat
  fifoInCmdsize : Nat
  fifoIndata : Nat → Nat
  fifoOutAmt : Nat
  fifoOutdata : Nat → Nat
  pcrData : Nat → Nat → Nat

def Fifo.init : Fifo where
  fifoState := .idle
  fifoSts := 0
  fifoInAmt := 0
  fifoInCmdsize := 0
  fifoIndata := fun _ => 0
  fifoOutAmt := 0
  fifoOutdata := fun _ => 0
  pcrData := fun _ _ => 0

def getItem {α : Type} (n : Nat) (list : Nat → α) (i : Nat) : Option α :=
  if i < n then some (list i) else none

def setItem {α : Type} (n : Nat) (list : Nat → α) (i : Nat) (v : α) : Option (Nat → α) :=
  if i < n then some (Function.update list i v) else none

def chr (n : Nat) : Option UInt8 := if n < 256 then some (UInt8.ofNat n) else none

/-- The tag and the size of a response. -/
def setHeader (outdata : Nat → Nat) : Option (Nat → Nat) := do
  let outdata ← setItem fifoMaxAmt outdata (cmdSize - 1) 0xc4
  setItem fifoMaxAmt outdata (cmdSize - 5) cmdSize

section
variable (sha1 : List UInt8 → Digest)

def pcrExtend (s : Fifo) : Option Fifo := do
  let pcrIndex ← getItem fifoMaxAmt s.fifoIndata 13
  let row ← getItem 24 s.pcrData pcrIndex
  let old ← (List.range 20).mapM fun i => getItem 20 row i >>= chr
  let new ← (List.range 20).mapM fun i => getItem fifoMaxAmt s.fifoIndata (14 + i) >>= chr
  let outdata ← setHeader s.fifoOutdata
  let digest := (sha1 (old ++ new)).toList
  let outdata ← (List.range 20).foldlM
    (fun outdata i => setItem fifoMaxAmt outdata (cmdSize - 10 - i) (digest.getD i 0).toNat) outdata
  let row ← (List.range 20).foldlM (fun row i => setItem 20 row i (digest.getD i 0).toNat) row
  return { s with
    fifoOutAmt := cmdSize
    fifoOutdata := outdata
    pcrData := Function.update s.pcrData pcrIndex row }

def pcrRead (s : Fifo) : Option Fifo := do
  let pcrIndex ← getItem fifoMaxAmt s.fifoIndata 13
  let outdata ← setHeader s.fifoOutdata
  let outdata ← (List.range 20).foldlM (fun outdata i => do
    let row ← getItem 24 s.pcrData pcrIndex
    setItem fifoMaxAmt outdata (cmdSize - 10 - i) (← getItem 20 row i)) outdata
  return { s with fifoOutAmt := cmdSize, fifoOutdata := outdata }

def Fifo.ordinalIs (s : Fifo) (lo : Nat) : Bool :=
  s.fifoIndata 6 == 0 && s.fifoIndata 7 == 0 && s.fifoIndata 8 == 0 && s.fifoIndata 9 == lo

/-- Run a command, with whether one has been run. -/
def runIf (c : Bool) (f : Fifo → Option Fifo) (r : Bool × Fifo) : Option (Bool × Fifo) :=
  if c then (f r.2).map (true, ·) else some r

def dispatch (s : Fifo) : Option (Bool × Fifo) :=
  if s.fifoState = .accepting ∧ s.fifoInAmt = s.fifoInCmdsize then do
    let r ← runIf (s.ordinalIs 0x14) (pcrExtend sha1) (false, s)
    runIf (r.2.ordinalIs 0x15) pcrRead r
  else some (false, s)

/-- A malformed command resets the state. -/
def runCmd (s : Fifo) : Option Fifo := do
  let (cmdWorked, s) ← dispatch sha1 s
  return if cmdWorked then { s with fifoState := .sending }
    else { s with fifoState := .idle, fifoInAmt := 0, fifoOutAmt := 0 }

def burstCount (s : Fifo) : Int :=
  match s.fifoState with
  | .accepting => fifoMaxAmt - s.fifoInAmt
  | .sending => s.fifoOutAmt
  | _ => 0

def regRead (cmdaddr : Nat) (s : Fifo) : Option (Int × Fifo) :=
  if cmdaddr = stsAddr then some (s.fifoSts, s)
  else if cmdaddr = burstAddr then some (burstCount s, s)
  else if cmdaddr = fifoAddr ∧ s.fifoState = .sending ∧ 0 < s.fifoOutAmt then do
    let dataout ← getItem fifoMaxAmt s.fifoOutdata s.fifoOutAmt
    return (dataout, { s with fifoOutAmt := s.fifoOutAmt - 1 })
  else some (0, s)

/-- The bytes of the last command stay. -/
def commandReady (s : Fifo) : Fifo :=
  { s with fifoState := .accepting, fifoInAmt := 0, fifoOutAmt := 0 }

def push (cmddata : Nat) (s : Fifo) : Option Fifo := do
  let indata ← setItem fifoMaxAmt s.fifoIndata s.fifoInAmt cmddata
  return { s with
    fifoInCmdsize := if s.fifoInAmt = 5 then cmddata else s.fifoInCmdsize
    fifoIndata := indata
    fifoInAmt := s.fifoInAmt + 1
    fifoState := if s.fifoInAmt + 1 = fifoMaxAmt then .full else s.fifoState }

def regWrite (cmdaddr cmddata : Nat) (s : Fifo) : Option Fifo :=
  if cmdaddr = stsAddr then
    if cmddata = stsCommandReady then some (commandReady s)
    else if cmddata = stsGo then runCmd sha1 s
    else some s
  else if cmdaddr = fifoAddr ∧ s.fifoState ≠ .full then push cmddata s
  else some s

def Fifo.dataExpected (s : Fifo) : Bool :=
  (s.fifoState == .accepting && s.fifoInAmt < 4) || s.fifoInAmt < s.fifoInCmdsize

def stsFlags (dataAval valid dataExpected : Bool) : Nat :=
  (if dataAval then stsDataAvail else 0) ||| (if valid then stsValid else 0) |||
  (if dataExpected then stsDataExpect else 0)

def Fifo.flagged (s : Fifo) : Fifo :=
  { s with fifoSts := stsFlags (0 < s.fifoOutAmt) (s.fifoState ≠ .working) s.dataExpected }

/-- One call of simulate, with its dataout. -/
structure Call where
  cmd : Nat
  cmdaddr : Nat
  cmddata : Nat

def simulate (s : Fifo) (c : Call) : Option (Int × Fifo) :=
  if c.cmd = RD then (regRead c.cmdaddr s).map fun r => (r.1, r.2.flagged)
  else if c.cmd = WR then (regWrite sha1 c.cmdaddr c.cmddata s).map fun s => (0, s.flagged)
  else some (0, s.flagged)

end

theorem getItem_of_lt {α : Type} {n i : Nat} (list : Nat → α) (h : i < n) :
    getItem n list i = some (list i) := if_pos h

theorem setItem_of_lt {α : Type} {n i : Nat} (list : Nat → α) (v : α) (h : i < n) :
    setItem n list i v = some (Function.update list i v) := if_pos h

theorem bind_of_some {α β : Type} {x : Option α} {a : α} {f : α → Option β} (h : x = some a) :
    (x >>= f) = f a := by
  rw [h]
  rfl

theorem chr_toNat (b : UInt8) : chr b.toNat = some b := by
  rw [chr, if_pos b.toNat_lt, UInt8.ofNat_toNat]

theorem mapM_eq_some {α β : Type} {f : α → Option β} {g : α → β} (l : List α) (h : ∀ a ∈ l, f a = some (g a)) :
    l.mapM f = some (l.map g) := by
  induction l with
  | nil => rfl
  | cons a l ih =>
    rw [List.mapM_cons, h a List.mem_cons_self, ih fun b hb => h b (List.mem_cons_of_mem a hb)]
    rfl

theorem mapM_chr {item : Nat → Option Nat} {d : Digest} (h : ∀ i, (hi : i < 20) → item i = some d[i].toNat) :
    ((List.range 20).mapM fun i => item i >>= chr) = some d.toList := by
  have hchr (i : Nat) (hi : i ∈ List.range 20) : (item i >>= chr) = some (d.toList.getD i 0) := by
    have hlt := List.mem_range.mp hi
    rw [h i hlt, Option.bind_eq_bind, Option.bind_some, chr_toNat]
    simp [hlt]
  rw [mapM_eq_some _ hchr]
  refine congrArg some (List.ext_getElem (by simp) fun i h1 h2 => ?_)
  have hlt : i < 20 := by simpa using h1
  simp [hlt]

theorem fill_outdata {d : Nat → Nat} {store : (Nat → Nat) → Nat → Option (Nat → Nat)}
    (hstore : ∀ o, ∀ i < 20, store o i = setItem fifoMaxAmt o (cmdSize - 10 - i) (d i)) (out : Nat → Nat)
    {n : Nat} (hn : n ≤ 20) :
    (List.range n).foldlM store out =
      some fun x => if 20 < x + n ∧ x ≤ 20 then d (20 - x) else out x := by
  have h20 : cmdSize - 10 = 20 := rfl
  have h126 : fifoMaxAmt = 126 := rfl
  induction n with
  | zero =>
    refine congrArg some (funext fun x => ?_)
    rw [if_neg (by omega)]
  | succ n ih =>
    rw [List.range_succ, List.foldlM_append, ih (by omega)]
    simp only [Option.bind_eq_bind, Option.bind_some, List.foldlM_cons, List.foldlM_nil]
    rw [hstore _ n (by omega), setItem_of_lt _ _ (by omega), h20]
    refine congrArg some (funext fun x => ?_)
    by_cases hx : x = 20 - n
    · subst hx
      rw [Function.update_self, if_pos (by omega)]
      congr 1
      omega
    · rw [Function.update_of_ne hx]
      by_cases hin : 20 < x + n ∧ x ≤ 20
      · rw [if_pos hin, if_pos (by omega)]
      · rw [if_neg hin, if_neg (by omega)]

theorem fill_row (d : Nat → Nat) (row : Nat → Nat) {n : Nat} (hn : n ≤ 20) :
    (List.range n).foldlM (fun r i => setItem 20 r i (d i)) row =
      some fun i => if i < n then d i else row i := by
  induction n with
  | zero => rfl
  | succ n ih =>
    rw [List.range_succ, List.foldlM_append, ih (by omega)]
    simp only [Option.bind_eq_bind, Option.bind_some, List.foldlM_cons, List.foldlM_nil]
    rw [setItem_of_lt _ _ (by omega)]
    refine congrArg some (funext fun i => ?_)
    by_cases hi : i = n
    · subst hi
      rw [Function.update_self, if_pos (by omega)]
    · rw [Function.update_of_ne hi]
      by_cases hlt : i < n
      · rw [if_pos hlt, if_pos (by omega)]
      · rw [if_neg hlt, if_neg (by omega)]

/-- The Python object holds what the variables of the C model hold. Of the input only the bytes that
the current command has sent so far count, since COMMAND_READY clears them in C only. -/
structure Same (c : State) (p : Fifo) : Prop where
  state : p.fifoState = c.fifoState
  sts : p.fifoSts = c.fifoSts.toNat
  inAmt : p.fifoInAmt = c.fifoInAmt
  cmdsize : p.fifoInCmdsize = c.fifoInCmdsize
  outAmt : p.fifoOutAmt = c.fifoOutAmt
  indata : ∀ i < c.fifoInAmt, p.fifoIndata i = (c.fifoIndata i).toNat
  outdata : ∀ i < fifoMaxAmt, p.fifoOutdata i = (c.fifoOutdata i).toNat
  pcr : ∀ i < 24, ∀ k < 20, p.pcrData i k = (c.pcrData (20 * i + k)).toNat
  room : c.fifoState ≠ .full → c.fifoInAmt < fifoMaxAmt
  short : c.fifoOutAmt ≤ cmdSize

theorem setHeader_eq (out : Nat → Nat) :
    setHeader out = some (Function.update (Function.update out 29 0xc4) 25 30) := rfl

theorem response_same {out : Nat → Nat} {o : Mem} (hout : ∀ i < fifoMaxAmt, out i = (o i).toNat) {d : Digest}
    {g : Nat → Nat} (hg : ∀ i < 20, g i = (d.toList.getD i 0).toNat) (i : Nat) (hi : i < fifoMaxAmt) :
    (if 20 < i + 20 ∧ i ≤ 20 then g (20 - i)
      else Function.update (Function.update out 29 0xc4) 25 30 i) = (pcrResponse o d i).toNat := by
  unfold pcrResponse
  by_cases hin : 1 ≤ i ∧ i ≤ 20
  · rw [if_pos hin, if_pos (by omega), hg _ (by omega)]
  · rw [if_neg hin, if_neg (by omega)]
    by_cases h25 : i = 25
    · subst h25
      rfl
    · rw [Function.update_of_ne h25, if_neg h25]
      by_cases h29 : i = 29
      · subst h29
        rfl
      · rw [Function.update_of_ne h29, if_neg h29, hout i hi]

section
variable (sha1 : List UInt8 → Digest) {c : State} {p : Fifo}

theorem Same.index (h : Same c p) (hn : 14 ≤ c.fifoInAmt) : p.fifoIndata 13 = c.pcrIndex :=
  h.indata 13 (by omega)

theorem Same.ordinal (h : Same c p) (hn : 14 ≤ c.fifoInAmt) (lo : UInt8) :
    p.ordinalIs lo.toNat = c.ordinalIs lo := by
  have hbyte (i : Nat) (hi : i < 14) (b : UInt8) :
      (p.fifoIndata i == b.toNat) = (c.fifoIndata i == b) := by
    rw [h.indata i (by omega), Bool.eq_iff_iff, beq_iff_eq, beq_iff_eq, UInt8.toNat_inj]
  have hzero (i : Nat) (hi : i < 14) : (p.fifoIndata i == 0) = (c.fifoIndata i == 0) := hbyte i hi 0
  rw [Fifo.ordinalIs, State.ordinalIs, hzero 6 (by omega), hzero 7 (by omega), hzero 8 (by omega),
    hbyte 9 (by omega)]

theorem Same.pcr_toNat (h : Same c p) {i k : Nat} (hi : i ≤ 23) (hk : k < 20) :
    p.pcrData i k = ((c.pcr i).toList.getD k 0).toNat := by
  rw [h.pcr i (by omega) k hk]
  simp [State.pcr, hk]

def responded (out g : Nat → Nat) : Nat → Nat := fun x =>
  if 20 < x + 20 ∧ x ≤ 20 then g (20 - x) else Function.update (Function.update out 29 0xc4) 25 30 x

theorem pcrRead_same (h : Same c p) (hn : 14 ≤ c.fifoInAmt) (hi : c.pcrIndex ≤ 23) :
    ∃ p', pcrRead p = some p' ∧ Same { c.afterRead with fifoState := c.fifoState } p' := by
  have hloop := @fill_outdata (p.pcrData c.pcrIndex) (fun outdata i => do
      let row ← getItem 24 p.pcrData c.pcrIndex
      setItem fifoMaxAmt outdata (cmdSize - 10 - i) (← getItem 20 row i))
    (fun o i hlt => by simp [getItem, hlt, Nat.lt_succ_of_le hi])
    (Function.update (Function.update p.fifoOutdata 29 0xc4) 25 30) 20 (Nat.le_refl 20)
  refine ⟨{ p with
    fifoOutAmt := cmdSize
    fifoOutdata := responded p.fifoOutdata (p.pcrData c.pcrIndex) }, ?_,
    ⟨h.state, h.sts, h.inAmt, h.cmdsize, rfl, h.indata, ?_, h.pcr, h.room, Nat.le_refl 30⟩⟩
  · have hindex : getItem fifoMaxAmt p.fifoIndata 13 = some c.pcrIndex := by
      rw [getItem_of_lt _ (by decide), h.index hn]
    exact (bind_of_some hindex).trans ((bind_of_some (setHeader_eq _)).trans
      ((bind_of_some hloop).trans rfl))
  · exact response_same h.outdata fun i hi' => h.pcr_toNat hi hi'

def digits (d : Digest) (i : Nat) : Nat := (d.toList.getD i 0).toNat

def Fifo.afterExtend (p : Fifo) (i : Nat) (d : Digest) : Fifo :=
  { p with
    fifoOutAmt := cmdSize
    fifoOutdata := responded p.fifoOutdata (digits d)
    pcrData := Function.update p.pcrData i fun k => if k < 20 then digits d k else p.pcrData i k }

theorem Same.afterExtend (h : Same c p) :
    Same { c.afterExtend sha1 with fifoState := c.fifoState }
      (p.afterExtend c.pcrIndex (c.extended sha1)) := by
  refine ⟨h.state, h.sts, h.inAmt, h.cmdsize, rfl, h.indata, response_same h.outdata fun _ _ => rfl, ?_,
    h.room, Nat.le_refl 30⟩
  intro i hi k hk
  have hread (t : State) : ((t.pcr i).toList.getD k 0).toNat = (t.pcrData (20 * i + k)).toNat := by
    simp [State.pcr, hk]
  have hstored := congrArg (fun d : Digest => (d.toList.getD k 0).toNat)
    (pcr_store c c.pcrIndex i (c.extended sha1))
  rw [hread] at hstored
  refine Eq.trans ?_ hstored.symm
  dsimp only [Fifo.afterExtend]
  by_cases he : i = c.pcrIndex
  · subst he
    simp [hk, digits]
  · rw [Function.update_of_ne he, Function.update_of_ne he]
    exact h.pcr_toNat (by omega) hk

theorem pcrExtend_eq (h : Same c p) (hn : 34 ≤ c.fifoInAmt) (hi : c.pcrIndex ≤ 23) :
    pcrExtend sha1 p = some (p.afterExtend c.pcrIndex (c.extended sha1)) := by
  have hmax : fifoMaxAmt = 126 := rfl
  have hext : c.extended sha1 = sha1 ((c.pcr c.pcrIndex).toList ++ c.inDigest.toList) := rfl
  have hold : ((List.range 20).mapM fun i => getItem 20 (p.pcrData c.pcrIndex) i >>= chr) =
      some (c.pcr c.pcrIndex).toList := by
    refine mapM_chr fun i hlt => ?_
    rw [getItem_of_lt _ hlt, h.pcr _ (by omega) i hlt]
    simp [State.pcr]
  have hnew : ((List.range 20).mapM fun i => getItem fifoMaxAmt p.fifoIndata (14 + i) >>= chr) =
      some c.inDigest.toList := by
    refine mapM_chr fun i hlt => ?_
    rw [getItem_of_lt _ (by omega), h.indata _ (by omega)]
    simp [State.inDigest]
  have hloop := @fill_outdata (digits (c.extended sha1)) _ (fun o i _ => rfl)
    (Function.update (Function.update p.fifoOutdata 29 0xc4) 25 30) 20 (Nat.le_refl 20)
  have hrow := @fill_row (digits (c.extended sha1)) (p.pcrData c.pcrIndex) 20 (Nat.le_refl 20)
  have hindex : getItem fifoMaxAmt p.fifoIndata 13 = some c.pcrIndex := by
    rw [getItem_of_lt _ (by decide), h.index (by omega)]
  have hget : getItem 24 p.pcrData c.pcrIndex = some (p.pcrData c.pcrIndex) :=
    getItem_of_lt _ (Nat.lt_succ_of_le hi)
  refine (bind_of_some hindex).trans ((bind_of_some hget).trans ((bind_of_some hold).trans
    ((bind_of_some hnew).trans ((bind_of_some (setHeader_eq _)).trans ?_))))
  rw [← hext]
  exact (bind_of_some hloop).trans ((bind_of_some hrow).trans rfl)

/-- A complete request of one of the two commands, for one of the PCRs. Of the index only the last
byte is looked at. -/
structure Request (c : State) : Prop where
  complete : c.complete
  command : (c.ordinalIs 0x14 = true ∧ c.fifoInAmt = 34) ∨ (c.ordinalIs 0x15 = true ∧ c.fifoInAmt = 14)
  index : c.pcrIndex ≤ 23

instance (c : State) : Decidable (Request c) :=
  decidable_of_iff (c.complete ∧
    ((c.ordinalIs 0x14 = true ∧ c.fifoInAmt = 34) ∨ (c.ordinalIs 0x15 = true ∧ c.fifoInAmt = 14)) ∧
    c.pcrIndex ≤ 23) ⟨fun h => ⟨h.1, h.2.1, h.2.2⟩, fun h => ⟨h.complete, h.command, h.index⟩⟩

theorem runCmd_same (h : Same c p) (hr : Request c) :
    ∃ p', runCmd sha1 p = some p' ∧ Same (tpmRunCmd sha1 c) p' := by
  have hn : 14 ≤ c.fifoInAmt := by
    have := hr.command
    omega
  have hcomplete : p.fifoState = .accepting ∧ p.fifoInAmt = p.fifoInCmdsize := by
    rw [h.state, h.inAmt, h.cmdsize]
    exact hr.complete
  have h14 : p.ordinalIs 0x14 = c.ordinalIs 0x14 := h.ordinal hn 0x14
  have h15 : p.ordinalIs 0x15 = c.ordinalIs 0x15 := h.ordinal hn 0x15
  rw [tpmRunCmd_eq, runCmd, dispatch, if_pos hcomplete, h14]
  rcases hr.command with ⟨hord, h34⟩ | ⟨hord, -⟩
  · have hp' := pcrExtend_eq sha1 h (by omega) hr.index
    have hs := h.afterExtend sha1
    have hother : (p.afterExtend c.pcrIndex (c.extended sha1)).ordinalIs 0x15 = false :=
      (hs.ordinal hn 0x15).trans (ordinal_exclusive c hord)
    refine ⟨{ p.afterExtend c.pcrIndex (c.extended sha1) with fifoState := .sending }, ?_, ?_⟩
    · simp [runIf, hord, hp', hother]
    · rw [(command_extend c).mpr ⟨⟨hr.complete, hr.index⟩, hord⟩]
      exact ⟨rfl, hs.sts, hs.inAmt, hs.cmdsize, hs.outAmt, hs.indata, hs.outdata, hs.pcr,
        fun _ => h.room (by rw [hr.complete.1]; decide), hs.short⟩
  · obtain ⟨p', hp', hs⟩ := pcrRead_same h hn hr.index
    have hother : c.ordinalIs 0x14 = false := by
      by_contra hx
      rw [ordinal_exclusive c (by simpa using hx)] at hord
      cases hord
    refine ⟨{ p' with fifoState := .sending }, ?_, ?_⟩
    · simp [runIf, hother, h15, hord, hp']
    · rw [(command_read c).mpr ⟨⟨hr.complete, hr.index⟩, hord⟩]
      exact ⟨rfl, hs.sts, hs.inAmt, hs.cmdsize, hs.outAmt, hs.indata, hs.outdata, hs.pcr,
        fun _ => h.room (by rw [hr.complete.1]; decide), hs.short⟩

/-- The register of the reference at an address of the C model. -/
def address (addr : UInt32) : Nat :=
  if addr = Tpm.stsAddr then stsAddr else if addr = Tpm.fifoAddr then fifoAddr else addr.toNat

theorem address_eq (addr : UInt32) :
    (address addr = stsAddr ↔ addr = Tpm.stsAddr) ∧ (address addr = fifoAddr ↔ addr = Tpm.fifoAddr) ∧
      (address addr = burstAddr ↔ addr = Tpm.burstAddr) := by
  have hsts : Tpm.stsAddr.toNat = 0x18 := rfl
  have hfifo : Tpm.fifoAddr.toNat = 0x24 := rfl
  have hburst : Tpm.burstAddr.toNat = 0x1 := rfl
  simp only [address, ← UInt32.toNat_inj, hsts, hfifo, hburst, stsAddr, fifoAddr, burstAddr]
  split_ifs <;> omega

theorem Same.cleared (h : Same c p) : Same { c with dataout := 0 } p :=
  ⟨h.state, h.sts, h.inAmt, h.cmdsize, h.outAmt, h.indata, h.outdata, h.pcr, h.room, h.short⟩

theorem stsFlags_toNat (dataAval valid dataExpected : Bool) :
    stsFlags dataAval valid dataExpected = (Tpm.stsFlags dataAval valid dataExpected).toNat := by
  cases dataAval <;> cases valid <;> cases dataExpected <;> rfl

theorem Same.flagged (h : Same c p) : Same { c with fifoSts := c.stsByte } p.flagged := by
  refine ⟨h.state, ?_, h.inAmt, h.cmdsize, h.outAmt, h.indata, h.outdata, h.pcr, h.room, h.short⟩
  rw [State.stsByte, ← stsFlags_toNat, State.dataExpected, ← h.state, ← h.inAmt, ← h.cmdsize, ← h.outAmt]
  rfl

theorem regRead_same (h : Same c p) (h0 : c.dataout = 0) (addr : UInt32) :
    ∃ p', regRead (address addr) p = some (((Tpm.regRead addr c).dataout.toNat : Int), p') ∧
      Same (Tpm.regRead addr c) p' := by
  obtain ⟨hsts, hfifo, hburst⟩ := address_eq addr
  have hmax : fifoMaxAmt = 126 := rfl
  have hsize : cmdSize = 30 := rfl
  have hshort := h.short
  unfold regRead Tpm.regRead
  by_cases h1 : addr = Tpm.stsAddr
  · rw [if_pos (hsts.mpr h1), if_pos h1]
    exact ⟨p, by rw [h.sts], h.state, h.sts, h.inAmt, h.cmdsize, h.outAmt, h.indata, h.outdata, h.pcr,
      h.room, h.short⟩
  rw [if_neg (mt hsts.mp h1), if_neg h1]
  by_cases h2 : addr = Tpm.burstAddr
  · rw [if_pos (hburst.mpr h2), if_pos h2]
    refine ⟨p, congrArg (fun d => some (d, p)) ?_, h.state, h.sts, h.inAmt, h.cmdsize, h.outAmt, h.indata,
      h.outdata, h.pcr, h.room, h.short⟩
    dsimp only
    unfold burstCount Tpm.burstCount
    rw [h.state, h.inAmt, h.outAmt]
    cases hs : c.fifoState with
    | accepting =>
      have hroom := h.room (by rw [hs]; decide)
      dsimp only
      rw [UInt32.toNat_ofNat']
      omega
    | sending =>
      dsimp only
      rw [UInt32.toNat_ofNat']
      omega
    | idle => simp [h0]
    | full => simp [h0]
    | working => simp [h0]
  rw [if_neg (mt hburst.mp h2), if_neg h2]
  by_cases h3 : addr = Tpm.fifoAddr
  · unfold pop
    by_cases hsend : c.fifoState = .sending ∧ 0 < c.fifoOutAmt
    · rw [if_pos (by rw [h.state, h.outAmt]; exact ⟨hfifo.mpr h3, hsend⟩), if_pos h3, if_pos hsend,
        getItem_of_lt _ (by rw [h.outAmt]; omega)]
      refine ⟨{ p with fifoOutAmt := p.fifoOutAmt - 1 }, ?_, h.state, h.sts, h.inAmt, h.cmdsize, ?_,
        h.indata, h.outdata, h.pcr, h.room, ?_⟩
      · rw [h.outAmt, h.outdata _ (by omega)]
        rfl
      · exact congrArg (· - 1) h.outAmt
      · exact (Nat.sub_le _ _).trans hshort
    · rw [if_neg (by rw [h.state, h.outAmt]; exact fun hx => hsend hx.2), if_pos h3, if_neg hsend, h0]
      exact ⟨p, rfl, h⟩
  · rw [if_neg fun hx => h3 (hfifo.mp hx.1), if_neg h3, h0]
    exact ⟨p, rfl, h⟩

theorem push_same (h : Same c p) (hroom : c.fifoInAmt < fifoMaxAmt) {data : UInt32} (hd : data.toNat < 256) :
    ∃ p', push data.toNat p = some p' ∧ Same (Tpm.push data c) p' := by
  rw [push, setItem_of_lt _ _ (by rw [h.inAmt]; exact hroom)]
  refine ⟨_, rfl, ?_, h.sts, ?_, ?_, h.outAmt, ?_, h.outdata, h.pcr, ?_, h.short⟩
  · dsimp only [Tpm.push]
    rw [h.inAmt, h.state]
  · dsimp only [Tpm.push]
    rw [h.inAmt]
  · dsimp only [Tpm.push]
    rw [h.inAmt, h.cmdsize]
  · intro i hi
    dsimp only [Tpm.push] at hi ⊢
    rw [h.inAmt]
    by_cases he : i = c.fifoInAmt
    · subst he
      rw [Function.update_self, Function.update_self, UInt32.toNat_toUInt8]
      omega
    · rw [Function.update_of_ne he, Function.update_of_ne he, h.indata i (by omega)]
  · dsimp only [Tpm.push]
    intro hx
    by_cases hfull : c.fifoInAmt + 1 = fifoMaxAmt
    · rw [if_pos hfull] at hx
      exact absurd rfl hx
    · omega

/-- A GO comes only after a complete request. -/
def Allowed (c : State) (a : Access) : Prop :=
  a.data.toNat < 256 ∧ (a.cmd = Tpm.WR ∧ a.addr = Tpm.stsAddr ∧ a.data = Tpm.stsGo → Request c)

instance (c : State) (a : Access) : Decidable (Allowed c a) := inferInstanceAs (Decidable (_ ∧ (_ → _)))

theorem regWrite_same (h : Same c p) {a : Access} (hw : a.cmd = Tpm.WR) (ha : Allowed c a) :
    ∃ p', regWrite sha1 (address a.addr) a.data.toNat p = some p' ∧
      Same (Tpm.regWrite sha1 a.addr a.data c) p' := by
  obtain ⟨hsts, hfifo, -⟩ := address_eq a.addr
  have hready : a.data.toNat = stsCommandReady ↔ a.data = Tpm.stsCommandReady := by
    rw [← UInt32.toNat_inj]
    rfl
  have hgo : a.data.toNat = stsGo ↔ a.data = Tpm.stsGo := by
    rw [← UInt32.toNat_inj]
    rfl
  unfold regWrite Tpm.regWrite
  by_cases h1 : a.addr = Tpm.stsAddr
  · rw [if_pos (hsts.mpr h1), if_pos h1]
    by_cases h2 : a.data = Tpm.stsCommandReady
    · rw [if_pos (hready.mpr h2), if_pos h2]
      exact ⟨_, rfl, rfl, h.sts, rfl, h.cmdsize, rfl, fun i hi => absurd hi (Nat.not_lt_zero i), h.outdata,
        h.pcr, fun _ => Nat.zero_lt_succ _, Nat.zero_le _⟩
    rw [if_neg (mt hready.mp h2), if_neg h2]
    by_cases h3 : a.data = Tpm.stsGo
    · rw [if_pos (hgo.mpr h3), if_pos h3]
      exact runCmd_same sha1 h (ha.2 ⟨hw, h1, h3⟩)
    · rw [if_neg (mt hgo.mp h3), if_neg h3]
      exact ⟨p, rfl, h⟩
  rw [if_neg (mt hsts.mp h1), if_neg h1]
  by_cases h4 : a.addr = Tpm.fifoAddr
  · by_cases hfull : c.fifoState = .full
    · rw [if_neg (by rw [h.state]; exact fun hx => hx.2 hfull), if_pos h4, if_neg (not_not.mpr hfull)]
      exact ⟨p, rfl, h⟩
    · rw [if_pos (by rw [h.state]; exact ⟨hfifo.mpr h4, hfull⟩), if_pos h4, if_pos hfull]
      exact push_same h (h.room hfull) ha.1
  · rw [if_neg fun hx => h4 (hfifo.mp hx.1), if_neg h4]
    exact ⟨p, rfl, h⟩

theorem regWrite_dataout (addr data : UInt32) (c : State) :
    (Tpm.regWrite sha1 addr data c).dataout = c.dataout := by
  have hrun : (tpmRunCmd sha1 c).dataout = c.dataout := by
    rw [tpmRunCmd_eq]
    cases c.command with
    | none => rfl
    | some command => cases command <;> rfl
  unfold Tpm.regWrite
  split_ifs
  · rfl
  · exact hrun
  all_goals rfl

def call (a : Access) : Call := ⟨a.cmd.toNat, address a.addr, a.data.toNat⟩

theorem simulate_same (h : Same c p) {a : Access} (ha : Allowed c a) :
    ∃ p', simulate sha1 p (call a) = some (((access sha1 c a).dataout.toNat : Int), p') ∧
      Same (access sha1 c a) p' := by
  have hrd : (call a).cmd = RD ↔ a.cmd = Tpm.RD := by
    rw [← UInt32.toNat_inj]
    rfl
  have hwr : (call a).cmd = WR ↔ a.cmd = Tpm.WR := by
    rw [← UInt32.toNat_inj]
    rfl
  unfold simulate access
  by_cases h1 : a.cmd = Tpm.RD
  · obtain ⟨p', hp', hs⟩ := regRead_same h.cleared rfl a.addr
    have hp' : regRead (call a).cmdaddr p = _ := hp'
    rw [if_pos (hrd.mpr h1), h1, tpmUpdate_read, hp']
    exact ⟨p'.flagged, rfl, hs.flagged⟩
  rw [if_neg (mt hrd.mp h1)]
  by_cases h2 : a.cmd = Tpm.WR
  · obtain ⟨p', hp', hs⟩ := regWrite_same sha1 h.cleared h2 ⟨ha.1, fun hg => by
      obtain ⟨hc, hcmd, hi⟩ := ha.2 hg
      exact ⟨hc, hcmd, hi⟩⟩
    have hp' : regWrite sha1 (call a).cmdaddr (call a).cmddata p = _ := hp'
    rw [if_pos (hwr.mpr h2), h2, tpmUpdate_write, hp']
    refine ⟨p'.flagged, ?_, hs.flagged⟩
    dsimp only
    rw [regWrite_dataout]
    rfl
  · rw [if_neg (mt hwr.mp h2)]
    refine ⟨p.flagged, ?_, ?_⟩
    · simp [tpmUpdate, h1, h2]
    · simp only [tpmUpdate, if_neg h1, if_neg h2]
      exact h.cleared.flagged

theorem same_init (s : State) : Same (tpmInit s) Fifo.init :=
  ⟨rfl, rfl, rfl, rfl, rfl, fun _ _ => rfl, fun _ _ => rfl, fun _ _ _ _ => rfl,
    fun _ => Nat.zero_lt_succ _, Nat.zero_le _⟩

/-- In a run in which each GO comes after a complete request, the C model returns what the reference
does, which raises no exception. -/
theorem returns_same (s : State) (as : List Access) (h : Along (access sha1) Allowed (tpmInit s) as) :
    ∃ p, outputs (simulate sha1) Fifo.init (as.map call) =
      some (log (access sha1) (fun c a => some ((access sha1 c a).dataout.toNat : Int)) (tpmInit s) as, p) := by
  have hstep (c : State) (p : Fifo) (a : Access) (hs : Same c p) (ha : Allowed c a) :=
    simulate_same sha1 hs ha
  obtain ⟨p, hp, -⟩ := Along.outputs_eq call (fun c : State => (c.dataout.toNat : Int)) hstep (same_init s) h
  exact ⟨p, hp⟩

end

/-- A request for PCR 0, and the burst count and a byte of the answer. -/
def readRun : List Access :=
  [⟨Tpm.WR, Tpm.stsAddr, Tpm.stsCommandReady⟩] ++
    ([0, 0xC1, 0, 0, 0, 14, 0, 0, 0, 0x15, 0, 0, 0, 0].map fun b => ⟨Tpm.WR, Tpm.fifoAddr, b⟩) ++
    [⟨Tpm.WR, Tpm.stsAddr, Tpm.stsGo⟩, ⟨Tpm.RD, Tpm.burstAddr, 0⟩, ⟨Tpm.RD, Tpm.fifoAddr, 0⟩]

theorem returns_same_read :
    ∃ p, outputs (simulate fun _ => Vector.replicate 20 0) Fifo.init (readRun.map call) =
      some (log (access fun _ => Vector.replicate 20 0)
        (fun c a => some ((access (fun _ => Vector.replicate 20 0) c a).dataout.toNat : Int))
        (tpmInit ⟨0, 0, 0, 0, .idle, 0, fun _ => 0, fun _ => 0, fun _ => 0, false⟩) readRun, p) :=
  returns_same _ _ readRun (by decide +kernel)

end Vboot.Tpm.Reference
