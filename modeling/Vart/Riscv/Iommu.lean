import Vart.Iommu.System
import Vart.Lib.Compact
import Vart.Pci.Machine

/-!
# The RISC-V IOMMU (`hw/riscv/riscv-iommu.c`)

A PCI function with a register block. Up to 32 PCI functions are bound to it, each with a context
of its own; the device directory in guest memory says what the contexts do, the guest sends
commands through the command queue, and failed translations go to the fault queue.

`IommuSystem` holds the PCI core with the guest memory, the registers, and all contexts; a context
is named by a number. Two fields are not part of the program: `commands` lists the commands that
were executed and `faultLog` what happened to the fault queue, both newest first.

* `iommuEnqueueFault`, `iommuFaultHandler`: the producer of the fault queue.
* `iommuApplyDdtBinding`: one device through the device directory.
* `iommuInvalidateCommand`, `iommuProcessCommandQueue`: commands.
* `iommuMmioWrite`: register writes of the guest.
* `riscvIommuBindDevice`, `riscvIommuUnbindDevice`, `riscvIommuSetContext`, `riscvIommuReset`.

The IOMMU and the contexts use the system address space as their memory. MSI remapping is left
out: `iommu_remap_msi` is called by an MSI-X injector, and what it does to a context is a
translation.
-/

namespace Vart

open Lib

/-! ## Constants -/

abbrev maxQueueLog2 : Nat := 13
abbrev iommuPageSize : Nat := 0x1000
abbrev regFctl : Nat := 0x0008
abbrev regDdtp : Nat := 0x0010
abbrev regCqb : Nat := 0x0018
abbrev regCqh : Nat := 0x0020
abbrev regCqt : Nat := 0x0024
abbrev regFqb : Nat := 0x0028
abbrev regFqh : Nat := 0x0030
abbrev regCqcsr : Nat := 0x0048
abbrev regFqcsr : Nat := 0x004c
abbrev regPqcsr : Nat := 0x0050
abbrev regIpsr : Nat := 0x0054
abbrev regFaultStatus : Nat := 0x0210
abbrev regIcvec : Nat := 0x02f8
abbrev capVersion : Nat := 0x10
abbrev capMsiFlat : Nat := 1 <<< 22
abbrev capSv39 : Nat := 1 <<< 9
abbrev capSv39x4 : Nat := 1 <<< 17
abbrev capPd8 : Nat := 1 <<< 38
abbrev ddtpModeMask : Nat := 0xf
abbrev ddtpPpnMask : Nat := 0x003fffffffffc00
abbrev ddteValid : Nat := 1
abbrev ddtePpnMask : Nat := 0x003fffffffffc00
abbrev dcTcValid : Nat := 1
abbrev dcFscModeMask : Nat := 0xf000000000000000
abbrev dcFscPpnMask : Nat := 0x00000fffffffffff
abbrev queueLog2szMask : Nat := 0x1f
abbrev queuePpnMask : Nat := 0x003fffffffffc00
abbrev cqcsrCqen : Nat := 1
abbrev cqcsrCie : Nat := 2
abbrev cqcsrCqmf : Nat := 1 <<< 8
abbrev cqcsrCmdIll : Nat := 1 <<< 10
abbrev cqcsrCqon : Nat := 1 <<< 16
abbrev cmdIotinval : Nat := 1
abbrev cmdIofence : Nat := 2
abbrev cmdIodir : Nat := 3
abbrev cmdAv : Nat := 1 <<< 10
abbrev cmdIodirDv : Nat := 1 <<< 33
abbrev cmdIodirDidShift : Nat := 40
abbrev faultStatusPending : Nat := 1
abbrev faultInfoWrite : Nat := 1
abbrev fqRecordSize : Nat := 32
abbrev fqHdrDidShift : Nat := 40
abbrev fqCauseReadFault : Nat := 5
abbrev fqCauseWriteFault : Nat := 7
abbrev fqcsrFqen : Nat := 1
abbrev fqcsrFie : Nat := 2
abbrev fqcsrFqmf : Nat := 1 <<< 8
abbrev fqcsrFqof : Nat := 1 <<< 9
abbrev fqcsrFqon : Nat := 1 <<< 16
abbrev maxBindings : Nat := 32

/-! ## Bindings -/

/-- `VartRiscvIommuBinding`. -/
structure Binding where
  device : Nat
  context : Nat
deriving DecidableEq, Repr

/-- The bindings in array order: no device and no context is bound twice. -/
structure Bindings where
  list : List Binding
  devices_nodup : (list.map (·.device)).Nodup
  contexts_nodup : (list.map (·.context)).Nodup
  length_le : list.length ≤ maxBindings

namespace Bindings

def empty : Bindings := ⟨[], List.nodup_nil, List.nodup_nil, Nat.zero_le _⟩

/-- A new binding at the end. -/
def add (bs : Bindings) (b : Binding) (hlen : bs.list.length < maxBindings)
    (hd : ∀ x ∈ bs.list, x.device ≠ b.device) (hc : ∀ x ∈ bs.list, x.context ≠ b.context) :
    Bindings where
  list := bs.list ++ [b]
  devices_nodup := by
    rw [List.map_append, List.nodup_append]
    refine ⟨bs.devices_nodup, by simp, fun x hx y hy hxy => ?_⟩
    obtain ⟨b', hb', rfl⟩ := List.mem_map.mp hx
    simp only [List.map_cons, List.map_nil, List.mem_singleton] at hy
    exact hd b' hb' (hxy.trans hy)
  contexts_nodup := by
    rw [List.map_append, List.nodup_append]
    refine ⟨bs.contexts_nodup, by simp, fun x hx y hy hxy => ?_⟩
    obtain ⟨b', hb', rfl⟩ := List.mem_map.mp hx
    simp only [List.map_cons, List.map_nil, List.mem_singleton] at hy
    exact hc b' hb' (hxy.trans hy)
  length_le := by rw [List.length_append]; exact hlen

/-- `bindings[index] = bindings[binding_count - 1]; binding_count--`. -/
def remove (bs : Bindings) (index : Nat) : Bindings :=
  match h : bs.list[index]? with
  | none => bs
  | some b =>
    have hp := Lib.perm_swapRemove h
    { list := Lib.swapRemove bs.list index
      devices_nodup := (List.nodup_cons.mp ((hp.map _).nodup_iff.mp bs.devices_nodup)).2
      contexts_nodup := (List.nodup_cons.mp ((hp.map _).nodup_iff.mp bs.contexts_nodup)).2
      length_le := by
        have := hp.length_eq
        have := bs.length_le
        simp only [List.length_cons] at *
        omega }

theorem perm_remove {bs : Bindings} {index : Nat} {b : Binding} (h : bs.list[index]? = some b) :
    bs.list.Perm (b :: (bs.remove index).list) := by
  unfold remove
  split
  · rename_i hnone
    rw [h] at hnone
    cases hnone
  · rename_i b' hb'
    obtain rfl : b = b' := Option.some.inj (h.symm.trans hb')
    exact Lib.perm_swapRemove h

end Bindings

/-! ## State -/

/-- `VartRiscvIommu`, as far as the functions here read it. -/
structure RiscvIommu where
  /-- The PCI function of the IOMMU. -/
  pci : Nat
  /-- The default context. -/
  context : Option Nat
  bindings : Bindings
  cap : Nat
  fctl : Nat
  ddtp : Nat
  cqb : Nat
  cqh : Nat
  cqt : Nat
  fqb : Nat
  fqh : Nat
  fqt : Nat
  cqcsr : Nat
  fqcsr : Nat
  pqcsr : Nat
  icvec : Nat
  faultAddress : Nat
  faultInfo : Nat
  faultStatus : Nat

/-- A command that was executed: its slot and its words. -/
structure Command where
  slot : Nat
  dword0 : Nat
  dword1 : Nat
deriving DecidableEq, Repr

/-- A failed translation. -/
structure Fault where
  /-- The device whose access failed, and the requester ID it has at that moment. -/
  device : Option Nat
  deviceId : UInt16
  /-- The requester ID that the context keeps. -/
  requesterId : UInt16
  address : Nat
  size : Nat
  write : Bool
  error : Errno
deriving DecidableEq, Repr

/-- What the log of the fault queue records. -/
inductive FaultQueueEvent where
  /-- A fault, and what `iommu_enqueue_fault` returned. -/
  | fault (f : Fault) (result : Status)
  /-- The guest moved `fqh`. -/
  | head (old new : Nat)
deriving DecidableEq

structure IommuSystem where
  pci : PciState
  iommu : RiscvIommu
  contexts : Nat → IommuContext
  commands : List Command
  faultLog : List FaultQueueEvent

namespace IommuSystem

/-- Guest memory. -/
def memory (s : IommuSystem) : GuestMemory := s.pci.memory

def setMemory (s : IommuSystem) (memory : GuestMemory) : IommuSystem :=
  { s with pci := { s.pci with memory } }

def updateIommu (s : IommuSystem) (f : RiscvIommu → RiscvIommu) : IommuSystem :=
  { s with iommu := f s.iommu }

def setContext (s : IommuSystem) (n : Nat) (c : IommuContext) : IommuSystem :=
  { s with contexts := Function.update s.contexts n c }

end IommuSystem

def iommuRaiseMsix (sink : Sink) (s : IommuSystem) (vector : Nat) : IommuSystem :=
  { s with pci := (pciDeviceRaiseMsix sink s.pci s.iommu.pci vector).1 }

def iommuReadGuest64 (m : GuestMemory) (address : Nat) : Except Errno Nat :=
  match m.readBuffer address 8 with
  | .error e => .error e
  | .ok data => .ok (loadLe data)

/-- The base address of a queue. -/
def queueBase (queue : Nat) : Nat := ((queue &&& queuePpnMask) >>> 10) <<< 12

/-- The exponent of the size of a queue. -/
def queueLog2sz (queue : Nat) : Nat := queue &&& queueLog2szMask

/-! ## Faults -/

/-- The record of a fault. -/
def faultRecord (f : Fault) : List UInt8 :=
  storeLe 8 ((if f.write then fqCauseWriteFault else fqCauseReadFault) |||
      f.requesterId.toNat <<< fqHdrDidShift) ++
    storeLe 8 0 ++ storeLe 8 f.address ++ storeLe 8 (f.error.code ||| f.size <<< 32)

/-- `iommu_enqueue_fault`. -/
def iommuEnqueueFault (s : IommuSystem) (f : Fault) : IommuSystem × Status :=
  let iommu := s.iommu
  let log2sz := queueLog2sz iommu.fqb
  let mask := 1 <<< log2sz - 1
  let head := iommu.fqh &&& mask
  let tail := iommu.fqt &&& mask
  let next := (tail + 1) &&& mask
  let base := queueBase iommu.fqb
  let memoryFault := s.updateIommu fun iommu => { iommu with fqcsr := iommu.fqcsr ||| fqcsrFqmf }
  if iommu.fqcsr &&& fqcsrFqon = 0 then (s, .ok ())
  else if log2sz = 0 ∨ log2sz > maxQueueLog2 then (memoryFault, .error .einval)
  else if next = head then
    (s.updateIommu fun iommu => { iommu with fqcsr := iommu.fqcsr ||| fqcsrFqof }, .error .enospc)
  else if tail > (uint64Max - base - fqRecordSize) / fqRecordSize then
    (memoryFault, .error .efault)
  else match s.memory.writeBuffer (base + tail * fqRecordSize) (faultRecord f) with
  | .error _ => (memoryFault, .error .efault)
  | .ok memory => ((s.setMemory memory).updateIommu fun iommu => { iommu with fqt := next }, .ok ())

/-- The fault registers. -/
def RiscvIommu.setFault (iommu : RiscvIommu) (f : Fault) : RiscvIommu := { iommu with
  faultAddress := f.address
  faultInfo := ((if f.write then faultInfoWrite else 0) ||| f.error.code <<< 8 |||
    f.size <<< 32) % 2 ^ 64
  faultStatus := iommu.faultStatus ||| faultStatusPending }

def IommuSystem.logFault (s : IommuSystem) (f : Fault) (result : Status) : IommuSystem :=
  { s with faultLog := .fault f result :: s.faultLog }

/-- `iommu_fault_handler`. -/
def iommuFaultHandler (sink : Sink) (s : IommuSystem) (f : Fault) : IommuSystem :=
  let r := iommuEnqueueFault (s.updateIommu (·.setFault f)) f
  iommuRaiseMsix sink (r.1.logFault f r.2) 0

/-! ## The device directory -/

/-- The loop of `iommu_apply_ddt_binding` over the non-leaf levels; `none` is the `invalid`
label. -/
def iommuDdtLevels (m : GuestMemory) (baseFormat : Bool) (requesterId : Nat) :
    (depth : Nat) → (base : Nat) → Option Nat
  | 0, base => some base
  | depth + 1, base =>
    let split := depth * 9 + 6 + baseFormat.toNat
    let index := (requesterId >>> split) <<< 3
    if index > uint64Max - base ∨ index > 0xff8 then none
    else match iommuReadGuest64 m (base + index) with
    | .error _ => none
    | .ok dte =>
      if dte &&& ddteValid = 0 ∨ andNot dte (ddtePpnMask ||| ddteValid) ≠ 0 then none
      else iommuDdtLevels m baseFormat requesterId depth (((dte &&& ddtePpnMask) >>> 10) <<< 12)

/-- The `invalid` label. -/
def iommuDdtInvalid (c : IommuContext) : IommuContext × Status :=
  ((iommuContextSetMode c .fault).1, .error .einval)

/-- The device context at `dcBase` is loaded. -/
def iommuLoadDeviceContext (m : GuestMemory) (dcBase : Nat) (c : IommuContext) :
    IommuContext × Status :=
  match iommuReadGuest64 m dcBase with
  | .error _ => iommuDdtInvalid c
  | .ok tc =>
    if tc &&& dcTcValid = 0 then iommuDdtInvalid c
    else match iommuReadGuest64 m ((dcBase + 24) % 2 ^ 64) with
    | .error _ => iommuDdtInvalid c
    | .ok fsc =>
      let mode := (fsc &&& dcFscModeMask) >>> 60
      if mode = 0 then iommuContextSetMode c .identity
      else if mode = 8 then iommuContextSetSv39 c (fsc &&& dcFscPpnMask) false
      else iommuDdtInvalid c

/-- `iommu_apply_ddt_binding` for the device with the given requester ID. -/
def iommuApplyDdtBinding (iommu : RiscvIommu) (m : GuestMemory) (requesterId : UInt16)
    (c : IommuContext) : IommuContext × Status :=
  let mode := iommu.ddtp &&& ddtpModeMask
  let baseFormat := iommu.cap &&& capMsiFlat == 0
  let dcSize := if baseFormat then 32 else 64
  let id := requesterId.toNat
  if mode = 0 then ((iommuContextSetMode c .fault).1, .ok ())
  else if mode = 1 then iommuContextSetMode c .identity
  else if mode < 2 ∨ mode > 4 then iommuDdtInvalid c
  else
    let base := ((iommu.ddtp &&& ddtpPpnMask) >>> 10) <<< 12
    let ddiBits := (mode - 2) * 9 + 6 + (if baseFormat ∧ mode ≠ 4 then 1 else 0)
    if ddiBits < 16 ∧ id ≥ 1 <<< ddiBits then iommuDdtInvalid c
    else match iommuDdtLevels m baseFormat id (mode - 2) base with
    | none => iommuDdtInvalid c
    | some base =>
      if id > (uint64Max - base) / dcSize then iommuDdtInvalid c
      else iommuLoadDeviceContext m (base + (id * dcSize &&& 0xfff)) c

/-- `iommu_apply_ddt_binding` for one binding. -/
def IommuSystem.applyBinding (s : IommuSystem) (b : Binding) : IommuSystem :=
  s.setContext b.context (iommuApplyDdtBinding s.iommu s.memory
    (s.pci.devices b.device).requesterId (s.contexts b.context)).1

def iommuApplyDdt (s : IommuSystem) : IommuSystem :=
  s.iommu.bindings.list.foldl IommuSystem.applyBinding s

/-! ## Commands -/

/-- The first error of two calls. -/
def firstError : Status → Status → Status
  | .error e, _ => .error e
  | .ok _, r => r

/-- The loop of `iommu_invalidate_command` over the bound contexts. -/
def iommuInvalidateContexts (s : IommuSystem) (address size : Nat) :
    List Binding → IommuSystem × Status
  | [] => (s, .ok ())
  | b :: bs =>
    let current := iommuContextInvalidate (s.contexts b.context) address size
    let rest := iommuInvalidateContexts (s.setContext b.context current.1) address size bs
    (rest.1, firstError current.2 rest.2)

/-- The IODIR command. -/
def iommuIodir (s : IommuSystem) (dword0 : Nat) : IommuSystem :=
  if dword0 &&& cmdIodirDv = 0 then s.iommu.bindings.list.foldl IommuSystem.applyBinding s
  else
    let requesterId := (dword0 >>> cmdIodirDidShift) &&& 0xffffff
    match s.iommu.bindings.list.find? fun b =>
        (s.pci.devices b.device).requesterId.toNat == requesterId with
    | none => s
    | some b => s.applyBinding b

def iommuInvalidateCommand (s : IommuSystem) (dword0 dword1 : Nat) : IommuSystem × Status :=
  let opcode := dword0 &&& 0x7f
  let function := (dword0 >>> 7) &&& 0x7
  let bindings := s.iommu.bindings.list
  if opcode = cmdIodir ∧ function = 0 then (iommuIodir s dword0, .ok ())
  else if opcode = cmdIofence ∧ function = 0 then (s, .ok ())
  else if opcode ≠ cmdIotinval ∨ function ≠ 0 ∨ (bindings = [] ∧ s.iommu.context = none) ∨
      dword0 &&& (1 <<< 32 ||| 1 <<< 33) ≠ 0 then (s, .error .einval)
  else
    let av := dword0 &&& cmdAv ≠ 0
    if av ∧ dword1 > uint64Max / 4 then (s, .error .efault)
    else
      let address := if av then andNot (dword1 * 4) (iommuPageSize - 1) else 0
      let size := if av then iommuPageSize else 1 <<< 41
      match bindings, s.iommu.context with
      | [], none => (s, .error .einval)
      | [], some n =>
        let r := iommuContextInvalidate (s.contexts n) address size
        (s.setContext n r.1, r.2)
      | b :: bs, _ => iommuInvalidateContexts s address size (b :: bs)

/-- The queue stops with a memory fault. -/
def iommuCommandMemoryFault (sink : Sink) (s : IommuSystem) : IommuSystem :=
  iommuRaiseMsix sink
    (s.updateIommu fun iommu => { iommu with cqcsr := iommu.cqcsr ||| cqcsrCqmf }) 1

/-- One command at slot `index`. -/
def iommuExecuteCommand (sink : Sink) (s : IommuSystem) (index : Nat) (command : List UInt8) :
    IommuSystem :=
  let dword0 := loadLe (command.take 8)
  let dword1 := loadLe (command.drop 8)
  let r := iommuInvalidateCommand s dword0 dword1
  let s := { r.1 with
    iommu := { r.1.iommu with cqh := (r.1.iommu.cqh + 1) % 2 ^ 32 }
    commands := ⟨index, dword0, dword1⟩ :: r.1.commands }
  match r.2 with
  | .ok _ => s
  | .error _ => iommuRaiseMsix sink
    (s.updateIommu fun iommu => { iommu with cqcsr := iommu.cqcsr ||| cqcsrCmdIll }) 1

/-- The loop of `iommu_process_command_queue`, at most `fuel` times. -/
def iommuCommandLoop (sink : Sink) (entries base : Nat) :
    (fuel : Nat) → IommuSystem → IommuSystem × Status
  | 0, s => (s, .ok ())
  | fuel + 1, s =>
    if s.iommu.cqh = s.iommu.cqt then (s, .ok ())
    else
      let index := s.iommu.cqh &&& (entries - 1)
      if index > (uint64Max - base - 16) / 16 then (iommuCommandMemoryFault sink s, .error .efault)
      else match s.memory.readBuffer (base + index * 16) 16 with
      | .error e => (iommuCommandMemoryFault sink s, .error e)
      | .ok command =>
        iommuCommandLoop sink entries base fuel (iommuExecuteCommand sink s index command)

/-- `iommu_process_command_queue`. Each round of its loop increments `cqh`, a 32-bit counter, so
the distance from `cqh` to `cqt` is the number of rounds. -/
def iommuProcessCommandQueue (sink : Sink) (s : IommuSystem) : IommuSystem × Status :=
  let log2sz := queueLog2sz s.iommu.cqb
  if s.iommu.cqcsr &&& cqcsrCqon = 0 then (s, .ok ())
  else if log2sz = 0 ∨ log2sz > maxQueueLog2 then
    (s.updateIommu fun iommu => { iommu with cqcsr := iommu.cqcsr ||| cqcsrCqmf }, .error .einval)
  else
    iommuCommandLoop sink (1 <<< log2sz) (queueBase s.iommu.cqb)
      ((s.iommu.cqt + 2 ^ 32 - s.iommu.cqh) % 2 ^ 32) s

/-! ## Registers -/

/-- The part that writes to `CQCSR` and `FQCSR` share: the sticky bits that stay, the enable bits
that are written, and the on bit, which follows the enable bit if the queue has a size. -/
def queueCsrWrite (csr queue value sticky enables enable memoryFault on : Nat) : Nat × Status :=
  let csr := csr &&& sticky ||| value % 2 ^ 32 &&& enables
  if csr &&& enable = 0 then (andNot csr on, .ok ())
  else if queueLog2sz queue = 0 ∨ queueLog2sz queue > maxQueueLog2 then
    (csr ||| memoryFault, .error .einval)
  else (csr ||| on, .ok ())

/-- `iommu_mmio_write`. -/
def iommuMmioWrite (sink : Sink) (s : IommuSystem) (offset size value : Nat) :
    IommuSystem × Status :=
  let iommu := s.iommu
  let queueMask := queuePpnMask ||| queueLog2szMask
  if offset = regFctl then
    if size ≠ 4 ∨ value &&& 0xfffffff8 ≠ 0 then (s, .error .einval)
    else (s.updateIommu fun iommu => { iommu with fctl := value % 2 ^ 32 }, .ok ())
  else if offset = regDdtp then
    if size ≠ 8 ∨ value &&& ddtpModeMask > 4 then (s, .error .einval)
    else (iommuApplyDdt (s.updateIommu fun iommu =>
      { iommu with ddtp := value &&& (ddtpPpnMask ||| ddtpModeMask) }), .ok ())
  else if offset = regCqb then
    if size ≠ 8 ∨ andNot value queueMask ≠ 0 then (s, .error .einval)
    else (s.updateIommu fun iommu => { iommu with cqb := value &&& queueMask }, .ok ())
  else if offset = regCqh then
    if size ≠ 4 then (s, .error .einval)
    else (s.updateIommu fun iommu => { iommu with cqh := value % 2 ^ 32 }, .ok ())
  else if offset = regCqt then
    if size ≠ 4 then (s, .error .einval)
    else iommuProcessCommandQueue sink
      (s.updateIommu fun iommu => { iommu with cqt := value % 2 ^ 32 })
  else if offset = regCqcsr then
    if size ≠ 4 then (s, .error .einval)
    else
      let r := queueCsrWrite iommu.cqcsr iommu.cqb value (cqcsrCqmf ||| cqcsrCmdIll)
        (cqcsrCqen ||| cqcsrCie) cqcsrCqen cqcsrCqmf cqcsrCqon
      (s.updateIommu fun iommu => { iommu with cqcsr := r.1 }, r.2)
  else if offset = regFqb then
    if size ≠ 8 ∨ andNot value queueMask ≠ 0 then (s, .error .einval)
    else (s.updateIommu fun iommu => { iommu with fqb := value &&& queueMask }, .ok ())
  else if offset = regFqh then
    if size ≠ 4 then (s, .error .einval)
    else
      let s := { s with faultLog := .head iommu.fqh (value % 2 ^ 32) :: s.faultLog }
      (s.updateIommu fun iommu => { iommu with fqh := value % 2 ^ 32 }, .ok ())
  else if offset = regFqcsr then
    if size ≠ 4 then (s, .error .einval)
    else
      -- The sticky bits are cleared by writing ones.
      let csr := andNot iommu.fqcsr (value % 2 ^ 32 &&& (fqcsrFqmf ||| fqcsrFqof))
      let r := queueCsrWrite csr iommu.fqb value (fqcsrFqmf ||| fqcsrFqof)
        (fqcsrFqen ||| fqcsrFie) fqcsrFqen fqcsrFqmf fqcsrFqon
      (s.updateIommu fun iommu => { iommu with fqcsr := r.1 }, r.2)
  else if offset = regPqcsr then
    if size ≠ 4 then (s, .error .einval)
    else (s.updateIommu fun iommu => { iommu with pqcsr := value % 2 ^ 32 }, .ok ())
  else if offset = regFaultStatus then
    if size ≠ 4 then (s, .error .einval)
    else (s.updateIommu fun iommu => { iommu with
      faultStatus := andNot iommu.faultStatus (value % 2 ^ 32 &&& faultStatusPending) }, .ok ())
  else if offset = regIpsr then
    if size ≠ 4 then (s, .error .einval)
    else (s.updateIommu fun iommu => { iommu with
      faultStatus := if value &&& 2 ≠ 0 then 0 else iommu.faultStatus }, .ok ())
  else if offset = regIcvec then
    if size ≠ 8 ∨ andNot value 0xffff ≠ 0 then (s, .error .einval)
    else (s.updateIommu fun iommu => { iommu with icvec := value }, .ok ())
  else (s, .error .einval)

/-! ## Setup -/

/-- `vart_iommu_context_set_fault_handler`: the handler of the IOMMU, or none. -/
def iommuContextSetFaultHandler (c : IommuContext) (faultHandler : Bool) : IommuContext :=
  { c with faultHandler }

/-- `vart_riscv_iommu_set_context`. -/
def riscvIommuSetContext (s : IommuSystem) (context : Option Nat) : IommuSystem × Status :=
  if (s.pci.devices s.iommu.pci).parent.realized then (s, .error .einval)
  else
    let s := match s.iommu.context with
      | none => s
      | some n =>
        if s.iommu.bindings.list.any (·.context == n) then s
        else s.setContext n (iommuContextSetFaultHandler (s.contexts n) false)
    let s := s.updateIommu fun iommu => { iommu with context }
    match context with
    | none => (s, .ok ())
    | some n => (s.setContext n (iommuContextSetFaultHandler (s.contexts n) true), .ok ())

/-- `vart_iommu_context_attach` of context `n` to device `d`. -/
def iommuContextAttach (s : IommuSystem) (n d : Nat) : IommuSystem × Status :=
  let dev := s.pci.devices d
  if (s.contexts n).attachedDevice.isSome || dev.parent.realized then (s, .error .einval)
  else
    let c := { s.contexts n with
      savedDmaAs := dev.parent.dmaAs
      savedDmaAsFromBus := dev.parent.dmaAsFromBus }
    match pciDeviceSetDmaAs dev (some (.context n)) with
    | .error e => (s.setContext n c, .error e)
    | .ok dev' =>
      let s := { s with pci := s.pci.updateDevice d fun _ => dev' }
      (s.setContext n { c with attachedDevice := some d, requesterId := dev'.requesterId }, .ok ())

/-- `vart_iommu_context_detach`. -/
def iommuContextDetach (s : IommuSystem) (n d : Nat) : IommuSystem × Status :=
  let c := s.contexts n
  if c.attachedDevice ≠ some d ∨ (s.pci.devices d).parent.realized = true then (s, .error .einval)
  else
    let s := { s with pci := s.pci.updateDevice d fun dev => { dev with
      parent := { dev.parent with dmaAs := c.savedDmaAs, dmaAsFromBus := c.savedDmaAsFromBus } } }
    (s.setContext n { c with
      attachedDevice := none
      savedDmaAs := none
      savedDmaAsFromBus := false }, .ok ())

/-- The MSI-X remapper of a device that has MSI-X. -/
def IommuSystem.setRemapper (s : IommuSystem) (d : Nat) (remap : Bool) : IommuSystem :=
  { s with pci := s.pci.tryDevice d (pciDeviceSetMsixRemapper · remap) }

/-- `vart_riscv_iommu_bind_device`. After the context is attached nothing can fail. -/
def riscvIommuBindDevice (s : IommuSystem) (d n : Nat) : IommuSystem × Status :=
  let bindings := s.iommu.bindings
  if hlen : bindings.list.length ≥ maxBindings then (s, .error .einval)
  else if hclash : ∃ b ∈ bindings.list, b.device = d ∨ b.context = n ∨
      (s.pci.devices b.device).requesterId = (s.pci.devices d).requesterId then (s, .error .eexist)
  else match iommuContextAttach s n d with
  | (s, .error e) =>
    if (s.contexts n).attachedDevice = some d then
      let s := s.setRemapper d false
      let s := s.setContext n (iommuContextSetFaultHandler (s.contexts n) false)
      ((iommuContextDetach s n d).1, .error e)
    else (s, .error e)
  | (s, .ok _) =>
    let s := s.setContext n (iommuContextSetFaultHandler (s.contexts n) true)
    let s := s.setRemapper d true
    let bindings := bindings.add ⟨d, n⟩ (by omega)
      (fun b hb h => hclash ⟨b, hb, .inl h⟩) (fun b hb h => hclash ⟨b, hb, .inr (.inl h)⟩)
    (s.updateIommu fun iommu => { iommu with bindings }, .ok ())

/-- `vart_riscv_iommu_unbind_device`. -/
def riscvIommuUnbindDevice (s : IommuSystem) (d : Nat) : IommuSystem × Status :=
  let index := s.iommu.bindings.list.findIdx (·.device == d)
  match s.iommu.bindings.list[index]? with
  | none => (s, .error .enoent)
  | some b =>
    match iommuContextDetach s b.context d with
    | (s, .error e) => (s, .error e)
    | (s, .ok _) =>
      let s := s.setRemapper d false
      let s := s.setContext b.context
        (iommuContextSetFaultHandler (s.contexts b.context) false)
      (s.updateIommu fun iommu => { iommu with bindings := iommu.bindings.remove index }, .ok ())

/-- The registers that a reset clears. -/
def RiscvIommu.clearRegisters (iommu : RiscvIommu) : RiscvIommu := { iommu with
  fctl := 0, ddtp := 0, cqb := 0, cqh := 0, cqt := 0, cqcsr := 0
  fqb := 0, fqh := 0, fqt := 0, fqcsr := 0, pqcsr := 0
  faultAddress := 0, faultInfo := 0, faultStatus := 0 }

/-- `vart_riscv_iommu_reset`. -/
def riscvIommuReset (s : IommuSystem) : IommuSystem :=
  let s := s.updateIommu RiscvIommu.clearRegisters
  let fault := fun (s : IommuSystem) n =>
    s.setContext n (iommuContextSetMode (s.contexts n) .fault).1
  match s.iommu.bindings.list, s.iommu.context with
  | [], none => s
  | [], some n => fault s n
  | b :: bs, _ => (b :: bs).foldl (fun s b => fault s b.context) s

/-- `vart_riscv_iommu_init` with the PCI function `pci`: the registers. -/
def riscvIommuInit (pci : Nat) : RiscvIommu where
  pci := pci
  context := none
  bindings := .empty
  cap := capVersion ||| capSv39 ||| capSv39x4 ||| capPd8
  fctl := 0
  ddtp := 0
  cqb := 0
  cqh := 0
  cqt := 0
  fqb := 0
  fqh := 0
  fqt := 0
  cqcsr := 0
  fqcsr := 0
  pqcsr := 0
  icvec := 0
  faultAddress := 0
  faultInfo := 0
  faultStatus := 0

/-- `vart_riscv_iommu_init`: the PCI function, with a 64-bit BAR and two MSI-X vectors. -/
def riscvIommuPciInit : Except Errno PciDevice :=
  match pciDeviceSetBar (pciDeviceInit 0x1b36 0x0014 1 0 6 8) 0 0x1000 pciBarMem64 with
  | .error e => .error e
  | .ok dev => pciDeviceInitMsix dev 2 0 0x400 0 0x800

end Vart
