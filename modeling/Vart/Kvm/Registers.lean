import Vart.Core.Irq
import Vart.Kvm.Vcpu
import Vart.Lib.Outcome

/-!
# The register cache of a vCPU (`arch/riscv/riscv-cpu.c`)

`VartRiscvCpuState` is a copy of the registers that KVM has. They come in three groups; a group is
valid after it was read and dirty after it was edited, until it is written back. Every register is
read or written by an ioctl of its own that may fail: the `n`-th ioctl returns `sink n`.

KVM's registers are a store that keeps what is written and that `KVM_RUN` changes as it likes.

* `riscvVcpuGetRegisters`, `riscvVcpuPutRegisters`, `riscvCpuStateMarkDirty`: the cache.
* `riscvVcpuInitBoot`: the registers of a hart that enters the kernel.
* `vcpuSetPc`, `vcpuSetGpr`, `vcpuSetMode`: setters past the cache.
* `cpuStep`: these calls, edits of the cache in place, and runs of the guest.
-/

namespace Vart

open Lib

/-! ## Registers -/

/-- The CSRs that KVM lets us read. -/
inductive CsrName where
  | sstatus | sie | stvec | sscratch | sepc | scause | stval | sip | satp | scounteren | senvcfg
deriving DecidableEq, Repr

inductive TimerName where
  | frequency | time | compare | state
deriving DecidableEq, Repr

/-- A member of `VartRiscvCpuState`, which is also a register of KVM, except `x0`. -/
inductive RegId where
  | pc
  | gpr (index : Fin 32)
  | mode
  | csr (name : CsrName)
  | timer (name : TimerName)
deriving DecidableEq, Repr

/-- `VartRiscvRegisterGroup`. -/
inductive RegGroup where
  | core | csr | timer
deriving DecidableEq, Repr

def RegId.group : RegId → RegGroup
  | pc | gpr _ | mode => .core
  | csr _ => .csr
  | timer _ => .timer

def RegGroup.bit : RegGroup → BitVec 32
  | core => 1
  | csr => 2
  | timer => 4

/-- `VART_RISCV_REG_ALL`. -/
abbrev riscvRegAll : BitVec 32 := 7

/-- `KVM_RISCV_MODE_U` and `KVM_RISCV_MODE_S`. -/
abbrev kvmRiscvModeU : UInt64 := 0

@[inherit_doc kvmRiscvModeU] abbrev kvmRiscvModeS : UInt64 := 1

/-- `x1` to `x31`. -/
def gprRegisters : List RegId := ((List.finRange 32).drop 1).map .gpr

/-- `csr_registers`. -/
def csrRegisters : List RegId :=
  [.csr .sstatus, .csr .sie, .csr .stvec, .csr .sscratch, .csr .sepc, .csr .scause, .csr .stval,
    .csr .sip, .csr .satp, .csr .scounteren, .csr .senvcfg]

/-- `timer_registers`. -/
def timerRegisters : List RegId :=
  [.timer .frequency, .timer .time, .timer .compare, .timer .state]

/-- A vCPU as far as its registers are concerned. -/
structure CpuMachine where
  hartId : UInt64
  threadState : ThreadState
  /-- The members of `cpu_state`. -/
  regs : RegId → UInt64
  valid : BitVec 32
  dirty : BitVec 32
  /-- KVM's registers. -/
  kvm : RegId → UInt64
  /-- KVM has `KVM_CAP_MP_STATE`, and the state of the vCPU. -/
  hasMpState : Bool
  mpState : Nat
  /-- The number of ioctls made. -/
  calls : Nat

/-- One ioctl. -/
def CpuMachine.ioctl (sink : Sink) (s : CpuMachine) : CpuMachine × Status :=
  ({ s with calls := s.calls + 1 }, sink s.calls)

/-! ## Register ioctls -/

/-- `vart_vcpu_get_one_reg` into the member of `cpu_state`. -/
def vcpuGetOneReg (sink : Sink) (s : CpuMachine) (r : RegId) : CpuMachine × Status :=
  andThen (s.ioctl sink) fun s => ({ s with regs := Function.update s.regs r (s.kvm r) }, .ok ())

/-- `vart_vcpu_set_one_reg`. -/
def vcpuSetOneReg (sink : Sink) (s : CpuMachine) (r : RegId) (value : UInt64) :
    CpuMachine × Status :=
  andThen (s.ioctl sink) fun s => ({ s with kvm := Function.update s.kvm r value }, .ok ())

/-- `get_register_array`. -/
def getRegisterArray (sink : Sink) : List RegId → CpuMachine → CpuMachine × Status
  | [], s => (s, .ok ())
  | r :: rs, s => andThen (vcpuGetOneReg sink s r) (getRegisterArray sink rs)

/-- A register that `put_register_array` does not write: the timer frequency is read-only, and KVM
refuses to write an inactive timer state. -/
def CpuMachine.skips (s : CpuMachine) (r : RegId) : Bool :=
  r == .timer .frequency || r == .timer .state && s.regs r == 0

/-- `put_register_array`. -/
def putRegisterArray (sink : Sink) : List RegId → CpuMachine → CpuMachine × Status
  | [], s => (s, .ok ())
  | r :: rs, s =>
    if s.skips r then putRegisterArray sink rs s
    else andThen (vcpuSetOneReg sink s r (s.regs r)) (putRegisterArray sink rs)

/-- `get_core`. -/
def getCore (sink : Sink) (s : CpuMachine) : CpuMachine × Status :=
  andThen (vcpuGetOneReg sink s .pc) fun s =>
    getRegisterArray sink (gprRegisters ++ [.mode])
      { s with regs := Function.update s.regs (.gpr 0) 0 }

/-- `put_core`. -/
def putCore (sink : Sink) (s : CpuMachine) : CpuMachine × Status :=
  putRegisterArray sink (.pc :: gprRegisters ++ [.mode]) s

/-! ## Groups -/

/-- `validate_sync`. -/
def validateSync (s : CpuMachine) (groups : BitVec 32) : Status :=
  if groups = 0 ∨ groups &&& ~~~riscvRegAll ≠ 0 then .error .einval
  else if s.threadState = .running then .error .ebusy
  else .ok ()

/-- The registers of a group are read. -/
def getGroupRegisters (sink : Sink) : RegGroup → CpuMachine → CpuMachine × Status
  | .core => getCore sink
  | .csr => getRegisterArray sink csrRegisters
  | .timer => getRegisterArray sink timerRegisters

/-- The registers of a group are written. -/
def putGroupRegisters (sink : Sink) : RegGroup → CpuMachine → CpuMachine × Status
  | .core => putCore sink
  | .csr => putRegisterArray sink csrRegisters
  | .timer => putRegisterArray sink timerRegisters

/-- The part of `vart_riscv_vcpu_get_registers` for one group. -/
def getGroup (sink : Sink) (groups : BitVec 32) (g : RegGroup) (s : CpuMachine) :
    CpuMachine × Status :=
  if groups &&& g.bit = 0 then (s, .ok ())
  else andThen (getGroupRegisters sink g s) fun s =>
    ({ s with valid := s.valid ||| g.bit, dirty := s.dirty &&& ~~~g.bit }, .ok ())

/-- `vart_riscv_vcpu_get_registers`. -/
def riscvVcpuGetRegisters (sink : Sink) (s : CpuMachine) (groups : BitVec 32) :
    CpuMachine × Status :=
  match validateSync s groups with
  | .error e => (s, .error e)
  | .ok _ =>
    andThen (andThen (getGroup sink groups .core s) (getGroup sink groups .csr))
      (getGroup sink groups .timer)

/-- The CORE registers that `put_registers_locked` refuses. -/
def CpuMachine.CoreInvalid (s : CpuMachine) : Prop :=
  s.regs (.gpr 0) ≠ 0 ∨ (s.regs .mode ≠ kvmRiscvModeS ∧ s.regs .mode ≠ kvmRiscvModeU)

instance CpuMachine.CoreInvalid.decidable (s : CpuMachine) : Decidable s.CoreInvalid :=
  inferInstanceAs (Decidable (_ ∨ _))

/-- The part of `put_registers_locked` for one group. -/
def putGroup (sink : Sink) (pending : BitVec 32) (g : RegGroup) (s : CpuMachine) :
    CpuMachine × Status :=
  if pending &&& g.bit = 0 then (s, .ok ())
  else if g = .core ∧ s.CoreInvalid then (s, .error .einval)
  else andThen (putGroupRegisters sink g s) fun s =>
    ({ s with dirty := s.dirty &&& ~~~g.bit }, .ok ())

/-- `put_registers_locked`. -/
def putRegistersLocked (sink : Sink) (s : CpuMachine) (groups : BitVec 32) :
    CpuMachine × Status :=
  let pending := groups &&& s.dirty
  if pending &&& ~~~s.valid ≠ 0 then (s, .error .einval)
  else
    andThen (andThen (putGroup sink pending .core s) (putGroup sink pending .csr))
      (putGroup sink pending .timer)

/-- `vart_riscv_vcpu_put_registers`. -/
def riscvVcpuPutRegisters (sink : Sink) (s : CpuMachine) (groups : BitVec 32) :
    CpuMachine × Status :=
  match validateSync s groups with
  | .error e => (s, .error e)
  | .ok _ => putRegistersLocked sink s groups

/-- `vart_riscv_cpu_state_mark_dirty`. -/
def riscvCpuStateMarkDirty (s : CpuMachine) (groups : BitVec 32) : CpuMachine × Status :=
  if groups = 0 ∨ groups &&& ~~~riscvRegAll ≠ 0 ∨ groups &&& ~~~s.valid ≠ 0 then
    (s, .error .einval)
  else ({ s with dirty := s.dirty ||| groups }, .ok ())

/-- `KVM_MP_STATE_RUNNABLE` and `KVM_MP_STATE_STOPPED`. -/
abbrev kvmMpStateRunnable : Nat := 0

@[inherit_doc kvmMpStateRunnable] abbrev kvmMpStateStopped : Nat := 5

/-- `vart_vcpu_set_mp_state_locked` for a vCPU that is not running: there is nobody to kick. -/
def vcpuSetMpStateLocked (sink : Sink) (s : CpuMachine) (mpState : Nat) : CpuMachine × Status :=
  if s.hasMpState = false then (s, .error .enotsup)
  else andThen (s.ioctl sink) fun s => ({ s with mpState }, .ok ())

/-- The cached registers of a hart that enters the kernel. -/
def bootRegs (s : CpuMachine) (entry fdtAddr : UInt64) : RegId → UInt64
  | .pc => entry
  | .gpr index => if index = 10 then s.hartId else if index = 11 then fdtAddr else 0
  | .mode => kvmRiscvModeS
  | .csr _ => 0
  | .timer name => s.regs (.timer name)

/-- `vart_riscv_vcpu_init_boot`. -/
def riscvVcpuInitBoot (sink : Sink) (s : CpuMachine) (entry fdtAddr : UInt64) :
    CpuMachine × Status :=
  let groups := RegGroup.core.bit ||| RegGroup.csr.bit
  if entry = 0 ∨ entry &&& 1 ≠ 0 ∨ fdtAddr = 0 ∨ fdtAddr &&& 7 ≠ 0 then (s, .error .einval)
  else match validateSync s groups with
  | .error e => (s, .error e)
  | .ok _ =>
    let s := { s with
      regs := bootRegs s entry fdtAddr
      valid := s.valid ||| groups
      dirty := s.dirty ||| groups }
    andThen (putRegistersLocked sink s groups) fun s =>
      vcpuSetMpStateLocked sink s (if s.hartId = 0 then kvmMpStateRunnable else kvmMpStateStopped)

/-! ## Direct setters -/

/-- `vart_vcpu_invalidate_core_state`. -/
def vcpuInvalidateCoreState (s : CpuMachine) : CpuMachine :=
  { s with
    valid := s.valid &&& ~~~RegGroup.core.bit
    dirty := s.dirty &&& ~~~RegGroup.core.bit }

/-- One CORE register of KVM is written, past the cache. -/
def vcpuSetCoreReg (sink : Sink) (s : CpuMachine) (r : RegId) (value : UInt64) :
    CpuMachine × Status :=
  andThen (vcpuSetOneReg sink s r value) fun s => (vcpuInvalidateCoreState s, .ok ())

/-- `vart_vcpu_set_pc`. -/
def vcpuSetPc (sink : Sink) (s : CpuMachine) (value : UInt64) : CpuMachine × Status :=
  vcpuSetCoreReg sink s .pc value

/-- `vart_vcpu_set_mode`. -/
def vcpuSetMode (sink : Sink) (s : CpuMachine) (mode : UInt64) : CpuMachine × Status :=
  if mode ≠ kvmRiscvModeS ∧ mode ≠ kvmRiscvModeU then (s, .error .einval)
  else vcpuSetCoreReg sink s .mode mode

/-- `vart_vcpu_set_gpr`. -/
def vcpuSetGpr (sink : Sink) (s : CpuMachine) (index : Nat) (value : UInt64) :
    CpuMachine × Status :=
  if h : index > 31 then (s, .error .einval)
  else if index = 0 then (s, if value = 0 then .ok () else .error .einval)
  else vcpuSetCoreReg sink s (.gpr ⟨index, by omega⟩) value

/-! ## Transitions -/

inductive CpuOp where
  | getRegisters (groups : BitVec 32)
  | putRegisters (groups : BitVec 32)
  | markDirty (groups : BitVec 32)
  /-- The registers of `groups` are edited in place, and then `mark_dirty` is called. -/
  | edit (groups : BitVec 32) (regs : RegId → UInt64)
  | setPc (value : UInt64)
  | setGpr (index : Nat) (value : UInt64)
  | setMode (mode : UInt64)
  | initBoot (entry fdtAddr : UInt64)
  /-- `vart_vcpu_run` on the thread of the caller; KVM's registers are `kvm` afterwards. -/
  | run (kvm : RegId → UInt64)
  /-- The worker thread is started. -/
  | start
  /-- `vart_vcpu_run` on the worker thread. -/
  | workerRun (kvm : RegId → UInt64)
  /-- The worker thread ends. -/
  | workerStop

/-- The registers of `groups` are those of `regs`. -/
def CpuMachine.editRegs (s : CpuMachine) (groups : BitVec 32) (regs : RegId → UInt64) :
    CpuMachine :=
  { s with regs := fun r => if groups &&& r.group.bit = 0 then s.regs r else regs r }

def cpuStep (sink : Sink) (s : CpuMachine) : CpuOp → CpuMachine
  | .getRegisters groups => (riscvVcpuGetRegisters sink s groups).1
  | .putRegisters groups => (riscvVcpuPutRegisters sink s groups).1
  | .markDirty groups => (riscvCpuStateMarkDirty s groups).1
  | .edit groups regs => (riscvCpuStateMarkDirty (s.editRegs groups regs) groups).1
  | .setPc value => (vcpuSetPc sink s value).1
  | .setGpr index value => (vcpuSetGpr sink s index value).1
  | .setMode mode => (vcpuSetMode sink s mode).1
  | .initBoot entry fdtAddr => (riscvVcpuInitBoot sink s entry fdtAddr).1
  | .run kvm => { s with kvm }
  | .start => if s.threadState = .created then { s with threadState := .running } else s
  | .workerRun kvm => if s.threadState = .running then { s with kvm } else s
  | .workerStop => if s.threadState = .running then { s with threadState := .stopped } else s

end Vart
