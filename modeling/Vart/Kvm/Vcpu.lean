import Mathlib.Logic.Function.Basic
import Vart.Lib.Reach

/-!
# vCPU threads (`kvm/vcpu.c`)

The worker thread of each vCPU, the kick signal, and the calls that kick, stop, start and shut down
vCPUs under the big lock, with one step for each access to memory that two threads share.

* `vart_vcpu_thread` is the program counter `WorkerPc` with `workerStep`. The results of
  `pthread_sigmask`, `KVM_RUN` and the exit handler are steps of their own and arbitrary.
* The kick signal is a pending bit of the thread. It is delivered at any step of a thread that does
  not block it: the handler sets `immediate_exit`, and a thread inside `KVM_RUN` leaves it with
  `EINTR`. `KVM_RUN` also returns `EINTR` when `immediate_exit` is set on entry.
* A thread that holds the big lock makes calls (`LockedCall`), step by step: a worker from inside
  its exit handler, or another thread. `pthread_kill` and `pthread_create` may fail.

A step that its thread cannot take does nothing. `vart_vcpu_join` and `vart_vcpu_destroy` wait for
the end of the worker and are left out, as are the accesses to registers and the contents of exits.
-/

namespace Vart

open Lib

/-! ## State -/

/-- `VartVcpuThreadState`. -/
inductive ThreadState where
  | created | running | stopped
deriving DecidableEq

/-- `VartVcpuExitType`. -/
inductive ExitType where
  | mmio | systemEvent | riscvSbi | shutdown | interrupted | unknown
deriving DecidableEq

/-- Where a worker is in `vart_vcpu_thread`. -/
inductive WorkerPc where
  /-- There is no thread. -/
  | none
  /-- The thread is about to set `current_vcpu`. -/
  | begin
  /-- About to call `pthread_sigmask`. -/
  | unblock
  /-- `pthread_sigmask` failed; waits for the big lock. -/
  | lockFailed
  /-- About to load `stop_requested` at the head of the loop. -/
  | loadStop
  /-- About to exchange `kick_requested`. -/
  | exchangeKick
  /-- About to enter `KVM_RUN`. -/
  | enterRun
  | insideRun
  /-- `KVM_RUN` returned; about to clear `immediate_exit`. -/
  | clearExit
  /-- About to clear `kick_requested` after an interrupted run. -/
  | clearKick
  /-- Waits for the big lock. -/
  | lock
  /-- Holds the big lock; about to load `stop_requested` again. -/
  | recheck
  /-- About to call the exit handler. -/
  | callHandler
  | insideHandler
  /-- About to set the thread state. -/
  | finish
  /-- About to release the big lock. -/
  | unlock
  /-- Left the loop; about to clear `current_vcpu`. -/
  | clearCurrent
  | ended
deriving DecidableEq

/-- `VartVcpu` and its thread. -/
structure Vcpu where
  threadState : ThreadState
  threadCreated : Bool
  threadResult : Int
  kickRequested : Bool
  stopRequested : Bool
  /-- `run->immediate_exit`. -/
  immediateExit : Bool
  pc : WorkerPc
  /-- The local variables `action` and `exit.type` of the worker. -/
  action : Int
  exitType : ExitType
  /-- `current_vcpu` of the worker is this vCPU. -/
  current : Bool
  /-- The worker blocks the kick signal. -/
  blocked : Bool
  /-- The kick signal is pending for the worker. -/
  pending : Bool
deriving DecidableEq

/-- `vart_vcpu_create` clears the record. -/
def Vcpu.zero : Vcpu where
  threadState := .created
  threadCreated := false
  threadResult := 0
  kickRequested := false
  stopRequested := false
  immediateExit := false
  pc := .none
  action := 0
  exitType := .mmio
  current := false
  blocked := false
  pending := false

inductive LockOwner where
  | worker (v : Nat)
  /-- A thread that is not a worker. -/
  | other
deriving DecidableEq

/-- The call that the owner of the big lock is in, and where. `next` is the rest of the loop of
`vart_vm_request_shutdown_locked`, if that call kicks the vCPU. -/
inductive LockedCall where
  /-- `vart_vcpu_kick_locked`: about to read the thread state, -/
  | kickCheck (v : Nat) (stop : Bool) (next : Option (List Nat))
  /-- about to set `stop_requested` or `kick_requested`, -/
  | kickStore (v : Nat) (stop : Bool) (next : Option (List Nat))
  /-- about to call `pthread_kill`. -/
  | kickSignal (v : Nat) (stop : Bool) (next : Option (List Nat))
  /-- `vart_vm_request_shutdown_locked`: about to set `shutdown_requested`, -/
  | shutdownStore
  /-- at the head of the loop. -/
  | shutdownLoop (vcpus : List Nat)
  /-- `vart_vcpu_start`: about to check and set the thread state, -/
  | startCheck (v : Nat)
  /-- about to create the thread, -/
  | startThread (v : Nat)
  /-- about to set `thread_created`. -/
  | startCreated (v : Nat)
  /-- `vart_vcpu_create`: about to add the vCPU to the list. -/
  | create (v : Nat)
deriving DecidableEq

/-- What the log records. -/
inductive VcpuEvent where
  /-- `vart_vcpu_kick_locked` succeeded, without and with `stop`. -/
  | kicked (v : Nat)
  | stopped (v : Nat)
  /-- The worker called the exit handler. -/
  | handlerCalled (v : Nat)
deriving DecidableEq

structure Vm where
  vcpus : Nat → Vcpu
  /-- The list `vcpus`, newest first. -/
  list : List Nat
  shutdownRequested : Bool
  /-- The owner of `big_lock`. -/
  lock : Option LockOwner
  call : Option LockedCall
  /-- The events so far, newest first. -/
  log : List VcpuEvent

/-- Change one vCPU. -/
def Vm.update (s : Vm) (v : Nat) (f : Vcpu → Vcpu) : Vm :=
  { s with vcpus := Function.update s.vcpus v (f (s.vcpus v)) }

/-! ## The worker -/

namespace Vcpu

/-- `vart_vcpu_run` returned. -/
def returned (vcpu : Vcpu) (action : Int) (exitType : ExitType) : Vcpu :=
  { vcpu with action, exitType, pc := .clearExit }

/-- A step of the worker that needs no lock. -/
def step (vcpu : Vcpu) : Vcpu :=
  match vcpu.pc with
  | .begin => { vcpu with current := true, pc := .unblock }
  | .loadStop =>
    if vcpu.stopRequested then { vcpu with action := 1, pc := .lock }
    else { vcpu with pc := .exchangeKick }
  | .exchangeKick =>
    if vcpu.kickRequested then
      { vcpu with kickRequested := false, exitType := .interrupted, action := 0, pc := .lock }
    else { vcpu with pc := .enterRun }
  | .enterRun =>
    if vcpu.immediateExit then vcpu.returned 0 .interrupted else { vcpu with pc := .insideRun }
  | .clearExit =>
    { vcpu with
      immediateExit := false
      pc := if vcpu.action = 0 ∧ vcpu.exitType = .interrupted then .clearKick else .lock }
  | .clearKick => { vcpu with kickRequested := false, pc := .lock }
  | .clearCurrent => { vcpu with current := false, pc := .ended }
  | _ => vcpu

/-- A step of the worker that holds the big lock, other than calling the handler. -/
def lockedStep (vcpu : Vcpu) : Vcpu :=
  match vcpu.pc with
  | .recheck =>
    if vcpu.stopRequested then { vcpu with action := 1, pc := .finish }
    else { vcpu with pc := if vcpu.action = 0 then .callHandler else .finish }
  | .finish =>
    if vcpu.action ≠ 0 then
      { vcpu with
        threadResult := if vcpu.action < 0 then vcpu.action else 0
        threadState := .stopped
        pc := .unlock }
    else { vcpu with pc := .unlock }
  | _ => vcpu

/-- `pthread_sigmask` returned. -/
def sigmask (vcpu : Vcpu) (error : Nat) : Vcpu :=
  if vcpu.pc = .unblock then
    if error = 0 then { vcpu with blocked := false, pc := .loadStop }
    else { vcpu with action := -error, pc := .lockFailed }
  else vcpu

/-- `KVM_RUN` returned by itself: with an exit, with `EINTR` or `EAGAIN` (`interrupted`), or with
another error. -/
def runReturns (vcpu : Vcpu) (result : Except Nat ExitType) : Vcpu :=
  if vcpu.pc = .insideRun then
    match result with
    | .ok exitType => vcpu.returned 0 exitType
    | .error error => vcpu.returned (-error) .mmio
  else vcpu

/-- The kick signal is delivered: `vart_vcpu_kick_handler`. -/
def deliver (vcpu : Vcpu) : Vcpu :=
  if vcpu.pending ∧ ¬ vcpu.blocked then
    let vcpu := { vcpu with pending := false, immediateExit := vcpu.immediateExit || vcpu.current }
    if vcpu.pc = .insideRun then vcpu.returned 0 .interrupted else vcpu
  else vcpu

end Vcpu

/-- The next step of worker `v`. -/
def workerStep (s : Vm) (v : Nat) : Vm :=
  match (s.vcpus v).pc with
  | .lock =>
    if s.lock = none then
      ({ s with lock := some (.worker v) }).update v fun vcpu => { vcpu with pc := .recheck }
    else s
  | .lockFailed =>
    if s.lock = none then
      ({ s with lock := some (.worker v) }).update v fun vcpu => { vcpu with pc := .finish }
    else s
  | .recheck | .finish => s.update v Vcpu.lockedStep
  | .callHandler =>
    ({ s with log := .handlerCalled v :: s.log }).update v
      fun vcpu => { vcpu with pc := .insideHandler }
  | .unlock =>
    ({ s with lock := none }).update v fun vcpu =>
      { vcpu with pc := if vcpu.action ≠ 0 then .clearCurrent else .loadStop }
  | _ => s.update v Vcpu.step

/-- The exit handler of worker `v` returns. -/
def handlerReturns (s : Vm) (v : Nat) (action : Int) : Vm :=
  if (s.vcpus v).pc = .insideHandler ∧ s.call = none then
    s.update v fun vcpu => { vcpu with action, pc := .finish }
  else s

/-! ## Calls under the big lock -/

/-- `vart_vcpu_kick_locked` returns. -/
def Vm.kickReturns (s : Vm) (next : Option (List Nat)) : Vm :=
  { s with call := next.map .shutdownLoop }

/-- The next step of the call in progress; `ok` says whether `pthread_kill` or `pthread_create`
succeeds. -/
def callStep (s : Vm) (ok : Bool) : Vm :=
  match s.call with
  | none => s
  | some (.kickCheck v stop next) =>
    if (s.vcpus v).threadState ≠ .running then s.kickReturns next
    else { s with call := some (.kickStore v stop next) }
  | some (.kickStore v stop next) =>
    ({ s with call := some (.kickSignal v stop next) }).update v fun vcpu =>
      if stop then { vcpu with stopRequested := true } else { vcpu with kickRequested := true }
  | some (.kickSignal v stop next) =>
    if ok then
      (({ s with log := (if stop then .stopped v else .kicked v) :: s.log }).update v
        fun vcpu => { vcpu with pending := true }).kickReturns next
    else s.kickReturns next
  | some .shutdownStore => { s with shutdownRequested := true, call := some (.shutdownLoop s.list) }
  | some (.shutdownLoop []) => { s with call := none }
  | some (.shutdownLoop (v :: vs)) =>
    if (s.vcpus v).threadState ≠ .running then { s with call := some (.shutdownLoop vs) }
    else { s with call := some (.kickCheck v true (some vs)) }
  | some (.startCheck v) =>
    if (s.vcpus v).threadState ≠ .created || (s.vcpus v).threadCreated || s.shutdownRequested then
      { s with call := none }
    else
      ({ s with call := some (.startThread v) }).update v
        fun vcpu => { vcpu with threadResult := 0, threadState := .running }
  | some (.startThread v) =>
    if ok then
      ({ s with call := some (.startCreated v) }).update v
        fun vcpu => { vcpu with pc := .begin, blocked := true }
    else ({ s with call := none }).update v fun vcpu => { vcpu with threadState := .created }
  | some (.startCreated v) =>
    ({ s with call := none }).update v fun vcpu => { vcpu with threadCreated := true }
  | some (.create v) => { s with list := v :: s.list, call := none }

/-- The calls that the owner of the big lock can make. -/
inductive VmCall where
  /-- `vart_vcpu_kick_locked`. -/
  | kick (v : Nat) (stop : Bool)
  | shutdown
  | start (v : Nat)
  | create (v : Nat)
deriving DecidableEq

def VmCall.first : VmCall → LockedCall
  | .kick v stop => .kickCheck v stop none
  | .shutdown => .shutdownStore
  | .start v => .startCheck v
  | .create v => .create v

/-- `vart_vcpu_start` and `vart_vcpu_create` take the big lock themselves, so no exit handler can
make these calls. -/
def VmCall.fromHandler : VmCall → Bool
  | .kick .. | .shutdown => true
  | .start _ | .create _ => false

/-- The owner of the big lock can begin a call. -/
def Vm.mayCall (s : Vm) (c : VmCall) : Bool :=
  match s.lock with
  | none => false
  | some .other => true
  | some (.worker v) => decide ((s.vcpus v).pc = .insideHandler) && c.fromHandler

def beginCall (s : Vm) (c : VmCall) : Vm :=
  if s.call = none ∧ s.mayCall c then { s with call := some c.first } else s

/-! ## The machine -/

inductive VcpuOp where
  | worker (v : Nat)
  | sigmask (v : Nat) (error : Nat)
  | runReturns (v : Nat) (result : Except Nat ExitType)
  | handlerReturns (v : Nat) (action : Int)
  | deliver (v : Nat)
  /-- A thread that is not a worker takes and releases the big lock. -/
  | lock
  | unlock
  | beginCall (c : VmCall)
  | callStep (ok : Bool)

def vcpuStep (s : Vm) : VcpuOp → Vm
  | .worker v => workerStep s v
  | .sigmask v error => s.update v (·.sigmask error)
  | .runReturns v result => s.update v (·.runReturns result)
  | .handlerReturns v action => handlerReturns s v action
  | .deliver v => s.update v Vcpu.deliver
  | .lock => if s.lock = none then { s with lock := some .other } else s
  | .unlock => if s.lock = some .other ∧ s.call = none then { s with lock := none } else s
  | .beginCall c => beginCall s c
  | .callStep ok => callStep s ok

/-- A vCPU is created once, and used after that. -/
def VcpuOp.Valid (s : Vm) : VcpuOp → Prop
  | .beginCall (.kick v _) | .beginCall (.start v) => v ∈ s.list
  | .beginCall (.create v) => v ∉ s.list
  | _ => True

instance VcpuOp.Valid.decidable (s : Vm) (op : VcpuOp) : Decidable (op.Valid s) := by
  unfold VcpuOp.Valid
  split <;> infer_instance

def Vm.init : Vm where
  vcpus := fun _ => .zero
  list := []
  shutdownRequested := false
  lock := none
  call := none
  log := []

end Vart
