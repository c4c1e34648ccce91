import Vart.Kvm.Vcpu

/-!
# Kicks and stops are not lost

A vCPU is asleep if its worker is inside `KVM_RUN` with `immediate_exit` clear and no kick signal
pending. In every interleaving of the workers, the signals and the calls under the big lock:

* after a successful kick the vCPU is not asleep until its worker has called the exit handler again;
* after a successful stop it is never asleep, and its worker never calls the exit handler again;
* while `shutdown_requested` is set, `stop_requested` is set for every running vCPU that the
  shutdown call is not still to reach.

The invariant is `Vm.Inv`. `Vcpu.Moves` says what a step of the worker leaves of the requests to
it: a worker on its way to the exchange of `kick_requested` keeps the flag, and one that has passed
a check before the request was made finds the signal or `immediate_exit`.
-/

namespace Vart

open Lib

/-! ## Properties -/

/-- Nothing gets the worker out of the guest. -/
def Vcpu.Asleep (vcpu : Vcpu) : Prop :=
  vcpu.pc = .insideRun ∧ vcpu.immediateExit = false ∧ vcpu.pending = false

/-- A kick of `v` succeeded, and its worker has not called the exit handler since. -/
def kickedSince (v : Nat) : List VcpuEvent → Bool
  | [] => false
  | .kicked w :: log => decide (w = v) || kickedSince v log
  | .handlerCalled w :: log => decide (w ≠ v) && kickedSince v log
  | .stopped _ :: log => kickedSince v log

/-- The worker of `v` called the exit handler after a stop of `v` had succeeded. -/
def CalledAfterStop (v : Nat) (log : List VcpuEvent) : Prop :=
  ∃ newer older, log = newer ++ .stopped v :: older ∧ .handlerCalled v ∈ newer

theorem calledAfterStop_cons {v : Nat} {e : VcpuEvent} {log : List VcpuEvent}
    (h : CalledAfterStop v (e :: log)) :
    CalledAfterStop v log ∨ (e = .handlerCalled v ∧ .stopped v ∈ log) := by
  obtain ⟨newer, older, hlog, hcalled⟩ := h
  cases newer with
  | nil => cases hcalled
  | cons e' newer =>
    obtain ⟨rfl, rfl⟩ := List.cons.inj hlog
    obtain heq | hcalled := List.mem_cons.1 hcalled
    · exact .inr ⟨heq.symm, by simp⟩
    · exact .inl ⟨newer, older, rfl, hcalled⟩

/-- The shutdown call has set `shutdown_requested` and is still to stop `v`. -/
def Vm.ShutdownAhead (s : Vm) (v : Nat) : Prop :=
  match s.call with
  | some (.shutdownLoop vs) => v ∈ vs
  | some (.kickCheck w _ (some vs)) => v = w ∨ v ∈ vs
  | some (.kickStore w _ (some vs)) => v = w ∨ v ∈ vs
  | some (.kickSignal _ _ (some vs)) => v ∈ vs
  | _ => False

section ShutdownAhead

variable {s : Vm} {v w : Nat} {stop : Bool} {next : Option (List Nat)}

theorem Vm.shutdownAhead_kickCheck (hcall : s.call = some (.kickCheck v stop next)) :
    s.ShutdownAhead w ↔ ∃ vs, next = some vs ∧ (w = v ∨ w ∈ vs) := by
  cases next <;> simp [ShutdownAhead, hcall]

theorem Vm.shutdownAhead_kickStore (hcall : s.call = some (.kickStore v stop next)) :
    s.ShutdownAhead w ↔ ∃ vs, next = some vs ∧ (w = v ∨ w ∈ vs) := by
  cases next <;> simp [ShutdownAhead, hcall]

theorem Vm.shutdownAhead_kickSignal (hcall : s.call = some (.kickSignal v stop next)) :
    s.ShutdownAhead w ↔ ∃ vs, next = some vs ∧ w ∈ vs := by
  cases next <;> simp [ShutdownAhead, hcall]

end ShutdownAhead

/-! ## Program counters -/

namespace WorkerPc

/-- The worker holds the big lock. -/
@[simp] def holdsLock : WorkerPc → Bool
  | recheck | callHandler | insideHandler | finish | unlock => true
  | _ => false

/-- `current_vcpu` is set. -/
@[simp] def hasCurrent : WorkerPc → Bool
  | none | begin | ended => false
  | _ => true

/-- The worker has found no kick request. -/
@[simp] def passedKick : WorkerPc → Bool
  | enterRun | insideRun => true
  | _ => false

/-- The worker has found no stop request. -/
@[simp] def passedStop : WorkerPc → Bool
  | exchangeKick | enterRun | insideRun => true
  | _ => false

end WorkerPc

namespace Vcpu

/-- The worker looks at `kick_requested` before it enters the guest again. -/
@[simp] def kickAhead (vcpu : Vcpu) : Bool :=
  match vcpu.pc with
  | .none | .begin | .unblock | .loadStop | .exchangeKick | .insideHandler => true
  | .lockFailed | .finish | .unlock => decide (vcpu.action = 0)
  | _ => false

/-- Something gets the worker out of the guest. -/
@[simp] def woken (vcpu : Vcpu) : Bool := vcpu.pending || vcpu.immediateExit

/-- What a step of the worker, or a request to it, leaves of the requests before. -/
structure Moves (c c' : Vcpu) : Prop where
  thread : c'.pc = .none ↔ c.pc = .none
  threadState : c'.threadState = c.threadState ∨ (c'.threadState = .stopped ∧ c.pc ≠ .none)
  current : (c.pc.hasCurrent = true → c.current = true) →
    c'.pc.hasCurrent = true → c'.current = true
  stopRequested : c.stopRequested = true → c'.stopRequested = true
  /-- No step leads back to the exchange, or clears the flag on the way to it. -/
  kickAhead : c'.kickAhead = true →
    c.kickAhead = true ∧ (c.kickRequested = true → c'.kickRequested = true)
  /-- The worker has found no kick request now, or before. -/
  passedKick : c'.pc.passedKick = true →
    (c.kickAhead = true ∧ c.kickRequested = false) ∨
      (c.pc.passedKick = true ∧ (c.woken = true → c'.woken = true))
  passedStop : c'.pc.passedStop = true →
    c.stopRequested = false ∨ (c.pc.passedStop = true ∧ (c.woken = true → c'.woken = true))
  callHandler : (c.pc = .callHandler → c.stopRequested = false) →
    c'.pc = .callHandler → c'.stopRequested = false

theorem moves_refl (c : Vcpu) : c.Moves c :=
  ⟨Iff.rfl, .inl rfl, id, id, fun h => ⟨h, id⟩, fun h => .inr ⟨h, id⟩, fun h => .inr ⟨h, id⟩, id⟩

theorem moves_step (c : Vcpu) : c.Moves c.step := by
  unfold step
  split
  all_goals rename_i hpc
  · constructor <;> simp [hpc]
  · split
    · constructor <;> simp [hpc]
    · constructor <;> simp_all
  · split
    · constructor <;> simp [hpc]
    · constructor <;> simp_all
  · split
    · constructor <;> simp [hpc, returned]
    · constructor <;> simp_all
  · split
    · constructor <;> simp [hpc]
    · constructor <;> simp [hpc]
  · constructor <;> simp [hpc]
  · constructor <;> simp [hpc]
  · exact moves_refl c

theorem moves_lockedStep (c : Vcpu) : c.Moves c.lockedStep := by
  unfold lockedStep
  split
  all_goals rename_i hpc
  · split
    · constructor <;> simp [hpc]
    · split
      · constructor <;> simp_all
      · constructor <;> simp_all
  · split
    · constructor <;> simp_all
    · constructor <;> simp_all
  · exact moves_refl c

theorem moves_sigmask (c : Vcpu) (error : Nat) : c.Moves (c.sigmask error) := by
  unfold sigmask
  split
  · rename_i hpc
    split
    · constructor <;> simp [hpc]
    · constructor <;> simp [hpc]
  · exact moves_refl c

theorem moves_runReturns (c : Vcpu) (result : Except Nat ExitType) :
    c.Moves (c.runReturns result) := by
  unfold runReturns
  split
  · rename_i hpc
    cases result with
    | ok exitType => constructor <;> simp [hpc, returned]
    | error error => constructor <;> simp [hpc, returned]
  · exact moves_refl c

/-- The handler of the signal sets `immediate_exit` for a worker in its loop. -/
theorem moves_deliver (c : Vcpu) (hcurrent : c.pc.hasCurrent = true → c.current = true) :
    c.Moves c.deliver := by
  unfold deliver
  split
  · dsimp only
    split
    · constructor <;> simp_all [returned]
    · have hwoken : c.pc.hasCurrent = true → (c.immediateExit || c.current) = true := by
        intro hpc
        rw [hcurrent hpc, Bool.or_true]
      have hkick : c.pc.passedKick = true → c.pc.hasCurrent = true := by
        cases c.pc <;> simp
      have hstop : c.pc.passedStop = true → c.pc.hasCurrent = true := by
        cases c.pc <;> simp
      exact ⟨Iff.rfl, .inl rfl, id, id, fun h => ⟨h, id⟩,
        fun h => .inr ⟨h, fun _ => hwoken (hkick h)⟩,
        fun h => .inr ⟨h, fun _ => hwoken (hstop h)⟩, id⟩
  · exact moves_refl c

/-- Setting a request, or the signal, loses none. -/
theorem moves_stopRequested {c : Vcpu} (hpc : c.pc ≠ .callHandler) :
    c.Moves { c with stopRequested := true } :=
  { c.moves_refl with
    stopRequested := fun _ => rfl
    callHandler := fun _ heq => absurd heq hpc }

theorem moves_kickRequested (c : Vcpu) : c.Moves { c with kickRequested := true } :=
  { c.moves_refl with kickAhead := fun ha => ⟨ha, fun _ => rfl⟩ }

theorem moves_pending (c : Vcpu) : c.Moves { c with pending := true } :=
  { c.moves_refl with
    passedKick := fun hp => .inr ⟨hp, fun _ => rfl⟩
    passedStop := fun hp => .inr ⟨hp, fun _ => rfl⟩ }

/-- The worker neither takes nor releases the big lock, and stays in its handler. -/
structure Stays (c c' : Vcpu) : Prop where
  holdsLock : c'.pc.holdsLock = c.pc.holdsLock
  insideHandler : c.pc = .insideHandler → c'.pc = .insideHandler

theorem stays_step (c : Vcpu) : c.Stays c.step where
  holdsLock := by
    unfold step
    split
    all_goals rename_i hpc
    · simp [hpc]
    · split <;> simp [hpc]
    · split <;> simp [hpc]
    · split <;> simp [hpc, returned]
    · split <;> simp [hpc]
    · simp [hpc]
    · simp [hpc]
    · rfl
  insideHandler hpc := by simp [step, hpc]

theorem stays_lockedStep (c : Vcpu) : c.Stays c.lockedStep where
  holdsLock := by
    unfold lockedStep
    split
    all_goals rename_i hpc
    · split
      · simp [hpc]
      · split <;> simp [hpc]
    · split <;> simp [hpc]
    · rfl
  insideHandler hpc := by simp [lockedStep, hpc]

theorem stays_sigmask (c : Vcpu) (error : Nat) : c.Stays (c.sigmask error) where
  holdsLock := by
    unfold sigmask
    split
    · rename_i hpc
      split <;> simp [hpc]
    · rfl
  insideHandler hpc := by simp [sigmask, hpc]

theorem stays_runReturns (c : Vcpu) (result : Except Nat ExitType) :
    c.Stays (c.runReturns result) where
  holdsLock := by
    unfold runReturns
    split
    · rename_i hpc
      cases result <;> simp [hpc, returned]
    · rfl
  insideHandler hpc := by simp [runReturns, hpc]

theorem stays_deliver (c : Vcpu) : c.Stays c.deliver where
  holdsLock := by
    unfold deliver
    split
    · dsimp only
      split
      · rename_i hpc
        simp [hpc, returned]
      · rfl
    · rfl
  insideHandler hpc := by
    unfold deliver
    split
    · simp [hpc]
    · exact hpc

end Vcpu

/-! ## The invariant -/

/-- The requests to a vCPU that were made reach its worker. -/
structure Vcpu.Wakes (vcpu : Vcpu) (kicked stopped : Bool) : Prop where
  kickRequested : kicked = true → vcpu.kickAhead = true → vcpu.kickRequested = true
  passedKick : kicked = true → vcpu.pc.passedKick = true → vcpu.woken = true
  stopRequested : stopped = true → vcpu.stopRequested = true
  passedStop : stopped = true → vcpu.pc.passedStop = true → vcpu.woken = true

theorem Vcpu.Wakes.moves {c c' : Vcpu} {kicked stopped : Bool} (h : c.Wakes kicked stopped)
    (hm : c.Moves c') : c'.Wakes kicked stopped where
  kickRequested hk ha := by
    obtain ⟨ha, hflag⟩ := hm.kickAhead ha
    exact hflag (h.kickRequested hk ha)
  passedKick hk hp := by
    obtain ⟨ha, hflag⟩ | ⟨hp, hwoken⟩ := hm.passedKick hp
    · rw [h.kickRequested hk ha] at hflag
      cases hflag
    · exact hwoken (h.passedKick hk hp)
  stopRequested hs := hm.stopRequested (h.stopRequested hs)
  passedStop hs hp := by
    obtain hflag | ⟨hp, hwoken⟩ := hm.passedStop hp
    · rw [h.stopRequested hs] at hflag
      cases hflag
    · exact hwoken (h.passedStop hs hp)

/-- What holds of vCPU `v` while its record is `c`. -/
structure Vm.VcpuInv (s : Vm) (v : Nat) (c : Vcpu) : Prop where
  holder : c.pc.holdsLock = true ↔ s.lock = some (.worker v)
  unstarted : c.threadState = .created → c.pc = .none
  starting : s.call = some (.startThread v) → c.threadState = .running ∧ c.pc = .none
  current : c.pc.hasCurrent = true → c.current = true
  wakes : c.Wakes (kickedSince v s.log) (decide (.stopped v ∈ s.log))
  kickStored : ∀ next, s.call = some (.kickSignal v false next) →
    c.kickAhead = true → c.kickRequested = true
  stopStored : ∀ next, s.call = some (.kickSignal v true next) → c.stopRequested = true
  callHandler : c.pc = .callHandler → c.stopRequested = false
  listed : c.threadState = .running ∨ s.call = some (.startCheck v) → v ∈ s.list
  shutdown : s.shutdownRequested = true → c.threadState = .running →
    c.stopRequested = true ∨ s.ShutdownAhead v

/-- The call in progress belongs to the owner of the big lock. -/
def Vm.CallerOwns (s : Vm) : Prop :=
  s.lock = some .other ∨ ∃ w, s.lock = some (.worker w) ∧ (s.vcpus w).pc = .insideHandler

/-- The loop of the shutdown call stops the vCPUs. -/
@[simp] def LockedCall.stopsNext : LockedCall → Bool
  | kickCheck _ stop (some _) | kickStore _ stop (some _) => stop
  | _ => true

structure Vm.Inv (s : Vm) : Prop where
  caller : s.call ≠ none → s.CallerOwns
  stopsNext : ∀ c, s.call = some c → c.stopsNext = true
  order : ∀ v, ¬ CalledAfterStop v s.log
  vcpus : ∀ v, s.VcpuInv v (s.vcpus v)

namespace Vm.VcpuInv

variable {s : Vm} {v : Nat} {c c' : Vcpu}

theorem moves {lock : Option LockOwner} (h : s.VcpuInv v c) (hm : c.Moves c')
    (hlock : c'.pc.holdsLock = true ↔ lock = some (.worker v)) :
    VcpuInv { s with lock } v c' where
  holder := hlock
  unstarted hcreated := by
    obtain hsame | ⟨hstopped, -⟩ := hm.threadState
    · exact hm.thread.2 (h.unstarted (hsame ▸ hcreated))
    · rw [hstopped] at hcreated
      cases hcreated
  starting hcall := by
    obtain ⟨hrunning, hpc⟩ := h.starting hcall
    obtain hsame | ⟨-, hthread⟩ := hm.threadState
    · exact ⟨hsame.trans hrunning, hm.thread.2 hpc⟩
    · exact absurd hpc hthread
  current := hm.current h.current
  wakes := h.wakes.moves hm
  kickStored next hcall ha := by
    obtain ⟨ha, hflag⟩ := hm.kickAhead ha
    exact hflag (h.kickStored next hcall ha)
  stopStored next hcall := hm.stopRequested (h.stopStored next hcall)
  callHandler := hm.callHandler h.callHandler
  listed hrunning := by
    obtain hsame | ⟨hstopped, -⟩ := hm.threadState
    · exact h.listed (hsame ▸ hrunning)
    · rw [hstopped] at hrunning
      exact h.listed (.inr (hrunning.resolve_left (by simp)))
  shutdown hs hrunning := by
    obtain hsame | ⟨hstopped, -⟩ := hm.threadState
    · exact (h.shutdown hs (hsame ▸ hrunning)).imp_left hm.stopRequested
    · rw [hstopped] at hrunning
      cases hrunning

theorem setLock {lock : Option LockOwner} (h : s.VcpuInv v c)
    (hlock : c.pc.holdsLock = true ↔ lock = some (.worker v)) :
    VcpuInv { s with lock } v c :=
  { h with holder := hlock }

theorem setLog {log : List VcpuEvent} (h : s.VcpuInv v c)
    (hwakes : c.Wakes (kickedSince v log) (decide (.stopped v ∈ log))) :
    VcpuInv { s with log } v c :=
  { h with wakes := hwakes }

theorem setCall {call : Option LockedCall} (h : s.VcpuInv v c)
    (hstarting : call = some (.startThread v) → c.threadState = .running ∧ c.pc = .none)
    (hkick : ∀ next, call = some (.kickSignal v false next) →
      c.kickAhead = true → c.kickRequested = true)
    (hstop : ∀ next, call = some (.kickSignal v true next) → c.stopRequested = true)
    (hcheck : call = some (.startCheck v) → v ∈ s.list)
    (hahead : s.ShutdownAhead v → c.threadState = .running →
      c.stopRequested = true ∨ ShutdownAhead { s with call } v) :
    VcpuInv { s with call } v c :=
  { h with
    starting := hstarting
    kickStored := hkick
    stopStored := hstop
    listed := fun hrunning => hrunning.elim (fun hr => h.listed (.inl hr)) hcheck
    shutdown := fun hs hrunning =>
      (h.shutdown hs hrunning).elim .inl fun ha => hahead ha hrunning }

end Vm.VcpuInv

namespace Vm.Inv

variable {s : Vm} {v : Nat} {c : Vcpu}

/-- A worker that holds the big lock outside of its handler, is in no call. -/
theorem call_eq_none (h : s.Inv) (hlock : (s.vcpus v).pc.holdsLock = true)
    (hpc : (s.vcpus v).pc ≠ .insideHandler) : s.call = none := by
  have hv := (h.vcpus v).holder.1 hlock
  by_contra hcall
  obtain hother | ⟨w, hw, hpc'⟩ := h.caller hcall
  · rw [hv] at hother
    cases hother
  · rw [hv] at hw
    cases hw
    exact hpc hpc'

theorem call_eq_none_of_unlocked (h : s.Inv) (hlock : s.lock = none) : s.call = none := by
  by_contra hcall
  obtain hother | ⟨w, hw, -⟩ := h.caller hcall
  · rw [hlock] at hother
    cases hother
  · rw [hlock] at hw
    cases hw

/-- No worker is at the call of its handler during a call under the lock. -/
theorem pc_ne_callHandler (h : s.Inv) (hcall : s.call ≠ none) :
    (s.vcpus v).pc ≠ .callHandler := by
  intro hpc
  exact hcall (h.call_eq_none (v := v) (by simp [hpc]) (by simp [hpc]))

theorem mk_update {f : Vcpu → Vcpu} (hcaller : s.call ≠ none → (s.update v f).CallerOwns)
    (hnext : ∀ c, s.call = some c → c.stopsNext = true)
    (horder : ∀ w, ¬ CalledAfterStop w s.log) (hv : s.VcpuInv v (f (s.vcpus v)))
    (hothers : ∀ w, w ≠ v → s.VcpuInv w (s.vcpus w)) : (s.update v f).Inv where
  caller := hcaller
  stopsNext := hnext
  order := horder
  vcpus w := by
    by_cases hw : w = v
    · subst hw
      simpa [update] using { hv with }
    · simpa [update, hw] using { hothers w hw with }

theorem caller_update {f : Vcpu → Vcpu} (h : s.Inv)
    (hpc : (s.vcpus v).pc = .insideHandler → (f (s.vcpus v)).pc = .insideHandler ∨ s.call = none)
    (hcall : s.call ≠ none) : (s.update v f).CallerOwns := by
  refine (h.caller hcall).imp_right ?_
  rintro ⟨w, hw, hhandler⟩
  refine ⟨w, hw, ?_⟩
  by_cases hwv : w = v
  · subst hwv
    simpa [Vm.update] using (hpc hhandler).resolve_right hcall
  · simpa [Vm.update, hwv] using hhandler

/-- A step that leaves the lock to its owner. -/
theorem update {f : Vcpu → Vcpu} (h : s.Inv) (hm : (s.vcpus v).Moves (f (s.vcpus v)))
    (hlock : (f (s.vcpus v)).pc.holdsLock = (s.vcpus v).pc.holdsLock)
    (hpc : (s.vcpus v).pc = .insideHandler → (f (s.vcpus v)).pc = .insideHandler ∨ s.call = none) :
    (s.update v f).Inv := by
  have hholder : (f (s.vcpus v)).pc.holdsLock = true ↔ s.lock = some (.worker v) := by
    rw [hlock]
    exact (h.vcpus v).holder
  exact mk_update (h.caller_update hpc) h.stopsNext h.order ((h.vcpus v).moves hm hholder)
    fun w _ => h.vcpus w

/-- Worker `v` takes the big lock. -/
theorem acquire {f : Vcpu → Vcpu} (h : s.Inv) (hlock : s.lock = none)
    (hm : (s.vcpus v).Moves (f (s.vcpus v))) (hpc : (f (s.vcpus v)).pc.holdsLock = true) :
    (({ s with lock := some (.worker v) }).update v f).Inv := by
  have hcall := h.call_eq_none_of_unlocked hlock
  refine mk_update (fun hnone => absurd hcall hnone) h.stopsNext h.order ?_ fun w hw => ?_
  · exact (h.vcpus v).moves hm (iff_of_true hpc rfl)
  · refine (h.vcpus w).setLock ?_
    rw [(h.vcpus w).holder, hlock]
    simpa using Ne.symm hw

/-- Worker `v` releases the big lock. -/
theorem release {f : Vcpu → Vcpu} (h : s.Inv) (hunlock : (s.vcpus v).pc = .unlock)
    (hm : (s.vcpus v).Moves (f (s.vcpus v))) (hpc : (f (s.vcpus v)).pc.holdsLock = false) :
    (({ s with lock := none }).update v f).Inv := by
  have hcall := h.call_eq_none (v := v) (by simp [hunlock]) (by simp [hunlock])
  have hlock := (h.vcpus v).holder.1 (by simp [hunlock])
  refine mk_update (fun hnone => absurd hcall hnone) h.stopsNext h.order ?_ fun w hw => ?_
  · exact (h.vcpus v).moves hm (iff_of_false (by rw [hpc]; exact Bool.false_ne_true) (by simp))
  · refine (h.vcpus w).setLock ?_
    rw [(h.vcpus w).holder, hlock]
    simpa using Ne.symm hw

/-- Worker `v` calls the exit handler: it has found no stop request under the lock. -/
theorem callHandler (h : s.Inv) (hpc : (s.vcpus v).pc = .callHandler) :
    (({ s with log := .handlerCalled v :: s.log }).update v
      fun vcpu => { vcpu with pc := .insideHandler }).Inv := by
  have hv := h.vcpus v
  have hcall := h.call_eq_none (v := v) (by simp [hpc]) (by simp [hpc])
  have hstopped : .stopped v ∉ s.log := by
    intro hmem
    have hstop := hv.wakes.stopRequested (decide_eq_true hmem)
    rw [hv.callHandler hpc] at hstop
    cases hstop
  refine mk_update (fun hnone => absurd hcall hnone) h.stopsNext ?_ ?_ fun w hw => ?_
  · intro w hcalled
    obtain hcalled | ⟨heq, hmem⟩ := calledAfterStop_cons hcalled
    · exact h.order w hcalled
    · cases heq
      exact hstopped hmem
  · have hholder := hv.holder
    have hunstarted := hv.unstarted
    rw [hpc] at hholder hunstarted
    exact
      { hv with
        holder := hholder
        unstarted := fun hcreated => by cases hunstarted hcreated
        starting := fun hsome => by cases hcall.symm.trans hsome
        current := fun _ => hv.current (by simp [hpc])
        wakes := by
          constructor <;> simp [kickedSince, hstopped]
        kickStored := fun _ hsome => by cases hcall.symm.trans hsome
        callHandler := fun heq => by cases heq }
  · refine (h.vcpus w).setLog ?_
    simpa [kickedSince, Ne.symm hw] using (h.vcpus w).wakes

end Vm.Inv

/-! ## Steps of the workers -/

theorem Vm.Inv.stays {s : Vm} (h : s.Inv) {v : Nat} {f : Vcpu → Vcpu}
    (hm : (s.vcpus v).Moves (f (s.vcpus v))) (hs : (s.vcpus v).Stays (f (s.vcpus v))) :
    (s.update v f).Inv :=
  h.update hm hs.holdsLock fun hpc => .inl (hs.insideHandler hpc)

theorem workerStep_inv {s : Vm} (h : s.Inv) (v : Nat) : (workerStep s v).Inv := by
  unfold workerStep
  split
  all_goals rename_i hpc
  · split
    · rename_i hlock
      refine h.acquire hlock ?_ rfl
      constructor <;> simp [hpc]
    · exact h
  · split
    · rename_i hlock
      refine h.acquire hlock ?_ rfl
      constructor <;> simp [hpc]
    · exact h
  · exact h.stays (Vcpu.moves_lockedStep _) (Vcpu.stays_lockedStep _)
  · exact h.stays (Vcpu.moves_lockedStep _) (Vcpu.stays_lockedStep _)
  · exact h.callHandler hpc
  · refine h.release hpc ?_ ?_
    · split
      · constructor <;> simp_all
      · constructor <;> simp_all
    · split <;> rfl
  · exact h.stays (Vcpu.moves_step _) (Vcpu.stays_step _)

theorem handlerReturns_inv {s : Vm} (h : s.Inv) (v : Nat) (action : Int) :
    (handlerReturns s v action).Inv := by
  unfold handlerReturns
  split
  · rename_i hin
    obtain ⟨hpc, hcall⟩ := hin
    refine h.update ?_ (by simp [hpc]) fun _ => .inr hcall
    constructor <;> simp [hpc]
  · exact h

/-! ## Steps of the calls -/

/-- A point of a call at which nothing is known of a vCPU. -/
@[simp] def LockedCall.plain : LockedCall → Bool
  | kickSignal .. | startCheck _ | startThread _ => false
  | _ => true

namespace Vm.Inv

variable {s : Vm}

theorem setCall {call : Option LockedCall} (h : s.Inv) (hcall : s.call ≠ none)
    (hplain : ∀ c, call = some c → c.plain = true ∧ c.stopsNext = true)
    (hahead : ∀ v, s.ShutdownAhead v → (s.vcpus v).threadState = .running →
      (s.vcpus v).stopRequested = true ∨ ShutdownAhead { s with call } v) :
    Inv { s with call } where
  caller _ := h.caller hcall
  stopsNext c hc := (hplain c hc).2
  order := h.order
  vcpus v := by
    refine (h.vcpus v).setCall ?_ ?_ ?_ ?_ (hahead v)
    · intro hc
      cases (hplain _ hc).1
    · intro next hc
      cases (hplain _ hc).1
    · intro next hc
      cases (hplain _ hc).1
    · intro hc
      cases (hplain _ hc).1

/-- A call returns that is not stopping vCPUs. -/
theorem callReturns (h : s.Inv) (hcall : s.call ≠ none) (hahead : ∀ v, ¬ s.ShutdownAhead v) :
    Inv { s with call := none } :=
  h.setCall hcall (by simp) fun v ha => absurd ha (hahead v)

/-- `vart_vcpu_kick_locked` returns, and the shutdown call goes on. -/
theorem kickReturns {next : Option (List Nat)} (h : s.Inv) (hcall : s.call ≠ none)
    (hahead : ∀ v, s.ShutdownAhead v → (s.vcpus v).threadState = .running →
      (s.vcpus v).stopRequested = true ∨ ∃ vs, next = some vs ∧ v ∈ vs) :
    (s.kickReturns next).Inv := by
  refine h.setCall hcall ?_ ?_
  · intro c hc
    obtain ⟨vs, -, rfl⟩ := Option.map_eq_some_iff.1 hc
    exact ⟨rfl, rfl⟩
  · intro v ha hrunning
    refine (hahead v ha hrunning).imp_right ?_
    rintro ⟨vs, rfl, hv⟩
    exact hv

theorem kickCheck {v : Nat} {stop : Bool} {next : Option (List Nat)} (h : s.Inv)
    (hcall : s.call = some (.kickCheck v stop next)) :
    Inv { s with call := some (.kickStore v stop next) } := by
  refine h.setCall (by simp [hcall]) ?_ fun w ha _ => .inr ?_
  · intro c heq
    cases heq
    have hnext := h.stopsNext _ hcall
    cases next with
    | none => exact ⟨rfl, rfl⟩
    | some vs => exact ⟨rfl, hnext⟩
  · exact (shutdownAhead_kickStore rfl).2 ((shutdownAhead_kickCheck hcall).1 ha)

theorem kickCheck_fails {v : Nat} {stop : Bool} {next : Option (List Nat)} (h : s.Inv)
    (hcall : s.call = some (.kickCheck v stop next))
    (hstate : (s.vcpus v).threadState ≠ .running) : (s.kickReturns next).Inv := by
  refine h.kickReturns (by simp [hcall]) fun w ha hrunning => ?_
  obtain ⟨vs, hnext, rfl | hmem⟩ := (shutdownAhead_kickCheck hcall).1 ha
  · exact absurd hrunning hstate
  · exact .inr ⟨vs, hnext, hmem⟩

/-- The loop of the shutdown call passes over a vCPU that does not run. -/
theorem shutdownLoop {v : Nat} {vs : List Nat} (h : s.Inv)
    (hcall : s.call = some (.shutdownLoop (v :: vs)))
    (hstate : (s.vcpus v).threadState ≠ .running) :
    Inv { s with call := some (.shutdownLoop vs) } := by
  refine h.setCall (by simp [hcall]) (by simp) fun w ha hrunning => ?_
  simp only [ShutdownAhead, hcall, List.mem_cons] at ha
  obtain rfl | hmem := ha
  · exact absurd hrunning hstate
  · exact .inr hmem

/-- `vart_vcpu_kick_locked` sets the flag of the request. -/
theorem kickStore {v : Nat} {stop : Bool} {next : Option (List Nat)} {f : Vcpu → Vcpu} (h : s.Inv)
    (hcall : s.call = some (.kickStore v stop next)) (hm : (s.vcpus v).Moves (f (s.vcpus v)))
    (hstays : (s.vcpus v).Stays (f (s.vcpus v)))
    (hkick : stop = false → (f (s.vcpus v)).kickRequested = true)
    (hstop : stop = true → (f (s.vcpus v)).stopRequested = true) :
    (({ s with call := some (.kickSignal v stop next) }).update v f).Inv := by
  have hs := h.stays hm hstays
  have hv : (s.update v f).vcpus v = f (s.vcpus v) := by simp [Vm.update]
  have hc : (s.update v f).call = some (.kickStore v stop next) := hcall
  refine ⟨fun _ => hs.caller (by simp [hc]), ?_, hs.order, fun w => ?_⟩
  · intro c heq
    cases heq
    rfl
  · refine (hs.vcpus w).setCall ?_ ?_ ?_ ?_ ?_
    · intro heq
      cases heq
    · intro next' heq _
      cases heq
      rw [hv]
      exact hkick rfl
    · intro next' heq
      cases heq
      rw [hv]
      exact hstop rfl
    · intro heq
      cases heq
    · intro ha _
      obtain ⟨vs, rfl, rfl | hmem⟩ := (shutdownAhead_kickStore hc).1 ha
      · rw [hv]
        exact .inl (hstop (h.stopsNext _ hcall))
      · exact .inr hmem

/-- `pthread_kill` succeeds. -/
theorem kickSignal {v : Nat} {stop : Bool} {next : Option (List Nat)} (h : s.Inv)
    (hcall : s.call = some (.kickSignal v stop next)) :
    (({ s with log := (if stop then .stopped v else .kicked v) :: s.log }).update v
      fun vcpu => { vcpu with pending := true }).Inv := by
  have hv := h.vcpus v
  have hs : (s.update v fun vcpu => { vcpu with pending := true }).Inv :=
    h.stays (Vcpu.moves_pending _) ⟨rfl, id⟩
  refine mk_update hs.caller h.stopsNext ?_ ?_ fun w hw => ?_
  · intro w hcalled
    obtain hcalled | ⟨heq, -⟩ := calledAfterStop_cons hcalled
    · exact h.order w hcalled
    · cases stop <;> cases heq
  · refine (hv.moves (Vcpu.moves_pending _) hv.holder).setLog ?_
    -- The signal is pending: only the flags are left to show.
    refine ⟨?_, fun _ _ => rfl, ?_, fun _ _ => rfl⟩
    · intro hkicked ha
      cases stop with
      | false => exact hv.kickStored _ hcall ha
      | true => exact hv.wakes.kickRequested hkicked ha
    · intro hstopped
      cases stop with
      | false => exact hv.wakes.stopRequested (by simpa using hstopped)
      | true => exact hv.stopStored _ hcall
  · refine (h.vcpus w).setLog ?_
    cases stop <;> simpa [kickedSince, Ne.symm hw, hw] using (h.vcpus w).wakes

theorem shutdownStore (h : s.Inv) (hcall : s.call = some .shutdownStore) :
    Inv { s with shutdownRequested := true, call := some (.shutdownLoop s.list) } where
  caller _ := h.caller (by simp [hcall])
  stopsNext c heq := by
    cases heq
    rfl
  order := h.order
  vcpus v :=
    { h.vcpus v with
      starting := fun heq => by cases heq
      kickStored := fun _ heq => by cases heq
      stopStored := fun _ heq => by cases heq
      listed := fun hrunning => (h.vcpus v).listed (.inl (hrunning.resolve_right (by simp)))
      shutdown := fun _ hrunning => .inr ((h.vcpus v).listed (.inl hrunning)) }

/-- A vCPU without a thread changes its state, or gets its thread. -/
theorem unstarted_update {v : Nat} {f : Vcpu → Vcpu} (h : s.Inv) (hpc : (s.vcpus v).pc = .none)
    (hv : s.VcpuInv v (f (s.vcpus v))) : (s.update v f).Inv :=
  mk_update (h.caller_update fun hhandler => by cases hpc.symm.trans hhandler) h.stopsNext h.order
    hv fun w _ => h.vcpus w

theorem startCheck {v : Nat} (h : s.Inv) (hcall : s.call = some (.startCheck v))
    (hcreated : (s.vcpus v).threadState = .created) (hshutdown : s.shutdownRequested = false) :
    (({ s with call := some (.startThread v) }).update v
      fun vcpu => { vcpu with threadResult := 0, threadState := .running }).Inv := by
  have hv := h.vcpus v
  have hpc := hv.unstarted hcreated
  have hs : (s.update v
      fun vcpu => { vcpu with threadResult := 0, threadState := .running }).Inv := by
    refine h.unstarted_update hpc
      { hv with
        unstarted := fun heq => by cases heq
        starting := fun heq => by cases hcall.symm.trans heq
        wakes := { hv.wakes with }
        listed := fun _ => hv.listed (.inr hcall)
        shutdown := fun heq => by cases hshutdown.symm.trans heq }
  refine ⟨fun _ => hs.caller (by simp [Vm.update, hcall]), ?_, hs.order, fun w => ?_⟩
  · intro c heq
    cases heq
    rfl
  · refine (hs.vcpus w).setCall ?_ ?_ ?_ ?_ ?_
    · intro heq
      cases heq
      simpa [Vm.update] using hpc
    · intro next heq
      cases heq
    · intro next heq
      cases heq
    · intro heq
      cases heq
    · intro ha
      simp [ShutdownAhead, Vm.update, hcall] at ha

theorem startThread {v : Nat} (h : s.Inv) (hcall : s.call = some (.startThread v)) :
    (({ s with call := some (.startCreated v) }).update v
      fun vcpu => { vcpu with pc := .begin, blocked := true }).Inv := by
  obtain ⟨hrunning, hpc⟩ := (h.vcpus v).starting hcall
  have hs : Inv { s with call := some (.startCreated v) } :=
    h.setCall (by simp [hcall]) (by simp) (by simp [ShutdownAhead, hcall])
  have hv := hs.vcpus v
  have hholder := hv.holder
  simp only at hholder
  rw [hpc] at hholder
  refine hs.unstarted_update hpc
    { hv with
      holder := hholder
      unstarted := fun heq => by cases hrunning.symm.trans heq
      starting := fun heq => by cases heq
      current := fun heq => by cases heq
      wakes :=
        { hv.wakes with
          kickRequested := fun hk _ => hv.wakes.kickRequested hk (by simp [hpc])
          passedKick := fun _ heq => by cases heq
          passedStop := fun _ heq => by cases heq }
      kickStored := fun _ heq => by cases heq
      callHandler := fun heq => by cases heq }

/-- `pthread_create` fails. -/
theorem startThread_fails {v : Nat} (h : s.Inv) (hcall : s.call = some (.startThread v)) :
    (({ s with call := none }).update v fun vcpu => { vcpu with threadState := .created }).Inv := by
  obtain ⟨-, hpc⟩ := (h.vcpus v).starting hcall
  have hs : Inv { s with call := none } :=
    h.callReturns (by simp [hcall]) (by simp [ShutdownAhead, hcall])
  have hv := hs.vcpus v
  refine hs.unstarted_update hpc
    { hv with
      unstarted := fun _ => hpc
      starting := fun heq => by cases heq
      wakes := { hv.wakes with }
      listed := fun hor => by simp at hor
      shutdown := fun _ heq => by cases heq }

theorem create {v : Nat} (h : s.Inv) (hcall : s.call = some (.create v)) :
    Inv { s with list := v :: s.list, call := none } := by
  have hs : Inv { s with call := none } :=
    h.callReturns (by simp [hcall]) (by simp [ShutdownAhead, hcall])
  exact
    { hs with
      vcpus := fun w =>
        { hs.vcpus w with listed := fun hor => .tail _ ((hs.vcpus w).listed hor) } }

end Vm.Inv

theorem callStep_inv {s : Vm} (h : s.Inv) (ok : Bool) : (callStep s ok).Inv := by
  unfold callStep
  split
  all_goals rename_i hcall
  · exact h
  · split
    · rename_i hstate
      exact h.kickCheck_fails hcall hstate
    · exact h.kickCheck hcall
  · rename_i v stop next
    have hpc : (s.vcpus v).pc ≠ .callHandler := h.pc_ne_callHandler (by simp [hcall])
    cases stop with
    | false => exact h.kickStore hcall (Vcpu.moves_kickRequested _) ⟨rfl, id⟩ (by simp) (by simp)
    | true => exact h.kickStore hcall (Vcpu.moves_stopRequested hpc) ⟨rfl, id⟩ (by simp) (by simp)
  · split
    · refine (h.kickSignal hcall).kickReturns (by simp [Vm.update, hcall]) fun w ha _ => .inr ?_
      exact (Vm.shutdownAhead_kickSignal hcall).1 ha
    · refine h.kickReturns (by simp [hcall]) fun w ha _ => .inr ?_
      exact (Vm.shutdownAhead_kickSignal hcall).1 ha
  · exact h.shutdownStore hcall
  · exact h.callReturns (by simp [hcall]) (by simp [Vm.ShutdownAhead, hcall])
  · split
    · rename_i hstate
      exact h.shutdownLoop hcall hstate
    · refine h.setCall (by simp [hcall]) (by simp) fun w ha _ => .inr ?_
      simpa [Vm.ShutdownAhead, hcall] using ha
  · split
    · exact h.callReturns (by simp [hcall]) (by simp [Vm.ShutdownAhead, hcall])
    · rename_i hcheck
      simp only [ne_eq, Bool.or_eq_true, decide_eq_true_eq, not_or, not_not,
        Bool.not_eq_true] at hcheck
      exact h.startCheck hcall hcheck.1.1 hcheck.2
  · split
    · exact h.startThread hcall
    · exact h.startThread_fails hcall
  · exact (h.callReturns (by simp [hcall]) (by simp [Vm.ShutdownAhead, hcall])).stays
      { Vcpu.moves_refl _ with } ⟨rfl, id⟩
  · exact h.create hcall

/-! ## The big lock -/

/-- A thread that is not a worker takes or releases the big lock. -/
theorem Vm.Inv.setLock {s : Vm} {lock : Option LockOwner} (h : s.Inv) (hcall : s.call = none)
    (hold : ∀ v, s.lock ≠ some (.worker v)) (hnew : ∀ v, lock ≠ some (.worker v)) :
    Inv { s with lock } where
  caller hsome := absurd hcall hsome
  stopsNext := h.stopsNext
  order := h.order
  vcpus v := (h.vcpus v).setLock
    (iff_of_false (fun hpc => hold v ((h.vcpus v).holder.1 hpc)) (hnew v))

theorem Vm.callerOwns_of_mayCall {s : Vm} {c : VmCall} (h : s.mayCall c = true) :
    s.CallerOwns := by
  unfold mayCall at h
  split at h
  · cases h
  · exact .inl ‹_›
  · rename_i v hlock
    simp only [Bool.and_eq_true, decide_eq_true_eq] at h
    exact .inr ⟨v, hlock, h.1⟩

theorem beginCall_inv {s : Vm} (h : s.Inv) {c : VmCall} (hvalid : (VcpuOp.beginCall c).Valid s) :
    (beginCall s c).Inv := by
  unfold beginCall
  split
  · rename_i hbegin
    obtain ⟨hcall, hmay⟩ := hbegin
    refine ⟨fun _ => Vm.callerOwns_of_mayCall hmay, ?_, h.order, fun v => ?_⟩
    · intro c' heq
      cases heq
      cases c <;> rfl
    · refine (h.vcpus v).setCall ?_ ?_ ?_ ?_ ?_
      · cases c <;> simp [VmCall.first]
      · cases c <;> simp [VmCall.first]
      · cases c <;> simp [VmCall.first]
      · cases c <;> simp [VmCall.first]
        rintro rfl
        exact hvalid
      · simp [Vm.ShutdownAhead, hcall]
  · exact h

/-! ## Runs -/

theorem vcpuStep_inv {s : Vm} {op : VcpuOp} (h : s.Inv) (hvalid : op.Valid s) :
    (vcpuStep s op).Inv := by
  cases op with
  | worker v => exact workerStep_inv h v
  | sigmask v error => exact h.stays (Vcpu.moves_sigmask _ _) (Vcpu.stays_sigmask _ _)
  | runReturns v result => exact h.stays (Vcpu.moves_runReturns _ _) (Vcpu.stays_runReturns _ _)
  | handlerReturns v action => exact handlerReturns_inv h v action
  | deliver v => exact h.stays (Vcpu.moves_deliver _ (h.vcpus v).current) (Vcpu.stays_deliver _)
  | lock =>
    simp only [vcpuStep]
    split
    · rename_i hlock
      exact h.setLock (h.call_eq_none_of_unlocked hlock) (by simp [hlock]) (by simp)
    · exact h
  | unlock =>
    simp only [vcpuStep]
    split
    · rename_i hunlock
      exact h.setLock hunlock.2 (by simp [hunlock.1]) (by simp)
    · exact h
  | beginCall c => exact beginCall_inv h hvalid
  | callStep ok => exact callStep_inv h ok

theorem Vm.init_inv : Vm.init.Inv where
  caller hsome := absurd rfl hsome
  stopsNext c heq := by cases heq
  order v := by
    rintro ⟨newer, older, hlog, -⟩
    cases newer <;> cases hlog
  vcpus v := by
    constructor <;> simp [Vm.init, Vcpu.zero, kickedSince]
    constructor <;> simp

theorem reach_vmInv {s : Vm} (h : Reach vcpuStep (· = Vm.init) (fun s op => op.Valid s) s) :
    s.Inv := by
  refine Reach.invariant (I := Vm.Inv) ?_ (fun _ _ hs ha => vcpuStep_inv hs ha) h
  rintro _ rfl
  exact Vm.init_inv

/-- A vCPU that was kicked or stopped does not sleep. -/
theorem Vcpu.Wakes.not_asleep {c : Vcpu} {kicked stopped : Bool} (h : c.Wakes kicked stopped)
    (hreq : kicked = true ∨ stopped = true) : ¬ c.Asleep := by
  rintro ⟨hpc, hexit, hpending⟩
  have hwoken : c.woken = true := by
    obtain hk | hs := hreq
    · exact h.passedKick hk (by simp [hpc])
    · exact h.passedStop hs (by simp [hpc])
  simp [hexit, hpending] at hwoken

/-- In every interleaving, for every vCPU: a kick wakes it until its handler is called, a stop wakes
it for good and keeps it from its handler, and a shutdown that has released the big lock has stopped
it. -/
theorem kick_stop_kept {s : Vm} (h : Reach vcpuStep (· = Vm.init) (fun s op => op.Valid s) s)
    (v : Nat) :
    (kickedSince v s.log = true → ¬ (s.vcpus v).Asleep) ∧
      (.stopped v ∈ s.log → ¬ (s.vcpus v).Asleep) ∧ ¬ CalledAfterStop v s.log ∧
      (s.shutdownRequested = true → (s.vcpus v).threadState = .running →
        (s.vcpus v).stopRequested = true ∨ (s.lock ≠ none ∧ s.ShutdownAhead v)) := by
  have hs := reach_vmInv h
  have hv := hs.vcpus v
  refine ⟨fun hk => hv.wakes.not_asleep (.inl hk),
    fun hmem => hv.wakes.not_asleep (.inr (decide_eq_true hmem)), hs.order v, ?_⟩
  intro hshutdown hrunning
  refine (hv.shutdown hshutdown hrunning).imp_right fun ha => ⟨?_, ha⟩
  intro hlock
  simp [Vm.ShutdownAhead, hs.call_eq_none_of_unlocked hlock] at ha

theorem Vm.init_reach : Reach vcpuStep (· = Vm.init) (fun s op => op.Valid s) Vm.init :=
  .start rfl

/-- A thread takes the big lock, creates vCPU 0, starts it, and begins to shut the machine down. -/
def startedAtShutdown : Vm :=
  runFrom vcpuStep .init
    [.lock, .beginCall (.create 0), .callStep true, .beginCall (.start 0), .callStep true,
      .callStep true, .callStep true, .beginCall .shutdown, .callStep true]

/-- Between the store of `shutdown_requested` and the loop over the vCPUs, the running vCPU has no
stop request. -/
theorem startedAtShutdown_not_stopped :
    Reach vcpuStep (· = Vm.init) (fun s op => op.Valid s) startedAtShutdown ∧
      startedAtShutdown.shutdownRequested = true ∧
      (startedAtShutdown.vcpus 0).threadState = .running ∧
      (startedAtShutdown.vcpus 0).stopRequested = false := by
  exact ⟨Vm.init_reach.runFrom (by decide +kernel), by decide +kernel⟩

/-- The worker of vCPU 0 enters the guest and is kicked there; then the machine is shut down. -/
def kickedInGuest : Vm :=
  runFrom vcpuStep .init
    [.lock, .beginCall (.create 0), .callStep true, .beginCall (.start 0), .callStep true,
      .callStep true, .callStep true, .worker 0, .sigmask 0 0, .worker 0, .worker 0, .worker 0,
      .beginCall (.kick 0 false), .callStep true, .callStep true, .callStep true,
      .beginCall .shutdown, .callStep true, .callStep true, .callStep true, .callStep true,
      .callStep true, .callStep true, .unlock]

theorem kickedInGuest_kept :
    kickedSince 0 kickedInGuest.log = true ∧ .stopped 0 ∈ kickedInGuest.log ∧
      kickedInGuest.shutdownRequested = true ∧ kickedInGuest.lock = none ∧
      (kickedInGuest.vcpus 0).pc = .insideRun ∧ ¬ (kickedInGuest.vcpus 0).Asleep ∧
      ¬ CalledAfterStop 0 kickedInGuest.log ∧ (kickedInGuest.vcpus 0).stopRequested = true := by
  have hreach : Reach vcpuStep (· = Vm.init) (fun s op => op.Valid s) kickedInGuest :=
    Vm.init_reach.runFrom (by decide +kernel)
  have hkicked : kickedSince 0 kickedInGuest.log = true := by decide +kernel
  have hshutdown : kickedInGuest.shutdownRequested = true := by decide +kernel
  have hlock : kickedInGuest.lock = none := by decide +kernel
  obtain ⟨hkick, -, hcalled, hstop⟩ := kick_stop_kept hreach 0
  refine ⟨hkicked, by decide +kernel, hshutdown, hlock, by decide +kernel, hkick hkicked, hcalled, ?_⟩
  exact (hstop hshutdown (by decide +kernel)).resolve_right fun hahead => hahead.1 hlock

end Vart
