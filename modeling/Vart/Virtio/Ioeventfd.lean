import Mathlib.Data.Finset.Basic
import Mathlib.Data.Finset.Lattice.Lemmas
import Vart.Riscv.Iommu
import Vart.Virtio.Transport

/-!
# Notifications through KVM (`hw/virtio/virtio-pci-ioeventfd.c`)

With ioeventfds a write to the notify window of a device does not leave the guest: KVM signals the
eventfd that is assigned to the address, and the event loop calls the device. For each queue the
device holds an eventfd, the assignment of its notify address in KVM, and a source of the event
loop (`IoResource`). A call that fails in the middle gives back what it has taken.

* `virtioPciEnableIoeventfd`, `virtioPciDisableIoeventfd`.
* `ioeventfd_resources`: in every run, the process holds the resources of all queues or none;
  `ioeventfd_notifiers_nodup`: no two queues share a descriptor.
* `ioeventfd_write_eq`: KVM and the event loop do for a write what `virtio_pci_bar_write` does. What
  KVM does is a parameter, with the hypothesis `SignalsAssigned`.
-/

namespace Vart

open Lib

/-! ## Resources -/

inductive IoResource where
  /-- An open eventfd. -/
  | eventfd (fd : Nat)
  /-- KVM signals `fd` for writes of two bytes to `address`. -/
  | ioeventfd (address fd : Nat)
  /-- The event loop polls `fd`. -/
  | source (fd : Nat)
deriving DecidableEq

def IoResource.fd : IoResource → Nat
  | .eventfd fd | .ioeventfd _ fd | .source fd => fd

/-- What the kernel and the event loop hold for the process. -/
abbrev IoHost := Finset IoResource

/-- What is held for a file descriptor is given back before it is closed. -/
def IoHost.WellFormed (host : IoHost) : Prop := ∀ r ∈ host, .eventfd r.fd ∈ host

/-- One element of the arrays `ioeventfd_notifiers`, `_sources`, `_assigned` and `_addresses`. -/
structure IoQueue where
  /-- The eventfd of an initialised notifier. -/
  notifier : Option Nat
  registered : Bool
  assigned : Bool
  address : Nat

/-- After `calloc`. -/
def IoQueue.zero : IoQueue := ⟨none, false, false, 0⟩

/-- What a queue holds. -/
def IoQueue.held (q : IoQueue) : IoHost :=
  match q.notifier with
  | none => ∅
  | some fd => {.eventfd fd} ∪ (if q.assigned then {.ioeventfd q.address fd} else ∅) ∪
      (if q.registered then {.source fd} else ∅)

structure IoDevice where
  initialised : Bool
  barImplemented : Bool
  barAddress : Nat
  queueCount : Nat
  /-- The four arrays, which are allocated and freed together. -/
  queues : Option (List IoQueue)
  /-- `ioeventfd_vm` is not `NULL`. -/
  vm : Bool
  enabled : Bool

/-- What the kernel answers while a queue is set up; `add` is the result of `vart_event_add`. -/
structure IoAnswers where
  eventfd : Except Errno Nat
  assign : Status
  add : Status

/-! ## The calls -/

/-- The notify address of queue `i` of a BAR at `base`. -/
def notifyAddress (base i : Nat) : Nat :=
  (base + virtioPciNotifyOffset + i * virtioPciNotifyMultiplier) % 2 ^ 64

/-- One round of the loop of `vart_virtio_pci_enable_ioeventfd`. -/
def ioeventfdEnableQueue (base i : Nat) (answers : IoAnswers) (host : IoHost) :
    IoHost × IoQueue × Status :=
  match answers.eventfd with
  | .error e => (host, .zero, .error e)
  | .ok fd =>
    let host := insert (.eventfd fd) host
    let q := { IoQueue.zero with notifier := some fd, address := notifyAddress base i }
    match answers.assign with
    | .error e => (host, q, .error e)
    | .ok _ =>
      let host := insert (.ioeventfd q.address fd) host
      let q := { q with assigned := true }
      match answers.add with
      | .error e => (host, q, .error e)
      | .ok _ => (insert (.source fd) host, { q with registered := true }, .ok ())

/-- The loop, with `count` queues to go from queue `i` on. -/
def ioeventfdEnableLoop (base : Nat) (answers : Nat → IoAnswers) :
    (count i : Nat) → IoHost → IoHost × List IoQueue × Status
  | 0, _, host => (host, [], .ok ())
  | count + 1, i, host =>
    match ioeventfdEnableQueue base i (answers i) host with
    | (host, q, .error e) => (host, q :: List.replicate count .zero, .error e)
    | (host, q, .ok _) =>
      let rest := ioeventfdEnableLoop base answers count (i + 1) host
      (rest.1, q :: rest.2.1, rest.2.2)

/-- One round of the loop of `vart_virtio_pci_disable_ioeventfd`. A source that is registered can
be removed. -/
def ioeventfdDisableQueue (vm : Bool) (deassign : Status) (q : IoQueue) (host : IoHost) :
    IoHost × Status :=
  match q.notifier with
  | none => (host, .ok ())
  | some fd =>
    let host := if q.registered then host.erase (.source fd) else host
    if q.assigned && vm then
      match deassign with
      | .error e => (host.erase (.eventfd fd), .error e)
      | .ok _ => ((host.erase (.ioeventfd q.address fd)).erase (.eventfd fd), .ok ())
    else (host.erase (.eventfd fd), .ok ())

def ioeventfdDisableLoop (vm : Bool) (deassign : Nat → Status) :
    (i : Nat) → List IoQueue → IoHost → IoHost × Status
  | _, [], host => (host, .ok ())
  | i, q :: qs, host =>
    let current := ioeventfdDisableQueue vm (deassign i) q host
    let rest := ioeventfdDisableLoop vm deassign (i + 1) qs current.1
    (rest.1, firstError current.2 rest.2)

/-- `vart_virtio_pci_disable_ioeventfd`. -/
def virtioPciDisableIoeventfd (deassign : Nat → Status) (dev : IoDevice) (host : IoHost) :
    IoDevice × IoHost × Status :=
  match dev.queues with
  | none => ({ dev with enabled := false, vm := false }, host, .ok ())
  | some qs =>
    let r := ioeventfdDisableLoop dev.vm deassign 0 qs host
    ({ dev with queues := none, vm := false, enabled := false }, r.1, r.2)

/-- `vart_virtio_pci_enable_ioeventfd`, for a VM and an event loop that are set up. `supported` is
`vm->kvm->ioeventfd`, and `alloc` says that the arrays could be allocated. -/
def virtioPciEnableIoeventfd (supported alloc : Bool) (answers : Nat → IoAnswers)
    (deassign : Nat → Status) (dev : IoDevice) (host : IoHost) : IoDevice × IoHost × Status :=
  if !dev.initialised then (dev, host, .error .einval)
  else if !supported then (dev, host, .error .enotsup)
  else if dev.enabled then (dev, host, .error .ebusy)
  else if !dev.barImplemented || decide (dev.barAddress > uint64Max - virtioPciNotifyOffset -
      (dev.queueCount - 1) * virtioPciNotifyMultiplier - 2) then (dev, host, .error .einval)
  else if !alloc then (dev, host, .error .enomem)
  else
    let r := ioeventfdEnableLoop dev.barAddress answers dev.queueCount 0 host
    let dev := { dev with queues := some r.2.1, vm := true, enabled := true }
    match r.2.2 with
    | .ok _ => (dev, r.1, .ok ())
    | .error e =>
      let undone := virtioPciDisableIoeventfd deassign dev r.1
      (undone.1, undone.2.1, .error e)

/-! ## What is taken and given back -/

/-- What a list of queues holds. -/
def heldAll : List IoQueue → IoHost
  | [] => ∅
  | q :: qs => q.held ∪ heldAll qs

/-- The kernel opens a descriptor that is not open. -/
def FreshAnswers (answers : Nat → IoAnswers) (host : IoHost) : Prop :=
  ∀ i fd, (answers i).eventfd = .ok fd → .eventfd fd ∉ host

/-- The kernel does not open a descriptor twice. -/
def DistinctAnswers (answers : Nat → IoAnswers) : Prop :=
  ∀ i j fd, (answers i).eventfd = .ok fd → (answers j).eventfd = .ok fd → i = j

/-- A queue that is set up. -/
structure IoQueue.Ready (q : IoQueue) (address : Nat) : Prop where
  notifier : q.notifier.isSome = true
  registered : q.registered = true
  assigned : q.assigned = true
  address_eq : q.address = address

@[simp] theorem held_zero : IoQueue.zero.held = ∅ := rfl

theorem heldAll_replicate_zero (n : Nat) : heldAll (List.replicate n .zero) = ∅ := by
  induction n with
  | zero => rfl
  | succ n ih => rw [List.replicate_succ, heldAll, ih, held_zero, Finset.empty_union]

/-- What a queue takes is what it holds afterwards, for the descriptor that was opened. -/
theorem ioeventfdEnableQueue_spec {base i : Nat} {answers : IoAnswers} {host host' : IoHost}
    {q : IoQueue} {r : Status} (h : ioeventfdEnableQueue base i answers host = (host', q, r)) :
    host' = host ∪ q.held ∧ (∀ x ∈ q.held, answers.eventfd = .ok x.fd) ∧
      (r = .ok () → q.Ready (notifyAddress base i) ∧
        ∀ fd, q.notifier = some fd → answers.eventfd = .ok fd) := by
  unfold ioeventfdEnableQueue at h
  cases hfd : answers.eventfd with
  | error e =>
    rw [hfd] at h
    cases h
    exact ⟨(Finset.union_empty host).symm, by simp, nofun⟩
  | ok fd =>
    simp only [hfd] at h
    cases hassign : answers.assign with
    | error e =>
      rw [hassign] at h
      cases h
      refine ⟨by ext x; simp [IoQueue.held, IoQueue.zero, or_comm], fun x hx => ?_, nofun⟩
      simp only [IoQueue.held, IoQueue.zero, Bool.false_eq_true, if_false, Finset.union_empty,
        Finset.mem_singleton] at hx
      exact hx ▸ rfl
    | ok _ =>
      simp only [hassign] at h
      cases hadd : answers.add with
      | error e =>
        rw [hadd] at h
        cases h
        refine ⟨by ext x; simp [IoQueue.held, IoQueue.zero]; tauto, fun x hx => ?_, nofun⟩
        simp only [IoQueue.held, IoQueue.zero, Bool.false_eq_true, if_false, if_true,
          Finset.union_empty, Finset.mem_union, Finset.mem_singleton] at hx
        rcases hx with rfl | rfl <;> rfl
      | ok _ =>
        rw [hadd] at h
        cases h
        refine ⟨by ext x; simp [IoQueue.held]; tauto, fun x hx => ?_,
          fun _ => ⟨⟨rfl, rfl, rfl, rfl⟩, fun _ hsome => congrArg _ (Option.some.inj hsome)⟩⟩
        simp only [IoQueue.held, if_true, Finset.mem_union, Finset.mem_singleton] at hx
        rcases hx with (rfl | rfl) | rfl <;> rfl

/-- The loop takes what its queues hold in the end, and if it succeeds all queues are set up. -/
theorem ioeventfdEnableLoop_spec (base : Nat) (answers : Nat → IoAnswers) {count i : Nat}
    {host host' : IoHost} {qs : List IoQueue} {r : Status}
    (h : ioeventfdEnableLoop base answers count i host = (host', qs, r)) :
    host' = host ∪ heldAll qs ∧ qs.length = count ∧
      (∀ x ∈ heldAll qs, ∃ j, (answers j).eventfd = .ok x.fd) ∧
      (r = .ok () → ∀ (k : Nat) (hk : k < qs.length),
        (qs[k]).Ready (notifyAddress base (i + k)) ∧
          ∀ fd, (qs[k]).notifier = some fd → (answers (i + k)).eventfd = .ok fd) := by
  induction count generalizing i host host' qs r with
  | zero =>
    cases h
    exact ⟨(Finset.union_empty host).symm, rfl, by simp [heldAll], fun _ k hk => by cases hk⟩
  | succ count ih =>
    obtain ⟨host₁, q, r₁, hq⟩ : ∃ host₁ q r₁,
      ioeventfdEnableQueue base i (answers i) host = (host₁, q, r₁) := ⟨_, _, _, rfl⟩
    obtain ⟨htaken, hfd, hready⟩ := ioeventfdEnableQueue_spec hq
    unfold ioeventfdEnableLoop at h
    rw [hq] at h
    cases r₁ with
    | error e =>
      cases h
      simp only [heldAll, heldAll_replicate_zero, Finset.union_empty]
      exact ⟨htaken, by simp, fun x hx => ⟨i, hfd x hx⟩, nofun⟩
    | ok _ =>
      obtain ⟨host₂, qs₂, r₂, hrest⟩ : ∃ host₂ qs₂ r₂,
        ioeventfdEnableLoop base answers count (i + 1) host₁ = (host₂, qs₂, r₂) := ⟨_, _, _, rfl⟩
      simp only [hrest] at h
      cases h
      obtain ⟨htaken₂, hlength, hfd₂, hready₂⟩ := ih hrest
      refine ⟨?_, by simp [hlength], fun x hx => ?_, fun hr k hk => ?_⟩
      · rw [heldAll, ← Finset.union_assoc, ← htaken, htaken₂]
      · rw [heldAll, Finset.mem_union] at hx
        rcases hx with hx | hx
        · exact ⟨i, hfd x hx⟩
        · exact hfd₂ x hx
      · cases k with
        | zero => exact hready rfl
        | succ k =>
          have hk' := hready₂ hr k (by simpa using hk)
          rwa [Nat.add_right_comm] at hk'

theorem ioeventfdDisableQueue_ok (q : IoQueue) (host : IoHost) :
    ioeventfdDisableQueue true (.ok ()) q host = (host \ q.held, .ok ()) := by
  unfold ioeventfdDisableQueue IoQueue.held
  cases q.notifier with
  | none => simp
  | some fd =>
    cases q.registered <;> cases q.assigned <;> simp only [Bool.and_true, Bool.false_eq_true,
      if_true, if_false, Prod.mk.injEq, and_true] <;> ext x <;> simp <;> tauto

/-- If KVM takes back all assignments, the loop gives back what the queues hold. -/
theorem ioeventfdDisableLoop_ok {deassign : Nat → Status} (hok : ∀ i, deassign i = .ok ()) (i : Nat)
    (qs : List IoQueue) (host : IoHost) :
    ioeventfdDisableLoop true deassign i qs host = (host \ heldAll qs, .ok ()) := by
  induction qs generalizing i host with
  | nil => simp [ioeventfdDisableLoop, heldAll]
  | cons q qs ih =>
    simp only [ioeventfdDisableLoop, hok, ioeventfdDisableQueue_ok, ih, heldAll]
    rw [sdiff_sdiff_left]
    rfl

/-! ## Runs -/

inductive IoOp where
  | enable (supported alloc : Bool) (answers : Nat → IoAnswers) (deassign : Nat → Status)
  | disable (deassign : Nat → Status)
  /-- The guest moves the BAR; the assignments stay where they are. -/
  | moveBar (address : Nat)

def ioStep (s : IoDevice × IoHost) : IoOp → IoDevice × IoHost
  | .enable supported alloc answers deassign =>
    let r := virtioPciEnableIoeventfd supported alloc answers deassign s.1 s.2
    (r.1, r.2.1)
  | .disable deassign =>
    let r := virtioPciDisableIoeventfd deassign s.1 s.2
    (r.1, r.2.1)
  | .moveBar address => ({ s.1 with barAddress := address }, s.2)

/-- Calls may fail at any point, but KVM takes back what it has assigned. -/
def IoOp.Valid (s : IoDevice × IoHost) : IoOp → Prop
  | .enable _ _ answers deassign => FreshAnswers answers s.2 ∧ ∀ i, deassign i = .ok ()
  | .disable deassign => ∀ i, deassign i = .ok ()
  | .moveBar _ => True

/-- A device without ioeventfds in a process that holds `host`. -/
def IoStart (host : IoHost) (s : IoDevice × IoHost) : Prop :=
  s.1.queues = none ∧ s.1.enabled = false ∧ s.2 = host

/-- The process holds `host` and the resources of `qs`. -/
structure IoHeld (host : IoHost) (s : IoDevice × IoHost) (qs : List IoQueue) : Prop where
  queues : s.1.queues = some qs
  enabled : s.1.enabled = true
  vm : s.1.vm = true
  length : qs.length = s.1.queueCount
  ready : ∀ q ∈ qs, ∃ address, q.Ready address
  resources : s.2 = host ∪ heldAll qs
  apart : Disjoint host (heldAll qs)

/-- Disabling gives back exactly the resources of the queues. -/
theorem IoHeld.disable {host : IoHost} {dev : IoDevice} {now : IoHost} {qs : List IoQueue}
    (hqueues : dev.queues = some qs) (hvm : dev.vm = true) (hnow : now = host ∪ heldAll qs)
    (hapart : Disjoint host (heldAll qs)) {deassign : Nat → Status}
    (hok : ∀ i, deassign i = .ok ()) :
    virtioPciDisableIoeventfd deassign dev now =
      ({ dev with queues := none, vm := false, enabled := false }, host, .ok ()) := by
  unfold virtioPciDisableIoeventfd
  simp only [hqueues, hvm, ioeventfdDisableLoop_ok hok, hnow, Finset.union_sdiff_right,
    Finset.sdiff_eq_self_of_disjoint hapart]

theorem virtioPciEnableIoeventfd_spec {supported alloc : Bool} {answers : Nat → IoAnswers}
    {deassign : Nat → Status} {dev dev' : IoDevice} {host host' : IoHost} {r : Status}
    (hwf : host.WellFormed) (hfresh : FreshAnswers answers host)
    (hok : ∀ i, deassign i = .ok ()) (hqueues : dev.queues = none) (hoff : dev.enabled = false)
    (h : virtioPciEnableIoeventfd supported alloc answers deassign dev host = (dev', host', r)) :
    r ≠ .ok () ∧ IoStart host (dev', host') ∨
      r = .ok () ∧ ∃ qs, IoHeld host (dev', host') qs ∧
        ∀ (k : Nat) (hk : k < qs.length), (qs[k]).Ready (notifyAddress dev.barAddress k) ∧
          ∀ fd, (qs[k]).notifier = some fd → (answers k).eventfd = .ok fd := by
  unfold virtioPciEnableIoeventfd at h
  iterate 5 (split at h; · cases h; exact .inl ⟨nofun, hqueues, hoff, rfl⟩)
  obtain ⟨taken, qs, result, hloop⟩ : ∃ taken qs result,
    ioeventfdEnableLoop dev.barAddress answers dev.queueCount 0 host = (taken, qs, result) :=
    ⟨_, _, _, rfl⟩
  obtain ⟨htaken, hlength, hfd, hready⟩ := ioeventfdEnableLoop_spec _ _ hloop
  have hapart : Disjoint host (heldAll qs) := by
    rw [Finset.disjoint_left]
    intro x hx hheld
    obtain ⟨j, hj⟩ := hfd x hheld
    exact hfresh j _ hj (hwf x hx)
  simp only [hloop] at h
  cases result with
  | ok _ =>
    cases h
    have hready : ∀ (k : Nat) (hk : k < qs.length),
        (qs[k]).Ready (notifyAddress dev.barAddress k) ∧
          ∀ fd, (qs[k]).notifier = some fd → (answers k).eventfd = .ok fd := by simpa using hready
    refine .inr ⟨rfl, qs, ⟨rfl, rfl, rfl, hlength, fun q hq => ?_, htaken, hapart⟩, hready⟩
    obtain ⟨k, hk, rfl⟩ := List.getElem_of_mem hq
    exact ⟨_, (hready k hk).1⟩
  | error e =>
    dsimp only at h
    rw [IoHeld.disable rfl rfl htaken hapart hok] at h
    cases h
    exact .inl ⟨nofun, rfl, rfl, rfl⟩

/-- A call turns ioeventfds off, leaves them on, or turns them on. -/
theorem ioStep_outcome {host : IoHost} (hwf : host.WellFormed) {s : IoDevice × IoHost} {op : IoOp}
    (hinv : IoStart host s ∨ ∃ qs, IoHeld host s qs) (hv : op.Valid s) :
    IoStart host (ioStep s op) ∨
    (∃ qs, IoHeld host s qs ∧ IoHeld host (ioStep s op) qs) ∨
    ∃ supported alloc answers deassign qs, op = .enable supported alloc answers deassign ∧
      IoHeld host (ioStep s op) qs ∧ ∀ (k : Nat) (hk : k < qs.length),
        ∀ fd, (qs[k]).notifier = some fd → (answers k).eventfd = .ok fd := by
  cases op with
  | enable supported alloc answers deassign =>
    rcases hinv with ⟨hqueues, henabled, hhost⟩ | ⟨qs, hheld⟩
    · obtain ⟨dev, now⟩ := s
      subst hhost
      rcases virtioPciEnableIoeventfd_spec hwf hv.1 hv.2 hqueues henabled rfl with
        ⟨-, hstart⟩ | ⟨-, qs, hheld, hready⟩
      · exact .inl hstart
      · exact .inr (.inr ⟨_, _, _, _, qs, rfl, hheld, fun k hk => (hready k hk).2⟩)
    · -- They are on: the call fails before it does anything.
      have hsame : ioStep s (.enable supported alloc answers deassign) = s := by
        simp only [ioStep, virtioPciEnableIoeventfd]
        split
        · rfl
        split
        · rfl
        rw [if_pos hheld.enabled]
      exact .inr (.inl ⟨qs, hheld, hsame.symm ▸ hheld⟩)
  | disable deassign =>
    rcases hinv with ⟨hqueues, henabled, hhost⟩ | ⟨qs, hheld⟩
    · simp only [ioStep, virtioPciDisableIoeventfd, hqueues]
      exact .inl ⟨rfl, rfl, hhost⟩
    · simp only [ioStep, IoHeld.disable hheld.queues hheld.vm hheld.resources hheld.apart hv]
      exact .inl ⟨rfl, rfl, rfl⟩
  | moveBar address =>
    rcases hinv with ⟨hqueues, henabled, hhost⟩ | ⟨qs, hheld⟩
    · exact .inl ⟨hqueues, henabled, hhost⟩
    · exact .inr (.inl ⟨qs, hheld, hheld.queues, hheld.enabled, hheld.vm, hheld.length, hheld.ready,
        hheld.resources, hheld.apart⟩)

/-- In every run of enabling, disabling and moves of the BAR, with calls of the kernel that fail at
any point, the process holds nothing for the device while ioeventfds are off, and for each queue
its eventfd, assignment and source while they are on. -/
theorem ioeventfd_resources {host : IoHost} (hwf : host.WellFormed) {s : IoDevice × IoHost}
    (h : Reach ioStep (IoStart host) IoOp.Valid s) :
    IoStart host s ∨ ∃ qs, IoHeld host s qs := by
  refine h.invariant (I := fun s => IoStart host s ∨ ∃ qs, IoHeld host s qs) (fun s => .inl)
    fun s op hinv hv => ?_
  obtain hstart | ⟨qs, -, hheld⟩ | ⟨_, _, _, _, qs, -, hheld, -⟩ := ioStep_outcome hwf hinv hv
  · exact .inl hstart
  · exact .inr ⟨qs, hheld⟩
  · exact .inr ⟨qs, hheld⟩

/-- The calls of `eventfd` in one call of `vart_virtio_pci_enable_ioeventfd` open different
descriptors. -/
def IoOp.Distinct : IoOp → Prop
  | .enable _ _ answers _ => DistinctAnswers answers
  | _ => True

/-- Each queue has a descriptor of its own. -/
theorem ioeventfd_notifiers_nodup {host : IoHost} (hwf : host.WellFormed) {s : IoDevice × IoHost}
    (h : Reach ioStep (IoStart host) (fun s op => op.Valid s ∧ op.Distinct) s) {qs : List IoQueue}
    (hqs : s.1.queues = some qs) : (qs.map (·.notifier)).Nodup := by
  have hinv : IoStart host s ∨ ∃ qs, IoHeld host s qs ∧ (qs.map (·.notifier)).Nodup := by
    refine h.invariant (I := fun s => IoStart host s ∨
      ∃ qs, IoHeld host s qs ∧ (qs.map (·.notifier)).Nodup) (fun s => .inl)
      fun s op hinv hv => ?_
    have hheld : IoStart host s ∨ ∃ qs, IoHeld host s qs :=
      hinv.imp_right fun h => h.imp fun _ hqs => hqs.1
    obtain hstart | ⟨qs, hbefore, hafter⟩ | ⟨_, _, answers, _, qs, rfl, hafter, hfd⟩ :=
      ioStep_outcome hwf hheld hv.1
    · exact .inl hstart
    · refine .inr ⟨qs, hafter, ?_⟩
      obtain ⟨hqueues, -⟩ | ⟨qs', hqs', hnodup⟩ := hinv
      · cases hqueues.symm.trans hbefore.queues
      · cases hqs'.queues.symm.trans hbefore.queues
        exact hnodup
    · refine .inr ⟨qs, hafter, List.nodup_iff_injective_getElem.mpr fun j k hjk => ?_⟩
      have hj : j.1 < qs.length := by simpa using j.2
      have hk : k.1 < qs.length := by simpa using k.2
      obtain ⟨_, hready⟩ := hafter.ready qs[j.1] (List.getElem_mem hj)
      obtain ⟨fd, hsome⟩ := Option.isSome_iff_exists.mp hready.notifier
      simp only [List.getElem_map] at hjk
      exact Fin.ext (hv.2 j.1 k.1 fd (hfd j.1 hj fd hsome) (hfd k.1 hk fd (hjk ▸ hsome)))
  obtain ⟨hnone, -⟩ | ⟨qs', hheld, hnodup⟩ := hinv
  · cases hnone.symm.trans hqs
  · cases hheld.queues.symm.trans hqs
    exact hnodup

/-- A device with two queues and its BAR at `0x40000000`. -/
def twoQueues : IoDevice := ⟨true, true, 0x40000000, 2, none, false, false⟩

/-- KVM refuses to assign the address of queue `1`. -/
def refuseSecond (i : Nat) : IoAnswers :=
  ⟨.ok (10 + i), if i = 1 then .error .eexist else .ok (), .ok ()⟩

/-- The eventfds of both queues are closed again. -/
theorem refuseSecond_resources :
    IoStart ∅ (ioStep (twoQueues, ∅) (.enable true true refuseSecond fun _ => .ok ())) := by
  have hreach : Reach ioStep (IoStart ∅) IoOp.Valid
      (ioStep (twoQueues, ∅) (.enable true true refuseSecond fun _ => .ok ())) :=
    .next (.start ⟨rfl, rfl, rfl⟩) ⟨fun _ _ _ => Finset.notMem_empty _, fun _ => rfl⟩
  rcases ioeventfd_resources (fun _ hx => absurd hx (Finset.notMem_empty _)) hreach with
    hstart | ⟨qs, hheld⟩
  · exact hstart
  · exact absurd hheld.enabled (by decide +kernel)

/-! ## Writes of the guest -/

/-- What KVM does with the assignments: `signalled address size` is the eventfd that it signals for
a write of `size` bytes to `address`, and it does so exactly for writes of two bytes to an address
that is assigned. -/
structure SignalsAssigned (signalled : Nat → Nat → Option Nat) (host : IoHost) : Prop where
  assigned : ∀ address size fd, signalled address size = some fd →
    size = 2 ∧ .ioeventfd address fd ∈ host
  taken : ∀ address fd, .ioeventfd address fd ∈ host → signalled address 2 ≠ none

/-- `virtio_pci_ioeventfd_notify`; a notifier is known by its eventfd. -/
def virtioPciIoeventfdNotify (dev : IoDevice) (calls : VirtioPciCallbacks) (fn : VirtioPciFunction)
    (fd : Nat) : VirtioPciFunction × Status :=
  if !dev.enabled || !dev.vm then (fn, .error .einval)
  else match calls.work with
  | none => (fn, .error .einval)
  | some work =>
    match (dev.queues.getD []).findIdx? (·.notifier == some fd) with
    | none => (fn, .error .einval)
    | some i => (fn.notified (work i), (work i).result)

/-- A write of the guest to offset `offset` of the BAR. One for which KVM signals an eventfd ends in
the callback of the event loop, if the eventfd is polled; any other leaves the guest. -/
def ioeventfdWrite (signalled : Nat → Nat → Option Nat) (host : IoHost) (dev : IoDevice)
    (calls : VirtioPciCallbacks) (fn : VirtioPciFunction) (offset size value : Nat) :
    VirtioPciFunction × Status :=
  match signalled (dev.barAddress + offset) size with
  | none => virtioPciBarWrite calls fn offset size value
  | some fd =>
    if .source fd ∈ host then virtioPciIoeventfdNotify dev calls fn fd else (fn, .ok ())

/-- The addresses do not wrap around in a BAR that passed the check. -/
theorem notifyAddress_eq {base count i : Nat} (hi : i < count) (hmax : count ≤ virtioMaxQueues)
    (hbase : ¬ base > uint64Max - virtioPciNotifyOffset -
      (count - 1) * virtioPciNotifyMultiplier - 2) :
    notifyAddress base i = base + virtioPciNotifyOffset + i * virtioPciNotifyMultiplier := by
  simp only [notifyAddress, virtioPciNotifyOffset, virtioPciNotifyMultiplier, virtioMaxQueues,
    uint64Max] at *
  omega

/-- A write of two bytes to the notify offset of queue `i` makes the device handle that queue. -/
theorem virtioPciBarWrite_notify {calls : VirtioPciCallbacks} {fn : VirtioPciFunction}
    {work : Nat → QueueWork} {i value : Nat} (hi : i < fn.virtio.queues.length)
    (hwork : calls.work = some work) :
    virtioPciBarWrite calls fn (virtioPciNotifyOffset + i * virtioPciNotifyMultiplier) 2 value =
      (fn.notified (work i), (work i).result) := by
  unfold virtioPciBarWrite
  simp only [virtioPciNotifyOffset, virtioPciNotifyMultiplier]
  rw [if_neg (by simp only [virtioPciCommonSize]; omega), if_pos (by omega),
    if_neg (by omega), if_neg (by omega), hwork]
  have hindex : (0x100 + i * 4 - 0x100) / 4 = i := by omega
  simp only [hindex]

theorem mem_heldAll {qs : List IoQueue} {x : IoResource} :
    x ∈ heldAll qs ↔ ∃ q ∈ qs, x ∈ q.held := by
  induction qs with
  | nil => simp [heldAll]
  | cons q qs ih => simp [heldAll, ih]

/-- What a queue that is set up holds. -/
theorem IoQueue.Ready.mem_held {q : IoQueue} {address : Nat} (h : q.Ready address)
    {x : IoResource} : x ∈ q.held ↔ q.notifier = some x.fd ∧
      (x = .eventfd x.fd ∨ x = .ioeventfd address x.fd ∨ x = .source x.fd) := by
  obtain ⟨fd, hfd⟩ := Option.isSome_iff_exists.mp h.notifier
  simp only [IoQueue.held, hfd, h.assigned, h.registered, h.address_eq, if_true, Finset.mem_union,
    Finset.mem_singleton, Option.some.injEq]
  cases x <;> simp [IoResource.fd, eq_comm, and_comm]

/-- With ioeventfds on, every write to the BAR has the effect that it has without them, and KVM
takes exactly the writes of two bytes to the notify address of a queue. -/
theorem ioeventfd_write_eq {supported alloc : Bool} {answers : Nat → IoAnswers}
    {deassign : Nat → Status} {dev dev' : IoDevice} {host host' : IoHost}
    {calls : VirtioPciCallbacks} {fn : VirtioPciFunction} {work : Nat → QueueWork}
    {signalled : Nat → Nat → Option Nat} {offset : Nat}
    (henable : virtioPciEnableIoeventfd supported alloc answers deassign dev host =
      (dev', host', .ok ()))
    (hdistinct : DistinctAnswers answers) (hcount : fn.virtio.queues.length = dev.queueCount)
    (hmax : dev.queueCount ≤ virtioMaxQueues) (hwork : calls.work = some work)
    (hkvm : SignalsAssigned signalled host')
    (hother : ∀ fd, .ioeventfd (dev.barAddress + offset) fd ∉ host) (size value : Nat) :
    ioeventfdWrite signalled host' dev' calls fn offset size value =
      virtioPciBarWrite calls fn offset size value ∧
    ((signalled (dev.barAddress + offset) size).isSome = true ↔ size = 2 ∧
      ∃ i < dev.queueCount, offset = virtioPciNotifyOffset + i * virtioPciNotifyMultiplier) := by
  unfold virtioPciEnableIoeventfd at henable
  iterate 3 (split at henable; · cases henable)
  split at henable
  · cases henable
  rename_i hbar
  simp only [Bool.or_eq_true, Bool.not_eq_true', decide_eq_true_eq, not_or] at hbar
  split at henable
  · cases henable
  obtain ⟨taken, qs, result, hloop⟩ : ∃ taken qs result,
    ioeventfdEnableLoop dev.barAddress answers dev.queueCount 0 host = (taken, qs, result) :=
    ⟨_, _, _, rfl⟩
  obtain ⟨htaken, hlength, -, hready⟩ := ioeventfdEnableLoop_spec _ _ hloop
  simp only [hloop] at henable
  cases result with
  | error e => cases henable
  | ok _ =>
  cases henable
  simp only [Nat.zero_add, forall_const] at hready
  have haddress : ∀ k, k < qs.length → notifyAddress dev.barAddress k =
      dev.barAddress + virtioPciNotifyOffset + k * virtioPciNotifyMultiplier :=
    fun k hk => notifyAddress_eq (hlength ▸ hk) hmax hbar.2
  unfold ioeventfdWrite
  cases hsignal : signalled (dev.barAddress + offset) size with
  | none =>
    refine ⟨rfl, iff_of_false (by simp) ?_⟩
    -- The address of a queue is assigned.
    rintro ⟨rfl, i, hi, rfl⟩
    have hi' : i < qs.length := hlength.symm ▸ hi
    obtain ⟨fd, hfd⟩ := Option.isSome_iff_exists.mp (hready i hi').1.notifier
    refine hkvm.taken _ fd ?_ hsignal
    rw [htaken, Finset.mem_union, mem_heldAll]
    refine .inr ⟨qs[i], List.getElem_mem hi', (hready i hi').1.mem_held.mpr ⟨hfd, .inr (.inl ?_)⟩⟩
    rw [haddress i hi', Nat.add_assoc]
    rfl
  | some fd =>
    obtain ⟨rfl, hassigned⟩ := hkvm.assigned _ _ _ hsignal
    rw [htaken, Finset.mem_union, or_iff_right (hother fd), mem_heldAll] at hassigned
    obtain ⟨q, hq, hheld⟩ := hassigned
    obtain ⟨i, hi, rfl⟩ := List.getElem_of_mem hq
    obtain ⟨hq, hnotifier⟩ := hready i hi
    obtain ⟨hfd, hkind⟩ := hq.mem_held.mp hheld
    simp only [IoResource.fd, reduceCtorEq, false_or, or_false, IoResource.ioeventfd.injEq,
      and_true] at hfd hkind
    -- The address of the write is the notify address of queue `i`.
    have hlt : i < dev.queueCount := hlength ▸ hi
    have hoffset : offset = virtioPciNotifyOffset + i * virtioPciNotifyMultiplier := by
      rw [haddress i hi] at hkind
      omega
    refine ⟨?_, iff_of_true rfl ⟨rfl, i, hlt, hoffset⟩⟩
    have hsource : IoResource.source fd ∈ host' := by
      rw [htaken, Finset.mem_union, mem_heldAll]
      exact .inr ⟨qs[i], List.getElem_mem hi, hq.mem_held.mpr ⟨hfd, .inr (.inr rfl)⟩⟩
    -- No other queue has the descriptor.
    have hfind : qs.findIdx? (·.notifier == some fd) = some i := by
      refine List.findIdx?_eq_some_iff_getElem.mpr ⟨hi, beq_iff_eq.mpr hfd, fun j hj => ?_⟩
      rw [beq_iff_eq]
      intro hsame
      exact hj.ne (hdistinct j i fd ((hready j (hj.trans hi)).2 fd hsame) (hnotifier fd hfd))
    simp only [if_pos hsource, virtioPciIoeventfdNotify, Bool.not_true, Bool.or_self,
      Bool.false_eq_true, if_false, hwork, Option.getD_some, hfind]
    rw [hoffset, virtioPciBarWrite_notify (hcount ▸ hlt) hwork]

def twoQueueFunction : VirtioPciFunction :=
  ⟨⟨2, 0, 0, 0, [.zero, .zero]⟩, [.reset, .reset], 0, 0, 0, 0xffff, 1, 0⟩

/-- A device that does nothing for queue `0` and fails for any other. -/
def failSecond : VirtioPciCallbacks :=
  ⟨none, none, some fun i => ⟨fun _ => 0, fun _ => 0, [], if i = 0 then .ok () else .error .eio⟩⟩

def enabledTwo : IoDevice × IoHost × Status :=
  virtioPciEnableIoeventfd true true (fun i => ⟨.ok (10 + i), .ok (), .ok ()⟩) (fun _ => .ok ())
    twoQueues ∅

/-- The eventfds of the two queues. -/
def signalledTwo (address size : Nat) : Option Nat :=
  if size = 2 ∧ address = 0x40000100 then some 10
  else if size = 2 ∧ address = 0x40000104 then some 11
  else none

theorem signalsAssigned_two : SignalsAssigned signalledTwo enabledTwo.2.1 := by
  have hhost : enabledTwo.2.1 = {.source 11, .ioeventfd 0x40000104 11, .eventfd 11, .source 10,
    .ioeventfd 0x40000100 10, .eventfd 10} := by decide +kernel
  rw [hhost]
  constructor
  · intro address size fd h
    unfold signalledTwo at h
    split at h
    · rename_i hmatch
      cases h
      simp [hmatch]
    · split at h
      · rename_i hmatch
        cases h
        simp [hmatch]
      · cases h
  · intro address fd h
    simp only [Finset.mem_insert, Finset.mem_singleton, reduceCtorEq, false_or, or_false,
      IoResource.ioeventfd.injEq] at h
    rcases h with ⟨rfl, -⟩ | ⟨rfl, -⟩ <;> decide

/-- KVM takes the write for queue `1`, and the callback returns what the device returns. -/
theorem failSecond_write :
    signalledTwo 0x40000104 2 = some 11 ∧
    ioeventfdWrite signalledTwo enabledTwo.2.1 enabledTwo.1 failSecond twoQueueFunction 0x104 2 0 =
      virtioPciBarWrite failSecond twoQueueFunction 0x104 2 0 := by
  have henable : enabledTwo = (enabledTwo.1, enabledTwo.2.1, .ok ()) :=
    Prod.ext rfl (Prod.ext rfl (by decide +kernel))
  have hdistinct : DistinctAnswers fun i => ⟨.ok (10 + i), .ok (), .ok ()⟩ := by
    intro i j fd hi hj
    cases hi
    have hsame := Except.ok.inj hj
    omega
  exact ⟨by decide, (ioeventfd_write_eq henable hdistinct rfl (by decide) rfl signalsAssigned_two
    (fun _ => Finset.notMem_empty _) 2 0).1⟩

end Vart
