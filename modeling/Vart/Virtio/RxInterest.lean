import Vart.Virtio.RxCopy

/-!
# When virtio-net listens to its backend

The device keeps at most one frame. While it waits for a buffer of the guest, its event source has
no interest; a delivery switches the read interest on again. If no frame is held and the interest
is off, no event will ever start a reception again.

`NetOp` is what happens to a device with a backend on an event loop: readiness events, queue
notifications, and everything that the guest and the machine do in between.

* `virtioNetDeliverRx_outcome`: what a delivery does to the held frame and to the interest.
* `RxDrop`: the two ways in which it frees the frame and leaves the interest as it was: the buffer
  is too short for the frame, or the interrupt cannot be raised.
* `rx_interest_iff`: a step leaves the device deaf exactly if it is such a delivery while the
  interest is off.
-/

namespace Vart

open Lib

/-! ## What a delivery leaves alone -/

/-- The held frame, the event source and the backend. -/
def NetSystem.held (s : NetSystem) : Option RxPacket × EventSource × Option Nat :=
  (s.net.rxPacket, s.net.backendSource, s.net.backendFd)

section Held

variable {sink : Sink} {s t : NetSystem} {r : Status}

theorem virtioNetDmaWrite_held {address : Nat} {data : List UInt8}
    (h : virtioNetDmaWrite sink s address data = (t, r)) : t.held = s.held := by
  unfold virtioNetDmaWrite at h
  cases h
  rfl

theorem virtioNetCopy_held {packet : RxPacket} {address offset length : Nat}
    (h : virtioNetCopy sink s packet address offset length = (t, r)) : t.held = s.held := by
  unfold virtioNetCopy at h
  split at h <;> rename_i hw <;> cases h <;> exact (virtioNetDmaWrite_held hw :)

theorem virtioNetCopyLoop_held {packet : RxPacket} {ds : List VirtioDescriptor} {copied : Nat}
    (h : virtioNetCopyLoop sink packet ds s copied = (t, r)) : t.held = s.held := by
  induction ds generalizing s copied with
  | nil => cases h; rfl
  | cons d ds ih =>
    unfold virtioNetCopyLoop at h
    split at h
    · rename_i hc
      cases h
      exact virtioNetCopy_held hc
    · rename_i hc
      exact (ih h).trans (virtioNetCopy_held hc)

theorem virtioNetCopyFrame_held {packet : RxPacket} {d : VirtioDescriptor}
    {ds : List VirtioDescriptor} (h : virtioNetCopyFrame sink s packet d ds = (t, r)) :
    t.held = s.held := by
  unfold virtioNetCopyFrame at h
  split at h
  · rename_i hw
    cases h
    exact virtioNetDmaWrite_held hw
  · rename_i hw
    split at h
    · dsimp only at h
      split at h
      · rename_i hc
        cases h
        exact (virtioNetCopy_held hc).trans (virtioNetDmaWrite_held hw)
      · rename_i hc
        exact (virtioNetCopyLoop_held h).trans
          ((virtioNetCopy_held hc).trans (virtioNetDmaWrite_held hw))
    · exact (virtioNetCopyLoop_held h).trans (virtioNetDmaWrite_held hw)

theorem virtioNetPushUsed_held {head length : Nat}
    (h : virtioNetPushUsed sink s head length = (t, r)) : t.held = s.held := by
  unfold virtioNetPushUsed at h
  cases h
  rfl

theorem raiseQueueInterrupt_held {index : Nat}
    (h : s.raiseQueueInterrupt sink index = (t, r)) : t.held = s.held := by
  unfold NetSystem.raiseQueueInterrupt at h
  cases h
  rfl

end Held

theorem NetSystem.dropPacket_held {s t : NetSystem} (h : t.held = s.held) :
    t.dropPacket.held = (none, s.net.backendSource, s.net.backendFd) :=
  congrArg (fun h => (none, h.2)) h

/-- `virtio_net_set_rx_interest` sets the interest of a registered source, and nothing else. -/
theorem virtioNetSetRxInterest_spec (s : NetSystem) (enabled : Bool) {t : NetSystem}
    (h : (virtioNetSetRxInterest s enabled).1 = t) :
    t.net.rxPacket = s.net.rxPacket ∧
    t.net.backendSource.registered = s.net.backendSource.registered ∧
    (t.net.backendSource.registered = true →
      t.net.backendSource.events = if enabled then eventRead else 0) ∧
    t.net.backendFd = s.net.backendFd := by
  subst h
  unfold virtioNetSetRxInterest eventModify
  cases hr : s.net.backendSource.registered with
  | false => simp [hr]
  | true =>
    have hmask : (if enabled then eventRead else 0) &&& ~~~eventInterests = 0 := by
      cases enabled <;> decide
    simp [hmask]

/-! ## The delivery -/

/-- A delivery of `packet` popped a chain whose buffers are writable and take `capacity` bytes
behind the header; `t` is the device after that. -/
structure RxPopped (sink : Sink) (s t : NetSystem) (packet : RxPacket) (chain : VirtioChain)
    (d : VirtioDescriptor) (ds : List VirtioDescriptor) (capacity : Nat) : Prop where
  packet : s.net.rxPacket = some packet
  pop : ∃ system virtio, virtioQueuePop (s.dma sink) s.system s.net.pci.virtio 0 =
    (system, .ok (virtio, chain)) ∧ t = ({ s with system }).setVirtio virtio
  descriptors : chain.descriptors = d :: ds
  header : ¬ (d.flags &&& virtioDescFWrite = 0 ∨ d.length < virtioNetHdrSize)
  capacity : virtioNetCapacity ds (d.length - virtioNetHdrSize) = .ok capacity

/-- The delivery frees the frame and returns without a word to the event loop. -/
inductive RxDrop (sink : Sink) (s : NetSystem) : Prop
  /-- The buffer is too short for the frame. -/
  | short {t u : NetSystem} {packet : RxPacket} {chain : VirtioChain} {d : VirtioDescriptor}
      {ds : List VirtioDescriptor} {capacity : Nat}
      (popped : RxPopped sink s t packet chain d ds capacity) (lt : capacity < packet.length)
      (push : virtioNetPushUsed sink t chain.head 0 = (u, .ok ()))
  /-- The frame is with the guest, but the interrupt cannot be raised. -/
  | unannounced {t u w x : NetSystem} {packet : RxPacket} {chain : VirtioChain}
      {d : VirtioDescriptor} {ds : List VirtioDescriptor} {capacity : Nat} {e : Errno}
      (popped : RxPopped sink s t packet chain d ds capacity) (le : ¬ capacity < packet.length)
      (copy : virtioNetCopyFrame sink t packet d ds = (u, .ok ()))
      (push : virtioNetPushUsed sink u chain.head (virtioNetHdrSize + packet.length) =
        (w, .ok ()))
      (raise : w.dropPacket.raiseQueueInterrupt sink 0 = (x, .error e))

/-- What a delivery does to the held frame and the event source. -/
inductive RxOutcome (sink : Sink) (s t : NetSystem) : Prop
  /-- There was no frame, or the delivery failed and the frame is still there. -/
  | kept (held : t.held = s.held)
  /-- The frame waits for a buffer. -/
  | waiting (packet : t.net.rxPacket ≠ none)
      (registered : t.net.backendSource.registered = s.net.backendSource.registered)
      (events : t.net.backendSource.registered = true → t.net.backendSource.events = 0)
      (fd : t.net.backendFd = s.net.backendFd)
  | dropped (drop : RxDrop sink s)
      (held : t.held = (none, s.net.backendSource, s.net.backendFd))
  | delivered (packet : t.net.rxPacket = none)
      (registered : t.net.backendSource.registered = s.net.backendSource.registered)
      (events : t.net.backendSource.registered = true →
        t.net.backendSource.events = eventRead)
      (fd : t.net.backendFd = s.net.backendFd)

theorem RxPopped.held {sink : Sink} {s t : NetSystem} {packet : RxPacket} {chain : VirtioChain}
    {d : VirtioDescriptor} {ds : List VirtioDescriptor} {capacity : Nat}
    (h : RxPopped sink s t packet chain d ds capacity) : t.held = s.held := by
  obtain ⟨system, virtio, -, rfl⟩ := h.pop
  rfl

theorem virtioNetDeliverRx_outcome (sink : Sink) (s : NetSystem) :
    RxOutcome sink s (virtioNetDeliverRx sink s).1 := by
  unfold virtioNetDeliverRx
  split
  · exact .kept rfl
  rename_i packet hpacket
  split
  · rename_i system e hpop
    split
    · -- No buffer yet: the interest goes off, with the frame held.
      obtain ⟨hp, hr, hev, hf⟩ := virtioNetSetRxInterest_spec { s with system } false rfl
      exact .waiting (by simp [hp, hpacket]) hr hev hf
    · exact .kept rfl
  rename_i system virtio chain hpop
  extract_lets t
  have ht : t = ({ s with system }).setVirtio virtio := rfl
  have hheld : t.held = s.held := rfl
  clear_value t
  split
  · exact .kept hheld
  rename_i d ds hchain
  split
  · exact .kept hheld
  rename_i hheader
  split
  · exact .kept hheld
  rename_i capacity hcapacity
  have hpopped : RxPopped sink s t packet chain d ds capacity :=
    ⟨hpacket, ⟨system, virtio, hpop, ht⟩, hchain, hheader, hcapacity⟩
  split
  · rename_i hshort
    split
    · rename_i hp
      exact .kept ((virtioNetPushUsed_held hp).trans hheld)
    · rename_i u _ hp
      refine .dropped (.short hpopped hshort hp) ?_
      exact (raiseQueueInterrupt_held rfl).trans
        (NetSystem.dropPacket_held ((virtioNetPushUsed_held hp).trans hheld))
  rename_i hlong
  split
  · rename_i hc
    exact .kept ((virtioNetCopyFrame_held hc).trans hheld)
  rename_i u _ hc
  have hcopy := (virtioNetCopyFrame_held hc).trans hheld
  split
  · rename_i hp
    exact .kept ((virtioNetPushUsed_held hp).trans hcopy)
  rename_i w _ hp
  have hfreed := NetSystem.dropPacket_held ((virtioNetPushUsed_held hp).trans hcopy)
  split
  · rename_i x e hr
    exact .dropped (.unannounced hpopped hlong hc hp hr)
      ((raiseQueueInterrupt_held hr).trans hfreed)
  rename_i x _ hr
  have hraise := (raiseQueueInterrupt_held hr).trans hfreed
  simp only [NetSystem.held, Prod.mk.injEq] at hraise
  obtain ⟨hp, hr, hev, hf⟩ := virtioNetSetRxInterest_spec x true rfl
  exact .delivered (hp.trans hraise.1) (hr.trans (congrArg _ hraise.2.1)) hev
    (hf.trans hraise.2.2)

theorem RxDrop.held {sink : Sink} {s : NetSystem} (h : RxDrop sink s) :
    (virtioNetDeliverRx sink s).1.held = (none, s.net.backendSource, s.net.backendFd) := by
  unfold virtioNetDeliverRx
  cases h with
  | short popped lt push =>
    have hpush := (virtioNetPushUsed_held push).trans popped.held
    obtain ⟨hpacket, ⟨system, virtio, hpop, ht⟩, hchain, hheader, hcapacity⟩ := popped
    rw [ht] at push
    simp only [hpacket, hpop, hchain, hcapacity, if_neg hheader, if_pos lt, push]
    exact (raiseQueueInterrupt_held rfl).trans (NetSystem.dropPacket_held hpush)
  | unannounced popped le copy push raise =>
    have hpush := (virtioNetPushUsed_held push).trans
      ((virtioNetCopyFrame_held copy).trans popped.held)
    obtain ⟨hpacket, ⟨system, virtio, hpop, ht⟩, hchain, hheader, hcapacity⟩ := popped
    rw [ht] at copy
    simp only [hpacket, hpop, hchain, hcapacity, if_neg hheader, if_neg le, copy, push, raise]
    exact (raiseQueueInterrupt_held raise).trans (NetSystem.dropPacket_held hpush)

/-! ## The device on its event loop -/

/-- A write to a register of the transport that does more than to select another one, or a read
that changes something (`virtio_pci_write_common`, `virtio_pci_bar_read`). -/
inductive TransportOp where
  | setFeatures (driverFeatures : Nat)
  | setStatus (status : Nat)
  | setVector (index vector : Nat)
  | configureQueue (index size descriptorAddress availableAddress usedAddress : Nat)
  | resetQueue (index : Nat)
  | readIsr

def VirtioPciDevice.transport (dev : VirtioPciDevice) (op : TransportOp) : VirtioPciDevice :=
  match op with
  | .setFeatures driverFeatures =>
    match virtioDeviceSetFeatures dev.virtio driverFeatures with
    | .error _ => dev
    | .ok virtio => { dev with virtio }
  | .setStatus status =>
    match virtioDeviceSetStatus dev.virtio status with
    | .error _ => dev
    | .ok virtio =>
      if status = 0 then
        { dev with virtio, queueVectors := dev.queueVectors.map fun _ => virtioPciNoVector }
      else { dev with virtio }
  | .setVector index vector =>
    if index ≥ dev.virtio.queues.length then dev
    else { dev with queueVectors := dev.queueVectors.set index vector }
  | .configureQueue index size descriptorAddress availableAddress usedAddress =>
    match virtioQueueConfigure dev.virtio index size descriptorAddress availableAddress
        usedAddress with
    | .error _ => dev
    | .ok virtio => { dev with virtio }
  | .resetQueue index =>
    match virtioQueueReset dev.virtio index with
    | .error _ => dev
    | .ok virtio =>
      { dev with virtio, queueVectors := dev.queueVectors.set index virtioPciNoVector }
  | .readIsr => { dev with isrStatus := 0 }

/-- `virtio_net_backend_event`. -/
def virtioNetBackendEvent (sink : Sink) (s : NetSystem) (events : UInt32) (alloc : Option Store)
    (received : Except Errno BackendFrame) : NetSystem × Status :=
  if events &&& (eventError ||| eventHangup) ≠ 0 then (s, .error .eio)
  else if events &&& eventRead = 0 then (s, .ok ())
  else virtioNetReceiveLocked sink s alloc received

/-- `virtio_net_notify` of queue `0`. -/
def virtioNetNotifyRx (sink : Sink) (s : NetSystem) : NetSystem × Status :=
  if s.net.backendFd = none then (s, .ok ()) else virtioNetDeliverRx sink s

inductive NetOp where
  /-- The rest of the machine; among it, the guest posts buffers in RAM. -/
  | machine (op : IommuOp)
  | transport (op : TransportOp)
  | backendEvent (events : UInt32) (alloc : Option Store) (received : Except Errno BackendFrame)
  | notifyRx

def netStep (sink : Sink) (s : NetSystem) : NetOp → NetSystem
  | .machine op => { s with system := iommuStep sink s.system op }
  | .transport op => { s with net := { s.net with pci := s.net.pci.transport op } }
  | .backendEvent events alloc received => (virtioNetBackendEvent sink s events alloc received).1
  | .notifyRx => (virtioNetNotifyRx sink s).1

/-- The event loop calls a registered source that has an interest. -/
def NetOp.Valid (s : NetSystem) : NetOp → Prop
  | .machine op => op.Valid s.system
  | .backendEvent .. =>
    s.net.backendSource.registered = true ∧ s.net.backendSource.events ≠ 0
  | _ => True

/-- After `vart_virtio_net_attach_backend` and `vart_virtio_net_attach_event_loop`. -/
def NetSystem.Attached (s : NetSystem) : Prop :=
  s.net.rxPacket = none ∧ ∃ fd : Nat, s.net.backendFd = some fd ∧
    ∃ l callback, s.net.backendSource = eventSourceInit.attach l fd eventRead callback

/-- The next frame of the backend is picked up, or one is held. -/
def NetSystem.Listens (s : NetSystem) : Prop :=
  s.net.backendSource.registered = true → s.net.rxPacket = none →
    s.net.backendSource.events &&& eventRead ≠ 0

/-- The operation is not a delivery that frees the frame while the interest is off. -/
def NetOp.Safe (sink : Sink) (s : NetSystem) : NetOp → Prop
  | .notifyRx => s.net.backendFd ≠ none → s.net.backendSource.registered = true →
    s.net.backendSource.events &&& eventRead = 0 → ¬ RxDrop sink s
  | _ => True

/-- A registered source has the read interest or none. -/
structure RxInv (s : NetSystem) : Prop where
  listens : s.Listens
  interest : s.net.backendSource.registered = true →
    s.net.backendSource.events = eventRead ∨ s.net.backendSource.events = 0

section Runs

variable {sink : Sink} {s t : NetSystem}

theorem RxInv.of_held (h : RxInv s) (hheld : t.held = s.held) : RxInv t := by
  simp only [NetSystem.held, Prod.mk.injEq] at hheld
  obtain ⟨hp, hs, -⟩ := hheld
  refine ⟨?_, ?_⟩
  · unfold NetSystem.Listens
    rw [hp, hs]
    exact h.listens
  · rw [hs]
    exact h.interest

/-- A delivery keeps the invariant, unless it frees the frame while the interest is off. -/
theorem RxOutcome.inv (h : RxOutcome sink s t) (hi : RxInv s)
    (hsafe : s.net.backendSource.registered = true →
      s.net.backendSource.events &&& eventRead = 0 → ¬ RxDrop sink s) : RxInv t := by
  cases h with
  | kept hheld => exact hi.of_held hheld
  | waiting packet _ events _ =>
    exact ⟨fun _ hp => absurd hp packet, fun hr => .inr (events hr)⟩
  | dropped drop hheld =>
    simp only [NetSystem.held, Prod.mk.injEq] at hheld
    obtain ⟨-, hs, -⟩ := hheld
    refine ⟨fun hr _ => ?_, ?_⟩
    · rw [hs] at hr ⊢
      exact fun hoff => hsafe hr hoff drop
    · rw [hs]
      exact hi.interest
  | delivered _ _ events _ =>
    refine ⟨fun hr _ => ?_, fun hr => .inl (events hr)⟩
    rw [events hr]
    decide

/-- A readiness event comes with the interest on, so that it keeps the invariant. -/
theorem virtioNetBackendEvent_inv (hi : RxInv s) {events : UInt32} {alloc : Option Store}
    {received : Except Errno BackendFrame}
    (hv : s.net.backendSource.registered = true ∧ s.net.backendSource.events ≠ 0) :
    RxInv (virtioNetBackendEvent sink s events alloc received).1 := by
  have hon : s.net.backendSource.events = eventRead := (hi.interest hv.1).resolve_right hv.2
  have hnot : ¬ s.net.backendSource.events &&& eventRead = 0 := by
    rw [hon]
    decide
  unfold virtioNetBackendEvent
  split
  · exact hi
  split
  · exact hi
  unfold virtioNetReceiveLocked
  split
  · exact hi
  split
  · exact (virtioNetDeliverRx_outcome sink s).inv hi fun _ hoff => absurd hoff hnot
  split
  · exact hi
  split
  · exact hi
  split
  · exact hi
  · refine (virtioNetDeliverRx_outcome sink _).inv ⟨fun _ _ => hnot, hi.interest⟩
      fun _ hoff => absurd hoff hnot

theorem netStep_inv (hi : RxInv s) {op : NetOp} (hv : op.Valid s) (hsafe : op.Safe sink s) :
    RxInv (netStep sink s op) := by
  cases op with
  | machine op => exact hi.of_held rfl
  | transport op => exact hi.of_held rfl
  | backendEvent events alloc received => exact virtioNetBackendEvent_inv hi hv
  | notifyRx =>
    show RxInv (virtioNetNotifyRx sink s).1
    unfold virtioNetNotifyRx
    split
    · exact hi
    · rename_i hfd
      exact (virtioNetDeliverRx_outcome sink s).inv hi (hsafe hfd)

/-- A step that is not safe leaves no frame and no interest. -/
theorem NetOp.Safe.of_listens {op : NetOp} (h : (netStep sink s op).Listens) :
    op.Safe sink s := by
  cases op with
  | notifyRx =>
    intro hfd hr hoff hdrop
    have hheld := hdrop.held
    simp only [NetSystem.held, Prod.mk.injEq] at hheld
    obtain ⟨hp, hs, -⟩ := hheld
    have hstep : netStep sink s .notifyRx = (virtioNetDeliverRx sink s).1 := by
      show (virtioNetNotifyRx sink s).1 = _
      rw [virtioNetNotifyRx, if_neg hfd]
    rw [NetSystem.Listens, hstep, hp, hs] at h
    exact h hr rfl hoff
  | _ => trivial

theorem NetSystem.Attached.inv (h : s.Attached) : RxInv s := by
  obtain ⟨-, fd, -, l, callback, hs⟩ := h
  refine ⟨fun _ _ => ?_, fun _ => .inl ?_⟩
  · rw [hs]
    show eventRead &&& eventRead ≠ 0
    decide
  · rw [hs]
    rfl

end Runs

/-- In a run of safe operations the device always listens, and a step from there keeps that
exactly if it is safe. -/
theorem rx_interest_iff {sink : Sink} {s : NetSystem}
    (h : Reach (netStep sink) NetSystem.Attached (fun s op => op.Valid s ∧ op.Safe sink s) s) :
    s.Listens ∧ ∀ op : NetOp, op.Valid s → ((netStep sink s op).Listens ↔ op.Safe sink s) := by
  have hinv : RxInv s := h.invariant (fun _ => NetSystem.Attached.inv)
    fun _ _ hi ha => netStep_inv hi ha.1 ha.2
  exact ⟨hinv.listens, fun op hv =>
    ⟨NetOp.Safe.of_listens, fun hsafe => (netStep_inv hinv hv hsafe).listens⟩⟩

/-- A device at function `1` whose queue `0` has no buffer yet, with a backend. -/
def listening : NetSystem where
  system := busMaster ramAtDram
  net := {
    pci := ⟨1, ⟨1, 0, 0, 0, [waitingQueue, .zero]⟩, [virtioPciNoVector, virtioPciNoVector], 0, true⟩
    backendSource := eventSourceInit.attach 0 3 eventRead 0
    rxPacket := none
    backendFd := some 3 }
  rxReads := []

theorem listening_attached : listening.Attached := ⟨rfl, 3, rfl, 0, 0, rfl⟩

/-- A frame of two bytes arrives and is held, and then the guest posts a buffer. -/
def framePosted (length : Nat) : List NetOp :=
  [.backendEvent eventRead (some fun _ => 0) (.ok ⟨[1, 2], by decide⟩),
    .machine (.pci (.writeRam (postedMemory length).ram))]

/-- The buffer has room for one byte behind the header. -/
def shortPosted : List NetOp := framePosted 13

/-- The buffer has room for the frame, and the notification delivers it. -/
theorem fittingBuffer_listens :
    let run := runFrom (netStep fun _ => .ok ()) listening
    (run (framePosted 14)).net.rxPacket.isSome = true ∧
      (run (framePosted 14)).net.backendSource.events = 0 ∧
      (run (framePosted 14 ++ [.notifyRx])).net.backendSource.registered = true ∧
      (run (framePosted 14 ++ [.notifyRx])).net.rxPacket.isNone = true ∧
      (run (framePosted 14 ++ [.notifyRx])).Listens := by
  intro run
  refine ⟨by decide +kernel, by decide +kernel, by decide +kernel, by decide +kernel,
    (@rx_interest_iff (fun _ => .ok ()) _ ((Reach.start listening_attached).runFrom ?_)).1⟩
  refine ⟨⟨⟨rfl, by decide⟩, trivial⟩, ⟨⟨trivial, trivial⟩, trivial⟩,
    ⟨trivial, fun _ _ _ hdrop => ?_⟩, trivial⟩
  -- A delivery that drops the frame would leave the interest off.
  have hevents := congrArg (·.2.1.events) hdrop.held
  exact absurd hevents (by decide +kernel)

/-- The notification for the short buffer frees the frame, and the interest stays off. -/
theorem shortBuffer_deaf :
    Reach (netStep fun _ => .ok ()) NetSystem.Attached (fun s op => op.Valid s)
      (runFrom (netStep fun _ => .ok ()) listening (shortPosted ++ [.notifyRx])) ∧
    (runFrom (netStep fun _ => .ok ()) listening
      (shortPosted ++ [.notifyRx])).net.backendSource.registered = true ∧
    (runFrom (netStep fun _ => .ok ()) listening
      (shortPosted ++ [.notifyRx])).net.rxPacket.isNone = true ∧
    (runFrom (netStep fun _ => .ok ()) listening
      (shortPosted ++ [.notifyRx])).net.backendSource.events = 0 := by
  refine ⟨(Reach.start listening_attached).runFrom ?_, by decide +kernel, by decide +kernel,
    by decide +kernel⟩
  exact ⟨⟨rfl, by decide⟩, ⟨trivial, trivial⟩, trivial, trivial⟩

end Vart
