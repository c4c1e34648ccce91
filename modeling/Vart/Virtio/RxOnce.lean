import Vart.Virtio.RingOrder
import Vart.Virtio.RxInterest

/-!
# The frames that the guest is told of

A delivery of virtio-net hands its chain to `vart_virtio_queue_push_used`, which writes the
element, counts it and then writes `used.idx`. If the last write fails, the element stays counted:
the next index that is written covers it, although the device still holds the frame and delivers
it again.

`RxRun` is the device with three lists: the frames that were read from the backend, those of the
elements below `used.idx`, and those of the elements that are counted but not below it yet.

* `rxPush`: the call of `vart_virtio_queue_push_used` that a delivery makes.
* `virtioNetDeliverRx_push`: the frame is freed exactly if that call succeeds.
* `rx_frames_once`: while no push of a frame is torn, the frames of the used ring are a
  subsequence of those of the backend.
* `announced_in_ring`: a step announces a frame by the used ring in guest memory.
* `frame_announced_twice`: a run with a torn push.
-/

namespace Vart

open Lib

/-! ## The push of a delivery -/

/-- How far `vart_virtio_queue_push_used` got. -/
inductive PushOutcome where
  /-- No element was written. -/
  | refused
  /-- The element is written and counted, but not `used.idx`. -/
  | torn
  | announced
deriving DecidableEq

/-- `next_used` of the receive queue. -/
def NetSystem.nextUsed (s : NetSystem) : Option UInt16 :=
  s.net.pci.virtio.queues[0]?.map (·.nextUsed)

/-- Only an element that was written is counted. -/
def virtioNetPushOutcome (sink : Sink) (s : NetSystem) (head length : Nat) : PushOutcome :=
  match virtioNetPushUsed sink s head length with
  | (_, .ok _) => .announced
  | (t, .error _) => if t.nextUsed = s.nextUsed then .refused else .torn

/-- The two writes of a push, how far they got, and the system after them. -/
inductive UsedWrites (sink : Sink) (s : NetSystem) (element idx : Chunk) (m : IommuSystem) :
    PushOutcome → Prop
  | refused {e : Errno}
      (h : (s.dma sink).write s.system (element.address % 2 ^ 64) element.data = (m, .error e)) :
      UsedWrites sink s element idx m .refused
  | torn {m' : IommuSystem} {e : Errno}
      (h : (s.dma sink).write s.system (element.address % 2 ^ 64) element.data = (m', .ok ()))
      (h' : (s.dma sink).write m' (idx.address % 2 ^ 64) idx.data = (m, .error e)) :
      UsedWrites sink s element idx m .torn
  | announced {m' : IommuSystem}
      (h : (s.dma sink).write s.system (element.address % 2 ^ 64) element.data = (m', .ok ()))
      (h' : (s.dma sink).write m' (idx.address % 2 ^ 64) idx.data = (m, .ok ())) :
      UsedWrites sink s element idx m .announced

/-- On a queue in use the outcome says which of the two writes succeeded. -/
theorem virtioNetPushOutcome_writes {sink : Sink} {s : NetSystem} {q : VirtioQueue}
    {head : Nat} (length : Nat) (hq : virtioQueueGet s.net.pci.virtio 0 = .ok q)
    (hhead : head < q.size) :
    UsedWrites sink s (q.usedElement q.nextUsed.toNat head length) (q.usedIdx q.nextUsed.toNat)
      (virtioNetPushUsed sink s head length).1.system
      (virtioNetPushOutcome sink s head length) := by
  obtain ⟨hget, -⟩ := virtioQueueGet_ok hq
  have hlt : 0 < s.net.pci.virtio.queues.length := (List.getElem?_eq_some_iff.mp hget).1
  obtain ⟨m, r, helement⟩ : ∃ m r, (s.dma sink).write s.system
      ((q.usedElement q.nextUsed.toNat head length).address % 2 ^ 64)
      (q.usedElement q.nextUsed.toNat head length).data = (m, r) := ⟨_, _, rfl⟩
  obtain ⟨m', r', hidx⟩ : ∃ m' r', (s.dma sink).write m
      ((q.usedIdx q.nextUsed.toNat).address % 2 ^ 64) (storeLe 2 (q.nextUsed + 1).toNat) =
        (m', r') := ⟨_, _, rfl⟩
  have hcount : (q.nextUsed + 1).toNat = (q.nextUsed.toNat + 1) % 2 ^ 16 := UInt16.toNat_add _ _
  have hnext : q.nextUsed + 1 ≠ q.nextUsed := by
    intro h
    have := q.nextUsed.toNat_lt
    rw [h] at hcount
    omega
  have hwrite := helement
  have hwrite' := hidx
  simp only [VirtioQueue.usedElement] at hwrite
  simp only [VirtioQueue.usedIdx] at hwrite'
  rw [hcount] at hidx
  unfold virtioNetPushOutcome virtioNetPushUsed virtioQueuePushUsed
  simp only [hq, if_neg (Nat.not_le.mpr hhead), hwrite]
  cases r with
  | error e =>
    have hsame : (({ s with system := m }).setVirtio s.net.pci.virtio).nextUsed = s.nextUsed := rfl
    dsimp only
    rw [if_pos hsame]
    exact .refused helement
  | ok _ =>
    simp only [hwrite']
    cases r' with
    | ok _ => exact .announced helement hidx
    | error e =>
      dsimp only
      rw [if_neg]
      · exact .torn helement hidx
      · simp only [NetSystem.nextUsed, NetSystem.setVirtio, VirtioDevice.setQueue, hget,
          List.getElem?_set_self hlt, Option.map_some, Option.some.injEq]
        exact hnext

/-- The call of `vart_virtio_queue_push_used` in a delivery: the state in which it is made, the head
and the length. -/
def rxPush (sink : Sink) (s : NetSystem) : Option (NetSystem × Nat × Nat) :=
  match s.net.rxPacket with
  | none => none
  | some packet =>
    match virtioQueuePop (s.dma sink) s.system s.net.pci.virtio 0 with
    | (_, .error _) => none
    | (system, .ok (virtio, chain)) =>
      let s := ({ s with system }).setVirtio virtio
      match chain.descriptors with
      | [] => none
      | d :: ds =>
        if d.flags &&& virtioDescFWrite = 0 ∨ d.length < virtioNetHdrSize then none
        else match virtioNetCapacity ds (d.length - virtioNetHdrSize) with
        | .error _ => none
        | .ok capacity =>
          if capacity < packet.length then some (s, chain.head, 0)
          else match virtioNetCopyFrame sink s packet d ds with
          | (_, .error _) => none
          | (s, .ok _) => some (s, chain.head, virtioNetHdrSize + packet.length)

/-- What a delivery does to the held frame, by the push it makes, which is its last change of
memory. -/
inductive RxPush (sink : Sink) (s t : NetSystem) : Option (NetSystem × Nat × Nat) → Prop
  | none (kept : t.net.rxPacket = s.net.rxPacket) : RxPush sink s t none
  | some {u : NetSystem} {head length : Nat} (held : s.net.rxPacket ≠ Option.none)
      (packet : t.net.rxPacket =
        if virtioNetPushOutcome sink u head length = .announced then Option.none
        else s.net.rxPacket)
      (shown : t.shown = (virtioNetPushUsed sink u head length).1.shown) :
      RxPush sink s t (some (u, head, length))

theorem virtioNetPushOutcome_ok {sink : Sink} {s t : NetSystem} {head length : Nat} {x : Unit}
    (h : virtioNetPushUsed sink s head length = (t, .ok x)) :
    virtioNetPushOutcome sink s head length = .announced := by
  simp only [virtioNetPushOutcome, h]

theorem virtioNetPushOutcome_error {sink : Sink} {s t : NetSystem} {head length : Nat} {e : Errno}
    (h : virtioNetPushUsed sink s head length = (t, .error e)) :
    virtioNetPushOutcome sink s head length ≠ .announced := by
  simp only [virtioNetPushOutcome, h]
  split <;> decide

/-- The push fails: the frame is kept. -/
theorem rxPush_failed {sink : Sink} {s t u : NetSystem} {head length : Nat} {e : Errno}
    (hne : s.net.rxPacket ≠ none) (hheld : u.held = s.held)
    (hpush : virtioNetPushUsed sink u head length = (t, .error e)) :
    RxPush sink s t (some (u, head, length)) := by
  refine .some hne ?_ (by rw [hpush])
  rw [if_neg (virtioNetPushOutcome_error hpush)]
  exact congrArg Prod.fst ((virtioNetPushUsed_held hpush).trans hheld)

/-- The push succeeds: the frame is freed, and the interrupt is raised. -/
theorem rxPush_freed {sink : Sink} {s t u w : NetSystem} {head length : Nat} {x : Unit} {r : Status}
    (hne : s.net.rxPacket ≠ none) (hpush : virtioNetPushUsed sink u head length = (w, .ok x))
    (hraise : w.dropPacket.raiseQueueInterrupt sink 0 = (t, r)) :
    RxPush sink s t (some (u, head, length)) := by
  have hshown := raiseQueueInterrupt_shown sink w.dropPacket 0
  rw [hraise] at hshown
  refine .some hne ?_ (by rw [hpush]; exact hshown)
  rw [if_pos (virtioNetPushOutcome_ok hpush)]
  exact congrArg Prod.fst (raiseQueueInterrupt_held hraise)

theorem virtioNetDeliverRx_push (sink : Sink) (s : NetSystem) :
    RxPush sink s (virtioNetDeliverRx sink s).1 (rxPush sink s) := by
  unfold virtioNetDeliverRx rxPush
  cases hpacket : s.net.rxPacket with
  | none => exact .none rfl
  | some packet =>
  have hne : s.net.rxPacket ≠ none := by simp [hpacket]
  obtain ⟨system, r, hpop⟩ : ∃ system r,
    virtioQueuePop (s.dma sink) s.system s.net.pci.virtio 0 = (system, r) := ⟨_, _, rfl⟩
  simp only [hpop]
  cases r with
  | error e =>
    dsimp only
    split
    · exact .none (virtioNetSetRxInterest_spec { s with system } false rfl).1
    · exact .none rfl
  | ok popped =>
  dsimp only
  generalize ht : ({ s with system }).setVirtio popped.1 = t
  have hheld : t.held = s.held := by rw [← ht]; rfl
  cases popped.2.descriptors with
  | nil => exact .none (congrArg Prod.fst hheld)
  | cons d ds =>
  dsimp only
  split
  · exact .none (congrArg Prod.fst hheld)
  cases virtioNetCapacity ds (d.length - virtioNetHdrSize) with
  | error e => exact .none (congrArg Prod.fst hheld)
  | ok capacity =>
  dsimp only
  split
  · -- The frame does not fit: the push has length zero.
    obtain ⟨u, r, hpush⟩ : ∃ u r, virtioNetPushUsed sink t popped.2.head 0 = (u, r) := ⟨_, _, rfl⟩
    simp only [hpush]
    cases r with
    | error e => exact rxPush_failed hne hheld hpush
    | ok _ => exact rxPush_freed hne hpush rfl
  obtain ⟨u, r, hcopy⟩ : ∃ u r, virtioNetCopyFrame sink t packet d ds = (u, r) := ⟨_, _, rfl⟩
  have hcopied := (virtioNetCopyFrame_held hcopy).trans hheld
  simp only [hcopy]
  cases r with
  | error e => exact .none (congrArg Prod.fst hcopied)
  | ok _ =>
  dsimp only
  obtain ⟨w, r, hpush⟩ : ∃ w r, virtioNetPushUsed sink u popped.2.head
    (virtioNetHdrSize + packet.length) = (w, r) := ⟨_, _, rfl⟩
  simp only [hpush]
  cases r with
  | error e => exact rxPush_failed hne hcopied hpush
  | ok _ =>
  dsimp only
  split
  · rename_i hr
    exact rxPush_freed hne hpush hr
  · rename_i hr
    cases rxPush_freed hne hpush hr with
    | some held packet shown =>
      exact .some held ((virtioNetSetRxInterest_spec _ true rfl).1.trans packet)
        ((virtioNetSetRxInterest_shown _ true).trans shown)

/-! ## Runs -/

/-- The state in which an operation calls `virtio_net_deliver_rx`. -/
def NetOp.delivery (s : NetSystem) : NetOp → Option NetSystem
  | .backendEvent events alloc received =>
    if events &&& (eventError ||| eventHangup) ≠ 0 ∨ events &&& eventRead = 0 ∨
        s.net.backendFd = none then none
    else if s.net.rxPacket.isSome then some s
    else match alloc, received with
    | some heap, .ok frame =>
      if h : frame.val = [] then none
      else some { s with net := { s.net with rxPacket := some (.ofFrame heap frame h) } }
    | _, _ => none
  | .notifyRx => if s.net.backendFd = none then none else some s
  | _ => none

/-- The driver starts queue `0` again: what was counted is forgotten. -/
def NetOp.restarts (s : NetSystem) : NetOp → Bool
  | .transport (.setStatus status) => status == 0
  | .transport (.resetQueue index) => index == 0
  | .transport (.configureQueue index size descriptorAddress availableAddress usedAddress) =>
    index == 0 && (virtioQueueConfigure s.net.pci.virtio index size descriptorAddress
      availableAddress usedAddress).toBool
  | _ => false

/-- The held frame. -/
def NetSystem.heldFrame (s : NetSystem) : List (List UInt8) :=
  (s.net.rxPacket.map RxPacket.frame).toList

structure RxRun where
  device : NetSystem
  /-- The frames that were read from the backend, oldest first. -/
  received : List (List UInt8)
  /-- The frames of the elements below `used.idx` whose length is not zero, in ring order. -/
  announced : List (List UInt8)
  /-- The frames of the elements that are counted, but not below `used.idx`. -/
  counted : List (List UInt8)

namespace RxRun

/-- A push of `frames`; an element of length zero has none. The index covers all that is counted. -/
def push (r : RxRun) (frames : List (List UInt8)) : PushOutcome → RxRun
  | .refused => r
  | .torn => { r with counted := r.counted ++ frames }
  | .announced => { r with announced := r.announced ++ (r.counted ++ frames), counted := [] }

/-- The push of the delivery in state `u`. -/
def pushed (sink : Sink) (r : RxRun) (u : NetSystem) : RxRun :=
  match rxPush sink u with
  | none => r
  | some (v, head, length) =>
    r.push (if length = 0 then [] else u.heldFrame) (virtioNetPushOutcome sink v head length)

/-- The delivery in state `u`; a frame that was not held before was just read. -/
def deliver (sink : Sink) (r : RxRun) (u : NetSystem) : RxRun :=
  (if r.device.net.rxPacket.isSome then r
    else { r with received := r.received ++ u.heldFrame }).pushed sink u

end RxRun

def rxRunStep (sink : Sink) (r : RxRun) (op : NetOp) : RxRun :=
  let next := match op.delivery r.device with
    | some u => r.deliver sink u
    | none => if op.restarts r.device then { r with counted := [] } else r
  { next with device := netStep sink r.device op }

/-- A device that has just been attached. -/
def RxRun.Fresh (r : RxRun) : Prop :=
  r.device.Attached ∧ r.received = [] ∧ r.announced = [] ∧ r.counted = []

/-- The operation writes the element of a frame, but not the index that announces it. -/
def NetOp.tears (sink : Sink) (s : NetSystem) (op : NetOp) : Bool :=
  (op.delivery s).any fun u => (rxPush sink u).any fun call =>
    call.2.2 != 0 && virtioNetPushOutcome sink call.1 call.2.1 call.2.2 == .torn

/-- A delivery is of the held frame, or of one that was just read. -/
theorem NetOp.delivery_cases {s u : NetSystem} {op : NetOp} (h : op.delivery s = some u) :
    u = s ∨ s.net.rxPacket = none := by
  cases op with
  | backendEvent events alloc received =>
    simp only [NetOp.delivery] at h
    split at h
    · cases h
    split at h
    · exact .inl (Option.some.inj h).symm
    · rename_i hnone
      exact .inr (Option.not_isSome_iff_eq_none.mp hnone)
  | notifyRx =>
    simp only [NetOp.delivery] at h
    split at h
    · cases h
    · exact .inl (Option.some.inj h).symm
  | machine op => cases h
  | transport op => cases h

theorem netStep_of_delivery (sink : Sink) {s u : NetSystem} {op : NetOp}
    (h : op.delivery s = some u) : netStep sink s op = (virtioNetDeliverRx sink u).1 := by
  cases op with
  | backendEvent events alloc received =>
    simp only [NetOp.delivery] at h
    split at h
    · cases h
    rename_i hevents
    simp only [not_or, Decidable.not_not] at hevents
    obtain ⟨herror, hread, hfd⟩ := hevents
    unfold netStep virtioNetBackendEvent virtioNetReceiveLocked
    simp only [if_neg hread, if_neg hfd, if_neg (not_not.mpr herror)]
    split at h
    · rename_i hsome
      rw [if_pos hsome, Option.some.inj h]
    rename_i hsome
    rw [if_neg hsome]
    split at h
    · dsimp only
      split at h
      · cases h
      · rename_i hframe
        rw [dif_neg hframe, Option.some.inj h]
    · cases h
  | notifyRx =>
    simp only [NetOp.delivery] at h
    split at h
    · cases h
    · rename_i hfd
      obtain rfl := Option.some.inj h
      simp only [netStep, virtioNetNotifyRx, if_neg hfd]
  | machine op => cases h
  | transport op => cases h

/-- An operation without a delivery keeps the held frame. -/
theorem netStep_of_no_delivery (sink : Sink) {s : NetSystem} {op : NetOp}
    (h : op.delivery s = none) : (netStep sink s op).net.rxPacket = s.net.rxPacket := by
  cases op with
  | backendEvent events alloc received =>
    simp only [NetOp.delivery] at h
    unfold netStep virtioNetBackendEvent virtioNetReceiveLocked
    simp only
    split
    · rfl
    split
    · rfl
    split
    · rfl
    rename_i herror hread hfd
    rw [if_neg (by simp only [not_or]; exact ⟨herror, hread, hfd⟩)] at h
    split at h
    · cases h
    rename_i hsome
    rw [if_neg hsome]
    cases alloc with
    | none => rfl
    | some heap =>
      cases received with
      | error e => rfl
      | ok frame =>
        dsimp only at h ⊢
        split at h
        · rename_i hframe
          rw [dif_pos hframe]
        · cases h
  | notifyRx =>
    simp only [NetOp.delivery] at h
    split at h
    · rename_i hfd
      simp only [netStep, virtioNetNotifyRx, if_pos hfd]
    · cases h
  | machine op => rfl
  | transport op => rfl

/-- Nothing is counted that is not announced, and what is announced and held comes from the
backend, in its order. -/
structure RxOnce (r : RxRun) : Prop where
  counted : r.counted = []
  order : (r.announced ++ r.device.heldFrame).Sublist r.received

/-- The step lemma for a delivery, with the frame that it is about in `received`. -/
theorem RxOnce.push {sink : Sink} {r : RxRun} {u t : NetSystem} (hcounted : r.counted = [])
    (horder : (r.announced ++ u.heldFrame).Sublist r.received)
    (ht : RxPush sink u t (rxPush sink u))
    (hwhole : ∀ v head length, rxPush sink u = some (v, head, length) → length ≠ 0 →
      virtioNetPushOutcome sink v head length ≠ .torn) :
    RxOnce { r.pushed sink u with device := t } := by
  unfold RxRun.pushed
  cases hpush : rxPush sink u with
  | none =>
    rw [hpush] at ht
    cases ht with
    | none kept => exact ⟨hcounted, by simpa only [NetSystem.heldFrame, kept] using horder⟩
  | some call =>
    obtain ⟨v, head, length⟩ := call
    rw [hpush] at ht
    cases ht with
    | some held packet =>
      dsimp only
      cases houtcome : virtioNetPushOutcome sink v head length with
      | refused =>
        rw [houtcome, if_neg (by decide)] at packet
        exact ⟨hcounted, by simpa only [RxRun.push, NetSystem.heldFrame, packet] using horder⟩
      | torn =>
        -- Only an element without a frame can be torn.
        rw [houtcome, if_neg (by decide)] at packet
        have hzero : length = 0 := by
          by_contra hne
          exact hwhole v head length hpush hne houtcome
        refine ⟨?_, by simpa only [RxRun.push, NetSystem.heldFrame, packet] using horder⟩
        simp only [RxRun.push, hcounted, if_pos hzero, List.append_nil]
      | announced =>
        rw [houtcome, if_pos rfl] at packet
        refine ⟨rfl, ?_⟩
        simp only [RxRun.push, hcounted, List.nil_append, NetSystem.heldFrame, packet,
          Option.map_none, Option.toList_none, List.append_nil]
        split
        · rw [List.append_nil]
          exact (List.sublist_append_left _ _).trans horder
        · exact horder

theorem rxRunStep_once {sink : Sink} {r : RxRun} {op : NetOp} (hr : RxOnce r)
    (hwhole : op.tears sink r.device = false) : RxOnce (rxRunStep sink r op) := by
  unfold rxRunStep
  cases hdelivery : op.delivery r.device with
  | none =>
    have hkept := netStep_of_no_delivery sink hdelivery
    dsimp only
    split
    · exact ⟨rfl, by simpa only [NetSystem.heldFrame, hkept] using hr.order⟩
    · exact ⟨hr.counted, by simpa only [NetSystem.heldFrame, hkept] using hr.order⟩
  | some u =>
    simp only [RxRun.deliver, netStep_of_delivery sink hdelivery]
    refine RxOnce.push ?_ ?_ (virtioNetDeliverRx_push sink u)
      fun v head length hpush hlength hout => ?_
    · split <;> exact hr.counted
    · rcases NetOp.delivery_cases hdelivery with rfl | hnone
      · split
        · exact hr.order
        · exact hr.order.trans (List.sublist_append_left _ _)
      · have horder := hr.order
        simp only [NetSystem.heldFrame, hnone, Option.map_none, Option.toList_none,
          List.append_nil] at horder
        simp only [hnone, Option.isSome_none, Bool.false_eq_true, if_false]
        exact horder.append_right _
    · simp [NetOp.tears, hdelivery, hpush, hlength, hout] at hwhole

/-- In every run in which no push of a frame is torn, the frames of the used ring are, in ring
order, a subsequence of the frames of the backend. -/
theorem rx_frames_once {sink : Sink} {r : RxRun}
    (h : Reach (rxRunStep sink) RxRun.Fresh
      (fun r op => op.Valid r.device ∧ op.tears sink r.device = false) r) :
    r.announced.Sublist r.received := by
  have hinv : RxOnce r := by
    refine h.invariant (fun r hr => ?_) fun r op hr hop => rxRunStep_once hr hop.2
    obtain ⟨⟨hpacket, -⟩, hreceived, hannounced, hcounted⟩ := hr
    exact ⟨hcounted, by simp [hannounced, NetSystem.heldFrame, hpacket]⟩
  exact (List.sublist_append_left _ _).trans hinv.order

/-! ## The used ring in guest memory -/

/-- After a push that announces its element the guest reads the element in its slot, and an index
that covers it. -/
theorem pushAnnounced_read {sink : Sink} {s : NetSystem} {head length : Nat} {q : VirtioQueue}
    (v : DmaView sink s.net.pci.pci) (hinv : v.Inv s.system)
    (hq : virtioQueueGet s.net.pci.virtio 0 = .ok q) (hhead : head < q.size)
    (hin : q.usedSeg.range ⊆ v.dom) (h : virtioNetPushOutcome sink s head length = .announced) :
    let ring := v.byte (virtioNetPushUsed sink s head length).1.system
    ring.read (q.usedElement q.nextUsed.toNat head length).address virtioUsedElementSize =
        storeLe 4 head ++ storeLe 4 length ∧
      ring.read (q.usedAddress + 2) 2 = storeLe 2 ((q.nextUsed.toNat + 1) % 2 ^ 16) := by
  have hlayout := q.wf (virtioQueueGet_ok hq).2
  have hend := hlayout.used_end
  have hslot : q.nextUsed.toNat % q.size < q.size := Nat.mod_lt _ hlayout.size_pos
  have hwrites := @virtioNetPushOutcome_writes sink _ _ _ length hq hhead
  rw [h] at hwrites
  simp only [virtioUsedHeaderSize, virtioUsedElementSize] at hend
  cases hwrites with
  | announced helement hidx =>
    rw [Nat.mod_eq_of_lt (by simp only [VirtioQueue.usedElement, virtioUsedHeaderSize,
      virtioUsedElementSize]; omega)] at helement
    rw [Nat.mod_eq_of_lt (by simp only [VirtioQueue.usedIdx]; omega)] at hidx
    obtain ⟨hu, hbyte⟩ := v.write_ok hinv helement
    obtain ⟨-, hbyte'⟩ := v.write_ok hu hidx
    exact VirtioQueue.push_read hlayout.size_pos hin (hbyte'.trans (eqOn_write hbyte _ _))

/-- A step that delivers in state `u`, with the push of an element in state `w`, adds the frame of
the element to `announced` (behind those of torn elements) if the push announces it; then the
element and the index are in guest memory. Otherwise `announced` stays as it is. -/
theorem announced_in_ring {sink : Sink} {r : RxRun} {op : NetOp} {u w : NetSystem}
    {head length : Nat} {q : VirtioQueue} (v : DmaView sink w.net.pci.pci)
    (hdelivery : op.delivery r.device = some u) (hpush : rxPush sink u = some (w, head, length))
    (hinv : v.Inv w.system) (hq : virtioQueueGet w.net.pci.virtio 0 = .ok q)
    (hhead : head < q.size) (hin : q.usedSeg.range ⊆ v.dom) :
    let t := rxRunStep sink r op
    let ring := v.byte t.device.system
    if virtioNetPushOutcome sink w head length = .announced then
      t.announced = r.announced ++ (r.counted ++ if length = 0 then [] else u.heldFrame) ∧
      ring.read (q.usedElement q.nextUsed.toNat head length).address virtioUsedElementSize =
        storeLe 4 head ++ storeLe 4 length ∧
      ring.read (q.usedAddress + 2) 2 = storeLe 2 ((q.nextUsed.toNat + 1) % 2 ^ 16)
    else t.announced = r.announced := by
  intro t ring
  have hdevice : t.device = (virtioNetDeliverRx sink u).1 := netStep_of_delivery sink hdelivery
  have hannounced : t.announced = ((if r.device.net.rxPacket.isSome then r
      else { r with received := r.received ++ u.heldFrame }).push
        (if length = 0 then [] else u.heldFrame)
        (virtioNetPushOutcome sink w head length)).announced := by
    simp only [t, rxRunStep, hdelivery, RxRun.deliver, RxRun.pushed, hpush]
  have hring : ring = v.byte (virtioNetPushUsed sink w head length).1.system := by
    have hdelivered := virtioNetDeliverRx_push sink u
    rw [hpush] at hdelivered
    cases hdelivered with
    | some held packet shown =>
      simp only [NetSystem.shown, Prod.mk.injEq] at shown
      simp only [ring, hdevice]
      exact v.byte_congr shown.1 shown.2.1
  split
  · rename_i h
    rw [hannounced, hring, h]
    refine ⟨?_, pushAnnounced_read v hinv hq hhead hin h⟩
    split <;> rfl
  · rename_i h
    rw [hannounced]
    cases houtcome : virtioNetPushOutcome sink w head length with
    | announced => exact absurd houtcome h
    | refused => simp only [RxRun.push]; split <;> rfl
    | torn => simp only [RxRun.push]; split <;> rfl

/-! ## A ring over two pages -/

theorem splitLayout : QueueLayout 8 0x1100 0x1200 0xffc := by
  constructor <;> decide

/-- `used.idx` is at the end of page `0`, the elements are at the start of page `1`. -/
def splitQueue : VirtioQueue := ⟨8, 0, 0, 0x1100, 0x1200, 0xffc, true, fun _ => splitLayout⟩

/-- A leaf for page `p` of RAM that allows reads and writes. -/
def writableLeaf (p : Nat) : List UInt8 := storeLe 8 ((0x80000 + p) <<< 10 ||| 0xd7)

/-- Sv39 tables that map page `1` to page `0x11` of RAM; `header` is the entry of page `0`. Two
buffers of 13 bytes are posted. -/
def splitMemory (header : List UInt8) : GuestMemory :=
  { ramAtDram with
    ram := fun _ => writeAll (fun _ => 0)
      [⟨0x1000, storeLe 8 (0x80002 <<< 10 ||| 1)⟩, ⟨0x2000, storeLe 8 (0x80003 <<< 10 ||| 1)⟩,
        ⟨0x3000, header⟩, ⟨0x3008, writableLeaf 0x11⟩,
        ⟨0x11100, storeLe 8 0x1300 ++ storeLe 4 13 ++ storeLe 2 virtioDescFWrite⟩,
        ⟨0x11110, storeLe 8 0x1400 ++ storeLe 4 13 ++ storeLe 2 virtioDescFWrite⟩,
        ⟨0x11202, storeLe 2 2 ++ storeLe 2 0 ++ storeLe 2 1⟩] }

/-- The device at function `1` is bound to an Sv39 context with these tables. -/
def splitStart (header : List UInt8) : RxRun where
  device := {
    system := runFrom (iommuStep fun _ => .ok ()) (iommuAtReset (splitMemory header))
      [.pci (.deviceInit 1 0x1af4 0x1041 0 0 0 2), .bind 1 0, .pci (.addDevice 0 1 8),
        .pci (.realize 1), .pci (.ecamWrite (8 <<< 12 ||| 4) .half 4), .setSv39 0 0x80001 false]
    net := {
      pci := ⟨1, ⟨1, 0, 0, 0, [splitQueue, .zero]⟩, [virtioPciNoVector, virtioPciNoVector], 0, true⟩
      backendSource := eventSourceInit.attach 0 3 eventRead 0
      rxPacket := none
      backendFd := some 3 }
    rxReads := [] }
  received := []
  announced := []
  counted := []

theorem splitStart_fresh (header : List UInt8) : (splitStart header).Fresh :=
  ⟨⟨rfl, 3, rfl, 0, 0, rfl⟩, rfl, rfl, rfl⟩

theorem oneByte_le (byte : UInt8) : [byte].length ≤ uint16Max := by
  rw [List.length_singleton]
  decide

/-- A frame of one byte arrives. -/
def frameArrives (byte : UInt8) : NetOp :=
  .backendEvent eventRead (some fun _ => 0) (.ok ⟨[byte], oneByte_le byte⟩)

/-- Two frames arrive with both pages mapped. -/
def framesArrived : RxRun :=
  runFrom (rxRunStep fun _ => .ok ()) (splitStart (writableLeaf 0x10))
    [frameArrives 0xaa, frameArrives 0xbb]

/-- Each of them is announced once. -/
theorem framesArrived_once :
    framesArrived.announced = [[0xaa], [0xbb]] ∧
    framesArrived.announced.Sublist framesArrived.received := by
  have hfirst : (frameArrives 0xaa).tears (fun _ => .ok ())
      (splitStart (writableLeaf 0x10)).device = false := by decide +kernel
  have hsecond : (frameArrives 0xbb).tears (fun _ => .ok ())
      (rxRunStep (fun _ => .ok ()) (splitStart (writableLeaf 0x10)) (frameArrives 0xaa)).device =
        false := by decide +kernel
  have hready : (frameArrives 0xbb).Valid
      (rxRunStep (fun _ => .ok ()) (splitStart (writableLeaf 0x10)) (frameArrives 0xaa)).device :=
    ⟨by decide +kernel, by decide +kernel⟩
  refine ⟨by decide +kernel, rx_frames_once (.next (.next (.start (splitStart_fresh _)) ?_) ?_)⟩
  · exact ⟨⟨rfl, by decide⟩, hfirst⟩
  · exact ⟨hready, hsecond⟩

/-- The guest maps page `0`, and leaves the rest of RAM as it is. -/
def mapHeader (r : RxRun) : NetOp := .machine (.pci (.writeRam fun id =>
  (r.device.system.memory.ram id).write 0x3000 (writableLeaf 0x10)))

/-- The frame arrives while page `0` is not mapped; then it is mapped and the driver notifies. -/
def retriedPush : RxRun :=
  let r := rxRunStep (fun _ => .ok ()) (splitStart []) (frameArrives 0xaa)
  runFrom (rxRunStep fun _ => .ok ()) r [mapHeader r, .notifyRx]

/-- One frame was read from the backend. The used ring in RAM has the index `2`, and its two
elements are for the two buffers, each with the frame in it. -/
theorem frame_announced_twice :
    Reach (rxRunStep fun _ => .ok ()) RxRun.Fresh (fun r op => op.Valid r.device) retriedPush ∧
    retriedPush.received = [[0xaa]] ∧ retriedPush.announced = [[0xaa], [0xaa]] ∧
    (retriedPush.device.system.memory.ram (.memory 0)).read 0x10ffe 18 =
      storeLe 2 2 ++ storeLe 4 0 ++ storeLe 4 13 ++ storeLe 4 1 ++ storeLe 4 13 ∧
    (retriedPush.device.system.memory.ram (.memory 0)).read 0x11300 13 =
      List.replicate 12 0 ++ [0xaa] ∧
    (retriedPush.device.system.memory.ram (.memory 0)).read 0x11400 13 =
      List.replicate 12 0 ++ [0xaa] ∧
    ¬ retriedPush.announced.Sublist retriedPush.received := by
  have hreceived : retriedPush.received = [[0xaa]] := by decide +kernel
  have hannounced : retriedPush.announced = [[0xaa], [0xaa]] := by decide +kernel
  refine ⟨?_, hreceived, hannounced, by decide +kernel, by decide +kernel, by decide +kernel, ?_⟩
  · exact Reach.runFrom (.next (.start (splitStart_fresh _)) ⟨rfl, by decide⟩)
      ⟨⟨trivial, trivial⟩, trivial, trivial⟩
  · intro h
    rw [hreceived, hannounced] at h
    exact absurd h.length_le (by decide)

end Vart
