import Vart.Core.Errno
import Vart.Lib.Bits
import Vart.Lib.Port

/-!
# Split virtqueues (`hw/virtio/virtio.c`)

A queue is three areas of guest memory: descriptors, the available ring that the driver fills and
the used ring that the device fills. The device reaches them through the DMA calls it is given
(`VirtioDmaOps`).

* `virtioQueuePop` takes the next chain of descriptors from the available ring.
* `virtioQueuePushUsed` announces a chain in the used ring.

A ready queue has passed the checks of `virtioQueueConfigure`; `VirtioQueue.wf` keeps that.
`virtioQueuePop_view` and `virtioQueuePushUsed_view` say what the two calls do to memory: a pop
changes nothing, and a push changes only the used ring.
-/

namespace Vart

open Lib

/-! ## Constants -/

abbrev virtioDescriptorSize : Nat := 16
abbrev virtioAvailableHeaderSize : Nat := 4
abbrev virtioUsedHeaderSize : Nat := 4
abbrev virtioUsedElementSize : Nat := 8
abbrev virtioStatusMask : Nat := 0xcf
abbrev virtioDescFNext : Nat := 1
abbrev virtioDescFWrite : Nat := 2
abbrev virtioDescFIndirect : Nat := 4
abbrev virtioDescFMask : Nat := 7
abbrev virtioMaxQueueSize : Nat := 1024
abbrev virtioMaxQueues : Nat := 256

/-! ## Devices and their queues -/

/-- The DMA callbacks of a device on a machine state. -/
abbrev VirtioDmaOps (σ : Type) := Port σ Errno

structure VirtioDescriptor where
  address : Nat
  length : Nat
  flags : Nat
  next : Nat
  length_lt : length < 2 ^ 32
deriving DecidableEq, Repr

/-- The buffer of a descriptor. -/
def VirtioDescriptor.seg (d : VirtioDescriptor) : Seg := ⟨d.address, d.length⟩

structure VirtioChain where
  head : Nat
  descriptors : List VirtioDescriptor
deriving DecidableEq, Repr

/-- `virtio_address_range_valid`. -/
def virtioAddressRangeValid (address size : Nat) : Bool :=
  size == 0 || decide (address ≤ uint64Max - (size - 1))

theorem virtioAddressRangeValid_iff {address size : Nat} (hpos : 0 < size) (hle : size ≤ 2 ^ 64) :
    virtioAddressRangeValid address size = true ↔ address + size ≤ 2 ^ 64 := by
  simp only [virtioAddressRangeValid, uint64Max, Bool.or_eq_true, beq_iff_eq, decide_eq_true_eq]
  omega

/-- What `vart_virtio_queue_configure` accepts. -/
structure QueueLayout (size descriptorAddress availableAddress usedAddress : Nat) : Prop where
  size_pos : 0 < size
  size_le : size ≤ virtioMaxQueueSize
  size_pow : size &&& (size - 1) = 0
  descriptor_aligned : descriptorAddress &&& 15 = 0
  available_aligned : availableAddress &&& 1 = 0
  used_aligned : usedAddress &&& 3 = 0
  descriptor_end : descriptorAddress + size * virtioDescriptorSize ≤ 2 ^ 64
  available_end : availableAddress + (virtioAvailableHeaderSize + size * 2) ≤ 2 ^ 64
  used_end : usedAddress + (virtioUsedHeaderSize + size * virtioUsedElementSize) ≤ 2 ^ 64

theorem QueueLayout.of_checks {size descriptorAddress availableAddress usedAddress : Nat}
    (h : ¬(size = 0 ∨ size > virtioMaxQueueSize ∨ size &&& (size - 1) ≠ 0 ∨
      descriptorAddress &&& 15 ≠ 0 ∨ availableAddress &&& 1 ≠ 0 ∨ usedAddress &&& 3 ≠ 0))
    (hrange : ¬(!virtioAddressRangeValid descriptorAddress (size * virtioDescriptorSize) ||
      !virtioAddressRangeValid availableAddress (virtioAvailableHeaderSize + size * 2) ||
      !virtioAddressRangeValid usedAddress
        (virtioUsedHeaderSize + size * virtioUsedElementSize)) = true) :
    QueueLayout size descriptorAddress availableAddress usedAddress := by
  simp only [not_or, Decidable.not_not, Nat.not_lt] at h
  simp only [Bool.or_eq_true, Bool.not_eq_true', not_or, Bool.not_eq_false] at hrange
  obtain ⟨h0, hle, hpow, hdescriptor, havailable, hused⟩ := h
  refine ⟨Nat.pos_of_ne_zero h0, hle, hpow, hdescriptor, havailable, hused, ?_, ?_, ?_⟩
  all_goals simp only [virtioMaxQueueSize, virtioDescriptorSize, virtioAvailableHeaderSize,
    virtioUsedHeaderSize, virtioUsedElementSize] at *
  · exact (virtioAddressRangeValid_iff (by omega) (by omega)).mp hrange.1.1
  · exact (virtioAddressRangeValid_iff (by omega) (by omega)).mp hrange.1.2
  · exact (virtioAddressRangeValid_iff (by omega) (by omega)).mp hrange.2

/-- `VartVirtioQueue`. The DMA callbacks are the same for all queues of a device. -/
structure VirtioQueue where
  size : Nat
  lastAvail : UInt16
  nextUsed : UInt16
  descriptorAddress : Nat
  availableAddress : Nat
  usedAddress : Nat
  ready : Bool
  wf : ready = true → QueueLayout size descriptorAddress availableAddress usedAddress

/-- A queue after `calloc`. -/
def VirtioQueue.zero : VirtioQueue := ⟨0, 0, 0, 0, 0, 0, false, nofun⟩

/-- The memory of the used ring. -/
def VirtioQueue.usedSeg (q : VirtioQueue) : Seg :=
  ⟨q.usedAddress, virtioUsedHeaderSize + q.size * virtioUsedElementSize⟩

/-- `VartVirtioDevice`; `queue_count` is the length of `queues`. -/
structure VirtioDevice where
  deviceId : Nat
  deviceFeatures : Nat
  driverFeatures : Nat
  status : Nat
  queues : List VirtioQueue

def VirtioDevice.setQueue (dev : VirtioDevice) (index : Nat) (q : VirtioQueue) : VirtioDevice :=
  { dev with queues := dev.queues.set index q }

/-- `vart_virtio_device_init`. -/
def virtioDeviceInit (deviceId deviceFeatures queueCount : Nat) : Except Errno VirtioDevice :=
  if queueCount = 0 ∨ queueCount > virtioMaxQueues then .error .einval
  else .ok ⟨deviceId, deviceFeatures, 0, 0, List.replicate queueCount .zero⟩

/-- `vart_virtio_device_set_features`. -/
def virtioDeviceSetFeatures (dev : VirtioDevice) (driverFeatures : Nat) :
    Except Errno VirtioDevice :=
  if andNot driverFeatures dev.deviceFeatures ≠ 0 then .error .einval
  else .ok { dev with driverFeatures }

/-- `vart_virtio_device_set_status`. -/
def virtioDeviceSetStatus (dev : VirtioDevice) (status : Nat) : Except Errno VirtioDevice :=
  if andNot status virtioStatusMask ≠ 0 then .error .einval
  else if status = 0 then
    .ok { dev with
      queues := dev.queues.map fun q =>
        { q with ready := false, lastAvail := 0, nextUsed := 0, wf := nofun }
      driverFeatures := 0
      status }
  else .ok { dev with status }

/-- `vart_virtio_queue_configure`. -/
def virtioQueueConfigure (dev : VirtioDevice)
    (index size descriptorAddress availableAddress usedAddress : Nat) :
    Except Errno VirtioDevice :=
  match dev.queues[index]? with
  | none => .error .einval
  | some q =>
    if h : size = 0 ∨ size > virtioMaxQueueSize ∨ size &&& (size - 1) ≠ 0 ∨
        descriptorAddress &&& 15 ≠ 0 ∨ availableAddress &&& 1 ≠ 0 ∨ usedAddress &&& 3 ≠ 0 then
      .error .einval
    else if q.ready then .error .ebusy
    else if hrange : !virtioAddressRangeValid descriptorAddress (size * virtioDescriptorSize) ||
        !virtioAddressRangeValid availableAddress (virtioAvailableHeaderSize + size * 2) ||
        !virtioAddressRangeValid usedAddress
          (virtioUsedHeaderSize + size * virtioUsedElementSize) then .error .eoverflow
    else .ok (dev.setQueue index {
      size, descriptorAddress, availableAddress, usedAddress
      lastAvail := 0
      nextUsed := 0
      ready := true
      wf := fun _ => .of_checks h hrange })

/-- `vart_virtio_queue_reset`. -/
def virtioQueueReset (dev : VirtioDevice) (index : Nat) : Except Errno VirtioDevice :=
  match dev.queues[index]? with
  | none => .error .einval
  | some q =>
    .ok (dev.setQueue index
      { q with ready := false, size := 0, lastAvail := 0, nextUsed := 0, wf := nofun })

/-- `virtio_queue_get`. -/
def virtioQueueGet (dev : VirtioDevice) (index : Nat) : Except Errno VirtioQueue :=
  match dev.queues[index]? with
  | none => .error .einval
  | some q => if !q.ready then .error .enodev else .ok q

/-! ## Chains -/

/-- A descriptor from its 16 bytes. -/
def virtioDescriptor (raw : List UInt8) : VirtioDescriptor where
  address := loadLe (raw.take 8)
  length := loadLe ((raw.drop 8).take 4)
  flags := loadLe ((raw.drop 12).take 2)
  next := loadLe ((raw.drop 14).take 2)
  length_lt := (loadLe_lt _).trans_le (Nat.pow_le_pow_right (by decide) (List.length_take_le _ _))

/-- The loop of `vart_virtio_queue_pop`: `room` descriptors still fit into the chain. -/
def virtioChainLoop {σ : Type} (dma : VirtioDmaOps σ) (q : VirtioQueue) :
    (room : Nat) → σ → (visited : List Nat) → (index : Nat) →
      σ × Except Errno (List VirtioDescriptor)
  | 0, s, _, _ => (s, .error .eproto)
  | room + 1, s, visited, index =>
    if index ∈ visited then (s, .error .eloop)
    else match dma.read s ((q.descriptorAddress + index * virtioDescriptorSize) % 2 ^ 64)
        virtioDescriptorSize with
    | (s, .error e) => (s, .error e)
    | (s, .ok raw) =>
      let d := virtioDescriptor raw
      if d.flags &&& virtioDescFIndirect ≠ 0 then (s, .error .enotsup)
      else if andNot d.flags virtioDescFMask ≠ 0 then (s, .error .eproto)
      else if d.flags &&& virtioDescFNext = 0 then (s, .ok [d])
      -- `count == VART_VIRTIO_MAX_QUEUE_SIZE`
      else if d.next ≥ q.size ∨ room = 0 then (s, .error .eproto)
      else match virtioChainLoop dma q room s (index :: visited) d.next with
        | (s, .error e) => (s, .error e)
        | (s, .ok ds) => (s, .ok (d :: ds))

/-- `vart_virtio_queue_pop`: the device and the chain. A failing pop leaves the device as it is. -/
def virtioQueuePop {σ : Type} (dma : VirtioDmaOps σ) (s : σ) (dev : VirtioDevice) (index : Nat) :
    σ × Except Errno (VirtioDevice × VirtioChain) :=
  match virtioQueueGet dev index with
  | .error e => (s, .error e)
  | .ok q =>
    match dma.read s ((q.availableAddress + 2) % 2 ^ 64) 2 with
    | (s, .error e) => (s, .error e)
    | (s, .ok raw) =>
      let availableIndex := UInt16.ofNat (loadLe raw)
      if availableIndex = q.lastAvail then (s, .error .eagain)
      else if (availableIndex - q.lastAvail).toNat > q.size then (s, .error .eproto)
      else match dma.read s ((q.availableAddress + virtioAvailableHeaderSize +
          q.lastAvail.toNat % q.size * 2) % 2 ^ 64) 2 with
      | (s, .error e) => (s, .error e)
      | (s, .ok raw) =>
        let head := loadLe raw
        if head ≥ q.size then (s, .error .eproto)
        else match virtioChainLoop dma q virtioMaxQueueSize s [] head with
          | (s, .error e) => (s, .error e)
          | (s, .ok descriptors) =>
            (s, .ok (dev.setQueue index { q with lastAvail := q.lastAvail + 1 },
              ⟨head, descriptors⟩))

/-- `vart_virtio_queue_push_used`. -/
def virtioQueuePushUsed {σ : Type} (dma : VirtioDmaOps σ) (s : σ) (dev : VirtioDevice)
    (index head length : Nat) : σ × VirtioDevice × Status :=
  match virtioQueueGet dev index with
  | .error e => (s, dev, .error e)
  | .ok q =>
    if head ≥ q.size then (s, dev, .error .einval)
    else match dma.write s ((q.usedAddress + virtioUsedHeaderSize +
        q.nextUsed.toNat % q.size * virtioUsedElementSize) % 2 ^ 64)
        (storeLe 4 head ++ storeLe 4 length) with
    | (s, .error e) => (s, dev, .error e)
    | (s, .ok _) =>
      let dev := dev.setQueue index { q with nextUsed := q.nextUsed + 1 }
      match dma.write s ((q.usedAddress + 2) % 2 ^ 64) (storeLe 2 (q.nextUsed + 1).toNat) with
      | (s, .error e) => (s, dev, .error e)
      | (s, .ok _) => (s, dev, .ok ())

/-! ## What the calls do to memory -/

section View

variable {σ : Type} {dma : VirtioDmaOps σ} (v : dma.View)

theorem virtioQueueGet_ok {dev : VirtioDevice} {index : Nat} {q : VirtioQueue}
    (h : virtioQueueGet dev index = .ok q) : dev.queues[index]? = some q ∧ q.ready = true := by
  unfold virtioQueueGet at h
  split at h
  · cases h
  · rename_i hq
    split at h
    · cases h
    · rename_i hready
      cases h
      exact ⟨hq, by simpa using hready⟩

/-- The queue that was put last. -/
theorem virtioQueueGet_setQueue {dev : VirtioDevice} {index : Nat} {q q' : VirtioQueue}
    (h : virtioQueueGet dev index = .ok q) (hready : q'.ready = true) :
    virtioQueueGet (dev.setQueue index q') index = .ok q' := by
  obtain ⟨hq, -⟩ := virtioQueueGet_ok h
  obtain ⟨hlt, -⟩ := List.getElem?_eq_some_iff.mp hq
  simp [virtioQueueGet, VirtioDevice.setQueue, List.getElem?_set_self hlt, hready]

theorem virtioChainLoop_view {q : VirtioQueue} {room index : Nat} {visited : List Nat} {s t : σ}
    {ds : List VirtioDescriptor} (hs : v.Inv s)
    (h : virtioChainLoop dma q room s visited index = (t, .ok ds)) :
    v.Inv t ∧ Set.EqOn (v.byte t) (v.byte s) v.dom := by
  induction room generalizing s visited index ds with
  | zero => cases h
  | succ room ih =>
    unfold virtioChainLoop at h
    split at h
    · cases h
    split at h
    · cases h
    rename_i u raw hread
    obtain ⟨hu, hbyte⟩ := v.read_ok hs hread
    extract_lets d at h
    split at h
    · cases h
    split at h
    · cases h
    split at h
    · cases h
      exact ⟨hu, hbyte⟩
    split at h
    · cases h
    split at h
    · cases h
    rename_i hrest
    cases h
    obtain ⟨ht, hbyte'⟩ := ih hu hrest
    exact ⟨ht, hbyte'.trans hbyte⟩

/-- A pop moves `last_avail` and changes no byte. -/
theorem virtioQueuePop_view {dev dev' : VirtioDevice} {index : Nat} {s t : σ}
    {chain : VirtioChain} (hs : v.Inv s)
    (h : virtioQueuePop dma s dev index = (t, .ok (dev', chain))) :
    v.Inv t ∧ Set.EqOn (v.byte t) (v.byte s) v.dom ∧
      ∃ q, virtioQueueGet dev index = .ok q ∧
        dev' = dev.setQueue index { q with lastAvail := q.lastAvail + 1 } := by
  unfold virtioQueuePop at h
  split at h
  · cases h
  rename_i q hq
  split at h
  · cases h
  rename_i u raw hread
  obtain ⟨hu, hbyte⟩ := v.read_ok hs hread
  extract_lets availableIndex at h
  split at h
  · cases h
  split at h
  · cases h
  split at h
  · cases h
  rename_i u' raw' hread'
  obtain ⟨hu', hbyte'⟩ := v.read_ok hu hread'
  extract_lets head at h
  split at h
  · cases h
  split at h
  · cases h
  rename_i t' ds hloop
  cases h
  obtain ⟨ht, hbyte''⟩ := virtioChainLoop_view v hu' hloop
  exact ⟨ht, (hbyte''.trans hbyte').trans hbyte, q, hq, rfl⟩

/-- A push changes only bytes of the used ring. -/
theorem virtioQueuePushUsed_view {dev dev' : VirtioDevice} {index head length : Nat} {s t : σ}
    {q : VirtioQueue} (hs : v.Inv s) (hq : virtioQueueGet dev index = .ok q)
    (h : virtioQueuePushUsed dma s dev index head length = (t, dev', .ok ())) :
    v.Inv t ∧ Set.EqOn (v.byte t) (v.byte s) (v.dom \ q.usedSeg.range) := by
  have hlayout := q.wf (virtioQueueGet_ok hq).2
  have hpos := hlayout.size_pos
  have hend := hlayout.used_end
  -- The element lies in the ring, and no address in the ring wraps.
  have helement : q.nextUsed.toNat % q.size < q.size := Nat.mod_lt _ hpos
  simp only [virtioUsedHeaderSize, virtioUsedElementSize] at hend
  unfold virtioQueuePushUsed at h
  simp only [hq] at h
  split at h
  · cases h
  split at h
  · cases h
  rename_i u hwrite
  split at h
  · cases h
  rename_i t' hwrite'
  cases h
  simp only [virtioUsedHeaderSize, virtioUsedElementSize] at hwrite
  rw [Nat.mod_eq_of_lt (by omega)] at hwrite hwrite'
  obtain ⟨hu, hbyte⟩ := v.write_inside (g := q.usedSeg) hs hwrite
    (by simp only [VirtioQueue.usedSeg]; omega)
    (by simp only [VirtioQueue.usedSeg, List.length_append, length_storeLe, virtioUsedHeaderSize,
      virtioUsedElementSize]; omega)
  obtain ⟨ht, hbyte'⟩ := v.write_inside (g := q.usedSeg) hu hwrite'
    (by simp only [VirtioQueue.usedSeg]; omega)
    (by simp only [VirtioQueue.usedSeg, length_storeLe, virtioUsedHeaderSize,
      virtioUsedElementSize]; omega)
  exact ⟨ht, hbyte'.trans hbyte⟩

end View

end Vart
