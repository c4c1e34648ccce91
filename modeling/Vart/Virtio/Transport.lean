import Vart.Virtio.Blk

/-!
# The registers of a virtio function (`hw/virtio/virtio-pci.c`)

The driver reaches a virtio function through the windows of its BAR: the common configuration
(`virtioPciReadCommon`, `virtioPciWriteCommon`), the notification window, the ISR byte, which a read
clears, and the configuration of the device behind it.

What a notification makes the device do (`QueueWork`) is given from outside: it moves the positions
of queues and raises queue interrupts. `VirtioPciFunction.raise_asDevice` connects the registers with
the device of the queue models.
-/

namespace Vart

open Lib

/-! ## Constants -/

abbrev virtioPciCommonSize : Nat := 0x100
abbrev virtioPciNotifyOffset : Nat := 0x100
abbrev virtioPciIsrOffset : Nat := 0x200
abbrev virtioPciDeviceOffset : Nat := 0x300
abbrev virtioPciDeviceSize : Nat := 0x100
abbrev virtioPciNotifyMultiplier : Nat := 4

/-! ## State -/

structure VirtioPciQueueState where
  size : UInt16
  msixVector : UInt16
  descriptorAddress : Nat
  availableAddress : Nat
  usedAddress : Nat
deriving DecidableEq

/-- `virtio_pci_reset_queue_state`. -/
def VirtioPciQueueState.reset : VirtioPciQueueState := ⟨0, 0xffff, 0, 0, 0⟩

/-- `VartVirtioPciDevice`: the registers. -/
structure VirtioPciFunction where
  virtio : VirtioDevice
  queueState : List VirtioPciQueueState
  deviceFeatureSelect : UInt32
  driverFeatureSelect : UInt32
  queueSelect : UInt16
  configMsixVector : UInt16
  configGeneration : UInt8
  isrStatus : UInt8

/-- `vart_virtio_pci_device_init` without the PCI function. -/
def virtioPciFunctionInit (deviceId deviceFeatures queueCount : Nat) :
    Except Errno VirtioPciFunction :=
  if deviceId > 0xffff - 0x1040 ∨ queueCount = 0 then .error .einval
  else match virtioDeviceInit deviceId deviceFeatures queueCount with
  | .error e => .error e
  | .ok virtio => .ok {
      virtio
      queueState := List.replicate queueCount .reset
      deviceFeatureSelect := 0
      driverFeatureSelect := 0
      queueSelect := 0
      configMsixVector := 0xffff
      configGeneration := 1
      isrStatus := 0 }

namespace VirtioPciFunction

/-- The state of the queue that `queue_select` names. -/
def selected (dev : VirtioPciFunction) : VirtioPciQueueState :=
  dev.queueState.getD dev.queueSelect.toNat .reset

def updateSelected (dev : VirtioPciFunction) (f : VirtioPciQueueState → VirtioPciQueueState) :
    VirtioPciFunction :=
  { dev with queueState := dev.queueState.modify dev.queueSelect.toNat f }

/-- `queue_select` names no queue. -/
def outside (dev : VirtioPciFunction) : Prop := dev.queueSelect.toNat ≥ dev.virtio.queues.length

instance (dev : VirtioPciFunction) : Decidable dev.outside := inferInstanceAs (Decidable (_ ≥ _))

end VirtioPciFunction

/-! ## The common configuration -/

/-- The window of a 64-bit word that a select register names. Every number but `0` is the upper
half. -/
def readWindow (select : UInt32) (word : Nat) : Nat :=
  if select = 0 then word % 2 ^ 32 else (word >>> 32) % 2 ^ 32

/-- A 32-bit write to the lower half of a word. -/
def writeLow (word value : Nat) : Nat := word &&& 0xffffffff00000000 ||| value % 2 ^ 32

/-- A 32-bit write to the upper half. -/
def writeHigh (word value : Nat) : Nat := word &&& 0xffffffff ||| (value % 2 ^ 32) <<< 32

/-- `virtio_pci_read_common`. -/
def virtioPciReadCommon (dev : VirtioPciFunction) (offset size : Nat) : Except Errno Nat :=
  if size = 4 ∧ offset = 0x00 then .ok dev.deviceFeatureSelect.toNat
  else if size = 4 ∧ offset = 0x04 then
    .ok (readWindow dev.deviceFeatureSelect dev.virtio.deviceFeatures)
  else if size = 4 ∧ offset = 0x08 then .ok dev.driverFeatureSelect.toNat
  else if size = 4 ∧ offset = 0x0c then
    .ok (readWindow dev.driverFeatureSelect dev.virtio.driverFeatures)
  else if size = 2 ∧ offset = 0x10 then .ok dev.configMsixVector.toNat
  else if size = 2 ∧ offset = 0x12 then .ok dev.virtio.queues.length
  else if size = 1 ∧ offset = 0x14 then .ok dev.virtio.status
  else if size = 1 ∧ offset = 0x15 then .ok dev.configGeneration.toNat
  else if size = 2 ∧ offset = 0x16 then .ok dev.queueSelect.toNat
  else if size = 2 ∧ offset = 0x18 then
    if dev.outside then .error .einval
    else .ok (if dev.selected.size ≠ 0 then dev.selected.size.toNat else virtioMaxQueueSize)
  else if size = 2 ∧ offset = 0x1a then
    if dev.outside then .error .einval else .ok dev.selected.msixVector.toNat
  else if size = 2 ∧ offset = 0x1c then
    if dev.outside then .error .einval
    else .ok (dev.virtio.queues.getD dev.queueSelect.toNat .zero).ready.toNat
  else if size = 2 ∧ offset = 0x1e then .ok dev.queueSelect.toNat
  else if size = 4 ∧ (offset = 0x20 ∨ offset = 0x24 ∨ offset = 0x28 ∨ offset = 0x2c ∨
      offset = 0x30 ∨ offset = 0x34) then
    if dev.outside then .error .einval
    else if offset = 0x20 ∨ offset = 0x24 then
      .ok ((dev.selected.descriptorAddress >>> (if offset = 0x20 then 0 else 32)) % 2 ^ 32)
    else if offset = 0x28 ∨ offset = 0x2c then
      .ok ((dev.selected.availableAddress >>> (if offset = 0x28 then 0 else 32)) % 2 ^ 32)
    else .ok ((dev.selected.usedAddress >>> (if offset = 0x30 then 0 else 32)) % 2 ^ 32)
  else .error .einval

/-- The features that a write of `value` to the driver window asks for. -/
def VirtioPciFunction.askedFeatures (dev : VirtioPciFunction) (value : Nat) : Nat :=
  if dev.driverFeatureSelect = 0 then writeLow dev.virtio.driverFeatures value
  else writeHigh dev.virtio.driverFeatures value

/-- `virtio_pci_write_common`. -/
def virtioPciWriteCommon (dev : VirtioPciFunction) (offset size value : Nat) :
    VirtioPciFunction × Status :=
  if size = 4 ∧ offset = 0x00 then
    ({ dev with deviceFeatureSelect := UInt32.ofNat value }, .ok ())
  else if size = 4 ∧ offset = 0x08 then
    ({ dev with driverFeatureSelect := UInt32.ofNat value }, .ok ())
  else if size = 4 ∧ offset = 0x0c then
    match virtioDeviceSetFeatures dev.virtio (dev.askedFeatures value) with
    | .error e => (dev, .error e)
    | .ok virtio => ({ dev with virtio }, .ok ())
  else if size = 2 ∧ offset = 0x10 then
    ({ dev with configMsixVector := UInt16.ofNat value }, .ok ())
  else if size = 2 ∧ offset = 0x1a then
    if dev.outside then (dev, .error .einval)
    else (dev.updateSelected fun q => { q with msixVector := UInt16.ofNat value }, .ok ())
  else if size = 1 ∧ offset = 0x14 then
    match virtioDeviceSetStatus dev.virtio (value % 2 ^ 8) with
    | .error e => (dev, .error e)
    | .ok virtio =>
      if value = 0 then
        ({ dev with virtio, queueState := dev.queueState.map fun _ => .reset }, .ok ())
      else ({ dev with virtio }, .ok ())
  else if size = 2 ∧ offset = 0x16 then
    if value ≥ dev.virtio.queues.length then (dev, .error .einval)
    else ({ dev with queueSelect := UInt16.ofNat value }, .ok ())
  else if size = 2 ∧ offset = 0x18 then
    if dev.outside ∨ value = 0 ∨ value > virtioMaxQueueSize ∨ value &&& (value - 1) ≠ 0 then
      (dev, .error .einval)
    else (dev.updateSelected fun q => { q with size := UInt16.ofNat value }, .ok ())
  else if size = 2 ∧ offset = 0x1c then
    if dev.outside then (dev, .error .einval)
    else if value = 0 then
      match virtioQueueReset dev.virtio dev.queueSelect.toNat with
      | .error e => (dev, .error e)
      | .ok virtio => ({ dev with virtio }.updateSelected fun _ => .reset, .ok ())
    else if value ≠ 1 ∨ dev.selected.size = 0 then (dev, .error .einval)
    else
      match virtioQueueConfigure dev.virtio dev.queueSelect.toNat dev.selected.size.toNat
          dev.selected.descriptorAddress dev.selected.availableAddress
          dev.selected.usedAddress with
      | .error e => (dev, .error e)
      | .ok virtio => ({ dev with virtio }, .ok ())
  else if size = 4 ∧ (offset = 0x20 ∨ offset = 0x24 ∨ offset = 0x28 ∨ offset = 0x2c ∨
      offset = 0x30 ∨ offset = 0x34) then
    if dev.outside then (dev, .error .einval)
    else if offset = 0x20 then (dev.updateSelected fun q =>
      { q with descriptorAddress := writeLow q.descriptorAddress value }, .ok ())
    else if offset = 0x24 then (dev.updateSelected fun q =>
      { q with descriptorAddress := writeHigh q.descriptorAddress value }, .ok ())
    else if offset = 0x28 then (dev.updateSelected fun q =>
      { q with availableAddress := writeLow q.availableAddress value }, .ok ())
    else if offset = 0x2c then (dev.updateSelected fun q =>
      { q with availableAddress := writeHigh q.availableAddress value }, .ok ())
    else if offset = 0x30 then (dev.updateSelected fun q =>
      { q with usedAddress := writeLow q.usedAddress value }, .ok ())
    else (dev.updateSelected fun q =>
      { q with usedAddress := writeHigh q.usedAddress value }, .ok ())
  else (dev, .error .einval)

/-! ## Interrupts -/

namespace VirtioPciFunction

/-- The registers that the device model of the queues has, for the PCI function `pci`. -/
def asDevice (dev : VirtioPciFunction) (pci : Nat) : VirtioPciDevice :=
  ⟨pci, dev.virtio, dev.queueState.map (·.msixVector.toNat), dev.isrStatus.toNat, true⟩

/-- `vart_virtio_pci_raise_queue_interrupt` on the registers. The result is the vector for MSI-X. -/
def raiseQueueInterrupt (dev : VirtioPciFunction) (index : Nat) :
    VirtioPciFunction × Except Errno Nat :=
  match (dev.asDevice 0).queueInterrupt index with
  | .error e => (dev, .error e)
  | .ok (raised, vector) => ({ dev with isrStatus := UInt8.ofNat raised.isrStatus }, .ok vector)

/-- `vart_virtio_pci_raise_interrupt`. -/
def raiseInterrupt (dev : VirtioPciFunction) (configurationChange : Bool) :
    VirtioPciFunction × Except Errno UInt16 :=
  ({ dev with isrStatus := dev.isrStatus ||| if configurationChange then 2 else 1 },
    .ok (if configurationChange then dev.configMsixVector
      else (dev.queueState.getD 0 .reset).msixVector))

/-- The devices of the queue models raise their interrupts by the same registers. -/
theorem raise_asDevice (sink : Sink) (system : IommuSystem) (dev : VirtioPciFunction)
    (pci index : Nat) :
    (virtioPciRaiseQueueInterrupt sink system (dev.asDevice pci) index).2.1 =
      (dev.raiseQueueInterrupt index).1.asDevice pci := by
  by_cases hindex : dev.virtio.queues.length ≤ index <;>
    simp [virtioPciRaiseQueueInterrupt, raiseQueueInterrupt, VirtioPciDevice.queueInterrupt, asDevice,
      hindex]

end VirtioPciFunction

/-! ## The windows of the BAR -/

/-- What a device does for a notification: where it leaves `last_avail` and `next_used` of its
queues, the queues whose interrupt it raises, and what it returns. -/
structure QueueWork where
  lastAvail : Nat → UInt16
  nextUsed : Nat → UInt16
  raised : List Nat
  result : Status

/-- The callbacks of a device. `work` is what the next notification does, if there is a callback. -/
structure VirtioPciCallbacks where
  configRead : Option (Nat → Nat → Except Errno Nat)
  configWrite : Option (Nat → Nat → Nat → Status)
  work : Option (Nat → QueueWork)

namespace VirtioPciFunction

/-- The queues after the device has worked on them. -/
def moveQueues (dev : VirtioPciFunction) (work : QueueWork) : VirtioPciFunction :=
  { dev with virtio := { dev.virtio with queues := dev.virtio.queues.mapIdx fun i q =>
      { q with lastAvail := work.lastAvail i, nextUsed := work.nextUsed i } } }

def notified (dev : VirtioPciFunction) (work : QueueWork) : VirtioPciFunction :=
  work.raised.foldl (fun dev index => (dev.raiseQueueInterrupt index).1) (dev.moveQueues work)

end VirtioPciFunction

/-- `virtio_pci_bar_read`. -/
def virtioPciBarRead (calls : VirtioPciCallbacks) (dev : VirtioPciFunction) (offset size : Nat) :
    VirtioPciFunction × Except Errno Nat :=
  if offset < virtioPciCommonSize then (dev, virtioPciReadCommon dev offset size)
  else if offset ≥ virtioPciIsrOffset ∧ size = 1 ∧ offset < virtioPciIsrOffset + 1 then
    ({ dev with isrStatus := 0 }, .ok dev.isrStatus.toNat)
  else if offset ≥ virtioPciDeviceOffset ∧ offset < virtioPciDeviceOffset + virtioPciDeviceSize then
    if offset - virtioPciDeviceOffset + size > virtioPciDeviceSize then (dev, .error .einval)
    else match calls.configRead with
    | none => (dev, .ok 0)
    | some read => (dev, read (offset - virtioPciDeviceOffset) size)
  else (dev, .error .einval)

/-- `virtio_pci_bar_write`. -/
def virtioPciBarWrite (calls : VirtioPciCallbacks) (dev : VirtioPciFunction)
    (offset size value : Nat) : VirtioPciFunction × Status :=
  if offset < virtioPciCommonSize then virtioPciWriteCommon dev offset size value
  else if offset ≥ virtioPciNotifyOffset ∧
      offset < virtioPciNotifyOffset + dev.virtio.queues.length * virtioPciNotifyMultiplier then
    if size ≠ 2 ∧ size ≠ 4 then (dev, .error .einval)
    else if (offset - virtioPciNotifyOffset) % virtioPciNotifyMultiplier ≠ 0 then (dev, .ok ())
    else match calls.work with
    | none => (dev, .ok ())
    | some work =>
      let work := work ((offset - virtioPciNotifyOffset) / virtioPciNotifyMultiplier)
      (dev.notified work, work.result)
  else if offset ≥ virtioPciDeviceOffset ∧ offset < virtioPciDeviceOffset + virtioPciDeviceSize then
    if offset - virtioPciDeviceOffset + size > virtioPciDeviceSize then (dev, .error .einval)
    else match calls.configWrite with
    | none => (dev, .error .enosys)
    | some write => (dev, write (offset - virtioPciDeviceOffset) size value)
  else (dev, .error .einval)

/-! ## Steps -/

inductive VirtioPciOp where
  | read (calls : VirtioPciCallbacks) (offset size : Nat)
  | write (calls : VirtioPciCallbacks) (offset size value : Nat)
  | raiseQueue (index : Nat)
  | raise (configurationChange : Bool)

def virtioPciStep (dev : VirtioPciFunction) : VirtioPciOp → VirtioPciFunction
  | .read calls offset size => (virtioPciBarRead calls dev offset size).1
  | .write calls offset size value => (virtioPciBarWrite calls dev offset size value).1
  | .raiseQueue index => (dev.raiseQueueInterrupt index).1
  | .raise configurationChange => (dev.raiseInterrupt configurationChange).1

/-- A function right after its initialisation. -/
def VirtioPciFunction.Fresh (dev : VirtioPciFunction) : Prop :=
  ∃ deviceId deviceFeatures queueCount, deviceFeatures < 2 ^ 64 ∧
    virtioPciFunctionInit deviceId deviceFeatures queueCount = .ok dev

/-! ## What the calls change -/

/-- What a write to the common configuration can do. -/
inductive CommonWritten (dev : VirtioPciFunction) (offset size value : Nat) :
    VirtioPciFunction × Status → Prop
  | refused (e : Errno) : CommonWritten dev offset size value (dev, .error e)
  | deviceSelect (h : size = 4 ∧ offset = 0x00) : CommonWritten dev offset size value
      ({ dev with deviceFeatureSelect := UInt32.ofNat value }, .ok ())
  | driverSelect (h : size = 4 ∧ offset = 0x08) : CommonWritten dev offset size value
      ({ dev with driverFeatureSelect := UInt32.ofNat value }, .ok ())
  | features {virtio : VirtioDevice} (h : size = 4 ∧ offset = 0x0c)
      (hset : virtioDeviceSetFeatures dev.virtio (dev.askedFeatures value) = .ok virtio) :
      CommonWritten dev offset size value ({ dev with virtio }, .ok ())
  | configVector (h : size = 2 ∧ offset = 0x10) : CommonWritten dev offset size value
      ({ dev with configMsixVector := UInt16.ofNat value }, .ok ())
  | status {virtio : VirtioDevice} {queueState : List VirtioPciQueueState}
      (h : size = 1 ∧ offset = 0x14)
      (hset : virtioDeviceSetStatus dev.virtio (value % 2 ^ 8) = .ok virtio)
      (hlength : queueState.length = dev.queueState.length) :
      CommonWritten dev offset size value ({ dev with virtio, queueState }, .ok ())
  | queueSelect (h : size = 2 ∧ offset = 0x16) (hin : value < dev.virtio.queues.length) :
      CommonWritten dev offset size value ({ dev with queueSelect := UInt16.ofNat value }, .ok ())
  | queueState {queueState : List VirtioPciQueueState} (h : size = 2 ∨ offset ≥ 0x20)
      (hlength : queueState.length = dev.queueState.length) :
      CommonWritten dev offset size value ({ dev with queueState }, .ok ())
  | queue {index : Nat} (q : VirtioQueue) {queueState : List VirtioPciQueueState} (h : size = 2)
      (hlength : queueState.length = dev.queueState.length) : CommonWritten dev offset size value
        ({ dev with virtio := dev.virtio.setQueue index q, queueState }, .ok ())

theorem virtioQueueReset_setQueue {dev u : VirtioDevice} {index : Nat}
    (h : virtioQueueReset dev index = .ok u) : ∃ q, u = dev.setQueue index q := by
  unfold virtioQueueReset at h
  split at h
  · cases h
  · cases h
    exact ⟨_, rfl⟩

theorem virtioQueueConfigure_setQueue {dev u : VirtioDevice} {index size d a used : Nat}
    (h : virtioQueueConfigure dev index size d a used = .ok u) :
    ∃ q, u = dev.setQueue index q := by
  unfold virtioQueueConfigure at h
  split at h
  · cases h
  · split_ifs at h
    cases h
    exact ⟨_, rfl⟩

section

variable {dev : VirtioPciFunction} {offset size value : Nat}

theorem CommonWritten.ite {p : Prop} [Decidable p] {a b : VirtioPciFunction × Status}
    (ha : p → CommonWritten dev offset size value a)
    (hb : ¬p → CommonWritten dev offset size value b) :
    CommonWritten dev offset size value (if p then a else b) := by
  split
  · exact ha ‹_›
  · exact hb ‹_›

theorem CommonWritten.updateSelected (h : size = 2 ∨ offset ≥ 0x20)
    (f : VirtioPciQueueState → VirtioPciQueueState) :
    CommonWritten dev offset size value (dev.updateSelected f, .ok ()) :=
  .queueState h (List.length_modify ..)

end

theorem virtioPciWriteCommon_cases (dev : VirtioPciFunction) (offset size value : Nat) :
    CommonWritten dev offset size value (virtioPciWriteCommon dev offset size value) := by
  have hrefused : CommonWritten dev offset size value (dev, .error .einval) := .refused _
  unfold virtioPciWriteCommon
  refine .ite .deviceSelect fun _ => .ite .driverSelect fun _ => .ite (fun h => ?features) fun _ =>
    .ite .configVector fun _ =>
    .ite (fun h => .ite (fun _ => hrefused) fun _ => .updateSelected (.inl h.1) _) fun _ =>
    .ite (fun h => ?status) fun _ =>
    .ite (fun h => .ite (fun _ => hrefused) fun hin => .queueSelect h (Nat.lt_of_not_ge hin))
      fun _ =>
    .ite (fun h => .ite (fun _ => hrefused) fun _ => .updateSelected (.inl h.1) _) fun _ =>
    .ite (fun h => ?ready) fun _ => .ite (fun h => ?address) fun _ => hrefused
  case features =>
    cases hset : virtioDeviceSetFeatures dev.virtio (dev.askedFeatures value) with
    | error e => exact .refused e
    | ok virtio => exact .features h hset
  case status =>
    cases hset : virtioDeviceSetStatus dev.virtio (value % 2 ^ 8) with
    | error e => exact .refused e
    | ok virtio =>
      exact .ite (fun _ => .status h hset (List.length_map _)) fun _ => .status h hset rfl
  case ready =>
    refine .ite (fun _ => hrefused) fun _ => .ite (fun _ => ?reset) fun _ =>
      .ite (fun _ => hrefused) fun _ => ?configure
    case reset =>
      cases hreset : virtioQueueReset dev.virtio dev.queueSelect.toNat with
      | error e => exact .refused e
      | ok virtio =>
        obtain ⟨q, rfl⟩ := virtioQueueReset_setQueue hreset
        exact .queue q h.1 (List.length_modify ..)
    case configure =>
      cases hset : virtioQueueConfigure dev.virtio dev.queueSelect.toNat dev.selected.size.toNat
          dev.selected.descriptorAddress dev.selected.availableAddress
          dev.selected.usedAddress with
      | error e => exact .refused e
      | ok virtio =>
        obtain ⟨q, rfl⟩ := virtioQueueConfigure_setQueue hset
        exact .queue q h.1 rfl
  case address =>
    have hset : ∀ f, CommonWritten dev offset size value (dev.updateSelected f, .ok ()) :=
      .updateSelected (.inr (by omega))
    exact .ite (fun _ => hrefused) fun _ => .ite (fun _ => hset _) fun _ =>
      .ite (fun _ => hset _) fun _ => .ite (fun _ => hset _) fun _ =>
      .ite (fun _ => hset _) fun _ => .ite (fun _ => hset _) fun _ => hset _

theorem virtioPciBarWrite_common {calls : VirtioPciCallbacks} {dev : VirtioPciFunction}
    {offset : Nat} (h : offset < virtioPciCommonSize) (size value : Nat) :
    virtioPciBarWrite calls dev offset size value = virtioPciWriteCommon dev offset size value :=
  if_pos h

theorem virtioPciBarRead_common {calls : VirtioPciCallbacks} {dev : VirtioPciFunction}
    {offset : Nat} (h : offset < virtioPciCommonSize) (size : Nat) :
    virtioPciBarRead calls dev offset size = (dev, virtioPciReadCommon dev offset size) :=
  if_pos h

/-- `u` differs from `dev` at most in the ISR byte and inside its queues. -/
structure RegistersSame (dev u : VirtioPciFunction) : Prop where
  eq : u = { dev with virtio := { dev.virtio with queues := u.virtio.queues },
                      isrStatus := u.isrStatus }
  count : u.virtio.queues.length = dev.virtio.queues.length

namespace RegistersSame

variable {dev u v : VirtioPciFunction}

theorem refl (dev : VirtioPciFunction) : RegistersSame dev dev := ⟨rfl, rfl⟩

theorem trans (h : RegistersSame dev u) (h' : RegistersSame u v) : RegistersSame dev v := by
  refine ⟨?_, h'.count.trans h.count⟩
  rw [h'.eq, h.eq]

theorem isr (dev : VirtioPciFunction) (isrStatus : UInt8) :
    RegistersSame dev { dev with isrStatus } := ⟨rfl, rfl⟩

theorem raiseQueueInterrupt (dev : VirtioPciFunction) (index : Nat) :
    RegistersSame dev (dev.raiseQueueInterrupt index).1 := by
  rw [VirtioPciFunction.raiseQueueInterrupt]
  split
  · exact refl dev
  · exact isr dev _

theorem notified (dev : VirtioPciFunction) (work : QueueWork) :
    RegistersSame dev (dev.notified work) := by
  have hmoved : RegistersSame dev (dev.moveQueues work) := ⟨rfl, List.length_mapIdx⟩
  rw [VirtioPciFunction.notified]
  generalize dev.moveQueues work = moved at hmoved
  induction work.raised generalizing moved with
  | nil => exact hmoved
  | cons index rest ih => exact ih _ (hmoved.trans (raiseQueueInterrupt moved index))

end RegistersSame

def VirtioPciOp.CommonWrite : VirtioPciOp → Prop
  | .write _ offset _ _ => offset < virtioPciCommonSize
  | _ => False

/-- Only a write to the common configuration changes registers other than the ISR byte. -/
theorem registersSame_virtioPciStep (dev : VirtioPciFunction) {op : VirtioPciOp}
    (hop : ¬op.CommonWrite) : RegistersSame dev (virtioPciStep dev op) := by
  cases op with
  | read calls offset size =>
    simp only [virtioPciStep, virtioPciBarRead]
    split
    · exact .refl dev
    split
    · exact .isr dev 0
    split
    · split
      · exact .refl dev
      · split <;> exact .refl dev
    · exact .refl dev
  | write calls offset size value =>
    rw [VirtioPciOp.CommonWrite] at hop
    simp only [virtioPciStep, virtioPciBarWrite, if_neg hop]
    split
    · split
      · exact .refl dev
      split
      · exact .refl dev
      split
      · exact .refl dev
      · exact .notified dev _
    split
    · split
      · exact .refl dev
      · split <;> exact .refl dev
    · exact .refl dev
  | raiseQueue index => exact .raiseQueueInterrupt dev index
  | raise configurationChange => exact .isr dev _

/-- A property of the registers that holds after every step: it does not look at the ISR byte and
the queues, and writes to the common configuration keep it. -/
theorem virtioPciStep_keeps {P : VirtioPciFunction → Prop} {dev : VirtioPciFunction}
    (hsame : ∀ u, RegistersSame dev u → P u)
    (hwrite : ∀ offset size value r, CommonWritten dev offset size value r → P r.1)
    (op : VirtioPciOp) : P (virtioPciStep dev op) := by
  by_cases hop : op.CommonWrite
  · cases op with
    | write calls offset size value =>
      have hwritten := virtioPciWriteCommon_cases dev offset size value
      rw [← virtioPciBarWrite_common hop] at hwritten
      exact hwrite _ _ _ _ hwritten
    | read calls offset size => exact hop.elim
    | raiseQueue index => exact hop.elim
    | raise configurationChange => exact hop.elim
  · exact hsame _ (registersSame_virtioPciStep dev hop)

end Vart
