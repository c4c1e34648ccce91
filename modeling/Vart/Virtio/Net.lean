import Vart.Event.Loop
import Vart.Riscv.Machine
import Vart.Virtio.Queue

/-!
# Reception in virtio-net (`hw/virtio/virtio-net.c`)

The device reads one frame from its backend and keeps it in `rx_packet` until the guest has posted
a buffer. `virtioNetDeliverRx` takes a chain from queue `0`, writes a header and the frame to it,
announces it and raises the interrupt of the queue (`hw/virtio/virtio-pci.c`).

`NetSystem` is the device in its machine; the memory calls of the device are DMA transfers of its
PCI function (`virtioNetDma`). The field `rxReads` is not part of the program: it lists the ranges
of `rx_packet` that were copied to the guest, newest first.

* `RxPacket`: `rx_packet` and `rx_packet_length`, with the bytes behind the frame.
* `virtioNetReceiveLocked`: `virtio_net_receive_locked`.
* `virtioNetDeliverRx`: `virtio_net_deliver_rx`.
-/

namespace Vart

open Lib

abbrev virtioNetHdrSize : Nat := 12
abbrev virtioPciNoVector : Nat := 0xffff
abbrev uint16Max : Nat := 2 ^ 16 - 1

/-! ## Devices -/

/-- `VartVirtioPciDevice`: what the delivery of a queue interrupt uses. -/
structure VirtioPciDevice where
  /-- The PCI function. -/
  pci : Nat
  virtio : VirtioDevice
  /-- `msix_vector` of each `queue_state`. -/
  queueVectors : List Nat
  isrStatus : Nat
  initialised : Bool

/-- The frame that waits for a buffer. `data` is the memory from `rx_packet` on: the frame, what
`malloc` left behind it in the 65535 bytes of the allocation, and whatever comes after that. -/
structure RxPacket where
  data : Store
  length : Nat
  length_pos : 0 < length
  length_le : length ≤ uint16Max

/-- The bytes that the backend sent. -/
def RxPacket.frame (p : RxPacket) : List UInt8 := p.data.read 0 p.length

/-- `VartVirtioNetDevice`. -/
structure VirtioNetDevice where
  pci : VirtioPciDevice
  backendSource : EventSource
  rxPacket : Option RxPacket
  backendFd : Option Nat

structure NetSystem where
  system : IommuSystem
  net : VirtioNetDevice
  /-- Offset and length of each copy. -/
  rxReads : List (Nat × Nat)

/-- `virtio_net_dma_read` and `virtio_net_dma_write` of a device whose PCI function is `d`. The
guest does not write to memory during a transfer. -/
def virtioNetDma (sink : Sink) (d : Nat) : VirtioDmaOps IommuSystem where
  read s address size := pciDeviceDma sink s d quiet address (.read size)
  write s address data :=
    let r := pciDeviceDma sink s d quiet address (.write data)
    (r.1, r.2.map fun _ => ())

namespace NetSystem

def dma (s : NetSystem) (sink : Sink) : VirtioDmaOps IommuSystem := virtioNetDma sink s.net.pci.pci

def setVirtio (s : NetSystem) (virtio : VirtioDevice) : NetSystem :=
  { s with net := { s.net with pci := { s.net.pci with virtio } } }

/-- `free(rx_packet)`. -/
def dropPacket (s : NetSystem) : NetSystem := { s with net := { s.net with rxPacket := none } }

end NetSystem

/-! ## Interrupts and events -/

/-- `vart_virtio_pci_raise_queue_interrupt` up to the vector: the device with the ISR bit set, and
the vector of the queue. -/
def VirtioPciDevice.queueInterrupt (dev : VirtioPciDevice) (index : Nat) :
    Except Errno (VirtioPciDevice × Nat) :=
  if !dev.initialised || decide (index ≥ dev.virtio.queues.length) then .error .einval
  else .ok ({ dev with isrStatus := dev.isrStatus ||| 1 },
    dev.queueVectors.getD index virtioPciNoVector)

def virtioPciRaiseVector (sink : Sink) (pci : PciState) (d vector : Nat) : PciState × Status :=
  if vector = virtioPciNoVector ∨ (pci.devices d).msix.configured = false then (pci, .ok ())
  else pciDeviceRaiseMsix sink pci d vector

def virtioPciRaiseQueueInterrupt (sink : Sink) (system : IommuSystem) (dev : VirtioPciDevice)
    (index : Nat) : IommuSystem × VirtioPciDevice × Status :=
  match dev.queueInterrupt index with
  | .error e => (system, dev, .error e)
  | .ok (dev, vector) =>
    match virtioPciRaiseVector sink system.pci dev.pci vector with
    | (pci, r) => ({ system with pci }, dev, r)

def NetSystem.raiseQueueInterrupt (sink : Sink) (s : NetSystem) (index : Nat) :
    NetSystem × Status :=
  match virtioPciRaiseQueueInterrupt sink s.system s.net.pci index with
  | (system, pci, r) => ({ s with system, net := { s.net with pci } }, r)

def virtioNetSetRxInterest (s : NetSystem) (enabled : Bool) : NetSystem × Status :=
  if !s.net.backendSource.registered then (s, .ok ())
  else match eventModify s.net.backendSource (if enabled then eventRead else 0) with
    | (backendSource, result) => ({ s with net := { s.net with backendSource } }, result)

/-! ## Delivery -/

/-- The bytes that fit behind the header, from `capacity` bytes on: every descriptor is writable
and the sum is a `uint32_t`. -/
def virtioNetCapacity : List VirtioDescriptor → (capacity : Nat) → Except Errno Nat
  | [], capacity => .ok capacity
  | d :: ds, capacity =>
    if d.flags &&& virtioDescFWrite = 0 ∨ capacity > uint32Max - d.length then .error .eproto
    else virtioNetCapacity ds (capacity + d.length)

def virtioNetDmaWrite (sink : Sink) (s : NetSystem) (address : Nat) (data : List UInt8) :
    NetSystem × Status :=
  match (s.dma sink).write s.system address data with
  | (system, result) => ({ s with system }, result)

/-- A DMA write of `length` bytes from `rx_packet + offset` on. -/
def virtioNetCopy (sink : Sink) (s : NetSystem) (packet : RxPacket) (address offset length : Nat) :
    NetSystem × Status :=
  match virtioNetDmaWrite sink s address (packet.data.read offset length) with
  | (s, .error e) => (s, .error e)
  | (s, .ok _) => ({ s with rxReads := (offset, length) :: s.rxReads }, .ok ())

/-- The loop over the descriptors behind the first one. -/
def virtioNetCopyLoop (sink : Sink) (packet : RxPacket) :
    List VirtioDescriptor → NetSystem → (copied : Nat) → NetSystem × Status
  | [], s, _ => (s, .ok ())
  | d :: ds, s, copied =>
    match virtioNetCopy sink s packet d.address copied d.length with
    | (s, .error e) => (s, .error e)
    | (s, .ok _) => virtioNetCopyLoop sink packet ds s ((copied + d.length) % 2 ^ 32)

/-- The header and the frame, to the chain `d :: ds`. -/
def virtioNetCopyFrame (sink : Sink) (s : NetSystem) (packet : RxPacket) (d : VirtioDescriptor)
    (ds : List VirtioDescriptor) : NetSystem × Status :=
  match virtioNetDmaWrite sink s d.address (List.replicate virtioNetHdrSize 0) with
  | (s, .error e) => (s, .error e)
  | (s, .ok _) =>
    if d.length > virtioNetHdrSize then
      let length := d.length - virtioNetHdrSize
      match virtioNetCopy sink s packet ((d.address + virtioNetHdrSize) % 2 ^ 64) 0 length with
      | (s, .error e) => (s, .error e)
      | (s, .ok _) => virtioNetCopyLoop sink packet ds s length
    else virtioNetCopyLoop sink packet ds s 0

def virtioNetPushUsed (sink : Sink) (s : NetSystem) (head length : Nat) : NetSystem × Status :=
  match virtioQueuePushUsed (s.dma sink) s.system s.net.pci.virtio 0 head length with
  | (system, virtio, result) => (({ s with system }).setVirtio virtio, result)

/-- `virtio_net_deliver_rx`. -/
def virtioNetDeliverRx (sink : Sink) (s : NetSystem) : NetSystem × Status :=
  match s.net.rxPacket with
  | none => (s, .ok ())
  | some packet =>
    match virtioQueuePop (s.dma sink) s.system s.net.pci.virtio 0 with
    | (system, .error e) =>
      if e = .eagain ∨ e = .enodev then virtioNetSetRxInterest { s with system } false
      else ({ s with system }, .error e)
    | (system, .ok (virtio, chain)) =>
      let s := ({ s with system }).setVirtio virtio
      match chain.descriptors with
      | [] => (s, .error .eproto)
      | d :: ds =>
        if d.flags &&& virtioDescFWrite = 0 ∨ d.length < virtioNetHdrSize then (s, .error .eproto)
        else match virtioNetCapacity ds (d.length - virtioNetHdrSize) with
        | .error e => (s, .error e)
        | .ok capacity =>
          if capacity < packet.length then
            match virtioNetPushUsed sink s chain.head 0 with
            | (s, .error e) => (s, .error e)
            | (s, .ok _) => s.dropPacket.raiseQueueInterrupt sink 0
          else match virtioNetCopyFrame sink s packet d ds with
          | (s, .error e) => (s, .error e)
          | (s, .ok _) =>
            match virtioNetPushUsed sink s chain.head (virtioNetHdrSize + packet.length) with
            | (s, .error e) => (s, .error e)
            | (s, .ok _) =>
              match s.dropPacket.raiseQueueInterrupt sink 0 with
              | (s, .error e) => (s, .error e)
              | (s, .ok _) => virtioNetSetRxInterest s true

/-! ## Reception -/

/-- What `read(backend_fd, rx_packet, UINT16_MAX)` may return. -/
abbrev BackendFrame := { frame : List UInt8 // frame.length ≤ uint16Max }

/-- `rx_packet` after the frame was read into memory that held `heap`. -/
def RxPacket.ofFrame (heap : Store) (frame : BackendFrame) (h : frame.val ≠ []) : RxPacket where
  data := heap.write 0 frame.val
  length := frame.val.length
  length_pos := List.length_pos_iff.mpr h
  length_le := frame.property

/-- The bytes of the packet are those of the frame, whatever the memory held before. -/
@[simp] theorem RxPacket.frame_ofFrame (heap : Store) (frame : BackendFrame) (h : frame.val ≠ []) :
    (ofFrame heap frame h).frame = frame.val := Store.read_write_same heap 0 frame.val

/-- `virtio_net_receive_locked`. `alloc` is the memory that `malloc` returns, and `received` the
result of `read` after the calls that were interrupted. -/
def virtioNetReceiveLocked (sink : Sink) (s : NetSystem) (alloc : Option Store)
    (received : Except Errno BackendFrame) : NetSystem × Status :=
  if s.net.backendFd = none then (s, .ok ())
  else if s.net.rxPacket.isSome then virtioNetDeliverRx sink s
  else match alloc with
  | none => (s, .error .enomem)
  | some heap =>
    match received with
    | .error e => (s, if e = .eagain then .ok () else .error e)
    | .ok frame =>
      if h : frame.val = [] then (s, .error .epipe)
      else virtioNetDeliverRx sink
        { s with net := { s.net with rxPacket := some (.ofFrame heap frame h) } }

end Vart
