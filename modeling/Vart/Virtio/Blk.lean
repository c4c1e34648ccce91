import Vart.Lib.Drain
import Vart.Virtio.Net

/-!
# Requests of virtio-blk (`hw/virtio/virtio-blk.c`)

A notification takes chains from queue `0` until there is none, performs each request on the file
behind the device and gives the chain back. A request is a header, data buffers and a status byte.

The memory calls are the parameter `dma`, so that the guest may do anything between them; the calls
of the host (`malloc`, `pread`, `pwrite`, `fsync`) are those of a `BlkHost` on a state of its own.
The log in `BlkSystem` is not part of the program: it lists the chains taken and given back and the
interrupts.
-/

namespace Vart

open Lib

abbrev virtioBlkSectorSize : Nat := 512
abbrev virtioBlkMaxSegment : Nat := 2 ^ 20
abbrev virtioBlkRequestHeaderSize : Nat := 16
abbrev virtioBlkFFlush : Nat := 9

/-- `VIRTIO_BLK_T_IN`, `VIRTIO_BLK_T_OUT` and `VIRTIO_BLK_T_FLUSH`. -/
abbrev virtioBlkTIn : Nat := 0
abbrev virtioBlkTOut : Nat := 1
abbrev virtioBlkTFlush : Nat := 4

abbrev virtioBlkSOk : UInt8 := 0
abbrev virtioBlkSIoerr : UInt8 := 1
abbrev virtioBlkSUnsupp : UInt8 := 2

/-! ## The device and its host -/

/-- The calls of the host. A read or a write may be short; no bytes mean the end of the file. -/
structure BlkHost (η : Type) where
  malloc : η → (size : Nat) → η × Bool
  pread : η → (offset length : Nat) → η × Except Errno { bs : List UInt8 // bs.length ≤ length }
  pwrite : η → (offset : Nat) → (data : List UInt8) →
    η × Except Errno { n : Nat // n ≤ data.length }
  fsync : η → η × Status

/-- `VartVirtioBlkDevice`. -/
structure VirtioBlkDevice where
  pci : VirtioPciDevice
  capacitySectors : Nat
  readonly : Bool

structure BlkSystem (η : Type) where
  system : IommuSystem
  host : η
  blk : VirtioBlkDevice
  log : List (DrainEvent Nat)

/-! ## File access -/

/-- The loop of `pread` calls. Each one gives a byte at least, so that `length` rounds are
enough. -/
def virtioBlkPread {η : Type} (h : BlkHost η) : (fuel : Nat) → η → (offset length : Nat) →
    η × Except Errno (List UInt8)
  | 0, s, _, _ => (s, .ok [])
  | fuel + 1, s, offset, length =>
    if length = 0 then (s, .ok [])
    else match h.pread s offset length with
    | (s, .error e) => (s, .error e)
    | (s, .ok bs) =>
      if bs.val.length = 0 then (s, .error .eio)
      else match virtioBlkPread h fuel s (offset + bs.val.length) (length - bs.val.length) with
        | (s, .error e) => (s, .error e)
        | (s, .ok rest) => (s, .ok (bs.val ++ rest))

/-- The loop of `pwrite` calls. -/
def virtioBlkPwrite {η : Type} (h : BlkHost η) : (fuel : Nat) → η → (offset : Nat) →
    (data : List UInt8) → η × Status
  | 0, s, _, _ => (s, .ok ())
  | fuel + 1, s, offset, data =>
    if data.length = 0 then (s, .ok ())
    else match h.pwrite s offset data with
    | (s, .error e) => (s, .error e)
    | (s, .ok n) =>
      if n.val = 0 then (s, .error .eio)
      else virtioBlkPwrite h fuel s (offset + n.val) (data.drop n.val)

/-- `virtio_blk_offset_valid`: the byte offset of `bytes` bytes at a sector. Every `uint64_t` is an
`off_t` again after the conversion, so that the last check of the source never fails. -/
def virtioBlkOffsetValid (blk : VirtioBlkDevice) (sector bytes : Nat) : Option Nat :=
  if sector > uint64Max / virtioBlkSectorSize then none
  else if blk.capacitySectors > uint64Max / virtioBlkSectorSize then none
  else
    let byteOffset := sector * virtioBlkSectorSize
    let capacityBytes := blk.capacitySectors * virtioBlkSectorSize
    if byteOffset > uint64Max - bytes ∨ byteOffset + bytes > capacityBytes then none
    else some byteOffset

/-! ## Requests -/

/-- The first loop of `virtio_blk_io`: the number of bytes in the data buffers. -/
def virtioBlkTotal (toGuest : Bool) : List VirtioDescriptor → (total : Nat) → Except Errno Nat
  | [], total => .ok total
  | d :: ds, total =>
    if d.length = 0 ∨ d.length > virtioBlkMaxSegment ∨
        decide (d.flags &&& virtioDescFWrite ≠ 0) ≠ toGuest ∨ total > uint64Max - d.length then
      .error .einval
    else virtioBlkTotal toGuest ds (total + d.length)

/-- One data buffer: from the file to the guest, or back. -/
def virtioBlkSegment {η : Type} (h : BlkHost η) (dma : VirtioDmaOps IommuSystem) (toGuest : Bool)
    (d : VirtioDescriptor) (offset : Nat) (system : IommuSystem) (host : η) :
    (IommuSystem × η) × Status :=
  match h.malloc host d.length with
  | (host, false) => ((system, host), .error .enomem)
  | (host, true) =>
    if toGuest then
      match virtioBlkPread h d.length host offset d.length with
      | (host, .error e) => ((system, host), .error e)
      | (host, .ok buffer) =>
        match dma.write system d.address buffer with
        | (system, .error _) => ((system, host), .error .eio)
        | (system, .ok _) => ((system, host), .ok ())
    else
      match dma.read system d.address d.length with
      | (system, .error _) => ((system, host), .error .eio)
      | (system, .ok buffer) =>
        match virtioBlkPwrite h d.length host offset buffer with
        | (host, result) => ((system, host), result)

/-- The second loop of `virtio_blk_io`; `usedLength` counts the buffers that went well. -/
def virtioBlkSegments {η : Type} (h : BlkHost η) (dma : VirtioDmaOps IommuSystem)
    (toGuest : Bool) : List VirtioDescriptor → (offset usedLength : Nat) → IommuSystem → η →
      (IommuSystem × η) × Nat × Status
  | [], _, usedLength, system, host => ((system, host), usedLength, .ok ())
  | d :: ds, offset, usedLength, system, host =>
    match virtioBlkSegment h dma toGuest d offset system host with
    | ((system, host), .error e) => ((system, host), usedLength, .error e)
    | ((system, host), .ok _) =>
      virtioBlkSegments h dma toGuest ds (offset + d.length)
        ((usedLength + d.length) % 2 ^ 32) system host

/-- `virtio_blk_io` of the data buffers `ds`. -/
def virtioBlkIo {η : Type} (h : BlkHost η) (dma : VirtioDmaOps IommuSystem)
    (blk : VirtioBlkDevice) (ds : List VirtioDescriptor) (type sector : Nat)
    (system : IommuSystem) (host : η) : (IommuSystem × η) × Nat × Status :=
  let toGuest := decide (type = virtioBlkTIn)
  match virtioBlkTotal toGuest ds 0 with
  | .error e => ((system, host), 0, .error e)
  | .ok total =>
    if total = 0 ∨ total % virtioBlkSectorSize ≠ 0 ∨ total > uint32Max then
      ((system, host), 0, .error .einval)
    else match virtioBlkOffsetValid blk sector total with
    | none => ((system, host), 0, .error .einval)
    | some offset => virtioBlkSegments h dma toGuest ds offset 0 system host

/-- The request with the given type and sector: the length to report and the status byte. -/
def virtioBlkPerform {η : Type} (h : BlkHost η) (dma : VirtioDmaOps IommuSystem)
    (blk : VirtioBlkDevice) (ds : List VirtioDescriptor) (type sector : Nat)
    (system : IommuSystem) (host : η) : (IommuSystem × η) × Nat × UInt8 :=
  if type = virtioBlkTIn ∨ type = virtioBlkTOut then
    if type = virtioBlkTOut ∧ blk.readonly = true then ((system, host), 0, virtioBlkSIoerr)
    else match virtioBlkIo h dma blk ds type sector system host with
      | (m, usedLength, .error _) => (m, usedLength, virtioBlkSIoerr)
      | (m, usedLength, .ok _) => (m, usedLength, virtioBlkSOk)
  else if type = virtioBlkTFlush ∧ blk.pci.virtio.driverFeatures.testBit virtioBlkFFlush then
    match h.fsync host with
    | (host, .error _) => ((system, host), 0, virtioBlkSIoerr)
    | (host, .ok _) => ((system, host), 0, virtioBlkSOk)
  else ((system, host), 0, virtioBlkSUnsupp)

namespace BlkSystem

variable {η : Type}

def setVirtio (s : BlkSystem η) (virtio : VirtioDevice) : BlkSystem η :=
  { s with blk := { s.blk with pci := { s.blk.pci with virtio } } }

/-- `vart_virtio_queue_pop` of queue `0`. -/
def pop (dma : VirtioDmaOps IommuSystem) (s : BlkSystem η) :
    BlkSystem η × Except Errno VirtioChain :=
  match virtioQueuePop dma s.system s.blk.pci.virtio 0 with
  | (system, .error e) => ({ s with system }, .error e)
  | (system, .ok (virtio, chain)) =>
    ({ s with system, log := s.log ++ [DrainEvent.taken chain.head] }.setVirtio virtio, .ok chain)

/-- `vart_virtio_queue_push_used` to queue `0`. -/
def pushUsed (dma : VirtioDmaOps IommuSystem) (s : BlkSystem η) (head length : Nat) :
    BlkSystem η × Status :=
  match virtioQueuePushUsed dma s.system s.blk.pci.virtio 0 head length with
  | (system, virtio, .error e) => ({ s with system }.setVirtio virtio, .error e)
  | (system, virtio, .ok _) =>
    ({ s with system, log := s.log ++ [DrainEvent.done head] }.setVirtio virtio, .ok ())

end BlkSystem

/-- `virtio_blk_process_request`. -/
def virtioBlkProcessRequest {η : Type} (h : BlkHost η) (dma : VirtioDmaOps IommuSystem)
    (s : BlkSystem η) (chain : VirtioChain) : BlkSystem η × Status :=
  match chain.descriptors with
  | [] | [_] => (s, .error .eproto)
  | header :: d :: ds =>
    let status := (d :: ds).getLast (List.cons_ne_nil d ds)
    if header.length < virtioBlkRequestHeaderSize ∨ header.flags &&& virtioDescFWrite ≠ 0 ∨
        status.length = 0 ∨ status.flags &&& virtioDescFWrite = 0 then (s, .error .eproto)
    else match dma.read s.system header.address virtioBlkRequestHeaderSize with
    | (system, .error e) => ({ s with system }, .error e)
    | (system, .ok raw) =>
      match virtioBlkPerform h dma s.blk (d :: ds).dropLast (loadLe (raw.take 4))
          (loadLe (raw.drop 8)) system s.host with
      | ((system, host), usedLength, value) =>
        match dma.write system status.address [value] with
        | (system, .error e) => ({ s with system, host }, .error e)
        | (system, .ok _) => BlkSystem.pushUsed dma { s with system, host } chain.head usedLength

/-! ## The loop -/

def BlkSystem.raise {η : Type} (sink : Sink) (s : BlkSystem η) : BlkSystem η × Status :=
  match virtioPciRaiseQueueInterrupt sink s.system s.blk.pci 0 with
  | (system, pci, .error e) => ({ s with system, blk := { s.blk with pci } }, .error e)
  | (system, pci, .ok _) =>
    ({ s with system, blk := { s.blk with pci }, log := s.log ++ [.announced] }, .ok ())

/-- The calls in the loop of `virtio_blk_notify`. -/
def virtioBlkDrain {η : Type} (sink : Sink) (h : BlkHost η) (dma : VirtioDmaOps IommuSystem) :
    Drain (BlkSystem η) VirtioChain Errno where
  take := BlkSystem.pop dma
  empty e := decide (e = .eagain)
  handle := virtioBlkProcessRequest h dma
  announce := BlkSystem.raise sink

/-- `virtio_blk_notify`, if it returns within `fuel` rounds. -/
def virtioBlkNotify {η : Type} (sink : Sink) (h : BlkHost η) (dma : VirtioDmaOps IommuSystem)
    (fuel : Nat) (s : BlkSystem η) (index : Nat) : Option (BlkSystem η × Status) :=
  if index ≠ 0 then some (s, .error .einval)
  else (virtioBlkDrain sink h dma).run fuel false s

end Vart
