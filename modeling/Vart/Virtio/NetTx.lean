import Vart.Lib.Drain
import Vart.Virtio.Net

/-!
# Transmission in virtio-net (`hw/virtio/virtio-net.c`)

A notification of queue `1` takes chains until there is none, copies the frame behind the header of
each one to a buffer, writes it to the backend and gives the chain back.

As in virtio-blk, the memory calls are a parameter, the calls of the host work on a state of their
own, and a log lists the chains taken and given back and the interrupts.
-/

namespace Vart

open Lib

/-- The calls of the host: `malloc`, and `write` to the backend after the interrupted ones. -/
structure TxHost (η : Type) where
  malloc : η → (size : Nat) → η × Bool
  write : η → (packet : List UInt8) → η × Except Errno Nat

structure TxSystem (η : Type) where
  net : NetSystem
  host : η
  log : List (DrainEvent Nat)

/-- The bytes behind the header in the descriptors `ds`, from `length` on. -/
def virtioNetTxLength : List VirtioDescriptor → (length : Nat) → Except Errno Nat
  | [], length => .ok length
  | d :: ds, length =>
    if d.flags &&& virtioDescFWrite ≠ 0 then .error .eproto
    else if length > uint32Max - d.length then .error .eoverflow
    else virtioNetTxLength ds (length + d.length)

/-- The frame is read from the buffers, one after the other. -/
def virtioNetTxGather (dma : VirtioDmaOps IommuSystem) : List Seg → IommuSystem →
    IommuSystem × Except Errno (List UInt8)
  | [], system => (system, .ok [])
  | g :: gs, system =>
    match dma.read system g.address g.length with
    | (system, .error e) => (system, .error e)
    | (system, .ok data) =>
      match virtioNetTxGather dma gs system with
      | (system, .error e) => (system, .error e)
      | (system, .ok rest) => (system, .ok (data ++ rest))

/-- The buffers of a frame in the chain `d :: ds`: what is behind the header, if anything, and the
other descriptors. -/
def virtioNetTxSegs (d : VirtioDescriptor) (ds : List VirtioDescriptor) : List Seg :=
  (if d.length > virtioNetHdrSize then
    [⟨(d.address + virtioNetHdrSize) % 2 ^ 64, d.length - virtioNetHdrSize⟩] else []) ++
    ds.map VirtioDescriptor.seg

namespace TxSystem

variable {η : Type}

def setSystem (s : TxSystem η) (system : IommuSystem) : TxSystem η :=
  { s with net := { s.net with system } }

/-- `vart_virtio_queue_pop` of queue `1`. -/
def pop (dma : VirtioDmaOps IommuSystem) (s : TxSystem η) :
    TxSystem η × Except Errno VirtioChain :=
  match virtioQueuePop dma s.net.system s.net.net.pci.virtio 1 with
  | (system, .error e) => (s.setSystem system, .error e)
  | (system, .ok (virtio, chain)) =>
    ({ s with
      net := ({ s.net with system }).setVirtio virtio
      log := s.log ++ [.taken chain.head] }, .ok chain)

/-- `vart_virtio_queue_push_used` to queue `1`. -/
def pushUsed (dma : VirtioDmaOps IommuSystem) (s : TxSystem η) (head length : Nat) :
    TxSystem η × Status :=
  match virtioQueuePushUsed dma s.net.system s.net.net.pci.virtio 1 head length with
  | (system, virtio, .error e) =>
    ({ s with net := ({ s.net with system }).setVirtio virtio }, .error e)
  | (system, virtio, .ok _) =>
    ({ s with
      net := ({ s.net with system }).setVirtio virtio
      log := s.log ++ [.done head] }, .ok ())

def raise (sink : Sink) (s : TxSystem η) : TxSystem η × Status :=
  match s.net.raiseQueueInterrupt sink 1 with
  | (net, .error e) => ({ s with net }, .error e)
  | (net, .ok _) => ({ s with net, log := s.log ++ [.announced] }, .ok ())

end TxSystem

/-- A chain whose frame has `length` bytes, at least one: copy it, send it and give the chain
back. -/
def virtioNetTransmit {η : Type} (h : TxHost η) (dma : VirtioDmaOps IommuSystem) (s : TxSystem η)
    (chain : VirtioChain) (segs : List Seg) (length : Nat) : TxSystem η × Status :=
  match h.malloc s.host length with
  | (host, false) => ({ s with host }, .error .enomem)
  | (host, true) =>
    match virtioNetTxGather dma segs s.net.system with
    | (system, .error e) => ({ s with host }.setSystem system, .error e)
    | (system, .ok packet) =>
      match h.write host packet with
      | (host, .error e) => ({ s with host }.setSystem system, .error e)
      | (host, .ok written) =>
        if written ≠ length then ({ s with host }.setSystem system, .error .eio)
        else TxSystem.pushUsed dma ({ s with host }.setSystem system) chain.head length

/-- The body of the loop of `virtio_net_process_tx`. -/
def virtioNetProcessTxChain {η : Type} (h : TxHost η) (dma : VirtioDmaOps IommuSystem)
    (s : TxSystem η) (chain : VirtioChain) : TxSystem η × Status :=
  match chain.descriptors with
  | [] => (s, .error .eproto)
  | d :: ds =>
    if d.flags &&& virtioDescFWrite ≠ 0 ∨ d.length < virtioNetHdrSize then (s, .error .eproto)
    else match virtioNetTxLength ds (d.length - virtioNetHdrSize) with
    | .error e => (s, .error e)
    | .ok length =>
      if length = 0 then (s, .error .eproto)
      else virtioNetTransmit h dma s chain (virtioNetTxSegs d ds) length

/-- The calls in the loop of `virtio_net_process_tx`. -/
def virtioNetTxDrain {η : Type} (sink : Sink) (h : TxHost η) (dma : VirtioDmaOps IommuSystem) :
    Drain (TxSystem η) VirtioChain Errno where
  take := TxSystem.pop dma
  empty e := decide (e = .eagain)
  handle := virtioNetProcessTxChain h dma
  announce := TxSystem.raise sink

/-- `virtio_net_notify` of queue `1` with `virtio_net_process_tx`, if it returns within `fuel`
rounds. -/
def virtioNetNotifyTx {η : Type} (sink : Sink) (h : TxHost η) (dma : VirtioDmaOps IommuSystem)
    (fuel : Nat) (s : TxSystem η) : Option (TxSystem η × Status) :=
  if s.net.net.backendFd = none then some (s, .ok ())
  else (virtioNetTxDrain sink h dma).run fuel false s

end Vart
