import Vart.Virtio.DmaView
import Vart.Virtio.NetTx

/-!
# Frames that virtio-net sends

A chain is one frame: its buffers one after the other, without the header. `virtioNetTxGather`
reads it as a list; in the program the reads go to a buffer of 32-bit length at a running offset.

* `VirtioChain.Transmittable`: the chains that have a frame. `virtioNetTxLength_ok_iff` is the
  32-bit sum of the lengths.
* `virtioNetTxCopyIn`: the reads with their places in the buffer, and `virtioNetTxCopyIn_eq`: none
  of them goes outside it, and together they fill it.
* `TxHost.recorded`: a host that keeps a list of the frames written to the backend.
-/

namespace Vart

open Lib

/-! ## The length of a frame -/

/-- The number of bytes in the buffers of the chain. -/
def VirtioChain.total (chain : VirtioChain) : Nat :=
  segsLength (chain.descriptors.map VirtioDescriptor.seg)

/-- The chain has a frame: its buffers are for reading, the first one has room for the header, and
the frame behind it has at least one byte and a 32-bit length. -/
structure VirtioChain.Transmittable (chain : VirtioChain) : Prop where
  readable : ∀ d ∈ chain.descriptors, d.flags &&& virtioDescFWrite = 0
  header : ∃ d, chain.descriptors.head? = some d ∧ virtioNetHdrSize ≤ d.length
  total_gt : virtioNetHdrSize < chain.total
  total_le : chain.total ≤ 2 ^ 32 + 11

theorem VirtioChain.Transmittable.descriptors {chain : VirtioChain} (h : chain.Transmittable) :
    ∃ d ds, chain.descriptors = d :: ds ∧ virtioNetHdrSize ≤ d.length := by
  obtain ⟨d, hd, hheader⟩ := h.header
  cases hds : chain.descriptors with
  | nil =>
    rw [hds] at hd
    cases hd
  | cons d' ds =>
    rw [hds] at hd
    cases hd
    exact ⟨d, ds, rfl, hheader⟩

/-- The buffers of the frame of a chain. -/
def VirtioChain.txSegs (chain : VirtioChain) : List Seg :=
  match chain.descriptors with
  | [] => []
  | d :: ds => virtioNetTxSegs d ds

/-- The sum is made if it has 32 bits and no buffer is for writing. -/
theorem virtioNetTxLength_ok_iff {ds : List VirtioDescriptor} {k length : Nat}
    (hk : k ≤ uint32Max) : virtioNetTxLength ds k = .ok length ↔
      (∀ d ∈ ds, d.flags &&& virtioDescFWrite = 0) ∧
      k + segsLength (ds.map VirtioDescriptor.seg) ≤ uint32Max ∧
      length = k + segsLength (ds.map VirtioDescriptor.seg) := by
  induction ds generalizing k with
  | nil =>
    simp only [virtioNetTxLength, List.map_nil, segsLength, List.sum_nil, Nat.add_zero]
    constructor
    · intro h
      cases h
      exact ⟨by simp, hk, rfl⟩
    · rintro ⟨-, -, rfl⟩
      rfl
  | cons d ds ih =>
    have hlength := d.length_lt
    have hsum : segsLength ((d :: ds).map VirtioDescriptor.seg) =
        d.length + segsLength (ds.map VirtioDescriptor.seg) := by
      simp [segsLength, VirtioDescriptor.seg]
    rw [virtioNetTxLength, hsum, List.forall_mem_cons]
    split
    · rename_i hwrite
      simp [hwrite]
    rename_i hwrite
    simp only [uint32Max] at hk ih ⊢
    split
    · constructor
      · intro h
        cases h
      · rintro ⟨-, hle, -⟩
        omega
    · rw [ih (by omega)]
      simp only [not_not.mp hwrite, true_and, Nat.add_assoc]

/-- The length is that of the frame exactly if the chain has one. -/
theorem transmittable_iff {chain : VirtioChain} {d : VirtioDescriptor}
    {ds : List VirtioDescriptor} (hchain : chain.descriptors = d :: ds) :
    chain.Transmittable ↔ ¬ (d.flags &&& virtioDescFWrite ≠ 0 ∨ d.length < virtioNetHdrSize) ∧
      virtioNetTxLength ds (d.length - virtioNetHdrSize) = .ok (chain.total - virtioNetHdrSize) ∧
      chain.total - virtioNetHdrSize ≠ 0 := by
  have hlength := d.length_lt
  have htotal : chain.total = d.length + segsLength (ds.map VirtioDescriptor.seg) := by
    simp [VirtioChain.total, hchain, segsLength, VirtioDescriptor.seg]
  rw [virtioNetTxLength_ok_iff (by simp only [uint32Max]; omega)]
  simp only [uint32Max, virtioNetHdrSize]
  constructor
  · intro h
    obtain ⟨d', hd', hheader⟩ := h.header
    rw [hchain] at hd'
    cases hd'
    have hreadable := h.readable
    rw [hchain, List.forall_mem_cons] at hreadable
    have hgt := h.total_gt
    have hle := h.total_le
    simp only [virtioNetHdrSize] at hheader hgt
    refine ⟨not_or.mpr ⟨not_not_intro hreadable.1, by omega⟩, ⟨hreadable.2, ?_, ?_⟩, ?_⟩ <;> omega
  · rintro ⟨hfirst, ⟨hreadable, hle, hsum⟩, hne⟩
    obtain ⟨hwrite, hheader⟩ := not_or.mp hfirst
    refine ⟨?_, ⟨d, by rw [hchain]; rfl, ?_⟩, ?_, ?_⟩
    · rw [hchain]
      exact List.forall_mem_cons.mpr ⟨not_not.mp hwrite, hreadable⟩
    · simp only [virtioNetHdrSize]
      omega
    · simp only [virtioNetHdrSize]
      omega
    · omega

/-! ## Copies -/

/-- The frame is read into `packet`, one buffer after the other, each one behind the `copied` bytes
that are there. There is no result if a read would go outside the packet. -/
def virtioNetTxCopyIn (dma : VirtioDmaOps IommuSystem) : List Seg → (packet : List UInt8) →
    (copied : Nat) → IommuSystem → Option (IommuSystem × Except Errno (List UInt8))
  | [], packet, _, system => some (system, .ok packet)
  | g :: gs, packet, copied, system =>
    if copied + g.length > packet.length then none
    else match dma.read system g.address g.length with
    | (system, .error e) => some (system, .error e)
    | (system, .ok data) =>
      virtioNetTxCopyIn dma gs (packet.take copied ++ data ++ packet.drop (copied + data.length))
        ((copied + g.length) % 2 ^ 32) system

section Memory

variable {dma : VirtioDmaOps IommuSystem} {Inv : IommuSystem → Prop} {byte : Store}

theorem virtioNetTxGather_ok (hreads : dma.Reads Inv byte) {segs : List Seg}
    {system system' : IommuSystem} {packet : List UInt8} (hs : Inv system)
    (h : virtioNetTxGather dma segs system = (system', .ok packet)) :
    packet = gather byte segs := by
  induction segs generalizing system packet with
  | nil =>
    cases h
    rfl
  | cons g gs ih =>
    obtain ⟨t, r, hread, ht, hok⟩ := hreads system hs g.address g.length
    rw [virtioNetTxGather, hread] at h
    cases r with
    | error e => cases h
    | ok data =>
      obtain ⟨u, r', hrest⟩ : ∃ u r', virtioNetTxGather dma gs t = (u, r') := ⟨_, _, rfl⟩
      simp only [hrest] at h
      cases r' with
      | error e => cases h
      | ok rest =>
        cases h
        rw [gather_cons, ih ht hrest, hok data rfl]

/-- No copy goes outside the packet, and together they fill it from `copied` on. -/
theorem virtioNetTxCopyIn_eq (hreads : dma.Reads Inv byte) {segs : List Seg} {packet : List UInt8}
    {copied : Nat} {system : IommuSystem} (hs : Inv system)
    (hlen : copied + segsLength segs = packet.length) (hlt : packet.length < 2 ^ 32) :
    virtioNetTxCopyIn dma segs packet copied system =
      some ((virtioNetTxGather dma segs system).1,
        (virtioNetTxGather dma segs system).2.map (packet.take copied ++ ·)) := by
  induction segs generalizing packet copied system with
  | nil =>
    have hfull : packet.take copied = packet := by
      rw [List.take_of_length_le]
      simp only [segsLength, List.map_nil, List.sum_nil] at hlen
      omega
    simp only [virtioNetTxCopyIn, virtioNetTxGather, Except.map, List.append_nil, hfull]
  | cons g gs ih =>
    have hsum := segsLength_cons g gs
    obtain ⟨t, r, hread, ht, hok⟩ := hreads system hs g.address g.length
    rw [virtioNetTxCopyIn, if_neg (by omega), virtioNetTxGather, hread]
    cases r with
    | error e => rfl
    | ok data =>
      have hdata : data.length = g.length := by rw [hok data rfl, Store.length_read]
      have hcopied : (copied + g.length) % 2 ^ 32 = copied + g.length :=
        Nat.mod_eq_of_lt (by omega)
      dsimp only
      rw [hcopied]
      -- The packet as it is after this copy.
      generalize hpacket : packet.take copied ++ data ++ packet.drop (copied + data.length) = packet'
      have hlen' : packet'.length = packet.length := by
        rw [← hpacket]
        simp only [List.length_append, List.length_take, List.length_drop]
        omega
      have htake : packet'.take (copied + g.length) = packet.take copied ++ data := by
        rw [← hpacket, List.take_left']
        rw [List.length_append, List.length_take]
        omega
      rw [ih ht (by omega) (by omega), htake]
      obtain ⟨u, e | rest⟩ := virtioNetTxGather dma gs t
      · rfl
      · simp only [Except.map, List.append_assoc]

/-- The buffers of the frame hold the buffers of the chain without the header. -/
theorem gather_txSegs {chain : VirtioChain} (h : chain.Transmittable)
    (hwrap : ∀ d ∈ chain.descriptors, d.address + d.length ≤ 2 ^ 64) :
    gather byte chain.txSegs =
      (gather byte (chain.descriptors.map VirtioDescriptor.seg)).drop virtioNetHdrSize := by
  obtain ⟨d, ds, hchain, hheader⟩ := h.descriptors
  have hend := hwrap d (by simp [hchain])
  have hsplit : byte.read d.address d.length = byte.read d.address virtioNetHdrSize ++
      byte.read (d.address + virtioNetHdrSize) (d.length - virtioNetHdrSize) := by
    rw [← Store.read_add, Nat.add_sub_cancel' hheader]
  have hfirst : gather byte (if d.length > virtioNetHdrSize then
      [⟨(d.address + virtioNetHdrSize) % 2 ^ 64, d.length - virtioNetHdrSize⟩] else []) =
      byte.read (d.address + virtioNetHdrSize) (d.length - virtioNetHdrSize) := by
    split
    · rw [Nat.mod_eq_of_lt (by omega), gather_cons]
      exact List.append_nil _
    · rw [Nat.sub_eq_zero_of_le (by omega)]
      rfl
  simp only [VirtioChain.txSegs, hchain, virtioNetTxSegs, List.map_cons, gather_cons,
    VirtioDescriptor.seg]
  rw [hsplit, List.append_assoc, List.drop_left' (by simp), ← hfirst]
  exact List.flatMap_append

end Memory

/-! ## Frames on the backend -/

/-- A host that keeps a list of the frames written to the backend. -/
def TxHost.recorded {η : Type} (h : TxHost η) : TxHost (η × List (List UInt8)) where
  malloc := fun (host, frames) size =>
    let (host, ok) := h.malloc host size
    ((host, frames), ok)
  write := fun (host, frames) packet =>
    let (host, result) := h.write host packet
    ((host, frames ++ [packet]), result)

section Frames

variable {η : Type} {h : TxHost η} {dma : VirtioDmaOps IommuSystem}
  {s : TxSystem (η × List (List UInt8))} {chain : VirtioChain}

theorem pushUsed_host (dma : VirtioDmaOps IommuSystem) (s : TxSystem η) (head length : Nat) :
    (TxSystem.pushUsed dma s head length).1.host = s.host := by
  unfold TxSystem.pushUsed
  split <;> rfl

/-- The buffer and the reads decide whether the frame is written. -/
theorem virtioNetTransmit_frames (segs : List Seg) (length : Nat) :
    (virtioNetTransmit h.recorded dma s chain segs length).1.host.2 = s.host.2 ++
      match (h.malloc s.host.1 length).2, (virtioNetTxGather dma segs s.net.system).2 with
      | true, .ok packet => [packet]
      | _, _ => [] := by
  unfold virtioNetTransmit
  obtain ⟨host, ok, hmalloc⟩ : ∃ host ok, h.malloc s.host.1 length = (host, ok) := ⟨_, _, rfl⟩
  have hrec : h.recorded.malloc s.host length = ((host, s.host.2), ok) := by
    simp only [TxHost.recorded, hmalloc]
  rw [hrec, hmalloc]
  cases ok with
  | false => simp
  | true =>
    obtain ⟨t, e | packet⟩ := virtioNetTxGather dma segs s.net.system
    · simp [TxSystem.setSystem]
    · obtain ⟨host', r, hwrite⟩ : ∃ host' r, h.write host packet = (host', r) := ⟨_, _, rfl⟩
      have hrec' : h.recorded.write (host, s.host.2) packet =
          ((host', s.host.2 ++ [packet]), r) := by
        simp only [TxHost.recorded, hwrite]
      simp only [hrec']
      cases r with
      | error e => rfl
      | ok written =>
        dsimp only
        split
        · rfl
        · rw [pushUsed_host]
          rfl

/-- Nothing is written for a chain without a frame. -/
theorem virtioNetProcessTxChain_refused (hno : ¬ chain.Transmittable) :
    (virtioNetProcessTxChain h.recorded dma s chain).1.host.2 = s.host.2 := by
  unfold virtioNetProcessTxChain
  split
  · rfl
  rename_i d ds hchain
  rw [transmittable_iff hchain] at hno
  split
  · rfl
  rename_i hfirst
  split
  · rfl
  rename_i length hlength
  split
  · rfl
  rename_i hne
  -- The sum is the length of the frame.
  have hbound : d.length - virtioNetHdrSize ≤ uint32Max := by
    have := d.length_lt
    simp only [uint32Max]
    omega
  have htotal : length = chain.total - virtioNetHdrSize := by
    rw [((virtioNetTxLength_ok_iff hbound).mp hlength).2.2]
    simp only [VirtioChain.total, hchain, segsLength, List.map_cons, List.sum_cons,
      VirtioDescriptor.seg]
    simp only [virtioNetHdrSize] at hfirst ⊢
    omega
  exact absurd ⟨hfirst, htotal ▸ hlength, htotal ▸ hne⟩ hno

/-- For a chain with a frame, the buffer and the reads decide. -/
theorem virtioNetProcessTxChain_frames (hyes : chain.Transmittable) :
    (virtioNetProcessTxChain h.recorded dma s chain).1.host.2 = s.host.2 ++
      match (h.malloc s.host.1 (chain.total - virtioNetHdrSize)).2,
        (virtioNetTxGather dma chain.txSegs s.net.system).2 with
      | true, .ok packet => [packet]
      | _, _ => [] := by
  unfold virtioNetProcessTxChain
  split
  · rename_i hnil
    obtain ⟨d, ds, hchain, -⟩ := hyes.descriptors
    rw [hnil] at hchain
    cases hchain
  rename_i d ds hchain
  obtain ⟨hfirst, hlength, hne⟩ := (transmittable_iff hchain).mp hyes
  rw [if_neg hfirst, hlength]
  simp only [if_neg hne, VirtioChain.txSegs, hchain]
  exact virtioNetTransmit_frames _ _

theorem segsLength_txSegs (hyes : chain.Transmittable) :
    segsLength chain.txSegs = chain.total - virtioNetHdrSize := by
  obtain ⟨d, ds, hchain, hheader⟩ := hyes.descriptors
  have hfirst : segsLength (if d.length > virtioNetHdrSize then
      [⟨(d.address + virtioNetHdrSize) % 2 ^ 64, d.length - virtioNetHdrSize⟩] else []) =
      d.length - virtioNetHdrSize := by
    split
    · simp [segsLength]
    · rw [Nat.sub_eq_zero_of_le (by omega)]
      rfl
  simp only [VirtioChain.txSegs, VirtioChain.total, hchain, virtioNetTxSegs, List.map_cons,
    segsLength_append, hfirst]
  simp only [segsLength, List.map_cons, List.sum_cons, VirtioDescriptor.seg]
  omega

/-- The frames of virtio-net. For a chain that has a frame, when the packet is allocated and the
reads succeed, one packet is written to the backend: the buffers of the chain without the header.
Otherwise nothing is written. No read goes outside the packet. -/
theorem tx_frame_assembled {Inv : IommuSystem → Prop} {byte : Store}
    (hreads : dma.Reads Inv byte) (hs : Inv s.net.system)
    (hwrap : ∀ d ∈ chain.descriptors, d.address + d.length ≤ 2 ^ 64) :
    (chain.Transmittable → (h.malloc s.host.1 (chain.total - virtioNetHdrSize)).2 = true →
      (∃ packet, (virtioNetTxGather dma chain.txSegs s.net.system).2 = .ok packet) →
      (virtioNetProcessTxChain h.recorded dma s chain).1.host.2 = s.host.2 ++
        [(gather byte (chain.descriptors.map VirtioDescriptor.seg)).drop virtioNetHdrSize]) ∧
    (¬ (chain.Transmittable ∧ (h.malloc s.host.1 (chain.total - virtioNetHdrSize)).2 = true ∧
      ∃ packet, (virtioNetTxGather dma chain.txSegs s.net.system).2 = .ok packet) →
      (virtioNetProcessTxChain h.recorded dma s chain).1.host.2 = s.host.2) ∧
    (chain.Transmittable → ∀ packet : List UInt8,
      packet.length = chain.total - virtioNetHdrSize →
      virtioNetTxCopyIn dma chain.txSegs packet 0 s.net.system =
        some (virtioNetTxGather dma chain.txSegs s.net.system)) := by
  refine ⟨fun hyes hmalloc hpacket => ?_, fun hno => ?_, fun hyes packet hlen => ?_⟩
  · obtain ⟨packet, hpacket⟩ := hpacket
    rw [virtioNetProcessTxChain_frames hyes, hmalloc, hpacket, ← gather_txSegs hyes hwrap,
      virtioNetTxGather_ok hreads hs (Prod.ext rfl hpacket)]
  · by_cases hyes : chain.Transmittable
    · rw [virtioNetProcessTxChain_frames hyes]
      cases hmalloc : (h.malloc s.host.1 (chain.total - virtioNetHdrSize)).2 with
      | false => simp
      | true =>
        cases hpacket : (virtioNetTxGather dma chain.txSegs s.net.system).2 with
        | error e => simp
        | ok packet => exact absurd ⟨hyes, hmalloc, packet, hpacket⟩ hno
    · exact virtioNetProcessTxChain_refused hyes
  · have hle := hyes.total_le
    rw [virtioNetTxCopyIn_eq hreads hs (by rw [segsLength_txSegs hyes, hlen, Nat.zero_add])
      (by simp only [virtioNetHdrSize] at hlen; omega)]
    obtain ⟨t, e | packet⟩ := virtioNetTxGather dma chain.txSegs s.net.system <;> rfl

end Frames

/-! ## DMA to the only region of a machine -/

/-- What is read from a memory with one region are bytes of the region. -/
theorem readBuffer_regionByte {m : GuestMemory} {r : AddressRegion}
    (hone : m.space.regions = [r]) {a n : Nat} {bs : List UInt8}
    (h : m.readBuffer a n = .ok bs) : bs = (m.regionByte r).read a n := by
  unfold GuestMemory.readBuffer at h
  split at h
  · rename_i hn
    cases h
    rw [hn]
    rfl
  split at h
  · cases h
  rename_i r' hregion
  cases h
  obtain ⟨hmem, hcontains⟩ := GuestMemory.bufferRegion_mem hregion
  rw [hone, List.mem_singleton] at hmem
  subst hmem
  exact (m.regionByte_read r' (AddressRegion.contains_iff_covers.mp hcontains).base_le).symm

/-- Reads of a bus master in a machine with one region return its bytes or fail. -/
theorem virtioNetDma_reads (sink : Sink) (d : Nat) (m : GuestMemory) {r : AddressRegion}
    (hone : m.space.regions = [r]) : (virtioNetDma sink d).Reads
      (fun s => s.Masters d m.space ∧ s.memory = m) (m.regionByte r) := by
  rintro s ⟨hs, rfl⟩ a n
  refine ⟨s, s.memory.readBuffer a n, ?_, ⟨hs, rfl⟩, fun bs => readBuffer_regionByte hone⟩
  simp only [virtioNetDma, pciDeviceDma, hs.dmaAs, hs.attached, hs.busMaster, or_self, if_false,
    Bool.true_eq_false, GuestMemory.bufferAccess]
  cases s.memory.readBuffer a n <;> rfl

/-! ## A frame of five bytes -/

def dmaMaster : IommuSystem := busMaster ramAtDram

theorem dmaMaster_masters : dmaMaster.memory.space.regions = ramAtDram.space.regions ∧
    (dmaMaster.pci.devices 1).parent.dmaAs = some .system ∧
    (dmaMaster.pci.devices 1).pciBus ≠ none ∧
    (dmaMaster.pci.devices 1).busMasterEnabled = true := by
  decide +kernel

/-- The header with two bytes of the frame, a buffer without bytes, and the rest of the frame. -/
def fiveByteChain : VirtioChain :=
  ⟨0, [⟨0x80000900, 14, 1, 1, by decide⟩, ⟨0x80000a00, 0, 1, 2, by decide⟩,
    ⟨0x80000b00, 3, 0, 0, by decide⟩]⟩

theorem fiveByteChain_transmittable : fiveByteChain.Transmittable :=
  ⟨by decide, ⟨_, rfl, by decide⟩, by decide, by decide⟩

/-- A host that always has memory and takes every frame. -/
def openHost : TxHost Unit := ⟨fun _ _ => ((), true), fun _ packet => ((), .ok packet.length)⟩

def sending : TxSystem (Unit × List (List UInt8)) where
  net := {
    system := dmaMaster
    net := {
      pci := ⟨1, ⟨1, 0, 0, 0, [.zero, .zero]⟩, [virtioPciNoVector, virtioPciNoVector], 0, true⟩
      backendSource := eventSourceInit
      rxPacket := none
      backendFd := some 3 }
    rxReads := [] }
  host := ((), [])
  log := []

theorem sending_reads : (virtioNetTxGather (virtioNetDma (fun _ => .ok ()) 1)
    fiveByteChain.txSegs dmaMaster).2 = .ok [0, 0, 0, 0, 0] := by
  decide +kernel

theorem fiveByteChain_sent :
    (virtioNetProcessTxChain openHost.recorded (virtioNetDma (fun _ => .ok ()) 1) sending
      fiveByteChain).1.host.2 =
      [(gather (dmaMaster.memory.regionByte ⟨.memory 0, 0x80000000, 0x10000000, -1, .ram, true, true⟩)
        (fiveByteChain.descriptors.map VirtioDescriptor.seg)).drop virtioNetHdrSize] :=
  (tx_frame_assembled (virtioNetDma_reads (fun _ => .ok ()) 1 dmaMaster.memory
    dmaMaster_masters.1) (s := sending) ⟨⟨rfl, dmaMaster_masters.2.1, dmaMaster_masters.2.2.1,
      dmaMaster_masters.2.2.2⟩, rfl⟩ (by decide)).1
    fiveByteChain_transmittable rfl ⟨_, sending_reads⟩

end Vart
