import Vart.Virtio.Blk
import Vart.Virtio.TxFrame

/-!
# Chains that are given back

The driver of a virtio device waits for each chain that it made available until it finds it in the
used ring, and it looks there after an interrupt. A notification of virtio-blk and one of the
transmit queue of virtio-net are loops of the same kind (`Lib.Drain`): the first chain that cannot
be handled ends the loop, and the handler returns.

* `ChainTaken`, `RingEmpty`: the rings and the descriptors with which a chain is taken, or none is
  left.
* `BlkServed`, `TxServed`: the descriptors, the answers to the DMA accesses and the answers of the
  host with which a chain is handled; `CanRaise`: the interrupt of a queue can be raised.
* `virtioBlkTraced`, `virtioNetTxTraced`: the chains that the calls list in the log are those that
  `vart_virtio_queue_pop` and `vart_virtio_queue_push_used` report.
* `virtio_completion_iff`: a notification gives back every chain that it took, in order, and raises
  the interrupt, exactly if all of them can be handled.
-/

namespace Vart

open Lib

/-! ## Chains that can be taken -/

section Take

variable {σ : Type} {dma : VirtioDmaOps σ} {q : VirtioQueue} {dev : VirtioDevice} {index : Nat}

/-- The walk along the descriptors of a chain, as the DMA reads answer: each index is new, and each
descriptor is direct, has no unknown flag and links to an index in the table. It ends at a
descriptor without a link, or at a read that fails. -/
inductive ChainWalk (dma : VirtioDmaOps σ) (q : VirtioQueue) : (room : Nat) → σ →
    (visited : List Nat) → (index : Nat) → σ → Except Errno (List VirtioDescriptor) → Prop
  | last {room index : Nat} {s t : σ} {visited : List Nat} {raw : List UInt8}
      (fresh : index ∉ visited)
      (read : dma.read s ((q.descriptorAddress + index * virtioDescriptorSize) % 2 ^ 64)
        virtioDescriptorSize = (t, .ok raw))
      (direct : (virtioDescriptor raw).flags &&& virtioDescFIndirect = 0)
      (known : andNot (virtioDescriptor raw).flags virtioDescFMask = 0)
      (ends : (virtioDescriptor raw).flags &&& virtioDescFNext = 0) :
      ChainWalk dma q (room + 1) s visited index t (.ok [virtioDescriptor raw])
  | next {room index : Nat} {s t u : σ} {visited : List Nat} {raw : List UInt8}
      {r : Except Errno (List VirtioDescriptor)} (fresh : index ∉ visited)
      (read : dma.read s ((q.descriptorAddress + index * virtioDescriptorSize) % 2 ^ 64)
        virtioDescriptorSize = (t, .ok raw))
      (direct : (virtioDescriptor raw).flags &&& virtioDescFIndirect = 0)
      (known : andNot (virtioDescriptor raw).flags virtioDescFMask = 0)
      (links : (virtioDescriptor raw).flags &&& virtioDescFNext ≠ 0)
      (next_lt : (virtioDescriptor raw).next < q.size)
      (rest : ChainWalk dma q room t (index :: visited) (virtioDescriptor raw).next u r) :
      ChainWalk dma q (room + 1) s visited index u (r.map (virtioDescriptor raw :: ·))
  | fails {room index : Nat} {s t : σ} {visited : List Nat} {e : Errno} (fresh : index ∉ visited)
      (read : dma.read s ((q.descriptorAddress + index * virtioDescriptorSize) % 2 ^ 64)
        virtioDescriptorSize = (t, .error e)) :
      ChainWalk dma q (room + 1) s visited index t (.error e)

/-- The walk is what the loop does, up to the errors that the loop itself finds; none of those is
`-EAGAIN`. -/
theorem virtioChainLoop_iff {room : Nat} {s t : σ} {visited : List Nat}
    {r : Except Errno (List VirtioDescriptor)} (hr : ∀ e, r = .error e → e = .eagain) :
    virtioChainLoop dma q room s visited index = (t, r) ↔
      ChainWalk dma q room s visited index t r := by
  induction room generalizing s visited index r with
  | zero =>
    refine iff_of_false (fun h => ?_) nofun
    cases h
    cases hr _ rfl
  | succ room ih =>
    rw [virtioChainLoop]
    constructor
    · intro h
      split at h
      · cases h
        cases hr _ rfl
      rename_i hfresh
      split at h
      · rename_i hread
        cases h
        exact .fails hfresh hread
      rename_i raw hread
      dsimp only at h
      split at h
      · cases h
        cases hr _ rfl
      rename_i hdirect
      split at h
      · cases h
        cases hr _ rfl
      rename_i hknown
      rw [not_not] at hdirect hknown
      split at h
      · rename_i hends
        cases h
        exact .last hfresh hread hdirect hknown hends
      rename_i hlinks
      split at h
      · cases h
        cases hr _ rfl
      rename_i hnext
      have hlt := Nat.lt_of_not_le (not_or.mp hnext).1
      split at h
      · rename_i hrest
        cases h
        exact .next hfresh hread hdirect hknown hlinks hlt ((ih hr).mp hrest)
      · rename_i hrest
        cases h
        exact .next hfresh hread hdirect hknown hlinks hlt ((ih fun _ he => by cases he).mp hrest)
    · intro h
      cases h with
      | last hfresh hread hdirect hknown hends =>
        simp only [if_neg hfresh, hread, hdirect, hknown, hends, ne_eq, not_true_eq_false,
          if_false, if_true]
      | @next _ _ _ _ _ _ _ r hfresh hread hdirect hknown hlinks hlt hrest =>
        have hroom : room ≠ 0 := fun h0 => by
          subst h0
          cases hrest
        have hloop := (ih fun e he => hr e (by rw [he]; rfl)).mpr hrest
        simp only [if_neg hfresh, hread, hdirect, hknown, hlinks, ne_eq, not_true_eq_false,
          if_false, if_neg (not_or.mpr ⟨Nat.not_le.mpr hlt, hroom⟩), hloop]
        cases r <;> rfl
      | fails hfresh hread => simp only [if_neg hfresh, hread]

/-- The queue is ready and the available ring has an entry for the device: the DMA reads of its
index and of the entry succeed, the index is ahead by at most the size of the queue, and the entry
is the index of a descriptor. -/
inductive HeadRead (dma : VirtioDmaOps σ) (s : σ) (dev : VirtioDevice) (index : Nat) :
    VirtioQueue → σ → Nat → Prop
  | intro {q : VirtioQueue} {s₁ s₂ : σ} {raw entry : List UInt8}
      (queue : virtioQueueGet dev index = .ok q)
      (idx : dma.read s ((q.availableAddress + 2) % 2 ^ 64) 2 = (s₁, .ok raw))
      (ahead : UInt16.ofNat (loadLe raw) ≠ q.lastAvail)
      (fits : (UInt16.ofNat (loadLe raw) - q.lastAvail).toNat ≤ q.size)
      (read : dma.read s₁ ((q.availableAddress + virtioAvailableHeaderSize +
        q.lastAvail.toNat % q.size * 2) % 2 ^ 64) 2 = (s₂, .ok entry))
      (head_lt : loadLe entry < q.size) : HeadRead dma s dev index q s₂ (loadLe entry)

/-- A chain that is well formed in the ring: its entry and all its descriptors can be read. -/
inductive ChainTaken (dma : VirtioDmaOps σ) (s : σ) (dev : VirtioDevice) (index : Nat) :
    VirtioChain → σ → VirtioDevice → Prop
  | intro {q : VirtioQueue} {s₁ t : σ} {head : Nat} {descriptors : List VirtioDescriptor}
      (entry : HeadRead dma s dev index q s₁ head)
      (walk : ChainWalk dma q virtioMaxQueueSize s₁ [] head t (.ok descriptors)) :
      ChainTaken dma s dev index ⟨head, descriptors⟩ t
        (dev.setQueue index { q with lastAvail := q.lastAvail + 1 })

/-- There is no chain left: the index of the available ring is where the device is. A DMA read that
answers `-EAGAIN` is taken for the same. -/
inductive RingEmpty (dma : VirtioDmaOps σ) (s : σ) (dev : VirtioDevice) (index : Nat) : σ → Prop
  | empty {q : VirtioQueue} {t : σ} {raw : List UInt8} (queue : virtioQueueGet dev index = .ok q)
      (idx : dma.read s ((q.availableAddress + 2) % 2 ^ 64) 2 = (t, .ok raw))
      (same : UInt16.ofNat (loadLe raw) = q.lastAvail) : RingEmpty dma s dev index t
  | idxAgain {q : VirtioQueue} {t : σ} (queue : virtioQueueGet dev index = .ok q)
      (idx : dma.read s ((q.availableAddress + 2) % 2 ^ 64) 2 = (t, .error .eagain)) :
      RingEmpty dma s dev index t
  | entryAgain {q : VirtioQueue} {s₁ t : σ} {raw : List UInt8}
      (queue : virtioQueueGet dev index = .ok q)
      (idx : dma.read s ((q.availableAddress + 2) % 2 ^ 64) 2 = (s₁, .ok raw))
      (ahead : UInt16.ofNat (loadLe raw) ≠ q.lastAvail)
      (fits : (UInt16.ofNat (loadLe raw) - q.lastAvail).toNat ≤ q.size)
      (read : dma.read s₁ ((q.availableAddress + virtioAvailableHeaderSize +
        q.lastAvail.toNat % q.size * 2) % 2 ^ 64) 2 = (t, .error .eagain)) :
      RingEmpty dma s dev index t
  | walkAgain {q : VirtioQueue} {s₁ t : σ} {head : Nat}
      (entry : HeadRead dma s dev index q s₁ head)
      (walk : ChainWalk dma q virtioMaxQueueSize s₁ [] head t (.error .eagain)) :
      RingEmpty dma s dev index t

/-- A pop whose answer is not an error of its own. -/
theorem virtioQueuePop_cases {s t : σ} {r : Except Errno (VirtioDevice × VirtioChain)}
    (h : virtioQueuePop dma s dev index = (t, r)) (hr : ∀ e, r = .error e → e = .eagain) :
    (∃ dev' chain, r = .ok (dev', chain) ∧ ChainTaken dma s dev index chain t dev') ∨
      (r = .error .eagain ∧ RingEmpty dma s dev index t) := by
  unfold virtioQueuePop at h
  split at h
  · rename_i e hget
    cases h
    cases hr _ rfl
    unfold virtioQueueGet at hget
    split at hget
    · cases hget
    · split at hget <;> cases hget
  rename_i q hget
  split at h
  · rename_i hidx
    cases h
    cases hr _ rfl
    exact .inr ⟨rfl, .idxAgain hget hidx⟩
  rename_i raw hidx
  dsimp only at h
  split at h
  · rename_i hsame
    cases h
    exact .inr ⟨rfl, .empty hget hidx hsame⟩
  rename_i hahead
  split at h
  · cases h
    cases hr _ rfl
  rename_i hfits
  split at h
  · rename_i hentry
    cases h
    cases hr _ rfl
    exact .inr ⟨rfl, .entryAgain hget hidx hahead (Nat.le_of_not_lt hfits) hentry⟩
  rename_i entry hentry
  split at h
  · cases h
    cases hr _ rfl
  rename_i hlt
  have hhead : HeadRead dma s dev index q _ _ :=
    .intro hget hidx hahead (Nat.le_of_not_lt hfits) hentry (Nat.lt_of_not_le hlt)
  split at h
  · rename_i hloop
    cases h
    cases hr _ rfl
    exact .inr ⟨rfl, .walkAgain hhead ((virtioChainLoop_iff fun _ he => by cases he; rfl).mp hloop)⟩
  · rename_i hloop
    cases h
    exact .inl ⟨_, _, rfl, .intro hhead ((virtioChainLoop_iff fun _ he => by cases he).mp hloop)⟩

theorem chainTaken_iff {s t : σ} {dev' : VirtioDevice} {chain : VirtioChain} :
    virtioQueuePop dma s dev index = (t, .ok (dev', chain)) ↔
      ChainTaken dma s dev index chain t dev' := by
  constructor
  · intro h
    obtain ⟨_, _, heq, htaken⟩ | ⟨heq, -⟩ := virtioQueuePop_cases h fun _ he => by cases he
    · cases heq
      exact htaken
    · cases heq
  · rintro ⟨⟨hget, hidx, hahead, hfits, hentry, hlt⟩, hwalk⟩
    have hloop := (virtioChainLoop_iff fun _ he => by cases he).mpr hwalk
    simp only [virtioQueuePop, hget, hidx, if_neg hahead, if_neg (Nat.not_lt.mpr hfits), hentry,
      if_neg (Nat.not_le.mpr hlt), hloop]

theorem ringEmpty_iff {s t : σ} :
    virtioQueuePop dma s dev index = (t, .error .eagain) ↔ RingEmpty dma s dev index t := by
  constructor
  · intro h
    obtain ⟨_, _, heq, -⟩ | ⟨-, hempty⟩ := virtioQueuePop_cases h fun _ he => by cases he; rfl
    · cases heq
    · exact hempty
  · rintro (⟨hget, hidx, hsame⟩ | ⟨hget, hidx⟩ | ⟨hget, hidx, hahead, hfits, hentry⟩ |
      ⟨⟨hget, hidx, hahead, hfits, hentry, hlt⟩, hwalk⟩)
    · simp only [virtioQueuePop, hget, hidx, if_pos hsame]
    · simp only [virtioQueuePop, hget, hidx]
    · simp only [virtioQueuePop, hget, hidx, if_neg hahead, if_neg (Nat.not_lt.mpr hfits), hentry]
    · have hloop := (virtioChainLoop_iff fun _ he => by cases he; rfl).mpr hwalk
      simp only [virtioQueuePop, hget, hidx, if_neg hahead, if_neg (Nat.not_lt.mpr hfits), hentry,
        if_neg (Nat.not_le.mpr hlt), hloop]

end Take

/-! ## Chains that can be handled -/

/-- The queue is ready, and the DMA writes of the used element of `head` and of the new index
succeed. -/
inductive UsedWritten (dma : VirtioDmaOps IommuSystem) (system : IommuSystem) (dev : VirtioDevice)
    (index head length : Nat) : IommuSystem → VirtioDevice → Prop
  | intro {q : VirtioQueue} {system₁ system₂ : IommuSystem}
      (queue : virtioQueueGet dev index = .ok q) (head_lt : head < q.size)
      (element : dma.write system ((q.usedAddress + virtioUsedHeaderSize +
        q.nextUsed.toNat % q.size * virtioUsedElementSize) % 2 ^ 64)
        (storeLe 4 head ++ storeLe 4 length) = (system₁, .ok ()))
      (idx : dma.write system₁ ((q.usedAddress + 2) % 2 ^ 64)
        (storeLe 2 (q.nextUsed + 1).toNat) = (system₂, .ok ())) :
      UsedWritten dma system dev index head length system₂
        (dev.setQueue index { q with nextUsed := q.nextUsed + 1 })

theorem virtioQueuePushUsed_ok_iff {dma : VirtioDmaOps IommuSystem} {system system' : IommuSystem}
    {dev dev' : VirtioDevice} {index head length : Nat} :
    virtioQueuePushUsed dma system dev index head length = (system', dev', .ok ()) ↔
      UsedWritten dma system dev index head length system' dev' := by
  constructor
  · intro hp
    unfold virtioQueuePushUsed at hp
    split at hp
    · cases hp
    rename_i q hq
    split at hp
    · cases hp
    rename_i hlt
    split at hp
    · cases hp
    rename_i system₁ _ helement
    dsimp only at hp
    split at hp
    · cases hp
    rename_i system₂ _ hidx
    cases hp
    exact .intro hq (Nat.lt_of_not_le hlt) helement hidx
  · rintro ⟨hq, hlt, helement, hidx⟩
    simp only [virtioQueuePushUsed, hq, if_neg (Nat.not_le.mpr hlt), helement, hidx]

/-- A request that virtio-blk completes: the chain begins with a header that the device can read
and ends with a status byte that it can write, and the DMA accesses to the header, to the status
byte and to the used ring succeed. The request itself cannot fail: what goes wrong with its data
is told in the status byte. -/
inductive BlkServed {η : Type} (h : BlkHost η) (dma : VirtioDmaOps IommuSystem) (s : BlkSystem η)
    (chain : VirtioChain) : BlkSystem η → Prop
  | intro {header status : VirtioDescriptor} {data : List VirtioDescriptor} {raw : List UInt8}
      {system₁ system₂ system₃ system₄ : IommuSystem} {host : η} {usedLength : Nat} {value : UInt8}
      {virtio : VirtioDevice}
      (shape : chain.descriptors = header :: (data ++ [status]))
      (header_length : virtioBlkRequestHeaderSize ≤ header.length)
      (header_readable : header.flags &&& virtioDescFWrite = 0)
      (status_length : status.length ≠ 0)
      (status_writable : status.flags &&& virtioDescFWrite ≠ 0)
      (read : dma.read s.system header.address virtioBlkRequestHeaderSize = (system₁, .ok raw))
      (request : virtioBlkPerform h dma s.blk data (loadLe (raw.take 4)) (loadLe (raw.drop 8))
        system₁ s.host = ((system₂, host), usedLength, value))
      (write : dma.write system₂ status.address [value] = (system₃, .ok ()))
      (used : UsedWritten dma system₃ s.blk.pci.virtio 0 chain.head usedLength system₄ virtio) :
      BlkServed h dma s chain ({ s with
        system := system₄
        host
        log := s.log ++ [DrainEvent.done chain.head] }.setVirtio virtio)

theorem BlkSystem.pushUsed_ok_iff {η : Type} {dma : VirtioDmaOps IommuSystem} {s u : BlkSystem η}
    {head length : Nat} : s.pushUsed dma head length = (u, .ok ()) ↔
      ∃ system virtio, UsedWritten dma s.system s.blk.pci.virtio 0 head length system virtio ∧
        u = { s with system, log := s.log ++ [DrainEvent.done head] }.setVirtio virtio := by
  constructor
  · intro hp
    unfold BlkSystem.pushUsed at hp
    split at hp
    · cases hp
    · rename_i system virtio _ hused
      cases hp
      exact ⟨system, virtio, virtioQueuePushUsed_ok_iff.mp hused, rfl⟩
  · rintro ⟨system, virtio, hused, rfl⟩
    simp only [BlkSystem.pushUsed, virtioQueuePushUsed_ok_iff.mpr hused]

theorem blkServed_iff {η : Type} {h : BlkHost η} {dma : VirtioDmaOps IommuSystem}
    {s u : BlkSystem η} {chain : VirtioChain} :
    virtioBlkProcessRequest h dma s chain = (u, .ok ()) ↔ BlkServed h dma s chain u := by
  constructor
  · intro hp
    unfold virtioBlkProcessRequest at hp
    split at hp
    · cases hp
    · cases hp
    rename_i header d ds hchain
    extract_lets status at hp
    split at hp
    · cases hp
    rename_i hchecks
    rw [not_or, not_or, not_or, not_not, Nat.not_lt] at hchecks
    obtain ⟨hlength, hreadable, hstatus, hwritable⟩ := hchecks
    split at hp
    · cases hp
    rename_i system₁ raw hread
    split at hp
    rename_i system₂ host usedLength value hrequest
    split at hp
    · cases hp
    rename_i system₃ _ hwrite
    obtain ⟨system₄, virtio, hused, rfl⟩ := BlkSystem.pushUsed_ok_iff.mp hp
    have hshape : chain.descriptors = header :: ((d :: ds).dropLast ++ [status]) := by
      rw [hchain, List.dropLast_append_getLast (List.cons_ne_nil d ds)]
    exact .intro hshape hlength hreadable hstatus hwritable hread hrequest hwrite hused
  · rintro ⟨hshape, hlength, hreadable, hstatus, hwritable, hread, hrequest, hwrite, hused⟩
    rename_i header status data _ _ _ _ _ _ _ _ _
    obtain ⟨d, ds, hcons⟩ : ∃ d ds, data ++ [status] = d :: ds :=
      List.exists_cons_of_ne_nil (by simp)
    have hlast : (d :: ds).getLast (List.cons_ne_nil d ds) = status := by
      simp only [← hcons, List.getLast_append_of_ne_nil _ (List.cons_ne_nil status []),
        List.getLast_singleton]
    have hdata : (d :: ds).dropLast = data := by rw [← hcons, List.dropLast_concat]
    rw [hcons] at hshape
    simp only [virtioBlkProcessRequest, hshape, hlast, hdata, hread, hrequest, hwrite]
    rw [if_neg (by
      rw [not_or, not_or, not_or, not_not, Nat.not_lt]
      exact ⟨hlength, hreadable, hstatus, hwritable⟩)]
    exact BlkSystem.pushUsed_ok_iff.mpr ⟨_, _, hused, rfl⟩

/-- The buffers are read one after the other, and every DMA read succeeds. -/
inductive BuffersRead (dma : VirtioDmaOps IommuSystem) :
    List Seg → IommuSystem → IommuSystem → List UInt8 → Prop
  | nil {system : IommuSystem} : BuffersRead dma [] system system []
  | cons {g : Seg} {gs : List Seg} {system system₁ system₂ : IommuSystem} {data rest : List UInt8}
      (read : dma.read system g.address g.length = (system₁, .ok data))
      (others : BuffersRead dma gs system₁ system₂ rest) :
      BuffersRead dma (g :: gs) system system₂ (data ++ rest)

theorem virtioNetTxGather_ok_iff {dma : VirtioDmaOps IommuSystem} {segs : List Seg}
    {system system' : IommuSystem} {packet : List UInt8} :
    virtioNetTxGather dma segs system = (system', .ok packet) ↔
      BuffersRead dma segs system system' packet := by
  induction segs generalizing system packet with
  | nil =>
    constructor
    · intro hg
      cases hg
      exact .nil
    · rintro ⟨⟩
      rfl
  | cons g gs ih =>
    constructor
    · intro hg
      unfold virtioNetTxGather at hg
      split at hg
      · cases hg
      rename_i hread
      split at hg
      · cases hg
      rename_i hrest
      cases hg
      exact .cons hread (ih.mp hrest)
    · rintro (_ | ⟨hread, hrest⟩)
      simp only [virtioNetTxGather, hread, ih.mpr hrest]

/-- A frame that virtio-net sends: the chain has one, the host has memory for it, its buffers can be
read, the backend takes all of it, and the DMA writes to the used ring succeed. -/
inductive TxServed {η : Type} (h : TxHost η) (dma : VirtioDmaOps IommuSystem) (s : TxSystem η)
    (chain : VirtioChain) : TxSystem η → Prop
  | intro {host₁ host₂ : η} {packet : List UInt8} {system₁ system₂ : IommuSystem}
      {virtio : VirtioDevice} (frame : chain.Transmittable)
      (malloc : h.malloc s.host (chain.total - virtioNetHdrSize) = (host₁, true))
      (read : BuffersRead dma chain.txSegs s.net.system system₁ packet)
      (write : h.write host₁ packet = (host₂, .ok (chain.total - virtioNetHdrSize)))
      (used : UsedWritten dma system₁ s.net.net.pci.virtio 1 chain.head
        (chain.total - virtioNetHdrSize) system₂ virtio) :
      TxServed h dma s chain
        ⟨({ s.net with system := system₂ }).setVirtio virtio, host₂,
          s.log ++ [DrainEvent.done chain.head]⟩

theorem TxSystem.pushUsed_ok_iff {η : Type} {dma : VirtioDmaOps IommuSystem} {s u : TxSystem η}
    {head length : Nat} : s.pushUsed dma head length = (u, .ok ()) ↔
      ∃ system virtio,
        UsedWritten dma s.net.system s.net.net.pci.virtio 1 head length system virtio ∧
        u = ⟨({ s.net with system }).setVirtio virtio, s.host,
          s.log ++ [DrainEvent.done head]⟩ := by
  constructor
  · intro hp
    unfold TxSystem.pushUsed at hp
    split at hp
    · cases hp
    · rename_i system virtio _ hused
      cases hp
      exact ⟨system, virtio, virtioQueuePushUsed_ok_iff.mp hused, rfl⟩
  · rintro ⟨system, virtio, hused, rfl⟩
    simp only [TxSystem.pushUsed, virtioQueuePushUsed_ok_iff.mpr hused]

/-- The sum is the length of the frame. -/
theorem virtioNetTxLength_eq {chain : VirtioChain} {d : VirtioDescriptor}
    {ds : List VirtioDescriptor} {length : Nat} (hchain : chain.descriptors = d :: ds)
    (hfirst : ¬ (d.flags &&& virtioDescFWrite ≠ 0 ∨ d.length < virtioNetHdrSize))
    (hlength : virtioNetTxLength ds (d.length - virtioNetHdrSize) = .ok length) :
    length = chain.total - virtioNetHdrSize := by
  have hlt := d.length_lt
  obtain ⟨-, -, rfl⟩ := (virtioNetTxLength_ok_iff (by simp only [uint32Max]; omega)).mp hlength
  rw [VirtioChain.total, hchain, List.map_cons, segsLength_cons]
  simp only [VirtioDescriptor.seg]
  omega

theorem txServed_iff {η : Type} {h : TxHost η} {dma : VirtioDmaOps IommuSystem}
    {s u : TxSystem η} {chain : VirtioChain} :
    virtioNetProcessTxChain h dma s chain = (u, .ok ()) ↔ TxServed h dma s chain u := by
  constructor
  · intro hp
    unfold virtioNetProcessTxChain at hp
    split at hp
    · cases hp
    rename_i d ds hchain
    split at hp
    · cases hp
    rename_i hfirst
    split at hp
    · cases hp
    rename_i length hlength
    split at hp
    · cases hp
    rename_i hne
    obtain rfl := virtioNetTxLength_eq hchain hfirst hlength
    unfold virtioNetTransmit at hp
    split at hp
    · cases hp
    rename_i host₁ hmalloc
    split at hp
    · cases hp
    rename_i system₁ packet hgather
    split at hp
    · cases hp
    rename_i host₂ written hwrite
    split at hp
    · cases hp
    rename_i hall
    obtain ⟨system₂, virtio, hused, rfl⟩ := TxSystem.pushUsed_ok_iff.mp hp
    rw [not_not] at hall
    have hsegs : chain.txSegs = virtioNetTxSegs d ds := by rw [VirtioChain.txSegs, hchain]
    exact .intro ((transmittable_iff hchain).mpr ⟨hfirst, hlength, hne⟩) hmalloc
      (hsegs ▸ virtioNetTxGather_ok_iff.mp hgather) (hall ▸ hwrite) hused
  · rintro ⟨hframe, hmalloc, hread, hwrite, hused⟩
    obtain ⟨d, ds, hchain, -⟩ := hframe.descriptors
    obtain ⟨hfirst, hlength, hne⟩ := (transmittable_iff hchain).mp hframe
    rw [VirtioChain.txSegs, hchain] at hread
    have hgather := virtioNetTxGather_ok_iff.mpr hread
    simp only [virtioNetProcessTxChain, hchain, if_neg hfirst, hlength, if_neg hne,
      virtioNetTransmit, hmalloc, hgather, hwrite, ne_eq, not_true_eq_false, if_false]
    exact TxSystem.pushUsed_ok_iff.mpr ⟨_, _, hused, rfl⟩

/-! ## The interrupt -/

/-- The sink of the vector takes the message. -/
def SinkTakes (sink : Sink) (pci : PciState) (msix : PciMsix) (vector : Nat) : Prop :=
  ∃ irq, msixSinkCall sink pci msix vector = some (irq, .ok ())

/-- The interrupt of a queue can be raised: the device has the queue, and there is no vector for it,
or MSI-X has the vector and either holds the message back or finds a sink that takes it. -/
structure CanRaise (sink : Sink) (pci : PciState) (dev : VirtioPciDevice) (index : Nat) : Prop where
  initialised : dev.initialised = true
  queue : index < dev.virtio.queues.length
  vector :
    let vector := dev.queueVectors.getD index virtioPciNoVector
    let msix := (pci.devices dev.pci).msix
    vector = virtioPciNoVector ∨ msix.configured = false ∨
      vector < msix.vectorCount ∧
        (msix.deliverable vector = false ∨ SinkTakes sink pci msix vector)

theorem pciMsixDeliver_ok_iff {sink : Sink} {pci : PciState} {d vector : Nat}
    (h : (pci.devices d).msix.deliverable vector = true) :
    (pciMsixDeliver sink pci d vector).2 = .ok () ↔
      SinkTakes sink pci (pci.devices d).msix vector := by
  simp only [PciMsix.deliverable, Bool.and_eq_true, Bool.not_eq_true'] at h
  obtain ⟨⟨henabled, hmask⟩, hmasked⟩ := h
  simp only [pciMsixDeliver, henabled, hmask, hmasked, Bool.not_true, Bool.or_self,
    Bool.false_eq_true, if_false, SinkTakes]
  cases msixSinkCall sink pci (pci.devices d).msix vector with
  | none => simp
  | some r =>
    obtain ⟨irq, e | _⟩ := r <;> simp

theorem pciDeviceRaiseMsix_ok_iff {sink : Sink} {pci : PciState} {d vector : Nat}
    (hconfigured : (pci.devices d).msix.configured = true) :
    (pciDeviceRaiseMsix sink pci d vector).2 = .ok () ↔
      vector < (pci.devices d).msix.vectorCount ∧
        ((pci.devices d).msix.deliverable vector = false ∨
          SinkTakes sink pci (pci.devices d).msix vector) := by
  have hheld : (!(pci.devices d).msix.enabled || (pci.devices d).msix.functionMask ||
      (pci.devices d).msix.masked vector) = !(pci.devices d).msix.deliverable vector := by
    simp only [PciMsix.deliverable, Bool.not_and, Bool.not_not]
  simp only [pciDeviceRaiseMsix, hconfigured, hheld, Bool.not_true, Bool.false_or,
    decide_eq_true_eq]
  by_cases hcount : vector < (pci.devices d).msix.vectorCount
  · rw [if_neg (Nat.not_le.mpr hcount), and_iff_right hcount]
    cases hdeliverable : (pci.devices d).msix.deliverable vector with
    | false => simp
    | true =>
      -- The pending bit changes neither the masks nor the sink.
      have hmsix : ((({ pci with log := .raised d vector :: pci.log } : PciState).updateMsix d
          (·.setPending vector)).devices d).msix = (pci.devices d).msix.setPending vector := by
        simp only [PciState.updateMsix, PciState.updateDevice, Function.update_self]
      simp only [Bool.not_true, Bool.false_eq_true, if_false, false_or, reduceCtorEq]
      rw [pciMsixDeliver_ok_iff (hmsix ▸ hdeliverable), hmsix]
      rfl
  · rw [if_pos (Nat.le_of_not_lt hcount)]
    exact iff_of_false (by simp) fun hc => hcount hc.1

theorem canRaise_iff {sink : Sink} {system : IommuSystem} {dev : VirtioPciDevice} {index : Nat} :
    (virtioPciRaiseQueueInterrupt sink system dev index).2.2 = .ok () ↔
      CanRaise sink system.pci dev index := by
  unfold virtioPciRaiseQueueInterrupt VirtioPciDevice.queueInterrupt
  split
  · rename_i e hfails
    split at hfails
    · rename_i hno
      refine iff_of_false (by simp) fun hc => ?_
      rw [hc.initialised, Bool.not_true, Bool.false_or, decide_eq_true_eq] at hno
      exact absurd hc.queue (Nat.not_lt.mpr hno)
    · cases hfails
  · rename_i raised vector hraised
    split at hraised
    · cases hraised
    rename_i hqueue
    cases hraised
    rw [Bool.or_eq_true, not_or, Bool.not_eq_true', Bool.not_eq_false, decide_eq_true_eq,
      Nat.not_le] at hqueue
    dsimp only [virtioPciRaiseVector]
    split
    · rename_i hnone
      exact iff_of_true rfl ⟨hqueue.1, hqueue.2, hnone.imp_right .inl⟩
    · rename_i hsome
      rw [not_or, Bool.not_eq_false] at hsome
      rw [pciDeviceRaiseMsix_ok_iff hsome.2]
      constructor
      · exact fun hc => ⟨hqueue.1, hqueue.2, .inr (.inr hc)⟩
      · rintro ⟨-, -, hnone | hoff | hc⟩
        · exact absurd hnone hsome.1
        · exact absurd (hoff.symm.trans hsome.2) Bool.false_ne_true
        · exact hc

section Blk

variable {η : Type} {sink : Sink} {h : BlkHost η} {dma : VirtioDmaOps IommuSystem}
  {s t : BlkSystem η}

theorem BlkSystem.pushUsed_log {head length : Nat} {r : Status}
    (hp : s.pushUsed dma head length = (t, r)) :
    t.log = s.log ++ DrainEvent.ofResult (fun _ => .done head) r := by
  unfold BlkSystem.pushUsed at hp
  split at hp <;> cases hp
  · exact (List.append_nil _).symm
  · rfl

theorem virtioBlkProcessRequest_log {chain : VirtioChain} {r : Status}
    (hp : virtioBlkProcessRequest h dma s chain = (t, r)) :
    t.log = s.log ++ DrainEvent.ofResult (fun _ => .done chain.head) r := by
  unfold virtioBlkProcessRequest at hp
  split at hp
  · cases hp; exact (List.append_nil _).symm
  · cases hp; exact (List.append_nil _).symm
  · extract_lets status at hp
    split at hp
    · cases hp; exact (List.append_nil _).symm
    split at hp
    · cases hp; exact (List.append_nil _).symm
    split at hp
    split at hp
    · cases hp; exact (List.append_nil _).symm
    · exact (BlkSystem.pushUsed_log hp :)

/-- The log of virtio-blk. -/
def virtioBlkTraced (sink : Sink) (h : BlkHost η) (dma : VirtioDmaOps IommuSystem) :
    (virtioBlkDrain sink h dma).Traced VirtioChain.head where
  log := BlkSystem.log
  take := by
    intro s t r hp
    simp only [virtioBlkDrain, BlkSystem.pop] at hp
    split at hp <;> cases hp
    · exact (List.append_nil _).symm
    · rfl
  handle hp := virtioBlkProcessRequest_log hp
  announce := by
    intro s t r hp
    simp only [virtioBlkDrain, BlkSystem.raise] at hp
    split at hp <;> cases hp
    · exact (List.append_nil _).symm
    · rfl

end Blk

section Tx

variable {η : Type} {sink : Sink} {h : TxHost η} {dma : VirtioDmaOps IommuSystem}
  {s t : TxSystem η}

theorem TxSystem.pushUsed_log {head length : Nat} {r : Status}
    (hp : s.pushUsed dma head length = (t, r)) :
    t.log = s.log ++ DrainEvent.ofResult (fun _ => .done head) r := by
  unfold TxSystem.pushUsed at hp
  split at hp <;> cases hp
  · exact (List.append_nil _).symm
  · rfl

theorem virtioNetTransmit_log {chain : VirtioChain} {segs : List Seg} {length : Nat} {r : Status}
    (hp : virtioNetTransmit h dma s chain segs length = (t, r)) :
    t.log = s.log ++ DrainEvent.ofResult (fun _ => .done chain.head) r := by
  unfold virtioNetTransmit at hp
  split at hp
  · cases hp; exact (List.append_nil _).symm
  split at hp
  · cases hp; exact (List.append_nil _).symm
  split at hp
  · cases hp; exact (List.append_nil _).symm
  split at hp
  · cases hp; exact (List.append_nil _).symm
  · exact (TxSystem.pushUsed_log hp :)

theorem virtioNetProcessTxChain_log {chain : VirtioChain} {r : Status}
    (hp : virtioNetProcessTxChain h dma s chain = (t, r)) :
    t.log = s.log ++ DrainEvent.ofResult (fun _ => .done chain.head) r := by
  unfold virtioNetProcessTxChain at hp
  split at hp
  · cases hp; exact (List.append_nil _).symm
  split at hp
  · cases hp; exact (List.append_nil _).symm
  split at hp
  · cases hp; exact (List.append_nil _).symm
  split at hp
  · cases hp; exact (List.append_nil _).symm
  · exact virtioNetTransmit_log hp

/-- The log of the transmit queue of virtio-net. -/
def virtioNetTxTraced (sink : Sink) (h : TxHost η) (dma : VirtioDmaOps IommuSystem) :
    (virtioNetTxDrain sink h dma).Traced VirtioChain.head where
  log := TxSystem.log
  take := by
    intro s t r hp
    simp only [virtioNetTxDrain, TxSystem.pop] at hp
    split at hp <;> cases hp
    · exact (List.append_nil _).symm
    · rfl
  handle hp := virtioNetProcessTxChain_log hp
  announce := by
    intro s t r hp
    simp only [virtioNetTxDrain, TxSystem.raise] at hp
    split at hp <;> cases hp
    · exact (List.append_nil _).symm
    · rfl

end Tx

/-! ## Notifications -/

/-- What the rings, the DMA, the host and the interrupt allow virtio-blk to do. -/
def virtioBlkConditions {η : Type} (sink : Sink) (h : BlkHost η) (dma : VirtioDmaOps IommuSystem) :
    Conditions (BlkSystem η) VirtioChain where
  taken s chain t := ∃ system virtio,
    ChainTaken dma s.system s.blk.pci.virtio 0 chain system virtio ∧
    t = { s with system, log := s.log ++ [DrainEvent.taken chain.head] }.setVirtio virtio
  drained s t := ∃ system, RingEmpty dma s.system s.blk.pci.virtio 0 system ∧ t = { s with system }
  served := BlkServed h dma
  ready s := CanRaise sink s.system.pci s.blk.pci 0

theorem virtioBlkMeets {η : Type} (sink : Sink) (h : BlkHost η) (dma : VirtioDmaOps IommuSystem) :
    (virtioBlkDrain sink h dma).Meets (virtioBlkConditions sink h dma) where
  take s chain t := by
    simp only [virtioBlkConditions, ← chainTaken_iff, virtioBlkDrain, BlkSystem.pop]
    generalize virtioQueuePop dma s.system s.blk.pci.virtio 0 = p
    obtain ⟨system, e | ⟨virtio, chain'⟩⟩ := p
    · simp
    · constructor
      · intro hp
        cases hp
        exact ⟨_, _, rfl, rfl⟩
      · rintro ⟨_, _, hp, rfl⟩
        cases hp
        rfl
  drained s t := by
    simp only [virtioBlkConditions, ← ringEmpty_iff, virtioBlkDrain, BlkSystem.pop]
    generalize virtioQueuePop dma s.system s.blk.pci.virtio 0 = p
    obtain ⟨system, e | ⟨virtio, chain'⟩⟩ := p
    · constructor
      · rintro ⟨_, hp, hempty⟩
        cases hp
        cases of_decide_eq_true hempty
        exact ⟨_, rfl, rfl⟩
      · rintro ⟨_, hp, rfl⟩
        cases hp
        exact ⟨_, rfl, rfl⟩
    · simp
  handle _ _ _ := blkServed_iff
  announce s := by
    simp only [virtioBlkConditions, ← canRaise_iff, virtioBlkDrain, BlkSystem.raise]
    split <;> rename_i hraise <;> rw [hraise]

/-- What the rings, the DMA, the host and the interrupt allow the transmit queue of virtio-net to
do. -/
def virtioNetTxConditions {η : Type} (sink : Sink) (h : TxHost η)
    (dma : VirtioDmaOps IommuSystem) : Conditions (TxSystem η) VirtioChain where
  taken s chain t := ∃ system virtio,
    ChainTaken dma s.net.system s.net.net.pci.virtio 1 chain system virtio ∧
      t = { s with
        net := { s.net with system }.setVirtio virtio
        log := s.log ++ [DrainEvent.taken chain.head] }
  drained s t := ∃ system, RingEmpty dma s.net.system s.net.net.pci.virtio 1 system ∧
    t = { s with net := { s.net with system } }
  served := TxServed h dma
  ready s := CanRaise sink s.net.system.pci s.net.net.pci 1

theorem virtioNetTxMeets {η : Type} (sink : Sink) (h : TxHost η)
    (dma : VirtioDmaOps IommuSystem) :
    (virtioNetTxDrain sink h dma).Meets (virtioNetTxConditions sink h dma) where
  take s chain t := by
    simp only [virtioNetTxConditions, ← chainTaken_iff, virtioNetTxDrain, TxSystem.pop]
    generalize virtioQueuePop dma s.net.system s.net.net.pci.virtio 1 = p
    obtain ⟨system, e | ⟨virtio, chain'⟩⟩ := p
    · simp
    · constructor
      · intro hp
        cases hp
        exact ⟨_, _, rfl, rfl⟩
      · rintro ⟨_, _, hp, rfl⟩
        cases hp
        rfl
  drained s t := by
    simp only [virtioNetTxConditions, ← ringEmpty_iff, virtioNetTxDrain, TxSystem.pop]
    generalize virtioQueuePop dma s.net.system s.net.net.pci.virtio 1 = p
    obtain ⟨system, e | ⟨virtio, chain'⟩⟩ := p
    · constructor
      · rintro ⟨_, hp, hempty⟩
        cases hp
        cases of_decide_eq_true hempty
        exact ⟨_, rfl, rfl⟩
      · rintro ⟨_, hp, rfl⟩
        cases hp
        exact ⟨_, rfl, rfl⟩
    · simp
  handle _ _ _ := txServed_iff
  announce s := by
    simp only [virtioNetTxConditions, ← canRaise_iff, virtioNetTxDrain, TxSystem.raise,
      NetSystem.raiseQueueInterrupt]
    generalize virtioPciRaiseQueueInterrupt sink s.net.system s.net.net.pci 1 = r
    obtain ⟨system, pci, e | u⟩ := r <;> rfl

/-- A notification that returns has given back every chain that it took, in order, with an
interrupt at the end, exactly if each chain in the ring is well formed and can be handled until the
ring is empty and the interrupt can be raised, or if already the first chain cannot be taken, or if
the notification is not one that takes chains. -/
theorem virtio_completion_iff {η : Type} (sink : Sink) (dma : VirtioDmaOps IommuSystem)
    (fuel : Nat) (r : Status) :
    (∀ (h : BlkHost η) (index : Nat) (s t : BlkSystem η),
      virtioBlkNotify sink h dma fuel s index = some (t, r) →
      ∃ new, t.log = s.log ++ new ∧
        (Complete new ↔ index ≠ 0 ∨ (virtioBlkConditions sink h dma).Clean false s ∨
          (virtioBlkConditions sink h dma).Refused s)) ∧
    ∀ (h : TxHost η) (s t : TxSystem η),
      virtioNetNotifyTx sink h dma fuel s = some (t, r) →
      ∃ new, t.log = s.log ++ new ∧
        (Complete new ↔ s.net.net.backendFd = none ∨
          (virtioNetTxConditions sink h dma).Clean false s ∨
          (virtioNetTxConditions sink h dma).Refused s) := by
  have hnone : Complete ([] : List (DrainEvent Nat)) := ⟨rfl, fun h => absurd rfl h⟩
  refine ⟨fun h index s t hrun => ?_, fun h s t hrun => ?_⟩
  · unfold virtioBlkNotify at hrun
    split at hrun
    · rename_i hindex
      cases hrun
      exact ⟨[], (List.append_nil _).symm, fun _ => .inl hindex, fun _ => hnone⟩
    · rename_i hindex
      obtain ⟨new, hnew, hiff⟩ :=
        Drain.complete_iff (virtioBlkTraced sink h dma) (virtioBlkMeets sink h dma) hrun
      exact ⟨new, hnew, by rw [hiff, or_iff_right hindex]⟩
  · unfold virtioNetNotifyTx at hrun
    split at hrun
    · rename_i hfd
      cases hrun
      exact ⟨[], (List.append_nil _).symm, fun _ => .inl hfd, fun _ => hnone⟩
    · rename_i hfd
      obtain ⟨new, hnew, hiff⟩ :=
        Drain.complete_iff (virtioNetTxTraced sink h dma) (virtioNetTxMeets sink h dma) hrun
      exact ⟨new, hnew, by rw [hiff, or_iff_right hfd]⟩

/-! ## Two notifications -/

/-- A host whose calls succeed, with an empty file. -/
def emptyFile : BlkHost Unit where
  malloc _ _ := ((), true)
  pread _ _ _ := ((), .ok ⟨[], Nat.zero_le _⟩)
  pwrite _ _ data := ((), .ok ⟨data.length, le_refl _⟩)
  fsync _ := ((), .ok ())

/-- The driver has made two chains available: a request of a header and a status byte, and one that
begins with a header, `flags` being those of its header. -/
def requestMemory (flags : Nat) : GuestMemory :=
  { ramAtDram with
    ram := fun _ => writeAll (fun _ => 0)
      [⟨0x600, storeLe 8 0x80000900 ++ storeLe 4 16 ++ storeLe 2 virtioDescFNext ++ storeLe 2 1⟩,
        ⟨0x610, storeLe 8 0x80000a00 ++ storeLe 4 1 ++ storeLe 2 virtioDescFWrite⟩,
        ⟨0x620, storeLe 8 0x80000900 ++ storeLe 4 16 ++ storeLe 2 flags ++ storeLe 2 1⟩,
        ⟨0x702, storeLe 2 2 ++ storeLe 2 0 ++ storeLe 2 2⟩] }

/-- A block device at function `1` with the two chains in its ring. -/
def requestsWaiting (flags : Nat) : BlkSystem Unit where
  system := busMaster (requestMemory flags)
  host := ()
  blk := ⟨⟨1, ⟨2, 0, 0, 0, [⟨8, 0, 0, 0x80000600, 0x80000700, 0x80000800, true,
    fun _ => by constructor <;> decide⟩]⟩, [virtioPciNoVector], 0, true⟩, 0, false⟩
  log := []

theorem twoRequests_complete : ∃ t,
    virtioBlkNotify (fun _ => .ok ()) emptyFile (virtioNetDma (fun _ => .ok ()) 1) 3
      (requestsWaiting virtioDescFNext) 0 = some (t, .ok ()) ∧
    (virtioBlkConditions (fun _ => .ok ()) emptyFile (virtioNetDma (fun _ => .ok ()) 1)).Clean
      false (requestsWaiting virtioDescFNext) ∧
    t.log = [.taken 0, .done 0, .taken 2, .done 2, .announced] ∧ Complete t.log := by
  have hstatus : (virtioBlkNotify (fun _ => .ok ()) emptyFile (virtioNetDma (fun _ => .ok ()) 1) 3
      (requestsWaiting virtioDescFNext) 0).map (fun x => (x.1.log, x.2)) =
        some ([.taken 0, .done 0, .taken 2, .done 2, .announced], .ok ()) := by decide +kernel
  obtain ⟨⟨t, r⟩, hrun, heq⟩ := Option.map_eq_some_iff.mp hstatus
  obtain ⟨hlog, rfl⟩ := Prod.mk.inj heq
  have hloop := hrun
  rw [virtioBlkNotify, if_neg (not_not.mpr rfl)] at hloop
  have hclean := (virtioBlkMeets _ _ _).clean_of_run_ok hloop
  obtain ⟨new, hnew, hiff⟩ := (virtio_completion_iff _ _ 3 _).1 _ 0 _ t hrun
  refine ⟨t, hrun, hclean, hlog, ?_⟩
  rw [hnew]
  exact hiff.mpr (.inr (.inl hclean))

/-- The second chain has only a header, which is malformed for the device: the notification returns,
with the first chain given back but not announced, and the second one neither. -/
theorem malformedRequest_lost :
    (virtioBlkNotify (fun _ => .ok ()) emptyFile (virtioNetDma (fun _ => .ok ()) 1) 3
      (requestsWaiting 0) 0).map (fun x => (x.1.log, x.2)) =
        some ([.taken 0, .done 0, .taken 2], .error .eproto) ∧
    ¬ Complete ([.taken 0, .done 0, .taken 2] : List (DrainEvent Nat)) := by
  refine ⟨by decide +kernel, fun h => ?_⟩
  exact absurd h.order (by decide)

end Vart
