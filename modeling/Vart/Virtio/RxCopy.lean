import Vart.Pci.Frame
import Vart.Virtio.DmaView

/-!
# What a delivery copies

The copy of a frame fills every descriptor of the chain (`virtioNetCopyFrame_ok`): it copies as
many bytes of `rx_packet` as the chain can hold, not as many as the frame has. A delivery is
therefore exact (`RxExact`) if and only if the chain has exactly the size of the frame
(`rx_copy_exact_iff`).

`chunksFrom` gives the writes of the copy loop and `rxRanges` the parts of `rx_packet` that it reads;
`virtioNetCopyLoop_ok` is the invariant of the loop.
-/

namespace Vart

open Lib

/-! ## Chains -/

def VirtioChain.segs (chain : VirtioChain) : List Seg := chain.descriptors.map VirtioDescriptor.seg

/-- The bytes that fit behind the header. -/
def VirtioChain.capacity (chain : VirtioChain) : Nat := segsLength chain.segs - virtioNetHdrSize

/-- The buffers are memory of the view, do not wrap, and overlap neither each other nor the used
ring. -/
structure VirtioChain.WellFormed (chain : VirtioChain) (dom : Set Nat) (q : VirtioQueue) :
    Prop where
  memory : ∀ g ∈ chain.segs, g.range ⊆ dom
  no_wrap : ∀ g ∈ chain.segs, g.address + g.length ≤ 2 ^ 64
  disjoint : chain.segs.Pairwise Seg.Disjoint
  used : ∀ g ∈ chain.segs, g.Disjoint q.usedSeg

/-- The part of the first descriptor behind the header. -/
def VirtioDescriptor.body (d : VirtioDescriptor) : VirtioDescriptor :=
  { d with
    address := d.address + virtioNetHdrSize
    length := d.length - virtioNetHdrSize
    length_lt := (Nat.sub_le _ _).trans_lt d.length_lt }

theorem capacity_eq {chain : VirtioChain} {x : VirtioDescriptor} {ds : List VirtioDescriptor}
    (hcons : chain.descriptors = x :: ds) (hheader : virtioNetHdrSize ≤ x.length) :
    chain.capacity = segsLength ((x.body :: ds).map VirtioDescriptor.seg) := by
  rw [VirtioChain.capacity, VirtioChain.segs, hcons, List.map_cons, segsLength_cons,
    List.map_cons, segsLength_cons]
  simp only [VirtioDescriptor.seg, VirtioDescriptor.body]
  omega

/-- The sum that the code computes. -/
theorem virtioNetCapacity_ok {ds : List VirtioDescriptor} {start capacity : Nat}
    (h : virtioNetCapacity ds start = .ok capacity) (hstart : start ≤ uint32Max) :
    capacity = start + segsLength (ds.map VirtioDescriptor.seg) ∧ capacity ≤ uint32Max := by
  induction ds generalizing start with
  | nil =>
    cases h
    exact ⟨rfl, hstart⟩
  | cons d ds ih =>
    unfold virtioNetCapacity at h
    split at h
    · cases h
    rename_i hsum
    have hlt := d.length_lt
    simp only [uint32Max, not_or, Nat.not_lt] at hsum hstart ih ⊢
    obtain ⟨heq, hle⟩ := ih h (by omega)
    rw [List.map_cons, segsLength_cons]
    simp only [VirtioDescriptor.seg]
    omega

/-! ## The copy -/

/-- The ranges of `rx_packet` that the loop reads. -/
def rxRanges : List VirtioDescriptor → (copied : Nat) → List (Nat × Nat)
  | [], _ => []
  | d :: ds, copied => (copied, d.length) :: rxRanges ds (copied + d.length)

/-- The ranges end where the copy ends, and some range does if there is any. -/
theorem rxRanges_end {ds : List VirtioDescriptor} {copied : Nat} :
    (∀ r ∈ rxRanges ds copied,
      r.1 + r.2 ≤ copied + segsLength (ds.map VirtioDescriptor.seg)) ∧
    (ds ≠ [] → ∃ r ∈ rxRanges ds copied,
      r.1 + r.2 = copied + segsLength (ds.map VirtioDescriptor.seg)) := by
  induction ds generalizing copied with
  | nil => exact ⟨fun _ h => (nomatch h), fun h => absurd rfl h⟩
  | cons d ds ih =>
    rw [List.map_cons, segsLength_cons, ← Nat.add_assoc]
    obtain ⟨hle, hlast⟩ := @ih (copied + d.length)
    refine ⟨fun r hr => ?_, fun _ => ?_⟩
    · rcases List.mem_cons.mp hr with rfl | hr
      · simp only [VirtioDescriptor.seg]
        omega
      · exact hle r hr
    · by_cases hds : ds = []
      · subst hds
        exact ⟨_, List.mem_cons_self, rfl⟩
      · obtain ⟨r, hr, heq⟩ := hlast hds
        exact ⟨r, List.mem_cons_of_mem _ hr, heq⟩

section Copy

variable {sink : Sink} {d : Nat} (v : DmaView sink d)

/-- A copy that ends well: the writes that were done and the parts of `rx_packet` that were
read. -/
structure Copied (s t : NetSystem) (chunks : List Chunk) (ranges : List (Nat × Nat)) : Prop where
  inv : v.Inv t.system
  byte : Set.EqOn (v.byte t.system) (writeAll (v.byte s.system) chunks) v.dom
  net : t.net = s.net
  reads : t.rxReads = ranges.reverse ++ s.rxReads

theorem Copied.refl {s : NetSystem} (hs : v.Inv s.system) : Copied v s s [] [] :=
  ⟨hs, Set.eqOn_refl _ _, rfl, rfl⟩

variable {v}

theorem Copied.trans {s t u : NetSystem} {chunks chunks' : List Chunk}
    {ranges ranges' : List (Nat × Nat)} (h : Copied v s t chunks ranges)
    (h' : Copied v t u chunks' ranges') :
    Copied v s u (chunks ++ chunks') (ranges ++ ranges') := by
  refine ⟨h'.inv, h'.byte.trans ?_, h'.net.trans h.net, ?_⟩
  · rw [writeAll_append]
    exact eqOn_writeAll_congr h.byte chunks'
  · rw [h'.reads, h.reads, List.reverse_append, List.append_assoc]

variable (v)

theorem virtioNetDmaWrite_ok {s t : NetSystem} {address : Nat} {data : List UInt8}
    (hd : s.net.pci.pci = d) (hs : v.Inv s.system)
    (h : virtioNetDmaWrite sink s address data = (t, .ok ())) :
    Copied v s t [⟨address, data⟩] [] := by
  subst hd
  unfold virtioNetDmaWrite at h
  split at h
  rename_i system result hwrite
  cases h
  obtain ⟨hinv, hbyte⟩ := v.write_ok hs hwrite
  exact ⟨hinv, hbyte, rfl, rfl⟩

theorem virtioNetCopy_ok {s t : NetSystem} {packet : RxPacket} {address offset length : Nat}
    (hd : s.net.pci.pci = d) (hs : v.Inv s.system)
    (h : virtioNetCopy sink s packet address offset length = (t, .ok ())) :
    Copied v s t [⟨address, packet.data.read offset length⟩] [(offset, length)] := by
  unfold virtioNetCopy at h
  split at h
  · cases h
  rename_i u _ hwrite
  cases h
  have hcopied := virtioNetDmaWrite_ok v hd hs hwrite
  exact ⟨hcopied.inv, hcopied.byte, hcopied.net, congrArg _ hcopied.reads⟩

/-- The loop copies the packet from `copied` on to the descriptors. -/
theorem virtioNetCopyLoop_ok {packet : RxPacket} {ds : List VirtioDescriptor} {s t : NetSystem}
    {copied : Nat} (hd : s.net.pci.pci = d) (hs : v.Inv s.system)
    (hsum : copied + segsLength (ds.map VirtioDescriptor.seg) < 2 ^ 32)
    (h : virtioNetCopyLoop sink packet ds s copied = (t, .ok ())) :
    Copied v s t (chunksFrom packet.data copied (ds.map VirtioDescriptor.seg)) (rxRanges ds copied) := by
  induction ds generalizing s copied with
  | nil =>
    cases h
    exact .refl v hs
  | cons x ds ih =>
    rw [List.map_cons, segsLength_cons, ← Nat.add_assoc] at hsum
    unfold virtioNetCopyLoop at h
    split at h
    · cases h
    rename_i u _ hcopy
    have hfirst := virtioNetCopy_ok v hd hs hcopy
    -- `copied` is a `uint32_t` that the checked capacity keeps from wrapping.
    have hlt : copied + x.length < 2 ^ 32 := by
      simp only [VirtioDescriptor.seg] at hsum
      omega
    rw [Nat.mod_eq_of_lt hlt] at h
    exact hfirst.trans (ih (hfirst.net ▸ hd) hfirst.inv hsum h)

/-- The writes of a frame to the chain `x :: ds`: the header, then the packet. -/
def frameChunks (packet : RxPacket) (x : VirtioDescriptor) (ds : List VirtioDescriptor) :
    List Chunk :=
  ⟨x.address, List.replicate virtioNetHdrSize 0⟩ ::
    chunksFrom packet.data 0 ((x.body :: ds).map VirtioDescriptor.seg)

def frameRanges (x : VirtioDescriptor) (ds : List VirtioDescriptor) : List (Nat × Nat) :=
  if x.length > virtioNetHdrSize then rxRanges (x.body :: ds) 0 else rxRanges ds 0

/-- The copy fills the chain. -/
theorem virtioNetCopyFrame_ok {packet : RxPacket} {x : VirtioDescriptor}
    {ds : List VirtioDescriptor} {s t : NetSystem}
    (h : virtioNetCopyFrame sink s packet x ds = (t, .ok ())) (hd : s.net.pci.pci = d)
    (hs : v.Inv s.system) (hwrap : x.address + x.length ≤ 2 ^ 64)
    (hsum : segsLength ((x.body :: ds).map VirtioDescriptor.seg) < 2 ^ 32) :
    Copied v s t (frameChunks packet x ds) (frameRanges x ds) := by
  unfold virtioNetCopyFrame at h
  split at h
  · cases h
  rename_i u _ hheader
  have hheader := virtioNetDmaWrite_ok v hd hs hheader
  have hdu : u.net.pci.pci = d := hheader.net ▸ hd
  unfold frameRanges
  split at h
  · rename_i hlong
    rw [if_pos hlong]
    extract_lets length at h
    split at h
    · cases h
    rename_i w _ hbody
    rw [Nat.mod_eq_of_lt (by omega)] at hbody
    have hbody := virtioNetCopy_ok v hdu hheader.inv hbody
    rw [List.map_cons, segsLength_cons] at hsum
    have hrest := virtioNetCopyLoop_ok v (hbody.net ▸ hdu) hbody.inv hsum h
    simp only [frameChunks, List.map_cons, chunksFrom, rxRanges, Nat.zero_add]
    exact hheader.trans (hbody.trans hrest)
  · rename_i hshort
    rw [if_neg hshort]
    have hempty : x.body.length = 0 := Nat.sub_eq_zero_of_le (Nat.le_of_not_lt hshort)
    rw [List.map_cons, segsLength_cons] at hsum
    have hrest := virtioNetCopyLoop_ok v hdu hheader.inv (by omega) h
    have hall := hheader.trans hrest
    refine ⟨hall.inv, ?_, hall.net, hall.reads⟩
    -- The write of no bytes changes nothing.
    have hchunks : writeAll (v.byte s.system) (frameChunks packet x ds) = writeAll (v.byte s.system)
        (⟨x.address, List.replicate virtioNetHdrSize 0⟩ ::
          chunksFrom packet.data 0 (ds.map VirtioDescriptor.seg)) := by
      rw [frameChunks, List.map_cons, chunksFrom, VirtioDescriptor.seg, hempty, writeAll_cons]
      exact writeAll_cons_nil _ _ _
    rw [hchunks]
    exact hall.byte

end Copy

/-! ## The delivery -/

/-- What a view and the log of copies depend on. -/
def NetSystem.shown (s : NetSystem) : GuestMemory × (Nat → IommuContext) × List (Nat × Nat) :=
  (s.system.memory, s.system.contexts, s.rxReads)

theorem virtioPciRaiseVector_memory (sink : Sink) (pci : PciState) (d vector : Nat) :
    (virtioPciRaiseVector sink pci d vector).1.memory = pci.memory := by
  unfold virtioPciRaiseVector
  split
  · rfl
  · exact (congrArg PciState.memory (deliverSame_pciDeviceRaiseMsix sink pci d vector) :)

theorem raiseQueueInterrupt_shown (sink : Sink) (s : NetSystem) (index : Nat) :
    (s.raiseQueueInterrupt sink index).1.shown = s.shown := by
  unfold NetSystem.raiseQueueInterrupt virtioPciRaiseQueueInterrupt
  dsimp only
  split
  · rfl
  · exact congrArg (·, s.system.contexts, s.rxReads) (virtioPciRaiseVector_memory ..)

theorem virtioNetSetRxInterest_shown (s : NetSystem) (enabled : Bool) :
    (virtioNetSetRxInterest s enabled).1.shown = s.shown := by
  unfold virtioNetSetRxInterest
  split <;> rfl

/-- A delivery to a chain that is large enough copies the frame and announces the chain; what comes
after that changes neither memory nor the log of copies. -/
theorem virtioNetDeliverRx_copies {sink : Sink} {s w : NetSystem} {packet : RxPacket}
    {system : IommuSystem} {virtio : VirtioDevice} {chain : VirtioChain}
    (hpacket : s.net.rxPacket = some packet)
    (hpop : virtioQueuePop (s.dma sink) s.system s.net.pci.virtio 0 =
      (system, .ok (virtio, chain)))
    (hfit : packet.length ≤ chain.capacity) (h : virtioNetDeliverRx sink s = (w, .ok ())) :
    ∃ x ds t u, chain.descriptors = x :: ds ∧ virtioNetHdrSize ≤ x.length ∧
      chain.capacity ≤ uint32Max ∧
      virtioNetCopyFrame sink (({ s with system }).setVirtio virtio) packet x ds = (t, .ok ()) ∧
      virtioNetPushUsed sink t chain.head (virtioNetHdrSize + packet.length) = (u, .ok ()) ∧
      w.shown = u.shown := by
  unfold virtioNetDeliverRx at h
  simp only [hpacket, hpop] at h
  split at h
  · cases h
  rename_i x ds hchain
  split at h
  · cases h
  rename_i hfirst
  split at h
  · cases h
  rename_i capacity hcapacity
  have hlt := x.length_lt
  simp only [not_or, Nat.not_lt] at hfirst
  obtain ⟨hsum, hle⟩ := virtioNetCapacity_ok hcapacity (by simp only [uint32Max]; omega)
  have heq : chain.capacity = capacity := by
    rw [hsum, capacity_eq hchain hfirst.2, List.map_cons, segsLength_cons]
    rfl
  rw [if_neg (by omega)] at h
  split at h
  · cases h
  rename_i t _ hframe
  split at h
  · cases h
  rename_i u _ hpush
  split at h
  · cases h
  rename_i u' _ hraise
  refine ⟨x, ds, t, u, hchain, hfirst.2, heq ▸ hle, hframe, hpush, ?_⟩
  have hinterest := virtioNetSetRxInterest_shown u' true
  have hkept := raiseQueueInterrupt_shown sink u.dropPacket 0
  rw [h] at hinterest
  rw [hraise] at hkept
  exact hinterest.trans hkept

theorem virtioNetPushUsed_ok {sink : Sink} {d : Nat} (v : DmaView sink d) {s t : NetSystem}
    {q : VirtioQueue} {head length : Nat} (hd : s.net.pci.pci = d) (hs : v.Inv s.system)
    (hq : virtioQueueGet s.net.pci.virtio 0 = .ok q)
    (h : virtioNetPushUsed sink s head length = (t, .ok ())) :
    Set.EqOn (v.byte t.system) (v.byte s.system) (v.dom \ q.usedSeg.range) ∧
      t.rxReads = s.rxReads := by
  subst hd
  unfold virtioNetPushUsed at h
  split at h
  rename_i system virtio result hpush
  cases h
  exact ⟨(virtioQueuePushUsed_view v.toView hs hq hpush).2, rfl⟩

/-- A delivery to a chain that is large enough, seen through a view: the writes of the copy, and
the used ring. -/
theorem virtioNetDeliverRx_byte {sink : Sink} {s w : NetSystem}
    (v : DmaView sink s.net.pci.pci) {packet : RxPacket} {system : IommuSystem}
    {virtio : VirtioDevice} {chain : VirtioChain} {q : VirtioQueue} (hs : v.Inv s.system)
    (hpacket : s.net.rxPacket = some packet) (hq : virtioQueueGet s.net.pci.virtio 0 = .ok q)
    (hpop : virtioQueuePop (s.dma sink) s.system s.net.pci.virtio 0 =
      (system, .ok (virtio, chain)))
    (hwrap : ∀ g ∈ chain.segs, g.address + g.length ≤ 2 ^ 64)
    (hfit : packet.length ≤ chain.capacity) (h : virtioNetDeliverRx sink s = (w, .ok ())) :
    ∃ x ds, chain.descriptors = x :: ds ∧ virtioNetHdrSize ≤ x.length ∧
      Set.EqOn (v.byte w.system) (writeAll (v.byte s.system) (frameChunks packet x ds))
        (v.dom \ q.usedSeg.range) ∧
      w.rxReads = (frameRanges x ds).reverse ++ s.rxReads := by
  obtain ⟨x, ds, t, u, hchain, hheader, hle, hframe, hpush, hshown⟩ :=
    virtioNetDeliverRx_copies hpacket hpop hfit h
  obtain ⟨hinv, hpopByte, q', hq', rfl⟩ := virtioQueuePop_view v.toView hs hpop
  obtain rfl : q = q' := Except.ok.inj (hq.symm.trans hq')
  have hcopied := virtioNetCopyFrame_ok v hframe rfl hinv
    (hwrap x.seg (by rw [VirtioChain.segs, hchain]; exact List.mem_cons_self))
    (by rw [← capacity_eq hchain hheader]; exact Nat.lt_succ_of_le hle)
  have hget : virtioQueueGet t.net.pci.virtio 0 = .ok { q with lastAvail := q.lastAvail + 1 } := by
    rw [hcopied.net]
    exact virtioQueueGet_setQueue hq (virtioQueueGet_ok hq).2
  obtain ⟨hpushByte, hpushReads⟩ := virtioNetPushUsed_ok v (by rw [hcopied.net]; rfl) hcopied.inv
    hget hpush
  simp only [NetSystem.shown, Prod.mk.injEq] at hshown
  refine ⟨x, ds, hchain, hheader, ?_, (hshown.2.2.trans hpushReads).trans hcopied.reads⟩
  rw [v.byte_congr hshown.1 hshown.2.1]
  refine hpushByte.trans ((hcopied.byte.trans ?_).mono Set.sdiff_subset)
  exact eqOn_writeAll_congr hpopByte _

/-! ## The chain and the writes of a frame -/

section Frame

variable {x : VirtioDescriptor} {ds : List VirtioDescriptor}

/-- The first buffer is cut behind the header. -/
theorem frameChunks_seg (packet : RxPacket) :
    (frameChunks packet x ds).map Chunk.seg =
      ⟨x.address, virtioNetHdrSize⟩ :: x.body.seg :: ds.map VirtioDescriptor.seg := by
  rw [frameChunks, List.map_cons, chunksFrom_seg, List.map_cons, Chunk.seg, List.length_replicate]

theorem gather_cut (s : Store) (hheader : virtioNetHdrSize ≤ x.length) (segs : List Seg) :
    gather s (x.seg :: segs) = gather s (⟨x.address, virtioNetHdrSize⟩ :: x.body.seg :: segs) := by
  have hlength : x.length = virtioNetHdrSize + (x.length - virtioNetHdrSize) := by omega
  rw [gather_cons, gather_cons, gather_cons, ← List.append_assoc]
  exact congrArg (· ++ _) ((congrArg (s.read x.address) hlength).trans (Store.read_add ..))

theorem pairwise_cut (hheader : virtioNetHdrSize ≤ x.length) {segs : List Seg}
    (h : (x.seg :: segs).Pairwise Seg.Disjoint) :
    (⟨x.address, virtioNetHdrSize⟩ :: x.body.seg :: segs).Pairwise Seg.Disjoint := by
  obtain ⟨hfirst, hrest⟩ := List.pairwise_cons.mp h
  refine List.pairwise_cons.mpr ⟨fun g hg => ?_, List.pairwise_cons.mpr ⟨fun g hg => ?_, hrest⟩⟩
  · rcases List.mem_cons.mp hg with rfl | hg
    · exact .inr (.inr (.inl (Nat.le_refl _)))
    · exact (hfirst g hg).part (o := 0) (by simp only [VirtioDescriptor.seg]; omega)
  · refine (hfirst g hg).part (o := virtioNetHdrSize) ?_
    simp only [VirtioDescriptor.seg, VirtioDescriptor.body]
    omega

/-- The bytes that the copy leaves in the buffers: as many bytes of `rx_packet` as fit. -/
theorem gather_frameChunks (s : Store) (packet : RxPacket) (hheader : virtioNetHdrSize ≤ x.length)
    (h : (x.seg :: ds.map VirtioDescriptor.seg).Pairwise Seg.Disjoint) :
    gather (writeAll s (frameChunks packet x ds)) (x.seg :: ds.map VirtioDescriptor.seg) =
      List.replicate virtioNetHdrSize 0 ++
        packet.data.read 0 (segsLength ((x.body :: ds).map VirtioDescriptor.seg)) := by
  have hcut := pairwise_cut hheader h
  rw [← frameChunks_seg packet] at hcut
  rw [gather_cut _ hheader, ← frameChunks_seg packet, gather_writeAll s hcut, frameChunks,
    List.flatMap_cons, chunksFrom_data]

/-- No write of the copy goes outside the buffers. -/
theorem notMem_frameChunks {packet : RxPacket} (hheader : virtioNetHdrSize ≤ x.length) {a : Nat}
    (ha : ∀ g ∈ x.seg :: ds.map VirtioDescriptor.seg, a ∉ g.range) :
    ∀ c ∈ frameChunks packet x ds, a ∉ c.seg.range := by
  intro c hc
  have hseg : c.seg ∈ (frameChunks packet x ds).map Chunk.seg := List.mem_map_of_mem hc
  have hx := ha x.seg List.mem_cons_self
  rw [frameChunks_seg, List.mem_cons, List.mem_cons] at hseg
  simp only [Seg.range, Set.mem_Ico, VirtioDescriptor.seg] at hx
  rcases hseg with heq | heq | hmem
  · rw [heq]
    simp only [Seg.range, Set.mem_Ico]
    omega
  · rw [heq]
    simp only [Seg.range, Set.mem_Ico, VirtioDescriptor.seg, VirtioDescriptor.body]
    omega
  · exact ha _ (List.mem_cons_of_mem _ hmem)

/-- The copy reads `rx_packet` up to the size of the chain. -/
theorem frameRanges_end :
    (∀ r ∈ frameRanges x ds, r.1 + r.2 ≤ segsLength ((x.body :: ds).map VirtioDescriptor.seg)) ∧
    (0 < segsLength ((x.body :: ds).map VirtioDescriptor.seg) → ∃ r ∈ frameRanges x ds,
      r.1 + r.2 = segsLength ((x.body :: ds).map VirtioDescriptor.seg)) := by
  unfold frameRanges
  split
  · obtain ⟨hle, hlast⟩ := @rxRanges_end (x.body :: ds) 0
    rw [Nat.zero_add] at hle hlast
    exact ⟨hle, fun _ => hlast (List.cons_ne_nil _ _)⟩
  · rename_i hshort
    have hempty : x.body.seg.length = 0 := Nat.sub_eq_zero_of_le (Nat.le_of_not_lt hshort)
    obtain ⟨hle, hlast⟩ := @rxRanges_end ds 0
    rw [Nat.zero_add] at hle hlast
    rw [List.map_cons, segsLength_cons, hempty, Nat.zero_add]
    refine ⟨hle, fun hpos => hlast ?_⟩
    rintro rfl
    exact absurd hpos (by decide)

end Frame

/-! ## Exact deliveries -/

/-- The buffers of the chain start with the header and the frame and are unchanged behind them, no
other byte is changed outside the used ring, and only bytes of the frame were read. -/
structure RxExact {sink : Sink} {d : Nat} (v : DmaView sink d) (q : VirtioQueue)
    (chain : VirtioChain) (packet : RxPacket) (s t : NetSystem) : Prop where
  buffers : gather (v.byte t.system) chain.segs =
    List.replicate virtioNetHdrSize 0 ++ packet.frame ++
      (gather (v.byte s.system) chain.segs).drop (virtioNetHdrSize + packet.length)
  others : ∀ a ∈ v.dom, a ∉ q.usedSeg.range → (∀ g ∈ chain.segs, a ∉ g.range) →
    v.byte t.system a = v.byte s.system a
  reads : ∃ new, t.rxReads = new ++ s.rxReads ∧ ∀ r ∈ new, r.1 + r.2 ≤ packet.length

/-- A delivery that succeeds on a chain that can hold the frame is exact if and only if the chain
has the size of the frame. A larger chain is filled up with the bytes behind the frame. -/
theorem rx_copy_exact_iff {sink : Sink} {s t : NetSystem} (v : DmaView sink s.net.pci.pci)
    {packet : RxPacket} {system : IommuSystem} {virtio : VirtioDevice} {chain : VirtioChain}
    {q : VirtioQueue} (hs : v.Inv s.system) (hpacket : s.net.rxPacket = some packet)
    (hq : virtioQueueGet s.net.pci.virtio 0 = .ok q)
    (hpop : virtioQueuePop (s.dma sink) s.system s.net.pci.virtio 0 =
      (system, .ok (virtio, chain)))
    (hchain : chain.WellFormed v.dom q) (hfit : packet.length ≤ chain.capacity)
    (h : virtioNetDeliverRx sink s = (t, .ok ())) :
    RxExact v q chain packet s t ↔ chain.capacity = packet.length := by
  obtain ⟨x, ds, hcons, hheader, hbyte, hreads⟩ :=
    virtioNetDeliverRx_byte v hs hpacket hq hpop hchain.no_wrap hfit h
  have hsegs : chain.segs = x.seg :: ds.map VirtioDescriptor.seg := by
    rw [VirtioChain.segs, hcons, List.map_cons]
  have hcapacity := capacity_eq hcons hheader
  obtain ⟨hle, hlast⟩ := @frameRanges_end x ds
  rw [← hcapacity] at hle hlast
  have hpos := packet.length_pos
  constructor
  · rintro ⟨-, -, new, hnew, hread⟩
    obtain rfl := List.append_cancel_right (hnew.symm.trans hreads)
    obtain ⟨r, hr, hend⟩ := hlast (by omega)
    have := hread r (List.mem_reverse.mpr hr)
    omega
  · intro heq
    refine ⟨?_, fun a ha hused hout => ?_, _, hreads, fun r hr => ?_⟩
    · have hagree : gather (v.byte t.system) chain.segs =
          gather (writeAll (v.byte s.system) (frameChunks packet x ds)) chain.segs :=
        gather_congr fun g hg a ha =>
          hbyte ⟨hchain.memory g hg ha, (hchain.used g hg).symm.notMem a ha⟩
      have hdrop : (gather (v.byte s.system) chain.segs).drop
          (virtioNetHdrSize + packet.length) = [] := by
        apply List.drop_eq_nil_of_le
        rw [length_gather, ← heq, VirtioChain.capacity]
        omega
      rw [hagree, hdrop, List.append_nil, hsegs,
        gather_frameChunks _ packet hheader (hsegs ▸ hchain.disjoint), ← hcapacity, heq,
        RxPacket.frame]
    · exact (hbyte ⟨ha, hused⟩).trans
        (writeAll_out _ (notMem_frameChunks hheader (hsegs ▸ hout)))
    · rw [← heq]
      exact hle r (List.mem_reverse.mp hr)

/-! ## Two runs -/

/-- A frame of one byte, in memory that was full of `0x55`. -/
def waitingPacket : RxPacket := .ofFrame (fun _ => 0x55) ⟨[0xaa], by decide⟩ (by decide)

def waitingQueue : VirtioQueue :=
  ⟨8, 0, 0, 0x80000600, 0x80000700, 0x80000800, true, fun _ => queueLayout_eight⟩

/-- The driver has posted one buffer of `length` bytes. -/
def postedMemory (length : Nat) : GuestMemory :=
  { ramAtDram with
    ram := fun _ => writeAll (fun _ => 0)
      [⟨0x600, storeLe 8 0x80000900 ++ storeLe 4 length ++ storeLe 2 virtioDescFWrite⟩,
        ⟨0x702, storeLe 2 1⟩] }

def postedChain (length : Nat) (h : length < 2 ^ 32) : VirtioChain :=
  ⟨0, [⟨0x80000900, length, virtioDescFWrite, 0, h⟩]⟩

/-- A device at function `1` with a frame that waits for a buffer. -/
def frameWaiting (length : Nat) : NetSystem where
  system := runFrom (iommuStep fun _ => .ok ()) (iommuAtReset (postedMemory length))
    [.pci (.deviceInit 1 0x1af4 0x1041 0 0 0 2), .pci (.setDmaAs 1 (some .system)),
      .pci (.addDevice 0 1 8), .pci (.realize 1), .pci (.ecamWrite (8 <<< 12 ||| 4) .half 4)]
  net := {
    pci := ⟨1, ⟨1, 0, 0, 0, [waitingQueue, .zero]⟩, [virtioPciNoVector, virtioPciNoVector], 0, true⟩
    backendSource := eventSourceInit
    rxPacket := some waitingPacket
    backendFd := some 3 }
  rxReads := []

/-- The machine has one region and the DMA of the function is not translated. -/
theorem frameWaiting_machine : ∀ length ∈ [13, 14],
    (frameWaiting length).system.memory.space.regions = ramAtDram.space.regions ∧
    ((frameWaiting length).system.pci.devices 1).parent.dmaAs = some .system := by
  decide +kernel

theorem frameWaiting_direct (sink : Sink) {length : Nat} (h : length ∈ [13, 14]) :
    (directView sink 1 (frameWaiting length).system.memory.space).Inv
      (frameWaiting length).system := ⟨rfl, .inl (frameWaiting_machine length h).2⟩

theorem postedChain_wellFormed {length : Nat} (h : length ∈ [13, 14]) (hlt : length < 2 ^ 32) :
    (postedChain length hlt).WellFormed (frameWaiting length).system.memory.space.plain
      waitingQueue := by
  refine ⟨fun _ _ a _ r hr r' hr' _ _ => ?_, ?_, List.pairwise_singleton _ _, ?_⟩
  · rw [(frameWaiting_machine length h).1] at hr hr'
    exact (List.mem_singleton.mp hr).trans (List.mem_singleton.mp hr').symm
  · intro g hg
    obtain rfl := List.mem_singleton.mp hg
    simp only [VirtioDescriptor.seg]
    omega
  · intro g hg
    obtain rfl := List.mem_singleton.mp hg
    have hused : waitingQueue.usedSeg.address + waitingQueue.usedSeg.length ≤ 0x80000900 := by
      decide
    exact .inr (.inr (.inr hused))

theorem virtioQueuePop_of_chain {σ : Type} {dma : VirtioDmaOps σ} {s : σ} {dev : VirtioDevice}
    {index : Nat} {chain : VirtioChain}
    (h : (virtioQueuePop dma s dev index).2.map Prod.snd = .ok chain) :
    ∃ system virtio, virtioQueuePop dma s dev index = (system, .ok (virtio, chain)) := by
  obtain ⟨system, result, heq⟩ : ∃ system result, virtioQueuePop dma s dev index = (system, result) :=
    ⟨_, _, rfl⟩
  rw [heq] at h
  cases result with
  | error e => cases h
  | ok popped =>
    cases h
    exact ⟨system, popped.1, heq⟩

theorem frameWaiting_exact :
    RxExact (directView (fun _ => .ok ()) 1 (frameWaiting 13).system.memory.space) waitingQueue
      (postedChain 13 (by decide)) waitingPacket (frameWaiting 13)
      (virtioNetDeliverRx (fun _ => .ok ()) (frameWaiting 13)).1 := by
  obtain ⟨system, virtio, hpop⟩ := @virtioQueuePop_of_chain IommuSystem
    ((frameWaiting 13).dma fun _ => .ok ()) (frameWaiting 13).system
    (frameWaiting 13).net.pci.virtio 0 (postedChain 13 (by decide)) (by decide +kernel)
  refine (rx_copy_exact_iff _ (frameWaiting_direct _ (by decide)) rfl rfl hpop
    (postedChain_wellFormed (by decide) _) (by decide) (Prod.ext rfl ?_)).mpr (by decide)
  decide +kernel

/-- A buffer that is one byte larger than the frame: the delivery succeeds, reads a byte of
`rx_packet` behind the frame, and writes it to the guest. -/
theorem larger_buffer_overfilled :
    let s := frameWaiting 14
    let t := (virtioNetDeliverRx (fun _ => .ok ()) s).1
    let v := directView (fun _ => .ok ()) 1 s.system.memory.space
    let chain := postedChain 14 (by decide)
    (virtioNetDeliverRx (fun _ => .ok ()) s).2 = .ok () ∧ v.Inv s.system ∧
    (virtioQueuePop (s.dma fun _ => .ok ()) s.system s.net.pci.virtio 0).2.map Prod.snd =
      .ok chain ∧
    chain.WellFormed v.dom waitingQueue ∧ waitingPacket.length ≤ chain.capacity ∧
    gather (v.byte s.system) chain.segs = List.replicate 14 0 ∧
    gather (v.byte t.system) chain.segs = List.replicate 12 0 ++ [0xaa, 0x55] ∧
    t.rxReads = [(0, 2)] ∧ ¬ RxExact v waitingQueue chain waitingPacket s t := by
  intro s t v chain
  have hreads : t.rxReads = [(0, 2)] := by decide +kernel
  refine ⟨by decide +kernel, frameWaiting_direct _ (by decide), by decide +kernel,
    postedChain_wellFormed (by decide) _, by decide, by decide +kernel, by decide +kernel, hreads,
    fun h => ?_⟩
  obtain ⟨new, hnew, hread⟩ := h.reads
  rw [hreads] at hnew
  obtain rfl : [(0, 2)] = new := hnew.trans (List.append_nil new)
  exact absurd (hread (0, 2) (List.mem_singleton_self _)) (by decide)

end Vart
