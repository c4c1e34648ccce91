import Vart.Virtio.DmaView

/-!
# The order of a split virtqueue

The device counts what it took from the available ring and what it put into the used ring in
16 bits; the slot of a count is its remainder by the size of the queue. The size is a power of
two, so that it divides `2 ^ 16` and the slots go on in order when a counter wraps.

`queueStep` is a queue in use: the driver changes memory and makes entries available, the device
pops and pushes, in any order. The ghosts `posted`, `popped` and `pushed` list the heads that the
driver made available, those that the device took, and what it gave back.

* `virtioQueuePop_memory`, `virtioQueuePushUsed_memory`: what the calls do if DMA is a memory that
  does not fail (`Port.Memory`).
* `QueueInv`: the counters are the numbers of pops and pushes modulo `2 ^ 16`, and the writes of
  the device are those of its pushes.
* `virtqueue_order`: the order of both rings, for runs of any length.
-/

namespace Vart

open Lib

/-! ## Slots of the rings -/

namespace VirtioQueue

/-- `avail.idx`. -/
def availableIdx (q : VirtioQueue) (b : Store) : Nat := loadLe (b.read (q.availableAddress + 2) 2)

/-- `avail.ring[k mod size]`. -/
def availableEntry (q : VirtioQueue) (b : Store) (k : Nat) : Nat :=
  loadLe (b.read (q.availableAddress + virtioAvailableHeaderSize + k % q.size * 2) 2)

/-- The write of an element to `used.ring[k mod size]`. -/
def usedElement (q : VirtioQueue) (k head length : Nat) : Chunk where
  address := q.usedAddress + virtioUsedHeaderSize + k % q.size * virtioUsedElementSize
  data := storeLe 4 head ++ storeLe 4 length

/-- The write of `used.idx` that announces the element `k`. -/
def usedIdx (q : VirtioQueue) (k : Nat) : Chunk where
  address := q.usedAddress + 2
  data := storeLe 2 ((k + 1) % 2 ^ 16)

/-- The writes of pushes: each element goes to its slot, and then the index announces it. -/
def pushWrites (q : VirtioQueue) (pushed : List (Nat × Nat)) : List Chunk :=
  pushed.zipIdx.flatMap fun ((head, length), k) => [q.usedElement k head length, q.usedIdx k]

theorem pushWrites_append (q : VirtioQueue) (pushed : List (Nat × Nat)) (head length : Nat) :
    q.pushWrites (pushed ++ [(head, length)]) =
      q.pushWrites pushed ++
        [q.usedElement pushed.length head length, q.usedIdx pushed.length] := by
  simp [pushWrites, List.zipIdx_append]

/-- The memory of the queue belongs to `dom`. -/
structure Inside (q : VirtioQueue) (dom : Set Nat) : Prop where
  descriptors : (Seg.mk q.descriptorAddress (q.size * virtioDescriptorSize)).range ⊆ dom
  available : (Seg.mk q.availableAddress (virtioAvailableHeaderSize + q.size * 2)).range ⊆ dom
  used : q.usedSeg.range ⊆ dom

/-- A part of a range in `dom`. -/
theorem Inside.part {dom : Set Nat} {a n b k : Nat} (h : (Seg.mk a n).range ⊆ dom) (hle : a ≤ b)
    (hend : b + k ≤ a + n) : (Seg.mk b k).range ⊆ dom :=
  fun _ hx => h ⟨hle.trans hx.1, hx.2.trans_le hend⟩

/-- The element and the index are in memory after the writes of a push. -/
theorem push_read {q : VirtioQueue} {dom : Set Nat} {b b' : Store} {k head length : Nat}
    (hpos : 0 < q.size) (hin : q.usedSeg.range ⊆ dom)
    (hbyte : Set.EqOn b' (writeAll b [q.usedElement k head length, q.usedIdx k]) dom) :
    b'.read (q.usedElement k head length).address virtioUsedElementSize =
        storeLe 4 head ++ storeLe 4 length ∧
      b'.read (q.usedAddress + 2) 2 = storeLe 2 ((k + 1) % 2 ^ 16) := by
  have hslot : k % q.size < q.size := Nat.mod_lt _ hpos
  have hread : ∀ {a n : Nat}, q.usedAddress ≤ a →
      a + n ≤ q.usedAddress + (virtioUsedHeaderSize + q.size * virtioUsedElementSize) →
      b'.read a n = (writeAll b [q.usedElement k head length, q.usedIdx k]).read a n :=
    fun hle hend => Store.read_congr fun x hx hx' => hbyte (Inside.part hin hle hend ⟨hx, hx'⟩)
  simp only [virtioUsedHeaderSize, virtioUsedElementSize] at hread
  simp only [virtioUsedElementSize, usedElement, usedIdx, virtioUsedHeaderSize, writeAll,
    List.foldl_cons, List.foldl_nil] at hread ⊢
  constructor
  · rw [hread (by omega) (by omega), Store.read_write_disjoint _ (by rw [length_storeLe]; omega)]
    exact Store.read_write_same _ _ (storeLe 4 head ++ storeLe 4 length)
  · rw [hread (by omega) (by omega)]
    exact Store.read_write_same _ _ (storeLe 2 _)

end VirtioQueue

/-- A power of two up to `2 ^ 16`, as `vart_virtio_queue_configure` checks it. -/
theorem dvd_of_and_pred {n : Nat} (hpos : 0 < n) (hle : n ≤ virtioMaxQueueSize)
    (hpow : n &&& (n - 1) = 0) : n ∣ 2 ^ 16 := by
  have hall : ∀ n ∈ List.range 1025, 0 < n → n &&& (n - 1) = 0 → n ∣ 2 ^ 16 := by decide +kernel
  exact hall n (List.mem_range.mpr (Nat.lt_succ_of_le hle)) hpos hpow

theorem QueueLayout.dvd {size d a u : Nat} (h : QueueLayout size d a u) : size ∣ 2 ^ 16 :=
  dvd_of_and_pred h.size_pos h.size_le h.size_pow

/-- The slot of a 16-bit counter is the slot of the number that it counts. -/
theorem QueueLayout.slot {size d a u : Nat} (h : QueueLayout size d a u) (k : Nat) :
    (UInt16.ofNat k).toNat % size = k % size := by
  rw [UInt16.toNat_ofNat', Nat.mod_mod_of_dvd _ h.dvd]

/-! ## Pops and pushes on memory -/

section Memory

variable {σ : Type} {dma : VirtioDmaOps σ} {m : dma.Memory} {q : VirtioQueue} {s : σ}

/-- A walk along a chain reads only, and fails only for what it reads. -/
theorem virtioChainLoop_memory
    (hlayout : QueueLayout q.size q.descriptorAddress q.availableAddress q.usedAddress)
    (hin : q.Inside m.dom) (room : Nat) (visited : List Nat) {index : Nat} (hs : m.Inv s)
    (hindex : index < q.size) :
    ∃ t r, virtioChainLoop dma q room s visited index = (t, r) ∧ m.Same s t ∧
      r ≠ .error .eagain := by
  induction room generalizing s visited index with
  | zero => exact ⟨s, .error .eproto, rfl, .refl hs, by decide⟩
  | succ room ih =>
    have hend := hlayout.descriptor_end
    simp only [virtioDescriptorSize] at hend
    have hdom : (Seg.mk (q.descriptorAddress + index * virtioDescriptorSize)
        virtioDescriptorSize).range ⊆ m.dom :=
      VirtioQueue.Inside.part hin.descriptors (by omega)
        (by simp only [virtioDescriptorSize]; omega)
    obtain ⟨t, hread, ht⟩ := m.read_same hs hdom
    unfold virtioChainLoop
    split
    · exact ⟨s, _, rfl, .refl hs, by simp⟩
    rw [Nat.mod_eq_of_lt (by simp only [virtioDescriptorSize]; omega), hread]
    dsimp only
    split
    · exact ⟨t, _, rfl, ht, by simp⟩
    split
    · exact ⟨t, _, rfl, ht, by simp⟩
    split
    · exact ⟨t, _, rfl, ht, by simp⟩
    split
    · exact ⟨t, _, rfl, ht, by simp⟩
    rename_i hnext
    obtain ⟨u, r, hloop, hu, hr⟩ := ih (index :: visited) ht.inv
      (Nat.not_le.mp (not_or.mp hnext).1)
    rw [hloop]
    cases r with
    | error e => exact ⟨u, _, rfl, ht.trans hu, fun h => hr (by cases h; rfl)⟩
    | ok ds => exact ⟨u, _, rfl, ht.trans hu, by simp⟩

/-- The results of a pop on memory `b`. -/
inductive PopOutcome (dev : VirtioDevice) (index : Nat) (q : VirtioQueue) (b : Store) :
    Except Errno (VirtioDevice × VirtioChain) → Prop
  | empty (idx : UInt16.ofNat (q.availableIdx b) = q.lastAvail) :
      PopOutcome dev index q b (.error .eagain)
  | failed {e : Errno} (idx : UInt16.ofNat (q.availableIdx b) ≠ q.lastAvail)
      (error : e ≠ .eagain) : PopOutcome dev index q b (.error e)
  | popped {chain : VirtioChain} (idx : UInt16.ofNat (q.availableIdx b) ≠ q.lastAvail)
      (head : chain.head = q.availableEntry b q.lastAvail.toNat) :
      PopOutcome dev index q b
        (.ok (dev.setQueue index { q with lastAvail := q.lastAvail + 1 }, chain))

theorem virtioQueuePop_memory {dev : VirtioDevice} {index : Nat} (hs : m.Inv s)
    (hq : virtioQueueGet dev index = .ok q) (hin : q.Inside m.dom) :
    ∃ t r, virtioQueuePop dma s dev index = (t, r) ∧ m.Same s t ∧
      PopOutcome dev index q (m.byte s) r := by
  have hlayout := q.wf (virtioQueueGet_ok hq).2
  have hend := hlayout.available_end
  have hslot : q.lastAvail.toNat % q.size < q.size := Nat.mod_lt _ hlayout.size_pos
  simp only [virtioAvailableHeaderSize] at hend
  have hidx : (Seg.mk (q.availableAddress + 2) 2).range ⊆ m.dom :=
    VirtioQueue.Inside.part hin.available (by omega)
      (by simp only [virtioAvailableHeaderSize]; omega)
  have hring : (Seg.mk (q.availableAddress + virtioAvailableHeaderSize +
      q.lastAvail.toNat % q.size * 2) 2).range ⊆ m.dom :=
    VirtioQueue.Inside.part hin.available (by omega)
      (by simp only [virtioAvailableHeaderSize]; omega)
  obtain ⟨t, hread, ht⟩ := m.read_same hs hidx
  unfold virtioQueuePop
  simp only [hq]
  rw [Nat.mod_eq_of_lt (by omega), hread]
  dsimp only
  split
  · rename_i hempty
    exact ⟨t, _, rfl, ht, .empty hempty⟩
  rename_i hsome
  split
  · exact ⟨t, _, rfl, ht, .failed hsome (by simp)⟩
  obtain ⟨u, hread', hu⟩ := m.read_same ht.inv hring
  rw [Nat.mod_eq_of_lt (by simp only [virtioAvailableHeaderSize]; omega), hread',
    ht.read_eq hring]
  dsimp only
  split
  · exact ⟨u, _, rfl, ht.trans hu, .failed hsome (by simp)⟩
  rename_i hhead
  obtain ⟨w, r, hloop, hw, hr⟩ := virtioChainLoop_memory hlayout hin virtioMaxQueueSize []
    hu.inv (Nat.not_le.mp hhead)
  rw [hloop]
  have hsame := (ht.trans hu).trans hw
  cases r with
  | error e => exact ⟨w, _, rfl, hsame, .failed hsome fun h => hr (by rw [h])⟩
  | ok ds => exact ⟨w, _, rfl, hsame, .popped hsome rfl⟩

/-- A push writes the element, and then the index. -/
theorem virtioQueuePushUsed_memory {dev : VirtioDevice} {index head : Nat} (length : Nat)
    (hs : m.Inv s) (hq : virtioQueueGet dev index = .ok q) (hin : q.Inside m.dom)
    (hhead : head < q.size) :
    ∃ t, virtioQueuePushUsed dma s dev index head length =
        (t, dev.setQueue index { q with nextUsed := q.nextUsed + 1 }, .ok ()) ∧ m.Inv t ∧
      Set.EqOn (m.byte t) (writeAll (m.byte s)
        [q.usedElement q.nextUsed.toNat head length, q.usedIdx q.nextUsed.toNat]) m.dom ∧
      m.writes t = m.writes s ++
        [q.usedElement q.nextUsed.toNat head length, q.usedIdx q.nextUsed.toNat] := by
  have hlayout := q.wf (virtioQueueGet_ok hq).2
  have hend := hlayout.used_end
  have hslot : q.nextUsed.toNat % q.size < q.size := Nat.mod_lt _ hlayout.size_pos
  simp only [virtioUsedHeaderSize, virtioUsedElementSize] at hend
  have hindex : (q.nextUsed + 1).toNat = (q.nextUsed.toNat + 1) % 2 ^ 16 := by
    rw [UInt16.toNat_add]
    rfl
  have helement : (q.usedElement q.nextUsed.toNat head length).seg.range ⊆ m.dom :=
    VirtioQueue.Inside.part hin.used (by simp only [VirtioQueue.usedElement]; omega)
      (by simp only [VirtioQueue.usedElement, List.length_append, length_storeLe,
            virtioUsedHeaderSize, virtioUsedElementSize]; omega)
  have hidx : (q.usedIdx q.nextUsed.toNat).seg.range ⊆ m.dom :=
    VirtioQueue.Inside.part hin.used (by simp only [VirtioQueue.usedIdx]; omega)
      (by simp only [VirtioQueue.usedIdx, length_storeLe, virtioUsedHeaderSize,
            virtioUsedElementSize]; omega)
  obtain ⟨t, hwrite, ht, hbyte, hwrites⟩ := m.write hs helement
  obtain ⟨u, hwrite', hu, hbyte', hwrites'⟩ := m.write ht hidx
  refine ⟨u, ?_, hu, hbyte'.trans (eqOn_write hbyte _ _), ?_⟩
  · unfold virtioQueuePushUsed
    simp only [hq]
    rw [if_neg (Nat.not_le.mpr hhead), Nat.mod_eq_of_lt
      (by simp only [virtioUsedHeaderSize, virtioUsedElementSize]; omega), hindex]
    simp only [VirtioQueue.usedElement, VirtioQueue.usedIdx] at hwrite hwrite'
    rw [hwrite]
    dsimp only
    rw [Nat.mod_eq_of_lt (by omega), hwrite']
  · rw [hwrites', hwrites, List.append_assoc]
    rfl

end Memory

/-! ## A queue in use -/

structure QueueRun (σ : Type) where
  memory : σ
  device : VirtioDevice
  /-- The heads that the driver made available. -/
  posted : List Nat
  /-- The heads of the chains that the device popped. -/
  popped : List Nat
  /-- The heads and lengths that the device pushed. -/
  pushed : List (Nat × Nat)

inductive QueueOp (σ : Type) where
  /-- The driver changes memory; it has made `heads` available now. -/
  | driver (memory : σ) (heads : List Nat)
  | pop
  | push (head length : Nat)

def queueStep {σ : Type} (dma : VirtioDmaOps σ) (index : Nat) (r : QueueRun σ) :
    QueueOp σ → QueueRun σ
  | .driver memory heads => { r with memory, posted := r.posted ++ heads }
  | .pop =>
    match virtioQueuePop dma r.memory r.device index with
    | (memory, .error _) => { r with memory }
    | (memory, .ok (device, chain)) =>
      { r with memory, device, popped := r.popped ++ [chain.head] }
  | .push head length =>
    match virtioQueuePushUsed dma r.memory r.device index head length with
    | (memory, device, .error _) => { r with memory, device }
    | (memory, device, .ok _) =>
      { r with memory, device, pushed := r.pushed ++ [(head, length)] }

section Runs

variable {σ : Type} {dma : VirtioDmaOps σ}

/-- What the driver keeps in the available ring while the device looks at it: the index counts the
entries, no more of them are outstanding than the ring has slots, and each one that the device did
not take yet is in its slot. -/
structure QueueRun.Offered (m : dma.Memory) (r : QueueRun σ) (q : VirtioQueue) : Prop where
  idx : q.availableIdx (m.byte r.memory) = r.posted.length % 2 ^ 16
  outstanding : r.posted.length ≤ r.popped.length + q.size
  entry : ∀ k head, r.popped.length ≤ k → r.posted[k]? = some head →
    q.availableEntry (m.byte r.memory) k = head

/-- The driver leaves the log of the writes of the device alone, and offers entries in order. A
push gives back a head of the queue. -/
def QueueOp.Valid (m : dma.Memory) (index : Nat) (r : QueueRun σ) : QueueOp σ → Prop
  | .driver memory _ => m.Inv memory ∧ m.writes memory = m.writes r.memory
  | .pop => ∀ q, virtioQueueGet r.device index = .ok q → r.Offered m q
  | .push head _ => ∀ q, virtioQueueGet r.device index = .ok q → head < q.size

/-- After `vart_virtio_queue_configure`. -/
structure QueueRun.Configured (m : dma.Memory) (index : Nat) (r : QueueRun σ) : Prop where
  configured : ∃ dev size descriptorAddress availableAddress usedAddress,
    virtioQueueConfigure dev index size descriptorAddress availableAddress usedAddress =
      .ok r.device
  inside : ∀ q, virtioQueueGet r.device index = .ok q → q.Inside m.dom
  inv : m.Inv r.memory
  writes : m.writes r.memory = []
  ghosts : r.posted = [] ∧ r.popped = [] ∧ r.pushed = []

/-- The queue after `k` pops and `j` pushes. -/
def VirtioQueue.after (q : VirtioQueue) (k j : Nat) : VirtioQueue :=
  { q with lastAvail := UInt16.ofNat k, nextUsed := UInt16.ofNat j }

theorem VirtioQueue.after_pop (q : VirtioQueue) (k j : Nat) :
    { q.after k j with lastAvail := (q.after k j).lastAvail + 1 } = q.after (k + 1) j := by
  simp only [after, UInt16.ofNat_add]
  rfl

theorem VirtioQueue.after_push (q : VirtioQueue) (k j : Nat) :
    { q.after k j with nextUsed := (q.after k j).nextUsed + 1 } = q.after k (j + 1) := by
  simp only [after, UInt16.ofNat_add]
  rfl

theorem virtioQueueConfigure_ok {dev dev' : VirtioDevice}
    {index size descriptorAddress availableAddress usedAddress : Nat}
    (h : virtioQueueConfigure dev index size descriptorAddress availableAddress usedAddress =
      .ok dev') :
    ∃ q, virtioQueueGet dev' index = .ok q ∧ q.lastAvail = 0 ∧ q.nextUsed = 0 := by
  unfold virtioQueueConfigure at h
  split at h
  · cases h
  rename_i q hq
  split at h
  · cases h
  rename_i hchecks
  split at h
  · cases h
  split at h
  · cases h
  rename_i hrange
  cases h
  obtain ⟨hlt, -⟩ := List.getElem?_eq_some_iff.mp hq
  refine ⟨⟨size, 0, 0, descriptorAddress, availableAddress, usedAddress, true,
    fun _ => .of_checks hchecks hrange⟩, ?_, rfl, rfl⟩
  simp [virtioQueueGet, VirtioDevice.setQueue, List.getElem?_set_self hlt]

/-- The queue `q` was configured; the counters follow the ghosts. -/
structure QueueInv (m : dma.Memory) (index : Nat) (q : VirtioQueue) (r : QueueRun σ) : Prop where
  queue : virtioQueueGet r.device index = .ok (q.after r.popped.length r.pushed.length)
  inside : q.Inside m.dom
  inv : m.Inv r.memory
  popped : r.popped <+: r.posted
  writes : m.writes r.memory = q.pushWrites r.pushed

variable {m : dma.Memory} {index : Nat} {q : VirtioQueue} {r : QueueRun σ}

theorem QueueInv.layout (h : QueueInv m index q r) :
    QueueLayout q.size q.descriptorAddress q.availableAddress q.usedAddress :=
  q.wf (virtioQueueGet_ok h.queue).2

theorem QueueRun.Configured.inv_ghosts (h : r.Configured m index) : ∃ q, QueueInv m index q r := by
  obtain ⟨dev, size, d, a, u, hconf⟩ := h.configured
  obtain ⟨q, hq, hlast, hnext⟩ := virtioQueueConfigure_ok hconf
  obtain ⟨hposted, hpopped, hpushed⟩ := h.ghosts
  refine ⟨q, ?_, h.inside q hq, h.inv, by rw [hpopped]; exact List.nil_prefix, ?_⟩
  · rw [hq, hpopped, hpushed]
    cases q
    cases hlast
    cases hnext
    rfl
  · rw [h.writes, hpushed]
    rfl

/-- The counter of the driver has moved away from the one of the device exactly if entries are
outstanding: at most `size` of them fit, and `size` is below `2 ^ 16`. -/
theorem QueueInv.idx_eq_iff (h : QueueInv m index q r)
    (ho : r.Offered m (q.after r.popped.length r.pushed.length)) :
    UInt16.ofNat ((q.after r.popped.length r.pushed.length).availableIdx (m.byte r.memory)) =
      (q.after r.popped.length r.pushed.length).lastAvail ↔
      r.popped.length = r.posted.length := by
  have hle := h.popped.length_le
  have hout : r.posted.length ≤ r.popped.length + q.size := ho.outstanding
  have hsize := h.layout.size_le
  simp only [virtioMaxQueueSize] at hsize
  rw [ho.idx, ← UInt16.toNat_inj]
  simp only [VirtioQueue.after, UInt16.toNat_ofNat', Nat.mod_mod]
  omega

theorem VirtioQueue.Inside.after {dom : Set Nat} (h : q.Inside dom) (k j : Nat) :
    (q.after k j).Inside dom := ⟨h.descriptors, h.available, h.used⟩

/-- What a pop from a state of a run does. -/
theorem QueueInv.pop (h : QueueInv m index q r)
    (ho : r.Offered m (q.after r.popped.length r.pushed.length)) :
    ∃ t result, virtioQueuePop dma r.memory r.device index = (t, result) ∧ m.Same r.memory t ∧
      (result = .error .eagain ↔ r.popped.length = r.posted.length) ∧
      ∀ dev chain, result = .ok (dev, chain) →
        chain.head = q.availableEntry (m.byte r.memory) r.popped.length ∧
        r.posted[r.popped.length]? = some chain.head ∧
        virtioQueueGet dev index = .ok (q.after (r.popped.length + 1) r.pushed.length) := by
  obtain ⟨t, result, hpop, ht, hout⟩ := virtioQueuePop_memory h.inv h.queue (h.inside.after ..)
  refine ⟨t, result, hpop, ht, ?_⟩
  have hidx := h.idx_eq_iff ho
  have hready := (virtioQueueGet_ok h.queue).2
  cases hout with
  | empty he => exact ⟨⟨fun _ => hidx.mp he, fun _ => rfl⟩, nofun⟩
  | failed hne herror =>
    refine ⟨⟨fun he => ?_, fun he => absurd (hidx.mpr he) hne⟩, nofun⟩
    cases he
    exact absurd rfl herror
  | @popped chain hne hhead =>
    refine ⟨⟨nofun, fun he => absurd (hidx.mpr he) hne⟩, ?_⟩
    rintro dev chain' heq
    cases heq
    have hlt : r.popped.length < r.posted.length :=
      lt_of_le_of_ne h.popped.length_le (fun he => hne (hidx.mpr he))
    have hslot : (q.after r.popped.length r.pushed.length).availableEntry (m.byte r.memory)
        (q.after r.popped.length r.pushed.length).lastAvail.toNat =
        q.availableEntry (m.byte r.memory) r.popped.length := by
      simp only [VirtioQueue.availableEntry, VirtioQueue.after, h.layout.slot]
    have hentry := ho.entry r.popped.length _ (le_refl _) (List.getElem?_eq_getElem hlt)
    rw [hslot] at hhead
    refine ⟨hhead, ?_, ?_⟩
    · rw [List.getElem?_eq_getElem hlt, hhead]
      exact congrArg some hentry.symm
    · rw [← VirtioQueue.after_pop]
      exact virtioQueueGet_setQueue h.queue hready

/-- What a push from a state of a run does. -/
theorem QueueInv.push (h : QueueInv m index q r) {head : Nat} (length : Nat)
    (hhead : head < q.size) :
    ∃ t dev, virtioQueuePushUsed dma r.memory r.device index head length = (t, dev, .ok ()) ∧
      m.Inv t ∧
      virtioQueueGet dev index = .ok (q.after r.popped.length (r.pushed.length + 1)) ∧
      Set.EqOn (m.byte t) (writeAll (m.byte r.memory)
        [q.usedElement r.pushed.length head length, q.usedIdx r.pushed.length]) m.dom ∧
      m.writes t = q.pushWrites (r.pushed ++ [(head, length)]) := by
  obtain ⟨t, hpush, ht, hbyte, hwrites⟩ :=
    virtioQueuePushUsed_memory length h.inv h.queue (h.inside.after ..) hhead
  have helement : (q.after r.popped.length r.pushed.length).usedElement
      (UInt16.ofNat r.pushed.length).toNat head length =
      q.usedElement r.pushed.length head length := by
    simp only [VirtioQueue.usedElement, VirtioQueue.after, h.layout.slot]
  have hidx : (q.after r.popped.length r.pushed.length).usedIdx
      (UInt16.ofNat r.pushed.length).toNat = q.usedIdx r.pushed.length := by
    simp only [VirtioQueue.usedIdx, VirtioQueue.after, UInt16.toNat_ofNat', Nat.mod_add_mod]
  have hready := (virtioQueueGet_ok h.queue).2
  refine ⟨t, _, hpush, ht, ?_, ?_, ?_⟩
  · rw [← VirtioQueue.after_push]
    exact virtioQueueGet_setQueue h.queue hready
  · rw [← helement, ← hidx]
    exact hbyte
  · rw [hwrites, VirtioQueue.pushWrites_append, h.writes, ← helement, ← hidx]
    rfl

theorem queueStep_inv (h : QueueInv m index q r) {op : QueueOp σ} (hv : op.Valid m index r) :
    QueueInv m index q (queueStep dma index r op) := by
  cases op with
  | driver memory heads =>
    exact ⟨h.queue, h.inside, hv.1, h.popped.trans (List.prefix_append ..), hv.2.trans h.writes⟩
  | pop =>
    obtain ⟨t, result, hpop, ht, -, hok⟩ := h.pop (hv _ h.queue)
    simp only [queueStep, hpop]
    cases result with
    | error e => exact ⟨h.queue, h.inside, ht.inv, h.popped, ht.writes.trans h.writes⟩
    | ok popped =>
      obtain ⟨dev, chain⟩ := popped
      obtain ⟨-, hposted, hqueue⟩ := hok dev chain rfl
      refine ⟨?_, h.inside, ht.inv, ?_, ht.writes.trans h.writes⟩
      · rw [List.length_append]
        exact hqueue
      · obtain ⟨rest, hrest⟩ := h.popped
        rw [← hrest, List.getElem?_append_right (le_refl _), Nat.sub_self] at hposted
        obtain ⟨rest', rfl⟩ : ∃ rest', rest = chain.head :: rest' := by
          cases rest with
          | nil => cases hposted
          | cons x xs =>
            cases hposted
            exact ⟨xs, rfl⟩
        exact ⟨rest', by rw [← hrest]; simp⟩
  | push head length =>
    have hhead := hv _ h.queue
    obtain ⟨t, dev, hpush, ht, hqueue, -, hwrites⟩ := h.push length hhead
    simp only [queueStep, hpush]
    refine ⟨?_, h.inside, ht, h.popped, hwrites⟩
    rw [List.length_append]
    exact hqueue

theorem QueueInv.of_reach (h : Reach (queueStep dma index) (QueueRun.Configured m index)
    (QueueOp.Valid m index) r) : ∃ q, QueueInv m index q r := by
  refine h.invariant (I := fun r => ∃ q, QueueInv m index q r) (fun _ hc => hc.inv_ghosts) ?_
  rintro s op ⟨q, hq⟩ hv
  exact ⟨q, queueStep_inv hq hv⟩

end Runs

/-- In every run of a queue of size `n` with a driver that offers at most `n` entries at a time:

* the entries are taken in order, each one once, and the next pop takes entry `k` from
  `avail.ring[k mod n]`, where `k` is the number of pops before; it finds the ring empty exactly if
  all entries were taken;
* the writes of the device are those of its pushes: push `k` writes `used.ring[k mod n]`, then
  `used.idx` becomes `k + 1` modulo `2 ^ 16`, and there is no write in between;
* a pop that fails leaves the device as it is. -/
theorem virtqueue_order {σ : Type} {dma : VirtioDmaOps σ} {m : dma.Memory} {index : Nat}
    {r : QueueRun σ} (h : Reach (queueStep dma index) (QueueRun.Configured m index)
      (QueueOp.Valid m index) r) :
    ∃ q, virtioQueueGet r.device index = .ok q ∧ r.popped <+: r.posted ∧
      m.writes r.memory = q.pushWrites r.pushed ∧
      (r.Offered m q →
        ((virtioQueuePop dma r.memory r.device index).2 = .error .eagain ↔
          r.popped.length = r.posted.length) ∧
        (∀ dev chain, (virtioQueuePop dma r.memory r.device index).2 = .ok (dev, chain) →
          chain.head = q.availableEntry (m.byte r.memory) r.popped.length ∧
          (queueStep dma index r .pop).popped = r.popped ++ [chain.head]) ∧
        ∀ e, (virtioQueuePop dma r.memory r.device index).2 = .error e →
          (queueStep dma index r .pop).device = r.device ∧
          (queueStep dma index r .pop).popped = r.popped) ∧
      ∀ head length, head < q.size →
        (virtioQueuePushUsed dma r.memory r.device index head length).2.2 = .ok () ∧
        (m.byte (queueStep dma index r (.push head length)).memory).read
            (q.usedElement r.pushed.length head length).address virtioUsedElementSize =
          storeLe 4 head ++ storeLe 4 length ∧
        (m.byte (queueStep dma index r (.push head length)).memory).read (q.usedAddress + 2) 2 =
          storeLe 2 ((r.pushed.length + 1) % 2 ^ 16) := by
  obtain ⟨q, hinv⟩ := QueueInv.of_reach h
  refine ⟨q.after r.popped.length r.pushed.length, hinv.queue, hinv.popped, hinv.writes,
    fun ho => ?_, fun head length hhead => ?_⟩
  · obtain ⟨t, result, hpop, -, hempty, hok⟩ := hinv.pop ho
    simp only [queueStep, hpop]
    refine ⟨hempty, fun dev chain hresult => ?_, fun e hresult => ?_⟩
    · subst hresult
      exact ⟨(hok dev chain rfl).1, rfl⟩
    · subst hresult
      exact ⟨rfl, rfl⟩
  · obtain ⟨t, dev, hpush, -, -, hbyte, -⟩ := hinv.push length hhead
    obtain ⟨helement, hidx⟩ := VirtioQueue.push_read hinv.layout.size_pos hinv.inside.used hbyte
    simp only [queueStep, hpush]
    exact ⟨trivial, helement, hidx⟩

/-- RAM in which the driver has put `avail.idx` at `0x702` to `idx`, and the descriptors `0` and `1`
into the ring behind it. -/
def availableMemory (idx : Nat) : GuestMemory :=
  { ramAtDram with
    ram := fun _ => Store.write (fun _ => 0) 0x702 (storeLe 2 idx ++ storeLe 2 0 ++ storeLe 2 1) }

def dramRegion : AddressRegion := ⟨.memory 0, 0x80000000, 0x10000000, -1, .ram, true, true⟩

theorem dram_ownRam : ramAtDram.space.OwnRam dramRegion :=
  ⟨List.mem_singleton_self _, rfl, ⟨rfl, rfl⟩, fun _ h hne => absurd (List.mem_singleton.mp h) hne⟩

def eightQueue : VirtioQueue :=
  ⟨8, 0, 0, 0x80000600, 0x80000700, 0x80000800, true, fun _ => queueLayout_eight⟩

theorem eightQueue_inside : eightQueue.Inside dramRegion.seg.range := by
  refine ⟨?_, ?_, ?_⟩ <;> refine Set.Ico_subset_Ico ?_ ?_ <;> decide

/-- A queue of eight entries after its configuration. -/
def configuredQueue : QueueRun (IommuSystem × List Chunk) where
  memory := (busMaster (availableMemory 0), [])
  device := ⟨1, 0, 0, 0, [eightQueue, .zero]⟩
  posted := []
  popped := []
  pushed := []

theorem availableMemory_masters : ∀ idx ∈ [0, 2],
    (busMaster (availableMemory idx)).memory.space.regions = ramAtDram.space.regions ∧
    ((busMaster (availableMemory idx)).pci.devices 1).parent.dmaAs = some .system ∧
    ((busMaster (availableMemory idx)).pci.devices 1).pciBus ≠ none ∧
    ((busMaster (availableMemory idx)).pci.devices 1).busMasterEnabled = true := by
  decide +kernel

theorem busMaster_masters {idx : Nat} (h : idx ∈ [0, 2]) :
    (busMaster (availableMemory idx)).Masters 1 ramAtDram.space := by
  obtain ⟨hregions, hspace, hbus, hmaster⟩ := availableMemory_masters idx h
  exact ⟨AddressSpace.eq_of_regions hregions, hspace, hbus, hmaster⟩

/-- The driver offers the descriptors `0` and `1`, and the device takes them and gives them back in
the other order. -/
def twoEntries : List (QueueOp (IommuSystem × List Chunk)) :=
  [.driver (busMaster (availableMemory 2), []) [0, 1], .pop, .pop, .push 1 13, .push 0 7]

/-- The state after `n` of these steps. -/
def twoEntriesAfter (n : Nat) : QueueRun (IommuSystem × List Chunk) :=
  runFrom (queueStep (virtioNetDma (fun _ => .ok ()) 1).logged 0) configuredQueue
    (twoEntries.take n)

theorem twoEntriesAfter_get : ∀ n ∈ [1, 2, 3, 4],
    (virtioQueueGet (twoEntriesAfter n).device 0).toOption.map
      (fun q => (q.size, q.availableAddress)) = some (8, 0x80000700) := by
  decide +kernel

/-- Both entries are in the ring while the device takes them. -/
theorem twoEntriesAfter_ring : ∀ n ∈ [1, 2],
    (twoEntriesAfter n).posted = [0, 1] ∧
    ∀ k ∈ [0, 1, 2],
      loadLe (((ramMemory (fun _ => .ok ()) 1 dram_ownRam).byte (twoEntriesAfter n).memory).read
        (0x80000702 + k * 2) 2) = [2, 0, 1].getD k 0 := by
  decide +kernel

theorem twoEntries_written :
    ∃ q, virtioQueueGet (twoEntriesAfter 5).device 0 = .ok q ∧
      (twoEntriesAfter 5).memory.2 = q.pushWrites [(1, 13), (0, 7)] := by
  have hstart : configuredQueue.Configured (ramMemory (fun _ => .ok ()) 1 dram_ownRam) 0 := by
    refine ⟨⟨⟨1, 0, 0, 0, [.zero, .zero]⟩, 8, 0x80000600, 0x80000700, 0x80000800, rfl⟩,
      fun q hq => ?_, busMaster_masters (by decide), rfl, rfl, rfl, rfl⟩
    obtain rfl : eightQueue = q := Except.ok.inj hq
    exact eightQueue_inside
  have hqueue : ∀ n ∈ [1, 2, 3, 4], ∀ q, virtioQueueGet (twoEntriesAfter n).device 0 = .ok q →
      q.size = 8 ∧ q.availableAddress = 0x80000700 := by
    intro n hn q hq
    have hget := twoEntriesAfter_get n hn
    rw [hq] at hget
    exact Prod.mk.inj (Option.some.inj hget)
  have hoffered : ∀ n ∈ [1, 2], ∀ q, virtioQueueGet (twoEntriesAfter n).device 0 = .ok q →
      (twoEntriesAfter n).Offered (ramMemory (fun _ => .ok ()) 1 dram_ownRam) q := by
    intro n hn q hq
    obtain ⟨hsize, haddress⟩ := hqueue n (by simp at hn ⊢; tauto) q hq
    obtain ⟨hposted, hring⟩ := twoEntriesAfter_ring n hn
    refine ⟨?_, ?_, fun k head _ hk => ?_⟩
    · rw [VirtioQueue.availableIdx, haddress, hposted]
      exact hring 0 (by decide)
    · rw [hposted, hsize]
      exact Nat.le_add_left_of_le (by decide)
    · rw [hposted] at hk
      rw [VirtioQueue.availableEntry, haddress, hsize]
      rcases k with _ | _ | k
      · cases hk
        exact hring 1 (by decide)
      · cases hk
        exact hring 2 (by decide)
      · cases hk
  have hvalid : Allowed (queueStep (virtioNetDma (fun _ => .ok ()) 1).logged 0)
      (QueueOp.Valid (ramMemory (fun _ => .ok ()) 1 dram_ownRam) 0) configuredQueue twoEntries := by
    refine ⟨⟨busMaster_masters (by decide), rfl⟩, hoffered 1 (by decide), hoffered 2 (by decide),
      fun q hq => ?_, fun q hq => ?_, trivial⟩
    · rw [(hqueue 3 (by decide) q hq).1]
      decide
    · rw [(hqueue 4 (by decide) q hq).1]
      decide
  obtain ⟨q, hq, -, hwrites, -⟩ := virtqueue_order ((Reach.start hstart).runFrom hvalid)
  refine ⟨q, hq, hwrites.trans (congrArg _ ?_)⟩
  decide +kernel

end Vart
