import Vart.Virtio.Features

/-!
# Reset of a virtio function (`hw/virtio/virtio-pci.c`)

A driver resets the device by writing zero to `device_status`. What it can then see is what reads of
the common configuration and of the ISR byte give (`readAll`).

* `ShownSame`: two functions agree in the registers those reads look at, so every sequence of reads
  gives the same on both (`ShownSame.readAll_eq`).
* The reset leaves the two feature selects, `queue_select`, `config_msix_vector` and the ISR byte
  alone. `deviceReset_fresh_iff`: the device looks like a fresh one exactly if these have their
  first values already.
-/

namespace Vart

open Lib

/-! ## What reads show -/

/-- The results of reads at the given offsets and sizes, one after the other. -/
def readAll (calls : VirtioPciCallbacks) : VirtioPciFunction → List (Nat × Nat) →
    List (Except Errno Nat)
  | _, [] => []
  | dev, (offset, size) :: reads =>
    (virtioPciBarRead calls dev offset size).2 ::
      readAll calls (virtioPciBarRead calls dev offset size).1 reads

/-- A read of the common configuration or of the ISR byte. -/
def CommonOrIsr (read : Nat × Nat) : Prop :=
  read.1 < virtioPciCommonSize ∨ read.1 = virtioPciIsrOffset

/-- The two functions agree in every register that such reads show. -/
structure ShownSame (dev u : VirtioPciFunction) : Prop where
  deviceSelect : dev.deviceFeatureSelect = u.deviceFeatureSelect
  deviceFeatures : dev.virtio.deviceFeatures = u.virtio.deviceFeatures
  driverSelect : dev.driverFeatureSelect = u.driverFeatureSelect
  driverFeatures : dev.virtio.driverFeatures = u.virtio.driverFeatures
  configVector : dev.configMsixVector = u.configMsixVector
  count : dev.virtio.queues.length = u.virtio.queues.length
  status : dev.virtio.status = u.virtio.status
  generation : dev.configGeneration = u.configGeneration
  queueSelect : dev.queueSelect = u.queueSelect
  queueState : dev.queueState = u.queueState
  ready (index : Nat) : (dev.virtio.queues.getD index .zero).ready =
    (u.virtio.queues.getD index .zero).ready
  isr : dev.isrStatus = u.isrStatus

namespace ShownSame

variable {dev u : VirtioPciFunction}

theorem readCommon (h : ShownSame dev u) (offset size : Nat) :
    virtioPciReadCommon dev offset size = virtioPciReadCommon u offset size := by
  have hselected : dev.selected = u.selected := by
    rw [VirtioPciFunction.selected, VirtioPciFunction.selected, h.queueState, h.queueSelect]
  have houtside : dev.outside ↔ u.outside := by
    rw [VirtioPciFunction.outside, VirtioPciFunction.outside, h.queueSelect, h.count]
  simp only [virtioPciReadCommon, h.deviceSelect, h.deviceFeatures, h.driverSelect,
    h.driverFeatures, h.configVector, h.count, h.status, h.generation, h.queueSelect, hselected,
    houtside, h.ready]

/-- Reading the ISR byte clears it on both sides. -/
theorem clear (h : ShownSame dev u) :
    ShownSame { dev with isrStatus := 0 } { u with isrStatus := 0 } :=
  { h with isr := rfl }

theorem barRead (h : ShownSame dev u) (calls : VirtioPciCallbacks) {read : Nat × Nat}
    (hread : CommonOrIsr read) :
    (virtioPciBarRead calls dev read.1 read.2).2 = (virtioPciBarRead calls u read.1 read.2).2 ∧
      ShownSame (virtioPciBarRead calls dev read.1 read.2).1
        (virtioPciBarRead calls u read.1 read.2).1 := by
  obtain ⟨offset, size⟩ := read
  obtain hcommon | rfl := hread
  · rw [virtioPciBarRead_common hcommon, virtioPciBarRead_common hcommon]
    exact ⟨h.readCommon offset size, h⟩
  · by_cases hsize : size = 1
    · subst hsize
      exact ⟨congrArg (fun isr : UInt8 => Except.ok isr.toNat) h.isr, h.clear⟩
    · simp only [virtioPciBarRead, hsize, virtioPciCommonSize, virtioPciIsrOffset,
        virtioPciDeviceOffset]
      exact ⟨rfl, h⟩

/-- By induction on the reads: each of them gives the same and keeps the agreement. -/
theorem readAll_eq {calls : VirtioPciCallbacks} {reads : List (Nat × Nat)}
    (hreads : ∀ read ∈ reads, CommonOrIsr read) {dev u : VirtioPciFunction}
    (h : ShownSame dev u) : readAll calls dev reads = readAll calls u reads := by
  induction reads generalizing dev u with
  | nil => rfl
  | cons read reads ih =>
    obtain ⟨hresult, hnext⟩ := h.barRead calls (hreads read List.mem_cons_self)
    have hrest := ih (fun r hr => hreads r (List.mem_cons_of_mem _ hr)) hnext
    exact congrArg₂ List.cons hresult hrest

end ShownSame

/-! ## The reset -/

theorem wf_of_off (q : VirtioQueue) (h : false = true) :
    QueueLayout q.size q.descriptorAddress q.availableAddress q.usedAddress :=
  absurd h Bool.false_ne_true

/-- The function after zero was written to `device_status`. -/
def VirtioPciFunction.afterReset (dev : VirtioPciFunction) : VirtioPciFunction :=
  { dev with
    virtio := { dev.virtio with
      queues := dev.virtio.queues.map fun q =>
        { q with ready := false, lastAvail := 0, nextUsed := 0, wf := wf_of_off q }
      driverFeatures := 0
      status := 0 }
    queueState := dev.queueState.map fun _ => .reset }

theorem virtioPciBarWrite_reset (calls : VirtioPciCallbacks) (dev : VirtioPciFunction) :
    virtioPciBarWrite calls dev 0x14 1 0 = (dev.afterReset, .ok ()) := rfl

/-- What initialisation fixes for the life of a function. -/
structure FunctionMade (dev : VirtioPciFunction) : Prop where
  deviceId : dev.virtio.deviceId ≤ 0xffff - 0x1040
  some_queue : 0 < dev.virtio.queues.length
  few_queues : dev.virtio.queues.length ≤ virtioMaxQueues
  states : dev.queueState.length = dev.virtio.queues.length
  generation : dev.configGeneration = 1

theorem VirtioPciFunction.Fresh.made {dev : VirtioPciFunction} (h : dev.Fresh) :
    FunctionMade dev := by
  obtain ⟨deviceId, deviceFeatures, queueCount, -, hinit⟩ := h
  unfold virtioPciFunctionInit virtioDeviceInit at hinit
  split_ifs at hinit with hargs hcount
  cases hinit
  rw [not_or, Nat.not_lt] at hargs hcount
  refine ⟨hargs.1, ?_, ?_, ?_, rfl⟩
  · rw [List.length_replicate]
    exact Nat.pos_of_ne_zero hargs.2
  · rw [List.length_replicate]
    exact hcount.2
  · rw [List.length_replicate, List.length_replicate]

theorem functionMade_virtioPciStep {dev : VirtioPciFunction} (h : FunctionMade dev)
    (op : VirtioPciOp) : FunctionMade (virtioPciStep dev op) := by
  refine virtioPciStep_keeps (P := FunctionMade) (fun u hsame => ?_)
    (fun offset size value r hwritten => ?_) op
  · have hcount := hsame.count
    rw [hsame.eq]
    exact ⟨h.deviceId, hcount ▸ h.some_queue, hcount.trans_le h.few_queues,
      h.states.trans hcount.symm, h.generation⟩
  · cases hwritten with
    | refused | deviceSelect | driverSelect | configVector | queueSelect => exact { h with }
    | features h' hset =>
      obtain ⟨-, rfl⟩ := virtioDeviceSetFeatures_ok hset
      exact { h with }
    | status h' hset hlength =>
      obtain ⟨hid, -, hcount, -⟩ := virtioDeviceSetStatus_ok hset
      exact ⟨hid.trans_le h.deviceId, hcount ▸ h.some_queue, hcount.trans_le h.few_queues,
        hlength.trans (h.states.trans hcount.symm), h.generation⟩
    | queueState h' hlength => exact { h with states := hlength.trans h.states }
    | queue q h' hlength =>
      rename_i index _
      have hcount : (dev.virtio.queues.set index q).length = dev.virtio.queues.length :=
        List.length_set
      exact ⟨h.deviceId, hcount ▸ h.some_queue, hcount.trans_le h.few_queues,
        hlength.trans (h.states.trans hcount.symm), h.generation⟩

theorem reach_functionMade {dev : VirtioPciFunction}
    (h : Reach virtioPciStep VirtioPciFunction.Fresh (fun _ _ => True) dev) : FunctionMade dev :=
  Reach.invariant (I := FunctionMade) (fun _ hfresh => hfresh.made)
    (fun _ op hmade _ => functionMade_virtioPciStep hmade op) h

/-- The registers that a reset leaves alone have their first values. -/
structure SelectsFirst (dev : VirtioPciFunction) : Prop where
  deviceSelect : dev.deviceFeatureSelect = 0
  driverSelect : dev.driverFeatureSelect = 0
  queueSelect : dev.queueSelect = 0
  configVector : dev.configMsixVector = 0xffff
  isr : dev.isrStatus = 0

/-- The function that initialisation makes for the same device. -/
def VirtioPciFunction.freshLike (dev : VirtioPciFunction) : VirtioPciFunction where
  virtio := ⟨dev.virtio.deviceId, dev.virtio.deviceFeatures, 0, 0,
    List.replicate dev.virtio.queues.length .zero⟩
  queueState := List.replicate dev.virtio.queues.length .reset
  deviceFeatureSelect := 0
  driverFeatureSelect := 0
  queueSelect := 0
  configMsixVector := 0xffff
  configGeneration := 1
  isrStatus := 0

theorem FunctionMade.init_eq {dev : VirtioPciFunction} (h : FunctionMade dev) :
    virtioPciFunctionInit dev.virtio.deviceId dev.virtio.deviceFeatures dev.virtio.queues.length =
      .ok dev.freshLike := by
  have hargs : ¬(dev.virtio.deviceId > 0xffff - 0x1040 ∨ dev.virtio.queues.length = 0) :=
    not_or.mpr ⟨Nat.not_lt.mpr h.deviceId, h.some_queue.ne'⟩
  have hcount : ¬(dev.virtio.queues.length = 0 ∨ dev.virtio.queues.length > virtioMaxQueues) :=
    not_or.mpr ⟨h.some_queue.ne', Nat.not_lt.mpr h.few_queues⟩
  rw [virtioPciFunctionInit, if_neg hargs, virtioDeviceInit, if_neg hcount]
  rfl

theorem SelectsFirst.shownSame {dev : VirtioPciFunction} (h : SelectsFirst dev)
    (hmade : FunctionMade dev) : ShownSame dev.afterReset dev.freshLike where
  deviceSelect := h.deviceSelect
  deviceFeatures := rfl
  driverSelect := h.driverSelect
  driverFeatures := rfl
  configVector := h.configVector
  count := by simp [VirtioPciFunction.afterReset, VirtioPciFunction.freshLike]
  status := rfl
  generation := hmade.generation
  queueSelect := h.queueSelect
  queueState := by
    rw [VirtioPciFunction.afterReset, VirtioPciFunction.freshLike, List.map_const', hmade.states]
  ready index := by
    -- No queue is ready on either side, inside the list or beyond it.
    have hold : ((dev.afterReset.virtio.queues.getD index .zero).ready) = false := by
      rw [VirtioPciFunction.afterReset, List.getD_eq_getElem?_getD, List.getElem?_map]
      cases dev.virtio.queues[index]? <;> rfl
    have hnew : ((dev.freshLike.virtio.queues.getD index .zero).ready) = false := by
      rw [VirtioPciFunction.freshLike, List.getD_eq_getElem?_getD, List.getElem?_replicate]
      split <;> rfl
    rw [hold, hnew]
  isr := h.isr

/-- Five reads are enough to see a register that a reset left alone. -/
theorem SelectsFirst.of_reads {dev : VirtioPciFunction} {calls : VirtioPciCallbacks}
    (h : ∀ reads, (∀ read ∈ reads, CommonOrIsr read) →
      readAll calls dev.afterReset reads = readAll calls dev.freshLike reads) :
    SelectsFirst dev := by
  have hone (offset size : Nat) (hread : CommonOrIsr (offset, size)) :
      (virtioPciBarRead calls dev.afterReset offset size).2 =
        (virtioPciBarRead calls dev.freshLike offset size).2 :=
    (List.cons.inj (h [(offset, size)] (by simpa using hread))).1
  have hdevice := hone 0x00 4 (.inl (by decide))
  have hdriver := hone 0x08 4 (.inl (by decide))
  have hqueue := hone 0x16 2 (.inl (by decide))
  have hconfig := hone 0x10 2 (.inl (by decide))
  have hisr := hone 0x200 1 (.inr rfl)
  exact {
    deviceSelect := UInt32.toNat_inj.mp (Except.ok.inj hdevice)
    driverSelect := UInt32.toNat_inj.mp (Except.ok.inj hdriver)
    queueSelect := UInt16.toNat_inj.mp (Except.ok.inj hqueue)
    configVector := UInt16.toNat_inj.mp (Except.ok.inj hconfig)
    isr := UInt8.toNat_inj.mp (Except.ok.inj hisr) }

/-- After any run, the write of zero to `device_status` succeeds, and from then on reads show a fresh
device exactly if the registers that it leaves alone had their first values. -/
theorem deviceReset_fresh_iff {dev : VirtioPciFunction}
    (h : Reach virtioPciStep VirtioPciFunction.Fresh (fun _ _ => True) dev)
    (calls : VirtioPciCallbacks) :
    ∃ reset fresh, virtioPciBarWrite calls dev 0x14 1 0 = (reset, .ok ()) ∧
      virtioPciFunctionInit dev.virtio.deviceId dev.virtio.deviceFeatures
        dev.virtio.queues.length = .ok fresh ∧
      ((∀ reads, (∀ read ∈ reads, CommonOrIsr read) →
          readAll calls reset reads = readAll calls fresh reads) ↔ SelectsFirst dev) := by
  have hmade := reach_functionMade h
  refine ⟨_, _, virtioPciBarWrite_reset calls dev, hmade.init_eq, .of_reads, ?_⟩
  intro hfirst reads hreads
  exact (hfirst.shownSame hmade).readAll_eq hreads

/-- A driver sets the vector for configuration changes, an interrupt is raised, and the driver resets
the device: the vector and the interrupt are still there. -/
theorem deviceReset_keeps_vector_and_isr :
    ∃ dev, virtioPciFunctionInit 2 0x100000246 1 = .ok dev ∧
      readAll .none (runFrom virtioPciStep dev
          [.write .none 0x10 2 3, .raiseQueue 0, .write .none 0x14 1 0])
        [(0x10, 2), (virtioPciIsrOffset, 1)] = [.ok 3, .ok 1] ∧
      readAll .none dev [(0x10, 2), (virtioPciIsrOffset, 1)] = [.ok 0xffff, .ok 0] :=
  ⟨_, rfl, rfl, rfl⟩

/-- A driver that has set up queue `0` and puts nothing into the registers that a reset leaves. -/
theorem deviceReset_fresh_driver :
    ∃ dev reset fresh, virtioPciFunctionInit 2 0x100000246 1 = .ok dev ∧
      virtioPciBarWrite .none (runFrom virtioPciStep dev
        [.write .none 0x18 2 8, .write .none 0x1c 2 1, .write .none 0x14 1 0xf]) 0x14 1 0 =
          (reset, .ok ()) ∧
      (∀ reads, (∀ read ∈ reads, CommonOrIsr read) →
        readAll .none reset reads = readAll .none fresh reads) := by
  have hreach : Reach virtioPciStep VirtioPciFunction.Fresh (fun _ _ => True)
      (runFrom virtioPciStep _
        [.write .none 0x18 2 8, .write .none 0x1c 2 1, .write .none 0x14 1 0xf]) :=
    .runFrom (.start ⟨2, 0x100000246, 1, by decide, rfl⟩) ⟨trivial, trivial, trivial, trivial⟩
  obtain ⟨reset, fresh, hreset, -, hiff⟩ := deviceReset_fresh_iff hreach .none
  exact ⟨_, reset, fresh, rfl, hreset, hiff.mpr ⟨rfl, rfl, rfl, rfl, rfl⟩⟩

end Vart
