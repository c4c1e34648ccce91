import Vart.Lib.Ring
import Vart.Riscv.Contexts

/-!
# The fault queue

The IOMMU writes a record for each failed translation into a ring in guest memory, at `FQT`; the
guest reads the records from `FQH` on and moves `FQH`. The abstract queue is a list of faults that
is computed from the log alone: an accepted fault joins it at the end, a move of `FQH` takes faults
away from its front (`unread`).

* `decodeFault_faultRecord`: a record says what the fault was.
* `iommuEnqueueFault_outcome`: the producer stores a record or drops it.
* `FaultQueueOutcome`: what a step of the machine does to the queue.
* `loggedFaults_run`: the faults of the log are those of the accesses that fail.
* `fault_queue_fifo`: the ring refines the abstract queue over every run.
-/

namespace Vart

open Lib

/-! ## Records -/

/-- A record of the fault queue, as the guest reads it. -/
structure FaultEntry where
  cause : Nat
  deviceId : Nat
  address : Nat
  error : Nat
  size : Nat
deriving DecidableEq, Repr

/-- The fields of 32 bytes of the queue. -/
def decodeFault (record : List UInt8) : FaultEntry where
  cause := loadLe (record.take 8) % 2 ^ 12
  deviceId := loadLe (record.take 8) / 2 ^ fqHdrDidShift
  address := loadLe ((record.drop 16).take 8)
  error := loadLe (record.drop 24) % 2 ^ 32
  size := loadLe (record.drop 24) / 2 ^ 32

/-- What the record of a fault is to say. -/
def Fault.entry (f : Fault) : FaultEntry where
  cause := if f.write then fqCauseWriteFault else fqCauseReadFault
  deviceId := f.requesterId.toNat
  address := f.address
  error := f.error.code
  size := f.size

/-- The address is a 64-bit word, and the size fits the upper half of the last word. -/
structure Fault.Fits (f : Fault) : Prop where
  address_lt : f.address < 2 ^ 64
  size_lt : f.size < 2 ^ 32

theorem length_faultRecord (f : Fault) : (faultRecord f).length = fqRecordSize := by
  simp [faultRecord, length_storeLe]

/-- The first word of a record: the cause, and the requester ID above it. -/
theorem loadLe_faultRecord_header (f : Fault) : ∃ cause < 2 ^ 12,
    cause = (if f.write then fqCauseWriteFault else fqCauseReadFault) ∧
    loadLe ((faultRecord f).take 8) = f.requesterId.toNat * 2 ^ 40 + cause := by
  have hid := f.requesterId.toNat_lt
  have hlt : (if f.write then fqCauseWriteFault else fqCauseReadFault) < 2 ^ 12 := by
    split <;> decide
  refine ⟨_, hlt, rfl, ?_⟩
  unfold faultRecord
  generalize (if f.write then fqCauseWriteFault else fqCauseReadFault) = cause at hlt
  have hword := or_shiftLeft_eq (show cause < 2 ^ 40 by omega) f.requesterId.toNat
  rw [List.append_assoc, List.append_assoc, List.take_left' (length_storeLe ..),
    loadLe_storeLe_of_lt (by rw [hword]; omega), hword]

theorem decodeFault_faultRecord {f : Fault} (h : f.Fits) :
    decodeFault (faultRecord f) = f.entry := by
  have herror := f.error.code_lt
  have hsize := h.size_lt
  obtain ⟨cause, hlt, hcause, hheader⟩ := loadLe_faultRecord_header f
  have hlast := or_shiftLeft_eq (show f.error.code < 2 ^ 32 by omega) f.size
  have h16 : ((faultRecord f).drop 16).take 8 = storeLe 8 f.address := by
    rw [faultRecord, List.append_assoc, List.drop_left' (by simp), List.take_left' (by simp)]
  have h24 : (faultRecord f).drop 24 = storeLe 8 (f.error.code ||| f.size <<< 32) :=
    List.drop_left' (by simp)
  unfold decodeFault Fault.entry
  rw [hheader, h16, h24, loadLe_storeLe_of_lt h.address_lt,
    loadLe_storeLe_of_lt (by rw [hlast]; omega), hlast, ← hcause]
  simp only [FaultEntry.mk.injEq, fqHdrDidShift, true_and]
  omega

/-! ## The producer -/

/-- What the guest reads in a slot of the ring at `base`. -/
def faultSlot (m : GuestMemory) (base slot : Nat) : Option FaultEntry :=
  (m.readBuffer (base + slot * fqRecordSize) fqRecordSize).toOption.map decodeFault

/-- The queue is on and has `2 ^ k` slots. -/
structure FaultQueueOn (k : Nat) (s : IommuSystem) : Prop where
  on : s.iommu.fqcsr &&& fqcsrFqon ≠ 0
  size_eq : queueLog2sz s.iommu.fqb = k
  size_ok : 1 ≤ k ∧ k ≤ maxQueueLog2
  head_lt : s.iommu.fqh < 2 ^ k
  tail_lt : s.iommu.fqt < 2 ^ k

/-- What `iommu_enqueue_fault` does with the queue on: all slots but one are in use, or the record
cannot be written, or it is stored at the tail. -/
inductive EnqueueOutcome (k : Nat) (s : IommuSystem) (f : Fault) (r : IommuSystem × Status) : Prop
  | full (used_eq : ringUsed (2 ^ k) s.iommu.fqh s.iommu.fqt = 2 ^ k - 1)
      (eq : r = (s.updateIommu fun iommu => { iommu with fqcsr := iommu.fqcsr ||| fqcsrFqof },
        .error .enospc))
  | failed {e : Errno}
      (write_eq : s.memory.writeBuffer (queueBase s.iommu.fqb + s.iommu.fqt * fqRecordSize)
        (faultRecord f) = .error e)
      (eq : r = (s.updateIommu fun iommu => { iommu with fqcsr := iommu.fqcsr ||| fqcsrFqmf },
        .error .efault))
  | stored {m : GuestMemory} (room : (s.iommu.fqt + 1) % 2 ^ k ≠ s.iommu.fqh)
      (write_eq : s.memory.writeBuffer (queueBase s.iommu.fqb + s.iommu.fqt * fqRecordSize)
        (faultRecord f) = .ok m)
      (eq : r = ((s.setMemory m).updateIommu fun iommu =>
        { iommu with fqt := (s.iommu.fqt + 1) % 2 ^ k }, .ok ()))

theorem iommuEnqueueFault_outcome {k : Nat} {s : IommuSystem} (hs : FaultQueueOn k s) (f : Fault) :
    EnqueueOutcome k s f (iommuEnqueueFault s f) := by
  have hk := hs.size_ok
  have htail := hs.tail_lt
  have hsize : (2 : Nat) ^ k ≤ 2 ^ 13 := Nat.pow_le_pow_right (by omega) hk.2
  have hbase := queueBase_lt s.iommu.fqb
  have hfits : ¬ s.iommu.fqt > (uint64Max - queueBase s.iommu.fqb - fqRecordSize) / fqRecordSize := by
    simp only [uint64Max, fqRecordSize]
    omega
  unfold iommuEnqueueFault
  simp only [hs.size_eq, and_mask, Nat.mod_eq_of_lt hs.head_lt, Nat.mod_eq_of_lt htail]
  rw [if_neg hs.on, if_neg (by omega), if_neg hfits]
  split
  · rename_i hfull
    exact .full ((ring_full_iff hs.head_lt htail).mp hfull) rfl
  rename_i hroom
  cases hwrite : s.memory.writeBuffer (queueBase s.iommu.fqb + s.iommu.fqt * fqRecordSize)
      (faultRecord f) with
  | error e => exact .failed hwrite rfl
  | ok m => exact .stored hroom hwrite rfl

/-- A stored record is read back from its slot, and no other slot changes. -/
theorem faultSlot_stored {m m' : GuestMemory} {base tail : Nat} {f : Fault} (hf : f.Fits)
    (h : m.writeBuffer (base + tail * fqRecordSize) (faultRecord f) = .ok m') :
    faultSlot m' base tail = some f.entry ∧
      ∀ i, i ≠ tail → faultSlot m' base i = faultSlot m base i := by
  constructor
  · have hsame := GuestMemory.readBuffer_writeBuffer_same h
    rw [length_faultRecord] at hsame
    rw [faultSlot, hsame]
    exact congrArg some (decodeFault_faultRecord hf)
  · intro i hi
    have hdis : base + tail * fqRecordSize + (faultRecord f).length ≤ base + i * fqRecordSize ∨
        base + i * fqRecordSize + fqRecordSize ≤ base + tail * fqRecordSize := by
      rw [length_faultRecord]
      simp only [fqRecordSize]
      omega
    unfold faultSlot
    rw [GuestMemory.readBuffer_writeBuffer_disjoint h hdis]

/-! ## Steps -/

/-- The fault queue outside of guest memory: its registers and its log. -/
def IommuSystem.faultQueue (s : IommuSystem) :
    Nat × Nat × Nat × Nat × List FaultQueueEvent :=
  (s.iommu.fqb, s.iommu.fqh, s.iommu.fqt, s.iommu.fqcsr, s.faultLog)

/-- The context that DMA of a device goes through. -/
def PciDevice.dmaContext (dev : PciDevice) : Option Nat :=
  if dev.pciBus = none ∨ dev.busMasterEnabled = false then none
  else match dev.parent.dmaAs with
  | some (.context n) => some n
  | _ => none

/-- Guest memory after an operation, without the record of a fault that it may report. -/
def ownMemory (sink : Sink) (s : IommuSystem) : IommuOp → GuestMemory
  | .translate n env address size write =>
    (iommuContextTranslate (s.contexts n) env s.memory address size write).memory
  | .dma d env address b =>
    match (s.pci.devices d).dmaContext with
    | some n => (contextBufferAccess (s.contexts n) env s.memory address b).memory
    | none => (iommuStep sink s (.dma d env address b)).memory
  | op => (iommuStep sink s op).memory

/-- The operation leaves the base, the size and the flags of the queue alone. Addresses are 64-bit
words, and sizes are below `2 ^ 32`. -/
def IommuOp.KeepsQueue : IommuOp → Prop
  | .mmioWrite offset _ _ => offset ≠ regFqb ∧ offset ≠ regFqcsr
  | .translate _ _ address size _ => address < 2 ^ 64 ∧ size < 2 ^ 32
  | .dma _ _ address b => address < 2 ^ 64 ∧ b.size < 2 ^ 32
  | .reset => False
  | _ => True

/-- The device that a fault of context `n` is about: the one that is attached to the context, or
the one whose DMA goes through it. -/
def FaultSource (s : IommuSystem) (n : Nat) (device : Option Nat) : Prop :=
  (s.contexts n).attachedDevice = device ∨
    ∃ d, device = some d ∧ (s.pci.devices d).dmaContext = some n

/-- The fault of an access through context `n` that fails, if it is to be reported. -/
def contextFault (s : IommuSystem) (device : Option Nat) (n : Nat) (env : Interference)
    (address size : Nat) (write : Bool) : Option Fault :=
  if size = 0 ∨ (s.contexts n).faultHandler = false then none
  else match (iommuContextTranslate (s.contexts n) env s.memory address size write).result with
  | .ok _ => none
  | .error e => some (s.faultOf device n address size write e)

/-- The fault that an operation is to report: that of its access through a context. -/
def IommuOp.reported (s : IommuSystem) : IommuOp → Option Fault
  | .translate n env address size write =>
    contextFault s (s.contexts n).attachedDevice n env address size write
  | .dma d env address b =>
    (s.pci.devices d).dmaContext.bind fun n =>
      contextFault s (some d) n env address b.size b.isWrite
  | _ => none

/-- What a step does to the fault queue: it logs nothing, or it reports one fault after its own
work, or the guest moves the head. -/
inductive FaultQueueOutcome (sink : Sink) (s : IommuSystem) (op : IommuOp) (t : IommuSystem) : Prop
  | quiet (log_eq : t.faultLog = s.faultLog) (same : op.KeepsQueue → t.faultQueue = s.faultQueue)
      (memory_eq : t.memory = ownMemory sink s op) (reported_eq : op.reported s = none)
  | fault {u : IommuSystem} {f : Fault} {device : Option Nat} {n address size : Nat} {write : Bool}
      {e : Errno} (same : u.faultQueue = s.faultQueue) (memory_eq : u.memory = ownMemory sink s op)
      (fits : op.KeepsQueue → f.Fits) (fault_eq : f = s.faultOf device n address size write e)
      (source : FaultSource s n device) (eq : t = iommuFaultHandler sink u f)
      (reported_eq : op.reported s = some f)
  | head {size value : Nat} (op_eq : op = .mmioWrite regFqh size value)
      (eq : t = { s with
        iommu := { s.iommu with fqh := value % 2 ^ 32 }
        faultLog := .head s.iommu.fqh (value % 2 ^ 32) :: s.faultLog })

/-- A translation keeps the requester ID of the context and its handler. -/
theorem putTranslated_wiring (s : IommuSystem) (n : Nat) (env : Interference) (m : GuestMemory)
    (address size : Nat) (write : Bool) :
    let u := s.putTranslated n (iommuContextTranslate (s.contexts n) env m address size write)
    (u.contexts n).requesterId = (s.contexts n).requesterId ∧
    (u.contexts n).faultHandler = (s.contexts n).faultHandler := by
  have hwiring := (ContextMove.translate (s.contexts n) env m address size write).wiring
  simp only [IommuSystem.putTranslated, IommuSystem.setMemory, IommuSystem.setContext,
    Function.update_self]
  exact ⟨congrArg (fun w => w.2.2.2.2.1) hwiring, congrArg (fun w => w.2.2.2.2.2) hwiring⟩

/-- How `systemTranslate` ends. -/
theorem systemTranslate_cases (sink : Sink) (s : IommuSystem) (device : Option Nat) (n : Nat)
    (env : Interference) (address size : Nat) (write : Bool) :
    let r := iommuContextTranslate (s.contexts n) env s.memory address size write
    (systemTranslate sink s device n env address size write = (s.putTranslated n r, r.result) ∧
      contextFault s device n env address size write = none) ∨
    ∃ e, r.result = .error e ∧ systemTranslate sink s device n env address size write =
      (iommuFaultHandler sink (s.putTranslated n r) (s.faultOf device n address size write e),
        .error e) ∧
      contextFault s device n env address size write =
        some (s.faultOf device n address size write e) := by
  intro r
  obtain ⟨hid, hhandler⟩ := putTranslated_wiring s n env s.memory address size write
  unfold systemTranslate contextFault
  simp only [hhandler]
  cases (iommuContextTranslate (s.contexts n) env s.memory address size write).result with
  | ok translated => exact .inl ⟨rfl, ite_self none⟩
  | error e =>
    have hfault : (s.putTranslated n r).faultOf device n address size write e =
        s.faultOf device n address size write e := by
      unfold IommuSystem.faultOf
      rw [hid]
      rfl
    by_cases hreport : size ≠ 0 ∧ (s.contexts n).faultHandler = true
    · refine .inr ⟨e, rfl, ?_, if_neg (by simpa [not_or] using hreport)⟩
      simp only [if_pos hreport]
      rw [hfault]
    · refine .inl ⟨?_, if_pos (by simpa [or_iff_not_imp_left] using hreport)⟩
      simp only [if_neg hreport]
      rfl

/-- A step that keeps the registers and the log. -/
theorem FaultQueueOutcome.of_same {sink : Sink} {s : IommuSystem} {op : IommuOp} {t : IommuSystem}
    (same : t.faultQueue = s.faultQueue) (memory_eq : t.memory = ownMemory sink s op)
    (reported_eq : op.reported s = none) : FaultQueueOutcome sink s op t :=
  .quiet (congrArg (·.2.2.2.2) same) (fun _ => same) memory_eq reported_eq

theorem faultQueueOutcome_translate (sink : Sink) (s : IommuSystem) (n : Nat)
    (env : Interference) (address size : Nat) (write : Bool) :
    FaultQueueOutcome sink s (.translate n env address size write)
      (iommuStep sink s (.translate n env address size write)) := by
  rcases systemTranslate_cases sink s (s.contexts n).attachedDevice n env address size write with
    ⟨heq, hnone⟩ | ⟨e, -, heq, hsome⟩
  · exact .of_same (by rw [iommuStep, heq]; rfl) (by rw [iommuStep, heq]; rfl) hnone
  · refine .fault ?_ ?_ ?_ rfl (.inl rfl) (congrArg Prod.fst heq) hsome
    · rfl
    · rfl
    · exact fun h => ⟨h.1, h.2⟩

/-- An access through context `n` reports at most one fault, after its own work. -/
theorem systemBufferAccess_cases (sink : Sink) (s : IommuSystem) (device : Option Nat) (n : Nat)
    (env : Interference) (address : Nat) (b : Buffer) :
    let t := (systemBufferAccess sink s device n env address b).1
    let m := (contextBufferAccess (s.contexts n) env s.memory address b).memory
    (t.faultQueue = s.faultQueue ∧ t.memory = m ∧
      contextFault s device n env address b.size b.isWrite = none) ∨
    ∃ u e, u.faultQueue = s.faultQueue ∧ u.memory = m ∧
      t = iommuFaultHandler sink u (s.faultOf device n address b.size b.isWrite e) ∧
      contextFault s device n env address b.size b.isWrite =
        some (s.faultOf device n address b.size b.isWrite e) := by
  intro t m
  by_cases hsize : b.size = 0
  · refine .inl ?_
    simp only [t, m, systemBufferAccess, contextBufferAccess, if_pos hsize, contextFault,
      if_pos (Or.inl hsize), and_self]
  rcases systemTranslate_cases sink s device n env address b.size b.isWrite with
    ⟨heq, hnone⟩ | ⟨e, hr, heq, hsome⟩
  · refine .inl ?_
    simp only [t, m, systemBufferAccess, contextBufferAccess, if_neg hsize, heq]
    generalize iommuContextTranslate (s.contexts n) env s.memory address b.size b.isWrite = r
    cases r.result with
    | error e => exact ⟨rfl, rfl, hnone⟩
    | ok translated =>
      have hmemory : (s.putTranslated n r).memory = r.memory := rfl
      simp only [hmemory]
      cases (env 6 r.memory).bufferAccess translated b with
      | error e => exact ⟨rfl, rfl, hnone⟩
      | ok access => exact ⟨rfl, rfl, hnone⟩
  · refine .inr ⟨s.putTranslated n (iommuContextTranslate (s.contexts n) env s.memory address b.size
      b.isWrite), e, rfl, ?_, ?_, hsome⟩
    · simp only [m, contextBufferAccess, if_neg hsize, hr]
      rfl
    · simp only [t, systemBufferAccess, if_neg hsize, heq]

theorem faultQueueOutcome_dma (sink : Sink) (s : IommuSystem) (d : Nat) (env : Interference)
    (address : Nat) (b : Buffer) :
    FaultQueueOutcome sink s (.dma d env address b) (iommuStep sink s (.dma d env address b)) := by
  -- An access that does not go through a context reports no fault.
  have hdirect (hctx : (s.pci.devices d).dmaContext = none)
      (hsame : (pciDeviceDma sink s d env address b).1.faultQueue = s.faultQueue) :
      FaultQueueOutcome sink s (.dma d env address b)
        (iommuStep sink s (.dma d env address b)) :=
    .of_same hsame (by simp only [ownMemory, hctx])
      (by simp only [IommuOp.reported, hctx, Option.bind_none])
  by_cases hperm : (s.pci.devices d).pciBus = none ∨ (s.pci.devices d).busMasterEnabled = false
  · refine hdirect (if_pos hperm) ?_
    simp only [pciDeviceDma, if_pos hperm]
  cases hspace : (s.pci.devices d).parent.dmaAs with
  | none =>
    refine hdirect (by simp only [PciDevice.dmaContext, hspace, ite_self]) ?_
    simp only [pciDeviceDma, if_neg hperm, hspace]
  | some space =>
    cases space with
    | system =>
      refine hdirect (by simp only [PciDevice.dmaContext, hspace, ite_self]) ?_
      simp only [pciDeviceDma, if_neg hperm, hspace]
      split <;> rfl
    | context n =>
      have hctx : (s.pci.devices d).dmaContext = some n := by
        simp only [PciDevice.dmaContext, if_neg hperm, hspace]
      have hstep : iommuStep sink s (.dma d env address b) =
          (systemBufferAccess sink s (some d) n env address b).1 := by
        simp only [iommuStep, pciDeviceDma, if_neg hperm, hspace]
      have hown : ownMemory sink s (.dma d env address b) =
          (contextBufferAccess (s.contexts n) env s.memory address b).memory := by
        simp only [ownMemory, hctx]
      rw [hstep]
      rcases systemBufferAccess_cases sink s (some d) n env address b with
        ⟨hsame, hmemory, hnone⟩ | ⟨u, e, hsame, hmemory, heq, hsome⟩
      · refine .of_same hsame (hmemory.trans hown.symm) ?_
        simp only [IommuOp.reported, hctx, Option.bind_some, hnone]
      · refine .fault hsame (hmemory.trans hown.symm) ?_ rfl (.inr ⟨d, rfl, hctx⟩) heq
          (by simp only [IommuOp.reported, hctx, Option.bind_some, hsome])
        exact fun h => ⟨h.1, h.2⟩

theorem faultQueue_of_commandsRan {s t : IommuSystem} (h : CommandsRan s t) :
    t.faultQueue = s.faultQueue := by
  obtain ⟨_, _, hi⟩ := h.iommu
  unfold IommuSystem.faultQueue
  rw [hi, h.faultLog]

theorem faultQueue_riscvIommuSetContext (s : IommuSystem) (context : Option Nat) :
    (riscvIommuSetContext s context).1.faultQueue = s.faultQueue := by
  unfold riscvIommuSetContext
  split
  · rfl
  split <;> split <;> first | rfl | (split <;> rfl)

/-- Only accesses and writes to `FQH` reach the log of the queue. -/
theorem iommuStep_faultQueue (sink : Sink) (s : IommuSystem) (op : IommuOp) :
    FaultQueueOutcome sink s op (iommuStep sink s op) := by
  cases op with
  | translate n env address size write => exact faultQueueOutcome_translate ..
  | dma d env address b => exact faultQueueOutcome_dma ..
  | reset => exact .quiet (commandsRan_riscvIommuReset s).faultLog (fun h => h.elim) rfl rfl
  | mmioWrite offset size value =>
    cases iommuMmioWrite_outcome sink s offset size value with
    | registers heq hkeep =>
      refine .quiet ?_ (fun h => ?_) rfl rfl
      · simp only [iommuStep, heq]
      · simp only [iommuStep, heq, IommuSystem.faultQueue, hkeep.fqb h.1, hkeep.fqh, hkeep.fqt,
          hkeep.fqcsr h.2]
    | directory heq =>
      refine .of_same ?_ rfl rfl
      simp only [iommuStep, heq]
      exact (faultQueue_of_commandsRan (commandsRan_iommuApplyDdt (s.updateIommu _))).trans rfl
    | commands heq =>
      refine .of_same ?_ rfl rfl
      simp only [iommuStep, heq]
      exact (faultQueue_of_commandsRan
        (commandsRan_iommuProcessCommandQueue sink (s.updateIommu _))).trans rfl
    | head hoffset heq =>
      subst hoffset
      exact .head rfl heq
  | pci op => exact .of_same rfl rfl rfl
  | setMode n mode => exact .of_same rfl rfl rfl
  | setSv39 n rootPpn updateAd => exact .of_same rfl rfl rfl
  | setSv39x4 n rootPpn updateAd => exact .of_same rfl rfl rfl
  | invalidate n address size => exact .of_same rfl rfl rfl
  | setContext context => exact .of_same (faultQueue_riscvIommuSetContext s context) rfl rfl
  | bind d n =>
    refine .of_same ?_ rfl rfl
    simp only [iommuStep]
    cases riscvIommuBindDevice_outcome s d n with
    | same heq => rw [heq]
    | detached _ _ hi _ hl => simp only [IommuSystem.faultQueue, hi, hl]
    | bound _ _ _ _ hi _ hl => simp only [IommuSystem.faultQueue, hi, hl]
  | unbind d =>
    refine .of_same ?_ rfl rfl
    simp only [iommuStep]
    cases riscvIommuUnbindDevice_outcome s d with
    | same heq => rw [heq]
    | unbound _ _ _ _ hi hl => simp only [IommuSystem.faultQueue, hi, hl]

/-! ## The handler -/

/-- What the handler does with the queue on. -/
inductive HandlerOutcome (k : Nat) (u : IommuSystem) (f : Fault) (t : IommuSystem) : Prop
  | full (used_eq : ringUsed (2 ^ k) u.iommu.fqh u.iommu.fqt = 2 ^ k - 1)
      (memory_eq : t.memory = u.memory)
      (queue_eq : t.faultQueue = (u.iommu.fqb, u.iommu.fqh, u.iommu.fqt,
        u.iommu.fqcsr ||| fqcsrFqof, .fault f (.error .enospc) :: u.faultLog))
  | failed {e : Errno}
      (write_eq : u.memory.writeBuffer (queueBase u.iommu.fqb + u.iommu.fqt * fqRecordSize)
        (faultRecord f) = .error e)
      (memory_eq : t.memory = u.memory)
      (queue_eq : t.faultQueue = (u.iommu.fqb, u.iommu.fqh, u.iommu.fqt,
        u.iommu.fqcsr ||| fqcsrFqmf, .fault f (.error .efault) :: u.faultLog))
  | stored (room : (u.iommu.fqt + 1) % 2 ^ k ≠ u.iommu.fqh)
      (write_eq : u.memory.writeBuffer (queueBase u.iommu.fqb + u.iommu.fqt * fqRecordSize)
        (faultRecord f) = .ok t.memory)
      (queue_eq : t.faultQueue = (u.iommu.fqb, u.iommu.fqh, (u.iommu.fqt + 1) % 2 ^ k,
        u.iommu.fqcsr, .fault f (.ok ()) :: u.faultLog))

theorem iommuFaultHandler_outcome (sink : Sink) {k : Nat} {u : IommuSystem}
    (hu : FaultQueueOn k u) (f : Fault) : HandlerOutcome k u f (iommuFaultHandler sink u f) := by
  have hv : FaultQueueOn k (u.updateIommu (·.setFault f)) :=
    ⟨hu.on, hu.size_eq, hu.size_ok, hu.head_lt, hu.tail_lt⟩
  have houtcome := iommuEnqueueFault_outcome hv f
  unfold iommuFaultHandler
  generalize iommuEnqueueFault (u.updateIommu (·.setFault f)) f = r at houtcome
  have hmemory := iommuRaiseMsix_memory sink (r.1.logFault f r.2) 0
  cases houtcome with
  | full hused heq =>
    subst heq
    exact .full hused hmemory rfl
  | failed hwrite heq =>
    subst heq
    exact .failed hwrite hmemory rfl
  | stored hroom hwrite heq =>
    subst heq
    exact .stored hroom (hwrite.trans (congrArg Except.ok hmemory.symm)) rfl

/-! ## The log -/

/-- The faults of the log, the oldest first. -/
def loggedFaults : List FaultQueueEvent → List Fault
  | [] => []
  | .fault f _ :: log => loggedFaults log ++ [f]
  | .head .. :: log => loggedFaults log

/-- The faults that the operations of a run are to report. -/
def reportedAlong (sink : Sink) : IommuSystem → List IommuOp → List Fault
  | _, [] => []
  | s, op :: ops => (op.reported s).toList ++ reportedAlong sink (iommuStep sink s op) ops

theorem loggedFaults_iommuStep (sink : Sink) (s : IommuSystem) (op : IommuOp) :
    loggedFaults (iommuStep sink s op).faultLog =
      loggedFaults s.faultLog ++ (op.reported s).toList := by
  cases iommuStep_faultQueue sink s op with
  | quiet hlog _ _ hnone => rw [hlog, hnone, Option.toList_none, List.append_nil]
  | @fault u f _ _ _ _ _ _ hsame _ _ _ _ heq hsome =>
    obtain ⟨result, hcons⟩ := (faultReported_iommuFaultHandler sink u f).faultLog
    have hu : u.faultLog = s.faultLog := congrArg (·.2.2.2.2) hsame
    rw [heq, hcons, hu, hsome]
    rfl
  | head hop heq =>
    rw [heq, hop]
    exact (List.append_nil _).symm

/-- The log of a run has the fault of each access through a context that fails, in the order of the
accesses, and no other fault. -/
theorem loggedFaults_run (sink : Sink) (s : IommuSystem) (ops : List IommuOp) :
    loggedFaults (runFrom (iommuStep sink) s ops).faultLog =
      loggedFaults s.faultLog ++ reportedAlong sink s ops := by
  induction ops generalizing s with
  | nil => exact (List.append_nil _).symm
  | cons op ops ih =>
    rw [runFrom_cons, ih, loggedFaults_iommuStep, List.append_assoc]
    rfl

/-! ## The abstract queue -/

/-- The faults that were accepted and not read yet, the oldest first. -/
def unread (n : Nat) : List FaultQueueEvent → List Fault
  | [] => []
  | .fault f (.ok _) :: log => unread n log ++ [f]
  | .fault _ (.error _) :: log => unread n log
  | .head old new :: log => (unread n log).drop (ringUsed n old new)

/-- The ring of the fault queue holds the unread faults. -/
structure FaultQueueInv (k : Nat) (s : IommuSystem) : Prop where
  queue : FaultQueueOn k s
  holds : RingHolds (faultSlot s.memory (queueBase s.iommu.fqb)) (2 ^ k) s.iommu.fqh s.iommu.fqt
    ((unread (2 ^ k) s.faultLog).map Fault.entry)

/-- The queue is on and empty. -/
structure FaultQueueStart (k : Nat) (s : IommuSystem) : Prop where
  queue : FaultQueueOn k s
  empty : s.iommu.fqh = s.iommu.fqt
  faultLog_eq : s.faultLog = []

/-- The guest moves the head only over records in use, and nothing but the handler writes to the
ring. -/
structure FaultQueueStep (sink : Sink) (k : Nat) (s : IommuSystem) (op : IommuOp) : Prop where
  keeps : op.KeepsQueue
  advances : ∀ size value, op = .mmioWrite regFqh size value →
    ∃ j ≤ ringUsed (2 ^ k) s.iommu.fqh s.iommu.fqt, value % 2 ^ 32 = (s.iommu.fqh + j) % 2 ^ k
  ring : ∀ i < 2 ^ k, faultSlot (ownMemory sink s op) (queueBase s.iommu.fqb) i =
    faultSlot s.memory (queueBase s.iommu.fqb) i

/-! ## Steps of the queue -/

/-- What the theorem says about one step, with `m` the memory before the handler writes. -/
structure QueueStep (k : Nat) (m : GuestMemory) (s t : IommuSystem) : Prop where
  inv : FaultQueueInv k t
  /-- No unread record is overwritten. -/
  kept : ∀ i < ringUsed (2 ^ k) s.iommu.fqh s.iommu.fqt,
    faultSlot t.memory (queueBase s.iommu.fqb) ((s.iommu.fqh + i) % 2 ^ k) =
      faultSlot s.memory (queueBase s.iommu.fqb) ((s.iommu.fqh + i) % 2 ^ k)
  /-- A fault is dropped if the queue is full or the record cannot be written; a flag is set then,
  and the queue stays as it is. -/
  dropped : ∀ f e, t.faultLog = .fault f (.error e) :: s.faultLog →
    t.iommu.fqh = s.iommu.fqh ∧ t.iommu.fqt = s.iommu.fqt ∧
    ((unread (2 ^ k) s.faultLog).length = 2 ^ k - 1 ∧ t.iommu.fqcsr &&& fqcsrFqof ≠ 0 ∨
      (∃ e', m.writeBuffer (queueBase s.iommu.fqb + s.iommu.fqt * fqRecordSize) (faultRecord f) =
        .error e') ∧ t.iommu.fqcsr &&& fqcsrFqmf ≠ 0)

theorem or_and_ne_zero {a c : Nat} (b : Nat) (h : a &&& c ≠ 0) : (a ||| b) &&& c ≠ 0 := by
  rw [Nat.and_or_distrib_right]
  exact fun hz => h (Nat.or_eq_zero_iff.mp hz).1

theorem or_and_self_ne_zero (a : Nat) {b : Nat} (h : b ≠ 0) : (a ||| b) &&& b ≠ 0 := by
  rw [Nat.or_comm]
  exact or_and_ne_zero a (by rwa [Nat.and_self])

/-- The queue is on in a system with the same registers. -/
theorem FaultQueueOn.of_same {k : Nat} {s t : IommuSystem} (h : FaultQueueOn k s)
    (hsame : t.faultQueue = s.faultQueue) : FaultQueueOn k t := by
  simp only [IommuSystem.faultQueue, Prod.mk.injEq] at hsame
  obtain ⟨hb, hh, ht, hc, -⟩ := hsame
  exact ⟨hc ▸ h.on, hb ▸ h.size_eq, h.size_ok, hh ▸ h.head_lt, ht ▸ h.tail_lt⟩

theorem FaultQueueInv.of_same {k : Nat} {s t : IommuSystem} (h : FaultQueueInv k s)
    (hsame : t.faultQueue = s.faultQueue)
    (hslots : ∀ i < 2 ^ k, faultSlot t.memory (queueBase s.iommu.fqb) i =
      faultSlot s.memory (queueBase s.iommu.fqb) i) : FaultQueueInv k t := by
  refine ⟨h.queue.of_same hsame, ?_⟩
  simp only [IommuSystem.faultQueue, Prod.mk.injEq] at hsame
  obtain ⟨hb, hh, ht, -, hl⟩ := hsame
  rw [hb, hh, ht, hl]
  exact h.holds.congr fun i _ => hslots _ (Nat.mod_lt _ (Nat.two_pow_pos k))

/-- The handler keeps the invariant. -/
theorem queueStep_handler (sink : Sink) {k : Nat} {u : IommuSystem} (hI : FaultQueueInv k u)
    {f : Fault} (hf : f.Fits) : QueueStep k u.memory u (iommuFaultHandler sink u f) := by
  have hlen : (unread (2 ^ k) u.faultLog).length =
      ringUsed (2 ^ k) u.iommu.fqh u.iommu.fqt := by
    rw [← hI.holds.length_eq, List.length_map]
  cases iommuFaultHandler_outcome sink hI.queue f with
  | full hused hmemory hqueue =>
    generalize iommuFaultHandler sink u f = t at hmemory hqueue
    simp only [IommuSystem.faultQueue, Prod.mk.injEq] at hqueue
    obtain ⟨hb, hh, ht, hc, hl⟩ := hqueue
    refine ⟨⟨⟨?_, hb ▸ hI.queue.size_eq, hI.queue.size_ok, hh ▸ hI.queue.head_lt,
      ht ▸ hI.queue.tail_lt⟩, ?_⟩, fun i _ => by rw [hmemory], fun f' e hlog => ?_⟩
    · rw [hc]; exact or_and_ne_zero _ hI.queue.on
    · rw [hmemory, hb, hh, ht, hl]; exact hI.holds
    · refine ⟨hh, ht, .inl ⟨hlen.trans hused, ?_⟩⟩
      rw [hc]; exact or_and_self_ne_zero _ (by decide)
  | failed hwrite hmemory hqueue =>
    generalize iommuFaultHandler sink u f = t at hmemory hqueue
    simp only [IommuSystem.faultQueue, Prod.mk.injEq] at hqueue
    obtain ⟨hb, hh, ht, hc, hl⟩ := hqueue
    refine ⟨⟨⟨?_, hb ▸ hI.queue.size_eq, hI.queue.size_ok, hh ▸ hI.queue.head_lt,
      ht ▸ hI.queue.tail_lt⟩, ?_⟩, fun i _ => by rw [hmemory], fun f' e hlog => ?_⟩
    · rw [hc]; exact or_and_ne_zero _ hI.queue.on
    · rw [hmemory, hb, hh, ht, hl]; exact hI.holds
    · rw [hl] at hlog
      cases hlog
      refine ⟨hh, ht, .inr ⟨⟨_, hwrite⟩, ?_⟩⟩
      rw [hc]; exact or_and_self_ne_zero _ (by decide)
  | stored hroom hwrite hqueue =>
    generalize iommuFaultHandler sink u f = t at hwrite hqueue
    simp only [IommuSystem.faultQueue, Prod.mk.injEq] at hqueue
    obtain ⟨hb, hh, ht, hc, hl⟩ := hqueue
    obtain ⟨hslot, hothers⟩ := faultSlot_stored hf hwrite
    refine ⟨⟨⟨hc ▸ hI.queue.on, hb ▸ hI.queue.size_eq, hI.queue.size_ok, hh ▸ hI.queue.head_lt, ?_⟩,
      ?_⟩, fun i hi => ?_, fun f' e hlog => ?_⟩
    · rw [ht]; exact Nat.mod_lt _ (Nat.two_pow_pos k)
    · rw [hb, hh, ht, hl, unread, List.map_append]
      exact hI.holds.push hroom hslot fun i _ hi => hothers i hi
    · exact hothers _ (ring_slot_ne_tail hI.queue.head_lt hI.queue.tail_lt hi)
    · rw [hl] at hlog
      cases hlog

/-- One step of the machine. -/
theorem queueStep_iommuStep (sink : Sink) {k : Nat} {s : IommuSystem} {op : IommuOp}
    (hI : FaultQueueInv k s) (ha : FaultQueueStep sink k s op) :
    QueueStep k (ownMemory sink s op) s (iommuStep sink s op) := by
  have hn := Nat.two_pow_pos k
  cases iommuStep_faultQueue sink s op with
  | quiet hlog hsame hmemory =>
    have hsame := hsame ha.keeps
    generalize iommuStep sink s op = t at hlog hsame hmemory
    refine ⟨hI.of_same hsame (hmemory ▸ ha.ring), fun i _ => ?_, fun f e hcons => ?_⟩
    · rw [hmemory]
      exact ha.ring _ (Nat.mod_lt _ hn)
    · exact absurd (hcons.symm.trans hlog) (List.cons_ne_self _ _)
  | @fault u f _ _ _ _ _ _ hsame hmemory hfits _ _ heq =>
    have hu := hI.of_same hsame (hmemory ▸ ha.ring)
    have hstep := queueStep_handler sink hu (hfits ha.keeps)
    rw [heq]
    simp only [IommuSystem.faultQueue, Prod.mk.injEq] at hsame
    obtain ⟨hb, hh, ht, hc, hl⟩ := hsame
    refine ⟨hstep.inv, fun i hi => ?_, fun f' e hlog => ?_⟩
    · have := hstep.kept i (by rw [hh, ht]; exact hi)
      rw [hb, hh, hmemory] at this
      exact this.trans (ha.ring _ (Nat.mod_lt _ hn))
    · have := hstep.dropped f' e (hl ▸ hlog)
      rw [hb, hh, ht, hl, hmemory] at this
      exact this
  | @head size value hop heq =>
    obtain ⟨j, hj, hvalue⟩ := ha.advances size value hop
    have hlt := ringUsed_lt hn s.iommu.fqh s.iommu.fqt
    rw [heq]
    refine ⟨⟨⟨hI.queue.on, hI.queue.size_eq, hI.queue.size_ok, ?_, hI.queue.tail_lt⟩, ?_⟩,
      fun i _ => rfl, fun f e hlog => ?_⟩
    · simp only [hvalue]
      exact Nat.mod_lt _ hn
    · simp only [hvalue, unread, ringUsed_add hI.queue.head_lt (show j < 2 ^ k by omega)]
      rw [List.map_drop]
      exact hI.holds.advance hj
    · cases hlog

/-! ## Runs of the queue -/

theorem FaultQueueStart.inv {k : Nat} {s : IommuSystem} (h : FaultQueueStart k s) :
    FaultQueueInv k s := by
  refine ⟨h.queue, ?_⟩
  rw [h.faultLog_eq, ← h.empty]
  exact .empty _ h.queue.head_lt

/-- The fault queue is a bounded queue. In every state of every run from an empty queue of `2 ^ k`
slots the guest reads the accepted faults that it has not read yet, in the order of their
occurrence. Every step keeps this, overwrites no unread record, and drops a fault only if
`2 ^ k - 1` records are unread (and sets FQOF) or the record cannot be written (and sets FQMF). -/
theorem fault_queue_fifo {sink : Sink} {k : Nat} {s : IommuSystem}
    (h : Reach (iommuStep sink) (FaultQueueStart k) (FaultQueueStep sink k) s) :
    (ringSlots (2 ^ k) s.iommu.fqh (ringUsed (2 ^ k) s.iommu.fqh s.iommu.fqt)).map
        (faultSlot s.memory (queueBase s.iommu.fqb)) =
      (unread (2 ^ k) s.faultLog).map (fun f => some f.entry) ∧
    ∀ op, FaultQueueStep sink k s op →
      QueueStep k (ownMemory sink s op) s (iommuStep sink s op) := by
  have hI : FaultQueueInv k s := by
    refine Reach.invariant (I := FaultQueueInv k) ?_ ?_ h
    · intro s hs
      exact hs.inv
    · intro s op hI ha
      exact (queueStep_iommuStep sink hI ha).inv
  refine ⟨?_, fun op ha => queueStep_iommuStep sink hI ha⟩
  rw [hI.holds.contents, List.map_map]
  rfl

/-- A fault queue of four slots, on. -/
def faultQueueOn : IommuSystem :=
  runFrom (iommuStep fun _ => .ok ()) (deviceBound ramAtDram)
    [.mmioWrite regFqb 8 (0x80000 <<< 10 ||| 2), .mmioWrite regFqcsr 4 1]

/-- A write of 8 bytes at `0x1234` fails and then a read of 4 bytes at `0x5678`, and the guest reads
their records in this order. -/
theorem faultQueueOn_records :
    let s := runFrom (iommuStep fun _ => .ok ()) faultQueueOn
      [.translate 0 quiet 0x1234 8 true, .translate 0 quiet 0x5678 4 false]
    (ringSlots 4 s.iommu.fqh (ringUsed 4 s.iommu.fqh s.iommu.fqt)).map
      (faultSlot s.memory (queueBase s.iommu.fqb)) =
        [some ⟨fqCauseWriteFault, 0, 0x1234, Errno.eacces.code, 8⟩,
          some ⟨fqCauseReadFault, 0, 0x5678, Errno.eacces.code, 4⟩] := by
  intro s
  have hstart : FaultQueueStart 2 faultQueueOn :=
    ⟨⟨by decide +kernel, by decide +kernel, by decide, by decide +kernel, by decide +kernel⟩,
      by decide +kernel, rfl⟩
  have hsteps : Allowed (iommuStep fun _ => .ok ()) (FaultQueueStep (fun _ => .ok ()) 2)
      faultQueueOn [.translate 0 quiet 0x1234 8 true, .translate 0 quiet 0x5678 4 false] :=
    ⟨⟨⟨by decide, by decide⟩, fun _ _ h => (nomatch h), by decide +kernel⟩,
      ⟨⟨by decide, by decide⟩, fun _ _ h => (nomatch h), by decide +kernel⟩, trivial⟩
  refine (fault_queue_fifo ((Reach.start hstart).runFrom hsteps)).1.trans ?_
  decide +kernel

end Vart
