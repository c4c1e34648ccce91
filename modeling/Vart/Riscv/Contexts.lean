import Mathlib.Logic.Relation
import Vart.Riscv.Frame

/-!
# What happens to the contexts

* `ContextMove`: the operations of a context. They keep its wiring (`ContextMoves.wiring`) and the
  shape of its cache (`ContextMoves.cacheWf`).
* `CommandsRan`: commands and the device directory reach the contexts by such operations only.
* `iommuMmioWrite_outcome`: what a register write does.
* `iommuStep_contexts`: every step of the machine changes a context by its operations or rewires
  it, so `Wired` and the shape of the caches hold in every run.
-/

namespace Vart

open Lib

/-! ## One context -/

/-- An operation of a context. -/
inductive ContextMove : IommuContext → IommuContext → Prop where
  | translate (c : IommuContext) (env : Interference) (m : GuestMemory) (address size : Nat)
      (write : Bool) : ContextMove c (iommuContextTranslate c env m address size write).context
  | setMode (c : IommuContext) (mode : ContextMode) : ContextMove c (iommuContextSetMode c mode).1
  | setSv39Mode (c : IommuContext) (rootPpn : Nat) (updateAd : Bool) (mode : ContextMode)
      (align : Bool) : ContextMove c (iommuContextSetSv39Mode c rootPpn updateAd mode align).1
  | invalidate (c : IommuContext) (address size : Nat) :
      ContextMove c (iommuContextInvalidate c address size).1

abbrev ContextMoves : IommuContext → IommuContext → Prop := Relation.ReflTransGen ContextMove

/-- What binding a device sets. -/
def IommuContext.wiring (c : IommuContext) :
    Bool × Option Nat × Option SpaceId × Bool × UInt16 × Bool :=
  (c.downstream, c.attachedDevice, c.savedDmaAs, c.savedDmaAsFromBus, c.requesterId,
    c.faultHandler)

theorem ContextMove.wiring {c c' : IommuContext} (h : ContextMove c c') :
    c'.wiring = c.wiring := by
  cases h with
  | translate env m address size write =>
    cases iommuContextTranslate_outcome c env m address size write with
    | fail hc => rw [hc]
    | identity _ hc => rw [hc]
    | hit _ _ _ hc => rw [hc]
    | walk _ _ _ _ _ _ _ _ hc => rw [hc]; unfold iommuCacheInsert; split <;> rfl
  | setMode mode =>
    rcases setMode_cases c mode with ⟨e, h⟩ | h
    · rw [h]
    · rw [h]; rfl
  | setSv39Mode rootPpn updateAd mode align =>
    rcases setSv39Mode_cases c rootPpn updateAd mode align with ⟨e, h⟩ | h
    · rw [h]
    · rw [h]; rfl
  | invalidate address size =>
    cases iommuContextInvalidate_outcome c address size with
    | fail hr => rw [hr]
    | flush hr => rw [hr]; rfl
    | range _ _ _ _ hr => rw [hr]; rfl

theorem ContextMove.cacheWf {c c' : IommuContext} (h : ContextMove c c') (hwf : c.CacheWf) :
    c'.CacheWf := by
  cases h with
  | translate env m address size write => exact hwf.translate ..
  | setMode mode => exact hwf.setMode mode
  | setSv39Mode rootPpn updateAd mode align => exact hwf.setSv39Mode ..
  | invalidate address size => exact hwf.invalidate ..

theorem ContextMoves.wiring {c c' : IommuContext} (h : ContextMoves c c') :
    c'.wiring = c.wiring := by
  induction h with
  | refl => rfl
  | tail _ h ih => exact h.wiring.trans ih

theorem ContextMoves.cacheWf {c c' : IommuContext} (h : ContextMoves c c') (hwf : c.CacheWf) :
    c'.CacheWf := by
  induction h with
  | refl => exact hwf
  | tail _ h ih => exact h.cacheWf ih

/-- The operations set a mode or fail. -/
theorem contextMoves_iommuApplyDdtBinding (iommu : RiscvIommu) (m : GuestMemory)
    (requesterId : UInt16) (c : IommuContext) :
    ContextMoves c (iommuApplyDdtBinding iommu m requesterId c).1 := by
  have hmode : ∀ mode, ContextMoves c (iommuContextSetMode c mode).1 := fun mode =>
    .single (.setMode c mode)
  have hload : ∀ dcBase, ContextMoves c (iommuLoadDeviceContext m dcBase c).1 := by
    intro dcBase
    unfold iommuLoadDeviceContext
    split
    · exact hmode _
    split
    · exact hmode _
    split
    · exact hmode _
    simp only
    split
    · exact hmode _
    split
    · exact .single (.setSv39Mode ..)
    · exact hmode _
  unfold iommuApplyDdtBinding
  extract_lets mode baseFormat dcSize id base ddiBits
  split
  · exact hmode _
  split
  · exact hmode _
  split
  · exact hmode _
  split
  · exact hmode _
  split
  · exact hmode _
  split
  · exact hmode _
  · exact hload _

/-! ## Commands -/

/-- Commands ran: contexts moved, interrupts were raised, and of the registers the head and the
flags of the command queue changed. -/
structure CommandsRan (s t : IommuSystem) : Prop where
  pci : DeliverSame s.pci t.pci
  iommu : ∃ cqh cqcsr, t.iommu = { s.iommu with cqh, cqcsr }
  contexts : ∀ n, ContextMoves (s.contexts n) (t.contexts n)
  faultLog : t.faultLog = s.faultLog

namespace CommandsRan

theorem refl (s : IommuSystem) : CommandsRan s s :=
  ⟨.refl _, ⟨s.iommu.cqh, s.iommu.cqcsr, rfl⟩, fun _ => .refl, rfl⟩

theorem trans {s t u : IommuSystem} (h : CommandsRan s t) (h' : CommandsRan t u) :
    CommandsRan s u := by
  obtain ⟨hp, ⟨a, b, hi⟩, hc, hl⟩ := h
  obtain ⟨hp', ⟨a', b', hi'⟩, hc', hl'⟩ := h'
  exact ⟨hp.trans hp', ⟨a', b', by rw [hi', hi]⟩, fun n => (hc n).trans (hc' n), hl'.trans hl⟩

/-- The contexts move, nothing else changes. -/
theorem of_contextsOnly {s t : IommuSystem} (h : ContextsOnly s t)
    (hc : ∀ n, ContextMoves (s.contexts n) (t.contexts n)) : CommandsRan s t := by
  obtain ⟨contexts, rfl⟩ := h
  exact ⟨.refl _, ⟨s.iommu.cqh, s.iommu.cqcsr, rfl⟩, hc, rfl⟩

theorem setContext (s : IommuSystem) {n : Nat} {c : IommuContext}
    (h : ContextMoves (s.contexts n) c) : CommandsRan s (s.setContext n c) := by
  refine of_contextsOnly (.setContext s n c) fun i => ?_
  simp only [IommuSystem.setContext, Function.update_apply]
  split
  · rename_i hi; rw [hi]; exact h
  · exact .refl

theorem foldl {α : Type} {f : IommuSystem → α → IommuSystem} (hf : ∀ s a, CommandsRan s (f s a))
    (s : IommuSystem) (as : List α) : CommandsRan s (as.foldl f s) := by
  induction as generalizing s with
  | nil => exact refl s
  | cons a as ih => exact (hf s a).trans (ih _)

theorem raise (sink : Sink) (s : IommuSystem) (vector : Nat) :
    CommandsRan s (iommuRaiseMsix sink s vector) :=
  ⟨deliverSame_pciDeviceRaiseMsix .., ⟨s.iommu.cqh, s.iommu.cqcsr, rfl⟩, fun _ => .refl, rfl⟩

/-- A write to the registers of the command queue, with an entry in the log of commands. -/
theorem queue (s : IommuSystem) (cqh cqcsr : Nat) (commands : List Command) :
    CommandsRan s { s with iommu := { s.iommu with cqh, cqcsr }, commands } :=
  ⟨.refl _, ⟨cqh, cqcsr, rfl⟩, fun _ => .refl, rfl⟩

end CommandsRan

theorem commandsRan_applyBinding (s : IommuSystem) (b : Binding) :
    CommandsRan s (s.applyBinding b) :=
  .setContext s (contextMoves_iommuApplyDdtBinding ..)

theorem commandsRan_iommuApplyDdt (s : IommuSystem) : CommandsRan s (iommuApplyDdt s) :=
  .foldl commandsRan_applyBinding s _

theorem commandsRan_iommuIodir (s : IommuSystem) (dword0 : Nat) :
    CommandsRan s (iommuIodir s dword0) := by
  unfold iommuIodir
  split
  · exact commandsRan_iommuApplyDdt s
  · simp only
    split
    · exact .refl s
    · exact commandsRan_applyBinding s _

theorem commandsRan_iommuInvalidateContexts (s : IommuSystem) (address size : Nat)
    (bs : List Binding) : CommandsRan s (iommuInvalidateContexts s address size bs).1 := by
  rw [iommuInvalidateContexts_eq]
  exact .foldl (fun s b => .setContext s (.single (.invalidate ..))) s bs

theorem commandsRan_iommuInvalidateCommand (s : IommuSystem) (dword0 dword1 : Nat) :
    CommandsRan s (iommuInvalidateCommand s dword0 dword1).1 := by
  unfold iommuInvalidateCommand
  simp only
  split
  · exact commandsRan_iommuIodir s dword0
  split
  · exact .refl s
  split
  · exact .refl s
  split
  · exact .refl s
  split
  · exact .refl s
  · exact .setContext s (.single (.invalidate ..))
  · exact commandsRan_iommuInvalidateContexts s _ _ _

theorem commandsRan_iommuExecuteCommand (sink : Sink) (s : IommuSystem) (index : Nat)
    (command : List UInt8) : CommandsRan s (iommuExecuteCommand sink s index command) := by
  have h := commandsRan_iommuInvalidateCommand s (loadLe (command.take 8)) (loadLe (command.drop 8))
  simp only [iommuExecuteCommand]
  generalize iommuInvalidateCommand s _ _ = r at h
  obtain ⟨t, status⟩ := r
  cases status with
  | ok _ => exact h.trans (.queue t _ t.iommu.cqcsr _)
  | error _ => exact (h.trans (.queue t _ (t.iommu.cqcsr ||| cqcsrCmdIll) _)).trans (.raise ..)

theorem commandsRan_iommuCommandLoop (sink : Sink) (entries base fuel : Nat) (s : IommuSystem) :
    CommandsRan s (iommuCommandLoop sink entries base fuel s).1 := by
  have hfault : ∀ s, CommandsRan s (iommuCommandMemoryFault sink s) := fun s =>
    (CommandsRan.queue s s.iommu.cqh _ s.commands).trans (.raise ..)
  induction fuel generalizing s with
  | zero => exact .refl s
  | succ fuel ih =>
    rw [iommuCommandLoop]
    split
    · exact .refl s
    simp only
    split
    · exact hfault s
    split
    · exact hfault s
    · exact (commandsRan_iommuExecuteCommand ..).trans (ih _)

theorem commandsRan_iommuProcessCommandQueue (sink : Sink) (s : IommuSystem) :
    CommandsRan s (iommuProcessCommandQueue sink s).1 := by
  unfold iommuProcessCommandQueue
  simp only
  split
  · exact .refl s
  split
  · exact .queue s s.iommu.cqh _ s.commands
  · exact commandsRan_iommuCommandLoop ..

/-! ## Register writes -/

/-- A write to the register at `offset` that only stores something. -/
structure RegistersKeep (offset : Nat) (i i' : RiscvIommu) : Prop where
  pci : i'.pci = i.pci
  context : i'.context = i.context
  bindings : i'.bindings = i.bindings
  cap : i'.cap = i.cap
  fqh : i'.fqh = i.fqh
  fqt : i'.fqt = i.fqt
  fqb : offset ≠ regFqb → i'.fqb = i.fqb
  fqcsr : offset ≠ regFqcsr → i'.fqcsr = i.fqcsr

/-- What a register write does. -/
inductive MmioOutcome (sink : Sink) (s : IommuSystem) (offset size value : Nat) (t : IommuSystem) :
    Prop
  | registers {iommu : RiscvIommu} (eq : t = { s with iommu })
      (keep : RegistersKeep offset s.iommu iommu)
  | directory {ddtp : Nat}
      (eq : t = iommuApplyDdt (s.updateIommu fun iommu => { iommu with ddtp }))
  | commands {cqt : Nat} (eq : t = (iommuProcessCommandQueue sink
      (s.updateIommu fun iommu => { iommu with cqt })).1)
  | head (offset_eq : offset = regFqh) (eq : t = { s with
      iommu := { s.iommu with fqh := value % 2 ^ 32 }
      faultLog := .head s.iommu.fqh (value % 2 ^ 32) :: s.faultLog })

theorem RegistersKeep.refl (offset : Nat) (i : RiscvIommu) : RegistersKeep offset i i :=
  ⟨rfl, rfl, rfl, rfl, rfl, rfl, fun _ => rfl, fun _ => rfl⟩

theorem iommuMmioWrite_outcome (sink : Sink) (s : IommuSystem) (offset size value : Nat) :
    MmioOutcome sink s offset size value (iommuMmioWrite sink s offset size value).1 := by
  let M := fun r : IommuSystem × Status => MmioOutcome sink s offset size value r.1
  -- A write of the wrong size or value stores nothing.
  have hcheck {c : Prop} [Decidable c] {r : IommuSystem × Status} (h : M r) :
      M (if c then (s, .error .einval) else r) :=
    iteInduction (motive := M) (fun _ => .registers rfl (.refl offset s.iommu)) fun _ => h
  have hstore {c : Prop} [Decidable c] {iommu : RiscvIommu} {r : Status}
      (h : RegistersKeep offset s.iommu iommu) :
      M (if c then (s, .error .einval) else ({ s with iommu }, r)) := hcheck (.registers rfl h)
  unfold iommuMmioWrite
  refine iteInduction (motive := M) (fun hfctl => ?_) fun _ => ?_
  · exact hstore ⟨rfl, rfl, rfl, rfl, rfl, rfl, fun _ => rfl, fun _ => rfl⟩
  refine iteInduction (motive := M) (fun hddtp => ?_) fun _ => ?_
  · exact hcheck (.directory rfl)
  refine iteInduction (motive := M) (fun hcqb => ?_) fun _ => ?_
  · exact hstore ⟨rfl, rfl, rfl, rfl, rfl, rfl, fun _ => rfl, fun _ => rfl⟩
  refine iteInduction (motive := M) (fun hcqh => ?_) fun _ => ?_
  · exact hstore ⟨rfl, rfl, rfl, rfl, rfl, rfl, fun _ => rfl, fun _ => rfl⟩
  refine iteInduction (motive := M) (fun hcqt => ?_) fun _ => ?_
  · exact hcheck (.commands rfl)
  refine iteInduction (motive := M) (fun hcqcsr => ?_) fun _ => ?_
  · exact hstore ⟨rfl, rfl, rfl, rfl, rfl, rfl, fun _ => rfl, fun _ => rfl⟩
  refine iteInduction (motive := M) (fun hfqb => ?_) fun _ => ?_
  · exact hstore ⟨rfl, rfl, rfl, rfl, rfl, rfl, (absurd hfqb ·), fun _ => rfl⟩
  refine iteInduction (motive := M) (fun hfqh => ?_) fun _ => ?_
  · exact hcheck (.head hfqh rfl)
  refine iteInduction (motive := M) (fun hfqcsr => ?_) fun _ => ?_
  · exact hstore ⟨rfl, rfl, rfl, rfl, rfl, rfl, fun _ => rfl, (absurd hfqcsr ·)⟩
  refine iteInduction (motive := M) (fun hpqcsr => ?_) fun _ => ?_
  · exact hstore ⟨rfl, rfl, rfl, rfl, rfl, rfl, fun _ => rfl, fun _ => rfl⟩
  refine iteInduction (motive := M) (fun hstatus => ?_) fun _ => ?_
  · exact hstore ⟨rfl, rfl, rfl, rfl, rfl, rfl, fun _ => rfl, fun _ => rfl⟩
  refine iteInduction (motive := M) (fun hipsr => ?_) fun _ => ?_
  · exact hstore ⟨rfl, rfl, rfl, rfl, rfl, rfl, fun _ => rfl, fun _ => rfl⟩
  refine iteInduction (motive := M) (fun hicvec => ?_) fun _ => ?_
  · exact hstore ⟨rfl, rfl, rfl, rfl, rfl, rfl, fun _ => rfl, fun _ => rfl⟩
  · exact .registers rfl (.refl offset s.iommu)

/-! ## Faults -/

/-- The producer writes to memory, to the flags and to the tail of the fault queue. -/
theorem iommuEnqueueFault_frame (s : IommuSystem) (f : Fault) :
    ∃ fqcsr fqt memory, (iommuEnqueueFault s f).1 =
      { s with iommu := { s.iommu with fqcsr, fqt }, pci := { s.pci with memory } } := by
  unfold iommuEnqueueFault
  simp only
  split
  · exact ⟨_, _, _, rfl⟩
  split
  · exact ⟨_, _, _, rfl⟩
  split
  · exact ⟨_, _, _, rfl⟩
  split
  · exact ⟨_, _, _, rfl⟩
  split
  · exact ⟨_, _, _, rfl⟩
  · exact ⟨_, _, _, rfl⟩

/-- A fault changes the fault registers, the flags and the tail of the fault queue. -/
def RegistersOutsideFaults (i i' : RiscvIommu) : Prop :=
  ∃ faultAddress faultInfo faultStatus fqcsr fqt,
    i' = { i with faultAddress, faultInfo, faultStatus, fqcsr, fqt }

/-- What the handler leaves alone: the contexts, the other registers, and the devices up to pending
interrupts. -/
structure FaultReported (s : IommuSystem) (f : Fault) (t : IommuSystem) : Prop where
  contexts : t.contexts = s.contexts
  registers : RegistersOutsideFaults s.iommu t.iommu
  device : ∀ d, (t.pci.devices d).pbaErase = (s.pci.devices d).pbaErase
  faultLog : ∃ result, t.faultLog = .fault f result :: s.faultLog

theorem faultReported_iommuFaultHandler (sink : Sink) (s : IommuSystem) (f : Fault) :
    FaultReported s f (iommuFaultHandler sink s f) := by
  obtain ⟨fqcsr, fqt, memory, hframe⟩ := iommuEnqueueFault_frame (s.updateIommu (·.setFault f)) f
  unfold iommuFaultHandler
  generalize iommuEnqueueFault (s.updateIommu (·.setFault f)) f = r at hframe
  obtain ⟨t, result⟩ := r
  subst hframe
  exact ⟨rfl, ⟨_, _, _, _, _, rfl⟩, (deliverSame_pciDeviceRaiseMsix ..).device, result, rfl⟩

theorem systemTranslate_registers (sink : Sink) (s : IommuSystem) (device : Option Nat) (n : Nat)
    (env : Interference) (address size : Nat) (write : Bool) :
    RegistersOutsideFaults s.iommu
      (systemTranslate sink s device n env address size write).1.iommu := by
  unfold systemTranslate
  extract_lets r t
  have hsame : RegistersOutsideFaults s.iommu t.iommu := ⟨_, _, _, _, _, rfl⟩
  split
  · exact hsame
  split
  · exact (faultReported_iommuFaultHandler sink t _).registers
  · exact hsame

theorem pciDeviceDma_registers (sink : Sink) (s : IommuSystem) (d : Nat) (env : Interference)
    (address : Nat) (b : Buffer) :
    RegistersOutsideFaults s.iommu (pciDeviceDma sink s d env address b).1.iommu := by
  have hsame : RegistersOutsideFaults s.iommu s.iommu := ⟨_, _, _, _, _, rfl⟩
  unfold pciDeviceDma
  simp only
  split
  · exact hsame
  split
  · exact hsame
  · split <;> exact hsame
  rename_i n _
  have h := systemTranslate_registers sink s (some d) n env address b.size b.isWrite
  unfold systemBufferAccess
  split
  · exact hsame
  split
  · rename_i ht; rw [ht] at h; exact h
  rename_i ht
  rw [ht] at h
  simp only
  split <;> exact h

theorem systemTranslate_contexts (sink : Sink) (s : IommuSystem) (device : Option Nat) (n : Nat)
    (env : Interference) (address size : Nat) (write : Bool) (i : Nat) :
    ContextMoves (s.contexts i)
      ((systemTranslate sink s device n env address size write).1.contexts i) := by
  have h := (CommandsRan.setContext s (.single (.translate (s.contexts n) env s.memory address
    size write))).contexts i
  unfold systemTranslate
  simp only
  split
  · exact h
  split
  · rw [(faultReported_iommuFaultHandler sink _ _).contexts]; exact h
  · exact h

theorem systemBufferAccess_contexts (sink : Sink) (s : IommuSystem) (device : Option Nat) (n : Nat)
    (env : Interference) (address : Nat) (b : Buffer) (i : Nat) :
    ContextMoves (s.contexts i)
      ((systemBufferAccess sink s device n env address b).1.contexts i) := by
  have h := systemTranslate_contexts sink s device n env address b.size b.isWrite i
  unfold systemBufferAccess
  split
  · exact .refl
  split
  · rename_i ht; rw [ht] at h; exact h
  rename_i ht
  rw [ht] at h
  simp only
  split <;> exact h

theorem pciDeviceDma_contexts (sink : Sink) (s : IommuSystem) (d : Nat) (env : Interference)
    (address : Nat) (b : Buffer) (i : Nat) :
    ContextMoves (s.contexts i) ((pciDeviceDma sink s d env address b).1.contexts i) := by
  unfold pciDeviceDma
  simp only
  split
  · exact .refl
  split
  · exact .refl
  · split <;> exact .refl
  · exact systemBufferAccess_contexts ..

/-! ## Binding -/

/-- Only the wiring changes, and the context stays initialised. -/
def Rewired (c c' : IommuContext) : Prop :=
  ∃ attachedDevice savedDmaAs savedDmaAsFromBus requesterId faultHandler,
    c' = { c with attachedDevice, savedDmaAs, savedDmaAsFromBus, requesterId, faultHandler }

theorem Rewired.refl (c : IommuContext) : Rewired c c := ⟨_, _, _, _, _, rfl⟩

theorem Rewired.trans {c c' c'' : IommuContext} (h : Rewired c c') (h' : Rewired c' c'') :
    Rewired c c'' := by
  obtain ⟨_, _, _, _, _, rfl⟩ := h
  obtain ⟨_, _, _, _, _, rfl⟩ := h'
  exact ⟨_, _, _, _, _, rfl⟩

/-- Binding and unbinding rewire contexts. -/
def AllRewired (s t : IommuSystem) : Prop := ∀ n, Rewired (s.contexts n) (t.contexts n)

namespace AllRewired

theorem refl (s : IommuSystem) : AllRewired s s := fun _ => .refl _

theorem trans {s t u : IommuSystem} (h : AllRewired s t) (h' : AllRewired t u) :
    AllRewired s u := fun n => (h n).trans (h' n)

theorem of_contexts_eq {s t : IommuSystem} (h : t.contexts = s.contexts) : AllRewired s t := by
  intro n
  rw [h]
  exact .refl _

theorem setContext (s : IommuSystem) {n : Nat} {c : IommuContext} (h : Rewired (s.contexts n) c) :
    AllRewired s (s.setContext n c) := by
  intro i
  simp only [IommuSystem.setContext, Function.update_apply]
  split
  · rename_i hi; rw [hi]; exact h
  · exact .refl _

theorem setFaultHandler (s : IommuSystem) (n : Nat) (faultHandler : Bool) :
    AllRewired s (s.setContext n (iommuContextSetFaultHandler (s.contexts n) faultHandler)) :=
  setContext s ⟨_, _, _, _, _, rfl⟩

end AllRewired

theorem allRewired_riscvIommuSetContext (s : IommuSystem) (context : Option Nat) :
    AllRewired s (riscvIommuSetContext s context).1 := by
  unfold riscvIommuSetContext
  split
  · exact .refl s
  extract_lets t u
  have ht : AllRewired s t := by
    simp only [t]
    split
    · exact .refl s
    split
    · exact .refl s
    · exact .setFaultHandler s _ false
  have hu : AllRewired s u := ht.trans (.of_contexts_eq rfl)
  split
  · exact hu
  · exact hu.trans (.setFaultHandler u _ true)

theorem allRewired_iommuContextDetach (s : IommuSystem) (n d : Nat) :
    AllRewired s (iommuContextDetach s n d).1 := by
  unfold iommuContextDetach
  simp only
  split
  · exact .refl s
  · exact .setContext s ⟨_, _, _, _, _, rfl⟩

/-- `iommuContextAttach` changes nothing, or attaches the context. -/
theorem iommuContextAttach_cases (s : IommuSystem) (n d : Nat) :
    iommuContextAttach s n d = (s, .error .einval) ∨
      ∃ dev, pciDeviceSetDmaAs (s.pci.devices d) (some (.context n)) = .ok dev ∧
        iommuContextAttach s n d =
          ({ s with pci := s.pci.updateDevice d fun _ => dev }.setContext n { s.contexts n with
            savedDmaAs := (s.pci.devices d).parent.dmaAs
            savedDmaAsFromBus := (s.pci.devices d).parent.dmaAsFromBus
            attachedDevice := some d
            requesterId := dev.requesterId }, .ok ()) := by
  unfold iommuContextAttach
  simp only
  split
  · exact .inl rfl
  rename_i hfree
  rw [Bool.not_eq_true, Bool.or_eq_false_iff] at hfree
  -- The device is not realized, so its address space can be set.
  have hset : pciDeviceSetDmaAs (s.pci.devices d) (some (.context n)) = .ok _ :=
    if_neg (by rw [hfree.2]; exact Bool.false_ne_true)
  rw [hset]
  exact .inr ⟨_, rfl, rfl⟩

/-- What `riscvIommuBindDevice` does. The second case is a context that was attached by other
means: a failed call detaches it. -/
inductive BindOutcome (s : IommuSystem) (d n : Nat) (t : IommuSystem) : Prop
  | same (eq : t = s)
  | detached (attached : (s.contexts n).attachedDevice = some d)
      (free : ∀ b ∈ s.iommu.bindings.list, b.context ≠ n) (iommu_eq : t.iommu = s.iommu)
      (rewired : AllRewired s t) (faultLog_eq : t.faultLog = s.faultLog)
  | bound {dev : PciDevice} {bindings : Bindings}
      (unbound : ∀ b ∈ s.iommu.bindings.list, b.device ≠ d ∧ b.context ≠ n)
      (space_eq : pciDeviceSetDmaAs (s.pci.devices d) (some (.context n)) = .ok dev)
      (pci_eq : t.pci = (s.pci.updateDevice d fun _ => dev).tryDevice d
        (pciDeviceSetMsixRemapper · true))
      (contexts_eq : t.contexts = Function.update s.contexts n { s.contexts n with
        savedDmaAs := (s.pci.devices d).parent.dmaAs
        savedDmaAsFromBus := (s.pci.devices d).parent.dmaAsFromBus
        attachedDevice := some d
        requesterId := dev.requesterId
        faultHandler := true })
      (iommu_eq : t.iommu = { s.iommu with bindings })
      (bindings_eq : bindings.list = s.iommu.bindings.list ++ [⟨d, n⟩])
      (faultLog_eq : t.faultLog = s.faultLog)

theorem riscvIommuBindDevice_outcome (s : IommuSystem) (d n : Nat) :
    BindOutcome s d n (riscvIommuBindDevice s d n).1 := by
  unfold riscvIommuBindDevice
  simp only
  split
  · exact .same rfl
  split
  · exact .same rfl
  rename_i hclash
  rcases iommuContextAttach_cases s n d with hattach | ⟨dev, hspace, hattach⟩ <;> rw [hattach]
  · dsimp only
    split
    · rename_i hattached
      refine .detached hattached (fun b hb h => hclash ⟨b, hb, .inr (.inl h)⟩) ?_ ?_ ?_
      · simp only [iommuContextDetach]
        split <;> rfl
      rotate_left
      · simp only [iommuContextDetach]
        split <;> rfl
      · have hremap : AllRewired s (s.setRemapper d false) := .of_contexts_eq rfl
        exact (hremap.trans (.setFaultHandler _ n false)).trans
          (allRewired_iommuContextDetach _ n d)
    · exact .same rfl
  · refine .bound (fun b hb => ⟨fun h => hclash ⟨b, hb, .inl h⟩,
      fun h => hclash ⟨b, hb, .inr (.inl h)⟩⟩) hspace rfl ?_ rfl rfl rfl
    simp only [IommuSystem.setContext, IommuSystem.setRemapper, IommuSystem.updateIommu,
      iommuContextSetFaultHandler, Function.update_self, Function.update_idem]

theorem BindOutcome.allRewired {s t : IommuSystem} {d n : Nat} (h : BindOutcome s d n t) :
    AllRewired s t := by
  cases h with
  | same heq => rw [heq]; exact .refl s
  | detached _ _ _ h _ => exact h
  | bound _ _ _ hctx =>
    intro i
    rw [hctx]
    exact AllRewired.setContext s ⟨_, _, _, _, _, rfl⟩ i

/-- What `riscvIommuUnbindDevice` does. -/
inductive UnbindOutcome (s : IommuSystem) (d : Nat) (t : IommuSystem) : Prop
  | same (eq : t = s)
  | unbound {index : Nat} {b : Binding} (get_eq : s.iommu.bindings.list[index]? = some b)
      (device_eq : b.device = d)
      (pci_eq : t.pci = (s.pci.updateDevice d fun dev => { dev with
          parent := { dev.parent with
            dmaAs := (s.contexts b.context).savedDmaAs
            dmaAsFromBus := (s.contexts b.context).savedDmaAsFromBus } }).tryDevice d
        (pciDeviceSetMsixRemapper · false))
      (contexts_eq : t.contexts = Function.update s.contexts b.context
        { s.contexts b.context with
          attachedDevice := none
          savedDmaAs := none
          savedDmaAsFromBus := false
          faultHandler := false })
      (iommu_eq : t.iommu = { s.iommu with bindings := s.iommu.bindings.remove index })
      (faultLog_eq : t.faultLog = s.faultLog)

theorem riscvIommuUnbindDevice_outcome (s : IommuSystem) (d : Nat) :
    UnbindOutcome s d (riscvIommuUnbindDevice s d).1 := by
  unfold riscvIommuUnbindDevice iommuContextDetach
  simp only
  split
  · exact .same rfl
  rename_i b hget
  have hdevice : b.device = d := by
    obtain ⟨hlt, hget⟩ := List.getElem?_eq_some_iff.mp hget
    have := List.findIdx_getElem (w := hlt)
    rw [hget] at this
    exact eq_of_beq this
  by_cases hbusy : (s.contexts b.context).attachedDevice ≠ some d ∨
      (s.pci.devices d).parent.realized = true
  · rw [if_pos hbusy]
    exact .same rfl
  · rw [if_neg hbusy]
    refine .unbound hget hdevice rfl ?_ rfl rfl
    simp only [IommuSystem.setContext, IommuSystem.setRemapper, IommuSystem.updateIommu,
      iommuContextSetFaultHandler, Function.update_self, Function.update_idem]

theorem UnbindOutcome.allRewired {s t : IommuSystem} {d : Nat} (h : UnbindOutcome s d t) :
    AllRewired s t := by
  cases h with
  | same heq => rw [heq]; exact .refl s
  | unbound _ _ _ hctx =>
    intro i
    rw [hctx]
    exact AllRewired.setContext s ⟨_, _, _, _, _, rfl⟩ i

theorem commandsRan_riscvIommuReset (s : IommuSystem) :
    CommandsRan (s.updateIommu RiscvIommu.clearRegisters) (riscvIommuReset s) := by
  unfold riscvIommuReset
  extract_lets t fault
  have hfault : ∀ s n, CommandsRan s (fault s n) := fun s n =>
    .setContext s (.single (.setMode _ _))
  split
  · exact .refl t
  · exact hfault t _
  · exact .foldl (fun s (b : Binding) => hfault s b.context) t (_ :: _)

/-! ## Runs -/

/-- A step changes a context by its operations or rewires it. -/
theorem iommuStep_contexts (sink : Sink) (s : IommuSystem) (op : IommuOp) (n : Nat) :
    ContextMoves (s.contexts n) ((iommuStep sink s op).contexts n) ∨
      Rewired (s.contexts n) ((iommuStep sink s op).contexts n) := by
  cases op with
  | pci op => exact .inl .refl
  | mmioWrite offset size value =>
    refine .inl ?_
    simp only [iommuStep]
    cases iommuMmioWrite_outcome sink s offset size value with
    | registers heq => rw [heq]
    | directory heq => rw [heq]; exact (commandsRan_iommuApplyDdt (s.updateIommu _)).contexts n
    | commands heq =>
      rw [heq]
      exact (commandsRan_iommuProcessCommandQueue sink (s.updateIommu _)).contexts n
    | head _ heq => rw [heq]
  | translate i env address size write => exact .inl (systemTranslate_contexts ..)
  | dma d env address b => exact .inl (pciDeviceDma_contexts ..)
  | setMode i mode => exact .inl ((CommandsRan.setContext s (.single (.setMode _ _))).contexts n)
  | setSv39 i rootPpn updateAd =>
    exact .inl ((CommandsRan.setContext s (.single (.setSv39Mode ..))).contexts n)
  | setSv39x4 i rootPpn updateAd =>
    exact .inl ((CommandsRan.setContext s (.single (.setSv39Mode ..))).contexts n)
  | invalidate i address size =>
    exact .inl ((CommandsRan.setContext s (.single (.invalidate ..))).contexts n)
  | setContext context => exact .inr (allRewired_riscvIommuSetContext s context n)
  | bind d i => exact .inr ((riscvIommuBindDevice_outcome s d i).allRewired n)
  | unbind d => exact .inr ((riscvIommuUnbindDevice_outcome s d).allRewired n)
  | reset => exact .inl ((commandsRan_riscvIommuReset s).contexts n)

/-- The caches have their shape in every state of every run. -/
theorem IommuSystem.cacheWf {sink : Sink} {allowed : IommuSystem → IommuOp → Prop}
    {s : IommuSystem} (h : Reach (iommuStep sink) IommuSystem.Initial allowed s) (n : Nat) :
    (s.contexts n).CacheWf := by
  refine Reach.invariant (I := fun s => ∀ n, (s.contexts n).CacheWf) ?_ ?_ h n
  · rintro s ⟨_, _, _, _, _, _, hctx, _⟩ n
    obtain ⟨mode, hmode⟩ := hctx n
    rw [hmode]
    exact .init mode
  · intro s op hI _ n
    rcases iommuStep_contexts sink s op n with hmove | hwire
    · exact hmove.cacheWf (hI n)
    · obtain ⟨_, _, _, _, _, hc⟩ := hwire
      rw [hc]
      exact ⟨(hI n).count_le, (hI n).entry⟩

/-- The device contexts have the base format, and the contexts are initialised. -/
structure IommuSystem.Wired (s : IommuSystem) : Prop where
  baseFormat : s.iommu.cap &&& capMsiFlat = 0
  downstream : ∀ n, (s.contexts n).downstream = true

/-- Nothing writes the capabilities. -/
theorem iommuStep_cap (sink : Sink) (s : IommuSystem) (op : IommuOp) :
    (iommuStep sink s op).iommu.cap = s.iommu.cap := by
  cases op with
  | pci op => rfl
  | mmioWrite offset size value =>
    simp only [iommuStep]
    cases iommuMmioWrite_outcome sink s offset size value with
    | registers heq hkeep => rw [heq]; exact hkeep.cap
    | directory heq =>
      obtain ⟨_, _, h⟩ := (commandsRan_iommuApplyDdt (s.updateIommu _)).iommu
      rw [heq, h]
      rfl
    | commands heq =>
      obtain ⟨_, _, h⟩ := (commandsRan_iommuProcessCommandQueue sink (s.updateIommu _)).iommu
      rw [heq, h]
      rfl
    | head _ heq => rw [heq]
  | translate n env address size write =>
    obtain ⟨_, _, _, _, _, h⟩ :=
      systemTranslate_registers sink s (s.contexts n).attachedDevice n env address size write
    simp only [iommuStep, h]
  | dma d env address b =>
    obtain ⟨_, _, _, _, _, h⟩ := pciDeviceDma_registers sink s d env address b
    simp only [iommuStep, h]
  | setMode n mode => rfl
  | setSv39 n rootPpn updateAd => rfl
  | setSv39x4 n rootPpn updateAd => rfl
  | invalidate n address size => rfl
  | setContext context =>
    simp only [iommuStep, riscvIommuSetContext]
    split
    · rfl
    split <;> split <;> first | rfl | (split <;> rfl)
  | bind d n =>
    simp only [iommuStep]
    cases riscvIommuBindDevice_outcome s d n with
    | same heq => rw [heq]
    | detached _ _ hi => rw [hi]
    | bound _ _ _ _ hi => rw [hi]
  | unbind d =>
    simp only [iommuStep]
    cases riscvIommuUnbindDevice_outcome s d with
    | same heq => rw [heq]
    | unbound _ _ _ _ hi => rw [hi]
  | reset =>
    obtain ⟨_, _, h⟩ := (commandsRan_riscvIommuReset s).iommu
    simp only [iommuStep, h]
    rfl

/-- Every state of every run is wired. -/
theorem IommuSystem.wired {sink : Sink} {allowed : IommuSystem → IommuOp → Prop} {s : IommuSystem}
    (h : Reach (iommuStep sink) IommuSystem.Initial allowed s) : s.Wired := by
  refine Reach.invariant (I := IommuSystem.Wired) ?_ ?_ h
  · rintro s ⟨_, _, _, _, _, hiommu, hctx, _⟩
    refine ⟨by rw [hiommu]; decide, fun n => ?_⟩
    obtain ⟨mode, hmode⟩ := hctx n
    rw [hmode]
    rfl
  · intro s op hI _
    refine ⟨by rw [iommuStep_cap]; exact hI.baseFormat, fun n => ?_⟩
    rcases iommuStep_contexts sink s op n with hmove | hwire
    · exact (congrArg Prod.fst hmove.wiring).trans (hI.downstream n)
    · obtain ⟨_, _, _, _, _, hc⟩ := hwire
      rw [hc]
      exact hI.downstream n

end Vart
