import Vart.Riscv.Iommu

/-!
# The IOMMU as a machine

`IommuOp` lists what can happen to the IOMMU, its contexts and the PCI functions behind them:
calls of the PCI core, register writes of the guest, DMA and translations (which report their
faults to the IOMMU), the calls that change a context, and the calls that bind devices.

A fault is reported after the context has let go of its lock, in the same call: `systemTranslate`
is `iommu_context_translate` with its call of the fault handler.
-/

namespace Vart

open Lib

/-! ## Accesses through a context -/

/-- The fault that context `n` reports for an access of `device`. -/
def IommuSystem.faultOf (s : IommuSystem) (device : Option Nat) (n address size : Nat)
    (write : Bool) (error : Errno) : Fault where
  device := device
  deviceId := match device with
    | none => 0
    | some d => (s.pci.devices d).requesterId
  requesterId := (s.contexts n).requesterId
  address := address
  size := size
  write := write
  error := error

/-- Context `n` has done the translation `r`. -/
def IommuSystem.putTranslated (s : IommuSystem) (n : Nat) (r : Translated) : IommuSystem :=
  (s.setContext n r.context).setMemory r.memory

/-- `iommu_context_translate` of context `n` for an access of `device`. -/
def systemTranslate (sink : Sink) (s : IommuSystem) (device : Option Nat) (n : Nat)
    (env : Interference) (address size : Nat) (write : Bool) : IommuSystem × Except Errno Nat :=
  let r := iommuContextTranslate (s.contexts n) env s.memory address size write
  let s := s.putTranslated n r
  match r.result with
  | .ok translated => (s, .ok translated)
  | .error e =>
    if size ≠ 0 ∧ (s.contexts n).faultHandler = true then
      (iommuFaultHandler sink s (s.faultOf device n address size write e), .error e)
    else (s, .error e)

/-- `address_space_buffer_access` of the address space of context `n`. -/
def systemBufferAccess (sink : Sink) (s : IommuSystem) (device : Option Nat) (n : Nat)
    (env : Interference) (address : Nat) (b : Buffer) : IommuSystem × Except Errno (List UInt8) :=
  if b.size = 0 then (s, .ok [])
  else match systemTranslate sink s device n env address b.size b.isWrite with
  | (s, .error e) => (s, .error e)
  | (s, .ok translated) =>
    let m := env 6 s.memory
    match m.bufferAccess translated b with
    | .error e => (s.setMemory m, .error e)
    | .ok (m, data) => (s.setMemory m, .ok data)

/-- `vart_pci_device_dma_read` and `vart_pci_device_dma_write`. -/
def pciDeviceDma (sink : Sink) (s : IommuSystem) (d : Nat) (env : Interference) (address : Nat)
    (b : Buffer) : IommuSystem × Except Errno (List UInt8) :=
  let dev := s.pci.devices d
  if dev.pciBus = none ∨ dev.busMasterEnabled = false then (s, .error .eperm)
  else match dev.parent.dmaAs with
  | none => (s, .error .enodev)
  | some .system =>
    match s.memory.bufferAccess address b with
    | .error e => (s, .error e)
    | .ok (m, data) => (s.setMemory m, .ok data)
  | some (.context n) => systemBufferAccess sink s (some d) n env address b

/-! ## Transitions -/

inductive IommuOp where
  | pci (op : PciOp)
  /-- The guest writes to a register. -/
  | mmioWrite (offset size value : Nat)
  /-- `vart_iommu_context_translate_address`. -/
  | translate (n : Nat) (env : Interference) (address size : Nat) (write : Bool)
  | dma (d : Nat) (env : Interference) (address : Nat) (b : Buffer)
  | setMode (n : Nat) (mode : ContextMode)
  | setSv39 (n rootPpn : Nat) (updateAd : Bool)
  | setSv39x4 (n rootPpn : Nat) (updateAd : Bool)
  | invalidate (n address size : Nat)
  | setContext (context : Option Nat)
  | bind (d n : Nat)
  | unbind (d : Nat)
  | reset

def iommuStep (sink : Sink) (s : IommuSystem) : IommuOp → IommuSystem
  | .pci op => { s with pci := pciStep sink s.pci op }
  | .mmioWrite offset size value => (iommuMmioWrite sink s offset size value).1
  | .translate n env address size write =>
    (systemTranslate sink s (s.contexts n).attachedDevice n env address size write).1
  | .dma d env address b => (pciDeviceDma sink s d env address b).1
  | .setMode n mode => s.setContext n (iommuContextSetMode (s.contexts n) mode).1
  | .setSv39 n rootPpn updateAd =>
    s.setContext n (iommuContextSetSv39 (s.contexts n) rootPpn updateAd).1
  | .setSv39x4 n rootPpn updateAd =>
    s.setContext n (iommuContextSetSv39x4 (s.contexts n) rootPpn updateAd).1
  | .invalidate n address size =>
    s.setContext n (iommuContextInvalidate (s.contexts n) address size).1
  | .setContext context => (riscvIommuSetContext s context).1
  | .bind d n => (riscvIommuBindDevice s d n).1
  | .unbind d => (riscvIommuUnbindDevice s d).1
  | .reset => riscvIommuReset s

/-- What the callers respect: the rules of the PCI core, and the DMA address space of a function is
set to a context by binding the function only. -/
def IommuOp.Valid (s : IommuSystem) : IommuOp → Prop
  | .pci op => op.Valid s.pci ∧ match op with
    | .setDmaAs d space =>
      (∀ n, space ≠ some (.context n)) ∧ ∀ b ∈ s.iommu.bindings.list, b.device ≠ d
    | _ => True
  | .bind d _ => (s.pci.devices d).initialised = true
  | _ => True

/-- The IOMMU after `vart_riscv_iommu_init`, its PCI function being device `0`, on a fresh root
complex, with contexts after `vart_iommu_context_init`. -/
def IommuSystem.Initial (s : IommuSystem) : Prop :=
  ∃ pci dev, PciState.Initial pci ∧ riscvIommuPciInit = .ok dev ∧
    s.pci = pci.updateDevice 0 (fun _ => dev) ∧ s.iommu = riscvIommuInit 0 ∧
    (∀ n, ∃ mode, s.contexts n = iommuContextInit mode) ∧ s.commands = [] ∧ s.faultLog = []

/-- The IOMMU of a fresh machine with the given memory. -/
def iommuAtReset (memory : GuestMemory) : IommuSystem where
  pci := (PciState.init memory).updateDevice 0 fun dev => riscvIommuPciInit.toOption.getD dev
  iommu := riscvIommuInit 0
  contexts := fun _ => iommuContextInit .fault
  commands := []
  faultLog := []

theorem iommuAtReset_initial {memory : GuestMemory}
    (h : ∀ r ∈ memory.space.regions, r.id.isPci = false) : (iommuAtReset memory).Initial := by
  obtain ⟨dev, hdev⟩ : ∃ dev, riscvIommuPciInit = .ok dev := ⟨_, rfl⟩
  refine ⟨.init memory, dev, ⟨memory, h, rfl⟩, hdev, ?_, rfl, fun _ => ⟨_, rfl⟩, rfl, rfl⟩
  simp only [iommuAtReset, hdev]
  rfl

/-- A device bound to the IOMMU before it is on a bus. -/
def deviceBound (memory : GuestMemory) : IommuSystem :=
  runFrom (iommuStep fun _ => .ok ()) (iommuAtReset memory)
    [.pci (.deviceInit 1 0x1af4 0x1041 0 0 0 2), .bind 1 0]

theorem deviceBound_reach {memory : GuestMemory}
    (h : ∀ r ∈ memory.space.regions, r.id.isPci = false) :
    Reach (iommuStep fun _ => .ok ()) IommuSystem.Initial IommuOp.Valid (deviceBound memory) :=
  Reach.runFrom (.start (iommuAtReset_initial h)) ⟨⟨rfl, trivial⟩, rfl, trivial⟩

end Vart
