import Vart.Lib.Reach
import Vart.Pci.Bus

/-!
# The PCI core as a machine

`PciOp` lists the calls of the PCI core: those that build the topology, the life cycle of a
function, the accesses of the guest (ECAM and MSI-X table writes) and interrupts raised by a device
model. `pciStep` performs one of them. `PciOp.Valid` says what callers respect: an object is
initialised once, a bus exists when it is used, and a region of another device is not one of the
PCI core.
-/

namespace Vart

open Lib

inductive PciOp where
  | deviceInit (d : Nat) (vendorId deviceId : UInt16) (revision progIf subclass classCode : UInt8)
  | setBar (d index size flags : Nat)
  | addCapability (d : Nat) (id : UInt8) (data : List UInt8)
  | initMsix (d vectorCount tableBar tableOffset pbaBar pbaOffset : Nat)
  | connectMsix (d vector irq : Nat)
  | setMsixInjector (d : Nat) (inject : Bool)
  | setMsixRemapper (d : Nat) (remap : Bool)
  | connectIntx (d : Nat) (pin : UInt8) (irq line : Nat)
  | setIntx (d : Nat) (level : Bool)
  | setDmaAs (d : Nat) (space : Option SpaceId)
  | bridgeInit (d parent : Nat) (secondaryNumber : UInt8)
  | bridgeDestroy (d : Nat)
  | switchInit (upstream : Nat) (ports : List Nat) (parent : Nat) (secondaryNumber : UInt8)
  | addDevice (bus d : Nat) (devfn : UInt8)
  | removeDevice (bus d : Nat)
  | rootComplexRealize
  | realize (d : Nat)
  | unrealize (d : Nat)
  | reset (d : Nat)
  | ecamWrite (offset : Nat) (size : AccessSize) (value : Nat)
  | tableWrite (d offset size value : Nat)
  | raiseMsix (d vector : Nat)
  /-- Another device puts a region into the system address space. -/
  | addRegion (region : AddressRegion)
  | removeRegion (id : RegionId)
  /-- The guest writes to RAM. -/
  | writeRam (ram : RegionId → Store)

/-- `vart_pci_device_set_intx`. -/
def pciDeviceSetIntx (sink : Sink) (s : PciState) (d : Nat) (level : Bool) : PciState × Status :=
  match (s.devices d).intxIrq with
  | none => (s, .error .enotconn)
  | some irq =>
    match irqSet sink s.irq irq level with
    | (irq, .error e) => ({ s with irq }, .error e)
    | (irq, .ok _) =>
      (({ s with irq }).updateDevice d fun dev => { dev with intxAsserted := level }, .ok ())

/-- `pci_root_complex_realize`. -/
def pciRootComplexRealize (s : PciState) : PciState × Status :=
  match s.addMmio .ecam virtPcieEcamBase virtPcieEcamSize 0 with
  | .error e => (s, .error e)
  | .ok s => ({ s with ecamMapped := true }, .ok ())

/-- A change of one device that may fail; a failing call changes nothing. -/
def PciState.tryDevice (s : PciState) (d : Nat) (f : PciDevice → Except Errno PciDevice) : PciState :=
  match f (s.devices d) with
  | .error _ => s
  | .ok dev => s.updateDevice d fun _ => dev

def pciStep (sink : Sink) (s : PciState) : PciOp → PciState
  | .deviceInit d vendorId deviceId revision progIf subclass classCode =>
    s.updateDevice d fun _ => pciDeviceInit vendorId deviceId revision progIf subclass classCode
  | .setBar d index size flags => s.tryDevice d (pciDeviceSetBar · index size flags)
  | .addCapability d id data =>
    s.tryDevice d fun dev => (pciDeviceAddCapability dev id data).map Prod.fst
  | .initMsix d vectorCount tableBar tableOffset pbaBar pbaOffset =>
    s.tryDevice d (pciDeviceInitMsix · vectorCount tableBar tableOffset pbaBar pbaOffset)
  | .connectMsix d vector irq => s.tryDevice d (pciDeviceConnectMsix · vector irq)
  | .setMsixInjector d inject => s.tryDevice d (pciDeviceSetMsixInjector · inject)
  | .setMsixRemapper d remap => s.tryDevice d (pciDeviceSetMsixRemapper · remap)
  | .connectIntx d pin irq line => s.tryDevice d (pciDeviceConnectIntx · pin irq line)
  | .setIntx d level => (pciDeviceSetIntx sink s d level).1
  | .setDmaAs d space => s.tryDevice d (pciDeviceSetDmaAs · space)
  | .bridgeInit d parent secondaryNumber => (pciBridgeInit s d parent secondaryNumber).1
  | .bridgeDestroy d => (pciBridgeDestroy s d).1
  | .switchInit upstream ports parent secondaryNumber =>
    (pciSwitchInit s upstream ports parent secondaryNumber).1
  | .addDevice bus d devfn => (pciBusAddDevice s bus d devfn).1
  | .removeDevice bus d => (pciBusRemoveDevice s bus d).1
  | .rootComplexRealize => (pciRootComplexRealize s).1
  | .realize d => (pciDeviceRealize s d).1
  | .unrealize d => pciDeviceUnrealize sink s d
  | .reset d => (pciDeviceReset sink s d).1
  | .ecamWrite offset size value => (pciEcamWrite sink s offset size value).1
  | .tableWrite d offset size value => (pciMsixTableWrite sink s d offset size value).1
  | .raiseMsix d vector => (pciDeviceRaiseMsix sink s d vector).1
  | .addRegion region =>
    match s.memory.space.add region with
    | .error _ => s
    | .ok space => s.setSpace space
  | .removeRegion id => s.removeRegion id
  | .writeRam ram => { s with memory := { s.memory with ram } }

/-- The region belongs to the PCI core. -/
def RegionId.isPci : RegionId → Bool
  | .bar .. | .msixTable _ | .msixPba _ | .ecam => true
  | .memory _ | .platform _ => false

/-- What the callers of the PCI core respect. -/
def PciOp.Valid (s : PciState) : PciOp → Prop
  | .deviceInit d .. => (s.devices d).initialised = false
  | .bridgeInit d parent _ => (s.devices d).initialised = false ∧ parent < s.busCount
  | .switchInit upstream ports parent _ =>
    (upstream :: ports).Nodup ∧ (∀ d ∈ upstream :: ports, (s.devices d).initialised = false) ∧
      parent < s.busCount
  | .addDevice bus d _ => bus < s.busCount ∧ (s.devices d).initialised = true
  | .addRegion region => region.id.isPci = false
  | .removeRegion id => id.isPci = false
  | _ => True

/-- `vart_pci_root_complex_init`: the root bus with its window, over a memory without PCI
regions. -/
def PciState.init (memory : GuestMemory) : PciState where
  devices := fun _ => .zero
  buses := Function.update (fun _ => .zero) 0 { PciBus.zero with
    subordinateNumber := 255
    mmioBase := virtPcieMmioBase
    mmioSize := virtPcieMmioSize
    mmioNext := virtPcieMmioBase }
  busCount := 1
  memory := memory
  ecamMapped := false
  irq := .init
  log := []

def PciState.Initial (s : PciState) : Prop :=
  ∃ memory : GuestMemory, (∀ r ∈ memory.space.regions, r.id.isPci = false) ∧ s = .init memory

/-- A machine with RAM at `0x80000000`. -/
def ramAtDram : GuestMemory :=
  ⟨⟨[⟨.memory 0, 0x80000000, 0x10000000, -1, .ram, true, true⟩], by decide⟩, fun _ _ => 0⟩

end Vart
