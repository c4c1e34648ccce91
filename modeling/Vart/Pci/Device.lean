import Vart.Core.AddressSpace
import Vart.Core.Irq
import Vart.Lib.Bits

/-!
# PCI functions (`hw/pci/pci.c`)

The records of the PCI core and the calls that prepare one function before it is on a bus: BARs,
capabilities and MSI-X.

Objects are named by numbers. A device number stands for a `VartPciDevice` and bus `0` is the root
bus; the secondary buses of bridges are numbered in the order of their creation, so a bus has a
larger number than its parent. `PciState` holds all objects, the system address space with the RAM
behind it, the interrupt lines, and a log of MSI-X events, newest first.

A `VartDevice` is on the bus that its `VartPciDevice` is on, so `device->bus` is not kept apart
from `pci_bus`. The windows that `VartPciBridge` keeps next to those of its secondary bus are
written and never read; only those of the bus are kept.
-/

namespace Vart

open Lib

/-! ## Constants -/

abbrev pciBarCount : Nat := 6
abbrev pciConfigSpaceSize : Nat := 0x1000
abbrev pciCommandMemoryEnable : Nat := 0x0002
abbrev pciCommandBusMaster : Nat := 0x0004
abbrev pciBarMem64 : Nat := 0x4
abbrev pciBarPrefetchable : Nat := 0x8
abbrev pciHeaderTypeMultifunction : Nat := 0x80
abbrev pciBridgeMmioWindowSize : Nat := 0x10000000
abbrev pciCapabilityListOffset : Nat := 0x34
abbrev pciCapabilityStart : Nat := 0x40
abbrev pciCapabilityEnd : Nat := 0x100
abbrev pciStatusCapabilities : Nat := 0x0010
abbrev pciCapIdMsix : Nat := 0x11
abbrev pciMsixMaxVectors : Nat := 2048
abbrev virtPcieEcamBase : Nat := 0x30000000
abbrev virtPcieEcamSize : Nat := 0x10000000
abbrev virtPcieMmioBase : Nat := 0x40000000
abbrev virtPcieMmioSize : Nat := 0x40000000

/-! ## Records -/

/-- `VartDevice`, as far as the PCI core reads it. -/
structure Device where
  realized : Bool
  dmaAs : Option SpaceId
  dmaAsFromBus : Bool

structure PciBar where
  size : Nat
  address : Nat
  flags : Nat
  implemented : Bool
  highPart : Bool
  is64bit : Bool
  mapped : Bool
  probe : Bool

def PciBar.zero : PciBar := ⟨0, 0, 0, false, false, false, false, false⟩

def PciBar.prefetchable (bar : PciBar) : Bool := bar.flags &&& pciBarPrefetchable != 0

structure PciMsix where
  table : Store
  pba : Store
  /-- The interrupt line that a vector is connected to. -/
  irqRoutes : Nat → Option Nat
  /-- `inject` is not `NULL`. -/
  inject : Bool
  /-- `remap` is not `NULL`. -/
  remap : Bool
  tableOffset : Nat
  pbaOffset : Nat
  tableBar : Nat
  pbaBar : Nat
  capabilityOffset : Nat
  vectorCount : Nat
  configured : Bool
  mapped : Bool
  enabled : Bool
  functionMask : Bool

structure PciDevice where
  /-- `vart_pci_device_init` was called. -/
  initialised : Bool
  parent : Device
  pciBus : Option Nat
  devfn : UInt8
  requesterId : UInt16
  configSpace : Store
  bars : Nat → PciBar
  /-- The secondary bus of a bridge. Its `config_ops` are those of a bridge; no other function has
  any. -/
  secondaryBus : Option Nat
  capabilityNext : Nat
  capabilityTail : Nat
  msix : PciMsix
  /-- The interrupt line of the INTx pin. -/
  intxIrq : Option Nat
  intxPin : UInt8
  intxAsserted : Bool
  memoryEnabled : Bool
  busMasterEnabled : Bool

structure PciBus where
  parentPciBus : Option Nat
  /-- The device number of the bridge that owns the bus. -/
  ownerBridge : Option Nat
  children : List Nat
  number : UInt8
  secondaryNumber : UInt8
  subordinateNumber : UInt8
  functions : UInt8 → Option Nat
  mmioBase : Nat
  mmioSize : Nat
  mmioNext : Nat
  prefetchMmioBase : Nat
  prefetchMmioSize : Nat
  prefetchMmioNext : Nat

/-- What the log of the PCI core records about MSI-X. -/
inductive MsixEvent where
  /-- `vart_pci_device_raise_msix` was called for a vector of the device. -/
  | raised (device vector : Nat)
  /-- The sink was called for a vector: the state of the vector at the call, and whether the call
  succeeded. -/
  | attempted (device vector : Nat) (pending enabled functionMask masked ok : Bool)
  | reset (device : Nat)
deriving DecidableEq

structure PciState where
  devices : Nat → PciDevice
  buses : Nat → PciBus
  /-- The number of buses made so far; bus `0` is the root bus. -/
  busCount : Nat
  /-- The system address space and the RAM behind it. -/
  memory : GuestMemory
  ecamMapped : Bool
  irq : IrqState
  log : List MsixEvent

def PciMsix.zero : PciMsix where
  table := fun _ => 0
  pba := fun _ => 0
  irqRoutes := fun _ => none
  inject := false
  remap := false
  tableOffset := 0
  pbaOffset := 0
  tableBar := 0
  pbaBar := 0
  capabilityOffset := 0
  vectorCount := 0
  configured := false
  mapped := false
  enabled := false
  functionMask := false

def PciDevice.zero : PciDevice where
  initialised := false
  parent := ⟨false, none, false⟩
  pciBus := none
  devfn := 0
  requesterId := 0
  configSpace := fun _ => 0
  bars := fun _ => .zero
  secondaryBus := none
  capabilityNext := 0
  capabilityTail := 0
  msix := .zero
  intxIrq := none
  intxPin := 0
  intxAsserted := false
  memoryEnabled := false
  busMasterEnabled := false

def PciBus.zero : PciBus where
  parentPciBus := none
  ownerBridge := none
  children := []
  number := 0
  secondaryNumber := 0
  subordinateNumber := 0
  functions := fun _ => none
  mmioBase := 0
  mmioSize := 0
  mmioNext := 0
  prefetchMmioBase := 0
  prefetchMmioSize := 0
  prefetchMmioNext := 0

/-- Change one device. -/
def PciState.updateDevice (s : PciState) (d : Nat) (f : PciDevice → PciDevice) : PciState :=
  { s with devices := Function.update s.devices d (f (s.devices d)) }

/-- Change one bus. -/
def PciState.updateBus (s : PciState) (b : Nat) (f : PciBus → PciBus) : PciState :=
  { s with buses := Function.update s.buses b (f (s.buses b)) }

/-- Change the system address space. -/
def PciState.setSpace (s : PciState) (space : AddressSpace) : PciState :=
  { s with memory := { s.memory with space } }

namespace PciDevice

/-- Change one BAR. -/
def updateBar (dev : PciDevice) (index : Nat) (f : PciBar → PciBar) : PciDevice :=
  { dev with bars := Function.update dev.bars index (f (dev.bars index)) }

/-- `config_load_le` of the configuration space. -/
def configLoad (dev : PciDevice) (offset size : Nat) : Nat :=
  loadLe (dev.configSpace.read offset size)

/-- `config_store_le` to the configuration space. -/
def configStoreLe (dev : PciDevice) (offset size value : Nat) : PciDevice :=
  { dev with configSpace := dev.configSpace.write offset (storeLe size value) }

end PciDevice

/-! ## Preparing a function -/

/-- `vart_pci_device_init`. -/
def pciDeviceInit (vendorId deviceId : UInt16) (revision progIf subclass classCode : UInt8) :
    PciDevice :=
  let dev := { PciDevice.zero with initialised := true, capabilityNext := pciCapabilityStart }
  let dev := dev.configStoreLe 0x00 2 vendorId.toNat
  let dev := dev.configStoreLe 0x02 2 deviceId.toNat
  let dev := dev.configStoreLe 0x08 1 revision.toNat
  let dev := dev.configStoreLe 0x09 1 progIf.toNat
  let dev := dev.configStoreLe 0x0a 1 subclass.toNat
  dev.configStoreLe 0x0b 1 classCode.toNat

/-- `vart_pci_device_set_bar`, with callbacks that are not `NULL`. -/
def pciDeviceSetBar (dev : PciDevice) (index size flags : Nat) : Except Errno PciDevice :=
  let is64bit := flags &&& pciBarMem64 != 0
  let bar := dev.bars index
  let next := dev.bars (index + 1)
  if index ≥ pciBarCount ∨ size = 0 ∨ size &&& (size - 1) ≠ 0 ∨
      andNot flags (pciBarMem64 ||| pciBarPrefetchable) ≠ 0 then .error .einval
  else if dev.parent.realized || dev.pciBus.isSome || (is64bit && index == pciBarCount - 1) then
    .error .ebusy
  else if bar.implemented || bar.highPart || (is64bit && (next.implemented || next.highPart)) then
    .error .eexist
  else if !is64bit && decide (size > uint32Max) then .error .erange
  else
    let dev := dev.updateBar index fun _ =>
      { PciBar.zero with size, flags, implemented := true, is64bit }
    .ok (if is64bit then dev.updateBar (index + 1) fun bar => { bar with highPart := true } else dev)

/-- `vart_pci_device_add_capability`: the device and the offset of the capability. -/
def pciDeviceAddCapability (dev : PciDevice) (id : UInt8) (data : List UInt8) :
    Except Errno (PciDevice × Nat) :=
  let capabilityOffset := dev.capabilityNext
  let allocationSize := andNot (data.length + 2 + 3) 3
  if id = 0 ∨ data.length > 255 - 2 then .error .einval
  else if dev.parent.realized || dev.pciBus.isSome then .error .ebusy
  else if capabilityOffset < pciCapabilityStart ∨ capabilityOffset ≥ pciCapabilityEnd ∨
      allocationSize > pciCapabilityEnd - capabilityOffset then .error .enospc
  else
    let config := dev.configSpace.write capabilityOffset (List.replicate allocationSize 0)
    let config := config.write capabilityOffset [id]
    let config := config.write (capabilityOffset + 2) data
    let config := config.write
      (if dev.capabilityTail = 0 then pciCapabilityListOffset else dev.capabilityTail + 1)
      [UInt8.ofNat capabilityOffset]
    let dev := { dev with
      configSpace := config
      capabilityTail := capabilityOffset % 2 ^ 8
      capabilityNext := capabilityOffset + allocationSize }
    let status := dev.configLoad 0x06 2 ||| pciStatusCapabilities
    .ok (dev.configStoreLe 0x06 2 status, capabilityOffset % 2 ^ 8)

/-- `vart_pci_device_init_msix`, with memory for the tables. -/
def pciDeviceInitMsix (dev : PciDevice) (vectorCount tableBar tableOffset pbaBar pbaOffset : Nat) :
    Except Errno PciDevice :=
  if vectorCount = 0 ∨ vectorCount > pciMsixMaxVectors ∨ tableBar ≥ pciBarCount ∨
      pbaBar ≥ pciBarCount ∨ tableOffset &&& 7 ≠ 0 ∨ pbaOffset &&& 7 ≠ 0 then .error .einval
  else if dev.parent.realized || dev.pciBus.isSome then .error .ebusy
  else if dev.msix.configured then .error .ealready
  else
    let control := (vectorCount - 1) &&& 0x07ff
    let body := storeLe 2 control ++ storeLe 4 (tableOffset ||| tableBar) ++
      storeLe 4 (pbaOffset ||| pbaBar)
    match pciDeviceAddCapability dev (UInt8.ofNat pciCapIdMsix) body with
    | .error e => .error e
    | .ok (dev, capabilityOffset) =>
      .ok { dev with msix := { dev.msix with
        table := fun _ => 0
        pba := fun _ => 0
        irqRoutes := fun _ => none
        tableOffset, pbaOffset, tableBar, pbaBar, capabilityOffset, vectorCount
        configured := true } }

/-- `vart_pci_device_connect_msix`. -/
def pciDeviceConnectMsix (dev : PciDevice) (vector irq : Nat) : Except Errno PciDevice :=
  if !dev.msix.configured || decide (vector ≥ dev.msix.vectorCount) then .error .einval
  else .ok { dev with msix := { dev.msix with
    irqRoutes := Function.update dev.msix.irqRoutes vector (some irq) } }

/-- `vart_pci_device_set_msix_injector`. -/
def pciDeviceSetMsixInjector (dev : PciDevice) (inject : Bool) : Except Errno PciDevice :=
  if !dev.msix.configured then .error .einval
  else .ok { dev with msix := { dev.msix with inject } }

/-- `vart_pci_device_set_msix_remapper`. -/
def pciDeviceSetMsixRemapper (dev : PciDevice) (remap : Bool) : Except Errno PciDevice :=
  if !dev.msix.configured then .error .einval
  else .ok { dev with msix := { dev.msix with remap } }

/-- `vart_pci_device_connect_intx` to line `irq`, whose line number is `line`. -/
def pciDeviceConnectIntx (dev : PciDevice) (pin : UInt8) (irq line : Nat) :
    Except Errno PciDevice :=
  if pin < 1 ∨ pin > 4 then .error .einval
  else if dev.parent.realized then .error .ebusy
  else
    let dev := { dev with intxIrq := some irq, intxPin := pin }
    let dev := dev.configStoreLe 0x3c 1 (if line ≤ 255 then line else 255)
    .ok (dev.configStoreLe 0x3d 1 pin.toNat)

/-- `vart_pci_device_set_dma_as`. -/
def pciDeviceSetDmaAs (dev : PciDevice) (space : Option SpaceId) : Except Errno PciDevice :=
  if dev.parent.realized then .error .ebusy
  else .ok { dev with parent := { dev.parent with dmaAs := space, dmaAsFromBus := false } }

end Vart
