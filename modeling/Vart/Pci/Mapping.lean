import Vart.Pci.Device

/-!
# BAR and MSI-X regions in the address space

`pciBarMap` puts a BAR into the system address space if a window of the device's bus or of one of
its ancestors contains it. Memory decoding (`pciDeviceEnableMemory`), BAR moves
(`pciBarRelocate`) and realization (`pciDeviceRealize`) are built from it.

The loops that go up from a bus to the root are loops over `busPath`, the bus and its ancestors.
-/

namespace Vart

open Lib

/-! ## Ancestors of a bus -/

/-- The bus and its ancestors, as far as `fuel` parent links go. -/
def busAncestors (s : PciState) : (fuel : Nat) → Option Nat → List Nat
  | 0, _ => []
  | _, none => []
  | n + 1, some b => b :: busAncestors s n (s.buses b).parentPciBus

/-- The bus and its ancestors. A path never meets a bus twice, so the number of buses is enough
fuel. -/
def busPath (s : PciState) (bus : Option Nat) : List Nat := busAncestors s s.busCount bus

/-- A window of a bus, prefetchable or not: its base and size. -/
def PciBus.window (b : PciBus) (prefetch : Bool) : Nat × Nat :=
  if prefetch then (b.prefetchMmioBase, b.prefetchMmioSize) else (b.mmioBase, b.mmioSize)

/-- `[address, last]` is inside a window of the bus. -/
def PciBus.windowContains (b : PciBus) (prefetch : Bool) (address last : Nat) : Bool :=
  let (base, size) := b.window prefetch
  decide (size ≠ 0) && decide (base ≤ uint64Max - size) && decide (address ≥ base) &&
    decide (last < base + size)

def pciBusWindowContains (s : PciState) (bus : Option Nat) (prefetch : Bool) (address last : Nat) :
    Bool :=
  (busPath s bus).any fun b => (s.buses b).windowContains prefetch address last

/-! ## BARs -/

/-- `vart_address_region_init_mmio`. -/
def addressRegionInitMmio (id : RegionId) (base size : Nat) (priority : Int) :
    Except Errno AddressRegion :=
  if size = 0 ∨ base > uint64Max - (size - 1) then .error .einval
  else .ok ⟨id, base, size, priority, .mmio, true, false⟩

/-- `vart_address_region_init_mmio` followed by `vart_address_space_add`. -/
def PciState.addMmio (s : PciState) (id : RegionId) (base size : Nat) (priority : Int) :
    Except Errno PciState :=
  match addressRegionInitMmio id base size priority with
  | .error e => .error e
  | .ok region =>
    match s.memory.space.add region with
    | .error e => .error e
    | .ok space => .ok (s.setSpace space)

/-- `vart_address_space_remove` from the system address space. -/
def PciState.removeRegion (s : PciState) (id : RegionId) : PciState :=
  s.setSpace (s.memory.space.remove id)

def pciBarUpdateConfig (dev : PciDevice) (index : Nat) : PciDevice :=
  let bar := dev.bars index
  let offset := 0x10 + index * 4
  let dev := dev.configStoreLe offset 4 (bar.address % 2 ^ 32 ||| bar.flags)
  if bar.is64bit then dev.configStoreLe (offset + 4) 4 (bar.address >>> 32) else dev

def pciBarMap (s : PciState) (d index address : Nat) : PciState × Status :=
  let dev := s.devices d
  let bar := dev.bars index
  if address % bar.size ≠ 0 ∨ address > uint64Max - (bar.size - 1) then (s, .error .einval)
  else if !pciBusWindowContains s dev.pciBus bar.prefetchable address (address + bar.size - 1) then
    (s, .error .erange)
  else match s.addMmio (.bar d index) address bar.size 0 with
  | .error e => (s, .error e)
  | .ok s =>
    (s.updateDevice d (·.updateBar index fun bar => { bar with address, mapped := true }), .ok ())

def pciBarUnmap (s : PciState) (d index : Nat) : PciState :=
  if ((s.devices d).bars index).mapped then
    (s.removeRegion (.bar d index)).updateDevice d
      (·.updateBar index fun bar => { bar with mapped := false })
  else s

/-! ## MSI-X regions -/

def pciMsixUsesBar (dev : PciDevice) (index : Nat) : Bool :=
  dev.msix.configured && (dev.msix.tableBar == index || dev.msix.pbaBar == index)

/-- `table_size`. -/
def PciMsix.tableSize (msix : PciMsix) : Nat := msix.vectorCount * 16

/-- `pba_size`. -/
def PciMsix.pbaSize (msix : PciMsix) : Nat := (msix.vectorCount + 63) / 64 * 8

/-- Change the MSI-X record of a device. -/
def PciState.updateMsix (s : PciState) (d : Nat) (f : PciMsix → PciMsix) : PciState :=
  s.updateDevice d fun dev => { dev with msix := f dev.msix }

def pciMsixUnmap (s : PciState) (d : Nat) : PciState :=
  if (s.devices d).msix.mapped then
    ((s.removeRegion (.msixTable d)).removeRegion (.msixPba d)).updateMsix d
      fun msix => { msix with mapped := false }
  else s

/-- The table and the PBA do not lie inside their BARs. -/
def pciMsixOutside (dev : PciDevice) : Bool :=
  let msix := dev.msix
  let tableBar := dev.bars msix.tableBar
  let pbaBar := dev.bars msix.pbaBar
  !tableBar.implemented || !pbaBar.implemented || decide (msix.tableOffset > tableBar.size) ||
    decide (msix.tableSize > tableBar.size - msix.tableOffset) ||
    decide (msix.pbaOffset > pbaBar.size) || decide (msix.pbaSize > pbaBar.size - msix.pbaOffset)

/-- The table and the PBA share bytes of one BAR. -/
def pciMsixOverlap (msix : PciMsix) : Bool :=
  msix.tableBar == msix.pbaBar &&
    decide (msix.tableOffset ≤ msix.pbaOffset + msix.pbaSize - 1) &&
    decide (msix.pbaOffset ≤ msix.tableOffset + msix.tableSize - 1)

def pciMsixMap (s : PciState) (d : Nat) : PciState × Status :=
  let dev := s.devices d
  let msix := dev.msix
  if !msix.configured || msix.mapped then (s, .ok ())
  else if pciMsixOutside dev then (s, .error .erange)
  else if pciMsixOverlap msix then (s, .error .einval)
  else
    let tableBase := ((dev.bars msix.tableBar).address + msix.tableOffset) % 2 ^ 64
    let pbaBase := ((dev.bars msix.pbaBar).address + msix.pbaOffset) % 2 ^ 64
    match s.addMmio (.msixTable d) tableBase msix.tableSize 1 with
    | .error e => (s, .error e)
    | .ok s =>
      match s.addMmio (.msixPba d) pbaBase msix.pbaSize 1 with
      | .error e => (s.removeRegion (.msixTable d), .error e)
      | .ok s => (s.updateMsix d fun msix => { msix with mapped := true }, .ok ())

/-! ## Memory decoding -/

/-- Unmap the BARs with the given indices. -/
def pciUnmapBars (s : PciState) (d : Nat) (indices : List Nat) : PciState :=
  indices.foldl (fun s i => pciBarUnmap s d i) s

def pciDeviceDisableMemory (s : PciState) (d : Nat) : PciState :=
  pciUnmapBars (pciMsixUnmap s d) d (List.range pciBarCount)

/-- The loop of `pci_device_enable_memory`. -/
def pciEnableBars (s : PciState) (d : Nat) : List Nat → PciState × Status
  | [] => (s, .ok ())
  | i :: is =>
    let bar := (s.devices d).bars i
    if !bar.implemented || bar.highPart || bar.mapped then pciEnableBars s d is
    else match pciBarMap s d i bar.address with
    | (s, .error e) => (s, .error e)
    | (s, .ok _) => pciEnableBars s d is

def pciDeviceEnableMemory (s : PciState) (d : Nat) : PciState × Status :=
  match pciEnableBars s d (List.range pciBarCount) with
  | (s, .error e) => (pciDeviceDisableMemory s d, .error e)
  | (s, .ok _) =>
    match pciMsixMap s d with
    | (s, .error e) => (pciDeviceDisableMemory s d, .error e)
    | (s, .ok _) => (s, .ok ())

/-- The `restore` label of `pci_bar_relocate`. -/
def pciBarRestore (s : PciState) (d index oldAddress : Nat) (oldMapped msixMapped : Bool) :
    PciState :=
  if oldMapped then
    match pciBarMap s d index oldAddress with
    | (s, .error _) => s
    | (s, .ok _) => if msixMapped then (pciMsixMap s d).1 else s
  else s

def pciBarRelocate (s : PciState) (d index address : Nat) : PciState × Status :=
  let dev := s.devices d
  let bar := dev.bars index
  let msixMapped := dev.msix.mapped && pciMsixUsesBar dev index
  if !dev.memoryEnabled then
    (s.updateDevice d fun dev =>
      pciBarUpdateConfig (dev.updateBar index fun bar => { bar with address }) index, .ok ())
  else
    let s := if msixMapped then pciMsixUnmap s d else s
    let s := pciBarUnmap s d index
    match pciBarMap s d index address with
    | (s, .error e) => (pciBarRestore s d index bar.address bar.mapped msixMapped, .error e)
    | (s, .ok _) =>
      match if msixMapped then pciMsixMap s d else (s, .ok ()) with
      | (s, .error e) =>
        (pciBarRestore (pciBarUnmap s d index) d index bar.address bar.mapped msixMapped, .error e)
      | (s, .ok _) => (s.updateDevice d (pciBarUpdateConfig · index), .ok ())

def pciBarWrite (s : PciState) (d index : Nat) (high : Bool) (value : Nat) : PciState × Status :=
  if value = uint32Max then
    (s.updateDevice d (·.updateBar index fun bar => { bar with probe := true }), .ok ())
  else
    let s := s.updateDevice d (·.updateBar index fun bar => { bar with probe := false })
    let address := ((s.devices d).bars index).address
    pciBarRelocate s d index
      (if high then address &&& uint32Max ||| value <<< 32
      else address &&& 0xffffffff00000000 ||| value &&& 0xfffffff0)

/-! ## Realization -/

/-- The allocation pointer of a window. -/
def PciBus.windowNext (b : PciBus) (prefetch : Bool) : Nat :=
  if prefetch then b.prefetchMmioNext else b.mmioNext

def PciBus.setWindowNext (b : PciBus) (prefetch : Bool) (next : Nat) : PciBus :=
  if prefetch then { b with prefetchMmioNext := next } else { b with mmioNext := next }

/-- The loop of `pci_device_realize`: it gives each BAR the next aligned range of its window. -/
def pciRealizeBars (s : PciState) (d bus : Nat) : List Nat → PciState × Status
  | [] => (s, .ok ())
  | i :: is =>
    let bar := (s.devices d).bars i
    if !bar.implemented || bar.highPart then pciRealizeBars s d bus is
    else
      let prefetch := bar.prefetchable
      let next := (s.buses bus).windowNext prefetch
      let base := ((s.buses bus).window prefetch).1
      let size := ((s.buses bus).window prefetch).2
      let address := andNot ((next + bar.size - 1) % 2 ^ 64) (bar.size - 1)
      if address < next ∨ address > uint64Max - (bar.size - 1) then (s, .error .eoverflow)
      else if size = 0 ∨ size < bar.size ∨ base > uint64Max - size ∨ address < base ∨
          address > base + size - bar.size then (s, .error .erange)
      else match pciBarMap s d i address with
      | (s, .error e) => (s, .error e)
      | (s, .ok _) =>
        let s := s.updateBus bus (·.setWindowNext prefetch ((address + bar.size) % 2 ^ 64))
        pciRealizeBars (s.updateDevice d (pciBarUpdateConfig · i)) d bus is

/-- The `fail` label of `pci_device_realize`. -/
def pciRealizeFail (s : PciState) (d bus : Nat) (old : PciBus) : PciState :=
  (pciDeviceDisableMemory s d).updateBus bus fun b =>
    { b with mmioNext := old.mmioNext, prefetchMmioNext := old.prefetchMmioNext }

/-- `pci_device_realize`. -/
def pciDeviceRealizeOp (s : PciState) (d : Nat) : PciState × Status :=
  match (s.devices d).pciBus with
  | none => (s, .error .einval)
  | some bus =>
    let old := s.buses bus
    match pciRealizeBars s d bus (List.range pciBarCount) with
    | (s, .error e) => (pciRealizeFail s d bus old, .error e)
    | (s, .ok _) =>
      match pciMsixMap s d with
      | (s, .error e) => (pciRealizeFail s d bus old, .error e)
      | (s, .ok _) =>
        (if (s.devices d).memoryEnabled then s else pciDeviceDisableMemory s d, .ok ())

/-- `vart_device_realize` of a PCI function. -/
def pciDeviceRealize (s : PciState) (d : Nat) : PciState × Status :=
  if (s.devices d).parent.realized then (s, .error .ealready)
  else match pciDeviceRealizeOp s d with
  | (s, .error e) => (s, .error e)
  | (s, .ok _) =>
    (s.updateDevice d fun dev => { dev with parent := { dev.parent with realized := true } }, .ok ())

/-- The INTx line of a function is lowered if the function holds it. -/
def pciIntxDeassert (sink : Sink) (s : PciState) (d : Nat) : PciState :=
  match (s.devices d).intxIrq with
  | none => s
  | some irq =>
    if (s.devices d).intxAsserted then
      ({ s with irq := (irqLower sink s.irq irq).1 }).updateDevice d
        fun dev => { dev with intxAsserted := false }
    else s

/-- `vart_device_unrealize` of a PCI function. -/
def pciDeviceUnrealize (sink : Sink) (s : PciState) (d : Nat) : PciState :=
  if (s.devices d).parent.realized then
    (pciDeviceDisableMemory (pciIntxDeassert sink s d) d).updateDevice d
      fun dev => { dev with parent := { dev.parent with realized := false } }
  else s

end Vart
