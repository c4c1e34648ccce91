import Vart.Pci.Msix

/-!
# Buses, bridges and configuration accesses

The topology: `pciBridgeInitWithWindow` makes a bridge and its secondary bus with a window taken
from the parent bus, `pciBusAddDevice` puts a function on a bus and gives it its requester ID, and
guest writes to the bus-number registers of a bridge renumber the functions below it.

Guest configuration writes come in through the ECAM window (`pciEcamWrite`): a 4-byte write to a
BAR register moves the BAR, a bridge takes the writes to its window and bus-number registers, and
all other writes go to `pciGenericConfigWrite`.

Recursion over child buses is bounded by the number of buses; a child has a larger number than its
parent, so the bound is never reached.
-/

namespace Vart

open Lib

/-! ## The bus tree -/

/-- `vart_pci_bus_find`, at most `fuel` levels deep. -/
def pciBusFindFrom (s : PciState) (number : UInt8) : (fuel : Nat) → (bus : Nat) → Option Nat
  | 0, _ => none
  | n + 1, b =>
    if (s.buses b).number = number then some b
    else (s.buses b).children.findSome? fun c => pciBusFindFrom s number n c

def pciBusFind (s : PciState) (bus : Nat) (number : UInt8) : Option Nat :=
  pciBusFindFrom s number s.busCount bus

def pciBusRoot (s : PciState) (bus : Nat) : Nat := (busPath s (some bus)).getLastD bus

/-- The requester ID of function `devfn` on bus `number`. -/
def pciRequesterId (number devfn : UInt8) : UInt16 := number.toUInt16 <<< 8 ||| devfn.toUInt16

/-- The function of a slot gets the requester ID of its bus. -/
def pciSlotUpdateRequesterId (bus : Nat) (s : PciState) (slot : Nat) : PciState :=
  match (s.buses bus).functions (UInt8.ofNat slot) with
  | none => s
  | some d => s.updateDevice d fun dev =>
    { dev with requesterId := pciRequesterId (s.buses bus).number (UInt8.ofNat slot) }

/-- `pci_bus_update_requester_ids`, at most `fuel` levels deep. -/
def pciBusUpdateRequesterIdsFrom : (fuel : Nat) → PciState → (bus : Nat) → PciState
  | 0, s, _ => s
  | n + 1, s, b =>
    let s := (List.range 256).foldl (pciSlotUpdateRequesterId b) s
    (s.buses b).children.foldl (fun s c => pciBusUpdateRequesterIdsFrom n s c) s

def pciBusUpdateRequesterIds (s : PciState) (bus : Nat) : PciState :=
  pciBusUpdateRequesterIdsFrom s.busCount s bus

/-- The bridge that owns the bus shows at least the subordinate number of the bus. -/
def pciOwnerUpdateSubordinate (s : PciState) (b : Nat) : PciState :=
  match (s.buses b).ownerBridge with
  | none => s
  | some d =>
    if (s.devices d).configSpace 0x1a < (s.buses b).subordinateNumber then
      s.updateDevice d (·.configStoreLe 0x1a 1 (s.buses b).subordinateNumber.toNat)
    else s

/-- One round of the loop of `pci_bus_update_ancestors`. -/
def pciBusUpdateAncestor (s : PciState) (b : Nat) : PciState :=
  match (s.buses b).parentPciBus with
  | none => s
  | some parent =>
    let s := pciOwnerUpdateSubordinate s b
    let subordinate := (s.buses b).subordinateNumber
    if (s.buses parent).subordinateNumber < subordinate then
      s.updateBus parent fun bus => { bus with subordinateNumber := subordinate }
    else s

def pciBusUpdateAncestors (s : PciState) (bus : Nat) : PciState :=
  (busPath s (some bus)).foldl pciBusUpdateAncestor s

/-- The loop of `pci_bus_visible` over the path from the target up. -/
def pciBusVisibleOn (s : PciState) (root : Nat) : List Nat → Bool
  | [] => false
  | b :: bs =>
    if b = root then true
    else if (s.buses b).parentPciBus.isNone ||
        decide ((s.buses b).number > (s.buses b).subordinateNumber) then false
    else pciBusVisibleOn s root bs

def pciBusVisible (s : PciState) (root target : Nat) : Bool :=
  pciBusVisibleOn s root (busPath s (some target))

/-! ## Functions on a bus -/

/-- The slot of function 0 of the device that `devfn` belongs to. -/
def function0Devfn (devfn : UInt8) : UInt8 := devfn &&& 0xf8

/-- `vart_pci_bus_add_device`. -/
def pciBusAddDevice (s : PciState) (bus d : Nat) (devfn : UInt8) : PciState × Status :=
  let b := s.buses bus
  let dev := s.devices d
  let function := devfn &&& 0x7
  if dev.pciBus.isSome then (s, .error .ealready)
  else if (b.functions devfn).isSome then (s, .error .eexist)
  else if function ≠ 0 ∧ b.functions (function0Devfn devfn) = none then (s, .error .einval)
  else if dev.parent.realized then (s, .error .ebusy)
  else
    let s := s.updateDevice d fun dev => { dev with
      pciBus := some bus
      parent := { dev.parent with
        dmaAs := if dev.parent.dmaAs.isNone then some .system else dev.parent.dmaAs
        dmaAsFromBus := dev.parent.dmaAs.isNone }
      devfn
      requesterId := pciRequesterId b.number devfn }
    let s := s.updateBus bus fun b => { b with functions := Function.update b.functions devfn (some d) }
    let s := match b.functions (function0Devfn devfn) with
      | none => s
      | some d0 =>
        if function ≠ 0 then
          s.updateDevice d0 fun dev => dev.configStoreLe 0x0e 1
            ((dev.configSpace 0x0e).toNat ||| pciHeaderTypeMultifunction)
        else s
    (s, .ok ())

/-- Some function 1 to 7 of the device at `function0` is present. -/
def hasOtherFunction (b : PciBus) (function0 : UInt8) : Bool :=
  (List.range 7).any fun i => (b.functions (function0 + UInt8.ofNat (i + 1))).isSome

/-- `vart_pci_bus_remove_device`. -/
def pciBusRemoveDevice (s : PciState) (bus d : Nat) : PciState × Status :=
  let dev := s.devices d
  let function0 := function0Devfn dev.devfn
  let function := dev.devfn &&& 0x7
  if dev.pciBus ≠ some bus ∨ (s.buses bus).functions dev.devfn ≠ some d then (s, .error .enoent)
  else if dev.parent.realized then (s, .error .ebusy)
  else if function = 0 ∧ hasOtherFunction (s.buses bus) function0 = true then (s, .error .ebusy)
  else
    let s := s.updateBus bus fun b =>
      { b with functions := Function.update b.functions dev.devfn none }
    let s := s.updateDevice d fun dev => { dev with
      pciBus := none
      requesterId := 0
      parent := if dev.parent.dmaAsFromBus then
        { dev.parent with dmaAs := none, dmaAsFromBus := false } else dev.parent }
    let s := match (s.buses bus).functions function0 with
      | none => s
      | some d0 =>
        if function ≠ 0 ∧ hasOtherFunction (s.buses bus) function0 = false then
          s.updateDevice d0 fun dev => dev.configStoreLe 0x0e 1
            (andNot (dev.configSpace 0x0e).toNat pciHeaderTypeMultifunction)
        else s
    (s, .ok ())

/-! ## Bridges -/

def pciBridgeUpdateMmioWindow (s : PciState) (child config : Nat) : PciState :=
  let base := (config &&& 0xfff0) <<< 16
  let limit := ((config >>> 16) &&& 0xfff0) <<< 16 ||| 0xfffff
  s.updateBus child fun b =>
    { b with mmioBase := base, mmioSize := if base > limit then 0 else limit - base + 1 }

def pciBridgeUpdatePrefetchWindow (s : PciState) (d child : Nat) : PciState :=
  let dev := s.devices d
  let base := (dev.configLoad 0x24 2 &&& 0xfff0) <<< 16 ||| dev.configLoad 0x28 4 <<< 32
  let limit := (dev.configLoad 0x26 2 &&& 0xfff0) <<< 16 ||| dev.configLoad 0x2c 4 <<< 32 ||| 0xfffff
  s.updateBus child fun b => { b with
    prefetchMmioBase := base
    prefetchMmioSize := if base > limit then 0 else limit - base + 1
    prefetchMmioNext := base }

/-- `vart_pci_bus_init` of the secondary bus of bridge `d`. -/
def pciBusInit (s : PciState) (d parent : Nat) (number : UInt8) : Except Errno PciState :=
  if number ≤ (s.buses parent).number ∨ (pciBusFind s parent number).isSome then .error .einval
  else
    let child := s.busCount
    let s := { s with busCount := s.busCount + 1 }
    let s := s.updateBus child fun _ => { PciBus.zero with
      parentPciBus := some parent
      ownerBridge := some d
      number
      secondaryNumber := number
      subordinateNumber := 255 }
    .ok (s.updateBus parent fun b => { b with children := b.children ++ [child] })

/-- The header of a bridge. -/
def pciBridgeHeader (child : Nat) : PciDevice :=
  { (pciDeviceInit 0x1b36 0x0001 0 0 0x04 0x06).configStoreLe 0x0e 1 0x01 with
    secondaryBus := some child }

/-- `pci_bridge_init_with_window` for the bridge object `d`. -/
def pciBridgeInitWithWindow (s : PciState) (d parent : Nat) (secondaryNumber : UInt8)
    (windowSize : Nat) : PciState × Status :=
  let b := s.buses parent
  let next := max b.mmioNext b.mmioBase
  let windowBase := andNot ((next + windowSize - 1) % 2 ^ 64) (windowSize - 1)
  let windowEnd := windowBase + windowSize
  if secondaryNumber ≤ b.number ∨ windowSize = 0 ∨ windowSize &&& (windowSize - 1) ≠ 0 then
    (s, .error .einval)
  else if (pciBusFind s (pciBusRoot s parent) secondaryNumber).isSome then (s, .error .eexist)
  else if b.mmioSize < windowSize ∨ b.mmioBase > uint64Max - b.mmioSize then (s, .error .enospc)
  else if windowBase < next ∨ windowBase > uint64Max - windowSize then (s, .error .enospc)
  else if windowBase < b.mmioBase ∨ windowEnd > b.mmioBase + b.mmioSize then (s, .error .enospc)
  else
    let child := s.busCount
    let s := s.updateDevice d fun _ => pciBridgeHeader child
    match pciBusInit s d parent secondaryNumber with
    | .error e => (s, .error e)
    | .ok s =>
      let s := s.updateBus parent fun b => { b with mmioNext := windowEnd }
      let s := s.updateBus child fun b =>
        { b with mmioBase := windowBase, mmioSize := windowSize, mmioNext := windowBase }
      let s := pciBridgeUpdatePrefetchWindow s d child
      let s := s.updateBus child fun b => { b with subordinateNumber := secondaryNumber }
      let s := s.updateDevice d fun dev =>
        let dev := dev.configStoreLe 0x18 1 (s.buses parent).number.toNat
        let dev := dev.configStoreLe 0x19 1 secondaryNumber.toNat
        let dev := dev.configStoreLe 0x1a 1 secondaryNumber.toNat
        let dev := dev.configStoreLe 0x20 2 ((windowBase >>> 16) % 2 ^ 16 &&& 0xfff0)
        dev.configStoreLe 0x22 2 (((windowEnd - 1) >>> 16) % 2 ^ 16 &&& 0xfff0 ||| 0x000f)
      (pciBusUpdateAncestors s child, .ok ())

/-- `vart_pci_bridge_init`. -/
def pciBridgeInit (s : PciState) (d parent : Nat) (secondaryNumber : UInt8) : PciState × Status :=
  pciBridgeInitWithWindow s d parent secondaryNumber pciBridgeMmioWindowSize

/-- Some function is on the bus (`device_count` is not `0`). -/
def PciBus.occupied (b : PciBus) : Bool := (List.range 256).any fun i => (b.functions (UInt8.ofNat i)).isSome

/-- `vart_pci_bus_destroy`. -/
def pciBusDestroy (s : PciState) (bus : Nat) : PciState × Status :=
  let b := s.buses bus
  if b.occupied || !b.children.isEmpty then (s, .error .ebusy)
  else
    let s := match b.parentPciBus with
      | none => s
      | some parent => s.updateBus parent fun p => { p with children := p.children.erase bus }
    (s.updateBus bus fun b => { b with children := [], parentPciBus := none }, .ok ())

/-- `vart_pci_bridge_destroy`. -/
def pciBridgeDestroy (s : PciState) (d : Nat) : PciState × Status :=
  let dev := s.devices d
  if dev.parent.realized || dev.pciBus.isSome then (s, .error .ebusy)
  else match dev.secondaryBus with
  | none => (s, .error .einval)
  | some bus => pciBusDestroy s bus

/-- The loop of `vart_pci_switch_init`: the ports `ports` on bus `internal`, with bus numbers from
`number` on. `done` are the ports made so far, the last one first; a failure destroys them. -/
def pciSwitchPorts (s : PciState) (internal : Nat) (number : UInt8) (done : List Nat) :
    List Nat → PciState × Status
  | [] => (s, .ok ())
  | port :: ports =>
    match pciBridgeInitWithWindow s port internal number pciBridgeMmioWindowSize with
    | (s, .error e) => (done.foldl (fun s p => (pciBridgeDestroy s p).1) s, .error e)
    | (s, .ok _) => pciSwitchPorts s internal (number + 1) (port :: done) ports

/-- `vart_pci_switch_init` with upstream bridge `upstream` and downstream bridges `ports`. -/
def pciSwitchInit (s : PciState) (upstream : Nat) (ports : List Nat) (parent : Nat)
    (secondaryNumber : UInt8) : PciState × Status :=
  let portCount := ports.length
  if portCount = 0 ∨ portCount &&& (portCount - 1) ≠ 0 ∨ portCount > 4 ∨
      secondaryNumber.toNat > 255 - portCount then (s, .error .einval)
  else
    let oldMmioNext := (s.buses parent).mmioNext
    let internal := s.busCount
    match pciBridgeInitWithWindow s upstream parent secondaryNumber
        (portCount * pciBridgeMmioWindowSize) with
    | (s, .error e) => (s, .error e)
    | (s, .ok _) =>
      match pciSwitchPorts s internal (secondaryNumber + 1) [] ports with
      | (s, .error e) =>
        let s := (pciBridgeDestroy s upstream).1
        (s.updateBus parent fun b => { b with mmioNext := oldMmioNext }, .error e)
      | (s, .ok _) => (s, .ok ())

/-! ## Configuration writes -/

/-- `pci_bar_from_offset`: the index of the BAR and whether `offset` is its high part. -/
def pciBarFromOffset (dev : PciDevice) (offset : Nat) : Option (Nat × Bool) :=
  if offset < 0x10 ∨ offset ≥ 0x28 then none
  else
    let index := (offset - 0x10) / 4
    let high := (dev.bars index).highPart
    let index := if high then index - 1 else index
    if (dev.bars index).implemented then some (index, high) else none

def pciMsixConfigReadonly (dev : PciDevice) (offset : Nat) : Bool :=
  dev.msix.configured && decide (offset ≥ dev.msix.capabilityOffset + 4) &&
    decide (offset < dev.msix.capabilityOffset + 12)

def pciConfigStore (dev : PciDevice) (offset size value : Nat) : PciDevice :=
  { dev with configSpace := fun x =>
      if offset ≤ x ∧ x < offset + size ∧ pciMsixConfigReadonly dev x = false then
        UInt8.ofNat (value >>> ((x - offset) * 8))
      else dev.configSpace x }

/-- The byte at register `reg` of a write, or the old value. -/
def writtenByte (offset size value reg : Nat) (old : UInt8) : UInt8 :=
  if offset ≤ reg ∧ reg < offset + size then UInt8.ofNat (value >>> ((reg - offset) * 8)) else old

/-- A write to the bus-number registers of bridge `d`. -/
def pciBridgeWriteBusNumbers (s : PciState) (d child offset size value : Nat) : PciState × Status :=
  match (s.buses child).parentPciBus with
  | none => (s, .error .einval)
  | some parent =>
    let secondary := writtenByte offset size value 0x19 (s.buses child).secondaryNumber
    let subordinate := writtenByte offset size value 0x1a (s.buses child).subordinateNumber
    let latencyTimer := writtenByte offset size value 0x1b ((s.devices d).configSpace 0x1b)
    if secondary = 0 ∧ subordinate = 0 then (s, .ok ())
    else if secondary ≤ (s.buses parent).number ∨ subordinate < secondary then (s, .error .einval)
    else
      let existing := pciBusFind s (pciBusRoot s parent) secondary
      if existing.isSome ∧ existing ≠ some child then (s, .error .eexist)
      else
        let s := s.updateBus child fun b => { b with
          number := secondary, secondaryNumber := secondary, subordinateNumber := subordinate }
        let s := s.updateDevice d (·.configStoreLe 0x1b 1 latencyTimer.toNat)
        (pciBusUpdateAncestors (pciBusUpdateRequesterIds s child) child, .ok ())

/-- `pci_bridge_config_write`; `none` is `-ENOENT`, the access is not for the bridge. -/
def pciBridgeConfigWrite (s : PciState) (d child offset size value : Nat) :
    Option (PciState × Status) :=
  if offset < 0x18 ∨ offset > 0x1b ∨ size > 4 - (offset - 0x18) then
    if offset ≥ 0x20 ∧ offset ≤ 0x23 ∧ size ≤ 4 - (offset - 0x20) then
      let s := s.updateDevice d (·.configStoreLe offset size value)
      some (pciBridgeUpdateMmioWindow s child ((s.devices d).configLoad 0x20 4), .ok ())
    else if offset ≥ 0x24 ∧ offset ≤ 0x2f ∧ size ≤ 0x30 - offset then
      let s := s.updateDevice d (·.configStoreLe offset size value)
      some (pciBridgeUpdatePrefetchWindow s d child, .ok ())
    else none
  else some (pciBridgeWriteBusNumbers s d child offset size value)

/-- The part of `pci_config_write` after a write to the Command register. -/
def pciCommandWritten (s : PciState) (d oldCommand : Nat) : PciState × Status :=
  let command := (s.devices d).configLoad 0x04 2
  let enable := command &&& pciCommandMemoryEnable != 0
  let wasEnabled := oldCommand &&& pciCommandMemoryEnable != 0
  let decoded := if enable && !wasEnabled then pciDeviceEnableMemory s d
    else (if !enable && wasEnabled then pciDeviceDisableMemory s d else s, .ok ())
  match decoded with
  | (s, .error e) => (s.updateDevice d (pciConfigStore · 0x04 2 oldCommand), .error e)
  | (s, .ok _) =>
    (s.updateDevice d fun dev => { dev with
      memoryEnabled := enable
      busMasterEnabled := command &&& pciCommandBusMaster != 0 }, .ok ())

/-- `pci_config_write` of a register that is neither a BAR nor taken by the bridge. -/
def pciGenericConfigWrite (sink : Sink) (s : PciState) (d offset size value : Nat) :
    PciState × Status :=
  let oldCommand := (s.devices d).configLoad 0x04 2
  let s := s.updateDevice d (pciConfigStore · offset size value)
  let written := if offset < 0x06 ∧ offset + size > 0x04 then pciCommandWritten s d oldCommand
    else (s, .ok ())
  match written with
  | (s, .error e) => (s, .error e)
  | (s, .ok _) => (pciMsixUpdateControl sink s d, .ok ())

def pciConfigWrite (sink : Sink) (s : PciState) (d offset size value : Nat) : PciState × Status :=
  match if size = 4 then pciBarFromOffset (s.devices d) offset else none with
  | some (index, high) => pciBarWrite s d index high (value % 2 ^ 32)
  | none =>
    match (s.devices d).secondaryBus.bind (pciBridgeConfigWrite s d · offset size value) with
    | some r => r
    | none => pciGenericConfigWrite sink s d offset size value

/-! ## ECAM -/

/-- The sizes of an MMIO access (`mmio_access_size_valid`). -/
inductive AccessSize where
  | byte | half | word | double
deriving DecidableEq, Repr

def AccessSize.bytes : AccessSize → Nat
  | byte => 1
  | half => 2
  | word => 4
  | double => 8

/-- `pci_ecam_lookup`: the function and the register that an ECAM offset names. -/
def pciEcamLookup (s : PciState) (offset size : Nat) : Option (Nat × Nat) :=
  let registerOffset := offset &&& 0xfff
  if registerOffset > pciConfigSpaceSize - size then none
  else match pciBusFind s 0 (UInt8.ofNat (offset >>> 20)) with
  | none => none
  | some bus =>
    if !pciBusVisible s 0 bus then none
    else match (s.buses bus).functions (UInt8.ofNat ((offset >>> 12) &&& 0xff)) with
    | none => none
    | some d => if (s.devices d).parent.realized then some (d, registerOffset) else none

/-- `pci_ecam_write`. -/
def pciEcamWrite (sink : Sink) (s : PciState) (offset : Nat) (size : AccessSize) (value : Nat) :
    PciState × Status :=
  match pciEcamLookup s offset size.bytes with
  | none => (s, .ok ())
  | some (d, register) => pciConfigWrite sink s d register size.bytes (value % 256 ^ size.bytes)

end Vart
