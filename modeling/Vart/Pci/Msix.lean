import Vart.Pci.Mapping

/-!
# MSI-X delivery

A raise sets the pending bit of its vector. `pciMsixDeliver` calls the sink of a vector (its
interrupt line, else the injector) if MSI-X is on and neither the function nor the vector is
masked, and clears the pending bit when the sink succeeds. `pciMsixFlushPending` retries all
pending vectors; table writes and control writes end with it.
-/

namespace Vart

open Lib

/-! ## Pending and mask bits -/

namespace PciMsix

/-- `pba[vector / 8] & (1U << (vector % 8))`. -/
def pending (msix : PciMsix) (vector : Nat) : Bool :=
  (msix.pba (vector / 8)).toNat &&& 1 <<< (vector % 8) != 0

/-- `pba[vector / 8] |= 1U << (vector % 8)`. -/
def setPending (msix : PciMsix) (vector : Nat) : PciMsix :=
  let byte := (msix.pba (vector / 8)).toNat ||| 1 <<< (vector % 8)
  { msix with pba := Function.update msix.pba (vector / 8) (UInt8.ofNat byte) }

/-- `pba[vector / 8] &= ~(1U << (vector % 8))`. -/
def clearPending (msix : PciMsix) (vector : Nat) : PciMsix :=
  let byte := andNot (msix.pba (vector / 8)).toNat (1 <<< (vector % 8))
  { msix with pba := Function.update msix.pba (vector / 8) (UInt8.ofNat byte) }

/-- The mask bit of the vector's table entry. -/
def masked (msix : PciMsix) (vector : Nat) : Bool :=
  loadLe (msix.table.read (vector * 16 + 12) 4) &&& 1 != 0

/-- A message of the vector may be sent. -/
def deliverable (msix : PciMsix) (vector : Nat) : Bool :=
  msix.enabled && !msix.functionMask && !msix.masked vector

/-- The vector has a sink. -/
def connected (msix : PciMsix) (vector : Nat) : Bool :=
  (msix.irqRoutes vector).isSome || msix.inject

end PciMsix

/-- Message Control of the MSI-X capability. -/
def PciDevice.msixControl (dev : PciDevice) : Nat := dev.configLoad (dev.msix.capabilityOffset + 2) 2

/-- The MSI-X Enable bit. -/
def PciDevice.msixControlEnabled (dev : PciDevice) : Bool := dev.msixControl &&& 0x8000 != 0

/-- The Function Mask bit. -/
def PciDevice.msixControlMasked (dev : PciDevice) : Bool := dev.msixControl &&& 0x4000 != 0

/-! ## Delivery -/

/-- The call of a vector's sink: the lines after it and what it returned. -/
def msixSinkCall (sink : Sink) (s : PciState) (msix : PciMsix) (vector : Nat) :
    Option (IrqState × Status) :=
  match msix.irqRoutes vector with
  | some irq => some (irqPulse sink s.irq irq)
  | none => if msix.inject then some (irqCallback sink s.irq) else none

def Status.isOk : Status → Bool
  | .ok _ => true
  | .error _ => false

/-- The state after the sink of a vector was called. The log keeps the guest's view of the vector
at the call. -/
def PciState.sinkCalled (s : PciState) (d vector : Nat) (irq : IrqState) (ret : Status) : PciState :=
  let dev := s.devices d
  { s with
    irq
    log := .attempted d vector (dev.msix.pending vector) dev.msixControlEnabled
      dev.msixControlMasked (dev.msix.masked vector) ret.isOk :: s.log }

def pciMsixDeliver (sink : Sink) (s : PciState) (d vector : Nat) : PciState × Status :=
  let msix := (s.devices d).msix
  if !msix.enabled || msix.functionMask then (s, .error .eagain)
  else if msix.masked vector then (s, .error .eagain)
  else match msixSinkCall sink s msix vector with
  | none => (s, .error .enotconn)
  | some (irq, .error e) => (s.sinkCalled d vector irq (.error e), .error e)
  | some (irq, .ok _) =>
    ((s.sinkCalled d vector irq (.ok ())).updateMsix d (·.clearPending vector), .ok ())

/-- The loop of `pci_msix_flush_pending`. -/
def pciMsixFlushVectors (sink : Sink) (s : PciState) (d : Nat) : List Nat → PciState
  | [] => s
  | v :: vs =>
    if (s.devices d).msix.pending v then
      pciMsixFlushVectors sink (pciMsixDeliver sink s d v).1 d vs
    else pciMsixFlushVectors sink s d vs

def pciMsixFlushPending (sink : Sink) (s : PciState) (d : Nat) : PciState :=
  let msix := (s.devices d).msix
  if !msix.configured || !msix.enabled || msix.functionMask then s
  else pciMsixFlushVectors sink s d (List.range msix.vectorCount)

def pciMsixTableWrite (sink : Sink) (s : PciState) (d offset size value : Nat) :
    PciState × Status :=
  let tableSize := (s.devices d).msix.tableSize
  if offset > tableSize ∨ size > tableSize - offset then (s, .error .einval)
  else
    let s := s.updateMsix d fun msix =>
      { msix with table := msix.table.write offset (storeLe size value) }
    (pciMsixFlushPending sink s d, .ok ())

/-- `vart_pci_device_raise_msix`. -/
def pciDeviceRaiseMsix (sink : Sink) (s : PciState) (d vector : Nat) : PciState × Status :=
  let msix := (s.devices d).msix
  if !msix.configured || decide (vector ≥ msix.vectorCount) then (s, .error .einval)
  else
    let s := { s with log := .raised d vector :: s.log }
    let s := s.updateMsix d (·.setPending vector)
    if !msix.enabled || msix.functionMask || msix.masked vector then (s, .ok ())
    else pciMsixDeliver sink s d vector

def pciMsixUpdateControl (sink : Sink) (s : PciState) (d : Nat) : PciState :=
  let dev := s.devices d
  if !dev.msix.configured then s
  else
    let s := s.updateMsix d fun msix => { msix with
      enabled := dev.msixControlEnabled
      functionMask := dev.msixControlMasked }
    pciMsixFlushPending sink s d

/-- `pci_device_reset_internal`. -/
def pciDeviceResetInternal (sink : Sink) (s : PciState) (d : Nat) : PciState :=
  let s := pciIntxDeassert sink (pciDeviceDisableMemory s d) d
  let s := s.updateDevice d fun dev =>
    let dev := { dev with
      memoryEnabled := false
      busMasterEnabled := false
      configSpace := dev.configSpace.write 0x04 [0, 0]
      bars := fun i => if i < pciBarCount then { dev.bars i with probe := false } else dev.bars i }
    if dev.msix.configured then
      { dev with
        msix := { dev.msix with
          enabled := false
          functionMask := false
          table := dev.msix.table.write 0 (List.replicate dev.msix.tableSize 0)
          pba := dev.msix.pba.write 0 (List.replicate dev.msix.pbaSize 0) }
        configSpace := dev.configSpace.write (dev.msix.capabilityOffset + 2) [0, 0] }
    else dev
  { s with log := .reset d :: s.log }

/-- `vart_pci_device_reset`. -/
def pciDeviceReset (sink : Sink) (s : PciState) (d : Nat) : PciState × Status :=
  if !(s.devices d).parent.realized then (s, .error .einval)
  else (pciDeviceResetInternal sink s d, .ok ())

end Vart
