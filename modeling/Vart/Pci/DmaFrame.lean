import Vart.Pci.DeviceFrame

/-!
# What a call does to the DMA address spaces of the functions

`vart_pci_device_set_dma_as` gives a function the address space of a context. No other call of the
PCI core does (`dmaKeep_pciStep`): adding a function to a bus gives it the system address space, and
removing or initialising it takes its address space away.
-/

namespace Vart

/-- A function that has a context as its address space had it before. -/
def DmaKeep (s t : PciState) : Prop :=
  ∀ d n, (t.devices d).parent.dmaAs = some (.context n) →
    (s.devices d).parent.dmaAs = some (.context n)

theorem DmaKeep.refl (s : PciState) : DmaKeep s s := fun _ _ h => h

theorem DmaKeep.updateDevice (s : PciState) (d : Nat) {f : PciDevice → PciDevice}
    (h : ∀ n, (f (s.devices d)).parent.dmaAs = some (.context n) →
      (s.devices d).parent.dmaAs = some (.context n)) : DmaKeep s (s.updateDevice d f) := by
  intro d' n hn
  rw [updateDevice_devices, Function.update_apply] at hn
  split at hn
  · rename_i hd; rw [hd]; exact h n hn
  · exact hn

theorem parent_pciDeviceSetBar {dev dev' : PciDevice} {index size flags : Nat}
    (h : pciDeviceSetBar dev index size flags = .ok dev') : dev'.parent = dev.parent := by
  unfold pciDeviceSetBar at h
  simp only at h
  split at h
  · cases h
  split at h
  · cases h
  split at h
  · cases h
  split at h
  · cases h
  · cases h
    split <;> rfl

/-- No change gives a function the address space of a context. -/
theorem DeviceChange.context {dev dev' : PciDevice} (h : DeviceChange dev dev') {n : Nat}
    (hn : dev'.parent.dmaAs = some (.context n)) : dev.parent.dmaAs = some (.context n) := by
  cases h with
  | stay h => rwa [show dev'.parent = dev.parent from congrArg Prod.fst h] at hn
  | init | header => cases hn
  | setBar h => rwa [parent_pciDeviceSetBar h] at hn
  | attach =>
    simp only [PciDevice.attach] at hn
    split at hn
    · cases hn
    · exact hn
  | detach =>
    simp only [PciDevice.detach] at hn
    split at hn
    · cases hn
    · exact hn
  | realized => exact hn

theorem Changed.dmaKeep {s t : PciState} (h : Changed s t) : DmaKeep s t := fun d n hn =>
  (h d).head_induction_on (motive := fun dev _ => dev.parent.dmaAs = some (.context n)) hn
    fun hchange _ ih => hchange.context ih

theorem dmaKeep_pciStep (sink : Sink) (s : PciState) {op : PciOp} (hop : op.setsDmaAs = false) :
    DmaKeep s (pciStep sink s op) :=
  (changed_pciStep sink s hop).dmaKeep

end Vart
