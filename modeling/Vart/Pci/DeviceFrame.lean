import Mathlib.Logic.Relation
import Vart.Pci.MsixFrame

/-!
# What a call does to the functions

Most calls of the PCI core leave the device record of a function and its BARs, except for where they
are mapped. `DeviceChange` lists the other changes, and `changed_pciStep` says that no call makes
others: what holds of a function holds after any call if the changes keep it.
`vart_pci_device_set_dma_as` is left out.
-/

namespace Vart

open Lib

/-! ## Changes -/

/-- The device record, the secondary bus of a bridge and the BARs without their places. -/
def PciDevice.stay (dev : PciDevice) : Device × Option Nat × (Nat → PciBar) :=
  (dev.parent, dev.secondaryBus, fun i => (dev.bars i).mapErase)

theorem stay_configStoreLe (dev : PciDevice) (offset size value : Nat) :
    (dev.configStoreLe offset size value).stay = dev.stay := rfl

/-- No function of `t` differs from that of `s` in these. -/
def Stays (s t : PciState) : Prop := ∀ d, (t.devices d).stay = (s.devices d).stay

namespace Stays

variable {s t u : PciState}

theorem refl (s : PciState) : Stays s s := fun _ => rfl

theorem trans (h : Stays s t) (h' : Stays t u) : Stays s u := fun d => (h' d).trans (h d)

theorem of_devices_eq (h : t.devices = s.devices) : Stays s t := fun d => by rw [h]

theorem of_mapSame (h : MapSame s t) : Stays s t := fun d =>
  Prod.ext (congrArg PciDevice.parent (h.device d) :)
    (Prod.ext (congrArg PciDevice.secondaryBus (h.device d) :)
      (congrArg PciDevice.bars (h.device d) :))

theorem of_idSame (h : IdSame s t) : Stays s t := fun d => (congrArg PciDevice.stay (h.device d) :)

theorem of_ancestorSame (h : AncestorSame s t) : Stays s t := fun d =>
  (congrArg PciDevice.stay (h.device d) :)

theorem of_deliverSame (h : DeliverSame s t) : Stays s t := fun d =>
  (congrArg PciDevice.stay (h.device d) :)

theorem thenDevice (h : Stays s t) {d : Nat} {f : PciDevice → PciDevice}
    (hf : (f (t.devices d)).stay = (t.devices d).stay) : Stays s (t.updateDevice d f) := by
  refine h.trans fun d' => ?_
  rw [updateDevice_devices, Function.update_apply]
  split
  · rename_i hd
    rw [hd, hf]
  · rfl

theorem thenBus (h : Stays s t) {b : Nat} {f : PciBus → PciBus} : Stays s (t.updateBus b f) :=
  h.trans (of_devices_eq rfl)

end Stays

/-- The function is put on a bus. -/
def PciDevice.attach (dev : PciDevice) (bus : Nat) (devfn : UInt8) (requesterId : UInt16) :
    PciDevice :=
  { dev with
    pciBus := some bus
    parent := { dev.parent with
      dmaAs := if dev.parent.dmaAs.isNone then some .system else dev.parent.dmaAs
      dmaAsFromBus := dev.parent.dmaAs.isNone }
    devfn
    requesterId }

/-- The function is taken off its bus. -/
def PciDevice.detach (dev : PciDevice) : PciDevice :=
  { dev with
    pciBus := none
    requesterId := 0
    parent := if dev.parent.dmaAsFromBus then
      { dev.parent with dmaAs := none, dmaAsFromBus := false } else dev.parent }

/-- A change of a function. -/
inductive DeviceChange : PciDevice → PciDevice → Prop
  | stay {dev dev' : PciDevice} (h : dev'.stay = dev.stay) : DeviceChange dev dev'
  | init (dev : PciDevice) (vendorId deviceId : UInt16)
      (revision progIf subclass classCode : UInt8) :
      DeviceChange dev (pciDeviceInit vendorId deviceId revision progIf subclass classCode)
  | header (dev : PciDevice) (bus : Nat) : DeviceChange dev (pciBridgeHeader bus)
  | setBar {dev dev' : PciDevice} {index size flags : Nat}
      (h : pciDeviceSetBar dev index size flags = .ok dev') : DeviceChange dev dev'
  | attach (dev : PciDevice) (bus : Nat) (devfn : UInt8) (requesterId : UInt16) :
      DeviceChange dev (dev.attach bus devfn requesterId)
  | detach (dev : PciDevice) : DeviceChange dev dev.detach
  | realized (dev : PciDevice) (realized : Bool) :
      DeviceChange dev { dev with parent := { dev.parent with realized } }

/-- Every function of `t` comes from that of `s` by such changes. -/
def Changed (s t : PciState) : Prop :=
  ∀ d, Relation.ReflTransGen DeviceChange (s.devices d) (t.devices d)

namespace Changed

variable {s t u : PciState}

theorem refl (s : PciState) : Changed s s := fun _ => .refl

theorem trans (h : Changed s t) (h' : Changed t u) : Changed s u := fun d => (h d).trans (h' d)

theorem of_stays (h : Stays s t) : Changed s t := fun d => .single (.stay (h d))

theorem of_devices_eq (h : t.devices = s.devices) : Changed s t := of_stays (.of_devices_eq h)

theorem updateDevice (s : PciState) (d : Nat) {f : PciDevice → PciDevice}
    (h : DeviceChange (s.devices d) (f (s.devices d))) : Changed s (s.updateDevice d f) := by
  intro d'
  rw [updateDevice_devices, Function.update_apply]
  split
  · rename_i hd
    rw [hd]
    exact .single h
  · exact .refl

theorem thenDevice (h : Changed s t) {d : Nat} {f : PciDevice → PciDevice}
    (hf : (f (t.devices d)).stay = (t.devices d).stay) : Changed s (t.updateDevice d f) :=
  h.trans (updateDevice t d (.stay hf))

theorem thenBus (h : Changed s t) {b : Nat} {f : PciBus → PciBus} : Changed s (t.updateBus b f) :=
  h.trans (of_devices_eq rfl)

end Changed

/-! ## Topology -/

theorem changed_pciBridgeInitWithWindow (s : PciState) (d parent : Nat) (number : UInt8)
    (windowSize : Nat) : Changed s (pciBridgeInitWithWindow s d parent number windowSize).1 := by
  have hprep : Changed s (s.updateDevice d fun _ => pciBridgeHeader s.busCount) :=
    .updateDevice s d (.header _ _)
  unfold pciBridgeInitWithWindow
  simp only
  split
  · exact .refl s
  split
  · exact .refl s
  split
  · exact .refl s
  split
  · exact .refl s
  split
  · exact .refl s
  split
  · exact hprep
  · rename_i t ht
    dsimp only
    refine (hprep.trans ?_).trans
      (.of_stays (.of_ancestorSame (ancestorSame_pciBusUpdateAncestors _ _)))
    refine Changed.thenDevice ?_ (by simp only [stay_configStoreLe])
    unfold pciBusInit at ht
    split at ht
    · cases ht
    · cases ht
      exact .of_devices_eq rfl

theorem changed_pciBridgeDestroy (s : PciState) (d : Nat) : Changed s (pciBridgeDestroy s d).1 := by
  unfold pciBridgeDestroy
  simp only
  split
  · exact .refl s
  split
  · exact .refl s
  unfold pciBusDestroy
  simp only
  split
  · exact .refl s
  · dsimp only
    split <;> exact .of_devices_eq rfl

theorem changed_pciSwitchPorts (s : PciState) (internal : Nat) (number : UInt8)
    (done ports : List Nat) : Changed s (pciSwitchPorts s internal number done ports).1 := by
  have hdestroy : ∀ (s : PciState) (ps : List Nat),
      Changed s (ps.foldl (fun s p => (pciBridgeDestroy s p).1) s) := by
    intro s ps
    induction ps generalizing s with
    | nil => exact .refl s
    | cons p ps ih => exact (changed_pciBridgeDestroy s p).trans (ih _)
  induction ports generalizing s number done with
  | nil => exact .refl s
  | cons port ports ih =>
    have hport := changed_pciBridgeInitWithWindow s port internal number pciBridgeMmioWindowSize
    unfold pciSwitchPorts
    split
    · rename_i t e ht
      rw [ht] at hport
      exact hport.trans (hdestroy t done)
    · rename_i t u ht
      rw [ht] at hport
      exact hport.trans (ih _ _ _)

theorem changed_pciSwitchInit (s : PciState) (upstream : Nat) (ports : List Nat) (parent : Nat)
    (number : UInt8) : Changed s (pciSwitchInit s upstream ports parent number).1 := by
  have hup := changed_pciBridgeInitWithWindow s upstream parent number
    (ports.length * pciBridgeMmioWindowSize)
  unfold pciSwitchInit
  simp only
  split
  · exact .refl s
  split
  · rename_i t e ht
    rw [ht] at hup
    exact hup
  rename_i t u ht
  rw [ht] at hup
  have hports := hup.trans (changed_pciSwitchPorts t s.busCount (number + 1) [] ports)
  split
  · rename_i v e hv
    rw [hv] at hports
    exact (hports.trans (changed_pciBridgeDestroy v upstream)).trans (.of_devices_eq rfl)
  · rename_i v w hv
    rw [hv] at hports
    exact hports

theorem changed_pciBusAddDevice (s : PciState) (bus d : Nat) (devfn : UInt8) :
    Changed s (pciBusAddDevice s bus d devfn).1 := by
  unfold pciBusAddDevice
  simp only
  split
  · exact .refl s
  split
  · exact .refl s
  split
  · exact .refl s
  split
  · exact .refl s
  have hadd : Changed s (s.updateDevice d
      (·.attach bus devfn (pciRequesterId (s.buses bus).number devfn))) :=
    .updateDevice s d (.attach _ _ _ _)
  dsimp only
  split
  · exact .thenBus hadd
  split
  · exact .thenDevice (.thenBus hadd) rfl
  · exact .thenBus hadd

theorem changed_pciBusRemoveDevice (s : PciState) (bus d : Nat) :
    Changed s (pciBusRemoveDevice s bus d).1 := by
  unfold pciBusRemoveDevice
  simp only
  split
  · exact .refl s
  split
  · exact .refl s
  split
  · exact .refl s
  have hremove : ∀ t : PciState, Changed t (t.updateDevice d PciDevice.detach) := fun t =>
    .updateDevice t d (.detach _)
  dsimp only
  split
  · exact (Changed.thenBus (.refl s)).trans (hremove _)
  split
  · exact .thenDevice ((Changed.thenBus (.refl s)).trans (hremove _)) rfl
  · exact (Changed.thenBus (.refl s)).trans (hremove _)

/-! ## Configuration writes -/

theorem stays_pciMsixUpdateControl (sink : Sink) (s : PciState) (d : Nat) :
    Stays s (pciMsixUpdateControl sink s d) := by
  unfold pciMsixUpdateControl
  simp only
  split
  · exact .refl s
  · exact (Stays.thenDevice (.refl s) rfl).trans
      (.of_deliverSame (deliverSame_pciMsixFlushPending ..))

theorem stays_pciCommandWritten (s : PciState) (d oldCommand : Nat) :
    Stays s (pciCommandWritten s d oldCommand).1 := by
  unfold pciCommandWritten
  simp only
  have hdecoded : ∀ enable wasEnabled : Bool, Stays s
      (if enable && !wasEnabled then pciDeviceEnableMemory s d
        else (if !enable && wasEnabled then pciDeviceDisableMemory s d else s, .ok ())).1 := by
    intro enable wasEnabled
    split
    · exact .of_mapSame (mapStep_pciDeviceEnableMemory s d).same
    · dsimp only
      split
      · exact .of_mapSame (mapStep_pciDeviceDisableMemory s d).same
      · exact .refl s
  specialize hdecoded ((s.devices d).configLoad 0x04 2 &&& pciCommandMemoryEnable != 0)
    (oldCommand &&& pciCommandMemoryEnable != 0)
  split
  · rename_i t e ht
    rw [ht] at hdecoded
    dsimp only at hdecoded ⊢
    exact .thenDevice hdecoded rfl
  · rename_i t u ht
    rw [ht] at hdecoded
    dsimp only at hdecoded ⊢
    exact .thenDevice hdecoded rfl

theorem stays_pciGenericConfigWrite (sink : Sink) (s : PciState) (d offset size value : Nat) :
    Stays s (pciGenericConfigWrite sink s d offset size value).1 := by
  have hstore : Stays s (s.updateDevice d (pciConfigStore · offset size value)) :=
    .thenDevice (.refl s) rfl
  unfold pciGenericConfigWrite
  simp only
  generalize (s.devices d).configLoad 0x04 2 = oldCommand
  by_cases hcommand : offset < 0x06 ∧ offset + size > 0x04
  · rw [if_pos hcommand]
    have hkeep := hstore.trans (stays_pciCommandWritten _ d oldCommand)
    split
    · rename_i t e ht
      rw [ht] at hkeep
      exact hkeep
    · rename_i t u ht
      rw [ht] at hkeep
      exact hkeep.trans (stays_pciMsixUpdateControl sink t d)
  · rw [if_neg hcommand]
    exact hstore.trans (stays_pciMsixUpdateControl sink _ d)

theorem stays_pciBridgeConfigWrite {s : PciState} {d child offset size value : Nat}
    {r : PciState × Status} (h : pciBridgeConfigWrite s d child offset size value = some r) :
    Stays s r.1 := by
  have hstore : Stays s (s.updateDevice d (·.configStoreLe offset size value)) :=
    .thenDevice (.refl s) rfl
  unfold pciBridgeConfigWrite at h
  split at h
  · split at h
    · cases h
      exact hstore.trans (.of_devices_eq rfl)
    · split at h
      · cases h
        exact hstore.trans (.of_devices_eq rfl)
      · cases h
  · cases h
    unfold pciBridgeWriteBusNumbers
    split
    · exact .refl s
    simp only
    split
    · exact .refl s
    split
    · exact .refl s
    split
    · exact .refl s
    · refine Stays.trans ?_ (.of_ancestorSame (ancestorSame_pciBusUpdateAncestors _ _))
      refine Stays.trans ?_ (.of_idSame (idSame_pciBusUpdateRequesterIds _ _))
      exact .thenDevice (.thenBus (.refl s)) rfl

theorem stays_pciConfigWrite (sink : Sink) (s : PciState) (d offset size value : Nat) :
    Stays s (pciConfigWrite sink s d offset size value).1 := by
  unfold pciConfigWrite
  split
  · rename_i index high hbar
    split at hbar
    · obtain ⟨hi, himpl⟩ := pciBarFromOffset_some hbar
      exact .of_mapSame (mapStep_pciBarWrite _ high hi himpl).same
    · cases hbar
  split
  · rename_i r hr
    cases hsec : (s.devices d).secondaryBus with
    | none => rw [hsec] at hr; cases hr
    | some child =>
      rw [hsec] at hr
      exact stays_pciBridgeConfigWrite hr
  · exact stays_pciGenericConfigWrite sink s d offset size value

/-! ## All calls -/

theorem stays_pciIntxDeassert (sink : Sink) (s : PciState) (d : Nat) :
    Stays s (pciIntxDeassert sink s d) := by
  unfold pciIntxDeassert
  split
  · exact .refl s
  rename_i irq hirq
  split
  · exact Stays.thenDevice (t := { s with irq := (irqLower sink s.irq irq).1 })
      (.of_devices_eq rfl) rfl
  · exact .refl s

theorem mapErase_resetProbe (bars : Nat → PciBar) :
    (fun i => (if i < pciBarCount then { bars i with probe := false } else bars i).mapErase) =
      fun i => (bars i).mapErase := by
  funext i
  split <;> rfl

theorem stays_pciDeviceResetInternal (sink : Sink) (s : PciState) (d : Nat) :
    Stays s (pciDeviceResetInternal sink s d) := by
  have hdisable : Stays s (pciDeviceDisableMemory s d) :=
    .of_mapSame (mapStep_pciDeviceDisableMemory s d).same
  have hintx := hdisable.trans (stays_pciIntxDeassert sink (pciDeviceDisableMemory s d) d)
  unfold pciDeviceResetInternal
  extract_lets t u
  have hu : Stays s u := by
    refine .thenDevice hintx ?_
    dsimp only
    split <;> exact Prod.ext rfl (Prod.ext rfl (mapErase_resetProbe _))
  exact hu.trans (.of_devices_eq rfl)

theorem stay_pciDeviceAddCapability {dev : PciDevice} {id : UInt8} {data : List UInt8}
    {r : PciDevice × Nat} (h : pciDeviceAddCapability dev id data = .ok r) :
    r.1.stay = dev.stay := by
  unfold pciDeviceAddCapability at h
  simp only at h
  split at h
  · cases h
  split at h
  · cases h
  split at h
  · cases h
  · cases h; rfl

/-- The call sets the address space of a function. -/
def PciOp.setsDmaAs : PciOp → Bool
  | .setDmaAs .. => true
  | _ => false

theorem deviceChange_of_configured {dev dev' : PciDevice} (h : Configured dev dev') :
    DeviceChange dev dev' := by
  cases h with
  | setBar h => exact .setBar h
  | capability h => exact .stay (stay_pciDeviceAddCapability h)
  | initMsix h =>
    unfold pciDeviceInitMsix at h
    split at h
    · cases h
    split at h
    · cases h
    split at h
    · cases h
    dsimp only at h
    split at h
    · cases h
    · rename_i hadd
      cases h
      exact .stay (stay_pciDeviceAddCapability hadd)
  | routes => exact .stay rfl
  | intx => exact .stay rfl

theorem changed_pciStep (sink : Sink) (s : PciState) {op : PciOp} (hop : op.setsDmaAs = false) :
    Changed s (pciStep sink s op) := by
  have hout := pciStep_outcome sink s op
  generalize pciStep sink s op = t at hout
  cases hout with
  | same => exact .refl s
  | deviceInit => exact .updateDevice s _ (.init ..)
  | configured hdev => exact .updateDevice s _ (deviceChange_of_configured hdev)
  | setDmaAs => cases hop
  | irq | memory => exact .of_devices_eq rfl
  | setIntx irq => exact Changed.thenDevice (t := { s with irq }) (.of_devices_eq rfl) rfl
  | bridgeInit => exact changed_pciBridgeInitWithWindow s _ _ _ pciBridgeMmioWindowSize
  | bridgeDestroy => exact changed_pciBridgeDestroy s _
  | switchInit => exact changed_pciSwitchInit s _ _ _ _
  | addDevice => exact changed_pciBusAddDevice s _ _ _
  | removeDevice => exact changed_pciBusRemoveDevice s _ _
  | realizeFailed => exact .of_stays (.of_mapSame (mapStep_pciDeviceRealizeOp s _).same)
  | @realized d =>
    exact (Changed.of_stays (.of_mapSame (mapStep_pciDeviceRealizeOp s d).same)).trans
      (.updateDevice _ d (.realized _ _))
  | @unrealized d =>
    refine Changed.trans (.of_stays ((stays_pciIntxDeassert sink s d).trans ?_))
      (.updateDevice _ d (.realized _ _))
    exact .of_mapSame (mapStep_pciDeviceDisableMemory _ d).same
  | reset => exact .of_stays (stays_pciDeviceResetInternal sink s _)
  | configWrite => exact .of_stays (stays_pciConfigWrite sink s _ _ _ _)
  | tableWrite =>
    simp only [pciMsixTableWrite]
    split
    · exact .refl s
    · exact .of_stays ((Stays.thenDevice (.refl s) rfl).trans
        (.of_deliverSame (deliverSame_pciMsixFlushPending ..)))
  | raiseMsix => exact .of_stays (.of_deliverSame (deliverSame_pciDeviceRaiseMsix sink s _ _))

end Vart
