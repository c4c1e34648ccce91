import Vart.Pci.Pending

/-!
# What a call does to the MSI-X state of the functions

`PciDevice.msixView` keeps the part of a function that delivery depends on: the capability area of
its configuration space, the table, the pending bits and the flags. Most calls keep the views of
all functions, or prepare a function that was not initialised before (`MsixKeep`). `MsixOutcome`
lists what the others do.
-/

namespace Vart

open Lib

/-! ## Views -/

/-- The part of a function that delivery depends on. -/
def PciDevice.msixView (dev : PciDevice) : PciDevice :=
  { PciDevice.zero with
    initialised := dev.initialised
    configSpace := fun x => if x < pciCapabilityStart then 0 else dev.configSpace x
    capabilityNext := dev.capabilityNext
    capabilityTail := dev.capabilityTail
    msix := { PciMsix.zero with
      table := dev.msix.table
      pba := dev.msix.pba
      capabilityOffset := dev.msix.capabilityOffset
      vectorCount := dev.msix.vectorCount
      configured := dev.msix.configured
      enabled := dev.msix.enabled
      functionMask := dev.msix.functionMask } }

/-- The view without what the guest writes: the capability area and the table. -/
def PciDevice.stateView (dev : PciDevice) : PciDevice :=
  { dev.msixView with
    configSpace := fun _ => 0
    msix := { dev.msixView.msix with table := fun _ => 0 } }

theorem stateView_of_msixView {dev dev' : PciDevice} (h : dev'.msixView = dev.msixView) :
    dev'.stateView = dev.stateView := by
  unfold PciDevice.stateView
  rw [h]

/-- The view of a function that was just initialised. -/
def freshView : PciDevice :=
  { PciDevice.zero with initialised := true, capabilityNext := pciCapabilityStart }

/-- Two configuration spaces that agree from the capability area on. -/
theorem msixView_of_config {dev : PciDevice} {config : Store}
    (h : ∀ x, pciCapabilityStart ≤ x → config x = dev.configSpace x) :
    ({ dev with configSpace := config } : PciDevice).msixView = dev.msixView := by
  have hconfig : (fun x => if x < pciCapabilityStart then 0 else config x) =
      fun x => if x < pciCapabilityStart then 0 else dev.configSpace x := by
    funext x
    split
    · rfl
    · exact h x (by omega)
  simp only [PciDevice.msixView, hconfig]

theorem msixView_configStoreLe {dev : PciDevice} {offset size : Nat} (value : Nat)
    (h : offset + size ≤ pciCapabilityStart) :
    (dev.configStoreLe offset size value).msixView = dev.msixView := by
  refine msixView_of_config fun x hx => ?_
  exact Store.write_out _ (by rw [length_storeLe]; omega)

theorem msixView_pciConfigStore {dev : PciDevice} {offset size : Nat} (value : Nat)
    (h : offset + size ≤ pciCapabilityStart) :
    (pciConfigStore dev offset size value).msixView = dev.msixView := by
  refine msixView_of_config fun x hx => ?_
  exact if_neg (by omega)

theorem msixView_mapErase (dev : PciDevice) : dev.mapErase.msixView = dev.msixView := by
  have h := @msixView_of_config dev (barConfigErase dev.configSpace) fun x hx => by
    simp only [barConfigErase]
    exact if_neg (by simp only [pciCapabilityStart] at hx; omega)
  exact h

theorem msixView_ancestorErase (dev : PciDevice) : dev.ancestorErase.msixView = dev.msixView := by
  refine msixView_of_config fun x hx => ?_
  exact if_neg (by simp only [pciCapabilityStart] at hx; omega)

theorem msixView_pciDeviceInit (vendorId deviceId : UInt16)
    (revision progIf subclass classCode : UInt8) :
    (pciDeviceInit vendorId deviceId revision progIf subclass classCode).msixView = freshView := by
  unfold pciDeviceInit
  simp only
  rw [msixView_configStoreLe _ (by decide), msixView_configStoreLe _ (by decide),
    msixView_configStoreLe _ (by decide), msixView_configStoreLe _ (by decide),
    msixView_configStoreLe _ (by decide), msixView_configStoreLe _ (by decide)]
  simp [PciDevice.msixView, freshView, PciDevice.zero, PciMsix.zero]

/-- The log of the state is unchanged, and so is the view of every function, or the function was
prepared from an object in `fresh`. -/
structure MsixKeep (fresh : Nat → Prop) (s t : PciState) : Prop where
  log : t.log = s.log
  view : ∀ d, (t.devices d).msixView = (s.devices d).msixView ∨
    (fresh d ∧ (t.devices d).msixView = freshView)

namespace MsixKeep

variable {fresh : Nat → Prop} {s t u : PciState}

theorem refl (fresh : Nat → Prop) (s : PciState) : MsixKeep fresh s s := ⟨rfl, fun _ => .inl rfl⟩

theorem trans (h : MsixKeep fresh s t) (h' : MsixKeep fresh t u) : MsixKeep fresh s u := by
  refine ⟨h'.log.trans h.log, fun d => ?_⟩
  rcases h'.view d with he | hf
  · rw [he]
    exact h.view d
  · exact .inr hf

/-- A change of other parts of the state. -/
theorem of_devices_eq (hd : t.devices = s.devices) (hl : t.log = s.log) : MsixKeep fresh s t :=
  ⟨hl, fun d => .inl (by rw [hd])⟩

theorem updateDevice (s : PciState) (d : Nat) {f : PciDevice → PciDevice}
    (h : (f (s.devices d)).msixView = (s.devices d).msixView) :
    MsixKeep fresh s (s.updateDevice d f) := by
  refine ⟨rfl, fun d' => .inl ?_⟩
  exact congrFun (map_update_eq PciDevice.msixView s.devices d _ h) d'

theorem thenDevice (h : MsixKeep fresh s t) {d : Nat} {f : PciDevice → PciDevice}
    (hf : (f (t.devices d)).msixView = (t.devices d).msixView) :
    MsixKeep fresh s (t.updateDevice d f) :=
  h.trans (updateDevice t d hf)

theorem thenBus (h : MsixKeep fresh s t) {b : Nat} {f : PciBus → PciBus} :
    MsixKeep fresh s (t.updateBus b f) :=
  h.trans (of_devices_eq rfl rfl)

/-- An object of `fresh` becomes a function. -/
theorem prepare (s : PciState) {d : Nat} (hd : fresh d) {f : PciDevice → PciDevice}
    (h : (f (s.devices d)).msixView = freshView) : MsixKeep fresh s (s.updateDevice d f) := by
  refine ⟨rfl, fun d' => ?_⟩
  by_cases hd' : d' = d
  · subst hd'
    rw [updateDevice_devices, Function.update_self]
    exact .inr ⟨hd, h⟩
  · rw [updateDevice_devices, Function.update_of_ne hd']
    exact .inl rfl

theorem of_mapSame (h : MapSame s t) : MsixKeep fresh s t := by
  refine ⟨h.log, fun d => .inl ?_⟩
  rw [← msixView_mapErase, h.device d, msixView_mapErase]

theorem of_idSame (h : IdSame s t) : MsixKeep fresh s t :=
  ⟨(congrArg PciState.log h :), fun d => .inl (congrArg PciDevice.msixView (h.device d) :)⟩

theorem of_ancestorSame (h : AncestorSame s t) : MsixKeep fresh s t := by
  refine ⟨(congrArg PciState.log h :), fun d => .inl ?_⟩
  rw [← msixView_ancestorErase, h.device d, msixView_ancestorErase]

theorem mono {fresh' : Nat → Prop} (h : MsixKeep fresh s t) (hf : ∀ d, fresh d → fresh' d) :
    MsixKeep fresh' s t :=
  ⟨h.log, fun d => (h.view d).imp_right fun hd => ⟨hf d hd.1, hd.2⟩⟩

end MsixKeep

/-! ## Calls that keep the views -/

theorem msixKeep_pciIntxDeassert (fresh : Nat → Prop) (sink : Sink) (s : PciState) (d : Nat) :
    MsixKeep fresh s (pciIntxDeassert sink s d) := by
  unfold pciIntxDeassert
  split
  · exact .refl fresh s
  rename_i irq hirq
  split
  · refine MsixKeep.trans (t := { s with irq := (irqLower sink s.irq irq).1 })
      (.of_devices_eq rfl rfl) (.updateDevice _ d rfl)
  · exact .refl fresh s

theorem msixKeep_pciBridgeInitWithWindow {fresh : Nat → Prop} (s : PciState) {d : Nat}
    (hd : fresh d) (parent : Nat) (number : UInt8) (windowSize : Nat) :
    MsixKeep fresh s (pciBridgeInitWithWindow s d parent number windowSize).1 := by
  have hheader : (pciBridgeHeader s.busCount).msixView = freshView := by
    rw [← msixView_pciDeviceInit 0x1b36 0x0001 0 0 0x04 0x06]
    exact (@msixView_configStoreLe (pciDeviceInit 0x1b36 0x0001 0 0 0x04 0x06) 0x0e 1 0x01
      (by decide) :)
  have hprep : MsixKeep fresh s (s.updateDevice d fun _ => pciBridgeHeader s.busCount) :=
    .prepare s hd hheader
  unfold pciBridgeInitWithWindow
  simp only
  split
  · exact .refl fresh s
  split
  · exact .refl fresh s
  split
  · exact .refl fresh s
  split
  · exact .refl fresh s
  split
  · exact .refl fresh s
  split
  · exact hprep
  · rename_i t ht
    dsimp only
    refine (hprep.trans ?_).trans (.of_ancestorSame (ancestorSame_pciBusUpdateAncestors _ _))
    refine MsixKeep.trans ?_ (.updateDevice _ d ?_)
    · unfold pciBusInit at ht
      split at ht
      · cases ht
      · cases ht
        exact .of_devices_eq rfl rfl
    · rw [msixView_configStoreLe _ (by decide), msixView_configStoreLe _ (by decide),
        msixView_configStoreLe _ (by decide), msixView_configStoreLe _ (by decide),
        msixView_configStoreLe _ (by decide)]

theorem msixKeep_pciBridgeDestroy (fresh : Nat → Prop) (s : PciState) (d : Nat) :
    MsixKeep fresh s (pciBridgeDestroy s d).1 := by
  unfold pciBridgeDestroy
  simp only
  split
  · exact .refl fresh s
  split
  · exact .refl fresh s
  unfold pciBusDestroy
  simp only
  split
  · exact .refl fresh s
  · dsimp only
    split <;> exact .of_devices_eq rfl rfl

theorem msixKeep_pciSwitchPorts {fresh : Nat → Prop} (s : PciState) (internal : Nat) (number : UInt8)
    (done ports : List Nat) (h : ∀ d ∈ ports, fresh d) :
    MsixKeep fresh s (pciSwitchPorts s internal number done ports).1 := by
  induction ports generalizing s number done with
  | nil => exact .refl fresh s
  | cons port ports ih =>
    have hport := msixKeep_pciBridgeInitWithWindow s (h port List.mem_cons_self) internal number
      pciBridgeMmioWindowSize
    unfold pciSwitchPorts
    split
    · rename_i t e ht
      rw [ht] at hport
      refine hport.trans ?_
      dsimp only
      generalize done = ps
      clear ht hport
      induction ps generalizing t with
      | nil => exact .refl fresh t
      | cons p ps ih => exact (msixKeep_pciBridgeDestroy fresh t p).trans (ih _)
    · rename_i t u ht
      rw [ht] at hport
      exact hport.trans (ih _ _ _ fun d hd => h d (List.mem_cons_of_mem _ hd))

theorem msixKeep_pciSwitchInit {fresh : Nat → Prop} (s : PciState) (upstream : Nat)
    (ports : List Nat) (parent : Nat) (number : UInt8) (h : ∀ d ∈ upstream :: ports, fresh d) :
    MsixKeep fresh s (pciSwitchInit s upstream ports parent number).1 := by
  have hup := msixKeep_pciBridgeInitWithWindow s (h upstream List.mem_cons_self) parent number
    (ports.length * pciBridgeMmioWindowSize)
  unfold pciSwitchInit
  simp only
  split
  · exact .refl fresh s
  split
  · rename_i t e ht
    rw [ht] at hup
    exact hup
  rename_i t u ht
  rw [ht] at hup
  have hports := hup.trans (msixKeep_pciSwitchPorts t s.busCount (number + 1) [] ports
    fun d hd => h d (List.mem_cons_of_mem _ hd))
  split
  · rename_i v e hv
    rw [hv] at hports
    exact (hports.trans (msixKeep_pciBridgeDestroy fresh v upstream)).trans (.of_devices_eq rfl rfl)
  · rename_i v w hv
    rw [hv] at hports
    exact hports

theorem msixKeep_pciBusAddDevice (fresh : Nat → Prop) (s : PciState) (bus d : Nat) (devfn : UInt8) :
    MsixKeep fresh s (pciBusAddDevice s bus d devfn).1 := by
  unfold pciBusAddDevice
  simp only
  split
  · exact .refl fresh s
  split
  · exact .refl fresh s
  split
  · exact .refl fresh s
  split
  · exact .refl fresh s
  dsimp only
  split
  · exact .thenBus (.thenDevice (.refl fresh s) rfl)
  split
  · exact .thenDevice (.thenBus (.thenDevice (.refl fresh s) rfl))
      (msixView_configStoreLe _ (by decide))
  · exact .thenBus (.thenDevice (.refl fresh s) rfl)

theorem msixKeep_pciBusRemoveDevice (fresh : Nat → Prop) (s : PciState) (bus d : Nat) :
    MsixKeep fresh s (pciBusRemoveDevice s bus d).1 := by
  unfold pciBusRemoveDevice
  simp only
  split
  · exact .refl fresh s
  split
  · exact .refl fresh s
  split
  · exact .refl fresh s
  dsimp only
  split
  · exact .thenDevice (.thenBus (.refl fresh s)) rfl
  split
  · exact .thenDevice (.thenDevice (.thenBus (.refl fresh s)) rfl)
      (msixView_configStoreLe _ (by decide))
  · exact .thenDevice (.thenBus (.refl fresh s)) rfl

/-! ## Configuration writes -/

/-- A configuration write to function `d` before `pci_msix_update_control` looks at it: only the
capability area of `d` differs. -/
structure ControlWritten (d : Nat) (s t : PciState) : Prop where
  log : t.log = s.log
  other : ∀ d', d' ≠ d → (t.devices d').msixView = (s.devices d').msixView
  self : (t.devices d).stateView = (s.devices d).stateView
  connected : (t.devices d).msix.connected = (s.devices d).msix.connected

theorem MapSame.connected {s t : PciState} (h : MapSame s t) (d : Nat) :
    (t.devices d).msix.connected = (s.devices d).msix.connected := by
  have hm := congrArg PciDevice.msix (h.device d)
  funext v
  unfold PciMsix.connected
  rw [show (t.devices d).msix.irqRoutes = (s.devices d).msix.irqRoutes from
      (congrArg PciMsix.irqRoutes hm :),
    show (t.devices d).msix.inject = (s.devices d).msix.inject from (congrArg PciMsix.inject hm :)]

theorem ControlWritten.of_keep {d : Nat} {s t : PciState} (h : MsixKeep (fun _ => False) s t)
    (hc : (t.devices d).msix.connected = (s.devices d).msix.connected) : ControlWritten d s t := by
  have hview : ∀ d', (t.devices d').msixView = (s.devices d').msixView := fun d' =>
    (h.view d').resolve_right fun hf => hf.1
  exact ⟨h.log, fun d' _ => hview d', stateView_of_msixView (hview d), hc⟩

theorem controlWritten_pciConfigStore (s : PciState) (d offset size value : Nat) :
    ControlWritten d s (s.updateDevice d (pciConfigStore · offset size value)) := by
  refine ⟨rfl, fun d' hd' => ?_, ?_, ?_⟩
  · rw [updateDevice_devices, Function.update_of_ne hd']
  · rw [updateDevice_devices, Function.update_self]
    rfl
  · rw [updateDevice_devices, Function.update_self]
    rfl

/-- The Command register is below the capability area. -/
theorem pciCommandWritten_msix (s : PciState) (d oldCommand : Nat) :
    MsixKeep (fun _ => False) s (pciCommandWritten s d oldCommand).1 ∧
      ((pciCommandWritten s d oldCommand).1.devices d).msix.connected =
        (s.devices d).msix.connected := by
  unfold pciCommandWritten
  simp only
  have hdecoded : ∀ enable wasEnabled : Bool, MapSame s
      (if enable && !wasEnabled then pciDeviceEnableMemory s d
        else (if !enable && wasEnabled then pciDeviceDisableMemory s d else s, .ok ())).1 := by
    intro enable wasEnabled
    split
    · exact (mapStep_pciDeviceEnableMemory s d).same
    · dsimp only
      split
      · exact (mapStep_pciDeviceDisableMemory s d).same
      · exact .refl s
  specialize hdecoded ((s.devices d).configLoad 0x04 2 &&& pciCommandMemoryEnable != 0)
    (oldCommand &&& pciCommandMemoryEnable != 0)
  split
  · rename_i t e ht
    rw [ht] at hdecoded
    dsimp only at hdecoded ⊢
    refine ⟨.thenDevice (.of_mapSame hdecoded) (msixView_pciConfigStore _ (by decide)), ?_⟩
    rw [updateDevice_devices, Function.update_self]
    exact hdecoded.connected d
  · rename_i t u ht
    rw [ht] at hdecoded
    dsimp only at hdecoded ⊢
    refine ⟨.thenDevice (.of_mapSame hdecoded) rfl, ?_⟩
    rw [updateDevice_devices, Function.update_self]
    exact hdecoded.connected d

theorem pciGenericConfigWrite_msix (sink : Sink) (s : PciState) (d offset : Nat) {size : Nat}
    (value : Nat) (hsize : size ≤ 8) :
    MsixKeep (fun _ => False) s (pciGenericConfigWrite sink s d offset size value).1 ∨
      ∃ u, ControlWritten d s u ∧
        (pciGenericConfigWrite sink s d offset size value).1 = pciMsixUpdateControl sink u d := by
  have hstore := controlWritten_pciConfigStore s d offset size value
  unfold pciGenericConfigWrite
  simp only
  generalize (s.devices d).configLoad 0x04 2 = oldCommand
  by_cases hcommand : offset < 0x06 ∧ offset + size > 0x04
  · rw [if_pos hcommand]
    -- Such a write ends below the capability area.
    have hlow : MsixKeep (fun _ => False) s
        (s.updateDevice d (pciConfigStore · offset size value)) :=
      .updateDevice s d (msixView_pciConfigStore _ (by simp only [pciCapabilityStart]; omega))
    obtain ⟨hkeep, hconn⟩ :=
      pciCommandWritten_msix (s.updateDevice d (pciConfigStore · offset size value)) d oldCommand
    split
    · rename_i t e ht
      rw [ht] at hkeep
      exact .inl (hlow.trans hkeep)
    · rename_i t u ht
      rw [ht] at hkeep hconn
      exact .inr ⟨t, .of_keep (hlow.trans hkeep) (hconn.trans hstore.connected), rfl⟩
  · rw [if_neg hcommand]
    exact .inr ⟨_, hstore, rfl⟩

theorem msixKeep_pciBridgeConfigWrite {s : PciState} {d child offset size value : Nat}
    {r : PciState × Status} (h : pciBridgeConfigWrite s d child offset size value = some r) :
    MsixKeep (fun _ => False) s r.1 := by
  have hstore : offset + size ≤ pciCapabilityStart → MsixKeep (fun _ => False) s
      (s.updateDevice d (·.configStoreLe offset size value)) := fun hlow =>
    .updateDevice s d (msixView_configStoreLe value hlow)
  unfold pciBridgeConfigWrite at h
  split at h
  · split at h
    · rename_i hrange
      cases h
      exact (hstore (by simp only [pciCapabilityStart]; omega)).trans (.of_devices_eq rfl rfl)
    · split at h
      · rename_i hrange
        cases h
        exact (hstore (by simp only [pciCapabilityStart]; omega)).trans (.of_devices_eq rfl rfl)
      · cases h
  · cases h
    unfold pciBridgeWriteBusNumbers
    split
    · exact .refl _ s
    simp only
    split
    · exact .refl _ s
    split
    · exact .refl _ s
    split
    · exact .refl _ s
    · refine MsixKeep.trans ?_ (.of_ancestorSame (ancestorSame_pciBusUpdateAncestors _ _))
      refine MsixKeep.trans ?_ (.of_idSame (idSame_pciBusUpdateRequesterIds _ _))
      exact .thenDevice (.thenBus (.refl _ s)) (msixView_configStoreLe _ (by decide))

theorem pciConfigWrite_msix (sink : Sink) (s : PciState) (d offset : Nat) {size : Nat} (value : Nat)
    (hsize : size ≤ 8) :
    MsixKeep (fun _ => False) s (pciConfigWrite sink s d offset size value).1 ∨
      ∃ u, ControlWritten d s u ∧
        (pciConfigWrite sink s d offset size value).1 = pciMsixUpdateControl sink u d := by
  unfold pciConfigWrite
  split
  · rename_i index high hbar
    split at hbar
    · obtain ⟨hi, himpl⟩ := pciBarFromOffset_some hbar
      exact .inl (.of_mapSame (mapStep_pciBarWrite _ high hi himpl).same)
    · cases hbar
  split
  · rename_i r hr
    cases hsec : (s.devices d).secondaryBus with
    | none => rw [hsec] at hr; cases hr
    | some child =>
      rw [hsec] at hr
      exact .inl (msixKeep_pciBridgeConfigWrite hr)
  · exact pciGenericConfigWrite_msix sink s d offset value hsize

/-! ## All calls -/

/-- The call may send MSI-X messages. -/
def PciOp.sendsMsix : PciOp → Bool
  | .ecamWrite .. | .tableWrite .. | .raiseMsix .. => true
  | _ => false

/-- What a call does to the MSI-X state of the functions. -/
inductive MsixOutcome (sink : Sink) (s : PciState) (op : PciOp) (t : PciState) : Prop
  | keep (h : MsixKeep (fun d => (s.devices d).initialised = false) s t)
  | capability {d : Nat} {id : UInt8} {data : List UInt8} {dev : PciDevice} {offset : Nat}
      (h : pciDeviceAddCapability (s.devices d) id data = .ok (dev, offset))
      (ht : t = s.updateDevice d fun _ => dev)
  | init {d vectorCount tableBar tableOffset pbaBar pbaOffset : Nat} {dev : PciDevice}
      (h : pciDeviceInitMsix (s.devices d) vectorCount tableBar tableOffset pbaBar pbaOffset =
        .ok dev)
      (ht : t = s.updateDevice d fun _ => dev)
  | reset {d : Nat} (ht : t = pciDeviceResetInternal sink s d)
  | table {d offset size value : Nat} (hop : op.sendsMsix = true)
      (ht : t = (pciMsixTableWrite sink s d offset size value).1)
  | raise {d v : Nat} (hop : op.sendsMsix = true) (ht : t = (pciDeviceRaiseMsix sink s d v).1)
  | control {d : Nat} {u : PciState} (hop : op.sendsMsix = true) (hu : ControlWritten d s u)
      (ht : t = pciMsixUpdateControl sink u d)

theorem msixView_pciDeviceSetBar {dev dev' : PciDevice} {index size flags : Nat}
    (h : pciDeviceSetBar dev index size flags = .ok dev') : dev'.msixView = dev.msixView := by
  unfold pciDeviceSetBar at h
  simp only at h
  split at h
  · cases h
  split at h
  · cases h
  split at h
  · cases h
  split at h
  · cases h
  · cases h
    split <;> rfl

theorem pciStep_msix (sink : Sink) {s : PciState} {op : PciOp} (hv : op.Valid s) :
    MsixOutcome sink s op (pciStep sink s op) := by
  have hout := pciStep_outcome sink s op
  generalize pciStep sink s op = t at hout
  cases hout with
  | same => exact .keep (.refl _ s)
  | deviceInit => exact .keep (.prepare s hv (msixView_pciDeviceInit ..))
  | @configured _ d dev hdev =>
    cases hdev with
    | setBar h => exact .keep (.updateDevice s d (msixView_pciDeviceSetBar h))
    | capability h => exact .capability h rfl
    | initMsix h => exact .init h rfl
    | routes => exact .keep (.updateDevice s d rfl)
    | intx =>
      refine .keep (.updateDevice s d ?_)
      rw [msixView_configStoreLe _ (by decide), msixView_configStoreLe _ (by decide)]
      rfl
  | setDmaAs => exact .keep (.updateDevice s _ rfl)
  | irq => exact .keep (.of_devices_eq rfl rfl)
  | setIntx irq =>
    refine .keep (MsixKeep.thenDevice ?_ rfl)
    exact .of_devices_eq rfl rfl
  | bridgeInit => exact .keep (msixKeep_pciBridgeInitWithWindow s hv.1 ..)
  | bridgeDestroy => exact .keep (msixKeep_pciBridgeDestroy _ s _)
  | switchInit => exact .keep (msixKeep_pciSwitchInit s _ _ _ _ hv.2.1)
  | addDevice => exact .keep (msixKeep_pciBusAddDevice _ s _ _ _)
  | removeDevice => exact .keep (msixKeep_pciBusRemoveDevice _ s _ _)
  | realizeFailed => exact .keep (.of_mapSame (mapStep_pciDeviceRealizeOp s _).same)
  | realized =>
    exact .keep (.thenDevice (.of_mapSame (mapStep_pciDeviceRealizeOp s _).same) rfl)
  | @unrealized d =>
    refine .keep (.thenDevice ((msixKeep_pciIntxDeassert _ sink s d).trans ?_) rfl)
    exact .of_mapSame (mapStep_pciDeviceDisableMemory _ d).same
  | reset => exact .reset rfl
  | @configWrite offset value d register size =>
    have hsize : size.bytes ≤ 8 := by cases size <;> decide
    rcases pciConfigWrite_msix sink s d register (value % 256 ^ size.bytes) hsize with
      hkeep | ⟨u, hu, ht⟩
    · exact .keep (hkeep.mono fun _ h => h.elim)
    · exact .control rfl hu ht
  | tableWrite => exact .table rfl rfl
  | raiseMsix => exact .raise rfl rfl
  | memory => exact .keep (.of_devices_eq rfl rfl)

end Vart
