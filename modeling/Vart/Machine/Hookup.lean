import Vart.Pci.Numbering

/-!
# What a function is hooked up to

`PciDevice.hookup` is the device record of a function, the slot that it is in and its MSI-X
remapper: what the calls that build a machine and take it apart depend on. `PciState.hookups` and
`PciState.slots` read them off the state, and each call of the PCI core that the machine makes is
described by what it does to the two.

* `pciDeviceRealize_cases`, `hookups_pciDeviceUnrealize`: realization.
* `pciBusAddDevice_cases`, `pciBusRemoveDevice_cases`: a function on a bus and off it.
-/

namespace Vart

open Lib

/-! ## The view -/

structure Hookup where
  parent : Device
  pciBus : Option Nat
  devfn : UInt8
  /-- `remap` of MSI-X is not `NULL`. -/
  remap : Bool
  /-- The function has MSI-X. -/
  configured : Bool

def PciDevice.hookup (dev : PciDevice) : Hookup :=
  ⟨dev.parent, dev.pciBus, dev.devfn, dev.msix.remap, dev.msix.configured⟩

def Hookup.setRealized (h : Hookup) (realized : Bool) : Hookup :=
  { h with parent := { h.parent with realized } }

def PciState.hookups (s : PciState) : Nat → Hookup := fun d => (s.devices d).hookup

def PciState.slots (s : PciState) : Nat → UInt8 → Option Nat := fun b => (s.buses b).functions

theorem hookups_updateDevice (s : PciState) (d : Nat) (f : PciDevice → PciDevice) :
    (s.updateDevice d f).hookups = Function.update s.hookups d (f (s.devices d)).hookup := by
  funext e
  by_cases he : e = d
  · subst he
    simp [PciState.hookups]
  · simp [PciState.hookups, he]

theorem hookups_updateDevice_same (s : PciState) (d : Nat) {f : PciDevice → PciDevice}
    (h : (f (s.devices d)).hookup = (s.devices d).hookup) :
    (s.updateDevice d f).hookups = s.hookups := by
  rw [hookups_updateDevice, h]
  exact Function.update_eq_self d s.hookups

theorem slots_updateBus (s : PciState) (b : Nat) (f : PciBus → PciBus) :
    (s.updateBus b f).slots = Function.update s.slots b (f (s.buses b)).functions := by
  funext x
  by_cases hx : x = b
  · subst hx
    simp [PciState.slots]
  · simp [PciState.slots, hx]

theorem MapSame.hookups {s t : PciState} (h : MapSame s t) : t.hookups = s.hookups :=
  funext fun d => (congrArg PciDevice.hookup (h.device d) :)

theorem MapSame.slots {s t : PciState} (h : MapSame s t) : t.slots = s.slots :=
  funext fun b => (congrArg PciBus.functions (h.bus b) :)

/-! ## Realization -/

theorem pciDeviceRealize_cases (s : PciState) (d : Nat) :
    (∃ t e, pciDeviceRealize s d = (t, .error e) ∧ t.hookups = s.hookups ∧ t.slots = s.slots) ∨
    ∃ t, pciDeviceRealize s d = (t, .ok ()) ∧ t.slots = s.slots ∧
      t.hookups = Function.update s.hookups d ((s.hookups d).setRealized true) := by
  unfold pciDeviceRealize
  split
  · exact .inl ⟨s, _, rfl, rfl, rfl⟩
  have hop := (mapStep_pciDeviceRealizeOp s d).same
  generalize pciDeviceRealizeOp s d = r at hop ⊢
  obtain ⟨t, e | u⟩ := r
  · exact .inl ⟨t, e, rfl, hop.hookups, hop.slots⟩
  · refine .inr ⟨_, rfl, hop.slots, ?_⟩
    rw [hookups_updateDevice, ← hop.hookups]
    rfl

theorem hookups_pciIntxDeassert (sink : Sink) (s : PciState) (d : Nat) :
    (pciIntxDeassert sink s d).hookups = s.hookups ∧
      (pciIntxDeassert sink s d).slots = s.slots := by
  unfold pciIntxDeassert
  split
  · exact ⟨rfl, rfl⟩
  split
  · exact ⟨hookups_updateDevice_same { s with irq := _ } d rfl, rfl⟩
  · exact ⟨rfl, rfl⟩

/-- After `vart_device_unrealize` the function is not realized, whatever it was. -/
theorem hookups_pciDeviceUnrealize (sink : Sink) (s : PciState) (d : Nat) :
    (pciDeviceUnrealize sink s d).hookups =
        Function.update s.hookups d ((s.hookups d).setRealized false) ∧
      (pciDeviceUnrealize sink s d).slots = s.slots := by
  unfold pciDeviceUnrealize
  split
  · have hintx := hookups_pciIntxDeassert sink s d
    have hmap := (mapStep_pciDeviceDisableMemory (pciIntxDeassert sink s d) d).same
    have hhookups := hmap.hookups.trans hintx.1
    refine ⟨?_, hmap.slots.trans hintx.2⟩
    rw [hookups_updateDevice, ← hhookups]
    rfl
  · rename_i hrealized
    have hfalse : (s.devices d).parent.realized = false := by simpa using hrealized
    have hself : (s.hookups d).setRealized false = s.hookups d := by
      simp only [Hookup.setRealized, PciState.hookups, PciDevice.hookup, ← hfalse]
    rw [hself, Function.update_eq_self]
    exact ⟨rfl, rfl⟩

/-! ## Buses -/

/-- The function is put on bus `bus`. -/
def Hookup.attach (h : Hookup) (bus : Nat) (devfn : UInt8) : Hookup :=
  { h with
    pciBus := some bus
    devfn
    parent := { h.parent with
      dmaAs := if h.parent.dmaAs.isNone then some .system else h.parent.dmaAs
      dmaAsFromBus := h.parent.dmaAs.isNone } }

/-- The function is taken off its bus. -/
def Hookup.detach (h : Hookup) : Hookup :=
  { h with
    pciBus := none
    parent := if h.parent.dmaAsFromBus then
      { h.parent with dmaAs := none, dmaAsFromBus := false } else h.parent }

/-- Function `d` is put into slot `devfn` of bus `bus`. -/
structure Added (s : PciState) (bus d : Nat) (devfn : UInt8) (t : PciState) : Prop where
  offBus : (s.hookups d).pciBus = none
  free : s.slots bus devfn = none
  unrealized : (s.hookups d).parent.realized = false
  hookups : t.hookups = Function.update s.hookups d ((s.hookups d).attach bus devfn)
  slots : t.slots = Function.update s.slots bus (Function.update (s.slots bus) devfn (some d))
  initialised : ∀ e, (t.devices e).initialised = (s.devices e).initialised

theorem pciBusAddDevice_cases (s : PciState) (bus d : Nat) (devfn : UInt8) :
    (∃ e, pciBusAddDevice s bus d devfn = (s, .error e)) ∨
      ∃ t, pciBusAddDevice s bus d devfn = (t, .ok ()) ∧ Added s bus d devfn t := by
  unfold pciBusAddDevice
  extract_lets b dev function s₁ s₂ s₃
  split
  · exact .inl ⟨_, rfl⟩
  rename_i hbus
  split
  · exact .inl ⟨_, rfl⟩
  rename_i hfree
  split
  · exact .inl ⟨_, rfl⟩
  split
  · exact .inl ⟨_, rfl⟩
  rename_i hrealized
  have hhookups : s₁.hookups = Function.update s.hookups d ((s.hookups d).attach bus devfn) :=
    hookups_updateDevice s d _
  have hslots : s₂.slots =
      Function.update s.slots bus (Function.update (s.slots bus) devfn (some d)) :=
    slots_updateBus s₁ bus _
  have hinit : ∀ e, (s₂.devices e).initialised = (s.devices e).initialised :=
    congrFun (map_update_eq PciDevice.initialised s.devices d _ rfl)
  -- The mark of a device with several functions is in the configuration space.
  have hlast : s₃.hookups = s₂.hookups ∧ s₃.slots = s₂.slots ∧
      ∀ e, (s₃.devices e).initialised = (s₂.devices e).initialised := by
    simp only [s₃]
    split
    · exact ⟨rfl, rfl, fun _ => rfl⟩
    split
    · exact ⟨hookups_updateDevice_same s₂ _ rfl, rfl,
        congrFun (map_update_eq PciDevice.initialised s₂.devices _ _ rfl)⟩
    · exact ⟨rfl, rfl, fun _ => rfl⟩
  have hnone : dev.pciBus = none := by simpa using hbus
  have hslot : b.functions devfn = none := by simpa using hfree
  have hfalse : dev.parent.realized = false := by simpa using hrealized
  exact .inr ⟨s₃, rfl, hnone, hslot, hfalse, hlast.1.trans hhookups, hlast.2.1.trans hslots,
    fun e => (hlast.2.2 e).trans (hinit e)⟩

/-- Function `d` is taken out of its slot on bus `bus`. -/
structure Removed (s : PciState) (bus d : Nat) (t : PciState) : Prop where
  hookups : t.hookups = Function.update s.hookups d (s.hookups d).detach
  slots : t.slots =
    Function.update s.slots bus (Function.update (s.slots bus) (s.hookups d).devfn none)

/-- What keeps a function on its bus. -/
structure Removable (s : PciState) (bus d : Nat) : Prop where
  onBus : (s.hookups d).pciBus = some bus
  function : s.slots bus (s.hookups d).devfn = some d
  unrealized : (s.hookups d).parent.realized = false
  others : (s.hookups d).devfn &&& 0x7 = 0 →
    hasOtherFunction (s.buses bus) (function0Devfn (s.hookups d).devfn) = false

theorem pciBusRemoveDevice_cases (s : PciState) (bus d : Nat) :
    (∃ e, pciBusRemoveDevice s bus d = (s, .error e) ∧ ¬ Removable s bus d) ∨
      ∃ t, pciBusRemoveDevice s bus d = (t, .ok ()) ∧ (s.hookups d).pciBus = some bus ∧
        (s.hookups d).parent.realized = false ∧ Removed s bus d t := by
  unfold pciBusRemoveDevice
  extract_lets dev function0 function s₁ s₂ s₃
  split
  · rename_i hbus
    exact .inl ⟨_, rfl, fun h => hbus.elim (· h.onBus) (· h.function)⟩
  rename_i hbus
  split
  · rename_i hrealized
    exact .inl ⟨_, rfl, fun h => Bool.false_ne_true (h.unrealized.symm.trans hrealized)⟩
  rename_i hrealized
  split
  · rename_i hother
    exact .inl ⟨_, rfl, fun h =>
      Bool.false_ne_true ((h.others hother.1).symm.trans hother.2)⟩
  have hhookups : s₂.hookups = Function.update s.hookups d (s.hookups d).detach :=
    hookups_updateDevice s₁ d _
  have hslots : s₁.slots =
      Function.update s.slots bus (Function.update (s.slots bus) (s.hookups d).devfn none) :=
    slots_updateBus s bus _
  have hlast : s₃.hookups = s₂.hookups ∧ s₃.slots = s₂.slots := by
    simp only [s₃]
    split
    · exact ⟨rfl, rfl⟩
    split
    · exact ⟨hookups_updateDevice_same s₂ _ rfl, rfl⟩
    · exact ⟨rfl, rfl⟩
  have hsome : dev.pciBus = some bus := by simpa using (not_or.1 hbus).1
  exact .inr ⟨s₃, rfl, hsome, Bool.eq_false_iff.mpr hrealized, hlast.1.trans hhookups,
    hlast.2.trans hslots⟩

/-! ## The remapper -/

def Hookup.setRemap (h : Hookup) (remap : Bool) : Hookup :=
  if h.configured then { h with remap } else h

@[simp] theorem Hookup.parent_setRemap (h : Hookup) (remap : Bool) :
    (h.setRemap remap).parent = h.parent := by
  unfold setRemap; split <;> rfl

@[simp] theorem Hookup.pciBus_setRemap (h : Hookup) (remap : Bool) :
    (h.setRemap remap).pciBus = h.pciBus := by
  unfold setRemap; split <;> rfl

@[simp] theorem Hookup.devfn_setRemap (h : Hookup) (remap : Bool) :
    (h.setRemap remap).devfn = h.devfn := by
  unfold setRemap; split <;> rfl

@[simp] theorem Hookup.configured_setRemap (h : Hookup) (remap : Bool) :
    (h.setRemap remap).configured = h.configured := by
  unfold setRemap; split <;> rfl

theorem Hookup.remap_setRemap (h : Hookup) (remap : Bool) :
    (h.setRemap remap).remap = if h.configured then remap else h.remap := by
  unfold setRemap; split <;> rfl

theorem hookups_setMsixRemapper (s : PciState) (d : Nat) (remap : Bool) :
    (s.tryDevice d (pciDeviceSetMsixRemapper · remap)).hookups =
      Function.update s.hookups d ((s.hookups d).setRemap remap) := by
  unfold PciState.tryDevice pciDeviceSetMsixRemapper Hookup.setRemap
  by_cases hconf : (s.devices d).msix.configured
  · have hconf' : (s.hookups d).configured = true := hconf
    simp only [hconf, hconf', Bool.not_true, Bool.false_eq_true, if_false, if_true]
    exact hookups_updateDevice s d _
  · have hconf' : (s.hookups d).configured = false := Bool.eq_false_iff.mpr hconf
    simp only [Bool.eq_false_iff.mpr hconf, hconf', Bool.not_false, if_true, Bool.false_eq_true,
      if_false, Function.update_eq_self]

end Vart
