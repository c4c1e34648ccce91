import Vart.Machine.Hookup

/-!
# Functions in the slots of a bus (`hw/pci/pci.c`, `core/bus.c`)

A function that is on a PCI bus is recorded four times: in the table `functions` of the bus, in the
device list of the `VartBus` inside it, in the `pci_bus` pointer of the function, and in the `bus`
pointer of its `VartDevice`. The header type of function 0 says whether the slot has other functions.

`BusState` keeps the device list and the `bus` pointers beside the state of the PCI core, and
`slotStep` makes the calls on one bus. Functions may be realized and unrealized in between.

* `pciBusAddDevice_marked`, `pciBusRemoveDevice_marked`: what the calls do to the header types.
* `SlotInv`: the four records agree, and the header types say what is in the slots.
* `slots_consistent`: so it is after any calls, accepted or refused.
* `slots_accepted`: the records are those of the accepted calls.
-/

namespace Vart

open Lib

/-! ## The device list -/

/-- The PCI core with the `VartBus` of one bus. -/
structure BusState where
  pci : PciState
  /-- `devices` of the `VartBus`; its `device_count` is the length. -/
  devices : List Nat
  deviceCapacity : Nat
  /-- `device->parent.bus`, as the number of the PCI bus. -/
  parentBus : Nat → Option Nat

section Calls

variable (bus : Nat)

/-- `vart_bus_add_device`; `memory` says that `realloc` succeeds. -/
def busAddDevice (s : BusState) (d : Nat) (memory : Bool) : BusState × Status :=
  let full := decide (s.devices.length = s.deviceCapacity)
  let capacity := if s.deviceCapacity = 0 then 4 else s.deviceCapacity * 2 % 2 ^ 64
  if (s.parentBus d).isSome then (s, .error .ealready)
  else if (s.pci.devices d).parent.realized then (s, .error .ebusy)
  else if full ∧ (capacity < s.deviceCapacity ∨ capacity > uint64Max / 8) then
    (s, .error .eoverflow)
  else if full ∧ !memory then (s, .error .enomem)
  else
    ({ s with
      devices := s.devices ++ [d]
      deviceCapacity := if full then capacity else s.deviceCapacity
      parentBus := Function.update s.parentBus d (some bus) }, .ok ())

/-- `vart_bus_remove_device`. -/
def busRemoveDevice (s : BusState) (d : Nat) : BusState × Status :=
  if s.parentBus d ≠ some bus then (s, .error .enoent)
  else if (s.pci.devices d).parent.realized then (s, .error .ebusy)
  else if d ∈ s.devices then
    ({ s with
      devices := s.devices.erase d
      parentBus := Function.update s.parentBus d none }, .ok ())
  else (s, .error .enoent)

/-- `vart_pci_bus_add_device`. Behind `vart_bus_add_device` the checks of `pciBusAddDevice` pass. -/
def slotAdd (s : BusState) (d : Nat) (devfn : UInt8) (memory : Bool) : BusState × Status :=
  let b := s.pci.buses bus
  if (s.pci.devices d).pciBus.isSome then (s, .error .ealready)
  else if (b.functions devfn).isSome then (s, .error .eexist)
  else if devfn &&& 0x7 ≠ 0 ∧ b.functions (function0Devfn devfn) = none then (s, .error .einval)
  else match busAddDevice bus s d memory with
    | (s, .error e) => (s, .error e)
    | (s, .ok _) => ({ s with pci := (pciBusAddDevice s.pci bus d devfn).1 }, .ok ())

/-- `vart_pci_bus_remove_device`. -/
def slotRemove (s : BusState) (d : Nat) : BusState × Status :=
  let dev := s.pci.devices d
  let b := s.pci.buses bus
  if dev.pciBus ≠ some bus ∨ b.functions dev.devfn ≠ some d then (s, .error .enoent)
  else if dev.parent.realized then (s, .error .ebusy)
  else if dev.devfn &&& 0x7 = 0 ∧ hasOtherFunction b (function0Devfn dev.devfn) = true then
    (s, .error .ebusy)
  else match busRemoveDevice bus s d with
    | (s, .error e) => (s, .error e)
    | (s, .ok _) => ({ s with pci := (pciBusRemoveDevice s.pci bus d).1 }, .ok ())

inductive SlotCall where
  | add (d : Nat) (devfn : UInt8) (memory : Bool)
  | remove (d : Nat)
  /-- `vart_device_realize` or `vart_device_unrealize`, as far as a bus reads the device. -/
  | setRealized (d : Nat) (realized : Bool)

def slotStep (s : BusState) : SlotCall → BusState
  | .add d devfn memory => (slotAdd bus s d devfn memory).1
  | .remove d => (slotRemove bus s d).1
  | .setRealized d realized =>
    { s with pci := s.pci.updateDevice d fun dev =>
      { dev with parent := { dev.parent with realized } } }

end Calls

/-- The multifunction bit of the header type. -/
def PciDevice.multifunction (dev : PciDevice) : Bool := (dev.configSpace 0x0e).toNat.testBit 7

/-- The multifunction bits of all functions. -/
def PciState.marked (s : PciState) (d : Nat) : Bool := (s.devices d).multifunction

/-! ## Slots -/

variable {devfn e f : UInt8}

theorem function0Devfn_idem (devfn : UInt8) :
    function0Devfn (function0Devfn devfn) = function0Devfn devfn := by
  obtain ⟨x⟩ := devfn
  revert x
  decide +kernel

theorem function_eq_zero_iff (devfn : UInt8) : devfn &&& 0x7 = 0 ↔ function0Devfn devfn = devfn := by
  obtain ⟨x⟩ := devfn
  revert x
  decide +kernel

/-- The other functions of a slot are function 0 and a number from 1 to 7. -/
theorem sameSlot_iff (hf : function0Devfn f = f) :
    (function0Devfn e = f ∧ e ≠ f) ↔ ∃ i, i < 7 ∧ e = f + UInt8.ofNat (i + 1) := by
  have hforward : ∀ e : UInt8, e ≠ function0Devfn e →
      ∃ i, i < 7 ∧ e = function0Devfn e + UInt8.ofNat (i + 1) := by
    intro e
    obtain ⟨x⟩ := e
    revert x
    decide +kernel
  have hback : ∀ f : UInt8, function0Devfn f = f → ∀ i, i < 7 →
      function0Devfn (f + UInt8.ofNat (i + 1)) = f ∧ f + UInt8.ofNat (i + 1) ≠ f := by
    intro f
    obtain ⟨x⟩ := f
    revert x
    decide +kernel
  constructor
  · rintro ⟨rfl, hne⟩
    exact hforward e hne
  · rintro ⟨i, hi, rfl⟩
    exact hback f hf i hi

/-- Function 0 `f` of a slot has another function beside it. -/
def OtherFunction (functions : UInt8 → Option Nat) (f : UInt8) : Prop :=
  ∃ e, (function0Devfn e = f ∧ e ≠ f) ∧ (functions e).isSome

theorem hasOtherFunction_iff {b : PciBus} (hf : function0Devfn f = f) :
    hasOtherFunction b f = true ↔ OtherFunction b.functions f := by
  simp only [hasOtherFunction, List.any_eq_true, List.mem_range, OtherFunction, sameSlot_iff hf]
  constructor
  · rintro ⟨i, hi, hsome⟩
    exact ⟨_, ⟨i, hi, rfl⟩, hsome⟩
  · rintro ⟨_, ⟨i, hi, rfl⟩, hsome⟩
    exact ⟨i, hi, hsome⟩

/-! ## Header types -/

theorem marked_updateDevice (s : PciState) (d : Nat) (f : PciDevice → PciDevice) :
    (s.updateDevice d f).marked = Function.update s.marked d (f (s.devices d)).multifunction := by
  funext x
  by_cases hx : x = d
  · subst hx
    simp [PciState.marked]
  · simp [PciState.marked, hx]

theorem marked_updateDevice_same (s : PciState) (d : Nat) {f : PciDevice → PciDevice}
    (h : (f (s.devices d)).configSpace = (s.devices d).configSpace) :
    (s.updateDevice d f).marked = s.marked := by
  rw [marked_updateDevice, PciDevice.multifunction, h]
  exact Function.update_eq_self d s.marked

/-- The header type is the low byte of what is stored. -/
theorem multifunction_configStoreLe (dev : PciDevice) (v : Nat) :
    (dev.configStoreLe 0x0e 1 v).multifunction = v.testBit 7 := by
  have hbyte : (dev.configStoreLe 0x0e 1 v).configSpace 0x0e = UInt8.ofNat v := rfl
  rw [PciDevice.multifunction, hbyte, UInt8.toNat_ofNat', Nat.testBit_mod_two_pow]
  rfl

theorem multifunction_set (dev : PciDevice) :
    (dev.configStoreLe 0x0e 1 ((dev.configSpace 0x0e).toNat ||| pciHeaderTypeMultifunction)).multifunction =
      true := by
  rw [multifunction_configStoreLe, Nat.testBit_or,
    show pciHeaderTypeMultifunction.testBit 7 = true from rfl, Bool.or_true]

theorem multifunction_clear (dev : PciDevice) :
    (dev.configStoreLe 0x0e 1
      (andNot (dev.configSpace 0x0e).toNat pciHeaderTypeMultifunction)).multifunction = false := by
  rw [multifunction_configStoreLe]
  generalize dev.configSpace 0x0e = b
  obtain ⟨x⟩ := b
  revert x
  decide +kernel

variable {bus d : Nat} {s t : PciState}

/-- Adding a function marks function 0 of its slot, unless it is function 0 itself. -/
theorem pciBusAddDevice_marked (h : pciBusAddDevice s bus d devfn = (t, .ok ())) (x : Nat) :
    t.marked x = true ↔ s.marked x = true ∨
      (function0Devfn devfn ≠ devfn ∧ s.slots bus (function0Devfn devfn) = some x) := by
  have hfunction := function_eq_zero_iff devfn
  unfold pciBusAddDevice at h
  extract_lets b dev function s₁ s₂ s₃ at h
  have hsame : s₂.marked = s.marked := by
    show s₁.marked = s.marked
    exact marked_updateDevice_same s d rfl
  split at h
  · cases h
  split at h
  · cases h
  split at h
  · cases h
  split at h
  · cases h
  have ht : t = s₃ := (Prod.mk.inj h).1.symm
  rw [ht]
  simp only [s₃]
  split
  · rename_i hnone
    rw [hsame, show s.slots bus (function0Devfn devfn) = none from hnone]
    simp
  · rename_i d0 hd0
    rw [show s.slots bus (function0Devfn devfn) = some d0 from hd0]
    split
    · rename_i hne
      have hne' : function0Devfn devfn ≠ devfn := fun he => hne (hfunction.mpr he)
      rw [marked_updateDevice, multifunction_set, hsame, Function.update_apply]
      obtain rfl | hx := eq_or_ne x d0
      · simp [hne']
      · simp [hx, hx.symm]
    · rename_i heq
      have heq' : function0Devfn devfn = devfn := hfunction.mp (not_not.mp heq)
      rw [hsame, iff_self_or]
      exact fun hne => absurd heq' hne.1

/-- Removing a function clears the mark of function 0 if no other function is left. -/
theorem pciBusRemoveDevice_marked (h : pciBusRemoveDevice s bus d = (t, .ok ())) (x : Nat) :
    t.marked x = true ↔ s.marked x = true ∧
      ¬(function0Devfn (s.hookups d).devfn ≠ (s.hookups d).devfn ∧
        t.slots bus (function0Devfn (s.hookups d).devfn) = some x ∧
        ¬ OtherFunction (t.slots bus) (function0Devfn (s.hookups d).devfn)) := by
  have hfunction := function_eq_zero_iff (s.hookups d).devfn
  unfold pciBusRemoveDevice at h
  extract_lets dev function0 function s₁ s₂ s₃ at h
  have hsame : s₂.marked = s.marked := by
    show (s₁.updateDevice d _).marked = s₁.marked
    exact marked_updateDevice_same s₁ d rfl
  split at h
  · cases h
  split at h
  · cases h
  split at h
  · cases h
  have ht : t = s₃ := (Prod.mk.inj h).1.symm
  have hslots : s₃.slots = s₂.slots := by
    simp only [s₃]
    split
    · rfl
    split
    · rfl
    · rfl
  have hother : hasOtherFunction (s₂.buses bus) function0 = true ↔
      OtherFunction (s₂.slots bus) (function0Devfn (s.hookups d).devfn) :=
    hasOtherFunction_iff (function0Devfn_idem _)
  rw [ht, hslots]
  simp only [s₃]
  split
  · rename_i hnone
    rw [hsame, show s₂.slots bus (function0Devfn (s.hookups d).devfn) = none from hnone]
    simp
  · rename_i d0 hd0
    rw [show s₂.slots bus (function0Devfn (s.hookups d).devfn) = some d0 from hd0]
    split
    · rename_i hne
      have hne' : function0Devfn (s.hookups d).devfn ≠ (s.hookups d).devfn :=
        fun he => hne.1 (hfunction.mpr he)
      have hno : ¬ OtherFunction (s₂.slots bus) (function0Devfn (s.hookups d).devfn) :=
        fun ho => Bool.false_ne_true (hne.2.symm.trans (hother.mpr ho))
      rw [marked_updateDevice, multifunction_clear, hsame, Function.update_apply]
      obtain rfl | hx := eq_or_ne x d0
      · simp [hne', hno]
      · simp [hx, hx.symm]
    · rename_i heq
      rw [hsame, iff_self_and]
      rintro - ⟨hne, -, hno⟩
      exact heq ⟨fun he => hne (hfunction.mp he),
        Bool.eq_false_iff.mpr fun ho => hno (hother.mp ho)⟩

/-! ## The invariant -/

/-- The records of bus `bus` agree: its table, its device list, the `pci_bus` and `bus` pointers, and
the header types of the functions on it and of those on no bus. -/
structure SlotInv (bus : Nat) (s : BusState) : Prop where
  table : ∀ d devfn, s.pci.slots bus devfn = some d ↔
    (s.pci.hookups d).pciBus = some bus ∧ (s.pci.hookups d).devfn = devfn
  list : ∀ d, d ∈ s.devices ↔ (s.pci.hookups d).pciBus = some bus
  nodup : s.devices.Nodup
  parent : ∀ d, s.parentBus d = some bus ↔ (s.pci.hookups d).pciBus = some bus
  zero : ∀ devfn, (s.pci.slots bus devfn).isSome → (s.pci.slots bus (function0Devfn devfn)).isSome
  marked : ∀ d, (s.pci.hookups d).pciBus = none ∨ (s.pci.hookups d).pciBus = some bus →
    (s.pci.marked d = true ↔ (s.pci.hookups d).pciBus = some bus ∧
      function0Devfn (s.pci.hookups d).devfn = (s.pci.hookups d).devfn ∧
      OtherFunction (s.pci.slots bus) (s.pci.hookups d).devfn)

/-- A bus with nothing on it; the functions that are on no bus are not marked. -/
structure EmptyBus (bus : Nat) (s : BusState) : Prop where
  table : ∀ devfn, s.pci.slots bus devfn = none
  list : s.devices = []
  offBus : ∀ d, (s.pci.hookups d).pciBus ≠ some bus
  parent : ∀ d, s.parentBus d ≠ some bus
  unmarked : ∀ d, (s.pci.hookups d).pciBus = none → s.pci.marked d = false

variable {b b' : BusState}

theorem EmptyBus.inv (h : EmptyBus bus b) : SlotInv bus b where
  table d devfn := by simp [h.table devfn, h.offBus d]
  list d := by simp [h.list, h.offBus d]
  nodup := by simp [h.list]
  parent d := by simp [h.parent d, h.offBus d]
  zero devfn := by simp [h.table devfn]
  marked d hd := by
    have hnone := hd.resolve_right (h.offBus d)
    simp [h.unmarked d hnone, h.offBus d]

/-- What an accepted `vart_pci_bus_add_device` does. -/
structure SlotAdded (bus : Nat) (b : BusState) (d : Nat) (devfn : UInt8) (b' : BusState) : Prop where
  added : Added b.pci bus d devfn b'.pci
  zero : function0Devfn devfn = devfn ∨ (b.pci.slots bus (function0Devfn devfn)).isSome
  marked : ∀ x, b'.pci.marked x = true ↔ b.pci.marked x = true ∨
    (function0Devfn devfn ≠ devfn ∧ b.pci.slots bus (function0Devfn devfn) = some x)
  devices : b'.devices = b.devices ++ [d]
  parentBus : b'.parentBus = Function.update b.parentBus d (some bus)

theorem busAddDevice_cases (bus : Nat) (b : BusState) (d : Nat) (memory : Bool) :
    (∃ e, busAddDevice bus b d memory = (b, .error e)) ∨
      ∃ b', busAddDevice bus b d memory = (b', .ok ()) ∧ b'.pci = b.pci ∧
        b'.devices = b.devices ++ [d] ∧ b'.parentBus = Function.update b.parentBus d (some bus) ∧
        (b.pci.devices d).parent.realized = false := by
  unfold busAddDevice
  extract_lets full capacity
  split
  · exact .inl ⟨_, rfl⟩
  split
  · exact .inl ⟨_, rfl⟩
  rename_i hrealized
  split
  · exact .inl ⟨_, rfl⟩
  split
  · exact .inl ⟨_, rfl⟩
  · exact .inr ⟨_, rfl, rfl, rfl, rfl, Bool.eq_false_iff.mpr hrealized⟩

theorem slotAdd_cases (bus : Nat) (b : BusState) (d : Nat) (devfn : UInt8) (memory : Bool) :
    (∃ e, slotAdd bus b d devfn memory = (b, .error e)) ∨
      ∃ b', slotAdd bus b d devfn memory = (b', .ok ()) ∧ SlotAdded bus b d devfn b' := by
  unfold slotAdd
  dsimp only
  split
  · exact .inl ⟨_, rfl⟩
  rename_i hbus
  split
  · exact .inl ⟨_, rfl⟩
  rename_i hfree
  split
  · exact .inl ⟨_, rfl⟩
  rename_i hzero
  obtain ⟨e, hlist⟩ | ⟨b', hlist, hpci, hdevices, hparent, hrealized⟩ :=
    busAddDevice_cases bus b d memory
  · rw [hlist]
    exact .inl ⟨_, rfl⟩
  rw [hlist]
  dsimp only
  rw [hpci]
  have hok : (pciBusAddDevice b.pci bus d devfn).2 = .ok () := by
    unfold pciBusAddDevice
    dsimp only
    rw [if_neg hbus, if_neg hfree, if_neg hzero, if_neg (Bool.eq_false_iff.mp hrealized)]
  obtain ⟨e, hadd⟩ | ⟨t, hadd, hadded⟩ := pciBusAddDevice_cases b.pci bus d devfn
  · rw [hadd] at hok
    cases hok
  rw [hadd]
  refine .inr ⟨_, rfl, hadded, ?_, pciBusAddDevice_marked hadd, hdevices, hparent⟩
  by_cases hf : function0Devfn devfn = devfn
  · exact .inl hf
  · refine .inr (Option.isSome_iff_ne_none.mpr fun hnone => hzero ⟨?_, hnone⟩)
    exact fun he => hf ((function_eq_zero_iff devfn).mp he)

/-- What an accepted `vart_pci_bus_remove_device` does. -/
structure SlotRemoved (bus : Nat) (b : BusState) (d : Nat) (b' : BusState) : Prop where
  onBus : (b.pci.hookups d).pciBus = some bus
  others : function0Devfn (b.pci.hookups d).devfn = (b.pci.hookups d).devfn →
    ¬ OtherFunction (b.pci.slots bus) (b.pci.hookups d).devfn
  removed : Removed b.pci bus d b'.pci
  marked : ∀ x, b'.pci.marked x = true ↔ b.pci.marked x = true ∧
    ¬(function0Devfn (b.pci.hookups d).devfn ≠ (b.pci.hookups d).devfn ∧
      b'.pci.slots bus (function0Devfn (b.pci.hookups d).devfn) = some x ∧
      ¬ OtherFunction (b'.pci.slots bus) (function0Devfn (b.pci.hookups d).devfn))
  devices : b'.devices = b.devices.erase d
  parentBus : b'.parentBus = Function.update b.parentBus d none

theorem busRemoveDevice_cases (bus : Nat) (b : BusState) (d : Nat) :
    (∃ e, busRemoveDevice bus b d = (b, .error e)) ∨
      ∃ b', busRemoveDevice bus b d = (b', .ok ()) ∧ b'.pci = b.pci ∧
        b'.devices = b.devices.erase d ∧ b'.parentBus = Function.update b.parentBus d none := by
  unfold busRemoveDevice
  split
  · exact .inl ⟨_, rfl⟩
  split
  · exact .inl ⟨_, rfl⟩
  split
  · exact .inr ⟨_, rfl, rfl, rfl, rfl⟩
  · exact .inl ⟨_, rfl⟩

theorem slotRemove_cases (bus : Nat) (b : BusState) (d : Nat) :
    (∃ e, slotRemove bus b d = (b, .error e)) ∨
      ∃ b', slotRemove bus b d = (b', .ok ()) ∧ SlotRemoved bus b d b' := by
  unfold slotRemove
  dsimp only
  split
  · exact .inl ⟨_, rfl⟩
  rename_i hon
  split
  · exact .inl ⟨_, rfl⟩
  rename_i hrealized
  split
  · exact .inl ⟨_, rfl⟩
  rename_i hother
  obtain ⟨e, hlist⟩ | ⟨b', hlist, hpci, hdevices, hparent⟩ := busRemoveDevice_cases bus b d
  · rw [hlist]
    exact .inl ⟨_, rfl⟩
  rw [hlist]
  dsimp only
  rw [hpci]
  have hok : (pciBusRemoveDevice b.pci bus d).2 = .ok () := by
    unfold pciBusRemoveDevice
    dsimp only
    rw [if_neg hon, if_neg hrealized, if_neg hother]
  obtain ⟨e, hrem, -⟩ | ⟨t, hrem, honbus, -, hremoved⟩ := pciBusRemoveDevice_cases b.pci bus d
  · rw [hrem] at hok
    cases hok
  rw [hrem]
  refine .inr ⟨_, rfl, honbus, fun hzero ho => ?_, hremoved, pciBusRemoveDevice_marked hrem,
    hdevices, hparent⟩
  have hzero' : function0Devfn (b.pci.devices d).devfn = (b.pci.devices d).devfn := hzero
  refine hother ⟨(function_eq_zero_iff _).mpr hzero', ?_⟩
  rw [hzero']
  exact (hasOtherFunction_iff hzero').mpr ho

/-! ## Steps -/

theorem Added.pciBus (h : Added s bus d devfn t) (x : Nat) :
    (t.hookups x).pciBus = if x = d then some bus else (s.hookups x).pciBus := by
  rw [h.hookups, Function.update_apply]
  split
  · rfl
  · rfl

theorem Added.devfn_eq (h : Added s bus d devfn t) (x : Nat) :
    (t.hookups x).devfn = if x = d then devfn else (s.hookups x).devfn := by
  rw [h.hookups, Function.update_apply]
  split
  · rfl
  · rfl

theorem Added.slot (h : Added s bus d devfn t) (e : UInt8) :
    t.slots bus e = if e = devfn then some d else s.slots bus e := by
  rw [h.slots, Function.update_self, Function.update_apply]

/-- A slot of an added function has the functions it had and the new one. -/
theorem Added.otherFunction (h : Added s bus d devfn t) :
    OtherFunction (t.slots bus) f ↔
      OtherFunction (s.slots bus) f ∨ (function0Devfn devfn = f ∧ devfn ≠ f) := by
  constructor
  · rintro ⟨e, hslot, hsome⟩
    rw [h.slot] at hsome
    by_cases he : e = devfn
    · exact .inr (he ▸ hslot)
    · rw [if_neg he] at hsome
      exact .inl ⟨e, hslot, hsome⟩
  · rintro (⟨e, hslot, hsome⟩ | hslot)
    · refine ⟨e, hslot, ?_⟩
      rw [h.slot]
      split
      · rfl
      · exact hsome
    · exact ⟨devfn, hslot, by rw [h.slot, if_pos rfl]; rfl⟩

theorem SlotInv.unmarked (h : SlotInv bus b) (hoff : (b.pci.hookups d).pciBus = none) :
    b.pci.marked d = false := by
  refine Bool.eq_false_iff.mpr fun hm => ?_
  have hon := ((h.marked d (.inl hoff)).mp hm).1
  rw [hoff] at hon
  cases hon

theorem SlotInv.add (h : SlotInv bus b) (ha : SlotAdded bus b d devfn b') : SlotInv bus b' := by
  have hoff := ha.added.offBus
  have hfree := ha.added.free
  have hfresh : ∀ e, b.pci.slots bus e ≠ some d := by
    intro e he
    have hon := ((h.table d e).mp he).1
    rw [hoff] at hon
    cases hon
  refine ⟨fun x e => ?_, fun x => ?_, ?_, fun x => ?_, fun e he => ?_, fun x hx => ?_⟩
  · rw [ha.added.slot, ha.added.pciBus, ha.added.devfn_eq]
    obtain rfl | hx := eq_or_ne x d
    · rw [if_pos rfl, if_pos rfl]
      obtain rfl | he := eq_or_ne e devfn
      · simp
      · simp [he, he.symm, hfresh e]
    · rw [if_neg hx, if_neg hx, ← h.table]
      obtain rfl | he := eq_or_ne e devfn
      · simp [hfree, hx.symm]
      · rw [if_neg he]
  · rw [ha.devices, List.mem_append, List.mem_singleton, h.list, ha.added.pciBus]
    by_cases hx : x = d <;> simp [hx]
  · rw [ha.devices, List.nodup_append_comm]
    refine List.nodup_cons.mpr ⟨fun hd => ?_, h.nodup⟩
    have hon := (h.list d).mp hd
    rw [hoff] at hon
    cases hon
  · rw [ha.parentBus, Function.update_apply, ha.added.pciBus]
    by_cases hx : x = d <;> simp [hx, h.parent]
  · rw [ha.added.slot] at he ⊢
    split
    · rfl
    rename_i hne
    obtain rfl | hdevfn := eq_or_ne e devfn
    · exact ha.zero.resolve_left hne
    · rw [if_neg hdevfn] at he
      exact h.zero e he
  · rw [ha.marked, ha.added.pciBus, ha.added.devfn_eq, ha.added.otherFunction]
    obtain rfl | hxd := eq_or_ne x d
    · -- The slot of a new function 0 was empty, so the function stays unmarked.
      rw [if_pos rfl, if_pos rfl, h.unmarked hoff]
      simp only [Bool.false_eq_true, false_or, true_and, hfresh, and_false, false_iff, not_and,
        not_or]
      intro hzero
      refine ⟨?_, fun _ => not_not.mpr rfl⟩
      rintro ⟨e, ⟨hslot, -⟩, hsome⟩
      have hfull := h.zero e hsome
      rw [hslot, hfree] at hfull
      cases hfull
    · rw [ha.added.pciBus, if_neg hxd] at hx
      rw [if_neg hxd, if_neg hxd, h.marked x hx, h.table]
      constructor
      · rintro (⟨hon, hzero, hother⟩ | ⟨hne, hon, hdevfn⟩)
        · exact ⟨hon, hzero, .inl hother⟩
        · rw [hdevfn]
          exact ⟨hon, function0Devfn_idem devfn, .inr ⟨rfl, hne.symm⟩⟩
      · rintro ⟨hon, hzero, hother | ⟨hdevfn, hne⟩⟩
        · exact .inl ⟨hon, hzero, hother⟩
        · exact .inr ⟨fun he => hne (he.symm.trans hdevfn), hon, hdevfn.symm⟩

theorem Removed.pciBus (h : Removed s bus d t) (x : Nat) :
    (t.hookups x).pciBus = if x = d then none else (s.hookups x).pciBus := by
  rw [h.hookups, Function.update_apply]
  split
  · rfl
  · rfl

theorem Removed.devfn_eq (h : Removed s bus d t) (x : Nat) :
    (t.hookups x).devfn = (s.hookups x).devfn := by
  rw [h.hookups, Function.update_apply]
  split
  · rename_i hx
    rw [hx]
    rfl
  · rfl

theorem Removed.slot (h : Removed s bus d t) (e : UInt8) :
    t.slots bus e = if e = (s.hookups d).devfn then none else s.slots bus e := by
  rw [h.slots, Function.update_self, Function.update_apply]

/-- A slot that the removed function was not in, or was function 0 of, has the functions it had. -/
theorem Removed.otherFunction (h : Removed s bus d t)
    (hf : ¬(function0Devfn (s.hookups d).devfn = f ∧ (s.hookups d).devfn ≠ f)) :
    OtherFunction (t.slots bus) f ↔ OtherFunction (s.slots bus) f := by
  refine exists_congr fun e => and_congr_right fun hslot => ?_
  have he : e ≠ (s.hookups d).devfn := fun he => hf (he ▸ hslot)
  rw [h.slot, if_neg he]

theorem SlotInv.remove (h : SlotInv bus b) (hr : SlotRemoved bus b d b') : SlotInv bus b' := by
  have hslot : b.pci.slots bus (b.pci.hookups d).devfn = some d := (h.table d _).mpr ⟨hr.onBus, rfl⟩
  refine ⟨fun x e => ?_, fun x => ?_, ?_, fun x => ?_, fun e he => ?_, fun x hx => ?_⟩
  · rw [hr.removed.slot, hr.removed.pciBus, hr.removed.devfn_eq]
    obtain rfl | hx := eq_or_ne x d
    · rw [if_pos rfl]
      obtain rfl | he := eq_or_ne e (b.pci.hookups x).devfn
      · simp
      · simp only [if_neg he, h.table, reduceCtorEq, false_and, iff_false, not_and]
        exact fun _ heq => he heq.symm
    · rw [if_neg hx, ← h.table]
      obtain rfl | he := eq_or_ne e (b.pci.hookups d).devfn
      · simp [hslot, hx.symm]
      · rw [if_neg he]
  · rw [hr.devices, h.nodup.mem_erase_iff, h.list, hr.removed.pciBus]
    by_cases hx : x = d <;> simp [hx]
  · rw [hr.devices]
    exact h.nodup.erase d
  · rw [hr.parentBus, Function.update_apply, hr.removed.pciBus]
    by_cases hx : x = d <;> simp [hx, h.parent]
  · rw [hr.removed.slot] at he ⊢
    split at he
    · cases he
    rename_i hne
    rw [if_neg]
    · exact h.zero e he
    · -- Function 0 is only removed from a slot of its own.
      intro hzero
      have hself : function0Devfn (b.pci.hookups d).devfn = (b.pci.hookups d).devfn :=
        hzero ▸ function0Devfn_idem e
      exact hr.others hself ⟨e, ⟨hzero, hne⟩, he⟩
  · rw [hr.marked, hr.removed.pciBus, hr.removed.devfn_eq]
    obtain rfl | hxd := eq_or_ne x d
    · rw [if_pos rfl, h.marked x (.inr hr.onBus)]
      simp only [reduceCtorEq, false_and, iff_false, not_and]
      rintro ⟨-, hzero, hother⟩
      exact absurd hother (hr.others hzero)
    · rw [hr.removed.pciBus, if_neg hxd] at hx
      rw [if_neg hxd, h.marked x hx, hr.removed.slot]
      by_cases hcase : function0Devfn (b.pci.hookups d).devfn = (b.pci.hookups x).devfn ∧
          (b.pci.hookups d).devfn ≠ (b.pci.hookups x).devfn
      · -- `x` is function 0 of the slot, and was marked because of `d`.
        obtain ⟨hdevfn, hne⟩ := hcase
        have hne' : function0Devfn (b.pci.hookups d).devfn ≠ (b.pci.hookups d).devfn :=
          fun he => hne (he.symm.trans hdevfn)
        rw [if_neg hne', h.table, hdevfn]
        constructor
        · rintro ⟨⟨hon, hzero, -⟩, hkept⟩
          refine ⟨hon, hzero, not_not.mp fun hno => hkept ⟨?_, ⟨hon, rfl⟩, hno⟩⟩
          exact hdevfn ▸ hne'
        · rintro ⟨hon, hzero, hother⟩
          refine ⟨⟨hon, hzero, _, ⟨hdevfn, hne⟩, by rw [hslot]; rfl⟩, fun hkept => ?_⟩
          exact hkept.2.2 hother
      · rw [← hr.removed.otherFunction hcase, and_iff_left_iff_imp]
        rintro - ⟨hne, hsome, -⟩
        rw [if_neg hne, h.table] at hsome
        exact hcase ⟨hsome.2.symm, fun he => hne (hsome.2.symm.trans he.symm)⟩

/-- The records do not depend on what is realized. -/
theorem SlotInv.setRealized (h : SlotInv bus b) (d : Nat) (realized : Bool) :
    SlotInv bus { b with pci := b.pci.updateDevice d fun dev =>
      { dev with parent := { dev.parent with realized } } } := by
  generalize hpci : (b.pci.updateDevice d fun dev =>
    { dev with parent := { dev.parent with realized } }) = pci
  have hhookups : pci.hookups =
      Function.update b.pci.hookups d ((b.pci.hookups d).setRealized realized) :=
    hpci ▸ hookups_updateDevice b.pci d _
  have hbus : ∀ x, (pci.hookups x).pciBus = (b.pci.hookups x).pciBus := by
    intro x
    rw [hhookups, Function.update_apply]
    split
    · rename_i hx
      rw [hx]
      rfl
    · rfl
  have hdevfn : ∀ x, (pci.hookups x).devfn = (b.pci.hookups x).devfn := by
    intro x
    rw [hhookups, Function.update_apply]
    split
    · rename_i hx
      rw [hx]
      rfl
    · rfl
  have hslots : pci.slots = b.pci.slots := hpci ▸ rfl
  have hmarked : pci.marked = b.pci.marked := hpci ▸ marked_updateDevice_same b.pci d rfl
  refine ⟨?_, ?_, h.nodup, ?_, ?_, ?_⟩
  · simpa only [hbus, hdevfn, hslots] using h.table
  · simpa only [hbus] using h.list
  · simpa only [hbus] using h.parent
  · simpa only [hslots] using h.zero
  · simpa only [hbus, hdevfn, hslots, hmarked] using h.marked

/-- Step lemma. -/
theorem SlotInv.step (h : SlotInv bus b) (call : SlotCall) : SlotInv bus (slotStep bus b call) := by
  cases call with
  | add d devfn memory =>
    rw [slotStep]
    obtain ⟨e, hadd⟩ | ⟨b', hadd, hadded⟩ := slotAdd_cases bus b d devfn memory
    · rw [hadd]
      exact h
    · rw [hadd]
      exact h.add hadded
  | remove d =>
    rw [slotStep]
    obtain ⟨e, hremove⟩ | ⟨b', hremove, hremoved⟩ := slotRemove_cases bus b d
    · rw [hremove]
      exact h
    · rw [hremove]
      exact h.remove hremoved
  | setRealized d realized => exact h.setRealized d realized

/-- Run lemma. -/
theorem SlotInv.run (h : SlotInv bus b) (calls : List SlotCall) :
    SlotInv bus (runFrom (slotStep bus) b calls) := by
  induction calls generalizing b with
  | nil => exact h
  | cons call calls ih => exact ih (h.step call)

/-- After any calls on a bus that was empty, accepted or refused: a slot with some function has
function 0; the header type of function 0 has bit 7 set exactly if another function of the slot is
present; and the table of functions, the device list, the pointers of the functions to the bus and
their slots describe the same functions, each once. -/
theorem slots_consistent (hempty : EmptyBus bus b) (calls : List SlotCall) :
    let t := runFrom (slotStep bus) b calls
    let functions := (t.pci.buses bus).functions
    (∀ devfn, (functions devfn).isSome → (functions (function0Devfn devfn)).isSome) ∧
    (∀ devfn d, devfn &&& 0x7 = 0 → functions devfn = some d →
      ((t.pci.devices d).multifunction = true ↔
        ∃ i, i < 7 ∧ (functions (devfn + UInt8.ofNat (i + 1))).isSome)) ∧
    (∀ d devfn, functions devfn = some d ↔
      (t.pci.devices d).pciBus = some bus ∧ (t.pci.devices d).devfn = devfn) ∧
    (∀ d, d ∈ t.devices ↔ (t.pci.devices d).pciBus = some bus) ∧
    (∀ d, t.parentBus d = some bus ↔ (t.pci.devices d).pciBus = some bus) ∧
    t.devices.Nodup := by
  intro t functions
  have h : SlotInv bus t := hempty.inv.run calls
  refine ⟨h.zero, fun devfn d hfunction hd => ?_, h.table, h.list, h.parent, h.nodup⟩
  have hzero := (function_eq_zero_iff devfn).mp hfunction
  obtain ⟨hon, hdevfn⟩ := (h.table d devfn).mp hd
  have hmarked := h.marked d (.inr hon)
  rw [hdevfn, and_iff_right hon, and_iff_right hzero] at hmarked
  refine hmarked.trans ?_
  simp only [OtherFunction, sameSlot_iff hzero]
  constructor
  · rintro ⟨_, ⟨i, hi, rfl⟩, hsome⟩
    exact ⟨i, hi, hsome⟩
  · rintro ⟨i, hi, hsome⟩
    exact ⟨_, ⟨i, hi, rfl⟩, hsome⟩

/-! ## The accepted calls -/

/-- What a call leaves on a bus that had `fns`: an accepted add puts a function with its number
behind the others, and an accepted remove takes it away. -/
def SlotCall.leaves (bus : Nat) (b : BusState) (fns : List (Nat × UInt8)) :
    SlotCall → List (Nat × UInt8)
  | .add d devfn memory =>
    if (slotAdd bus b d devfn memory).2.toBool then fns ++ [(d, devfn)] else fns
  | .remove d => if (slotRemove bus b d).2.toBool then fns.filter (·.1 != d) else fns
  | .setRealized .. => fns

/-- What a list of calls leaves. -/
def acceptedAlong (bus : Nat) : BusState → List (Nat × UInt8) → List SlotCall → List (Nat × UInt8)
  | _, fns, [] => fns
  | b, fns, call :: calls => acceptedAlong bus (slotStep bus b call) (call.leaves bus b fns) calls

/-- The records of the bus are those of `fns`. -/
structure Records (bus : Nat) (b : BusState) (fns : List (Nat × UInt8)) : Prop where
  devices : b.devices = fns.map Prod.fst
  slots : ∀ d devfn, b.pci.slots bus devfn = some d ↔ (d, devfn) ∈ fns

variable {fns : List (Nat × UInt8)}

theorem Records.add (h : Records bus b fns) (ha : SlotAdded bus b d devfn b') :
    Records bus b' (fns ++ [(d, devfn)]) := by
  refine ⟨by rw [ha.devices, h.devices, List.map_append]; rfl, fun x e => ?_⟩
  rw [ha.added.slot, List.mem_append, ← h.slots, List.mem_singleton, Prod.mk.injEq]
  by_cases he : e = devfn
  · have hfree : b.pci.slots bus devfn = none := ha.added.free
    simp [he, hfree, eq_comm]
  · simp [he]

theorem Records.remove (h : Records bus b fns) (hinv : SlotInv bus b)
    (hr : SlotRemoved bus b d b') : Records bus b' (fns.filter (·.1 != d)) := by
  constructor
  · rw [hr.devices, hinv.nodup.erase_eq_filter, h.devices, List.filter_map]
    rfl
  · intro x e
    rw [hr.removed.slot, List.mem_filter, ← h.slots]
    by_cases he : e = (b.pci.hookups d).devfn
    · rw [if_pos he, he, (hinv.table d _).mpr ⟨hr.onBus, rfl⟩]
      refine ⟨nofun, ?_⟩
      rintro ⟨hx, hne⟩
      exact absurd (Option.some.inj hx).symm (bne_iff_ne.mp hne)
    · rw [if_neg he]
      refine ⟨fun hslot => ⟨hslot, bne_iff_ne.mpr ?_⟩, And.left⟩
      rintro rfl
      exact he ((hinv.table x e).mp hslot).2.symm

/-- Step lemma. -/
theorem Records.step (h : Records bus b fns) (hinv : SlotInv bus b) (call : SlotCall) :
    Records bus (slotStep bus b call) (call.leaves bus b fns) := by
  cases call with
  | add d devfn memory =>
    rw [slotStep, SlotCall.leaves]
    obtain ⟨e, hadd⟩ | ⟨b', hadd, hadded⟩ := slotAdd_cases bus b d devfn memory
    · rw [hadd]
      exact h
    · rw [hadd]
      exact h.add hadded
  | remove d =>
    rw [slotStep, SlotCall.leaves]
    obtain ⟨e, hremove⟩ | ⟨b', hremove, hremoved⟩ := slotRemove_cases bus b d
    · rw [hremove]
      exact h
    · rw [hremove]
      exact h.remove hinv hremoved
  | setRealized d realized => exact ⟨h.devices, h.slots⟩

/-- Run lemma. -/
theorem Records.run (h : Records bus b fns) (hinv : SlotInv bus b) (calls : List SlotCall) :
    Records bus (runFrom (slotStep bus) b calls) (acceptedAlong bus b fns calls) := by
  induction calls generalizing b fns with
  | nil => exact h
  | cons call calls ih => exact ih (h.step hinv call) (hinv.step call)

/-- After any calls the device list and the table have the functions of the accepted adds that were
not removed, in the order of the adds and with the numbers they were added with. -/
theorem slots_accepted (hempty : EmptyBus bus b) (calls : List SlotCall) :
    Records bus (runFrom (slotStep bus) b calls) (acceptedAlong bus b [] calls) := by
  refine Records.run ⟨?_, fun d devfn => ?_⟩ hempty.inv calls
  · rw [hempty.list]
    rfl
  · simp [hempty.table devfn]

/-- The root bus with nothing on it, and network functions to put on it. -/
def emptyRootBus : BusState where
  pci := { PciState.init ramAtDram with devices := fun _ => pciDeviceInit 0x1af4 0x1041 1 0 0 2 }
  devices := []
  deviceCapacity := 0
  parentBus := fun _ => none

theorem emptyRootBus_empty : EmptyBus 0 emptyRootBus where
  table _ := rfl
  list := rfl
  offBus _ := nofun
  parent _ := nofun
  unmarked _ _ := by
    show (pciDeviceInit 0x1af4 0x1041 1 0 0 2).multifunction = false
    decide +kernel

/-- Functions 0 and 2 of slot 1, an attempt to remove function 0, and one to use slot 2 without a
function 0. -/
def twoFunctionCalls : List SlotCall :=
  [.add 7 0x08 true, .add 5 0x0a true, .remove 7, .add 3 0x11 true]

theorem twoFunctions_marked :
    let t := runFrom (slotStep 0) emptyRootBus twoFunctionCalls
    t.devices = [7, 5] ∧ (t.pci.devices 7).multifunction = true := by
  have hslots := slots_consistent emptyRootBus_empty twoFunctionCalls
  refine ⟨by decide +kernel, (hslots.2.1 0x08 7 (by decide) ?_).mpr ⟨1, by decide, ?_⟩⟩
  · decide +kernel
  · decide +kernel

end Vart
