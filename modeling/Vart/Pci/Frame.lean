import Vart.Pci.Machine

/-!
# What the parts of the PCI core leave alone

An erasure replaces the fields that a group of functions may change by fixed values; two states
with equal erasures differ in those fields only.

* `mapErase`: mapping and unmapping change the address space, the address, `mapped` and `probe` of
  BARs, the BAR registers, `msix.mapped` and the allocation pointers of buses.
* `idErase`: renumbering changes requester IDs only.
* `ancestorErase`: `pciBusUpdateAncestors` changes subordinate numbers and register `0x1a`.
-/

namespace Vart

open Lib

/-! ## Single updates -/

@[simp] theorem updateDevice_devices (s : PciState) (d : Nat) (f : PciDevice → PciDevice) :
    (s.updateDevice d f).devices = Function.update s.devices d (f (s.devices d)) := rfl

@[simp] theorem updateDevice_buses (s : PciState) (d : Nat) (f : PciDevice → PciDevice) :
    (s.updateDevice d f).buses = s.buses := rfl

@[simp] theorem updateDevice_memory (s : PciState) (d : Nat) (f : PciDevice → PciDevice) :
    (s.updateDevice d f).memory = s.memory := rfl

@[simp] theorem updateDevice_busCount (s : PciState) (d : Nat) (f : PciDevice → PciDevice) :
    (s.updateDevice d f).busCount = s.busCount := rfl

@[simp] theorem updateDevice_log (s : PciState) (d : Nat) (f : PciDevice → PciDevice) :
    (s.updateDevice d f).log = s.log := rfl

@[simp] theorem updateBus_devices (s : PciState) (b : Nat) (f : PciBus → PciBus) :
    (s.updateBus b f).devices = s.devices := rfl

@[simp] theorem updateBus_buses (s : PciState) (b : Nat) (f : PciBus → PciBus) :
    (s.updateBus b f).buses = Function.update s.buses b (f (s.buses b)) := rfl

@[simp] theorem updateBus_memory (s : PciState) (b : Nat) (f : PciBus → PciBus) :
    (s.updateBus b f).memory = s.memory := rfl

@[simp] theorem updateBus_log (s : PciState) (b : Nat) (f : PciBus → PciBus) :
    (s.updateBus b f).log = s.log := rfl

/-- A function of each device is unchanged by an update that keeps it. -/
theorem map_update_eq {α β : Type} (g : α → β) (f : Nat → α) (k : Nat) (x : α) (h : g x = g (f k)) :
    (fun i => g (Function.update f k x i)) = fun i => g (f i) := by
  funext i
  by_cases hi : i = k
  · subst hi; rw [Function.update_self, h]
  · rw [Function.update_of_ne hi]

/-! ## Mapping -/

def PciBar.mapErase (bar : PciBar) : PciBar :=
  { bar with address := 0, mapped := false, probe := false }

/-- The configuration space without the BAR registers. A 64-bit BAR that starts at the last
register would reach `0x2b`. -/
def barConfigErase (config : Store) : Store := fun x =>
  if 0x10 ≤ x ∧ x < 0x2c then 0 else config x

def PciDevice.mapErase (dev : PciDevice) : PciDevice :=
  { dev with
    bars := fun i => (dev.bars i).mapErase
    configSpace := barConfigErase dev.configSpace
    msix := { dev.msix with mapped := false } }

def PciBus.mapErase (b : PciBus) : PciBus := { b with mmioNext := 0, prefetchMmioNext := 0 }

def PciState.mapErase (s : PciState) : PciState :=
  { s with
    devices := fun d => (s.devices d).mapErase
    buses := fun b => (s.buses b).mapErase
    memory := { s.memory with space := .empty } }

/-- The states differ only in what mapping changes. -/
def MapSame (s t : PciState) : Prop := t.mapErase = s.mapErase

theorem MapSame.refl (s : PciState) : MapSame s s := rfl

theorem MapSame.trans {s t u : PciState} (h : MapSame s t) (h' : MapSame t u) : MapSame s u :=
  Eq.trans h' h

theorem MapSame.device {s t : PciState} (h : MapSame s t) (d : Nat) :
    (t.devices d).mapErase = (s.devices d).mapErase :=
  congrFun (congrArg PciState.devices h) d

theorem MapSame.bus {s t : PciState} (h : MapSame s t) (b : Nat) :
    (t.buses b).mapErase = (s.buses b).mapErase :=
  congrFun (congrArg PciState.buses h) b

theorem MapSame.log {s t : PciState} (h : MapSame s t) : t.log = s.log :=
  (congrArg PciState.log h :)

theorem MapSame.busPath {s t : PciState} (h : MapSame s t) (bus : Option Nat) :
    busPath t bus = busPath s bus := by
  have hparent : ∀ b, (t.buses b).parentPciBus = (s.buses b).parentPciBus := fun b =>
    (congrArg PciBus.parentPciBus (h.bus b) :)
  unfold Vart.busPath
  rw [show t.busCount = s.busCount from (congrArg PciState.busCount h :)]
  generalize s.busCount = fuel
  induction fuel generalizing bus with
  | zero => rfl
  | succ n ih =>
    cases bus with
    | none => rfl
    | some b => rw [busAncestors, busAncestors, hparent, ih]

theorem MapSame.window {s t : PciState} (h : MapSame s t) (b : Nat) (prefetch : Bool) :
    (t.buses b).window prefetch = (s.buses b).window prefetch := by
  have hb := h.bus b
  cases prefetch
  · exact Prod.ext (congrArg PciBus.mmioBase hb :) (congrArg PciBus.mmioSize hb :)
  · exact Prod.ext (congrArg PciBus.prefetchMmioBase hb :) (congrArg PciBus.prefetchMmioSize hb :)

theorem MapSame.pciBus {s t : PciState} (h : MapSame s t) (d : Nat) :
    (t.devices d).pciBus = (s.devices d).pciBus :=
  (congrArg PciDevice.pciBus (h.device d) :)

theorem MapSame.bar {s t : PciState} (h : MapSame s t) (d i : Nat) :
    ((t.devices d).bars i).mapErase = ((s.devices d).bars i).mapErase :=
  (congrFun (congrArg PciDevice.bars (h.device d)) i :)

theorem MapSame.implemented {s t : PciState} (h : MapSame s t) (d i : Nat) :
    ((t.devices d).bars i).implemented = ((s.devices d).bars i).implemented :=
  (congrArg PciBar.implemented (h.bar d i) :)

/-- `[base, base + size)` is inside a window that serves a BAR of device `d`: a window of the bus of
`d` or of an ancestor, of the kind of an implemented BAR. -/
def InPathWindow (s : PciState) (d base size : Nat) : Prop :=
  ∃ b ∈ busPath s (s.devices d).pciBus, ∃ i, ((s.devices d).bars i).implemented = true ∧
    let w := (s.buses b).window ((s.devices d).bars i).prefetchable
    w.2 ≠ 0 ∧ w.1 ≤ base ∧ base + size ≤ w.1 + w.2

theorem MapSame.inPathWindow {s t : PciState} (h : MapSame s t) {d base size : Nat}
    (hw : InPathWindow t d base size) : InPathWindow s d base size := by
  obtain ⟨b, hb, i, himpl, hrest⟩ := hw
  have hflags : ((t.devices d).bars i).prefetchable = ((s.devices d).bars i).prefetchable := by
    unfold PciBar.prefetchable
    rw [show ((t.devices d).bars i).flags = ((s.devices d).bars i).flags from
      (congrArg PciBar.flags (h.bar d i) :)]
  rw [h.pciBus, h.busPath] at hb
  rw [h.implemented] at himpl
  rw [hflags, h.window] at hrest
  exact ⟨b, hb, i, himpl, hrest⟩

/-- What mapping and unmapping for device `d` can do: change what `MapSame` allows, and put only
such BAR regions into the address space that a window for `d` contains. -/
structure MapStep (d : Nat) (s t : PciState) : Prop where
  same : MapSame s t
  bars : ∀ r ∈ t.memory.space.regions, ∀ d' i, r.id = .bar d' i →
    r ∈ s.memory.space.regions ∨ InPathWindow s d r.base r.size

namespace MapStep

theorem refl (d : Nat) (s : PciState) : MapStep d s s := ⟨.refl s, fun _ hr _ _ _ => .inl hr⟩

theorem trans {d : Nat} {s t u : PciState} (h : MapStep d s t) (h' : MapStep d t u) :
    MapStep d s u := by
  refine ⟨h.same.trans h'.same, fun r hr d' i hid => ?_⟩
  rcases h'.bars r hr d' i hid with hr | hw
  · exact h.bars r hr d' i hid
  · exact .inr (h.same.inPathWindow hw)

theorem of_memory_eq {d : Nat} {s t : PciState} (h : MapSame s t) (hm : t.memory = s.memory) :
    MapStep d s t :=
  ⟨h, fun _ hr _ _ _ => .inl (hm ▸ hr)⟩

theorem updateDevice (d : Nat) {s : PciState} {d' : Nat} {f : PciDevice → PciDevice}
    (h : (f (s.devices d')).mapErase = (s.devices d').mapErase) :
    MapStep d s (s.updateDevice d' f) := by
  refine of_memory_eq ?_ rfl
  simp only [MapSame, PciState.mapErase, PciState.updateDevice]
  rw [map_update_eq PciDevice.mapErase s.devices d' _ h]

theorem updateBus (d : Nat) {s : PciState} {b : Nat} {f : PciBus → PciBus}
    (h : (f (s.buses b)).mapErase = (s.buses b).mapErase) : MapStep d s (s.updateBus b f) := by
  refine of_memory_eq ?_ rfl
  simp only [MapSame, PciState.mapErase, PciState.updateBus]
  rw [map_update_eq PciBus.mapErase s.buses b _ h]

theorem removeRegion (d : Nat) (s : PciState) (id : RegionId) : MapStep d s (s.removeRegion id) :=
  ⟨rfl, fun _ hr _ _ _ => .inl (List.mem_filter.mp hr).1⟩

end MapStep

theorem mapErase_updateBar {dev : PciDevice} {index : Nat} {f : PciBar → PciBar}
    (h : (f (dev.bars index)).mapErase = (dev.bars index).mapErase) :
    (dev.updateBar index f).mapErase = dev.mapErase := by
  simp only [PciDevice.mapErase, PciDevice.updateBar]
  rw [map_update_eq PciBar.mapErase dev.bars index _ h]

theorem mapErase_configStoreLe {dev : PciDevice} {offset size value : Nat} (h1 : 0x10 ≤ offset)
    (h2 : offset + size ≤ 0x2c) : (dev.configStoreLe offset size value).mapErase = dev.mapErase := by
  have hconfig : barConfigErase (dev.configSpace.write offset (storeLe size value)) =
      barConfigErase dev.configSpace := by
    funext x
    simp only [barConfigErase]
    split
    · rfl
    · exact Store.write_out _ (by rw [length_storeLe]; omega)
  simp only [PciDevice.mapErase, PciDevice.configStoreLe, hconfig]

theorem mapErase_barUpdateConfig {dev : PciDevice} {index : Nat} (h : index < pciBarCount) :
    (pciBarUpdateConfig dev index).mapErase = dev.mapErase := by
  simp only [pciBarCount] at h
  simp only [pciBarUpdateConfig]
  split
  · rw [mapErase_configStoreLe (by omega) (by omega), mapErase_configStoreLe (by omega) (by omega)]
  · rw [mapErase_configStoreLe (by omega) (by omega)]

/-- A region added to the address space: where it is. -/
theorem PciState.addMmio_ok {s t : PciState} {id : RegionId} {base size : Nat} {priority : Int}
    (h : s.addMmio id base size priority = .ok t) : size ≠ 0 ∧ ∃ space : AddressSpace,
      space.regions = s.memory.space.regions ++ [⟨id, base, size, priority, .mmio, true, false⟩] ∧
        t = s.setSpace space := by
  unfold addMmio addressRegionInitMmio at h
  split at h
  · cases h
  rename_i region hregion
  split at hregion
  · cases hregion
  rename_i hsize
  cases hregion
  split at h
  · cases h
  · rename_i space hspace
    cases h
    exact ⟨fun h0 => hsize (.inl h0), space, AddressSpace.add_ok hspace, rfl⟩

/-- A region that is not a BAR. -/
theorem MapStep.addMmio (d : Nat) {s t : PciState} {id : RegionId} {base size : Nat} {priority : Int}
    (h : s.addMmio id base size priority = .ok t) (hid : ∀ d' i, id ≠ .bar d' i) :
    MapStep d s t := by
  obtain ⟨-, space, hspace, rfl⟩ := PciState.addMmio_ok h
  refine ⟨rfl, fun r hr d' i hr' => ?_⟩
  simp only [PciState.setSpace, hspace, List.mem_append, List.mem_singleton] at hr
  rcases hr with hr | rfl
  · exact .inl hr
  · exact absurd hr' (hid d' i)

/-- A window that contains the range `[address, last]`. -/
theorem pciBusWindowContains_exists {s : PciState} {bus : Option Nat} {prefetch : Bool}
    {address last : Nat} (h : pciBusWindowContains s bus prefetch address last = true) :
    ∃ b ∈ busPath s bus, ((s.buses b).window prefetch).2 ≠ 0 ∧
      ((s.buses b).window prefetch).1 ≤ address ∧
      last < ((s.buses b).window prefetch).1 + ((s.buses b).window prefetch).2 := by
  obtain ⟨b, hb, hc⟩ := List.any_eq_true.mp h
  simp only [PciBus.windowContains, Bool.and_eq_true, decide_eq_true_eq] at hc
  exact ⟨b, hb, hc.1.1.1, hc.1.2, hc.2⟩

theorem mapStep_pciBarMap {s : PciState} {d index : Nat} (address : Nat)
    (himpl : ((s.devices d).bars index).implemented = true) :
    MapStep d s (pciBarMap s d index address).1 := by
  unfold pciBarMap
  simp only
  split
  · exact .refl d s
  split
  · exact .refl d s
  rename_i hwindow
  split
  · exact .refl d s
  rename_i t ht
  dsimp only
  refine MapStep.trans ?_ (.updateDevice d (mapErase_updateBar rfl))
  obtain ⟨hsize, space, hspace, rfl⟩ := PciState.addMmio_ok ht
  refine ⟨rfl, fun r hr d' i hid => ?_⟩
  simp only [PciState.setSpace, hspace, List.mem_append, List.mem_singleton] at hr
  rcases hr with hr | rfl
  · exact .inl hr
  · obtain ⟨b, hb, hne, hlo, hhi⟩ := pciBusWindowContains_exists (by simpa using hwindow)
    refine .inr ⟨b, hb, index, himpl, hne, hlo, ?_⟩
    dsimp only
    omega

theorem mapStep_of_pciBarMap {s t : PciState} {d index address : Nat} {st : Status}
    (h : pciBarMap s d index address = (t, st))
    (himpl : ((s.devices d).bars index).implemented = true) : MapStep d s t := by
  have := mapStep_pciBarMap address himpl
  rwa [h] at this

theorem mapStep_pciBarUnmap (s : PciState) (d index : Nat) :
    MapStep d s (pciBarUnmap s d index) := by
  unfold pciBarUnmap
  split
  · exact (MapStep.removeRegion d s _).trans (.updateDevice d (mapErase_updateBar rfl))
  · exact .refl d s

theorem mapStep_updateMsix_mapped (s : PciState) (d : Nat) (mapped : Bool) :
    MapStep d s (s.updateMsix d fun msix => { msix with mapped }) :=
  .updateDevice d rfl

theorem mapStep_pciMsixUnmap (s : PciState) (d : Nat) : MapStep d s (pciMsixUnmap s d) := by
  unfold pciMsixUnmap
  split
  · exact ((MapStep.removeRegion d s _).trans (.removeRegion d _ _)).trans
      (mapStep_updateMsix_mapped _ d false)
  · exact .refl d s

theorem mapStep_pciMsixMap (s : PciState) (d : Nat) : MapStep d s (pciMsixMap s d).1 := by
  unfold pciMsixMap
  simp only
  split
  · exact .refl d s
  split
  · exact .refl d s
  split
  · exact .refl d s
  split
  · exact .refl d s
  rename_i t ht
  have htable := MapStep.addMmio d ht (fun _ _ => by simp)
  split
  · exact htable.trans (.removeRegion d t _)
  · rename_i u hu
    exact (htable.trans (.addMmio d hu fun _ _ => by simp)).trans (mapStep_updateMsix_mapped _ d true)

theorem mapStep_pciUnmapBars (s : PciState) (d : Nat) (indices : List Nat) :
    MapStep d s (pciUnmapBars s d indices) := by
  induction indices generalizing s with
  | nil => exact .refl d s
  | cons i is ih => exact (mapStep_pciBarUnmap s d i).trans (ih _)

theorem mapStep_pciDeviceDisableMemory (s : PciState) (d : Nat) :
    MapStep d s (pciDeviceDisableMemory s d) :=
  (mapStep_pciMsixUnmap s d).trans (mapStep_pciUnmapBars _ d _)

theorem mapStep_pciEnableBars (s : PciState) (d : Nat) (indices : List Nat) :
    MapStep d s (pciEnableBars s d indices).1 := by
  induction indices generalizing s with
  | nil => exact .refl d s
  | cons i is ih =>
    unfold pciEnableBars
    simp only
    split
    · exact ih s
    rename_i hbar
    simp only [Bool.or_eq_true, Bool.not_eq_true', not_or, Bool.not_eq_false] at hbar
    split
    · rename_i t e ht
      exact mapStep_of_pciBarMap ht hbar.1.1
    · rename_i t u ht
      exact (mapStep_of_pciBarMap ht hbar.1.1).trans (ih t)

theorem mapStep_pciDeviceEnableMemory (s : PciState) (d : Nat) :
    MapStep d s (pciDeviceEnableMemory s d).1 := by
  have hbars := mapStep_pciEnableBars s d (List.range pciBarCount)
  unfold pciDeviceEnableMemory
  split
  · rename_i t e ht
    rw [ht] at hbars
    exact hbars.trans (mapStep_pciDeviceDisableMemory t d)
  rename_i t u ht
  rw [ht] at hbars
  have hmsix := hbars.trans (mapStep_pciMsixMap t d)
  split
  · rename_i v e hv
    rw [hv] at hmsix
    exact hmsix.trans (mapStep_pciDeviceDisableMemory v d)
  · rename_i v w hv
    rw [hv] at hmsix
    exact hmsix

theorem mapStep_pciBarRestore {s : PciState} {d index : Nat} (oldAddress : Nat)
    (oldMapped msixMapped : Bool) (himpl : ((s.devices d).bars index).implemented = true) :
    MapStep d s (pciBarRestore s d index oldAddress oldMapped msixMapped) := by
  unfold pciBarRestore
  split
  · split
    · rename_i t e ht
      exact mapStep_of_pciBarMap ht himpl
    · rename_i t u ht
      split
      · exact (mapStep_of_pciBarMap ht himpl).trans (mapStep_pciMsixMap t d)
      · exact mapStep_of_pciBarMap ht himpl
  · exact .refl d s

theorem mapStep_pciBarRelocate {s : PciState} {d index : Nat} (address : Nat)
    (hi : index < pciBarCount) (himpl : ((s.devices d).bars index).implemented = true) :
    MapStep d s (pciBarRelocate s d index address).1 := by
  unfold pciBarRelocate
  simp only
  split
  · dsimp only
    apply MapStep.updateDevice
    rw [mapErase_barUpdateConfig hi]
    exact mapErase_updateBar rfl
  generalize ((s.devices d).msix.mapped && pciMsixUsesBar (s.devices d) index) = msixMapped
  have hunmap : MapStep d s (pciBarUnmap (if msixMapped then pciMsixUnmap s d else s) d index) := by
    refine MapStep.trans ?_ (mapStep_pciBarUnmap _ d index)
    cases msixMapped
    · exact .refl d s
    · exact mapStep_pciMsixUnmap s d
  generalize pciBarUnmap (if msixMapped then pciMsixUnmap s d else s) d index = t at hunmap
  have hmap := hunmap.trans (mapStep_pciBarMap address ((hunmap.same.implemented d index).trans himpl))
  split
  · rename_i u e hu
    rw [hu] at hmap
    exact hmap.trans (mapStep_pciBarRestore _ _ _ ((hmap.same.implemented d index).trans himpl))
  rename_i u x hu
  rw [hu] at hmap
  have hmsix : MapStep d s (if msixMapped then pciMsixMap u d else (u, .ok ())).1 := by
    cases msixMapped
    · exact hmap
    · exact hmap.trans (mapStep_pciMsixMap u d)
  split
  · rename_i v e hv
    rw [hv] at hmsix
    have hback := hmsix.trans (mapStep_pciBarUnmap v d index)
    exact hback.trans (mapStep_pciBarRestore _ _ _ ((hback.same.implemented d index).trans himpl))
  · rename_i v y hv
    rw [hv] at hmsix
    refine hmsix.trans ?_
    dsimp only
    exact .updateDevice d (mapErase_barUpdateConfig hi)

theorem mapStep_pciBarWrite {s : PciState} {d index : Nat} (value : Nat) (high : Bool)
    (hi : index < pciBarCount) (himpl : ((s.devices d).bars index).implemented = true) :
    MapStep d s (pciBarWrite s d index high value).1 := by
  unfold pciBarWrite
  split
  · dsimp only
    exact .updateDevice d (mapErase_updateBar rfl)
  · have hprobe : MapStep d s
        (s.updateDevice d (·.updateBar index fun bar => { bar with probe := false })) :=
      .updateDevice d (mapErase_updateBar rfl)
    exact hprobe.trans (mapStep_pciBarRelocate _ hi ((hprobe.same.implemented d index).trans himpl))

theorem mapErase_setWindowNext (b : PciBus) (prefetch : Bool) (next : Nat) :
    (b.setWindowNext prefetch next).mapErase = b.mapErase := by
  unfold PciBus.setWindowNext
  split <;> rfl

theorem mapStep_pciRealizeBars (s : PciState) (d bus : Nat) (indices : List Nat)
    (h : ∀ i ∈ indices, i < pciBarCount) : MapStep d s (pciRealizeBars s d bus indices).1 := by
  induction indices generalizing s with
  | nil => exact .refl d s
  | cons i is ih =>
    have his : ∀ j ∈ is, j < pciBarCount := fun j hj => h j (List.mem_cons_of_mem _ hj)
    unfold pciRealizeBars
    simp only
    split
    · exact ih s his
    rename_i hbar
    simp only [Bool.or_eq_true, Bool.not_eq_true', not_or, Bool.not_eq_false] at hbar
    split
    · exact .refl d s
    split
    · exact .refl d s
    split
    · rename_i t e ht
      exact mapStep_of_pciBarMap ht hbar.1
    · rename_i t u ht
      refine MapStep.trans ?_ (ih _ his)
      refine MapStep.trans ?_ (.updateDevice d (mapErase_barUpdateConfig (h i List.mem_cons_self)))
      refine MapStep.trans ?_ (.updateBus d (mapErase_setWindowNext ..))
      exact mapStep_of_pciBarMap ht hbar.1

theorem mapStep_pciRealizeFail (s : PciState) (d bus : Nat) (old : PciBus) :
    MapStep d s (pciRealizeFail s d bus old) :=
  (mapStep_pciDeviceDisableMemory s d).trans (.updateBus d rfl)

theorem mapStep_pciDeviceRealizeOp (s : PciState) (d : Nat) :
    MapStep d s (pciDeviceRealizeOp s d).1 := by
  unfold pciDeviceRealizeOp
  split
  · exact .refl d s
  rename_i bus hbus
  have hbars := mapStep_pciRealizeBars s d bus (List.range pciBarCount)
    fun i hi => List.mem_range.mp hi
  simp only
  split
  · rename_i t e ht
    rw [ht] at hbars
    exact hbars.trans (mapStep_pciRealizeFail t d bus _)
  rename_i t u ht
  rw [ht] at hbars
  have hmsix := hbars.trans (mapStep_pciMsixMap t d)
  split
  · rename_i v e hv
    rw [hv] at hmsix
    exact hmsix.trans (mapStep_pciRealizeFail v d bus _)
  · rename_i v w hv
    rw [hv] at hmsix
    simp only
    split
    · exact hmsix
    · exact hmsix.trans (mapStep_pciDeviceDisableMemory v d)

theorem pciBarFromOffset_some {dev : PciDevice} {offset index : Nat} {high : Bool}
    (h : pciBarFromOffset dev offset = some (index, high)) :
    index < pciBarCount ∧ (dev.bars index).implemented = true := by
  unfold pciBarFromOffset at h
  split at h
  · cases h
  rename_i hoffset
  simp only at h
  generalize hindex : (if (dev.bars ((offset - 0x10) / 4)).highPart = true then
    (offset - 0x10) / 4 - 1 else (offset - 0x10) / 4) = k at h
  split at h
  · rename_i himpl
    cases h
    refine ⟨?_, himpl⟩
    simp only [pciBarCount]
    split at hindex <;> omega
  · cases h

/-! ## Renumbering -/

def PciDevice.idErase (dev : PciDevice) : PciDevice := { dev with requesterId := 0 }

def PciState.idErase (s : PciState) : PciState :=
  { s with devices := fun d => (s.devices d).idErase }

/-- The states differ only in requester IDs. -/
def IdSame (s t : PciState) : Prop := t.idErase = s.idErase

theorem IdSame.refl (s : PciState) : IdSame s s := rfl

theorem IdSame.trans {s t u : PciState} (h : IdSame s t) (h' : IdSame t u) : IdSame s u :=
  Eq.trans h' h

theorem IdSame.device {s t : PciState} (h : IdSame s t) (d : Nat) :
    (t.devices d).idErase = (s.devices d).idErase :=
  congrFun (congrArg PciState.devices h) d

theorem idSame_foldl {α : Type} {f : PciState → α → PciState} (hf : ∀ s a, IdSame s (f s a))
    (s : PciState) (as : List α) : IdSame s (as.foldl f s) := by
  induction as generalizing s with
  | nil => exact .refl s
  | cons a as ih => exact (hf s a).trans (ih _)

theorem idSame_pciSlotUpdateRequesterId (bus : Nat) (s : PciState) (slot : Nat) :
    IdSame s (pciSlotUpdateRequesterId bus s slot) := by
  unfold pciSlotUpdateRequesterId
  split
  · exact .refl s
  · rename_i d hd
    simp only [IdSame, PciState.idErase, PciState.updateDevice]
    rw [map_update_eq PciDevice.idErase s.devices d]
    rfl

theorem idSame_pciBusUpdateRequesterIdsFrom (fuel : Nat) (s : PciState) (bus : Nat) :
    IdSame s (pciBusUpdateRequesterIdsFrom fuel s bus) := by
  induction fuel generalizing s bus with
  | zero => exact .refl s
  | succ n ih =>
    exact (idSame_foldl (idSame_pciSlotUpdateRequesterId bus) s _).trans
      (idSame_foldl (fun s c => ih s c) _ _)

theorem idSame_pciBusUpdateRequesterIds (s : PciState) (bus : Nat) :
    IdSame s (pciBusUpdateRequesterIds s bus) :=
  idSame_pciBusUpdateRequesterIdsFrom _ s bus

/-! ## Subordinate numbers -/

def PciDevice.ancestorErase (dev : PciDevice) : PciDevice :=
  { dev with configSpace := fun x => if x = 0x1a then 0 else dev.configSpace x }

def PciBus.ancestorErase (b : PciBus) : PciBus := { b with subordinateNumber := 0 }

def PciState.ancestorErase (s : PciState) : PciState :=
  { s with
    devices := fun d => (s.devices d).ancestorErase
    buses := fun b => (s.buses b).ancestorErase }

/-- The states differ only in subordinate numbers and register `0x1a`. -/
def AncestorSame (s t : PciState) : Prop := t.ancestorErase = s.ancestorErase

theorem AncestorSame.refl (s : PciState) : AncestorSame s s := rfl

theorem AncestorSame.trans {s t u : PciState} (h : AncestorSame s t) (h' : AncestorSame t u) :
    AncestorSame s u :=
  Eq.trans h' h

theorem AncestorSame.device {s t : PciState} (h : AncestorSame s t) (d : Nat) :
    (t.devices d).ancestorErase = (s.devices d).ancestorErase :=
  congrFun (congrArg PciState.devices h) d

theorem ancestorErase_config (dev : PciDevice) (value : Nat) :
    (dev.configStoreLe 0x1a 1 value).ancestorErase = dev.ancestorErase := by
  have hconfig : (fun x => if x = 0x1a then 0 else dev.configSpace.write 0x1a (storeLe 1 value) x) =
      fun x => if x = 0x1a then 0 else dev.configSpace x := by
    funext x
    split
    · rfl
    · exact Store.write_out _ (by rw [length_storeLe]; omega)
  simp only [PciDevice.ancestorErase, PciDevice.configStoreLe, hconfig]

theorem ancestorSame_pciOwnerUpdateSubordinate (s : PciState) (b : Nat) :
    AncestorSame s (pciOwnerUpdateSubordinate s b) := by
  unfold pciOwnerUpdateSubordinate
  split
  · exact .refl s
  rename_i d hd
  split
  · simp only [AncestorSame, PciState.ancestorErase, PciState.updateDevice]
    rw [map_update_eq PciDevice.ancestorErase s.devices d _ (ancestorErase_config ..)]
  · exact .refl s

theorem ancestorSame_pciBusUpdateAncestor (s : PciState) (b : Nat) :
    AncestorSame s (pciBusUpdateAncestor s b) := by
  unfold pciBusUpdateAncestor
  split
  · exact .refl s
  rename_i parent hparent
  have howner := ancestorSame_pciOwnerUpdateSubordinate s b
  generalize pciOwnerUpdateSubordinate s b = t at howner
  simp only
  split
  · refine howner.trans ?_
    simp only [AncestorSame, PciState.ancestorErase, PciState.updateBus]
    rw [map_update_eq PciBus.ancestorErase t.buses parent]
    rfl
  · exact howner

theorem ancestorSame_pciBusUpdateAncestors (s : PciState) (bus : Nat) :
    AncestorSame s (pciBusUpdateAncestors s bus) := by
  unfold pciBusUpdateAncestors
  generalize busPath s (some bus) = path
  induction path generalizing s with
  | nil => exact .refl s
  | cons b bs ih => exact (ancestorSame_pciBusUpdateAncestor s b).trans (ih _)

/-! ## Delivery -/

def PciDevice.pbaErase (dev : PciDevice) : PciDevice :=
  { dev with msix := { dev.msix with pba := fun _ => 0 } }

def PciState.deliverErase (s : PciState) : PciState :=
  { s with devices := fun d => (s.devices d).pbaErase, irq := .init, log := [] }

/-- The states differ only in pending bits, interrupt lines and the log. -/
def DeliverSame (s t : PciState) : Prop := t.deliverErase = s.deliverErase

theorem DeliverSame.refl (s : PciState) : DeliverSame s s := rfl

theorem DeliverSame.trans {s t u : PciState} (h : DeliverSame s t) (h' : DeliverSame t u) :
    DeliverSame s u :=
  Eq.trans h' h

theorem DeliverSame.device {s t : PciState} (h : DeliverSame s t) (d : Nat) :
    (t.devices d).pbaErase = (s.devices d).pbaErase :=
  congrFun (congrArg PciState.devices h) d

theorem deliverSame_updateMsix_pba (s : PciState) (d : Nat) {f : PciMsix → PciMsix}
    (h : ∀ msix : PciMsix, { f msix with pba := fun _ => 0 } = { msix with pba := fun _ => 0 }) :
    DeliverSame s (s.updateMsix d f) := by
  simp only [DeliverSame, PciState.deliverErase, PciState.updateMsix, PciState.updateDevice]
  rw [map_update_eq PciDevice.pbaErase s.devices d]
  simp only [PciDevice.pbaErase, h]

theorem deliverSame_sinkCalled (s : PciState) (d vector : Nat) (irq : IrqState) (ret : Status) :
    DeliverSame s (s.sinkCalled d vector irq ret) := rfl

theorem deliverSame_pciMsixDeliver (sink : Sink) (s : PciState) (d vector : Nat) :
    DeliverSame s (pciMsixDeliver sink s d vector).1 := by
  unfold pciMsixDeliver
  simp only
  split
  · exact .refl s
  split
  · exact .refl s
  split
  · exact .refl s
  · exact deliverSame_sinkCalled ..
  · rename_i irq u hcall
    refine (deliverSame_sinkCalled s d vector irq (.ok ())).trans ?_
    dsimp only
    apply deliverSame_updateMsix_pba
    exact fun _ => rfl

theorem deliverSame_pciMsixFlushVectors (sink : Sink) (s : PciState) (d : Nat) (vs : List Nat) :
    DeliverSame s (pciMsixFlushVectors sink s d vs) := by
  induction vs generalizing s with
  | nil => exact .refl s
  | cons v vs ih =>
    unfold pciMsixFlushVectors
    split
    · exact (deliverSame_pciMsixDeliver sink s d v).trans (ih _)
    · exact ih s

theorem deliverSame_pciMsixFlushPending (sink : Sink) (s : PciState) (d : Nat) :
    DeliverSame s (pciMsixFlushPending sink s d) := by
  unfold pciMsixFlushPending
  simp only
  split
  · exact .refl s
  · exact deliverSame_pciMsixFlushVectors sink s d _

theorem deliverSame_pciDeviceRaiseMsix (sink : Sink) (s : PciState) (d vector : Nat) :
    DeliverSame s (pciDeviceRaiseMsix sink s d vector).1 := by
  unfold pciDeviceRaiseMsix
  simp only
  split
  · exact .refl s
  have hpending : DeliverSame s
      (({ s with log := .raised d vector :: s.log } : PciState).updateMsix d (·.setPending vector)) :=
    DeliverSame.trans (t := { s with log := .raised d vector :: s.log }) rfl
      (deliverSame_updateMsix_pba _ d fun _ => rfl)
  split
  · exact hpending
  · exact hpending.trans (deliverSame_pciMsixDeliver ..)

/-! ## What a call does -/

/-- What a setup call makes of the record of a function. -/
inductive Configured (dev : PciDevice) : PciDevice → Prop
  | setBar {index size flags : Nat} {dev' : PciDevice}
      (h : pciDeviceSetBar dev index size flags = .ok dev') : Configured dev dev'
  | capability {id : UInt8} {data : List UInt8} {dev' : PciDevice} {offset : Nat}
      (h : pciDeviceAddCapability dev id data = .ok (dev', offset)) : Configured dev dev'
  | initMsix {vectorCount tableBar tableOffset pbaBar pbaOffset : Nat} {dev' : PciDevice}
      (h : pciDeviceInitMsix dev vectorCount tableBar tableOffset pbaBar pbaOffset = .ok dev') :
      Configured dev dev'
  | routes (irqRoutes : Nat → Option Nat) (inject remap : Bool) :
      Configured dev { dev with msix := { dev.msix with irqRoutes, inject, remap } }
  | intx (irq : Nat) (pin : UInt8) (line : Nat) :
      Configured dev ((PciDevice.configStoreLe { dev with intxIrq := some irq, intxPin := pin }
        0x3c 1 line).configStoreLe 0x3d 1 pin.toNat)

/-- What a call makes of the state: one case for each way a call can end. -/
inductive StepOutcome (sink : Sink) (s : PciState) : PciOp → PciState → Prop
  | same {op : PciOp} : StepOutcome sink s op s
  | deviceInit {d : Nat} {vendorId deviceId : UInt16} {revision progIf subclass classCode : UInt8} :
      StepOutcome sink s (.deviceInit d vendorId deviceId revision progIf subclass classCode)
        (s.updateDevice d fun _ =>
          pciDeviceInit vendorId deviceId revision progIf subclass classCode)
  | configured {op : PciOp} {d : Nat} {dev : PciDevice} (h : Configured (s.devices d) dev) :
      StepOutcome sink s op (s.updateDevice d fun _ => dev)
  | setDmaAs {d : Nat} {space : Option SpaceId} :
      StepOutcome sink s (.setDmaAs d space) (s.updateDevice d fun dev =>
        { dev with parent := { dev.parent with dmaAs := space, dmaAsFromBus := false } })
  | irq {op : PciOp} (irq : IrqState) : StepOutcome sink s op { s with irq }
  | setIntx {op : PciOp} {d : Nat} {level : Bool} (irq : IrqState) : StepOutcome sink s op
      (({ s with irq }).updateDevice d fun dev => { dev with intxAsserted := level })
  | bridgeInit {d parent : Nat} {number : UInt8} :
      StepOutcome sink s (.bridgeInit d parent number) (pciBridgeInit s d parent number).1
  | bridgeDestroy {d : Nat} : StepOutcome sink s (.bridgeDestroy d) (pciBridgeDestroy s d).1
  | switchInit {upstream : Nat} {ports : List Nat} {parent : Nat} {number : UInt8} :
      StepOutcome sink s (.switchInit upstream ports parent number)
        (pciSwitchInit s upstream ports parent number).1
  | addDevice {bus d : Nat} {devfn : UInt8} :
      StepOutcome sink s (.addDevice bus d devfn) (pciBusAddDevice s bus d devfn).1
  | removeDevice {bus d : Nat} :
      StepOutcome sink s (.removeDevice bus d) (pciBusRemoveDevice s bus d).1
  | realizeFailed {d : Nat} : StepOutcome sink s (.realize d) (pciDeviceRealizeOp s d).1
  | realized {d : Nat} : StepOutcome sink s (.realize d)
      ((pciDeviceRealizeOp s d).1.updateDevice d fun dev =>
        { dev with parent := { dev.parent with realized := true } })
  | unrealized {d : Nat} : StepOutcome sink s (.unrealize d)
      ((pciDeviceDisableMemory (pciIntxDeassert sink s d) d).updateDevice d fun dev =>
        { dev with parent := { dev.parent with realized := false } })
  | reset {d : Nat} : StepOutcome sink s (.reset d) (pciDeviceResetInternal sink s d)
  | configWrite {offset value d register : Nat} {size : AccessSize}
      (h : pciEcamLookup s offset size.bytes = some (d, register)) :
      StepOutcome sink s (.ecamWrite offset size value)
        (pciConfigWrite sink s d register size.bytes (value % 256 ^ size.bytes)).1
  | tableWrite {d offset size value : Nat} : StepOutcome sink s (.tableWrite d offset size value)
      (pciMsixTableWrite sink s d offset size value).1
  | raiseMsix {d v : Nat} :
      StepOutcome sink s (.raiseMsix d v) (pciDeviceRaiseMsix sink s d v).1
  /-- The memory changes, and no BAR is put into the address space. -/
  | memory {op : PciOp} {memory : GuestMemory} {ecamMapped : Bool}
      (h : op.Valid s → ∀ r ∈ memory.space.regions, ∀ d i, r.id = .bar d i →
        r ∈ s.memory.space.regions) :
      StepOutcome sink s op { s with memory, ecamMapped }

namespace StepOutcome

/-- A setup call that fails changes nothing. -/
theorem tryDevice {sink : Sink} {op : PciOp} (s : PciState) (d : Nat)
    {f : PciDevice → Except Errno PciDevice}
    (h : ∀ dev, f (s.devices d) = .ok dev → Configured (s.devices d) dev) :
    StepOutcome sink s op (s.tryDevice d f) := by
  unfold PciState.tryDevice
  split
  · exact .same
  · rename_i dev hdev
    exact .configured (h dev hdev)

/-- A region that is not a BAR is added. -/
theorem addRegion {sink : Sink} {s : PciState} {op : PciOp} {region : AddressRegion}
    {space : AddressSpace} (ecamMapped : Bool)
    (hspace : space.regions = s.memory.space.regions ++ [region])
    (h : op.Valid s → ∀ d i, region.id ≠ .bar d i) :
    StepOutcome sink s op { s.setSpace space with ecamMapped } := by
  refine .memory fun hv r hr d i hid => ?_
  have hmem : r ∈ space.regions := hr
  rw [hspace, List.mem_append, List.mem_singleton] at hmem
  rcases hmem with hmem | rfl
  · exact hmem
  · exact absurd hid (h hv d i)

end StepOutcome

theorem pciStep_outcome (sink : Sink) (s : PciState) (op : PciOp) :
    StepOutcome sink s op (pciStep sink s op) := by
  cases op with
  | deviceInit => exact .deviceInit
  | setBar d index size flags =>
    rw [pciStep]
    exact .tryDevice s d fun dev hdev => .setBar hdev
  | addCapability d id data =>
    rw [pciStep]
    refine .tryDevice s d fun dev hdev => ?_
    cases hadd : pciDeviceAddCapability (s.devices d) id data with
    | error e => rw [hadd] at hdev; cases hdev
    | ok r =>
      rw [hadd] at hdev
      cases hdev
      exact .capability hadd
  | initMsix d =>
    rw [pciStep]
    exact .tryDevice s d fun dev hdev => .initMsix hdev
  | connectMsix d vector irq =>
    rw [pciStep]
    refine .tryDevice s d fun dev hdev => ?_
    unfold pciDeviceConnectMsix at hdev
    split at hdev <;> cases hdev
    exact .routes _ _ _
  | setMsixInjector d inject =>
    rw [pciStep]
    refine .tryDevice s d fun dev hdev => ?_
    unfold pciDeviceSetMsixInjector at hdev
    split at hdev <;> cases hdev
    exact .routes _ _ _
  | setMsixRemapper d remap =>
    rw [pciStep]
    refine .tryDevice s d fun dev hdev => ?_
    unfold pciDeviceSetMsixRemapper at hdev
    split at hdev <;> cases hdev
    exact .routes _ _ _
  | connectIntx d pin irq line =>
    rw [pciStep]
    refine .tryDevice s d fun dev hdev => ?_
    unfold pciDeviceConnectIntx at hdev
    split at hdev
    · cases hdev
    split at hdev <;> cases hdev
    exact .intx irq pin _
  | setIntx d level =>
    simp only [pciStep, pciDeviceSetIntx]
    split
    · exact .same
    split
    · exact .irq _
    · exact .setIntx _
  | setDmaAs d space =>
    simp only [pciStep, PciState.tryDevice, pciDeviceSetDmaAs]
    split
    · exact .same
    · rename_i dev hdev
      split at hdev <;> cases hdev
      exact .setDmaAs
  | bridgeInit => exact .bridgeInit
  | bridgeDestroy => exact .bridgeDestroy
  | switchInit => exact .switchInit
  | addDevice => exact .addDevice
  | removeDevice => exact .removeDevice
  | rootComplexRealize =>
    simp only [pciStep, pciRootComplexRealize]
    split
    · exact .same
    · rename_i t ht
      obtain ⟨-, space, hspace, rfl⟩ := PciState.addMmio_ok ht
      exact .addRegion true hspace fun _ d i => by simp
  | realize d =>
    simp only [pciStep, pciDeviceRealize]
    split
    · exact .same
    split
    · rename_i t e ht
      have hout : StepOutcome sink s (.realize d) (pciDeviceRealizeOp s d).1 := .realizeFailed
      rwa [ht] at hout
    · rename_i t u ht
      have hout : StepOutcome sink s (.realize d) _ := .realized
      rwa [ht] at hout
  | unrealize d =>
    simp only [pciStep, pciDeviceUnrealize]
    split
    · exact .unrealized
    · exact .same
  | reset d =>
    simp only [pciStep, pciDeviceReset]
    split
    · exact .same
    · exact .reset
  | ecamWrite offset size value =>
    simp only [pciStep, pciEcamWrite]
    split
    · exact .same
    · rename_i hlookup
      exact .configWrite hlookup
  | tableWrite => exact .tableWrite
  | raiseMsix => exact .raiseMsix
  | addRegion region =>
    simp only [pciStep]
    split
    · exact .same
    · rename_i space hspace
      refine .addRegion s.ecamMapped (AddressSpace.add_ok hspace) fun hv d i hid => ?_
      have hpci : region.id.isPci = false := hv
      rw [hid] at hpci
      cases hpci
  | removeRegion id => exact .memory fun _ r hr d i _ => (List.mem_filter.mp hr).1
  | writeRam ram => exact .memory fun _ r hr d i _ => hr

end Vart
