import Vart.Pci.Frame

/-!
# BARs and the host window

The root complex decodes `[0x40000000, 0x80000000)`. A BAR is mapped if some window of its bus or
of an ancestor contains it, and the windows of bridges are registers that the guest writes, so a
BAR stays inside the host window as long as those windows do at the moment a BAR is mapped
(`WindowsInHost`). Nothing enforces that: a guest can move a bridge window over RAM and a BAR into
it, and the prefetchable window of a fresh bridge starts at address `0`.

* `pciStep_bars`: a BAR region present after a call was there before, or the call maps BARs of one
  device and a window on the path of that device contains the region.
* `bars_in_host_window`: the invariant, for runs that keep the windows inside.
-/

namespace Vart

open Lib

/-! ## The property and its condition -/

/-- `[base, base + size)` lies inside the window of the root complex. -/
def InHostWindow (base size : Nat) : Prop :=
  virtPcieMmioBase ≤ base ∧ base + size ≤ virtPcieMmioBase + virtPcieMmioSize

instance (base size : Nat) : Decidable (InHostWindow base size) :=
  inferInstanceAs (Decidable (_ ∧ _))

/-- Every BAR in the system address space lies inside the host window. -/
def BarsInHostWindow (s : PciState) : Prop :=
  ∀ r ∈ s.memory.space.regions, ∀ d i, r.id = .bar d i → InHostWindow r.base r.size

/-- The device whose BARs an operation may map: the one realized, or the one whose BAR or Command
register is written. -/
def barTarget (s : PciState) : PciOp → Option Nat
  | .realize d => some d
  | .ecamWrite offset size _ =>
    match pciEcamLookup s offset size.bytes with
    | none => none
    | some (d, register) =>
      if (size = .word ∧ (pciBarFromOffset (s.devices d) register).isSome = true) ∨
          (register < 0x06 ∧ register + size.bytes > 0x04) then some d
      else none
  | _ => none

/-- The windows that serve the BARs of `d`, on its bus and above, are empty or inside the host
window. -/
def PathInHostWindow (s : PciState) (d : Nat) : Prop :=
  ∀ b ∈ busPath s (s.devices d).pciBus, ∀ i, ((s.devices d).bars i).implemented = true →
    let w := (s.buses b).window ((s.devices d).bars i).prefetchable
    w.2 = 0 ∨ InHostWindow w.1 w.2

/-- The condition on a step: BARs are mapped only while the windows on the path are inside. -/
def WindowsInHost (s : PciState) (op : PciOp) : Prop :=
  ∀ d, barTarget s op = some d → PathInHostWindow s d

theorem PathInHostWindow.inHostWindow {s : PciState} {d base size : Nat} (h : PathInHostWindow s d)
    (hw : InPathWindow s d base size) : InHostWindow base size := by
  obtain ⟨b, hb, i, himpl, hne, hlo, hhi⟩ := hw
  rcases h b hb i himpl with h0 | hin
  · exact absurd h0 hne
  · unfold InHostWindow at *
    omega

/-! ## Regions that a call removes or leaves alone -/

/-- Every BAR region of `t` is one of `s`. -/
def BarsSub (s t : PciState) : Prop :=
  ∀ r ∈ t.memory.space.regions, ∀ d i, r.id = .bar d i → r ∈ s.memory.space.regions

theorem BarsSub.refl (s : PciState) : BarsSub s s := fun _ hr _ _ _ => hr

theorem BarsSub.trans {s t u : PciState} (h : BarsSub s t) (h' : BarsSub t u) : BarsSub s u :=
  fun r hr d i hid => h r (h' r hr d i hid) d i hid

theorem BarsSub.of_memory_eq {s t : PciState} (h : t.memory = s.memory) : BarsSub s t :=
  fun _ hr _ _ _ => h ▸ hr

theorem barsSub_removeRegion (s : PciState) (id : RegionId) : BarsSub s (s.removeRegion id) :=
  fun _ hr _ _ _ => (List.mem_filter.mp hr).1

theorem barsSub_pciBarUnmap (s : PciState) (d index : Nat) : BarsSub s (pciBarUnmap s d index) := by
  unfold pciBarUnmap
  split
  · exact (barsSub_removeRegion s _).trans (.of_memory_eq rfl)
  · exact .refl s

theorem barsSub_pciDeviceDisableMemory (s : PciState) (d : Nat) :
    BarsSub s (pciDeviceDisableMemory s d) := by
  have hmsix : BarsSub s (pciMsixUnmap s d) := by
    unfold pciMsixUnmap
    split
    · exact ((barsSub_removeRegion s _).trans (barsSub_removeRegion _ _)).trans (.of_memory_eq rfl)
    · exact .refl s
  refine hmsix.trans ?_
  unfold pciDeviceDisableMemory pciUnmapBars
  generalize pciMsixUnmap s d = t
  generalize List.range pciBarCount = indices
  induction indices generalizing t with
  | nil => exact .refl t
  | cons i is ih => exact (barsSub_pciBarUnmap t d i).trans (ih _)

theorem pciIntxDeassert_memory (sink : Sink) (s : PciState) (d : Nat) :
    (pciIntxDeassert sink s d).memory = s.memory := by
  unfold pciIntxDeassert
  split
  · rfl
  · split <;> rfl

theorem pciMsixFlushPending_memory (sink : Sink) (s : PciState) (d : Nat) :
    (pciMsixFlushPending sink s d).memory = s.memory :=
  (congrArg PciState.memory (deliverSame_pciMsixFlushPending sink s d) :)

theorem pciMsixUpdateControl_memory (sink : Sink) (s : PciState) (d : Nat) :
    (pciMsixUpdateControl sink s d).memory = s.memory := by
  unfold pciMsixUpdateControl
  simp only
  split
  · rfl
  · exact pciMsixFlushPending_memory ..

theorem pciBusUpdateAncestors_memory (s : PciState) (bus : Nat) :
    (pciBusUpdateAncestors s bus).memory = s.memory :=
  (congrArg PciState.memory (ancestorSame_pciBusUpdateAncestors s bus) :)

theorem pciBusUpdateRequesterIds_memory (s : PciState) (bus : Nat) :
    (pciBusUpdateRequesterIds s bus).memory = s.memory :=
  (congrArg PciState.memory (idSame_pciBusUpdateRequesterIds s bus) :)

theorem pciBridgeInitWithWindow_memory (s : PciState) (d parent : Nat) (number : UInt8)
    (windowSize : Nat) : (pciBridgeInitWithWindow s d parent number windowSize).1.memory = s.memory := by
  unfold pciBridgeInitWithWindow
  simp only
  split
  · rfl
  split
  · rfl
  split
  · rfl
  split
  · rfl
  split
  · rfl
  split
  · rfl
  · rename_i t ht
    have hm : t.memory = s.memory := by
      unfold pciBusInit at ht
      split at ht
      · cases ht
      · cases ht; rfl
    dsimp only
    rw [pciBusUpdateAncestors_memory]
    exact hm

theorem pciBridgeDestroy_memory (s : PciState) (d : Nat) :
    (pciBridgeDestroy s d).1.memory = s.memory := by
  unfold pciBridgeDestroy
  simp only
  split
  · rfl
  split
  · rfl
  · unfold pciBusDestroy
    simp only
    split
    · rfl
    · dsimp only
      rw [updateBus_memory]
      split <;> rfl

theorem pciSwitchPorts_memory (s : PciState) (internal : Nat) (number : UInt8) (done ports : List Nat) :
    (pciSwitchPorts s internal number done ports).1.memory = s.memory := by
  induction ports generalizing s number done with
  | nil => rfl
  | cons port ports ih =>
    have hport := pciBridgeInitWithWindow_memory s port internal number pciBridgeMmioWindowSize
    unfold pciSwitchPorts
    split
    · rename_i t e ht
      rw [ht] at hport
      have hdestroy : ∀ (u : PciState) (ps : List Nat),
          (ps.foldl (fun s p => (pciBridgeDestroy s p).1) u).memory = u.memory := by
        intro u ps
        induction ps generalizing u with
        | nil => rfl
        | cons p ps ih => exact (ih _).trans (pciBridgeDestroy_memory u p)
      exact (hdestroy t done).trans hport
    · rename_i t u ht
      rw [ht] at hport
      exact (ih ..).trans hport

theorem pciSwitchInit_memory (s : PciState) (upstream : Nat) (ports : List Nat) (parent : Nat)
    (number : UInt8) : (pciSwitchInit s upstream ports parent number).1.memory = s.memory := by
  have hup := pciBridgeInitWithWindow_memory s upstream parent number
    (ports.length * pciBridgeMmioWindowSize)
  unfold pciSwitchInit
  simp only
  split
  · rfl
  split
  · rename_i t e ht
    rw [ht] at hup
    exact hup
  rename_i t u ht
  rw [ht] at hup
  have hports := (pciSwitchPorts_memory t s.busCount (number + 1) [] ports).trans hup
  split
  · rename_i v e hv
    rw [hv] at hports
    exact (pciBridgeDestroy_memory v upstream).trans hports
  · rename_i v w hv
    rw [hv] at hports
    exact hports

/-! ## What a call does to BAR regions -/

/-- Every BAR region of `t` is one of `s`, or `P` holds and a window for device `d` contains it. -/
def BarsVia (P : Prop) (d : Nat) (s t : PciState) : Prop :=
  ∀ r ∈ t.memory.space.regions, ∀ d' i, r.id = .bar d' i →
    r ∈ s.memory.space.regions ∨ (P ∧ InPathWindow s d r.base r.size)

theorem BarsSub.via {s t : PciState} (h : BarsSub s t) (P : Prop) (d : Nat) : BarsVia P d s t :=
  fun r hr d' i hid => .inl (h r hr d' i hid)

theorem MapStep.via {d : Nat} {s t : PciState} (h : MapStep d s t) {P : Prop} (hP : P) :
    BarsVia P d s t := fun r hr d' i hid =>
  (h.bars r hr d' i hid).imp_right fun hw => ⟨hP, hw⟩

theorem BarsVia.then_sub {P : Prop} {d : Nat} {s t u : PciState} (h : BarsVia P d s t)
    (h' : BarsSub t u) : BarsVia P d s u := fun r hr d' i hid => h r (h' r hr d' i hid) d' i hid

/-- Changing other fields of the device does not change its windows. -/
theorem BarsVia.of_updateDevice {P : Prop} {d : Nat} {s t : PciState} {f : PciDevice → PciDevice}
    (h : BarsVia P d (s.updateDevice d f) t) (hbus : (f (s.devices d)).pciBus = (s.devices d).pciBus)
    (hbars : (f (s.devices d)).bars = (s.devices d).bars) : BarsVia P d s t := by
  intro r hr d' i hid
  refine (h r hr d' i hid).imp id fun ⟨hP, hw⟩ => ⟨hP, ?_⟩
  obtain ⟨b, hb, j, hj⟩ := hw
  have hpath : ∀ bus, busPath (s.updateDevice d f) bus = busPath s bus := by
    intro bus
    unfold busPath
    rw [updateDevice_busCount]
    generalize s.busCount = fuel
    induction fuel generalizing bus with
    | zero => rfl
    | succ n ih =>
      cases bus with
      | none => rfl
      | some b => rw [busAncestors, busAncestors, updateDevice_buses, ih]
  simp only [updateDevice_devices, Function.update_self, updateDevice_buses, hbus, hbars, hpath]
    at hb hj
  exact ⟨b, hb, j, hj⟩

theorem pciCommandWritten_bars (s : PciState) (d oldCommand : Nat) :
    BarsVia True d s (pciCommandWritten s d oldCommand).1 := by
  unfold pciCommandWritten
  simp only
  have hdecoded : ∀ enable wasEnabled : Bool, BarsVia True d s
      (if enable && !wasEnabled then pciDeviceEnableMemory s d
        else (if !enable && wasEnabled then pciDeviceDisableMemory s d else s, .ok ())).1 := by
    intro enable wasEnabled
    split
    · exact (mapStep_pciDeviceEnableMemory s d).via trivial
    · dsimp only
      split
      · exact (barsSub_pciDeviceDisableMemory s d).via _ _
      · exact (BarsSub.refl s).via _ _
  specialize hdecoded ((s.devices d).configLoad 0x04 2 &&& pciCommandMemoryEnable != 0)
    (oldCommand &&& pciCommandMemoryEnable != 0)
  split
  · rename_i t e ht
    rw [ht] at hdecoded
    exact hdecoded.then_sub (.of_memory_eq rfl)
  · rename_i t u ht
    rw [ht] at hdecoded
    exact hdecoded.then_sub (.of_memory_eq rfl)

theorem pciGenericConfigWrite_bars (sink : Sink) (s : PciState) (d offset size value : Nat) :
    BarsVia (offset < 0x06 ∧ offset + size > 0x04) d s
      (pciGenericConfigWrite sink s d offset size value).1 := by
  unfold pciGenericConfigWrite
  simp only
  generalize (s.devices d).configLoad 0x04 2 = oldCommand
  have hwritten : BarsVia (offset < 0x06 ∧ offset + size > 0x04) d s
      (if offset < 0x06 ∧ offset + size > 0x04 then
        pciCommandWritten (s.updateDevice d (pciConfigStore · offset size value)) d oldCommand
      else (s.updateDevice d (pciConfigStore · offset size value), .ok ())).1 := by
    split
    · rename_i hcommand
      refine BarsVia.of_updateDevice (f := (pciConfigStore · offset size value)) ?_ rfl rfl
      intro r hr d' i hid
      exact (pciCommandWritten_bars _ d oldCommand r hr d' i hid).imp id fun hw => ⟨hcommand, hw.2⟩
    · exact fun r hr _ _ _ => .inl hr
  split
  · rename_i t e ht
    rw [ht] at hwritten
    exact hwritten
  · rename_i t u ht
    rw [ht] at hwritten
    exact hwritten.then_sub (.of_memory_eq (pciMsixUpdateControl_memory ..))

theorem pciBridgeConfigWrite_memory {s : PciState} {d child offset size value : Nat}
    {r : PciState × Status} (h : pciBridgeConfigWrite s d child offset size value = some r) :
    r.1.memory = s.memory := by
  unfold pciBridgeConfigWrite at h
  split at h
  · split at h
    · cases h; rfl
    · split at h
      · cases h; rfl
      · cases h
  · cases h
    unfold pciBridgeWriteBusNumbers
    split
    · rfl
    simp only
    split
    · rfl
    split
    · rfl
    split
    · rfl
    · rw [pciBusUpdateAncestors_memory, pciBusUpdateRequesterIds_memory]
      rfl

theorem pciConfigWrite_bars (sink : Sink) (s : PciState) (d offset size value : Nat) :
    BarsVia ((size = 4 ∧ (pciBarFromOffset (s.devices d) offset).isSome = true) ∨
      (offset < 0x06 ∧ offset + size > 0x04)) d s (pciConfigWrite sink s d offset size value).1 := by
  unfold pciConfigWrite
  split
  · rename_i index high hbar
    split at hbar
    · rename_i hsize
      obtain ⟨hi, himpl⟩ := pciBarFromOffset_some hbar
      exact (mapStep_pciBarWrite _ high hi himpl).via (.inl ⟨hsize, by rw [hbar]; rfl⟩)
    · cases hbar
  split
  · rename_i r hr
    cases hsec : (s.devices d).secondaryBus with
    | none => rw [hsec] at hr; cases hr
    | some child =>
      rw [hsec] at hr
      exact (BarsSub.of_memory_eq (pciBridgeConfigWrite_memory hr)).via _ _
  · intro r hr d' i hid
    exact (pciGenericConfigWrite_bars sink s d offset size value r hr d' i hid).imp id
      fun hw => ⟨.inr hw.1, hw.2⟩

theorem AccessSize.bytes_eq_four {size : AccessSize} (h : size.bytes = 4) : size = .word := by
  cases size <;> first | rfl | cases h

theorem pciBusAddDevice_memory (s : PciState) (bus d : Nat) (devfn : UInt8) :
    (pciBusAddDevice s bus d devfn).1.memory = s.memory := by
  simp only [pciBusAddDevice]
  split
  · rfl
  split
  · rfl
  split
  · rfl
  split
  · rfl
  split
  · rfl
  · split <;> rfl

theorem pciBusRemoveDevice_memory (s : PciState) (bus d : Nat) :
    (pciBusRemoveDevice s bus d).1.memory = s.memory := by
  simp only [pciBusRemoveDevice]
  split
  · rfl
  split
  · rfl
  split
  · rfl
  split
  · rfl
  · split <;> rfl

theorem pciMsixTableWrite_memory (sink : Sink) (s : PciState) (d offset size value : Nat) :
    (pciMsixTableWrite sink s d offset size value).1.memory = s.memory := by
  simp only [pciMsixTableWrite]
  split
  · rfl
  · exact pciMsixFlushPending_memory ..

/-- A BAR region present after a call was there before, or the call maps BARs of a device and a
window on the path of that device contains the region. -/
theorem pciStep_bars (sink : Sink) {s : PciState} {op : PciOp} (hv : op.Valid s) :
    ∀ r ∈ (pciStep sink s op).memory.space.regions, ∀ d i, r.id = .bar d i →
      r ∈ s.memory.space.regions ∨
        ∃ d', barTarget s op = some d' ∧ InPathWindow s d' r.base r.size := by
  have hout := pciStep_outcome sink s op
  generalize pciStep sink s op = t at hout
  have hsub : BarsSub s t → ∀ r ∈ t.memory.space.regions, ∀ d i, r.id = .bar d i →
      r ∈ s.memory.space.regions ∨
        ∃ d', barTarget s op = some d' ∧ InPathWindow s d' r.base r.size :=
    fun h r hr d i hid => .inl (h r hr d i hid)
  cases hout with
  | same => exact hsub (.refl s)
  | deviceInit | configured | setDmaAs | irq | setIntx => exact hsub (.of_memory_eq rfl)
  | bridgeInit => exact hsub (.of_memory_eq (pciBridgeInitWithWindow_memory ..))
  | bridgeDestroy => exact hsub (.of_memory_eq (pciBridgeDestroy_memory ..))
  | switchInit => exact hsub (.of_memory_eq (pciSwitchInit_memory ..))
  | addDevice => exact hsub (.of_memory_eq (pciBusAddDevice_memory ..))
  | removeDevice => exact hsub (.of_memory_eq (pciBusRemoveDevice_memory ..))
  | @realizeFailed d | @realized d =>
    intro r hr d' i hid
    exact ((mapStep_pciDeviceRealizeOp s d).bars r hr d' i hid).imp id fun hw => ⟨d, rfl, hw⟩
  | @unrealized d =>
    exact hsub (((BarsSub.of_memory_eq (pciIntxDeassert_memory sink s d)).trans
      (barsSub_pciDeviceDisableMemory _ d)).trans (.of_memory_eq rfl))
  | @reset d =>
    exact hsub (((barsSub_pciDeviceDisableMemory s d).trans
      (.of_memory_eq (pciIntxDeassert_memory sink _ d))).trans (.of_memory_eq rfl))
  | @configWrite offset value d register size hlookup =>
    intro r hr d' i hid
    simp only [barTarget, hlookup]
    refine (pciConfigWrite_bars sink s d register size.bytes _ r hr d' i hid).imp id ?_
    rintro ⟨hP, hw⟩
    exact ⟨d, if_pos (hP.imp_left fun h => ⟨AccessSize.bytes_eq_four h.1, h.2⟩), hw⟩
  | tableWrite => exact hsub (.of_memory_eq (pciMsixTableWrite_memory ..))
  | @raiseMsix d v =>
    exact hsub (.of_memory_eq (congrArg PciState.memory (deliverSame_pciDeviceRaiseMsix sink s d v) :))
  | memory h => exact hsub (h hv)

/-- In every run that maps BARs only while the windows on the path of the device are inside the
host window, every BAR is inside the host window. -/
theorem bars_in_host_window {sink : Sink} {s : PciState}
    (h : Reach (pciStep sink) PciState.Initial (fun s op => op.Valid s ∧ WindowsInHost s op) s) :
    BarsInHostWindow s := by
  apply h.invariant (I := BarsInHostWindow)
  · rintro s ⟨memory, hmem, rfl⟩ r hr d i hid
    have hpci := hmem r hr
    rw [hid] at hpci
    cases hpci
  · rintro s op hs ⟨hvalid, hwindows⟩ r hr d i hid
    rcases pciStep_bars sink hvalid r hr d i hid with hold | ⟨d', htarget, hw⟩
    · exact hs r hold d i hid
    · exact (hwindows d' htarget).inHostWindow hw

/-- The windows on the path are checked for both kinds of BARs. -/
theorem PathInHostWindow.of_windows {s : PciState} {d : Nat}
    (h : ∀ b ∈ busPath s (s.devices d).pciBus, ∀ prefetch, ((s.buses b).window prefetch).2 = 0 ∨
      InHostWindow ((s.buses b).window prefetch).1 ((s.buses b).window prefetch).2) :
    PathInHostWindow s d := fun b hb _ _ => h b hb _

/-- A bridge with an endpoint behind it. The guest closes the prefetchable window of the bridge and
turns memory decoding of the endpoint on. -/
def behindBridge : List PciOp :=
  [.bridgeInit 0 0 1, .addDevice 0 0 0, .realize 0, .ecamWrite 0x24 .word 0x0000fff0,
    .deviceInit 1 0x1af4 0x1041 0 0 0 2, .setBar 1 0 0x1000 0, .addDevice 1 1 0, .realize 1,
    .ecamWrite 0x100004 .half 2]

theorem behindBridge_in_host_window :
    (⟨.bar 1 0, 0x40000000, 0x1000, 0, .mmio, true, false⟩ : AddressRegion) ∈
        (runFrom (pciStep fun _ => .ok ()) (.init ramAtDram) behindBridge).memory.space.regions ∧
      BarsInHostWindow (runFrom (pciStep fun _ => .ok ()) (.init ramAtDram) behindBridge) := by
  refine ⟨by decide +kernel, @bars_in_host_window (fun _ => .ok ()) _
    (Reach.runFrom (.start ⟨ramAtDram, by decide, rfl⟩) ?_)⟩
  refine ⟨⟨⟨rfl, by decide⟩, nofun⟩, ⟨⟨by decide +kernel, rfl⟩, nofun⟩, ⟨trivial, ?_⟩,
    ⟨trivial, ?_⟩, ⟨rfl, nofun⟩, ⟨trivial, nofun⟩, ⟨⟨by decide +kernel, rfl⟩, nofun⟩,
    ⟨trivial, ?_⟩, ⟨trivial, ?_⟩, trivial⟩
  · rintro d ⟨⟩
    exact .of_windows (by decide +kernel)
  · intro d htarget
    cases (by decide +kernel : none = barTarget _ _).trans htarget
  · rintro d ⟨⟩
    exact .of_windows (by decide +kernel)
  · intro d htarget
    obtain rfl : 1 = d := Option.some.inj ((by decide +kernel : some 1 = barTarget _ _).trans htarget)
    exact .of_windows (by decide +kernel)

/-- A bridge with an endpoint behind it. The guest moves the window of the bridge to `0x80000000`,
the BAR of the endpoint into the window, and turns memory decoding on. -/
def barOverRam : PciState :=
  runFrom (pciStep fun _ => .ok ()) (.init ramAtDram)
    [.bridgeInit 0 0 1, .addDevice 0 0 0, .realize 0,
      .deviceInit 1 0x1af4 0x1041 0 0 0 2, .setBar 1 0 0x1000 0, .addDevice 1 1 0, .realize 1,
      .ecamWrite 0x000020 .word 0x80008000, .ecamWrite 0x100010 .word 0x80000000,
      .ecamWrite 0x100004 .half 2]

/-- A guest places a BAR over RAM. -/
theorem guest_maps_bar_over_ram :
    Reach (pciStep fun _ => .ok ()) PciState.Initial (fun s op => op.Valid s) barOverRam ∧
      (⟨.bar 1 0, 0x80000000, 0x1000, 0, .mmio, true, false⟩ : AddressRegion) ∈
        barOverRam.memory.space.regions ∧
      ¬ BarsInHostWindow barOverRam := by
  have hmem : (⟨.bar 1 0, 0x80000000, 0x1000, 0, .mmio, true, false⟩ : AddressRegion) ∈
      barOverRam.memory.space.regions := by decide +kernel
  refine ⟨Reach.runFrom (.start ⟨ramAtDram, by decide, rfl⟩) ?_, hmem, fun h => ?_⟩
  · exact ⟨⟨rfl, by decide⟩, ⟨by decide +kernel, rfl⟩, trivial, rfl, trivial,
      ⟨by decide +kernel, rfl⟩, trivial, trivial, trivial, trivial, trivial⟩
  · exact absurd (h _ hmem 1 0 rfl) (by decide)

end Vart
