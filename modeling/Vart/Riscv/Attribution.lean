import Vart.Pci.DmaFrame
import Vart.Riscv.FaultQueue

/-!
# Whose fault it is

A record of the fault queue names the device by the requester ID that the context keeps. The context
takes it from the device when the device is bound; adding the device to a bus, removing it, and
writing the bus numbers of a bridge give the device another ID, and the context does not follow.

* `OwnersSame`: most steps leave alone who is bound to which context.
* `Attributed`: a context is attached to the device that is bound to it, DMA goes through a context
  only for a bound device, and the ID in the context is the ID of the device.
* `fault_attribution`: in every run that does not change the ID of a bound device, each record names
  the device whose access failed.
-/

namespace Vart

open Lib

/-! ## Owners -/

/-- Whom the context belongs to. -/
def IommuContext.owner (c : IommuContext) : Option Nat × Option SpaceId × UInt16 :=
  (c.attachedDevice, c.savedDmaAs, c.requesterId)

theorem owner_of_wiring {c c' : IommuContext} (h : c'.wiring = c.wiring) : c'.owner = c.owner := by
  simp only [IommuContext.wiring, Prod.mk.injEq] at h
  obtain ⟨-, ha, hs, -, hr, -⟩ := h
  simp only [IommuContext.owner, ha, hs, hr]

/-- The bindings, the owners of the contexts, and the devices up to pending interrupts are the
same. -/
structure OwnersSame (s t : IommuSystem) : Prop where
  bindings : t.iommu.bindings = s.iommu.bindings
  owner : ∀ n, (t.contexts n).owner = (s.contexts n).owner
  device : ∀ d, (t.pci.devices d).pbaErase = (s.pci.devices d).pbaErase

namespace OwnersSame

variable {s t : IommuSystem}

theorem requesterId (h : OwnersSame s t) (d : Nat) :
    (t.pci.devices d).requesterId = (s.pci.devices d).requesterId :=
  (congrArg PciDevice.requesterId (h.device d) :)

theorem dmaAs (h : OwnersSame s t) (d : Nat) :
    (t.pci.devices d).parent.dmaAs = (s.pci.devices d).parent.dmaAs :=
  (congrArg (·.parent.dmaAs) (h.device d) :)

theorem of_commandsRan {f : RiscvIommu → RiscvIommu} (h : CommandsRan (s.updateIommu f) t)
    (hb : (f s.iommu).bindings = s.iommu.bindings) : OwnersSame s t := by
  obtain ⟨_, _, hi⟩ := h.iommu
  exact ⟨by rw [hi]; exact hb, fun n => owner_of_wiring (h.contexts n).wiring, h.pci.device⟩

theorem setContext (s : IommuSystem) {n : Nat} {c : IommuContext}
    (h : ContextMove (s.contexts n) c) : OwnersSame s (s.setContext n c) :=
  of_commandsRan (f := id) (.setContext s (.single h)) rfl

end OwnersSame

theorem systemTranslate_device (sink : Sink) (s : IommuSystem) (device : Option Nat) (n : Nat)
    (env : Interference) (address size : Nat) (write : Bool) (d : Nat) :
    ((systemTranslate sink s device n env address size write).1.pci.devices d).pbaErase =
      (s.pci.devices d).pbaErase := by
  rcases systemTranslate_cases sink s device n env address size write with ⟨heq, -⟩ | ⟨e, -, heq, -⟩
  · rw [heq]; rfl
  · rw [heq]; exact (faultReported_iommuFaultHandler sink _ _).device d

theorem pciDeviceDma_device (sink : Sink) (s : IommuSystem) (d : Nat) (env : Interference)
    (address : Nat) (b : Buffer) (d' : Nat) :
    ((pciDeviceDma sink s d env address b).1.pci.devices d').pbaErase =
      (s.pci.devices d').pbaErase := by
  unfold pciDeviceDma
  simp only
  split
  · rfl
  split
  · rfl
  · split <;> rfl
  rename_i n _
  have h := systemTranslate_device sink s (some d) n env address b.size b.isWrite d'
  unfold systemBufferAccess
  split
  · rfl
  split
  · rename_i ht; rw [ht] at h; exact h
  rename_i ht
  rw [ht] at h
  simp only
  split <;> exact h

theorem ownersSame_riscvIommuSetContext (s : IommuSystem) (context : Option Nat) :
    OwnersSame s (riscvIommuSetContext s context).1 := by
  have hhandler : ∀ (s : IommuSystem) (n : Nat) (faultHandler : Bool) (i : Nat),
      ((s.setContext n (iommuContextSetFaultHandler (s.contexts n) faultHandler)).contexts i).owner =
        (s.contexts i).owner := by
    intro s n faultHandler i
    simp only [IommuSystem.setContext, Function.update_apply]
    split
    · rename_i hi; rw [hi]; rfl
    · rfl
  unfold riscvIommuSetContext
  split
  · exact ⟨rfl, fun _ => rfl, fun _ => rfl⟩
  extract_lets t u
  have ht : t.pci = s.pci ∧ t.iommu = s.iommu ∧ ∀ n, (t.contexts n).owner = (s.contexts n).owner := by
    simp only [t]
    split
    · exact ⟨rfl, rfl, fun _ => rfl⟩
    split
    · exact ⟨rfl, rfl, fun _ => rfl⟩
    · exact ⟨rfl, rfl, hhandler s _ false⟩
  have hu : OwnersSame s u := by
    refine ⟨?_, ht.2.2, fun d => ?_⟩
    · simp only [u, IommuSystem.updateIommu, ht.2.1]
    · simp only [u, IommuSystem.updateIommu, ht.1]
  split
  · exact hu
  · exact ⟨hu.bindings, fun i => (hhandler u _ true i).trans (hu.owner i), hu.device⟩

/-- The step binds or unbinds a device, or is one of the PCI core. -/
def IommuOp.rewires : IommuOp → Bool
  | .pci _ | .bind .. | .unbind _ => true
  | _ => false

theorem ownersSame_iommuStep (sink : Sink) (s : IommuSystem) {op : IommuOp}
    (h : op.rewires = false) : OwnersSame s (iommuStep sink s op) := by
  cases op with
  | pci op => cases h
  | bind d n => cases h
  | unbind d => cases h
  | mmioWrite offset size value =>
    simp only [iommuStep]
    cases iommuMmioWrite_outcome sink s offset size value with
    | registers heq hkeep => rw [heq]; exact ⟨hkeep.bindings, fun _ => rfl, fun _ => rfl⟩
    | directory heq => rw [heq]; exact .of_commandsRan (commandsRan_iommuApplyDdt _) rfl
    | commands heq =>
      rw [heq]
      exact .of_commandsRan (commandsRan_iommuProcessCommandQueue sink _) rfl
    | head _ heq => rw [heq]; exact ⟨rfl, fun _ => rfl, fun _ => rfl⟩
  | translate n env address size write =>
    obtain ⟨_, _, _, _, _, hi⟩ :=
      systemTranslate_registers sink s (s.contexts n).attachedDevice n env address size write
    exact ⟨by simp only [iommuStep, hi],
      fun i => owner_of_wiring (systemTranslate_contexts sink s _ n env address size write i).wiring,
      systemTranslate_device sink s _ n env address size write⟩
  | dma d env address b =>
    obtain ⟨_, _, _, _, _, hi⟩ := pciDeviceDma_registers sink s d env address b
    exact ⟨by simp only [iommuStep, hi],
      fun i => owner_of_wiring (pciDeviceDma_contexts sink s d env address b i).wiring,
      pciDeviceDma_device sink s d env address b⟩
  | setMode n mode => exact .setContext s (.setMode ..)
  | setSv39 n rootPpn updateAd => exact .setContext s (.setSv39Mode ..)
  | setSv39x4 n rootPpn updateAd => exact .setContext s (.setSv39Mode ..)
  | invalidate n address size => exact .setContext s (.invalidate ..)
  | setContext context => exact ownersSame_riscvIommuSetContext s context
  | reset => exact .of_commandsRan (commandsRan_riscvIommuReset s) rfl

/-! ## The invariant -/

/-- Contexts and devices belong together as the bindings say. -/
structure Attributed (s : IommuSystem) : Prop where
  /-- A context is attached to the device that is bound to it. -/
  attached : ∀ n d, (s.contexts n).attachedDevice = some d → ⟨d, n⟩ ∈ s.iommu.bindings.list
  /-- Only the DMA of a bound device goes through a context. -/
  space : ∀ d n, (s.pci.devices d).parent.dmaAs = some (.context n) →
    ⟨d, n⟩ ∈ s.iommu.bindings.list
  /-- The address space that a device gets back is not a context. -/
  saved : ∀ b ∈ s.iommu.bindings.list, ∀ n, (s.contexts b.context).savedDmaAs ≠ some (.context n)
  /-- The context keeps the ID that the device has. -/
  id_eq : ∀ b ∈ s.iommu.bindings.list,
    (s.contexts b.context).requesterId = (s.pci.devices b.device).requesterId

/-- The step does not change the requester ID of a bound device. -/
def KeepsRequesterIds (sink : Sink) (s : IommuSystem) : IommuOp → Prop
  | .pci op => ∀ b ∈ s.iommu.bindings.list,
    ((pciStep sink s.pci op).devices b.device).requesterId = (s.pci.devices b.device).requesterId
  | _ => True

theorem Attributed.initial {s : IommuSystem} (h : s.Initial) : Attributed s := by
  obtain ⟨pci, dev, ⟨memory, -, rfl⟩, hdev, hpci, hiommu, hctx, -, -⟩ := h
  have hempty : s.iommu.bindings.list = [] := by rw [hiommu]; rfl
  refine ⟨fun n d hd => ?_, fun d n hd => ?_, fun b hb => ?_, fun b hb => ?_⟩
  · obtain ⟨mode, hmode⟩ := hctx n
    rw [hmode] at hd
    cases hd
  · rw [hpci, updateDevice_devices, Function.update_apply] at hd
    split at hd
    · cases hdev
      cases hd
    · cases hd
  · rw [hempty] at hb; cases hb
  · rw [hempty] at hb; cases hb

/-- A step that leaves the bindings and the owners of the contexts alone. -/
theorem Attributed.of_same {s t : IommuSystem} (h : Attributed s)
    (hb : t.iommu.bindings = s.iommu.bindings)
    (ho : ∀ n, (t.contexts n).owner = (s.contexts n).owner) (hd : DmaKeep s.pci t.pci)
    (hid : ∀ b ∈ s.iommu.bindings.list,
      (t.pci.devices b.device).requesterId = (s.pci.devices b.device).requesterId) :
    Attributed t := by
  have ho' : ∀ n, (t.contexts n).attachedDevice = (s.contexts n).attachedDevice ∧
      (t.contexts n).savedDmaAs = (s.contexts n).savedDmaAs ∧
      (t.contexts n).requesterId = (s.contexts n).requesterId := by
    intro n
    simpa only [IommuContext.owner, Prod.mk.injEq] using ho n
  refine ⟨fun n d hn => ?_, fun d n hn => ?_, fun b hb' n => ?_, fun b hb' => ?_⟩
  · rw [(ho' n).1] at hn
    rw [hb]
    exact h.attached n d hn
  · rw [hb]
    exact h.space d n (hd d n hn)
  · rw [hb] at hb'
    rw [(ho' b.context).2.1]
    exact h.saved b hb' n
  · rw [hb] at hb'
    rw [(ho' b.context).2.2, hid b hb']
    exact h.id_eq b hb'

/-- A valid call of the PCI core gives no function a context. -/
theorem dmaKeep_of_valid (sink : Sink) {s : IommuSystem} {op : PciOp}
    (hv : (IommuOp.pci op).Valid s) : DmaKeep s.pci (pciStep sink s.pci op) := by
  by_cases hop : op.setsDmaAs = false
  · exact dmaKeep_pciStep sink s.pci hop
  cases op with
  | setDmaAs d space =>
    obtain ⟨-, hspace, -⟩ := hv
    simp only [pciStep, PciState.tryDevice, pciDeviceSetDmaAs]
    split
    · exact .refl _
    rename_i dev hdev
    split at hdev
    · cases hdev
    · cases hdev
      exact .updateDevice _ d fun n hn => absurd hn (hspace n)
  | _ => exact absurd rfl hop

/-- The remapper of a device is set; its owner and its ID stay. -/
theorem setRemapper_device (s : PciState) (d : Nat) (remap : Bool) (d' : Nat) :
    ((s.tryDevice d (pciDeviceSetMsixRemapper · remap)).devices d').parent =
        (s.devices d').parent ∧
      ((s.tryDevice d (pciDeviceSetMsixRemapper · remap)).devices d').requesterId =
        (s.devices d').requesterId := by
  unfold PciState.tryDevice pciDeviceSetMsixRemapper
  by_cases hconf : (s.devices d).msix.configured
  · simp only [hconf, Bool.not_true, Bool.false_eq_true, if_false, updateDevice_devices,
      Function.update_apply]
    split
    · rename_i hd; rw [hd]; exact ⟨rfl, rfl⟩
    · exact ⟨rfl, rfl⟩
  · simp only [Bool.eq_false_iff.mpr hconf, Bool.not_false, if_true, and_self]

theorem Attributed.bind {s t : IommuSystem} (h : Attributed s) {d n : Nat}
    (ho : BindOutcome s d n t) : Attributed t := by
  cases ho with
  | same heq => rwa [heq]
  | detached hattached hfree _ _ _ => exact absurd rfl (hfree _ (h.attached n d hattached))
  | @bound dev bindings hunbound hspace hpci hctx hi hlist _ =>
    have hbind : t.iommu.bindings.list = s.iommu.bindings.list ++ [⟨d, n⟩] := by rw [hi, hlist]
    have hdev : dev.requesterId = (s.pci.devices d).requesterId ∧
        dev.parent.dmaAs = some (.context n) := by
      unfold pciDeviceSetDmaAs at hspace
      split at hspace
      · cases hspace
      · cases hspace; exact ⟨rfl, rfl⟩
    have hdevice : ∀ d', (t.pci.devices d').requesterId = (s.pci.devices d').requesterId ∧
        (t.pci.devices d').parent.dmaAs =
          if d' = d then some (.context n) else (s.pci.devices d').parent.dmaAs := by
      intro d'
      obtain ⟨hparent, hid⟩ := setRemapper_device (s.pci.updateDevice d fun _ => dev) d true d'
      rw [hpci, hparent, hid, updateDevice_devices, Function.update_apply]
      split
      · rename_i hd; rw [hd]; exact hdev
      · exact ⟨rfl, rfl⟩
    have hold : ∀ b ∈ s.iommu.bindings.list, t.contexts b.context = s.contexts b.context :=
      fun b hb => by rw [hctx]; exact Function.update_of_ne (hunbound b hb).2 _ _
    refine ⟨fun i d' hd' => ?_, fun d' i hd' => ?_, fun b hb => ?_, fun b hb => ?_⟩
    · rw [hbind, List.mem_append]
      rw [hctx, Function.update_apply] at hd'
      split at hd'
      · rename_i hin
        cases hd'
        exact .inr (by rw [hin]; exact List.mem_singleton_self _)
      · exact .inl (h.attached i d' hd')
    · rw [hbind, List.mem_append]
      rw [(hdevice d').2] at hd'
      split at hd'
      · rename_i hdd
        cases hd'
        exact .inr (by rw [hdd]; exact List.mem_singleton_self _)
      · exact .inl (h.space d' i hd')
    · intro i hi'
      rw [hbind, List.mem_append, List.mem_singleton] at hb
      rcases hb with hb | rfl
      · rw [hold b hb] at hi'
        exact h.saved b hb i hi'
      · -- The device was not bound, so its address space was not a context.
        rw [hctx, Function.update_self] at hi'
        exact (hunbound _ (h.space d i hi')).1 rfl
    · rw [hbind, List.mem_append, List.mem_singleton] at hb
      rw [(hdevice b.device).1]
      rcases hb with hb | rfl
      · rw [hold b hb]
        exact h.id_eq b hb
      · rw [hctx, Function.update_self]
        exact hdev.1

theorem Attributed.unbind {s t : IommuSystem} (h : Attributed s) {d : Nat}
    (ho : UnbindOutcome s d t) : Attributed t := by
  cases ho with
  | same heq => rwa [heq]
  | @unbound index b hget hdevice hpci hctx hi _ =>
    have hperm := Bindings.perm_remove hget
    have hbind : t.iommu.bindings.list = (s.iommu.bindings.remove index).list := by rw [hi]
    have hb : b ∈ s.iommu.bindings.list := hperm.mem_iff.mpr List.mem_cons_self
    -- The other bindings are still there, and their contexts are others.
    have hkeep : ∀ x ∈ s.iommu.bindings.list, x ≠ b → x ∈ t.iommu.bindings.list := by
      intro x hx hne
      rw [hbind]
      exact (List.mem_cons.mp (hperm.mem_iff.mp hx)).resolve_left hne
    have hother : ∀ x ∈ t.iommu.bindings.list, x ∈ s.iommu.bindings.list ∧
        x.context ≠ b.context := by
      intro x hx
      rw [hbind] at hx
      have hnd := (hperm.map (·.context)).nodup_iff.mp s.iommu.bindings.contexts_nodup
      refine ⟨hperm.mem_iff.mpr (List.mem_cons_of_mem _ hx), fun hne => ?_⟩
      exact (List.nodup_cons.mp hnd).1 (List.mem_map.mpr ⟨x, hx, hne⟩)
    have hdev : ∀ d', (t.pci.devices d').requesterId = (s.pci.devices d').requesterId ∧
        (t.pci.devices d').parent.dmaAs = if d' = d then (s.contexts b.context).savedDmaAs
          else (s.pci.devices d').parent.dmaAs := by
      intro d'
      obtain ⟨hparent, hid⟩ := setRemapper_device (s.pci.updateDevice d fun dev => { dev with
        parent := { dev.parent with
          dmaAs := (s.contexts b.context).savedDmaAs
          dmaAsFromBus := (s.contexts b.context).savedDmaAsFromBus } }) d false d'
      rw [hpci, hparent, hid, updateDevice_devices, Function.update_apply]
      split
      · rename_i hd; rw [hd]; exact ⟨rfl, rfl⟩
      · exact ⟨rfl, rfl⟩
    have hsame : ∀ x ∈ t.iommu.bindings.list, t.contexts x.context = s.contexts x.context :=
      fun x hx => by rw [hctx]; exact Function.update_of_ne (hother x hx).2 _ _
    refine ⟨fun n d' hd' => ?_, fun d' n hd' => ?_, fun x hx n => ?_, fun x hx => ?_⟩
    · rw [hctx, Function.update_apply] at hd'
      split at hd'
      · cases hd'
      · rename_i hn
        exact hkeep _ (h.attached n d' hd') fun hxb => hn (congrArg Binding.context hxb)
    · rw [(hdev d').2] at hd'
      split at hd'
      · exact absurd hd' (h.saved b hb n)
      · rename_i hdd
        refine hkeep _ (h.space d' n hd') fun hxb => hdd ?_
        exact (congrArg Binding.device hxb).trans hdevice
    · rw [hsame x hx]
      exact h.saved x (hother x hx).1 n
    · rw [hsame x hx, (hdev x.device).1]
      exact h.id_eq x (hother x hx).1

/-- Every valid step that keeps the IDs of the bound devices keeps the invariant. -/
theorem attributed_iommuStep (sink : Sink) {s : IommuSystem} {op : IommuOp} (h : Attributed s)
    (hv : op.Valid s) (hid : KeepsRequesterIds sink s op) : Attributed (iommuStep sink s op) := by
  by_cases hop : op.rewires = false
  · have hsame := ownersSame_iommuStep sink s hop
    refine h.of_same hsame.bindings hsame.owner (fun d n hn => ?_) fun b _ => hsame.requesterId _
    rwa [hsame.dmaAs] at hn
  cases op with
  | pci op => exact h.of_same rfl (fun _ => rfl) (dmaKeep_of_valid sink hv) hid
  | bind d n => exact h.bind (riscvIommuBindDevice_outcome s d n)
  | unbind d => exact h.unbind (riscvIommuUnbindDevice_outcome s d)
  | _ => exact absurd rfl hop

/-! ## Records -/

/-- The record names the device by the ID that the context keeps. -/
theorem deviceId_faultRecord (f : Fault) :
    (decodeFault (faultRecord f)).deviceId = f.requesterId.toNat := by
  obtain ⟨cause, hlt, -, hword⟩ := loadLe_faultRecord_header f
  simp only [decodeFault, hword, fqHdrDidShift]
  omega

/-- Each record names the device whose access failed. -/
def RecordsAttributed (s : IommuSystem) : Prop :=
  ∀ f result, .fault f result ∈ s.faultLog → ∀ d, f.device = some d →
    (decodeFault (faultRecord f)).deviceId = f.deviceId.toNat

theorem dmaAs_of_dmaContext {dev : PciDevice} {n : Nat} (h : dev.dmaContext = some n) :
    dev.parent.dmaAs = some (.context n) := by
  unfold PciDevice.dmaContext at h
  split at h
  · cases h
  split at h
  · rename_i hspace
    cases h
    exact hspace
  · cases h

/-- The device of a fault is bound to the context that reports it. -/
theorem Attributed.mem_of_faultSource {s : IommuSystem} (h : Attributed s) {n d : Nat}
    {device : Option Nat} (hsource : FaultSource s n device) (hd : device = some d) :
    ⟨d, n⟩ ∈ s.iommu.bindings.list := by
  subst hd
  rcases hsource with hattached | ⟨d', hd', hctx⟩
  · exact h.attached n d hattached
  · cases hd'
    exact h.space d n (dmaAs_of_dmaContext hctx)

theorem recordsAttributed_iommuStep (sink : Sink) {s : IommuSystem} (op : IommuOp)
    (h : Attributed s) (hlog : RecordsAttributed s) : RecordsAttributed (iommuStep sink s op) := by
  cases iommuStep_faultQueue sink s op with
  | quiet heq => unfold RecordsAttributed; rw [heq]; exact hlog
  | head _ heq =>
    rw [heq]
    intro f result hf d hd
    rcases List.mem_cons.mp hf with hnew | hold
    · cases hnew
    · exact hlog f result hold d hd
  | @fault u f device n address size write e hsame _ _ hfault hsource heq =>
    obtain ⟨result, hcons⟩ := (faultReported_iommuFaultHandler sink u f).faultLog
    have hu : u.faultLog = s.faultLog := congrArg (·.2.2.2.2) hsame
    unfold RecordsAttributed
    rw [heq, hcons, hu]
    intro f' result' hf d hd
    rcases List.mem_cons.mp hf with hnew | hold
    · cases hnew
      subst hfault
      have hd' : device = some d := hd
      have hmem := h.mem_of_faultSource hsource hd'
      rw [deviceId_faultRecord]
      subst hd'
      exact congrArg UInt16.toNat (h.id_eq _ hmem)
    · exact hlog f' result' hold d hd

/-- In every run of valid steps that do not change the requester ID of a bound device, each record
of the fault queue names the device whose access failed. -/
theorem fault_attribution {sink : Sink} {s : IommuSystem}
    (h : Reach (iommuStep sink) IommuSystem.Initial
      (fun s op => op.Valid s ∧ KeepsRequesterIds sink s op) s) : RecordsAttributed s := by
  refine (Reach.invariant (I := fun s => Attributed s ∧ RecordsAttributed s) ?_ ?_ h).2
  · intro s hs
    refine ⟨.initial hs, ?_⟩
    obtain ⟨_, _, _, _, _, _, _, _, hlog⟩ := hs
    unfold RecordsAttributed
    rw [hlog]
    exact fun _ _ hf => nomatch hf
  · intro s op hI ha
    exact ⟨attributed_iommuStep sink hI.1 ha.1 ha.2,
      recordsAttributed_iommuStep sink op hI.1 hI.2⟩

/-- The queue is turned on, the device at `devfn` of the root bus starts, and a read of it fails. -/
def readFails (devfn : Nat) : List IommuOp :=
  [.pci (.realize 1), .pci (.ecamWrite (devfn <<< 12 ||| 4) .half 4),
    .mmioWrite regFqb 8 (0x80000 <<< 10 ||| 1), .mmioWrite regFqcsr 4 1,
    .dma 1 quiet 0x1000 (.read 4)]

/-- The device is added to the bus before it is bound. -/
def addedThenBound : IommuSystem :=
  runFrom (iommuStep fun _ => .ok ()) (iommuAtReset ramAtDram)
    ([.pci (.deviceInit 1 0x1af4 0x1041 0 0 0 2), .pci (.addDevice 0 1 8), .bind 1 0] ++ readFails 8)

theorem addedThenBound_attributed :
    addedThenBound.faultLog.length = 1 ∧ RecordsAttributed addedThenBound := by
  refine ⟨by decide +kernel, @fault_attribution (fun _ => .ok ()) _ ?_⟩
  refine Reach.runFrom (.start (iommuAtReset_initial (by decide))) ?_
  refine ⟨⟨⟨rfl, trivial⟩, ?_⟩, ⟨⟨⟨by decide +kernel, by decide +kernel⟩, trivial⟩, ?_⟩,
    ⟨by unfold IommuOp.Valid; decide +kernel, trivial⟩, ⟨⟨trivial, trivial⟩, ?_⟩, ⟨⟨trivial, trivial⟩, ?_⟩,
    ⟨trivial, trivial⟩, ⟨trivial, trivial⟩, ⟨trivial, trivial⟩, trivial⟩
  all_goals
    unfold KeepsRequesterIds
    decide +kernel

/-- The device is bound before it is added to the bus. -/
def boundThenAdded : IommuSystem :=
  runFrom (iommuStep fun _ => .ok ()) (deviceBound ramAtDram)
    (.pci (.addDevice 0 1 8) :: readFails 8)

/-- The device has requester ID `8`, and the record of its fault names the device `0`. -/
theorem boundThenAdded_misattributed :
    Reach (iommuStep fun _ => .ok ()) IommuSystem.Initial IommuOp.Valid boundThenAdded ∧
    (boundThenAdded.pci.devices 1).requesterId = 8 ∧
    faultSlot boundThenAdded.memory (queueBase boundThenAdded.iommu.fqb) 0 =
      some ⟨fqCauseReadFault, 0, 0x1000, Errno.eacces.code, 4⟩ ∧
    ¬ RecordsAttributed boundThenAdded := by
  refine ⟨?_, by decide +kernel, by decide +kernel, fun h => ?_⟩
  · refine Reach.runFrom (deviceBound_reach (by decide)) ?_
    exact ⟨⟨⟨by decide +kernel, by decide +kernel⟩, trivial⟩, ⟨trivial, trivial⟩,
      ⟨trivial, trivial⟩, trivial, trivial, trivial, trivial⟩
  · have hlog : boundThenAdded.faultLog =
        [.fault ⟨some 1, 8, 0, 0x1000, 4, false, .eacces⟩ (.ok ())] := by decide +kernel
    have hid := h _ _ (hlog ▸ List.mem_singleton_self _) 1 rfl
    rw [deviceId_faultRecord] at hid
    exact absurd hid (by decide)

end Vart
