import Vart.Iommu.Association
import Vart.Machine.Hookup
import Vart.Riscv.Contexts

/-!
# Contexts that are attached by hand

`vart_iommu_context_attach` and `vart_iommu_context_detach` are calls of their own: they do not
need the IOMMU to bind the device. `AttachOp` has them next to the calls that put a device on a
bus.

* `attach_run_refines`: a run changes the address spaces as the run of `DmaState` with the calls
  that succeed does, so what holds of all runs of `DmaState` holds of it,
* `riscvIommuBindDevice_keeps_iff`: a failing `vart_riscv_iommu_bind_device` leaves everything as
  it was, unless it finds its own device attached by hand, which it then takes back.
-/

namespace Vart

open Lib

/-! ## Calls -/

inductive AttachOp where
  | add (bus d : Nat) (devfn : UInt8)
  | remove (bus d : Nat)
  | attach (n d : Nat)
  | detach (n d : Nat)
  | setDmaAs (d : Nat) (space : Option SpaceId)
  | realize (d : Nat)
  | unrealize (d : Nat)

def IommuSystem.setPci (s : IommuSystem) (pci : PciState) : IommuSystem := { s with pci }

def attachStep (sink : Sink) (s : IommuSystem) : AttachOp → IommuSystem
  | .add bus d devfn => s.setPci (pciBusAddDevice s.pci bus d devfn).1
  | .remove bus d => s.setPci (pciBusRemoveDevice s.pci bus d).1
  | .attach n d => (iommuContextAttach s n d).1
  | .detach n d => (iommuContextDetach s n d).1
  | .setDmaAs d space => s.setPci (s.pci.tryDevice d (pciDeviceSetDmaAs · space))
  | .realize d => s.setPci (pciDeviceRealize s.pci d).1
  | .unrealize d => s.setPci (pciDeviceUnrealize sink s.pci d)

/-- What a call returns. `vart_device_unrealize` returns nothing. -/
def attachStatus (s : IommuSystem) : AttachOp → Status
  | .add bus d devfn => (pciBusAddDevice s.pci bus d devfn).2
  | .remove bus d => (pciBusRemoveDevice s.pci bus d).2
  | .attach n d => (iommuContextAttach s n d).2
  | .detach n d => (iommuContextDetach s n d).2
  | .setDmaAs d space => (pciDeviceSetDmaAs (s.pci.devices d) space).map fun _ => ()
  | .realize d => (pciDeviceRealize s.pci d).2
  | .unrealize _ => .ok ()

/-- The calls of a run that succeed. -/
def succeeded (sink : Sink) : IommuSystem → List AttachOp → List AttachOp
  | _, [] => []
  | s, op :: ops =>
    match attachStatus s op with
    | .error _ => succeeded sink (attachStep sink s op) ops
    | .ok _ => op :: succeeded sink (attachStep sink s op) ops

/-! ## Address spaces -/

/-- There is one address space of the machine, and all buses have it. -/
def SpaceId.toDma : SpaceId → DmaSpace Unit
  | .system => .memory ()
  | .context n => .context n

def Hookup.toDma (h : Hookup) (given : List (Option (DmaSpace Unit))) : DmaDevice Unit where
  realized := h.parent.realized
  bus := h.pciBus
  dmaAs := h.parent.dmaAs.map SpaceId.toDma
  dmaAsFromBus := h.parent.dmaAsFromBus
  given := given

theorem Hookup.toDma_attach (h : Hookup) (bus : Nat) (devfn : UInt8)
    (given : List (Option (DmaSpace Unit))) :
    (h.attach bus devfn).toDma given = { h.toDma given with
      bus := some bus
      dmaAs := if (h.toDma given).dmaAs.isNone then some (.memory ()) else (h.toDma given).dmaAs
      dmaAsFromBus := (h.toDma given).dmaAs.isNone } := by
  obtain ⟨⟨realized, dmaAs, fromBus⟩, _, _, _, _⟩ := h
  cases dmaAs <;> rfl

theorem Hookup.toDma_detach (h : Hookup) (given : List (Option (DmaSpace Unit))) :
    h.detach.toDma given = { h.toDma given with
      bus := none
      dmaAs := if (h.toDma given).dmaAsFromBus then none else (h.toDma given).dmaAs
      dmaAsFromBus := false } := by
  obtain ⟨⟨realized, dmaAs, fromBus⟩, _, _, _, _⟩ := h
  cases fromBus <;> rfl

def IommuContext.toDma (c : IommuContext) : DmaContext Unit where
  attachedDevice := c.attachedDevice
  savedDmaAs := c.savedDmaAs.map SpaceId.toDma
  savedDmaAsFromBus := c.savedDmaAsFromBus

/-- The address spaces of a system where the devices were given `given`. -/
def IommuSystem.toDma (s : IommuSystem) (given : Nat → List (Option (DmaSpace Unit))) :
    DmaState Unit where
  devices d := (s.pci.hookups d).toDma (given d)
  contexts n := (s.contexts n).toDma

section toDma

variable {s t : IommuSystem} {given : Nat → List (Option (DmaSpace Unit))} {d : Nat}

theorem toDma_setPci_same {pci : PciState} (h : pci.hookups = s.pci.hookups) :
    (s.setPci pci).toDma given = s.toDma given := by
  unfold IommuSystem.toDma IommuSystem.setPci
  rw [h]

theorem toDma_setPci_give {pci : PciState} {x : Hookup}
    (h : pci.hookups = Function.update s.pci.hookups d x) (l : List (Option (DmaSpace Unit))) :
    (s.setPci pci).toDma (Function.update given d l) =
      (s.toDma given).setDevice d (x.toDma l) := by
  unfold IommuSystem.toDma IommuSystem.setPci DmaState.setDevice
  rw [h]
  congr 1
  funext e
  by_cases he : e = d
  · subst he
    rw [Function.update_self, Function.update_self, Function.update_self]
  · rw [Function.update_of_ne he, Function.update_of_ne he, Function.update_of_ne he]

theorem toDma_setPci {pci : PciState} {x : Hookup}
    (h : pci.hookups = Function.update s.pci.hookups d x) :
    (s.setPci pci).toDma given = (s.toDma given).setDevice d (x.toDma (given d)) := by
  have hgive : (s.setPci pci).toDma (Function.update given d (given d)) = _ :=
    toDma_setPci_give h (given d)
  rwa [Function.update_eq_self] at hgive

theorem toDma_setContext (n : Nat) (c : IommuContext) :
    (s.setContext n c).toDma given = (s.toDma given).setContext n c.toDma := by
  unfold IommuSystem.toDma IommuSystem.setContext DmaState.setContext
  congr 1
  funext m
  by_cases hm : m = n
  · subst hm
    simp only [Function.update_self]
  · simp only [Function.update_of_ne hm]

end toDma

/-- The call of `DmaState`. -/
def AttachOp.toDma : AttachOp → DmaOp Unit
  | .add bus d _ => .add bus d
  | .remove bus d => .remove bus d
  | .attach n d => .attach n d
  | .detach n d => .detach n d
  | .setDmaAs d space => .setDmaAs d (space.map SpaceId.toDma)
  | .realize d => .setRealized d true
  | .unrealize d => .setRealized d false

/-- What the devices were given after a call that succeeded. -/
def AttachOp.give (given : Nat → List (Option (DmaSpace Unit))) :
    AttachOp → Nat → List (Option (DmaSpace Unit))
  | .setDmaAs d space => Function.update given d (space.map SpaceId.toDma :: given d)
  | _ => given

/-- What the devices were given in a run of calls that succeed. -/
def givenBy (given : Nat → List (Option (DmaSpace Unit))) (ops : List AttachOp) :
    Nat → List (Option (DmaSpace Unit)) := ops.foldl AttachOp.give given

/-- A call that fails changes no address space, and one that succeeds is the call of `DmaState`. -/
structure CallRefines (s t : IommuSystem) (op : AttachOp)
    (given : Nat → List (Option (DmaSpace Unit))) : Prop where
  failed : ∀ e, attachStatus s op = .error e → t.toDma given = s.toDma given
  ok : attachStatus s op = .ok () →
    t.toDma (op.give given) = dmaStep (fun _ => ()) (s.toDma given) op.toDma

namespace CallRefines

variable {s t : IommuSystem} {op : AttachOp} {given : Nat → List (Option (DmaSpace Unit))}

theorem of_error {e : Errno} (hstatus : attachStatus s op = .error e)
    (h : t.toDma given = s.toDma given) : CallRefines s t op given :=
  ⟨fun _ _ => h, fun hok => by cases hstatus.symm.trans hok⟩

theorem of_ok (hstatus : attachStatus s op = .ok ())
    (h : t.toDma (op.give given) = dmaStep (fun _ => ()) (s.toDma given) op.toDma) :
    CallRefines s t op given :=
  ⟨fun _ herror => (by cases hstatus.symm.trans herror), fun _ => h⟩

end CallRefines

theorem toDma_attachStep (sink : Sink) (s : IommuSystem) (op : AttachOp)
    (given : Nat → List (Option (DmaSpace Unit))) :
    CallRefines s (attachStep sink s op) op given := by
  cases op with
  | add bus d devfn =>
    rcases pciBusAddDevice_cases s.pci bus d devfn with ⟨e, hr⟩ | ⟨t, hr, hadd⟩
    · exact .of_error (congrArg Prod.snd hr) (by rw [attachStep, hr]; rfl)
    · refine .of_ok (congrArg Prod.snd hr) ?_
      simp only [attachStep, AttachOp.give, AttachOp.toDma, dmaStep]
      have hfree : ¬ (((s.toDma given).devices d).bus.isSome ||
          ((s.toDma given).devices d).realized) = true := by
        simp only [IommuSystem.toDma, Hookup.toDma, hadd.offBus, hadd.unrealized]
        exact Bool.false_ne_true
      rw [hr, toDma_setPci hadd.hookups, DmaState.addDevice, if_neg hfree, Hookup.toDma_attach]
      rfl
  | remove bus d =>
    rcases pciBusRemoveDevice_cases s.pci bus d with ⟨e, hr, -⟩ | ⟨t, hr, hbus, hrealized, hremoved⟩
    · exact .of_error (congrArg Prod.snd hr) (by rw [attachStep, hr]; rfl)
    · refine .of_ok (congrArg Prod.snd hr) ?_
      simp only [attachStep, AttachOp.give, AttachOp.toDma, dmaStep]
      have hon : ¬ (((s.toDma given).devices d).bus ≠ some bus ∨
          ((s.toDma given).devices d).realized = true) := by
        rw [not_or, not_not, Bool.not_eq_true]
        exact ⟨hbus, hrealized⟩
      rw [hr, toDma_setPci hremoved.hookups, DmaState.removeDevice, if_neg hon,
        Hookup.toDma_detach]
      rfl
  | attach n d =>
    by_cases hbusy : ((s.contexts n).attachedDevice.isSome ||
        (s.pci.devices d).parent.realized) = true
    · have hfail : iommuContextAttach s n d = (s, .error .einval) := if_pos hbusy
      exact .of_error (congrArg Prod.snd hfail) (by rw [attachStep, hfail])
    · have hset : pciDeviceSetDmaAs (s.pci.devices d) (some (.context n)) = .ok _ :=
        if_neg fun hrealized => hbusy (by rw [hrealized, Bool.or_true])
      refine .of_ok (by rw [attachStatus, iommuContextAttach, if_neg hbusy, hset]) ?_
      simp only [attachStep, AttachOp.give, AttachOp.toDma, dmaStep]
      rw [iommuContextAttach, DmaState.attach, if_neg hbusy,
        if_neg (show ¬ (((s.toDma given).contexts n).attachedDevice.isSome ||
          ((s.toDma given).devices d).realized) = true from hbusy), hset, toDma_setContext]
      exact congrArg (DmaState.setContext · n _) (toDma_setPci (hookups_updateDevice s.pci d _))
  | detach n d =>
    by_cases hbusy : (s.contexts n).attachedDevice ≠ some d ∨
        (s.pci.devices d).parent.realized = true
    · have hfail : iommuContextDetach s n d = (s, .error .einval) := if_pos hbusy
      exact .of_error (congrArg Prod.snd hfail) (by rw [attachStep, hfail])
    · refine .of_ok (by rw [attachStatus, iommuContextDetach, if_neg hbusy]) ?_
      simp only [attachStep, AttachOp.give, AttachOp.toDma, dmaStep, iommuContextDetach,
        DmaState.detach]
      rw [if_neg hbusy, if_neg (show ¬ (((s.toDma given).contexts n).attachedDevice ≠ some d ∨
        ((s.toDma given).devices d).realized = true) from hbusy), toDma_setContext]
      exact congrArg (DmaState.setContext · n _) (toDma_setPci (hookups_updateDevice s.pci d _))
  | setDmaAs d space =>
    by_cases hbusy : (s.pci.devices d).parent.realized = true
    · have hset : pciDeviceSetDmaAs (s.pci.devices d) space = .error .ebusy := if_pos hbusy
      refine .of_error (by rw [attachStatus, hset]; rfl) ?_
      rw [attachStep, PciState.tryDevice, hset]
      rfl
    · have hset : pciDeviceSetDmaAs (s.pci.devices d) space = .ok _ := if_neg hbusy
      refine .of_ok (by rw [attachStatus, hset]; rfl) ?_
      simp only [attachStep, AttachOp.give, AttachOp.toDma, dmaStep]
      rw [PciState.tryDevice, hset, DmaState.setDmaAs,
        if_neg (show ¬ ((s.toDma given).devices d).realized = true from hbusy)]
      exact toDma_setPci_give (hookups_updateDevice s.pci d _) _
  | realize d =>
    rcases pciDeviceRealize_cases s.pci d with ⟨t, e, hr, hhookups, -⟩ | ⟨t, hr, -, hhookups⟩
    · exact .of_error (congrArg Prod.snd hr) (by rw [attachStep, hr, toDma_setPci_same hhookups])
    · refine .of_ok (congrArg Prod.snd hr) ?_
      simp only [attachStep, AttachOp.give, AttachOp.toDma, dmaStep, DmaState.setRealized]
      rw [hr, toDma_setPci hhookups]
      rfl
  | unrealize d =>
    refine .of_ok rfl ?_
    simp only [attachStep, AttachOp.give, AttachOp.toDma, dmaStep, DmaState.setRealized]
    rw [toDma_setPci (hookups_pciDeviceUnrealize sink s.pci d).1]
    rfl

/-- A fresh IOMMU has new devices and contexts. -/
theorem toDma_initial {s : IommuSystem} (h : s.Initial) :
    s.toDma (fun _ => []) = .init Unit := by
  obtain ⟨pci, dev, ⟨memory, -, rfl⟩, hdev, hpci, -, hcontexts, -⟩ := h
  have hnew : riscvIommuPciInit.map (fun dev => dev.hookup.toDma []) =
      .ok ⟨false, none, none, false, []⟩ := rfl
  rw [hdev] at hnew
  have hdevices : ∀ d, (s.pci.hookups d).toDma [] = ⟨false, none, none, false, []⟩ := by
    intro d
    rw [hpci, hookups_updateDevice, Function.update_apply]
    split
    · exact Except.ok.inj hnew
    · rfl
  have hcontext : ∀ n, (s.contexts n).toDma = ⟨none, none, false⟩ := by
    intro n
    obtain ⟨mode, hmode⟩ := hcontexts n
    rw [hmode]
    rfl
  unfold IommuSystem.toDma DmaState.init
  simp only [hdevices, hcontext]

/-- Every run of the calls from a fresh IOMMU is, for the address spaces, the run of `DmaState` with
the calls that succeed. -/
theorem attach_run_refines (sink : Sink) {s : IommuSystem} (h : s.Initial) (ops : List AttachOp) :
    (runFrom (attachStep sink) s ops).toDma (givenBy (fun _ => []) (succeeded sink s ops)) =
      runFrom (dmaStep fun _ => ()) (.init Unit) ((succeeded sink s ops).map AttachOp.toDma) := by
  suffices hrun : ∀ (s : IommuSystem) given,
      (runFrom (attachStep sink) s ops).toDma (givenBy given (succeeded sink s ops)) =
        runFrom (dmaStep fun _ => ()) (s.toDma given) ((succeeded sink s ops).map AttachOp.toDma) by
    rw [← toDma_initial h]
    exact hrun s _
  induction ops with
  | nil => exact fun s given => rfl
  | cons op ops ih =>
    intro s given
    have hcall := toDma_attachStep sink s op given
    rw [runFrom_cons, succeeded]
    cases hstatus : attachStatus s op with
    | error e =>
      dsimp only
      rw [ih, hcall.failed e hstatus]
    | ok _ =>
      dsimp only
      rw [givenBy, List.foldl_cons, ← givenBy, ih, hcall.ok hstatus, List.map_cons, runFrom_cons]

/-- Device `1` is attached, put on a bus and realized; then it can neither be detached nor taken
from the bus. -/
theorem attachedOnBus_refined :
    let ops : List AttachOp :=
      [.attach 0 1, .add 0 1 8, .realize 1, .detach 0 1, .remove 0 1, .setDmaAs 1 none]
    (succeeded (fun _ => .ok ()) (iommuAtReset ramAtDram) ops).map AttachOp.toDma =
        [.attach 0 1, .add 0 1, .setRealized 1 true] ∧
      (runFrom (attachStep fun _ => .ok ()) (iommuAtReset ramAtDram) ops).toDma
          (givenBy (fun _ => []) (succeeded (fun _ => .ok ()) (iommuAtReset ramAtDram) ops)) =
        runFrom (dmaStep fun _ => ()) (.init Unit)
          ((succeeded (fun _ => .ok ()) (iommuAtReset ramAtDram) ops).map AttachOp.toDma) :=
  ⟨by decide +kernel, attach_run_refines _ (iommuAtReset_initial (by decide)) _⟩

/-- A device leaves its bus while it is attached. -/
def leftWhileAttached : IommuSystem :=
  runFrom (attachStep fun _ => .ok ()) (iommuAtReset ramAtDram)
    [.add 0 1 8, .attach 0 1, .remove 0 1, .detach 0 1]

/-- A device joins a bus while it is attached. -/
def joinedWhileAttached : IommuSystem :=
  runFrom (attachStep fun _ => .ok ()) (iommuAtReset ramAtDram)
    [.attach 0 1, .add 0 1 8, .detach 0 1]

/-- The first device gets the address space of the bus back from its context, marked as inherited.
The second one ends up on a bus without an address space. -/
theorem attached_across_bus :
    ((leftWhileAttached.pci.devices 1).pciBus = none ∧
      (leftWhileAttached.pci.devices 1).parent.dmaAs = some .system ∧
      (leftWhileAttached.pci.devices 1).parent.dmaAsFromBus = true ∧
      ∀ given, ¬ Inherits (fun _ => ()) (leftWhileAttached.toDma given)) ∧
    (joinedWhileAttached.pci.devices 1).pciBus = some 0 ∧
      (joinedWhileAttached.pci.devices 1).parent.dmaAs = none ∧
      ¬ Inherits (fun _ => ()) (joinedWhileAttached.toDma fun _ => []) := by
  have hleft : (leftWhileAttached.pci.devices 1).pciBus = none ∧
      (leftWhileAttached.pci.devices 1).parent.dmaAs = some .system ∧
      (leftWhileAttached.pci.devices 1).parent.dmaAsFromBus = true := by decide +kernel
  have hjoined : (joinedWhileAttached.pci.devices 1).pciBus = some 0 ∧
      (joinedWhileAttached.pci.devices 1).parent.dmaAs = none := by decide +kernel
  have hfree : ¬ (joinedWhileAttached.toDma fun _ => []).Attached 1 := by
    rintro ⟨n, hn⟩
    rcases n with _ | n
    · exact Option.some_ne_none 1 (hn.symm.trans (by decide +kernel))
    · cases hn
  refine ⟨⟨hleft.1, hleft.2.1, hleft.2.2, fun given h => ?_⟩, hjoined.1, hjoined.2, fun h => ?_⟩
  · exact Bool.false_ne_true (((h 1).offBus hleft.1).1.symm.trans hleft.2.2)
  · have hspace := (h 1).onBus 0 hjoined.1 hfree rfl
    simp only [IommuSystem.toDma, Hookup.toDma, PciState.hookups, PciDevice.hookup, hjoined.2,
      Option.map_none, reduceCtorEq] at hspace

/-! ## Binding -/

/-- What a failing bind has to leave as it was: the bindings, the attachment and the fault handler
of the context, and the address space and the remapper of the device. -/
structure BindKeeps (s t : IommuSystem) (d n : Nat) : Prop where
  bindings : t.iommu.bindings.list = s.iommu.bindings.list
  wiring : (t.contexts n).wiring = (s.contexts n).wiring
  parent : (t.pci.devices d).parent = (s.pci.devices d).parent
  remap : (t.pci.devices d).msix.remap = (s.pci.devices d).msix.remap

/-- The call finds the device attached to the context, without a binding, and undoes what it did
not do: it takes the remapper and the fault handler away and, unless the device is realized,
detaches it. -/
structure TakesBack (s : IommuSystem) (d n : Nat) : Prop where
  room : s.iommu.bindings.list.length < maxBindings
  unbound : ∀ b ∈ s.iommu.bindings.list, b.device ≠ d ∧ b.context ≠ n ∧
    (s.pci.devices b.device).requesterId ≠ (s.pci.devices d).requesterId
  attached : (s.contexts n).attachedDevice = some d
  visible : (s.pci.devices d).parent.realized = false ∨ (s.contexts n).faultHandler = true ∨
    (s.pci.devices d).msix.configured = true ∧ (s.pci.devices d).msix.remap = true

theorem BindKeeps.refl (s : IommuSystem) (d n : Nat) : BindKeeps s s d n := ⟨rfl, rfl, rfl, rfl⟩

/-- The end of a failing call on an attached context. -/
def takeBack (s : IommuSystem) (d n : Nat) : IommuSystem :=
  let s := s.setRemapper d false
  let s := s.setContext n (iommuContextSetFaultHandler (s.contexts n) false)
  (iommuContextDetach s n d).1

theorem takeBack_keeps_iff {s : IommuSystem} {d n : Nat}
    (hattached : (s.contexts n).attachedDevice = some d) :
    BindKeeps s (takeBack s d n) d n ↔ ¬ ((s.pci.devices d).parent.realized = false ∨
      (s.contexts n).faultHandler = true ∨
      (s.pci.devices d).msix.configured = true ∧ (s.pci.devices d).msix.remap = true) := by
  have hself : (s.setRemapper d false).pci.hookups d = (s.pci.hookups d).setRemap false :=
    (congrFun (hookups_setMsixRemapper s.pci d false) d).trans (Function.update_self _ _ _)
  have hparent : ((s.setRemapper d false).pci.devices d).parent = (s.pci.devices d).parent :=
    (congrArg Hookup.parent hself).trans (Hookup.parent_setRemap _ _)
  have hremap : ((s.setRemapper d false).pci.devices d).msix.remap =
      if (s.pci.devices d).msix.configured then false else (s.pci.devices d).msix.remap :=
    (congrArg Hookup.remap hself).trans (Hookup.remap_setRemap _ _)
  have hcontext : ((s.setRemapper d false).setContext n
      (iommuContextSetFaultHandler (s.contexts n) false)).contexts n =
        iommuContextSetFaultHandler (s.contexts n) false := Function.update_self _ _ _
  unfold takeBack iommuContextDetach
  dsimp only
  rw [show (s.setRemapper d false).contexts n = s.contexts n from rfl, hcontext]
  cases hrealized : (s.pci.devices d).parent.realized with
  | true =>
    -- A realized device is not detached.
    rw [if_pos (.inr ((congrArg (·.realized) hparent).trans hrealized))]
    constructor
    · rintro ⟨-, hwiring, -, hkept⟩ (hfalse | hhandler | ⟨hconfigured, hremapper⟩)
      · cases hfalse
      · rw [hcontext] at hwiring
        have hlost : false = (s.contexts n).faultHandler := congrArg (·.2.2.2.2.2) hwiring
        exact Bool.false_ne_true (hlost.trans hhandler)
      · have hlost := hremap.symm.trans hkept
        rw [if_pos hconfigured, hremapper] at hlost
        cases hlost
    · intro hnot
      rw [not_or, not_or, Bool.not_eq_true, not_and, Bool.not_eq_true] at hnot
      refine ⟨rfl, ?_, hparent, hremap.trans ?_⟩
      · rw [hcontext, IommuContext.wiring, IommuContext.wiring, hnot.2.1]
        rfl
      · split
        · rename_i hconfigured
          exact (hnot.2.2 hconfigured).symm
        · rfl
  | false =>
    have hfree : ¬ ((iommuContextSetFaultHandler (s.contexts n) false).attachedDevice ≠ some d ∨
        (((s.setRemapper d false).setContext n
          (iommuContextSetFaultHandler (s.contexts n) false)).pci.devices d).parent.realized =
            true) := by
      rintro (hother | hbusy)
      · exact hother hattached
      · exact Bool.false_ne_true
          (hrealized.symm.trans ((congrArg (·.realized) hparent).symm.trans hbusy))
    refine iff_of_false (fun hkeeps => ?_) fun hnot => hnot (.inl rfl)
    have hwiring := hkeeps.wiring
    rw [if_neg hfree] at hwiring
    simp only [IommuSystem.setContext, Function.update_self] at hwiring
    have hlost : none = (s.contexts n).attachedDevice := congrArg (·.2.1) hwiring
    cases hlost.trans hattached

/-- A failing bind leaves everything as it was, unless it takes back a context that was attached by
hand. -/
theorem riscvIommuBindDevice_keeps_iff {s t : IommuSystem} {d n : Nat} {e : Errno}
    (h : riscvIommuBindDevice s d n = (t, .error e)) :
    BindKeeps s t d n ↔ ¬ TakesBack s d n := by
  unfold riscvIommuBindDevice at h
  simp only at h
  split at h
  · rename_i hfull
    cases h
    exact iff_of_true (.refl s d n) fun hback => absurd hback.room (by omega)
  split at h
  · rename_i hclash
    cases h
    refine iff_of_true (.refl s d n) fun hback => ?_
    obtain ⟨b, hb, hsame⟩ := hclash
    obtain ⟨hdevice, hcontext, hid⟩ := hback.unbound b hb
    exact hsame.elim hdevice (Or.elim · hcontext hid)
  rename_i hfull hclash
  rcases iommuContextAttach_cases s n d with hattach | ⟨dev, hspace, hattach⟩
  · rw [hattach] at h
    dsimp only at h
    split at h
    · rename_i hattached
      have ht : takeBack s d n = t := congrArg Prod.fst h
      rw [← ht, takeBack_keeps_iff hattached, not_iff_not]
      refine ⟨fun hvisible => ⟨Nat.lt_of_not_le hfull, fun b hb => ?_, hattached, hvisible⟩,
        fun hback => hback.visible⟩
      exact ⟨fun heq => hclash ⟨b, hb, .inl heq⟩, fun heq => hclash ⟨b, hb, .inr (.inl heq)⟩,
        fun heq => hclash ⟨b, hb, .inr (.inr heq)⟩⟩
    · rename_i hattached
      cases h
      exact iff_of_true (.refl s d n) fun hback => hattached hback.attached
  · rw [hattach] at h
    cases h

/-- Device `1` is attached to context `0` by hand. -/
def attachedByHand : IommuSystem :=
  runFrom (attachStep fun _ => .ok ()) (iommuAtReset ramAtDram) [.attach 0 1]

/-- The bind fails and takes the attachment and the address space away. -/
theorem attachedByHand_taken :
    let r := riscvIommuBindDevice attachedByHand 1 0
    r.2 = .error .einval ∧
      (attachedByHand.contexts 0).attachedDevice = some 1 ∧
      (attachedByHand.pci.devices 1).parent.dmaAs = some (.context 0) ∧
      (r.1.contexts 0).attachedDevice = none ∧ (r.1.pci.devices 1).parent.dmaAs = none ∧
      ¬ BindKeeps attachedByHand r.1 1 0 := by
  have hfacts : (riscvIommuBindDevice attachedByHand 1 0).2 = .error .einval ∧
      (attachedByHand.contexts 0).attachedDevice = some 1 ∧
      (attachedByHand.pci.devices 1).parent.dmaAs = some (.context 0) ∧
      ((riscvIommuBindDevice attachedByHand 1 0).1.contexts 0).attachedDevice = none ∧
      ((riscvIommuBindDevice attachedByHand 1 0).1.pci.devices 1).parent.dmaAs = none := by
    decide +kernel
  obtain ⟨hret, hattached, hspace, hlost, hgone⟩ := hfacts
  refine ⟨hret, hattached, hspace, hlost, hgone, fun h => ?_⟩
  have hwiring : none = some 1 := hlost.symm.trans ((congrArg (·.2.1) h.wiring :).trans hattached)
  cases hwiring

/-- A second device for a context that is taken fails and changes nothing. -/
theorem attachedByHand_kept :
    (riscvIommuBindDevice attachedByHand 2 0).2 = .error .einval ∧
      BindKeeps attachedByHand (riscvIommuBindDevice attachedByHand 2 0).1 2 0 := by
  have hret : (riscvIommuBindDevice attachedByHand 2 0).2 = .error .einval := by decide +kernel
  refine ⟨hret, (riscvIommuBindDevice_keeps_iff (Prod.ext rfl hret)).mpr fun hback => ?_⟩
  have hother : (attachedByHand.contexts 0).attachedDevice = some 1 := by decide +kernel
  cases hother.symm.trans hback.attached

end Vart
