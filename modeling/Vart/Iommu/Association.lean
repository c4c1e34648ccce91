import Mathlib.Logic.Function.Basic
import Vart.Lib.Reach

/-!
# The address space of a device

A device uses the address space `dma_as`. A bus fills it in when the device has none
(`vart_pci_bus_add_device`) and takes it back (`vart_pci_bus_remove_device`); `dma_as_from_bus`
says that it did. `vart_iommu_context_attach` saves both fields and sets the address space of a
context; `vart_iommu_context_detach` writes the saved values back, whatever happened in between.

Here the buses may have any address spaces. Calls that fail change nothing, and the conditions of
the calls are those on the fields below; a free slot on the bus is up to the caller.

* `DmaDevice.chosen`: the address space that `vart_pci_device_set_dma_as` gave the device, until a
  call with `NULL` takes it back,
* `Inherits`: a device on no bus has nothing from a bus, and a device on a bus with no address space
  chosen for it uses the one of that bus,
* `DmaOp.Breaks`: the calls that break it,
* `inherits_iff`: a run keeps `Inherits` exactly if no step of it breaks it.
-/

namespace Vart

open Lib

/-! ## State -/

/-- An address space: memory of the machine, or the address space of a context. -/
inductive DmaSpace (α : Type) where
  | memory (a : α)
  | context (n : Nat)
deriving DecidableEq, Repr

structure DmaDevice (α : Type) where
  realized : Bool
  bus : Option Nat
  dmaAs : Option (DmaSpace α)
  dmaAsFromBus : Bool
  /-- The arguments of the calls of `vart_pci_device_set_dma_as` so far, the last one first. -/
  given : List (Option (DmaSpace α))

/-- The address space that was chosen for the device: `NULL` is none. -/
def DmaDevice.chosen {α : Type} (dev : DmaDevice α) : Option (DmaSpace α) := dev.given.head?.join

structure DmaContext (α : Type) where
  attachedDevice : Option Nat
  savedDmaAs : Option (DmaSpace α)
  savedDmaAsFromBus : Bool

structure DmaState (α : Type) where
  devices : Nat → DmaDevice α
  contexts : Nat → DmaContext α

namespace DmaState

variable {α : Type}

/-- New devices and contexts. -/
def init (α : Type) : DmaState α where
  devices _ := ⟨false, none, none, false, []⟩
  contexts _ := ⟨none, none, false⟩

def setDevice (s : DmaState α) (d : Nat) (dev : DmaDevice α) : DmaState α :=
  { s with devices := Function.update s.devices d dev }

def setContext (s : DmaState α) (n : Nat) (c : DmaContext α) : DmaState α :=
  { s with contexts := Function.update s.contexts n c }

/-- The device is attached to some context. -/
def Attached (s : DmaState α) (d : Nat) : Prop := ∃ n, (s.contexts n).attachedDevice = some d

end DmaState

/-! ## Calls -/

namespace DmaState

variable {α : Type}

/-- `vart_pci_bus_add_device`, `space` being the address spaces of the buses. -/
def addDevice (space : Nat → α) (s : DmaState α) (bus d : Nat) : DmaState α :=
  let dev := s.devices d
  if dev.bus.isSome || dev.realized then s
  else s.setDevice d { dev with
    bus := some bus
    dmaAs := if dev.dmaAs.isNone then some (.memory (space bus)) else dev.dmaAs
    dmaAsFromBus := dev.dmaAs.isNone }

/-- `vart_pci_bus_remove_device`. -/
def removeDevice (s : DmaState α) (bus d : Nat) : DmaState α :=
  let dev := s.devices d
  if dev.bus ≠ some bus ∨ dev.realized = true then s
  else s.setDevice d { dev with
    bus := none
    dmaAs := if dev.dmaAsFromBus then none else dev.dmaAs
    dmaAsFromBus := false }

/-- `vart_iommu_context_attach`. -/
def attach (s : DmaState α) (n d : Nat) : DmaState α :=
  let dev := s.devices d
  if (s.contexts n).attachedDevice.isSome || dev.realized then s
  else (s.setDevice d { dev with dmaAs := some (.context n), dmaAsFromBus := false }).setContext n
    ⟨some d, dev.dmaAs, dev.dmaAsFromBus⟩

/-- `vart_iommu_context_detach`. -/
def detach (s : DmaState α) (n d : Nat) : DmaState α :=
  let dev := s.devices d
  let c := s.contexts n
  if c.attachedDevice ≠ some d ∨ dev.realized = true then s
  else (s.setDevice d
    { dev with dmaAs := c.savedDmaAs, dmaAsFromBus := c.savedDmaAsFromBus }).setContext n
    ⟨none, none, false⟩

/-- `vart_pci_device_set_dma_as`. -/
def setDmaAs (s : DmaState α) (d : Nat) (space : Option (DmaSpace α)) : DmaState α :=
  let dev := s.devices d
  if dev.realized then s
  else s.setDevice d
    { dev with dmaAs := space, dmaAsFromBus := false, given := space :: dev.given }

/-- `vart_device_realize` and `vart_device_unrealize`. -/
def setRealized (s : DmaState α) (d : Nat) (realized : Bool) : DmaState α :=
  s.setDevice d { s.devices d with realized }

end DmaState

inductive DmaOp (α : Type) where
  | add (bus d : Nat)
  | remove (bus d : Nat)
  | attach (n d : Nat)
  | detach (n d : Nat)
  | setDmaAs (d : Nat) (space : Option (DmaSpace α))
  | setRealized (d : Nat) (realized : Bool)
deriving DecidableEq

variable {α : Type}

def dmaStep (space : Nat → α) (s : DmaState α) : DmaOp α → DmaState α
  | .add bus d => s.addDevice space bus d
  | .remove bus d => s.removeDevice bus d
  | .attach n d => s.attach n d
  | .detach n d => s.detach n d
  | .setDmaAs d as => s.setDmaAs d as
  | .setRealized d realized => s.setRealized d realized

/-! ## Inheritance -/

/-- The device has an address space that fits its place. -/
structure DmaDevice.Fits (space : Nat → α) (dev : DmaDevice α) (attached : Prop) : Prop where
  /-- On no bus there is nothing from a bus: the address space of a bus only if it was given. -/
  offBus : dev.bus = none → dev.dmaAsFromBus = false ∧
    ∀ b, dev.dmaAs = some (.memory (space b)) → some (.memory (space b)) ∈ dev.given
  /-- On a bus, without a context and if none is chosen, there is the address space of the bus. -/
  onBus : ∀ b, dev.bus = some b → ¬ attached → dev.chosen = none →
    dev.dmaAs = some (.memory (space b))

def Inherits (space : Nat → α) (s : DmaState α) : Prop :=
  ∀ d, (s.devices d).Fits space (s.Attached d)

/-- The calls that break the inheritance: a detach whose saved values do not fit the bus that the
device is on by now, the add of a device that holds another address space which nobody chose, and
`NULL` for a device on a bus, which is then left with no address space. -/
def DmaOp.Breaks (space : Nat → α) (s : DmaState α) : DmaOp α → Prop
  | .detach n d =>
    (s.contexts n).attachedDevice = some d ∧ (s.devices d).realized = false ∧
      match (s.devices d).bus with
      | none => (s.contexts n).savedDmaAsFromBus = true
      | some b => (∀ m, m ≠ n → (s.contexts m).attachedDevice ≠ some d) ∧
        (s.devices d).chosen = none ∧ (s.contexts n).savedDmaAs ≠ some (.memory (space b))
  | .add bus d =>
    (s.devices d).bus = none ∧ (s.devices d).realized = false ∧ ¬ s.Attached d ∧
      (s.devices d).chosen = none ∧ (s.devices d).dmaAs ≠ none ∧
      (s.devices d).dmaAs ≠ some (.memory (space bus))
  | .setDmaAs d none =>
    (s.devices d).bus.isSome = true ∧ (s.devices d).realized = false ∧ ¬ s.Attached d
  | _ => False

/-- An address space of the machine that is not marked as inherited was given. -/
def Explicit (given : List (Option (DmaSpace α))) (dmaAs : Option (DmaSpace α)) (fromBus : Bool) :
    Prop :=
  fromBus = false → ∀ a, dmaAs = some (.memory a) → some (.memory a) ∈ given

structure DmaInv (s : DmaState α) : Prop where
  device : ∀ d, Explicit (s.devices d).given (s.devices d).dmaAs (s.devices d).dmaAsFromBus
  saved : ∀ n d, (s.contexts n).attachedDevice = some d →
    Explicit (s.devices d).given (s.contexts n).savedDmaAs (s.contexts n).savedDmaAsFromBus

/-! ## Steps -/

/-- Another device changes, and its context. -/
theorem inherits_iff_fits {space : Nat → α} {s t : DmaState α} {d : Nat} {dev : DmaDevice α}
    (hs : Inherits space s) (hdevices : t.devices = Function.update s.devices d dev)
    (hattached : ∀ e, e ≠ d → (t.Attached e ↔ s.Attached e)) :
    Inherits space t ↔ dev.Fits space (t.Attached d) := by
  constructor
  · intro ht
    have hd := ht d
    rwa [hdevices, Function.update_self] at hd
  · intro hfits e
    rw [hdevices]
    by_cases he : e = d
    · subst he
      rwa [Function.update_self]
    · rw [Function.update_of_ne he]
      exact ⟨(hs e).offBus, fun b hb hna => (hs e).onBus b hb fun ha => hna ((hattached e he).mpr ha)⟩

theorem inherits_setDevice_iff {space : Nat → α} {s : DmaState α} (hs : Inherits space s) (d : Nat)
    (dev : DmaDevice α) :
    Inherits space (s.setDevice d dev) ↔ dev.Fits space (s.Attached d) :=
  inherits_iff_fits hs rfl fun _ _ => .rfl

theorem DmaInv.update {s t : DmaState α} {d : Nat} {dev : DmaDevice α} (h : DmaInv s)
    (hdevices : t.devices = Function.update s.devices d dev)
    (hgiven : ∀ x ∈ (s.devices d).given, x ∈ dev.given)
    (hdev : Explicit dev.given dev.dmaAs dev.dmaAsFromBus)
    (hsaved : ∀ n, t.contexts n = s.contexts n ∨ ∀ e, (t.contexts n).attachedDevice = some e →
      e = d ∧ Explicit dev.given (t.contexts n).savedDmaAs (t.contexts n).savedDmaAsFromBus) :
    DmaInv t where
  device e := by
    rw [hdevices]
    by_cases he : e = d
    · subst he
      rwa [Function.update_self]
    · rw [Function.update_of_ne he]
      exact h.device e
  saved n e hn := by
    rw [hdevices]
    by_cases he : e = d
    · subst he
      rw [Function.update_self]
      rcases hsaved n with hsame | hnew
      · rw [hsame] at hn ⊢
        exact fun hfrom a ha => hgiven _ (h.saved n e hn hfrom a ha)
      · exact (hnew e hn).2
    · rw [Function.update_of_ne he]
      rcases hsaved n with hsame | hnew
      · rw [hsame] at hn ⊢
        exact h.saved n e hn
      · exact absurd (hnew e hn).1 he

section steps

variable {space : Nat → α} {s : DmaState α}

/-- What a step does: it keeps what the state remembers, and says when it breaks the inheritance. -/
def StepOk (space : Nat → α) (t : DmaState α) (breaks : Prop) : Prop :=
  DmaInv t ∧ (Inherits space t ↔ ¬ breaks)

theorem stepOk_same (hinv : DmaInv s) (hs : Inherits space s) {breaks : Prop} (h : ¬ breaks) :
    StepOk space s breaks := ⟨hinv, iff_of_true hs h⟩

theorem stepOk_addDevice (hinv : DmaInv s) (hs : Inherits space s) (bus d : Nat) :
    StepOk space (s.addDevice space bus d) ((DmaOp.add bus d).Breaks space s) := by
  unfold DmaState.addDevice DmaOp.Breaks
  dsimp only
  split
  · rename_i hbusy
    refine stepOk_same hinv hs ?_
    rintro ⟨hbus, hrealized, -⟩
    rw [hbus, hrealized] at hbusy
    cases hbusy
  rename_i hbusy
  rw [Bool.not_eq_true, Bool.or_eq_false_iff, Option.isSome_eq_false_iff,
    Option.isNone_iff_eq_none] at hbusy
  obtain ⟨hbus, hrealized⟩ := hbusy
  obtain ⟨hfrom, -⟩ := (hs d).offBus hbus
  refine ⟨hinv.update rfl (fun x hx => hx) ?_ fun n => .inl rfl, ?_⟩
  · intro hsome a ha
    dsimp only at hsome ha
    rw [hsome] at ha
    exact hinv.device d hfrom a ha
  rw [inherits_setDevice_iff hs]
  constructor
  · rintro hfits ⟨-, -, hfree, hchosen, hdma, hother⟩
    have honBus := hfits.onBus bus rfl hfree hchosen
    dsimp only at honBus
    rw [if_neg (by rwa [Option.isNone_iff_eq_none])] at honBus
    exact hother honBus
  · intro hnot
    refine ⟨fun hnone => (Option.some_ne_none _ hnone).elim, fun b hb hfree hchosen => ?_⟩
    cases hb
    dsimp only
    split
    · rfl
    · rename_i hdma
      by_contra hother
      exact hnot ⟨hbus, hrealized, hfree, hchosen, by rwa [Option.isNone_iff_eq_none] at hdma, hother⟩

theorem stepOk_removeDevice (hinv : DmaInv s) (hs : Inherits space s) (bus d : Nat) :
    StepOk space (s.removeDevice bus d) ((DmaOp.remove bus d : DmaOp α).Breaks space s) := by
  unfold DmaState.removeDevice
  dsimp only
  split
  · exact stepOk_same hinv hs id
  have hexplicit : Explicit (s.devices d).given
      (if (s.devices d).dmaAsFromBus then none else (s.devices d).dmaAs) false := by
    intro _ a ha
    split at ha
    · cases ha
    · rename_i hfrom
      exact hinv.device d (Bool.eq_false_iff.mpr hfrom) a ha
  refine ⟨hinv.update rfl (fun x hx => hx) hexplicit fun n => .inl rfl, iff_of_true ?_ id⟩
  rw [inherits_setDevice_iff hs]
  refine ⟨fun _ => ⟨rfl, fun b hb => hexplicit rfl _ hb⟩, fun b hb => ?_⟩
  cases hb

/-- Device `d` changes with context `n`, and no other device notices. -/
theorem inherits_setContext_iff (hs : Inherits space s) {n d : Nat} (dev : DmaDevice α)
    {c : DmaContext α} (hold : ∀ e, (s.contexts n).attachedDevice = some e → e = d)
    (hnew : ∀ e, c.attachedDevice = some e → e = d) :
    Inherits space ((s.setDevice d dev).setContext n c) ↔
      dev.Fits space (c.attachedDevice = some d ∨
        ∃ m, m ≠ n ∧ (s.contexts m).attachedDevice = some d) := by
  have hcontext : ∀ e, ((s.setDevice d dev).setContext n c).Attached e ↔
      c.attachedDevice = some e ∨ ∃ m, m ≠ n ∧ (s.contexts m).attachedDevice = some e := by
    intro e
    constructor
    · rintro ⟨m, hm⟩
      by_cases hmn : m = n
      · subst hmn
        simp only [DmaState.setContext, Function.update_self] at hm
        exact .inl hm
      · simp only [DmaState.setContext, Function.update_of_ne hmn] at hm
        exact .inr ⟨m, hmn, hm⟩
    · rintro (hc | ⟨m, hmn, hm⟩)
      · exact ⟨n, (congrArg _ (Function.update_self n _ _)).trans hc⟩
      · exact ⟨m, (congrArg _ (Function.update_of_ne hmn _ _)).trans hm⟩
  rw [inherits_iff_fits hs rfl, hcontext d]
  intro e he
  rw [hcontext e]
  constructor
  · rintro (hc | ⟨m, -, hm⟩)
    · exact absurd (hnew e hc) he
    · exact ⟨m, hm⟩
  · rintro ⟨m, hm⟩
    refine .inr ⟨m, ?_, hm⟩
    rintro rfl
    exact he (hold e hm)

theorem stepOk_attach (hinv : DmaInv s) (hs : Inherits space s) (n d : Nat) :
    StepOk space (s.attach n d) ((DmaOp.attach n d : DmaOp α).Breaks space s) := by
  unfold DmaState.attach
  dsimp only
  split
  · exact stepOk_same hinv hs id
  rename_i hbusy
  rw [Bool.not_eq_true, Bool.or_eq_false_iff, Option.isSome_eq_false_iff,
    Option.isNone_iff_eq_none] at hbusy
  obtain ⟨hfree, -⟩ := hbusy
  refine ⟨hinv.update rfl (fun x hx => hx) ?_ fun m => ?_, iff_of_true ?_ id⟩
  · intro _ a ha
    cases ha
  · by_cases hm : m = n
    · subst hm
      simp only [DmaState.setContext, Function.update_self]
      refine .inr fun e he => ⟨(Option.some.inj he).symm, hinv.device d⟩
    · exact .inl (Function.update_of_ne hm _ _)
  · rw [inherits_setContext_iff hs]
    · refine ⟨fun _ => ⟨rfl, fun b hb => ?_⟩, fun b _ hnot => absurd (.inl rfl) hnot⟩
      cases hb
    · intro e he
      cases hfree.symm.trans he
    · exact fun e he => (Option.some.inj he).symm

theorem stepOk_detach (hinv : DmaInv s) (hs : Inherits space s) (n d : Nat) :
    StepOk space (s.detach n d) ((DmaOp.detach n d : DmaOp α).Breaks space s) := by
  unfold DmaState.detach DmaOp.Breaks
  dsimp only
  split
  · rename_i hbusy
    refine stepOk_same hinv hs ?_
    rintro ⟨hattached, hrealized, -⟩
    rcases hbusy with hne | hre
    · exact hne hattached
    · exact Bool.false_ne_true (hrealized.symm.trans hre)
  rename_i hbusy
  rw [not_or, not_not, Bool.not_eq_true] at hbusy
  obtain ⟨hattached, hrealized⟩ := hbusy
  have hsaved := hinv.saved n d hattached
  refine ⟨hinv.update rfl (fun x hx => hx) hsaved fun m => ?_, ?_⟩
  · by_cases hm : m = n
    · subst hm
      simp only [DmaState.setContext, Function.update_self]
      refine .inr fun e he => ?_
      cases he
    · exact .inl (Function.update_of_ne hm _ _)
  rw [inherits_setContext_iff hs]
  rotate_left
  · exact fun e he => Option.some.inj (he.symm.trans hattached)
  · intro e he
    cases he
  cases (s.devices d).bus with
  | none =>
    constructor
    · rintro hfits ⟨-, -, hfrom⟩
      exact Bool.false_ne_true ((hfits.offBus rfl).1.symm.trans hfrom)
    · intro hnot
      have hfrom : (s.contexts n).savedDmaAsFromBus = false := by
        rw [Bool.eq_false_iff]
        exact fun hfrom => hnot ⟨hattached, hrealized, hfrom⟩
      refine ⟨fun _ => ⟨hfrom, fun b hb => hsaved hfrom _ hb⟩, fun b hb => ?_⟩
      cases hb
  | some bus =>
    constructor
    · rintro hfits ⟨-, -, hothers, hchosen, hne⟩
      refine hne (hfits.onBus bus rfl ?_ hchosen)
      rintro (hc | ⟨m, hm, hd⟩)
      · cases hc
      · exact hothers m hm hd
    · intro hnot
      refine ⟨fun hnone => ?_, fun b hb hfree hchosen => ?_⟩
      · cases hnone
      · cases hb
        by_contra hne
        exact hnot ⟨hattached, hrealized, fun m hm hd => hfree (.inr ⟨m, hm, hd⟩), hchosen, hne⟩

theorem stepOk_setDmaAs (hinv : DmaInv s) (hs : Inherits space s) (d : Nat)
    (as : Option (DmaSpace α)) :
    StepOk space (s.setDmaAs d as) ((DmaOp.setDmaAs d as).Breaks space s) := by
  unfold DmaState.setDmaAs
  dsimp only
  split
  · rename_i hrealized
    refine stepOk_same hinv hs ?_
    cases as with
    | none => exact fun hbreaks => Bool.false_ne_true (hbreaks.2.1.symm.trans hrealized)
    | some x => exact id
  rename_i hrealized
  have hexplicit : Explicit (as :: (s.devices d).given) as false := by
    rintro - a rfl
    exact List.mem_cons_self
  refine ⟨hinv.update rfl (fun x hx => List.mem_cons_of_mem _ hx) hexplicit fun n => .inl rfl, ?_⟩
  rw [inherits_setDevice_iff hs]
  cases as with
  | none =>
    constructor
    · rintro hfits ⟨hbus, -, hfree⟩
      obtain ⟨b, hb⟩ := Option.isSome_iff_exists.mp hbus
      cases hfits.onBus b hb hfree rfl
    · intro hnot
      refine ⟨fun _ => ⟨rfl, fun b hb => hexplicit rfl _ hb⟩, fun b hb hfree _ => ?_⟩
      exact absurd ⟨Option.isSome_iff_exists.mpr ⟨b, hb⟩, Bool.eq_false_iff.mpr hrealized, hfree⟩ hnot
  | some x =>
    refine iff_of_true ⟨fun _ => ⟨rfl, fun b hb => hexplicit rfl _ hb⟩, fun b _ _ hchosen => ?_⟩ id
    cases hchosen

theorem stepOk_setRealized (hinv : DmaInv s) (hs : Inherits space s) (d : Nat) (realized : Bool) :
    StepOk space (s.setRealized d realized)
      ((DmaOp.setRealized d realized : DmaOp α).Breaks space s) := by
  refine ⟨hinv.update rfl (fun x hx => hx) (hinv.device d) fun n => .inl rfl, iff_of_true ?_ id⟩
  rw [DmaState.setRealized, inherits_setDevice_iff hs]
  exact ⟨(hs d).offBus, (hs d).onBus⟩

theorem stepOk_dmaStep (hinv : DmaInv s) (hs : Inherits space s) (op : DmaOp α) :
    StepOk space (dmaStep space s op) (op.Breaks space s) := by
  cases op with
  | add bus d => exact stepOk_addDevice hinv hs bus d
  | remove bus d => exact stepOk_removeDevice hinv hs bus d
  | attach n d => exact stepOk_attach hinv hs n d
  | detach n d => exact stepOk_detach hinv hs n d
  | setDmaAs d as => exact stepOk_setDmaAs hinv hs d as
  | setRealized d realized => exact stepOk_setRealized hinv hs d realized

end steps

theorem dmaInv_init : DmaInv (DmaState.init α) where
  device d _ a ha := by cases ha
  saved n d hd := by cases hd

theorem inherits_init (space : Nat → α) : Inherits space (DmaState.init α) := fun d =>
  ⟨fun _ => ⟨rfl, fun b hb => by cases hb⟩, fun b hb => by cases hb⟩

/-- From new devices and contexts, the inheritance is right throughout a run exactly if no step
breaks it. -/
theorem inherits_iff (space : Nat → α) (ops : List (DmaOp α)) :
    Throughout (dmaStep space) (Inherits space) (.init α) ops ↔
      Allowed (dmaStep space) (fun s op => ¬ op.Breaks space s) (.init α) ops := by
  have hany : Allowed (dmaStep space) (fun _ _ => True) (.init α) ops :=
    .of_forall (fun _ _ => trivial) _
  exact throughout_iff_allowed (fun _ op hinv hs _ => (stepOk_dmaStep hinv hs op).1)
    (fun _ op hinv hs _ => (stepOk_dmaStep hinv hs op).2) dmaInv_init (inherits_init space) hany

end Vart
