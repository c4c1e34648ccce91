import Vart.Lib.Forest
import Vart.Pci.Frame

/-!
# The bus tree

What the bus numbering depends on: where each function sits (`PciPlace`), which function is in
each slot, and how the buses are linked and numbered (`PciLinks`). `PciState.tree` reads it off
the state; everything else that the PCI core does leaves it unchanged.

`PciTree.Inv` is the invariant: the links form a tree below the root bus, no two of its buses have
the same number, and a function is in the slot of its bus that its `devfn` names, with the
requester ID of that bus and slot. Each way to change the tree keeps it:

* `setPlace`, `addFunction`, `removeFunction`: a new function, a function on a bus and off it.
* `addBridge`, `addOrphan`, `removeBus`: a bridge with its secondary bus, the same if the parent
  cannot store its child, and the end of a bus.
* `Renumbers`: a bus gets another number, and the functions new requester IDs.
* `Raises`: subordinate numbers grow.
-/

namespace Vart

open Lib

/-! ## The view -/

/-- Where a function sits. -/
structure PciPlace where
  initialised : Bool
  pciBus : Option Nat
  devfn : UInt8
  requesterId : UInt16
  secondaryBus : Option Nat

/-- The links and numbers of a bus. -/
structure PciLinks where
  parentPciBus : Option Nat
  children : List Nat
  number : UInt8
  secondaryNumber : UInt8
  subordinateNumber : UInt8

@[ext]
structure PciTree where
  place : Nat → PciPlace
  functions : Nat → UInt8 → Option Nat
  links : Nat → PciLinks
  busCount : Nat

def PciDevice.place (dev : PciDevice) : PciPlace :=
  ⟨dev.initialised, dev.pciBus, dev.devfn, dev.requesterId, dev.secondaryBus⟩

def PciBus.links (b : PciBus) : PciLinks :=
  ⟨b.parentPciBus, b.children, b.number, b.secondaryNumber, b.subordinateNumber⟩

def PciState.tree (s : PciState) : PciTree where
  place d := (s.devices d).place
  functions b := (s.buses b).functions
  links b := (s.buses b).links
  busCount := s.busCount

namespace PciTree

def forest (T : PciTree) : Forest where
  children b := (T.links b).children
  parent b := (T.links b).parentPciBus
  count := T.busCount

/-- The bus can be reached from the root bus. -/
def InTree (T : PciTree) (b : Nat) : Prop := T.forest.InTree b

/-- The buses form a tree, with a number for each. -/
structure Numbered (T : PciTree) : Prop where
  wellFormed : T.forest.WellFormed
  numbers : ∀ x y, T.InTree x → T.InTree y → (T.links x).number = (T.links y).number → x = y
  range : ∀ x, T.InTree x → x ≠ 0 → (T.links x).secondaryNumber = (T.links x).number ∧
    (T.links x).number ≤ (T.links x).subordinateNumber

/-- The function knows the bus and the slot that it is in. -/
structure Attached (T : PciTree) (d b : Nat) : Prop where
  inTree : T.InTree b
  initialised : (T.place d).initialised = true
  function : T.functions b (T.place d).devfn = some d
  requesterId : (T.place d).requesterId = pciRequesterId (T.links b).number (T.place d).devfn

structure Inv (T : PciTree) : Prop where
  numbered : T.Numbered
  /-- The secondary bus of a bridge was given out, and it is not the root bus. -/
  bridge : ∀ d c, (T.place d).secondaryBus = some c → c ≠ 0 ∧ c < T.busCount
  slot : ∀ b i d, T.functions b i = some d →
    (T.place d).pciBus = some b ∧ (T.place d).devfn = i
  attached : ∀ d b, (T.place d).pciBus = some b → T.Attached d b

variable {T T' : PciTree}

theorem Numbered.congr (h : T.Numbered) (hlinks : T'.links = T.links)
    (hcount : T'.busCount = T.busCount) : T'.Numbered := by
  obtain ⟨place, functions, links, busCount⟩ := T'
  cases hlinks
  cases hcount
  exact ⟨h.wellFormed, h.numbers, h.range⟩

theorem Inv.lt (h : T.Inv) {b : Nat} (hb : T.InTree b) : b < T.busCount :=
  h.numbered.wellFormed.lt hb

/-- A function without an initialised record is nowhere. -/
theorem Inv.pciBus_none (h : T.Inv) {d : Nat} (hd : (T.place d).initialised = false) :
    (T.place d).pciBus = none := by
  cases hbus : (T.place d).pciBus with
  | none => rfl
  | some b => rw [(h.attached d b hbus).initialised] at hd; cases hd

/-- The functions in slots are others than one that is on no bus. -/
theorem Inv.slot_ne (h : T.Inv) {d e b : Nat} {i : UInt8} (hd : (T.place d).pciBus = none)
    (he : T.functions b i = some e) : e ≠ d := by
  rintro rfl
  rw [(h.slot b i e he).1] at hd
  cases hd

/-! ## Functions -/

/-- The record of function `d` is written. -/
def setPlace (T : PciTree) (d : Nat) (p : PciPlace) : PciTree :=
  { T with place := Function.update T.place d p }

theorem place_setPlace_of_ne (T : PciTree) {d e : Nat} (p : PciPlace) (h : e ≠ d) :
    (T.setPlace d p).place e = T.place e := Function.update_of_ne h _ _

theorem Inv.setPlace (h : T.Inv) {d : Nat} {p : PciPlace} (hd : (T.place d).pciBus = none)
    (hp : p.pciBus = none) (hsecondary : ∀ c, p.secondaryBus = some c → c ≠ 0 ∧ c < T.busCount) :
    (T.setPlace d p).Inv where
  numbered := h.numbered.congr rfl rfl
  bridge e c hc := by
    by_cases he : e = d
    · subst he
      exact hsecondary c (by simpa [PciTree.setPlace] using hc)
    · rw [place_setPlace_of_ne _ _ he] at hc
      exact h.bridge e c hc
  slot b i e he := by
    rw [place_setPlace_of_ne _ _ (h.slot_ne hd he)]
    exact h.slot b i e he
  attached e b he := by
    have hne : e ≠ d := by
      rintro rfl
      simp [PciTree.setPlace, hp] at he
    have hplace := place_setPlace_of_ne T p hne
    rw [hplace] at he
    obtain ⟨h1, h2, h3, h4⟩ := h.attached e b he
    exact ⟨h1, by rwa [hplace], by rwa [hplace], by rwa [hplace]⟩

/-- Function `d` is put into slot `devfn` of bus `b`. -/
def addFunction (T : PciTree) (b d : Nat) (devfn : UInt8) : PciTree :=
  { T with
    place := Function.update T.place d { T.place d with
      pciBus := some b, devfn, requesterId := pciRequesterId (T.links b).number devfn }
    functions := Function.update T.functions b
      (Function.update (T.functions b) devfn (some d)) }

theorem Inv.addFunction (h : T.Inv) {b d : Nat} {devfn : UInt8} (hb : T.InTree b)
    (hd : (T.place d).pciBus = none) (hinit : (T.place d).initialised = true)
    (hfree : T.functions b devfn = none) : (T.addFunction b d devfn).Inv where
  numbered := h.numbered.congr rfl rfl
  bridge e c hc := by
    refine h.bridge e c ?_
    by_cases he : e = d
    · subst he
      simpa [PciTree.addFunction] using hc
    · simpa [PciTree.addFunction, he] using hc
  slot b' i e he := by
    by_cases hslot : b' = b ∧ i = devfn
    · obtain ⟨rfl, rfl⟩ := hslot
      obtain rfl : d = e := by simpa [PciTree.addFunction] using he
      simp [PciTree.addFunction]
    · have hold : T.functions b' i = some e := by
        by_cases hb' : b' = b
        · subst hb'
          have hi : i ≠ devfn := fun hi => hslot ⟨rfl, hi⟩
          simpa [PciTree.addFunction, hi] using he
        · simpa [PciTree.addFunction, hb'] using he
      have hne := h.slot_ne hd hold
      simpa [PciTree.addFunction, hne] using h.slot b' i e hold
  attached e b' he := by
    by_cases hed : e = d
    · subst hed
      obtain rfl : b = b' := by simpa [PciTree.addFunction] using he
      exact ⟨hb, by simpa [PciTree.addFunction] using hinit, by simp [PciTree.addFunction],
        by simp [PciTree.addFunction]⟩
    · have hplace : (T.addFunction b d devfn).place e = T.place e := Function.update_of_ne hed _ _
      rw [hplace] at he
      obtain ⟨h1, h2, h3, h4⟩ := h.attached e b' he
      refine ⟨h1, by rwa [hplace], ?_, by rwa [hplace]⟩
      rw [hplace]
      by_cases hb' : b' = b
      · subst hb'
        have hi : (T.place e).devfn ≠ devfn := by
          rintro rfl
          rw [hfree] at h3
          cases h3
        simpa [PciTree.addFunction, hi] using h3
      · simpa [PciTree.addFunction, hb'] using h3

/-- Function `d` is taken from its slot of bus `b`. -/
def removeFunction (T : PciTree) (b d : Nat) : PciTree :=
  { T with
    place := Function.update T.place d { T.place d with pciBus := none, requesterId := 0 }
    functions := Function.update T.functions b
      (Function.update (T.functions b) (T.place d).devfn none) }

theorem Inv.removeFunction (h : T.Inv) {b d : Nat} (hd : (T.place d).pciBus = some b) :
    (T.removeFunction b d).Inv where
  numbered := h.numbered.congr rfl rfl
  bridge e c hc := by
    refine h.bridge e c ?_
    by_cases he : e = d
    · subst he
      simpa [PciTree.removeFunction] using hc
    · simpa [PciTree.removeFunction, he] using hc
  slot b' i e he := by
    have hold : T.functions b' i = some e := by
      by_cases hb' : b' = b
      · subst hb'
        by_cases hi : i = (T.place d).devfn
        · subst hi
          simp [PciTree.removeFunction] at he
        · simpa [PciTree.removeFunction, hi] using he
      · simpa [PciTree.removeFunction, hb'] using he
    have hslot := h.slot b' i e hold
    have hne : e ≠ d := by
      rintro rfl
      obtain rfl : b = b' := by rw [hslot.1] at hd; exact (Option.some.inj hd).symm
      rw [← hslot.2] at he
      simp [PciTree.removeFunction] at he
    simpa [PciTree.removeFunction, hne] using hslot
  attached e b' he := by
    have hne : e ≠ d := by
      rintro rfl
      simp [PciTree.removeFunction] at he
    have hplace : (T.removeFunction b d).place e = T.place e := Function.update_of_ne hne _ _
    rw [hplace] at he
    obtain ⟨h1, h2, h3, h4⟩ := h.attached e b' he
    refine ⟨h1, by rwa [hplace], ?_, by rwa [hplace]⟩
    rw [hplace]
    by_cases hb' : b' = b
    · subst hb'
      have hi : (T.place e).devfn ≠ (T.place d).devfn := by
        intro hi
        have hfun := (h.attached d b' hd).function
        rw [← hi, h3] at hfun
        exact hne (Option.some.inj hfun)
      simpa [PciTree.removeFunction, hi] using h3
    · simpa [PciTree.removeFunction, hb'] using h3

/-! ## Buses -/

/-- The secondary bus of bridge `d` as the last child of `parent`. -/
def addBridge (T : PciTree) (d parent : Nat) (number : UInt8) : PciTree where
  place := Function.update T.place d ⟨true, none, 0, 0, some T.busCount⟩
  functions := Function.update T.functions T.busCount fun _ => none
  links := Function.update
    (Function.update T.links T.busCount ⟨some parent, [], number, number, number⟩) parent
    { T.links parent with children := (T.links parent).children ++ [T.busCount] }
  busCount := T.busCount + 1

/-- The secondary bus of bridge `d`, which `parent` does not know of. -/
def addOrphan (T : PciTree) (d parent : Nat) (number : UInt8) : PciTree where
  place := Function.update T.place d ⟨true, none, 0, 0, some T.busCount⟩
  functions := Function.update T.functions T.busCount fun _ => none
  links := Function.update T.links T.busCount ⟨some parent, [], number, number, 255⟩
  busCount := T.busCount + 1

/-- Bus `x` leaves its parent. -/
def removeBus (T : PciTree) (x : Nat) : PciTree :=
  { T with
    links := Function.update
      (fun b => if (T.links x).parentPciBus = some b then
        { T.links b with children := (T.links b).children.erase x } else T.links b) x
      { T.links x with parentPciBus := none, children := [] } }

theorem forest_addBridge (T : PciTree) (d : Nat) {parent : Nat} (number : UInt8)
    (hp : parent ≠ T.busCount) :
    (T.addBridge d parent number).forest = T.forest.addLeaf parent := by
  have hlinks : ∀ b, ((T.addBridge d parent number).links b).children =
        (T.forest.addLeaf parent).children b ∧
      ((T.addBridge d parent number).links b).parentPciBus =
        (T.forest.addLeaf parent).parent b := by
    intro b
    by_cases hb : b = parent
    · subst hb
      simp [addBridge, Forest.addLeaf, forest, hp]
    · by_cases hcount : b = T.busCount
      · subst hcount
        simp [addBridge, Forest.addLeaf, forest, hb]
      · simp [addBridge, Forest.addLeaf, forest, hb, hcount]
  simp only [forest, hlinks]
  rfl

theorem forest_addOrphan (T : PciTree) (d parent : Nat) (number : UInt8) :
    (T.addOrphan d parent number).forest = T.forest.addOrphan parent := by
  have hlinks : ∀ b, ((T.addOrphan d parent number).links b).children =
        (T.forest.addOrphan parent).children b ∧
      ((T.addOrphan d parent number).links b).parentPciBus =
        (T.forest.addOrphan parent).parent b := by
    intro b
    by_cases hcount : b = T.busCount
    · subst hcount
      simp [addOrphan, Forest.addOrphan, forest]
    · simp [addOrphan, Forest.addOrphan, forest, hcount]
  simp only [forest, hlinks]
  rfl

theorem forest_removeBus (T : PciTree) (x : Nat) :
    (T.removeBus x).forest = T.forest.removeLeaf x := by
  have hlinks : ∀ b, ((T.removeBus x).links b).children = (T.forest.removeLeaf x).children b ∧
      ((T.removeBus x).links b).parentPciBus = (T.forest.removeLeaf x).parent b := by
    intro b
    by_cases hb : b = x
    · subst hb
      simp [removeBus, Forest.removeLeaf, forest]
    · by_cases hparent : (T.links x).parentPciBus = some b <;>
        simp [removeBus, Forest.removeLeaf, forest, hb, hparent]
  simp only [forest, hlinks]
  rfl

theorem number_addBridge (T : PciTree) (d parent : Nat) (number : UInt8) {b : Nat}
    (hb : b ≠ T.busCount) : ((T.addBridge d parent number).links b).number = (T.links b).number ∧
      ((T.addBridge d parent number).links b).secondaryNumber = (T.links b).secondaryNumber ∧
      ((T.addBridge d parent number).links b).subordinateNumber =
        (T.links b).subordinateNumber := by
  by_cases hp : b = parent
  · subst hp
    simp [addBridge]
  · simp [addBridge, hp, hb]

theorem Numbered.addBridge (h : T.Numbered) (d : Nat) {parent : Nat} {number : UInt8}
    (hp : parent < T.busCount)
    (hfresh : T.InTree parent → ∀ x, T.InTree x → (T.links x).number ≠ number) :
    (T.addBridge d parent number).Numbered := by
  have hne : parent ≠ T.busCount := by omega
  have hforest := T.forest_addBridge d number hne
  have htree : ∀ x, (T.addBridge d parent number).InTree x ↔
      T.InTree x ∨ (x = T.busCount ∧ T.InTree parent) := by
    intro x
    rw [InTree, hforest]
    exact h.wellFormed.inTree_addLeaf hp
  have hnew : (T.addBridge d parent number).links T.busCount =
      ⟨some parent, [], number, number, number⟩ := by
    simp [PciTree.addBridge, hne.symm]
  have hold : ∀ x, T.InTree x → x ≠ T.busCount := fun x hx => Nat.ne_of_lt (h.wellFormed.lt hx)
  refine ⟨?_, fun x y hx hy hnum => ?_, fun x hx h0 => ?_⟩
  · rw [hforest]
    exact h.wellFormed.addLeaf hp
  · obtain hx | ⟨rfl, hpt⟩ := (htree x).1 hx <;> obtain hy | ⟨rfl, hpt⟩ := (htree y).1 hy
    · rw [(T.number_addBridge d parent number (hold x hx)).1,
        (T.number_addBridge d parent number (hold y hy)).1] at hnum
      exact h.numbers x y hx hy hnum
    · rw [(T.number_addBridge d parent number (hold x hx)).1, hnew] at hnum
      exact absurd hnum (hfresh hpt x hx)
    · rw [(T.number_addBridge d parent number (hold y hy)).1, hnew] at hnum
      exact absurd hnum.symm (hfresh hpt y hy)
    · rfl
  · obtain hx | ⟨rfl, -⟩ := (htree x).1 hx
    · obtain ⟨h1, h2, h3⟩ := T.number_addBridge d parent number (hold x hx)
      rw [h1, h2, h3]
      exact h.range x hx h0
    · rw [hnew]
      exact ⟨rfl, UInt8.le_refl _⟩

theorem Numbered.addOrphan (h : T.Numbered) (d parent : Nat) (number : UInt8) :
    (T.addOrphan d parent number).Numbered := by
  have hforest := T.forest_addOrphan d parent number
  have htree : ∀ x, (T.addOrphan d parent number).InTree x ↔ T.InTree x := by
    intro x
    rw [InTree, hforest]
    exact h.wellFormed.inTree_addOrphan
  have hold : ∀ x, T.InTree x → (T.addOrphan d parent number).links x = T.links x :=
    fun x hx => Function.update_of_ne (Nat.ne_of_lt (h.wellFormed.lt hx)) _ _
  refine ⟨?_, fun x y hx hy hnum => ?_, fun x hx h0 => ?_⟩
  · rw [hforest]
    exact h.wellFormed.addOrphan parent
  · rw [htree] at hx hy
    rw [hold x hx, hold y hy] at hnum
    exact h.numbers x y hx hy hnum
  · rw [htree] at hx
    rw [hold x hx]
    exact h.range x hx h0

theorem Numbered.removeBus (h : T.Numbered) {x : Nat} (hx : x ≠ 0)
    (hleaf : (T.links x).children = []) : (T.removeBus x).Numbered := by
  have hforest := T.forest_removeBus x
  have htree : ∀ y, (T.removeBus x).InTree y ↔ T.InTree y ∧ y ≠ x := by
    intro y
    rw [InTree, hforest]
    exact h.wellFormed.inTree_removeLeaf hx hleaf
  have hold : ∀ y, y ≠ x → ((T.removeBus x).links y).number = (T.links y).number ∧
      ((T.removeBus x).links y).secondaryNumber = (T.links y).secondaryNumber ∧
      ((T.removeBus x).links y).subordinateNumber = (T.links y).subordinateNumber := by
    intro y hy
    simp only [PciTree.removeBus, Function.update_of_ne hy]
    split <;> exact ⟨rfl, rfl, rfl⟩
  refine ⟨?_, fun y z hy hz hnum => ?_, fun y hy h0 => ?_⟩
  · rw [hforest]
    exact h.wellFormed.removeLeaf hx
  · rw [htree] at hy hz
    rw [(hold y hy.2).1, (hold z hz.2).1] at hnum
    exact h.numbers y z hy.1 hz.1 hnum
  · rw [htree] at hy
    obtain ⟨h1, h2, h3⟩ := hold y hy.2
    rw [h1, h2, h3]
    exact h.range y hy.1 h0

/-- A new bus is empty, and its bridge is on no bus. -/
theorem Inv.newBus (h : T.Inv) {d : Nat} (hd : (T.place d).pciBus = none) (hN : T'.Numbered)
    (hplace : T'.place = Function.update T.place d ⟨true, none, 0, 0, some T.busCount⟩)
    (hfun : T'.functions = Function.update T.functions T.busCount fun _ => none)
    (hcount : T'.busCount = T.busCount + 1) (htree : ∀ x, T.InTree x → T'.InTree x)
    (hnum : ∀ x, T.InTree x → (T'.links x).number = (T.links x).number) : T'.Inv where
  numbered := hN
  bridge e c hc := by
    have := h.numbered.wellFormed.pos
    have hpos : 0 < T.busCount := this
    rw [hplace] at hc
    by_cases he : e = d
    · subst he
      obtain rfl : T.busCount = c := by simpa using hc
      omega
    · rw [Function.update_of_ne he] at hc
      have := h.bridge e c hc
      omega
  slot b i e he := by
    have hold : T.functions b i = some e := by
      rw [hfun] at he
      by_cases hb : b = T.busCount
      · subst hb
        simp at he
      · simpa [hb] using he
    rw [hplace, Function.update_of_ne (h.slot_ne hd hold)]
    exact h.slot b i e hold
  attached e b he := by
    have hne : e ≠ d := by
      rintro rfl
      simp [hplace] at he
    have hsame : T'.place e = T.place e := by rw [hplace, Function.update_of_ne hne]
    rw [hsame] at he
    obtain ⟨h1, h2, h3, h4⟩ := h.attached e b he
    have hb : b ≠ T.busCount := Nat.ne_of_lt (h.lt h1)
    exact ⟨htree b h1, by rwa [hsame], by rwa [hsame, hfun, Function.update_of_ne hb],
      by rwa [hsame, hnum b h1]⟩

theorem Inv.addBridge (h : T.Inv) {d parent : Nat} {number : UInt8}
    (hd : (T.place d).pciBus = none) (hp : T.InTree parent)
    (hfresh : ∀ x, T.InTree x → (T.links x).number ≠ number) :
    (T.addBridge d parent number).Inv := by
  have hlt := h.lt hp
  refine h.newBus hd (h.numbered.addBridge d hlt fun _ => hfresh) rfl rfl rfl (fun x hx => ?_)
    fun x hx => (T.number_addBridge d parent number (Nat.ne_of_lt (h.lt hx))).1
  rw [InTree, T.forest_addBridge d number (Nat.ne_of_lt hlt)]
  exact (h.numbered.wellFormed.inTree_addLeaf hlt).2 (.inl hx)

theorem Inv.addOrphan (h : T.Inv) {d : Nat} (hd : (T.place d).pciBus = none) (parent : Nat)
    (number : UInt8) : (T.addOrphan d parent number).Inv := by
  refine h.newBus hd (h.numbered.addOrphan d parent number) rfl rfl rfl (fun x hx => ?_)
    fun x hx => congrArg PciLinks.number (Function.update_of_ne (Nat.ne_of_lt (h.lt hx)) _ _)
  rw [InTree, T.forest_addOrphan d parent number]
  exact h.numbered.wellFormed.inTree_addOrphan.2 hx

theorem Inv.removeBus (h : T.Inv) {x : Nat} (hx : x ≠ 0) (hleaf : (T.links x).children = [])
    (hempty : ∀ i, T.functions x i = none) : (T.removeBus x).Inv where
  numbered := h.numbered.removeBus hx hleaf
  bridge := h.bridge
  slot := h.slot
  attached e b he := by
    obtain ⟨h1, h2, h3, h4⟩ := h.attached e b he
    have hne : b ≠ x := by
      rintro rfl
      rw [hempty] at h3
      cases h3
    refine ⟨?_, h2, h3, ?_⟩
    · rw [InTree, forest_removeBus]
      exact (h.numbered.wellFormed.inTree_removeLeaf hx hleaf).2 ⟨h1, hne⟩
    · have hnum : ((T.removeBus x).links b).number = (T.links b).number := by
        simp only [PciTree.removeBus, Function.update_of_ne hne]
        split <;> rfl
      rw [hnum]
      exact h4

/-! ## Numbers -/

/-- Bus `c` is numbered `number`, and the requester IDs follow. -/
structure Renumbers (T : PciTree) (c : Nat) (number subordinate : UInt8) (T' : PciTree) : Prop where
  links : T'.links = Function.update T.links c { T.links c with
    number, secondaryNumber := number, subordinateNumber := subordinate }
  functions : T'.functions = T.functions
  busCount : T'.busCount = T.busCount
  place : ∀ d, T'.place d = { T.place d with requesterId := (T'.place d).requesterId }
  requesterId : ∀ d b, (T'.place d).pciBus = some b →
    (T'.place d).requesterId = pciRequesterId (T'.links b).number (T'.place d).devfn

theorem Renumbers.forest {c : Nat} {number subordinate : UInt8}
    (h : T.Renumbers c number subordinate T') : T'.forest = T.forest := by
  have hlinks : ∀ b, (T'.links b).children = (T.links b).children ∧
      (T'.links b).parentPciBus = (T.links b).parentPciBus := by
    intro b
    rw [h.links]
    by_cases hb : b = c
    · subst hb
      simp
    · simp [hb]
  simp only [PciTree.forest, hlinks, h.busCount]

theorem Inv.renumbers (h : T.Inv) {c : Nat} {number subordinate : UInt8}
    (hT : T.Renumbers c number subordinate T') (hrange : number ≤ subordinate)
    (hfresh : T.InTree c → ∀ x, T.InTree x → (T.links x).number = number → x = c) : T'.Inv := by
  have htree : ∀ x, T'.InTree x ↔ T.InTree x := fun x => by rw [InTree, InTree, hT.forest]
  have hold : ∀ x, x ≠ c → T'.links x = T.links x := fun x hx => by
    rw [hT.links, Function.update_of_ne hx]
  have hnew : (T'.links c).number = number := by rw [hT.links, Function.update_self]
  refine ⟨⟨?_, fun x y hx hy hnum => ?_, fun x hx h0 => ?_⟩, fun d x hd => ?_, fun b i d hd => ?_,
    fun d b hd => ?_⟩
  · rw [hT.forest]
    exact h.numbered.wellFormed
  · rw [htree] at hx hy
    by_cases hxc : x = c <;> by_cases hyc : y = c
    · rw [hxc, hyc]
    · rw [hxc, hnew, hold y hyc] at hnum
      rw [hxc] at hx ⊢
      exact (hfresh hx y hy hnum.symm).symm
    · rw [hyc, hnew, hold x hxc] at hnum
      rw [hyc] at hy ⊢
      exact hfresh hy x hx hnum
    · rw [hold x hxc, hold y hyc] at hnum
      exact h.numbered.numbers x y hx hy hnum
  · rw [htree] at hx
    by_cases hxc : x = c
    · subst hxc
      rw [hT.links, Function.update_self]
      exact ⟨rfl, hrange⟩
    · rw [hold x hxc]
      exact h.numbered.range x hx h0
  · rw [hT.place d] at hd
    rw [hT.busCount]
    exact h.bridge d x hd
  · rw [hT.functions] at hd
    rw [hT.place d]
    exact h.slot b i d hd
  · have hid := hT.requesterId d b hd
    have hplace := hT.place d
    rw [hplace] at hd
    obtain ⟨h1, h2, h3, -⟩ := h.attached d b hd
    exact ⟨(htree b).2 h1, by rw [hplace]; exact h2, by rw [hplace, hT.functions]; exact h3, hid⟩

/-- Only subordinate numbers change, and they grow. -/
structure Raises (T T' : PciTree) : Prop where
  place : T'.place = T.place
  functions : T'.functions = T.functions
  busCount : T'.busCount = T.busCount
  links : ∀ b, T'.links b =
    { T.links b with subordinateNumber := (T'.links b).subordinateNumber }
  grows : ∀ b, (T.links b).subordinateNumber ≤ (T'.links b).subordinateNumber

theorem Raises.refl (T : PciTree) : T.Raises T :=
  ⟨rfl, rfl, rfl, fun _ => rfl, fun _ => UInt8.le_refl _⟩

theorem Raises.trans {T'' : PciTree} (h : T.Raises T') (h' : T'.Raises T'') : T.Raises T'' where
  place := h'.place.trans h.place
  functions := h'.functions.trans h.functions
  busCount := h'.busCount.trans h.busCount
  links b := by
    have h1 := h.links b
    have h2 := h'.links b
    rw [h1] at h2
    exact h2
  grows b := UInt8.le_trans (h.grows b) (h'.grows b)

theorem Raises.forest (h : T.Raises T') : T'.forest = T.forest := by
  have hlinks : ∀ b, (T'.links b).children = (T.links b).children ∧
      (T'.links b).parentPciBus = (T.links b).parentPciBus := fun b => by
    rw [h.links b]
    exact ⟨rfl, rfl⟩
  simp only [PciTree.forest, hlinks, h.busCount]

theorem Raises.number (h : T.Raises T') (b : Nat) : (T'.links b).number = (T.links b).number := by
  rw [h.links b]

theorem Inv.raises (h : T.Inv) (hT : T.Raises T') : T'.Inv := by
  have htree : ∀ x, T'.InTree x ↔ T.InTree x := fun x => by rw [InTree, InTree, hT.forest]
  refine ⟨⟨?_, fun x y hx hy hnum => ?_, fun x hx h0 => ?_⟩, fun d x hd => ?_, fun b i d hd => ?_,
    fun d b hd => ?_⟩
  · rw [hT.forest]
    exact h.numbered.wellFormed
  · rw [hT.number, hT.number] at hnum
    exact h.numbered.numbers x y ((htree x).1 hx) ((htree y).1 hy) hnum
  · obtain ⟨h1, h2⟩ := h.numbered.range x ((htree x).1 hx) h0
    refine ⟨?_, ?_⟩
    · rw [hT.links x]
      exact h1
    · rw [hT.number]
      exact UInt8.le_trans h2 (hT.grows x)
  · rw [hT.place] at hd
    rw [hT.busCount]
    exact h.bridge d x hd
  · rw [hT.functions] at hd
    rw [hT.place]
    exact h.slot b i d hd
  · rw [hT.place] at hd
    obtain ⟨h1, h2, h3, h4⟩ := h.attached d b hd
    exact ⟨(htree b).2 h1, by rwa [hT.place], by rwa [hT.place, hT.functions],
      by rwa [hT.place, hT.number]⟩

end PciTree

end Vart
