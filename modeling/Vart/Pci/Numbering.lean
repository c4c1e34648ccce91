import Vart.Pci.Machine
import Vart.Pci.Tree

/-!
# Bus numbers and requester IDs

The calls of the PCI core as changes of the bus tree. The searches for a bus number go over the
whole tree (`pciBusFind_none`), so a bridge never gets a number that is in use, neither when it is
made nor when the guest writes its registers.

* `TreeOp`, `treeStep`: the PCI core with `vart_pci_switch_destroy`, and with bridges and switches
  for which the parent bus cannot allocate its list of children.
* `treeStep_inv`: every call keeps `PciTree.Inv`.
* `requester_ids_unique`: requester IDs are current, and no two functions share one.
-/

namespace Vart

open Lib

/-! ## What leaves the tree unchanged -/

theorem tree_updateDevice (s : PciState) (d : Nat) (f : PciDevice → PciDevice) :
    (s.updateDevice d f).tree = s.tree.setPlace d (f (s.devices d)).place := by
  refine PciTree.ext (funext fun e => ?_) rfl rfl rfl
  by_cases he : e = d
  · subst he
    simp [PciState.tree, PciState.updateDevice, PciTree.setPlace]
  · simp [PciState.tree, PciState.updateDevice, PciTree.setPlace, he]

theorem place_configStoreLe (dev : PciDevice) (offset size value : Nat) :
    (dev.configStoreLe offset size value).place = dev.place := rfl

theorem tree_updateDevice_same (s : PciState) (d : Nat) {f : PciDevice → PciDevice}
    (h : (f (s.devices d)).place = (s.devices d).place) : (s.updateDevice d f).tree = s.tree := by
  rw [tree_updateDevice, h]
  exact PciTree.ext (Function.update_eq_self d s.tree.place) rfl rfl rfl

theorem tree_updateBus (s : PciState) (b : Nat) (f : PciBus → PciBus) :
    (s.updateBus b f).tree = { s.tree with
      functions := Function.update s.tree.functions b (f (s.buses b)).functions
      links := Function.update s.tree.links b (f (s.buses b)).links } := by
  refine PciTree.ext rfl (funext fun x => ?_) (funext fun x => ?_) rfl <;>
  · by_cases hx : x = b
    · subst hx
      simp [PciState.tree, PciState.updateBus]
    · simp [PciState.tree, PciState.updateBus, hx]

theorem tree_updateBus_same (s : PciState) (b : Nat) {f : PciBus → PciBus}
    (hlinks : (f (s.buses b)).links = (s.buses b).links)
    (hfun : (f (s.buses b)).functions = (s.buses b).functions) :
    (s.updateBus b f).tree = s.tree := by
  rw [tree_updateBus, hlinks, hfun]
  exact PciTree.ext rfl (Function.update_eq_self b s.tree.functions)
    (Function.update_eq_self b s.tree.links) rfl

theorem MapSame.tree {s t : PciState} (h : MapSame s t) : t.tree = s.tree :=
  PciTree.ext (funext fun d => (congrArg PciDevice.place (h.device d) :))
    (funext fun b => (congrArg PciBus.functions (h.bus b) :))
    (funext fun b => (congrArg PciBus.links (h.bus b) :)) (congrArg PciState.busCount h :)

theorem DeliverSame.tree {s t : PciState} (h : DeliverSame s t) : t.tree = s.tree := by
  have hbuses : t.buses = s.buses := (congrArg PciState.buses h :)
  have hcount : t.busCount = s.busCount := (congrArg PciState.busCount h :)
  refine PciTree.ext (funext fun d => (congrArg PciDevice.place (h.device d) :)) ?_ ?_ hcount
  · exact congrArg (fun buses b => PciBus.functions (buses b)) hbuses
  · exact congrArg (fun buses b => PciBus.links (buses b)) hbuses

/-! ## Searches -/

theorem pciBusFindFrom_eq (s : PciState) (number : UInt8) (fuel b : Nat) :
    pciBusFindFrom s number fuel b =
      s.tree.forest.find (fun x => decide ((s.buses x).number = number)) fuel b := by
  induction fuel generalizing b with
  | zero => rfl
  | succ n ih =>
    rw [pciBusFindFrom, Forest.find]
    simp only [ih, decide_eq_true_eq]
    rfl

theorem busAncestors_eq (s : PciState) (fuel : Nat) (b : Option Nat) :
    busAncestors s fuel b = s.tree.forest.ancestors fuel b := by
  induction fuel generalizing b with
  | zero => cases b <;> rfl
  | succ n ih =>
    cases b with
    | none => rfl
    | some b =>
      rw [busAncestors, Forest.ancestors, ih]
      rfl

variable {s : PciState}

theorem below_child {b c : Nat} (hc : c ∈ (s.buses b).children) : s.tree.forest.Below b c :=
  .single hc

theorem inTree_child {b c : Nat} (hb : s.tree.InTree b) (hc : c ∈ (s.buses b).children) :
    s.tree.InTree c := hb.below (below_child hc)

/-- A search from a bus of the tree that fails has seen every bus below it. -/
theorem pciBusFind_none (h : s.tree.Inv) {b x : Nat} {number : UInt8}
    (hfind : pciBusFind s b number = none) (hb : s.tree.InTree b)
    (hx : s.tree.forest.Below b x) : (s.tree.links x).number ≠ number := by
  rw [pciBusFind, pciBusFindFrom_eq] at hfind
  have hnone := h.numbered.wellFormed.find_none hfind
    (Nat.le_add_left _ _) hx (h.lt (hb.below hx))
  exact of_decide_eq_false hnone

theorem pciBusFind_some {b x : Nat} {number : UInt8} (hfind : pciBusFind s b number = some x) :
    s.tree.forest.Below b x ∧ (s.tree.links x).number = number := by
  rw [pciBusFind, pciBusFindFrom_eq] at hfind
  obtain ⟨hbelow, hnum⟩ := Forest.find_some hfind
  exact ⟨hbelow, of_decide_eq_true hnum⟩

theorem pciBusRoot_eq (h : s.tree.Inv) {b : Nat} (hb : s.tree.InTree b) : pciBusRoot s b = 0 := by
  have hlast := h.numbered.wellFormed.getLast_ancestors hb (h.lt hb)
  rw [pciBusRoot, busPath, busAncestors_eq, List.getLastD_eq_getLast?]
  exact (congrArg (Option.getD · b) hlast).trans rfl

/-- The search from the root of a bus of the tree goes over the tree. -/
theorem pciBusFind_root_none (h : s.tree.Inv) {b x : Nat} {number : UInt8} (hb : s.tree.InTree b)
    (hfind : pciBusFind s (pciBusRoot s b) number = none) (hx : s.tree.InTree x) :
    (s.tree.links x).number ≠ number := by
  rw [pciBusRoot_eq h hb] at hfind
  exact pciBusFind_none h hfind Forest.inTree_root hx

/-! ## Subordinate numbers -/

theorem tree_pciOwnerUpdateSubordinate (s : PciState) (b : Nat) :
    (pciOwnerUpdateSubordinate s b).tree = s.tree := by
  unfold pciOwnerUpdateSubordinate
  split
  · rfl
  split
  · exact tree_updateDevice_same s _ rfl
  · rfl

theorem raises_subordinate (s : PciState) (b : Nat) {subordinate : UInt8}
    (h : (s.buses b).subordinateNumber ≤ subordinate) :
    s.tree.Raises
      (s.updateBus b fun bus => { bus with subordinateNumber := subordinate }).tree := by
  rw [tree_updateBus]
  refine ⟨rfl, Function.update_eq_self b s.tree.functions, rfl, fun x => ?_, fun x => ?_⟩ <;>
  · by_cases hx : x = b
    · subst hx
      simp [PciState.tree, PciBus.links, h]
    · simp [hx]

theorem raises_pciBusUpdateAncestor (s : PciState) (b : Nat) :
    s.tree.Raises (pciBusUpdateAncestor s b).tree := by
  unfold pciBusUpdateAncestor
  split
  · exact .refl _
  rename_i parent hparent
  rw [← tree_pciOwnerUpdateSubordinate s b]
  dsimp only
  split
  · rename_i hlt
    exact raises_subordinate _ parent (UInt8.le_of_lt hlt)
  · exact .refl _

theorem raises_pciBusUpdateAncestors (s : PciState) (bus : Nat) :
    s.tree.Raises (pciBusUpdateAncestors s bus).tree := by
  unfold pciBusUpdateAncestors
  generalize busPath s (some bus) = path
  induction path generalizing s with
  | nil => exact .refl _
  | cons b bs ih => exact (raises_pciBusUpdateAncestor s b).trans (ih _)

/-! ## Requester IDs -/

/-- The functions know the slots that they are in. -/
def SlotsAgree (s : PciState) : Prop :=
  ∀ b i d, (s.buses b).functions i = some d →
    (s.devices d).pciBus = some b ∧ (s.devices d).devfn = i

/-- The requester ID of function `d` is that of its slot. -/
def IdCurrent (d : Nat) (s : PciState) : Prop :=
  ∀ b, (s.devices d).pciBus = some b →
    (s.devices d).requesterId = pciRequesterId (s.buses b).number (s.devices d).devfn

theorem IdSame.buses {s t : PciState} (h : IdSame s t) : t.buses = s.buses :=
  (congrArg PciState.buses h :)

theorem IdSame.place {s t : PciState} (h : IdSame s t) (d : Nat) :
    (t.devices d).place =
      { (s.devices d).place with requesterId := (t.devices d).requesterId } :=
  (congrArg (fun dev => { dev.place with requesterId := (t.devices d).requesterId })
    (h.device d) :)

theorem SlotsAgree.of_idSame {s t : PciState} (h : SlotsAgree s) (hid : IdSame s t) :
    SlotsAgree t := by
  intro b i d hd
  rw [hid.buses] at hd
  have hplace := hid.place d
  exact ⟨(congrArg PciPlace.pciBus hplace).trans (h b i d hd).1,
    (congrArg PciPlace.devfn hplace).trans (h b i d hd).2⟩

theorem pciSlotUpdateRequesterId_current {s : PciState} (h : SlotsAgree s) (bus slot d : Nat)
    (hd : IdCurrent d s ∨ (s.buses bus).functions (UInt8.ofNat slot) = some d) :
    IdCurrent d (pciSlotUpdateRequesterId bus s slot) := by
  unfold pciSlotUpdateRequesterId
  cases hfun : (s.buses bus).functions (UInt8.ofNat slot) with
  | none =>
    obtain hd | hd := hd
    · exact hd
    · rw [hfun] at hd
      cases hd
  | some e =>
    by_cases he : d = e
    · subst he
      obtain ⟨hbus, hdevfn⟩ := h _ _ _ hfun
      intro b hb
      simp only [PciState.updateDevice, Function.update_self] at hb ⊢
      obtain rfl : bus = b := Option.some.inj (hbus.symm.trans hb)
      rw [hdevfn]
    · obtain hd | hd := hd
      · intro b hb
        simp only [PciState.updateDevice, Function.update_of_ne he] at hb ⊢
        exact hd b hb
      · rw [hfun] at hd
        exact absurd (Option.some.inj hd).symm he

/-- What every update of a slot keeps, a loop of updates keeps. -/
theorem current_foldl {α : Type} {f : PciState → α → PciState} {d : Nat}
    (hf : ∀ s a, SlotsAgree s → IdCurrent d s → IdCurrent d (f s a))
    (hsame : ∀ s a, IdSame s (f s a)) {s : PciState} (h : SlotsAgree s) (hd : IdCurrent d s)
    (as : List α) : IdCurrent d (as.foldl f s) := by
  induction as generalizing s with
  | nil => exact hd
  | cons a as ih => exact ih (h.of_idSame (hsame s a)) (hf s a h hd)

theorem pciBusUpdateRequesterIdsFrom_current {s : PciState} (h : SlotsAgree s) {d : Nat}
    (hd : IdCurrent d s) (fuel bus : Nat) :
    IdCurrent d (pciBusUpdateRequesterIdsFrom fuel s bus) := by
  induction fuel generalizing s bus with
  | zero => exact hd
  | succ n ih =>
    have hslots := idSame_foldl (idSame_pciSlotUpdateRequesterId bus) s (List.range 256)
    have hcurrent := current_foldl (fun s slot h hd =>
      pciSlotUpdateRequesterId_current h bus slot d (.inl hd))
      (idSame_pciSlotUpdateRequesterId bus) h hd (List.range 256)
    exact current_foldl (fun s c h hd => ih h hd c)
      (fun s c => idSame_pciBusUpdateRequesterIdsFrom n s c) (h.of_idSame hslots) hcurrent _

/-- The loop over the slots of a bus reaches each of its functions. -/
theorem current_of_slot {s : PciState} (h : SlotsAgree s) {bus d : Nat} {i : UInt8}
    (hfun : (s.buses bus).functions i = some d) {slots : List Nat} (hi : i.toNat ∈ slots) :
    IdCurrent d (slots.foldl (pciSlotUpdateRequesterId bus) s) := by
  induction slots generalizing s with
  | nil => exact absurd hi List.not_mem_nil
  | cons slot slots ih =>
    have hsame := idSame_pciSlotUpdateRequesterId bus s slot
    obtain rfl | hi := List.mem_cons.1 hi
    · refine current_foldl (fun s slot h hd =>
        pciSlotUpdateRequesterId_current h bus slot d (.inl hd))
        (idSame_pciSlotUpdateRequesterId bus) (h.of_idSame hsame) ?_ slots
      exact pciSlotUpdateRequesterId_current h bus _ d (.inr (by rwa [UInt8.ofNat_toNat]))
    · exact ih (h.of_idSame hsame) (by rwa [hsame.buses]) hi

/-- After the update of a bus its functions have current requester IDs, and the others keep
theirs. -/
theorem pciBusUpdateRequesterIds_current {s : PciState} (h : SlotsAgree s) (hcount : 0 < s.busCount)
    {bus d : Nat} (hd : IdCurrent d s ∨ ∃ i, (s.buses bus).functions i = some d) :
    IdCurrent d (pciBusUpdateRequesterIds s bus) := by
  obtain ⟨n, hn⟩ := Nat.exists_eq_succ_of_ne_zero (Nat.ne_of_gt hcount)
  obtain hd | ⟨i, hi⟩ := hd
  · exact pciBusUpdateRequesterIdsFrom_current h hd _ bus
  · rw [pciBusUpdateRequesterIds, hn, pciBusUpdateRequesterIdsFrom]
    have hslots := idSame_foldl (idSame_pciSlotUpdateRequesterId bus) s (List.range 256)
    have hcurrent := current_of_slot h hi (List.mem_range.2 i.toNat_lt)
    exact current_foldl (fun s c h hd => pciBusUpdateRequesterIdsFrom_current h hd n c)
      (fun s c => idSame_pciBusUpdateRequesterIdsFrom n s c) (h.of_idSame hslots) hcurrent _

/-! ## Bridges -/

/-- The tree after a bus got its subordinate number is determined by the tree before. -/
theorem tree_subordinate {s t : PciState} (h : t.tree = s.tree) (b : Nat) (subordinate : UInt8) :
    (t.updateBus b fun bus => { bus with subordinateNumber := subordinate }).tree =
      (s.updateBus b fun bus => { bus with subordinateNumber := subordinate }).tree := by
  have hfun : (t.buses b).functions = (s.buses b).functions :=
    (congrArg (fun T => PciTree.functions T b) h :)
  have hlinks : (t.buses b).links = (s.buses b).links :=
    (congrArg (fun T => PciTree.links T b) h :)
  have hsub : ({ t.buses b with subordinateNumber := subordinate } : PciBus).links =
      ({ s.buses b with subordinateNumber := subordinate } : PciBus).links :=
    (congrArg (fun l => { l with subordinateNumber := subordinate }) hlinks :)
  rw [tree_updateBus, tree_updateBus, h, hsub, hfun]

/-- The device record and the buses that a bridge is made with. -/
theorem tree_pciBusInit {s t : PciState} {d parent : Nat} {number : UInt8}
    (h : pciBusInit (s.updateDevice d fun _ => pciBridgeHeader s.busCount) d parent number = .ok t)
    (hp : parent ≠ s.busCount) :
    (t.updateBus s.busCount fun b => { b with subordinateNumber := number }).tree =
      s.tree.addBridge d parent number := by
  unfold pciBusInit at h
  split at h
  · cases h
  cases h
  refine PciTree.ext (funext fun e => ?_) (funext fun x => ?_) (funext fun x => ?_) rfl
  · by_cases he : e = d
    · subst he
      simp [PciState.tree, PciState.updateBus, PciState.updateDevice, PciTree.addBridge]
      rfl
    · simp [PciState.tree, PciState.updateBus, PciState.updateDevice, PciTree.addBridge, he]
  · by_cases hx : x = s.busCount
    · subst hx
      simp [PciState.tree, PciState.updateBus, PciState.updateDevice, PciTree.addBridge, hp.symm]
      rfl
    · by_cases hxp : x = parent
      · subst hxp
        simp [PciState.tree, PciState.updateBus, PciState.updateDevice, PciTree.addBridge, hx]
      · simp [PciState.tree, PciState.updateBus, PciState.updateDevice, PciTree.addBridge, hx, hxp]
  · by_cases hx : x = s.busCount
    · subst hx
      simp [PciState.tree, PciState.updateBus, PciState.updateDevice, PciTree.addBridge, hp.symm,
        PciBus.links]
      rfl
    · by_cases hxp : x = parent
      · subst hxp
        simp [PciState.tree, PciState.updateBus, PciState.updateDevice, PciTree.addBridge, hx,
          PciBus.links]
      · simp [PciState.tree, PciState.updateBus, PciState.updateDevice, PciTree.addBridge, hx, hxp]

theorem tree_pciBridgeUpdateMmioWindow (s : PciState) (child config : Nat) :
    (pciBridgeUpdateMmioWindow s child config).tree = s.tree := by
  unfold pciBridgeUpdateMmioWindow
  extract_lets base limit
  clear_value base limit
  exact tree_updateBus_same s child rfl rfl

theorem tree_pciBridgeUpdatePrefetchWindow (s : PciState) (d child : Nat) :
    (pciBridgeUpdatePrefetchWindow s d child).tree = s.tree := by
  unfold pciBridgeUpdatePrefetchWindow
  exact tree_updateBus_same s child rfl rfl

/-- A bridge is made with a number that is not in use, or nothing happens. -/
theorem pciBridgeInitWithWindow_cases (h : s.tree.Inv) {d parent : Nat} (hp : s.tree.InTree parent)
    (number : UInt8) (windowSize : Nat) :
    (∃ e, pciBridgeInitWithWindow s d parent number windowSize = (s, .error e)) ∨
    ((pciBridgeInitWithWindow s d parent number windowSize).2 = .ok () ∧
      (∀ x, s.tree.InTree x → (s.tree.links x).number ≠ number) ∧
      (s.tree.addBridge d parent number).Raises
        (pciBridgeInitWithWindow s d parent number windowSize).1.tree) := by
  unfold pciBridgeInitWithWindow
  extract_lets b next windowBase windowEnd child s₁
  split
  · exact .inl ⟨_, rfl⟩
  rename_i hargs
  split
  · exact .inl ⟨_, rfl⟩
  rename_i hfind
  split
  · exact .inl ⟨_, rfl⟩
  split
  · exact .inl ⟨_, rfl⟩
  split
  · exact .inl ⟨_, rfl⟩
  have hfresh : ∀ x, s.tree.InTree x → (s.tree.links x).number ≠ number := fun x hx =>
    pciBusFind_root_none h hp (by simpa using hfind) hx
  cases hinit : pciBusInit s₁ d parent number with
  | error e =>
    -- the checks of `vart_pci_bus_init` were made before
    unfold pciBusInit at hinit
    split at hinit
    · rename_i hchecks
      obtain hle | hsome := hchecks
      · exact absurd (.inl hle) hargs
      · obtain ⟨x, hx⟩ := Option.isSome_iff_exists.1 hsome
        obtain ⟨hbelow, hnum⟩ := pciBusFind_some hx
        exact absurd hnum (hfresh x (hp.below hbelow))
    · cases hinit
  | ok t =>
    refine .inr ⟨rfl, hfresh, ?_⟩
    dsimp only
    refine PciTree.Raises.trans ?_ (raises_pciBusUpdateAncestors _ child)
    rw [tree_updateDevice_same, ← tree_pciBusInit hinit (Nat.ne_of_lt (h.lt hp))]
    · refine (tree_subordinate ?_ child number) ▸ .refl _
      rw [tree_pciBridgeUpdatePrefetchWindow, tree_updateBus_same _ child rfl rfl,
        tree_updateBus_same _ parent rfl rfl]
    · simp only [place_configStoreLe]

theorem PciBus.functions_none {b : PciBus} (h : b.occupied = false) (i : UInt8) :
    b.functions i = none := by
  have hall := List.any_eq_false.1 h i.toNat (List.mem_range.2 i.toNat_lt)
  rw [UInt8.ofNat_toNat] at hall
  simpa using hall

theorem tree_pciBusDestroy (s : PciState) (bus : Nat) :
    (pciBusDestroy s bus).1.tree = s.tree ∨
    ((s.buses bus).children = [] ∧ (s.buses bus).occupied = false ∧
      (pciBusDestroy s bus).1.tree = s.tree.removeBus bus) := by
  unfold pciBusDestroy
  extract_lets b t
  split
  · exact .inl rfl
  rename_i hbusy
  obtain ⟨hfree, hleaf⟩ : b.occupied = false ∧ b.children = [] := by simpa using hbusy
  refine .inr ⟨hleaf, hfree, ?_⟩
  cases hparent : b.parentPciBus with
  | none =>
    have ht : t = s := by simp only [t, hparent]
    rw [ht]
    refine PciTree.ext rfl (funext fun x => ?_) (funext fun x => ?_) rfl
    · by_cases hx : x = bus
      · subst hx
        simp [PciState.tree, PciState.updateBus, PciTree.removeBus]
      · simp [PciState.tree, PciState.updateBus, PciTree.removeBus, hx]
    · by_cases hx : x = bus
      · subst hx
        simp [PciState.tree, PciState.updateBus, PciTree.removeBus, PciBus.links]
      · have hnone : (s.buses bus).parentPciBus = none := hparent
        simp [PciState.tree, PciState.updateBus, PciTree.removeBus, hx, PciBus.links, hnone]
  | some parent =>
    have ht : t = s.updateBus parent fun p => { p with children := p.children.erase bus } := by
      simp only [t, hparent]
    rw [ht]
    have hsome : (s.buses bus).parentPciBus = some parent := hparent
    refine PciTree.ext rfl (funext fun x => ?_) (funext fun x => ?_) rfl
    · by_cases hx : x = bus
      · subst hx
        by_cases hp : x = parent
        · subst hp
          simp [PciState.tree, PciState.updateBus, PciTree.removeBus]
        · simp [PciState.tree, PciState.updateBus, PciTree.removeBus, hp]
      · by_cases hp : x = parent
        · subst hp
          simp [PciState.tree, PciState.updateBus, PciTree.removeBus, hx]
        · simp [PciState.tree, PciState.updateBus, PciTree.removeBus, hx, hp]
    · by_cases hx : x = bus
      · subst hx
        by_cases hp : x = parent
        · subst hp
          simp [PciState.tree, PciState.updateBus, PciTree.removeBus, PciBus.links]
        · simp [PciState.tree, PciState.updateBus, PciTree.removeBus, hp, PciBus.links]
      · by_cases hp : x = parent
        · subst hp
          simp [PciState.tree, PciState.updateBus, PciTree.removeBus, hx, PciBus.links, hsome]
        · simp [PciState.tree, PciState.updateBus, PciTree.removeBus, hx, hp, PciBus.links, hsome,
            Ne.symm hp]

/-- The end of a bridge keeps the invariant. -/
theorem pciBridgeDestroy_inv (h : s.tree.Inv) (d : Nat) : (pciBridgeDestroy s d).1.tree.Inv := by
  unfold pciBridgeDestroy
  dsimp only
  split
  · exact h
  split
  · exact h
  · rename_i bus hbus
    obtain htree | ⟨hleaf, hfree, htree⟩ := tree_pciBusDestroy s bus
    · rwa [htree]
    · rw [htree]
      exact h.removeBus (h.bridge d bus hbus).1 hleaf (PciBus.functions_none hfree)

theorem pciBridgeDestroy_foldl_inv (h : s.tree.Inv) (ports : List Nat) :
    (ports.foldl (fun s p => (pciBridgeDestroy s p).1) s).tree.Inv := by
  induction ports generalizing s with
  | nil => exact h
  | cons p ports ih => exact ih (pciBridgeDestroy_inv h p)

/-- What holds after a bridge was made. -/
structure BridgeMade (d : Nat) (s t : PciState) : Prop where
  inv : t.tree.Inv
  child : t.tree.InTree s.busCount
  inTree : ∀ x, s.tree.InTree x → t.tree.InTree x
  others : ∀ e, e ≠ d → (t.devices e).initialised = (s.devices e).initialised

theorem bridgeMade (h : s.tree.Inv) {t : PciState} {d parent : Nat} {number : UInt8}
    (hd : (s.devices d).initialised = false) (hp : s.tree.InTree parent)
    (hfresh : ∀ x, s.tree.InTree x → (s.tree.links x).number ≠ number)
    (hraises : (s.tree.addBridge d parent number).Raises t.tree) : BridgeMade d s t := by
  have hlt := h.lt hp
  have hforest : t.tree.forest = s.tree.forest.addLeaf parent := by
    rw [hraises.forest, PciTree.forest_addBridge _ _ _ (Nat.ne_of_lt hlt)]
  have htree : ∀ x, t.tree.InTree x ↔ s.tree.InTree x ∨ (x = s.busCount ∧ s.tree.InTree parent) :=
    fun x => by
      rw [PciTree.InTree, hforest]
      exact h.numbered.wellFormed.inTree_addLeaf hlt
  refine ⟨(h.addBridge (h.pciBus_none hd) hp hfresh).raises hraises, (htree _).2 (.inr ⟨rfl, hp⟩),
    fun x hx => (htree x).2 (.inl hx), fun e he => ?_⟩
  have hplace : t.tree.place e = s.tree.place e :=
    (congrFun hraises.place e).trans (Function.update_of_ne he _ _)
  exact congrArg PciPlace.initialised hplace

/-! ## Switches -/

theorem pciSwitchPorts_inv (h : s.tree.Inv) {internal : Nat} (hinternal : s.tree.InTree internal)
    (number : UInt8) (done : List Nat) {ports : List Nat} (hnodup : ports.Nodup)
    (hinit : ∀ d ∈ ports, (s.devices d).initialised = false) :
    (pciSwitchPorts s internal number done ports).1.tree.Inv := by
  induction ports generalizing s number done with
  | nil => exact h
  | cons port ports ih =>
    rw [pciSwitchPorts]
    obtain ⟨e, hcall⟩ | ⟨hok, hfresh, hraises⟩ :=
      pciBridgeInitWithWindow_cases h (d := port) hinternal number pciBridgeMmioWindowSize
    · rw [hcall]
      exact pciBridgeDestroy_foldl_inv h done
    · have hmade := bridgeMade h (hinit port List.mem_cons_self) hinternal hfresh hraises
      generalize pciBridgeInitWithWindow s port internal number pciBridgeMmioWindowSize = r at *
      obtain ⟨t, st⟩ := r
      cases hok
      obtain ⟨hport, hnodup⟩ := List.nodup_cons.1 hnodup
      refine ih hmade.inv (hmade.inTree _ hinternal) (number + 1) (port :: done) hnodup ?_
      intro d hd
      rw [hmade.others d fun hdp => hport (hdp ▸ hd)]
      exact hinit d (List.mem_cons_of_mem _ hd)

theorem pciSwitchInit_inv (h : s.tree.Inv) {upstream : Nat} {ports : List Nat} {parent : Nat}
    (hp : s.tree.InTree parent) (number : UInt8) (hnodup : (upstream :: ports).Nodup)
    (hinit : ∀ d ∈ upstream :: ports, (s.devices d).initialised = false) :
    (pciSwitchInit s upstream ports parent number).1.tree.Inv := by
  unfold pciSwitchInit
  extract_lets portCount oldMmioNext internal
  split
  · exact h
  obtain ⟨e, hcall⟩ | ⟨hok, hfresh, hraises⟩ :=
    pciBridgeInitWithWindow_cases h (d := upstream) hp number (portCount * pciBridgeMmioWindowSize)
  · rw [hcall]
    exact h
  have hmade := bridgeMade h (hinit upstream List.mem_cons_self) hp hfresh hraises
  generalize pciBridgeInitWithWindow s upstream parent number
    (portCount * pciBridgeMmioWindowSize) = r at *
  obtain ⟨t, st⟩ := r
  cases hok
  dsimp only
  obtain ⟨hup, hnodup⟩ := List.nodup_cons.1 hnodup
  have hports := pciSwitchPorts_inv hmade.inv hmade.child (number + 1) [] hnodup fun d hd => by
    rw [hmade.others d fun hdu => hup (hdu ▸ hd)]
    exact hinit d (List.mem_cons_of_mem _ hd)
  split
  · rename_i u e hu
    rw [hu] at hports
    dsimp only
    rw [tree_updateBus_same _ parent rfl rfl]
    exact pciBridgeDestroy_inv hports upstream
  · rename_i u _ hu
    rw [hu] at hports
    exact hports

/-- `pci_bridge_init_with_window` when the parent cannot allocate its list of children: the checks
come first, and what follows the allocation is not done. -/
def pciBridgeInitNoMemory (s : PciState) (d parent : Nat) (secondaryNumber : UInt8)
    (windowSize : Nat) : PciState × Status :=
  match pciBridgeInitWithWindow s d parent secondaryNumber windowSize with
  | (t, .error e) => (t, .error e)
  | (_, .ok _) =>
    let child := s.busCount
    let s := s.updateDevice d fun _ => pciBridgeHeader child
    let s := { s with busCount := s.busCount + 1 }
    (s.updateBus child fun _ => { PciBus.zero with
      parentPciBus := some parent
      number := secondaryNumber
      secondaryNumber := secondaryNumber
      subordinateNumber := 255 }, .error .enomem)

theorem pciBridgeInitNoMemory_inv (h : s.tree.Inv) {d parent : Nat} (number : UInt8)
    (windowSize : Nat) (hd : (s.devices d).initialised = false) (hp : s.tree.InTree parent) :
    (pciBridgeInitNoMemory s d parent number windowSize).1.tree.Inv := by
  unfold pciBridgeInitNoMemory
  obtain ⟨e, hcall⟩ | ⟨hok, -, -⟩ :=
    pciBridgeInitWithWindow_cases h (d := d) hp number windowSize
  · rw [hcall]
    exact h
  · generalize pciBridgeInitWithWindow s d parent number windowSize = r at hok
    obtain ⟨t, st⟩ := r
    cases hok
    dsimp only
    have horphan := h.addOrphan (h.pciBus_none hd) parent number
    have hplace := congrArg PciTree.place
      (tree_updateDevice s d fun _ => pciBridgeHeader s.busCount)
    rw [tree_updateBus]
    refine (congrArg PciTree.Inv ?_).mpr horphan
    exact PciTree.ext hplace rfl rfl rfl

/-- `vart_pci_switch_init` when an allocation of a list of children fails: that of the parent bus,
or that of the internal bus for the first port. The list has room for four ports then. -/
def pciSwitchInitNoMemory (s : PciState) (upstream : Nat) (ports : List Nat) (parent : Nat)
    (secondaryNumber : UInt8) (internalFails : Bool) : PciState × Status :=
  let portCount := ports.length
  let windowSize := portCount * pciBridgeMmioWindowSize
  if portCount = 0 ∨ portCount &&& (portCount - 1) ≠ 0 ∨ portCount > 4 ∨
      secondaryNumber.toNat > 255 - portCount then (s, .error .einval)
  else if !internalFails then pciBridgeInitNoMemory s upstream parent secondaryNumber windowSize
  else
    let oldMmioNext := (s.buses parent).mmioNext
    let internal := s.busCount
    match pciBridgeInitWithWindow s upstream parent secondaryNumber windowSize, ports with
    | (s, .ok _), port :: _ =>
      let r := pciBridgeInitNoMemory s port internal (secondaryNumber + 1) pciBridgeMmioWindowSize
      let s := (pciBridgeDestroy r.1 upstream).1
      (s.updateBus parent fun b => { b with mmioNext := oldMmioNext }, r.2)
    | r, _ => r

theorem pciSwitchInitNoMemory_inv (h : s.tree.Inv) {upstream : Nat} {ports : List Nat}
    {parent : Nat} (hp : s.tree.InTree parent) (number : UInt8) (internalFails : Bool)
    (hnodup : (upstream :: ports).Nodup)
    (hinit : ∀ d ∈ upstream :: ports, (s.devices d).initialised = false) :
    (pciSwitchInitNoMemory s upstream ports parent number internalFails).1.tree.Inv := by
  have hup := hinit upstream List.mem_cons_self
  unfold pciSwitchInitNoMemory
  extract_lets portCount windowSize oldMmioNext internal
  split
  · exact h
  split
  · exact pciBridgeInitNoMemory_inv h number windowSize hup hp
  obtain ⟨e, hcall⟩ | ⟨hok, hfresh, hraises⟩ :=
    pciBridgeInitWithWindow_cases h (d := upstream) hp number windowSize
  · rw [hcall]
    exact h
  have hmade := bridgeMade h hup hp hfresh hraises
  generalize pciBridgeInitWithWindow s upstream parent number windowSize = r at *
  obtain ⟨t, st⟩ := r
  cases hok
  cases ports with
  | nil => exact hmade.inv
  | cons port ports =>
    dsimp only
    rw [tree_updateBus_same _ parent rfl rfl]
    have hport : port ≠ upstream := fun heq =>
      (List.nodup_cons.1 hnodup).1 (heq ▸ List.mem_cons_self)
    refine pciBridgeDestroy_inv (pciBridgeInitNoMemory_inv hmade.inv _ _ ?_ hmade.child) upstream
    rw [hmade.others port hport]
    exact hinit port (List.mem_cons_of_mem _ List.mem_cons_self)

/-- The loop of `vart_pci_switch_destroy` over the ports, the last one first. -/
def pciSwitchDestroyPorts (s : PciState) : List Nat → PciState × Status
  | [] => (s, .ok ())
  | port :: ports =>
    match pciBridgeDestroy s port with
    | (s, .error e) => (s, .error e)
    | (s, .ok _) => pciSwitchDestroyPorts s ports

/-- `vart_pci_switch_destroy`. -/
def pciSwitchDestroy (s : PciState) (upstream : Nat) (ports : List Nat) : PciState × Status :=
  if ports = [] then (s, .error .einval)
  else if ports.any fun p => (s.devices p).parent.realized || (s.devices p).pciBus.isSome then
    (s, .error .ebusy)
  else
    match pciSwitchDestroyPorts s ports.reverse with
    | (s, .error e) => (s, .error e)
    | (s, .ok _) => pciBridgeDestroy s upstream

theorem pciSwitchDestroyPorts_inv (h : s.tree.Inv) (ports : List Nat) :
    (pciSwitchDestroyPorts s ports).1.tree.Inv := by
  induction ports generalizing s with
  | nil => exact h
  | cons port ports ih =>
    have hdestroy := pciBridgeDestroy_inv h port
    rw [pciSwitchDestroyPorts]
    generalize pciBridgeDestroy s port = r at hdestroy ⊢
    obtain ⟨t, e | u⟩ := r
    · exact hdestroy
    · exact ih hdestroy

theorem pciSwitchDestroy_inv (h : s.tree.Inv) (upstream : Nat) (ports : List Nat) :
    (pciSwitchDestroy s upstream ports).1.tree.Inv := by
  have hports := pciSwitchDestroyPorts_inv h ports.reverse
  unfold pciSwitchDestroy
  split
  · exact h
  split
  · exact h
  generalize pciSwitchDestroyPorts s ports.reverse = r at hports ⊢
  obtain ⟨t, e | u⟩ := r
  · exact hports
  · exact pciBridgeDestroy_inv hports upstream

/-! ## Functions -/

theorem pciBusAddDevice_inv (h : s.tree.Inv) {bus d : Nat} (devfn : UInt8)
    (hb : s.tree.InTree bus) (hd : (s.devices d).initialised = true) :
    (pciBusAddDevice s bus d devfn).1.tree.Inv := by
  unfold pciBusAddDevice
  extract_lets b dev function s₁ s₂ s₃
  split
  · exact h
  rename_i hbus
  split
  · exact h
  rename_i hfree
  split
  · exact h
  split
  · exact h
  have hadd : s₂.tree = s.tree.addFunction bus d devfn := by
    have h1 : s₁.tree = _ := tree_updateDevice s d _
    have h2 : s₂.tree = _ := tree_updateBus s₁ bus _
    rw [h2, h1]
    refine PciTree.ext rfl rfl ?_ rfl
    exact Function.update_eq_self bus s.tree.links
  have hlast : s₃.tree = s₂.tree := by
    simp only [s₃]
    split
    · rfl
    split
    · exact tree_updateDevice_same s₂ _ rfl
    · rfl
  dsimp only
  rw [hlast, hadd]
  have hnone : dev.pciBus = none := by simpa using hbus
  have hslot : b.functions devfn = none := by simpa using hfree
  exact h.addFunction hb hnone hd hslot

theorem pciBusRemoveDevice_inv (h : s.tree.Inv) (bus d : Nat) :
    (pciBusRemoveDevice s bus d).1.tree.Inv := by
  unfold pciBusRemoveDevice
  extract_lets dev function0 function s₁ s₂ s₃
  split
  · exact h
  rename_i hbus
  split
  · exact h
  split
  · exact h
  have hremove : s₂.tree = s.tree.removeFunction bus d := by
    have h1 : s₁.tree = _ := tree_updateBus s bus _
    have h2 : s₂.tree = _ := tree_updateDevice s₁ d _
    rw [h2, h1]
    refine PciTree.ext rfl rfl ?_ rfl
    exact Function.update_eq_self bus s.tree.links
  have hlast : s₃.tree = s₂.tree := by
    simp only [s₃]
    split
    · rfl
    split
    · exact tree_updateDevice_same s₂ _ rfl
    · rfl
  dsimp only
  rw [hlast, hremove]
  have hsome : dev.pciBus = some bus := by simpa using (not_or.1 hbus).1
  exact h.removeFunction hsome

/-! ## Guest writes -/

/-- A bus gets another number, and the functions new requester IDs. -/
theorem renumbers_pciBusUpdateRequesterIds (h : s.tree.Inv) (d child : Nat)
    (number subordinate : UInt8) (latency : Nat) :
    s.tree.Renumbers child number subordinate (pciBusUpdateRequesterIds
      ((s.updateBus child fun b => { b with
        number, secondaryNumber := number, subordinateNumber := subordinate }).updateDevice d
        (·.configStoreLe 0x1b 1 latency)) child).tree := by
  set s₁ := s.updateBus child fun b => { b with
    number, secondaryNumber := number, subordinateNumber := subordinate } with hs₁
  set s₂ := s₁.updateDevice d (·.configStoreLe 0x1b 1 latency) with hs₂
  have htree : s₂.tree = { s.tree with
      links := Function.update s.tree.links child { s.tree.links child with
        number, secondaryNumber := number, subordinateNumber := subordinate } } := by
    rw [hs₂, tree_updateDevice_same s₁ d rfl, hs₁, tree_updateBus]
    exact PciTree.ext rfl (Function.update_eq_self child s.tree.functions) rfl rfl
  have hplace : ∀ e, (s₂.devices e).place = s.tree.place e := fun e =>
    congrFun (congrArg PciTree.place htree) e
  have hfun : ∀ b, (s₂.buses b).functions = s.tree.functions b := fun b =>
    congrFun (congrArg PciTree.functions htree) b
  have hlinks : ∀ b, (s₂.buses b).links = _ := fun b => congrFun (congrArg PciTree.links htree) b
  have hcount : s₂.busCount = s.busCount := congrArg PciTree.busCount htree
  have hslots : SlotsAgree s₂ := by
    intro b i e he
    rw [hfun] at he
    obtain ⟨hbus, hdevfn⟩ := h.slot b i e he
    exact ⟨(congrArg PciPlace.pciBus (hplace e)).trans hbus,
      (congrArg PciPlace.devfn (hplace e)).trans hdevfn⟩
  have hsame := idSame_pciBusUpdateRequesterIds s₂ child
  have hcurrent : ∀ e, IdCurrent e (pciBusUpdateRequesterIds s₂ child) := by
    intro e
    refine pciBusUpdateRequesterIds_current hslots
      (hcount ▸ h.numbered.wellFormed.pos) ?_
    cases hbus : (s.tree.place e).pciBus with
    | none =>
      refine .inl fun b hb => ?_
      have := (congrArg PciPlace.pciBus (hplace e)).trans hbus
      exact absurd (hb.symm.trans this) (by simp)
    | some b =>
      have hattached := h.attached e b hbus
      by_cases hb : b = child
      · subst hb
        exact .inr ⟨_, (congrFun (hfun b) _).trans hattached.function⟩
      · refine .inl fun b' hb' => ?_
        obtain rfl : b = b' := Option.some.inj
          (hbus.symm.trans ((congrArg PciPlace.pciBus (hplace e)).symm.trans hb'))
        have hnum : (s₂.buses b).number = (s.tree.links b).number :=
          congrArg PciLinks.number ((hlinks b).trans (Function.update_of_ne hb _ _))
        rw [hnum]
        have hid := hattached.requesterId
        rw [← hplace e] at hid
        exact hid
  refine ⟨?_, ?_, ?_, fun e => ?_, fun e b hb => hcurrent e b hb⟩
  · exact (congrArg (fun buses b => PciBus.links (buses b)) hsame.buses).trans (funext hlinks)
  · exact (congrArg (fun buses b => PciBus.functions (buses b)) hsame.buses).trans (funext hfun)
  · exact (congrArg PciState.busCount hsame).trans hcount
  · have := hsame.place e
    rw [hplace e] at this
    exact this

theorem pciBridgeWriteBusNumbers_inv (h : s.tree.Inv) {d child : Nat}
    (hsecondary : (s.devices d).secondaryBus = some child) (offset size value : Nat) :
    (pciBridgeWriteBusNumbers s d child offset size value).1.tree.Inv := by
  unfold pciBridgeWriteBusNumbers
  split
  · exact h
  rename_i parent hparent
  extract_lets secondary subordinate latency existing s₁ s₂
  split
  · exact h
  split
  · exact h
  rename_i hrange
  split
  · exact h
  rename_i hexists
  refine (h.renumbers (renumbers_pciBusUpdateRequesterIds h d child secondary subordinate _)
    (UInt8.not_lt.1 fun hlt => hrange (.inr hlt)) ?_).raises (raises_pciBusUpdateAncestors _ child)
  intro hchild x hx hnum
  obtain ⟨b, hb, hbtree, -⟩ := h.numbered.wellFormed.parent_inTree hchild (h.bridge d child
    hsecondary).1
  obtain rfl : parent = b := Option.some.inj (hparent.symm.trans hb)
  cases hfind : existing with
  | none => exact absurd hnum (pciBusFind_root_none h hbtree hfind hx)
  | some y =>
    obtain ⟨-, hy⟩ := pciBusFind_some hfind
    obtain rfl : y = child := by
      by_contra hne
      exact hexists ⟨by rw [hfind]; rfl, by rw [hfind]; simpa using hne⟩
    exact h.numbered.numbers x y hx hchild (hnum.trans hy.symm)

theorem pciBridgeConfigWrite_inv (h : s.tree.Inv) {d child offset size value : Nat}
    (hsecondary : (s.devices d).secondaryBus = some child) {r : PciState × Status}
    (hr : pciBridgeConfigWrite s d child offset size value = some r) : r.1.tree.Inv := by
  have hstore : (s.updateDevice d (·.configStoreLe offset size value)).tree = s.tree :=
    tree_updateDevice_same s d rfl
  unfold pciBridgeConfigWrite at hr
  split at hr
  · split at hr
    · cases hr
      rw [tree_pciBridgeUpdateMmioWindow, hstore]
      exact h
    split at hr
    · cases hr
      rw [tree_pciBridgeUpdatePrefetchWindow, hstore]
      exact h
    · cases hr
  · cases hr
    exact pciBridgeWriteBusNumbers_inv h hsecondary offset size value

theorem tree_pciMsixUpdateControl (sink : Sink) (s : PciState) (d : Nat) :
    (pciMsixUpdateControl sink s d).tree = s.tree := by
  unfold pciMsixUpdateControl
  dsimp only
  split
  · rfl
  · rw [(deliverSame_pciMsixFlushPending ..).tree]
    exact tree_updateDevice_same s d rfl

theorem tree_pciCommandWritten (s : PciState) (d oldCommand : Nat) :
    (pciCommandWritten s d oldCommand).1.tree = s.tree := by
  have hdecoded : ∀ enable wasEnabled : Bool,
      (if enable && !wasEnabled then pciDeviceEnableMemory s d
        else (if !enable && wasEnabled then pciDeviceDisableMemory s d else s, .ok ())).1.tree =
      s.tree := by
    intro enable wasEnabled
    split
    · exact (mapStep_pciDeviceEnableMemory s d).same.tree
    · dsimp only
      split
      · exact (mapStep_pciDeviceDisableMemory s d).same.tree
      · rfl
  unfold pciCommandWritten
  extract_lets command enable wasEnabled decoded
  have htree : decoded.1.tree = s.tree := hdecoded enable wasEnabled
  clear_value decoded
  obtain ⟨t, e | u⟩ := decoded <;>
  · dsimp only
    rw [tree_updateDevice_same t d rfl]
    exact htree

theorem tree_pciGenericConfigWrite (sink : Sink) (s : PciState) (d offset size value : Nat) :
    (pciGenericConfigWrite sink s d offset size value).1.tree = s.tree := by
  unfold pciGenericConfigWrite
  extract_lets oldCommand t written
  have ht : t.tree = s.tree := tree_updateDevice_same s d rfl
  have hwritten : written.1.tree = s.tree := by
    show (if offset < 0x06 ∧ offset + size > 0x04 then pciCommandWritten t d oldCommand
      else (t, .ok ())).1.tree = s.tree
    split
    · exact (tree_pciCommandWritten t d oldCommand).trans ht
    · exact ht
  clear_value written
  obtain ⟨u, e | _⟩ := written
  · exact hwritten
  · exact (tree_pciMsixUpdateControl sink u d).trans hwritten

theorem pciConfigWrite_inv (sink : Sink) (h : s.tree.Inv) (d offset size value : Nat) :
    (pciConfigWrite sink s d offset size value).1.tree.Inv := by
  unfold pciConfigWrite
  split
  · rename_i index high hbar
    split at hbar
    · obtain ⟨hi, himpl⟩ := pciBarFromOffset_some hbar
      rw [(mapStep_pciBarWrite _ high hi himpl).same.tree]
      exact h
    · cases hbar
  split
  · rename_i r hr
    obtain ⟨child, hchild, hwrite⟩ := Option.bind_eq_some_iff.1 hr
    exact pciBridgeConfigWrite_inv h hchild hwrite
  · rw [tree_pciGenericConfigWrite]
    exact h

/-! ## All calls -/

theorem place_pciDeviceSetBar {dev dev' : PciDevice} {index size flags : Nat}
    (h : pciDeviceSetBar dev index size flags = .ok dev') : dev'.place = dev.place := by
  unfold pciDeviceSetBar at h
  simp only at h
  split at h
  · cases h
  split at h
  · cases h
  split at h
  · cases h
  split at h
  · cases h
  · cases h
    split <;> rfl

theorem place_pciDeviceAddCapability {dev : PciDevice} {id : UInt8} {data : List UInt8}
    {r : PciDevice × Nat} (h : pciDeviceAddCapability dev id data = .ok r) :
    r.1.place = dev.place := by
  unfold pciDeviceAddCapability at h
  simp only at h
  split at h
  · cases h
  split at h
  · cases h
  split at h
  · cases h
  · cases h; rfl

theorem place_pciDeviceInitMsix {dev dev' : PciDevice}
    {vectorCount tableBar tableOffset pbaBar pbaOffset : Nat}
    (h : pciDeviceInitMsix dev vectorCount tableBar tableOffset pbaBar pbaOffset = .ok dev') :
    dev'.place = dev.place := by
  unfold pciDeviceInitMsix at h
  split at h
  · cases h
  split at h
  · cases h
  split at h
  · cases h
  dsimp only at h
  split at h
  · cases h
  · rename_i hadd
    cases h
    exact (place_pciDeviceAddCapability hadd :)

theorem tree_pciIntxDeassert (sink : Sink) (s : PciState) (d : Nat) :
    (pciIntxDeassert sink s d).tree = s.tree := by
  unfold pciIntxDeassert
  split
  · rfl
  split
  · exact tree_updateDevice_same _ d rfl
  · rfl

theorem tree_pciDeviceResetInternal (sink : Sink) (s : PciState) (d : Nat) :
    (pciDeviceResetInternal sink s d).tree = s.tree := by
  unfold pciDeviceResetInternal
  extract_lets t u
  have ht : t.tree = s.tree := (tree_pciIntxDeassert sink _ d).trans
    (mapStep_pciDeviceDisableMemory s d).same.tree
  have hu : u.tree = t.tree := by
    refine tree_updateDevice_same t d ?_
    dsimp only
    split <;> rfl
  exact hu.trans ht

/-- The buses that a call is given. -/
def PciOp.usedBuses : PciOp → List Nat
  | .bridgeInit _ parent _ => [parent]
  | .switchInit _ _ parent _ => [parent]
  | .addDevice bus _ _ => [bus]
  | _ => []

theorem place_of_configured {dev dev' : PciDevice} (h : Configured dev dev') :
    dev'.place = dev.place := by
  cases h with
  | setBar h => exact place_pciDeviceSetBar h
  | capability h => exact place_pciDeviceAddCapability h
  | initMsix h => exact place_pciDeviceInitMsix h
  | routes => rfl
  | intx => rfl

theorem tree_pciMsixTableWrite (sink : Sink) (s : PciState) (d offset size value : Nat) :
    (pciMsixTableWrite sink s d offset size value).1.tree = s.tree := by
  simp only [pciMsixTableWrite]
  split
  · rfl
  · dsimp only
    rw [(deliverSame_pciMsixFlushPending ..).tree, PciState.updateMsix, tree_updateDevice_same s d rfl]

theorem pciStep_inv (sink : Sink) (h : s.tree.Inv) {op : PciOp} (hv : op.Valid s)
    (hb : ∀ b ∈ op.usedBuses, s.tree.InTree b) : (pciStep sink s op).tree.Inv := by
  have hout := pciStep_outcome sink s op
  generalize pciStep sink s op = t at hout
  have hsame : t.tree = s.tree → t.tree.Inv := fun ht => ht ▸ h
  cases hout with
  | same | irq | memory => exact h
  | deviceInit =>
    rw [tree_updateDevice]
    exact h.setPlace (h.pciBus_none hv) rfl fun c hc => by cases hc
  | configured hdev => exact hsame (tree_updateDevice_same s _ (place_of_configured hdev))
  | setDmaAs => exact hsame (tree_updateDevice_same s _ rfl)
  | setIntx => exact hsame (tree_updateDevice_same _ _ rfl)
  | @bridgeInit d parent number =>
    have hp := hb parent List.mem_cons_self
    obtain ⟨e, hcall⟩ | ⟨-, hfresh, hraises⟩ :=
      pciBridgeInitWithWindow_cases h (d := d) hp number pciBridgeMmioWindowSize
    · rw [pciBridgeInit, hcall]
      exact h
    · exact (bridgeMade h hv.1 hp hfresh hraises).inv
  | bridgeDestroy => exact pciBridgeDestroy_inv h _
  | switchInit => exact pciSwitchInit_inv h (hb _ List.mem_cons_self) _ hv.1 hv.2.1
  | addDevice => exact pciBusAddDevice_inv h _ (hb _ List.mem_cons_self) hv.2
  | removeDevice => exact pciBusRemoveDevice_inv h _ _
  | realizeFailed => exact hsame (mapStep_pciDeviceRealizeOp s _).same.tree
  | realized =>
    exact hsame ((tree_updateDevice_same _ _ rfl).trans (mapStep_pciDeviceRealizeOp s _).same.tree)
  | @unrealized d =>
    apply hsame
    rw [tree_updateDevice_same _ d rfl, (mapStep_pciDeviceDisableMemory _ d).same.tree,
      tree_pciIntxDeassert]
  | reset => exact hsame (tree_pciDeviceResetInternal sink s _)
  | configWrite => exact pciConfigWrite_inv sink h _ _ _ _
  | tableWrite => exact hsame (tree_pciMsixTableWrite ..)
  | raiseMsix => exact hsame (deliverSame_pciDeviceRaiseMsix sink s _ _).tree

/-! ## Runs -/

/-- The calls of the PCI core, with the failures of allocations that it can meet halfway. -/
inductive TreeOp where
  | pci (op : PciOp)
  | bridgeInitNoMemory (d parent : Nat) (secondaryNumber : UInt8)
  | switchInitNoMemory (upstream : Nat) (ports : List Nat) (parent : Nat) (secondaryNumber : UInt8)
    (internalFails : Bool)
  | switchDestroy (upstream : Nat) (ports : List Nat)

def treeStep (sink : Sink) (s : PciState) : TreeOp → PciState
  | .pci op => pciStep sink s op
  | .bridgeInitNoMemory d parent number =>
    (pciBridgeInitNoMemory s d parent number pciBridgeMmioWindowSize).1
  | .switchInitNoMemory upstream ports parent number internalFails =>
    (pciSwitchInitNoMemory s upstream ports parent number internalFails).1
  | .switchDestroy upstream ports => (pciSwitchDestroy s upstream ports).1

/-- What the callers respect: the record of a new function is not in use, and a bus that is used is
one of the root complex. -/
def TreeOp.Valid (s : PciState) : TreeOp → Prop
  | .pci op => op.Valid s ∧ ∀ b ∈ op.usedBuses, s.tree.InTree b
  | .bridgeInitNoMemory d parent _ =>
    (s.devices d).initialised = false ∧ s.tree.InTree parent
  | .switchInitNoMemory upstream ports parent _ _ =>
    (upstream :: ports).Nodup ∧ (∀ d ∈ upstream :: ports, (s.devices d).initialised = false) ∧
      s.tree.InTree parent
  | .switchDestroy _ _ => True

theorem treeStep_inv (sink : Sink) (h : s.tree.Inv) {op : TreeOp} (hv : op.Valid s) :
    (treeStep sink s op).tree.Inv := by
  cases op with
  | pci op => exact pciStep_inv sink h hv.1 hv.2
  | bridgeInitNoMemory d parent number => exact pciBridgeInitNoMemory_inv h number _ hv.1 hv.2
  | switchInitNoMemory upstream ports parent number internalFails =>
    exact pciSwitchInitNoMemory_inv h hv.2.2 number internalFails hv.1 hv.2.1
  | switchDestroy upstream ports => exact pciSwitchDestroy_inv h upstream ports

theorem PciState.Initial.tree_inv (h : s.Initial) : s.tree.Inv := by
  obtain ⟨memory, -, rfl⟩ := h
  have hchildren : ∀ b, ((PciState.init memory).buses b).children = [] := by
    intro b
    by_cases hb : b = 0
    · subst hb; rfl
    · simp [PciState.init, hb, PciBus.zero]
  have hnone : ∀ b c, ¬ (PciState.init memory).tree.forest.Child b c := fun b c hc => by
    have : c ∈ ((PciState.init memory).buses b).children := hc
    rw [hchildren] at this
    exact List.not_mem_nil this
  have hroot : ∀ x, (PciState.init memory).tree.InTree x → x = 0 := fun x hx => by
    cases hx with
    | refl => rfl
    | tail _ hc => exact absurd hc (hnone _ _)
  refine ⟨⟨⟨Nat.one_pos, rfl, fun b c hc => absurd hc (hnone b c),
    fun b c hc => absurd hc (hnone b c), fun b c hc => absurd hc (hnone b c), fun b => ?_⟩,
    fun x y hx hy _ => (hroot x hx).trans (hroot y hy).symm, fun x hx h0 => absurd (hroot x hx) h0⟩,
    fun d c hc => (by cases hc), fun b i d hd => ?_, fun d b hb => (by cases hb)⟩
  · show ((PciState.init memory).buses b).children.Nodup
    rw [hchildren]
    exact List.nodup_nil
  · have hfun : ((PciState.init memory).buses b).functions i = none := by
      by_cases hb : b = 0
      · subst hb; rfl
      · simp [PciState.init, hb, PciBus.zero]
    exact absurd (hfun.symm.trans hd) (by simp)

/-- The tree of a running root complex. -/
theorem reach_tree_inv {sink : Sink}
    (h : Reach (treeStep sink) PciState.Initial TreeOp.Valid s) : s.tree.Inv :=
  h.invariant (fun _ hi => hi.tree_inv) fun _ _ hi hv => treeStep_inv sink hi hv

theorem toNat_pciRequesterId (n i : UInt8) :
    (pciRequesterId n i).toNat = n.toNat * 2 ^ 8 + i.toNat := by
  have hn := n.toNat_lt
  have hshift : (n.toUInt16 <<< 8).toNat = n.toNat <<< 8 := by
    rw [UInt16.toNat_shiftLeft, UInt8.toNat_toUInt16]
    show n.toNat <<< 8 % 2 ^ 16 = n.toNat <<< 8
    rw [Nat.shiftLeft_eq, Nat.mod_eq_of_lt (by omega)]
  rw [pciRequesterId, UInt16.toNat_or, hshift, UInt8.toNat_toUInt16, Nat.or_comm,
    or_shiftLeft_eq i.toNat_lt]

theorem pciRequesterId_inj {n n' i i' : UInt8} (h : pciRequesterId n i = pciRequesterId n' i') :
    n = n' ∧ i = i' := by
  have hnat := congrArg UInt16.toNat h
  rw [toNat_pciRequesterId, toNat_pciRequesterId] at hnat
  have hi := i.toNat_lt
  have hi' := i'.toNat_lt
  exact ⟨UInt8.toNat.inj (by omega), UInt8.toNat.inj (by omega)⟩

/-- Whatever was built, destroyed and written by the guest, the requester ID of a function is that
of its bus and slot, no two buses of the root complex have the same number, and no two functions
have the same requester ID. -/
theorem requester_ids_unique {sink : Sink}
    (h : Reach (treeStep sink) PciState.Initial TreeOp.Valid s) :
    (∀ d b, (s.devices d).pciBus = some b → (s.devices d).requesterId =
      (s.buses b).number.toUInt16 <<< 8 ||| (s.devices d).devfn.toUInt16) ∧
    (∀ x y, s.tree.InTree x → s.tree.InTree y → (s.buses x).number = (s.buses y).number → x = y) ∧
    (∀ d e, (s.devices d).pciBus ≠ none → (s.devices e).pciBus ≠ none →
      (s.devices d).requesterId = (s.devices e).requesterId → d = e) := by
  have hinv := reach_tree_inv h
  refine ⟨fun d b hb => (hinv.attached d b hb).requesterId, hinv.numbered.numbers,
    fun d e hd he hid => ?_⟩
  obtain ⟨b, hb⟩ := Option.ne_none_iff_exists'.1 hd
  obtain ⟨c, hc⟩ := Option.ne_none_iff_exists'.1 he
  have hd := hinv.attached d b hb
  have he := hinv.attached e c hc
  obtain ⟨hnum, hdevfn⟩ := pciRequesterId_inj
    (hd.requesterId.symm.trans (hid.trans he.requesterId))
  obtain rfl := hinv.numbered.numbers b c hd.inTree he.inTree hnum
  have hslot := hd.function
  rw [hdevfn, he.function] at hslot
  exact (Option.some.inj hslot).symm

/-- A bridge with an endpoint behind it. The guest gives its secondary bus the number `5`. -/
def renumberedBridge : List TreeOp :=
  [.pci (.bridgeInit 1 0 1), .pci (.deviceInit 2 0x1af4 0x1041 0 0 0 2), .pci (.addDevice 0 1 8),
    .pci (.addDevice 1 2 0), .pci (.realize 1), .pci (.ecamWrite 0x8018 .word 0x50500)]

def renumbered : PciState :=
  runFrom (treeStep fun _ => .ok ()) (.init ramAtDram) renumberedBridge

theorem renumbered_ids :
    (renumbered.devices 2).requesterId = 0x500 ∧
      (renumbered.devices 1).requesterId ≠ (renumbered.devices 2).requesterId := by
  have hinit : (PciState.init ramAtDram).Initial := ⟨ramAtDram, by decide, rfl⟩
  have hroot : ∀ (s : PciState), ∀ b ∈ [0], s.tree.InTree b := fun s b hb => by
    rw [List.mem_singleton.1 hb]
    exact Forest.inTree_root
  have hnone : ∀ (s : PciState), ∀ b ∈ ([] : List Nat), s.tree.InTree b :=
    fun s b hb => absurd hb List.not_mem_nil
  have hrun : Allowed (treeStep fun _ => .ok ()) TreeOp.Valid (.init ramAtDram)
      renumberedBridge := by
    refine ⟨⟨⟨rfl, by decide⟩, hroot _⟩, ⟨?_, hnone _⟩, ⟨⟨?_, ?_⟩, hroot _⟩, ⟨⟨?_, ?_⟩, ?_⟩,
      ⟨trivial, hnone _⟩, ⟨trivial, hnone _⟩, trivial⟩
    · show PciDevice.initialised _ = false
      decide +kernel
    · decide +kernel
    · decide +kernel
    · decide +kernel
    · decide +kernel
    · intro b hb
      obtain rfl := List.mem_singleton.1 hb
      refine inTree_child Forest.inTree_root ?_
      decide +kernel
  have hreach : Reach (treeStep fun _ => .ok ()) PciState.Initial TreeOp.Valid renumbered :=
    (Reach.start hinit).runFrom hrun
  obtain ⟨hids, -, hunique⟩ := requester_ids_unique hreach
  have hplaces : (renumbered.devices 1).pciBus ≠ none ∧ (renumbered.devices 2).pciBus = some 1 := by
    decide +kernel
  have hnumber : (renumbered.buses 1).number = 5 ∧ (renumbered.devices 2).devfn = 0 := by
    decide +kernel
  refine ⟨?_, fun hid => ?_⟩
  · rw [hids 2 1 hplaces.2, hnumber.1, hnumber.2]
    rfl
  · exact absurd (hunique 1 2 hplaces.1 (by rw [hplaces.2]; simp) hid) (by decide)

end Vart
