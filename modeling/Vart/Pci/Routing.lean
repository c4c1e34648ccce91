import Vart.Pci.Numbering

/-!
# ECAM routing

`pci_ecam_lookup` searches the tree for the bus with the number of an access and asks
`pci_bus_visible`. That function looks at each bus on the way up, but it compares the bus with its
own range: it never asks whether the range of an ancestor contains the number of the access.

* `pciEcamRead`: the reads of the guest.
* `Present`, `Routed`: the function is found at a bus number and slot; and, as the bridges on its
  path advertise it, the access is forwarded to it.
* `pciEcamLookup_iff`: an access inside a function's configuration space reaches a function exactly
  if it is present.
* `ecam_routing_iff`: so routing follows the ranges exactly if what is present is also routed.
-/

namespace Vart

open Lib

/-! ## Configuration reads -/

/-- `pci_bar_probe_value`. -/
def pciBarProbeValue (bar : PciBar) (high : Bool) : Nat :=
  let mask := andNot uint64Max ((bar.size + 2 ^ 64 - 1) % 2 ^ 64)
  if high then (if bar.is64bit then mask >>> 32 else 0) else mask % 2 ^ 32 ||| bar.flags

/-- The bytes of the bus-number registers of a bridge with the secondary bus `child`. -/
def pciBridgeNumbers (s : PciState) (d child : Nat) : List UInt8 :=
  [match (s.buses child).parentPciBus with
    | none => 0
    | some parent => (s.buses parent).number,
    (s.buses child).secondaryNumber, (s.buses child).subordinateNumber,
    (s.devices d).configSpace 0x1b]

/-- `pci_bridge_config_read`; `none` is `-ENOENT`, the access is not for the bridge. -/
def pciBridgeConfigRead (s : PciState) (d child offset size : Nat) : Option Nat :=
  if offset ≥ 0x20 ∧ offset ≤ 0x23 ∧ size ≤ 4 - (offset - 0x20) then
    some ((s.devices d).configLoad offset size)
  else if offset < 0x18 ∨ offset > 0x1b ∨ size > 4 - (offset - 0x18) then none
  else some (loadLe (((pciBridgeNumbers s d child).drop (offset - 0x18)).take size))

/-- `pci_config_read`. -/
def pciConfigRead (s : PciState) (d offset size : Nat) : Nat :=
  let dev := s.devices d
  match if size = 4 then pciBarFromOffset dev offset else none with
  | some (index, high) =>
    if (dev.bars index).probe then pciBarProbeValue (dev.bars index) high
    else dev.configLoad offset size
  | none =>
    match dev.secondaryBus.bind (pciBridgeConfigRead s d · offset size) with
    | some value => value
    | none => dev.configLoad offset size

/-- `pci_ecam_read`. -/
def pciEcamRead (s : PciState) (offset : Nat) (size : AccessSize) : Nat :=
  match pciEcamLookup s offset size.bytes with
  | none => uint64Max
  | some (d, register) => pciConfigRead s d register size.bytes

/-! ## Routes -/

/-- The bus number and the slot of an ECAM offset. -/
def ecamBus (offset : Nat) : UInt8 := UInt8.ofNat (offset >>> 20)

def ecamDevfn (offset : Nat) : UInt8 := UInt8.ofNat (offset >>> 12 &&& 0xff)

/-- The access ends behind the configuration space of the function it begins in. -/
def EcamCrosses (offset : Nat) (size : AccessSize) : Prop :=
  offset &&& 0xfff > pciConfigSpaceSize - size.bytes

/-- The function is realized in slot `devfn` of the bus `x` with the given number. -/
structure PresentOn (s : PciState) (number devfn : UInt8) (d x : Nat) : Prop where
  inTree : s.tree.InTree x
  number : (s.buses x).number = number
  function : (s.buses x).functions devfn = some d
  realized : (s.devices d).parent.realized = true

def Present (s : PciState) (number devfn : UInt8) (d : Nat) : Prop :=
  ∃ x, PresentOn s number devfn d x

/-- Every bridge on the path from the root bus to `x` has the number in its range. Bus `y` is the
secondary bus of such a bridge. -/
def RangesContain (s : PciState) (number : UInt8) (x : Nat) : Prop :=
  ∀ y, s.tree.InTree y → y ≠ 0 → s.tree.forest.Below y x →
    (s.buses y).secondaryNumber ≤ number ∧ number ≤ (s.buses y).subordinateNumber

/-- The function is present, and the bridges on its path forward its bus number. -/
def Routed (s : PciState) (number devfn : UInt8) (d : Nat) : Prop :=
  ∃ x, PresentOn s number devfn d x ∧ RangesContain s number x

/-- An access reaches exactly the function that is routed; without one, reads return all ones and
writes change nothing. -/
def FollowsRanges (sink : Sink) (s : PciState) (offset : Nat) (size : AccessSize) : Prop :=
  (∀ d, (∃ register, pciEcamLookup s offset size.bytes = some (d, register)) ↔
    Routed s (ecamBus offset) (ecamDevfn offset) d) ∧
  ((∀ d, ¬ Routed s (ecamBus offset) (ecamDevfn offset) d) →
    pciEcamRead s offset size = uint64Max ∧
      ∀ value, pciEcamWrite sink s offset size value = (s, .ok ()))

/-! ## Lookups -/

variable {s : PciState}

/-- Every bus of the tree is visible: its own number is at most its subordinate number. -/
theorem pciBusVisibleOn_inTree (h : s.tree.Inv) {x fuel : Nat} (hx : s.tree.InTree x)
    (hfuel : x < fuel) : pciBusVisibleOn s 0 (busAncestors s fuel (some x)) = true := by
  induction fuel generalizing x with
  | zero => omega
  | succ n ih =>
    rw [busAncestors, pciBusVisibleOn]
    split
    · rfl
    rename_i h0
    obtain ⟨b, hparent, hb, hc⟩ := h.numbered.wellFormed.parent_inTree hx h0
    have hlt := h.numbered.wellFormed.lt_child _ _ hc
    have hsome : (s.buses x).parentPciBus = some b := hparent
    have hrange : (s.buses x).number ≤ (s.buses x).subordinateNumber :=
      (h.numbered.range x hx h0).2
    rw [if_neg, hsome]
    · exact ih hb (by omega)
    · simpa [hsome] using hrange

theorem pciBusVisible_inTree (h : s.tree.Inv) {x : Nat} (hx : s.tree.InTree x) :
    pciBusVisible s 0 x = true :=
  pciBusVisibleOn_inTree h hx (h.lt hx)

/-- The search finds the bus of the tree with the number. -/
theorem pciBusFind_eq_some (h : s.tree.Inv) {x : Nat} (hx : s.tree.InTree x) :
    pciBusFind s 0 (s.buses x).number = some x := by
  cases hfind : pciBusFind s 0 (s.buses x).number with
  | none => exact absurd rfl (pciBusFind_none h hfind Forest.inTree_root hx)
  | some y =>
    obtain ⟨hy, hnum⟩ := pciBusFind_some hfind
    exact congrArg some (h.numbered.numbers y x hy hx hnum)

/-- An access inside the configuration space of a function reaches what is present. -/
theorem pciEcamLookup_iff (h : s.tree.Inv) {offset d : Nat} {size : AccessSize}
    (hin : ¬ EcamCrosses offset size) :
    (∃ register, pciEcamLookup s offset size.bytes = some (d, register)) ↔
      Present s (ecamBus offset) (ecamDevfn offset) d := by
  unfold EcamCrosses at hin
  unfold pciEcamLookup
  dsimp only
  rw [if_neg hin]
  constructor
  · rintro ⟨register, hlookup⟩
    cases hfind : pciBusFind s 0 (UInt8.ofNat (offset >>> 20)) with
    | none => rw [hfind] at hlookup; cases hlookup
    | some x =>
      rw [hfind] at hlookup
      dsimp only at hlookup
      obtain ⟨hx, hnum⟩ := pciBusFind_some hfind
      split at hlookup
      · cases hlookup
      cases hfun : (s.buses x).functions (UInt8.ofNat (offset >>> 12 &&& 0xff)) with
      | none => rw [hfun] at hlookup; cases hlookup
      | some e =>
        rw [hfun] at hlookup
        dsimp only at hlookup
        split at hlookup
        · rename_i hrealized
          cases hlookup
          exact ⟨x, hx, hnum, hfun, hrealized⟩
        · cases hlookup
  · rintro ⟨x, hx, hnum, hfun, hrealized⟩
    have hfind := pciBusFind_eq_some h hx
    rw [hnum] at hfind
    refine ⟨offset &&& 0xfff, ?_⟩
    unfold ecamBus at hfind
    unfold ecamDevfn at hfun
    rw [hfind]
    dsimp only
    rw [pciBusVisible_inTree h hx, hfun]
    simp [hrealized]

theorem pciEcamLookup_crosses {offset : Nat} {size : AccessSize} (h : EcamCrosses offset size) :
    pciEcamLookup s offset size.bytes = none := by
  unfold pciEcamLookup
  exact if_pos h

theorem PresentOn.pciBus {number devfn : UInt8} {d x : Nat} (hx : PresentOn s number devfn d x)
    (h : s.tree.Inv) : (s.devices d).pciBus = some x :=
  (h.slot x devfn d hx.function).1

theorem Routed.present {number devfn : UInt8} {d : Nat} (h : Routed s number devfn d) :
    Present s number devfn d := by
  obtain ⟨x, hx, -⟩ := h
  exact ⟨x, hx⟩

/-- An access that reaches nothing has no effect. -/
theorem ecam_unreached (sink : Sink) {offset : Nat} {size : AccessSize}
    (h : pciEcamLookup s offset size.bytes = none) :
    pciEcamRead s offset size = uint64Max ∧
      ∀ value, pciEcamWrite sink s offset size value = (s, .ok ()) := by
  refine ⟨?_, fun value => ?_⟩
  · rw [pciEcamRead, h]
  · rw [pciEcamWrite, h]

/-! ## Routing -/

/-- In every state of a root complex an access follows the ranges of the bridges exactly if the
function present at its bus number and slot is one that they forward to. An access that crosses the
end of a function's configuration space reaches nothing. -/
theorem ecam_routing_iff {sink : Sink}
    (h : Reach (treeStep sink) PciState.Initial TreeOp.Valid s) (offset : Nat)
    (size : AccessSize) :
    FollowsRanges sink s offset size ↔
      (EcamCrosses offset size → ∀ d, ¬ Routed s (ecamBus offset) (ecamDevfn offset) d) ∧
      (¬ EcamCrosses offset size → ∀ d x, PresentOn s (ecamBus offset) (ecamDevfn offset) d x →
        RangesContain s (ecamBus offset) x) := by
  have hinv := reach_tree_inv h
  constructor
  · rintro ⟨hreach, -⟩
    refine ⟨fun hcross d hd => ?_, fun hin d x hx => ?_⟩
    · obtain ⟨register, hlookup⟩ := (hreach d).2 hd
      rw [pciEcamLookup_crosses hcross] at hlookup
      cases hlookup
    · obtain ⟨y, hy, hranges⟩ := (hreach d).1 ((pciEcamLookup_iff hinv hin).2 ⟨x, hx⟩)
      obtain rfl := hinv.numbered.numbers x y hx.inTree hy.inTree (hx.number.trans hy.number.symm)
      exact hranges
  · rintro ⟨hcrosses, hinside⟩
    by_cases hcross : EcamCrosses offset size
    · have hnone := pciEcamLookup_crosses (s := s) hcross
      refine ⟨fun d => ⟨?_, fun hd => absurd hd (hcrosses hcross d)⟩,
        fun _ => ecam_unreached sink hnone⟩
      rintro ⟨register, hlookup⟩
      rw [hnone] at hlookup
      cases hlookup
    · have hiff : ∀ d, (∃ register, pciEcamLookup s offset size.bytes = some (d, register)) ↔
          Routed s (ecamBus offset) (ecamDevfn offset) d := by
        intro d
        refine (pciEcamLookup_iff hinv hcross).trans ⟨?_, Routed.present⟩
        rintro ⟨x, hx⟩
        exact ⟨x, hx, hinside hcross d x hx⟩
      refine ⟨hiff, fun hnone => ecam_unreached sink ?_⟩
      cases hlookup : pciEcamLookup s offset size.bytes with
      | none => rfl
      | some r => exact absurd ((hiff r.1).1 ⟨r.2, hlookup⟩) (hnone r.1)

/-- An endpoint on bus `2`, behind the bridge of bus `1` and a bridge on that bus. -/
def nestedBridges : List TreeOp :=
  [.pci (.bridgeInit 1 0 1), .pci (.bridgeInit 2 1 2), .pci (.deviceInit 3 0x1af4 0x1041 0 0 0 2),
    .pci (.addDevice 0 1 8), .pci (.addDevice 1 2 0), .pci (.addDevice 2 3 0), .pci (.realize 1),
    .pci (.realize 2), .pci (.realize 3)]

def nested : PciState := runFrom (treeStep fun _ => .ok ()) (.init ramAtDram) nestedBridges

theorem nested_reach : Reach (treeStep fun _ => .ok ()) PciState.Initial TreeOp.Valid nested := by
  have hnone : ∀ (s : PciState), ∀ b ∈ ([] : List Nat), s.tree.InTree b :=
    fun s b hb => absurd hb List.not_mem_nil
  have hroot : ∀ (s : PciState), ∀ b ∈ [0], s.tree.InTree b := fun s b hb => by
    rw [List.mem_singleton.1 hb]
    exact Forest.inTree_root
  have hone : ∀ s : PciState, 1 ∈ (s.buses 0).children → ∀ b ∈ [1], s.tree.InTree b :=
    fun s hs b hb => by
      rw [List.mem_singleton.1 hb]
      exact inTree_child Forest.inTree_root hs
  have htwo : ∀ s : PciState, 1 ∈ (s.buses 0).children → 2 ∈ (s.buses 1).children →
      ∀ b ∈ [2], s.tree.InTree b := fun s h1 h2 b hb => by
    rw [List.mem_singleton.1 hb]
    exact inTree_child (inTree_child Forest.inTree_root h1) h2
  refine (Reach.start ⟨ramAtDram, by decide, rfl⟩).runFrom ⟨⟨⟨rfl, by decide⟩, hroot _⟩,
    ⟨⟨?_, ?_⟩, hone _ ?_⟩, ⟨?_, hnone _⟩, ⟨⟨?_, ?_⟩, hroot _⟩, ⟨⟨?_, ?_⟩, hone _ ?_⟩,
    ⟨⟨?_, ?_⟩, htwo _ ?_ ?_⟩, ⟨trivial, hnone _⟩, ⟨trivial, hnone _⟩, ⟨trivial, hnone _⟩, trivial⟩
  case refine_4 => show PciDevice.initialised _ = false; decide +kernel
  all_goals decide +kernel

/-- The access to the endpoint is routed by the ranges of both bridges. -/
theorem nested_follows : FollowsRanges (fun _ => .ok ()) nested 0x200000 .word := by
  refine (ecam_routing_iff nested_reach 0x200000 .word).2
    ⟨fun hcross => absurd hcross (by unfold EcamCrosses; decide), fun _ d x hx y hy h0 _ => ?_⟩
  have hlt : y < 3 := (reach_tree_inv nested_reach).lt hy
  have hranges : ∀ y ∈ [1, 2], (nested.buses y).secondaryNumber ≤ ecamBus 0x200000 ∧
      ecamBus 0x200000 ≤ (nested.buses y).subordinateNumber := by
    decide +kernel
  refine hranges y ?_
  simp only [List.mem_cons, List.not_mem_nil, or_false]
  omega

/-- The guest shrinks the range of the first bridge to bus `1`. -/
def shrunk : PciState :=
  treeStep (fun _ => .ok ()) nested (.pci (.ecamWrite 0x8018 .word 0x10100))

/-- Bus `2` is outside of the range of the first bridge, and its endpoint still answers. -/
theorem shrunk_range_ignored :
    Reach (treeStep fun _ => .ok ()) PciState.Initial TreeOp.Valid shrunk ∧
      (shrunk.buses 1).subordinateNumber = 1 ∧ pciEcamRead shrunk 0x200000 .half = 0x1af4 ∧
      ¬ FollowsRanges (fun _ => .ok ()) shrunk 0x200000 .half := by
  have hreach : Reach (treeStep fun _ => .ok ()) PciState.Initial TreeOp.Valid shrunk :=
    nested_reach.next ⟨trivial, fun b hb => absurd hb List.not_mem_nil⟩
  have hsub : (shrunk.buses 1).subordinateNumber = 1 := by decide +kernel
  have hread : pciEcamRead shrunk 0x200000 .half = 0x1af4 := by decide +kernel
  have hlookup : pciEcamLookup shrunk 0x200000 AccessSize.half.bytes = some (3, 0) := by
    decide +kernel
  have hplace : (shrunk.devices 3).pciBus = some 2 := by decide +kernel
  have hchildren : 1 ∈ (shrunk.buses 0).children ∧ 2 ∈ (shrunk.buses 1).children := by
    decide +kernel
  refine ⟨hreach, hsub, hread, fun hfollows => ?_⟩
  obtain ⟨x, hx, hranges⟩ := (hfollows.1 3).1 ⟨0, hlookup⟩
  obtain rfl : x = 2 := Option.some.inj
    ((hx.pciBus (reach_tree_inv hreach)).symm.trans hplace)
  have hone := inTree_child Forest.inTree_root hchildren.1
  have hrange := (hranges 1 hone (by decide) (below_child hchildren.2)).2
  rw [hsub] at hrange
  exact absurd hrange (by decide)

end Vart
