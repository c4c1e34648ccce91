import Mathlib.Data.Int.ConditionallyCompleteOrder
import Mathlib.Data.List.MinMax
import Mathlib.Order.ConditionallyCompleteLattice.Basic
import Vart.Core.AddressSpace
import Vart.Lib.Reach

/-!
# The topology calls of `core/address-space.c`

The calls work on region objects: a `VartAddressRegion` knows the space that it is registered in
(`region->address_space`), and a space is a list of pointers to regions. `Topology` has both, and
`TopologyOp` is the calls: the init functions, add, remove, the two ways to enable or disable a
region, and destroy.

* `Topology.Inv`: the pointers agree in both directions, and two regions of one space that have
  the same priority do not overlap. Every call keeps it (`topologyStep_inv`).
* `find_eq_argmax`: the scan of `vart_address_space_find` is `List.argmax` of the priority over
  the regions that contain the access. With the invariant the maximum is at one region only, so
  that the order of the list does not matter.
* `spacesStep`: the same calls on values. A space is an `AddressSpace`, the model that the rest of
  the development uses; `topology_run_refines` says that every run of the calls on objects is the
  run of the same calls on values.
-/

namespace Vart

open Lib

/-! ## The calls -/

/-- A `VartAddressRegion`. `initialised` says that an init function has set it up. -/
structure RegionObject where
  region : AddressRegion
  addressSpace : Option SpaceId
  initialised : Bool

structure Topology where
  objects : RegionId → RegionObject
  spaces : SpaceId → List RegionId

/-- The arguments that differ between the three init functions. -/
inductive RegionInit where
  /-- `vart_address_region_init`. -/
  | plain (type : RegionType)
  /-- `vart_address_region_init_mmio`; `ops` has a read or a write function. -/
  | mmio (ops : Bool)
  /-- `vart_address_region_init_ram`; `hostAddr` is not `NULL`. -/
  | ram (hostAddr : Bool)

/-- `vart_address_region_init`. -/
def addressRegionInit (id : RegionId) (type : RegionType) (base size : Nat) (priority : Int) :
    Except Errno AddressRegion :=
  if size = 0 ∨ base > uint64Max - (size - 1) then .error .einval
  else .ok { id, base, size, priority, type, enabled := true, ramAddr := false }

/-- The init function that `kind` names. -/
def RegionInit.run (kind : RegionInit) (id : RegionId) (base size : Nat) (priority : Int) :
    Except Errno AddressRegion :=
  match kind with
  | .plain type => addressRegionInit id type base size priority
  | .mmio ops =>
    if ops = false then .error .einval else addressRegionInit id .mmio base size priority
  | .ram hostAddr =>
    if hostAddr = false then .error .einval
    else (addressRegionInit id .ram base size priority).map fun r => { r with ramAddr := true }

namespace Topology

/-- The regions that a space points to, in the order of its list. -/
def regions (t : Topology) (n : SpaceId) : List AddressRegion :=
  (t.spaces n).map fun id => (t.objects id).region

def setObject (t : Topology) (id : RegionId) (o : RegionObject) : Topology :=
  { t with objects := Function.update t.objects id o }

def setSpace (t : Topology) (n : SpaceId) (ids : List RegionId) : Topology :=
  { t with spaces := Function.update t.spaces n ids }

/-- `vart_address_region_init` and its two variants on the object `id`. -/
def regionInit (t : Topology) (id : RegionId) (kind : RegionInit) (base size : Nat)
    (priority : Int) : Topology × Status :=
  match kind.run id base size priority with
  | .error e => (t, .error e)
  | .ok region => (t.setObject id { region, addressSpace := none, initialised := true }, .ok ())

/-- `vart_address_region_set_enabled`. -/
def regionSetEnabled (t : Topology) (id : RegionId) (enabled : Bool) : Topology × Status :=
  let o := t.objects id
  if o.addressSpace ≠ none then (t, .error .ebusy)
  else (t.setObject id { o with region := { o.region with enabled } }, .ok ())

/-- `vart_address_space_add`. `grow` is the result of making room in the region list. -/
def add (t : Topology) (n : SpaceId) (id : RegionId) (grow : Status) : Topology × Status :=
  let o := t.objects id
  if o.addressSpace ≠ none then (t, .error .ealready)
  else if (t.regions n).any
      (fun x => decide (o.region.priority = x.priority) && o.region.overlaps x) then
    (t, .error .eexist)
  else match grow with
    | .error e => (t, .error e)
    | .ok _ =>
      ((t.setSpace n (t.spaces n ++ [id])).setObject id { o with addressSpace := some n }, .ok ())

/-- `vart_address_space_remove`. -/
def remove (t : Topology) (n : SpaceId) (id : RegionId) : Topology × Status :=
  let o := t.objects id
  if o.addressSpace ≠ some n then (t, .error .enoent)
  else if id ∈ t.spaces n then
    ((t.setSpace n ((t.spaces n).erase id)).setObject id { o with addressSpace := none }, .ok ())
  else (t, .error .enoent)

/-- `vart_address_space_set_enabled`. -/
def setEnabled (t : Topology) (n : SpaceId) (id : RegionId) (enabled : Bool) :
    Topology × Status :=
  let o := t.objects id
  if o.addressSpace ≠ some n then (t, .error .enoent)
  else (t.setObject id { o with region := { o.region with enabled } }, .ok ())

/-- `vart_address_space_destroy`. -/
def destroy (t : Topology) (n : SpaceId) : Topology :=
  { objects := fun id =>
      if id ∈ t.spaces n then { t.objects id with addressSpace := none } else t.objects id
    spaces := Function.update t.spaces n [] }

/-- `vart_address_space_find`. -/
def find (t : Topology) (n : SpaceId) (address size : Nat) : Option AddressRegion :=
  (t.regions n).foldl (AddressSpace.better address size) none

end Topology

/-- One call. Bases and sizes are 64-bit words. -/
inductive TopologyOp where
  | regionInit (id : RegionId) (kind : RegionInit) (base size : UInt64) (priority : Int)
  | regionSetEnabled (id : RegionId) (enabled : Bool)
  | add (n : SpaceId) (id : RegionId) (grow : Status)
  | remove (n : SpaceId) (id : RegionId)
  | setEnabled (n : SpaceId) (id : RegionId) (enabled : Bool)
  | destroy (n : SpaceId)

def topologyStep (t : Topology) : TopologyOp → Topology
  | .regionInit id kind base size priority =>
    (t.regionInit id kind base.toNat size.toNat priority).1
  | .regionSetEnabled id enabled => (t.regionSetEnabled id enabled).1
  | .add n id grow => (t.add n id grow).1
  | .remove n id => (t.remove n id).1
  | .setEnabled n id enabled => (t.setEnabled n id enabled).1
  | .destroy n => t.destroy n

/-- A region is set up by an init function before it is added, and not while it is registered. -/
def TopologyOp.Valid (t : Topology) : TopologyOp → Prop
  | .regionInit id .. => (t.objects id).addressSpace = none
  | .add _ id _ => (t.objects id).initialised = true
  | _ => True

/-- No region is set up and every space is empty. -/
def Topology.Initial (t : Topology) : Prop :=
  (∀ id, (t.objects id).initialised = false ∧ (t.objects id).addressSpace = none) ∧
    ∀ n, t.spaces n = []

/-! ## Regions that the init functions make -/

/-- A region that an init function made for `id`: not empty, and not past the 64-bit space. -/
structure AddressRegion.WellFormed (r : AddressRegion) (id : RegionId) : Prop where
  id_eq : r.id = id
  size_pos : 0 < r.size
  end_le : r.base + r.size ≤ 2 ^ 64

/-- The regions have no address in common. -/
def AddressRegion.Apart (a b : AddressRegion) : Prop :=
  a.base + a.size ≤ b.base ∨ b.base + b.size ≤ a.base

theorem AddressRegion.Apart.symm {a b : AddressRegion} (h : a.Apart b) : b.Apart a := Or.symm h

theorem addressRegionInit_wf {id : RegionId} {type : RegionType} {base size : Nat}
    {priority : Int} {r : AddressRegion}
    (h : addressRegionInit id type base size priority = .ok r) (hsize : size < 2 ^ 64) :
    r.WellFormed id := by
  unfold addressRegionInit at h
  split at h
  · cases h
  · rename_i hc
    cases h
    simp only [uint64Max, not_or] at hc
    exact ⟨rfl, by show 0 < size; omega, by show base + size ≤ 2 ^ 64; omega⟩

theorem RegionInit.run_wf {kind : RegionInit} {id : RegionId} {base size : Nat} {priority : Int}
    {r : AddressRegion} (h : kind.run id base size priority = .ok r) (hsize : size < 2 ^ 64) :
    r.WellFormed id := by
  cases kind with
  | plain type => exact addressRegionInit_wf h hsize
  | mmio ops =>
    simp only [RegionInit.run] at h
    split at h
    · cases h
    · exact addressRegionInit_wf h hsize
  | ram hostAddr =>
    simp only [RegionInit.run] at h
    split at h
    · cases h
    · cases hr : addressRegionInit id .ram base size priority with
      | error e => rw [hr] at h; cases h
      | ok r' =>
        rw [hr] at h
        cases h
        obtain ⟨hid, hpos, hend⟩ := addressRegionInit_wf hr hsize
        exact ⟨hid, hpos, hend⟩

/-- `address_regions_overlap` compares last addresses. Those of well-formed regions do not wrap,
so that it is exact, also for a region that ends at the end of the 64-bit space. -/
theorem AddressRegion.WellFormed.overlaps_eq_false_iff {a b : AddressRegion} {i j : RegionId}
    (ha : a.WellFormed i) (hb : b.WellFormed j) : a.overlaps b = false ↔ a.Apart b := by
  obtain ⟨-, hpa, hea⟩ := ha
  obtain ⟨-, hpb, heb⟩ := hb
  have hla : (a.base + a.size - 1) % 2 ^ 64 = a.base + a.size - 1 := Nat.mod_eq_of_lt (by omega)
  have hlb : (b.base + b.size - 1) % 2 ^ 64 = b.base + b.size - 1 := Nat.mod_eq_of_lt (by omega)
  simp only [AddressRegion.overlaps, hla, hlb, Bool.and_eq_false_iff, decide_eq_false_iff_not,
    AddressRegion.Apart]
  omega

/-- The region is enabled and has every address of `[address, address + size)`. -/
structure AddressRegion.Covers (r : AddressRegion) (address size : Nat) : Prop where
  enabled : r.enabled = true
  base_le : r.base ≤ address
  le_end : address + size ≤ r.base + r.size

theorem AddressRegion.contains_iff_covers {r : AddressRegion} {address size : Nat} :
    r.contains address size = true ↔ r.Covers address size :=
  AddressRegion.contains_iff.trans
    ⟨fun ⟨he, hb, hl⟩ => ⟨he, hb, hl⟩, fun ⟨he, hb, hl⟩ => ⟨he, hb, hl⟩⟩

theorem AddressRegion.Covers.not_apart {a b : AddressRegion} {address size : Nat}
    (ha : a.Covers address size) (hsize : 0 < size) (hb : b.Covers address size) :
    ¬ a.Apart b := by
  obtain ⟨-, ha₁, ha₂⟩ := ha
  obtain ⟨-, hb₁, hb₂⟩ := hb
  rintro (h | h) <;> omega

/-! ## The invariant -/

namespace Topology

structure Inv (t : Topology) : Prop where
  mem_iff : ∀ n id, id ∈ t.spaces n ↔ (t.objects id).addressSpace = some n
  nodup : ∀ n, (t.spaces n).Nodup
  wf : ∀ id, (t.objects id).initialised = true → (t.objects id).region.WellFormed id
  init : ∀ id n, (t.objects id).addressSpace = some n → (t.objects id).initialised = true
  apart : ∀ n i j, i ∈ t.spaces n → j ∈ t.spaces n → i ≠ j →
    (t.objects i).region.priority = (t.objects j).region.priority →
    (t.objects i).region.Apart (t.objects j).region

variable {t : Topology} {n : SpaceId} {id : RegionId}

theorem Initial.inv (h : t.Initial) : t.Inv where
  mem_iff n id := by simp [h.2 n, (h.1 id).2]
  nodup n := by simp [h.2 n]
  wf id hi := by simp [(h.1 id).1] at hi
  init id n hs := by simp [(h.1 id).2] at hs
  apart n i j hi := by simp [h.2 n] at hi

theorem Inv.mem_wf (h : t.Inv) (hm : id ∈ t.spaces n) : (t.objects id).region.WellFormed id :=
  h.wf id (h.init id n ((h.mem_iff n id).mp hm))

/-- Enabling or disabling a region keeps the invariant: no part of it reads the flag. -/
theorem Inv.enable (h : t.Inv) (id : RegionId) (enabled : Bool) :
    (t.setObject id { t.objects id with
      region := { (t.objects id).region with enabled } }).Inv := by
  -- Everything but the flag of `id` is as before.
  have hobj : ∀ i, ∃ b, (t.setObject id { t.objects id with
      region := { (t.objects id).region with enabled } }).objects i =
      { t.objects i with region := { (t.objects i).region with enabled := b } } := by
    intro i
    by_cases hi : i = id
    · subst hi
      exact ⟨enabled, Function.update_self ..⟩
    · exact ⟨(t.objects i).region.enabled, Function.update_of_ne hi ..⟩
  refine ⟨fun n i => ?_, h.nodup, fun i hi => ?_, fun i n hs => ?_, fun n i j hi hj hne hp => ?_⟩
  · obtain ⟨b, hb⟩ := hobj i
    rw [hb]
    exact h.mem_iff n i
  · obtain ⟨b, hb⟩ := hobj i
    rw [hb] at hi ⊢
    obtain ⟨hid, hpos, hend⟩ := h.wf i hi
    exact ⟨hid, hpos, hend⟩
  · obtain ⟨b, hb⟩ := hobj i
    rw [hb] at hs ⊢
    exact h.init i n hs
  · obtain ⟨b, hb⟩ := hobj i
    obtain ⟨c, hc⟩ := hobj j
    rw [hb, hc] at hp ⊢
    exact h.apart n i j hi hj hne hp

/-- A new region that overlaps none of its priority goes to the end of the list. -/
theorem Inv.attach (h : t.Inv) (hfree : (t.objects id).addressSpace = none)
    (hinit : (t.objects id).initialised = true)
    (hapart : ∀ i ∈ t.spaces n, (t.objects id).region.priority = (t.objects i).region.priority →
      (t.objects id).region.Apart (t.objects i).region) :
    ((t.setSpace n (t.spaces n ++ [id])).setObject id
      { t.objects id with addressSpace := some n }).Inv := by
  have hnot : ∀ m, id ∉ t.spaces m := by
    intro m hm
    rw [h.mem_iff, hfree] at hm
    cases hm
  have hregion : ∀ i, ((t.setSpace n (t.spaces n ++ [id])).setObject id
      { t.objects id with addressSpace := some n }).objects i =
      if i = id then { t.objects id with addressSpace := some n } else t.objects i := by
    intro i
    simp only [setObject, setSpace, Function.update_apply]
  have hspace : ∀ m, ((t.setSpace n (t.spaces n ++ [id])).setObject id
      { t.objects id with addressSpace := some n }).spaces m =
      if m = n then t.spaces n ++ [id] else t.spaces m := by
    intro m
    simp only [setObject, setSpace, Function.update_apply]
  refine ⟨fun m i => ?_, fun m => ?_, fun i hi => ?_, fun i m hs => ?_,
    fun m i j hi hj hne hp => ?_⟩
  · rw [hspace, hregion]
    by_cases hi : i = id
    · subst hi
      by_cases hm : m = n
      · simp [hm]
      · simpa [hm, hnot m] using fun hnm => hm hnm.symm
    · by_cases hm : m = n
      · simp [hm, hi, h.mem_iff]
      · simp [hm, hi, h.mem_iff]
  · rw [hspace]
    by_cases hm : m = n
    · rw [if_pos hm, List.nodup_append]
      refine ⟨h.nodup n, List.nodup_singleton id, fun a ha b hb hab => ?_⟩
      rw [List.mem_singleton] at hb
      exact hnot n (hb ▸ hab ▸ ha)
    · rw [if_neg hm]
      exact h.nodup m
  · rw [hregion] at hi ⊢
    split at hi
    · rename_i he
      subst he
      rw [if_pos rfl]
      exact h.wf i hinit
    · rename_i he
      rw [if_neg he]
      exact h.wf i hi
  · rw [hregion] at hs ⊢
    split at hs
    · rename_i he
      subst he
      rw [if_pos rfl]
      exact hinit
    · rename_i he
      rw [if_neg he]
      exact h.init i m hs
  · -- The new region is apart from the old ones by `hapart`; the old ones were apart before.
    have hr : ∀ k, (((t.setSpace n (t.spaces n ++ [id])).setObject id
        { t.objects id with addressSpace := some n }).objects k).region = (t.objects k).region := by
      intro k
      rw [hregion]
      split
      · rename_i he; rw [he]
      · rfl
    rw [hspace] at hi hj
    rw [hr, hr] at hp ⊢
    by_cases hm : m = n
    · rw [if_pos hm, List.mem_append, List.mem_singleton] at hi hj
      rcases hi with hi | rfl <;> rcases hj with hj | rfl
      · exact h.apart n i j hi hj hne hp
      · exact (hapart i hi hp.symm).symm
      · exact hapart j hj hp
      · exact absurd rfl hne
    · rw [if_neg hm] at hi hj
      exact h.apart m i j hi hj hne hp

/-- Taking regions out of spaces keeps the invariant, if the pointers follow. -/
theorem Inv.detach {t' : Topology} (h : t.Inv)
    (hregion : ∀ i, (t'.objects i).region = (t.objects i).region)
    (hinit : ∀ i, (t'.objects i).initialised = (t.objects i).initialised)
    (hsub : ∀ n, (t'.spaces n).Sublist (t.spaces n))
    (hmem : ∀ n i, i ∈ t'.spaces n ↔ (t'.objects i).addressSpace = some n) : t'.Inv where
  mem_iff := hmem
  nodup n := (hsub n).nodup (h.nodup n)
  wf i hi := by
    rw [hregion]
    exact h.wf i (hinit i ▸ hi)
  init i n hs := by
    rw [hinit]
    exact h.init i n ((h.mem_iff n i).mp ((hsub n).subset ((hmem n i).mpr hs)))
  apart n i j hi hj hne hp := by
    rw [hregion, hregion] at hp ⊢
    exact h.apart n i j ((hsub n).subset hi) ((hsub n).subset hj) hne hp

/-! ## Every call keeps the invariant -/

theorem regionInit_inv (h : t.Inv) {kind : RegionInit} {base size : Nat} {priority : Int}
    (hsize : size < 2 ^ 64) (hfree : (t.objects id).addressSpace = none) :
    (t.regionInit id kind base size priority).1.Inv := by
  unfold regionInit
  split
  · exact h
  · rename_i region hr
    have hnot : ∀ m, id ∉ t.spaces m := by
      intro m hm
      rw [h.mem_iff, hfree] at hm
      cases hm
    refine ⟨fun m i => ?_, h.nodup, fun i hi => ?_, fun i m hs => ?_,
      fun m i j hi hj hne hp => ?_⟩
    all_goals simp only [setObject, Function.update_apply] at *
    · split
      · rename_i he
        simp [he, hnot m]
      · exact h.mem_iff m i
    · split at hi
      · rename_i he
        rw [if_pos he, he]
        exact RegionInit.run_wf hr hsize
      · rename_i he
        rw [if_neg he]
        exact h.wf i hi
    · split at hs
      · cases hs
      · rename_i he
        rw [if_neg he]
        exact h.init i m hs
    · -- No space points to the region, so that its new range does not matter.
      have hi' : i ≠ id := fun he => hnot m (he ▸ hi)
      have hj' : j ≠ id := fun he => hnot m (he ▸ hj)
      rw [if_neg hi', if_neg hj'] at hp ⊢
      exact h.apart m i j hi hj hne hp

theorem regionSetEnabled_inv (h : t.Inv) (id : RegionId) (enabled : Bool) :
    (t.regionSetEnabled id enabled).1.Inv := by
  unfold regionSetEnabled
  extract_lets o
  split
  · exact h
  · exact h.enable id enabled

theorem setEnabled_inv (h : t.Inv) (n : SpaceId) (id : RegionId) (enabled : Bool) :
    (t.setEnabled n id enabled).1.Inv := by
  unfold setEnabled
  extract_lets o
  split
  · exact h
  · exact h.enable id enabled

theorem add_inv (h : t.Inv) {grow : Status} (hinit : (t.objects id).initialised = true) :
    (t.add n id grow).1.Inv := by
  unfold add
  extract_lets o
  split
  · exact h
  · rename_i hfree
    split
    · exact h
    · rename_i hover
      cases grow with
      | error e => exact h
      | ok u =>
        refine h.attach (not_not.mp hfree) hinit fun i hi hp => ?_
        rw [← (h.wf id hinit).overlaps_eq_false_iff (h.mem_wf hi)]
        simp only [List.any_eq_true, regions, List.mem_map, not_exists, not_and] at hover
        have hno := hover _ ⟨i, hi, rfl⟩
        rw [Bool.and_eq_true, decide_eq_true_iff] at hno
        exact Bool.eq_false_iff.mpr fun ho => hno ⟨hp, ho⟩

theorem remove_inv (h : t.Inv) (n : SpaceId) (id : RegionId) : (t.remove n id).1.Inv := by
  unfold remove
  extract_lets o
  split
  · exact h
  · split
    · rename_i hs hm
      refine h.detach (fun i => ?_) (fun i => ?_) (fun m => ?_) (fun m i => ?_)
      all_goals simp only [setObject, setSpace, Function.update_apply]
      · split
        · rename_i he; rw [he]
        · rfl
      · split
        · rename_i he; rw [he]
        · rfl
      · split
        · rename_i he; rw [he]; exact List.erase_sublist
        · exact List.Sublist.refl _
      · have hid := not_not.mp hs
        by_cases hi : i = id <;> by_cases hmn : m = n
        · simp [hi, hmn, (h.nodup n).mem_erase_iff]
        · have : id ∉ t.spaces m := by
            rw [h.mem_iff, hid]
            simpa using fun hnm => hmn hnm.symm
          simp [hi, hmn, this]
        · simp [hi, hmn, (h.nodup n).mem_erase_iff, h.mem_iff]
        · simp [hi, hmn, h.mem_iff]
    · exact h

theorem destroy_inv (h : t.Inv) (n : SpaceId) : (t.destroy n).Inv := by
  refine h.detach (fun i => ?_) (fun i => ?_) (fun m => ?_) (fun m i => ?_)
  all_goals simp only [destroy, Function.update_apply]
  · split <;> rfl
  · split <;> rfl
  · split
    · exact List.nil_sublist _
    · exact List.Sublist.refl _
  · by_cases hi : i ∈ t.spaces n <;> by_cases hm : m = n
    · simp [hi, hm]
    · have hin := (h.mem_iff n i).mp hi
      have : i ∉ t.spaces m := by
        rw [h.mem_iff, hin]
        simpa using fun hnm => hm hnm.symm
      simp [hi, hm, this]
    · simp [hi, hm, ← h.mem_iff]
    · simp [hi, hm, h.mem_iff]

end Topology

theorem topologyStep_inv {t : Topology} {op : TopologyOp} (h : t.Inv) (hv : op.Valid t) :
    (topologyStep t op).Inv := by
  cases op with
  | regionInit id kind base size priority => exact t.regionInit_inv h size.toNat_lt hv
  | regionSetEnabled id enabled => exact t.regionSetEnabled_inv h id enabled
  | add n id grow => exact t.add_inv h hv
  | remove n id => exact t.remove_inv h n id
  | setEnabled n id enabled => exact t.setEnabled_inv h n id enabled
  | destroy n => exact t.destroy_inv h n

theorem Topology.inv_of_reach {t : Topology}
    (h : Reach topologyStep Topology.Initial TopologyOp.Valid t) : t.Inv :=
  h.invariant (fun _ => Topology.Initial.inv) fun _ _ => topologyStep_inv

/-! ## A space as a list of values -/

namespace Topology

variable {t : Topology} {n : SpaceId} {id : RegionId} {s : AddressSpace}

theorem find_refines (hs : s.regions = t.regions n) (address size : Nat) :
    s.find address size = t.find n address size := by
  unfold AddressSpace.find find
  rw [hs]

/-- The object is in the list if and only if it points back to the space. -/
theorem Inv.has_iff (h : t.Inv) (hs : s.regions = t.regions n) :
    s.has id = true ↔ (t.objects id).addressSpace = some n := by
  rw [AddressSpace.has_iff, hs, ← h.mem_iff, regions, List.map_map]
  refine (List.mem_map.trans ⟨?_, fun hm => ⟨id, hm, (h.mem_wf hm).id_eq⟩⟩)
  rintro ⟨i, hi, he⟩
  rw [Function.comp_apply, (h.mem_wf hi).id_eq] at he
  exact he ▸ hi

/-- Adding to the list of values does what `vart_address_space_add` does, for a region that is
in no space. -/
theorem addressSpaceAdd_refines (h : t.Inv) (hs : s.regions = t.regions n)
    (hinit : (t.objects id).initialised = true) (hfree : (t.objects id).addressSpace = none) :
    (∃ e, s.add (t.objects id).region = .error e ∧ t.add n id (.ok ()) = (t, .error e)) ∨
    ∃ s', s.add (t.objects id).region = .ok s' ∧
      t.add n id (.ok ()) = ((t.setSpace n (t.spaces n ++ [id])).setObject id
        { t.objects id with addressSpace := some n }, .ok ()) ∧
      s'.regions = ((t.setSpace n (t.spaces n ++ [id])).setObject id
        { t.objects id with addressSpace := some n }).regions n := by
  have hid : (t.objects id).region.id = id := (h.wf id hinit).id_eq
  have hhas : ¬ s.has (t.objects id).region.id = true := by
    rw [hid, h.has_iff hs, hfree]
    simp
  rw [AddressSpace.add, dif_neg hhas]
  by_cases hover : (t.regions n).any (fun x =>
      decide ((t.objects id).region.priority = x.priority) &&
        (t.objects id).region.overlaps x) = true
  · rw [if_pos (hs ▸ hover)]
    refine .inl ⟨.eexist, rfl, ?_⟩
    simp only [add, hfree, hover, ne_eq, not_true_eq_false, if_false, if_true]
  · rw [if_neg (hs ▸ hover)]
    refine .inr ⟨_, rfl, ?_, ?_⟩
    · simp only [add, hfree, hover, ne_eq, not_true_eq_false, if_false, Bool.false_eq_true]
    simp only [hs, regions, setObject, setSpace, Function.update_self, List.map_append,
      List.map_cons, List.map_nil, List.append_cancel_right_eq]
    refine List.map_congr_left fun i _ => ?_
    rw [Function.update_apply]
    split
    · rename_i he; rw [he]
    · rfl

/-- Removing from the list of values does what `vart_address_space_remove` does. -/
theorem addressSpaceRemove_refines (h : t.Inv) (hs : s.regions = t.regions n)
    (hin : (t.objects id).addressSpace = some n) :
    (t.remove n id).2 = .ok () ∧ (s.remove id).regions = (t.remove n id).1.regions n := by
  have hm : id ∈ t.spaces n := (h.mem_iff n id).mpr hin
  unfold remove
  rw [if_neg (not_not.mpr hin), if_pos hm]
  refine ⟨rfl, ?_⟩
  rw [AddressSpace.remove_regions, hs]
  simp only [regions, setObject, setSpace, Function.update_self]
  rw [(h.nodup n).erase_eq_filter, List.filter_map]
  have hfilter : (t.spaces n).filter ((fun r => decide (r.id ≠ id)) ∘
      fun i => (t.objects i).region) = (t.spaces n).filter (· != id) := by
    refine List.filter_congr fun i hi => ?_
    rw [Function.comp_apply, (h.mem_wf hi).id_eq]
    by_cases he : i = id <;> simp [he]
  rw [hfilter]
  refine List.map_congr_left fun i _ => ?_
  rw [Function.update_apply]
  split
  · rename_i he; rw [he]
  · rfl

/-- A list of objects that hold the same regions. -/
theorem regions_congr {t' : Topology} (hspace : t'.spaces n = t.spaces n)
    (hregion : ∀ i ∈ t.spaces n, (t'.objects i).region = (t.objects i).region) :
    t'.regions n = t.regions n := by
  rw [regions, regions, hspace]
  exact List.map_congr_left hregion

/-- A change of an object that is not in the space. -/
theorem regions_setObject {o : RegionObject} (hm : id ∉ t.spaces n) :
    (t.setObject id o).regions n = t.regions n := by
  refine regions_congr rfl fun i hi => ?_
  have hne : i ≠ id := fun he => hm (he ▸ hi)
  simp only [setObject, Function.update_of_ne hne]

/-- Another space changes, and an object that is not in this one. -/
theorem regions_setSpace {m : SpaceId} {ids : List RegionId} {o : RegionObject} (hmn : n ≠ m)
    (hm : id ∉ t.spaces n) : ((t.setSpace m ids).setObject id o).regions n = t.regions n := by
  have hspace : (t.setSpace m ids).spaces n = t.spaces n := Function.update_of_ne hmn ..
  exact (regions_setObject (hspace ▸ hm)).trans (regions_congr hspace fun _ _ => rfl)

/-- A region that points elsewhere is not in the list. -/
theorem Inv.notMem (h : t.Inv) (hp : (t.objects id).addressSpace ≠ some n) : id ∉ t.spaces n :=
  fun hm => hp ((h.mem_iff n id).mp hm)

end Topology

/-! ## The calls on values -/

namespace AddressSpace

/-- The region of `id`, if it is in the space. -/
def get? (s : AddressSpace) (id : RegionId) : Option AddressRegion :=
  s.regions.find? fun r => decide (r.id = id)

theorem nodup_setEnabled (s : AddressSpace) (id : RegionId) (enabled : Bool) :
    ((s.regions.map fun r => if r.id = id then { r with enabled } else r).map (·.id)).Nodup := by
  have hids : (s.regions.map fun r => if r.id = id then { r with enabled } else r).map (·.id) =
      s.regions.map (·.id) := by
    rw [List.map_map]
    refine List.map_congr_left fun r _ => ?_
    rw [Function.comp_apply]
    split <;> rfl
  exact hids ▸ s.nodup

def setEnabled (s : AddressSpace) (id : RegionId) (enabled : Bool) : AddressSpace :=
  ⟨s.regions.map fun r => if r.id = id then { r with enabled } else r, s.nodup_setEnabled id enabled⟩

end AddressSpace

/-- The regions that were set up and are in no space, and the spaces as lists of regions. -/
structure Spaces where
  loose : RegionId → Option AddressRegion
  space : SpaceId → AddressSpace

def Spaces.init : Spaces := ⟨fun _ => none, fun _ => .empty⟩

/-- What a call is for: regions move between the loose ones and the spaces. -/
def spacesStep (s : Spaces) : TopologyOp → Spaces
  | .regionInit id kind base size priority =>
    match kind.run id base.toNat size.toNat priority with
    | .error _ => s
    | .ok region => { s with loose := Function.update s.loose id (some region) }
  | .regionSetEnabled id enabled =>
    { s with loose := Function.update s.loose id ((s.loose id).map fun r => { r with enabled }) }
  | .add _ _ (.error _) => s
  | .add n id (.ok _) =>
    match s.loose id with
    | none => s
    | some region =>
      match (s.space n).add region with
      | .error _ => s
      | .ok space => ⟨Function.update s.loose id none, Function.update s.space n space⟩
  | .remove n id =>
    match (s.space n).get? id with
    | none => s
    | some region => ⟨Function.update s.loose id (some region),
        Function.update s.space n ((s.space n).remove id)⟩
  | .setEnabled n id enabled =>
    { s with space := Function.update s.space n ((s.space n).setEnabled id enabled) }
  | .destroy n => ⟨fun id => ((s.space n).get? id).or (s.loose id), Function.update s.space n .empty⟩

/-- The loose region of an object. -/
def RegionObject.loose (o : RegionObject) : Option AddressRegion :=
  if o.initialised = true ∧ o.addressSpace = none then some o.region else none

/-- The objects hold these values. -/
structure Represents (t : Topology) (s : Spaces) : Prop where
  regions : ∀ n, (s.space n).regions = t.regions n
  loose : ∀ id, s.loose id = (t.objects id).loose

namespace Represents

variable {t : Topology} {s : Spaces} {n : SpaceId} {id : RegionId}

theorem get?_eq (h : t.Inv) (hr : Represents t s) (n : SpaceId) (id : RegionId) :
    (s.space n).get? id =
      if (t.objects id).addressSpace = some n then some (t.objects id).region else none := by
  split
  · rename_i hin
    have hm : id ∈ t.spaces n := (h.mem_iff n id).mpr hin
    have hid : (t.objects id).region.id = id := (h.mem_wf hm).id_eq
    have hmem : (t.objects id).region ∈ (s.space n).regions := by
      rw [hr.regions n]
      exact List.mem_map_of_mem hm
    cases hget : (s.space n).get? id with
    | none => exact absurd (decide_eq_true hid) (List.find?_eq_none.mp hget _ hmem)
    | some r =>
      have hrid : r.id = id := of_decide_eq_true (List.find?_some hget :)
      rw [AddressSpace.eq_of_id_eq (List.mem_of_find?_eq_some hget) hmem (hrid.trans hid.symm)]
  · rename_i hout
    rw [AddressSpace.get?, List.find?_eq_none]
    intro r hmem hrid
    refine hout ((h.has_iff (hr.regions n)).mp (AddressSpace.has_iff.mpr ?_))
    exact List.mem_map.mpr ⟨r, hmem, of_decide_eq_true hrid⟩

/-- An object that is in no space changes. -/
theorem setLoose (h : t.Inv) (hr : Represents t s) (hfree : (t.objects id).addressSpace = none)
    (o : RegionObject) : Represents (t.setObject id o)
      { s with loose := Function.update s.loose id o.loose } where
  regions n := (hr.regions n).trans
    (Topology.regions_setObject (h.notMem (by simp [hfree]))).symm
  loose i := by
    simp only [Topology.setObject, Function.update_apply]
    split
    · rfl
    · exact hr.loose i

/-- An object changes together with the one space that it is in, before or after. -/
theorem setSpace (h : t.Inv) (hr : Represents t s)
    (hin : ∀ m, (t.objects id).addressSpace = some m → m = n) {ids : List RegionId}
    {o : RegionObject} {space : AddressSpace}
    (hspace : space.regions = ((t.setSpace n ids).setObject id o).regions n) :
    Represents ((t.setSpace n ids).setObject id o)
      ⟨Function.update s.loose id o.loose, Function.update s.space n space⟩ where
  regions m := by
    dsimp only
    rw [Function.update_apply]
    split
    · rename_i hm
      rw [hm, hspace]
    · rename_i hm
      rw [hr.regions m]
      exact (Topology.regions_setSpace hm (h.notMem fun hp => hm (hin m hp))).symm
  loose i := by
    simp only [Topology.setObject, Topology.setSpace, Function.update_apply]
    split
    · rfl
    · exact hr.loose i

theorem add (h : t.Inv) (hr : Represents t s) (n : SpaceId)
    (hinit : (t.objects id).initialised = true) (grow : Status) :
    Represents (t.add n id grow).1 (spacesStep s (.add n id grow)) := by
  by_cases hfree : (t.objects id).addressSpace = none
  · have hloose : s.loose id = some (t.objects id).region :=
      (hr.loose id).trans (if_pos ⟨hinit, hfree⟩)
    cases grow with
    | error e =>
      have hsame : (t.add n id (.error e)).1 = t := by
        simp only [Topology.add]
        split
        · rfl
        · split <;> rfl
      rwa [hsame]
    | ok x =>
      rcases Topology.addressSpaceAdd_refines h (hr.regions n) hinit hfree with
        ⟨e, hadd, hcall⟩ | ⟨space, hadd, hcall, hregions⟩
      · simp only [spacesStep, hloose, hadd]
        rwa [show t.add n id (.ok x) = _ from hcall]
      · simp only [spacesStep, hloose, hadd]
        rw [show t.add n id (.ok x) = _ from hcall]
        have hnone : ({ t.objects id with addressSpace := some n } : RegionObject).loose = none :=
          if_neg (by simp)
        have hmoved := setSpace h hr (fun m hm => by rw [hfree] at hm; cases hm) hregions
        rwa [hnone] at hmoved
  · have hloose : s.loose id = none := (hr.loose id).trans (if_neg fun hl => hfree hl.2)
    have hcall : t.add n id grow = (t, .error .ealready) := if_pos hfree
    rw [hcall]
    cases grow with
    | error e => exact hr
    | ok x =>
      simp only [spacesStep, hloose]
      exact hr

theorem remove (h : t.Inv) (hr : Represents t s) (n : SpaceId) (id : RegionId) :
    Represents (t.remove n id).1 (spacesStep s (.remove n id)) := by
  have hget := get?_eq h hr n id
  by_cases hin : (t.objects id).addressSpace = some n
  · rw [if_pos hin] at hget
    have hregions := (Topology.addressSpaceRemove_refines h (hr.regions n) hin).2
    have hm : id ∈ t.spaces n := (h.mem_iff n id).mpr hin
    rw [Topology.remove, if_neg (not_not.mpr hin), if_pos hm] at hregions ⊢
    simp only [spacesStep, hget]
    have hloose : ({ t.objects id with addressSpace := none } : RegionObject).loose =
        some (t.objects id).region := if_pos ⟨h.init id n hin, rfl⟩
    have hmoved := setSpace h hr (fun m hm => Option.some.inj (hm.symm.trans hin)) hregions
    rwa [hloose] at hmoved
  · rw [if_neg hin] at hget
    simp only [spacesStep, hget, Topology.remove, if_pos hin]
    exact hr

/-- The flag of a region that is in the space. -/
theorem setEnabled (h : t.Inv) (hr : Represents t s) (n : SpaceId) (id : RegionId)
    (enabled : Bool) :
    Represents (t.setEnabled n id enabled).1 (spacesStep s (.setEnabled n id enabled)) := by
  have hid : ∀ i ∈ t.spaces n, (t.objects i).region.id = i := fun i hi => (h.mem_wf hi).id_eq
  by_cases hin : (t.objects id).addressSpace = some n
  · simp only [Topology.setEnabled, if_neg (not_not.mpr hin), spacesStep]
    refine ⟨fun m => ?_, fun i => ?_⟩
    · dsimp only
      rw [Function.update_apply]
      split
      · rename_i hm
        rw [hm, AddressSpace.setEnabled]
        dsimp only
        rw [hr.regions n, Topology.regions, Topology.regions, List.map_map]
        refine List.map_congr_left fun i hi => ?_
        simp only [Topology.setObject, Function.update_apply, Function.comp_apply, hid i hi]
        split
        · rename_i he
          subst he
          rw [hid i hi]
        · rfl
      · rename_i hm
        rw [hr.regions m]
        exact (Topology.regions_setObject (h.notMem fun hp =>
          hm (Option.some.inj (hp.symm.trans hin)))).symm
    · simp only [Topology.setObject, Function.update_apply]
      split
      · rename_i he
        rw [he, hr.loose id, RegionObject.loose, RegionObject.loose, hin, if_neg (by simp),
          if_neg (by simp)]
      · exact hr.loose i
  · simp only [Topology.setEnabled, if_pos hin, spacesStep]
    refine ⟨fun m => ?_, hr.loose⟩
    dsimp only
    rw [Function.update_apply]
    split
    · rename_i hm
      rw [hm, AddressSpace.setEnabled, ← hr.regions n]
      refine (List.map_congr_left fun r hmem => if_neg fun hrid => ?_).trans (List.map_id _)
      refine hin ((h.has_iff (hr.regions n)).mp (AddressSpace.has_iff.mpr ?_))
      exact List.mem_map.mpr ⟨r, hmem, hrid⟩
    · exact hr.regions m

theorem destroy (h : t.Inv) (hr : Represents t s) (n : SpaceId) :
    Represents (t.destroy n) (spacesStep s (.destroy n)) where
  regions m := by
    simp only [spacesStep, Function.update_apply]
    split
    · rename_i hm
      simp [hm, AddressSpace.empty, Topology.destroy, Topology.regions]
    · rename_i hm
      rw [hr.regions m]
      refine (Topology.regions_congr (Function.update_of_ne hm ..) fun i _ => ?_).symm
      simp only [Topology.destroy]
      split <;> rfl
  loose id := by
    simp only [spacesStep, Topology.destroy, get?_eq h hr n id, hr.loose id, h.mem_iff n id]
    split
    · rename_i hin
      exact (if_pos ⟨h.init id n hin, rfl⟩).symm
    · rfl

end Represents

/-- One call on the objects is the same call on the values. -/
theorem topologyStep_refines {t : Topology} {s : Spaces} (h : t.Inv) (hr : Represents t s)
    {op : TopologyOp} (hv : op.Valid t) : Represents (topologyStep t op) (spacesStep s op) := by
  cases op with
  | regionInit id kind base size priority =>
    simp only [topologyStep, Topology.regionInit, spacesStep]
    split
    · exact hr
    · exact hr.setLoose h hv { region := _, addressSpace := none, initialised := true }
  | regionSetEnabled id enabled =>
    simp only [topologyStep, Topology.regionSetEnabled, spacesStep]
    have hloose := hr.loose id
    split
    · rename_i hbusy
      rw [RegionObject.loose, if_neg fun hl => hbusy hl.2] at hloose
      rw [hloose, Option.map_none, ← hloose, Function.update_eq_self]
      exact hr
    · rename_i hfree
      have hset := hr.setLoose h (not_not.mp hfree)
        { t.objects id with region := { (t.objects id).region with enabled } }
      rw [hloose]
      have hflag : (t.objects id).loose.map (fun r => { r with enabled }) = RegionObject.loose
          { t.objects id with region := { (t.objects id).region with enabled } } := by
        simp only [RegionObject.loose]
        split <;> rfl
      rwa [hflag]
  | add n id grow => exact hr.add h n hv grow
  | remove n id => exact hr.remove h n id
  | setEnabled n id enabled => exact hr.setEnabled h n id enabled
  | destroy n => exact hr.destroy h n

theorem represents_init {t : Topology} (h : t.Initial) : Represents t .init where
  regions n := by simp [Spaces.init, AddressSpace.empty, Topology.regions, h.2 n]
  loose id := by simp [Spaces.init, RegionObject.loose, (h.1 id).1]

/-- A run of the calls on the objects is the run of the same calls on the values: the spaces have
the same regions in the same order, the same regions are loose, and every lookup finds the same. -/
theorem topology_run_refines {t : Topology} (h : t.Initial) {ops : List TopologyOp}
    (hops : Allowed topologyStep TopologyOp.Valid t ops) :
    Represents (runFrom topologyStep t ops) (runFrom spacesStep .init ops) ∧
      ∀ n address size, ((runFrom spacesStep .init ops).space n).find address size =
        (runFrom topologyStep t ops).find n address size := by
  suffices hrun : ∀ (t : Topology) (s : Spaces), t.Inv → Represents t s →
      Allowed topologyStep TopologyOp.Valid t ops →
        Represents (runFrom topologyStep t ops) (runFrom spacesStep s ops) by
    have hr := hrun t .init h.inv (represents_init h) hops
    exact ⟨hr, fun n => Topology.find_refines (hr.regions n)⟩
  clear hops
  induction ops with
  | nil => exact fun t s _ hr _ => hr
  | cons op ops ih =>
    rintro t s hinv hr ⟨hv, hrest⟩
    exact ih _ _ (topologyStep_inv hinv hv) (topologyStep_refines hinv hr hv) hrest

/-! ## The region found -/

/-- The scan keeps the first region of highest priority among those that contain the access. -/
theorem AddressSpace.foldl_better_eq_argmax (rs : List AddressRegion) (address size : Nat) :
    rs.foldl (AddressSpace.better address size) none =
      (rs.filter fun r => r.contains address size).argmax (·.priority) := by
  rw [List.argmax, List.foldl_filter]
  congr 1
  funext best r
  cases best with
  | none => cases hc : r.contains address size <;> simp [AddressSpace.better, List.argAux, hc]
  | some b =>
    by_cases hp : b.priority < r.priority <;> cases hc : r.contains address size <;>
      simp [AddressSpace.better, List.argAux, hp, hc]

namespace Topology

variable {t : Topology} {n : SpaceId} {address size : Nat} {r : AddressRegion}

theorem find_eq_argmax (t : Topology) (n : SpaceId) (address size : Nat) :
    t.find n address size =
      ((t.regions n).filter fun r => r.contains address size).argmax (·.priority) :=
  AddressSpace.foldl_better_eq_argmax _ _ _

/-- `r` is the enabled region of highest priority among the registered ones that cover
`[address, address + size)`: each other one has a lower priority. -/
structure Dispatches (t : Topology) (n : SpaceId) (address size : Nat) (r : AddressRegion) :
    Prop where
  mem : r ∈ t.regions n
  covers : r.Covers address size
  highest : ∀ r' ∈ t.regions n, r'.Covers address size → r' ≠ r → r'.priority < r.priority

/-- Regions of one space and equal priority that cover the same non-empty range are equal. -/
theorem Inv.eq_of_covers (h : t.Inv) (hsize : 0 < size) {a b : AddressRegion}
    (ha : a ∈ t.regions n) (hb : b ∈ t.regions n) (hca : a.Covers address size)
    (hcb : b.Covers address size) (hp : a.priority = b.priority) : a = b := by
  obtain ⟨i, hi, rfl⟩ := List.mem_map.mp ha
  obtain ⟨j, hj, rfl⟩ := List.mem_map.mp hb
  by_cases hij : i = j
  · rw [hij]
  · exact absurd (h.apart n i j hi hj hij hp) (hca.not_apart hsize hcb)

theorem Inv.find_eq_some_iff (h : t.Inv) (hsize : 0 < size) :
    t.find n address size = some r ↔ t.Dispatches n address size r := by
  rw [find_eq_argmax, List.argmax_eq_some_iff]
  simp only [List.mem_filter, AddressRegion.contains_iff_covers, and_imp]
  constructor
  · rintro ⟨⟨hm, hc⟩, hmax, -⟩
    refine ⟨hm, hc, fun r' hm' hc' hne => lt_of_le_of_ne (hmax r' hm' hc') fun hp => hne ?_⟩
    exact h.eq_of_covers hsize hm' hm hc' hc hp
  · rintro ⟨hm, hc, hmax⟩
    refine ⟨⟨hm, hc⟩, fun r' hm' hc' => ?_, fun r' hm' hc' hp => ?_⟩
    · by_cases he : r' = r
      · rw [he]
      · exact le_of_lt (hmax r' hm' hc' he)
    · by_cases he : r' = r
      · rw [he]
      · exact absurd (hmax r' hm' hc' he) (not_lt.mpr hp)

theorem find_eq_none_iff :
    t.find n address size = none ↔ ∀ r ∈ t.regions n, ¬ r.Covers address size := by
  rw [find_eq_argmax, List.argmax_eq_none, List.filter_eq_nil_iff]
  simp only [AddressRegion.contains_iff_covers]

/-- What is dispatched to depends on the registered enabled regions only. -/
theorem Dispatches.congr {t' : Topology} {n' : SpaceId}
    (hset : ∀ r, r.enabled = true → (r ∈ t.regions n ↔ r ∈ t'.regions n'))
    (h : t.Dispatches n address size r) : t'.Dispatches n' address size r where
  mem := (hset r h.covers.enabled).mp h.mem
  covers := h.covers
  highest r' hm' hc' := h.highest r' ((hset r' hc'.enabled).mpr hm') hc'

end Topology

/-- Regions of equal priority in one space have no address in common. `find` with a non-empty
range gives the one enabled region of highest priority that covers it, or none if there is no
such region; spaces of any two runs with the same registered enabled regions give the same. -/
theorem address_space_dispatch {t : Topology}
    (h : Reach topologyStep Topology.Initial TopologyOp.Valid t) (n : SpaceId) :
    ((t.regions n).Pairwise fun a b => a.priority = b.priority → a.Apart b) ∧
    (∀ address size, 0 < size →
      (∀ r, t.find n address size = some r ↔ t.Dispatches n address size r) ∧
      (t.find n address size = none ↔ ∀ r ∈ t.regions n, ¬ r.Covers address size)) ∧
    ∀ t' n', Reach topologyStep Topology.Initial TopologyOp.Valid t' →
      (∀ r, r.enabled = true → (r ∈ t.regions n ↔ r ∈ t'.regions n')) →
      ∀ address size, 0 < size → t.find n address size = t'.find n' address size := by
  have hinv := Topology.inv_of_reach h
  refine ⟨?_, fun address size hsize =>
    ⟨fun r => hinv.find_eq_some_iff hsize, Topology.find_eq_none_iff⟩, ?_⟩
  · rw [Topology.regions, List.pairwise_map]
    exact (hinv.nodup n).imp_of_mem fun hi hj hne => hinv.apart n _ _ hi hj hne
  · intro t' n' h' hset address size hsize
    have hinv' := Topology.inv_of_reach h'
    refine Option.ext fun r => ?_
    rw [hinv.find_eq_some_iff hsize, hinv'.find_eq_some_iff hsize]
    exact ⟨.congr hset, .congr fun r hr => (hset r hr).symm⟩

/-- No region is set up yet. -/
def Topology.zero : Topology where
  objects id := ⟨⟨id, 0, 0, 0, .ram, false, false⟩, none, false⟩
  spaces _ := []

/-- A BAR with an MSI-X table over its first page. -/
def overlaidBar : List TopologyOp :=
  [.regionInit (.bar 0 0) (.mmio true) 0x4000 0x2000 0, .add .system (.bar 0 0) (.ok ()),
    .regionInit (.msixTable 0) (.mmio true) 0x4000 0x1000 1,
    .add .system (.msixTable 0) (.ok ())]

theorem overlaidBar_table_found :
    (runFrom topologyStep Topology.zero overlaidBar).Dispatches .system 0x4010 4
      ⟨.msixTable 0, 0x4000, 0x1000, 1, .mmio, true, false⟩ := by
  have hreach : Reach topologyStep Topology.Initial TopologyOp.Valid
      (runFrom topologyStep Topology.zero overlaidBar) :=
    Reach.runFrom (.start ⟨fun _ => ⟨rfl, rfl⟩, fun _ => rfl⟩) ⟨rfl, rfl, rfl, rfl, trivial⟩
  exact (((address_space_dispatch hreach .system).2.1 0x4010 4 (by decide)).1 _).mp (by decide)

/-- The BAR cannot be added twice, and the table is taken out again. -/
def tableRemoved : List TopologyOp :=
  overlaidBar ++ [.add .system (.bar 0 0) (.ok ()), .remove .system (.msixTable 0)]

theorem tableRemoved_allowed : Allowed topologyStep TopologyOp.Valid .zero tableRemoved :=
  ⟨rfl, rfl, rfl, rfl, rfl, trivial, trivial⟩

/-- The table is found in the space as a list of values, and the BAR once the table is out. -/
theorem overlaidBar_refined :
    Represents (runFrom topologyStep .zero tableRemoved) (runFrom spacesStep .init tableRemoved) ∧
      ((runFrom spacesStep .init overlaidBar).space .system).find 0x4010 4 =
        some ⟨.msixTable 0, 0x4000, 0x1000, 1, .mmio, true, false⟩ ∧
      (runFrom topologyStep .zero tableRemoved).find .system 0x4010 4 =
        some ⟨.bar 0 0, 0x4000, 0x2000, 0, .mmio, true, false⟩ := by
  obtain ⟨hrun, hfind⟩ :=
    topology_run_refines ⟨fun _ => ⟨rfl, rfl⟩, fun _ => rfl⟩ tableRemoved_allowed
  exact ⟨hrun, by decide, (hfind .system 0x4010 4).symm.trans (by decide)⟩

end Vart
