import Mathlib.Data.List.Nodup
import Vart.Core.Errno
import Vart.Lib.Bytes

/-!
# Address spaces (`core/address-space.c`)

An address space is a list of regions. `AddressSpace.find` picks the enabled region of highest
priority that contains the whole access, the first one of equal priority. A buffer access
(`address_space_buffer_access`) goes to the RAM behind that region or fails, and a failing write
changes nothing.

`RegionId` says which object embeds a region (in C, its address). A list holds each object once
(`AddressSpace.nodup`): `vart_address_space_add` refuses a region that is already in a space. Each
RAM region has its own backing memory (`vart_memory_region_create` maps it), so guest memory is
the pair of the topology and a store of bytes for each region (`GuestMemory`).
-/

namespace Vart

open Lib

/-- The object that embeds an address region. -/
inductive RegionId where
  /-- A `VartMemoryRegion`. -/
  | memory (slot : Nat)
  /-- A BAR of a PCI function. -/
  | bar (device index : Nat)
  | msixTable (device : Nat)
  | msixPba (device : Nat)
  /-- The ECAM window of the root complex. -/
  | ecam
  /-- A platform device. -/
  | platform (n : Nat)
deriving DecidableEq, Repr

/-- The address space that a pointer names: the machine's, or the proxy space of an IOMMU
context. -/
inductive SpaceId where
  | system
  | context (n : Nat)
deriving DecidableEq, Repr

inductive RegionType where
  | ram | rom | mmio | alias
deriving DecidableEq, Repr

structure AddressRegion where
  id : RegionId
  base : Nat
  size : Nat
  priority : Int
  type : RegionType
  enabled : Bool
  /-- `ram_addr` is not `NULL`. -/
  ramAddr : Bool
deriving DecidableEq, Repr

namespace AddressRegion

/-- `vart_address_region_contains`. -/
def contains (r : AddressRegion) (address size : Nat) : Bool :=
  if !r.enabled || decide (address < r.base) then false
  else if address - r.base > r.size then false
  else decide (size ≤ r.size - (address - r.base))

theorem contains_iff {r : AddressRegion} {address size : Nat} :
    r.contains address size = true ↔
      r.enabled = true ∧ r.base ≤ address ∧ address + size ≤ r.base + r.size := by
  unfold contains
  cases r.enabled <;> simp
  omega

/-- `address_regions_overlap`. -/
def overlaps (a b : AddressRegion) : Bool :=
  decide (a.base ≤ (b.base + b.size - 1) % 2 ^ 64) && decide (b.base ≤ (a.base + a.size - 1) % 2 ^ 64)

end AddressRegion

/-- The regions of an address space, oldest first. No object is in the list twice. -/
structure AddressSpace where
  regions : List AddressRegion
  nodup : (regions.map (·.id)).Nodup

namespace AddressSpace

/-- `vart_address_space_init`. -/
def empty : AddressSpace := ⟨[], List.nodup_nil⟩

/-- The better of the best region so far and the next one. -/
def better (address size : Nat) (best : Option AddressRegion) (r : AddressRegion) :
    Option AddressRegion :=
  if r.contains address size && best.all (fun b => decide (b.priority < r.priority)) then some r
  else best

/-- `vart_address_space_find`. -/
def find (s : AddressSpace) (address size : Nat) : Option AddressRegion :=
  s.regions.foldl (better address size) none

private theorem foldl_better_mem {address size : Nat} {rs : List AddressRegion}
    {best : Option AddressRegion} {r : AddressRegion}
    (h : rs.foldl (better address size) best = some r) :
    best = some r ∨ (r ∈ rs ∧ r.contains address size = true) := by
  induction rs generalizing best with
  | nil => exact .inl h
  | cons x xs ih =>
    rcases ih h with hb | ⟨hm, hc⟩
    · unfold better at hb
      split at hb
      · rename_i hx
        cases hb
        exact .inr ⟨List.mem_cons_self, (Bool.and_eq_true_iff.mp hx).1⟩
      · exact .inl hb
    · exact .inr ⟨List.mem_cons_of_mem _ hm, hc⟩

/-- The region found is in the list and contains the access. -/
theorem find_mem {s : AddressSpace} {address size : Nat} {r : AddressRegion}
    (h : s.find address size = some r) : r ∈ s.regions ∧ r.contains address size = true := by
  rcases foldl_better_mem h with h | h
  · cases h
  · exact h

theorem eq_of_regions {s t : AddressSpace} (h : s.regions = t.regions) : s = t := by
  cases s
  cases t
  cases h
  rfl

theorem eq_of_id_eq {s : AddressSpace} {r r' : AddressRegion} (h : r ∈ s.regions)
    (h' : r' ∈ s.regions) (hid : r.id = r'.id) : r = r' :=
  List.inj_on_of_nodup_map s.nodup h h' hid

/-- The region embedded in `id`, if it is in the space (`region->address_space != NULL`). -/
def has (s : AddressSpace) (id : RegionId) : Bool := s.regions.any (fun r => decide (r.id = id))

theorem has_iff {s : AddressSpace} {id : RegionId} :
    s.has id = true ↔ id ∈ s.regions.map (·.id) := by
  simp [has]

/-- `vart_address_space_add`, with room for the region list. -/
def add (s : AddressSpace) (r : AddressRegion) : Except Errno AddressSpace :=
  if h : s.has r.id = true then .error .ealready
  else if s.regions.any (fun x => decide (r.priority = x.priority) && r.overlaps x) then
    .error .eexist
  else .ok ⟨s.regions ++ [r], by
    rw [List.map_append, List.nodup_append]
    refine ⟨s.nodup, by simp, fun a ha b hb hab => h ?_⟩
    simp only [List.map_cons, List.map_nil, List.mem_singleton] at hb
    exact has_iff.mpr (hb ▸ hab ▸ ha)⟩

/-- `vart_address_space_remove` of a region that is in the space. -/
def remove (s : AddressSpace) (id : RegionId) : AddressSpace :=
  ⟨s.regions.filter (fun r => decide (r.id ≠ id)), (List.filter_sublist.map _).nodup s.nodup⟩

theorem add_ok {s s' : AddressSpace} {r : AddressRegion} (h : s.add r = .ok s') :
    s'.regions = s.regions ++ [r] := by
  unfold add at h
  split at h
  · cases h
  · split at h
    · cases h
    · cases h; rfl

@[simp] theorem remove_regions (s : AddressSpace) (id : RegionId) :
    (s.remove id).regions = s.regions.filter (fun r => decide (r.id ≠ id)) := rfl

end AddressSpace

/-- The guest-physical memory: the topology and the bytes behind each RAM region. -/
structure GuestMemory where
  space : AddressSpace
  ram : RegionId → Store

namespace GuestMemory

/-- The RAM region that a non-empty buffer access goes to. -/
def bufferRegion (m : GuestMemory) (address size : Nat) : Except Errno AddressRegion :=
  match m.space.find address size with
  | none => .error .enoent
  | some r => if r.type ≠ .ram ∨ r.ramAddr = false then .error .eacces else .ok r

/-- `vart_address_space_read_buffer` of a space without a translator. -/
def readBuffer (m : GuestMemory) (address size : Nat) : Except Errno (List UInt8) :=
  if size = 0 then .ok []
  else match m.bufferRegion address size with
    | .error e => .error e
    | .ok r => .ok ((m.ram r.id).read (address - r.base) size)

/-- `m` with the bytes `data` at offset `offset` of the region `id`. -/
def store (m : GuestMemory) (id : RegionId) (offset : Nat) (data : List UInt8) : GuestMemory :=
  { m with ram := fun i => if i = id then (m.ram i).write offset data else m.ram i }

/-- `vart_address_space_write_buffer` of a space without a translator. -/
def writeBuffer (m : GuestMemory) (address : Nat) (data : List UInt8) :
    Except Errno GuestMemory :=
  if data.length = 0 then .ok m
  else match m.bufferRegion address data.length with
    | .error e => .error e
    | .ok r => .ok (m.store r.id (address - r.base) data)

@[simp] theorem store_space (m : GuestMemory) (id : RegionId) (o : Nat) (data : List UInt8) :
    (m.store id o data).space = m.space := rfl

theorem bufferRegion_ok {m : GuestMemory} {address size : Nat} {r : AddressRegion}
    (h : m.bufferRegion address size = .ok r) :
    r ∈ m.space.regions ∧ r.base ≤ address ∧ address + size ≤ r.base + r.size := by
  unfold bufferRegion at h
  split at h
  · cases h
  · rename_i r' hr
    split at h
    · cases h
    · cases h
      obtain ⟨hm, hc⟩ := AddressSpace.find_mem hr
      exact ⟨hm, (AddressRegion.contains_iff.mp hc).2⟩

theorem bufferRegion_congr {m m' : GuestMemory} (h : m'.space = m.space) (address size : Nat) :
    m'.bufferRegion address size = m.bufferRegion address size := by
  unfold bufferRegion; rw [h]

/-- The bytes read come from the region found. -/
theorem readBuffer_of_region {m : GuestMemory} {address size : Nat} {r : AddressRegion}
    (hs : size ≠ 0) (h : m.bufferRegion address size = .ok r) :
    m.readBuffer address size = .ok ((m.ram r.id).read (address - r.base) size) := by
  rw [readBuffer, if_neg hs, h]

theorem readBuffer_length {m : GuestMemory} {address size : Nat} {bs : List UInt8}
    (h : m.readBuffer address size = .ok bs) : bs.length = size := by
  unfold readBuffer at h
  split at h
  · cases h; rename_i h0; simp [h0]
  · split at h
    · cases h
    · cases h; simp

theorem writeBuffer_ok {m m' : GuestMemory} {address : Nat} {data : List UInt8}
    (hd : data.length ≠ 0) (h : m.writeBuffer address data = .ok m') :
    ∃ r, m.bufferRegion address data.length = .ok r ∧
      m' = m.store r.id (address - r.base) data := by
  rw [writeBuffer, if_neg hd] at h
  split at h
  · cases h
  · rename_i r hr
    cases h
    exact ⟨r, hr, rfl⟩

/-- A range that can be read can be written. -/
theorem writeBuffer_of_readBuffer {m : GuestMemory} {address : Nat} {bs data : List UInt8}
    (h : m.readBuffer address data.length = .ok bs) : ∃ m', m.writeBuffer address data = .ok m' := by
  unfold readBuffer at h
  unfold writeBuffer
  split at h
  · rename_i h0
    exact ⟨m, if_pos h0⟩
  · rename_i h0
    rw [if_neg h0]
    split at h
    · cases h
    · exact ⟨_, rfl⟩

/-- `m'` is `m` but for the bytes that an access to `size` bytes at `address` goes to. -/
def SameOutside (m m' : GuestMemory) (address size : Nat) : Prop :=
  m'.space = m.space ∧ ∀ r, m.bufferRegion address size = .ok r →
    ∀ id x, (id = r.id → x < address - r.base ∨ address - r.base + size ≤ x) →
      m'.ram id x = m.ram id x

theorem SameOutside.refl (m : GuestMemory) (address size : Nat) : m.SameOutside m address size :=
  ⟨rfl, fun _ _ _ _ _ => rfl⟩

theorem writeBuffer_sameOutside {m m' : GuestMemory} {address : Nat} {data : List UInt8}
    (h : m.writeBuffer address data = .ok m') : m.SameOutside m' address data.length := by
  by_cases hd : data.length = 0
  · rw [writeBuffer, if_pos hd] at h
    cases h
    exact .refl m address _
  · obtain ⟨r, hr, rfl⟩ := writeBuffer_ok hd h
    refine ⟨rfl, fun r' hr' id x hx => ?_⟩
    obtain rfl : r = r' := Except.ok.inj (hr.symm.trans hr')
    simp only [store]
    split
    · rename_i hid
      exact Store.write_out _ (hx hid)
    · rfl

theorem writeBuffer_space {m m' : GuestMemory} {address : Nat} {data : List UInt8}
    (h : m.writeBuffer address data = .ok m') : m'.space = m.space := by
  by_cases hd : data.length = 0
  · rw [writeBuffer, if_pos hd] at h; cases h; rfl
  · obtain ⟨r, -, rfl⟩ := writeBuffer_ok hd h
    rfl

/-- A read of what was just written, with the same range, gives the written bytes. -/
theorem readBuffer_writeBuffer_same {m m' : GuestMemory} {address : Nat} {data : List UInt8}
    (h : m.writeBuffer address data = .ok m') :
    m'.readBuffer address data.length = .ok data := by
  by_cases hd : data.length = 0
  · rw [readBuffer, if_pos hd, List.eq_nil_of_length_eq_zero hd]
  · obtain ⟨r, hr, rfl⟩ := writeBuffer_ok hd h
    rw [readBuffer_of_region hd (by rw [bufferRegion_congr (store_space ..)]; exact hr)]
    simp [store, Store.read_write_same]

/-- A write does not change a buffer that lies in another range. -/
theorem readBuffer_writeBuffer_disjoint {m m' : GuestMemory} {address address' size : Nat}
    {data : List UInt8} (h : m.writeBuffer address data = .ok m')
    (hdis : address + data.length ≤ address' ∨ address' + size ≤ address) :
    m'.readBuffer address' size = m.readBuffer address' size := by
  by_cases hd : data.length = 0
  · rw [writeBuffer, if_pos hd] at h; cases h; rfl
  obtain ⟨r, hr, rfl⟩ := writeBuffer_ok hd h
  unfold readBuffer
  rw [bufferRegion_congr (store_space ..)]
  split
  · rfl
  split
  · rfl
  rename_i r' hr'
  obtain ⟨hm, hb, -⟩ := bufferRegion_ok hr
  obtain ⟨hm', hb', -⟩ := bufferRegion_ok hr'
  simp only [store]
  split
  · -- One region: its offsets are as far apart as the addresses.
    rename_i hid
    obtain rfl := AddressSpace.eq_of_id_eq hm' hm hid
    rw [Store.read_write_disjoint _ (by omega)]
  · rfl

end GuestMemory

end Vart
