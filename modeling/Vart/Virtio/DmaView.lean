import Vart.Core.Topology
import Vart.Virtio.Net

/-!
# DMA as memory

The DMA calls of a device go to guest memory through a region lookup and perhaps an IOMMU context.
`DmaView` says that they act like a memory of bytes on a set of addresses.

`directView` is the view of a function whose DMA addresses are guest addresses: its DMA address
space is the one of the machine, or a context that does not translate. Every address that lies in
at most one region belongs to it. A large access of an address where regions overlap may go to
another region than a small one, so such addresses are left out.

`ramMemory` is stronger: the DMA of a bus master to a RAM region that overlaps no other region does
not fail.
-/

namespace Vart

open Lib

/-- A view of the DMA calls of function `d`. What it shows depends on memory and the contexts
only. -/
structure DmaView (sink : Sink) (d : Nat) extends (virtioNetDma sink d).View where
  byte_congr : ∀ {s t : IommuSystem}, s.memory = t.memory → s.contexts = t.contexts →
    byte s = byte t

/-! ## Bytes by address -/

/-- The addresses that lie in at most one region. -/
def AddressSpace.plain (space : AddressSpace) : Set Nat :=
  {a | ∀ r ∈ space.regions, ∀ r' ∈ space.regions,
    r.contains a 1 = true → r'.contains a 1 = true → r = r'}

namespace GuestMemory

/-- The byte at an address. -/
def byte (m : GuestMemory) : Store := fun a =>
  match m.space.regions.find? (·.contains a 1) with
  | none => 0
  | some r => m.ram r.id (a - r.base)

theorem byte_of_contains {m : GuestMemory} {a : Nat} {r : AddressRegion} (ha : a ∈ m.space.plain)
    (hr : r ∈ m.space.regions) (hc : r.contains a 1 = true) : m.byte a = m.ram r.id (a - r.base) := by
  unfold byte
  split
  · rename_i hnone
    exact absurd hc (List.find?_eq_none.mp hnone r hr)
  · rename_i r' hsome
    have hc' : r'.contains a 1 = true := by simpa using List.find?_some hsome
    rw [ha r' (List.mem_of_find?_eq_some hsome) r hr hc' hc]

/-- An access that has a region lies in it. -/
theorem bufferRegion_mem {m : GuestMemory} {address size : Nat} {r : AddressRegion}
    (h : m.bufferRegion address size = .ok r) :
    r ∈ m.space.regions ∧ r.contains address size = true := by
  unfold bufferRegion at h
  split at h
  · cases h
  rename_i hfind
  split at h
  · cases h
  cases h
  exact AddressSpace.find_mem hfind

/-- A store to a region, seen from an address: it is in the written range or keeps its byte. -/
theorem byte_store {m : GuestMemory} {r : AddressRegion} {address : Nat} {data : List UInt8}
    (hr : r ∈ m.space.regions) (hc : r.contains address data.length = true) :
    Set.EqOn (m.store r.id (address - r.base) data).byte (m.byte.write address data)
      m.space.plain := by
  intro a ha
  obtain ⟨henabled, hle, hend⟩ := AddressRegion.contains_iff.mp hc
  by_cases hin : address ≤ a ∧ a < address + data.length
  · have hca : r.contains a 1 = true :=
      AddressRegion.contains_iff.mpr ⟨henabled, by omega, by omega⟩
    rw [byte_of_contains (m := m.store r.id (address - r.base) data) ha hr hca,
      Store.write_in _ hin.1 hin.2]
    simp only [store, if_true]
    rw [Store.write_in _ (by omega) (by omega)]
    congr 1
    omega
  · rw [Store.write_out _ (by omega)]
    simp only [byte, store_space]
    split
    · rfl
    rename_i r' hsome
    have hr' := List.mem_of_find?_eq_some hsome
    have hc' : r'.contains a 1 = true := by simpa using List.find?_some hsome
    obtain ⟨-, hle', -⟩ := AddressRegion.contains_iff.mp hc'
    simp only [store]
    split
    · rename_i hid
      obtain rfl := AddressSpace.eq_of_id_eq hr' hr hid
      exact Store.write_out _ (by omega)
    · rfl

theorem byte_writeBuffer {m m' : GuestMemory} {address : Nat} {data : List UInt8}
    (h : m.writeBuffer address data = .ok m') :
    Set.EqOn m'.byte (m.byte.write address data) m.space.plain := by
  by_cases hd : data.length = 0
  · rw [writeBuffer, if_pos hd] at h
    cases h
    intro a _
    rw [Store.write_out _ (by omega)]
  · obtain ⟨r, hr, rfl⟩ := writeBuffer_ok hd h
    obtain ⟨hmem, hc⟩ := bufferRegion_mem hr
    exact byte_store hmem hc

theorem byte_readBuffer {m : GuestMemory} {address size : Nat} {data : List UInt8}
    (h : m.readBuffer address size = .ok data)
    (hin : (Seg.mk address size).range ⊆ m.space.plain) : data = m.byte.read address size := by
  unfold readBuffer at h
  split at h
  · rename_i hsize
    cases h
    rw [hsize]
    rfl
  split at h
  · cases h
  rename_i r hr
  cases h
  obtain ⟨hmem, hc⟩ := bufferRegion_mem hr
  obtain ⟨henabled, hle, hend⟩ := AddressRegion.contains_iff.mp hc
  refine List.map_congr_left fun i hi => ?_
  rw [List.mem_range] at hi
  rw [byte_of_contains (hin (Seg.mem_range.mpr (by omega))) hmem
    (AddressRegion.contains_iff.mpr ⟨henabled, by omega, by omega⟩), Nat.sub_add_comm hle]

end GuestMemory

/-! ## DMA without translation -/

/-- The DMA addresses of function `d` are guest addresses. -/
def IommuSystem.DirectDma (s : IommuSystem) (d : Nat) : Prop :=
  (s.pci.devices d).parent.dmaAs = some .system ∨
    ∃ n, (s.pci.devices d).parent.dmaAs = some (.context n) ∧ (s.contexts n).mode.vaBits = none

theorem systemTranslate_direct {sink : Sink} {s t : IommuSystem} {device : Option Nat} {n : Nat}
    {address size translated : Nat} {write : Bool} (hmode : (s.contexts n).mode.vaBits = none)
    (h : systemTranslate sink s device n quiet address size write = (t, .ok translated)) :
    t = s ∧ translated = address := by
  -- A context that does not translate gives the address back, unless it fails.
  have hput : s.putTranslated n ⟨s.contexts n, s.memory, .ok address⟩ = s := by
    simp only [IommuSystem.putTranslated, IommuSystem.setContext, IommuSystem.setMemory,
      Function.update_eq_self, IommuSystem.memory]
  have hresult : iommuContextTranslate (s.contexts n) quiet s.memory address size write =
        ⟨s.contexts n, s.memory, .ok address⟩ ∨
      ∃ e, iommuContextTranslate (s.contexts n) quiet s.memory address size write =
        ⟨s.contexts n, s.memory, .error e⟩ := by
    unfold iommuContextTranslate
    simp only [hmode]
    repeat' split
    all_goals first | exact .inl rfl | exact .inr ⟨_, rfl⟩
  unfold systemTranslate at h
  rcases hresult with hok | ⟨e, herror⟩
  · simp only [hok, hput] at h
    cases h
    exact ⟨rfl, rfl⟩
  · simp only [herror] at h
    split at h <;> cases h

/-- A transfer that does not fail is an access of guest memory. -/
theorem pciDeviceDma_direct {sink : Sink} {s t : IommuSystem} {d address : Nat} {b : Buffer}
    {data : List UInt8} (hs : s.DirectDma d)
    (h : pciDeviceDma sink s d quiet address b = (t, .ok data)) :
    ∃ m, s.memory.bufferAccess address b = .ok (m, data) ∧ t = s.setMemory m := by
  unfold pciDeviceDma at h
  simp only at h
  split at h
  · cases h
  rcases hs with hsystem | ⟨n, hcontext, hmode⟩
  · simp only [hsystem] at h
    split at h
    · cases h
    rename_i m data' haccess
    cases h
    exact ⟨m, haccess, rfl⟩
  · simp only [hcontext] at h
    unfold systemBufferAccess at h
    split at h
    · rename_i hsize
      cases h
      refine ⟨s.memory, ?_, rfl⟩
      cases b with
      | read size =>
        obtain rfl : size = 0 := hsize
        rfl
      | write bs =>
        obtain rfl := List.eq_nil_of_length_eq_zero hsize
        rfl
    · split at h
      · cases h
      rename_i u translated htranslate
      obtain ⟨rfl, rfl⟩ := systemTranslate_direct hmode htranslate
      extract_lets m at h
      split at h
      · cases h
      rename_i m' data' haccess
      cases h
      exact ⟨m', haccess, rfl⟩

/-- The view of a function whose DMA is not translated, in a machine with the regions `space`. -/
def directView (sink : Sink) (d : Nat) (space : AddressSpace) : DmaView sink d where
  Inv s := s.memory.space = space ∧ s.DirectDma d
  dom := space.plain
  byte s := s.memory.byte
  read_ok := by
    rintro s t address size data ⟨hspace, hdirect⟩ h
    obtain ⟨m, haccess, rfl⟩ := pciDeviceDma_direct hdirect h
    simp only [GuestMemory.bufferAccess] at haccess
    split at haccess
    · cases haccess
    · cases haccess
      exact ⟨⟨hspace, hdirect⟩, Set.eqOn_refl _ _⟩
  write_ok := by
    rintro s t address data ⟨hspace, hdirect⟩ h
    have hresult : (pciDeviceDma sink s d quiet address (.write data)).2.map (fun _ => ()) = .ok () :=
      congrArg Prod.snd h
    obtain ⟨u, result, hu⟩ : ∃ u result,
        pciDeviceDma sink s d quiet address (.write data) = (u, result) := ⟨_, _, rfl⟩
    rw [hu] at hresult
    cases result with
    | error e => cases hresult
    | ok bs =>
      obtain ⟨m, haccess, rfl⟩ := pciDeviceDma_direct hdirect hu
      have ht : s.setMemory m = t := (congrArg Prod.fst hu).symm.trans (congrArg Prod.fst h)
      subst ht
      simp only [GuestMemory.bufferAccess] at haccess
      split at haccess
      · cases haccess
      rename_i m' hwrite
      cases haccess
      refine ⟨⟨(GuestMemory.writeBuffer_space hwrite).trans hspace, hdirect⟩, ?_⟩
      subst hspace
      exact GuestMemory.byte_writeBuffer hwrite
  byte_congr := fun hmemory _ => congrArg GuestMemory.byte hmemory

/-- The reads of such a function return the bytes of memory. -/
def directDataView (sink : Sink) (d : Nat) (space : AddressSpace) :
    (virtioNetDma sink d).DataView where
  toView := (directView sink d space).toView
  read_bytes := by
    rintro s t address size data ⟨rfl, hdirect⟩ h hin
    obtain ⟨m, haccess, rfl⟩ := pciDeviceDma_direct hdirect h
    simp only [GuestMemory.bufferAccess] at haccess
    split at haccess
    · cases haccess
    · rename_i hread
      cases haccess
      exact GuestMemory.byte_readBuffer hread hin

/-! ## DMA to a RAM region -/

/-- The region is enabled RAM, and no other region has one of its addresses. -/
structure AddressSpace.OwnRam (space : AddressSpace) (r : AddressRegion) : Prop where
  mem : r ∈ space.regions
  enabled : r.enabled = true
  ram : r.type = .ram ∧ r.ramAddr = true
  alone : ∀ r' ∈ space.regions, r' ≠ r → r'.Apart r

/-- The addresses of a region. -/
def AddressRegion.seg (r : AddressRegion) : Seg := ⟨r.base, r.size⟩

theorem AddressSpace.OwnRam.find {space : AddressSpace} {r : AddressRegion} (h : space.OwnRam r)
    {address size : Nat} (hsize : 0 < size) (hin : (Seg.mk address size).range ⊆ r.seg.range) :
    space.find address size = some r := by
  have hfirst : address ∈ r.seg.range := hin (Seg.mem_range.mpr (by omega))
  have hlast : address + (size - 1) ∈ r.seg.range := hin (Seg.mem_range.mpr (by omega))
  rw [AddressRegion.seg, Seg.mem_range] at hfirst hlast
  have hcovers : r.Covers address size := ⟨h.enabled, hfirst.1, by omega⟩
  rw [AddressSpace.find, AddressSpace.foldl_better_eq_argmax, List.argmax_eq_some_iff]
  -- Another region that covers the access would not be apart from `r`.
  have hunique : ∀ r' ∈ space.regions.filter (·.contains address size), r' = r := by
    intro r' hr'
    obtain ⟨hmem, hc⟩ := List.mem_filter.mp hr'
    by_contra hne
    exact (AddressRegion.contains_iff_covers.mp hc).not_apart hsize hcovers (h.alone r' hmem hne)
  refine ⟨List.mem_filter.mpr ⟨h.mem, AddressRegion.contains_iff_covers.mpr hcovers⟩, ?_, ?_⟩
  · intro r' hr'
    rw [hunique r' hr']
  · intro r' hr' _
    rw [hunique r' hr']

theorem AddressSpace.OwnRam.bufferRegion {m : GuestMemory} {r : AddressRegion}
    (h : m.space.OwnRam r) {address size : Nat} (hsize : 0 < size)
    (hin : (Seg.mk address size).range ⊆ r.seg.range) : m.bufferRegion address size = .ok r := by
  unfold GuestMemory.bufferRegion
  rw [h.find hsize hin]
  simp [h.ram.1, h.ram.2]

/-- The byte of the region at an address. -/
def GuestMemory.regionByte (m : GuestMemory) (r : AddressRegion) : Store :=
  fun a => m.ram r.id (a - r.base)

theorem GuestMemory.regionByte_read (m : GuestMemory) (r : AddressRegion) {address size : Nat}
    (h : r.base ≤ address) :
    (m.regionByte r).read address size = (m.ram r.id).read (address - r.base) size := by
  refine List.map_congr_left fun i _ => ?_
  show m.ram r.id (address + i - r.base) = _
  rw [Nat.sub_add_comm h]

theorem GuestMemory.regionByte_store (m : GuestMemory) (r : AddressRegion) {address : Nat}
    {data : List UInt8} (h : r.base ≤ address) :
    Set.EqOn ((m.store r.id (address - r.base) data).regionByte r)
      ((m.regionByte r).write address data) r.seg.range := by
  intro a ha
  have hle : r.base ≤ a := ha.1
  simp only [regionByte, store, if_true, Store.write]
  by_cases hin : address ≤ a ∧ a < address + data.length
  · rw [if_pos (by omega), if_pos hin]
    congr 1
    omega
  · rw [if_neg (by omega), if_neg hin]

/-- The function is a bus master on untranslated addresses, in a machine with the regions
`space`. -/
structure IommuSystem.Masters (s : IommuSystem) (d : Nat) (space : AddressSpace) : Prop where
  space : s.memory.space = space
  dmaAs : (s.pci.devices d).parent.dmaAs = some .system
  attached : (s.pci.devices d).pciBus ≠ none
  busMaster : (s.pci.devices d).busMasterEnabled = true

theorem IommuSystem.Masters.dma {s : IommuSystem} {d : Nat} {space : AddressSpace}
    (h : s.Masters d space) (sink : Sink) {address : Nat} {b : Buffer} {m : GuestMemory}
    {data : List UInt8} (hb : s.memory.bufferAccess address b = .ok (m, data)) :
    pciDeviceDma sink s d quiet address b = (s.setMemory m, .ok data) := by
  unfold pciDeviceDma
  simp only [h.dmaAs, h.attached, h.busMaster, Bool.true_eq_false, or_self, if_false, hb]

/-- DMA of a bus master to a RAM region, with a list of its writes. -/
def ramMemory (sink : Sink) (d : Nat) {space : AddressSpace} {r : AddressRegion}
    (hr : space.OwnRam r) : (virtioNetDma sink d).logged.Memory where
  Inv s := s.1.Masters d space
  dom := r.seg.range
  byte s := s.1.memory.regionByte r
  writes s := s.2
  read := by
    intro s a n hs hin
    have hread : s.1.memory.bufferAccess a (.read n) =
        .ok (s.1.memory, (s.1.memory.regionByte r).read a n) := by
      by_cases hn : n = 0
      · subst hn
        rfl
      · have hregion : s.1.memory.bufferRegion a n = .ok r :=
          AddressSpace.OwnRam.bufferRegion (hs.space ▸ hr) (Nat.pos_of_ne_zero hn) hin
        have hle : r.base ≤ a := (hin (Seg.mem_range.mpr (by omega))).1
        simp only [GuestMemory.bufferAccess, GuestMemory.readBuffer, if_neg hn, hregion,
          GuestMemory.regionByte_read _ _ hle]
    refine ⟨(s.1.setMemory s.1.memory, s.2), ?_, hs, Set.eqOn_refl _ _, rfl⟩
    simp only [Port.logged, virtioNetDma, hs.dma sink hread]
  write := by
    intro s a bs hs hin
    obtain ⟨m, hwrite, hspace, hbyte⟩ : ∃ m, s.1.memory.bufferAccess a (.write bs) = .ok (m, []) ∧
        m.space = s.1.memory.space ∧
        Set.EqOn (m.regionByte r) ((s.1.memory.regionByte r).write a bs) r.seg.range := by
      by_cases hn : bs.length = 0
      · refine ⟨s.1.memory, ?_, rfl, fun x _ => (Store.write_out _ (by omega)).symm⟩
        simp only [GuestMemory.bufferAccess, GuestMemory.writeBuffer, if_pos hn]
      · have hregion : s.1.memory.bufferRegion a bs.length = .ok r :=
          AddressSpace.OwnRam.bufferRegion (hs.space ▸ hr) (Nat.pos_of_ne_zero hn) hin
        have hle : r.base ≤ a := (hin (Seg.mem_range.mpr (by omega))).1
        refine ⟨s.1.memory.store r.id (a - r.base) bs, ?_, rfl,
          GuestMemory.regionByte_store _ _ hle⟩
        simp only [GuestMemory.bufferAccess, GuestMemory.writeBuffer, if_neg hn, hregion]
    refine ⟨(s.1.setMemory m, s.2 ++ [⟨a, bs⟩]), ?_,
      ⟨hspace.trans hs.space, hs.dmaAs, hs.attached, hs.busMaster⟩, hbyte, rfl⟩
    simp only [Port.logged, virtioNetDma, hs.dma sink hwrite, Except.map]

/-- Function `1` is a bus master in a machine with the given memory. -/
def busMaster (memory : GuestMemory) : IommuSystem :=
  runFrom (iommuStep fun _ => .ok ()) (iommuAtReset memory)
    [.pci (.deviceInit 1 0x1af4 0x1041 0 0 0 2), .pci (.setDmaAs 1 (some .system)),
      .pci (.addDevice 0 1 8), .pci (.realize 1), .pci (.ecamWrite (8 <<< 12 ||| 4) .half 4)]

/-- A queue of eight entries in the RAM of the guest. -/
theorem queueLayout_eight : QueueLayout 8 0x80000600 0x80000700 0x80000800 := by
  constructor <;> decide

end Vart
