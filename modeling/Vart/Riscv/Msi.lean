import Mathlib.Data.List.Pairwise
import Vart.Lib.Reach
import Vart.Riscv.Machine

/-!
# MSI remapping of the RISC-V IOMMU

The IOMMU has a table of up to 64 IOVA ranges with a target range each. `iommuRemapMsi` sends an
MSI address through the first range that has it; an address that no range has goes through the
context of the device.

`riscvIommuMapMsi` looks for an overlap with the sums `iova + size` in 64 bits. A range may end at
`2^64`, where the sum is zero, and then the overlap is not seen.

* `msiOverlap_iff`: the overlaps that the test sees.
* `MsiOp.Unseen`: a call that adds a range over one that is there.
* `msiStep_disjoint_iff`: the ranges stay disjoint exactly at the calls that are not of this kind.
* `MsiTable.Disjoint.lookup_perm`: in disjoint ranges the order does not matter.
-/

namespace Vart

open Lib

/-! ## The table -/

/-- `VART_RISCV_IOMMU_MAX_MSI_MAPPINGS`. -/
abbrev maxMsiMappings : Nat := 64

/-- `VART_IOMMU_PAGE_SIZE - 1`. -/
abbrev msiPageMask : UInt64 := 0xfff

/-- The arguments that `vart_riscv_iommu_map_msi` refuses. -/
def MsiInvalid (iova target size : UInt64) : Prop :=
  size < 4 ∨ size &&& msiPageMask ≠ 0 ∨ iova &&& msiPageMask ≠ 0 ∨ target &&& msiPageMask ≠ 0 ∨
    iova > 0xffffffffffffffff - (size - 1) ∨ target > 0xffffffffffffffff - (size - 1)

instance MsiInvalid.decidable (iova target size : UInt64) :
    Decidable (MsiInvalid iova target size) := by
  unfold MsiInvalid
  infer_instance

/-- `VartRiscvIommuMsiMapping`. -/
structure MsiMapping where
  iova : UInt64
  target : UInt64
  size : UInt64
  valid : ¬ MsiInvalid iova target size
deriving DecidableEq

/-- The MSI fields of `VartRiscvIommu`. -/
structure MsiTable where
  /-- `msi_remapping_enabled`. -/
  enabled : Bool
  mappings : List MsiMapping
  length_le : mappings.length ≤ maxMsiMappings
deriving DecidableEq

namespace MsiTable

/-- The table of a new IOMMU. -/
def empty : MsiTable := ⟨false, [], Nat.zero_le _⟩

/-- The mapping at `index` becomes `m`. -/
def replace (t : MsiTable) (index : Nat) (m : MsiMapping) : MsiTable where
  enabled := t.enabled
  mappings := t.mappings.set index m
  length_le := by rw [List.length_set]; exact t.length_le

/-- A new mapping at the end. -/
def append (t : MsiTable) (m : MsiMapping) (h : t.mappings.length < maxMsiMappings) :
    MsiTable where
  enabled := t.enabled
  mappings := t.mappings ++ [m]
  length_le := by rw [List.length_append]; exact h

theorem length_swapRemove_le (t : MsiTable) (index : Nat) :
    (swapRemove t.mappings index).length ≤ maxMsiMappings := by
  have := t.length_le
  unfold swapRemove
  split
  · exact Nat.zero_le _
  · rw [List.length_set, List.length_dropLast]
    omega

/-- The mapping at `index` is dropped and the last one moves there. -/
def remove (t : MsiTable) (index : Nat) : MsiTable where
  enabled := t.enabled
  mappings := swapRemove t.mappings index
  length_le := t.length_swapRemove_le index

end MsiTable

/-! ## Calls -/

/-- `vart_riscv_iommu_set_msi_remapping`. -/
def riscvIommuSetMsiRemapping (t : MsiTable) (enabled : Bool) : MsiTable := { t with enabled }

/-- The overlap test of `vart_riscv_iommu_map_msi`, with 64-bit sums. -/
def msiOverlap (iova size : UInt64) (m : MsiMapping) : Bool :=
  decide (iova < m.iova + m.size) && decide (m.iova < iova + size)

/-- `vart_riscv_iommu_map_msi`. The first mapping that overlaps decides. -/
def riscvIommuMapMsi (t : MsiTable) (iova target size : UInt64) : MsiTable × Status :=
  if h : MsiInvalid iova target size then (t, .error .einval)
  else
    let index := t.mappings.findIdx (msiOverlap iova size)
    match t.mappings[index]? with
    | some m =>
      if m.iova = iova ∧ m.size = size then (t.replace index ⟨iova, target, size, h⟩, .ok ())
      else (t, .error .eexist)
    | none =>
      if hlen : t.mappings.length ≥ maxMsiMappings then (t, .error .enospc)
      else (t.append ⟨iova, target, size, h⟩ (by omega), .ok ())

/-- `vart_riscv_iommu_unmap_msi`. -/
def riscvIommuUnmapMsi (t : MsiTable) (iova size : UInt64) : MsiTable × Status :=
  if size = 0 then (t, .error .einval)
  else
    let index := t.mappings.findIdx fun m => m.iova == iova && m.size == size
    match t.mappings[index]? with
    | some _ => (t.remove index, .ok ())
    | none => (t, .error .enoent)

/-- The mapping has the four bytes at `address`. -/
def MsiMapping.holds (m : MsiMapping) (address : UInt64) : Bool :=
  decide (address ≥ m.iova) && decide (address - m.iova ≤ m.size - 4)

/-- The address that the table gives, from the first mapping that has `address`. -/
def MsiTable.lookup (t : MsiTable) (address : UInt64) : Option UInt64 :=
  (t.mappings.find? (·.holds address)).map fun m => m.target + (address - m.iova)

/-- `iommu_remap_msi` for a message of `device`. -/
def iommuRemapMsi (sink : Sink) (s : IommuSystem) (t : MsiTable) (env : Interference)
    (device : Nat) (address : UInt64) : IommuSystem × Except Errno Nat :=
  if t.enabled = false then (s, .ok address.toNat)
  else match t.lookup address with
  | some remapped => (s, .ok remapped.toNat)
  | none =>
    match s.iommu.bindings.list.find? (·.device == device) with
    | none => (s, .error .eacces)
    | some b =>
      let c := s.contexts b.context
      if c.mode ≠ .sv39 ∧ c.mode ≠ .sv39x4 then (s, .error .eacces)
      else match systemTranslate sink s c.attachedDevice b.context env address.toNat 4 true with
      | (s, .error _) => (s, .error .eacces)
      | (s, .ok translated) => (s, .ok translated)

/-- A call that changes the table. -/
inductive MsiOp where
  | setRemapping (enabled : Bool)
  | map (iova target size : UInt64)
  | unmap (iova size : UInt64)
deriving DecidableEq

def msiStep (t : MsiTable) : MsiOp → MsiTable
  | .setRemapping enabled => riscvIommuSetMsiRemapping t enabled
  | .map iova target size => (riscvIommuMapMsi t iova target size).1
  | .unmap iova size => (riscvIommuUnmapMsi t iova size).1

/-! ## Ranges -/

/-- The range of the mapping and the `size` bytes at `iova` have an address in common. -/
def MsiMapping.Meets (m : MsiMapping) (iova size : UInt64) : Prop :=
  iova.toNat < m.iova.toNat + m.size.toNat ∧ m.iova.toNat < iova.toNat + size.toNat

instance MsiMapping.Meets.decidable (m : MsiMapping) (iova size : UInt64) :
    Decidable (m.Meets iova size) :=
  inferInstanceAs (Decidable (_ ∧ _))

/-- The `size` bytes at `iova` end where the 64-bit addresses end. -/
def EndsAtTop (iova size : UInt64) : Prop := iova.toNat + size.toNat = 2 ^ 64

instance EndsAtTop.decidable (iova size : UInt64) : Decidable (EndsAtTop iova size) :=
  inferInstanceAs (Decidable (_ = _))

/-- No two mappings have an address in common. -/
def MsiTable.Disjoint (t : MsiTable) : Prop :=
  t.mappings.Pairwise fun m m' => ¬ m.Meets m'.iova m'.size

instance MsiTable.Disjoint.decidable (t : MsiTable) : Decidable t.Disjoint :=
  inferInstanceAs (Decidable (t.mappings.Pairwise _))

theorem toNat_of_not_msiInvalid {iova target size : UInt64} (h : ¬ MsiInvalid iova target size) :
    4 ≤ size.toNat ∧ iova.toNat + size.toNat ≤ 2 ^ 64 := by
  simp only [MsiInvalid, not_or, gt_iff_lt, UInt64.lt_iff_toNat_lt, UInt64.reduceToNat] at h
  obtain ⟨hsize, -, -, -, hiova, -⟩ := h
  have hlt := size.toNat_lt
  have hsub : (size - 1).toNat = size.toNat - 1 :=
    UInt64.toNat_sub_of_le _ _ (UInt64.le_iff_toNat_le.mpr (by
      simp only [UInt64.reduceToNat]
      omega))
  have htop : (0xffffffffffffffff - (size - 1) : UInt64).toNat = 2 ^ 64 - 1 - (size - 1).toNat :=
    UInt64.toNat_sub_of_le _ _ (UInt64.le_iff_toNat_le.mpr (by
      have := (size - 1).toNat_lt
      simp only [UInt64.reduceToNat]
      omega))
  omega

theorem MsiMapping.four_le (m : MsiMapping) : 4 ≤ m.size.toNat :=
  (toNat_of_not_msiInvalid m.valid).1

theorem MsiMapping.end_le (m : MsiMapping) : m.iova.toNat + m.size.toNat ≤ 2 ^ 64 :=
  (toNat_of_not_msiInvalid m.valid).2

theorem MsiMapping.meets_comm {m m' : MsiMapping} :
    m.Meets m'.iova m'.size ↔ m'.Meets m.iova m.size :=
  And.comm

theorem MsiMapping.meets_self (m : MsiMapping) : m.Meets m.iova m.size := by
  have := m.four_le
  exact ⟨by omega, by omega⟩

theorem lt_end_iff (a : UInt64) {iova size : UInt64} (h : iova.toNat + size.toNat ≤ 2 ^ 64) :
    a < iova + size ↔ a.toNat < iova.toNat + size.toNat ∧ ¬ EndsAtTop iova size := by
  rw [UInt64.lt_iff_toNat_lt, UInt64.toNat_add, EndsAtTop]
  obtain htop | hlt := Nat.eq_or_lt_of_le h
  · rw [htop, Nat.mod_self]
    simp
  · rw [Nat.mod_eq_of_lt hlt]
    simp only [hlt.ne, not_false_eq_true, and_true]

/-- The test sees the overlaps of two ranges that end below `2^64`, and only these. -/
theorem msiOverlap_iff {iova target size : UInt64} (h : ¬ MsiInvalid iova target size)
    (m : MsiMapping) : msiOverlap iova size m = true ↔
      m.Meets iova size ∧ ¬ EndsAtTop iova size ∧ ¬ EndsAtTop m.iova m.size := by
  simp only [msiOverlap, Bool.and_eq_true, decide_eq_true_eq, lt_end_iff _ m.end_le,
    lt_end_iff _ (toNat_of_not_msiInvalid h).2, MsiMapping.Meets]
  tauto

/-! ## One call -/

/-- A call that adds a range over mappings that the overlap test does not see. -/
def MsiOp.Unseen (t : MsiTable) : MsiOp → Prop
  | .map iova target size =>
    ¬ MsiInvalid iova target size ∧ t.mappings.length < maxMsiMappings ∧
    (∃ m ∈ t.mappings, m.Meets iova size) ∧
    ∀ m ∈ t.mappings, m.Meets iova size → EndsAtTop iova size ∨ EndsAtTop m.iova m.size
  | _ => False

instance MsiOp.Unseen.decidable (t : MsiTable) : (op : MsiOp) → Decidable (op.Unseen t)
  | .setRemapping _ => .isFalse id
  | .map _ _ _ => inferInstanceAs (Decidable (_ ∧ _ ∧ _ ∧ _))
  | .unmap _ _ => .isFalse id

theorem riscvIommuMapMsi_append {t : MsiTable} {iova target size : UInt64}
    (h : ¬ MsiInvalid iova target size) (hlen : t.mappings.length < maxMsiMappings)
    (hnone : ∀ m ∈ t.mappings, msiOverlap iova size m = false) :
    riscvIommuMapMsi t iova target size = (t.append ⟨iova, target, size, h⟩ hlen, .ok ()) := by
  have hidx : t.mappings[t.mappings.findIdx (msiOverlap iova size)]? = none := by
    rw [List.getElem?_eq_none_iff, List.findIdx_eq_length_of_false hnone]
  rw [riscvIommuMapMsi, dif_neg h]
  simp only [hidx]
  rw [dif_neg (by omega)]

/-- What a map call does: nothing, a new target for a mapping of the same range, or a new
mapping that overlaps with none as far as the test sees. -/
theorem riscvIommuMapMsi_cases (t : MsiTable) (iova target size : UInt64) :
    (∃ e, riscvIommuMapMsi t iova target size = (t, .error e)) ∨
    (∃ h index m, t.mappings[index]? = some m ∧ msiOverlap iova size m = true ∧
      m.iova = iova ∧ m.size = size ∧
      riscvIommuMapMsi t iova target size =
        (t.replace index ⟨iova, target, size, h⟩, .ok ())) ∨
    (∃ h hlen, (∀ m ∈ t.mappings, msiOverlap iova size m = false) ∧
      riscvIommuMapMsi t iova target size =
        (t.append ⟨iova, target, size, h⟩ hlen, .ok ())) := by
  by_cases h : MsiInvalid iova target size
  · exact .inl ⟨.einval, dif_pos h⟩
  cases hidx : t.mappings[t.mappings.findIdx (msiOverlap iova size)]? with
  | some m =>
    by_cases hsame : m.iova = iova ∧ m.size = size
    · obtain ⟨hlt, hget⟩ := List.getElem?_eq_some_iff.mp hidx
      have hfound := List.findIdx_getElem (w := hlt)
      rw [hget] at hfound
      refine .inr (.inl ⟨h, _, m, hidx, hfound, hsame.1, hsame.2, ?_⟩)
      simp only [riscvIommuMapMsi, dif_neg h, hidx, if_pos hsame]
    · refine .inl ⟨.eexist, ?_⟩
      simp only [riscvIommuMapMsi, dif_neg h, hidx, if_neg hsame]
  | none =>
    have hnone : ∀ m ∈ t.mappings, msiOverlap iova size m = false := by
      rw [List.getElem?_eq_none_iff] at hidx
      exact List.findIdx_eq_length.mp (Nat.le_antisymm List.findIdx_le_length hidx)
    by_cases hlen : t.mappings.length < maxMsiMappings
    · exact .inr (.inr ⟨h, hlen, hnone, riscvIommuMapMsi_append h hlen hnone⟩)
    · refine .inl ⟨.enospc, ?_⟩
      simp only [riscvIommuMapMsi, dif_neg h, hidx]
      rw [dif_pos (by omega)]

/-- A successful unmap call takes one mapping of this range away. -/
theorem riscvIommuUnmapMsi_cases (t : MsiTable) (iova size : UInt64) :
    (∃ e, riscvIommuUnmapMsi t iova size = (t, .error e)) ∨
    ∃ t' m, riscvIommuUnmapMsi t iova size = (t', .ok ()) ∧ m.iova = iova ∧ m.size = size ∧
      t.mappings.Perm (m :: t'.mappings) := by
  by_cases hsize : size = 0
  · exact .inl ⟨.einval, if_pos hsize⟩
  cases hidx : t.mappings[t.mappings.findIdx fun m => m.iova == iova && m.size == size]? with
  | none => exact .inl ⟨.enoent, by simp only [riscvIommuUnmapMsi, if_neg hsize, hidx]⟩
  | some m =>
    refine .inr ⟨_, m, by simp only [riscvIommuUnmapMsi, if_neg hsize, hidx]; rfl, ?_⟩
    obtain ⟨hlt, hget⟩ := List.getElem?_eq_some_iff.mp hidx
    have hfound := List.findIdx_getElem (w := hlt)
    rw [hget, Bool.and_eq_true, beq_iff_eq, beq_iff_eq] at hfound
    exact ⟨hfound.1, hfound.2, perm_swapRemove hidx⟩

/-- A new target keeps the ranges. -/
theorem MsiTable.disjoint_replace {t : MsiTable} {index : Nat} {m new : MsiMapping}
    (hm : t.mappings[index]? = some m) (hi : m.iova = new.iova) (hs : m.size = new.size) :
    (t.replace index new).Disjoint ↔ t.Disjoint := by
  have hranges : (t.mappings.set index new).map (fun x => (x.iova, x.size)) =
      t.mappings.map (fun x => (x.iova, x.size)) := by
    refine List.ext_getElem? fun i => ?_
    rw [List.getElem?_map, List.getElem?_map, List.getElem?_set]
    split
    · subst i
      obtain ⟨hlt, -⟩ := List.getElem?_eq_some_iff.mp hm
      rw [if_pos hlt, hm, Option.map_some, Option.map_some, hi, hs]
    · rfl
  let Apart (r r' : UInt64 × UInt64) : Prop :=
    ¬ (r'.1.toNat < r.1.toNat + r.2.toNat ∧ r.1.toNat < r'.1.toNat + r'.2.toNat)
  have hmap (l : List MsiMapping) : l.Pairwise (fun x y => ¬ x.Meets y.iova y.size) ↔
      (l.map fun x => (x.iova, x.size)).Pairwise Apart := by
    rw [List.pairwise_map]
    rfl
  exact (hmap _).trans (hranges ▸ (hmap _).symm)

theorem MsiTable.disjoint_append {t : MsiTable} {m : MsiMapping}
    {hlen : t.mappings.length < maxMsiMappings} :
    (t.append m hlen).Disjoint ↔ t.Disjoint ∧ ∀ x ∈ t.mappings, ¬ x.Meets m.iova m.size := by
  rw [MsiTable.Disjoint, MsiTable.append, List.pairwise_append]
  simp [MsiTable.Disjoint]

instance MsiMapping.apart_symm :
    Std.Symm fun m m' : MsiMapping => ¬ m.Meets m'.iova m'.size where
  symm _ _ h h' := h (MsiMapping.meets_comm.mp h')

/-- Two mappings of a disjoint table that meet are one. -/
theorem MsiTable.Disjoint.eq_of_meets {t : MsiTable} (ht : t.Disjoint) {m m' : MsiMapping}
    (hm : m ∈ t.mappings) (hm' : m' ∈ t.mappings) (h : m.Meets m'.iova m'.size) : m = m' := by
  by_contra hne
  exact List.Pairwise.forall ht hm hm' hne h

/-- The mappings stay disjoint exactly if the call does not add a range over one that it does
not see. -/
theorem msiStep_disjoint_iff {t : MsiTable} (ht : t.Disjoint) (op : MsiOp) :
    (msiStep t op).Disjoint ↔ ¬ op.Unseen t := by
  cases op with
  | setRemapping enabled => exact iff_of_true ht id
  | unmap iova size =>
    refine iff_of_true ?_ id
    show (riscvIommuUnmapMsi t iova size).1.Disjoint
    obtain ⟨e, heq⟩ | ⟨t', m, heq, -, -, hperm⟩ := riscvIommuUnmapMsi_cases t iova size
    · rw [heq]
      exact ht
    · rw [heq]
      exact (hperm.pairwise ht fun h h' => h (MsiMapping.meets_comm.mp h')).of_cons
  | map iova target size =>
    show (riscvIommuMapMsi t iova target size).1.Disjoint ↔ _
    -- A call that does not see the mapping it meets appends.
    have hunseen : MsiOp.Unseen t (.map iova target size) →
        ¬ (riscvIommuMapMsi t iova target size).1.Disjoint := by
      rintro ⟨hvalid, hlen, ⟨m, hm, hmeets⟩, htop⟩ hdis
      have hnone : ∀ x ∈ t.mappings, msiOverlap iova size x = false := fun x hx => by
        rw [Bool.eq_false_iff, Ne, msiOverlap_iff hvalid]
        rintro ⟨hx', h1, h2⟩
        exact (htop x hx hx').elim h1 h2
      rw [riscvIommuMapMsi_append hvalid hlen hnone, MsiTable.disjoint_append] at hdis
      exact hdis.2 m hm hmeets
    refine ⟨fun hdis hop => hunseen hop hdis, fun hop => ?_⟩
    obtain ⟨e, heq⟩ | ⟨hvalid, index, m, hm, -, hi, hs, heq⟩ | ⟨hvalid, hlen, hnone, heq⟩ :=
      riscvIommuMapMsi_cases t iova target size
    · rw [heq]
      exact ht
    · rw [heq, MsiTable.disjoint_replace hm hi hs]
      exact ht
    · rw [heq, MsiTable.disjoint_append]
      refine ⟨ht, fun x hx hmeets => hop ⟨hvalid, hlen, ⟨x, hx, hmeets⟩, fun y hy hy' => ?_⟩⟩
      by_contra hno
      rw [not_or] at hno
      have := (msiOverlap_iff hvalid y).mpr ⟨hy', hno⟩
      rw [hnone y hy] at this
      cases this

/-! ## Lookups in disjoint ranges -/

theorem MsiMapping.holds_iff (m : MsiMapping) (address : UInt64) : m.holds address = true ↔
    m.iova.toNat ≤ address.toNat ∧ address.toNat + 4 ≤ m.iova.toNat + m.size.toNat := by
  have hfour := m.four_le
  have hsize : (m.size - 4).toNat = m.size.toNat - 4 :=
    UInt64.toNat_sub_of_le _ _ (UInt64.le_iff_toNat_le.mpr hfour)
  simp only [holds, Bool.and_eq_true, decide_eq_true_eq, ge_iff_le, UInt64.le_iff_toNat_le]
  constructor
  · rintro ⟨hle, hlast⟩
    rw [hsize, UInt64.toNat_sub_of_le _ _ (UInt64.le_iff_toNat_le.mpr hle)] at hlast
    omega
  · rintro ⟨hle, hlast⟩
    rw [hsize, UInt64.toNat_sub_of_le _ _ (UInt64.le_iff_toNat_le.mpr hle)]
    omega

/-- At most one of disjoint mappings has an address. -/
theorem MsiTable.Disjoint.unique {t : MsiTable} (ht : t.Disjoint) (address : UInt64) :
    ∀ m ∈ t.mappings, ∀ m' ∈ t.mappings, m.holds address = true → m'.holds address = true →
      m = m' := by
  intro m hm m' hm' h h'
  rw [MsiMapping.holds_iff] at h h'
  exact ht.eq_of_meets hm hm' ⟨by omega, by omega⟩

theorem MsiTable.Disjoint.lookup_perm {t t' : MsiTable} (ht : t.Disjoint)
    (hperm : t.mappings.Perm t'.mappings) (address : UInt64) :
    t'.lookup address = t.lookup address := by
  rw [lookup, lookup, find?_perm hperm (ht.unique address)]

theorem MsiTable.Disjoint.nodup {t : MsiTable} (ht : t.Disjoint) : t.mappings.Nodup :=
  ht.imp fun {m m'} h (heq : m = m') => h (heq ▸ m.meets_self)

theorem set_eq_map_of_nodup {l : List MsiMapping} (hl : l.Nodup) {index : Nat}
    {m new : MsiMapping} (hm : l[index]? = some m) :
    l.set index new = l.map fun x => if x = m then new else x := by
  obtain ⟨hlt, hget⟩ := List.getElem?_eq_some_iff.mp hm
  refine List.ext_getElem (by simp) fun i h1 h2 => ?_
  have hi : i < l.length := by simpa using h1
  have hiff : index = i ↔ l[i] = m := by
    rw [← hget, hl.getElem_inj_iff, eq_comm]
  rw [List.getElem_set, List.getElem_map]
  simp only [hiff]

/-- The table maps `m` to `target` and is otherwise as before. -/
def MsiTable.Retargeted (t t' : MsiTable) (m : MsiMapping) (target : UInt64) : Prop :=
  ∃ h, t'.enabled = t.enabled ∧
    t'.mappings = t.mappings.map fun x => if x = m then ⟨m.iova, target, m.size, h⟩ else x

/-- A second map call for a range replaces the target, unless the range ends at `2^64`. -/
theorem riscvIommuMapMsi_retargeted_iff {t : MsiTable} (ht : t.Disjoint) {m : MsiMapping}
    (hm : m ∈ t.mappings) {target : UInt64} (hvalid : ¬ MsiInvalid m.iova target m.size) :
    (∃ t', riscvIommuMapMsi t m.iova target m.size = (t', .ok ()) ∧ t.Retargeted t' m target) ↔
      ¬ EndsAtTop m.iova m.size := by
  constructor
  · rintro ⟨t', hok, _, _, hmap⟩ htop
    obtain ⟨e, heq⟩ | ⟨_, _, x, _, hover, _⟩ | ⟨h, hlen, _, heq⟩ :=
      riscvIommuMapMsi_cases t m.iova target m.size
    · rw [heq] at hok
      cases hok
    · exact ((msiOverlap_iff hvalid x).mp hover).2.1 htop
    · rw [heq] at hok
      cases hok
      have hlength := congrArg List.length hmap
      simp [MsiTable.append] at hlength
  · intro hlow
    -- The first mapping that the test sees meets `m`, so it is `m`.
    have hsees := (msiOverlap_iff hvalid m).mpr ⟨m.meets_self, hlow, hlow⟩
    have hlt := List.findIdx_lt_length_of_exists ⟨m, hm, hsees⟩
    have hx := (msiOverlap_iff hvalid _).mp (List.findIdx_getElem (w := hlt))
    have hidx : t.mappings[t.mappings.findIdx (msiOverlap m.iova m.size)]? = some m := by
      rw [List.getElem?_eq_getElem hlt, ht.eq_of_meets (List.getElem_mem hlt) hm hx.1]
    refine ⟨t.replace _ ⟨m.iova, target, m.size, hvalid⟩, ?_, hvalid, rfl,
      set_eq_map_of_nodup ht.nodup hidx⟩
    simp only [riscvIommuMapMsi, dif_neg hvalid, hidx, and_self, if_true]

/-- After a successful unmap call the table says nothing about the addresses of the range. -/
theorem riscvIommuUnmapMsi_lookup {t t' : MsiTable} (ht : t.Disjoint) {iova size : UInt64}
    (hok : riscvIommuUnmapMsi t iova size = (t', .ok ())) {address : UInt64}
    (hle : iova.toNat ≤ address.toNat) (hlt : address.toNat < iova.toNat + size.toNat) :
    t'.lookup address = none := by
  obtain ⟨e, heq⟩ | ⟨t'', m, heq, hi, hs, hperm⟩ := riscvIommuUnmapMsi_cases t iova size
  · rw [heq] at hok
    cases hok
  · rw [heq] at hok
    cases hok
    have hapart := hperm.pairwise ht fun h h' => h (MsiMapping.meets_comm.mp h')
    rw [MsiTable.lookup, Option.map_eq_none_iff, List.find?_eq_none]
    intro x hx hholds
    rw [MsiMapping.holds_iff] at hholds
    refine (List.pairwise_cons.mp hapart).1 x hx ⟨?_, ?_⟩
    · rw [hi, hs]
      omega
    · rw [hi]
      omega

/-! ## Runs -/

/-- The table of an IOMMU that no call has filled over a range it did not see is a partial
function: its ranges are disjoint, its order does not matter, a second map call for a range
replaces the target and an unmap call ends the remapping. The ranges stay disjoint exactly until
a call adds a range over one that it does not see, and the target is replaced exactly if the
range does not end at `2^64`. -/
theorem msi_table_functional_iff {t : MsiTable}
    (h : Reach msiStep (· = .empty) (fun t op => ¬ op.Unseen t) t) :
    t.Disjoint ∧
    (∀ op, (msiStep t op).Disjoint ↔ ¬ op.Unseen t) ∧
    (∀ t' : MsiTable, t'.enabled = t.enabled → t.mappings.Perm t'.mappings →
      ∀ sink s env device address, iommuRemapMsi sink s t' env device address =
        iommuRemapMsi sink s t env device address) ∧
    (∀ m ∈ t.mappings, ∀ target, ¬ MsiInvalid m.iova target m.size →
      ((∃ t', riscvIommuMapMsi t m.iova target m.size = (t', .ok ()) ∧
        t.Retargeted t' m target) ↔ ¬ EndsAtTop m.iova m.size)) ∧
    (∀ iova size t', riscvIommuUnmapMsi t iova size = (t', .ok ()) → ∀ address : UInt64,
      iova.toNat ≤ address.toNat → address.toNat < iova.toNat + size.toNat →
      t'.lookup address = none) := by
  have ht : t.Disjoint := by
    refine h.invariant (I := MsiTable.Disjoint) ?_ ?_
    · rintro _ rfl
      exact List.Pairwise.nil
    · intro t op ht hop
      exact (msiStep_disjoint_iff ht op).mpr hop
  refine ⟨ht, msiStep_disjoint_iff ht, ?_, ?_, ?_⟩
  · intro t' henabled hperm sink s env device address
    simp only [iommuRemapMsi, henabled, ht.lookup_perm hperm]
  · intro m hm target hvalid
    exact riscvIommuMapMsi_retargeted_iff ht hm hvalid
  · intro iova size t' hok address hle hlt
    exact riscvIommuUnmapMsi_lookup ht hok hle hlt

/-- Three map calls, the second one for a range that ends at `2^64` and the last one for the
first range again. -/
def adjacentMaps : List MsiOp :=
  [.setRemapping true, .map 0x1000 0x9000 0x1000, .map 0xfffffffffffff000 0xa000 0x1000,
    .map 0x1000 0xb000 0x1000]

theorem empty_msi_reach : Reach msiStep (· = .empty) (fun t op => ¬ op.Unseen t) .empty :=
  .start rfl

theorem adjacentMaps_disjoint :
    (runFrom msiStep .empty adjacentMaps).mappings.length = 2 ∧
    (runFrom msiStep .empty adjacentMaps).lookup 0x1004 = some 0xb004 ∧
    (runFrom msiStep .empty adjacentMaps).Disjoint :=
  ⟨by decide +kernel, by decide +kernel,
    (msi_table_functional_iff (empty_msi_reach.runFrom (by decide +kernel))).1⟩

/-- The last page of the address space mapped twice. -/
def topPageTwice : MsiTable :=
  runFrom msiStep .empty [.setRemapping true, .map 0xfffffffffffff000 0x9000 0x1000,
    .map 0xfffffffffffff000 0xa000 0x1000]

/-- The second call adds a mapping of the same range. The first one keeps its target, a table in
the other order answers otherwise, and after an unmap call the page is still mapped. -/
theorem topPageTwice_not_functional :
    ¬ topPageTwice.Disjoint ∧ topPageTwice.mappings.length = 2 ∧
    topPageTwice.lookup 0xfffffffffffff000 = some 0x9000 ∧
    ((topPageTwice.mappings.reverse.find? (·.holds 0xfffffffffffff000)).map (·.target)) =
      some 0xa000 ∧
    (riscvIommuUnmapMsi topPageTwice 0xfffffffffffff000 0x1000).1.lookup 0xfffffffffffff000 =
      some 0xa000 := by
  decide +kernel

end Vart
