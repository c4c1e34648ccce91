import Vart.Iommu.System

/-!
# The Sv39 and Sv39x4 page-table formats

What the tables of a context mean, stated on the fields of their entries and without the loop that
walks them:

* `TableFormat`, `Pte`: the two formats and the fields of an entry.
* `Walks`: the levels of a table, from the root to the leaf of an address.
* `Translates`: the result of an access. `sv39_translation_correct`: `iommuTranslateSv39Mode` gives
  this result, and on success changes at most the A and D bits of the leaf.

Nothing writes to memory during these walks. `refused_translation_iff` is about accesses that are
refused: the A/D update comes before the last checks of the leaf, so that an access that one of
these refuses has marked its leaf as accessed.
-/

namespace Vart

open Lib

/-! ## The formats -/

/-- A three-level format: the bits of the root index and of an address. -/
structure TableFormat where
  rootBits : Nat
  vaBits : Nat

def TableFormat.sv39 : TableFormat := ⟨9, 39⟩
def TableFormat.sv39x4 : TableFormat := ⟨11, 41⟩

/-- The two formats of a context. -/
def TableFormat.Supported (f : TableFormat) : Prop := f = .sv39 ∨ f = .sv39x4

/-- `address` is the sign extension of its low `vaBits` bits. -/
def TableFormat.Canonical (f : TableFormat) (address : Nat) : Prop :=
  BitVec.ofNat 64 address = (BitVec.ofNat f.vaBits address).signExtend 64

/-- The index of an address into the table at a level; the root is level 0. -/
def TableFormat.vpn (f : TableFormat) (iova : Nat) : Nat → Nat
  | 0 => iova / 2 ^ 30 % 2 ^ f.rootBits
  | 1 => iova / 2 ^ 21 % 2 ^ 9
  | _ => iova / 2 ^ 12 % 2 ^ 9

/-- The size of the range that a leaf at a level maps: 1 GiB, 2 MiB or 4 KiB. -/
def leafSize : Nat → Nat
  | 0 => 2 ^ 30
  | 1 => 2 ^ 21
  | _ => 2 ^ 12

/-- The fields of a page-table entry. -/
structure Pte where
  v : Bool
  r : Bool
  w : Bool
  x : Bool
  u : Bool
  a : Bool
  d : Bool
  ppn : Nat
  reserved : Nat
  n : Bool

def Pte.decode (word : Nat) : Pte where
  v := word.testBit 0
  r := word.testBit 1
  w := word.testBit 2
  x := word.testBit 3
  u := word.testBit 4
  a := word.testBit 6
  d := word.testBit 7
  ppn := word / 2 ^ 10 % 2 ^ 44
  reserved := word / 2 ^ 54 % 2 ^ 7
  n := word.testBit 63

namespace Pte

/-- An entry that any level accepts. -/
def Valid (p : Pte) : Prop := p.v = true ∧ p.reserved = 0 ∧ p.n = false

/-- An entry that ends the walk. -/
def IsLeaf (p : Pte) : Prop := p.r = true ∨ p.w = true ∨ p.x = true

/-- A leaf that lets the access through: W needs R, and the entry is for user accesses. -/
def Permits (p : Pte) (write : Bool) : Prop :=
  (p.w = true → p.r = true) ∧ p.u = true ∧ (if write then p.w else p.r) = true

/-- The A bit is set, and the D bit for a write. -/
def Marked (p : Pte) (write : Bool) : Prop := p.a = true ∧ (write = true → p.d = true)

/-- The R, W and X bits at their places. -/
def permissions (p : Pte) : Nat := 2 * p.r.toNat + 4 * p.w.toNat + 8 * p.x.toNat

end Pte

/-! ## Walks and translations -/

/-- The entry that a walk ends at. -/
structure WalkLeaf where
  level : Nat
  pteAddress : Nat
  word : Nat

/-- The walk for `iova` from the table at address `table` and level `level`. -/
inductive Walks (f : TableFormat) (m : GuestMemory) (iova : Nat) :
    (level table : Nat) → Except Errno WalkLeaf → Prop
  | unreadable {level table e} :
      m.readBuffer (table + f.vpn iova level * 8) 8 = .error e → Walks f m iova level table (.error e)
  | invalid {level table data} :
      m.readBuffer (table + f.vpn iova level * 8) 8 = .ok data →
      ¬ (Pte.decode (loadLe data)).Valid → Walks f m iova level table (.error .efault)
  /-- The last level has leaves only. -/
  | tooDeep {table data} :
      m.readBuffer (table + f.vpn iova 2 * 8) 8 = .ok data →
      (Pte.decode (loadLe data)).Valid → ¬ (Pte.decode (loadLe data)).IsLeaf →
      Walks f m iova 2 table (.error .efault)
  | next {level table data result} :
      level < 2 → m.readBuffer (table + f.vpn iova level * 8) 8 = .ok data →
      (Pte.decode (loadLe data)).Valid → ¬ (Pte.decode (loadLe data)).IsLeaf →
      Walks f m iova (level + 1) ((Pte.decode (loadLe data)).ppn * 2 ^ 12) result →
      Walks f m iova level table result
  | leaf {level table data} :
      m.readBuffer (table + f.vpn iova level * 8) 8 = .ok data →
      (Pte.decode (loadLe data)).Valid → (Pte.decode (loadLe data)).IsLeaf →
      Walks f m iova level table (.ok ⟨level, table + f.vpn iova level * 8, loadLe data⟩)

/-- The physical pages of a superpage start at a multiple of its size. -/
def WalkLeaf.PpnAligned (l : WalkLeaf) : Prop :=
  (Pte.decode l.word).ppn % (leafSize l.level / 2 ^ 12) = 0

/-- The access does not leave the range of the leaf. -/
def WalkLeaf.Confines (l : WalkLeaf) (iova size : Nat) : Prop :=
  iova % leafSize l.level + size ≤ leafSize l.level

/-- The range around `iova` that a leaf maps, where to, and its permissions. -/
def WalkLeaf.translation (l : WalkLeaf) (iova : Nat) : Translation where
  iovaBase := iova / leafSize l.level * leafSize l.level
  translatedBase := (Pte.decode l.word).ppn * 2 ^ 12
  size := leafSize l.level
  permissions := (Pte.decode l.word).permissions

/-- The result of an access to `size` bytes at `address`, with the root table at page `root`. -/
inductive Translates (f : TableFormat) (m : GuestMemory) (root : Nat) (updateAd : Bool)
    (address size : Nat) (write : Bool) : Except Errno Translation → Prop
  | nonCanonical :
      ¬ f.Canonical address → Translates f m root updateAd address size write (.error .efault)
  | noLeaf {e} :
      f.Canonical address → Walks f m (address % 2 ^ f.vaBits) 0 (root * 2 ^ 12) (.error e) →
      Translates f m root updateAd address size write (.error e)
  | denied {l} :
      f.Canonical address → Walks f m (address % 2 ^ f.vaBits) 0 (root * 2 ^ 12) (.ok l) →
      ¬ (Pte.decode l.word).Permits write →
      Translates f m root updateAd address size write (.error .eacces)
  | unmarked {l} :
      f.Canonical address → Walks f m (address % 2 ^ f.vaBits) 0 (root * 2 ^ 12) (.ok l) →
      (Pte.decode l.word).Permits write →
      ¬ (Pte.decode l.word).Marked write → updateAd = false →
      Translates f m root updateAd address size write (.error .efault)
  | misaligned {l} :
      f.Canonical address → Walks f m (address % 2 ^ f.vaBits) 0 (root * 2 ^ 12) (.ok l) →
      (Pte.decode l.word).Permits write →
      ((Pte.decode l.word).Marked write ∨ updateAd = true) → ¬ l.PpnAligned →
      Translates f m root updateAd address size write (.error .efault)
  | crosses {l} :
      f.Canonical address → Walks f m (address % 2 ^ f.vaBits) 0 (root * 2 ^ 12) (.ok l) →
      (Pte.decode l.word).Permits write →
      ((Pte.decode l.word).Marked write ∨ updateAd = true) → l.PpnAligned →
      ¬ l.Confines (address % 2 ^ f.vaBits) size →
      Translates f m root updateAd address size write (.error .erange)
  | mapped {l} :
      f.Canonical address → Walks f m (address % 2 ^ f.vaBits) 0 (root * 2 ^ 12) (.ok l) →
      (Pte.decode l.word).Permits write →
      ((Pte.decode l.word).Marked write ∨ updateAd = true) → l.PpnAligned →
      l.Confines (address % 2 ^ f.vaBits) size →
      Translates f m root updateAd address size write
        (.ok (l.translation (address % 2 ^ f.vaBits)))

/-! ## The words of the model -/

theorem TableFormat.canonical_iff {f : TableFormat} (hf : f.Supported) {address : Nat}
    (ha : address < 2 ^ 64) :
    f.Canonical address ↔
      address < 2 ^ (f.vaBits - 1) ∨ 2 ^ 64 - 2 ^ (f.vaBits - 1) ≤ address := by
  have hnat : f.Canonical address ↔ (BitVec.ofNat 64 address).toNat =
      ((BitVec.ofNat f.vaBits address).signExtend 64).toNat := by
    rw [Canonical, BitVec.toNat_inj]
  rw [hnat]
  rcases hf with rfl | rfl
  · simp only [sv39, BitVec.toNat_signExtend, BitVec.msb_eq_decide, BitVec.toNat_ofNat,
      BitVec.toNat_setWidth]
    split <;> simp_all <;> omega
  · simp only [sv39x4, BitVec.toNat_signExtend, BitVec.msb_eq_decide, BitVec.toNat_ofNat,
      BitVec.toNat_setWidth]
    split <;> simp_all <;> omega

theorem pteOk_iff {word : Nat} : PteOk word ↔ (Pte.decode word).Valid := by
  have hv : word &&& pteV = 0 ↔ word.testBit 0 = false := and_two_pow_eq_zero_iff word 0
  have hn : word &&& pteN = 0 ↔ word.testBit 63 = false := and_two_pow_eq_zero_iff word 63
  have hr : word &&& pteReserved = 0 ↔ word / 2 ^ 54 % 2 ^ 7 = 0 := and_field_eq_zero word 7 54
  rw [PteOk, ne_eq, hv, hn, hr, Bool.not_eq_false]
  rfl

theorem ptePermissions_eq (word : Nat) : ptePermissions word = (Pte.decode word).permissions := by
  have hmask : ptePermissions word = word % 2 ^ 4 &&& 14 := and_eq_mod_and word (by decide)
  have hbit : ∀ i < 4, word.testBit i = (word % 2 ^ 4).testBit i := by
    intro i hi
    rw [Nat.testBit_mod_two_pow, decide_eq_true hi, Bool.true_and]
  have hlt : word % 2 ^ 4 < 16 := Nat.mod_lt _ (by decide)
  rw [hmask]
  simp only [Pte.permissions, Pte.decode, hbit 1 (by decide), hbit 2 (by decide),
    hbit 3 (by decide)]
  clear hmask hbit
  generalize word % 2 ^ 4 = k at *
  revert k
  decide

theorem Pte.permissions_eq_zero {p : Pte} : p.permissions = 0 ↔ ¬ p.IsLeaf := by
  simp only [permissions, IsLeaf]
  cases p.r <;> cases p.w <;> cases p.x <;> simp

theorem ptePpn_eq (word : Nat) : ptePpn word = (Pte.decode word).ppn :=
  and_field word 44 10

theorem iommuLeafDenied_iff {word : Nat} {write : Bool} :
    iommuLeafDenied write word = true ↔ ¬ (Pte.decode word).Permits write := by
  have hu : word &&& pteU = 0 ↔ word.testBit 4 = false := and_two_pow_eq_zero_iff word 4
  have hw : word &&& pteW = 0 ↔ word.testBit 2 = false := and_two_pow_eq_zero_iff word 2
  have hr : word &&& pteR = 0 ↔ word.testBit 1 = false := and_two_pow_eq_zero_iff word 1
  simp only [iommuLeafDenied, ptePermissions_eq, Pte.Permits, Pte.permissions, Bool.or_eq_true,
    beq_iff_eq, hu]
  cases write <;>
    simp only [Pte.decode, hw, hr, if_true, if_false, Bool.false_eq_true, beq_iff_eq] <;>
    cases word.testBit 1 <;> cases word.testBit 2 <;> cases word.testBit 3 <;>
    cases word.testBit 4 <;> decide

theorem iommuLeafNeedsUpdate_iff {word : Nat} {write : Bool} :
    iommuLeafNeedsUpdate write word = true ↔ ¬ (Pte.decode word).Marked write := by
  have ha : word &&& pteA = 0 ↔ word.testBit 6 = false := and_two_pow_eq_zero_iff word 6
  have hd : word &&& pteD = 0 ↔ word.testBit 7 = false := and_two_pow_eq_zero_iff word 7
  simp only [iommuLeafNeedsUpdate, Pte.Marked, Bool.or_eq_true, Bool.and_eq_true, beq_iff_eq, ha,
    hd, Pte.decode]
  cases write <;> cases word.testBit 6 <;> cases word.testBit 7 <;> decide

theorem iommuLevelIndex_eq (f : TableFormat) (iova : Nat) {level : Nat} (h : level < 3) :
    iommuLevelIndex f.rootBits iova level = f.vpn iova level := by
  rw [iommuLevelIndex, and_mask, Nat.shiftRight_eq_div_pow, iommuLevelShift_eq h]
  obtain rfl | rfl | rfl : level = 0 ∨ level = 1 ∨ level = 2 := by omega
  all_goals rfl

theorem leafSize_eq {level : Nat} (h : level < 3) : 2 ^ iommuLevelShift level = leafSize level := by
  rw [iommuLevelShift_eq h]
  obtain rfl | rfl | rfl : level = 0 ∨ level = 1 ∨ level = 2 := by omega
  all_goals rfl

/-! ## The loop is the walk -/

theorem TableFormat.Supported.vpn_lt {f : TableFormat} (hf : f.Supported) (iova level : Nat) :
    f.vpn iova level < 2 ^ 11 := by
  have hroot : 2 ^ f.rootBits ≤ 2 ^ 11 := by
    rcases hf with rfl | rfl <;> decide
  unfold vpn
  split
  · exact Nat.lt_of_lt_of_le (Nat.mod_lt _ (Nat.two_pow_pos _)) hroot
  · omega
  · omega

section Step

variable {f : TableFormat} {m : GuestMemory} {iova level table : Nat} {r : Except Errno WalkLeaf}
  {data : List UInt8}

theorem walks_unreadable_iff {e : Errno}
    (hread : m.readBuffer (table + f.vpn iova level * 8) 8 = .error e) :
    Walks f m iova level table r ↔ r = .error e := by
  constructor
  · intro h
    cases h <;> simp_all
  · rintro rfl
    exact .unreadable hread

theorem walks_invalid_iff (hread : m.readBuffer (table + f.vpn iova level * 8) 8 = .ok data)
    (hv : ¬ (Pte.decode (loadLe data)).Valid) :
    Walks f m iova level table r ↔ r = .error .efault := by
  constructor
  · intro h
    cases h <;> simp_all
  · rintro rfl
    exact .invalid hread hv

theorem walks_leaf_iff (hread : m.readBuffer (table + f.vpn iova level * 8) 8 = .ok data)
    (hv : (Pte.decode (loadLe data)).Valid) (hl : (Pte.decode (loadLe data)).IsLeaf) :
    Walks f m iova level table r ↔
      r = .ok ⟨level, table + f.vpn iova level * 8, loadLe data⟩ := by
  constructor
  · intro h
    cases h <;> simp_all
  · rintro rfl
    exact .leaf hread hv hl

theorem walks_next_iff (hread : m.readBuffer (table + f.vpn iova level * 8) 8 = .ok data)
    (hv : (Pte.decode (loadLe data)).Valid) (hl : ¬ (Pte.decode (loadLe data)).IsLeaf)
    (hlevel : level < 2) :
    Walks f m iova level table r ↔
      Walks f m iova (level + 1) ((Pte.decode (loadLe data)).ppn * 2 ^ 12) r := by
  constructor
  · intro h
    cases h <;> simp_all
  · exact .next hlevel hread hv hl

theorem walks_tooDeep_iff (hread : m.readBuffer (table + f.vpn iova 2 * 8) 8 = .ok data)
    (hv : (Pte.decode (loadLe data)).Valid) (hl : ¬ (Pte.decode (loadLe data)).IsLeaf) :
    Walks f m iova 2 table r ↔ r = .error .efault := by
  constructor
  · intro h
    cases h <;> simp_all
  · rintro rfl
    exact .tooDeep hread hv hl

end Step

def Leaf.walkLeaf (leaf : Leaf) : WalkLeaf := ⟨leaf.level, leaf.pteAddress, leaf.pte⟩

/-- The loop, with `n` levels left, gives the result of the walk from its level. -/
theorem walks_iff {f : TableFormat} (hf : f.Supported) {m : GuestMemory} {iova level n table : Nat}
    {r : Except Errno WalkLeaf} (hn : level + (n + 1) = 3) (htable : table < 2 ^ 56) :
    Walks f m iova level table r ↔
      r = ((iommuWalk f.rootBits quiet iova (n + 1) table m).2).map Leaf.walkLeaf := by
  induction n using Nat.strong_induction_on generalizing level table with
  | _ n ih =>
    have hlevel : sv39x4Levels - (n + 1) = level := by
      simp only [sv39x4Levels]
      omega
    have hindex := iommuLevelIndex_eq f iova (show level < 3 by omega)
    have hvpn := hf.vpn_lt iova level
    simp only [iommuWalk, hlevel, hindex, quiet, iommuReadPte]
    rw [if_neg (by simp only [uint64Max, pteSize]; omega)]
    cases hread : m.readBuffer (table + f.vpn iova level * 8) 8 with
    | error e => exact walks_unreadable_iff hread
    | ok data =>
      have hppn : (Pte.decode (loadLe data)).ppn < 2 ^ 44 := Nat.mod_lt _ (by decide)
      have hvalid : ¬ (loadLe data &&& pteV = 0 ∨ loadLe data &&& pteReserved ≠ 0 ∨
          loadLe data &&& pteN ≠ 0) ↔ (Pte.decode (loadLe data)).Valid := by
        rw [← pteOk_iff, PteOk]
        simp
      dsimp only
      by_cases hv : (Pte.decode (loadLe data)).Valid
      · have hzero : ptePermissions (loadLe data) = 0 ↔ ¬ (Pte.decode (loadLe data)).IsLeaf := by
          rw [ptePermissions_eq, Pte.permissions_eq_zero]
        rw [if_neg (hvalid.2 hv)]
        by_cases hl : (Pte.decode (loadLe data)).IsLeaf
        · rw [if_neg (by rw [hzero]; exact not_not.2 hl)]
          exact walks_leaf_iff hread hv hl
        · rw [if_pos (hzero.2 hl)]
          by_cases h2 : level = 2
          · subst h2
            rw [if_pos (by simp)]
            exact walks_tooDeep_iff hread hv hl
          · -- The next level: its table is one of the pages that an entry can name.
            have hmore : ¬ (level = sv39x4Levels - 1 ∨
                (Pte.decode (loadLe data)).ppn > uint64Max >>> pageShift) := by
              simp only [sv39x4Levels, uint64Max, pageShift]
              omega
            rw [ptePpn_eq, if_neg hmore, Nat.shiftLeft_eq, walks_next_iff hread hv hl (by omega)]
            obtain ⟨k, rfl⟩ : ∃ k, n = k + 1 := ⟨n - 1, by omega⟩
            exact ih k (by omega) (by omega) (by omega)
      · rw [if_pos (not_not.1 (mt hvalid.1 hv))]
        exact walks_invalid_iff hread hv

/-! ## The result of a translation -/

section Results

variable {f : TableFormat} {m : GuestMemory} {root address size : Nat} {updateAd write : Bool}
  {r : Except Errno Translation}

theorem translates_nonCanonical_iff (hc : ¬ f.Canonical address) :
    Translates f m root updateAd address size write r ↔ r = .error .efault := by
  constructor
  · intro h
    cases h <;> first | rfl | contradiction
  · rintro rfl
    exact .nonCanonical hc

theorem translates_noLeaf_iff {e : Errno} (hc : f.Canonical address)
    (hwalk : ∀ r, Walks f m (address % 2 ^ f.vaBits) 0 (root * 2 ^ 12) r ↔ r = .error e) :
    Translates f m root updateAd address size write r ↔ r = .error e := by
  constructor
  · intro h
    cases h <;> simp_all
  · rintro rfl
    exact .noLeaf hc ((hwalk _).2 rfl)

/-- The result for an address with a leaf, from the checks of the leaf in their order. -/
theorem translates_leaf_iff {l : WalkLeaf} (hc : f.Canonical address)
    (hwalk : ∀ r, Walks f m (address % 2 ^ f.vaBits) 0 (root * 2 ^ 12) r ↔ r = .ok l) :
    Translates f m root updateAd address size write r ↔
      (¬ (Pte.decode l.word).Permits write ∧ r = .error .eacces) ∨
      ((Pte.decode l.word).Permits write ∧
        ((¬ (Pte.decode l.word).Marked write ∧ updateAd = false ∧ r = .error .efault) ∨
        (((Pte.decode l.word).Marked write ∨ updateAd = true) ∧
          ((¬ l.PpnAligned ∧ r = .error .efault) ∨
          (l.PpnAligned ∧
            ((¬ l.Confines (address % 2 ^ f.vaBits) size ∧ r = .error .erange) ∨
            (l.Confines (address % 2 ^ f.vaBits) size ∧
              r = .ok (l.translation (address % 2 ^ f.vaBits))))))))) := by
  have hl : Walks f m (address % 2 ^ f.vaBits) 0 (root * 2 ^ 12) (.ok l) := (hwalk _).2 rfl
  constructor
  · intro h
    cases h <;> simp_all
  · rintro (⟨hp, rfl⟩ | ⟨hp, ⟨hm, had, rfl⟩ | ⟨hm, ⟨ha, rfl⟩ | ⟨ha, ⟨hs, rfl⟩ | ⟨hs, rfl⟩⟩⟩⟩)
    · exact .denied hc hl hp
    · exact .unmarked hc hl hp hm had
    · exact .misaligned hc hl hp hm ha
    · exact .crosses hc hl hp hm ha hs
    · exact .mapped hc hl hp hm ha hs

end Results

namespace Leaf.Wf

variable {leaf : Leaf}

theorem leafSize_eq (h : leaf.Wf) : leafSize leaf.level = 2 ^ leaf.shift := by
  rw [h.shift_eq, Vart.leafSize_eq h.level_lt]

theorem translation_eq (h : leaf.Wf) (iova : Nat) :
    leaf.walkLeaf.translation iova = leaf.translation iova := by
  simp only [WalkLeaf.translation, Leaf.translation, walkLeaf, h.leafSize_eq, ptePpn_eq,
    ptePermissions_eq]

theorem ppnAligned_iff (h : leaf.Wf) : leaf.walkLeaf.PpnAligned ↔ leaf.Aligned := by
  have hsize : 2 ^ leaf.shift / 2 ^ 12 = 2 ^ (leaf.shift - pageShift) :=
    Nat.pow_div (by have := h.shift_cases; omega) (by decide)
  simp only [WalkLeaf.PpnAligned, Aligned, walkLeaf, h.leafSize_eq, hsize, ptePpn_eq]

theorem confines_iff (h : leaf.Wf) {iova size : Nat} :
    leaf.walkLeaf.Confines iova size ↔ iova % 2 ^ leaf.shift + size ≤ 2 ^ leaf.shift := by
  rw [WalkLeaf.Confines, show leaf.walkLeaf.level = leaf.level from rfl, h.leafSize_eq]

/-- The last checks of a leaf. -/
theorem leafTranslation_eq_iff (h : leaf.Wf) {iova size : Nat} (hsize : 1 ≤ size ∧ size ≤ 2 ^ 32)
    {r : Except Errno Translation} :
    r = iommuLeafTranslation iova size leaf ↔
      (¬ leaf.walkLeaf.PpnAligned ∧ r = .error .efault) ∨
      (leaf.walkLeaf.PpnAligned ∧
        ((¬ leaf.walkLeaf.Confines iova size ∧ r = .error .erange) ∨
        (leaf.walkLeaf.Confines iova size ∧ r = .ok (leaf.walkLeaf.translation iova)))) := by
  rw [h.ppnAligned_iff, h.confines_iff, h.translation_eq]
  by_cases ha : leaf.Aligned
  · by_cases hc : iova % 2 ^ leaf.shift + size ≤ 2 ^ leaf.shift
    · rw [(iommuLeafTranslation_ok_iff h hsize).2 ⟨rfl, ha, hc⟩]
      simp [ha, hc]
    · rw [iommuLeafTranslation_crosses h hsize ha hc]
      simp [ha, hc]
  · rw [iommuLeafTranslation_misaligned ha]
    simp [ha]

end Leaf.Wf

theorem TableFormat.Supported.canonicalIova_ok {f : TableFormat} (hf : f.Supported)
    {address : Nat} (ha : address < 2 ^ 64) (hc : f.Canonical address) :
    iommuCanonicalIova address f.vaBits = .ok (address % 2 ^ f.vaBits) := by
  rw [iommuCanonicalIova_ok_iff (by rcases hf with rfl | rfl <;> decide)]
  refine ⟨rfl, ?_⟩
  exact ((f.canonical_iff hf ha).1 hc).imp_right fun h => ⟨h, ha⟩

theorem TableFormat.Supported.canonicalIova_error {f : TableFormat} (hf : f.Supported)
    {address : Nat} (ha : address < 2 ^ 64) (hc : ¬ f.Canonical address) :
    iommuCanonicalIova address f.vaBits = .error .efault := by
  have hnot : ∀ iova, iommuCanonicalIova address f.vaBits ≠ .ok iova := by
    intro iova hok
    rw [iommuCanonicalIova_ok_iff (by rcases hf with rfl | rfl <;> decide)] at hok
    exact hc ((f.canonical_iff hf ha).2 (hok.2.imp_right And.left))
  unfold iommuCanonicalIova at *
  dsimp only at *
  split
  · rfl
  · rename_i hin
    exact absurd (if_neg hin) (hnot _)

/-- The A/D update of an entry adds its A bit, and its D bit for a write. -/
theorem testBit_iommuPteUpdated (write : Bool) (word i : Nat) :
    (iommuPteUpdated write word).testBit i =
      (word.testBit i || decide (i = 6) || (write && decide (i = 7))) := by
  have ha : pteA.testBit i = decide (i = 6) := by
    rw [show pteA = 2 ^ 6 from rfl, Nat.testBit_two_pow, decide_eq_decide]
    exact eq_comm
  have hd : pteD.testBit i = decide (i = 7) := by
    rw [show pteD = 2 ^ 7 from rfl, Nat.testBit_two_pow, decide_eq_decide]
    exact eq_comm
  rw [iommuPteUpdated, Nat.testBit_or, Nat.testBit_or, ha]
  cases write with
  | false => simp
  | true => rw [if_pos rfl, hd, Bool.true_and]

/-- What an access may leave in memory: the entry of its leaf has the bits of the access. -/
structure LeafMarked (m m' : GuestMemory) (l : WalkLeaf) (write : Bool) : Prop where
  others : m.SameOutside m' l.pteAddress 8
  marked : ∃ data, m'.readBuffer l.pteAddress 8 = .ok data ∧
    ∀ i, (loadLe data).testBit i =
      (l.word.testBit i || decide (i = 6) || (write && decide (i = 7)))

theorem iommuWritePte_marks {m m' : GuestMemory} {leaf : Leaf} {write : Bool}
    (hread : iommuReadPte m leaf.pteAddress = .ok leaf.pte)
    (hwrite : iommuWritePte m leaf.pteAddress (iommuPteUpdated write leaf.pte) = .ok m') :
    LeafMarked m m' leaf.walkLeaf write where
  others := by
    have h := GuestMemory.writeBuffer_sameOutside hwrite
    rwa [length_storeLe] at h
  marked := by
    have h := GuestMemory.readBuffer_writeBuffer_same hwrite
    rw [length_storeLe] at h
    refine ⟨_, h, fun i => ?_⟩
    have hlt : iommuPteUpdated write leaf.pte < 256 ^ pteSize := by
      have hpte := iommuReadPte_lt hread
      refine Nat.or_lt_two_pow (n := 64) (Nat.or_lt_two_pow hpte (by decide)) ?_
      cases write <;> decide
    rw [loadLe_storeLe_of_lt hlt, testBit_iommuPteUpdated]
    rfl

/-- An entry with the bits of the access is as it was. -/
theorem LeafMarked.refl {m : GuestMemory} {leaf : Leaf} {write : Bool}
    (hread : iommuReadPte m leaf.pteAddress = .ok leaf.pte)
    (hm : (Pte.decode leaf.pte).Marked write) : LeafMarked m m leaf.walkLeaf write where
  others := .refl _ _ _
  marked := by
    obtain ⟨data, hdata, hpte⟩ := iommuReadPte_ok hread
    refine ⟨data, hdata, fun i => ?_⟩
    obtain ⟨ha, hd⟩ := hm
    simp only [Pte.decode] at ha hd
    rw [← hpte, show leaf.walkLeaf.word = leaf.pte from rfl]
    by_cases h6 : i = 6
    · subst h6
      simp [ha]
    · by_cases h7 : i = 7
      · subst h7
        cases write <;> simp_all
      · simp [h6, h7]

section LeafAccess

variable {c : IommuContext} {m : GuestMemory} {iova size : Nat} {write : Bool} {leaf : Leaf}

/-- The rest of the translation, from the leaf on, makes the checks of the format in their order. -/
theorem iommuLeafAccess_eq_iff
    (hread : iommuReadPte m leaf.pteAddress = .ok leaf.pte) {r : Except Errno Translation} :
    r = (iommuLeafAccess c quiet iova size write leaf m).2 ↔
      (¬ (Pte.decode leaf.pte).Permits write ∧ r = .error .eacces) ∨
      ((Pte.decode leaf.pte).Permits write ∧
        ((¬ (Pte.decode leaf.pte).Marked write ∧ c.updateAd = false ∧ r = .error .efault) ∨
        (((Pte.decode leaf.pte).Marked write ∨ c.updateAd = true) ∧
          r = iommuLeafTranslation iova size leaf))) := by
  obtain ⟨m', -, heq⟩ := iommuLeafAccess_quiet c iova size write hread
  rw [heq]
  by_cases hp : (Pte.decode leaf.pte).Permits write
  · rw [if_neg (mt iommuLeafDenied_iff.1 (not_not.2 hp))]
    by_cases hm : (Pte.decode leaf.pte).Marked write
    · rw [if_neg (mt iommuLeafNeedsUpdate_iff.1 (not_not.2 hm))]
      simp [hp, hm]
    · rw [if_pos (iommuLeafNeedsUpdate_iff.2 hm)]
      cases hu : c.updateAd <;> simp [hp, hm]
  · rw [if_pos (iommuLeafDenied_iff.2 hp)]
    simp [hp]

theorem iommuLeafAccess_marks (hread : iommuReadPte m leaf.pteAddress = .ok leaf.pte)
    {t : Translation} (h : (iommuLeafAccess c quiet iova size write leaf m).2 = .ok t) :
    LeafMarked m (iommuLeafAccess c quiet iova size write leaf m).1 leaf.walkLeaf write ∧
      ((Pte.decode leaf.pte).Marked write ∨ c.updateAd = false →
        (iommuLeafAccess c quiet iova size write leaf m).1 = m) := by
  obtain ⟨m', hwrite, heq⟩ :=
    iommuLeafAccess_quiet c iova size write hread
  rw [heq] at h ⊢
  split at h
  · cases h
  rename_i hdenied
  rw [if_neg hdenied]
  by_cases hm : (Pte.decode leaf.pte).Marked write
  · rw [if_neg (mt iommuLeafNeedsUpdate_iff.1 (not_not.2 hm))]
    exact ⟨.refl hread hm, fun _ => rfl⟩
  · rw [if_pos (iommuLeafNeedsUpdate_iff.2 hm)] at h ⊢
    cases hu : c.updateAd with
    | false =>
      rw [hu] at h
      cases h
    | true =>
      refine ⟨iommuWritePte_marks hread hwrite, fun hor => ?_⟩
      exact absurd hor (by simp [hm])

end LeafAccess

/-- The walker of a context is the format: it gives the same result, and leaves memory alone but
for the A and D bits of the leaf. -/
theorem sv39_translation_correct {f : TableFormat} (hf : f.Supported) {c : IommuContext}
    (hroot : c.rootPpn < 2 ^ 44) (m : GuestMemory) {address size : Nat} (haddress : address < 2 ^ 64)
    (hsize : 1 ≤ size ∧ size ≤ 2 ^ 32) (write : Bool) :
    (∀ r, (iommuTranslateSv39Mode c quiet m address size write f.rootBits f.vaBits).2 = r ↔
      Translates f m c.rootPpn c.updateAd address size write r) ∧
    ∀ t, (iommuTranslateSv39Mode c quiet m address size write f.rootBits f.vaBits).2 = .ok t →
      ∃ l, Walks f m (address % 2 ^ f.vaBits) 0 (c.rootPpn * 2 ^ 12) (.ok l) ∧
        LeafMarked m (iommuTranslateSv39Mode c quiet m address size write f.rootBits f.vaBits).1 l
          write ∧
        ((Pte.decode l.word).Marked write ∨ c.updateAd = false →
          (iommuTranslateSv39Mode c quiet m address size write f.rootBits f.vaBits).1 = m) := by
  have htable : (c.rootPpn <<< pageShift) % 2 ^ 64 = c.rootPpn * 2 ^ 12 := by
    rw [Nat.shiftLeft_eq, Nat.mod_eq_of_lt (by simp only [pageShift]; omega)]
  have hwalk : ∀ r, Walks f m (address % 2 ^ f.vaBits) 0 (c.rootPpn * 2 ^ 12) r ↔ _ :=
    fun r => walks_iff (n := 2) hf rfl (by omega)
  by_cases hc : f.Canonical address
  · have hiova := hf.canonicalIova_ok haddress hc
    have hmem := iommuWalk_quiet_memory f.rootBits (address % 2 ^ f.vaBits) sv39x4Levels
      (c.rootPpn * 2 ^ 12) m
    simp only [iommuTranslateSv39Mode, hiova, htable]
    generalize hres : iommuWalk f.rootBits quiet (address % 2 ^ f.vaBits) sv39x4Levels
      (c.rootPpn * 2 ^ 12) m = res at *
    obtain ⟨m₁, result⟩ := res
    obtain rfl : m₁ = m := hmem
    cases result with
    | error e =>
      refine ⟨fun r => ?_, fun t h => by cases h⟩
      rw [translates_noLeaf_iff hc hwalk]
      exact eq_comm
    | ok leaf =>
      have hleaf : (iommuWalk f.rootBits quiet (address % 2 ^ f.vaBits) sv39x4Levels
          (c.rootPpn * 2 ^ 12) m₁).2 = .ok leaf := by rw [hres]
      have hw := (iommuWalk_leaf (Nat.le_refl _) hleaf).1
      have hread := iommuWalk_quiet_read hleaf
      refine ⟨fun r => ?_, fun t h => ⟨leaf.walkLeaf, (hwalk _).2 rfl, iommuLeafAccess_marks hread h⟩⟩
      rw [translates_leaf_iff hc hwalk, eq_comm, iommuLeafAccess_eq_iff hread,
        hw.leafTranslation_eq_iff hsize]
      rfl
  · simp only [iommuTranslateSv39Mode, hf.canonicalIova_error haddress hc]
    refine ⟨fun r => ?_, fun t h => by cases h⟩
    rw [translates_nonCanonical_iff hc]
    exact eq_comm

/-- A context that updates A and D bits, over the table at page 1. -/
def updatingContext : IommuContext := (iommuContextSetSv39 (iommuContextInit .identity) 1 true).1

/-- A write through a leaf with R, W and U that was not accessed before. -/
theorem updatingContext_translates :
    Translates .sv39 (leafMemory 0x17) 1 true 0x1234 8 true (.ok ⟨0, 0, 2 ^ 30, 6⟩) ∧
      ∃ l, LeafMarked (leafMemory 0x17)
        (iommuTranslateSv39 updatingContext quiet (leafMemory 0x17) 0x1234 8 true).1 l true := by
  have hok : (iommuTranslateSv39 updatingContext quiet (leafMemory 0x17) 0x1234 8 true).2 =
      .ok ⟨0, 0, 2 ^ 30, 6⟩ := by decide +kernel
  obtain ⟨hresult, hmemory⟩ := sv39_translation_correct (f := .sv39) (.inl rfl)
    (c := updatingContext) (by decide) (leafMemory 0x17) (show 0x1234 < 2 ^ 64 by decide)
    (show 1 ≤ 8 ∧ 8 ≤ 2 ^ 32 by decide) true
  obtain ⟨l, -, hmarked, -⟩ := hmemory _ hok
  exact ⟨(hresult _).1 hok, l, hmarked⟩

/-! ## Refused accesses -/

/-- The leaf permits the access and lacks a bit of it, which the context adds; but the leaf is a
misaligned superpage, or the access leaves it. -/
def Leaf.MarksRefusing (leaf : Leaf) (c : IommuContext) (iova size : Nat) (write : Bool) : Prop :=
  c.updateAd = true ∧ (Pte.decode leaf.pte).Permits write ∧ ¬ (Pte.decode leaf.pte).Marked write ∧
    (¬ leaf.walkLeaf.PpnAligned ∨ ¬ leaf.walkLeaf.Confines iova size)

/-- The access ends at such a leaf. -/
def MarksRefusing (c : IommuContext) (m : GuestMemory) (rootBits vaBits address size : Nat)
    (write : Bool) : Prop :=
  ∃ iova leaf, iommuCanonicalIova address vaBits = .ok iova ∧
    (iommuWalk rootBits quiet iova sv39x4Levels ((c.rootPpn <<< pageShift) % 2 ^ 64) m).2 =
      .ok leaf ∧ leaf.MarksRefusing c iova size write

/-- A leaf that got a bit does not read as before. -/
theorem LeafMarked.reads_differ {m m' : GuestMemory} {leaf : Leaf} {write : Bool}
    (h : LeafMarked m m' leaf.walkLeaf write)
    (hread : iommuReadPte m leaf.pteAddress = .ok leaf.pte)
    (hm : ¬ (Pte.decode leaf.pte).Marked write) :
    m'.readBuffer leaf.pteAddress 8 ≠ m.readBuffer leaf.pteAddress 8 := by
  intro hsame
  obtain ⟨data, hdata, hbits⟩ := h.marked
  obtain ⟨old, hold, hpte⟩ := iommuReadPte_ok hread
  have heq : data = old := Except.ok.inj (hdata.symm.trans (hsame.trans hold))
  rw [heq, ← hpte, show leaf.walkLeaf.word = leaf.pte from rfl] at hbits
  have ha := hbits 6
  have hd := hbits 7
  refine hm ⟨?_, fun hw => ?_⟩
  · simpa [Pte.decode] using ha
  · simpa [Pte.decode, hw] using hd

theorem iommuLeafAccess_refused {c : IommuContext} {m : GuestMemory} {iova size : Nat}
    {write : Bool} {leaf : Leaf} {e : Errno} (hw : leaf.Wf) (hsize : 1 ≤ size ∧ size ≤ 2 ^ 32)
    (hread : iommuReadPte m leaf.pteAddress = .ok leaf.pte)
    (h : (iommuLeafAccess c quiet iova size write leaf m).2 = .error e) :
    (¬ leaf.MarksRefusing c iova size write ∧
      (iommuLeafAccess c quiet iova size write leaf m).1 = m) ∨
    (leaf.MarksRefusing c iova size write ∧ ∃ a,
      (iommuLeafAccess c quiet iova size write leaf m).1.readBuffer a 8 ≠ m.readBuffer a 8) := by
  obtain ⟨m', hwrite, heq⟩ :=
    iommuLeafAccess_quiet c iova size write hread
  rw [heq] at h ⊢
  unfold Leaf.MarksRefusing
  by_cases hp : (Pte.decode leaf.pte).Permits write
  · rw [if_neg (mt iommuLeafDenied_iff.1 (not_not.2 hp))] at h ⊢
    by_cases hm : (Pte.decode leaf.pte).Marked write
    · rw [if_neg (mt iommuLeafNeedsUpdate_iff.1 (not_not.2 hm))] at h ⊢
      exact .inl ⟨fun hc => hc.2.2.1 hm, rfl⟩
    · rw [if_pos (iommuLeafNeedsUpdate_iff.2 hm)] at h ⊢
      cases hu : c.updateAd with
      | false => exact .inl ⟨fun hc => absurd hc.1 Bool.false_ne_true, rfl⟩
      | true =>
        rw [hu] at h
        have hlast : ¬ leaf.walkLeaf.PpnAligned ∨ ¬ leaf.walkLeaf.Confines iova size := by
          by_contra hok
          rw [not_or, not_not, not_not] at hok
          rw [← (hw.leafTranslation_eq_iff hsize).2 (.inr ⟨hok.1, .inr ⟨hok.2, rfl⟩⟩)] at h
          cases h
        refine .inr ⟨⟨rfl, hp, hm, hlast⟩, leaf.pteAddress, ?_⟩
        exact (iommuWritePte_marks hread hwrite).reads_differ hread hm
  · rw [if_pos (iommuLeafDenied_iff.2 hp)]
    exact .inl ⟨fun hc => hp hc.2.1, rfl⟩

/-- A refused access leaves memory alone, or marks the leaf that refuses it. -/
theorem iommuTranslateSv39Mode_refused {c : IommuContext} {m : GuestMemory}
    {rootBits vaBits address size : Nat} {write : Bool} {e : Errno}
    (hsize : 1 ≤ size ∧ size ≤ 2 ^ 32)
    (h : (iommuTranslateSv39Mode c quiet m address size write rootBits vaBits).2 = .error e) :
    (¬ MarksRefusing c m rootBits vaBits address size write ∧
      (iommuTranslateSv39Mode c quiet m address size write rootBits vaBits).1 = m) ∨
    (MarksRefusing c m rootBits vaBits address size write ∧ ∃ a,
      (iommuTranslateSv39Mode c quiet m address size write rootBits vaBits).1.readBuffer a 8 ≠
        m.readBuffer a 8) := by
  unfold iommuTranslateSv39Mode at h ⊢
  unfold MarksRefusing
  split at h
  · rename_i e' hiova
    refine .inl ⟨?_, rfl⟩
    rintro ⟨iova, leaf, hok, -⟩
    cases hiova.symm.trans hok
  rename_i iova hiova
  have hmem := iommuWalk_quiet_memory rootBits iova sv39x4Levels
    ((c.rootPpn <<< pageShift) % 2 ^ 64) m
  split at h
  · rename_i m₁ e' hres
    rw [hres] at hmem
    refine .inl ⟨?_, hmem⟩
    rintro ⟨iova', leaf, hok, hwalk, -⟩
    obtain rfl : iova = iova' := Except.ok.inj (hiova.symm.trans hok)
    rw [hres] at hwalk
    cases hwalk
  · rename_i m₁ leaf hres
    obtain rfl : m₁ = m := by rw [hres] at hmem; exact hmem
    have hleaf := congrArg Prod.snd hres
    have hw := (iommuWalk_leaf (Nat.le_refl _) hleaf).1
    refine (iommuLeafAccess_refused hw hsize (iommuWalk_quiet_read hleaf) h).imp ?_ ?_
    · rintro ⟨hnot, hsame⟩
      refine ⟨?_, hsame⟩
      rintro ⟨iova', leaf', hok, hwalk, hmarks⟩
      obtain rfl : iova = iova' := Except.ok.inj (hiova.symm.trans hok)
      obtain rfl : leaf = leaf' := Except.ok.inj (hleaf.symm.trans hwalk)
      exact hnot hmarks
    · rintro ⟨hmarks, hdiff⟩
      exact ⟨⟨iova, leaf, hiova, hleaf, hmarks⟩, hdiff⟩

/-- What a context in a walking mode does to memory when it refuses an access. -/
theorem iommuContextTranslate_refused {c : IommuContext} {m : GuestMemory}
    {vaBits address size : Nat} {write : Bool} {e : Errno} (hmode : c.mode.vaBits = some vaBits)
    (hsize : 1 ≤ size ∧ size ≤ 2 ^ 32)
    (h : (iommuContextTranslate c quiet m address size write).result = .error e) :
    (¬ (c.downstream = true ∧ c.rootValid = true ∧
        MarksRefusing c m c.mode.rootBits vaBits address size write) ∧
      (iommuContextTranslate c quiet m address size write).memory = m) ∨
    ((c.downstream = true ∧ c.rootValid = true ∧
        MarksRefusing c m c.mode.rootBits vaBits address size write) ∧
      ∃ a, (iommuContextTranslate c quiet m address size write).memory.readBuffer a 8 ≠
        m.readBuffer a 8) := by
  have hfault : c.mode ≠ .fault := by
    intro hf
    rw [hf] at hmode
    cases hmode
  unfold iommuContextTranslate at h ⊢
  rw [if_neg (by omega), if_neg hfault] at h ⊢
  simp only [hmode, iommuTranslate_eq hmode] at h ⊢
  split at h
  · rename_i hdown
    exact .inl ⟨fun hc => by simp [hc.1] at hdown, by rw [if_pos hdown]⟩
  rename_i hdown
  rw [if_neg hdown]
  split at h
  · rename_i hroot
    exact .inl ⟨fun hc => by simp [hc.2.1] at hroot, by rw [if_pos hroot]⟩
  rename_i hroot
  rw [if_neg hroot]
  have hready : c.downstream = true ∧ c.rootValid = true := by simpa using And.intro hdown hroot
  split at h
  · -- The address is not canonical.
    rename_i e' hiova
    refine .inl ⟨?_, rfl⟩
    rintro ⟨-, -, iova, leaf, hok, -⟩
    cases hiova.symm.trans hok
  split at h
  · cases h
  rename_i hmiss
  split at h
  · rename_i m₁ e' hwalked
    have hrefused := iommuTranslateSv39Mode_refused hsize (congrArg Prod.snd hwalked)
    rw [hwalked] at hrefused
    refine hrefused.imp ?_ ?_
    · rintro ⟨hnot, hsame⟩
      exact ⟨fun hc => hnot hc.2.2, hsame⟩
    · rintro ⟨hmarks, hdiff⟩
      exact ⟨⟨hready.1, hready.2, hmarks⟩, hdiff⟩
  · cases h

/-- A context in a walking mode refuses an access. What memory reads as is as before, unless the
access marked the leaf that refused it. -/
theorem refused_translation_iff {c : IommuContext} {m : GuestMemory} {vaBits address size : Nat}
    {write : Bool} {e : Errno} (hmode : c.mode.vaBits = some vaBits)
    (hsize : 1 ≤ size ∧ size ≤ 2 ^ 32)
    (h : (iommuContextTranslate c quiet m address size write).result = .error e) :
    ((∀ a n, (iommuContextTranslate c quiet m address size write).memory.readBuffer a n =
        m.readBuffer a n) ↔
      ¬ (c.downstream = true ∧ c.rootValid = true ∧
        MarksRefusing c m c.mode.rootBits vaBits address size write)) ∧
    (¬ (c.downstream = true ∧ c.rootValid = true ∧
        MarksRefusing c m c.mode.rootBits vaBits address size write) →
      (iommuContextTranslate c quiet m address size write).memory = m) := by
  obtain ⟨hnot, hsame⟩ | ⟨hmarks, a, hdiff⟩ := iommuContextTranslate_refused hmode hsize h
  · refine ⟨⟨fun _ => hnot, fun _ a n => ?_⟩, fun _ => hsame⟩
    rw [hsame]
  · exact ⟨⟨fun hall => absurd (hall a 8) hdiff, fun hnot => absurd hmarks hnot⟩,
      fun hnot => absurd hmarks hnot⟩

/-- A write through a leaf that is not writable is refused and changes nothing. -/
theorem readOnlyLeaf_refused :
    (iommuContextTranslate updatingContext quiet (leafMemory 0x13) 0x1234 8 true).result =
        .error .eacces ∧
      (iommuContextTranslate updatingContext quiet (leafMemory 0x13) 0x1234 8 true).memory =
        leafMemory 0x13 := by
  have hresult : (iommuContextTranslate updatingContext quiet (leafMemory 0x13) 0x1234 8
      true).result = .error .eacces := by decide +kernel
  have hmode : updatingContext.mode.vaBits = some 39 := rfl
  refine ⟨hresult, (refused_translation_iff hmode (by decide) hresult).2 ?_⟩
  rintro ⟨-, -, iova, leaf, hiova, hwalk, -, hpermits, -⟩
  obtain rfl : 0x1234 = iova := Except.ok.inj hiova
  have hleaf : (iommuWalk sv39RootBits quiet 0x1234 sv39x4Levels 0x1000 (leafMemory 0x13)).2 =
      .ok ⟨0, 30, 0x1000, 0x13⟩ := by decide +kernel
  obtain rfl : ⟨0, 30, 0x1000, 0x13⟩ = leaf := Except.ok.inj (hleaf.symm.trans hwalk)
  exact absurd hpermits.2.2 (by decide)

/-- A write that crosses the end of its leaf is refused, but the leaf is marked as accessed and
dirty. -/
theorem crossingWrite_marks :
    (iommuContextTranslate updatingContext quiet (leafMemory 0x17) 0x3ffffff8 16 true).result =
        .error .erange ∧
      (leafMemory 0x17).readBuffer 0x1000 1 = .ok [0x17] ∧
      (iommuContextTranslate updatingContext quiet (leafMemory 0x17) 0x3ffffff8 16
        true).memory.readBuffer 0x1000 1 = .ok [0xd7] := by
  decide +kernel

end Vart
