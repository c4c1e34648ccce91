import Vart.Iommu.Context

/-!
# Facts about page-table walks

* `iommuCanonicalIova_ok_iff`: the canonical addresses of a mode and where they fold to.
* `iommuWalk_succ_ok`: what one level of a successful walk does; `Leaf.Wf`: what the loop has
  checked of the leaf it ends at (`iommuWalk_leaf`).
* `iommuWalk_quiet_congr`: without interference a walk depends on the address only through the
  leaf it reaches: every address of the leaf's range ends at that leaf.
* `Leaf.translation`: the mapping of a leaf, and when `iommuLeafTranslation` gives it
  (`iommuLeafTranslation_ok`).
-/

namespace Vart

open Lib

/-! ## Canonical addresses -/

theorem ContextMode.vaBits_cases {mode : ContextMode} {v : Nat} (h : mode.vaBits = some v) :
    v = 39 ∨ v = 41 := by
  cases mode <;> cases h <;> simp

theorem iommuCanonicalIova_ok_iff {address v iova : Nat} (hv : v = 39 ∨ v = 41) :
    iommuCanonicalIova address v = .ok iova ↔
      iova = address % 2 ^ v ∧
        (address < 2 ^ (v - 1) ∨ (2 ^ 64 - 2 ^ (v - 1) ≤ address ∧ address < 2 ^ 64)) := by
  unfold iommuCanonicalIova
  rcases hv with rfl | rfl
  · simp only [and_mask, Nat.shiftRight_eq_div_pow, uint64Max]
    split
    · simp only [reduceCtorEq, false_iff]; omega
    · simp only [Except.ok.injEq]; omega
  · simp only [and_mask, Nat.shiftRight_eq_div_pow, uint64Max]
    split
    · simp only [reduceCtorEq, false_iff]; omega
    · simp only [Except.ok.injEq]; omega

theorem iommuCanonicalIova_lt {address v iova : Nat} (hv : v = 39 ∨ v = 41)
    (h : iommuCanonicalIova address v = .ok iova) : iova < 2 ^ v := by
  obtain ⟨rfl, -⟩ := (iommuCanonicalIova_ok_iff hv).mp h
  exact Nat.mod_lt _ (Nat.two_pow_pos v)

/-! ## Leaves -/

/-- What the loop checks of every entry: V is set, the reserved bits and N are clear. -/
def PteOk (pte : Nat) : Prop := pte &&& pteV ≠ 0 ∧ pte &&& pteReserved = 0 ∧ pte &&& pteN = 0

/-- What the loop has checked of a leaf. -/
structure Leaf.Wf (leaf : Leaf) : Prop where
  level_lt : leaf.level < sv39x4Levels
  shift_eq : leaf.shift = iommuLevelShift leaf.level
  pteOk : PteOk leaf.pte
  permissions : ptePermissions leaf.pte ≠ 0

theorem iommuLevelShift_eq {level : Nat} (h : level < sv39x4Levels) :
    iommuLevelShift level = 30 - 9 * level := by
  simp only [iommuLevelShift, sv39x4Levels, pageShift, ptIndexBits] at *
  omega

theorem Leaf.Wf.shift_cases {leaf : Leaf} (h : leaf.Wf) :
    leaf.shift = 12 ∨ leaf.shift = 21 ∨ leaf.shift = 30 := by
  have hl := h.level_lt
  rw [h.shift_eq, iommuLevelShift_eq hl]
  simp only [sv39x4Levels] at hl
  omega

/-- One level of a walk that ends at `leaf`: the entry read is `leaf`, or points to the table that
the rest of the walk ends in. -/
theorem iommuWalk_succ_ok {rootBits iova n table : Nat} {env : Interference} {m : GuestMemory}
    {leaf : Leaf} {level : Nat} (hlevel : level = sv39x4Levels - (n + 1)) :
    (iommuWalk rootBits env iova (n + 1) table m).2 = .ok leaf ↔
      ¬ table > uint64Max - iommuLevelIndex rootBits iova level * pteSize ∧
      ∃ pte, iommuReadPte (env (2 * level) m)
          (table + iommuLevelIndex rootBits iova level * pteSize) = .ok pte ∧ PteOk pte ∧
        (ptePermissions pte ≠ 0 ∧ leaf = ⟨level, iommuLevelShift level,
            table + iommuLevelIndex rootBits iova level * pteSize, pte⟩ ∨
          ptePermissions pte = 0 ∧ ¬ (level = sv39x4Levels - 1 ∨
              ptePpn pte > uint64Max >>> pageShift) ∧
            (iommuWalk rootBits env iova n (ptePpn pte <<< pageShift)
              (env (2 * level) m)).2 = .ok leaf) := by
  subst hlevel
  simp only [iommuWalk]
  split
  · rename_i h; simp [h]
  rename_i htable
  split
  · rename_i e he; simp [he]
  rename_i pte hpte
  have hok : PteOk pte ↔ ¬ (pte &&& pteV = 0 ∨ pte &&& pteReserved ≠ 0 ∨ pte &&& pteN ≠ 0) := by
    simp [PteOk]
  simp only [htable, not_false_eq_true, true_and, hpte, Except.ok.injEq, exists_eq_left', hok]
  split
  · rename_i h
    simp only [h, not_true_eq_false, false_and, reduceCtorEq]
  rename_i hbits
  simp only [hbits, not_false_eq_true, true_and]
  split
  · rename_i hperm
    simp only [hperm, ne_eq, not_true_eq_false, false_and, true_and, false_or]
    split
    · rename_i h
      simp only [h, not_true_eq_false, false_and, reduceCtorEq]
    · rename_i h
      simp only [h, not_false_eq_true, true_and]
  · rename_i hperm
    simp only [hperm, ne_eq, not_false_eq_true, true_and, false_and, or_false, Except.ok.injEq]
    exact eq_comm

theorem iommuWalk_leaf {rootBits iova n table : Nat} {env : Interference} {m : GuestMemory}
    {leaf : Leaf} (hn : n ≤ sv39x4Levels)
    (h : (iommuWalk rootBits env iova n table m).2 = .ok leaf) :
    leaf.Wf ∧ sv39x4Levels - n ≤ leaf.level := by
  induction n generalizing table m with
  | zero => cases h
  | succ n ih =>
    obtain ⟨-, pte, -, hok, ⟨hperm, rfl⟩ | ⟨-, -, hrec⟩⟩ := (iommuWalk_succ_ok rfl).mp h
    · exact ⟨⟨by simp only [sv39x4Levels] at *; omega, rfl, hok, hperm⟩, Nat.le_refl _⟩
    · obtain ⟨hw, hl⟩ := ih (by omega) hrec
      exact ⟨hw, by omega⟩

/-! ## Walks without interference -/

theorem iommuWalk_quiet_memory (rootBits iova n table : Nat) (m : GuestMemory) :
    (iommuWalk rootBits quiet iova n table m).1 = m := by
  induction n generalizing table with
  | zero => rfl
  | succ n ih =>
    simp only [iommuWalk, quiet]
    split
    · rfl
    split
    · rfl
    split
    · rfl
    split
    · split
      · rfl
      · exact ih _
    · rfl

theorem iommuLevelIndex_congr {rootBits iova iova' level k : Nat} (hk : k ≤ iommuLevelShift level)
    (he : iova' / 2 ^ k = iova / 2 ^ k) :
    iommuLevelIndex rootBits iova' level = iommuLevelIndex rootBits iova level := by
  rw [iommuLevelIndex, iommuLevelIndex, shiftRight_congr he hk]

theorem iommuWalk_quiet_congr {rootBits iova iova' n table : Nat} {m : GuestMemory} {leaf : Leaf}
    (hn : n ≤ sv39x4Levels) (h : (iommuWalk rootBits quiet iova n table m).2 = .ok leaf)
    (he : iova' / 2 ^ leaf.shift = iova / 2 ^ leaf.shift) :
    (iommuWalk rootBits quiet iova' n table m).2 = .ok leaf := by
  induction n generalizing table with
  | zero => cases h
  | succ n ih =>
    obtain ⟨hw, hl⟩ := iommuWalk_leaf hn h
    -- The index at this level only reads bits above the leaf's range.
    have hidx : iommuLevelIndex rootBits iova' (sv39x4Levels - (n + 1)) =
        iommuLevelIndex rootBits iova (sv39x4Levels - (n + 1)) := by
      apply iommuLevelIndex_congr _ he
      have hll := hw.level_lt
      rw [hw.shift_eq, iommuLevelShift_eq hll, iommuLevelShift_eq (by omega)]
      omega
    obtain ⟨ht, pte, hpte, hok, hcase⟩ := (iommuWalk_succ_ok rfl).mp h
    apply (iommuWalk_succ_ok rfl).mpr
    rw [hidx]
    refine ⟨ht, pte, hpte, hok, ?_⟩
    rcases hcase with hleaf | ⟨hp, hppn, hrec⟩
    · exact .inl hleaf
    · exact .inr ⟨hp, hppn, ih (by omega) hrec⟩

/-! ## The mapping of a leaf -/

/-- The mapping that a leaf gives to the range around `iova`. -/
def Leaf.translation (leaf : Leaf) (iova : Nat) : Translation where
  iovaBase := iova / 2 ^ leaf.shift * 2 ^ leaf.shift
  translatedBase := ptePpn leaf.pte * 2 ^ pageShift
  size := 2 ^ leaf.shift
  permissions := ptePermissions leaf.pte

theorem ptePpn_lt (pte : Nat) : ptePpn pte < 2 ^ 44 := by
  have h : pte &&& ptePpnMask ≤ ptePpnMask := Nat.and_le_right
  rw [ptePpn, Nat.shiftRight_eq_div_pow]
  simp only [ptePpnMask] at *
  omega

/-- The frame of a leaf starts at a multiple of its size. -/
def Leaf.Aligned (leaf : Leaf) : Prop := ptePpn leaf.pte % 2 ^ (leaf.shift - pageShift) = 0

/-- What an accepted leaf maps, whatever the size of the access is. -/
theorem iommuLeafTranslation_ok {iova size : Nat} {leaf : Leaf} {t : Translation}
    (h : iommuLeafTranslation iova size leaf = .ok t) :
    t = leaf.translation iova ∧ leaf.Aligned := by
  have hmask : 1 <<< leaf.shift - 1 + 1 = 2 ^ leaf.shift := by
    rw [Nat.one_shiftLeft]
    exact Nat.sub_add_cancel (Nat.two_pow_pos _)
  unfold iommuLeafTranslation at h
  unfold Leaf.Aligned Leaf.translation
  simp only [and_mask, andNot_mask, sub_mod_eq_div_mul, hmask] at h
  simp only [Nat.shiftLeft_eq] at h
  split at h
  · cases h
  split at h
  · cases h
  rename_i halign
  split at h
  · cases h
  split at h
  · cases h
  · cases h
    exact ⟨rfl, Decidable.not_not.mp halign⟩

theorem iommuLeafTranslation_ok_iff {iova size : Nat} {leaf : Leaf} {t : Translation}
    (hw : leaf.Wf) (hsize : 1 ≤ size ∧ size ≤ 2 ^ 32) :
    iommuLeafTranslation iova size leaf = .ok t ↔
      t = leaf.translation iova ∧ leaf.Aligned ∧ iova % 2 ^ leaf.shift + size ≤ 2 ^ leaf.shift := by
  have hppn := ptePpn_lt leaf.pte
  have hmod : iova % 2 ^ leaf.shift < 2 ^ leaf.shift := Nat.mod_lt _ (Nat.two_pow_pos _)
  have hsh : 2 ^ leaf.shift ≤ 2 ^ 30 :=
    Nat.pow_le_pow_right (by decide) (by have := hw.shift_cases; omega)
  have hmask : 1 <<< leaf.shift - 1 + 1 = 2 ^ leaf.shift := by
    rw [Nat.one_shiftLeft]
    exact Nat.sub_add_cancel (Nat.two_pow_pos _)
  unfold iommuLeafTranslation Leaf.Aligned Leaf.translation
  simp only [and_mask, andNot_mask, sub_mod_eq_div_mul, hmask]
  simp only [Nat.shiftRight_eq_div_pow, Nat.shiftLeft_eq, uint64Max, pageShift]
  generalize iova % 2 ^ leaf.shift = r at *
  generalize 2 ^ leaf.shift = p at *
  rw [if_neg (by omega)]
  split
  · simp only [reduceCtorEq, false_iff, not_and]
    intro _ h
    contradiction
  rename_i halign
  split
  · simp only [reduceCtorEq, false_iff, not_and]
    intro _ _
    omega
  · rename_i hrange
    rw [if_neg (by omega)]
    simp only [Except.ok.injEq]
    constructor
    · rintro rfl
      exact ⟨rfl, Decidable.not_not.mp halign, by omega⟩
    · rintro ⟨rfl, -⟩
      rfl

theorem iommuLeafTranslation_misaligned {iova size : Nat} {leaf : Leaf} (h : ¬ leaf.Aligned) :
    iommuLeafTranslation iova size leaf = .error .efault := by
  unfold iommuLeafTranslation
  simp only [and_mask]
  split
  · rfl
  · exact if_pos h

theorem iommuLeafTranslation_crosses {iova size : Nat} {leaf : Leaf} (hw : leaf.Wf)
    (hsize : 1 ≤ size ∧ size ≤ 2 ^ 32) (ha : leaf.Aligned)
    (hc : ¬ iova % 2 ^ leaf.shift + size ≤ 2 ^ leaf.shift) :
    iommuLeafTranslation iova size leaf = .error .erange := by
  have hppn := ptePpn_lt leaf.pte
  have hmod : iova % 2 ^ leaf.shift < 2 ^ leaf.shift := Nat.mod_lt _ (Nat.two_pow_pos _)
  have hsh : 2 ^ leaf.shift ≤ 2 ^ 30 :=
    Nat.pow_le_pow_right (by decide) (by have := hw.shift_cases; omega)
  have hmask : 1 <<< leaf.shift - 1 + 1 = 2 ^ leaf.shift := by
    rw [Nat.one_shiftLeft]
    exact Nat.sub_add_cancel (Nat.two_pow_pos _)
  unfold iommuLeafTranslation
  unfold Leaf.Aligned at ha
  simp only [and_mask, hmask]
  simp only [Nat.shiftRight_eq_div_pow, uint64Max, pageShift] at *
  rw [if_neg (by omega), if_neg (by omega), if_pos (by omega)]

/-! ## The whole translation -/

/-- The word of a leaf is in memory at its address. -/
theorem iommuWalk_quiet_read {rootBits iova n table : Nat} {m : GuestMemory} {leaf : Leaf}
    (h : (iommuWalk rootBits quiet iova n table m).2 = .ok leaf) :
    iommuReadPte m leaf.pteAddress = .ok leaf.pte := by
  induction n generalizing table with
  | zero => cases h
  | succ n ih =>
    obtain ⟨-, pte, hpte, -, ⟨-, rfl⟩ | ⟨-, -, hrec⟩⟩ := (iommuWalk_succ_ok rfl).mp h
    · exact hpte
    · exact ih hrec

theorem iommuReadPte_ok {m : GuestMemory} {address pte : Nat}
    (h : iommuReadPte m address = .ok pte) :
    ∃ data, m.readBuffer address pteSize = .ok data ∧ pte = loadLe data := by
  unfold iommuReadPte at h
  split at h
  · cases h
  · rename_i data hdata
    cases h
    exact ⟨data, hdata, rfl⟩

theorem iommuReadPte_lt {m : GuestMemory} {address pte : Nat}
    (h : iommuReadPte m address = .ok pte) : pte < 2 ^ 64 := by
  obtain ⟨data, hdata, rfl⟩ := iommuReadPte_ok h
  have hlt := loadLe_lt data
  rw [GuestMemory.readBuffer_length hdata] at hlt
  exact hlt

/-- Without interference the update of a leaf succeeds: its entry was just read. -/
theorem iommuLeafAccess_quiet (c : IommuContext) (iova size : Nat) (write : Bool) {leaf : Leaf}
    {m : GuestMemory} (hread : iommuReadPte m leaf.pteAddress = .ok leaf.pte) :
    ∃ m', iommuWritePte m leaf.pteAddress (iommuPteUpdated write leaf.pte) = .ok m' ∧
      iommuLeafAccess c quiet iova size write leaf m =
        if iommuLeafDenied write leaf.pte then (m, .error .eacces)
        else if iommuLeafNeedsUpdate write leaf.pte then
          if !c.updateAd then (m, .error .efault)
          else (m', iommuLeafTranslation iova size leaf)
        else (m, iommuLeafTranslation iova size leaf) := by
  obtain ⟨data, hdata, -⟩ := iommuReadPte_ok hread
  obtain ⟨m', hm'⟩ := GuestMemory.writeBuffer_of_readBuffer
    (length_storeLe pteSize (iommuPteUpdated write leaf.pte) ▸ hdata)
  refine ⟨m', hm', ?_⟩
  simp only [iommuLeafAccess, iommuWritePte, quiet, hm']

theorem iommuLeafAccess_ok {c : IommuContext} {env : Interference} {iova size : Nat}
    {write : Bool} {leaf : Leaf} {m : GuestMemory} {t : Translation}
    (h : (iommuLeafAccess c env iova size write leaf m).2 = .ok t) :
    iommuLeafDenied write leaf.pte = false ∧
      (iommuLeafNeedsUpdate write leaf.pte = true → c.updateAd = true) ∧
      iommuLeafTranslation iova size leaf = .ok t := by
  unfold iommuLeafAccess at h
  split at h
  · cases h
  rename_i hdenied
  refine ⟨Bool.eq_false_iff.mpr hdenied, ?_⟩
  split at h
  · split at h
    · cases h
    rename_i had
    refine ⟨fun _ => by simpa using had, ?_⟩
    simp only at h
    split at h
    · cases h
    · exact h
  · rename_i hneeds
    exact ⟨fun h' => absurd h' hneeds, h⟩

theorem iommuTranslateSv39Mode_ok {c : IommuContext} {env : Interference} {m : GuestMemory}
    {address size rootBits v : Nat} {write : Bool} {t : Translation}
    (h : (iommuTranslateSv39Mode c env m address size write rootBits v).2 = .ok t) :
    ∃ iova leaf, iommuCanonicalIova address v = .ok iova ∧
      (iommuWalk rootBits env iova sv39x4Levels ((c.rootPpn <<< pageShift) % 2 ^ 64) m).2 =
        .ok leaf ∧
      iommuLeafDenied write leaf.pte = false ∧
      (iommuLeafNeedsUpdate write leaf.pte = true → c.updateAd = true) ∧
      iommuLeafTranslation iova size leaf = .ok t := by
  unfold iommuTranslateSv39Mode at h
  split at h
  · cases h
  rename_i iova hiova
  split at h
  · cases h
  · rename_i m' leaf hwalk
    exact ⟨iova, leaf, hiova, by rw [hwalk], iommuLeafAccess_ok h⟩

end Vart
