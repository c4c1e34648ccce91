import Vart.Iommu.Walk

/-!
# The translation cache

* `entries_*`: what the cache operations do to the list of live entries.
* `TranslateOutcome`: the ways a translation can end, with everything the code has checked on the
  way (`iommuContextTranslate_outcome`). Facts about translations are proved from it.
* `CacheWf`: at most 64 entries, each valid and inside the address range of the mode. Every
  operation of a context keeps it.
-/

namespace Vart

open Lib

/-! ## Live entries -/

@[simp] theorem entries_flush (c : IommuContext) : (iommuCacheFlush c).entries = [] := rfl

@[simp] theorem entries_bumpGeneration (c : IommuContext) : c.bumpGeneration.entries = c.entries :=
  rfl

theorem mem_entries_insert {c : IommuContext} {t : Translation} {e : CacheEntry}
    (h : e ∈ (iommuCacheInsert c t).entries) : e = t.entry ∨ e ∈ c.entries := by
  unfold iommuCacheInsert at h
  split at h
  · simp only [IommuContext.entries, cells_succ, Function.update_self, List.mem_append,
      List.mem_singleton, cells_update_of_le c.cache (Nat.le_refl _)] at h
    exact h.symm
  · exact mem_cells_update h

theorem cacheCount_insert_le {c : IommuContext} (t : Translation)
    (h : c.cacheCount ≤ cacheEntries) : (iommuCacheInsert c t).cacheCount ≤ cacheEntries := by
  unfold iommuCacheInsert
  split
  · assumption
  · exact h

/-- An insertion only changes the cache. -/
theorem iommuCacheInsert_eq (c : IommuContext) (t : Translation) :
    iommuCacheInsert c t = { c with
      cache := (iommuCacheInsert c t).cache
      cacheCount := (iommuCacheInsert c t).cacheCount
      cacheNext := (iommuCacheInsert c t).cacheNext } := by
  unfold iommuCacheInsert
  split <;> rfl

@[simp] theorem mode_insert (c : IommuContext) (t : Translation) :
    (iommuCacheInsert c t).mode = c.mode := by rw [iommuCacheInsert_eq]

@[simp] theorem rootPpn_insert (c : IommuContext) (t : Translation) :
    (iommuCacheInsert c t).rootPpn = c.rootPpn := by rw [iommuCacheInsert_eq]

@[simp] theorem updateAd_insert (c : IommuContext) (t : Translation) :
    (iommuCacheInsert c t).updateAd = c.updateAd := by rw [iommuCacheInsert_eq]

theorem entries_invalidate (c : IommuContext) (address size : Nat) :
    (iommuCacheInvalidate c address size).entries =
      c.entries.filter (fun e => !iommuCacheRangesOverlap e address size) :=
  cells_compact _ _ _

theorem cacheCount_invalidate_le (c : IommuContext) (address size : Nat) :
    (iommuCacheInvalidate c address size).cacheCount ≤ c.cacheCount := by
  have h := compact_count_le (fun e => iommuCacheRangesOverlap e address size) 0 c.cacheCount c.cache
  rwa [Nat.zero_add] at h

/-! ## Lookups -/

/-- The entry serves the access: it covers `[address, address + size)` and permits the
direction. -/
structure CacheEntry.Serves (e : CacheEntry) (address size : Nat) (write : Bool) : Prop where
  base_le : e.iovaBase ≤ address
  end_le : (address + size) % 2 ^ 64 ≤ (e.iovaBase + e.size) % 2 ^ 64
  no_wrap : address ≤ uint64Max - (size - 1)
  readable : e.permissions &&& pteR ≠ 0
  writable : write = true → e.permissions &&& pteW ≠ 0

theorem CacheEntry.serves_of_not_skipped {e : CacheEntry} {address size : Nat} {write : Bool}
    (h : ¬ e.skipped address size write = true) : e.Serves address size write := by
  simp only [skipped, Bool.or_eq_true, Bool.and_eq_true, decide_eq_true_eq, beq_iff_eq, not_or,
    not_and, Nat.not_lt, gt_iff_lt] at h
  obtain ⟨⟨⟨⟨⟨-, hb⟩, hw⟩, he⟩, hr⟩, hwr⟩ := h
  exact ⟨hb, he, hw, hr, hwr⟩

theorem iommuCacheScan_some {address size t : Nat} {write : Bool} {es : List CacheEntry}
    (h : iommuCacheScan address size write es = some t) :
    ∃ e ∈ es, e.Serves address size write ∧ t = e.translatedBase + (address - e.iovaBase) := by
  induction es with
  | nil => cases h
  | cons e es ih =>
    unfold iommuCacheScan at h
    split at h
    · obtain ⟨e', he', h'⟩ := ih h
      exact ⟨e', List.mem_cons_of_mem _ he', h'⟩
    rename_i hskip
    split at h
    · cases h
    split at h
    · cases h
    cases h
    exact ⟨e, List.mem_cons_self, CacheEntry.serves_of_not_skipped hskip, rfl⟩

theorem iommuCacheLookup_some {c : IommuContext} {address size t : Nat} {write : Bool}
    (h : iommuCacheLookup c address size write = some t) :
    c.updateAd = false ∧ ∃ e ∈ c.entries, e.Serves address size write ∧
      t = e.translatedBase + (address - e.iovaBase) := by
  unfold iommuCacheLookup at h
  split at h
  · cases h
  · rename_i had
    exact ⟨by simpa using had, iommuCacheScan_some h⟩

/-! ## The ways a translation can end -/

/-- The page table that a context walks. -/
def IommuContext.root (c : IommuContext) : Nat := (c.rootPpn <<< pageShift) % 2 ^ 64

/-- How `iommuContextTranslate` ends: it fails, or the mode is identity, or a cached entry serves
the access, or a walk finds a leaf. -/
inductive TranslateOutcome (c : IommuContext) (env : Interference) (m : GuestMemory)
    (address size : Nat) (write : Bool) (r : Translated) : Prop
  | fail {e : Errno} (context_eq : r.context = c) (result_eq : r.result = .error e)
  | identity (mode_eq : c.mode = .identity) (context_eq : r.context = c) (memory_eq : r.memory = m)
      (result_eq : r.result = .ok address)
  | hit {v iova t : Nat} (vaBits_eq : c.mode.vaBits = some v)
      (iova_eq : iommuCanonicalIova address v = .ok iova)
      (lookup : iommuCacheLookup c iova size write = some t)
      (context_eq : r.context = c) (memory_eq : r.memory = m) (result_eq : r.result = .ok t)
  | walk {v iova : Nat} {leaf : Leaf} {t : Translation} (vaBits_eq : c.mode.vaBits = some v)
      (ready : size ≠ 0 ∧ c.downstream = true ∧ c.rootValid = true)
      (iova_eq : iommuCanonicalIova address v = .ok iova)
      (lookup : iommuCacheLookup c iova size write = none)
      (leaf_eq : (iommuWalk c.mode.rootBits env iova sv39x4Levels c.root m).2 = .ok leaf)
      (permitted : iommuLeafDenied write leaf.pte = false)
      (updated : iommuLeafNeedsUpdate write leaf.pte = true → c.updateAd = true)
      (translation_eq : iommuLeafTranslation iova size leaf = .ok t)
      (context_eq : r.context = iommuCacheInsert c t)
      (result_eq : r.result = .ok (t.translatedBase + (iova - t.iovaBase)))

/-- The two walkers are one walker with the parameters of the mode. -/
theorem iommuTranslate_eq {c : IommuContext} {v : Nat} (hv : c.mode.vaBits = some v)
    (env : Interference) (m : GuestMemory) (address size : Nat) (write : Bool) :
    (if c.mode = .sv39 then iommuTranslateSv39 c env m address size write
      else iommuTranslateSv39x4 c env m address size write) =
      iommuTranslateSv39Mode c env m address size write c.mode.rootBits v := by
  cases hm : c.mode <;> rw [hm] at hv <;> cases hv <;> rfl

theorem iommuContextTranslate_outcome (c : IommuContext) (env : Interference) (m : GuestMemory)
    (address size : Nat) (write : Bool) :
    TranslateOutcome c env m address size write
      (iommuContextTranslate c env m address size write) := by
  unfold iommuContextTranslate
  split
  · exact .fail rfl rfl
  rename_i hsize
  split
  · exact .fail rfl rfl
  rename_i hfault
  split
  · exact .fail rfl rfl
  rename_i hdown
  split
  · rename_i hv
    refine .identity ?_ rfl rfl rfl
    cases hm : c.mode <;> rw [hm] at hv hfault <;> first | rfl | exact absurd rfl hfault | cases hv
  rename_i v hv
  split
  · exact .fail rfl rfl
  rename_i hroot
  split
  · exact .fail rfl rfl
  rename_i iova hiova
  split
  · rename_i t hl
    exact .hit hv hiova hl rfl rfl rfl
  rename_i hl
  simp only [iommuTranslate_eq hv]
  split
  · exact .fail rfl rfl
  · rename_i m' t ht
    obtain ⟨iova', leaf, hiova', hwalk, hperm, hupd, htr⟩ :=
      iommuTranslateSv39Mode_ok (congrArg Prod.snd ht)
    obtain rfl : iova = iova' := Except.ok.inj (hiova.symm.trans hiova')
    exact .walk hv ⟨hsize, by simpa using hdown, by simpa using hroot⟩ hiova hl hwalk hperm hupd
      htr rfl rfl

/-! ## Well-formed caches -/

/-- The entry maps one page or superpage of a `v`-bit address range. -/
structure CacheEntry.Wf (e : CacheEntry) (v : Nat) : Prop where
  valid : e.valid = true
  size_eq : e.size = 2 ^ 12 ∨ e.size = 2 ^ 21 ∨ e.size = 2 ^ 30
  aligned : e.iovaBase % e.size = 0
  in_range : e.iovaBase + e.size ≤ 2 ^ v

theorem Leaf.Wf.entry_wf {leaf : Leaf} (hw : leaf.Wf) {v iova : Nat} (hv : v = 39 ∨ v = 41)
    (hi : iova < 2 ^ v) : (leaf.translation iova).entry.Wf v := by
  have hs := hw.shift_cases
  refine ⟨rfl, ?_, Nat.mul_mod_left _ _, ?_⟩
  · rcases hs with h | h | h <;> simp [Translation.entry, Leaf.translation, h]
  · simp only [Translation.entry, Leaf.translation]
    rcases hs with h | h | h <;> rw [h] <;> rcases hv with rfl | rfl <;> omega

/-- At most 64 entries, and each of them is well formed for the mode. A context that does not walk
a table has an empty cache. -/
structure IommuContext.CacheWf (c : IommuContext) : Prop where
  count_le : c.cacheCount ≤ cacheEntries
  entry : ∀ e ∈ c.entries, ∃ v, c.mode.vaBits = some v ∧ e.Wf v

theorem IommuContext.CacheWf.of_empty {c : IommuContext} (h : c.cacheCount = 0) : c.CacheWf := by
  refine ⟨by omega, fun e he => ?_⟩
  rw [IommuContext.entries, h] at he
  cases he

theorem IommuContext.CacheWf.init (mode : ContextMode) : (iommuContextInit mode).CacheWf := .of_empty rfl

theorem IommuContext.CacheWf.translate {c : IommuContext} (h : c.CacheWf) (env : Interference)
    (m : GuestMemory) (address size : Nat) (write : Bool) :
    (iommuContextTranslate c env m address size write).context.CacheWf := by
  cases iommuContextTranslate_outcome c env m address size write with
  | fail hc => rw [hc]; exact h
  | identity _ hc => rw [hc]; exact h
  | hit _ _ _ hc => rw [hc]; exact h
  | @walk v iova leaf t hv _ hi _ hleaf _ _ ht hc =>
    obtain ⟨rfl, -⟩ := iommuLeafTranslation_ok ht
    rw [hc]
    refine ⟨cacheCount_insert_le _ h.count_le, fun e he => ?_⟩
    rw [mode_insert]
    rcases mem_entries_insert he with rfl | he
    · have hv' := ContextMode.vaBits_cases hv
      exact ⟨v, hv, (iommuWalk_leaf (Nat.le_refl _) hleaf).1.entry_wf hv'
        (iommuCanonicalIova_lt hv' hi)⟩
    · exact h.entry e he

theorem IommuContext.CacheWf.setMode {c : IommuContext} (h : c.CacheWf) (mode : ContextMode) :
    (iommuContextSetMode c mode).1.CacheWf := by
  unfold iommuContextSetMode
  split
  · exact h
  · exact .of_empty rfl

theorem IommuContext.CacheWf.setSv39Mode {c : IommuContext} (h : c.CacheWf) (rootPpn : Nat) (updateAd : Bool)
    (mode : ContextMode) (align : Bool) :
    (iommuContextSetSv39Mode c rootPpn updateAd mode align).1.CacheWf := by
  unfold iommuContextSetSv39Mode
  split
  · exact h
  · exact .of_empty rfl

/-! ## Invalidation -/

/-- How `iommuContextInvalidate` ends: it fails, or drops everything, or drops the entries that
overlap a range of folded addresses. -/
inductive InvalidateOutcome (c : IommuContext) (address size : Nat) (r : IommuContext × Status) :
    Prop
  | fail {e : Errno} (eq : r = (c, .error e))
  | flush (eq : r = ((iommuCacheFlush c).bumpGeneration, .ok ()))
  | range {v iova : Nat} (vaBits_eq : c.mode.vaBits = some v)
      (iova_eq : iommuCanonicalIova address v = .ok iova) (size_lt : size < 2 ^ v)
      (end_le : iova + size ≤ 2 ^ v)
      (eq : r = ((iommuCacheInvalidate c iova size).bumpGeneration, .ok ()))

theorem iommuContextInvalidate_outcome (c : IommuContext) (address size : Nat) :
    InvalidateOutcome c address size (iommuContextInvalidate c address size) := by
  unfold iommuContextInvalidate
  split
  · exact .fail rfl
  rename_i hsize
  split
  · rename_i v hv
    simp only [Nat.one_shiftLeft]
    split
    · exact .fail rfl
    rename_i iova hiova
    split
    · exact .flush rfl
    split
    · exact .fail rfl
    · exact .range hv hiova (by omega) (by omega) rfl
  · exact .flush rfl

theorem IommuContext.CacheWf.invalidateRange {c : IommuContext} (h : c.CacheWf) (iova size : Nat) :
    (iommuCacheInvalidate c iova size).bumpGeneration.CacheWf := by
  refine ⟨Nat.le_trans (cacheCount_invalidate_le c iova size) h.count_le, fun e he => ?_⟩
  rw [entries_bumpGeneration, entries_invalidate] at he
  exact h.entry e (List.mem_filter.mp he).1

theorem IommuContext.CacheWf.invalidate {c : IommuContext} (h : c.CacheWf) (address size : Nat) :
    (iommuContextInvalidate c address size).1.CacheWf := by
  cases iommuContextInvalidate_outcome c address size with
  | fail hr => rw [hr]; exact h
  | flush hr => rw [hr]; exact .of_empty rfl
  | range _ _ _ _ hr => rw [hr]; exact h.invalidateRange _ _

/-- Two ranges `[a, a + n)` and `[b, b + k)` share a byte. -/
def RangesMeet (a n b k : Nat) : Prop := a < b + k ∧ b < a + n

instance (a n b k : Nat) : Decidable (RangesMeet a n b k) :=
  inferInstanceAs (Decidable (_ ∧ _))

/-- The 64-bit comparison of `iommu_cache_ranges_overlap` does not wrap. -/
theorem CacheEntry.Wf.overlap_iff {e : CacheEntry} {v iova size : Nat} (h : e.Wf v)
    (hv : v = 39 ∨ v = 41) (he : iova + size ≤ 2 ^ v) :
    iommuCacheRangesOverlap e iova size = true ↔ RangesMeet e.iovaBase e.size iova size := by
  have hr := h.in_range
  have h64 : 2 ^ v < 2 ^ 64 := by rcases hv with rfl | rfl <;> decide
  simp only [iommuCacheRangesOverlap, RangesMeet, Bool.and_eq_true, decide_eq_true_eq]
  rw [Nat.mod_eq_of_lt (by omega), Nat.mod_eq_of_lt (by omega)]
  exact and_comm

/-- The entry covers the range, up to the last byte. -/
theorem CacheEntry.Wf.serves_end {e : CacheEntry} {v iova size : Nat} {write : Bool} (h : e.Wf v)
    (hv : v = 39 ∨ v = 41) (hs : e.Serves iova size write) (hi : iova < 2 ^ v)
    (hsize : size ≤ 2 ^ 32) : iova + size ≤ e.iovaBase + e.size := by
  have hr := h.in_range
  have he := hs.end_le
  have h64 : 2 ^ v ≤ 2 ^ 41 := by rcases hv with rfl | rfl <;> decide
  rwa [Nat.mod_eq_of_lt (by omega), Nat.mod_eq_of_lt (by omega)] at he

/-! ## Entries and the leaves they come from -/

theorem ptePermissions_and_pteR (pte : Nat) : ptePermissions pte &&& pteR = pte &&& pteR := by
  rw [ptePermissions, Nat.and_assoc]
  rfl

theorem ptePermissions_and_pteW (pte : Nat) : ptePermissions pte &&& pteW = pte &&& pteW := by
  rw [ptePermissions, Nat.and_assoc]
  rfl

theorem iommuLeafDenied_eq_false {write : Bool} {pte : Nat} :
    iommuLeafDenied write pte = false ↔ ptePermissions pte ≠ pteW ∧
      ptePermissions pte ≠ (pteW ||| pteX) ∧ pte &&& pteU ≠ 0 ∧
      (if write then pte &&& pteW ≠ 0 else pte &&& pteR ≠ 0) := by
  cases write <;>
    simp only [iommuLeafDenied, Bool.or_eq_false_iff, beq_eq_false_iff_ne, ne_eq, and_assoc,
      Bool.false_eq_true, if_true, if_false]

/-- An entry that serves an access comes from a leaf that permits it. -/
theorem CacheEntry.Serves.permitted {leaf : Leaf} {iova address size : Nat} {w write : Bool}
    (hs : (leaf.translation iova).entry.Serves address size write)
    (hw : iommuLeafDenied w leaf.pte = false) : iommuLeafDenied write leaf.pte = false := by
  obtain ⟨h1, h2, h3, -⟩ := iommuLeafDenied_eq_false.mp hw
  have hr : leaf.pte &&& pteR ≠ 0 := ptePermissions_and_pteR leaf.pte ▸ hs.readable
  refine iommuLeafDenied_eq_false.mpr ⟨h1, h2, h3, ?_⟩
  cases write with
  | false => exact hr
  | true => exact ptePermissions_and_pteW leaf.pte ▸ hs.writable rfl

/-- An entry that serves an access maps it as its leaf does. -/
theorem CacheEntry.Serves.same_range {leaf : Leaf} {iova address size : Nat} {write : Bool}
    (hs : (leaf.translation iova).entry.Serves address size write) (hsize : 1 ≤ size)
    (hend : address + size ≤
      (leaf.translation iova).entry.iovaBase + (leaf.translation iova).entry.size) :
    address / 2 ^ leaf.shift = iova / 2 ^ leaf.shift := by
  have hb := hs.base_le
  simp only [Translation.entry, Leaf.translation] at hb hend
  apply Nat.div_eq_of_lt_le hb
  rw [Nat.succ_mul]
  omega

theorem Leaf.translation_congr {leaf : Leaf} {iova iova' : Nat}
    (h : iova' / 2 ^ leaf.shift = iova / 2 ^ leaf.shift) :
    leaf.translation iova' = leaf.translation iova := by
  rw [translation, translation, h]

end Vart
