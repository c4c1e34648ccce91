import Vart.Riscv.Contexts

/-!
# The IOTINVAL command

An IOTINVAL.VMA command drops translations of all bound contexts: all of them, or with an address
those that meet the 4 KiB page of the address. An entry of a cache is for folded addresses; what it
covers of the 64-bit address space is `CacheEntry.covers`.

* `entries_invalidate_page`: the invalidation of one page keeps exactly the other entries.
* `iotinval_complete_precise`: the command, for all bound contexts of every reachable system.
-/

namespace Vart

open Lib

/-! ## What an entry covers -/

/-- The entry of a cache for `v`-bit addresses translates the 64-bit address `x`. -/
def CacheEntry.covers (e : CacheEntry) (v x : Nat) : Bool :=
  match iommuCanonicalIova x v with
  | .error _ => false
  | .ok iova => decide (e.iovaBase ≤ iova ∧ iova < e.iovaBase + e.size)

/-- The entry translates an address of the page. -/
def CacheEntry.MeetsPage (e : CacheEntry) (v page : Nat) : Prop :=
  ∃ i < iommuPageSize, e.covers v (page + i) = true

instance (e : CacheEntry) (v page : Nat) : Decidable (e.MeetsPage v page) :=
  inferInstanceAs (Decidable (∃ i < iommuPageSize, _))

theorem CacheEntry.covers_iff {e : CacheEntry} {v x : Nat} :
    e.covers v x = true ↔
      ∃ iova, iommuCanonicalIova x v = .ok iova ∧ e.iovaBase ≤ iova ∧ iova < e.iovaBase + e.size := by
  unfold CacheEntry.covers
  split
  · rename_i h
    simp [h]
  · rename_i iova h
    simp [h]

/-- A page lies in the canonical addresses as a whole or not at all. -/
theorem iommuCanonicalIova_page {v page i : Nat} (hv : v = 39 ∨ v = 41)
    (halign : page % iommuPageSize = 0) (hi : i < iommuPageSize) {iova : Nat} :
    iommuCanonicalIova (page + i) v = .ok iova ↔
      ∃ base, iommuCanonicalIova page v = .ok base ∧ iova = base + i := by
  simp only [iommuCanonicalIova_ok_iff hv, iommuPageSize] at *
  rcases hv with rfl | rfl
  · constructor
    · rintro ⟨rfl, h⟩
      exact ⟨_, ⟨rfl, by omega⟩, by omega⟩
    · rintro ⟨base, ⟨rfl, h⟩, rfl⟩
      omega
  · constructor
    · rintro ⟨rfl, h⟩
      exact ⟨_, ⟨rfl, by omega⟩, by omega⟩
    · rintro ⟨base, ⟨rfl, h⟩, rfl⟩
      omega

/-- On a canonical page the entries are compared by folded addresses. -/
theorem CacheEntry.meetsPage_iff {e : CacheEntry} {v page base : Nat} (hv : v = 39 ∨ v = 41)
    (halign : page % iommuPageSize = 0) (hpos : 0 < e.size)
    (hbase : iommuCanonicalIova page v = .ok base) :
    e.MeetsPage v page ↔ RangesMeet e.iovaBase e.size base iommuPageSize := by
  unfold CacheEntry.MeetsPage RangesMeet
  constructor
  · rintro ⟨i, hi, hcovers⟩
    obtain ⟨iova, hiova, hle, hlt⟩ := covers_iff.mp hcovers
    obtain ⟨base', hbase', rfl⟩ := (iommuCanonicalIova_page hv halign hi).mp hiova
    obtain rfl : base = base' := Except.ok.inj (hbase.symm.trans hbase')
    omega
  · rintro ⟨hle, hlt⟩
    have hpage : 0 < iommuPageSize := by decide
    -- The first common address is the larger one of the two starts.
    refine ⟨e.iovaBase - base, by omega, covers_iff.mpr ⟨base + (e.iovaBase - base), ?_, by omega⟩⟩
    exact (iommuCanonicalIova_page hv halign (by omega)).mpr ⟨base, hbase, rfl⟩

/-- Nothing covers a page that is not canonical. -/
theorem CacheEntry.not_meetsPage {e : CacheEntry} {v page : Nat} {err : Errno}
    (hv : v = 39 ∨ v = 41) (halign : page % iommuPageSize = 0)
    (hpage : iommuCanonicalIova page v = .error err) : ¬ e.MeetsPage v page := by
  rintro ⟨i, hi, hcovers⟩
  obtain ⟨iova, hiova, -⟩ := covers_iff.mp hcovers
  obtain ⟨base, hbase, -⟩ := (iommuCanonicalIova_page hv halign hi).mp hiova
  rw [hpage] at hbase
  cases hbase

theorem CacheEntry.Wf.size_pos {e : CacheEntry} {v : Nat} (h : e.Wf v) : 0 < e.size := by
  rcases h.size_eq with h | h | h <;> rw [h] <;> decide

/-! ## One context -/

/-- An invalidation of one page keeps exactly the entries that do not meet it, in order. -/
theorem entries_invalidate_page {c : IommuContext} (hwf : c.CacheWf) {v page : Nat}
    (hv : c.mode.vaBits = some v) (halign : page % iommuPageSize = 0) (hlt : page < 2 ^ 64) :
    (iommuContextInvalidate c page iommuPageSize).1.entries =
      c.entries.filter fun e => !decide (e.MeetsPage v page) := by
  have hv' := ContextMode.vaBits_cases hv
  have hfits : ¬ (iommuPageSize = 0 ∨ page > uint64Max - (iommuPageSize - 1)) := by
    simp only [iommuPageSize, uint64Max] at *
    omega
  have hentry : ∀ e ∈ c.entries, e.Wf v := by
    intro e he
    obtain ⟨v', hv'', hwf⟩ := hwf.entry e he
    obtain rfl : v = v' := Option.some.inj (hv.symm.trans hv'')
    exact hwf
  unfold iommuContextInvalidate
  rw [if_neg hfits]
  simp only [hv, Nat.one_shiftLeft]
  cases hpage : iommuCanonicalIova page v with
  | error err =>
    symm
    rw [List.filter_eq_self]
    intro e _
    rw [decide_eq_false (CacheEntry.not_meetsPage hv' halign hpage)]
    rfl
  | ok iova =>
    obtain ⟨hiova, -⟩ := (iommuCanonicalIova_ok_iff hv').mp hpage
    have hend : iova + iommuPageSize ≤ 2 ^ v ∧ iommuPageSize < 2 ^ v := by
      simp only [iommuPageSize] at *
      rcases hv' with rfl | rfl <;> omega
    simp only
    rw [if_neg (by omega), if_neg (by omega)]
    simp only [entries_bumpGeneration, entries_invalidate]
    refine List.filter_congr fun e he => ?_
    have hwf := hentry e he
    have hmeet := CacheEntry.meetsPage_iff hv' halign hwf.size_pos hpage
    rw [Bool.eq_iff_iff, Bool.not_eq_true', Bool.not_eq_true', decide_eq_false_iff_not, hmeet,
      ← hwf.overlap_iff hv' hend.1, Bool.not_eq_true]

/-- An invalidation adds no entries. -/
theorem mem_entries_of_invalidate {c : IommuContext} {address size : Nat} {e : CacheEntry}
    (h : e ∈ (iommuContextInvalidate c address size).1.entries) : e ∈ c.entries := by
  cases iommuContextInvalidate_outcome c address size with
  | fail heq => rwa [heq] at h
  | flush heq => rw [heq] at h; cases h
  | range _ _ _ _ heq =>
    rw [heq, entries_bumpGeneration, entries_invalidate] at h
    exact (List.mem_filter.mp h).1

/-- The range of the command without an address is all of the address space of a context. -/
theorem entries_invalidate_all (c : IommuContext) :
    (iommuContextInvalidate c 0 (1 <<< 41)).1.entries = [] := by
  unfold iommuContextInvalidate
  rw [if_neg (by decide)]
  split
  · rename_i v hv
    rcases ContextMode.vaBits_cases hv with rfl | rfl
    · rfl
    · rfl
  · rfl

/-! ## The command -/

/-- An IOTINVAL.VMA command without PSCV and GV. -/
def IsIotinval (dword0 : Nat) : Prop :=
  dword0 &&& 0x7f = cmdIotinval ∧ (dword0 >>> 7) &&& 0x7 = 0 ∧
    dword0 &&& (1 <<< 32 ||| 1 <<< 33) = 0

/-- The 4 KiB page of the address in the second word of a command. -/
def commandPage (dword1 : Nat) : Nat := dword1 * 4 / iommuPageSize * iommuPageSize

theorem commandPage_eq (dword1 : Nat) :
    andNot (dword1 * 4) (iommuPageSize - 1) = commandPage dword1 := by
  have hmask : iommuPageSize - 1 = 1 <<< 12 - 1 := by decide
  rw [hmask, andNot_mask, sub_mod_eq_div_mul]
  rfl

/-- The command reaches each bound context with the same range. -/
theorem iommuInvalidateCommand_iotinval {s : IommuSystem} {dword0 dword1 : Nat}
    (hcmd : IsIotinval dword0) (haddr : dword0 &&& cmdAv ≠ 0 → dword1 ≤ uint64Max / 4)
    {b : Binding} (hb : b ∈ s.iommu.bindings.list) :
    (iommuInvalidateCommand s dword0 dword1).1.contexts b.context =
      (iommuContextInvalidate (s.contexts b.context)
        (if dword0 &&& cmdAv ≠ 0 then commandPage dword1 else 0)
        (if dword0 &&& cmdAv ≠ 0 then iommuPageSize else 1 <<< 41)).1 := by
  obtain ⟨hop, hfunc, hflags⟩ := hcmd
  have hne : s.iommu.bindings.list ≠ [] := List.ne_nil_of_mem hb
  unfold iommuInvalidateCommand
  simp only [commandPage_eq]
  generalize (if dword0 &&& cmdAv ≠ 0 then commandPage dword1 else 0) = address
  generalize (if dword0 &&& cmdAv ≠ 0 then iommuPageSize else 1 <<< 41) = size
  rw [if_neg (fun h => absurd (hop.symm.trans h.1) (by decide)),
    if_neg (fun h => absurd (hop.symm.trans h.1) (by decide)),
    if_neg (by simp only [hop, hfunc, hflags, hne, ne_eq, not_true_eq_false, false_and, or_self,
      not_false_eq_true]),
    if_neg (fun h => absurd (haddr h.1) (Nat.not_le.mpr h.2))]
  split
  · rename_i hnil _; exact absurd hnil hne
  · rename_i hnil _; exact absurd hnil hne
  · rename_i hlist
    rw [iommuInvalidateContexts_eq, ← hlist]
    exact mapBound_of_mem _ s s.iommu.bindings.contexts_nodup hb

/-- In every reachable system an IOTINVAL.VMA command drops the entries of all bound contexts: all
of them without an address, else exactly those that meet the page of the address. The caches have
at most 64 entries, all valid, and an entry is dropped with any page it covers. -/
theorem iotinval_complete_precise {sink : Sink} {allowed : IommuSystem → IommuOp → Prop}
    {s : IommuSystem} (hs : Reach (iommuStep sink) IommuSystem.Initial allowed s) :
    (∀ dword0 dword1 : Nat, IsIotinval dword0 → dword0 &&& cmdAv = 0 →
      ∀ b ∈ s.iommu.bindings.list,
        ((iommuInvalidateCommand s dword0 dword1).1.contexts b.context).entries = []) ∧
    (∀ dword0 dword1 : Nat, IsIotinval dword0 → dword0 &&& cmdAv ≠ 0 → dword1 ≤ uint64Max / 4 →
      ∀ b ∈ s.iommu.bindings.list,
        let c := s.contexts b.context
        let c' := (iommuInvalidateCommand s dword0 dword1).1.contexts b.context
        (∀ e ∈ c'.entries, ∃ v, c.mode.vaBits = some v ∧ ¬ e.MeetsPage v (commandPage dword1)) ∧
        ∀ v, c.mode.vaBits = some v →
          c'.entries = c.entries.filter fun e => !decide (e.MeetsPage v (commandPage dword1))) ∧
    ∀ n, let c := s.contexts n
      c.cacheCount ≤ 64 ∧ (∀ i < c.cacheCount, (c.cache i).valid = true) ∧
      ∀ v page : Nat, c.mode.vaBits = some v → page % iommuPageSize = 0 → page < 2 ^ 64 →
        ∀ e ∈ c.entries, e.covers v page = true →
          e ∉ (iommuContextInvalidate c page iommuPageSize).1.entries := by
  refine ⟨?_, ?_, fun n => ?_⟩
  · intro dword0 dword1 hcmd hav b hb
    rw [iommuInvalidateCommand_iotinval hcmd (absurd hav) hb]
    simp only [hav, ne_eq, not_true_eq_false, if_false]
    exact entries_invalidate_all _
  · intro dword0 dword1 hcmd hav haddr b hb c c'
    have hc' : c' = (iommuContextInvalidate c (commandPage dword1) iommuPageSize).1 := by
      simp only [c', iommuInvalidateCommand_iotinval hcmd (fun _ => haddr) hb, if_pos hav, c]
    have hwf : c.CacheWf := IommuSystem.cacheWf hs b.context
    have hkeep : ∀ v, c.mode.vaBits = some v →
        c'.entries = c.entries.filter fun e => !decide (e.MeetsPage v (commandPage dword1)) := by
      intro v hv
      rw [hc']
      refine entries_invalidate_page hwf hv (Nat.mul_mod_left ..) ?_
      have hle : commandPage dword1 ≤ dword1 * 4 := Nat.div_mul_le_self ..
      simp only [uint64Max] at haddr
      omega
    refine ⟨fun e he => ?_, hkeep⟩
    -- An entry that is left was there before, so the context walks a table.
    obtain ⟨v, hv, -⟩ := hwf.entry e (mem_entries_of_invalidate (hc' ▸ he))
    rw [hkeep v hv, List.mem_filter] at he
    exact ⟨v, hv, by simpa using he.2⟩
  · intro c
    have hwf : c.CacheWf := IommuSystem.cacheWf hs n
    refine ⟨hwf.count_le, fun i hi => ?_, fun v page hv halign hlt e he hcovers hmem => ?_⟩
    · obtain ⟨v, -, hentry⟩ := hwf.entry (c.cache i) (List.mem_map_of_mem (List.mem_range.mpr hi))
      exact hentry.valid
    · rw [entries_invalidate_page hwf hv halign hlt, List.mem_filter] at hmem
      have hmeets : e.MeetsPage v page := ⟨0, by decide, hcovers⟩
      simp [hmeets] at hmem

/-- A bound context with the translation of `0x1234` in its cache, a 1 GiB page. -/
def translatedOnce : IommuSystem :=
  runFrom (iommuStep fun _ => .ok ()) (deviceBound (leafMemory 0x57))
    [.setSv39 0 1 false, .translate 0 quiet 0x1234 8 false]

/-- The invalidation of another page inside the superpage drops it. -/
theorem translatedOnce_dropped :
    (translatedOnce.contexts 0).entries.length = 1 ∧
    ((iommuInvalidateCommand translatedOnce (1 ||| cmdAv) (0x5000 / 4)).1.contexts 0).entries =
      [] := by
  have hreach : Reach (iommuStep fun _ => .ok ()) IommuSystem.Initial IommuOp.Valid
      translatedOnce :=
    Reach.runFrom (deviceBound_reach (by decide)) ⟨trivial, trivial, trivial⟩
  have hbound : translatedOnce.iommu.bindings.list = [⟨1, 0⟩] := by decide +kernel
  have hkept := ((iotinval_complete_precise hreach).2.1 (1 ||| cmdAv) (0x5000 / 4)
    ⟨by decide, by decide, by decide⟩ (by decide) (by decide) ⟨1, 0⟩
    (by rw [hbound]; exact List.mem_singleton_self _)).2 39 (by decide +kernel)
  have hall : ∀ e ∈ (translatedOnce.contexts 0).entries,
      e.covers 39 (commandPage (0x5000 / 4)) = true := by decide +kernel
  refine ⟨by decide +kernel, hkept.trans (List.filter_eq_nil_iff.mpr fun e he => ?_)⟩
  have hmeets : e.MeetsPage 39 (commandPage (0x5000 / 4)) := ⟨0, by decide, hall e he⟩
  simp [hmeets]

end Vart
