import Vart.Iommu.System

/-!
# Cached translations against uncached ones

`iommuContextWalk` is the answer of a context that has no cache: it walks the current table on
every call. The invariant `Consistent` says that each live entry is the mapping of a leaf that a
walk of the current table still ends at, so a hit gives the address that the walk gives.

The one difference is the D bit. The cache keeps R, W and X but not D, so after a read of a
writable page with D clear, a write to the page is served from the cache, where a walk (with A/D
updates off) fails with `-EFAULT`. `WriteHitsCleanLeaf` is exactly that case.
-/

namespace Vart

open Lib

/-! ## The reference -/

/-- `iommu_context_translate` without its cache. -/
def iommuContextWalk (c : IommuContext) (m : GuestMemory) (address size : Nat) (write : Bool) :
    Except Errno Nat :=
  if size = 0 then .error .einval
  else if c.mode = .fault then .error .eacces
  else if !c.downstream then .error .enodev
  else match c.mode.vaBits with
  | none => .ok address
  | some v =>
    if !c.rootValid then .error .enodev
    else match iommuCanonicalIova address v with
    | .error e => .error e
    | .ok iova =>
      match (iommuTranslateSv39Mode c quiet m address size write c.mode.rootBits v).2 with
      | .error e => .error e
      | .ok t => .ok (t.translatedBase + (iova - t.iovaBase))

/-- The answer that the cache gives to a translation, if the lookup is reached and hits. -/
def cachedAnswer (c : IommuContext) (address size : Nat) (write : Bool) : Option Nat :=
  if size = 0 ∨ c.mode = .fault ∨ c.downstream = false ∨ c.rootValid = false then none
  else match c.mode.vaBits with
  | none => none
  | some v =>
    match iommuCanonicalIova address v with
    | .error _ => none
    | .ok iova => iommuCacheLookup c iova size write

/-- The leaf that a walk of the current table for `address` ends at. -/
def currentLeaf (c : IommuContext) (m : GuestMemory) (address : Nat) : Option Leaf :=
  match c.mode.vaBits with
  | none => none
  | some v =>
    match iommuCanonicalIova address v with
    | .error _ => none
    | .ok iova => (iommuWalk c.mode.rootBits quiet iova sv39x4Levels c.root m).2.toOption

/-- A write that the cache serves although the D bit of its leaf is clear. -/
def WriteHitsCleanLeaf (c : IommuContext) (m : GuestMemory) (address size : Nat) (write : Bool) :
    Prop :=
  write = true ∧ (cachedAnswer c address size write).isSome = true ∧
    ∃ leaf, currentLeaf c m address = some leaf ∧ leaf.pte &&& pteD = 0

/-- Without a hit the context answers as the walk does. -/
theorem iommuContextTranslate_of_miss {c : IommuContext} {m : GuestMemory} {address size : Nat}
    {write : Bool} (h : cachedAnswer c address size write = none) :
    (iommuContextTranslate c quiet m address size write).result =
      iommuContextWalk c m address size write := by
  unfold iommuContextTranslate iommuContextWalk
  unfold cachedAnswer at h
  split
  · rfl
  rename_i h0
  split
  · rfl
  rename_i h1
  split
  · rfl
  rename_i h2
  cases hv : c.mode.vaBits with
  | none => rfl
  | some v =>
    simp only
    split
    · rfl
    rename_i h3
    cases hi : iommuCanonicalIova address v with
    | error e => rfl
    | ok iova =>
      rw [if_neg (by simp_all)] at h
      simp only [hv, hi] at h
      simp only [h, iommuTranslate_eq hv]
      split <;> rename_i heq <;> rw [heq]

/-- A hit: where it comes from and what the context answers. -/
theorem cachedAnswer_some {c : IommuContext} {address size t : Nat} {write : Bool}
    (h : cachedAnswer c address size write = some t) (m : GuestMemory) :
    ∃ v iova, c.mode.vaBits = some v ∧ iommuCanonicalIova address v = .ok iova ∧
      iommuCacheLookup c iova size write = some t ∧
      (iommuContextTranslate c quiet m address size write).result = .ok t ∧
      iommuContextWalk c m address size write =
        match (iommuTranslateSv39Mode c quiet m address size write c.mode.rootBits v).2 with
        | .error e => .error e
        | .ok tr => .ok (tr.translatedBase + (iova - tr.iovaBase)) := by
  unfold cachedAnswer at h
  split at h
  · cases h
  rename_i hguard
  simp only [not_or, Bool.not_eq_false] at hguard
  obtain ⟨h0, h1, h2, h3⟩ := hguard
  split at h
  · cases h
  rename_i v hv
  split at h
  · cases h
  rename_i iova hi
  refine ⟨v, iova, hv, hi, h, ?_, ?_⟩
  · simp [iommuContextTranslate, h0, h1, h2, h3, hv, hi, h]
  · simp [iommuContextWalk, h0, h1, h2, h3, hv, hi]

/-! ## The invariant -/

/-- The entry maps the range of a leaf that a walk of the current table ends at, and the leaf
passed all checks of the access that put it there. -/
structure CacheEntry.Current (e : CacheEntry) (c : IommuContext) (m : GuestMemory) (v : Nat) :
    Prop where
  ofLeaf : ∃ iova leaf w, iova < 2 ^ v ∧
    (iommuWalk c.mode.rootBits quiet iova sv39x4Levels c.root m).2 = .ok leaf ∧ leaf.Aligned ∧
    iommuLeafDenied w leaf.pte = false ∧ iommuLeafNeedsUpdate w leaf.pte = false ∧
    e = (leaf.translation iova).entry

/-- Every live entry is current. While A/D updates are on the cache is not searched, so nothing is
asked of it then. -/
def Consistent (c : IommuContext) (m : GuestMemory) : Prop :=
  c.updateAd = false → ∀ v, c.mode.vaBits = some v → ∀ e ∈ c.entries, e.Current c m v

theorem Consistent.of_empty {c : IommuContext} {m : GuestMemory} (h : c.entries = []) :
    Consistent c m := by
  intro _ v _ e he
  rw [h] at he
  cases he

/-- The walks of the context end at the same entries in both memories. -/
def SameTables (c : IommuContext) (m m' : GuestMemory) : Prop :=
  ∀ v, c.mode.vaBits = some v → ∀ iova, iova < 2 ^ v →
    (iommuWalk c.mode.rootBits quiet iova sv39x4Levels c.root m').2 =
      (iommuWalk c.mode.rootBits quiet iova sv39x4Levels c.root m).2

theorem Consistent.sameTables {c : IommuContext} {m m' : GuestMemory} (h : Consistent c m)
    (hs : SameTables c m m') : Consistent c m' := by
  intro had v hv e he
  obtain ⟨iova, leaf, w, hi, hwalk, hrest⟩ := (h had v hv e he).ofLeaf
  exact ⟨iova, leaf, w, hi, (hs v hv iova hi).trans hwalk, hrest⟩

/-! ## A hit against the walk -/

/-- The walk for an access that a current entry serves: it ends at the entry's leaf, which maps
the access to the address of the hit and denies it only for a clear D bit. -/
theorem CacheEntry.Current.walk {e : CacheEntry} {c : IommuContext} {m : GuestMemory}
    {v iova size : Nat} {write : Bool} (h : e.Current c m v) (hwf : e.Wf v)
    (hv : v = 39 ∨ v = 41) (hs : e.Serves iova size write) (hi : iova < 2 ^ v)
    (hsize : 1 ≤ size ∧ size ≤ 2 ^ 32) :
    ∃ leaf, (iommuWalk c.mode.rootBits quiet iova sv39x4Levels c.root m).2 = .ok leaf ∧
      iommuLeafDenied write leaf.pte = false ∧ leaf.pte &&& pteA ≠ 0 ∧
      iommuLeafTranslation iova size leaf = .ok (leaf.translation iova) ∧
      e = (leaf.translation iova).entry := by
  obtain ⟨iova', leaf, w, -, hwalk, halign, hden, hupd, rfl⟩ := h.ofLeaf
  have hend := hwf.serves_end hv hs hi hsize.2
  have hsame := hs.same_range hsize.1 hend
  have htr := Leaf.translation_congr hsame
  have hlw := (iommuWalk_leaf (Nat.le_refl _) hwalk).1
  refine ⟨leaf, iommuWalk_quiet_congr (Nat.le_refl _) hwalk hsame, hs.permitted hden, ?_, ?_,
    by rw [htr]⟩
  · intro hA
    simp [iommuLeafNeedsUpdate, hA] at hupd
  · refine (iommuLeafTranslation_ok_iff hlw hsize).mpr ⟨rfl, halign, ?_⟩
    have hdm := Nat.div_add_mod' iova (2 ^ leaf.shift)
    rw [← htr] at hend
    simp only [Translation.entry, Leaf.translation] at hend
    omega

/-- What the walk answers where the cache hits. -/
theorem iommuTranslateSv39Mode_of_leaf {c : IommuContext} {m : GuestMemory}
    {address v iova size : Nat} {write : Bool} {leaf : Leaf} (had : c.updateAd = false)
    (hi : iommuCanonicalIova address v = .ok iova)
    (hwalk : (iommuWalk c.mode.rootBits quiet iova sv39x4Levels c.root m).2 = .ok leaf)
    (hden : iommuLeafDenied write leaf.pte = false) (hA : leaf.pte &&& pteA ≠ 0) :
    (iommuTranslateSv39Mode c quiet m address size write c.mode.rootBits v).2 =
      if write = true ∧ leaf.pte &&& pteD = 0 then .error .efault
      else iommuLeafTranslation iova size leaf := by
  have hpair : iommuWalk c.mode.rootBits quiet iova sv39x4Levels c.root m = (m, .ok leaf) :=
    Prod.ext (iommuWalk_quiet_memory ..) hwalk
  have hneeds : iommuLeafNeedsUpdate write leaf.pte = true ↔
      write = true ∧ leaf.pte &&& pteD = 0 := by
    simp only [iommuLeafNeedsUpdate, Bool.or_eq_true, Bool.and_eq_true, beq_iff_eq, hA, false_or]
  unfold IommuContext.root at hpair
  simp only [iommuTranslateSv39Mode, hi, hpair, iommuLeafAccess, hden, Bool.false_eq_true,
    if_false, had, Bool.not_false, if_true]
  split
  · rename_i hn
    rw [if_pos (hneeds.mp hn)]
  · rename_i hn
    rw [if_neg (fun h => hn (hneeds.mpr h))]

/-- In a consistent state a translation answers as the walk does, except for a write that hits a
leaf with D clear. -/
theorem Consistent.result_eq_iff {c : IommuContext} {m : GuestMemory} (h : Consistent c m)
    (hwf : c.CacheWf) {address size : Nat} {write : Bool} (hsize : 1 ≤ size ∧ size ≤ 2 ^ 32) :
    (iommuContextTranslate c quiet m address size write).result =
        iommuContextWalk c m address size write ↔
      ¬ WriteHitsCleanLeaf c m address size write := by
  cases hans : cachedAnswer c address size write with
  | none => simp [iommuContextTranslate_of_miss hans, WriteHitsCleanLeaf, hans]
  | some t =>
    obtain ⟨v, iova, hv, hi, hlook, hres, hwalkRes⟩ := cachedAnswer_some hans m
    have hv' := ContextMode.vaBits_cases hv
    obtain ⟨had, e, he, hserves, rfl⟩ := iommuCacheLookup_some hlook
    obtain ⟨v', hv'', hewf⟩ := hwf.entry e he
    obtain rfl : v = v' := Option.some.inj (hv.symm.trans hv'')
    obtain ⟨leaf, hleaf, hden, hA, htr, rfl⟩ := (h had v hv e he).walk hewf hv' hserves
      (iommuCanonicalIova_lt hv' hi) hsize
    have hcur : currentLeaf c m address = some leaf := by
      simp [currentLeaf, hv, hi, hleaf, Except.toOption]
    rw [hres, hwalkRes, iommuTranslateSv39Mode_of_leaf had hi hleaf hden hA]
    simp only [WriteHitsCleanLeaf, hans, Option.isSome_some, hcur, Option.some.injEq,
      exists_eq_left', true_and]
    by_cases hbad : write = true ∧ leaf.pte &&& pteD = 0
    · simp only [hbad, and_self, if_true, not_true_eq_false, reduceCtorEq]
    · simp only [htr, hbad, if_false, not_false_eq_true, iff_true]
      rfl

/-! ## The steps keep the invariant -/

theorem iommuTranslateSv39Mode_quiet_memory {c : IommuContext} (had : c.updateAd = false)
    (m : GuestMemory) (address size : Nat) (write : Bool) (rootBits v : Nat) :
    (iommuTranslateSv39Mode c quiet m address size write rootBits v).1 = m := by
  unfold iommuTranslateSv39Mode
  split
  · rfl
  split
  · rename_i m' e hw
    rw [← iommuWalk_quiet_memory rootBits _ sv39x4Levels _ m, hw]
  · rename_i m' leaf hw
    have hm : m' = m := by rw [← iommuWalk_quiet_memory rootBits _ sv39x4Levels _ m, hw]
    simp only [iommuLeafAccess, had, Bool.not_false, if_true, hm]
    split
    · rfl
    split <;> rfl

/-- Without A/D updates and interference a translation leaves memory alone. -/
theorem iommuContextTranslate_quiet_memory {c : IommuContext} (had : c.updateAd = false)
    (m : GuestMemory) (address size : Nat) (write : Bool) :
    (iommuContextTranslate c quiet m address size write).memory = m := by
  unfold iommuContextTranslate
  split
  · rfl
  split
  · rfl
  split
  · rfl
  split
  · rfl
  rename_i v hv
  split
  · rfl
  split
  · rfl
  split
  · rfl
  simp only [iommuTranslate_eq hv]
  have hm := iommuTranslateSv39Mode_quiet_memory had m address size write c.mode.rootBits v
  split <;> rename_i heq <;> rw [heq] at hm <;> exact hm

theorem Consistent.translate {c : IommuContext} {m : GuestMemory} (h : Consistent c m)
    (address size : Nat) (write : Bool) :
    Consistent (iommuContextTranslate c quiet m address size write).context
      (iommuContextTranslate c quiet m address size write).memory := by
  cases iommuContextTranslate_outcome c quiet m address size write with
  | fail hc =>
    rw [hc]
    intro had
    rw [iommuContextTranslate_quiet_memory had]
    exact h had
  | identity _ hc hm => rw [hc, hm]; exact h
  | hit _ _ _ hc hm => rw [hc, hm]; exact h
  | @walk v iova leaf t hv _ hi _ hleaf hden hupd ht hc =>
    rw [hc]
    intro had
    rw [updateAd_insert] at had
    rw [iommuContextTranslate_quiet_memory had]
    intro v' hv' e he
    rw [mode_insert] at hv'
    obtain rfl : v = v' := Option.some.inj (hv.symm.trans hv')
    -- An insertion changes neither the mode nor the root, so walks are the same.
    have hwalks : ∀ x, iommuWalk (iommuCacheInsert c t).mode.rootBits quiet x sv39x4Levels
        (iommuCacheInsert c t).root m = iommuWalk c.mode.rootBits quiet x sv39x4Levels c.root m :=
      fun x => by rw [mode_insert, IommuContext.root, rootPpn_insert, IommuContext.root]
    have hcur : e.Current c m v := by
      rcases mem_entries_insert he with rfl | he
      · obtain ⟨rfl, halign⟩ := iommuLeafTranslation_ok ht
        refine ⟨iova, leaf, write, iommuCanonicalIova_lt (ContextMode.vaBits_cases hv) hi, hleaf,
          halign, hden, ?_, rfl⟩
        exact Bool.eq_false_iff.mpr fun hn => by rw [hupd hn] at had; cases had
      · exact h had v hv e he
    obtain ⟨iova', leaf', w, hlt, hwalk, hrest⟩ := hcur.ofLeaf
    exact ⟨iova', leaf', w, hlt, by rw [hwalks]; exact hwalk, hrest⟩

theorem Consistent.invalidate {c : IommuContext} {m : GuestMemory} (h : Consistent c m)
    (address size : Nat) : Consistent (iommuContextInvalidate c address size).1 m := by
  cases iommuContextInvalidate_outcome c address size with
  | fail hr => rw [hr]; exact h
  | flush hr => rw [hr]; exact .of_empty rfl
  | range _ _ _ _ hr =>
    rw [hr]
    intro had v hv e he
    rw [entries_bumpGeneration, entries_invalidate] at he
    obtain ⟨iova, leaf, w, hrest⟩ := (h had v hv e (List.mem_filter.mp he).1).ofLeaf
    exact ⟨iova, leaf, w, hrest⟩

/-! ## Runs -/

/-- The calls of a run in which only the walker edits the page tables while the cache holds
something. A DMA transfer may write to guest memory, but not to the tables. -/
def Undisturbed (s : ContextSystem) : ContextOp → Prop
  | .translate env _ size _ => env = quiet ∧ 1 ≤ size ∧ size ≤ 2 ^ 32
  | .dma env address b => env = quiet ∧ 1 ≤ b.size ∧ b.size ≤ 2 ^ 32 ∧
      SameTables (contextBufferAccess s.context quiet s.memory address b).context
        (iommuContextTranslate s.context quiet s.memory address b.size b.isWrite).memory
        (contextBufferAccess s.context quiet s.memory address b).memory
  | .edit memory => s.context.entries = [] ∨ SameTables s.context s.memory memory
  | _ => True

theorem consistent_contextStep {s : ContextSystem} {op : ContextOp}
    (h : Consistent s.context s.memory) (ha : Undisturbed s op) :
    Consistent (contextStep s op).context (contextStep s op).memory := by
  cases op with
  | translate env address size write =>
    obtain ⟨rfl, -⟩ := ha
    exact h.translate address size write
  | dma env address b =>
    obtain ⟨rfl, -, -, hsame⟩ := ha
    refine Consistent.sameTables ?_ hsame
    simp only [contextStep, contextBufferAccess_context]
    exact h.translate address b.size b.isWrite
  | setMode mode =>
    rcases setMode_cases s.context mode with ⟨e, he⟩ | he <;> simp only [contextStep, he]
    · exact h
    · exact .of_empty rfl
  | setSv39 rootPpn updateAd =>
    rcases setSv39Mode_cases s.context rootPpn updateAd .sv39 false with ⟨e, he⟩ | he <;>
      simp only [contextStep, iommuContextSetSv39, he]
    · exact h
    · exact .of_empty rfl
  | setSv39x4 rootPpn updateAd =>
    rcases setSv39Mode_cases s.context rootPpn updateAd .sv39x4 true with ⟨e, he⟩ | he <;>
      simp only [contextStep, iommuContextSetSv39x4, he]
    · exact h
    · exact .of_empty rfl
  | invalidate address size => exact h.invalidate address size
  | edit memory =>
    rcases ha with hempty | hsame
    · exact .of_empty hempty
    · exact h.sameTables hsame

theorem ContextSystem.consistent {s : ContextSystem}
    (h : Reach contextStep Initial Undisturbed s) : Consistent s.context s.memory := by
  apply h.invariant (I := fun s => Consistent s.context s.memory)
  · rintro s ⟨mode, hc, -⟩
    rw [hc]
    exact .of_empty rfl
  · exact fun s op hs ha => consistent_contextStep hs ha

/-- In every state of an undisturbed run, each translation answers as an uncached walk of the
current tables, unless it is a write that hits a leaf with D clear. -/
theorem translate_transparent_iff {s : ContextSystem}
    (h : Reach contextStep ContextSystem.Initial Undisturbed s) (address size : Nat) (write : Bool)
    (hsize : 1 ≤ size ∧ size ≤ 2 ^ 32) :
    (iommuContextTranslate s.context quiet s.memory address size write).result =
        iommuContextWalk s.context s.memory address size write ↔
      ¬ WriteHitsCleanLeaf s.context s.memory address size write :=
  (ContextSystem.consistent h).result_eq_iff (ContextSystem.cacheWf h) hsize

/-- A context over a table whose leaf has V, R, W, U and A set and D clear, after a read of
`0x1234`. -/
def afterCleanRead : ContextSystem :=
  runFrom contextStep ⟨iommuContextInit .identity, leafMemory 0x57, []⟩
    [.setSv39 1 false, .translate quiet 0x1234 8 false]

theorem afterCleanRead_reach : Reach contextStep ContextSystem.Initial Undisturbed afterCleanRead :=
  Reach.runFrom (.start ⟨.identity, rfl, rfl⟩)
    ⟨trivial, ⟨rfl, by decide, by decide⟩, trivial⟩

theorem translate_transparent_read :
    (iommuContextTranslate afterCleanRead.context quiet afterCleanRead.memory 0x1234 8 false).result =
      iommuContextWalk afterCleanRead.context afterCleanRead.memory 0x1234 8 false :=
  (translate_transparent_iff afterCleanRead_reach 0x1234 8 false (by decide)).mpr
    (fun h => Bool.noConfusion h.1)

/-- After the read, the cache lets a write through that a walk refuses. -/
theorem translate_write_after_read_differs :
    Reach contextStep ContextSystem.Initial Undisturbed afterCleanRead ∧
      (iommuContextTranslate afterCleanRead.context quiet afterCleanRead.memory 0x1234 8 true).result =
        .ok 0x1234 ∧
      iommuContextWalk afterCleanRead.context afterCleanRead.memory 0x1234 8 true =
        .error .efault :=
  ⟨afterCleanRead_reach, rfl, rfl⟩

end Vart
