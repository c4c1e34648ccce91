import Vart.Iommu.System

/-!
# DMA isolation

Whatever the guest does to its page tables, and whenever it does it, a DMA transfer in a walking
mode stays inside a frame that the tables granted: `Granted` says that a walk from the current
root read the leaf after the last flush and after the last invalidation of its range, and that the
leaf had V and U, the permission for the direction and an aligned frame.

The invariant is `Backed`: every live cache entry is the mapping of such a leaf. It does not
mention the memory, so edits of the tables cannot break it.
-/

namespace Vart

open Lib

/-! ## Fresh leaves -/

/-- The first address that the leaf of a walk for `iova` maps. -/
def Leaf.iovaBase (leaf : Leaf) (iova : Nat) : Nat := iova / 2 ^ leaf.shift * 2 ^ leaf.shift

/-- The number of bytes that a leaf maps. -/
def Leaf.size (leaf : Leaf) : Nat := 2 ^ leaf.shift

/-- The first downstream address of the frame that a leaf names. -/
def Leaf.frame (leaf : Leaf) : Nat := ptePpn leaf.pte * 2 ^ pageShift

/-- The event ends the validity of what was read of `[base, base + size)`. -/
def ContextEvent.Drops (base size : Nat) : ContextEvent → Prop
  | .flush => True
  | .invalidate iova n => RangesMeet base size iova n
  | .leafRead .. => False

/-- A walk for `iova` from `rootPpn` read `leaf`, and since then there was no flush and no
invalidation that overlaps the range of the leaf. -/
def FreshRead (log : List ContextEvent) (mode : ContextMode) (rootPpn iova : Nat) (leaf : Leaf) :
    Prop :=
  ∃ newer older, log = newer ++ .leafRead mode rootPpn iova leaf :: older ∧
    ∀ ev ∈ newer, ¬ ev.Drops (leaf.iovaBase iova) leaf.size

theorem FreshRead.append {log : List ContextEvent} {mode : ContextMode} {rootPpn iova : Nat}
    {leaf : Leaf} (h : FreshRead log mode rootPpn iova leaf) {events : List ContextEvent}
    (he : ∀ ev ∈ events, ¬ ev.Drops (leaf.iovaBase iova) leaf.size) :
    FreshRead (events ++ log) mode rootPpn iova leaf := by
  obtain ⟨newer, older, rfl, hnew⟩ := h
  refine ⟨events ++ newer, older, by rw [List.append_assoc], fun ev hev => ?_⟩
  rcases List.mem_append.mp hev with h | h
  · exact he ev h
  · exact hnew ev h

/-- The leaf permits the access and was read from the table that the context walks now. -/
structure Granted (s : ContextSystem) (write : Bool) (iova : Nat) (leaf : Leaf) : Prop where
  fresh : FreshRead s.log s.context.mode s.context.rootPpn iova leaf
  valid : leaf.pte &&& pteV ≠ 0
  user : leaf.pte &&& pteU ≠ 0
  permission : if write then leaf.pte &&& pteW ≠ 0 else leaf.pte &&& pteR ≠ 0
  aligned : leaf.Aligned

/-! ## The invariant -/

/-- The entry is the mapping of a fresh leaf that permitted some access. -/
def CacheEntry.Backed (e : CacheEntry) (s : ContextSystem) : Prop :=
  ∃ iova leaf w, FreshRead s.log s.context.mode s.context.rootPpn iova leaf ∧ leaf.Wf ∧
    leaf.Aligned ∧ iommuLeafDenied w leaf.pte = false ∧ e = (leaf.translation iova).entry

def Backed (s : ContextSystem) : Prop := ∀ e ∈ s.context.entries, e.Backed s

theorem Backed.of_empty {s : ContextSystem} (h : s.context.entries = []) : Backed s := by
  intro e he
  rw [h] at he
  cases he

/-- Reading leaves drops nothing. -/
theorem translateEvents_not_drops {c : IommuContext} {env : Interference} {m : GuestMemory}
    {address size : Nat} {write : Bool} {ev : ContextEvent}
    (h : ev ∈ translateEvents c env m address size write) (base n : Nat) : ¬ ev.Drops base n := by
  unfold translateEvents at h
  split at h
  · cases h
  split at h
  · cases h
  split at h
  · cases h
  split at h
  · cases h
  split at h
  · cases h
  · rw [List.mem_singleton.mp h]
    exact id

theorem translateEvents_of_walk {c : IommuContext} {env : Interference} {m : GuestMemory}
    {address size v iova : Nat} {write : Bool} {leaf : Leaf} (hv : c.mode.vaBits = some v)
    (hready : size ≠ 0 ∧ c.downstream = true ∧ c.rootValid = true)
    (hi : iommuCanonicalIova address v = .ok iova)
    (hl : iommuCacheLookup c iova size write = none)
    (hleaf : (iommuWalk c.mode.rootBits env iova sv39x4Levels c.root m).2 = .ok leaf) :
    translateEvents c env m address size write = [.leafRead c.mode c.rootPpn iova leaf] := by
  simp [translateEvents, hready, hv, hi, hl, hleaf]

theorem backed_translate {s : ContextSystem} (h : Backed s) (env : Interference)
    (address size : Nat) (write : Bool) (memory : GuestMemory) :
    Backed ⟨(iommuContextTranslate s.context env s.memory address size write).context, memory,
      translateEvents s.context env s.memory address size write ++ s.log⟩ := by
  -- An old entry keeps its leaf: only leaf reads are added to the log.
  have hold : ∀ e ∈ s.context.entries, ∀ c : IommuContext, c.mode = s.context.mode →
      c.rootPpn = s.context.rootPpn → e.Backed ⟨c, memory,
        translateEvents s.context env s.memory address size write ++ s.log⟩ := by
    intro e he c hmode hroot
    obtain ⟨iova, leaf, w, hfresh, hrest⟩ := h e he
    refine ⟨iova, leaf, w, ?_, hrest⟩
    simp only [hmode, hroot]
    exact hfresh.append fun ev hev => translateEvents_not_drops hev _ _
  cases iommuContextTranslate_outcome s.context env s.memory address size write with
  | fail hc => rw [hc]; exact fun e he => hold e he _ rfl rfl
  | identity _ hc => rw [hc]; exact fun e he => hold e he _ rfl rfl
  | hit _ _ _ hc => rw [hc]; exact fun e he => hold e he _ rfl rfl
  | @walk v iova leaf t hv hready hi hl hleaf hden _ ht hc =>
    rw [hc]
    intro e he
    rcases mem_entries_insert he with rfl | he
    · obtain ⟨rfl, halign⟩ := iommuLeafTranslation_ok ht
      refine ⟨iova, leaf, write, ⟨[], s.log, ?_, fun ev hev => nomatch hev⟩,
        (iommuWalk_leaf (Nat.le_refl _) hleaf).1, halign, hden, rfl⟩
      simp only [translateEvents_of_walk hv hready hi hl hleaf, mode_insert, rootPpn_insert]
      rfl
    · exact hold e he _ (mode_insert ..) (rootPpn_insert ..)

theorem backed_invalidate {s : ContextSystem} (h : Backed s) (hwf : s.context.CacheWf)
    (address size : Nat) :
    Backed ⟨(iommuContextInvalidate s.context address size).1, s.memory,
      invalidateEvents s.context address size ++ s.log⟩ := by
  cases iommuContextInvalidate_outcome s.context address size with
  | fail hr => simpa only [hr, invalidateEvents, List.nil_append] using h
  | flush hr => exact .of_empty (by rw [hr]; rfl)
  | @range v iova hv hi hlt hend hr =>
    intro e he
    simp only [hr, entries_bumpGeneration, entries_invalidate, List.mem_filter,
      Bool.not_eq_true'] at he
    obtain ⟨he, hkeep⟩ := he
    obtain ⟨v', hv', hewf⟩ := hwf.entry e he
    obtain rfl : v = v' := Option.some.inj (hv.symm.trans hv')
    obtain ⟨iova', leaf, w, hfresh, hlw, halign, hden, rfl⟩ := h e he
    -- The entry was kept, so the range of its leaf does not meet the dropped one.
    have hmeet : ¬ RangesMeet (leaf.iovaBase iova') leaf.size iova size :=
      fun hm => Bool.eq_false_iff.mp hkeep
        ((hewf.overlap_iff (ContextMode.vaBits_cases hv) hend).mpr hm)
    have hev : invalidateEvents s.context address size = [.invalidate iova size] := by
      simp [invalidateEvents, hr, hv, hi, Nat.not_le.mpr hlt]
    refine ⟨iova', leaf, w, ?_, hlw, halign, hden, rfl⟩
    simp only [hr, hev]
    exact hfresh.append fun ev hmem => List.mem_singleton.mp hmem ▸ hmeet

/-- A mode change that fails changes nothing; one that succeeds leaves an empty cache. -/
theorem backed_flush {s : ContextSystem} (h : Backed s) {r c : IommuContext} {st : Status}
    (hr : (∃ e, (r, st) = (s.context, .error e)) ∨ (r, st) = (iommuCacheFlush c, .ok ())) :
    Backed ⟨r, s.memory, flushEvents st ++ s.log⟩ := by
  rcases hr with ⟨e, he⟩ | he <;> cases he
  · exact h
  · exact .of_empty rfl

theorem backed_contextStep {s : ContextSystem} (h : Backed s) (hwf : s.context.CacheWf)
    (op : ContextOp) : Backed (contextStep s op) := by
  cases op with
  | translate env address size write => exact backed_translate h env address size write _
  | dma env address b =>
    simp only [contextStep, contextBufferAccess_context]
    exact backed_translate h env address b.size b.isWrite _
  | setMode mode => exact backed_flush h (setMode_cases s.context mode)
  | setSv39 rootPpn updateAd => exact backed_flush h (setSv39Mode_cases s.context rootPpn updateAd ..)
  | setSv39x4 rootPpn updateAd =>
    exact backed_flush h (setSv39Mode_cases s.context rootPpn updateAd ..)
  | invalidate address size => exact backed_invalidate h hwf address size
  | edit memory => exact h

theorem ContextSystem.backed {allowed : ContextSystem → ContextOp → Prop} {s : ContextSystem}
    (h : Reach contextStep Initial allowed s) : Backed s := by
  have hboth : s.context.CacheWf ∧ Backed s := by
    apply h.invariant (I := fun s => s.context.CacheWf ∧ Backed s)
    · rintro s ⟨mode, hc, -⟩
      exact ⟨hc ▸ .init mode, .of_empty (by rw [hc]; rfl)⟩
    · exact fun s op hs _ => ⟨cacheWf_contextStep hs.1 op, backed_contextStep hs.2 hs.1 op⟩
  exact hboth.2

/-! ## Transfers -/

/-- A successful translation in a walking mode lands in the frame of a granted leaf. -/
theorem translate_granted {s : ContextSystem} (h : Backed s) (hwf : s.context.CacheWf)
    {env : Interference} {address size v t : Nat} {write : Bool}
    (hsize : 1 ≤ size ∧ size ≤ 2 ^ 32) (hv : s.context.mode.vaBits = some v)
    (ht : (iommuContextTranslate s.context env s.memory address size write).result = .ok t) :
    ∃ iova leaf, Granted (contextStep s (.translate env address size write)) write iova leaf ∧
      leaf.frame ≤ t ∧ t + size ≤ leaf.frame + leaf.size := by
  have hv' := ContextMode.vaBits_cases hv
  cases iommuContextTranslate_outcome s.context env s.memory address size write with
  | fail _ hr => rw [hr] at ht; cases ht
  | identity hmode => rw [hmode] at hv; cases hv
  | @hit v' iova t' hvv hi hl hc hm hr =>
    obtain rfl : v = v' := Option.some.inj (hv.symm.trans hvv)
    obtain rfl : t' = t := Except.ok.inj (hr.symm.trans ht)
    obtain ⟨-, e, he, hserves, rfl⟩ := iommuCacheLookup_some hl
    obtain ⟨v', hv'', hewf⟩ := hwf.entry e he
    obtain rfl : v = v' := Option.some.inj (hv.symm.trans hv'')
    obtain ⟨iova', leaf, w, hfresh, hlw, halign, hden, rfl⟩ := h e he
    have hend := hewf.serves_end hv' hserves (iommuCanonicalIova_lt hv' hi) hsize.2
    have hbase := hserves.base_le
    obtain ⟨-, -, hu, hperm⟩ := iommuLeafDenied_eq_false.mp (hserves.permitted hden)
    refine ⟨iova', leaf, ⟨?_, hlw.pteOk.1, hu, hperm, halign⟩, ?_⟩
    · simp only [contextStep, hc]
      exact hfresh.append fun ev hev => translateEvents_not_drops hev _ _
    · simp only [Translation.entry, Leaf.translation, Leaf.frame, Leaf.size] at *
      omega
  | @walk v' iova leaf tr hvv hready hi hl hleaf hden _ htr hc hr =>
    obtain rfl : v = v' := Option.some.inj (hv.symm.trans hvv)
    obtain rfl := Except.ok.inj (hr.symm.trans ht)
    have hlw := (iommuWalk_leaf (Nat.le_refl _) hleaf).1
    obtain ⟨rfl, halign, hfit⟩ := (iommuLeafTranslation_ok_iff hlw hsize).mp htr
    obtain ⟨-, -, hu, hperm⟩ := iommuLeafDenied_eq_false.mp hden
    refine ⟨iova, leaf, ⟨⟨[], s.log, ?_, fun _ hev => (List.not_mem_nil hev).elim⟩, hlw.pteOk.1, hu,
      hperm, halign⟩, ?_⟩
    · simp only [contextStep, hc, translateEvents_of_walk hv hready hi hl hleaf, mode_insert,
        rootPpn_insert]
      rfl
    · have hdm := Nat.div_add_mod' iova (2 ^ leaf.shift)
      simp only [Leaf.translation, Leaf.frame, Leaf.size] at *
      omega

/-- DMA isolation, for every run. A transfer that succeeds did not happen in fault mode. In a
walking mode it was one access `t` of the downstream memory inside the frame of a granted leaf, and
it changed no byte outside that frame. -/
theorem dma_isolated {s : ContextSystem}
    (h : Reach contextStep ContextSystem.Initial (fun _ _ => True) s) (env : Interference)
    (address : Nat) (b : Buffer) (data : List UInt8) (hsize : 1 ≤ b.size ∧ b.size ≤ 2 ^ 32)
    (hok : (contextBufferAccess s.context env s.memory address b).result = .ok data) :
    s.context.mode ≠ .fault ∧
    (s.context.mode = .sv39 ∨ s.context.mode = .sv39x4 →
      let before := env 6
        (iommuContextTranslate s.context env s.memory address b.size b.isWrite).memory
      let after := contextStep s (.dma env address b)
      ∃ iova leaf t, Granted after b.isWrite iova leaf ∧
        leaf.frame ≤ t ∧ t + b.size ≤ leaf.frame + leaf.size ∧
        before.bufferAccess t b = .ok (after.memory, data) ∧
        ∀ a n, a + n ≤ leaf.frame ∨ leaf.frame + leaf.size ≤ a →
          after.memory.readBuffer a n = before.readBuffer a n) := by
  obtain ⟨t, ht, hacc⟩ := contextBufferAccess_ok (by omega) hok
  constructor
  · intro hfault
    simp [iommuContextTranslate, hfault, show b.size ≠ 0 by omega] at ht
  · intro hmode
    obtain ⟨v, hv⟩ : ∃ v, s.context.mode.vaBits = some v := by
      rcases hmode with h | h <;> rw [h] <;> exact ⟨_, rfl⟩
    obtain ⟨iova, leaf, hg, hlo, hhi⟩ := translate_granted (ContextSystem.backed h)
      (ContextSystem.cacheWf h) hsize hv ht
    refine ⟨iova, leaf, t, ?_, hlo, hhi, hacc, fun a n hout =>
      GuestMemory.bufferAccess_disjoint hacc (by omega)⟩
    obtain ⟨hfresh, hvalid, huser, hperm, halign⟩ := hg
    refine ⟨?_, hvalid, huser, hperm, halign⟩
    simp only [contextStep, contextBufferAccess_context] at hfresh ⊢
    exact hfresh

/-- A context over a table with one 1 GiB leaf, before any transfer. -/
def oneLeafSystem : ContextSystem :=
  runFrom contextStep ⟨iommuContextInit .fault, leafMemory 0xd7, []⟩ [.setSv39 1 false]

theorem oneLeafSystem_reach :
    Reach contextStep ContextSystem.Initial (fun _ _ => True) oneLeafSystem :=
  Reach.runFrom (.start ⟨.fault, rfl, rfl⟩) ⟨trivial, trivial⟩

theorem oneLeafSystem_read :
    (contextBufferAccess oneLeafSystem.context quiet oneLeafSystem.memory 0x1234 (.read 2)).result =
      .ok [0, 0] := by
  decide +kernel

theorem dma_isolated_read :
    ∃ iova leaf,
      Granted (contextStep oneLeafSystem (.dma quiet 0x1234 (.read 2))) false iova leaf := by
  obtain ⟨iova, leaf, _, hg, _⟩ := (dma_isolated oneLeafSystem_reach quiet
    0x1234 (.read 2) [0, 0] (by decide) oneLeafSystem_read).2 (.inl rfl)
  exact ⟨iova, leaf, hg⟩

end Vart
