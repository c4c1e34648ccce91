import Vart.Core.AddressSpace
import Vart.Lib.Bits
import Vart.Lib.Compact

/-!
# IOMMU contexts (`iommu/iommu.c`)

A context translates the DMA addresses of one device. `iommuTranslateSv39Mode` walks a three-level
Sv39 or Sv39x4 table in guest memory; `iommuContextTranslate` searches the 64-entry cache first and
records the leaf of a walk in it. The mode changes, `iommuContextSetMode` and
`iommuContextSetSv39Mode`, flush the cache and `iommuContextInvalidate` drops the entries that
overlap a range.

The vCPUs run while a walk reads guest memory. An `Interference` says what they do to the memory
before each access of a walk: access `2 * level` is the read of the PTE at `level`, access
`2 * level + 1` is its A/D update, and access `6` is the DMA transfer that follows the walk.
`quiet` leaves memory alone. The mutex of the context keeps all other calls out of a walk.

A context here went through `vart_iommu_context_init`, so its lock exists. `downstream` keeps
whether the pointer to the downstream space is set; the space itself is the `GuestMemory`
argument.
-/

namespace Vart

open Lib

/-! ## Data -/

inductive ContextMode where
  | identity | fault | sv39 | sv39x4
deriving DecidableEq, Repr

structure CacheEntry where
  iovaBase : Nat
  translatedBase : Nat
  size : Nat
  permissions : Nat
  valid : Bool
deriving DecidableEq, Repr

/-- A cache entry of zero bytes. -/
def CacheEntry.zero : CacheEntry := ⟨0, 0, 0, 0, false⟩

/-- `VART_IOMMU_CACHE_ENTRIES`. -/
abbrev cacheEntries : Nat := 64

structure IommuContext where
  /-- `downstream` is not `NULL`. -/
  downstream : Bool
  /-- The PCI function that DMA comes from. -/
  attachedDevice : Option Nat
  savedDmaAs : Option SpaceId
  savedDmaAsFromBus : Bool
  requesterId : UInt16
  mode : ContextMode
  rootPpn : Nat
  invalidationGeneration : Nat
  rootValid : Bool
  updateAd : Bool
  /-- `fault_handler` is not `NULL`. -/
  faultHandler : Bool
  cache : Nat → CacheEntry
  cacheCount : Nat
  cacheNext : Nat

/-- `VartIommuTranslation`: what a walk found. -/
structure Translation where
  iovaBase : Nat
  translatedBase : Nat
  size : Nat
  permissions : Nat
deriving DecidableEq, Repr

/-- `vart_iommu_context_init`. -/
def iommuContextInit (mode : ContextMode) : IommuContext where
  downstream := true
  attachedDevice := none
  savedDmaAs := none
  savedDmaAsFromBus := false
  requesterId := 0
  mode := mode
  rootPpn := 0
  invalidationGeneration := 0
  rootValid := false
  updateAd := false
  faultHandler := false
  cache := fun _ => .zero
  cacheCount := 0
  cacheNext := 0

/-! ## Page-table entries -/

abbrev pageShift : Nat := 12
abbrev pteSize : Nat := 8
abbrev ptIndexBits : Nat := 9
abbrev sv39RootBits : Nat := 9
abbrev sv39VaBits : Nat := 39
abbrev sv39x4RootBits : Nat := 11
abbrev sv39x4Levels : Nat := 3
abbrev sv39x4VaBits : Nat := 41

abbrev pteV : Nat := 0x001
abbrev pteR : Nat := 0x002
abbrev pteW : Nat := 0x004
abbrev pteX : Nat := 0x008
abbrev pteU : Nat := 0x010
abbrev pteA : Nat := 0x040
abbrev pteD : Nat := 0x080
abbrev ptePpnMask : Nat := 0x003ffffffffffc00
abbrev pteReserved : Nat := 0x1fc0000000000000
abbrev pteN : Nat := 0x8000000000000000

/-- The R, W and X bits of an entry. -/
def ptePermissions (pte : Nat) : Nat := pte &&& (pteR ||| pteW ||| pteX)

/-- The physical page number of an entry. -/
def ptePpn (pte : Nat) : Nat := (pte &&& ptePpnMask) >>> 10

def iommuReadPte (m : GuestMemory) (address : Nat) : Except Errno Nat :=
  match m.readBuffer address pteSize with
  | .error e => .error e
  | .ok data => .ok (loadLe data)

def iommuWritePte (m : GuestMemory) (address pte : Nat) : Except Errno GuestMemory :=
  m.writeBuffer address (storeLe pteSize pte)

def iommuCanonicalIova (address vaBits : Nat) : Except Errno Nat :=
  let lowMask := 1 <<< vaBits - 1
  let upper := address >>> (vaBits - 1)
  let signExtended := uint64Max >>> (vaBits - 1)
  if upper ≠ 0 ∧ upper ≠ signExtended then .error .efault
  else .ok (address &&& lowMask)

/-! ## The walk -/

/-- What the vCPUs do to guest memory before each access of a walk. -/
abbrev Interference := Nat → GuestMemory → GuestMemory

/-- No vCPU writes to memory during a walk. -/
def quiet : Interference := fun _ m => m

/-- The entry that ended a walk: the first one with permission bits. -/
structure Leaf where
  level : Nat
  shift : Nat
  pteAddress : Nat
  pte : Nat
deriving DecidableEq, Repr

/-- `shift` at a level of the table. -/
def iommuLevelShift (level : Nat) : Nat := pageShift + ptIndexBits * (sv39x4Levels - 1 - level)

/-- `index` at a level of the table. -/
def iommuLevelIndex (rootBits iova level : Nat) : Nat :=
  (iova >>> iommuLevelShift level) &&& (1 <<< (if level = 0 then rootBits else ptIndexBits) - 1)

/-- The loop of `iommu_translate_sv39_mode` up to the leaf, with `remaining` levels left. -/
def iommuWalk (rootBits : Nat) (env : Interference) (iova : Nat) :
    (remaining : Nat) → (table : Nat) → GuestMemory → GuestMemory × Except Errno Leaf
  | 0, _, m => (m, .error .efault)
  | n + 1, table, m =>
    let level := sv39x4Levels - (n + 1)
    let index := iommuLevelIndex rootBits iova level
    if table > uint64Max - index * pteSize then (m, .error .efault)
    else
      let pteAddress := table + index * pteSize
      let m := env (2 * level) m
      match iommuReadPte m pteAddress with
      | .error e => (m, .error e)
      | .ok pte =>
        if pte &&& pteV = 0 ∨ pte &&& pteReserved ≠ 0 ∨ pte &&& pteN ≠ 0 then (m, .error .efault)
        else if ptePermissions pte = 0 then
          if level = sv39x4Levels - 1 ∨ ptePpn pte > uint64Max >>> pageShift then
            (m, .error .efault)
          else iommuWalk rootBits env iova n (ptePpn pte <<< pageShift) m
        else (m, .ok { level, shift := iommuLevelShift level, pteAddress, pte })

/-- The mapping that a leaf gives, after the permission and A/D checks: its frame is aligned and
the access does not leave it. -/
def iommuLeafTranslation (iova size : Nat) (leaf : Leaf) : Except Errno Translation :=
  let ppn := ptePpn leaf.pte
  let pageMask := 1 <<< leaf.shift - 1
  if ppn > uint64Max >>> pageShift then .error .efault
  else if ppn &&& (1 <<< (leaf.shift - pageShift) - 1) ≠ 0 then .error .efault
  else if iova &&& pageMask > uint64Max - (size - 1) ∨
      ((iova &&& pageMask) + size) % 2 ^ 64 > pageMask + 1 then .error .erange
  else if ppn <<< pageShift > uint64Max - (iova &&& pageMask) then .error .efault
  else .ok {
    iovaBase := andNot iova pageMask
    translatedBase := ppn <<< pageShift
    size := pageMask + 1
    permissions := ptePermissions leaf.pte }

/-- A leaf refuses the direction of the access, or is not for user accesses. -/
def iommuLeafDenied (write : Bool) (pte : Nat) : Bool :=
  ptePermissions pte == pteW || ptePermissions pte == (pteW ||| pteX) || pte &&& pteU == 0 ||
    (if write then pte &&& pteW == 0 else pte &&& pteR == 0)

/-- A leaf lacks an A or D bit that the access needs. -/
def iommuLeafNeedsUpdate (write : Bool) (pte : Nat) : Bool :=
  pte &&& pteA == 0 || (write && pte &&& pteD == 0)

/-- The entry after its A/D update. -/
def iommuPteUpdated (write : Bool) (pte : Nat) : Nat :=
  pte ||| pteA ||| (if write then pteD else 0)

/-- The rest of `iommu_translate_sv39_mode`, from the leaf on. -/
def iommuLeafAccess (c : IommuContext) (env : Interference) (iova size : Nat) (write : Bool)
    (leaf : Leaf) (m : GuestMemory) : GuestMemory × Except Errno Translation :=
  if iommuLeafDenied write leaf.pte then (m, .error .eacces)
  else if iommuLeafNeedsUpdate write leaf.pte then
    if !c.updateAd then (m, .error .efault)
    else
      let m := env (2 * leaf.level + 1) m
      match iommuWritePte m leaf.pteAddress (iommuPteUpdated write leaf.pte) with
      | .error e => (m, .error e)
      | .ok m => (m, iommuLeafTranslation iova size leaf)
  else (m, iommuLeafTranslation iova size leaf)

/-- `iommu_translate_sv39_mode`. -/
def iommuTranslateSv39Mode (c : IommuContext) (env : Interference) (m : GuestMemory)
    (address size : Nat) (write : Bool) (rootBits vaBits : Nat) :
    GuestMemory × Except Errno Translation :=
  match iommuCanonicalIova address vaBits with
  | .error e => (m, .error e)
  | .ok iova =>
    match iommuWalk rootBits env iova sv39x4Levels ((c.rootPpn <<< pageShift) % 2 ^ 64) m with
    | (m, .error e) => (m, .error e)
    | (m, .ok leaf) => iommuLeafAccess c env iova size write leaf m

def iommuTranslateSv39 (c : IommuContext) (env : Interference) (m : GuestMemory)
    (address size : Nat) (write : Bool) : GuestMemory × Except Errno Translation :=
  iommuTranslateSv39Mode c env m address size write sv39RootBits sv39VaBits

def iommuTranslateSv39x4 (c : IommuContext) (env : Interference) (m : GuestMemory)
    (address size : Nat) (write : Bool) : GuestMemory × Except Errno Translation :=
  iommuTranslateSv39Mode c env m address size write sv39x4RootBits sv39x4VaBits

/-! ## The cache -/

/-- The entries below `cache_count`, in array order. -/
def IommuContext.entries (c : IommuContext) : List CacheEntry := cells c.cache c.cacheCount

def iommuCacheFlush (c : IommuContext) : IommuContext :=
  { c with cache := fun _ => .zero, cacheCount := 0, cacheNext := 0 }

/-- The lookup loop goes past the entry. -/
def CacheEntry.skipped (e : CacheEntry) (address size : Nat) (write : Bool) : Bool :=
  !e.valid || decide (address < e.iovaBase) || decide (address > uint64Max - (size - 1)) ||
    decide ((address + size) % 2 ^ 64 > (e.iovaBase + e.size) % 2 ^ 64) ||
    e.permissions &&& pteR == 0 || (write && e.permissions &&& pteW == 0)

/-- The loop of `iommu_cache_lookup`. -/
def iommuCacheScan (address size : Nat) (write : Bool) : List CacheEntry → Option Nat
  | [] => none
  | e :: es =>
    if e.skipped address size write then iommuCacheScan address size write es
    else if e.translatedBase > uint64Max - (address - e.iovaBase) then none
    else if e.translatedBase + (address - e.iovaBase) > uint64Max - (size - 1) then none
    else some (e.translatedBase + (address - e.iovaBase))

def iommuCacheLookup (c : IommuContext) (address size : Nat) (write : Bool) : Option Nat :=
  -- A/D updates are side effects of every walk, so the cache is off while they are on.
  if c.updateAd then none else iommuCacheScan address size write c.entries

def Translation.entry (t : Translation) : CacheEntry :=
  ⟨t.iovaBase, t.translatedBase, t.size, t.permissions, true⟩

def iommuCacheInsert (c : IommuContext) (t : Translation) : IommuContext :=
  if c.cacheCount < cacheEntries then
    { c with
      cache := Function.update c.cache c.cacheCount t.entry
      cacheCount := c.cacheCount + 1 }
  else
    { c with
      cache := Function.update c.cache (c.cacheNext % cacheEntries) t.entry
      cacheNext := (c.cacheNext + 1) % 2 ^ 64 }

def iommuCacheRangesOverlap (e : CacheEntry) (address size : Nat) : Bool :=
  decide (address < (e.iovaBase + e.size) % 2 ^ 64) && decide (e.iovaBase < (address + size) % 2 ^ 64)

/-- `iommu_cache_invalidate`: its loop removes the overlapping entries in place. -/
def iommuCacheInvalidate (c : IommuContext) (address size : Nat) : IommuContext :=
  let compacted :=
    compact (fun e => iommuCacheRangesOverlap e address size) 0 c.cacheCount c.cache
  { c with
    cache := compacted.1
    cacheCount := compacted.2
    cacheNext := if compacted.2 = 0 then 0 else c.cacheNext % compacted.2 }

/-! ## Operations of a context -/

/-- The address bits and the root index bits of the modes that walk a table. -/
def ContextMode.vaBits : ContextMode → Option Nat
  | .sv39 => some sv39VaBits
  | .sv39x4 => some sv39x4VaBits
  | _ => none

def ContextMode.rootBits : ContextMode → Nat
  | .sv39x4 => sv39x4RootBits
  | _ => sv39RootBits

/-- The context, the memory and the result of a translation. -/
structure Translated where
  context : IommuContext
  memory : GuestMemory
  result : Except Errno Nat

/-- `iommu_context_translate`, less the call of the fault handler. -/
def iommuContextTranslate (c : IommuContext) (env : Interference) (m : GuestMemory)
    (address size : Nat) (write : Bool) : Translated :=
  if size = 0 then ⟨c, m, .error .einval⟩
  else if c.mode = .fault then ⟨c, m, .error .eacces⟩
  else if !c.downstream then ⟨c, m, .error .enodev⟩
  else match c.mode.vaBits with
  | none => ⟨c, m, .ok address⟩
  | some vaBits =>
    if !c.rootValid then ⟨c, m, .error .enodev⟩
    else match iommuCanonicalIova address vaBits with
    | .error e => ⟨c, m, .error e⟩
    | .ok lookupAddress =>
      match iommuCacheLookup c lookupAddress size write with
      | some translated => ⟨c, m, .ok translated⟩
      | none =>
        let walked := if c.mode = .sv39 then iommuTranslateSv39 c env m address size write
          else iommuTranslateSv39x4 c env m address size write
        match walked with
        | (m, .error e) => ⟨c, m, .error e⟩
        | (m, .ok t) =>
          ⟨iommuCacheInsert c t, m, .ok (t.translatedBase + (lookupAddress - t.iovaBase))⟩

/-- `vart_iommu_context_set_mode`. -/
def iommuContextSetMode (c : IommuContext) (mode : ContextMode) : IommuContext × Status :=
  if !c.downstream || ((mode == .sv39 || mode == .sv39x4) && !c.rootValid) then
    (c, .error .einval)
  else (iommuCacheFlush { c with mode }, .ok ())

/-- `iommu_context_set_sv39_mode`. -/
def iommuContextSetSv39Mode (c : IommuContext) (rootPpn : Nat) (updateAd : Bool)
    (mode : ContextMode) (requireRootAlignment : Bool) : IommuContext × Status :=
  if !c.downstream || decide (rootPpn > uint64Max >>> pageShift) ||
      (requireRootAlignment && rootPpn &&& 3 != 0) then (c, .error .einval)
  else (iommuCacheFlush { c with rootPpn, rootValid := true, updateAd, mode }, .ok ())

def iommuContextSetSv39 (c : IommuContext) (rootPpn : Nat) (updateAd : Bool) :
    IommuContext × Status :=
  iommuContextSetSv39Mode c rootPpn updateAd .sv39 false

def iommuContextSetSv39x4 (c : IommuContext) (rootPpn : Nat) (updateAd : Bool) :
    IommuContext × Status :=
  iommuContextSetSv39Mode c rootPpn updateAd .sv39x4 true

/-- `invalidation_generation++`. -/
def IommuContext.bumpGeneration (c : IommuContext) : IommuContext :=
  { c with invalidationGeneration := (c.invalidationGeneration + 1) % 2 ^ 64 }

/-- `vart_iommu_context_invalidate`. -/
def iommuContextInvalidate (c : IommuContext) (address size : Nat) : IommuContext × Status :=
  if size = 0 ∨ address > uint64Max - (size - 1) then (c, .error .einval)
  else match c.mode.vaBits with
  | some vaBits =>
    let iovaLimit := 1 <<< vaBits
    match iommuCanonicalIova address vaBits with
    | .error _ => (c, .error .efault)
    | .ok iova =>
      if size ≥ iovaLimit then ((iommuCacheFlush c).bumpGeneration, .ok ())
      else if iova > iovaLimit - size then (c, .error .erange)
      else ((iommuCacheInvalidate c iova size).bumpGeneration, .ok ())
  | none => ((iommuCacheFlush c).bumpGeneration, .ok ())

end Vart
