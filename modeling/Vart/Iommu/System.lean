import Vart.Iommu.Cache
import Vart.Lib.Reach

/-!
# A context and the memory behind it

`ContextSystem` is one context, the guest memory and a log of what happened to the context, newest
event first. `contextStep` is one call: a translation, a DMA transfer through the address space of
the context, a mode change, an invalidation, or an edit of guest memory by the guest. A call holds
the lock of the context, so calls do not overlap; the guest edits memory at any moment, between
calls (`edit`) and during them (`Interference`).

* `contextBufferAccess`: `address_space_buffer_access` on the address space of a context.
* `contextStep`: the transitions; `ContextSystem.Initial`: a context after its initialisation.
* `ContextSystem.cacheWf`: the cache is well formed in every reached state.
-/

namespace Vart

open Lib

/-! ## DMA through a context -/

/-- The buffer of an access: `size` bytes to fill, or the bytes to write. -/
inductive Buffer where
  | read (size : Nat)
  | write (data : List UInt8)

def Buffer.size : Buffer → Nat
  | .read size => size
  | .write data => data.length

def Buffer.isWrite : Buffer → Bool
  | .read _ => false
  | .write _ => true

/-- `address_space_buffer_access` of a space without a translator: the memory after it and the
bytes read. -/
def GuestMemory.bufferAccess (m : GuestMemory) (address : Nat) :
    Buffer → Except Errno (GuestMemory × List UInt8)
  | .read size => match m.readBuffer address size with
    | .error e => .error e
    | .ok data => .ok (m, data)
  | .write data => match m.writeBuffer address data with
    | .error e => .error e
    | .ok m => .ok (m, [])

/-- An access only changes bytes of its own range. -/
theorem GuestMemory.bufferAccess_disjoint {m m' : GuestMemory} {address : Nat} {b : Buffer}
    {data : List UInt8} (h : m.bufferAccess address b = .ok (m', data)) {a n : Nat}
    (hdis : address + b.size ≤ a ∨ a + n ≤ address) : m'.readBuffer a n = m.readBuffer a n := by
  cases b with
  | read size =>
    simp only [bufferAccess] at h
    split at h
    · cases h
    · cases h; rfl
  | write data =>
    simp only [bufferAccess] at h
    split at h
    · cases h
    · rename_i hw
      cases h
      exact readBuffer_writeBuffer_disjoint hw hdis

/-- The context, the memory and the result of a DMA transfer. -/
structure DmaResult where
  context : IommuContext
  memory : GuestMemory
  result : Except Errno (List UInt8)

/-- `address_space_buffer_access` of the address space of a context. -/
def contextBufferAccess (c : IommuContext) (env : Interference) (m : GuestMemory) (address : Nat)
    (b : Buffer) : DmaResult :=
  if b.size = 0 then ⟨c, m, .ok []⟩
  else
    let r := iommuContextTranslate c env m address b.size b.isWrite
    match r.result with
    | .error e => ⟨r.context, r.memory, .error e⟩
    | .ok translated =>
      let m := env 6 r.memory
      match m.bufferAccess translated b with
      | .error e => ⟨r.context, m, .error e⟩
      | .ok (m, data) => ⟨r.context, m, .ok data⟩

/-! ## Transitions -/

/-- What the log of a context records. -/
inductive ContextEvent where
  | flush
  /-- The entries that overlap `[iova, iova + size)` were dropped. -/
  | invalidate (iova size : Nat)
  /-- A walk from `rootPpn` for `iova` read the entry `leaf`. -/
  | leafRead (mode : ContextMode) (rootPpn iova : Nat) (leaf : Leaf)

inductive ContextOp where
  | translate (env : Interference) (address size : Nat) (write : Bool)
  | dma (env : Interference) (address : Nat) (b : Buffer)
  | setMode (mode : ContextMode)
  | setSv39 (rootPpn : Nat) (updateAd : Bool)
  | setSv39x4 (rootPpn : Nat) (updateAd : Bool)
  | invalidate (address size : Nat)
  /-- The guest changes memory. -/
  | edit (memory : GuestMemory)

structure ContextSystem where
  context : IommuContext
  memory : GuestMemory
  log : List ContextEvent

/-- The leaf that a translation reads, if it walks the table up to a leaf. -/
def translateEvents (c : IommuContext) (env : Interference) (m : GuestMemory)
    (address size : Nat) (write : Bool) : List ContextEvent :=
  if size = 0 ∨ c.downstream = false ∨ c.rootValid = false then []
  else match c.mode.vaBits with
  | none => []
  | some v =>
    match iommuCanonicalIova address v with
    | .error _ => []
    | .ok iova =>
      match iommuCacheLookup c iova size write with
      | some _ => []
      | none =>
        match (iommuWalk c.mode.rootBits env iova sv39x4Levels c.root m).2 with
        | .error _ => []
        | .ok leaf => [.leafRead c.mode c.rootPpn iova leaf]

/-- What an invalidation drops: everything, or a range of folded addresses. -/
def invalidateEvents (c : IommuContext) (address size : Nat) : List ContextEvent :=
  match (iommuContextInvalidate c address size).2, c.mode.vaBits with
  | .error _, _ => []
  | .ok _, none => [.flush]
  | .ok _, some v =>
    if size ≥ 2 ^ v then [.flush]
    else match iommuCanonicalIova address v with
      | .error _ => []
      | .ok iova => [.invalidate iova size]

def flushEvents : Status → List ContextEvent
  | .ok _ => [.flush]
  | .error _ => []

def contextStep (s : ContextSystem) : ContextOp → ContextSystem
  | .translate env address size write =>
    let r := iommuContextTranslate s.context env s.memory address size write
    ⟨r.context, r.memory, translateEvents s.context env s.memory address size write ++ s.log⟩
  | .dma env address b =>
    let r := contextBufferAccess s.context env s.memory address b
    ⟨r.context, r.memory,
      translateEvents s.context env s.memory address b.size b.isWrite ++ s.log⟩
  | .setMode mode =>
    let r := iommuContextSetMode s.context mode
    ⟨r.1, s.memory, flushEvents r.2 ++ s.log⟩
  | .setSv39 rootPpn updateAd =>
    let r := iommuContextSetSv39 s.context rootPpn updateAd
    ⟨r.1, s.memory, flushEvents r.2 ++ s.log⟩
  | .setSv39x4 rootPpn updateAd =>
    let r := iommuContextSetSv39x4 s.context rootPpn updateAd
    ⟨r.1, s.memory, flushEvents r.2 ++ s.log⟩
  | .invalidate address size =>
    let r := iommuContextInvalidate s.context address size
    ⟨r.1, s.memory, invalidateEvents s.context address size ++ s.log⟩
  | .edit memory => { s with memory }

/-- A context right after `vart_iommu_context_init`, over any memory. -/
def ContextSystem.Initial (s : ContextSystem) : Prop :=
  ∃ mode, s.context = iommuContextInit mode ∧ s.log = []

/-- One RAM region at `0x1000`. The first entry of the table in it is a 1 GiB leaf of address `0`
with the given flags. -/
def leafMemory (flags : UInt8) : GuestMemory :=
  ⟨⟨[⟨.memory 0, 0x1000, 0x100000, -1, .ram, true, true⟩], by decide⟩,
    fun _ a => if a = 0 then flags else 0⟩

/-! ## What the steps do -/

/-- A DMA transfer changes the context as its translation does. -/
theorem contextBufferAccess_context (c : IommuContext) (env : Interference) (m : GuestMemory)
    (address : Nat) (b : Buffer) :
    (contextBufferAccess c env m address b).context =
      (iommuContextTranslate c env m address b.size b.isWrite).context := by
  unfold contextBufferAccess
  split
  · rename_i h0
    rw [iommuContextTranslate, if_pos h0]
  · simp only
    split
    · rfl
    · split <;> rfl

/-- A successful transfer is a successful translation and an access of the downstream memory. -/
theorem contextBufferAccess_ok {c : IommuContext} {env : Interference} {m : GuestMemory}
    {address : Nat} {b : Buffer} {data : List UInt8} (hb : b.size ≠ 0)
    (h : (contextBufferAccess c env m address b).result = .ok data) :
    ∃ t, (iommuContextTranslate c env m address b.size b.isWrite).result = .ok t ∧
      (env 6 (iommuContextTranslate c env m address b.size b.isWrite).memory).bufferAccess t b =
        .ok ((contextBufferAccess c env m address b).memory, data) := by
  unfold contextBufferAccess at h ⊢
  simp only [if_neg hb] at h ⊢
  split at h
  · cases h
  rename_i t ht
  refine ⟨t, ht, ?_⟩
  split at h
  · cases h
  · rename_i m' data' ha
    cases h
    simp only [ha]

/-- A mode change fails and changes nothing, or leaves an empty cache. -/
theorem setMode_cases (c : IommuContext) (mode : ContextMode) :
    (∃ e, iommuContextSetMode c mode = (c, .error e)) ∨
      iommuContextSetMode c mode = (iommuCacheFlush { c with mode }, .ok ()) := by
  unfold iommuContextSetMode
  split
  · exact .inl ⟨_, rfl⟩
  · exact .inr rfl

theorem setSv39Mode_cases (c : IommuContext) (rootPpn : Nat) (updateAd : Bool)
    (mode : ContextMode) (align : Bool) :
    (∃ e, iommuContextSetSv39Mode c rootPpn updateAd mode align = (c, .error e)) ∨
      iommuContextSetSv39Mode c rootPpn updateAd mode align =
        (iommuCacheFlush { c with rootPpn, rootValid := true, updateAd, mode }, .ok ()) := by
  unfold iommuContextSetSv39Mode
  split
  · exact .inl ⟨_, rfl⟩
  · exact .inr rfl

theorem cacheWf_contextStep {s : ContextSystem} (h : s.context.CacheWf) (op : ContextOp) :
    (contextStep s op).context.CacheWf := by
  cases op with
  | translate env address size write => exact h.translate ..
  | dma env address b =>
    simp only [contextStep, contextBufferAccess_context]
    exact h.translate ..
  | setMode mode => exact h.setMode mode
  | setSv39 rootPpn updateAd => exact h.setSv39Mode ..
  | setSv39x4 rootPpn updateAd => exact h.setSv39Mode ..
  | invalidate address size => exact h.invalidate ..
  | edit memory => exact h

theorem ContextSystem.cacheWf {allowed : ContextSystem → ContextOp → Prop} {s : ContextSystem}
    (h : Reach contextStep Initial allowed s) : s.context.CacheWf := by
  apply h.invariant (I := fun s => s.context.CacheWf)
  · rintro s ⟨mode, hc, -⟩
    rw [hc]
    exact .init mode
  · exact fun s op hs _ => cacheWf_contextStep hs op

end Vart
