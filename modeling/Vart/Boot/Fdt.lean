import Vart.Core.Errno
import Vart.Lib.Dtb
import Vart.Lib.Reach

/-!
# The devicetree builder

`src/boot/fdt.c`: `vart_fdt_begin_node`, `vart_fdt_property` and `vart_fdt_end_node` append tokens
to a structure block of fixed capacity and intern the names of properties in a strings block;
`vart_fdt_finish` puts both into a blob with a header.

* `Fdt`: the builder, with its two zeroed buffers.
* `fdtStep`: one call, with the accepted events and the blob of the finished tree as ghost state.
* `Fdt.Holds`: the structure block is the encoding of items that stand for the accepted events.
* `fdt_round_trip`: rejected calls change nothing, and the decoder reads the accepted events back.
-/

namespace Vart

open Lib

/-! ## Model -/

/-- The bytes of a C string, without the terminator. -/
@[ext]
structure CString where
  bytes : List UInt8
  nonzero : ∀ b ∈ bytes, b ≠ 0
deriving DecidableEq

namespace CString

/-- `strlen(string) + 1`. -/
def size (c : CString) : Nat := c.bytes.length + 1

/-- The bytes in memory. -/
def terminated (c : CString) : List UInt8 := c.bytes ++ [0]

@[simp] theorem length_terminated (c : CString) : c.terminated.length = c.size := by
  simp [terminated, size]

end CString

/-- `write_be32`. -/
def writeBe32 (value : Nat) : List UInt8 :=
  [UInt8.ofNat (value >>> 24), UInt8.ofNat (value >>> 16), UInt8.ofNat (value >>> 8),
    UInt8.ofNat value]

theorem writeBe32_eq (value : Nat) : writeBe32 value = storeBe 4 value := by
  simp [writeBe32, storeBe, storeLe, ← Nat.shiftRight_add]

/-- `size_t` is 64 bits wide. -/
abbrev sizeMax : Nat := uint64Max

/-- `VartFdt`. The buffers come from `calloc`. -/
structure Fdt where
  structureBlock : Store
  structureSize : Nat
  structureCapacity : Nat
  strings : Store
  stringsSize : Nat
  stringsCapacity : Nat
  childSeen : Nat → Bool
  depthCapacity : Nat
  depth : Nat
  rootSeen : Bool
  rootClosed : Bool
  finished : Bool

/-- `vart_fdt_init`. `alloc` says whether the three allocations succeed. -/
def fdtInit (structureCapacity stringsCapacity : Nat) (alloc : Bool) : Except Errno Fdt :=
  if structureCapacity = 0 ∨ stringsCapacity = 0 then .error .einval
  else if uint32Max < structureCapacity ∨ uint32Max < stringsCapacity then .error .eoverflow
  else if !alloc then .error .enomem
  else .ok
    { structureBlock := Store.zero, structureSize := 0, structureCapacity,
      strings := Store.zero, stringsSize := 0, stringsCapacity,
      childSeen := fun _ => false, depthCapacity := structureCapacity / 8 + 1, depth := 0,
      rootSeen := false, rootClosed := false, finished := false }

/-- `aligned_size`, for an alignment that is a power of two. -/
def alignedSize (size alignment : Nat) : Except Errno Nat :=
  if sizeMax - (alignment - 1) < size then .error .eoverflow
  else .ok ((size + (alignment - 1)) / alignment * alignment)

namespace Fdt

/-- `reserve_structure`: whether `size` bytes and their padding fit. -/
def reserveStructure (fdt : Fdt) (size : Nat) : Status :=
  match alignedSize size 4 with
  | .error e => .error e
  | .ok padded =>
    if fdt.structureCapacity - fdt.structureSize < padded then .error .enospc else .ok ()

/-- `memcpy` to the end of the structure block. -/
def append (fdt : Fdt) (bytes : List UInt8) : Fdt :=
  { fdt with
    structureBlock := fdt.structureBlock.write fdt.structureSize bytes
    structureSize := fdt.structureSize + bytes.length }

/-- `append_u32`. -/
def appendU32 (fdt : Fdt) (value : Nat) : Fdt := fdt.append (writeBe32 value)

/-- `fdt->structure_size = (fdt->structure_size + 3) & ~(size_t)3`. -/
def align (fdt : Fdt) : Fdt := { fdt with structureSize := (fdt.structureSize + 3) / 4 * 4 }

/-- The C string at `fdt->strings + cursor`. -/
def stringAt (fdt : Fdt) (cursor : Nat) : List UInt8 :=
  (fdt.strings.read cursor (fdt.stringsCapacity - cursor)).takeWhile (· ≠ 0)

/-- The loop of `find_string`. -/
def findStringFrom (fdt : Fdt) (string : List UInt8) (cursor : Nat) : Option Nat :=
  if cursor < fdt.stringsSize then
    if fdt.stringAt cursor = string then some cursor
    else findStringFrom fdt string (cursor + (fdt.stringAt cursor).length + 1)
  else none
termination_by fdt.stringsSize - cursor

/-- `find_string`. -/
def findString (fdt : Fdt) (string : List UInt8) : Option Nat := fdt.findStringFrom string 0

end Fdt

/-- The character `/`. -/
abbrev slash : UInt8 := 47

/-- The end of `vart_fdt_begin_node`, behind its checks. -/
def Fdt.enter (fdt : Fdt) (name : CString) : Fdt :=
  let fdt := ((fdt.appendU32 Dtb.beginNodeToken).append name.terminated).align
  let childSeen :=
    if fdt.depth ≠ 0 then Function.update fdt.childSeen (fdt.depth - 1) true else fdt.childSeen
  { fdt with
    childSeen := Function.update childSeen fdt.depth false
    depth := (fdt.depth + 1) % 2 ^ 32
    rootSeen := true }

/-- `vart_fdt_begin_node`. -/
def fdtBeginNode (fdt : Fdt) (name : CString) : Fdt × Status :=
  if fdt.finished ∨ fdt.rootClosed ∨ (!fdt.rootSeen ∧ name.bytes ≠ []) ∨
      (fdt.rootSeen ∧ name.bytes = []) ∨ slash ∈ name.bytes then (fdt, .error .einval)
  else if fdt.depthCapacity ≤ fdt.depth then (fdt, .error .eoverflow)
  else if sizeMax - 4 < name.size then (fdt, .error .eoverflow)
  else
    match fdt.reserveStructure (4 + name.size) with
    | .error e => (fdt, .error e)
    | .ok () => (fdt.enter name, .ok ())

/-- The end of `vart_fdt_end_node`. -/
def Fdt.leave (fdt : Fdt) : Fdt :=
  let fdt := fdt.appendU32 Dtb.endNodeToken
  let fdt := { fdt with depth := fdt.depth - 1 }
  if fdt.depth = 0 then { fdt with rootClosed := true } else fdt

/-- `vart_fdt_end_node`. -/
def fdtEndNode (fdt : Fdt) : Fdt × Status :=
  if fdt.finished ∨ fdt.depth = 0 then (fdt, .error .einval)
  else
    match fdt.reserveStructure 4 with
    | .error e => (fdt, .error e)
    | .ok () => (fdt.leave, .ok ())

/-- The part of `vart_fdt_property` that finds or adds the name: its offset. -/
def fdtIntern (fdt : Fdt) (name : CString) : Fdt × Except Errno Nat :=
  match fdt.findString name.bytes with
  | some offset => (fdt, .ok offset)
  | none =>
    if fdt.stringsCapacity - fdt.stringsSize < name.size then (fdt, .error .enospc)
    else
      ({ fdt with
          strings := fdt.strings.write fdt.stringsSize name.terminated
          stringsSize := fdt.stringsSize + name.size }, .ok fdt.stringsSize)

/-- The end of `vart_fdt_property`, with the name at `nameOffset`. -/
def Fdt.addProperty (fdt : Fdt) (nameOffset : Nat) (data : List UInt8) : Fdt :=
  let fdt := fdt.appendU32 Dtb.propToken
  let fdt := fdt.appendU32 data.length
  let fdt := fdt.appendU32 nameOffset
  (fdt.append data).align

/-- `vart_fdt_property`. -/
def fdtProperty (fdt : Fdt) (name : CString) (data : List UInt8) : Fdt × Status :=
  if name.bytes = [] ∨ fdt.finished ∨ fdt.depth = 0 ∨ fdt.childSeen (fdt.depth - 1) then
    (fdt, .error .einval)
  else if uint32Max < data.length then (fdt, .error .eoverflow)
  else if sizeMax - 3 * 4 < data.length then (fdt, .error .eoverflow)
  else
    match fdt.reserveStructure (3 * 4 + data.length) with
    | .error e => (fdt, .error e)
    | .ok () =>
      match fdtIntern fdt name with
      | (fdt, .error e) => (fdt, .error e)
      | (fdt, .ok nameOffset) => (fdt.addProperty nameOffset data, .ok ())

/-- The ten `write_header_u32` of `vart_fdt_finish`, in order. -/
def writeHeader (result : Store) (words : List Nat) : Store :=
  words.zipIdx.foldl (fun result word => result.write (4 * word.2) (writeBe32 word.1)) result

/-- The blob of `vart_fdt_finish`, from a structure block that ends with `FDT_END`. -/
def Fdt.assemble (fdt : Fdt) (structureOffset stringsOffset totalSize : Nat) : List UInt8 :=
  let result := Store.zero.write structureOffset (fdt.structureBlock.read 0 fdt.structureSize)
  let result := result.write stringsOffset (fdt.strings.read 0 fdt.stringsSize)
  let result := writeHeader result
    [Dtb.magic, totalSize, structureOffset, stringsOffset, 40, 17, 16, 0, fdt.stringsSize,
      fdt.structureSize]
  result.read 0 totalSize

/-- `vart_fdt_finish`. The result is the blob; `alloc` says whether it can be allocated. -/
def fdtFinish (fdt : Fdt) (alloc : Bool) : Fdt × Except Errno (List UInt8) :=
  let structureOffset := 40 + 16
  if fdt.finished ∨ !fdt.rootSeen ∨ !fdt.rootClosed ∨ fdt.depth ≠ 0 then (fdt, .error .einval)
  else
    match fdt.reserveStructure 4 with
    | .error e => (fdt, .error e)
    | .ok () =>
      if sizeMax - fdt.structureSize - 4 < structureOffset then (fdt, .error .eoverflow)
      else
        let stringsOffset := structureOffset + fdt.structureSize + 4
        if uint32Max < stringsOffset ∨ uint32Max - stringsOffset < fdt.stringsSize then
          (fdt, .error .eoverflow)
        else if !alloc then (fdt, .error .enomem)
        else
          let totalSize := stringsOffset + fdt.stringsSize
          let fdt := fdt.appendU32 Dtb.endToken
          ({ fdt with finished := true },
            .ok (fdt.assemble structureOffset stringsOffset totalSize))

/-! ## Calls -/

inductive FdtOp where
  | beginNode (name : CString)
  | property (name : CString) (data : List UInt8)
  | endNode
  | finish (alloc : Bool)

/-- What an accepted call adds to the tree. -/
def FdtOp.events : FdtOp → List DtbEvent
  | .beginNode name => [.beginNode name.bytes]
  | .property name data => [.property name.bytes data]
  | .endNode => [.endNode]
  | .finish _ => []

def fdtCall (fdt : Fdt) : FdtOp → Fdt × Status
  | .beginNode name => fdtBeginNode fdt name
  | .property name data => fdtProperty fdt name data
  | .endNode => fdtEndNode fdt
  | .finish alloc => ((fdtFinish fdt alloc).1, (fdtFinish fdt alloc).2.map fun _ => ())

/-- The builder and the events of the accepted calls. -/
structure FdtRun where
  fdt : Fdt
  events : List DtbEvent

def fdtStep (r : FdtRun) (op : FdtOp) : FdtRun :=
  match fdtCall r.fdt op with
  | (fdt, .error _) => { r with fdt }
  | (fdt, .ok ()) => { fdt, events := r.events ++ op.events }

/-! ## What a call does -/

theorem fdtBeginNode_cases (fdt : Fdt) (name : CString) :
    (∃ e, fdtBeginNode fdt name = (fdt, .error e) ∧
      (e = .eoverflow → fdt.depthCapacity ≤ fdt.depth ∨ sizeMax - 7 < 4 + name.size)) ∨
    (fdt.finished = false ∧ fdt.reserveStructure (4 + name.size) = .ok () ∧
      fdtBeginNode fdt name = (fdt.enter name, .ok ())) := by
  unfold fdtBeginNode
  split
  · exact .inl ⟨_, rfl, nofun⟩
  rename_i hargs
  split
  · exact .inl ⟨_, rfl, fun _ => .inl ‹_›⟩
  split
  · exact .inl ⟨_, rfl, fun _ => .inr (by omega)⟩
  split
  · rename_i e hreserve
    refine .inl ⟨e, rfl, ?_⟩
    rintro rfl
    unfold Fdt.reserveStructure alignedSize at hreserve
    right
    by_contra hsize
    rw [if_neg (by omega)] at hreserve
    dsimp only at hreserve
    split at hreserve <;> cases hreserve
  · exact .inr ⟨by simp_all, ‹_›, rfl⟩

theorem fdtEndNode_cases (fdt : Fdt) :
    (∃ e, fdtEndNode fdt = (fdt, .error e)) ∨
    (fdt.finished = false ∧ fdt.depth ≠ 0 ∧ fdt.reserveStructure 4 = .ok () ∧
      fdtEndNode fdt = (fdt.leave, .ok ())) := by
  unfold fdtEndNode
  split
  · exact .inl ⟨_, rfl⟩
  split
  · exact .inl ⟨_, rfl⟩
  · exact .inr ⟨by simp_all, by simp_all, ‹_›, rfl⟩

theorem fdtIntern_error {fdt fdt' : Fdt} {name : CString} {e : Errno}
    (h : fdtIntern fdt name = (fdt', .error e)) : fdt' = fdt := by
  unfold fdtIntern at h
  split at h
  · cases (Prod.mk.inj h).2
  split at h
  · exact (Prod.mk.inj h).1.symm
  · cases (Prod.mk.inj h).2

/-- The structure block is reserved before the name is interned, so a name is only added by a call
that succeeds. -/
theorem fdtProperty_cases (fdt : Fdt) (name : CString) (data : List UInt8) :
    (∃ e, fdtProperty fdt name data = (fdt, .error e)) ∨
    (fdt.finished = false ∧ fdt.depth ≠ 0 ∧ fdt.childSeen (fdt.depth - 1) = false ∧
      data.length ≤ uint32Max ∧ fdt.reserveStructure (3 * 4 + data.length) = .ok () ∧
      ∃ fdt' offset, fdtIntern fdt name = (fdt', .ok offset) ∧
        fdtProperty fdt name data = (fdt'.addProperty offset data, .ok ())) := by
  unfold fdtProperty
  split
  · exact .inl ⟨_, rfl⟩
  split
  · exact .inl ⟨_, rfl⟩
  split
  · exact .inl ⟨_, rfl⟩
  split
  · exact .inl ⟨_, rfl⟩
  split
  · rename_i hintern
    rw [fdtIntern_error hintern]
    exact .inl ⟨_, rfl⟩
  · rename_i hintern
    exact .inr ⟨by simp_all, by simp_all, by simp_all, by omega, ‹_›, _, _, hintern, rfl⟩

theorem fdtFinish_cases (fdt : Fdt) (alloc : Bool) :
    (∃ e, fdtFinish fdt alloc = (fdt, .error e)) ∨
    (fdt.finished = false ∧ fdt.depth = 0 ∧
      56 + fdt.structureSize + 4 + fdt.stringsSize ≤ uint32Max ∧
      fdtFinish fdt alloc = ({ fdt.appendU32 Dtb.endToken with finished := true },
        .ok ((fdt.appendU32 Dtb.endToken).assemble 56 (56 + fdt.structureSize + 4)
          (56 + fdt.structureSize + 4 + fdt.stringsSize)))) := by
  unfold fdtFinish
  extract_lets structureOffset stringsOffset
  split
  · exact .inl ⟨_, rfl⟩
  split
  · exact .inl ⟨_, rfl⟩
  split
  · exact .inl ⟨_, rfl⟩
  split
  · exact .inl ⟨_, rfl⟩
  split
  · exact .inl ⟨_, rfl⟩
  · exact .inr ⟨by simp_all, by simp_all, by omega, rfl⟩

/-- A rejected call leaves the builder as it was. -/
theorem fdtCall_error {fdt fdt' : Fdt} {op : FdtOp} {e : Errno}
    (h : fdtCall fdt op = (fdt', .error e)) : fdt' = fdt := by
  cases op with
  | beginNode name =>
    obtain ⟨_, hcall, _⟩ | ⟨_, _, hcall⟩ := fdtBeginNode_cases fdt name
    · exact (Prod.mk.inj (h.symm.trans hcall)).1
    · cases (Prod.mk.inj (h.symm.trans hcall)).2
  | property name data =>
    obtain ⟨_, hcall⟩ | ⟨_, _, _, _, _, _, _, _, hcall⟩ := fdtProperty_cases fdt name data
    · exact (Prod.mk.inj (h.symm.trans hcall)).1
    · cases (Prod.mk.inj (h.symm.trans hcall)).2
  | endNode =>
    obtain ⟨_, hcall⟩ | ⟨_, _, _, hcall⟩ := fdtEndNode_cases fdt
    · exact (Prod.mk.inj (h.symm.trans hcall)).1
    · cases (Prod.mk.inj (h.symm.trans hcall)).2
  | finish alloc =>
    rw [fdtCall] at h
    obtain ⟨_, hcall⟩ | ⟨_, _, _, hcall⟩ := fdtFinish_cases fdt alloc
    · rw [hcall] at h
      exact (Prod.mk.inj h).1.symm
    · rw [hcall] at h
      cases (Prod.mk.inj h).2

/-! ## The structure block -/

/-- The number of bytes that a reserved piece and its padding take. -/
theorem Fdt.reserveStructure_ok {fdt : Fdt} {size : Nat} (h : fdt.reserveStructure size = .ok ()) :
    size + pad4 size ≤ fdt.structureCapacity - fdt.structureSize := by
  unfold reserveStructure alignedSize at h
  split at h
  · cases h
  split at h
  · cases h
  rename_i hsize hfits
  split at hsize
  · cases hsize
  cases hsize
  unfold pad4
  omega

/-- The structure block has the bytes `bs`. -/
structure Fdt.Written (fdt : Fdt) (bs : List UInt8) : Prop where
  filled : fdt.structureBlock.Filled bs
  size : fdt.structureSize = bs.length

namespace Fdt.Written

variable {fdt : Fdt} {bs : List UInt8}

theorem append (h : fdt.Written bs) (bytes : List UInt8) :
    (fdt.append bytes).Written (bs ++ bytes) where
  filled := by
    rw [Fdt.append, h.size]
    exact h.filled.write bytes
  size := by rw [List.length_append, ← h.size]; rfl

theorem appendU32 (h : fdt.Written bs) (value : Nat) :
    (fdt.appendU32 value).Written (bs ++ storeBe 4 value) := by
  rw [← writeBe32_eq]
  exact h.append _

theorem align (h : fdt.Written bs) :
    fdt.align.Written (bs ++ List.replicate (pad4 bs.length) 0) where
  filled := h.filled.pad _
  size := by
    have hsize : fdt.align.structureSize = (fdt.structureSize + 3) / 4 * 4 := rfl
    rw [List.length_append, List.length_replicate, hsize, h.size]
    unfold pad4
    omega

theorem read (h : fdt.Written bs) : fdt.structureBlock.read 0 fdt.structureSize = bs := by
  rw [h.size]
  exact @Store.Filled.read _ [] _ h.filled

theorem enter (h : fdt.Written bs) (hbs : bs.length % 4 = 0) (name : CString) :
    (fdt.enter name).Written (bs ++ (DtbItem.beginNode name.bytes).encode) := by
  have hall := ((h.appendU32 Dtb.beginNodeToken).append name.terminated).align
  have hpad : pad4 (bs ++ storeBe 4 Dtb.beginNodeToken ++ name.terminated).length =
      pad4 (name.bytes.length + 1) := by
    rw [List.length_append, List.length_append, length_storeBe, CString.length_terminated,
      pad4_add (by omega), CString.size]
  rw [hpad] at hall
  have hencode : bs ++ (DtbItem.beginNode name.bytes).encode =
      bs ++ storeBe 4 Dtb.beginNodeToken ++ name.terminated ++
        List.replicate (pad4 (name.bytes.length + 1)) 0 := by
    simp only [DtbItem.encode, CString.terminated, List.append_assoc, List.cons_append,
      List.nil_append]
  rw [hencode]
  exact ⟨hall.filled, hall.size⟩

theorem leave (h : fdt.Written bs) : fdt.leave.Written (bs ++ DtbItem.endNode.encode) := by
  have hall := h.appendU32 Dtb.endNodeToken
  unfold Fdt.leave
  extract_lets fdt₁ fdt₂
  split <;> exact ⟨hall.filled, hall.size⟩

theorem addProperty (h : fdt.Written bs) (hbs : bs.length % 4 = 0) (offset : Nat)
    (data : List UInt8) :
    (fdt.addProperty offset data).Written (bs ++ (DtbItem.property offset data).encode) := by
  have hall := ((((h.appendU32 Dtb.propToken).appendU32 data.length).appendU32 offset).append
    data).align
  have hpad : pad4 (bs ++ storeBe 4 Dtb.propToken ++ storeBe 4 data.length ++ storeBe 4 offset ++
      data).length = pad4 data.length := by
    simp only [List.length_append, length_storeBe]
    exact pad4_add (by omega) _
  rw [hpad] at hall
  simpa only [Fdt.addProperty, DtbItem.encode, List.append_assoc] using hall

end Fdt.Written

/-! ## The strings block -/

/-- The strings block has the terminated names, in the order they were added. -/
structure Fdt.Interned (fdt : Fdt) (names : List CString) : Prop where
  filled : fdt.strings.Filled (names.flatMap CString.terminated)
  size : fdt.stringsSize = (names.flatMap CString.terminated).length
  fits : fdt.stringsSize ≤ fdt.stringsCapacity

namespace Fdt.Interned

variable {fdt : Fdt}

/-- The string at the offset of a name is that name. -/
theorem stringAt {before after : List CString} {name : CString}
    (h : fdt.Interned (before ++ name :: after)) :
    fdt.stringAt (before.flatMap CString.terminated).length = name.bytes := by
  set start := before.flatMap CString.terminated with hstart
  set rest := after.flatMap CString.terminated with hrest
  have hbytes : (before ++ name :: after).flatMap CString.terminated =
      start ++ (name.bytes ++ 0 :: rest) := by
    simp only [List.flatMap_append, List.flatMap_cons, CString.terminated, List.append_assoc,
      List.cons_append, List.nil_append, ← hstart, ← hrest]
  have hsize := h.size
  have hfits := h.fits
  rw [hbytes] at hsize
  -- the block is zero up to the capacity, where the search for the terminator would stop
  have hfilled := h.filled.pad (fdt.stringsCapacity - fdt.stringsSize)
  rw [hbytes, List.append_assoc] at hfilled
  have hread := hfilled.read
  have hlength : (name.bytes ++ 0 :: rest ++ List.replicate
      (fdt.stringsCapacity - fdt.stringsSize) 0).length = fdt.stringsCapacity - start.length := by
    rw [List.length_append, List.length_replicate]
    rw [List.length_append] at hsize
    omega
  rw [hlength] at hread
  rw [Fdt.stringAt, hread, List.append_assoc, List.cons_append]
  exact takeWhile_terminated name.nonzero _

/-- A search that begins at a name finds names only. -/
theorem findStringFrom {before after : List CString} (h : fdt.Interned (before ++ after))
    {name : CString} {offset : Nat}
    (hfind : fdt.findStringFrom name.bytes (before.flatMap CString.terminated).length =
      some offset) :
    ∃ b a, before ++ after = b ++ name :: a ∧ offset = (b.flatMap CString.terminated).length := by
  induction after generalizing before with
  | nil =>
    rw [Fdt.findStringFrom, if_neg (by rw [h.size, List.append_nil]; omega)] at hfind
    cases hfind
  | cons c after ih =>
    rw [Fdt.findStringFrom, h.stringAt] at hfind
    split at hfind
    · split at hfind
      · rename_i heq
        cases hfind
        obtain rfl : c = name := CString.ext heq
        exact ⟨before, after, rfl, rfl⟩
      · have hcat : before ++ c :: after = before ++ [c] ++ after := by simp
        rw [hcat] at h ⊢
        refine ih h ?_
        rw [List.flatMap_append, List.length_append, List.flatMap_singleton,
          CString.length_terminated]
        exact hfind
    · cases hfind

end Fdt.Interned

/-- The name of a property is in the strings block at its offset. -/
theorem fdtIntern_ok {fdt fdt' : Fdt} {name : CString} {offset : Nat} {names : List CString}
    (h : fdtIntern fdt name = (fdt', .ok offset)) (hnames : fdt.Interned names) :
    fdt' = { fdt with strings := fdt'.strings, stringsSize := fdt'.stringsSize } ∧
      ∃ more before after, fdt'.Interned (names ++ more) ∧
        names ++ more = before ++ name :: after ∧
        offset = (before.flatMap CString.terminated).length := by
  unfold fdtIntern at h
  split at h
  · rename_i hfind
    cases h
    obtain ⟨before, after, hcat, hoffset⟩ :=
      @Fdt.Interned.findStringFrom _ [] _ hnames _ _ hfind
    exact ⟨rfl, [], before, after, by rwa [List.append_nil], by rwa [List.append_nil], hoffset⟩
  · split at h
    · cases (Prod.mk.inj h).2
    · rename_i hfits
      cases h
      have hbytes : (names ++ [name]).flatMap CString.terminated =
          names.flatMap CString.terminated ++ name.terminated := by
        rw [List.flatMap_append, List.flatMap_singleton]
      have := hnames.fits
      refine ⟨rfl, [name], names, [], ⟨?_, ?_, ?_⟩, rfl, hnames.size⟩
      · rw [hbytes]
        dsimp only
        rw [hnames.size]
        exact hnames.filled.write _
      · rw [hbytes, List.length_append, ← hnames.size, CString.length_terminated]
      · dsimp only
        omega

/-! ## The tree -/

/-- The flags of the open nodes, the innermost one first. -/
def opened (childSeen : Nat → Bool) : (depth : Nat) → List Bool
  | 0 => []
  | depth + 1 => childSeen depth :: opened childSeen depth

theorem opened_update (childSeen : Nat → Bool) {depth i : Nat} (h : depth ≤ i) (seen : Bool) :
    opened (Function.update childSeen i seen) depth = opened childSeen depth := by
  induction depth with
  | zero => rfl
  | succ depth ih => rw [opened, opened, ih (by omega), Function.update_of_ne (by omega)]

/-- The innermost node gets a child. -/
theorem opened_update_last (childSeen : Nat → Bool) (depth : Nat) :
    opened (if depth ≠ 0 then Function.update childSeen (depth - 1) true else childSeen) depth =
      (opened childSeen depth).set 0 true := by
  cases depth with
  | zero => rfl
  | succ depth =>
    rw [if_pos (Nat.succ_ne_zero depth), Nat.add_sub_cancel, opened, opened,
      opened_update _ (Nat.le_refl depth), Function.update_self]
    rfl

/-- The builder holds the items, which stand for the events. -/
structure Fdt.Holds (fdt : Fdt) (items : List DtbItem) (names : List CString)
    (events : List DtbEvent) : Prop where
  written : fdt.Written (items.flatMap DtbItem.encode)
  fits : fdt.structureSize ≤ fdt.structureCapacity
  capacity : fdt.structureCapacity ≤ uint32Max
  interned : fdt.Interned names
  stringsCapacity : fdt.stringsCapacity ≤ uint32Max
  depthCapacity : fdt.depthCapacity = fdt.structureCapacity / 8 + 1
  /-- An open node has eight bytes in the structure block at least. -/
  depth : 8 * fdt.depth ≤ fdt.structureSize
  opens : Dtb.opens [] items = some (opened fdt.childSeen fdt.depth)
  reads : List.Forall₂ (DtbItem.Reads (names.flatMap CString.terminated)) items events

namespace Fdt.Holds

variable {fdt : Fdt} {items : List DtbItem} {names : List CString} {events : List DtbEvent}

/-- The depth never reaches the capacity: the structure block is full before. -/
theorem depth_lt (h : fdt.Holds items names events) : fdt.depth < fdt.depthCapacity := by
  have := h.depth
  have := h.fits
  rw [h.depthCapacity]
  omega

theorem opens_append (h : fdt.Holds items names events) {i : DtbItem} {o : List Bool}
    (hi : i.opens (opened fdt.childSeen fdt.depth) = some o) :
    Dtb.opens [] (items ++ [i]) = some o := by
  rw [Dtb.opens_append, h.opens, Option.bind_some, Dtb.opens, hi]
  rfl

theorem reads_append (h : fdt.Holds items names events) {i : DtbItem} {e : DtbEvent}
    (more : List CString)
    (hi : i.Reads ((names ++ more).flatMap CString.terminated) e) :
    List.Forall₂ (DtbItem.Reads ((names ++ more).flatMap CString.terminated)) (items ++ [i])
      (events ++ [e]) := by
  refine List.rel_append ?_ (.cons hi .nil)
  rw [List.flatMap_append]
  exact h.reads.imp fun _ _ hr => hr.append _

theorem written_append {i : DtbItem} {fdt' : Fdt}
    (h : fdt'.Written (items.flatMap DtbItem.encode ++ i.encode)) :
    fdt'.Written ((items ++ [i]).flatMap DtbItem.encode) := by
  rwa [List.flatMap_append, List.flatMap_singleton]

theorem enter (h : fdt.Holds items names events) {name : CString}
    (hreserve : fdt.reserveStructure (4 + name.size) = .ok ()) :
    (fdt.enter name).Holds (items ++ [.beginNode name.bytes]) names
      (events ++ [.beginNode name.bytes]) := by
  have hwritten := h.written.enter (Dtb.length_items_mod items) name
  have hroom := Fdt.reserveStructure_ok hreserve
  have hgrow : (fdt.enter name).structureSize =
      fdt.structureSize + (4 + name.size + pad4 (4 + name.size)) := by
    rw [hwritten.size, List.length_append, ← h.written.size, pad4_add (by decide)]
    simp only [DtbItem.encode, List.length_append, length_storeBe, List.length_cons,
      List.length_replicate, CString.size]
    omega
  have hfits := h.fits
  have hcapacity := h.capacity
  have hdepth := h.depth
  have hmax : uint32Max = 2 ^ 32 - 1 := rfl
  have hdepthEq : (fdt.enter name).depth = fdt.depth + 1 := by
    show (fdt.depth + 1) % 2 ^ 32 = _
    rw [Nat.mod_eq_of_lt (by omega)]
  have height : 8 ≤ 4 + name.size + pad4 (4 + name.size) := by
    have := add_pad4_mod (4 + name.size)
    unfold CString.size at *
    omega
  have hcap : (fdt.enter name).structureCapacity = fdt.structureCapacity := rfl
  refine ⟨written_append hwritten, by omega, h.capacity,
    ⟨h.interned.filled, h.interned.size, h.interned.fits⟩, h.stringsCapacity, h.depthCapacity,
    by omega, ?_, ?_⟩
  · refine h.opens_append ?_
    have hseen : (fdt.enter name).childSeen = Function.update
        (if fdt.depth ≠ 0 then Function.update fdt.childSeen (fdt.depth - 1) true
          else fdt.childSeen) fdt.depth false := rfl
    rw [hdepthEq, opened, DtbItem.opens, hseen, Function.update_self,
      opened_update _ (Nat.le_refl _), opened_update_last]
  · simpa using h.reads_append [] (.beginNode name.nonzero)

theorem leave (h : fdt.Holds items names events) (hdepth : fdt.depth ≠ 0)
    (hreserve : fdt.reserveStructure 4 = .ok ()) :
    fdt.leave.Holds (items ++ [.endNode]) names (events ++ [.endNode]) := by
  have hwritten := h.written.leave
  have hroom := Fdt.reserveStructure_ok hreserve
  have hgrow : fdt.leave.structureSize = fdt.structureSize + 4 := by
    rw [hwritten.size, List.length_append, ← h.written.size, DtbItem.encode, length_storeBe]
  have hframe : fdt.leave = { fdt with
      structureBlock := fdt.leave.structureBlock, structureSize := fdt.leave.structureSize,
      depth := fdt.depth - 1, rootClosed := fdt.leave.rootClosed } := by
    unfold Fdt.leave
    extract_lets fdt₁ fdt₂
    split <;> rfl
  have hfits := h.fits
  have hnest := h.depth
  have hpad : pad4 4 = 0 := rfl
  generalize fdt.leave = fdt' at *
  rw [hframe] at hwritten hgrow ⊢
  refine ⟨written_append hwritten, by dsimp only at *; omega, h.capacity,
    ⟨h.interned.filled, h.interned.size, h.interned.fits⟩, h.stringsCapacity, h.depthCapacity,
    by dsimp only at *; omega, ?_, ?_⟩
  · refine h.opens_append ?_
    obtain ⟨d, hd⟩ := Nat.exists_eq_succ_of_ne_zero hdepth
    dsimp only
    rw [hd, DtbItem.opens, if_neg (by simp [opened])]
    rfl
  · simpa using h.reads_append [] .endNode

theorem addProperty (h : fdt.Holds items names events) {name : CString} {data : List UInt8}
    {fdt' : Fdt} {offset : Nat} (hdepth : fdt.depth ≠ 0)
    (hchild : fdt.childSeen (fdt.depth - 1) = false) (hdata : data.length ≤ uint32Max)
    (hreserve : fdt.reserveStructure (3 * 4 + data.length) = .ok ())
    (hintern : fdtIntern fdt name = (fdt', .ok offset)) :
    ∃ items' names', (fdt'.addProperty offset data).Holds items' names'
      (events ++ [.property name.bytes data]) := by
  obtain ⟨hframe, more, before, after, hnames, hcat, hoffset⟩ := fdtIntern_ok hintern h.interned
  have hwritten : fdt'.Written (items.flatMap DtbItem.encode) := by
    rw [hframe]
    exact ⟨h.written.filled, h.written.size⟩
  have hwritten' := hwritten.addProperty (Dtb.length_items_mod items) offset data
  have hroom := Fdt.reserveStructure_ok hreserve
  have hgrow : (fdt'.addProperty offset data).structureSize =
      fdt.structureSize + (3 * 4 + data.length + pad4 (3 * 4 + data.length)) := by
    rw [hwritten'.size, List.length_append, ← h.written.size, pad4_add (by decide)]
    simp only [DtbItem.encode, List.length_append, length_storeBe, List.length_replicate]
    omega
  have hbytes : (names ++ more).flatMap CString.terminated = before.flatMap CString.terminated ++
      (name.bytes ++ 0 :: after.flatMap CString.terminated) := by
    rw [hcat]
    simp only [List.flatMap_append, List.flatMap_cons, CString.terminated, List.append_assoc,
      List.cons_append, List.nil_append]
  have hcaps : (fdt'.addProperty offset data).structureCapacity = fdt.structureCapacity ∧
      (fdt'.addProperty offset data).stringsCapacity = fdt.stringsCapacity ∧
      (fdt'.addProperty offset data).depthCapacity = fdt.depthCapacity ∧
      (fdt'.addProperty offset data).depth = fdt.depth ∧
      (fdt'.addProperty offset data).childSeen = fdt.childSeen := by
    rw [hframe]
    exact ⟨rfl, rfl, rfl, rfl, rfl⟩
  obtain ⟨hcap, hscap, hdcap, hd, hseen⟩ := hcaps
  have hmax : uint32Max = 2 ^ 32 - 1 := rfl
  have hfits := h.fits
  have hnest := h.depth
  refine ⟨items ++ [.property offset data], names ++ more, written_append hwritten', by omega,
    by rw [hcap]; exact h.capacity, ⟨hnames.filled, hnames.size, hnames.fits⟩,
    by rw [hscap]; exact h.stringsCapacity, by rw [hdcap, hcap]; exact h.depthCapacity,
    by omega, ?_, ?_⟩
  · refine h.opens_append ?_
    obtain ⟨d, hd'⟩ := Nat.exists_eq_succ_of_ne_zero hdepth
    rw [hd, hseen, hd', DtbItem.opens, if_pos]
    rw [hd'] at hchild
    exact congrArg some hchild
  · refine h.reads_append _ (.property hbytes hoffset name.nonzero ?_ (by omega))
    have hlen := congrArg List.length hbytes
    rw [← hnames.size, List.length_append, ← hoffset] at hlen
    have := hnames.fits
    have := h.stringsCapacity
    have hscap' : fdt'.stringsCapacity = fdt.stringsCapacity := hscap
    omega

end Fdt.Holds

/-! ## The blob -/

theorem writeHeader_from (result : Store) (words : List Nat) (k : Nat) :
    (words.zipIdx k).foldl (fun result word => result.write (4 * word.2) (writeBe32 word.1)) result =
      result.write (4 * k) (words.flatMap (storeBe 4)) := by
  induction words generalizing result k with
  | nil => exact funext fun _ => (Store.write_out _ (by simp; omega)).symm
  | cons word words ih =>
    rw [List.zipIdx_cons, List.foldl_cons, ih, writeBe32_eq, List.flatMap_cons,
      ← Store.write_append, length_storeBe, Nat.mul_add]

theorem writeHeader_eq (result : Store) (words : List Nat) :
    writeHeader result words = result.write 0 (words.flatMap (storeBe 4)) :=
  writeHeader_from result words 0

/-- The blob is the header, an empty reserve map and the two blocks. -/
theorem Fdt.assemble_eq {fdt : Fdt} {bs : List UInt8} {names : List CString}
    (hbs : fdt.Written bs) (hnames : fdt.Interned names) {stringsOffset totalSize : Nat}
    (hoffset : stringsOffset = 56 + bs.length)
    (htotal : totalSize = 56 + bs.length + (names.flatMap CString.terminated).length) :
    fdt.assemble 56 stringsOffset totalSize =
      Dtb.blob bs (names.flatMap CString.terminated) := by
  set strings := names.flatMap CString.terminated with hstrings
  have hread : fdt.strings.read 0 fdt.stringsSize = strings := by
    rw [hnames.size]
    exact @Store.Filled.read _ [] _ hnames.filled
  have hheader : [Dtb.magic, totalSize, 56, stringsOffset, 40, 17, 16, 0, fdt.stringsSize,
      fdt.structureSize] = Dtb.header bs.length strings.length := by
    rw [hoffset, htotal, hnames.size, hbs.size, Dtb.header]
  have hfilled : (((Store.zero.write 56 bs).write stringsOffset strings).write 0
      ((Dtb.header bs.length strings.length).flatMap (storeBe 4))).Filled
      (Dtb.blob bs strings) := by
    rw [hoffset, Store.write_append, Store.write_comm _ (.inr (by rw [Dtb.length_header]; omega))]
    have h := ((Store.filled_zero.write ((Dtb.header bs.length strings.length).flatMap
      (storeBe 4))).pad 16).write (bs ++ strings)
    rw [List.length_append, List.length_replicate, List.nil_append, Dtb.length_header,
      List.append_assoc] at h
    exact h
  rw [assemble, hbs.read, hread, hheader, writeHeader_eq]
  have hlen : totalSize = (Dtb.blob bs strings).length := by rw [Dtb.length_blob, htotal]
  rw [hlen]
  exact @Store.Filled.read _ [] _ hfilled

/-- The strings block ends with a terminator. -/
theorem getLast_terminated (names : List CString) :
    (names.flatMap CString.terminated).getLast?.all (· = 0) = true := by
  obtain rfl | ⟨init, last, rfl⟩ := List.eq_nil_or_concat names
  · rfl
  · simp [List.flatMap_append, CString.terminated, ← List.append_assoc]

/-- A finished tree decodes to its events. -/
theorem Fdt.Holds.decode {fdt : Fdt} {items : List DtbItem} {names : List CString}
    {events : List DtbEvent} (h : fdt.Holds items names events) (hdepth : fdt.depth = 0)
    (hsize : 56 + fdt.structureSize + 4 + fdt.stringsSize ≤ uint32Max) :
    Dtb.decode ((fdt.appendU32 Dtb.endToken).assemble 56 (56 + fdt.structureSize + 4)
      (56 + fdt.structureSize + 4 + fdt.stringsSize)) = some events := by
  have hmax : uint32Max = 2 ^ 32 - 1 := rfl
  have hstruct := h.written.size
  have hstrings := h.interned.size
  rw [Fdt.assemble_eq (h.written.appendU32 _)
    ⟨h.interned.filled, h.interned.size, h.interned.fits⟩
    (by rw [List.length_append, length_storeBe]; omega)
    (by rw [List.length_append, length_storeBe]; omega)]
  have hopens := h.opens
  rw [hdepth] at hopens
  exact Dtb.decode_blob h.reads hopens (getLast_terminated names) (by omega)

/-! ## Runs -/

/-- A builder that was just initialised, with any capacities. -/
def FdtRun.Initial (r : FdtRun) : Prop :=
  ∃ structureCapacity stringsCapacity,
    fdtInit structureCapacity stringsCapacity true = .ok r.fdt ∧ r.events = []

/-- Either the tree is under construction, or it is finished and takes no more calls. -/
inductive FdtRun.Inv (r : FdtRun) : Prop
  | building {items : List DtbItem} {names : List CString}
    (holds : r.fdt.Holds items names r.events)
  | finished (finished : r.fdt.finished = true) (depth : r.fdt.depth < r.fdt.depthCapacity)

theorem FdtRun.Initial.inv {r : FdtRun} (h : r.Initial) : r.Inv := by
  obtain ⟨structureCapacity, stringsCapacity, hinit, hevents⟩ := h
  unfold fdtInit at hinit
  split at hinit
  · cases hinit
  split at hinit
  · cases hinit
  obtain ⟨fdt, events⟩ := r
  cases hinit
  cases hevents
  refine @FdtRun.Inv.building _ [] [] ⟨⟨Store.filled_zero, rfl⟩, Nat.zero_le _,
    by dsimp only; omega, ⟨Store.filled_zero, rfl, Nat.zero_le _⟩, by dsimp only; omega, rfl,
    Nat.zero_le _, rfl, .nil⟩

theorem fdtStep_ok {r : FdtRun} (op : FdtOp) {fdt : Fdt} (h : fdtCall r.fdt op = (fdt, .ok ())) :
    fdtStep r op = ⟨fdt, r.events ++ op.events⟩ := by
  rw [fdtStep, h]

theorem fdtStep_error {r : FdtRun} (op : FdtOp) {fdt : Fdt} {e : Errno}
    (h : fdtCall r.fdt op = (fdt, .error e)) : fdtStep r op = r := by
  rw [fdtStep, h, fdtCall_error h]

/-- A call that is accepted keeps the invariant, and a finished builder accepts none. -/
theorem FdtRun.Inv.step {r : FdtRun} (h : r.Inv) (op : FdtOp) : (fdtStep r op).Inv := by
  cases op with
  | beginNode name =>
    obtain ⟨e, hcall, -⟩ | ⟨hopen, hreserve, hcall⟩ := fdtBeginNode_cases r.fdt name
    · rwa [fdtStep_error (.beginNode name) hcall]
    · rw [fdtStep_ok (.beginNode name) hcall]
      cases h with
      | building holds => exact .building (holds.enter hreserve)
      | finished hfinished => rw [hfinished] at hopen; cases hopen
  | property name data =>
    obtain ⟨e, hcall⟩ | ⟨hopen, hdepth, hchild, hdata, hreserve, fdt', offset, hintern, hcall⟩ :=
      fdtProperty_cases r.fdt name data
    · rwa [fdtStep_error (.property name data) hcall]
    · rw [fdtStep_ok (.property name data) hcall]
      cases h with
      | building holds =>
        obtain ⟨items, names, hholds⟩ := holds.addProperty hdepth hchild hdata hreserve hintern
        exact .building hholds
      | finished hfinished => rw [hfinished] at hopen; cases hopen
  | endNode =>
    obtain ⟨e, hcall⟩ | ⟨hopen, hdepth, hreserve, hcall⟩ := fdtEndNode_cases r.fdt
    · rwa [fdtStep_error .endNode hcall]
    · rw [fdtStep_ok .endNode hcall]
      cases h with
      | building holds => exact .building (holds.leave hdepth hreserve)
      | finished hfinished => rw [hfinished] at hopen; cases hopen
  | finish alloc =>
    obtain ⟨e, hcall⟩ | ⟨hopen, hdepth, -, hcall⟩ := fdtFinish_cases r.fdt alloc
    · rwa [fdtStep_error (.finish alloc) (by rw [fdtCall, hcall]; rfl)]
    · rw [fdtStep_ok (.finish alloc) (by rw [fdtCall, hcall]; rfl)]
      cases h with
      | building holds => exact .finished rfl holds.depth_lt
      | finished hfinished => rw [hfinished] at hopen; cases hopen

theorem FdtRun.Inv.depth_lt {r : FdtRun} (h : r.Inv) : r.fdt.depth < r.fdt.depthCapacity := by
  cases h with
  | building holds => exact holds.depth_lt
  | finished _ hdepth => exact hdepth

/-- A finished tree decodes to the accepted calls. -/
theorem FdtRun.Inv.decode_finish {r : FdtRun} (h : r.Inv) {alloc : Bool} {fdt : Fdt}
    {blob : List UInt8} (hfinish : fdtFinish r.fdt alloc = (fdt, .ok blob)) :
    Dtb.decode blob = some r.events := by
  obtain ⟨e, hcall⟩ | ⟨hopen, hdepth, hsize, hcall⟩ := fdtFinish_cases r.fdt alloc
  · cases (Prod.mk.inj (hfinish.symm.trans hcall)).2
  · cases h with
    | building holds =>
      obtain ⟨-, hblob⟩ := Prod.mk.inj (hfinish.symm.trans hcall)
      rw [Except.ok.inj hblob]
      exact holds.decode hdepth hsize
    | finished hfinished => rw [hfinished] at hopen; cases hopen

/-- Whatever calls were made, a rejected call leaves the builder as it was, a finished tree decodes
to exactly the accepted calls, and no node is too deep: `vart_fdt_begin_node` overflows for a name
only that does not fit into the address space. -/
theorem fdt_round_trip {r : FdtRun}
    (h : Reach fdtStep FdtRun.Initial (fun _ _ => True) r) :
    (∀ op fdt e, fdtCall r.fdt op = (fdt, .error e) → fdt = r.fdt) ∧
    (∀ alloc fdt blob, fdtFinish r.fdt alloc = (fdt, .ok blob) →
      Dtb.decode blob = some r.events) ∧
    r.fdt.depth < r.fdt.depthCapacity ∧
    ∀ name, (fdtBeginNode r.fdt name).2 = .error .eoverflow → sizeMax - 7 < 4 + name.size := by
  have hinv : r.Inv := h.invariant (fun _ hi => hi.inv) fun _ op hi _ => hi.step op
  refine ⟨fun op fdt e => fdtCall_error, fun alloc fdt blob => hinv.decode_finish, hinv.depth_lt,
    fun name hname => ?_⟩
  obtain ⟨e, hcall, hoverflow⟩ | ⟨-, -, hcall⟩ := fdtBeginNode_cases r.fdt name
  · rw [hcall] at hname
    have hdepth := hinv.depth_lt
    have := hoverflow (Except.error.inj hname)
    omega
  · rw [hcall] at hname
    cases hname

/-- A root with one property. The second property has a name that is not in the strings block and
does not fit into it. -/
def oneProperty : List FdtOp :=
  [.beginNode ⟨[], by simp⟩, .property ⟨[114], by simp⟩ [1, 2, 3, 4, 5],
    .property ⟨[115, 115, 115], by simp⟩ [], .endNode]

def smallFdt : Fdt where
  structureBlock := Store.zero
  structureSize := 0
  structureCapacity := 64
  strings := Store.zero
  stringsSize := 0
  stringsCapacity := 4
  childSeen := fun _ => false
  depthCapacity := 9
  depth := 0
  rootSeen := false
  rootClosed := false
  finished := false

theorem oneProperty_decoded :
    ∃ blob, (fdtFinish (runFrom fdtStep ⟨smallFdt, []⟩ oneProperty).fdt true).2 = .ok blob ∧
      Dtb.decode blob =
        some [.beginNode [], .property [114] [1, 2, 3, 4, 5], .endNode] := by
  have hrun : Reach fdtStep FdtRun.Initial (fun _ _ => True)
      (runFrom fdtStep ⟨smallFdt, []⟩ oneProperty) :=
    (Reach.start ⟨64, 4, rfl, rfl⟩).runFrom ⟨trivial, trivial, trivial, trivial, trivial⟩
  have hok : (fdtFinish (runFrom fdtStep ⟨smallFdt, []⟩ oneProperty).fdt true).2.isOk = true := by
    decide +kernel
  have hevents : (runFrom fdtStep ⟨smallFdt, []⟩ oneProperty).events =
      [.beginNode [], .property [114] [1, 2, 3, 4, 5], .endNode] := by
    decide +kernel
  obtain ⟨-, hdecode, -⟩ := fdt_round_trip hrun
  cases hfinish : fdtFinish (runFrom fdtStep ⟨smallFdt, []⟩ oneProperty).fdt true with
  | mk fdt result =>
    rw [hfinish] at hok
    cases result with
    | error e => cases hok
    | ok blob => exact ⟨blob, rfl, (hdecode true fdt blob hfinish).trans (congrArg some hevents)⟩

end Vart
