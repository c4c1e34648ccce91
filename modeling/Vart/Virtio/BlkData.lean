import Vart.Virtio.Blk
import Vart.Virtio.DmaView

/-!
# The data of virtio-blk

A request moves bytes between the data buffers of its chain and the file, one buffer after the
other and each with as many `pread` or `pwrite` calls as it takes.

* `BlkHost.OnFile`: the calls of the host act on one file. Reads and writes may be short, and any
  call may fail.
* `virtioBlkPread_ok`, `virtioBlkPwrite_ok`: the loops of short calls are one transfer.
* `virtioBlkSegments_in`, `virtioBlkSegments_out`: so are the loops over the buffers.
* `BlkRequest`: what a chain asks for, read from memory. `BlkRequest.Done`: it was completed with
  status `OK`.
-/

namespace Vart

open Lib

/-! ## The file -/

structure FileImage where
  bytes : Store
  size : Nat

namespace FileImage

/-- The file after a write. It grows if the write goes over its end. -/
def write (f : FileImage) (offset : Nat) (data : List UInt8) : FileImage :=
  ⟨f.bytes.write offset data, if data = [] then f.size else max f.size (offset + data.length)⟩

theorem write_nil (f : FileImage) (offset : Nat) : f.write offset [] = f := by
  have hbytes : f.bytes.write offset [] = f.bytes :=
    funext fun _ => Store.write_out _ (by simp; omega)
  simp only [write, hbytes, if_true]

theorem write_append (f : FileImage) (offset : Nat) (bs cs : List UInt8) :
    (f.write offset bs).write (offset + bs.length) cs = f.write offset (bs ++ cs) := by
  by_cases hb : bs = []
  · subst hb
    rw [write_nil, List.nil_append, List.length_nil, Nat.add_zero]
  by_cases hc : cs = []
  · subst hc
    rw [write_nil, List.append_nil]
  · simp only [write, Store.write_append, List.append_eq_nil_iff, hb, hc, and_false, if_false,
      List.length_append, FileImage.mk.injEq, true_and]
    omega

end FileImage

/-- The calls of the host act on the file `image`. What a failing write leaves is not said. -/
structure BlkHost.OnFile {η : Type} (h : BlkHost η) where
  image : η → FileImage
  malloc : ∀ s size, image (h.malloc s size).1 = image s
  pread : ∀ s offset length, image (h.pread s offset length).1 = image s
  pread_ok : ∀ s offset length bs, (h.pread s offset length).2 = .ok bs →
    bs.val = (image s).bytes.read offset bs.val.length
  pwrite_ok : ∀ s offset data n, (h.pwrite s offset data).2 = .ok n →
    image (h.pwrite s offset data).1 = (image s).write offset (data.take n)
  fsync : ∀ s, image (h.fsync s).1 = image s

section File

variable {η : Type} {h : BlkHost η} (F : h.OnFile)

theorem virtioBlkPread_image (fuel : Nat) (s : η) (offset length : Nat) :
    F.image (virtioBlkPread h fuel s offset length).1 = F.image s := by
  induction fuel generalizing s offset length with
  | zero => rfl
  | succ fuel ih =>
    have hpread := F.pread s offset length
    rw [virtioBlkPread]
    split
    · rfl
    split
    · rename_i heq
      rw [heq] at hpread
      exact hpread
    rename_i t bs heq
    rw [heq] at hpread
    split
    · exact hpread
    have hrest := ih t (offset + bs.val.length) (length - bs.val.length)
    split
    all_goals
      rename_i hloop
      rw [hloop] at hrest
      exact hrest.trans hpread

/-- The loop of reads returns the bytes of the file. -/
theorem virtioBlkPread_ok {fuel : Nat} {s s' : η} {offset length : Nat} {bs : List UInt8}
    (hok : virtioBlkPread h fuel s offset length = (s', .ok bs)) (hfuel : length ≤ fuel) :
    bs = (F.image s).bytes.read offset length := by
  induction fuel generalizing s offset length bs with
  | zero =>
    obtain rfl := Nat.le_zero.mp hfuel
    cases hok
    rfl
  | succ fuel ih =>
    rw [virtioBlkPread] at hok
    split at hok
    · rename_i hzero
      cases hok
      rw [hzero]
      rfl
    split at hok
    · cases hok
    rename_i t part heq
    split at hok
    · cases hok
    rename_i hsome
    split at hok
    · cases hok
    rename_i rest hloop
    cases hok
    have hpart := F.pread_ok s offset length part (congrArg Prod.snd heq)
    have hsame : F.image t = F.image s := by rw [← F.pread s offset length, heq]
    have hle := part.property
    -- The part that was read, and what the other rounds read behind it.
    rw [ih hloop (by omega), hsame, hpart, Store.length_read, ← Store.read_add,
      Nat.add_sub_cancel' hle]

/-- The loop of writes stores the buffer. -/
theorem virtioBlkPwrite_ok {fuel : Nat} {s s' : η} {offset : Nat} {data : List UInt8}
    (hok : virtioBlkPwrite h fuel s offset data = (s', .ok ())) (hfuel : data.length ≤ fuel) :
    F.image s' = (F.image s).write offset data := by
  induction fuel generalizing s offset data with
  | zero =>
    obtain rfl := List.eq_nil_of_length_eq_zero (Nat.le_zero.mp hfuel)
    cases hok
    exact (FileImage.write_nil ..).symm
  | succ fuel ih =>
    rw [virtioBlkPwrite] at hok
    split at hok
    · rename_i hzero
      cases hok
      rw [List.eq_nil_of_length_eq_zero hzero]
      exact (FileImage.write_nil ..).symm
    split at hok
    · cases hok
    rename_i t n heq
    split at hok
    · cases hok
    have hpart := F.pwrite_ok s offset data n (congrArg Prod.snd heq)
    rw [heq] at hpart
    have hlength : (data.take n.val).length = n.val := List.length_take_of_le n.property
    have hrest := ih hok (by rw [List.length_drop]; omega)
    have happend := FileImage.write_append (F.image s) offset (data.take n.val) (data.drop n.val)
    rw [hlength, List.take_append_drop] at happend
    dsimp only at hpart
    rw [hrest, hpart, happend]

/-! ## The buffers -/

/-- A transfer to the guest does not change the file. -/
theorem virtioBlkSegment_image (dma : VirtioDmaOps IommuSystem) (d : VirtioDescriptor)
    (offset : Nat) (system : IommuSystem) (host : η) :
    F.image (virtioBlkSegment h dma true d offset system host).1.2 = F.image host := by
  unfold virtioBlkSegment
  have hmalloc := F.malloc host d.length
  split
  · rename_i heq
    rw [heq] at hmalloc
    exact hmalloc
  rename_i t heq
  rw [heq] at hmalloc
  have hpread := virtioBlkPread_image F d.length t offset d.length
  rw [if_pos rfl]
  split
  · rename_i hloop
    rw [hloop] at hpread
    exact hpread.trans hmalloc
  rename_i hloop
  rw [hloop] at hpread
  split <;> exact hpread.trans hmalloc

theorem virtioBlkSegments_image (dma : VirtioDmaOps IommuSystem) (ds : List VirtioDescriptor)
    (offset used : Nat) (system : IommuSystem) (host : η) :
    F.image (virtioBlkSegments h dma true ds offset used system host).1.2 = F.image host := by
  induction ds generalizing offset used system host with
  | nil => rfl
  | cons d ds ih =>
    have hsegment := virtioBlkSegment_image F dma d offset system host
    rw [virtioBlkSegments]
    split
    all_goals
      rename_i heq
      rw [heq] at hsegment
    · exact hsegment
    · exact (ih ..).trans hsegment

variable {dma : VirtioDmaOps IommuSystem} (v : dma.DataView)

/-- A transfer to the guest writes the bytes of the file to the buffer. -/
theorem virtioBlkSegment_in {d : VirtioDescriptor} {offset : Nat} {system system' : IommuSystem}
    {host host' : η} (h' : virtioBlkSegment h dma true d offset system host =
      ((system', host'), .ok ())) :
    dma.write system d.address ((F.image host).bytes.read offset d.length) = (system', .ok ()) := by
  have hmalloc := F.malloc host d.length
  unfold virtioBlkSegment at h'
  split at h'
  · cases h'
  rename_i t heq
  rw [heq] at hmalloc
  rw [if_pos rfl] at h'
  split at h'
  · cases h'
  rename_i hloop
  split at h'
  · cases h'
  rename_i hwrite
  cases h'
  rw [← hmalloc, ← virtioBlkPread_ok F hloop (Nat.le_refl _)]
  exact hwrite

/-- A transfer from the guest writes the bytes of the buffer to the file. -/
theorem virtioBlkSegment_out {d : VirtioDescriptor} {offset : Nat} {system system' : IommuSystem}
    {host host' : η} (hs : v.Inv system) (hd : d.seg.range ⊆ v.dom)
    (h' : virtioBlkSegment h dma false d offset system host = ((system', host'), .ok ())) :
    v.Inv system' ∧ Set.EqOn (v.byte system') (v.byte system) v.dom ∧
      F.image host' = (F.image host).write offset ((v.byte system).read d.address d.length) := by
  have hmalloc := F.malloc host d.length
  unfold virtioBlkSegment at h'
  split at h'
  · cases h'
  rename_i t heq
  rw [heq] at hmalloc
  rw [if_neg Bool.false_ne_true] at h'
  split at h'
  · cases h'
  rename_i u buffer hread
  split at h'
  rename_i hloop
  cases h'
  have hbuffer := v.read_bytes hs hread hd
  have hlength : buffer.length = d.length := by rw [hbuffer, Store.length_read]
  obtain ⟨hu, hbyte⟩ := v.read_ok hs hread
  refine ⟨hu, hbyte, ?_⟩
  rw [← hbuffer, ← hmalloc]
  exact virtioBlkPwrite_ok F hloop (Nat.le_of_eq hlength)

/-- The loop over the buffers of a read. -/
theorem virtioBlkSegments_in {ds : List VirtioDescriptor} {offset used used' : Nat}
    {system system' : IommuSystem} {host host' : η} (hs : v.Inv system)
    (h' : virtioBlkSegments h dma true ds offset used system host =
      ((system', host'), used', .ok ())) :
    v.Inv system' ∧ Set.EqOn (v.byte system') (writeAll (v.byte system)
      (chunksFrom (F.image host).bytes offset (ds.map VirtioDescriptor.seg))) v.dom := by
  induction ds generalizing offset used system host with
  | nil =>
    cases h'
    exact ⟨hs, Set.eqOn_refl _ _⟩
  | cons d ds ih =>
    rw [virtioBlkSegments] at h'
    split at h'
    · cases h'
    rename_i system₁ host₁ _ hsegment
    have himage : F.image host₁ = F.image host := by
      rw [← virtioBlkSegment_image F dma d offset system host, hsegment]
    obtain ⟨hs₁, hbyte₁⟩ := v.write_ok hs (virtioBlkSegment_in F hsegment)
    obtain ⟨hs', hbyte⟩ := ih hs₁ h'
    rw [himage] at hbyte
    exact ⟨hs', hbyte.trans (eqOn_writeAll_congr hbyte₁ _)⟩

/-- The loop over the buffers of a write. -/
theorem virtioBlkSegments_out {ds : List VirtioDescriptor} {offset used used' : Nat}
    {system system' : IommuSystem} {host host' : η} (hs : v.Inv system)
    (hdom : ∀ g ∈ ds.map VirtioDescriptor.seg, g.range ⊆ v.dom)
    (h' : virtioBlkSegments h dma false ds offset used system host =
      ((system', host'), used', .ok ())) :
    v.Inv system' ∧ Set.EqOn (v.byte system') (v.byte system) v.dom ∧ F.image host' =
      (F.image host).write offset (gather (v.byte system) (ds.map VirtioDescriptor.seg)) := by
  induction ds generalizing offset used system host with
  | nil =>
    cases h'
    exact ⟨hs, Set.eqOn_refl _ _, (FileImage.write_nil ..).symm⟩
  | cons d ds ih =>
    rw [List.map_cons, List.forall_mem_cons] at hdom
    rw [virtioBlkSegments] at h'
    split at h'
    · cases h'
    rename_i system₁ host₁ _ hsegment
    obtain ⟨hs₁, hbyte₁, himage₁⟩ := virtioBlkSegment_out F v hs hdom.1 hsegment
    obtain ⟨hs', hbyte, himage⟩ := ih hs₁ hdom.2 h'
    refine ⟨hs', hbyte.trans hbyte₁, ?_⟩
    -- The reads before this one left the other buffers as they were.
    have hrest : gather (v.byte system₁) (ds.map VirtioDescriptor.seg) =
        gather (v.byte system) (ds.map VirtioDescriptor.seg) :=
      gather_congr fun g hg => hbyte₁.mono (hdom.2 g hg)
    have happend := FileImage.write_append (F.image host) offset
      ((v.byte system).read d.address d.length) (gather (v.byte system) (ds.map VirtioDescriptor.seg))
    rw [Store.length_read] at happend
    rw [himage, himage₁, hrest, happend]
    rfl

/-! ## Requests -/

theorem virtioBlkTotal_ok {toGuest : Bool} {ds : List VirtioDescriptor} {k total : Nat}
    (h' : virtioBlkTotal toGuest ds k = .ok total) :
    total = k + segsLength (ds.map VirtioDescriptor.seg) := by
  induction ds generalizing k with
  | nil =>
    cases h'
    rfl
  | cons d ds ih =>
    rw [virtioBlkTotal] at h'
    split at h'
    · cases h'
    rw [ih h', Nat.add_assoc]
    rfl

/-- An offset is valid if the range ends in the capacity and has no byte beyond 64 bits. -/
theorem virtioBlkOffsetValid_some {blk : VirtioBlkDevice} {sector bytes offset : Nat}
    (hbytes : bytes ≤ uint32Max) (h' : virtioBlkOffsetValid blk sector bytes = some offset) :
    offset = sector * virtioBlkSectorSize ∧
      offset + bytes ≤ blk.capacitySectors * virtioBlkSectorSize ∧ offset + bytes ≤ uint64Max := by
  unfold virtioBlkOffsetValid at h'
  split at h'
  · cases h'
  split at h'
  · cases h'
  dsimp only at h'
  split at h'
  · cases h'
  rename_i hrange
  cases h'
  refine ⟨rfl, ?_⟩
  simp only [uint32Max, uint64Max] at hbytes hrange ⊢
  omega

/-- The range of the data buffers on the device. -/
structure BlkRange (blk : VirtioBlkDevice) (sector : Nat) (segs : List Seg) : Prop where
  capacity : sector * virtioBlkSectorSize + segsLength segs ≤
    blk.capacitySectors * virtioBlkSectorSize
  word : sector * virtioBlkSectorSize + segsLength segs ≤ uint64Max

/-- `virtio_blk_io` does nothing and fails, or it is the loop over the buffers. -/
theorem virtioBlkIo_cases (dma : VirtioDmaOps IommuSystem) (blk : VirtioBlkDevice)
    (ds : List VirtioDescriptor) (type sector : Nat) (system : IommuSystem) (host : η) :
    (∃ e, virtioBlkIo h dma blk ds type sector system host = ((system, host), 0, .error e)) ∨
    BlkRange blk sector (ds.map VirtioDescriptor.seg) ∧
      virtioBlkIo h dma blk ds type sector system host =
        virtioBlkSegments h dma (decide (type = virtioBlkTIn)) ds (sector * virtioBlkSectorSize) 0
          system host := by
  unfold virtioBlkIo
  dsimp only
  split
  · exact .inl ⟨_, rfl⟩
  rename_i total htotal
  have hsum := virtioBlkTotal_ok htotal
  rw [Nat.zero_add] at hsum
  split
  · exact .inl ⟨_, rfl⟩
  rename_i hbytes
  split
  · exact .inl ⟨_, rfl⟩
  rename_i offset hvalid
  obtain ⟨rfl, hcapacity, hword⟩ := virtioBlkOffsetValid_some (by omega) hvalid
  exact .inr ⟨⟨hsum ▸ hcapacity, hsum ▸ hword⟩, rfl⟩

/-- A read or write that ends with `OK` went through the loop. -/
theorem virtioBlkPerform_ok {blk : VirtioBlkDevice} {ds : List VirtioDescriptor}
    {type sector used : Nat} {system : IommuSystem} {host : η} {m : IommuSystem × η}
    (htype : type = virtioBlkTIn ∨ type = virtioBlkTOut)
    (h' : virtioBlkPerform h dma blk ds type sector system host = (m, used, virtioBlkSOk)) :
    BlkRange blk sector (ds.map VirtioDescriptor.seg) ∧
      virtioBlkSegments h dma (decide (type = virtioBlkTIn)) ds (sector * virtioBlkSectorSize) 0
        system host = (m, used, .ok ()) := by
  have hne : virtioBlkSIoerr ≠ virtioBlkSOk := by decide
  unfold virtioBlkPerform at h'
  rw [if_pos htype] at h'
  split at h'
  · exact absurd (congrArg (·.2.2) h') hne
  split at h'
  · exact absurd (congrArg (·.2.2) h') hne
  rename_i hio
  cases h'
  rcases virtioBlkIo_cases (h := h) dma blk ds type sector system host with ⟨e, he⟩ | ⟨hrange, heq⟩
  · rw [he] at hio
    cases hio
  · exact ⟨hrange, heq ▸ hio⟩

/-- Only a write changes the file, on a device that is not read-only and in its capacity. -/
theorem virtioBlkPerform_image (blk : VirtioBlkDevice) (ds : List VirtioDescriptor)
    (type sector : Nat) (system : IommuSystem) (host : η)
    (hkeep : type = virtioBlkTOut →
      blk.readonly = true ∨ ¬ BlkRange blk sector (ds.map VirtioDescriptor.seg)) :
    F.image (virtioBlkPerform h dma blk ds type sector system host).1.2 = F.image host := by
  unfold virtioBlkPerform
  split
  · rename_i htype
    split
    · rfl
    rename_i hwritable
    have hio : F.image (virtioBlkIo h dma blk ds type sector system host).1.2 = F.image host := by
      rcases virtioBlkIo_cases (h := h) dma blk ds type sector system host with
        ⟨e, he⟩ | ⟨hrange, heq⟩
      · rw [he]
      · obtain rfl : type = virtioBlkTIn := by
          refine htype.resolve_right fun hout => ?_
          rcases hkeep hout with hreadonly | hno
          · exact hwritable ⟨hout, hreadonly⟩
          · exact hno hrange
        rw [heq]
        exact virtioBlkSegments_image F dma ds _ _ system host
    split
    all_goals
      rename_i heq
      rw [heq] at hio
      exact hio
  · split
    · have hfsync := F.fsync host
      split
      all_goals
        rename_i heq
        rw [heq] at hfsync
        exact hfsync
    · rfl

end File

/-! ## What a chain asks for -/

/-- The data buffers of a chain. -/
def VirtioChain.blkData (chain : VirtioChain) : List VirtioDescriptor :=
  chain.descriptors.tail.dropLast

/-- A request: its type and sector, and where its header, data and status are. -/
structure BlkRequest where
  header : Nat
  type : Nat
  sector : Nat
  segs : List Seg
  status : Nat
deriving DecidableEq

/-- The request of a chain. The header is in the first buffer and the status in the last one. -/
def blkRequest (memory : Store) (chain : VirtioChain) : Option BlkRequest :=
  match chain.descriptors with
  | [] | [_] => none
  | header :: d :: ds => some {
      header := header.address
      type := loadLe (memory.read header.address 4)
      sector := loadLe (memory.read (header.address + 8) 8)
      segs := chain.blkData.map VirtioDescriptor.seg
      status := ((d :: ds).getLast (List.cons_ne_nil d ds)).address }

/-- The status byte that `virtio_blk_process_request` gives the request, if it can read the
header. -/
def virtioBlkStatus {η : Type} (h : BlkHost η) (dma : VirtioDmaOps IommuSystem) (s : BlkSystem η)
    (chain : VirtioChain) : Option UInt8 :=
  match chain.descriptors with
  | [] => none
  | header :: _ =>
    match dma.read s.system header.address virtioBlkRequestHeaderSize with
    | (_, .error _) => none
    | (system, .ok raw) =>
      some (virtioBlkPerform h dma s.blk chain.blkData (loadLe (raw.take 4))
        (loadLe (raw.drop 8)) system s.host).2.2

/-- The buffers of a request do not overlap each other or the status byte. -/
structure BlkRequest.Separate (r : BlkRequest) : Prop where
  pairwise : r.segs.Pairwise Seg.Disjoint
  status : ∀ g ∈ r.segs, r.status ∉ g.range

/-- The header and the buffers of a request are in memory. -/
structure BlkRequest.Inside (r : BlkRequest) (dom : Set Nat) : Prop where
  header : (Seg.mk r.header virtioBlkRequestHeaderSize).range ⊆ dom
  segs : ∀ g ∈ r.segs, g.range ⊆ dom

section Request

variable {η : Type} {h : BlkHost η} {dma : VirtioDmaOps IommuSystem} {s s' : BlkSystem η}
  {chain : VirtioChain} {r : BlkRequest}

theorem BlkSystem.pushUsed_host (dma : VirtioDmaOps IommuSystem) (s : BlkSystem η)
    (head length : Nat) : (s.pushUsed dma head length).1.host = s.host := by
  unfold BlkSystem.pushUsed
  split <;> rfl

/-- The fields of a header. -/
theorem header_fields (memory : Store) (a : Nat) :
    (memory.read a virtioBlkRequestHeaderSize).take 4 = memory.read a 4 ∧
      (memory.read a virtioBlkRequestHeaderSize).drop 8 = memory.read (a + 8) 8 := by
  constructor
  · rw [show virtioBlkRequestHeaderSize = 4 + 12 from rfl, Store.read_add,
      List.take_left' (Store.length_read ..)]
  · rw [show virtioBlkRequestHeaderSize = 8 + 8 from rfl, Store.read_add,
      List.drop_left' (Store.length_read ..)]

theorem blkRequest_segs {memory : Store} (hr : blkRequest memory chain = some r) :
    r.segs = chain.blkData.map VirtioDescriptor.seg := by
  unfold blkRequest at hr
  split at hr
  · cases hr
  · cases hr
  · cases hr
    rfl

/-- The file changes only if the request is performed, with the type and sector in memory. -/
theorem virtioBlkProcessRequest_host (v : dma.DataView) (chain : VirtioChain)
    (hs : v.Inv s.system) :
    (virtioBlkProcessRequest h dma s chain).1.host = s.host ∨
    ∃ system type sector, (virtioBlkProcessRequest h dma s chain).1.host =
        (virtioBlkPerform h dma s.blk chain.blkData type sector system s.host).1.2 ∧
      ∀ r, blkRequest (v.byte s.system) chain = some r →
        (Seg.mk r.header virtioBlkRequestHeaderSize).range ⊆ v.dom →
        type = r.type ∧ sector = r.sector := by
  unfold virtioBlkProcessRequest VirtioChain.blkData
  split
  · exact .inl rfl
  · exact .inl rfl
  rename_i header d ds hchain
  dsimp only
  split
  · exact .inl rfl
  split
  · exact .inl rfl
  rename_i system raw hread
  refine .inr ⟨system, loadLe (raw.take 4), loadLe (raw.drop 8), ?_, ?_⟩
  · rw [hchain, List.tail_cons]
    split
    · rfl
    · exact BlkSystem.pushUsed_host ..
  · intro r hr hheader
    simp only [blkRequest, hchain, Option.some.injEq] at hr
    subst hr
    rw [v.read_bytes hs hread hheader, (header_fields _ _).1, (header_fields _ _).2]
    exact ⟨rfl, rfl⟩

/-- The request `r` of the chain, with buffers that do not overlap, was completed with status
`OK`. -/
structure BlkRequest.Done (h : BlkHost η) (v : dma.DataView) (s : BlkSystem η)
    (chain : VirtioChain) (r : BlkRequest) (s' : BlkSystem η) : Prop where
  inv : v.Inv s.system
  request : blkRequest (v.byte s.system) chain = some r
  inside : r.Inside v.dom
  separate : r.Separate
  status : virtioBlkStatus h dma s chain = some virtioBlkSOk
  returns : virtioBlkProcessRequest h dma s chain = (s', .ok ())

/-- The buffers of the request do not overlap the used ring. -/
def BlkRequest.ClearOfRing (r : BlkRequest) (s : BlkSystem η) : Prop :=
  ∀ q, virtioQueueGet s.blk.pci.virtio 0 = .ok q → ∀ g ∈ r.segs, q.usedSeg.Disjoint g

/-- The calls of a request that is completed. -/
structure BlkRequest.Calls (h : BlkHost η) (v : dma.DataView) (s : BlkSystem η)
    (chain : VirtioChain) (r : BlkRequest) (s' : BlkSystem η)
    (system₁ system₂ system₃ : IommuSystem) (used : Nat) : Prop where
  inv : v.Inv system₁
  byte : Set.EqOn (v.byte system₁) (v.byte s.system) v.dom
  segs : chain.blkData.map VirtioDescriptor.seg = r.segs
  perform : virtioBlkPerform h dma s.blk chain.blkData r.type r.sector system₁ s.host =
    ((system₂, s'.host), used, virtioBlkSOk)
  status : dma.write system₂ r.status [virtioBlkSOk] = (system₃, .ok ())
  push : ({ s with system := system₃, host := s'.host } : BlkSystem η).pushUsed dma chain.head used =
    (s', .ok ())

theorem BlkRequest.Done.calls {v : dma.DataView} (D : r.Done h v s chain s') :
    ∃ system₁ system₂ system₃ used, r.Calls h v s chain s' system₁ system₂ system₃ used := by
  have hstatus := D.status
  have hreturns := D.returns
  have hrequest := D.request
  unfold virtioBlkProcessRequest at hreturns
  split at hreturns
  · cases hreturns
  · cases hreturns
  rename_i header d ds hchain
  simp only [blkRequest, hchain, Option.some.injEq] at hrequest
  dsimp only at hreturns
  split at hreturns
  · cases hreturns
  split at hreturns
  · cases hreturns
  rename_i system₁ raw hread
  have hdata : (d :: ds).dropLast = chain.blkData := by rw [VirtioChain.blkData, hchain]; rfl
  obtain ⟨system₂, host₂, used, value, hperform⟩ : ∃ system₂ host₂ used value,
      virtioBlkPerform h dma s.blk chain.blkData (loadLe (raw.take 4)) (loadLe (raw.drop 8))
        system₁ s.host = ((system₂, host₂), used, value) := ⟨_, _, _, _, rfl⟩
  simp only [virtioBlkStatus, hchain, hread, hperform, Option.some.injEq] at hstatus
  rw [hdata, hperform] at hreturns
  dsimp only at hreturns
  split at hreturns
  · cases hreturns
  rename_i system₃ _ hwrite
  have hhost : s'.host = host₂ := by
    rw [← congrArg (·.1.host) hreturns]
    exact BlkSystem.pushUsed_host ..
  -- What was read is the header in memory.
  have hheader := D.inside.header
  subst hrequest hstatus hhost
  have hraw := v.read_bytes D.inv hread hheader
  obtain ⟨hs₁, hbyte⟩ := v.read_ok D.inv hread
  rw [hraw, (header_fields _ _).1, (header_fields _ _).2] at hperform
  exact ⟨system₁, system₂, system₃, used, hs₁, hbyte, rfl, hperform, hwrite, hreturns⟩

variable {v : dma.DataView}

/-- After the buffers a request writes the status byte and the used ring. -/
theorem BlkRequest.Calls.after {system₁ system₂ system₃ : IommuSystem} {used : Nat}
    (C : r.Calls h v s chain s' system₁ system₂ system₃ used) (hs : v.Inv system₂) :
    v.Inv s'.system ∧ ∃ q, virtioQueueGet s.blk.pci.virtio 0 = .ok q ∧
      Set.EqOn (v.byte s'.system) ((v.byte system₂).write r.status [virtioBlkSOk])
        (v.dom \ q.usedSeg.range) := by
  obtain ⟨hs₃, hbyte₃⟩ := v.write_ok hs C.status
  have hpush := C.push
  unfold BlkSystem.pushUsed at hpush
  split at hpush
  · cases congrArg Prod.snd hpush
  rename_i system virtio _ hpushUsed
  have hsystem : s'.system = system := by rw [← congrArg (·.1.system) hpush]; rfl
  obtain ⟨q, hq⟩ : ∃ q, virtioQueueGet s.blk.pci.virtio 0 = .ok q := by
    unfold virtioQueuePushUsed at hpushUsed
    split at hpushUsed
    · cases hpushUsed
    · exact ⟨_, by assumption⟩
  obtain ⟨hs', hbyte⟩ := virtioQueuePushUsed_view v.toView hs₃ hq hpushUsed
  rw [hsystem]
  exact ⟨hs', q, hq, hbyte.trans (hbyte₃.mono Set.sdiff_subset)⟩

variable (F : h.OnFile)

/-- A write puts the bytes of the buffers into the file. -/
theorem BlkRequest.Done.out_image (D : r.Done h v s chain s') (htype : r.type = virtioBlkTOut) :
    BlkRange s.blk r.sector r.segs ∧ v.Inv s'.system ∧ F.image s'.host =
      (F.image s.host).write (r.sector * virtioBlkSectorSize) (gather (v.byte s.system) r.segs) := by
  obtain ⟨system₁, system₂, system₃, used, C⟩ := D.calls
  obtain ⟨hrange, hloop⟩ := virtioBlkPerform_ok (.inr htype) C.perform
  have hout : decide (r.type = virtioBlkTIn) = false := by rw [htype]; rfl
  rw [hout] at hloop
  have hdom := D.inside.segs
  have hsame : gather (v.byte system₁) r.segs = gather (v.byte s.system) r.segs :=
    gather_congr fun g hg => C.byte.mono (hdom g hg)
  rw [← C.segs] at hdom
  obtain ⟨hs₂, -, himage⟩ := virtioBlkSegments_out F v C.inv hdom hloop
  rw [C.segs, hsame] at himage
  exact ⟨C.segs ▸ hrange, (C.after hs₂).1, himage⟩

/-- A read puts the bytes of the file into the buffers. -/
theorem BlkRequest.Done.in_bytes (D : r.Done h v s chain s') (htype : r.type = virtioBlkTIn)
    (hring : r.ClearOfRing s) : gather (v.byte s'.system) r.segs =
      (F.image s.host).bytes.read (r.sector * virtioBlkSectorSize) (segsLength r.segs) := by
  obtain ⟨system₁, system₂, system₃, used, C⟩ := D.calls
  obtain ⟨-, hloop⟩ := virtioBlkPerform_ok (.inl htype) C.perform
  rw [decide_eq_true htype] at hloop
  obtain ⟨hs₂, hbyte₂⟩ := virtioBlkSegments_in F v C.inv hloop
  obtain ⟨-, q, hq, hbyte⟩ := C.after hs₂
  rw [C.segs] at hbyte₂
  -- The status byte and the used ring are outside the buffers.
  have hkeep : ∀ g ∈ r.segs, Set.EqOn (v.byte s'.system) (writeAll (v.byte system₁)
      (chunksFrom (F.image s.host).bytes (r.sector * virtioBlkSectorSize) r.segs)) g.range := by
    intro g hg a ha
    have hdom := D.inside.segs g hg ha
    have hne : a ≠ r.status := fun heq => D.separate.status g hg (heq ▸ ha)
    rw [hbyte ⟨hdom, (hring q hq g hg).notMem a ha⟩,
      Store.write_out _ (by rw [List.length_singleton]; omega), hbyte₂ hdom]
  have hseg := chunksFrom_seg (F.image s.host).bytes (r.sector * virtioBlkSectorSize) r.segs
  have hpairwise := D.separate.pairwise
  rw [← hseg] at hpairwise
  have hgather := gather_writeAll (v.byte system₁) hpairwise
  rw [hseg, chunksFrom_data] at hgather
  rw [gather_congr hkeep, hgather]

theorem FileImage.size_write {f : FileImage} {offset : Nat} {data : List UInt8}
    (hend : offset + data.length ≤ f.size) : (f.write offset data).size = f.size := by
  simp only [write]
  split <;> omega

/-- The data of virtio-blk. A write that is completed with `OK` puts the buffers into the file, in
place of the bytes at its sector, and changes nothing else of it. A read that is completed with
`OK` puts these bytes of the file into the buffers, unless the used ring overlaps them. A read of
what was written returns it, whatever the buffers are. Reads, requests to a read-only device and
requests that do not fit the capacity or 64 bits leave the file. -/
theorem virtioBlk_data_integrity (F : h.OnFile) (v : dma.DataView) :
    (∀ (s s' : BlkSystem η) chain (r : BlkRequest), r.Done h v s chain s' → r.type = virtioBlkTOut →
      s.blk.capacitySectors * virtioBlkSectorSize ≤ (F.image s.host).size →
      (F.image s'.host).bytes.read (r.sector * virtioBlkSectorSize) (segsLength r.segs) =
        gather (v.byte s.system) r.segs ∧
      (∀ x, x ∉ (Seg.mk (r.sector * virtioBlkSectorSize) (segsLength r.segs)).range →
        (F.image s'.host).bytes x = (F.image s.host).bytes x) ∧
      (F.image s'.host).size = (F.image s.host).size) ∧
    (∀ (s s' : BlkSystem η) chain (r : BlkRequest), r.Done h v s chain s' → r.type = virtioBlkTIn → r.ClearOfRing s →
      gather (v.byte s'.system) r.segs =
        (F.image s.host).bytes.read (r.sector * virtioBlkSectorSize) (segsLength r.segs)) ∧
    (∀ (s s' t t' : BlkSystem η) chain chain' (r r' : BlkRequest), r.Done h v s chain s' →
      r.type = virtioBlkTOut → F.image t.host = F.image s'.host → r'.Done h v t chain' t' → r'.type = virtioBlkTIn →
      r'.ClearOfRing t → r'.sector = r.sector → segsLength r'.segs = segsLength r.segs →
      gather (v.byte t'.system) r'.segs = gather (v.byte s.system) r.segs) ∧
    (∀ (s : BlkSystem η) chain, v.Inv s.system →
      (s.blk.readonly = true ∨ ∃ r, blkRequest (v.byte s.system) chain = some r ∧
        (Seg.mk r.header virtioBlkRequestHeaderSize).range ⊆ v.dom ∧
        (r.type = virtioBlkTIn ∨ ¬ BlkRange s.blk r.sector r.segs)) →
      F.image (virtioBlkProcessRequest h dma s chain).1.host = F.image s.host) := by
  -- What a write leaves at its sector.
  have hback : ∀ (s s' : BlkSystem η) chain (r : BlkRequest), r.Done h v s chain s' → r.type = virtioBlkTOut →
      (F.image s'.host).bytes.read (r.sector * virtioBlkSectorSize) (segsLength r.segs) =
        gather (v.byte s.system) r.segs := by
    intro s s' chain r D htype
    rw [(D.out_image F htype).2.2, ← length_gather (v.byte s.system)]
    exact Store.read_write_same ..
  refine ⟨fun s s' chain r D htype hsize => ⟨hback s s' chain r D htype, fun x hx => ?_, ?_⟩,
    fun s s' chain r D htype hring => D.in_bytes F htype hring, ?_, ?_⟩
  · rw [(D.out_image F htype).2.2]
    refine Store.write_out _ ?_
    rw [length_gather]
    simp only [Seg.range, Set.mem_Ico] at hx
    omega
  · obtain ⟨hrange, -, himage⟩ := D.out_image F htype
    rw [himage, FileImage.size_write]
    rw [length_gather]
    exact hrange.capacity.trans hsize
  · intro s s' t t' chain chain' r r' D htype himage D' htype' hring hsector htotal
    rw [D'.in_bytes F htype' hring, himage, hsector, htotal, hback s s' chain r D htype]
  · intro s chain hs hkeep
    rcases virtioBlkProcessRequest_host (h := h) v chain hs with
      hhost | ⟨system, type, sector, hhost, hfields⟩
    · rw [hhost]
    rw [hhost]
    refine virtioBlkPerform_image F s.blk chain.blkData type sector system s.host fun hout => ?_
    rcases hkeep with hreadonly | ⟨r, hr, hheader, hcase⟩
    · exact .inl hreadonly
    obtain ⟨rfl, rfl⟩ := hfields r hr hheader
    rw [← blkRequest_segs hr]
    exact .inr (hcase.resolve_left fun hin => absurd (hin.symm.trans hout) (by decide))

end Request

/-! ## A file behind any pattern of short and failing calls -/

theorem length_read_le (f : Store) (offset n length : Nat) :
    (f.read offset (min n length)).length ≤ length := by
  rw [Store.length_read]
  exact Nat.min_le_right ..

/-- The host with a file whose calls follow a pattern: the `k`th read or write fails, or it moves
the given number of bytes at most. -/
def patternHost (pattern : Nat → Except Errno Nat) : BlkHost (FileImage × Nat) where
  malloc s _ := (s, true)
  pread s offset length := ((s.1, s.2 + 1),
    match pattern s.2 with
    | .error e => .error e
    | .ok n => .ok ⟨s.1.bytes.read offset (min (min n (s.1.size - offset)) length),
        length_read_le ..⟩)
  pwrite s offset data :=
    match pattern s.2 with
    | .error e => ((s.1, s.2 + 1), .error e)
    | .ok n => ((s.1.write offset (data.take (min n data.length)), s.2 + 1),
        .ok ⟨min n data.length, Nat.min_le_right ..⟩)
  fsync s := (s, .ok ())

def patternHost_onFile (pattern : Nat → Except Errno Nat) : (patternHost pattern).OnFile where
  image s := s.1
  malloc _ _ := rfl
  pread _ _ _ := rfl
  pread_ok := by
    intro s offset length bs hok
    simp only [patternHost] at hok
    split at hok
    · cases hok
    · cases hok
      simp only [Store.length_read]
  pwrite_ok := by
    intro s offset data n hok
    simp only [patternHost] at hok ⊢
    split at hok
    · cases hok
    · cases hok
      rfl
  fsync _ := rfl

/-! ## A sector that is written and read -/

/-- The header of a write at `0x80001000` and data at `0x80002000`; the rest is zero. -/
def sectorMemory : GuestMemory :=
  { ramAtDram with ram := fun _ => writeAll (fun _ => 0) [⟨0x1000, [1]⟩, ⟨0x2000, [7, 8, 9]⟩] }

/-- A disk of two sectors. The `k`th call of the host moves `200 + k` bytes at most. -/
def smallDisk (bytes : Store) : BlkSystem (FileImage × Nat) where
  system := busMaster sectorMemory
  host := (⟨bytes, 1024⟩, 0)
  blk := ⟨⟨1, ⟨2, 0, 0, 0, [⟨8, 0, 0, 0x80000600, 0x80000700, 0x80000800, true,
    fun _ => queueLayout_eight⟩]⟩, [virtioPciNoVector], 0, true⟩, 2, false⟩
  log := []

abbrev shortCalls : BlkHost (FileImage × Nat) := patternHost fun k => .ok (200 + k)

abbrev masterDma : VirtioDmaOps IommuSystem := virtioNetDma (fun _ => .ok ()) 1

def masterView : masterDma.DataView := directDataView (fun _ => .ok ()) 1 ramAtDram.space

def outChain : VirtioChain :=
  ⟨0, [⟨0x80001000, 16, 1, 1, by decide⟩, ⟨0x80002000, 512, 1, 2, by decide⟩,
    ⟨0x80003000, 1, 2, 0, by decide⟩]⟩

def inChain (first second : Nat) : VirtioChain :=
  ⟨0, [⟨0x80001100, 16, 1, 1, by decide⟩, ⟨first, 256, 3, 2, by decide⟩,
    ⟨second, 256, 3, 3, by decide⟩, ⟨0x80003001, 1, 2, 0, by decide⟩]⟩

def outRequest : BlkRequest := ⟨0x80001000, 1, 0, [⟨0x80002000, 512⟩], 0x80003000⟩

def inRequest (first second : Nat) : BlkRequest :=
  ⟨0x80001100, 0, 0, [⟨first, 256⟩, ⟨second, 256⟩], 0x80003001⟩

theorem masterView_inside (r : BlkRequest) : r.Inside masterView.dom := by
  have hall : ∀ a, a ∈ masterView.dom := by
    rintro a r hr r' hr' - -
    rw [List.mem_singleton.mp hr, List.mem_singleton.mp hr']
  exact ⟨fun a _ => hall a, fun _ _ a _ => hall a⟩

theorem sectorMaster_direct : (busMaster sectorMemory).DirectDma 1 := .inl (by decide +kernel)

theorem smallDisk_inv (bytes : Store) : masterView.Inv (smallDisk bytes).system :=
  ⟨rfl, sectorMaster_direct⟩

def written : BlkSystem (FileImage × Nat) :=
  (virtioBlkProcessRequest shortCalls masterDma (smallDisk fun _ => 0) outChain).1

def readBack : BlkSystem (FileImage × Nat) :=
  (virtioBlkProcessRequest shortCalls masterDma written (inChain 0x80004000 0x80005000)).1

theorem outChain_runs : virtioBlkStatus shortCalls masterDma (smallDisk fun _ => 0) outChain =
    some virtioBlkSOk ∧
    (virtioBlkProcessRequest shortCalls masterDma (smallDisk fun _ => 0) outChain).2 = .ok () := by
  decide +kernel

theorem inChain_runs :
    virtioBlkStatus shortCalls masterDma written (inChain 0x80004000 0x80005000) =
      some virtioBlkSOk ∧
    (virtioBlkProcessRequest shortCalls masterDma written (inChain 0x80004000 0x80005000)).2 =
      .ok () := by
  decide +kernel

theorem outRequest_done :
    outRequest.Done shortCalls masterView (smallDisk fun _ => 0) outChain written where
  inv := smallDisk_inv _
  request := by decide +kernel
  inside := masterView_inside _
  separate := ⟨by simp [outRequest], by simp [outRequest, Seg.range]⟩
  status := outChain_runs.1
  returns := by rw [written, ← outChain_runs.2]

theorem inRequest_done : (inRequest 0x80004000 0x80005000).Done shortCalls masterView written
    (inChain 0x80004000 0x80005000) readBack where
  inv := (outRequest_done.out_image (patternHost_onFile _) rfl).2.1
  request := by decide +kernel
  inside := masterView_inside _
  separate := ⟨by decide, by simp [inRequest, Seg.range]⟩
  status := inChain_runs.1
  returns := by rw [readBack, ← inChain_runs.2]

theorem written_ring : (virtioQueueGet written.blk.pci.virtio 0).toOption.map VirtioQueue.usedSeg =
    some ⟨0x80000800, 68⟩ := by
  decide +kernel

theorem inRequest_clear : (inRequest 0x80004000 0x80005000).ClearOfRing written := by
  intro q hq
  have hring := written_ring
  rw [hq] at hring
  rw [show q.usedSeg = ⟨0x80000800, 68⟩ from Option.some.inj hring]
  decide

/-- A sector written from one buffer is read into two, in calls of other sizes. -/
theorem sector_returned :
    gather (masterView.byte readBack.system) [⟨0x80004000, 256⟩, ⟨0x80005000, 256⟩] =
      gather (masterView.byte (smallDisk fun _ => 0).system) [⟨0x80002000, 512⟩] :=
  (virtioBlk_data_integrity (patternHost_onFile fun k => .ok (200 + k)) masterView).2.2.1
    (smallDisk fun _ => 0) written written readBack outChain (inChain 0x80004000 0x80005000)
    outRequest (inRequest 0x80004000 0x80005000) outRequest_done rfl rfl inRequest_done rfl
    inRequest_clear rfl rfl

def ringOverwritten : BlkSystem (FileImage × Nat) :=
  (virtioBlkProcessRequest shortCalls masterDma (smallDisk fun _ => 7)
    (inChain 0x80000800 0x80005000)).1

theorem ringChain_runs :
    virtioBlkStatus shortCalls masterDma (smallDisk fun _ => 7) (inChain 0x80000800 0x80005000) =
      some virtioBlkSOk ∧
    (virtioBlkProcessRequest shortCalls masterDma (smallDisk fun _ => 7)
      (inChain 0x80000800 0x80005000)).2 = .ok () := by
  decide +kernel

theorem ringRequest_done : (inRequest 0x80000800 0x80005000).Done shortCalls masterView
    (smallDisk fun _ => 7) (inChain 0x80000800 0x80005000) ringOverwritten where
  inv := smallDisk_inv _
  request := by decide +kernel
  inside := masterView_inside _
  separate := ⟨by decide, by simp [inRequest, Seg.range]⟩
  status := ringChain_runs.1
  returns := by rw [ringOverwritten, ← ringChain_runs.2]

/-- A buffer over the used ring. The read is completed with `OK`, its buffers overlap neither each
other nor the status byte, and yet they do not hold the bytes of the file. -/
theorem ringBuffer_overwritten : (inRequest 0x80000800 0x80005000).Done shortCalls masterView
      (smallDisk fun _ => 7) (inChain 0x80000800 0x80005000) ringOverwritten ∧
    (inRequest 0x80000800 0x80005000).type = virtioBlkTIn ∧
    gather (masterView.byte ringOverwritten.system) (inRequest 0x80000800 0x80005000).segs ≠
      Store.read (fun _ => 7) 0 512 :=
  ⟨ringRequest_done, rfl, by decide +kernel⟩

end Vart
