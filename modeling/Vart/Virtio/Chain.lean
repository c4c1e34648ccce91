import Vart.Virtio.Path

/-!
# Parsing descriptor chains

What `vart_virtio_queue_pop` returns, in terms of the memory it reads.

* `virtioChainLoop_path`: the loop walks the path of the chain up to its end.
* `virtioChainLoop_reads`: the loop reads no descriptor twice.
* `PopError`: why a pop fails.
* `virtioQueuePop_parses`: a pop returns the well-formed chain or the first error.
-/

namespace Vart

open Lib

/-! ## The loop -/

section Loop

variable {σ : Type} {dma : VirtioDmaOps σ} {q : VirtioQueue}

/-- The address of a descriptor does not wrap. -/
theorem descriptorAddress_lt (hready : q.ready = true) {index : Nat} (h : index < q.size) :
    (q.descriptorAddress + index * virtioDescriptorSize) % 2 ^ 64 =
      q.descriptorAddress + index * virtioDescriptorSize := by
  have hend := (q.wf hready).descriptor_end
  simp only [virtioDescriptorSize] at hend ⊢
  exact Nat.mod_eq_of_lt (by omega)

section Fixed

variable {Inv : σ → Prop} {memory : Nat → Nat → Except Errno (List UInt8)}

/-- One turn of the loop ends as the path does, or goes on to the next index. -/
theorem virtioChainLoop_turn (hfixed : dma.Fixed Inv memory) (hready : q.ready = true)
    (room : Nat) {index : Nat} {s : σ} {visited : List Nat} {p : List (Nat × VirtioDescriptor)}
    (hs : Inv s) (hlt : index < q.size) (hvisited : ∀ i, i ∈ visited ↔ i ∈ p.map Prod.fst)
    (hlen : p.length < virtioMaxQueueSize) :
    match stopAt (q.descriptorAt memory) q.size p index with
    | some r => (virtioChainLoop dma q (room + 1) s visited index).2 = r.map ([·])
    | none => ∃ t d, Inv t ∧ q.descriptorAt memory index = .ok d ∧
      (virtioChainLoop dma q (room + 1) s visited index).2 =
        if room = 0 then .error .eproto
        else (virtioChainLoop dma q room t (index :: visited) d.next).2.map (d :: ·) := by
  obtain ⟨t, hread, ht⟩ := hfixed s hs (q.descriptorAddress + index * virtioDescriptorSize)
    virtioDescriptorSize
  rw [virtioChainLoop, stopAt, descriptorAddress_lt hready hlt]
  by_cases hnew : index ∈ p.map Prod.fst
  · rw [if_pos hnew, if_neg hlen.ne, if_pos ((hvisited index).mpr hnew)]
    rfl
  rw [if_neg hnew, if_neg (mt (hvisited index).mp hnew), hread]
  cases hmem : memory (q.descriptorAddress + index * virtioDescriptorSize)
      virtioDescriptorSize with
  | error e => simp only [VirtioQueue.descriptorAt, hmem, Except.map]
  | ok raw =>
    simp only [VirtioQueue.descriptorAt, hmem]
    by_cases hindirect : (virtioDescriptor raw).flags &&& virtioDescFIndirect ≠ 0
    · simp only [if_pos hindirect, Except.map]
    simp only [if_neg hindirect]
    by_cases hmask : andNot (virtioDescriptor raw).flags virtioDescFMask ≠ 0
    · simp only [if_pos hmask, Except.map]
    simp only [if_neg hmask]
    by_cases hnext : (virtioDescriptor raw).flags &&& virtioDescFNext = 0
    · simp only [if_pos hnext, Except.map]
    simp only [if_neg hnext]
    by_cases hbig : (virtioDescriptor raw).next ≥ q.size
    · simp only [if_pos hbig, if_pos (Or.inl hbig), Except.map]
    simp only [if_neg hbig]
    refine ⟨t, _, ht, rfl, ?_⟩
    by_cases hroom : room = 0
    · simp only [if_pos hroom, if_pos (Or.inr hroom)]
    · simp only [if_neg hroom, if_neg (not_or.mpr ⟨hbig, hroom⟩)]
      cases hrest : virtioChainLoop dma q room t (index :: visited) (virtioDescriptor raw).next with
      | mk u r => cases r <;> rfl

/-- The path gets to an end with the result `r`. -/
def EndsWith (q : VirtioQueue) (memory : Nat → Nat → Except Errno (List UInt8)) (head : Nat)
    (p : List (Nat × VirtioDescriptor)) (r : Except Errno (List VirtioDescriptor)) : Prop :=
  ∃ rest index, PathTo (q.descriptorAt memory) q.size head (p ++ rest) index ∧
    match r with
    | .error e => stopAt (q.descriptorAt memory) q.size (p ++ rest) index = some (.error e)
    | .ok ds => ∃ d, ds = rest.map Prod.snd ++ [d] ∧
      stopAt (q.descriptorAt memory) q.size (p ++ rest) index = some (.ok d)

/-- The path ends where it is. -/
theorem EndsWith.here {head index : Nat} {p : List (Nat × VirtioDescriptor)}
    {r : Except Errno VirtioDescriptor}
    (hpath : PathTo (q.descriptorAt memory) q.size head p index)
    (hstop : stopAt (q.descriptorAt memory) q.size p index = some r) :
    EndsWith q memory head p (r.map ([·])) := by
  refine ⟨[], index, by rwa [List.append_nil], ?_⟩
  rw [List.append_nil, hstop]
  cases r with
  | error e => rfl
  | ok d => exact ⟨d, rfl, rfl⟩

/-- An end that is found one descriptor further on. -/
theorem EndsWith.cons {head index : Nat} {p : List (Nat × VirtioDescriptor)}
    {d : VirtioDescriptor} {r : Except Errno (List VirtioDescriptor)}
    (h : EndsWith q memory head (p ++ [(index, d)]) r) :
    EndsWith q memory head p (r.map (d :: ·)) := by
  obtain ⟨rest, last, hpath, hend⟩ := h
  rw [List.append_assoc] at hpath hend
  refine ⟨(index, d) :: rest, last, hpath, ?_⟩
  cases r with
  | error e => exact hend
  | ok ds =>
    obtain ⟨d', rfl, hstop⟩ := hend
    exact ⟨d', rfl, hstop⟩

/-- The loop walks the path to its end. `p` is where it has been, and what fits into the chain is
`p` and `room + 1` more descriptors. -/
theorem virtioChainLoop_path (hfixed : dma.Fixed Inv memory) (hready : q.ready = true)
    {head : Nat} (hhead : head < q.size) (room : Nat) {index : Nat} {s : σ} {visited : List Nat}
    {p : List (Nat × VirtioDescriptor)} (hs : Inv s)
    (hpath : PathTo (q.descriptorAt memory) q.size head p index)
    (hvisited : ∀ i, i ∈ visited ↔ i ∈ p.map Prod.fst)
    (hroom : (room + 1) + p.length = virtioMaxQueueSize) :
    EndsWith q memory head p (virtioChainLoop dma q (room + 1) s visited index).2 := by
  induction room generalizing s visited p index with
  | zero =>
    have hturn := virtioChainLoop_turn hfixed hready 0 hs (hpath.facts hhead).index_lt
      hvisited (by omega)
    cases hstop : stopAt (q.descriptorAt memory) q.size p index with
    | some r =>
      rw [hstop] at hturn
      exact hturn ▸ .here hpath hstop
    | none =>
      rw [hstop] at hturn
      obtain ⟨t, d, -, hd, heq⟩ := hturn
      -- The chain is full, so the next index is one of those in it.
      have hnext := PathTo.snoc hpath hstop hd
      have hfull : (p ++ [(index, d)]).length = virtioMaxQueueSize := by
        rw [List.length_append, List.length_singleton]
        omega
      have hsize := (q.wf hready).size_le
      have hrevisits := (hnext.facts hhead).revisits (by omega)
      rw [heq, if_pos rfl]
      refine ⟨[(index, d)], d.next, hnext, ?_⟩
      simp only [stopAt, if_pos hrevisits, if_pos hfull]
  | succ room ih =>
    have hturn := virtioChainLoop_turn hfixed hready (room + 1) hs
      (hpath.facts hhead).index_lt hvisited (by omega)
    cases hstop : stopAt (q.descriptorAt memory) q.size p index with
    | some r =>
      rw [hstop] at hturn
      exact hturn ▸ .here hpath hstop
    | none =>
      rw [hstop] at hturn
      obtain ⟨t, d, ht, hd, heq⟩ := hturn
      rw [heq, if_neg (Nat.succ_ne_zero room)]
      refine (ih ht (PathTo.snoc hpath hstop hd) ?_ ?_).cons
      · intro i
        rw [List.mem_cons, hvisited, List.map_append, List.map_singleton, List.mem_append,
          List.mem_singleton]
        exact or_comm
      · rw [List.length_append, List.length_singleton]
        omega

/-- The loop returns the well-formed chain. -/
theorem virtioChainLoop_ok_iff (hfixed : dma.Fixed Inv memory) (hready : q.ready = true)
    {head : Nat} (hhead : head < q.size) {s : σ} (hs : Inv s) {ds : List VirtioDescriptor} :
    (virtioChainLoop dma q virtioMaxQueueSize s [] head).2 = .ok ds ↔
      ∃ P, VirtioPath (q.descriptorAt memory) q.size head P ∧ ds = P.map Prod.snd := by
  have hends : EndsWith q memory head []
      (virtioChainLoop dma q virtioMaxQueueSize s [] head).2 :=
    virtioChainLoop_path hfixed hready hhead 1023 hs .nil (by simp) rfl
  simp only [virtioPath_iff hhead]
  constructor
  · intro hok
    rw [hok] at hends
    obtain ⟨rest, index, hpath, d, rfl, hstop⟩ := hends
    exact ⟨rest ++ [(index, d)], ⟨rest, index, d, hpath, hstop, rfl⟩, by simp⟩
  · rintro ⟨P, ⟨p, index, d, hpath, hstop, rfl⟩, rfl⟩
    obtain ⟨rest, index', hpath', hend⟩ := hends
    split at hend
    · rename_i e _
      cases (hpath.end_unique hhead hstop hpath' hend).2.2
    · rename_i ds heq
      obtain ⟨d', rfl, hstop'⟩ := hend
      obtain ⟨rfl, -, hd⟩ := hpath.end_unique hhead hstop hpath' hstop'
      cases hd
      rw [heq]
      simp

/-- The loop fails as the path does. -/
theorem virtioChainLoop_error_iff (hfixed : dma.Fixed Inv memory) (hready : q.ready = true)
    {head : Nat} (hhead : head < q.size) {s : σ} (hs : Inv s) {e : Errno} :
    (virtioChainLoop dma q virtioMaxQueueSize s [] head).2 = .error e ↔
      ∃ p index, PathTo (q.descriptorAt memory) q.size head p index ∧
        stopAt (q.descriptorAt memory) q.size p index = some (.error e) := by
  have hends : EndsWith q memory head []
      (virtioChainLoop dma q virtioMaxQueueSize s [] head).2 :=
    virtioChainLoop_path hfixed hready hhead 1023 hs .nil (by simp) rfl
  constructor
  · intro herr
    rw [herr] at hends
    obtain ⟨rest, index, hpath, hstop⟩ := hends
    exact ⟨rest, index, hpath, hstop⟩
  · rintro ⟨p, index, hpath, hstop⟩
    obtain ⟨rest, index', hpath', hend⟩ := hends
    split at hend
    · rename_i e' heq
      cases (hpath.end_unique hhead hstop hpath' hend).2.2
      exact heq
    · obtain ⟨d, -, hstop'⟩ := hend
      cases (hpath.end_unique hhead hstop hpath' hstop').2.2

end Fixed

/-! ## Reads -/

/-- The loop reads the descriptors of different indices, so there are at most as many reads as
there are indices left. -/
theorem virtioChainLoop_reads (dma : VirtioDmaOps σ) (room : Nat) {index : Nat} (s : σ)
    (log : List Seg) {visited : List Nat} (hlt : index < q.size) (hdistinct : visited.Nodup)
    (hbelow : ∀ i ∈ visited, i < q.size) :
    ∃ reads, virtioChainLoop dma.readLogged q room (s, log) visited index =
        (((virtioChainLoop dma q room s visited index).1, reads ++ log),
          (virtioChainLoop dma q room s visited index).2) ∧
      reads.length + visited.length ≤ q.size := by
  have hle := length_le_of_nodup_lt hdistinct hbelow
  induction room generalizing s log visited index with
  | zero => exact ⟨[], rfl, by simpa using hle⟩
  | succ room ih =>
    rw [virtioChainLoop, virtioChainLoop]
    by_cases hnew : index ∈ visited
    · rw [if_pos hnew, if_pos hnew]
      exact ⟨[], rfl, by simpa using hle⟩
    have hdistinct' : (index :: visited).Nodup := List.nodup_cons.mpr ⟨hnew, hdistinct⟩
    have hbelow' : ∀ i ∈ index :: visited, i < q.size := List.forall_mem_cons.mpr ⟨hlt, hbelow⟩
    have hle' := length_le_of_nodup_lt hdistinct' hbelow'
    rw [if_neg hnew, if_neg hnew]
    generalize haddress : (q.descriptorAddress + index * virtioDescriptorSize) % 2 ^ 64 = address
    have hone : ([⟨address, virtioDescriptorSize⟩] : List Seg).length + visited.length ≤ q.size := by
      rw [List.length_singleton, Nat.add_comm]
      exact hle'
    obtain ⟨t, r, hread⟩ : ∃ t r, dma.read s address virtioDescriptorSize = (t, r) := ⟨_, _, rfl⟩
    rw [hread, Port.readLogged_read hread]
    cases r with
    | error e => exact ⟨[⟨address, virtioDescriptorSize⟩], rfl, hone⟩
    | ok raw =>
    dsimp only
    by_cases hindirect : (virtioDescriptor raw).flags &&& virtioDescFIndirect ≠ 0
    · rw [if_pos hindirect, if_pos hindirect]
      exact ⟨[⟨address, virtioDescriptorSize⟩], rfl, hone⟩
    rw [if_neg hindirect, if_neg hindirect]
    by_cases hmask : andNot (virtioDescriptor raw).flags virtioDescFMask ≠ 0
    · rw [if_pos hmask, if_pos hmask]
      exact ⟨[⟨address, virtioDescriptorSize⟩], rfl, hone⟩
    rw [if_neg hmask, if_neg hmask]
    by_cases hlast : (virtioDescriptor raw).flags &&& virtioDescFNext = 0
    · rw [if_pos hlast, if_pos hlast]
      exact ⟨[⟨address, virtioDescriptorSize⟩], rfl, hone⟩
    rw [if_neg hlast, if_neg hlast]
    by_cases hnext : (virtioDescriptor raw).next ≥ q.size ∨ room = 0
    · rw [if_pos hnext, if_pos hnext]
      exact ⟨[⟨address, virtioDescriptorSize⟩], rfl, hone⟩
    rw [if_neg hnext, if_neg hnext]
    obtain ⟨reads, heq, hlen⟩ := ih t (⟨address, virtioDescriptorSize⟩ :: log)
      (Nat.not_le.mp (not_or.mp hnext).1) hdistinct' hbelow' hle'
    rw [heq]
    refine ⟨reads ++ [⟨address, virtioDescriptorSize⟩], ?_, ?_⟩
    · rw [List.append_assoc]
      obtain ⟨u, r⟩ := virtioChainLoop dma q room t (index :: visited) (virtioDescriptor raw).next
      cases r <;> rfl
    · rw [List.length_append, List.length_singleton]
      rw [List.length_cons] at hlen
      omega

end Loop

/-! ## Pops -/

section Pop

variable (q : VirtioQueue) (memory : Nat → Nat → Except Errno (List UInt8))

/-- `avail.idx` in the memory. -/
def VirtioQueue.availableIndex : Except Errno UInt16 :=
  (memory (q.availableAddress + 2) 2).map fun raw => UInt16.ofNat (loadLe raw)

/-- The next entry of the available ring in the memory. -/
def VirtioQueue.nextHead : Except Errno Nat :=
  (memory (q.availableAddress + virtioAvailableHeaderSize + q.lastAvail.toNat % q.size * 2) 2).map
    loadLe

/-- The driver has made chains available, at most as many as the queue has entries. -/
def VirtioQueue.Pending : Prop :=
  ∃ i, q.availableIndex memory = .ok i ∧ i ≠ q.lastAvail ∧ (i - q.lastAvail).toNat ≤ q.size

/-- Why a pop fails: the first thing that is wrong on the way to the end of the chain. -/
inductive PopError : Errno → Prop
  | availableDma {e : Errno} : q.availableIndex memory = .error e → PopError e
  | empty : q.availableIndex memory = .ok q.lastAvail → PopError .eagain
  | tooMany {i : UInt16} : q.availableIndex memory = .ok i → (i - q.lastAvail).toNat > q.size →
    PopError .eproto
  | headDma {e : Errno} : q.Pending memory → q.nextHead memory = .error e → PopError e
  | headRange {head : Nat} : q.Pending memory → q.nextHead memory = .ok head → head ≥ q.size →
    PopError .eproto
  | chain {head : Nat} {p : List (Nat × VirtioDescriptor)} {index : Nat} {e : Errno} :
    q.Pending memory → q.nextHead memory = .ok head → head < q.size →
    PathTo (q.descriptorAt memory) q.size head p index →
    stopAt (q.descriptorAt memory) q.size p index = some (.error e) → PopError e

end Pop

section PopResult

variable {σ : Type} {dma : VirtioDmaOps σ} {q : VirtioQueue} {Inv : σ → Prop}
  {memory : Nat → Nat → Except Errno (List UInt8)} {s : σ} {dev : VirtioDevice} {index : Nat}

/-- The device after a pop. -/
def VirtioDevice.popped (dev : VirtioDevice) (index : Nat) (q : VirtioQueue) : VirtioDevice :=
  dev.setQueue index { q with lastAvail := q.lastAvail + 1 }

/-- A pop in terms of the memory: the index, the head, and then the loop. -/
theorem virtioQueuePop_result (hfixed : dma.Fixed Inv memory) (hs : Inv s)
    (hq : virtioQueueGet dev index = .ok q) :
    ∃ t, Inv t ∧ (virtioQueuePop dma s dev index).2 =
      match q.availableIndex memory with
      | .error e => .error e
      | .ok i =>
        if i = q.lastAvail then .error .eagain
        else if (i - q.lastAvail).toNat > q.size then .error .eproto
        else match q.nextHead memory with
        | .error e => .error e
        | .ok head =>
          if head ≥ q.size then .error .eproto
          else (virtioChainLoop dma q virtioMaxQueueSize t [] head).2.map
            fun ds => (dev.popped index q, ⟨head, ds⟩) := by
  have hlayout := q.wf (virtioQueueGet_ok hq).2
  have hend := hlayout.available_end
  have hslot := Nat.mod_lt q.lastAvail.toNat hlayout.size_pos
  simp only [virtioAvailableHeaderSize] at hend
  have hindex : (q.availableAddress + 2) % 2 ^ 64 = q.availableAddress + 2 :=
    Nat.mod_eq_of_lt (by omega)
  have hhead : (q.availableAddress + virtioAvailableHeaderSize +
      q.lastAvail.toNat % q.size * 2) % 2 ^ 64 =
      q.availableAddress + virtioAvailableHeaderSize + q.lastAvail.toNat % q.size * 2 := by
    simp only [virtioAvailableHeaderSize]
    exact Nat.mod_eq_of_lt (by omega)
  unfold virtioQueuePop VirtioQueue.availableIndex VirtioQueue.nextHead
  simp only [hq, hindex, hhead]
  obtain ⟨t₁, hread₁, ht₁⟩ := hfixed s hs (q.availableAddress + 2) 2
  rw [hread₁]
  cases memory (q.availableAddress + 2) 2 with
  | error e => exact ⟨t₁, ht₁, rfl⟩
  | ok raw =>
    simp only [Except.map]
    split
    · exact ⟨t₁, ht₁, rfl⟩
    split
    · exact ⟨t₁, ht₁, rfl⟩
    obtain ⟨t₂, hread₂, ht₂⟩ := hfixed t₁ ht₁
      (q.availableAddress + virtioAvailableHeaderSize + q.lastAvail.toNat % q.size * 2) 2
    rw [hread₂]
    refine ⟨t₂, ht₂, ?_⟩
    cases memory (q.availableAddress + virtioAvailableHeaderSize +
        q.lastAvail.toNat % q.size * 2) 2 with
    | error e => rfl
    | ok raw' =>
      simp only
      split
      · rfl
      · obtain ⟨u, e | ds⟩ :=
          virtioChainLoop dma q virtioMaxQueueSize t₂ [] (loadLe raw') <;> rfl

/-- A pop succeeds with the well-formed chain of the next head. -/
theorem virtioQueuePop_ok_iff (hfixed : dma.Fixed Inv memory) (hs : Inv s)
    (hq : virtioQueueGet dev index = .ok q) {dev' : VirtioDevice} {chain : VirtioChain} :
    (virtioQueuePop dma s dev index).2 = .ok (dev', chain) ↔
      dev' = dev.popped index q ∧ q.Pending memory ∧ q.nextHead memory = .ok chain.head ∧
      chain.head < q.size ∧ ∃ P, VirtioPath (q.descriptorAt memory) q.size chain.head P ∧
        chain.descriptors = P.map Prod.snd := by
  have hready := (virtioQueueGet_ok hq).2
  obtain ⟨t, ht, heq⟩ := virtioQueuePop_result hfixed hs hq
  rw [heq]
  constructor
  · intro hok
    split at hok
    · cases hok
    rename_i i hav
    split at hok
    · cases hok
    rename_i hne
    split at hok
    · cases hok
    rename_i hle
    split at hok
    · cases hok
    rename_i head hhead
    split at hok
    · cases hok
    rename_i hlt
    cases hloop : (virtioChainLoop dma q virtioMaxQueueSize t [] head).2 with
    | error e =>
      rw [hloop] at hok
      cases hok
    | ok ds =>
      rw [hloop] at hok
      cases hok
      exact ⟨rfl, ⟨i, hav, hne, Nat.not_lt.mp hle⟩, hhead, Nat.not_le.mp hlt,
        (virtioChainLoop_ok_iff hfixed hready (Nat.not_le.mp hlt) ht).mp hloop⟩
  · rintro ⟨rfl, ⟨i, hav, hne, hle⟩, hhead, hlt, hpath⟩
    have hloop := (virtioChainLoop_ok_iff hfixed hready hlt ht).mpr hpath
    simp only [hav, if_neg hne, if_neg (Nat.not_lt.mpr hle), hhead, if_neg (Nat.not_le.mpr hlt),
      hloop]
    rfl

/-- A pop fails for the first reason there is. -/
theorem virtioQueuePop_error_iff (hfixed : dma.Fixed Inv memory) (hs : Inv s)
    (hq : virtioQueueGet dev index = .ok q) {e : Errno} :
    (virtioQueuePop dma s dev index).2 = .error e ↔ PopError q memory e := by
  have hready := (virtioQueueGet_ok hq).2
  obtain ⟨t, ht, heq⟩ := virtioQueuePop_result hfixed hs hq
  rw [heq]
  constructor
  · intro herr
    split at herr
    · rename_i e' hav
      cases herr
      exact .availableDma hav
    rename_i i hav
    split at herr
    · rename_i hlast
      cases herr
      exact .empty (hlast ▸ hav)
    rename_i hne
    split at herr
    · rename_i hmany
      cases herr
      exact .tooMany hav hmany
    rename_i hle
    have hpending : q.Pending memory := ⟨i, hav, hne, Nat.not_lt.mp hle⟩
    split at herr
    · rename_i e' hhead
      cases herr
      exact .headDma hpending hhead
    rename_i head hhead
    split at herr
    · rename_i hrange
      cases herr
      exact .headRange hpending hhead hrange
    rename_i hlt
    cases hloop : (virtioChainLoop dma q virtioMaxQueueSize t [] head).2 with
    | error e' =>
      rw [hloop] at herr
      cases herr
      obtain ⟨p, last, hpath, hstop⟩ :=
        (virtioChainLoop_error_iff hfixed hready (Nat.not_le.mp hlt) ht).mp hloop
      exact .chain hpending hhead (Nat.not_le.mp hlt) hpath hstop
    | ok ds =>
      rw [hloop] at herr
      cases herr
  · intro herr
    cases herr with
    | availableDma hav => simp only [hav]
    | empty hav => simp only [hav, if_true]
    | @tooMany i hav hmany =>
      have hne : i ≠ q.lastAvail := by
        rintro rfl
        simp at hmany
      simp only [hav, if_neg hne, if_pos hmany]
    | headDma hpending hhead =>
      obtain ⟨i, hav, hne, hle⟩ := hpending
      simp only [hav, if_neg hne, if_neg (Nat.not_lt.mpr hle), hhead]
    | headRange hpending hhead hrange =>
      obtain ⟨i, hav, hne, hle⟩ := hpending
      simp only [hav, if_neg hne, if_neg (Nat.not_lt.mpr hle), hhead, if_pos hrange]
    | chain hpending hhead hlt hpath hstop =>
      obtain ⟨i, hav, hne, hle⟩ := hpending
      have hloop := (virtioChainLoop_error_iff hfixed hready hlt ht).mpr ⟨_, _, hpath, hstop⟩
      simp only [hav, if_neg hne, if_neg (Nat.not_lt.mpr hle), hhead, if_neg (Nat.not_le.mpr hlt),
        hloop]
      rfl

/-- Only the memory can make a path end with `EAGAIN`. -/
theorem stopAt_ne_eagain (hmemory : ∀ a n, memory a n ≠ .error .eagain) {n : Nat}
    {p : List (Nat × VirtioDescriptor)} :
    stopAt (q.descriptorAt memory) n p index ≠ some (.error .eagain) := by
  unfold stopAt
  split
  · split <;> simp
  · split
    · rename_i e hread
      intro heq
      cases heq
      unfold VirtioQueue.descriptorAt at hread
      split at hread
      · rename_i hmem
        cases hread
        exact hmemory _ _ hmem
      · cases hread
    · repeat' split
      all_goals simp

theorem virtioQueuePop_eagain_iff (hfixed : dma.Fixed Inv memory) (hs : Inv s)
    (hq : virtioQueueGet dev index = .ok q) (hmemory : ∀ a n, memory a n ≠ .error .eagain) :
    (virtioQueuePop dma s dev index).2 = .error .eagain ↔
      q.availableIndex memory = .ok q.lastAvail := by
  rw [virtioQueuePop_error_iff hfixed hs hq]
  have hmap {α : Type} (f : List UInt8 → α) (a n : Nat) :
      (memory a n).map f ≠ .error .eagain := by
    have hne := hmemory a n
    cases hmem : memory a n with
    | error e =>
      intro heq
      cases heq
      exact hne hmem
    | ok raw => simp [Except.map]
  constructor
  · intro herr
    cases herr with
    | availableDma hav => exact absurd hav (hmap _ _ _)
    | empty hav => exact hav
    | headDma _ hhead => exact absurd hhead (hmap _ _ _)
    | chain _ _ _ _ hstop => exact absurd hstop (stopAt_ne_eagain hmemory)
  · exact .empty

/-- A pop reads at most as many descriptors as the queue has. -/
theorem virtioQueuePop_reads (dma : VirtioDmaOps σ) (s : σ)
    (hq : virtioQueueGet dev index = .ok q) :
    ∃ reads, virtioQueuePop dma.readLogged (s, []) dev index =
        (((virtioQueuePop dma s dev index).1, reads), (virtioQueuePop dma s dev index).2) ∧
      reads.countP (·.length == virtioDescriptorSize) ≤ q.size := by
  unfold virtioQueuePop
  simp only [hq]
  generalize (q.availableAddress + 2) % 2 ^ 64 = a₁
  generalize (q.availableAddress + virtioAvailableHeaderSize +
    q.lastAvail.toNat % q.size * 2) % 2 ^ 64 = a₂
  -- The reads of the available ring have two bytes.
  have hnone : ([⟨a₁, 2⟩] : List Seg).countP (·.length == virtioDescriptorSize) ≤ q.size :=
    Nat.zero_le _
  have hnone' : ([⟨a₂, 2⟩, ⟨a₁, 2⟩] : List Seg).countP (·.length == virtioDescriptorSize) ≤
    q.size := Nat.zero_le _
  obtain ⟨t₁, r₁, hread₁⟩ : ∃ t r, dma.read s a₁ 2 = (t, r) := ⟨_, _, rfl⟩
  rw [hread₁, Port.readLogged_read hread₁]
  cases r₁ with
  | error e => exact ⟨_, rfl, hnone⟩
  | ok raw₁ =>
  dsimp only
  by_cases hlast : UInt16.ofNat (loadLe raw₁) = q.lastAvail
  · rw [if_pos hlast, if_pos hlast]
    exact ⟨_, rfl, hnone⟩
  rw [if_neg hlast, if_neg hlast]
  by_cases hmany : (UInt16.ofNat (loadLe raw₁) - q.lastAvail).toNat > q.size
  · rw [if_pos hmany, if_pos hmany]
    exact ⟨_, rfl, hnone⟩
  rw [if_neg hmany, if_neg hmany]
  obtain ⟨t₂, r₂, hread₂⟩ : ∃ t r, dma.read t₁ a₂ 2 = (t, r) := ⟨_, _, rfl⟩
  rw [hread₂, Port.readLogged_read hread₂]
  cases r₂ with
  | error e => exact ⟨_, rfl, hnone'⟩
  | ok raw₂ =>
  dsimp only
  by_cases hrange : loadLe raw₂ ≥ q.size
  · rw [if_pos hrange, if_pos hrange]
    exact ⟨_, rfl, hnone'⟩
  rw [if_neg hrange, if_neg hrange]
  obtain ⟨reads, heq, hlen⟩ := virtioChainLoop_reads dma virtioMaxQueueSize t₂
    [⟨a₂, 2⟩, ⟨a₁, 2⟩] (Nat.not_le.mp hrange) List.nodup_nil (by simp)
  rw [heq]
  refine ⟨reads ++ [⟨a₂, 2⟩, ⟨a₁, 2⟩], ?_, ?_⟩
  · obtain ⟨u, e | ds⟩ := virtioChainLoop dma q virtioMaxQueueSize t₂ [] (loadLe raw₂) <;> rfl
  · rw [List.countP_append]
    exact (Nat.add_le_add_right List.countP_le_length _).trans hlen

/-- The parser of descriptor chains. On a memory that reads do not change, a pop of a ready queue
returns the well-formed chain of the next head if there is one, and otherwise the first error on
the way. It reads at most as many descriptors as the queue has, and neither the indices nor the
chain leave their arrays. -/
theorem virtioQueuePop_parses (hfixed : dma.Fixed Inv memory) (hs : Inv s)
    (hq : virtioQueueGet dev index = .ok q) :
    (∀ dev' chain, (virtioQueuePop dma s dev index).2 = .ok (dev', chain) ↔
      dev' = dev.popped index q ∧ q.Pending memory ∧ q.nextHead memory = .ok chain.head ∧
      chain.head < q.size ∧ ∃ P, VirtioPath (q.descriptorAt memory) q.size chain.head P ∧
        chain.descriptors = P.map Prod.snd) ∧
    (∀ e, (virtioQueuePop dma s dev index).2 = .error e ↔ PopError q memory e) ∧
    ((∀ a n, memory a n ≠ .error .eagain) → ((virtioQueuePop dma s dev index).2 = .error .eagain ↔
      q.availableIndex memory = .ok q.lastAvail)) ∧
    (∃ reads, virtioQueuePop dma.readLogged (s, []) dev index =
        (((virtioQueuePop dma s dev index).1, reads), (virtioQueuePop dma s dev index).2) ∧
      reads.countP (·.length == virtioDescriptorSize) ≤ q.size) ∧
    (∀ head p i, head < q.size → PathTo (q.descriptorAt memory) q.size head p i →
      i < virtioMaxQueueSize ∧ (i ∉ p.map Prod.fst → p.length < virtioMaxQueueSize)) := by
  refine ⟨fun dev' chain => virtioQueuePop_ok_iff hfixed hs hq,
    fun e => virtioQueuePop_error_iff hfixed hs hq, virtioQueuePop_eagain_iff hfixed hs hq,
    virtioQueuePop_reads dma s hq, fun head p i hhead hpath => ?_⟩
  have hsize := (q.wf (virtioQueueGet_ok hq).2).size_le
  have facts := hpath.facts hhead
  refine ⟨facts.index_lt.trans_le hsize, fun hnew => ?_⟩
  by_contra hlong
  exact hnew (facts.revisits (by omega))

end PopResult

theorem queueLayout_two : QueueLayout 2 0x1000 0x2000 0x3000 := by
  constructor <;> decide

/-- A queue of two descriptors. -/
def twoQueue : VirtioQueue := ⟨2, 0, 0, 0x1000, 0x2000, 0x3000, true, fun _ => queueLayout_two⟩

/-- Entry 0 of the available ring is descriptor 1, which leads to descriptor 0. -/
def twoMemory (address _size : Nat) : Except Errno (List UInt8) :=
  if address = 0x2002 ∨ address = 0x2004 then .ok [1, 0]
  else if address = 0x1000 then .ok [0, 0x50, 0, 0, 0, 0, 0, 0, 0x20, 0, 0, 0, 2, 0, 0, 0]
  else if address = 0x1010 then .ok [0, 0x40, 0, 0, 0, 0, 0, 0, 0x10, 0, 0, 0, 1, 0, 0, 0]
  else .error .efault

/-- A port for this memory. -/
def twoPort : VirtioDmaOps Unit where
  read _ address size := ((), twoMemory address size)
  write _ _ _ := ((), .error .efault)

theorem twoPort_fixed : twoPort.Fixed (fun _ => True) twoMemory :=
  fun _ _ _ _ => ⟨(), rfl, trivial⟩

def twoDevice : VirtioDevice := ⟨2, 0, 0, 0, [twoQueue]⟩

theorem sixteen_lt : 0x10 < 2 ^ 32 := by decide

/-- The chain of descriptors 1 and 0. -/
def twoPath : List (Nat × VirtioDescriptor) :=
  [(1, ⟨0x4000, 0x10, 1, 0, sixteen_lt⟩), (0, ⟨0x5000, 0x20, 2, 0, by decide⟩)]

theorem twoPath_wellFormed : VirtioPath (twoQueue.descriptorAt twoMemory) 2 1 twoPath where
  starts := rfl
  reads := by simp [twoPath]; exact ⟨rfl, rfl⟩
  below := by decide
  distinct := by decide
  plain := by simp [twoPath, VirtioDescriptor.Plain]; decide
  linked := by simp [twoPath, Linked, VirtioDescriptor.HasNext]
  ends := by simp [twoPath, VirtioDescriptor.HasNext]

theorem twoPath_popped : (virtioQueuePop twoPort () twoDevice 0).2 =
    .ok (twoDevice.popped 0 twoQueue, ⟨1, twoPath.map Prod.snd⟩) :=
  ((virtioQueuePop_parses (q := twoQueue) twoPort_fixed trivial rfl).1 _ _).mpr
    ⟨rfl, ⟨1, rfl, by decide, by decide⟩, rfl, by decide, twoPath, twoPath_wellFormed, rfl⟩

end Vart
