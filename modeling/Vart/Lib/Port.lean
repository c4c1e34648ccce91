import Mathlib.Data.Set.Function
import Mathlib.Order.Interval.Set.Basic
import Vart.Lib.Bytes

/-!
# Ports of a byte memory

A device reaches memory through a port: a pair of fallible calls on a state that the device does
not see.

* `Seg`, `gather`: ranges of addresses, and the bytes of a list of ranges, one after the other.
* `writeAll`: a list of writes, oldest first. Ranges that do not overlap hold what was written to
  them (`gather_writeAll`), and nothing else changes (`writeAll_out`).
* `Port.View`: what it means that a port is memory on a set of addresses. `Port.DataView`: its reads
  return the bytes there.
* `Port.Memory`: the port never fails there, and its writes are listed. `Port.logged` adds such a
  list to any port, and `Port.readLogged` a list of reads.
* `Port.Fixed`: what reads return does not change. `Port.Reads`: reads that succeed return the
  bytes of a store that does not change.
-/

namespace Lib

/-! ## Ranges -/

/-- The addresses from `address` up to `address + length`. -/
structure Seg where
  address : Nat
  length : Nat
deriving DecidableEq, Repr

namespace Seg

def range (g : Seg) : Set Nat := Set.Ico g.address (g.address + g.length)

theorem mem_range {a n x : Nat} : x ∈ (Seg.mk a n).range ↔ a ≤ x ∧ x < a + n := Iff.rfl

/-- No address lies in both ranges. -/
def Disjoint (g h : Seg) : Prop :=
  g.length = 0 ∨ h.length = 0 ∨ g.address + g.length ≤ h.address ∨ h.address + h.length ≤ g.address

instance (g h : Seg) : Decidable (g.Disjoint h) := by unfold Disjoint; infer_instance

theorem Disjoint.symm {g h : Seg} (hd : g.Disjoint h) : h.Disjoint g := by
  unfold Disjoint at *
  omega

theorem Disjoint.notMem {g h : Seg} (hd : g.Disjoint h) : ∀ a ∈ h.range, a ∉ g.range := by
  intro a ha hg
  simp only [range, Set.mem_Ico, Disjoint] at *
  omega

/-- A part of a range. -/
theorem Disjoint.part {g h : Seg} (hd : g.Disjoint h) {o n : Nat} (hn : o + n ≤ g.length) :
    Disjoint ⟨g.address + o, n⟩ h := by
  unfold Disjoint at *
  simp only
  omega

end Seg

/-- The number of bytes in a list of ranges. -/
def segsLength (segs : List Seg) : Nat := (segs.map (·.length)).sum

theorem segsLength_cons (g : Seg) (segs : List Seg) :
    segsLength (g :: segs) = g.length + segsLength segs := by
  simp [segsLength]

theorem segsLength_append (segs segs' : List Seg) :
    segsLength (segs ++ segs') = segsLength segs + segsLength segs' := by
  simp [segsLength]

/-- The bytes of the ranges, one after the other. -/
def gather (s : Store) (segs : List Seg) : List UInt8 :=
  segs.flatMap fun g => s.read g.address g.length

theorem gather_cons (s : Store) (g : Seg) (segs : List Seg) :
    gather s (g :: segs) = s.read g.address g.length ++ gather s segs := rfl

@[simp] theorem length_gather (s : Store) (segs : List Seg) :
    (gather s segs).length = segsLength segs := by
  simp [gather, segsLength, List.length_flatMap]

theorem Store.read_add (s : Store) (a m n : Nat) :
    s.read a (m + n) = s.read a m ++ s.read (a + m) n := by
  simp only [Store.read, List.range_add, List.map_append, List.map_map, Function.comp_def,
    Nat.add_assoc]

/-- Ranges hold the same bytes in two stores that agree on them. -/
theorem gather_congr {s t : Store} {segs : List Seg} (h : ∀ g ∈ segs, Set.EqOn s t g.range) :
    gather s segs = gather t segs := by
  induction segs with
  | nil => rfl
  | cons g segs ih =>
    rw [gather_cons, gather_cons, ih fun x hx => h x (List.mem_cons_of_mem _ hx),
      Store.read_congr fun x h1 h2 => h g List.mem_cons_self ⟨h1, h2⟩]

/-! ## Writes -/

/-- A write of a list of bytes. -/
structure Chunk where
  address : Nat
  data : List UInt8

def Chunk.seg (c : Chunk) : Seg := ⟨c.address, c.data.length⟩

/-- The bytes of a store from `offset` on, one write for each range. -/
def chunksFrom (data : Store) : (offset : Nat) → List Seg → List Chunk
  | _, [] => []
  | offset, g :: gs => ⟨g.address, data.read offset g.length⟩ :: chunksFrom data (offset + g.length) gs

theorem chunksFrom_seg (data : Store) (offset : Nat) (segs : List Seg) :
    (chunksFrom data offset segs).map Chunk.seg = segs := by
  induction segs generalizing offset with
  | nil => rfl
  | cons g gs ih => simp only [chunksFrom, List.map_cons, ih, Chunk.seg, Store.length_read]

/-- The writes, one after the other, are the bytes from `offset` on. -/
theorem chunksFrom_data (data : Store) (offset : Nat) (segs : List Seg) :
    (chunksFrom data offset segs).flatMap (·.data) = data.read offset (segsLength segs) := by
  induction segs generalizing offset with
  | nil => rfl
  | cons g gs ih => rw [chunksFrom, List.flatMap_cons, ih, segsLength_cons, Store.read_add]

/-- The writes, oldest first. -/
def writeAll (s : Store) (ws : List Chunk) : Store :=
  ws.foldl (fun s w => s.write w.address w.data) s

theorem writeAll_cons (s : Store) (w : Chunk) (ws : List Chunk) :
    writeAll s (w :: ws) = writeAll (s.write w.address w.data) ws := rfl

theorem writeAll_append (s : Store) (ws ws' : List Chunk) :
    writeAll s (ws ++ ws') = writeAll (writeAll s ws) ws' := List.foldl_append

theorem writeAll_cons_nil (s : Store) (address : Nat) (ws : List Chunk) :
    writeAll s (⟨address, []⟩ :: ws) = writeAll s ws := by
  have hsame : s.write address [] = s := funext fun _ => Store.write_out _ (by simp; omega)
  rw [writeAll_cons, hsame]

theorem eqOn_write {s t : Store} {dom : Set Nat} (h : Set.EqOn s t dom) (a : Nat)
    (bs : List UInt8) : Set.EqOn (s.write a bs) (t.write a bs) dom := by
  intro x hx
  simp only [Store.write, h hx]

theorem eqOn_writeAll_congr {s t : Store} {dom : Set Nat} (h : Set.EqOn s t dom)
    (ws : List Chunk) : Set.EqOn (writeAll s ws) (writeAll t ws) dom := by
  induction ws generalizing s t with
  | nil => exact h
  | cons w ws ih => exact ih (eqOn_write h _ _)

/-- Writes change nothing outside their ranges. -/
theorem writeAll_out (s : Store) {ws : List Chunk} {a : Nat} (h : ∀ w ∈ ws, a ∉ w.seg.range) :
    writeAll s ws a = s a := by
  induction ws generalizing s with
  | nil => rfl
  | cons w ws ih =>
    have hout := h w List.mem_cons_self
    simp only [Seg.range, Chunk.seg, Set.mem_Ico] at hout
    rw [writeAll_cons, ih _ fun x hx => h x (List.mem_cons_of_mem _ hx)]
    exact Store.write_out _ (by omega)

/-- Ranges that do not overlap hold the bytes that were written to them. -/
theorem gather_writeAll (s : Store) {ws : List Chunk}
    (h : (ws.map Chunk.seg).Pairwise Seg.Disjoint) :
    gather (writeAll s ws) (ws.map Chunk.seg) = ws.flatMap (·.data) := by
  induction ws generalizing s with
  | nil => rfl
  | cons w ws ih =>
    rw [List.map_cons, List.pairwise_cons] at h
    rw [List.map_cons, gather_cons, writeAll_cons, ih _ h.2, List.flatMap_cons]
    -- The later writes leave the range of the first one alone.
    have hkeep : ∀ a ∈ w.seg.range, writeAll (s.write w.address w.data) ws a =
        s.write w.address w.data a := fun a ha =>
      writeAll_out _ fun x hx => (h.1 _ (List.mem_map_of_mem hx)).symm.notMem a ha
    rw [Store.read_congr fun a h1 h2 => hkeep a ⟨h1, h2⟩]
    exact congrArg (· ++ _) (Store.read_write_same ..)

/-! ## Ports -/

/-- Reads and writes of a list of bytes on a state `σ`. A failing call may change the state. -/
structure Port (σ ε : Type) where
  read : σ → Nat → Nat → σ × Except ε (List UInt8)
  write : σ → Nat → List UInt8 → σ × Except ε Unit

/-- The port is memory on the addresses `dom` as long as `Inv` holds: a read changes no byte
there, and a write stores its bytes and changes no other byte. -/
structure Port.View {σ ε : Type} (p : Port σ ε) where
  Inv : σ → Prop
  dom : Set Nat
  byte : σ → Store
  read_ok : ∀ {s t a n bs}, Inv s → p.read s a n = (t, .ok bs) →
    Inv t ∧ Set.EqOn (byte t) (byte s) dom
  write_ok : ∀ {s t a bs}, Inv s → p.write s a bs = (t, .ok ()) →
    Inv t ∧ Set.EqOn (byte t) ((byte s).write a bs) dom

/-- A write inside a range changes nothing outside it. -/
theorem Port.View.write_inside {σ ε : Type} {p : Port σ ε} (v : p.View) {s t : σ} {address : Nat}
    {data : List UInt8} {g : Seg} (hs : v.Inv s) (h : p.write s address data = (t, .ok ()))
    (hle : g.address ≤ address) (hend : address + data.length ≤ g.address + g.length) :
    v.Inv t ∧ Set.EqOn (v.byte t) (v.byte s) (v.dom \ g.range) := by
  obtain ⟨ht, hbyte⟩ := v.write_ok hs h
  refine ⟨ht, fun a ha => (hbyte ha.1).trans (Store.write_out _ ?_)⟩
  have hout := ha.2
  simp only [Seg.range, Set.mem_Ico] at hout
  omega

/-- A view whose reads return the bytes it shows. -/
structure Port.DataView {σ ε : Type} (p : Port σ ε) extends p.View where
  read_bytes : ∀ {s t a n bs}, Inv s → p.read s a n = (t, .ok bs) → (Seg.mk a n).range ⊆ dom →
    bs = (byte s).read a n

/-- The port is a memory that never fails on the addresses `dom`, as long as `Inv` holds. `writes`
lists what was written through it, oldest first. -/
structure Port.Memory {σ ε : Type} (p : Port σ ε) where
  Inv : σ → Prop
  dom : Set Nat
  byte : σ → Store
  writes : σ → List Chunk
  read : ∀ {s a n}, Inv s → (Seg.mk a n).range ⊆ dom →
    ∃ t, p.read s a n = (t, .ok ((byte s).read a n)) ∧ Inv t ∧ Set.EqOn (byte t) (byte s) dom ∧
      writes t = writes s
  write : ∀ {s a bs}, Inv s → (Seg.mk a bs.length).range ⊆ dom →
    ∃ t, p.write s a bs = (t, .ok ()) ∧ Inv t ∧ Set.EqOn (byte t) ((byte s).write a bs) dom ∧
      writes t = writes s ++ [⟨a, bs⟩]

namespace Port.Memory

variable {σ ε : Type} {p : Port σ ε} (m : p.Memory)

/-- Reads may have led from `s` to `t`: the bytes and the list of writes are the same. -/
structure Same (s t : σ) : Prop where
  inv : m.Inv t
  byte : Set.EqOn (m.byte t) (m.byte s) m.dom
  writes : m.writes t = m.writes s

variable {m}

theorem Same.refl {s : σ} (h : m.Inv s) : m.Same s s := ⟨h, Set.eqOn_refl _ _, rfl⟩

theorem Same.trans {s t u : σ} (h : m.Same s t) (h' : m.Same t u) : m.Same s u :=
  ⟨h'.inv, h'.byte.trans h.byte, h'.writes.trans h.writes⟩

theorem Same.read_eq {s t : σ} {a n : Nat} (h : m.Same s t)
    (hdom : (Seg.mk a n).range ⊆ m.dom) : (m.byte t).read a n = (m.byte s).read a n :=
  Store.read_congr fun _ hx hx' => h.byte (hdom ⟨hx, hx'⟩)

theorem read_same {s : σ} {a n : Nat} (hs : m.Inv s) (hdom : (Seg.mk a n).range ⊆ m.dom) :
    ∃ t, p.read s a n = (t, .ok ((m.byte s).read a n)) ∧ m.Same s t := by
  obtain ⟨t, hread, ht, hbyte, hwrites⟩ := m.read hs hdom
  exact ⟨t, hread, ht, hbyte, hwrites⟩

end Port.Memory

/-- A port that lists its writes. -/
def Port.logged {σ ε : Type} (p : Port σ ε) : Port (σ × List Chunk) ε where
  read s a n :=
    match p.read s.1 a n with
    | (t, result) => ((t, s.2), result)
  write s a bs :=
    match p.write s.1 a bs with
    | (t, .error e) => ((t, s.2), .error e)
    | (t, .ok _) => ((t, s.2 ++ [⟨a, bs⟩]), .ok ())

/-- A port that lists its reads, newest first. -/
def Port.readLogged {σ ε : Type} (p : Port σ ε) : Port (σ × List Seg) ε where
  read s a n :=
    match p.read s.1 a n with
    | (t, result) => ((t, ⟨a, n⟩ :: s.2), result)
  write s a bs :=
    match p.write s.1 a bs with
    | (t, result) => ((t, s.2), result)

theorem Port.readLogged_read {σ ε : Type} {p : Port σ ε} {s t : σ} {a n : Nat}
    {r : Except ε (List UInt8)} (h : p.read s a n = (t, r)) (log : List Seg) :
    p.readLogged.read (s, log) a n = ((t, ⟨a, n⟩ :: log), r) := by
  simp only [readLogged, h]

/-- As long as `Inv` holds, a read of `n` bytes at `a` returns `memory a n`. -/
def Port.Fixed {σ ε : Type} (p : Port σ ε) (Inv : σ → Prop)
    (memory : Nat → Nat → Except ε (List UInt8)) : Prop :=
  ∀ s, Inv s → ∀ a n, ∃ t, p.read s a n = (t, memory a n) ∧ Inv t

/-- As long as `Inv` holds, a read returns the bytes of `byte` or fails. -/
def Port.Reads {σ ε : Type} (p : Port σ ε) (Inv : σ → Prop) (byte : Store) : Prop :=
  ∀ s, Inv s → ∀ a n, ∃ t r, p.read s a n = (t, r) ∧ Inv t ∧
    ∀ bs, r = .ok bs → bs = byte.read a n

end Lib
