import Mathlib.Data.List.Basic

/-!
# Rings

A ring of `n` slots with a head `h` and a tail `t`, both below `n`. The slots from the head up to
the tail are in use; one slot stays free, so `h = t` means empty.

* `ringUsed n h t`: the number of slots in use; `ringSlots n h len`: `len` slots from `h` on.
* `RingHolds slot n h t q`: the slots in use hold the queue `q`, in order. `RingHolds.push` and
  `RingHolds.advance` are the two operations of a bounded queue.

A ring may also keep the number of slots in use instead of a tail; then all slots can be in use.

* `ringContent slot n h len`: what the `len` slots from `h` on hold. `ringContent_copies` adds
  values behind them with two copies and `ringContent_succ` takes the first one.
-/

namespace Lib

/-- The number of slots from the head up to the tail. -/
def ringUsed (n h t : Nat) : Nat := (t + n - h) % n

/-- The `len` slots from `h` on. -/
def ringSlots (n h len : Nat) : List Nat := (List.range len).map fun i => (h + i) % n

/-! ## Slots -/

@[simp] theorem length_ringSlots (n h len : Nat) : (ringSlots n h len).length = len := by
  simp [ringSlots]

theorem ringSlots_succ (n h len : Nat) :
    ringSlots n h (len + 1) = h % n :: ringSlots n (h + 1) len := by
  rw [ringSlots, List.range_succ_eq_map, List.map_cons, List.map_map, Nat.add_zero, ringSlots]
  congr 1
  refine List.map_congr_left fun i _ => ?_
  simp only [Function.comp]
  congr 1
  omega

/-- Only the position modulo `n` of the first slot matters. -/
theorem ringSlots_congr {n h h' : Nat} (e : h % n = h' % n) (len : Nat) :
    ringSlots n h len = ringSlots n h' len := by
  refine List.map_congr_left fun i _ => ?_
  rw [Nat.add_mod, e, ← Nat.add_mod]

/-! ## Head and tail -/

theorem ringUsed_lt {n : Nat} (hn : 0 < n) (h t : Nat) : ringUsed n h t < n := Nat.mod_lt _ hn

theorem ringUsed_self {n h : Nat} (hh : h < n) : ringUsed n h h = 0 := by
  rw [ringUsed, show h + n - h = n by omega, Nat.mod_self]

/-- The number of slots in use, without a remainder. -/
theorem ringUsed_eq {n h t : Nat} (hh : h < n) (ht : t < n) :
    ringUsed n h t = if h ≤ t then t - h else t + n - h := by
  unfold ringUsed
  split
  · rw [show t + n - h = (t - h) + n by omega, Nat.add_mod_right, Nat.mod_eq_of_lt (by omega)]
  · exact Nat.mod_eq_of_lt (by omega)

/-- The position behind a slot. -/
theorem add_mod_ring {n a b : Nat} (ha : a < n) (hb : b ≤ n) :
    (a + b) % n = if a + b < n then a + b else a + b - n := by
  split
  · exact Nat.mod_eq_of_lt ‹_›
  · rw [Nat.mod_eq_sub_mod (by omega), Nat.mod_eq_of_lt (by omega)]

/-- The tail is behind the slots in use. -/
theorem ringUsed_tail {n h t : Nat} (hh : h < n) (ht : t < n) : (h + ringUsed n h t) % n = t := by
  have hu := ringUsed_eq hh ht
  have hlt := ringUsed_lt (Nat.zero_lt_of_lt hh) h t
  rw [add_mod_ring hh (by omega)]
  split at hu <;> split <;> omega

/-- The next tail is the head exactly if all slots but one are in use. -/
theorem ring_full_iff {n h t : Nat} (hh : h < n) (ht : t < n) :
    (t + 1) % n = h ↔ ringUsed n h t = n - 1 := by
  have hnext := add_mod_ring ht (show 1 ≤ n by omega)
  have hused := ringUsed_eq hh ht
  split at hnext <;> split at hused <;> omega

theorem ringUsed_push {n h t : Nat} (hh : h < n) (ht : t < n) (hfull : (t + 1) % n ≠ h) :
    ringUsed n h ((t + 1) % n) = ringUsed n h t + 1 := by
  have hnext := add_mod_ring ht (show 1 ≤ n by omega)
  have hused := ringUsed_eq hh ht
  have hused' := ringUsed_eq hh (Nat.mod_lt (t + 1) (Nat.zero_lt_of_lt ht))
  split at hnext <;> split at hused <;> split at hused' <;> omega

/-- The distance to the slot `k` places further on. -/
theorem ringUsed_add {n h k : Nat} (hh : h < n) (hk : k < n) : ringUsed n h ((h + k) % n) = k := by
  have hslot := add_mod_ring hh (show k ≤ n by omega)
  have hused := ringUsed_eq hh (Nat.mod_lt (h + k) (Nat.zero_lt_of_lt hh))
  split at hslot <;> split at hused <;> omega

theorem ringUsed_advance {n h t k : Nat} (hh : h < n) (ht : t < n) (hk : k ≤ ringUsed n h t) :
    ringUsed n ((h + k) % n) t = ringUsed n h t - k := by
  have hlt := ringUsed_lt (Nat.zero_lt_of_lt hh) h t
  have hhead := add_mod_ring hh (show k ≤ n by omega)
  have hused := ringUsed_eq hh ht
  have hused' := ringUsed_eq (Nat.mod_lt (h + k) (Nat.zero_lt_of_lt hh)) ht
  split at hhead <;> split at hused <;> split at hused' <;> omega

/-- A slot in use is not the slot at the tail. -/
theorem ring_slot_ne_tail {n h t i : Nat} (hh : h < n) (ht : t < n) (hi : i < ringUsed n h t) :
    (h + i) % n ≠ t := by
  have hlt := ringUsed_lt (Nat.zero_lt_of_lt hh) h t
  have hslot := add_mod_ring hh (show i ≤ n by omega)
  have hused := ringUsed_eq hh ht
  split at hslot <;> split at hused <;> omega

/-! ## Queues -/

variable {α : Type}

/-- The slots in use hold the queue `q`. -/
structure RingHolds (slot : Nat → Option α) (n h t : Nat) (q : List α) : Prop where
  head_lt : h < n
  tail_lt : t < n
  contents : (ringSlots n h (ringUsed n h t)).map slot = q.map some

theorem RingHolds.empty (slot : Nat → Option α) {n h : Nat} (hh : h < n) :
    RingHolds slot n h h [] := by
  refine ⟨hh, hh, ?_⟩
  rw [ringUsed_self hh]
  rfl

theorem RingHolds.length_eq {slot : Nat → Option α} {n h t : Nat} {q : List α}
    (r : RingHolds slot n h t q) : q.length = ringUsed n h t := by
  have := congrArg List.length r.contents
  simpa using this.symm

/-- Another contents of the ring that agrees on the slots in use. -/
theorem RingHolds.congr {slot slot' : Nat → Option α} {n h t : Nat} {q : List α}
    (r : RingHolds slot n h t q) (e : ∀ i, i < ringUsed n h t → slot' ((h + i) % n) = slot ((h + i) % n)) :
    RingHolds slot' n h t q := by
  refine ⟨r.head_lt, r.tail_lt, ?_⟩
  rw [← r.contents, ringSlots, List.map_map, List.map_map]
  exact List.map_congr_left fun i hi => e i (List.mem_range.mp hi)

/-- A value written to the slot at the tail joins the queue at its end. -/
theorem RingHolds.push {slot slot' : Nat → Option α} {n h t : Nat} {q : List α} {x : α}
    (r : RingHolds slot n h t q) (hfull : (t + 1) % n ≠ h) (hx : slot' t = some x)
    (e : ∀ i, i < n → i ≠ t → slot' i = slot i) : RingHolds slot' n h ((t + 1) % n) (q ++ [x]) := by
  have hh := r.head_lt
  have ht := r.tail_lt
  refine ⟨hh, Nat.mod_lt _ (by omega), ?_⟩
  have hold : (ringSlots n h (ringUsed n h t)).map slot' = q.map some := by
    rw [← r.contents, ringSlots, List.map_map, List.map_map]
    refine List.map_congr_left fun i hi => ?_
    exact e _ (Nat.mod_lt _ (by omega)) (ring_slot_ne_tail hh ht (List.mem_range.mp hi))
  rw [ringUsed_push hh ht hfull, List.map_append, ← hold, ringSlots, List.range_succ,
    List.map_append, List.map_append, ← ringSlots]
  simp only [List.map_cons, List.map_nil, ringUsed_tail hh ht, hx]

/-- The first `k` values leave the queue when the head moves over them. -/
theorem RingHolds.advance {slot : Nat → Option α} {n h t k : Nat} {q : List α}
    (r : RingHolds slot n h t q) (hk : k ≤ ringUsed n h t) :
    RingHolds slot n ((h + k) % n) t (q.drop k) := by
  have hh := r.head_lt
  have ht := r.tail_lt
  refine ⟨Nat.mod_lt _ (by omega), ht, ?_⟩
  rw [ringUsed_advance hh ht hk, List.map_drop, ← r.contents, ← List.map_drop,
    ringSlots_congr (Nat.mod_mod (h + k) n)]
  congr 1
  apply List.ext_getElem
  · simp
  · intro i h1 h2
    simp only [ringSlots, List.getElem_map, List.getElem_range, List.getElem_drop]
    congr 1
    omega

/-! ## Rings with a count -/

/-- The values of the `len` slots from `h` on. -/
def ringContent (slot : Nat → α) (n h len : Nat) : List α := (ringSlots n h len).map slot

/-- `memcpy(&slot[at], xs, xs.length)`. -/
def copyAt (slot : Nat → α) (start : Nat) (xs : List α) : Nat → α := fun i =>
  if start ≤ i then xs[i - start]?.getD (slot i) else slot i

/-- The slot after the copy: inside the copied part and outside. -/
theorem copyAt_of_lt (slot : Nat → α) {start i : Nat} {xs : List α} (h : i < xs.length) :
    copyAt slot start xs (start + i) = xs[i] := by
  rw [copyAt, if_pos (by omega), Nat.add_sub_cancel_left, List.getElem?_eq_getElem h,
    Option.getD_some]

theorem copyAt_of_outside (slot : Nat → α) {start i : Nat} {xs : List α}
    (h : i < start ∨ start + xs.length ≤ i) : copyAt slot start xs i = slot i := by
  rw [copyAt]
  split
  · rw [List.getElem?_eq_none (by omega), Option.getD_none]
  · rfl

@[simp] theorem ringContent_zero (slot : Nat → α) (n h : Nat) : ringContent slot n h 0 = [] := rfl

@[simp] theorem length_ringContent (slot : Nat → α) (n h len : Nat) :
    (ringContent slot n h len).length = len := by
  simp [ringContent]

/-- The first value and what follows when the head moves over it. -/
theorem ringContent_succ (slot : Nat → α) {n h : Nat} (hh : h < n) (len : Nat) :
    ringContent slot n h (len + 1) = slot h :: ringContent slot n ((h + 1) % n) len := by
  rw [ringContent, ringSlots_succ, List.map_cons, Nat.mod_eq_of_lt hh, ringContent,
    ringSlots_congr (Nat.mod_mod (h + 1) n)]

theorem ringContent_add (slot : Nat → α) (n h len k : Nat) :
    ringContent slot n h (len + k) = ringContent slot n h len ++ ringContent slot n (h + len) k := by
  simp only [ringContent, ringSlots, List.range_add, List.map_append, List.map_map]
  congr 1
  refine List.map_congr_left fun i _ => ?_
  simp only [Function.comp_apply, Nat.add_assoc]

theorem ringContent_congr {slot slot' : Nat → α} {n h len : Nat}
    (e : ∀ i, i < len → slot ((h + i) % n) = slot' ((h + i) % n)) :
    ringContent slot n h len = ringContent slot' n h len := by
  rw [ringContent, ringContent, ringSlots, List.map_map, List.map_map]
  exact List.map_congr_left fun i hi => e i (List.mem_range.mp hi)

/-- Two copies put `xs` behind the values: up to the end of the array and from its start on. -/
theorem ringContent_copies (slot : Nat → α) {n h len first : Nat} {xs : List α} (hh : h < n)
    (hlen : len + xs.length ≤ n) (hfirst : first = min xs.length (n - (h + len) % n)) :
    ringContent (copyAt (copyAt slot ((h + len) % n) (xs.take first)) 0 (xs.drop first)) n h
      (len + xs.length) = ringContent slot n h len ++ xs := by
  have htail := add_mod_ring hh (show len ≤ n by omega)
  have hlt := Nat.mod_lt (h + len) (Nat.zero_lt_of_lt hh)
  rw [ringContent_add]
  congr 1
  · -- The values that are there lie between the two copies.
    refine ringContent_congr fun i hi => ?_
    have hslot := add_mod_ring hh (show i ≤ n by omega)
    rw [copyAt_of_outside, copyAt_of_outside]
    · rw [List.length_take]
      split at htail <;> split at hslot <;> omega
    · rw [List.length_drop]
      split at htail <;> split at hslot <;> omega
  · refine List.ext_getElem (by simp) fun i h1 h2 => ?_
    have hslot := add_mod_ring hlt (show i ≤ n by omega)
    simp only [ringContent, ringSlots, List.getElem_map, List.getElem_range]
    rw [← Nat.mod_add_mod (h + len) n i, hslot]
    by_cases hi : i < first
    · rw [if_pos (by omega), copyAt_of_outside, copyAt_of_lt _ (by rw [List.length_take]; omega),
        List.getElem_take]
      rw [List.length_drop]
      split at htail <;> omega
    · rw [if_neg (by omega)]
      have hpos : (h + len) % n + i - n = 0 + (i - first) := by omega
      have hi' : i - first < (xs.drop first).length := by
        rw [List.length_drop]
        omega
      rw [hpos, copyAt_of_lt _ hi', List.getElem_drop]
      congr 1
      omega

end Lib
