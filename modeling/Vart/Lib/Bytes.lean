import Mathlib.Data.Nat.Bitwise

/-!
# Little-endian words and byte stores

* `loadLe`/`storeLe n`: the word of a list of bytes, least significant byte first, and the first
  `n` bytes of a word. `loadLe_storeLe`: storing and loading keeps the low `8 * n` bits.
* `Store`: a memory of bytes. `Store.read s a n` is the list of `n` bytes from `a` on and
  `Store.write s a bs` puts `bs` there; a write changes what it covers (`read_write_same`) and
  nothing else (`read_write_disjoint`).
* `Store.Filled s bs`: a buffer that was zero and got `bs` appended. Zero bytes need no write.
-/

namespace Lib

/-! ## Words -/

/-- The word with the bytes `bs`: `value |= data[i] << (i * 8)` for each `i`. -/
def loadLe : List UInt8 → Nat
  | [] => 0
  | b :: bs => b.toNat ||| loadLe bs <<< 8

/-- The bytes `value >> (i * 8)` for `i` below the width. -/
def storeLe : Nat → Nat → List UInt8
  | 0, _ => []
  | n + 1, v => UInt8.ofNat v :: storeLe n (v >>> 8)

@[simp] theorem loadLe_nil : loadLe [] = 0 := rfl

theorem loadLe_cons (b : UInt8) (bs : List UInt8) :
    loadLe (b :: bs) = b.toNat + 256 * loadLe bs := by
  have hb : b.toNat < 2 ^ 8 := b.toNat_lt
  rw [loadLe, Nat.or_comm, ← Nat.shiftLeft_add_eq_or_of_lt hb, Nat.shiftLeft_eq]
  omega

theorem loadLe_lt (bs : List UInt8) : loadLe bs < 256 ^ bs.length := by
  induction bs with
  | nil => simp
  | cons b bs ih =>
    have hb : b.toNat < 256 := b.toNat_lt
    rw [loadLe_cons, List.length_cons, Nat.pow_succ]
    omega

@[simp] theorem length_storeLe (n v : Nat) : (storeLe n v).length = n := by
  induction n generalizing v with
  | zero => rfl
  | succ n ih => simp [storeLe, ih]

theorem loadLe_storeLe (n v : Nat) : loadLe (storeLe n v) = v % 256 ^ n := by
  induction n generalizing v with
  | zero => simp [storeLe, Nat.mod_one]
  | succ n ih =>
    have hpow : 256 ^ (n + 1) = 256 * 256 ^ n := Nat.pow_succ'
    rw [storeLe, loadLe_cons, ih, Nat.shiftRight_eq_div_pow, hpow, Nat.mod_mul,
      UInt8.toNat_ofNat']

theorem loadLe_storeLe_of_lt {n v : Nat} (h : v < 256 ^ n) : loadLe (storeLe n v) = v := by
  rw [loadLe_storeLe, Nat.mod_eq_of_lt h]

/-! ## Stores -/

/-- A memory of bytes. -/
abbrev Store := Nat → UInt8

namespace Store

/-- The `n` bytes from `a` on. -/
def read (s : Store) (a n : Nat) : List UInt8 := (List.range n).map fun i => s (a + i)

/-- `s` with the bytes `bs` from `a` on. -/
def write (s : Store) (a : Nat) (bs : List UInt8) : Store := fun x =>
  if a ≤ x ∧ x < a + bs.length then bs.getD (x - a) 0 else s x

@[simp] theorem length_read (s : Store) (a n : Nat) : (s.read a n).length = n := by simp [read]

theorem write_in (s : Store) {a x : Nat} {bs : List UInt8} (h : a ≤ x) (h' : x < a + bs.length) :
    s.write a bs x = bs.getD (x - a) 0 := by
  simp [write, h, h']

theorem write_out (s : Store) {a x : Nat} {bs : List UInt8} (h : x < a ∨ a + bs.length ≤ x) :
    s.write a bs x = s x := by
  rw [write, if_neg (by omega)]

theorem read_congr {s t : Store} {a n : Nat} (h : ∀ x, a ≤ x → x < a + n → s x = t x) :
    s.read a n = t.read a n := by
  apply List.map_congr_left
  intro i hi
  rw [List.mem_range] at hi
  exact h _ (by omega) (by omega)

/-- A read of the written range gives the written bytes. -/
theorem read_write_same (s : Store) (a : Nat) (bs : List UInt8) :
    (s.write a bs).read a bs.length = bs := by
  apply List.ext_getElem
  · simp
  · intro i h1 h2
    simp only [read, List.getElem_map, List.getElem_range]
    rw [write_in _ (by omega) (by omega), Nat.add_sub_cancel_left, List.getD_eq_getElem _ _ h2]

/-- A read of a range that the write does not touch is unchanged. -/
theorem read_write_disjoint (s : Store) {a b n : Nat} {bs : List UInt8}
    (h : a + bs.length ≤ b ∨ b + n ≤ a) : (s.write a bs).read b n = s.read b n :=
  read_congr fun x h1 h2 => write_out _ (by omega)

/-- Two writes behind each other are one. -/
theorem write_append (s : Store) (a : Nat) (bs cs : List UInt8) :
    (s.write a bs).write (a + bs.length) cs = s.write a (bs ++ cs) := by
  funext x
  by_cases hx : a + bs.length ≤ x ∧ x < a + bs.length + cs.length
  · rw [write_in _ hx.1 hx.2, write_in s (by omega) (by rw [List.length_append]; omega),
      List.getD_append_right _ _ _ _ (by omega)]
    congr 1
    omega
  · rw [write_out _ (by omega)]
    by_cases hb : a ≤ x ∧ x < a + bs.length
    · rw [write_in s hb.1 hb.2, write_in s hb.1 (by rw [List.length_append]; omega),
        List.getD_append _ _ _ _ (by omega)]
    · rw [write_out s (by omega), write_out s (by rw [List.length_append]; omega)]

/-- Writes of disjoint ranges commute. -/
theorem write_comm (s : Store) {a b : Nat} {bs cs : List UInt8}
    (h : a + bs.length ≤ b ∨ b + cs.length ≤ a) :
    (s.write a bs).write b cs = (s.write b cs).write a bs := by
  funext x
  by_cases hb : b ≤ x ∧ x < b + cs.length
  · rw [write_in _ hb.1 hb.2, write_out _ (by omega), write_in s hb.1 hb.2]
  · rw [write_out _ (by omega)]
    by_cases ha : a ≤ x ∧ x < a + bs.length
    · rw [write_in _ ha.1 ha.2, write_in _ ha.1 ha.2]
    · rw [write_out s (by omega), write_out _ (by omega), write_out s (by omega)]

/-! ### Buffers -/

/-- A zeroed buffer. -/
def zero : Store := fun _ => 0

/-- The buffer has the bytes `bs` from its start and is zero behind them. -/
def Filled (s : Store) (bs : List UInt8) : Prop := ∀ x, s x = bs.getD x 0

theorem filled_zero : zero.Filled [] := fun _ => rfl

theorem Filled.write {s : Store} {bs : List UInt8} (h : s.Filled bs) (more : List UInt8) :
    (s.write bs.length more).Filled (bs ++ more) := by
  intro x
  by_cases hx : bs.length ≤ x ∧ x < bs.length + more.length
  · rw [write_in s hx.1 hx.2, List.getD_append_right _ _ _ _ hx.1]
  · rw [write_out s (by omega), h x]
    by_cases hb : x < bs.length
    · rw [List.getD_append _ _ _ _ hb]
    · rw [List.getD_eq_default _ _ (by omega),
        List.getD_eq_default _ _ (by rw [List.length_append]; omega)]

/-- The bytes behind the end are zero already. -/
theorem Filled.pad {s : Store} {bs : List UInt8} (h : s.Filled bs) (n : Nat) :
    s.Filled (bs ++ List.replicate n 0) := by
  intro x
  rw [h x]
  by_cases hb : x < bs.length
  · rw [List.getD_append _ _ _ _ hb]
  · rw [List.getD_eq_default _ _ (by omega), List.getD_append_right _ _ _ _ (by omega)]
    simp only [List.getD_eq_getElem?_getD, List.getElem?_replicate]
    split <;> rfl

/-- What a read gives that begins inside the buffer's bytes. -/
theorem Filled.read {s : Store} {before piece : List UInt8} (h : s.Filled (before ++ piece)) :
    s.read before.length piece.length = piece := by
  apply List.ext_getElem
  · simp
  · intro i h1 h2
    simp only [Store.read, List.getElem_map, List.getElem_range]
    rw [h, List.getD_append_right _ _ _ _ (by omega), Nat.add_sub_cancel_left,
      List.getD_eq_getElem _ _ h2]

end Store

end Lib
