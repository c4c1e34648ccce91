import Mathlib.Data.Nat.Bitwise

/-!
# Masks and shifts of naturals

Unsigned words are naturals here. `andNot a b` is C's `a & ~b`; a mask `2 ^ k - 1` keeps the low
`k` bits, so `&`, `>>` and `<<` by constants become `%`, `/` and `*` (`and_mask`,
`and_field`), which `omega` decides.
-/

namespace Lib

/-- C's `a & ~b`. -/
def andNot (a b : Nat) : Nat := a - (a &&& b)

theorem and_mask (a k : Nat) : a &&& (1 <<< k - 1) = a % 2 ^ k := by
  rw [Nat.one_shiftLeft, Nat.and_two_pow_sub_one_eq_mod]

theorem andNot_mask (a k : Nat) : andNot a (1 <<< k - 1) = a - a % 2 ^ k := by
  rw [andNot, and_mask]

/-- Clearing the low `k` bits rounds down to a multiple of `2 ^ k`. -/
theorem sub_mod_eq_div_mul (a n : Nat) : a - a % n = a / n * n := by
  have := Nat.div_add_mod a n
  rw [Nat.mul_comm] at this
  omega

theorem and_mask_le (a m : Nat) : a &&& m ≤ m := Nat.and_le_right

/-- A bit test `a & 2 ^ k` is zero exactly when bit `k` is clear. -/
theorem and_two_pow_eq_zero_iff (a k : Nat) : a &&& 2 ^ k = 0 ↔ a.testBit k = false := by
  rw [Nat.and_two_pow]
  cases a.testBit k <;> simp

/-- The lowest bit of `a & b`. -/
theorem and_mod_two (a b : Nat) : (a &&& b) % 2 = a % 2 * (b % 2) := by
  have h := Nat.and_mod_two_pow (a := a) (b := b) (n := 1)
  rw [Nat.pow_one] at h
  rw [h]
  rcases Nat.mod_two_eq_zero_or_one a with ha | ha <;>
    rcases Nat.mod_two_eq_zero_or_one b with hb | hb <;> rw [ha, hb] <;> rfl

/-- The field of `w` bits at bit `s`, masked and shifted down. -/
theorem and_field (a w s : Nat) : (a &&& (2 ^ w - 1) <<< s) >>> s = a / 2 ^ s % 2 ^ w := by
  rw [Nat.shiftRight_and_distrib, Nat.shiftLeft_shiftRight, Nat.and_two_pow_sub_one_eq_mod,
    Nat.shiftRight_eq_div_pow]

/-- The same field in its place. -/
theorem and_field_eq (a w s : Nat) : a &&& (2 ^ w - 1) <<< s = (a / 2 ^ s % 2 ^ w) <<< s := by
  refine Nat.eq_of_testBit_eq fun i => ?_
  simp only [Nat.testBit_and, Nat.testBit_shiftLeft, Nat.testBit_two_pow_sub_one,
    Nat.testBit_mod_two_pow, Nat.testBit_div_two_pow]
  by_cases h : s ≤ i
  · rw [Nat.sub_add_cancel h]
    simp [h, Bool.and_comm]
  · simp [h]

/-- A field is zero if its bits are. -/
theorem and_field_eq_zero (a w s : Nat) :
    a &&& (2 ^ w - 1) <<< s = 0 ↔ a / 2 ^ s % 2 ^ w = 0 := by
  rw [← and_field]
  constructor
  · intro h
    rw [h, Nat.zero_shiftRight]
  · intro h
    have hlow : (a &&& (2 ^ w - 1) <<< s) % 2 ^ s = 0 := by
      rw [Nat.and_mod_two_pow, Nat.shiftLeft_eq, Nat.mul_mod_left, Nat.and_zero]
    have hsplit := Nat.div_add_mod (a &&& (2 ^ w - 1) <<< s) (2 ^ s)
    rw [Nat.shiftRight_eq_div_pow] at h
    rw [h, hlow] at hsplit
    omega

/-- A mask below `2 ^ k` reads the low `k` bits only. -/
theorem and_eq_mod_and (a : Nat) {m k : Nat} (hm : m < 2 ^ k) : a &&& m = a % 2 ^ k &&& m := by
  have h := Nat.and_mod_two_pow (a := a) (b := m) (n := k)
  rw [Nat.mod_eq_of_lt hm, Nat.mod_eq_of_lt (Nat.lt_of_le_of_lt Nat.and_le_right hm)] at h
  exact h

/-- Two fields of a word that do not overlap. -/
theorem or_shiftLeft_eq {a k : Nat} (h : a < 2 ^ k) (b : Nat) : a ||| b <<< k = b * 2 ^ k + a := by
  rw [Nat.or_comm, ← Nat.shiftLeft_add_eq_or_of_lt h, Nat.shiftLeft_eq]

/-- No borrow reaches the upper bits. -/
theorem andNot_div_two (a b : Nat) : andNot a b / 2 = andNot (a / 2) (b / 2) := by
  have hle : a &&& b ≤ a := Nat.and_le_left
  have hmod := and_mod_two a b
  have hlow : a % 2 * (b % 2) ≤ a % 2 := by
    rcases Nat.mod_two_eq_zero_or_one b with hb | hb <;> rw [hb] <;> omega
  unfold andNot
  rw [← Nat.and_div_two]
  omega

theorem testBit_andNot (a b i : Nat) : (andNot a b).testBit i = (a.testBit i && !b.testBit i) := by
  induction i generalizing a b with
  | zero =>
    have hle : a &&& b ≤ a := Nat.and_le_left
    have hmod := and_mod_two a b
    simp only [Nat.testBit_zero, andNot]
    rcases Nat.mod_two_eq_zero_or_one a with ha | ha <;>
      rcases Nat.mod_two_eq_zero_or_one b with hb | hb <;>
      simp only [ha, hb] at hmod ⊢ <;> simp <;> omega
  | succ i ih =>
    rw [Nat.testBit_succ, Nat.testBit_succ, Nat.testBit_succ, andNot_div_two, ih]

/-- `a & ~b` is zero if the bits of `a` are among those of `b`. -/
theorem andNot_eq_zero_iff {a b : Nat} :
    andNot a b = 0 ↔ ∀ i, a.testBit i = true → b.testBit i = true := by
  constructor
  · intro h i ha
    have hi := testBit_andNot a b i
    rw [h, Nat.zero_testBit, ha] at hi
    simpa using hi
  · intro h
    refine Nat.eq_of_testBit_eq fun i => ?_
    rw [testBit_andNot, Nat.zero_testBit]
    cases ha : a.testBit i with
    | false => rfl
    | true => rw [h i ha]; rfl

/-- Two numbers in one aligned block of `2 ^ k` agree after a shift by `k` or more. -/
theorem shiftRight_congr {a b k s : Nat} (h : a / 2 ^ k = b / 2 ^ k) (hs : k ≤ s) :
    a >>> s = b >>> s := by
  obtain ⟨d, rfl⟩ := Nat.exists_eq_add_of_le hs
  rw [Nat.shiftRight_eq_div_pow, Nat.shiftRight_eq_div_pow, Nat.pow_add, ← Nat.div_div_eq_div_mul,
    ← Nat.div_div_eq_div_mul, h]

end Lib
