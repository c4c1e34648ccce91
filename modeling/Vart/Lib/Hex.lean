import Mathlib.Algebra.Group.Nat.Defs
import Mathlib.Data.List.Basic

/-!
# Numbers in hexadecimal

What `printf` writes for `%x`: lower-case digits without leading zeros.

* `hexDigits_injective`: different numbers are written differently.
* `hexDigits_safe`: the digits are letters and decimal digits.
-/

namespace Lib

/-- The character of a digit below 16. -/
def hexDigit (d : Nat) : UInt8 := UInt8.ofNat (Nat.digitChar d).toNat

def hexDigits (n : Nat) : List UInt8 := (Nat.toDigits 16 n).map fun c => UInt8.ofNat c.toNat

theorem hexDigits_eq (n : Nat) :
    hexDigits n = if n < 16 then [hexDigit n] else hexDigits (n / 16) ++ [hexDigit (n % 16)] := by
  rw [hexDigits, Nat.toDigits_eq_if (by decide)]
  split
  · rfl
  · rw [List.map_append]
    rfl

theorem length_hexDigits_pos (n : Nat) : 0 < (hexDigits n).length := by
  rw [hexDigits, List.length_map]
  exact Nat.length_toDigits_pos

/-- `k` digits are enough for the numbers below `16 ^ k`, and for no others. -/
theorem length_hexDigits_le {n k : Nat} (hk : 0 < k) : (hexDigits n).length ≤ k ↔ n < 16 ^ k := by
  rw [hexDigits, List.length_map]
  exact Nat.length_toDigits_le_iff (by decide) hk

theorem hexDigit_injective : ∀ d < 16, ∀ e < 16, hexDigit d = hexDigit e → d = e := by
  decide

theorem hexDigits_injective {m n : Nat} (h : hexDigits m = hexDigits n) : m = n := by
  induction m using Nat.strongRecOn generalizing n with
  | ind m ih =>
    rw [hexDigits_eq m, hexDigits_eq n] at h
    split at h <;> split at h
    · rename_i hm hn
      exact hexDigit_injective m hm n hn (List.singleton_inj.mp h)
    · have hlen := congrArg List.length h
      have hpos := length_hexDigits_pos (n / 16)
      rw [List.length_append, List.length_singleton, List.length_singleton] at hlen
      omega
    · have hlen := congrArg List.length h
      have hpos := length_hexDigits_pos (m / 16)
      rw [List.length_append, List.length_singleton, List.length_singleton] at hlen
      omega
    · rename_i hm hn
      obtain ⟨hhigh, hlow⟩ := List.append_inj' h rfl
      have hdiv := ih (m / 16) (by omega) hhigh
      have hmod := hexDigit_injective _ (Nat.mod_lt m (by decide)) _ (Nat.mod_lt n (by decide))
        (List.singleton_inj.mp hlow)
      omega

theorem hexDigit_safe : ∀ d < 16, (48 ≤ hexDigit d ∧ hexDigit d ≤ 57) ∨
    (97 ≤ hexDigit d ∧ hexDigit d ≤ 102) := by
  decide

theorem hexDigits_safe (n : Nat) :
    ∀ b ∈ hexDigits n, (48 ≤ b ∧ b ≤ 57) ∨ (97 ≤ b ∧ b ≤ 102) := by
  induction n using Nat.strongRecOn with
  | ind n ih =>
    rw [hexDigits_eq]
    split
    · rename_i hn
      simpa using hexDigit_safe n hn
    · rename_i hn
      intro b hb
      rcases List.mem_append.mp hb with hb | hb
      · exact ih (n / 16) (by omega) b hb
      · rw [List.mem_singleton.mp hb]
        exact hexDigit_safe _ (Nat.mod_lt n (by decide))

end Lib
