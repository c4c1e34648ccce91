import Mathlib.Algebra.Group.Nat.Defs
import Mathlib.Algebra.Group.Int.Defs
import Mathlib.Data.List.TakeWhile
import Mathlib.Tactic.Cases

/-!
# Conversion of text to numbers

`strtol` and `strtoull` for base 10, as the C standard describes them in the C locale: white space,
an optional sign, digits. What follows the digits is left. A result that does not fit is replaced
by the nearest value, and a negated `unsigned long long` wraps around.

* `scan`: the sign, the magnitude and what is left, if there are digits.
* `scan_eq_some_iff`: the texts that `scan` takes, as a concatenation of their parts, and
  `strtoull_eq_iff`: those that `strtoull` converts without an error.
-/

namespace Lib

/-- White space: `' '`, `'\t'`, `'\n'`, `'\v'`, `'\f'` and `'\r'`. -/
def isSpace (b : UInt8) : Bool := b == 32 || (decide (9 ≤ b) && decide (b ≤ 13))

def isDigit (b : UInt8) : Bool := decide (48 ≤ b) && decide (b ≤ 57)

/-- The number that decimal digits denote. -/
def digitsValue (digits : List UInt8) : Nat := digits.foldl (fun n b => n * 10 + (b.toNat - 48)) 0

inductive Sign where
  | none | plus | minus
deriving DecidableEq

def Sign.text : Sign → List UInt8
  | none => []
  | plus => [43]
  | minus => [45]

/-- The sign at the start of a text, and what follows it. -/
def takeSign : List UInt8 → Sign × List UInt8
  | [] => (.none, [])
  | b :: l => if b = 45 then (.minus, l) else if b = 43 then (.plus, l) else (.none, b :: l)

structure Scan where
  sign : Sign
  magnitude : Nat
  rest : List UInt8
deriving DecidableEq

def scan (text : List UInt8) : Option Scan :=
  let (sign, body) := takeSign (text.dropWhile isSpace)
  let digits := body.takeWhile isDigit
  if digits = [] then none else some ⟨sign, digitsValue digits, body.dropWhile isDigit⟩

/-- A result of `strtol` or `strtoull`. Without digits nothing is converted and the whole text is
left. -/
structure Conversion (α : Type) where
  value : α
  rest : List UInt8
  converted : Bool
  /-- `errno` is `ERANGE`. -/
  erange : Bool
deriving DecidableEq

/-- An `unsigned long long` with a sign in front. -/
def Sign.apply (sign : Sign) (magnitude : Nat) : Nat :=
  if sign = .minus then (2 ^ 64 - magnitude) % 2 ^ 64 else magnitude

def strtoull (text : List UInt8) : Conversion Nat :=
  match scan text with
  | none => ⟨0, text, false, false⟩
  | some r =>
    if r.magnitude ≥ 2 ^ 64 then ⟨2 ^ 64 - 1, r.rest, true, true⟩
    else ⟨r.sign.apply r.magnitude, r.rest, true, false⟩

def strtol (text : List UInt8) : Conversion Int :=
  match scan text with
  | none => ⟨0, text, false, false⟩
  | some r =>
    if r.sign = .minus then
      if r.magnitude > 2 ^ 63 then ⟨-2 ^ 63, r.rest, true, true⟩
      else ⟨-r.magnitude, r.rest, true, false⟩
    else if r.magnitude ≥ 2 ^ 63 then ⟨2 ^ 63 - 1, r.rest, true, true⟩
    else ⟨r.magnitude, r.rest, true, false⟩

/-! ## The texts that are taken -/

/-- The parts of a number in a text. -/
structure IsNumeral (space digits : List UInt8) : Prop where
  space : ∀ b ∈ space, isSpace b = true
  nonempty : digits ≠ []
  digits : ∀ b ∈ digits, isDigit b = true

/-- A digit is neither white space nor a sign. -/
theorem not_space_of_digit {b : UInt8} (h : isDigit b = true) :
    isSpace b = false ∧ b ≠ 45 ∧ b ≠ 43 := by
  simp only [isDigit, isSpace, Bool.and_eq_true, decide_eq_true_eq, UInt8.le_iff_toNat_le,
    Bool.or_eq_false_iff, beq_eq_false_iff_ne, Bool.and_eq_false_iff, decide_eq_false_iff_not, ne_eq,
    ← UInt8.toNat_inj, UInt8.toNat_ofNat] at h ⊢
  omega

/-- A list is its longest prefix of `p` elements and a rest that starts otherwise. -/
theorem takeWhile_dropWhile_iff {α : Type} {p : α → Bool} {l pre rest : List α} :
    l.takeWhile p = pre ∧ l.dropWhile p = rest ↔
      l = pre ++ rest ∧ (∀ x ∈ pre, p x = true) ∧ ∀ x ∈ rest.head?, p x = false := by
  constructor
  · rintro ⟨rfl, rfl⟩
    refine ⟨List.takeWhile_append_dropWhile.symm, fun x hx => List.mem_takeWhile_imp hx, ?_⟩
    intro x hx
    by_contra hp
    have hne : l.dropWhile p ≠ [] := by
      rintro hnil
      rw [hnil] at hx
      cases hx
    have hhead := List.head_dropWhile_not p hne
    rw [List.head?_eq_some_head hne] at hx
    cases hx
    exact hp hhead
  · rintro ⟨rfl, hpre, hrest⟩
    rw [List.takeWhile_append_of_pos hpre, List.dropWhile_append_of_pos hpre]
    cases rest with
    | nil => simp
    | cons x rest =>
      have hx := hrest x rfl
      simp [hx]

theorem takeSign_eq_iff {l rest : List UInt8} {sign : Sign} (hrest : ∃ b l', rest = b :: l' ∧
    isDigit b = true) : takeSign l = (sign, rest) ↔ l = sign.text ++ rest := by
  obtain ⟨b, l', rfl, hb⟩ := hrest
  obtain ⟨-, hminus, hplus⟩ := not_space_of_digit hb
  constructor
  · intro h
    unfold takeSign at h
    split at h
    · cases h
    split at h
    · cases h
      simp_all [Sign.text]
    split at h
    · cases h
      simp_all [Sign.text]
    · cases h
      rfl
  · rintro rfl
    cases sign with
    | none => simp [takeSign, Sign.text, hminus, hplus]
    | plus => simp [takeSign, Sign.text]
    | minus => simp [takeSign, Sign.text]

/-- `scan` takes white space, a sign and digits, up to the first byte that is no digit. -/
theorem scan_eq_some_iff {text : List UInt8} {r : Scan} :
    scan text = some r ↔ ∃ space digits, IsNumeral space digits ∧
      text = space ++ (r.sign.text ++ (digits ++ r.rest)) ∧ r.magnitude = digitsValue digits ∧
      ∀ b ∈ r.rest.head?, isDigit b = false := by
  constructor
  · intro h
    unfold scan at h
    dsimp only at h
    split at h
    · cases h
    rename_i hdigits
    cases h
    obtain ⟨htext, hspace, -⟩ := (takeWhile_dropWhile_iff (p := isSpace) (l := text)).1 ⟨rfl, rfl⟩
    generalize text.takeWhile isSpace = space at *
    generalize text.dropWhile isSpace = body at *
    obtain ⟨hbody, hall, hrest⟩ :=
      (takeWhile_dropWhile_iff (p := isDigit) (l := (takeSign body).2)).1 ⟨rfl, rfl⟩
    refine ⟨space, (takeSign body).2.takeWhile isDigit, ⟨hspace, hdigits, hall⟩, ?_, rfl, hrest⟩
    rw [htext]
    refine congrArg (space ++ ·) ?_
    rw [← hbody]
    -- the digits show that something follows the sign
    refine (takeSign_eq_iff ?_).1 rfl
    obtain ⟨b, l', hcons⟩ := List.exists_cons_of_ne_nil hdigits
    refine ⟨b, l' ++ (takeSign body).2.dropWhile isDigit, ?_, hall b (by simp [hcons])⟩
    rw [← List.cons_append, ← hcons, ← hbody]
  · rintro ⟨space, digits, hnumeral, rfl, hmagnitude, hrest⟩
    obtain ⟨b, l', hcons⟩ := List.exists_cons_of_ne_nil hnumeral.nonempty
    have hb := hnumeral.digits b (by simp [hcons])
    have hspace : (space ++ (r.sign.text ++ (digits ++ r.rest))).dropWhile isSpace =
        r.sign.text ++ (digits ++ r.rest) := by
      refine (takeWhile_dropWhile_iff.2 ⟨rfl, hnumeral.space, fun x hx => ?_⟩).2
      rw [hcons] at hx
      cases hsign : r.sign with
      | none =>
        rw [hsign] at hx
        cases hx
        exact (not_space_of_digit hb).1
      | plus | minus =>
        rw [hsign] at hx
        cases hx
        decide
    have hsign : takeSign (r.sign.text ++ (digits ++ r.rest)) = (r.sign, digits ++ r.rest) :=
      (takeSign_eq_iff ⟨b, l' ++ r.rest, by rw [hcons]; rfl, hb⟩).2 rfl
    obtain ⟨htake, hdrop⟩ := takeWhile_dropWhile_iff.2 ⟨rfl, hnumeral.digits, hrest⟩
    unfold scan
    rw [hspace, hsign]
    dsimp only
    rw [htake, hdrop, if_neg hnumeral.nonempty, ← hmagnitude]

theorem strtoull_eq_iff {text rest : List UInt8} {value : Nat} :
    strtoull text = ⟨value, rest, true, false⟩ ↔
      ∃ space, ∃ sign : Sign, ∃ digits, IsNumeral space digits ∧
      text = space ++ (sign.text ++ (digits ++ rest)) ∧ digitsValue digits < 2 ^ 64 ∧
      value = sign.apply (digitsValue digits) ∧ ∀ b ∈ rest.head?, isDigit b = false := by
  unfold strtoull
  constructor
  · intro h
    split at h
    · cases h
    rename_i r hscan
    obtain ⟨space, digits, hnumeral, htext, hmagnitude, hrest⟩ := scan_eq_some_iff.1 hscan
    split at h
    · cases h
    rename_i hlt
    cases h
    exact ⟨space, r.sign, digits, hnumeral, htext, by omega, by rw [hmagnitude], hrest⟩
  · rintro ⟨space, sign, digits, hnumeral, htext, hlt, rfl, hrest⟩
    have hscan : scan text = some ⟨sign, digitsValue digits, rest⟩ :=
      scan_eq_some_iff.2 ⟨space, digits, hnumeral, htext, rfl, hrest⟩
    rw [hscan]
    exact if_neg (Nat.not_le.2 hlt)

end Lib
