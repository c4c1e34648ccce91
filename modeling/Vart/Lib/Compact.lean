import Mathlib.Data.List.Perm.Basic
import Mathlib.Logic.Function.Basic

/-!
# Arrays with a live prefix

A C array with a counter: only the first `n` cells are in use. `cells f n` is the list of them.

* `shiftDown f i k`: `memmove(&f[i], &f[i + 1], k * sizeof(f[0]))`.
* `compact p`: the loop that removes every cell with `p` by moving the rest down one cell at a
  time. What is left is the list of the other cells in their old order (`cells_compact`).
* `swapRemove l i`: the removal that moves the last cell into the gap. What is left is the list
  of the other cells in some order (`perm_swapRemove`).
-/

namespace Lib

variable {α : Type}

/-- The first `n` cells of an array. -/
def cells (f : Nat → α) (n : Nat) : List α := (List.range n).map f

@[simp] theorem length_cells (f : Nat → α) (n : Nat) : (cells f n).length = n := by simp [cells]

@[simp] theorem cells_zero (f : Nat → α) : cells f 0 = [] := rfl

theorem cells_succ (f : Nat → α) (n : Nat) : cells f (n + 1) = cells f n ++ [f n] := by
  simp [cells, List.range_succ]

theorem cells_succ_eq_cons (f : Nat → α) (n : Nat) :
    cells f (n + 1) = f 0 :: cells (fun j => f (j + 1)) n := by
  simp [cells, List.range_succ_eq_map, Function.comp_def]

theorem cells_congr {f g : Nat → α} {n : Nat} (h : ∀ j, j < n → f j = g j) :
    cells f n = cells g n :=
  List.map_congr_left fun j hj => h j (List.mem_range.mp hj)

theorem mem_cells {f : Nat → α} {n : Nat} {x : α} : x ∈ cells f n ↔ ∃ j, j < n ∧ f j = x := by
  simp [cells]

theorem cells_update_of_le [DecidableEq Nat] (f : Nat → α) {n k : Nat} (h : n ≤ k) (x : α) :
    cells (Function.update f k x) n = cells f n :=
  cells_congr fun j hj => Function.update_of_ne (by omega) x f

/-- A cell of an updated array is the new value or an old cell. -/
theorem mem_cells_update {f : Nat → α} {n k : Nat} {x y : α}
    (h : y ∈ cells (Function.update f k x) n) : y = x ∨ y ∈ cells f n := by
  obtain ⟨j, hj, rfl⟩ := mem_cells.mp h
  by_cases hjk : j = k
  · subst hjk; exact .inl (Function.update_self ..)
  · exact .inr (mem_cells.mpr ⟨j, hj, (Function.update_of_ne hjk x f).symm⟩)

/-- `memmove(&f[i], &f[i + 1], k * sizeof(f[0]))`. -/
def shiftDown (f : Nat → α) (i k : Nat) : Nat → α := fun j =>
  if i ≤ j ∧ j < i + k then f (j + 1) else f j

/-- The compaction loop at index `i` with `left` cells still to look at: the array and the number
of cells after it. -/
def compact (p : α → Bool) : (i left : Nat) → (Nat → α) → (Nat → α) × Nat
  | i, 0, f => (f, i)
  | i, k + 1, f =>
    if p (f i) then compact p i k (shiftDown f i k) else compact p (i + 1) k f

theorem compact_count_le (p : α → Bool) (i left : Nat) (f : Nat → α) :
    (compact p i left f).2 ≤ i + left := by
  induction left generalizing i f with
  | zero => exact Nat.le_refl _
  | succ k ih =>
    rw [compact]
    split
    · have := ih i (shiftDown f i k); omega
    · have := ih (i + 1) f; omega

/-- The loop keeps the cells below `i` and, of the rest, exactly those without `p`, in order. -/
theorem cells_compact_from (p : α → Bool) (i left : Nat) (f : Nat → α) :
    cells (compact p i left f).1 (compact p i left f).2 =
      cells f i ++ (cells (fun j => f (i + j)) left).filter (fun x => !p x) := by
  induction left generalizing i f with
  | zero => simp [compact]
  | succ k ih =>
    rw [compact, cells_succ_eq_cons]
    split
    · rename_i hp
      have hlow : cells (shiftDown f i k) i = cells f i :=
        cells_congr fun j hj => if_neg (by omega)
      have hhigh : cells (fun j => shiftDown f i k (i + j)) k = cells (fun j => f (i + (j + 1))) k :=
        cells_congr fun j hj => if_pos (by omega)
      rw [ih, hlow, hhigh, List.filter_cons_of_neg (by simpa using hp)]
    · rename_i hp
      have hhigh : cells (fun j => f (i + 1 + j)) k = cells (fun j => f (i + (j + 1))) k :=
        cells_congr fun j _ => by rw [Nat.add_assoc, Nat.add_comm 1]
      rw [ih, hhigh, cells_succ, List.filter_cons_of_pos (by simpa using hp), List.append_assoc]
      rfl

theorem cells_compact (p : α → Bool) (n : Nat) (f : Nat → α) :
    cells (compact p 0 n f).1 (compact p 0 n f).2 = (cells f n).filter (fun x => !p x) := by
  simpa using cells_compact_from p 0 n f

/-! ## Removal by the last cell -/

/-- `f[i] = f[n - 1]; n--`. -/
def swapRemove (l : List α) (i : Nat) : List α :=
  match l.getLast? with
  | none => []
  | some last => l.dropLast.set i last

/-- The element at `i` is gone, the others are still there. -/
theorem perm_swapRemove {l : List α} {i : Nat} {x : α} (h : l[i]? = some x) :
    l.Perm (x :: swapRemove l i) := by
  obtain ⟨init, last, rfl⟩ := (List.eq_nil_or_concat l).resolve_left (by rintro rfl; simp at h)
  simp only [swapRemove, List.concat_eq_append, List.getLast?_append_of_ne_nil, ne_eq,
    List.cons_ne_self, not_false_eq_true, List.getLast?_singleton, List.dropLast_concat] at h ⊢
  by_cases hi : i < init.length
  · rw [List.getElem?_append_left hi, List.getElem?_eq_getElem hi] at h
    cases h
    refine (List.perm_append_singleton last init).trans ?_
    refine ((List.getElem_cons_eraseIdx_perm hi).symm.cons last).trans ?_
    refine (List.Perm.swap _ _ _).trans ?_
    exact ((List.set_perm_cons_eraseIdx hi last).symm).cons _
  · rw [List.getElem?_append_right (by omega)] at h
    have hz : i - init.length = 0 := by
      by_contra hne
      rw [List.getElem?_eq_none (by simp; omega)] at h
      cases h
    rw [hz] at h
    cases h
    rw [List.set_eq_of_length_le (by omega)]
    exact List.perm_append_singleton _ _

/-- A search for something that at most one element has finds the same in every order. -/
theorem find?_perm {p : α → Bool} {l l' : List α} (h : l.Perm l')
    (huniq : ∀ x ∈ l, ∀ y ∈ l, p x = true → p y = true → x = y) : l.find? p = l'.find? p := by
  cases hl : l.find? p with
  | none =>
    rw [eq_comm, List.find?_eq_none]
    rw [List.find?_eq_none] at hl
    exact fun x hx => hl x (h.mem_iff.mpr hx)
  | some x =>
    have hx := List.mem_of_find?_eq_some hl
    obtain ⟨y, hy⟩ := Option.isSome_iff_exists.mp
      (List.find?_isSome.mpr ⟨x, h.mem_iff.mp hx, List.find?_some hl⟩)
    have hyl := h.mem_iff.mpr (List.mem_of_find?_eq_some hy)
    rw [hy, huniq x hx y hyl (List.find?_some hl) (List.find?_some hy)]

end Lib
