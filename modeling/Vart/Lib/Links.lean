import Vart.Lib.Bytes

/-!
# Linked lists in a byte store

The nodes of a list are addresses below 256. The byte at `q + link` of a node `q` is the pointer to
the next node, and a pointer `0` ends the list. The head is a pointer in a byte of its own.

* `Linked`: the nodes that are visited from a pointer on, in order.
* `Linked.unique`: there is one such list.
* `Linked.append`: a node added behind the last one.
-/

namespace Lib

variable {s t : Store} {link : Nat}

/-- The pointer in the byte `a` starts the list of nodes `l`. -/
def Linked (s : Store) (link : Nat) : Nat → List Nat → Prop
  | a, [] => s a = 0
  | a, q :: l => (s a).toNat = q ∧ s a ≠ 0 ∧ Linked s link (q + link) l

/-- The bytes that hold the pointers of a list. -/
def linkCells (link a : Nat) (l : List Nat) : List Nat := a :: l.map (· + link)

/-- The byte with the pointer that ends the list. -/
def lastCell (link : Nat) : Nat → List Nat → Nat
  | a, [] => a
  | _, q :: l => lastCell link (q + link) l

theorem lastCell_mem (a : Nat) (l : List Nat) : lastCell link a l ∈ linkCells link a l := by
  induction l generalizing a with
  | nil => exact List.mem_cons_self
  | cons q l ih => exact List.mem_cons_of_mem _ (ih (q + link))

theorem lastCell_append (a q : Nat) (l : List Nat) : lastCell link a (l ++ [q]) = q + link := by
  induction l generalizing a with
  | nil => rfl
  | cons p l ih => exact ih (p + link)

/-- The pointers determine the list. -/
theorem Linked.unique {a : Nat} {l l' : List Nat} (h : Linked s link a l) (h' : Linked s link a l') :
    l = l' := by
  induction l generalizing a l' with
  | nil =>
    cases l' with
    | nil => rfl
    | cons q l' => exact absurd h h'.2.1
  | cons p l ih =>
    cases l' with
    | nil => exact absurd h' h.2.1
    | cons q l' =>
      obtain rfl : p = q := h.1.symm.trans h'.1
      rw [ih h.2.2 h'.2.2]

/-- A new last node: the pointer at the end is set to it, and its own pointer is `0`. -/
theorem Linked.append {a q : Nat} {l : List Nat} (h : Linked s link a l)
    (hcells : (linkCells link a l).Nodup)
    (hsame : ∀ x ∈ linkCells link a l, x ≠ lastCell link a l → t x = s x)
    (hlast : (t (lastCell link a l)).toNat = q) (hq : q ≠ 0) (hend : t (q + link) = 0) :
    Linked t link a (l ++ [q]) := by
  induction l generalizing a with
  | nil =>
    refine ⟨hlast, fun h0 => hq ?_, hend⟩
    rw [← hlast, show t (lastCell link a []) = 0 from h0]
    rfl
  | cons p l ih =>
    obtain ⟨hp, hne, hrest⟩ := h
    obtain ⟨hnot, hnodup⟩ := List.nodup_cons.mp hcells
    have ha : t a = s a := hsame a List.mem_cons_self fun he =>
      hnot (he ▸ lastCell_mem (p + link) l)
    rw [List.cons_append, Linked, ha]
    exact ⟨hp, hne, ih hrest hnodup (fun x hx => hsame x (List.mem_cons_of_mem _ hx)) hlast⟩

end Lib
