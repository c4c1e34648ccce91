import Mathlib.Data.List.Nodup
import Mathlib.Logic.Function.Basic
import Mathlib.Logic.Relation

/-!
# Trees of linked nodes

Nodes are numbers that are given out in order. A node has a list of children and a link to its
parent. `Forest.WellFormed` says that the links agree and go to smaller numbers; the tree is what
can be reached from node `0` (`Forest.InTree`).

* `Forest.find`: a search from a node down. It finds nodes below its start only (`find_some`), and
  with enough fuel it misses none (`WellFormed.find_none`).
* `Forest.ancestors`: a node and the nodes above it. From a node of the tree they end at `0`.
* `Forest.addLeaf`, `Forest.addOrphan`, `Forest.removeLeaf`: the ways to change the links, with
  the tree that they leave.
-/

namespace Lib

open Relation

structure Forest where
  children : Nat → List Nat
  parent : Nat → Option Nat
  /-- The number of nodes that were given out. -/
  count : Nat

namespace Forest

variable {F : Forest}

def Child (F : Forest) (b c : Nat) : Prop := c ∈ F.children b

/-- The node is `b` or below it. -/
def Below (F : Forest) (b x : Nat) : Prop := ReflTransGen F.Child b x

def InTree (F : Forest) (x : Nat) : Prop := F.Below 0 x

theorem inTree_root : F.InTree 0 := .refl

theorem InTree.child {b c : Nat} (h : F.InTree b) (hc : F.Child b c) : F.InTree c := h.tail hc

theorem InTree.below {b x : Nat} (h : F.InTree b) (hx : F.Below b x) : F.InTree x := h.trans hx

structure WellFormed (F : Forest) : Prop where
  pos : 0 < F.count
  root : F.parent 0 = none
  parent_child : ∀ b c, F.Child b c → F.parent c = some b
  lt_child : ∀ b c, F.Child b c → b < c
  child_lt : ∀ b c, F.Child b c → c < F.count
  nodup : ∀ b, (F.children b).Nodup

theorem WellFormed.lt (h : F.WellFormed) {x : Nat} (hx : F.InTree x) : x < F.count := by
  cases hx with
  | refl => exact h.pos
  | tail _ hc => exact h.child_lt _ _ hc

/-- A node of the tree that is not the root has a parent in the tree. -/
theorem WellFormed.parent_inTree (h : F.WellFormed) {x : Nat} (hx : F.InTree x) (h0 : x ≠ 0) :
    ∃ b, F.parent x = some b ∧ F.InTree b ∧ F.Child b x := by
  cases hx with
  | refl => exact absurd rfl h0
  | tail hb hc => exact ⟨_, h.parent_child _ _ hc, hb, hc⟩

/-! ## Search -/

/-- The first node from `b` down that satisfies `p`, at most `fuel` levels deep. -/
def find (F : Forest) (p : Nat → Bool) : (fuel : Nat) → (b : Nat) → Option Nat
  | 0, _ => none
  | n + 1, b => if p b then some b else (F.children b).findSome? fun c => find F p n c

theorem find_some {p : Nat → Bool} {fuel b x : Nat} (h : F.find p fuel b = some x) :
    F.Below b x ∧ p x = true := by
  induction fuel generalizing b with
  | zero => cases h
  | succ n ih =>
    rw [find] at h
    split at h
    · rename_i hp
      cases h
      exact ⟨.refl, hp⟩
    · obtain ⟨c, hc, hfound⟩ := List.exists_of_findSome?_eq_some h
      obtain ⟨hbelow, hp⟩ := ih hfound
      exact ⟨.head hc hbelow, hp⟩

/-- Children have larger numbers, so no path is longer than the number of nodes above its start. -/
theorem WellFormed.find_none (hF : F.WellFormed) {p : Nat → Bool} {fuel b x : Nat}
    (h : F.find p fuel b = none) (hfuel : F.count ≤ b + fuel) (hx : F.Below b x)
    (hlt : x < F.count) : p x = false := by
  induction fuel generalizing b with
  | zero =>
    -- the start is not a node, and nothing is below it
    cases hx using ReflTransGen.head_induction_on with
    | refl => omega
    | head hc _ => have := hF.lt_child _ _ hc; have := hF.child_lt _ _ hc; omega
  | succ n ih =>
    rw [find] at h
    split at h
    · cases h
    · rename_i hp
      cases hx using ReflTransGen.head_induction_on with
      | refl => simpa using hp
      | head hc hbelow =>
        have := hF.lt_child _ _ hc
        exact ih (List.findSome?_eq_none_iff.1 h _ hc) (by omega) hbelow

/-! ## Ancestors -/

/-- The node and the nodes above it, as far as `fuel` parent links go. -/
def ancestors (F : Forest) : (fuel : Nat) → Option Nat → List Nat
  | 0, _ => []
  | _, none => []
  | n + 1, some b => b :: ancestors F n (F.parent b)

/-- The way up from a node of the tree ends at the root. -/
theorem WellFormed.getLast_ancestors (hF : F.WellFormed) {x fuel : Nat} (hx : F.InTree x)
    (hfuel : x < fuel) : (F.ancestors fuel (some x)).getLast? = some 0 := by
  induction fuel generalizing x with
  | zero => omega
  | succ n ih =>
    rw [ancestors]
    by_cases h0 : x = 0
    · subst h0
      rw [hF.root]
      cases n <;> rfl
    · obtain ⟨b, hparent, hb, hc⟩ := hF.parent_inTree hx h0
      have hlt := hF.lt_child _ _ hc
      have hlast := ih hb (by omega)
      rw [hparent, List.getLast?_cons, hlast]
      rfl

/-! ## Changes -/

/-- A new node below `p`. -/
def addLeaf (F : Forest) (p : Nat) : Forest where
  children := Function.update (Function.update F.children F.count []) p (F.children p ++ [F.count])
  parent := Function.update F.parent F.count (some p)
  count := F.count + 1

/-- A new node with a link to `p` that is not among its children. -/
def addOrphan (F : Forest) (p : Nat) : Forest where
  children := Function.update F.children F.count []
  parent := Function.update F.parent F.count (some p)
  count := F.count + 1

/-- `x` leaves the children of its parent and loses its links. -/
def removeLeaf (F : Forest) (x : Nat) : Forest where
  children := Function.update
    (fun b => if F.parent x = some b then (F.children b).erase x else F.children b) x []
  parent := Function.update F.parent x none
  count := F.count

theorem child_addLeaf {p b c : Nat} (hp : p < F.count) :
    (F.addLeaf p).Child b c ↔ (b ≠ F.count ∧ F.Child b c) ∨ (b = p ∧ c = F.count) := by
  unfold Child addLeaf
  dsimp only
  by_cases hb : b = p
  · subst hb
    rw [Function.update_self, List.mem_append, List.mem_singleton]
    have : b ≠ F.count := by omega
    simp [this]
  · rw [Function.update_of_ne hb]
    by_cases hcount : b = F.count
    · subst hcount
      simp [hb]
    · simp [hb, hcount]

theorem child_addOrphan {p b c : Nat} :
    (F.addOrphan p).Child b c ↔ b ≠ F.count ∧ F.Child b c := by
  unfold Child addOrphan
  by_cases hcount : b = F.count
  · subst hcount
    simp
  · simp [hcount]

theorem WellFormed.child_removeLeaf (hF : F.WellFormed) {x b c : Nat} :
    (F.removeLeaf x).Child b c ↔ b ≠ x ∧ c ≠ x ∧ F.Child b c := by
  unfold Child removeLeaf
  dsimp only
  by_cases hb : b = x
  · subst hb
    simp
  · rw [Function.update_of_ne hb]
    by_cases hparent : F.parent x = some b
    · rw [if_pos hparent, (hF.nodup b).mem_erase_iff]
      simp [hb]
    · rw [if_neg hparent]
      -- `x` is a child of its parent only
      refine ⟨fun hc => ⟨hb, ?_, hc⟩, fun h => h.2.2⟩
      rintro rfl
      exact hparent (hF.parent_child _ _ hc)

theorem WellFormed.inTree_addLeaf (hF : F.WellFormed) {p x : Nat} (hp : p < F.count) :
    (F.addLeaf p).InTree x ↔ F.InTree x ∨ (x = F.count ∧ F.InTree p) := by
  constructor
  · intro h
    induction h with
    | refl => exact .inl inTree_root
    | tail _ hc ih =>
      obtain ⟨hne, hc⟩ | ⟨rfl, rfl⟩ := (child_addLeaf hp).1 hc
      · obtain hb | ⟨rfl, -⟩ := ih
        · exact .inl (hb.child hc)
        · exact absurd rfl hne
      · obtain hb | ⟨rfl, -⟩ := ih
        · exact .inr ⟨rfl, hb⟩
        · omega
  · have hold : ∀ y, F.InTree y → (F.addLeaf p).InTree y := by
      intro y hy
      induction hy with
      | refl => exact inTree_root
      | @tail b c hb hc ih =>
        exact ih.child ((child_addLeaf hp).2 (.inl ⟨Nat.ne_of_lt (hF.lt hb), hc⟩))
    rintro (hx | ⟨rfl, hpt⟩)
    · exact hold x hx
    · exact (hold p hpt).child ((child_addLeaf hp).2 (.inr ⟨rfl, rfl⟩))

theorem WellFormed.inTree_addOrphan (hF : F.WellFormed) {p x : Nat} :
    (F.addOrphan p).InTree x ↔ F.InTree x := by
  constructor
  · intro h
    induction h with
    | refl => exact inTree_root
    | tail _ hc ih => exact ih.child (child_addOrphan.1 hc).2
  · intro h
    induction h with
    | refl => exact inTree_root
    | tail hb hc ih => exact ih.child (child_addOrphan.2 ⟨Nat.ne_of_lt (hF.lt hb), hc⟩)

theorem WellFormed.inTree_removeLeaf (hF : F.WellFormed) {x y : Nat} (hx : x ≠ 0)
    (hleaf : F.children x = []) : (F.removeLeaf x).InTree y ↔ F.InTree y ∧ y ≠ x := by
  constructor
  · intro h
    induction h with
    | refl => exact ⟨inTree_root, hx.symm⟩
    | tail _ hc ih =>
      obtain ⟨-, hne, hc⟩ := hF.child_removeLeaf.1 hc
      exact ⟨ih.1.child hc, hne⟩
  · rintro ⟨h, hne⟩
    induction h with
    | refl => exact inTree_root
    | @tail b c hb hc ih =>
      have hbx : b ≠ x := by
        rintro rfl
        rw [Child, hleaf] at hc
        exact List.not_mem_nil hc
      exact (ih hbx).child (hF.child_removeLeaf.2 ⟨hbx, hne, hc⟩)

theorem WellFormed.addLeaf (hF : F.WellFormed) {p : Nat} (hp : p < F.count) :
    (F.addLeaf p).WellFormed where
  pos := Nat.succ_pos _
  root := by
    have := hF.pos
    exact (Function.update_of_ne (by omega) _ _).trans hF.root
  parent_child b c hc := by
    obtain ⟨-, hc⟩ | ⟨rfl, rfl⟩ := (child_addLeaf hp).1 hc
    · have := hF.child_lt _ _ hc
      exact (Function.update_of_ne (by omega) _ _).trans (hF.parent_child _ _ hc)
    · exact Function.update_self ..
  lt_child b c hc := by
    obtain ⟨-, hc⟩ | ⟨rfl, rfl⟩ := (child_addLeaf hp).1 hc
    · exact hF.lt_child _ _ hc
    · exact hp
  child_lt b c hc := by
    show c < F.count + 1
    obtain ⟨-, hc⟩ | ⟨rfl, rfl⟩ := (child_addLeaf hp).1 hc
    · have := hF.child_lt _ _ hc
      omega
    · omega
  nodup b := by
    unfold Forest.addLeaf
    dsimp only
    by_cases hb : b = p
    · subst hb
      rw [Function.update_self]
      refine List.Nodup.append (hF.nodup b) (List.nodup_singleton _) ?_
      rintro c hc hc'
      have := hF.child_lt _ _ hc
      rw [List.mem_singleton] at hc'
      omega
    · rw [Function.update_of_ne hb]
      by_cases hcount : b = F.count
      · subst hcount
        rw [Function.update_self]
        exact List.nodup_nil
      · rw [Function.update_of_ne hcount]
        exact hF.nodup b

theorem WellFormed.addOrphan (hF : F.WellFormed) (p : Nat) : (F.addOrphan p).WellFormed where
  pos := Nat.succ_pos _
  root := by
    have := hF.pos
    exact (Function.update_of_ne (by omega) _ _).trans hF.root
  parent_child b c hc := by
    have hc := (child_addOrphan.1 hc).2
    have := hF.child_lt _ _ hc
    exact (Function.update_of_ne (by omega) _ _).trans (hF.parent_child _ _ hc)
  lt_child b c hc := hF.lt_child _ _ (child_addOrphan.1 hc).2
  child_lt b c hc := Nat.lt_succ_of_lt (hF.child_lt _ _ (child_addOrphan.1 hc).2)
  nodup b := by
    unfold Forest.addOrphan
    dsimp only
    by_cases hcount : b = F.count
    · subst hcount
      rw [Function.update_self]
      exact List.nodup_nil
    · rw [Function.update_of_ne hcount]
      exact hF.nodup b

theorem WellFormed.removeLeaf (hF : F.WellFormed) {x : Nat} (hx : x ≠ 0) :
    (F.removeLeaf x).WellFormed where
  pos := hF.pos
  root := (Function.update_of_ne hx.symm _ _).trans hF.root
  parent_child b c hc := by
    obtain ⟨-, hne, hc⟩ := hF.child_removeLeaf.1 hc
    exact (Function.update_of_ne hne _ _).trans (hF.parent_child _ _ hc)
  lt_child b c hc := hF.lt_child _ _ (hF.child_removeLeaf.1 hc).2.2
  child_lt b c hc := hF.child_lt _ _ (hF.child_removeLeaf.1 hc).2.2
  nodup b := by
    unfold Forest.removeLeaf
    dsimp only
    by_cases hb : b = x
    · subst hb
      rw [Function.update_self]
      exact List.nodup_nil
    · rw [Function.update_of_ne hb]
      split
      · exact (hF.nodup b).erase x
      · exact hF.nodup b

end Forest

end Lib
