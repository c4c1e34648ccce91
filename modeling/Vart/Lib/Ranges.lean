import Mathlib.Order.Lattice
import Mathlib.Order.Basic
import Mathlib.Data.List.Basic
import Mathlib.Data.List.Perm.Basic

/-!
# Sorted lists of disjoint ranges

The elements of a list cover closed ranges `[lo x, hi x]` of keys. Insertion and lookup walk the list
and stop as soon as the ranges lie above the one they look for.

* `Ordered`: each range is not empty and lies below all later ones.
* `insertRange_eq_none_iff`: insertion is refused exactly if the range meets one of the list.
* `insertRange_perm`, `Ordered.insertRange`: otherwise the list gains the element and stays ordered.
* `findRange_eq_some_iff`: lookup finds the element whose range has the key.
* `Ordered.ext`: an ordered list is determined by its elements.
-/

namespace Lib

variable {ι κ : Type} [LinearOrder κ] (lo hi : ι → κ)

/-- The ranges have a key in common. -/
def Meets (x y : ι) : Prop := lo x ≤ hi y ∧ lo y ≤ hi x

/-- The range has the key. -/
def Covers (x : ι) (k : κ) : Prop := lo x ≤ k ∧ k ≤ hi x

/-- The ranges are not empty, and each lies below all later ones. -/
structure Ordered (l : List ι) : Prop where
  nonempty : ∀ x ∈ l, lo x ≤ hi x
  below : l.Pairwise fun x y => hi x < lo y

/-- The list with `x`, or `none` if its range meets one that is there. -/
def insertRange (x : ι) : List ι → Option (List ι)
  | [] => some [x]
  | y :: l =>
    if hi x < lo y then some (x :: y :: l)
    else if lo x ≤ hi y then none
    else (insertRange x l).map (y :: ·)

/-- The element whose range has the key `k`. -/
def findRange (k : κ) : List ι → Option ι
  | [] => none
  | y :: l =>
    if k < lo y then none
    else if k ≤ hi y then some y
    else findRange k l

variable {lo hi} {x y : ι} {k : κ} {l l' : List ι}

theorem Ordered.nil : Ordered lo hi [] := ⟨fun _ hx => absurd hx List.not_mem_nil, .nil⟩

theorem ordered_cons : Ordered lo hi (y :: l) ↔
    lo y ≤ hi y ∧ (∀ z ∈ l, hi y < lo z) ∧ Ordered lo hi l := by
  constructor
  · rintro ⟨hne, hbelow⟩
    obtain ⟨hy, hl⟩ := List.pairwise_cons.1 hbelow
    exact ⟨hne y List.mem_cons_self, hy, fun z hz => hne z (List.mem_cons_of_mem _ hz), hl⟩
  · rintro ⟨hne, hy, hl⟩
    refine ⟨fun z hz => ?_, List.pairwise_cons.2 ⟨hy, hl.below⟩⟩
    obtain rfl | hz := List.mem_cons.1 hz
    · exact hne
    · exact hl.nonempty z hz

/-- What lies below the first range of an ordered list meets none of them. -/
theorem Ordered.lt_of_mem (h : Ordered lo hi (y :: l)) (hk : k < lo y) {z : ι} (hz : z ∈ y :: l) :
    k < lo z := by
  obtain ⟨hne, hy, -⟩ := ordered_cons.1 h
  obtain rfl | hz := List.mem_cons.1 hz
  · exact hk
  · exact hk.trans_le (hne.trans (hy z hz).le)

theorem insertRange_eq_none_iff (h : Ordered lo hi l) :
    insertRange lo hi x l = none ↔ ∃ y ∈ l, Meets lo hi x y := by
  induction l with
  | nil => simp [insertRange]
  | cons y l ih =>
    obtain ⟨-, -, hl⟩ := ordered_cons.1 h
    unfold insertRange
    split
    · rename_i hlt
      refine iff_of_false (by simp) ?_
      rintro ⟨z, hz, hmeet⟩
      exact absurd (h.lt_of_mem hlt hz) (not_lt.2 hmeet.2)
    rename_i hnlt
    split
    · rename_i hle
      exact iff_of_true rfl ⟨y, List.mem_cons_self, hle, not_lt.1 hnlt⟩
    · rename_i hnle
      rw [Option.map_eq_none_iff, ih hl, List.exists_mem_cons_iff]
      exact (or_iff_right fun hmeet => hnle hmeet.1).symm

theorem insertRange_perm (h : insertRange lo hi x l = some l') : l'.Perm (x :: l) := by
  induction l generalizing l' with
  | nil =>
    cases h
    exact .refl _
  | cons y l ih =>
    unfold insertRange at h
    split at h
    · cases h
      exact .refl _
    split at h
    · cases h
    · obtain ⟨l₁, hl₁, rfl⟩ := Option.map_eq_some_iff.1 h
      exact ((ih hl₁).cons y).trans (.swap x y l)

theorem Ordered.insertRange (hl : Ordered lo hi l) (hx : lo x ≤ hi x)
    (h : insertRange lo hi x l = some l') : Ordered lo hi l' := by
  induction l generalizing l' with
  | nil =>
    cases h
    exact ordered_cons.2 ⟨hx, fun _ hz => absurd hz List.not_mem_nil, .nil⟩
  | cons y l ih =>
    obtain ⟨hy, hbelow, hrest⟩ := ordered_cons.1 hl
    unfold Lib.insertRange at h
    split at h
    · rename_i hlt
      cases h
      exact ordered_cons.2 ⟨hx, fun z hz => hl.lt_of_mem hlt hz, hl⟩
    split at h
    · cases h
    · rename_i hnle
      obtain ⟨l₁, hl₁, rfl⟩ := Option.map_eq_some_iff.1 h
      refine ordered_cons.2 ⟨hy, fun z hz => ?_, ih hrest hl₁⟩
      obtain rfl | hz := List.mem_cons.1 ((insertRange_perm hl₁).subset hz)
      · exact not_le.1 hnle
      · exact hbelow z hz

theorem findRange_eq_some_iff (h : Ordered lo hi l) :
    findRange lo hi k l = some x ↔ x ∈ l ∧ Covers lo hi x k := by
  induction l with
  | nil => simp [findRange]
  | cons y l ih =>
    obtain ⟨hy, hbelow, hl⟩ := ordered_cons.1 h
    unfold findRange
    split
    · rename_i hlt
      refine iff_of_false (by simp) ?_
      rintro ⟨hx, hcovers⟩
      exact absurd (h.lt_of_mem hlt hx) (not_lt.2 hcovers.1)
    rename_i hnlt
    split
    · rename_i hle
      refine ⟨fun heq => ?_, fun ⟨hx, hcovers⟩ => ?_⟩
      · cases heq
        exact ⟨List.mem_cons_self, not_lt.1 hnlt, hle⟩
      -- a later range starts above the key
      · obtain rfl | hx := List.mem_cons.1 hx
        · rfl
        · exact absurd (hle.trans_lt (hbelow x hx)) (not_lt.2 hcovers.1)
    · rename_i hnle
      rw [ih hl, List.mem_cons]
      refine ⟨fun ⟨hx, hcovers⟩ => ⟨.inr hx, hcovers⟩, fun ⟨hx, hcovers⟩ => ⟨?_, hcovers⟩⟩
      obtain rfl | hx := hx
      · exact absurd hcovers.2 hnle
      · exact hx

theorem findRange_eq_none_iff (h : Ordered lo hi l) :
    findRange lo hi k l = none ↔ ∀ x ∈ l, ¬ Covers lo hi x k := by
  rw [Option.eq_none_iff_forall_ne_some]
  exact ⟨fun hnone x hx hcovers => hnone x ((findRange_eq_some_iff h).2 ⟨hx, hcovers⟩),
    fun hnone x hx => hnone x ((findRange_eq_some_iff h).1 hx).1
      ((findRange_eq_some_iff h).1 hx).2⟩

/-- At most one range has a key. -/
theorem Ordered.unique (h : Ordered lo hi l) (hx : x ∈ l) (hy : y ∈ l) (hxk : Covers lo hi x k)
    (hyk : Covers lo hi y k) : x = y :=
  Option.some.inj (((findRange_eq_some_iff h).2 ⟨hx, hxk⟩).symm.trans
    ((findRange_eq_some_iff h).2 ⟨hy, hyk⟩))

theorem Ordered.nodup (h : Ordered lo hi l) : l.Nodup :=
  h.below.imp_of_mem fun {x y} hx _ hlt heq => by
    subst heq
    exact absurd hlt (not_lt.2 (h.nonempty x hx))

/-- An ordered list is determined by its elements. -/
theorem Ordered.ext (h : Ordered lo hi l) (h' : Ordered lo hi l') (hmem : ∀ x, x ∈ l ↔ x ∈ l') :
    l = l' := by
  have hperm := (List.perm_ext_iff_of_nodup h.nodup h'.nodup).2 hmem
  refine hperm.eq_of_pairwise (fun x y hx hy hxy hyx => ?_) h.below h'.below
  exact absurd (hxy.trans_le ((h'.nonempty y hy).trans hyx.le)) (not_lt.2 (h.nonempty x hx))

end Lib
