import Mathlib.Data.List.Chain
import Mathlib.Data.List.Perm.Subperm
import Vart.Virtio.Queue

/-!
# The path of a descriptor chain

The path from a head follows the descriptors that have `NEXT`, in a table of descriptors that may
hold anything.

* `stopAt`: what ends the path at an index; `PathTo`: the path gets there.
* `VirtioPath`: a well-formed chain, and `virtioPath_iff`: it is the path that ends well.
* `PathTo.end_unique`: the path has one end.
-/

namespace Vart

open Lib

/-! ## Descriptors -/

/-- The chain goes on. -/
def VirtioDescriptor.HasNext (d : VirtioDescriptor) : Prop := d.flags &&& virtioDescFNext ≠ 0

/-- The first descriptor leads to the second one. -/
def Linked (x y : Nat × VirtioDescriptor) : Prop := x.2.HasNext ∧ x.2.next = y.1

/-- The flags are `NEXT` and `WRITE`. -/
def VirtioDescriptor.Plain (d : VirtioDescriptor) : Prop :=
  andNot d.flags (virtioDescFNext ||| virtioDescFWrite) = 0

/-- No bit of `a` is left outside a mask of `k` bits. -/
theorem andNot_mask_eq_zero {a k : Nat} : andNot a (1 <<< k - 1) = 0 ↔ a < 2 ^ k := by
  rw [andNot_mask]
  constructor
  · intro h
    have hmod := Nat.mod_lt a (Nat.two_pow_pos k)
    omega
  · intro h
    rw [Nat.mod_eq_of_lt h, Nat.sub_self]

/-- The two tests of the loop. -/
theorem VirtioDescriptor.plain_iff (d : VirtioDescriptor) :
    d.Plain ↔ d.flags &&& virtioDescFIndirect = 0 ∧ andNot d.flags virtioDescFMask = 0 := by
  have hplain : d.Plain ↔ d.flags < 4 := andNot_mask_eq_zero (k := 2)
  have hmask : andNot d.flags virtioDescFMask = 0 ↔ d.flags < 8 := andNot_mask_eq_zero (k := 3)
  have hindirect : ∀ flags < 8, flags < 4 ↔ flags &&& virtioDescFIndirect = 0 := by decide
  rw [hplain, hmask]
  constructor
  · exact fun h => ⟨(hindirect _ (by omega)).mp h, by omega⟩
  · exact fun h => (hindirect _ h.2).mpr h.1

/-- The descriptor at an index, from the memory. -/
def VirtioQueue.descriptorAt (q : VirtioQueue) (memory : Nat → Nat → Except Errno (List UInt8))
    (index : Nat) : Except Errno VirtioDescriptor :=
  match memory (q.descriptorAddress + index * virtioDescriptorSize) virtioDescriptorSize with
  | .error e => .error e
  | .ok raw => .ok (virtioDescriptor raw)

/-! ## The path -/

section Path

variable (desc : Nat → Except Errno VirtioDescriptor) (n head : Nat)

/-- What ends the path `p` at `index`: the last descriptor or an error. A revisited index is
`ELOOP`, unless the chain is full. -/
def stopAt (p : List (Nat × VirtioDescriptor)) (index : Nat) :
    Option (Except Errno VirtioDescriptor) :=
  if index ∈ p.map Prod.fst then
    some (.error (if p.length = virtioMaxQueueSize then .eproto else .eloop))
  else match desc index with
  | .error e => some (.error e)
  | .ok d =>
    if d.flags &&& virtioDescFIndirect ≠ 0 then some (.error .enotsup)
    else if andNot d.flags virtioDescFMask ≠ 0 then some (.error .eproto)
    else if d.flags &&& virtioDescFNext = 0 then some (.ok d)
    else if d.next ≥ n then some (.error .eproto)
    else none

/-- The path from `head` goes through `p` to `index`. -/
inductive PathTo : List (Nat × VirtioDescriptor) → Nat → Prop
  | nil : PathTo [] head
  | snoc {p : List (Nat × VirtioDescriptor)} {index : Nat} {d : VirtioDescriptor} :
    PathTo p index → stopAt desc n p index = none → desc index = .ok d →
    PathTo (p ++ [(index, d)]) d.next

/-- A well-formed chain: its indices are distinct and below `n`, its flags are `NEXT` and `WRITE`,
and `NEXT` leads from each descriptor to the following one and is clear in the last. -/
structure VirtioPath (p : List (Nat × VirtioDescriptor)) : Prop where
  starts : p.head?.map Prod.fst = some head
  reads : ∀ x ∈ p, desc x.1 = .ok x.2
  below : ∀ x ∈ p, x.1 < n
  distinct : (p.map Prod.fst).Nodup
  plain : ∀ x ∈ p, x.2.Plain
  linked : p.IsChain Linked
  ends : ∀ x, p.getLast? = some x → ¬ x.2.HasNext

end Path

variable {desc : Nat → Except Errno VirtioDescriptor} {n head : Nat}
  {p : List (Nat × VirtioDescriptor)} {index : Nat} {d : VirtioDescriptor}

/-- The path goes on at an index that is new and has a plain descriptor with a next index. -/
theorem stopAt_eq_none_iff (hd : desc index = .ok d) : stopAt desc n p index = none ↔
    index ∉ p.map Prod.fst ∧ d.Plain ∧ d.HasNext ∧ d.next < n := by
  rw [VirtioDescriptor.plain_iff, VirtioDescriptor.HasNext]
  unfold stopAt
  simp only [hd]
  split
  · simp [*]
  · split
    · simp [*]
    · split
      · simp [*]
      · split
        · simp [*]
        · split <;> simp_all

theorem stopAt_eq_ok_iff : stopAt desc n p index = some (.ok d) ↔
    index ∉ p.map Prod.fst ∧ desc index = .ok d ∧ d.Plain ∧ ¬ d.HasNext := by
  unfold stopAt
  cases hd : desc index with
  | error e => split <;> simp
  | ok d' =>
    constructor
    · intro h
      dsimp only at h
      split at h
      · cases h
      split at h
      · cases h
      split at h
      · cases h
      split at h
      · rename_i hnew hindirect hmask hnext
        cases h
        refine ⟨hnew, rfl, ?_, not_not_intro hnext⟩
        exact (VirtioDescriptor.plain_iff _).mpr ⟨not_not.mp hindirect, not_not.mp hmask⟩
      · split at h <;> cases h
    · rintro ⟨hnew, heq, hplain, hnext⟩
      cases heq
      rw [VirtioDescriptor.plain_iff] at hplain
      rw [VirtioDescriptor.HasNext, not_not] at hnext
      simp [hnew, hplain, hnext]

theorem nodup_snoc (h : (p.map Prod.fst).Nodup) (hnew : index ∉ p.map Prod.fst) :
    ((p ++ [(index, d)]).map Prod.fst).Nodup := by
  rw [List.map_append, List.map_singleton, List.nodup_append]
  refine ⟨h, by simp, fun i hi j hj => ?_⟩
  rw [List.mem_singleton.mp hj]
  rintro rfl
  exact hnew hi

/-- What the path knows about where it has been. -/
structure PathTo.Facts (desc : Nat → Except Errno VirtioDescriptor) (n head : Nat)
    (p : List (Nat × VirtioDescriptor)) (index : Nat) : Prop where
  starts : (p.map Prod.fst ++ [index]).head? = some head
  reads : ∀ x ∈ p, desc x.1 = .ok x.2
  below : ∀ x ∈ p, x.1 < n
  index_lt : index < n
  distinct : (p.map Prod.fst).Nodup
  plain : ∀ x ∈ p, x.2.Plain
  linked : ∀ d, (p ++ [(index, d)]).IsChain Linked

theorem PathTo.facts (hhead : head < n) (h : PathTo desc n head p index) :
    PathTo.Facts desc n head p index := by
  induction h with
  | nil =>
    exact ⟨rfl, by simp, by simp, hhead, List.nodup_nil, by simp, fun d => List.isChain_singleton _⟩
  | @snoc p index d _ hgo hd ih =>
    obtain ⟨hnew, hplain, hnext, hlt⟩ := (stopAt_eq_none_iff hd).mp hgo
    refine ⟨?_, ?_, ?_, hlt, ?_, ?_, fun d' => ?_⟩
    · have hstarts := ih.starts
      rw [List.map_append, List.map_singleton, List.head?_append, hstarts]
      rfl
    · exact List.forall_mem_append.mpr ⟨ih.reads, List.forall_mem_singleton.mpr hd⟩
    · exact List.forall_mem_append.mpr ⟨ih.below, List.forall_mem_singleton.mpr ih.index_lt⟩
    · exact nodup_snoc ih.distinct hnew
    · exact List.forall_mem_append.mpr ⟨ih.plain, List.forall_mem_singleton.mpr hplain⟩
    · rw [List.append_assoc]
      exact List.isChain_append_cons_cons.mpr
        ⟨ih.linked d, ⟨hnext, rfl⟩, List.isChain_singleton _⟩

theorem length_le_of_nodup_lt {l : List Nat} (h : l.Nodup) (hlt : ∀ i ∈ l, i < n) :
    l.length ≤ n := by
  have hsub := List.subperm_of_subset h fun i hi => List.mem_range.mpr (hlt i hi)
  simpa using hsub.length_le

/-- A path that has been at as many indices as there are can only come back to one of them. -/
theorem PathTo.Facts.revisits (h : PathTo.Facts desc n head p index) (hlen : n ≤ p.length) :
    index ∈ p.map Prod.fst := by
  by_contra hnew
  have hbelow : ∀ i ∈ index :: p.map Prod.fst, i < n :=
    List.forall_mem_cons.mpr ⟨h.index_lt, List.forall_mem_map.mpr h.below⟩
  have hle := length_le_of_nodup_lt (List.nodup_cons.mpr ⟨hnew, h.distinct⟩) hbelow
  simp only [List.length_cons, List.length_map] at hle
  omega

/-- All ways from the head are one: a path that ends goes through every place that is reached. -/
theorem PathTo.prefix_of_stop (hhead : head < n) (h : PathTo desc n head p index)
    {p' : List (Nat × VirtioDescriptor)} {index' : Nat} {r : Except Errno VirtioDescriptor}
    (h' : PathTo desc n head p' index') (hstop : stopAt desc n p' index' = some r) :
    (p = p' ∧ index = index') ∨ ∃ d rest, p' = p ++ (index, d) :: rest := by
  have facts' := h'.facts hhead
  induction h with
  | nil =>
    cases p' with
    | nil => exact .inl ⟨rfl, (Option.some.inj facts'.starts).symm⟩
    | cons x rest =>
      have hx : x.1 = head := Option.some.inj facts'.starts
      exact .inr ⟨x.2, rest, by rw [← hx]; rfl⟩
  | @snoc p index d _ hgo hd ih =>
    obtain ⟨rfl, rfl⟩ | ⟨d', rest, rfl⟩ := ih
    · rw [hgo] at hstop
      cases hstop
    · -- The next place is the one that the descriptor at `index` names.
      have hread : desc index = .ok d' := facts'.reads (index, d') (by simp)
      rw [hd] at hread
      cases hread
      have hlinked := facts'.linked d
      rw [List.append_assoc] at hlinked
      cases rest with
      | nil =>
        have hlink := (List.isChain_append_cons_cons.mp hlinked).2.1
        exact .inl ⟨rfl, hlink.2⟩
      | cons x rest =>
        have hlink := (List.isChain_append_cons_cons.mp hlinked).2.1
        exact .inr ⟨x.2, rest, by rw [hlink.2, List.append_assoc]; rfl⟩

/-- The path has one end. -/
theorem PathTo.end_unique (hhead : head < n) (h : PathTo desc n head p index)
    {r : Except Errno VirtioDescriptor} (hstop : stopAt desc n p index = some r)
    {p' : List (Nat × VirtioDescriptor)} {index' : Nat} {r' : Except Errno VirtioDescriptor}
    (h' : PathTo desc n head p' index') (hstop' : stopAt desc n p' index' = some r') :
    p = p' ∧ index = index' ∧ r = r' := by
  obtain ⟨rfl, rfl⟩ | ⟨d, rest, hp'⟩ := h.prefix_of_stop hhead h' hstop'
  · exact ⟨rfl, rfl, Option.some.inj (hstop.symm.trans hstop')⟩
  · obtain ⟨rfl, rfl⟩ | ⟨d', rest', hp⟩ := h'.prefix_of_stop hhead h hstop
    · simp at hp'
    · have hlen := congrArg List.length hp
      rw [hp'] at hlen
      simp at hlen

/-- Every part of a well-formed chain is a path. -/
theorem VirtioPath.pathTo {P : List (Nat × VirtioDescriptor)} (hP : VirtioPath desc n head P)
    {rest : List (Nat × VirtioDescriptor)} (heq : P = p ++ (index, d) :: rest) :
    PathTo desc n head p index := by
  induction p using List.reverseRecOn generalizing index d rest with
  | nil =>
    have hstarts := hP.starts
    rw [heq] at hstarts
    cases Option.some.inj hstarts
    exact .nil
  | append_singleton p x ih =>
    have heq' : P = p ++ (x.1, x.2) :: (index, d) :: rest := by
      rw [heq, List.append_assoc]
      rfl
    have hlinked := hP.linked
    have hdistinct := hP.distinct
    rw [heq'] at hlinked hdistinct
    obtain ⟨-, hlink, -⟩ := List.isChain_append_cons_cons.mp hlinked
    obtain rfl : x.2.next = index := hlink.2
    have hread : desc x.1 = .ok x.2 := hP.reads x (by simp [heq'])
    refine .snoc (ih heq') ((stopAt_eq_none_iff hread).mpr ⟨?_, ?_, hlink.1, ?_⟩) hread
    · rw [List.map_append, List.map_cons, List.nodup_append] at hdistinct
      exact fun hx => hdistinct.2.2 _ hx _ List.mem_cons_self rfl
    · exact hP.plain x (by simp [heq'])
    · exact hP.below (x.2.next, d) (by simp [heq'])

/-- The well-formed chain is the path that ends without an error. -/
theorem virtioPath_iff (hhead : head < n) {P : List (Nat × VirtioDescriptor)} :
    VirtioPath desc n head P ↔ ∃ p index d, PathTo desc n head p index ∧
      stopAt desc n p index = some (.ok d) ∧ P = p ++ [(index, d)] := by
  constructor
  · intro hP
    obtain ⟨p, x, rfl⟩ := (List.eq_nil_or_concat P).resolve_left (by
      rintro rfl
      have hstarts := hP.starts
      cases hstarts)
    rw [List.concat_eq_append] at hP ⊢
    refine ⟨p, x.1, x.2, hP.pathTo rfl, stopAt_eq_ok_iff.mpr ⟨?_, ?_, ?_, ?_⟩, rfl⟩
    · have hdistinct := hP.distinct
      rw [List.map_append, List.map_singleton, List.nodup_append] at hdistinct
      exact fun hx => hdistinct.2.2 _ hx _ (List.mem_singleton_self _) rfl
    · exact hP.reads x (by simp)
    · exact hP.plain x (by simp)
    · exact hP.ends x (by simp)
  · rintro ⟨p, index, d, hpath, hstop, rfl⟩
    have facts := hpath.facts hhead
    obtain ⟨hnew, hd, hplain, hlast⟩ := stopAt_eq_ok_iff.mp hstop
    refine ⟨?_, ?_, ?_, ?_, ?_, facts.linked d, ?_⟩
    · have hstarts := facts.starts
      cases p <;> exact hstarts
    · exact List.forall_mem_append.mpr ⟨facts.reads, List.forall_mem_singleton.mpr hd⟩
    · exact List.forall_mem_append.mpr
        ⟨facts.below, List.forall_mem_singleton.mpr facts.index_lt⟩
    · exact nodup_snoc facts.distinct hnew
    · exact List.forall_mem_append.mpr ⟨facts.plain, List.forall_mem_singleton.mpr hplain⟩
    · intro x hx
      rw [List.getLast?_append, List.getLast?_singleton, Option.some_or] at hx
      cases hx
      exact hlast

end Vart
