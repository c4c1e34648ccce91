import Vart.Kvm.Registers

/-!
# Reading and writing register groups

A group is read and written one register at a time, and every ioctl may fail. However far a loop
gets, it does nothing else.

* `CpuMachine.guest`: what KVM has; `x0` is zero and not part of the store.
* `Loaded`, `Stored`: registers of one group were read or written, and nothing else happened.
* `getGroupRegisters_outcome`, `putGroupRegisters_outcome`: a success is about the whole group.
-/

namespace Vart

open Lib

/-! ## Masks -/

theorem or_bit_and_bit (m : BitVec 32) {g g' : RegGroup} (h : g' ≠ g) :
    (m ||| g.bit) &&& g'.bit = m &&& g'.bit := by
  have hzero : g.bit &&& g'.bit = 0#32 := by
    cases g <;> cases g' <;> first | rfl | exact absurd rfl h
  rw [BitVec.and_or_distrib_right, hzero, BitVec.or_zero]

@[simp] theorem clear_bit_and_bit_self (m : BitVec 32) (g : RegGroup) :
    m &&& ~~~g.bit &&& g.bit = 0 := by
  have hzero : ~~~g.bit &&& g.bit = 0#32 := by cases g <;> rfl
  rw [BitVec.and_assoc, hzero]
  exact BitVec.and_zero

theorem clear_bit_and_bit (m : BitVec 32) {g g' : RegGroup} (h : g' ≠ g) :
    m &&& ~~~g.bit &&& g'.bit = m &&& g'.bit := by
  have hkeep : ~~~g.bit &&& g'.bit = g'.bit := by
    cases g <;> cases g' <;> first | rfl | exact absurd rfl h
  rw [BitVec.and_assoc, hkeep]

/-- Every bit of `m` is one of `n`. -/
theorem and_not_eq_zero_iff {m n : BitVec 32} :
    m &&& ~~~n = 0 ↔ ∀ i, m.getLsbD i = true → n.getLsbD i = true := by
  constructor
  · intro h i hi
    have hlt : i < 32 := BitVec.lt_of_getLsbD hi
    have hbit := congrArg (BitVec.getLsbD · i) h
    simpa [hi, hlt] using hbit
  · intro h
    refine BitVec.eq_of_getLsbD_eq fun i hi => ?_
    cases hm : m.getLsbD i with
    | false => simp [hm]
    | true => simp [hm, h i hm, hi]

/-! ## Reading and writing a group -/

local instance neZero_registers : NeZero 32 := ⟨by decide⟩

/-- What KVM has. -/
def CpuMachine.guest (s : CpuMachine) (r : RegId) : UInt64 := if r = .gpr 0 then 0 else s.kvm r

theorem guest_x0 (s : CpuMachine) : s.guest (.gpr 0) = 0 := if_pos rfl

/-- Registers of group `g` were read, and nothing else happened. -/
structure Loaded (g : RegGroup) (s s' : CpuMachine) : Prop where
  frame : ∃ regs calls, s' = { s with regs, calls }
  regs : ∀ r, s'.regs r = s.regs r ∨ (r.group = g ∧ s'.regs r = s.guest r)

/-- Registers of group `g` were written, and nothing else happened. -/
structure Stored (g : RegGroup) (s s' : CpuMachine) : Prop where
  frame : ∃ kvm calls, s' = { s with kvm, calls }
  kvm : ∀ r, s'.kvm r = s.kvm r ∨ (r.group = g ∧ s'.kvm r = s.regs r)

namespace Loaded

variable {g : RegGroup} {s s' s'' : CpuMachine}

theorem guest_eq (h : Loaded g s s') : s'.guest = s.guest := by
  obtain ⟨_, _, rfl⟩ := h.frame
  rfl

theorem refl (g : RegGroup) (s : CpuMachine) : Loaded g s s :=
  ⟨⟨s.regs, s.calls, rfl⟩, fun _ => .inl rfl⟩

theorem trans (h : Loaded g s s') (h' : Loaded g s' s'') : Loaded g s s'' := by
  refine ⟨?_, fun r => ?_⟩
  · obtain ⟨_, _, rfl⟩ := h.frame
    obtain ⟨regs, calls, rfl⟩ := h'.frame
    exact ⟨regs, calls, rfl⟩
  · obtain heq | ⟨hg, heq⟩ := h'.regs r
    · rw [heq]
      exact h.regs r
    · exact .inr ⟨hg, heq.trans (congrFun h.guest_eq r)⟩

/-- A register that is right stays right. -/
theorem keeps (h : Loaded g s s') {r : RegId} (hr : s.regs r = s.guest r) :
    s'.regs r = s.guest r :=
  (h.regs r).elim (fun heq => heq.trans hr) (·.2)

end Loaded

namespace Stored

variable {g : RegGroup} {s s' s'' : CpuMachine}

theorem regs_eq (h : Stored g s s') : s'.regs = s.regs := by
  obtain ⟨_, _, rfl⟩ := h.frame
  rfl

theorem refl (g : RegGroup) (s : CpuMachine) : Stored g s s :=
  ⟨⟨s.kvm, s.calls, rfl⟩, fun _ => .inl rfl⟩

theorem trans (h : Stored g s s') (h' : Stored g s' s'') : Stored g s s'' := by
  refine ⟨?_, fun r => ?_⟩
  · obtain ⟨_, _, rfl⟩ := h.frame
    obtain ⟨kvm, calls, rfl⟩ := h'.frame
    exact ⟨kvm, calls, rfl⟩
  · obtain heq | ⟨hg, heq⟩ := h'.kvm r
    · rw [heq]
      exact h.kvm r
    · exact .inr ⟨hg, heq.trans (congrFun h.regs_eq r)⟩

theorem keeps (h : Stored g s s') {r : RegId} (hr : s.kvm r = s.regs r) : s'.kvm r = s.regs r :=
  (h.kvm r).elim (fun heq => heq.trans hr) (·.2)

/-- Registers of other groups are as before. -/
theorem guest_of_ne (h : Stored g s s') {r : RegId} (hr : r.group ≠ g) :
    s'.guest r = s.guest r := by
  rw [CpuMachine.guest, CpuMachine.guest, (h.kvm r).resolve_right fun hg => hr hg.1]

end Stored

theorem vcpuGetOneReg_outcome (sink : Sink) (s : CpuMachine) {r : RegId} (hr : r ≠ .gpr 0) :
    Outcome (vcpuGetOneReg sink s r)
      (fun s' => Loaded r.group s s' ∧ s'.regs r = s.guest r) (Loaded r.group s) := by
  have hkvm : s.kvm r = s.guest r := (if_neg hr).symm
  unfold vcpuGetOneReg CpuMachine.ioctl
  cases sink s.calls with
  | error e => exact ⟨⟨_, _, rfl⟩, fun _ => .inl rfl⟩
  | ok _ =>
    refine ⟨⟨⟨_, _, rfl⟩, fun r' => ?_⟩, (Function.update_self ..).trans hkvm⟩
    by_cases h : r' = r
    · subst h
      exact .inr ⟨rfl, (Function.update_self ..).trans hkvm⟩
    · exact .inl (Function.update_of_ne h ..)

theorem vcpuSetOneReg_outcome (sink : Sink) (s : CpuMachine) (r : RegId) :
    Outcome (vcpuSetOneReg sink s r (s.regs r))
      (fun s' => Stored r.group s s' ∧ s'.kvm r = s.regs r) (Stored r.group s) := by
  unfold vcpuSetOneReg CpuMachine.ioctl
  cases sink s.calls with
  | error e => exact ⟨⟨_, _, rfl⟩, fun _ => .inl rfl⟩
  | ok _ =>
    refine ⟨⟨⟨_, _, rfl⟩, fun r' => ?_⟩, Function.update_self ..⟩
    by_cases h : r' = r
    · subst h
      exact .inr ⟨rfl, Function.update_self ..⟩
    · exact .inl (Function.update_of_ne h ..)

/-- The loop reads registers up to the first error. -/
theorem getRegisterArray_outcome (sink : Sink) {g : RegGroup} {l : List RegId} (s : CpuMachine)
    (hl : ∀ r ∈ l, r.group = g ∧ r ≠ .gpr 0) :
    Outcome (getRegisterArray sink l s)
      (fun s' => Loaded g s s' ∧ ∀ r ∈ l, s'.regs r = s.guest r) (Loaded g s) := by
  induction l generalizing s with
  | nil => exact ⟨.refl g s, by simp⟩
  | cons r rs ih =>
    obtain ⟨⟨rfl, hr⟩, hrs⟩ := List.forall_mem_cons.mp hl
    refine (vcpuGetOneReg_outcome sink s hr).andThen fun s₁ ⟨h₁, hr₁⟩ => ?_
    refine (ih s₁ hrs).mono (fun s₂ ⟨h₂, hrs₂⟩ => ⟨h₁.trans h₂, ?_⟩) fun s₂ h₂ => h₁.trans h₂
    rw [h₁.guest_eq] at hrs₂
    refine List.forall_mem_cons.mpr ⟨?_, hrs₂⟩
    have hkeep := h₂.keeps (r := r) (by rw [hr₁, h₁.guest_eq])
    rwa [h₁.guest_eq] at hkeep

/-- The loop writes registers up to the first error. -/
theorem putRegisterArray_outcome (sink : Sink) {g : RegGroup} {l : List RegId} (s : CpuMachine)
    (hl : ∀ r ∈ l, r.group = g) :
    Outcome (putRegisterArray sink l s)
      (fun s' => Stored g s s' ∧ (g ≠ .timer → ∀ r ∈ l, s'.kvm r = s.regs r)) (Stored g s) := by
  induction l generalizing s with
  | nil => exact ⟨.refl g s, by simp⟩
  | cons r rs ih =>
    obtain ⟨rfl, hrs⟩ := List.forall_mem_cons.mp hl
    rw [putRegisterArray]
    split
    · rename_i hskip
      -- Only registers of the timer are skipped.
      have htimer : r.group = .timer := by
        simp only [CpuMachine.skips, Bool.or_eq_true, Bool.and_eq_true, beq_iff_eq] at hskip
        obtain rfl | ⟨rfl, -⟩ := hskip <;> rfl
      exact (ih s hrs).mono (fun s' h => ⟨h.1, fun hg => absurd htimer hg⟩) fun s' h => h
    · refine (vcpuSetOneReg_outcome sink s r).andThen fun s₁ ⟨h₁, hr₁⟩ => ?_
      refine (ih s₁ hrs).mono (fun s₂ ⟨h₂, hrs₂⟩ => ⟨h₁.trans h₂, fun hg => ?_⟩)
        fun s₂ h₂ => h₁.trans h₂
      rw [h₁.regs_eq] at hrs₂
      refine List.forall_mem_cons.mpr ⟨?_, hrs₂ hg⟩
      have hkeep := h₂.keeps (r := r) (by rw [hr₁, h₁.regs_eq])
      rwa [h₁.regs_eq] at hkeep

theorem mem_gprRegisters (index : Fin 32) : RegId.gpr index ∈ gprRegisters ↔ index ≠ 0 := by
  revert index
  decide

theorem group_of_mem_gprRegisters {r : RegId} (h : r ∈ gprRegisters) :
    r.group = .core ∧ r ≠ .gpr 0 := by
  obtain ⟨index, -, rfl⟩ := List.mem_map.mp h
  refine ⟨rfl, fun heq => (mem_gprRegisters index).mp h (RegId.gpr.inj heq)⟩

/-- The registers that `get_core` and `put_core` go through. -/
theorem mem_core_iff {r : RegId} :
    r ∈ .pc :: gprRegisters ++ [.mode] ↔ r.group = .core ∧ r ≠ .gpr 0 := by
  cases r with
  | pc => simp [RegId.group]
  | mode => simp [RegId.group]
  | gpr index => simp [RegId.group, mem_gprRegisters]
  | csr name =>
    refine iff_of_false (fun h => ?_) (by simp [RegId.group])
    simp only [List.cons_append, List.mem_cons, List.mem_append, reduceCtorEq, false_or,
      List.not_mem_nil, or_false] at h
    exact absurd (group_of_mem_gprRegisters h).1 (by simp [RegId.group])
  | timer name =>
    refine iff_of_false (fun h => ?_) (by simp [RegId.group])
    simp only [List.cons_append, List.mem_cons, List.mem_append, reduceCtorEq, false_or,
      List.not_mem_nil, or_false] at h
    exact absurd (group_of_mem_gprRegisters h).1 (by simp [RegId.group])

theorem mem_csrRegisters {r : RegId} : r ∈ csrRegisters ↔ r.group = .csr := by
  cases r with
  | csr name => cases name <;> simp [csrRegisters, RegId.group]
  | _ => simp [csrRegisters, RegId.group]

theorem mem_timerRegisters {r : RegId} : r ∈ timerRegisters ↔ r.group = .timer := by
  cases r with
  | timer name => cases name <;> simp [timerRegisters, RegId.group]
  | _ => simp [timerRegisters, RegId.group]

theorem ne_x0_of_group {r : RegId} (h : r.group ≠ .core) : r ≠ .gpr 0 := by
  rintro rfl
  exact h rfl

theorem getCore_outcome (sink : Sink) (s : CpuMachine) :
    Outcome (getCore sink s)
      (fun s' => Loaded .core s s' ∧ ∀ r, r.group = .core → s'.regs r = s.guest r)
      (Loaded .core s) := by
  refine (vcpuGetOneReg_outcome sink s (r := .pc) (by simp)).andThen fun s₁ ⟨h₁, hpc⟩ => ?_
  -- The cached `x0` is cleared.
  have hx0 : Loaded .core s₁ { s₁ with regs := Function.update s₁.regs (.gpr 0) 0 } := by
    refine ⟨⟨_, _, rfl⟩, fun r => ?_⟩
    by_cases hr : r = .gpr 0
    · subst hr
      refine .inr ⟨rfl, ?_⟩
      rw [guest_x0]
      exact Function.update_self (RegId.gpr 0) 0 s₁.regs
    · exact .inl (Function.update_of_ne hr ..)
  have h₂ := h₁.trans hx0
  have hl : ∀ r ∈ gprRegisters ++ [RegId.mode], r.group = .core ∧ r ≠ .gpr 0 := fun r hr =>
    mem_core_iff.mp (List.mem_cons_of_mem _ hr)
  refine (getRegisterArray_outcome sink _ hl).mono (fun s₃ ⟨h₃, hrs⟩ => ⟨h₂.trans h₃, ?_⟩)
    fun s₃ h₃ => h₂.trans h₃
  rw [h₂.guest_eq] at hrs
  intro r hr
  have hkeep {r : RegId} (hr : Function.update s₁.regs (.gpr 0) 0 r = s.guest r) :
      s₃.regs r = s.guest r := by
    have := h₃.keeps (r := r) (by rw [h₂.guest_eq]; exact hr)
    rwa [h₂.guest_eq] at this
  by_cases hzero : r = .gpr 0
  · subst hzero
    exact hkeep ((Function.update_self ..).trans (guest_x0 s).symm)
  · obtain rfl | hmem := List.mem_cons.mp (mem_core_iff.mpr ⟨hr, hzero⟩)
    · exact hkeep ((Function.update_of_ne (by simp) ..).trans hpc)
    · exact hrs r hmem

theorem getGroupRegisters_outcome (sink : Sink) (g : RegGroup) (s : CpuMachine) :
    Outcome (getGroupRegisters sink g s)
      (fun s' => Loaded g s s' ∧ ∀ r, r.group = g → s'.regs r = s.guest r) (Loaded g s) := by
  cases g with
  | core => exact getCore_outcome sink s
  | csr =>
    refine (getRegisterArray_outcome sink s fun r hr => ?_).mono
      (fun s' h => ⟨h.1, fun r hr => h.2 r (mem_csrRegisters.mpr hr)⟩) fun s' h => h
    rw [mem_csrRegisters] at hr
    exact ⟨hr, ne_x0_of_group (by simp [hr])⟩
  | timer =>
    refine (getRegisterArray_outcome sink s fun r hr => ?_).mono
      (fun s' h => ⟨h.1, fun r hr => h.2 r (mem_timerRegisters.mpr hr)⟩) fun s' h => h
    rw [mem_timerRegisters] at hr
    exact ⟨hr, ne_x0_of_group (by simp [hr])⟩

theorem putGroupRegisters_outcome (sink : Sink) (g : RegGroup) (s : CpuMachine) :
    Outcome (putGroupRegisters sink g s)
      (fun s' => Stored g s s' ∧
        (g ≠ .timer → ∀ r, r.group = g → r ≠ .gpr 0 → s'.kvm r = s.regs r))
      (Stored g s) := by
  cases g with
  | core =>
    refine (putRegisterArray_outcome sink s fun r hr => (mem_core_iff.mp hr).1).mono
      (fun s' h => ⟨h.1, fun hg r hr hzero => h.2 hg r (mem_core_iff.mpr ⟨hr, hzero⟩)⟩)
      fun s' h => h
  | csr =>
    refine (putRegisterArray_outcome sink s fun r hr => mem_csrRegisters.mp hr).mono
      (fun s' h => ⟨h.1, fun hg r hr _ => h.2 hg r (mem_csrRegisters.mpr hr)⟩) fun s' h => h
  | timer =>
    refine (putRegisterArray_outcome sink s fun r hr => mem_timerRegisters.mp hr).mono
      (fun s' h => ⟨h.1, fun hg => absurd rfl hg⟩) fun s' h => h

end Vart
