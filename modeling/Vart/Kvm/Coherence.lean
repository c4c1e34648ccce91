import Vart.Kvm.RegisterGroups
import Vart.Lib.Reach

/-!
# Coherence of the register cache

* `CpuMachine.Coherent`: the registers of the groups CORE and CSR that are valid and not dirty are
  those of the guest.
* `CpuOp.Stale`: a run that changes a register of such a group, or an edit of such a group that
  `mark_dirty` refuses.
* `cpuStep_coherent_iff`: these are the steps that end the coherence.
* `cpuStep_dirtySubset`: a dirty group is always valid.
* `putRegistersLocked_written`: a put writes nothing but cached values of dirty groups.
-/

namespace Vart

open Lib

variable (sink : Sink) {s : CpuMachine}

/-! ## Coherence -/

/-- The group is valid and not dirty. -/
def CpuMachine.Clean (s : CpuMachine) (g : RegGroup) : Prop :=
  s.valid &&& g.bit ≠ 0 ∧ s.dirty &&& g.bit = 0

instance CpuMachine.Clean.decidable (s : CpuMachine) (g : RegGroup) : Decidable (s.Clean g) :=
  inferInstanceAs (Decidable (_ ∧ _))

/-- The cached registers of clean groups are those of the guest. The timer runs by itself. -/
def CpuMachine.Coherent (s : CpuMachine) : Prop :=
  ∀ r, r.group ≠ .timer → s.Clean r.group → s.regs r = s.guest r

theorem Loaded.coherent {g : RegGroup} {s s' : CpuMachine} (h : Loaded g s s')
    (hs : s.Coherent) : s'.Coherent := by
  intro r htimer hclean
  rw [h.guest_eq]
  refine h.keeps (hs r htimer ?_)
  obtain ⟨_, _, rfl⟩ := h.frame
  exact hclean

/-- Writing a dirty group does not touch the clean ones. -/
theorem Stored.coherent {g : RegGroup} {s s' : CpuMachine} (h : Stored g s s')
    (hdirty : s.dirty &&& g.bit ≠ 0) (hs : s.Coherent) : s'.Coherent := by
  intro r htimer hclean
  have hclean' : s.Clean r.group := by
    obtain ⟨_, _, rfl⟩ := h.frame
    exact hclean
  have hne : r.group ≠ g := by
    rintro rfl
    exact hdirty hclean'.2
  rw [h.regs_eq, h.guest_of_ne hne, hs r htimer hclean']

/-- Reading a group, in whole or in part, keeps the cache coherent. -/
theorem getGroup_coherent (groups : BitVec 32) (g : RegGroup) (hs : s.Coherent) :
    Outcome (getGroup sink groups g s) CpuMachine.Coherent CpuMachine.Coherent := by
  unfold getGroup
  split
  · exact hs
  refine ((getGroupRegisters_outcome sink g s).mono (fun s' h => h)
    fun s' h => h.coherent hs).andThen fun s' ⟨h, hall⟩ r htimer hclean => ?_
  show s'.regs r = s'.guest r
  rw [h.guest_eq]
  by_cases hg : r.group = g
  · exact hall r hg
  · -- The masks of the other groups are as before.
    refine h.keeps (hs r htimer ?_)
    obtain ⟨_, _, rfl⟩ := h.frame
    exact ⟨or_bit_and_bit s.valid hg ▸ hclean.1, clear_bit_and_bit s.dirty hg ▸ hclean.2⟩

/-- Writing a dirty group keeps the cache coherent; the other groups stay as dirty as they are. -/
theorem putGroup_coherent {pending : BitVec 32} {g : RegGroup}
    (hs : s.Coherent) (hp : pending &&& g.bit ≠ 0 → s.dirty &&& g.bit ≠ 0) :
    Outcome (putGroup sink pending g s)
      (fun s' => s'.Coherent ∧ ∀ g', g' ≠ g → s'.dirty &&& g'.bit = s.dirty &&& g'.bit)
      CpuMachine.Coherent := by
  unfold putGroup
  split
  · exact ⟨hs, fun _ _ => rfl⟩
  rename_i hpending
  have hdirty := hp hpending
  split
  · exact hs
  rename_i hcore
  refine ((putGroupRegisters_outcome sink g s).mono (fun s' h => h)
    fun s' h => h.coherent hdirty hs).andThen fun s' ⟨h, hall⟩ => ⟨?_, ?_⟩
  · intro r htimer hclean
    show s'.regs r = s'.guest r
    by_cases hg : r.group = g
    · subst hg
      rw [h.regs_eq]
      by_cases hx0 : r = .gpr 0
      · subst hx0
        rw [guest_x0]
        by_contra hne
        exact hcore ⟨rfl, .inl hne⟩
      · rw [← hall htimer r rfl hx0]
        exact (if_neg hx0).symm
    · rw [h.regs_eq, h.guest_of_ne hg]
      refine hs r htimer ?_
      obtain ⟨_, _, rfl⟩ := h.frame
      exact ⟨hclean.1, clear_bit_and_bit s.dirty hg ▸ hclean.2⟩
  · intro g' hg'
    obtain ⟨_, _, rfl⟩ := h.frame
    exact clear_bit_and_bit s.dirty hg'

theorem putRegistersLocked_coherent (groups : BitVec 32)
    (hs : s.Coherent) : Outcome (putRegistersLocked sink s groups) CpuMachine.Coherent
      CpuMachine.Coherent := by
  have hp (g : RegGroup) : groups &&& s.dirty &&& g.bit ≠ 0 → s.dirty &&& g.bit ≠ 0 := by
    intro h hzero
    rw [BitVec.and_assoc, hzero] at h
    exact h BitVec.and_zero
  unfold putRegistersLocked
  dsimp only
  split
  · exact hs
  have hcsr : Outcome (andThen (putGroup sink (groups &&& s.dirty) .core s)
      (putGroup sink (groups &&& s.dirty) .csr))
      (fun s' => s'.Coherent ∧ s'.dirty &&& RegGroup.timer.bit = s.dirty &&& RegGroup.timer.bit)
      CpuMachine.Coherent := by
    refine (putGroup_coherent sink hs (hp .core)).andThen fun s₁ ⟨h₁, hkeep₁⟩ => ?_
    refine (putGroup_coherent sink h₁ fun h => ?_).mono (fun s₂ ⟨h₂, hkeep₂⟩ => ⟨h₂, ?_⟩)
      fun s₂ h₂ => h₂
    · rw [hkeep₁ .csr (by simp)]
      exact hp .csr h
    · rw [hkeep₂ .timer (by simp), hkeep₁ .timer (by simp)]
  refine hcsr.andThen fun s₂ ⟨h₂, hkeep⟩ => ?_
  refine (putGroup_coherent sink h₂ fun h => ?_).mono (fun s₃ h => h.1) fun s₃ h => h
  rw [hkeep]
  exact hp .timer h

theorem riscvVcpuGetRegisters_coherent (groups : BitVec 32)
    (hs : s.Coherent) : (riscvVcpuGetRegisters sink s groups).1.Coherent := by
  unfold riscvVcpuGetRegisters
  split
  · exact hs
  · have hcsr := (getGroup_coherent sink groups .core hs).andThen
      fun s₁ h₁ => getGroup_coherent sink groups .csr h₁
    exact (hcsr.andThen fun s₂ h₂ => getGroup_coherent sink groups .timer h₂).state

theorem riscvVcpuPutRegisters_coherent (groups : BitVec 32)
    (hs : s.Coherent) : (riscvVcpuPutRegisters sink s groups).1.Coherent := by
  unfold riscvVcpuPutRegisters
  split
  · exact hs
  · exact (putRegistersLocked_coherent sink groups hs).state

theorem and_bit_of_or {m n : BitVec 32} {g : RegGroup} (h : (m ||| n) &&& g.bit = 0) :
    m &&& g.bit = 0 ∧ n &&& g.bit = 0 := by
  rw [BitVec.and_or_distrib_right] at h
  exact BitVec.or_eq_zero_iff.mp h

/-- Whether `mark_dirty` takes `groups` depends on the valid groups only. -/
theorem riscvCpuStateMarkDirty_cases (valid groups : BitVec 32) :
    (∀ s : CpuMachine, s.valid = valid →
      riscvCpuStateMarkDirty s groups = (s, .error .einval)) ∨
    (∀ s : CpuMachine, s.valid = valid →
      riscvCpuStateMarkDirty s groups = ({ s with dirty := s.dirty ||| groups }, .ok ())) := by
  by_cases h : groups = 0 ∨ groups &&& ~~~riscvRegAll ≠ 0 ∨ groups &&& ~~~valid ≠ 0
  · refine .inl ?_
    rintro s rfl
    exact if_pos h
  · refine .inr ?_
    rintro s rfl
    exact if_neg h

theorem riscvCpuStateMarkDirty_coherent (groups : BitVec 32) (hs : s.Coherent) :
    (riscvCpuStateMarkDirty s groups).1.Coherent := by
  obtain hbad | hgood := riscvCpuStateMarkDirty_cases s.valid groups
  · rw [hbad s rfl]
    exact hs
  · rw [hgood s rfl]
    exact fun r htimer hclean => hs r htimer ⟨hclean.1, (and_bit_of_or hclean.2).1⟩

theorem vcpuSetMpStateLocked_coherent (mpState : Nat)
    (hs : s.Coherent) : Outcome (vcpuSetMpStateLocked sink s mpState) CpuMachine.Coherent
      CpuMachine.Coherent := by
  unfold vcpuSetMpStateLocked CpuMachine.ioctl
  split
  · exact hs
  · cases sink s.calls <;> exact hs

theorem riscvVcpuInitBoot_coherent (entry fdtAddr : UInt64)
    (hs : s.Coherent) : (riscvVcpuInitBoot sink s entry fdtAddr).1.Coherent := by
  unfold riscvVcpuInitBoot
  dsimp only
  split
  · exact hs
  split
  · exact hs
  refine Outcome.state ((putRegistersLocked_coherent sink _ ?_).andThen ?_)
  · -- Both groups are dirty.
    intro r htimer hclean
    have hzero := (and_bit_of_or hclean.2).2
    cases hg : r.group <;> rw [hg] at hzero
    · exact absurd hzero (by decide)
    · exact absurd hzero (by decide)
    · exact absurd hg htimer
  · exact fun s' hs' => vcpuSetMpStateLocked_coherent sink _ hs'

theorem vcpuSetCoreReg_coherent {r : RegId} (value : UInt64)
    (hr : r.group = .core) (hs : s.Coherent) : (vcpuSetCoreReg sink s r value).1.Coherent := by
  unfold vcpuSetCoreReg vcpuSetOneReg CpuMachine.ioctl
  cases sink s.calls with
  | error e => exact hs
  | ok _ =>
    intro r' htimer hclean
    have hcore : r'.group ≠ .core := by
      intro h
      have := hclean.1
      rw [h] at this
      exact this (clear_bit_and_bit_self s.valid .core)
    have hne : r' ≠ r := by
      rintro rfl
      exact hcore hr
    refine (hs r' htimer ⟨?_, ?_⟩).trans ?_
    · exact clear_bit_and_bit s.valid hcore ▸ hclean.1
    · exact clear_bit_and_bit s.dirty hcore ▸ hclean.2
    · show s.guest r' = if r' = .gpr 0 then 0 else Function.update s.kvm r value r'
      rw [Function.update_of_ne hne]
      rfl

/-! ## Steps that end the coherence -/

/-- A run that leaves `kvm` changes a register of a clean group. -/
def CpuMachine.ChangesClean (s : CpuMachine) (kvm : RegId → UInt64) : Prop :=
  ∃ r, r.group ≠ .timer ∧ s.Clean r.group ∧ ({ s with kvm } : CpuMachine).guest r ≠ s.guest r

/-- A step that leaves a clean group with other values than the guest has: a run that changes it
behind the cache, or an edit that `mark_dirty` refuses. -/
def CpuOp.Stale (s : CpuMachine) : CpuOp → Prop
  | .run kvm => s.ChangesClean kvm
  | .workerRun kvm => s.threadState = .running ∧ s.ChangesClean kvm
  | .edit groups regs => (riscvCpuStateMarkDirty s groups).2 ≠ .ok () ∧
    ∃ r, r.group ≠ .timer ∧ s.Clean r.group ∧ groups &&& r.group.bit ≠ 0 ∧ regs r ≠ s.regs r
  | _ => False

theorem run_coherent_iff (hs : s.Coherent) (kvm : RegId → UInt64) :
    ({ s with kvm } : CpuMachine).Coherent ↔ ¬ s.ChangesClean kvm := by
  constructor
  · rintro h ⟨r, htimer, hclean, hne⟩
    exact hne ((h r htimer hclean).symm.trans (hs r htimer hclean))
  · intro h r htimer hclean
    by_contra hne
    refine h ⟨r, htimer, hclean, fun heq => hne ?_⟩
    rw [heq]
    exact hs r htimer hclean

theorem edit_coherent_iff (hs : s.Coherent) (groups : BitVec 32) (regs : RegId → UInt64) :
    (riscvCpuStateMarkDirty (s.editRegs groups regs) groups).1.Coherent ↔
      ¬ (CpuOp.edit groups regs).Stale s := by
  rw [CpuOp.Stale]
  obtain hbad | hgood := riscvCpuStateMarkDirty_cases s.valid groups
  · rw [hbad s rfl, hbad (s.editRegs groups regs) rfl]
    constructor
    · rintro h ⟨-, r, htimer, hclean, hin, hne⟩
      have hedit := h r htimer hclean
      simp only [CpuMachine.editRegs, if_neg hin] at hedit
      exact hne (hedit.trans (hs r htimer hclean).symm)
    · intro h r htimer hclean
      refine Eq.trans ?_ (hs r htimer hclean)
      simp only [CpuMachine.editRegs]
      split
      · rfl
      · rename_i hin
        by_contra hne
        exact h ⟨by simp, r, htimer, hclean, hin, hne⟩
  · rw [hgood s rfl, hgood (s.editRegs groups regs) rfl]
    refine iff_of_true (fun r htimer hclean => ?_) fun h => h.1 rfl
    -- What was edited is dirty.
    obtain ⟨hclean', hout⟩ := and_bit_of_or hclean.2
    refine Eq.trans ?_ (hs r htimer ⟨hclean.1, hclean'⟩)
    exact if_pos hout

/-- The cache stays coherent exactly if the step is not of this kind. -/
theorem cpuStep_coherent_iff (hs : s.Coherent) (op : CpuOp) :
    (cpuStep sink s op).Coherent ↔ ¬ op.Stale s := by
  cases op with
  | getRegisters groups => exact iff_of_true (riscvVcpuGetRegisters_coherent sink groups hs) id
  | putRegisters groups => exact iff_of_true (riscvVcpuPutRegisters_coherent sink groups hs) id
  | markDirty groups => exact iff_of_true (riscvCpuStateMarkDirty_coherent groups hs) id
  | edit groups regs => exact edit_coherent_iff hs groups regs
  | setPc value => exact iff_of_true (vcpuSetCoreReg_coherent sink value rfl hs) id
  | setGpr index value =>
    refine iff_of_true ?_ id
    simp only [cpuStep, vcpuSetGpr]
    split
    · exact hs
    split
    · exact hs
    · exact vcpuSetCoreReg_coherent sink value rfl hs
  | setMode mode =>
    refine iff_of_true ?_ id
    simp only [cpuStep, vcpuSetMode]
    split
    · exact hs
    · exact vcpuSetCoreReg_coherent sink mode rfl hs
  | initBoot entry fdtAddr =>
    exact iff_of_true (riscvVcpuInitBoot_coherent sink entry fdtAddr hs) id
  | run kvm => exact run_coherent_iff hs kvm
  | start =>
    refine iff_of_true ?_ id
    simp only [cpuStep]
    split <;> exact hs
  | workerRun kvm =>
    simp only [cpuStep, CpuOp.Stale]
    split
    · rename_i hrun
      rw [run_coherent_iff hs kvm]
      simp [hrun]
    · rename_i hrun
      exact iff_of_true hs fun h => hrun h.1
  | workerStop =>
    refine iff_of_true ?_ id
    simp only [cpuStep]
    split <;> exact hs

/-! ## Dirty groups are valid -/

/-- Every dirty group is valid. -/
def CpuMachine.DirtySubset (s : CpuMachine) : Prop := s.dirty &&& ~~~s.valid = 0

theorem CpuMachine.DirtySubset.of_bits {s s' : CpuMachine} (hs : s.DirtySubset)
    (h : ∀ i, (s.dirty.getLsbD i = true → s.valid.getLsbD i = true) →
      s'.dirty.getLsbD i = true → s'.valid.getLsbD i = true) : s'.DirtySubset :=
  and_not_eq_zero_iff.mpr fun i => h i (and_not_eq_zero_iff.mp hs i)

theorem getGroup_dirtySubset (groups : BitVec 32) (g : RegGroup) (hs : s.DirtySubset) :
    Outcome (getGroup sink groups g s) CpuMachine.DirtySubset CpuMachine.DirtySubset := by
  have hloaded {s' : CpuMachine} (h : Loaded g s s') : s'.DirtySubset := by
    obtain ⟨_, _, rfl⟩ := h.frame
    exact hs
  unfold getGroup
  split
  · exact hs
  refine ((getGroupRegisters_outcome sink g s).mono (fun s' h => hloaded h.1)
    fun s' h => hloaded h).andThen fun s' h => CpuMachine.DirtySubset.of_bits h fun i hi => ?_
  simp only [BitVec.getLsbD_or, BitVec.getLsbD_and, Bool.and_eq_true, Bool.or_eq_true]
  exact fun hd => .inl (hi hd.1)

theorem putGroup_dirtySubset (pending : BitVec 32) (g : RegGroup) (hs : s.DirtySubset) :
    Outcome (putGroup sink pending g s) CpuMachine.DirtySubset CpuMachine.DirtySubset := by
  have hstored {s' : CpuMachine} (h : Stored g s s') : s'.DirtySubset := by
    obtain ⟨_, _, rfl⟩ := h.frame
    exact hs
  unfold putGroup
  split
  · exact hs
  split
  · exact hs
  refine ((putGroupRegisters_outcome sink g s).mono (fun s' h => hstored h.1)
    fun s' h => hstored h).andThen fun s' h => CpuMachine.DirtySubset.of_bits h fun i hi => ?_
  simp only [BitVec.getLsbD_and, Bool.and_eq_true]
  exact fun hd => hi hd.1

theorem putRegistersLocked_dirtySubset (groups : BitVec 32)
    (hs : s.DirtySubset) : Outcome (putRegistersLocked sink s groups) CpuMachine.DirtySubset
      CpuMachine.DirtySubset := by
  unfold putRegistersLocked
  dsimp only
  split
  · exact hs
  · have hcsr := (putGroup_dirtySubset sink (groups &&& s.dirty) .core hs).andThen
      fun s₁ h₁ => putGroup_dirtySubset sink (groups &&& s.dirty) .csr h₁
    exact hcsr.andThen fun s₂ h₂ => putGroup_dirtySubset sink (groups &&& s.dirty) .timer h₂

theorem riscvCpuStateMarkDirty_dirtySubset (groups : BitVec 32)
    (hs : s.DirtySubset) : (riscvCpuStateMarkDirty s groups).1.DirtySubset := by
  unfold riscvCpuStateMarkDirty
  split
  · exact hs
  · rename_i h
    rw [not_or, not_or, not_not, not_not] at h
    refine hs.of_bits fun i hi => ?_
    simp only [BitVec.getLsbD_or, Bool.or_eq_true]
    exact fun hd => hd.elim hi (and_not_eq_zero_iff.mp h.2.2 i)

theorem vcpuSetCoreReg_dirtySubset (r : RegId) (value : UInt64)
    (hs : s.DirtySubset) : (vcpuSetCoreReg sink s r value).1.DirtySubset := by
  unfold vcpuSetCoreReg vcpuSetOneReg CpuMachine.ioctl
  cases sink s.calls with
  | error e => exact hs
  | ok _ =>
    refine hs.of_bits fun i hi => ?_
    simp only [andThen, vcpuInvalidateCoreState, BitVec.getLsbD_and, Bool.and_eq_true]
    exact fun hd => ⟨hi hd.1, hd.2⟩

theorem riscvVcpuInitBoot_dirtySubset (entry fdtAddr : UInt64)
    (hs : s.DirtySubset) : (riscvVcpuInitBoot sink s entry fdtAddr).1.DirtySubset := by
  unfold riscvVcpuInitBoot
  dsimp only
  split
  · exact hs
  split
  · exact hs
  refine Outcome.state ((putRegistersLocked_dirtySubset sink _ (hs.of_bits fun i hi => ?_)).andThen
    fun s' hs' => ?_)
  · simp only [BitVec.getLsbD_or, Bool.or_eq_true]
    exact fun hd => hd.imp_left hi
  · unfold vcpuSetMpStateLocked CpuMachine.ioctl
    split
    · exact hs'
    · cases sink s'.calls <;> exact hs'

theorem cpuStep_dirtySubset (hs : s.DirtySubset) (op : CpuOp) :
    (cpuStep sink s op).DirtySubset := by
  cases op with
  | getRegisters groups =>
    simp only [cpuStep, riscvVcpuGetRegisters]
    split
    · exact hs
    · have hcsr := (getGroup_dirtySubset sink groups .core hs).andThen
        fun s₁ h₁ => getGroup_dirtySubset sink groups .csr h₁
      exact (hcsr.andThen fun s₂ h₂ => getGroup_dirtySubset sink groups .timer h₂).state
  | putRegisters groups =>
    simp only [cpuStep, riscvVcpuPutRegisters]
    split
    · exact hs
    · exact (putRegistersLocked_dirtySubset sink groups hs).state
  | markDirty groups => exact riscvCpuStateMarkDirty_dirtySubset groups hs
  | edit groups regs =>
    exact riscvCpuStateMarkDirty_dirtySubset (s := s.editRegs groups regs) groups hs
  | setPc value => exact vcpuSetCoreReg_dirtySubset sink _ value hs
  | setGpr index value =>
    simp only [cpuStep, vcpuSetGpr]
    split
    · exact hs
    split
    · exact hs
    · exact vcpuSetCoreReg_dirtySubset sink _ value hs
  | setMode mode =>
    simp only [cpuStep, vcpuSetMode]
    split
    · exact hs
    · exact vcpuSetCoreReg_dirtySubset sink _ mode hs
  | initBoot entry fdtAddr => exact riscvVcpuInitBoot_dirtySubset sink entry fdtAddr hs
  | run kvm => exact hs
  | start =>
    simp only [cpuStep]
    split <;> exact hs
  | workerRun kvm =>
    simp only [cpuStep]
    split <;> exact hs
  | workerStop =>
    simp only [cpuStep]
    split <;> exact hs

/-! ## Writing a clean group back -/

/-- Registers of the groups `pending` were written from the cache. -/
structure Written (pending : BitVec 32) (s s' : CpuMachine) : Prop where
  regs : s'.regs = s.regs
  guest : ∀ r, s'.guest r = s.guest r ∨
    (pending &&& r.group.bit ≠ 0 ∧ r ≠ .gpr 0 ∧ s'.guest r = s.regs r)

theorem Written.refl (pending : BitVec 32) (s : CpuMachine) : Written pending s s :=
  ⟨rfl, fun _ => .inl rfl⟩

theorem Written.trans {pending : BitVec 32} {s s' s'' : CpuMachine} (h : Written pending s s')
    (h' : Written pending s' s'') : Written pending s s'' := by
  refine ⟨h'.regs.trans h.regs, fun r => ?_⟩
  obtain heq | ⟨hp, hr, heq⟩ := h'.guest r
  · rw [heq]
    exact h.guest r
  · exact .inr ⟨hp, hr, heq.trans (congrFun h.regs r)⟩

theorem putGroup_written (pending : BitVec 32) (g : RegGroup) (s : CpuMachine) :
    Outcome (putGroup sink pending g s) (Written pending s) (Written pending s) := by
  unfold putGroup
  split
  · exact .refl pending s
  rename_i hpending
  split
  · exact .refl pending s
  have hstored {s' : CpuMachine} (h : Stored g s s') : Written pending s s' := by
    refine ⟨h.regs_eq, fun r => ?_⟩
    by_cases hr : r = .gpr 0
    · subst hr
      exact .inl ((guest_x0 s').trans (guest_x0 s).symm)
    · simp only [CpuMachine.guest, if_neg hr]
      obtain heq | ⟨rfl, heq⟩ := h.kvm r
      · exact .inl heq
      · exact .inr ⟨hpending, hr, heq⟩
  exact ((putGroupRegisters_outcome sink g s).mono (fun s' h => hstored h.1)
    fun s' h => hstored h).andThen fun s' h => ⟨h.regs, h.guest⟩

/-- A put writes nothing but cached values of dirty groups. -/
theorem putRegistersLocked_written (s : CpuMachine) (groups : BitVec 32) :
    Written (groups &&& s.dirty) s (putRegistersLocked sink s groups).1 := by
  have hnext (g : RegGroup) {s₁ : CpuMachine} (h₁ : Written (groups &&& s.dirty) s s₁) :
      Outcome (putGroup sink (groups &&& s.dirty) g s₁) (Written (groups &&& s.dirty) s)
        (Written (groups &&& s.dirty) s) :=
    (putGroup_written sink _ g s₁).mono (fun _ => h₁.trans) fun _ => h₁.trans
  unfold putRegistersLocked
  dsimp only
  split
  · exact .refl _ s
  · have hcsr := (hnext .core (.refl _ s)).andThen fun s₁ h₁ => hnext .csr h₁
    exact (hcsr.andThen fun s₂ h₂ => hnext .timer h₂).state

/-- Marking a clean group dirty and putting it changes nothing in the guest. -/
theorem put_clean_guest (hs : s.Coherent) {g : RegGroup} (hg : g ≠ .timer) (hclean : s.Clean g) :
    (riscvVcpuPutRegisters sink (riscvCpuStateMarkDirty s g.bit).1 g.bit).1.guest = s.guest := by
  generalize hmark : (riscvCpuStateMarkDirty s g.bit).1 = s₁
  have hs₁ : s₁.regs = s.regs ∧ s₁.guest = s.guest := by
    rw [← hmark]
    obtain hbad | hgood := riscvCpuStateMarkDirty_cases s.valid g.bit
    · rw [hbad s rfl]
      exact ⟨rfl, rfl⟩
    · rw [hgood s rfl]
      exact ⟨rfl, rfl⟩
  rw [← hs₁.2]
  unfold riscvVcpuPutRegisters
  split
  · rfl
  · funext r
    obtain heq | ⟨hpending, -, heq⟩ := (putRegistersLocked_written sink s₁ g.bit).guest r
    · exact heq
    · have hrg : r.group = g := by
        by_contra hne
        have hzero : g.bit &&& r.group.bit = 0#32 := by
          cases g <;> cases hr : r.group <;> first | rfl | exact absurd hr hne
        rw [BitVec.and_assoc, BitVec.and_comm s₁.dirty, ← BitVec.and_assoc, hzero] at hpending
        exact hpending BitVec.zero_and
      rw [heq, hs₁.1, hs₁.2]
      exact hs r (hrg ▸ hg) (hrg ▸ hclean)

/-! ## Runs -/

/-- A vCPU that was just created: no group is valid. -/
def CpuMachine.Initial (s : CpuMachine) : Prop :=
  s.valid = 0 ∧ s.dirty = 0 ∧ s.threadState = .created

/-- In every run, whatever fails, a dirty group is valid. As long as no step is stale, the clean
groups of the cache are those of the guest and putting one writes nothing new; the next step keeps
this exactly if it is not stale either. -/
theorem register_cache_coherent_iff (sink : Sink) :
    (∀ s, Reach (cpuStep sink) CpuMachine.Initial (fun _ _ => True) s →
      s.dirty &&& ~~~s.valid = 0) ∧
    (∀ s, Reach (cpuStep sink) CpuMachine.Initial (fun s op => ¬ op.Stale s) s →
      s.Coherent ∧
      (∀ op, (cpuStep sink s op).Coherent ↔ ¬ op.Stale s) ∧
      ∀ g, g ≠ .timer → s.Clean g →
        (riscvVcpuPutRegisters sink (riscvCpuStateMarkDirty s g.bit).1 g.bit).1.guest =
          s.guest) := by
  refine ⟨fun s h => ?_, fun s h => ?_⟩
  · refine h.invariant (I := CpuMachine.DirtySubset) ?_ ?_
    · rintro s ⟨-, hdirty, -⟩
      rw [CpuMachine.DirtySubset, hdirty]
      exact BitVec.zero_and
    · exact fun s op hs _ => cpuStep_dirtySubset sink hs op
  · have hs : s.Coherent := by
      refine h.invariant (I := CpuMachine.Coherent) ?_ ?_
      · rintro s ⟨hvalid, -, -⟩ r _ hclean
        rw [CpuMachine.Clean, hvalid] at hclean
        exact absurd BitVec.zero_and hclean.1
      · exact fun s op hs hop => (cpuStep_coherent_iff sink hs op).mpr hop
    exact ⟨hs, cpuStep_coherent_iff sink hs, fun g hg hclean => put_clean_guest sink hs hg hclean⟩

/-- Hart 0 with all registers zero. -/
def freshCpu : CpuMachine where
  hartId := 0
  threadState := .created
  regs := fun _ => 0
  valid := 0
  dirty := 0
  kvm := fun _ => 0
  hasMpState := true
  mpState := 0
  calls := 0

/-- Every ioctl succeeds but the fifth. -/
def failsFifth : Sink := fun n => if n = 4 then .error .eio else .ok ()

theorem freshCpu_reach : Reach (cpuStep failsFifth) CpuMachine.Initial
    (fun s op => ¬ op.Stale s) freshCpu :=
  .start ⟨rfl, rfl, rfl⟩

/-- The boot state fails half way and is put again, and then the program counter is read back. -/
theorem freshCpu_booted :
    (cpuStep failsFifth (cpuStep failsFifth freshCpu (.initBoot 0x80200000 0x82000000))
      (.putRegisters 3)).Coherent ∧
    (cpuStep failsFifth (cpuStep failsFifth freshCpu (.initBoot 0x80200000 0x82000000))
      (.putRegisters 3)).guest .pc = 0x80200000 ∧
    (cpuStep failsFifth (cpuStep failsFifth freshCpu (.initBoot 0x80200000 0x82000000))
      (.putRegisters 3)).Clean .core := by
  refine ⟨?_, by decide +kernel, by decide +kernel⟩
  exact ((register_cache_coherent_iff failsFifth).2 _
    (.next (.next freshCpu_reach id) id)).1

/-- KVM's registers after the guest went on to `0x80200004`. -/
def advancedKvm : RegId → UInt64 := fun r => if r = .pc then 0x80200004 else 0

/-- CORE is read, and then the guest runs. -/
def ranAfterGet : CpuMachine :=
  cpuStep (fun _ => .ok ()) (cpuStep (fun _ => .ok ()) freshCpu (.getRegisters 1))
    (.run advancedKvm)

/-- The group is still valid and clean, with the old program counter. Marked dirty and put, it
sends the guest back. -/
theorem ranAfterGet_stale :
    ranAfterGet.Clean .core ∧ ranAfterGet.regs .pc ≠ ranAfterGet.guest .pc ∧
    (cpuStep (fun _ => .ok ()) (cpuStep (fun _ => .ok ()) ranAfterGet (.markDirty 1))
      (.putRegisters 1)).guest .pc = 0 := by
  decide +kernel

end Vart
