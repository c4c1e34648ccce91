import Vart.Pci.Frame
import Vart.Riscv.Machine

/-!
# What the parts of the IOMMU leave alone

* `ContextsOnly`: commands and the device directory change contexts only.
* `IommuSystem.mapBound`: the loops over the bindings change each bound context on its own.
* `iommuRaiseMsix_memory`: an interrupt leaves guest memory alone.
-/

namespace Vart

open Lib

/-! ## Queues -/

theorem queueBase_lt (queue : Nat) : queueBase queue < 2 ^ 52 := by
  have h : queue &&& queuePpnMask ≤ queuePpnMask := Nat.and_le_right
  rw [queueBase, Nat.shiftLeft_eq, Nat.shiftRight_eq_div_pow]
  simp only [queuePpnMask] at h ⊢
  omega

/-! ## Contexts -/

/-- The states differ in their contexts only. -/
def ContextsOnly (s t : IommuSystem) : Prop := ∃ contexts, t = { s with contexts }

namespace ContextsOnly

theorem refl (s : IommuSystem) : ContextsOnly s s := ⟨s.contexts, rfl⟩

theorem trans {s t u : IommuSystem} (h : ContextsOnly s t) (h' : ContextsOnly t u) :
    ContextsOnly s u := by
  obtain ⟨c, rfl⟩ := h
  obtain ⟨c', rfl⟩ := h'
  exact ⟨c', rfl⟩

theorem setContext (s : IommuSystem) (n : Nat) (c : IommuContext) :
    ContextsOnly s (s.setContext n c) := ⟨_, rfl⟩

theorem foldl {α : Type} {f : IommuSystem → α → IommuSystem} (hf : ∀ s a, ContextsOnly s (f s a))
    (s : IommuSystem) (as : List α) : ContextsOnly s (as.foldl f s) := by
  induction as generalizing s with
  | nil => exact refl s
  | cons a as ih => exact (hf s a).trans (ih _)

end ContextsOnly

/-! ## Loops over the bindings -/

/-- The context of each binding in `bs` is changed by `g`. -/
def IommuSystem.mapBound (g : Binding → IommuContext → IommuContext) (s : IommuSystem)
    (bs : List Binding) : IommuSystem :=
  bs.foldl (fun s b => s.setContext b.context (g b (s.contexts b.context))) s

theorem contextsOnly_mapBound (g : Binding → IommuContext → IommuContext) (s : IommuSystem)
    (bs : List Binding) : ContextsOnly s (s.mapBound g bs) :=
  .foldl (fun _ _ => .setContext ..) s bs

theorem mapBound_cons (g : Binding → IommuContext → IommuContext) (s : IommuSystem) (b : Binding)
    (bs : List Binding) : s.mapBound g (b :: bs) =
      (s.setContext b.context (g b (s.contexts b.context))).mapBound g bs := rfl

/-- A context that is not bound stays as it is. -/
theorem mapBound_of_not_mem (g : Binding → IommuContext → IommuContext) (s : IommuSystem)
    {bs : List Binding} {n : Nat} (h : n ∉ bs.map (·.context)) :
    (s.mapBound g bs).contexts n = s.contexts n := by
  induction bs generalizing s with
  | nil => rfl
  | cons b bs ih =>
    rw [List.map_cons, List.mem_cons, not_or] at h
    rw [mapBound_cons, ih _ h.2]
    exact Function.update_of_ne h.1 _ _

/-- No context is bound twice, so each bound context is changed once. -/
theorem mapBound_of_mem (g : Binding → IommuContext → IommuContext) (s : IommuSystem)
    {bs : List Binding} (hnd : (bs.map (·.context)).Nodup) {b : Binding} (hb : b ∈ bs) :
    (s.mapBound g bs).contexts b.context = g b (s.contexts b.context) := by
  induction bs generalizing s with
  | nil => cases hb
  | cons b' bs ih =>
    rw [List.map_cons, List.nodup_cons] at hnd
    rw [mapBound_cons]
    rcases List.mem_cons.mp hb with rfl | hb
    · rw [mapBound_of_not_mem g _ hnd.1]
      exact Function.update_self ..
    · have hne : b.context ≠ b'.context := fun h =>
        hnd.1 (h ▸ List.mem_map_of_mem hb)
      rw [ih _ hnd.2 hb]
      congr 1
      exact Function.update_of_ne hne _ _

/-- The directory is applied to each binding with the registers and the memory of the start. -/
theorem foldl_applyBinding (s : IommuSystem) (bs : List Binding) :
    bs.foldl IommuSystem.applyBinding s = s.mapBound (fun b c =>
      (iommuApplyDdtBinding s.iommu s.memory (s.pci.devices b.device).requesterId c).1) bs := by
  induction bs generalizing s with
  | nil => rfl
  | cons b bs ih => rw [List.foldl_cons, ih, mapBound_cons]; rfl

theorem iommuInvalidateContexts_eq (s : IommuSystem) (address size : Nat) (bs : List Binding) :
    (iommuInvalidateContexts s address size bs).1 =
      s.mapBound (fun _ c => (iommuContextInvalidate c address size).1) bs := by
  induction bs generalizing s with
  | nil => rfl
  | cons b bs ih => rw [iommuInvalidateContexts, mapBound_cons, ← ih]

/-! ## Commands -/

theorem contextsOnly_applyBinding (s : IommuSystem) (b : Binding) :
    ContextsOnly s (s.applyBinding b) := .setContext ..

theorem contextsOnly_iommuApplyDdt (s : IommuSystem) : ContextsOnly s (iommuApplyDdt s) :=
  .foldl contextsOnly_applyBinding s _

theorem contextsOnly_iommuInvalidateContexts (s : IommuSystem) (address size : Nat)
    (bs : List Binding) : ContextsOnly s (iommuInvalidateContexts s address size bs).1 := by
  rw [iommuInvalidateContexts_eq]
  exact contextsOnly_mapBound ..

theorem contextsOnly_iommuIodir (s : IommuSystem) (dword0 : Nat) :
    ContextsOnly s (iommuIodir s dword0) := by
  unfold iommuIodir
  split
  · exact contextsOnly_iommuApplyDdt s
  · simp only
    split
    · exact .refl s
    · exact contextsOnly_applyBinding s _

theorem contextsOnly_iommuInvalidateCommand (s : IommuSystem) (dword0 dword1 : Nat) :
    ContextsOnly s (iommuInvalidateCommand s dword0 dword1).1 := by
  unfold iommuInvalidateCommand
  simp only
  split
  · exact contextsOnly_iommuIodir s dword0
  split
  · exact .refl s
  split
  · exact .refl s
  split
  · exact .refl s
  split
  · exact .refl s
  · exact .setContext s _ _
  · exact contextsOnly_iommuInvalidateContexts s _ _ _

/-! ## Interrupts -/

theorem iommuRaiseMsix_memory (sink : Sink) (s : IommuSystem) (vector : Nat) :
    (iommuRaiseMsix sink s vector).memory = s.memory :=
  (congrArg PciState.memory (deliverSame_pciDeviceRaiseMsix sink s.pci s.iommu.pci vector) :)

end Vart
