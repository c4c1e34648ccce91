import Vart.Pci.MsixFrame

/-!
# MSI-X messages are neither lost nor spurious

The invariant `MsixInv` ties the three copies of the delivery state together: the pending bits and
the log (`MsixBase.pending`), and the cached `enabled` and `functionMask` flags and the control
register in configuration space (`FlagsMatch`). The register stays apart from everything else that
is stored in the capability area (`MsixLayout`).

A sink that does not fail leaves no vector pending that may send a message (`Settled`).
-/

namespace Vart

open Lib

variable {sink : Sink} {s : PciState} {d : Nat} {dev dev' : PciDevice}

/-! ## The invariant -/

/-- Where the MSI-X capability of a function lies: no other capability and no link of the
capability list is stored over its control register. -/
structure MsixLayout (dev : PciDevice) : Prop where
  cap_ge : pciCapabilityStart ≤ dev.msix.capabilityOffset
  cap_le : dev.msix.capabilityOffset + 12 ≤ dev.capabilityNext
  tail : dev.capabilityTail = dev.msix.capabilityOffset ∨
    dev.msix.capabilityOffset + 12 ≤ dev.capabilityTail

/-- The invariant of one function, the flags apart. -/
structure MsixBase (log : List MsixEvent) (d : Nat) (dev : PciDevice) : Prop where
  next : pciCapabilityStart ≤ dev.capabilityNext →
    dev.capabilityTail + 4 ≤ dev.capabilityNext ∧ dev.capabilityNext ≤ pciCapabilityEnd
  uninitialised : dev.initialised = false →
    dev.msix.configured = false ∧ dev.capabilityNext < pciCapabilityStart
  unconfigured : dev.msix.configured = false →
    dev.msix.enabled = false ∧ dev.msix.functionMask = false ∧ ∀ v, pendingIn log d v = false
  layout : dev.msix.configured = true → MsixLayout dev
  pending : dev.msix.configured = true → ∀ v, v < dev.msix.vectorCount →
    dev.msix.pending v = pendingIn log d v

/-- The cached flags are the bits of the control register. -/
def FlagsMatch (dev : PciDevice) : Prop :=
  dev.msix.configured = true → dev.msix.enabled = dev.msixControlEnabled ∧
    dev.msix.functionMask = dev.msixControlMasked

structure MsixInv (s : PciState) : Prop where
  base : ∀ d, MsixBase s.log d (s.devices d)
  flags : ∀ d, FlagsMatch (s.devices d)
  proper : ∀ e ∈ s.log, e.Proper

/-- The invariant, the flags apart, does not read the registers that the guest writes. -/
theorem MsixBase.congr {log : List MsixEvent}
    (h : MsixBase log d dev) (hv : dev'.stateView = dev.stateView) : MsixBase log d dev' := by
  have hview : MsixBase log d dev.stateView :=
    ⟨h.next, h.uninitialised, h.unconfigured,
      fun hc => ⟨(h.layout hc).cap_ge, (h.layout hc).cap_le, (h.layout hc).tail⟩, h.pending⟩
  rw [← hv] at hview
  exact ⟨hview.next, hview.uninitialised, hview.unconfigured,
    fun hc => ⟨(hview.layout hc).cap_ge, (hview.layout hc).cap_le, (hview.layout hc).tail⟩,
    hview.pending⟩

theorem msixControl_congr (hcap : dev'.msix.capabilityOffset = dev.msix.capabilityOffset)
    (h : ∀ x, dev.msix.capabilityOffset + 2 ≤ x → x < dev.msix.capabilityOffset + 4 →
      dev'.configSpace x = dev.configSpace x) : dev'.msixControl = dev.msixControl := by
  unfold PciDevice.msixControl PciDevice.configLoad
  rw [hcap, Store.read_congr fun x h1 h2 => h x h1 (by omega)]

/-- The flags and the control bits of a function are unchanged. -/
theorem FlagsMatch.of_eq (h : FlagsMatch dev)
    (hc : dev'.msix.configured = dev.msix.configured) (he : dev'.msix.enabled = dev.msix.enabled)
    (hf : dev'.msix.functionMask = dev.msix.functionMask)
    (hctl : dev.msix.configured = true → dev'.msixControl = dev.msixControl) : FlagsMatch dev' := by
  intro hconf
  rw [hc] at hconf
  unfold PciDevice.msixControlEnabled PciDevice.msixControlMasked
  rw [he, hf, hctl hconf]
  exact h hconf

theorem FlagsMatch.congr {log : List MsixEvent}
    (h : FlagsMatch dev) (hb : MsixBase log d dev) (hv : dev'.msixView = dev.msixView) :
    FlagsMatch dev' := by
  have hm := congrArg PciDevice.msix hv
  refine h.of_eq (congrArg PciMsix.configured hm :) (congrArg PciMsix.enabled hm :)
    (congrArg PciMsix.functionMask hm :) fun hc => ?_
  refine msixControl_congr (congrArg PciMsix.capabilityOffset hm :) fun x h1 _ => ?_
  have hx := congrFun (congrArg PciDevice.configSpace hv) x
  have hcap := (hb.layout hc).cap_ge
  have hge : ¬ x < pciCapabilityStart := by omega
  simp only [PciDevice.msixView, if_neg hge] at hx
  exact hx

theorem msixInv_init (memory : GuestMemory) : MsixInv (.init memory) where
  base d := by
    have hnext : ¬ pciCapabilityStart ≤ PciDevice.zero.capabilityNext := by decide
    exact ⟨fun h => absurd h hnext, fun _ => ⟨rfl, Nat.lt_of_not_le hnext⟩,
      fun _ => ⟨rfl, rfl, fun v => rfl⟩, (nomatch ·), (nomatch ·)⟩
  flags d h := by cases h
  proper e he := by cases he

/-! ## Calls that keep the views, and capabilities -/

theorem msixInv_keep {s t : PciState} (h : MsixInv s)
    (hk : MsixKeep (fun d => (s.devices d).initialised = false) s t) : MsixInv t where
  base d := by
    rw [hk.log]
    rcases hk.view d with he | ⟨hfresh, he⟩
    · exact (h.base d).congr (stateView_of_msixView he)
    · have hnone := ((h.base d).unconfigured ((h.base d).uninitialised hfresh).1).2.2
      have hb : MsixBase s.log d freshView :=
        ⟨fun _ => by decide, (nomatch ·), fun _ => ⟨rfl, rfl, hnone⟩, (nomatch ·), (nomatch ·)⟩
      refine hb.congr (stateView_of_msixView (he.trans ?_))
      simp [freshView, PciDevice.msixView, PciDevice.zero, PciMsix.zero]
  flags d := by
    rcases hk.view d with he | ⟨-, he⟩
    · exact (h.flags d).congr (h.base d) he
    · intro hc
      have hconf := congrArg (·.msix.configured) he
      have : (t.devices d).msix.configured = false := hconf
      rw [this] at hc
      cases hc
  proper := by rw [hk.log]; exact h.proper

/-- What a successful `vart_pci_device_add_capability` does. -/
structure CapabilityAdded (dev dev' : PciDevice) (data : List UInt8) (offset : Nat) : Prop where
  offset_eq : offset = dev.capabilityNext
  offset_ge : pciCapabilityStart ≤ dev.capabilityNext
  tail_eq : dev'.capabilityTail = dev.capabilityNext
  next_ge : dev.capabilityNext + data.length + 2 ≤ dev'.capabilityNext
  next_gt : dev.capabilityNext + 4 ≤ dev'.capabilityNext
  next_le : dev'.capabilityNext ≤ pciCapabilityEnd
  initialised : dev'.initialised = dev.initialised
  msix : dev'.msix = dev.msix
  /-- Only the link of the last capability changes below the new one. -/
  old : ∀ x, pciCapabilityStart ≤ x → x < dev.capabilityNext → x ≠ dev.capabilityTail + 1 →
    dev'.configSpace x = dev.configSpace x
  body : dev.capabilityTail + 1 < dev.capabilityNext → ∀ i, i < data.length →
    dev'.configSpace (dev.capabilityNext + 2 + i) = data.getD i 0

theorem pciDeviceAddCapability_ok {id : UInt8} {data : List UInt8}
    {offset : Nat} (h : pciDeviceAddCapability dev id data = .ok (dev', offset)) :
    CapabilityAdded dev dev' data offset := by
  have halloc : andNot (data.length + 2 + 3) 3 = data.length + 5 - (data.length + 5) % 4 :=
    andNot_mask (data.length + 5) 2
  unfold pciDeviceAddCapability at h
  simp only at h
  rw [halloc] at h
  split at h
  · cases h
  split at h
  · cases h
  split at h
  · cases h
  rename_i hspace
  simp only [pciCapabilityStart, pciCapabilityEnd, not_or, Nat.not_lt, Nat.not_le,
    ge_iff_le, gt_iff_lt] at hspace
  obtain ⟨hge, hlt, hfit⟩ := hspace
  have hmod : dev.capabilityNext % 2 ^ 8 = dev.capabilityNext := Nat.mod_eq_of_lt (by omega)
  have hlink : (if dev.capabilityTail = 0 then pciCapabilityListOffset else dev.capabilityTail + 1) <
      pciCapabilityStart ∨ (if dev.capabilityTail = 0 then pciCapabilityListOffset
        else dev.capabilityTail + 1) = dev.capabilityTail + 1 := by
    split
    · exact .inl (by decide)
    · exact .inr rfl
  generalize (if dev.capabilityTail = 0 then pciCapabilityListOffset
    else dev.capabilityTail + 1) = link at h hlink
  cases h
  refine ⟨hmod, hge, hmod, ?_, ?_, ?_, rfl, rfl, fun x hx hlt' hne => ?_, fun htail i hi => ?_⟩
  · dsimp only [PciDevice.configStoreLe]; omega
  · dsimp only [PciDevice.configStoreLe]; omega
  · dsimp only [PciDevice.configStoreLe, pciCapabilityEnd]; omega
  · simp only [pciCapabilityStart] at hx hlink
    dsimp only [PciDevice.configStoreLe]
    rw [Store.write_out _ (by rw [length_storeLe]; omega),
      Store.write_out _ (by rw [List.length_singleton]; omega), Store.write_out _ (by omega),
      Store.write_out _ (by rw [List.length_singleton]; omega),
      Store.write_out _ (by rw [List.length_replicate]; omega)]
  · simp only [pciCapabilityStart] at hlink
    dsimp only [PciDevice.configStoreLe]
    rw [Store.write_out _ (by rw [length_storeLe]; omega),
      Store.write_out _ (by rw [List.length_singleton]; omega),
      Store.write_in _ (by omega) (by omega), Nat.add_sub_cancel_left]

theorem CapabilityAdded.layout {data : List UInt8} {offset : Nat}
    (h : CapabilityAdded dev dev' data offset) (hl : MsixLayout dev) : MsixLayout dev' := by
  have h1 := hl.cap_ge
  have h2 := hl.cap_le
  have h3 := h.next_gt
  refine ⟨?_, ?_, ?_⟩
  · rw [h.msix]; exact h1
  · rw [h.msix]; omega
  · rw [h.msix, h.tail_eq]; exact .inr h2

/-- A change of one function that does not touch the log. -/
theorem msixInv_updateDevice (h : MsixInv s) {dev : PciDevice}
    (hb : MsixBase s.log d dev) (hf : FlagsMatch dev) :
    MsixInv (s.updateDevice d fun _ => dev) where
  base d' := by
    by_cases hd : d' = d
    · subst hd; rw [updateDevice_devices, Function.update_self]; exact hb
    · rw [updateDevice_devices, Function.update_of_ne hd]; exact h.base d'
  flags d' := by
    by_cases hd : d' = d
    · subst hd; rw [updateDevice_devices, Function.update_self]; exact hf
    · rw [updateDevice_devices, Function.update_of_ne hd]; exact h.flags d'
  proper := h.proper

theorem CapabilityAdded.base {log : List MsixEvent}
    {data : List UInt8} {offset : Nat} (h : CapabilityAdded dev dev' data offset)
    (hb : MsixBase log d dev) : MsixBase log d dev' := by
  have h1 := h.offset_ge
  have h2 := h.next_gt
  refine ⟨fun _ => ?_, fun hi => ?_, ?_, fun hc => ?_, ?_⟩
  · rw [h.tail_eq]; exact ⟨h2, h.next_le⟩
  · rw [h.initialised] at hi
    have := (hb.uninitialised hi).2
    omega
  · rw [h.msix]; exact hb.unconfigured
  · rw [h.msix] at hc
    exact h.layout (hb.layout hc)
  · rw [h.msix]; exact hb.pending

/-- The new capability lies behind the control register, and the link before it does not hit the
register. -/
theorem CapabilityAdded.flags {log : List MsixEvent}
    {data : List UInt8} {offset : Nat} (h : CapabilityAdded dev dev' data offset)
    (hb : MsixBase log d dev) (hf : FlagsMatch dev) : FlagsMatch dev' := by
  refine hf.of_eq (by rw [h.msix]) (by rw [h.msix]) (by rw [h.msix]) fun hc => ?_
  have hl := hb.layout hc
  have h1 := hl.cap_ge
  have h2 := hl.cap_le
  have h3 := hl.tail
  exact msixControl_congr (by rw [h.msix]) fun x hx hx' =>
    h.old x (by omega) (by omega) (by omega)

/-- What a successful `vart_pci_device_init_msix` does. -/
theorem pciDeviceInitMsix_ok {vectorCount tableBar tableOffset pbaBar pbaOffset : Nat}
    (h : pciDeviceInitMsix dev vectorCount tableBar tableOffset pbaBar pbaOffset = .ok dev') :
    dev.msix.configured = false ∧ ∃ dev₁ msix, CapabilityAdded dev dev₁
      (storeLe 2 ((vectorCount - 1) &&& 0x07ff) ++ storeLe 4 (tableOffset ||| tableBar) ++
        storeLe 4 (pbaOffset ||| pbaBar)) msix.capabilityOffset ∧
      dev' = { dev₁ with msix } ∧ msix.configured = true ∧ msix.enabled = dev.msix.enabled ∧
      msix.functionMask = dev.msix.functionMask ∧ msix.pba = fun _ => 0 := by
  unfold pciDeviceInitMsix at h
  split at h
  · cases h
  split at h
  · cases h
  split at h
  · cases h
  rename_i hconf
  simp only at h
  split at h
  · cases h
  · rename_i dev₁ offset hadd
    cases h
    have hadd := pciDeviceAddCapability_ok hadd
    exact ⟨by simpa using hconf, dev₁, _, hadd, rfl, rfl, by rw [hadd.msix], by rw [hadd.msix], rfl⟩

/-- The first word of the body of a capability. -/
theorem CapabilityAdded.read_body {v : Nat} {rest : List UInt8} {offset : Nat}
    (h : CapabilityAdded dev dev' (storeLe 2 v ++ rest) offset)
    (htail : dev.capabilityTail + 1 < dev.capabilityNext) :
    dev'.configLoad (dev.capabilityNext + 2) 2 = v % 256 ^ 2 := by
  have hbytes : dev'.configSpace.read (dev.capabilityNext + 2) 2 = storeLe 2 v := by
    have hlength : 2 ≤ (storeLe 2 v ++ rest).length := by
      rw [List.length_append, length_storeLe]
      omega
    have h0 := h.body htail 0 (by omega)
    have h1 := h.body htail 1 (by omega)
    simp only [storeLe, List.cons_append, List.getD_cons_zero, List.getD_cons_succ] at h0 h1
    simp [Store.read, List.range_succ, storeLe, h0, h1]
  rw [PciDevice.configLoad, hbytes, loadLe_storeLe]

/-- A control register whose upper half is small has both bits clear. -/
theorem msixControl_small {dev : PciDevice} (h : dev.msixControl < 0x4000) :
    dev.msixControlEnabled = false ∧ dev.msixControlMasked = false := by
  have h15 : dev.msixControl &&& 2 ^ 15 = 0 :=
    (and_two_pow_eq_zero_iff _ _).mpr (Nat.testBit_eq_false_of_lt (by omega))
  have h14 : dev.msixControl &&& 2 ^ 14 = 0 :=
    (and_two_pow_eq_zero_iff _ _).mpr (Nat.testBit_eq_false_of_lt (by omega))
  unfold PciDevice.msixControlEnabled PciDevice.msixControlMasked
  exact ⟨by simpa using h15, by simpa using h14⟩

theorem msixInv_pciDeviceInitMsix (h : MsixInv s) {dev : PciDevice}
    {vectorCount tableBar tableOffset pbaBar pbaOffset : Nat}
    (hdev : pciDeviceInitMsix (s.devices d) vectorCount tableBar tableOffset pbaBar pbaOffset =
      .ok dev) : MsixInv (s.updateDevice d fun _ => dev) := by
  obtain ⟨hconf, dev₁, msix, hadd, rfl, -, hen', hfm', hpba⟩ := pciDeviceInitMsix_ok hdev
  obtain ⟨hen, hfm, hnone⟩ := (h.base d).unconfigured hconf
  have hge := hadd.offset_ge
  have hnext := hadd.next_ge
  have htail := ((h.base d).next hge).1
  have hb := hadd.base (h.base d)
  simp only [List.length_append, length_storeLe] at hnext
  refine msixInv_updateDevice h ⟨hb.next, fun hi => ?_, fun _ => ?_, fun _ => ?_, fun _ v _ => ?_⟩
    fun _ => ?_
  · have := ((h.base d).uninitialised (hadd.initialised.symm.trans hi)).2
    omega
  · exact ⟨hen'.trans hen, hfm'.trans hfm, hnone⟩
  · refine ⟨by rw [hadd.offset_eq]; exact hge, by rw [hadd.offset_eq]; dsimp only; omega, .inl ?_⟩
    rw [hadd.offset_eq]
    exact hadd.tail_eq
  · rw [PciMsix.pending_of_pba_zero (by rw [hpba]), hnone]
  · -- The control register holds the vector count only.
    have hctl : ({ dev₁ with msix } : PciDevice).msixControl < 0x4000 := by
      have hread := CapabilityAdded.read_body (List.append_assoc .. ▸ hadd) (by omega)
      have hle : (vectorCount - 1) &&& 0x07ff ≤ 0x07ff := and_mask_le ..
      unfold PciDevice.msixControl
      dsimp only
      rw [hadd.offset_eq]
      exact lt_of_eq_of_lt hread (by omega)
    obtain ⟨h1, h2⟩ := msixControl_small hctl
    rw [h1, h2]
    exact ⟨hen'.trans hen, hfm'.trans hfm⟩

/-! ## Events -/

/-- A step that records one event of function `d` and changes no other function. -/
theorem msixInv_event {s t : PciState} (h : MsixInv s) {e : MsixEvent} (hlog : t.log = e :: s.log)
    (hproper : e.Proper)
    (hother : ∀ d, d ≠ e.device → (t.devices d).msixView = (s.devices d).msixView)
    (hb : MsixBase (e :: s.log) e.device (t.devices e.device))
    (hf : FlagsMatch (t.devices e.device)) : MsixInv t where
  base d := by
    rw [hlog]
    by_cases hd : d = e.device
    · rw [hd]; exact hb
    · have hold := (h.base d).congr (stateView_of_msixView (hother d hd))
      have hpend := fun v => pendingIn_cons_of_ne (Ne.symm hd) s.log v
      refine ⟨hold.next, hold.uninitialised, fun hc => ?_, hold.layout, fun hc v hv => ?_⟩
      · obtain ⟨h1, h2, h3⟩ := hold.unconfigured hc
        exact ⟨h1, h2, fun v => (hpend v).trans (h3 v)⟩
      · rw [hpend]; exact hold.pending hc v hv
  flags d := by
    by_cases hd : d = e.device
    · rw [hd]; exact hf
    · exact (h.flags d).congr (h.base d) (hother d hd)
  proper e' he' := by
    rw [hlog] at he'
    rcases List.mem_cons.mp he' with rfl | hmem
    · exact hproper
    · exact h.proper e' hmem

/-- Other pending bits and a longer log. -/
theorem MsixBase.setPba {log log' : List MsixEvent} {dev : PciDevice} {pba : Store}
    (h : MsixBase log d dev) (hc : dev.msix.configured = true)
    (hp : ∀ v, v < dev.msix.vectorCount →
      ({ dev.msix with pba } : PciMsix).pending v = pendingIn log' d v) :
    MsixBase log' d { dev with msix := { dev.msix with pba } } :=
  ⟨h.next, h.uninitialised, fun hc' => absurd (hc.symm.trans hc') (by decide),
    fun _ => ⟨(h.layout hc).cap_ge, (h.layout hc).cap_le, (h.layout hc).tail⟩, fun _ => hp⟩

theorem msixInv_pciMsixDeliver (sink : Sink) (h : MsixInv s) {d v : Nat}
    (hc : (s.devices d).msix.configured = true) (hp : (s.devices d).msix.pending v = true) :
    MsixInv (pciMsixDeliver sink s d v).1 := by
  -- The guest's view of the vector at a call of the sink.
  have hproper : ∀ ok, (s.devices d).msix.deliverable v = true →
      (MsixEvent.attempted d v ((s.devices d).msix.pending v) (s.devices d).msixControlEnabled
        (s.devices d).msixControlMasked ((s.devices d).msix.masked v) ok).Proper := by
    intro ok hd
    obtain ⟨hen, hfm⟩ := h.flags d hc
    simp only [PciMsix.deliverable, Bool.and_eq_true, Bool.not_eq_true'] at hd
    exact ⟨hp, hen ▸ hd.1.1, hfm ▸ hd.1.2, hd.2⟩
  have hbase := h.base d
  rcases pciMsixDeliver_outcome sink s d v with ⟨-, ht⟩ | ⟨hd, irq, e, ht⟩ | ⟨hd, irq, ht⟩ <;> rw [ht]
  · exact h
  · refine msixInv_event h rfl (hproper false hd) (fun _ _ => rfl) ?_ (h.flags d)
    refine hbase.setPba hc fun w hw => (hbase.pending hc w hw).trans ?_
    simp [pendingIn, Status.isOk]
  · refine msixInv_event h rfl (hproper true hd) (fun d' hd' => ?_) ?_ ?_
    · exact congrArg PciDevice.msixView (Function.update_of_ne hd' _ _)
    · simp only [MsixEvent.device, PciState.updateMsix, updateDevice_devices, Function.update_self]
      refine hbase.setPba hc fun w hw => ?_
      refine ((s.devices d).msix.pending_clearPending v w).trans ?_
      rw [hbase.pending hc w hw]
      by_cases hvw : v = w <;> simp [pendingIn, Status.isOk, hvw]
    · simp only [MsixEvent.device, PciState.updateMsix, updateDevice_devices, Function.update_self]
      exact h.flags d

theorem msixInv_pciMsixFlushVectors (sink : Sink) (h : MsixInv s)
    (hc : (s.devices d).msix.configured = true) (vs : List Nat) :
    MsixInv (pciMsixFlushVectors sink s d vs) := by
  induction vs generalizing s with
  | nil => exact h
  | cons v vs ih =>
    unfold pciMsixFlushVectors
    split
    · rename_i hp
      have hm := congrArg PciDevice.msix ((deliverSame_pciMsixDeliver sink s d v).device d)
      exact ih (msixInv_pciMsixDeliver sink h hc hp) ((congrArg PciMsix.configured hm :).trans hc)
    · exact ih h hc

theorem msixInv_pciMsixFlushPending (sink : Sink) (h : MsixInv s) (d : Nat) :
    MsixInv (pciMsixFlushPending sink s d) := by
  unfold pciMsixFlushPending
  simp only
  split
  · exact h
  · rename_i hon
    simp only [Bool.or_eq_true, Bool.not_eq_true', not_or, Bool.not_eq_false] at hon
    exact msixInv_pciMsixFlushVectors sink h hon.1.1 _

theorem msixInv_pciMsixTableWrite (sink : Sink) (h : MsixInv s)
    (d offset size value : Nat) : MsixInv (pciMsixTableWrite sink s d offset size value).1 := by
  unfold pciMsixTableWrite
  simp only
  split
  · exact h
  · refine msixInv_pciMsixFlushPending sink ?_ d
    exact msixInv_updateDevice h ((h.base d).congr rfl) (h.flags d)

theorem msixInv_pciDeviceRaiseMsix (sink : Sink) (h : MsixInv s) (d v : Nat) :
    MsixInv (pciDeviceRaiseMsix sink s d v).1 := by
  unfold pciDeviceRaiseMsix
  simp only
  split
  · exact h
  rename_i hvalid
  simp only [Bool.or_eq_true, Bool.not_eq_true', not_or, Bool.not_eq_false] at hvalid
  have hc := hvalid.1
  have hbase := h.base d
  have hraised : MsixInv
      (({ s with log := .raised d v :: s.log } : PciState).updateMsix d (·.setPending v)) := by
    refine msixInv_event h rfl trivial (fun d' hd' => ?_) ?_ ?_
    · exact congrArg PciDevice.msixView (Function.update_of_ne hd' _ _)
    · simp only [MsixEvent.device, PciState.updateMsix, updateDevice_devices, Function.update_self]
      refine hbase.setPba hc fun w hw => ?_
      refine ((s.devices d).msix.pending_setPending v w).trans ?_
      rw [hbase.pending hc w hw]
      by_cases hvw : v = w <;> simp [pendingIn, hvw]
    · simp only [MsixEvent.device, PciState.updateMsix, updateDevice_devices, Function.update_self]
      exact h.flags d
  split
  · exact hraised
  · refine msixInv_pciMsixDeliver sink hraised ?_ ?_
    · simpa [PciState.updateMsix, PciMsix.setPending] using hc
    · simp only [PciState.updateMsix, updateDevice_devices, Function.update_self]
      rw [PciMsix.pending_setPending]
      simp

theorem msixInv_control (sink : Sink) {s u : PciState} (h : MsixInv s)
    (hu : ControlWritten d s u) : MsixInv (pciMsixUpdateControl sink u d) := by
  have hother : ∀ d', d' ≠ d → MsixBase u.log d' (u.devices d') ∧ FlagsMatch (u.devices d') := by
    intro d' hd'
    rw [hu.log]
    exact ⟨(h.base d').congr (stateView_of_msixView (hu.other d' hd')),
      (h.flags d').congr (h.base d') (hu.other d' hd')⟩
  have hself : MsixBase u.log d (u.devices d) := by
    rw [hu.log]
    exact (h.base d).congr hu.self
  have hproper : ∀ e ∈ u.log, e.Proper := by rw [hu.log]; exact h.proper
  unfold pciMsixUpdateControl
  simp only
  split
  · rename_i hc
    refine ⟨fun d' => ?_, fun d' => ?_, hproper⟩
    · by_cases hd : d' = d
      · rw [hd]; exact hself
      · exact (hother d' hd).1
    · by_cases hd : d' = d
      · rw [hd]
        intro hconf
        simp [hconf] at hc
      · exact (hother d' hd).2
  · rename_i hc
    simp only [Bool.not_eq_true', Bool.not_eq_false] at hc
    apply msixInv_pciMsixFlushPending
    refine ⟨fun d' => ?_, fun d' => ?_, hproper⟩
    · by_cases hd : d' = d
      · subst hd
        simp only [PciState.updateMsix, updateDevice_devices, Function.update_self]
        exact ⟨hself.next, hself.uninitialised, fun hc' => absurd (hc.symm.trans hc') (by decide),
          fun hc => ⟨(hself.layout hc).cap_ge, (hself.layout hc).cap_le, (hself.layout hc).tail⟩,
          hself.pending⟩
      · simp only [PciState.updateMsix, updateDevice_devices, Function.update_of_ne hd]
        exact (hother d' hd).1
    · by_cases hd : d' = d
      · subst hd
        simp only [PciState.updateMsix, updateDevice_devices, Function.update_self]
        exact fun _ => ⟨rfl, rfl⟩
      · simp only [PciState.updateMsix, updateDevice_devices, Function.update_of_ne hd]
        exact (hother d' hd).2

theorem msixKeep_reset (sink : Sink) (s : PciState) (d : Nat) :
    MsixKeep (fun _ => False) s (pciIntxDeassert sink (pciDeviceDisableMemory s d) d) :=
  (MsixKeep.of_mapSame (mapStep_pciDeviceDisableMemory s d).same).trans
    (msixKeep_pciIntxDeassert _ sink _ d)

theorem msixInv_pciDeviceResetInternal (sink : Sink) (h : MsixInv s) (d : Nat) :
    MsixInv (pciDeviceResetInternal sink s d) := by
  have hinv := msixInv_keep h ((msixKeep_reset sink s d).mono fun _ hf => hf.elim)
  unfold pciDeviceResetInternal
  simp only
  generalize pciIntxDeassert sink (pciDeviceDisableMemory s d) d = u at hinv
  have hb := hinv.base d
  have hnone : ∀ v, pendingIn (.reset d :: u.log) d v = false := fun v => by simp [pendingIn]
  refine msixInv_event hinv rfl trivial (fun d' hd' => ?_) ?_ ?_
  · exact congrArg PciDevice.msixView (Function.update_of_ne hd' _ _)
  · simp only [MsixEvent.device, updateDevice_devices, Function.update_self]
    split
    · rename_i hc
      refine ⟨hb.next, hb.uninitialised, fun _ => ⟨rfl, rfl, hnone⟩,
        fun hc => ⟨(hb.layout hc).cap_ge, (hb.layout hc).cap_le, (hb.layout hc).tail⟩,
        fun _ v hv => ?_⟩
      rw [hnone]
      refine PciMsix.pending_of_pba_zero ?_
      dsimp only at hv ⊢
      rw [Store.write_in _ (Nat.zero_le _) (by
        rw [List.length_replicate, PciMsix.pbaSize]; omega)]
      simp
    · rename_i hc
      exact ⟨hb.next, hb.uninitialised,
        fun hc => ⟨(hb.unconfigured hc).1, (hb.unconfigured hc).2.1, hnone⟩,
        fun hc' => absurd hc' hc, fun hc' => absurd hc' hc⟩
  · simp only [MsixEvent.device, updateDevice_devices, Function.update_self]
    split
    · intro _
      refine And.imp Eq.symm Eq.symm (msixControl_small ?_)
      unfold PciDevice.msixControl PciDevice.configLoad
      dsimp only
      rw [show ((_ : Store).write _ [0, 0]).read _ 2 = [0, 0] from Store.read_write_same ..]
      decide
    · rename_i hc
      exact fun hc' => absurd hc' hc

/-! ## Whole runs -/

theorem msixInv_pciStep (sink : Sink) {op : PciOp} (h : MsixInv s)
    (hv : op.Valid s) : MsixInv (pciStep sink s op) := by
  rcases pciStep_msix sink hv with hk | ⟨hadd, ht⟩ | ⟨hinit, ht⟩ | ht | ⟨-, ht⟩ | ⟨-, ht⟩ | ⟨-, hu, ht⟩
  · exact msixInv_keep h hk
  · rw [ht]
    have hadd := pciDeviceAddCapability_ok hadd
    exact msixInv_updateDevice h (hadd.base (h.base _)) (hadd.flags (h.base _) (h.flags _))
  · rw [ht]; exact msixInv_pciDeviceInitMsix h hinit
  · rw [ht]; exact msixInv_pciDeviceResetInternal sink h _
  · rw [ht]; exact msixInv_pciMsixTableWrite sink h ..
  · rw [ht]; exact msixInv_pciDeviceRaiseMsix sink h ..
  · rw [ht]; exact msixInv_control sink h hu

theorem PciState.msixInv {allowed : PciState → PciOp → Prop}
    (hvalid : ∀ s op, allowed s op → op.Valid s)
    (h : Reach (pciStep sink) PciState.Initial allowed s) : MsixInv s := by
  refine h.invariant ?_ fun s op hs ha => msixInv_pciStep sink hs (hvalid s op ha)
  rintro s ⟨memory, -, rfl⟩
  exact msixInv_init memory

/-! ## A sink that does not fail -/

/-- No vector of the function is pending although it may send a message. -/
def Settled (s : PciState) (d : Nat) : Prop :=
  ∀ v, v < (s.devices d).msix.vectorCount → (s.devices d).msix.pending v = true →
    (s.devices d).msix.deliverable v = false

/-- Every vector of the function has a sink. -/
def MsixConnected (s : PciState) (d : Nat) : Prop :=
  ∀ v, v < (s.devices d).msix.vectorCount → (s.devices d).msix.connected v = true

/-- A vector that is pending in `s` and may send a message in `t` sent one message in between. -/
def SentOnce (s t : PciState) (d : Nat) : Prop :=
  ∀ v, v < (s.devices d).msix.vectorCount → (s.devices d).msix.pending v = true →
    (t.devices d).msix.deliverable v = true →
    deliveries t.log d v = deliveries s.log d v + 1

/-- No vector may send a message. -/
theorem settled_of_disabled {s t : PciState} (h : (t.devices d).msix.enabled = false) :
    Settled t d ∧ SentOnce s t d := by
  have hd : ∀ v, (t.devices d).msix.deliverable v = false := fun v => by
    simp [PciMsix.deliverable, h]
  exact ⟨fun v _ _ => hd v, fun v _ _ hv => by rw [hd v] at hv; cases hv⟩

/-- Nothing happened to the vectors of the function. -/
theorem settled_of_same {s t : PciState} (h : Settled s d)
    (hn : (t.devices d).msix.vectorCount = (s.devices d).msix.vectorCount)
    (hp : (t.devices d).msix.pending = (s.devices d).msix.pending)
    (hd : (t.devices d).msix.deliverable = (s.devices d).msix.deliverable) :
    Settled t d ∧ SentOnce s t d := by
  refine ⟨fun v hv hpv => ?_, fun v hv hpv hdv => ?_⟩
  · rw [hd]; exact h v (hn ▸ hv) (hp ▸ hpv)
  · rw [hd, h v hv hpv] at hdv; cases hdv

theorem settled_of_msixView {s t : PciState} (h : Settled s d)
    (hv : (t.devices d).msixView = (s.devices d).msixView) : Settled t d ∧ SentOnce s t d := by
  have hm := congrArg PciDevice.msix hv
  refine settled_of_same h (congrArg PciMsix.vectorCount hm :) ?_ ?_
  · exact (congrArg PciMsix.pending hm :)
  · exact (congrArg PciMsix.deliverable hm :)

theorem settled_pciMsixFlushPending
    (hun : (s.devices d).msix.configured = false → (s.devices d).msix.enabled = false)
    (hconn : MsixConnected s d) (hok : NeverFailed (pciMsixFlushPending sink s d).log d) :
    Settled (pciMsixFlushPending sink s d) d ∧ SentOnce s (pciMsixFlushPending sink s d) d := by
  have hsame := deliverSame_pciMsixFlushPending sink s d
  have hm := congrArg PciDevice.msix (hsame.device d)
  have hn : ((pciMsixFlushPending sink s d).devices d).msix.vectorCount =
      (s.devices d).msix.vectorCount := (congrArg PciMsix.vectorCount hm :)
  by_cases hon : (s.devices d).msix.configured = true ∧ (s.devices d).msix.enabled = true ∧
      (s.devices d).msix.functionMask = false
  · have hflush : pciMsixFlushPending sink s d =
        pciMsixFlushVectors sink s d (List.range (s.devices d).msix.vectorCount) := by
      simp [pciMsixFlushPending, hon]
    have hspec := pciMsixFlushVectors_spec List.nodup_range
      (fun v hv => hconn v (List.mem_range.mp hv)) (hflush ▸ hok)
    rw [← hflush] at hspec
    refine ⟨fun v hv hp => ?_, fun v hv hp hd => ?_⟩
    · rw [hsame.deliverable]
      rw [hn] at hv
      rw [hspec.1 v] at hp
      simpa [hv] using (Bool.and_eq_true_iff.mp hp).2
    · rw [hsame.deliverable] at hd
      rw [hspec.2 v, if_pos ⟨List.mem_range.mpr hv, hp, hd⟩]
  · have hd : ∀ v, (s.devices d).msix.deliverable v = false := by
      intro v
      unfold PciMsix.deliverable
      cases hc : (s.devices d).msix.configured
      · rw [hun hc]; rfl
      · cases he : (s.devices d).msix.enabled
        · rfl
        · cases hf : (s.devices d).msix.functionMask
          · exact absurd ⟨hc, he, hf⟩ hon
          · rfl
    refine ⟨fun v _ _ => by rw [hsame.deliverable, hd], fun v _ _ hv => ?_⟩
    rw [hsame.deliverable, hd] at hv
    cases hv

/-- The function is the target of the call or not. -/
theorem settled_pciMsixTableWrite {d d' : Nat} (hinv : MsixInv s)
    (h : Settled s d) (hconn : MsixConnected s d) {offset size value : Nat}
    (hok : NeverFailed (pciMsixTableWrite sink s d' offset size value).1.log d) :
    Settled (pciMsixTableWrite sink s d' offset size value).1 d ∧
      SentOnce s (pciMsixTableWrite sink s d' offset size value).1 d := by
  unfold pciMsixTableWrite at hok ⊢
  simp only at hok ⊢
  split
  · exact settled_of_same h rfl rfl rfl
  rename_i hfit
  rw [if_neg hfit] at hok
  dsimp only at hok ⊢
  generalize hu : (s.updateMsix d' fun msix =>
    { msix with table := msix.table.write offset (storeLe size value) }) = u at hok ⊢
  by_cases hd : d = d'
  · subst hd
    have hdev : u.devices d = { s.devices d with msix := { (s.devices d).msix with
        table := (s.devices d).msix.table.write offset (storeLe size value) } } := by
      rw [← hu]; exact Function.update_self ..
    have hm := congrArg PciDevice.msix hdev
    have hflush := settled_pciMsixFlushPending (s := u)
      (by rw [hm]; exact fun hc => ((hinv.base d).unconfigured hc).1)
      (by unfold MsixConnected; rw [hm]; exact hconn) hok
    refine ⟨hflush.1, fun v hv hp hdv => ?_⟩
    have hlog : u.log = s.log := by rw [← hu]; rfl
    rw [← hlog]
    exact hflush.2 v (by rw [hm]; exact hv) (by rw [hm]; exact hp) hdv
  · obtain ⟨hdev, -⟩ := pciMsixFlushPending_other sink u hd
    refine settled_of_msixView h ?_
    rw [hdev, ← hu]
    exact congrArg PciDevice.msixView (Function.update_of_ne hd _ _)

theorem settled_control {s u : PciState} {d d' : Nat} (hinv : MsixInv s)
    (h : Settled s d) (hconn : MsixConnected s d) (hu : ControlWritten d' s u)
    (hok : NeverFailed (pciMsixUpdateControl sink u d').log d) :
    Settled (pciMsixUpdateControl sink u d') d ∧ SentOnce s (pciMsixUpdateControl sink u d') d := by
  have hafter := msixInv_control sink hinv hu
  unfold pciMsixUpdateControl at hok hafter ⊢
  simp only at hok hafter ⊢
  split
  · rename_i hc
    rw [if_pos hc] at hafter
    by_cases hd : d = d'
    · subst hd
      exact settled_of_disabled ((hafter.base d).unconfigured (by simpa using hc)).1
    · exact settled_of_msixView h (hu.other d hd)
  rename_i hc
  rw [if_neg hc] at hok
  simp only [Bool.not_eq_true', Bool.not_eq_false] at hc
  generalize ht : (u.updateMsix d' fun msix => { msix with
    enabled := (u.devices d').msixControlEnabled
    functionMask := (u.devices d').msixControlMasked }) = t at hok ⊢
  have hlog : t.log = s.log := by rw [← ht]; exact hu.log
  by_cases hd : d = d'
  · subst hd
    have hm : (t.devices d).msix = { (u.devices d).msix with
        enabled := (u.devices d).msixControlEnabled
        functionMask := (u.devices d).msixControlMasked } := by
      rw [← ht]; simp only [PciState.updateMsix, updateDevice_devices, Function.update_self]
    have hself := congrArg PciDevice.msix hu.self
    have hn : (u.devices d).msix.vectorCount = (s.devices d).msix.vectorCount :=
      (congrArg PciMsix.vectorCount hself :)
    have hpend : (u.devices d).msix.pending = (s.devices d).msix.pending :=
      (congrArg PciMsix.pending hself :)
    have hflush := settled_pciMsixFlushPending (s := t)
      (by rw [hm]; exact fun hc' => absurd (hc.symm.trans hc') (by decide))
      (by
        intro v hv
        rw [hm] at hv ⊢
        exact (congrFun hu.connected v).trans (hconn v (hn ▸ hv)))
      hok
    refine ⟨hflush.1, fun v hv hp hdv => ?_⟩
    rw [← hlog]
    exact hflush.2 v (by rw [hm]; exact hn ▸ hv) (by rw [hm]; exact (congrFun hpend v).trans hp) hdv
  · obtain ⟨hdev, -⟩ := pciMsixFlushPending_other sink t hd
    refine settled_of_msixView h ?_
    rw [hdev, ← ht]
    exact (congrArg PciDevice.msixView (Function.update_of_ne hd _ _)).trans (hu.other d hd)

theorem settled_pciDeviceRaiseMsix {d d' v : Nat} (h : Settled s d)
    (hconn : MsixConnected s d) (hok : NeverFailed (pciDeviceRaiseMsix sink s d' v).1.log d) :
    Settled (pciDeviceRaiseMsix sink s d' v).1 d ∧ SentOnce s (pciDeviceRaiseMsix sink s d' v).1 d ∧
      (d' = d → (s.devices d).msix.configured = true → v < (s.devices d).msix.vectorCount →
        ((pciDeviceRaiseMsix sink s d' v).1.devices d).msix.deliverable v = true →
        deliveries (pciDeviceRaiseMsix sink s d' v).1.log d v = deliveries s.log d v + 1) := by
  unfold pciDeviceRaiseMsix at hok ⊢
  simp only at hok ⊢
  split
  · rename_i hbad
    refine ⟨h, (settled_of_same h rfl rfl rfl).2, fun hd hc hv => ?_⟩
    subst hd
    simp only [hc, Bool.not_true, Bool.false_or, decide_eq_true_eq] at hbad
    omega
  rename_i hvalid
  rw [if_neg hvalid] at hok
  generalize hu : (({ s with log := .raised d' v :: s.log } : PciState).updateMsix d'
    (·.setPending v)) = u at hok ⊢
  by_cases hd : d = d'
  · subst hd
    have hm : (u.devices d).msix = (s.devices d).msix.setPending v := by
      rw [← hu]; simp only [PciState.updateMsix, updateDevice_devices, Function.update_self]
    have hpend : ∀ w, (u.devices d).msix.pending w = ((s.devices d).msix.pending w || decide (v = w)) :=
      fun w => by rw [hm, PciMsix.pending_setPending]
    have hdel : (u.devices d).msix.deliverable = (s.devices d).msix.deliverable := by rw [hm]; rfl
    have hn : (u.devices d).msix.vectorCount = (s.devices d).msix.vectorCount := by rw [hm]; rfl
    have hlog : ∀ w, deliveries u.log d w = deliveries s.log d w := by
      intro w
      rw [← hu]
      exact List.countP_cons_of_neg (by simp [MsixEvent.delivers])
    -- A vector that was pending before may not send a message.
    have hsent : ∀ t : PciState, (t.devices d).msix.deliverable = (s.devices d).msix.deliverable →
        SentOnce s t d := by
      intro t ht w hw hp hdw
      rw [ht, h w hw hp] at hdw
      cases hdw
    by_cases hdv : (s.devices d).msix.deliverable v = true
    · have hon : ¬ (!(s.devices d).msix.enabled || (s.devices d).msix.functionMask ||
          (s.devices d).msix.masked v) = true := by
        simp only [PciMsix.deliverable, Bool.and_eq_true, Bool.not_eq_true'] at hdv
        simp [hdv]
      rw [if_neg hon] at hok ⊢
      have hsame := deliverSame_pciMsixDeliver sink u d v
      have hdel' : ((pciMsixDeliver sink u d v).1.devices d).msix.deliverable =
          (s.devices d).msix.deliverable := (funext (hsame.deliverable d)).trans hdel
      have hn' : ((pciMsixDeliver sink u d v).1.devices d).msix.vectorCount =
          (s.devices d).msix.vectorCount :=
        (congrArg PciMsix.vectorCount (congrArg PciDevice.msix (hsame.device d)) :).trans hn
      rcases pciMsixDeliver_outcome sink u d v with ⟨hidle, ht⟩ | ⟨-, irq, e, ht⟩ | ⟨-, irq, ht⟩
      · rcases hidle with hidle | hidle
        · rw [hdel, hdv] at hidle; cases hidle
        · have hc : (u.devices d).msix.connected v = (s.devices d).msix.connected v := by
            rw [hm]; rfl
          simp only [Bool.or_eq_true, Bool.not_eq_true', decide_eq_true_eq, not_or,
            Nat.not_le] at hvalid
          rw [hc, hconn v hvalid.2] at hidle
          cases hidle
      · -- The failed call is in the log.
        have hfail := hok (.attempted d v _ _ _ _ false) (by rw [ht]; exact List.mem_cons_self)
        simp [MsixEvent.failed] at hfail
      · refine ⟨fun w hw hp => ?_, hsent _ hdel', fun _ _ _ _ => ?_⟩
        · rw [hdel']
          rw [hn'] at hw
          refine h w hw ?_
          rw [ht] at hp
          simp only [PciState.updateMsix, PciState.sinkCalled, updateDevice_devices,
            Function.update_self, PciMsix.pending_clearPending, hpend] at hp
          simp only [Bool.and_eq_true, Bool.or_eq_true, decide_eq_true_eq] at hp
          exact hp.1.resolve_right hp.2
        · rw [ht, ← hlog v]
          simp [deliveries, PciState.updateMsix, PciState.sinkCalled, MsixEvent.delivers, Status.isOk]
    · have hoff : (!(s.devices d).msix.enabled || (s.devices d).msix.functionMask ||
          (s.devices d).msix.masked v) = true := by
        simp only [PciMsix.deliverable, Bool.and_eq_true, Bool.not_eq_true'] at hdv
        cases he : (s.devices d).msix.enabled <;> cases hf : (s.devices d).msix.functionMask <;>
          simp_all
      rw [if_pos hoff]
      refine ⟨fun w hw hp => ?_, hsent _ hdel, fun _ _ _ hdv' => ?_⟩
      · rw [hdel]
        rw [hn] at hw
        rw [hpend w, Bool.or_eq_true, decide_eq_true_eq] at hp
        rcases hp with hp | rfl
        · exact h w hw hp
        · simpa using hdv
      · exact absurd (hdel ▸ hdv') hdv
  · have hdev : u.devices d = s.devices d := by rw [← hu]; exact Function.update_of_ne hd _ _
    have hother : ∀ t : PciState, t.devices d = u.devices d → Settled t d ∧ SentOnce s t d ∧
        (d' = d → (s.devices d).msix.configured = true → v < (s.devices d).msix.vectorCount →
          (t.devices d).msix.deliverable v = true →
          deliveries t.log d v = deliveries s.log d v + 1) := by
      intro t ht
      obtain ⟨h1, h2⟩ := settled_of_msixView h (congrArg PciDevice.msixView (ht.trans hdev))
      exact ⟨h1, h2, fun hd' => absurd hd'.symm hd⟩
    split
    · exact hother u rfl
    · exact hother _ (pciMsixDeliver_other sink u hd v).1

theorem settled_pciDeviceResetInternal (sink : Sink) {d d' : Nat} (hinv : MsixInv s)
    (h : Settled s d) : Settled (pciDeviceResetInternal sink s d') d ∧
      SentOnce s (pciDeviceResetInternal sink s d') d := by
  have hkeep := msixKeep_reset sink s d'
  have hview := (hkeep.view d).resolve_right fun hf => hf.1
  have hb := (msixInv_keep hinv (hkeep.mono fun _ hf => hf.elim)).base d
  unfold pciDeviceResetInternal
  simp only
  generalize pciIntxDeassert sink (pciDeviceDisableMemory s d') d' = u at hview hb
  by_cases hd : d = d'
  · subst hd
    refine settled_of_disabled ?_
    simp only [updateDevice_devices, Function.update_self]
    split
    · rfl
    · rename_i hc
      exact (hb.unconfigured (by simpa using hc)).1
  · refine settled_of_msixView h (Eq.trans ?_ hview)
    exact congrArg PciDevice.msixView (Function.update_of_ne hd _ _)

/-- A call through a sink that does not fail leaves no vector pending that may send a message, and
a vector that was pending before sent exactly one. -/
theorem settled_pciStep {op : PciOp} (hinv : MsixInv s)
    (hv : op.Valid s) (h : Settled s d) (hconn : op.sendsMsix = true → MsixConnected s d)
    (hok : NeverFailed (pciStep sink s op).log d) :
    Settled (pciStep sink s op) d ∧ SentOnce s (pciStep sink s op) d := by
  rcases pciStep_msix sink hv with hk | @⟨d', _, _, dev, _, hadd, ht⟩ |
    @⟨d', _, _, _, _, _, dev, hinit, ht⟩ | @⟨d', ht⟩ | ⟨hop, ht⟩ | ⟨hop, ht⟩ | ⟨hop, hu, ht⟩
  · rcases hk.view d with hview | ⟨-, hview⟩
    · exact settled_of_msixView h hview
    · exact settled_of_disabled (congrArg (·.msix.enabled) hview :)
  · rw [ht]
    have hm : ((s.updateDevice d' fun _ => dev).devices d).msix = (s.devices d).msix := by
      by_cases hd : d = d'
      · subst hd
        rw [updateDevice_devices, Function.update_self]
        exact (pciDeviceAddCapability_ok hadd).msix
      · rw [updateDevice_devices, Function.update_of_ne hd]
    exact settled_of_same h (by rw [hm]) (by rw [hm]) (by rw [hm])
  · rw [ht]
    by_cases hd : d = d'
    · subst hd
      obtain ⟨hc, dev₁, msix, -, hdev, -, hen, -⟩ := pciDeviceInitMsix_ok hinit
      refine settled_of_disabled ?_
      rw [updateDevice_devices, Function.update_self, hdev]
      exact hen.trans ((hinv.base d).unconfigured hc).1
    · refine settled_of_msixView h ?_
      rw [updateDevice_devices, Function.update_of_ne hd]
  · rw [ht]; exact settled_pciDeviceResetInternal sink hinv h
  · rw [ht] at hok ⊢
    exact settled_pciMsixTableWrite hinv h (hconn hop) hok
  · rw [ht] at hok ⊢
    obtain ⟨h1, h2, -⟩ := settled_pciDeviceRaiseMsix h (hconn hop) hok
    exact ⟨h1, h2⟩
  · rw [ht] at hok ⊢
    exact settled_control hinv h (hconn hop) hu hok

/-- The log only grows. -/
theorem pciStep_log (sink : Sink) {op : PciOp} (hv : op.Valid s) :
    s.log <:+ (pciStep sink s op).log := by
  have hflush : ∀ (u : PciState) (d : Nat), u.log <:+ (pciMsixFlushPending sink u d).log := by
    intro u d
    unfold pciMsixFlushPending
    simp only
    split
    · exact List.suffix_refl _
    · exact pciMsixFlushVectors_log ..
  rcases pciStep_msix sink hv with hk | ⟨-, ht⟩ | ⟨-, ht⟩ | @⟨d, ht⟩ | @⟨d, offset, size, value, -, ht⟩ |
    @⟨d, v, -, ht⟩ | @⟨d, u, -, hu, ht⟩
  · simp only [hk.log, List.suffix_refl]
  · simp only [ht, updateDevice_log, List.suffix_refl]
  · simp only [ht, updateDevice_log, List.suffix_refl]
  · rw [ht, ← (msixKeep_reset sink s d).log]
    exact List.suffix_cons _ _
  · rw [ht]
    unfold pciMsixTableWrite
    simp only
    split
    · exact List.suffix_refl _
    · exact hflush (s.updateMsix d _) d
  · rw [ht]
    unfold pciDeviceRaiseMsix
    simp only
    split
    · exact List.suffix_refl _
    split
    · exact List.suffix_cons _ _
    · refine List.IsSuffix.trans ?_ (pciMsixDeliver_log ..)
      exact List.suffix_cons _ _
  · rw [ht, ← hu.log]
    unfold pciMsixUpdateControl
    simp only
    split
    · exact List.suffix_refl _
    · exact hflush (u.updateMsix d _) d

/-- The calls of a run in which every vector of function `d` has a sink whenever messages may be
sent. -/
def Connected (d : Nat) (s : PciState) (op : PciOp) : Prop :=
  op.Valid s ∧ (op.sendsMsix = true → MsixConnected s d)

theorem PciState.settled
    (h : Reach (pciStep sink) PciState.Initial (Connected d) s) (hok : NeverFailed s.log d) :
    Settled s d := by
  induction h with
  | start hi =>
    obtain ⟨memory, -, rfl⟩ := hi
    exact fun v hv => absurd hv (Nat.not_lt_zero v)
  | next hreach ha ih =>
    exact (settled_pciStep (PciState.msixInv (fun _ _ ha => ha.1) hreach) ha.1
      (ih (hok.of_suffix (pciStep_log sink ha.1))) ha.2 hok).1

/-- In every run, for every function: the pending bit of a vector is set exactly if the vector was
raised and no delivery or reset came after that; the sink is called only for a pending vector with
MSI-X on and nothing masked. If the sink does not fail, no vector is left pending that may send a
message, the call that makes a pending vector deliverable sends its message once, and so does a
raise of a deliverable vector. -/
theorem msix_no_loss_no_spurious {sink : Sink} {d : Nat} {s : PciState}
    (h : Reach (pciStep sink) PciState.Initial (Connected d) s) :
    ((s.devices d).msix.configured = true → ∀ v, v < (s.devices d).msix.vectorCount →
      ((s.devices d).msix.pending v = true ↔ ∃ later earlier,
        s.log = later ++ .raised d v :: earlier ∧ ∀ e ∈ later, e.clears d v = false)) ∧
    (∀ e ∈ s.log, e.Proper) ∧
    (NeverFailed s.log d → Settled s d) ∧
    (∀ op, Connected d s op → NeverFailed (pciStep sink s op).log d →
      SentOnce s (pciStep sink s op) d) ∧
    (∀ v, Connected d s (.raiseMsix d v) → NeverFailed (pciStep sink s (.raiseMsix d v)).log d →
      (s.devices d).msix.configured = true → v < (s.devices d).msix.vectorCount →
      ((pciStep sink s (.raiseMsix d v)).devices d).msix.deliverable v = true →
      deliveries (pciStep sink s (.raiseMsix d v)).log d v = deliveries s.log d v + 1) := by
  have hinv : MsixInv s := PciState.msixInv (fun _ _ ha => ha.1) h
  have hset : ∀ op, Connected d s op → NeverFailed (pciStep sink s op).log d → Settled s d :=
    fun op ha hok => PciState.settled h (hok.of_suffix (pciStep_log sink ha.1))
  refine ⟨fun hc v hv => ?_, hinv.proper, PciState.settled h, fun op ha hok => ?_,
    fun v ha hok hc hv hd => ?_⟩
  · rw [(hinv.base d).pending hc v hv]
    exact pendingIn_iff
  · exact (settled_pciStep hinv ha.1 (hset op ha hok) ha.2 hok).2
  · exact (settled_pciDeviceRaiseMsix (hset _ ha hok) (ha.2 rfl) hok).2.2 rfl hc hv hd

instance (s : PciState) (d : Nat) : Decidable (MsixConnected s d) :=
  inferInstanceAs (Decidable (∀ v, v < _ → _))

/-- A function with one vector that is raised while MSI-X is off. -/
def raisedWhileOff : PciState :=
  runFrom (pciStep fun _ => .ok ()) (.init ramAtDram)
    [.deviceInit 0 0x1af4 0x1041 0 0 0 2, .setBar 0 0 0x1000 0, .initMsix 0 1 0 0 0 0x800,
      .connectMsix 0 0 5, .addDevice 0 0 0, .realize 0, .raiseMsix 0 0]

/-- The write that turns MSI-X on sends the message, once. -/
theorem raisedWhileOff_sent : (raisedWhileOff.devices 0).msix.pending 0 = true ∧
    deliveries (pciStep (fun _ => .ok ()) raisedWhileOff (.ecamWrite 0x42 .half 0x8000)).log 0 0 =
      deliveries raisedWhileOff.log 0 0 + 1 := by
  have hpend : (raisedWhileOff.devices 0).msix.pending 0 = true := by decide +kernel
  have hreach : Reach (pciStep fun _ => .ok ()) PciState.Initial (Connected 0) raisedWhileOff := by
    refine Reach.runFrom (.start ⟨ramAtDram, by decide, rfl⟩) ?_
    refine ⟨⟨rfl, (nomatch ·)⟩, ⟨trivial, (nomatch ·)⟩, ⟨trivial, (nomatch ·)⟩, ⟨trivial, (nomatch ·)⟩,
      ⟨⟨by decide, rfl⟩, (nomatch ·)⟩, ⟨trivial, (nomatch ·)⟩, ⟨trivial, fun _ => ?_⟩, trivial⟩
    decide +kernel
  refine ⟨hpend, (msix_no_loss_no_spurious hreach).2.2.2.1
    (.ecamWrite 0x42 .half 0x8000) ⟨trivial, fun _ => ?_⟩ ?_ 0 ?_ hpend ?_⟩
  · decide +kernel
  · unfold NeverFailed; decide +kernel
  · decide +kernel
  · decide +kernel

end Vart
