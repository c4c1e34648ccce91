import Vart.Pci.Delivery
import Vart.Pci.Routing

/-!
# The registers of the MSI-X capability

The first dword of the capability holds its ID, the link to the next capability and the Message
Control register; the next two locate the table and the pending bits. `pci_config_store` protects
the last two from the guest, and nothing else.

* `MsixKept`: the flags are the bits of the control register, and the last two dwords are those
  that `vart_pci_device_init_msix` stored. This holds in every run.
* `MsixIntact`: in addition, the ID, the link and the vector count are the stored ones.
* `msixIntact_iff`: a run keeps them exactly if the guest writes nothing else to them and no
  function with more than one vector is reset.
-/

namespace Vart

open Lib

/-! ## What the guest reads -/

/-- Registers behind the header are read as they are stored. -/
theorem pciConfigRead_capability (s : PciState) (d : Nat) {offset : Nat} (size : Nat)
    (h : pciCapabilityStart ≤ offset) :
    pciConfigRead s d offset size = (s.devices d).configLoad offset size := by
  simp only [pciCapabilityStart] at h
  have hbar : (if size = 4 then pciBarFromOffset (s.devices d) offset else none) = none := by
    split
    · exact if_pos (by omega)
    · rfl
  have hbridge : (s.devices d).secondaryBus.bind (pciBridgeConfigRead s d · offset size) = none := by
    cases (s.devices d).secondaryBus with
    | none => rfl
    | some child =>
      show pciBridgeConfigRead s d child offset size = none
      unfold pciBridgeConfigRead
      rw [if_neg (by omega), if_pos (by omega)]
  unfold pciConfigRead
  simp only [hbar, hbridge]

/-- The flags of function `d` are bits of its control register, and the table and the pending bits
are where state `s₀` says. -/
structure MsixKept (s₀ : PciState) (d : Nat) (s : PciState) : Prop where
  enabled : pciConfigRead s d ((s.devices d).msix.capabilityOffset + 2) 2 &&& 0x8000 ≠ 0 ↔
    (s.devices d).msix.enabled = true
  functionMask : pciConfigRead s d ((s.devices d).msix.capabilityOffset + 2) 2 &&& 0x4000 ≠ 0 ↔
    (s.devices d).msix.functionMask = true
  table : pciConfigRead s d ((s.devices d).msix.capabilityOffset + 4) 4 =
    pciConfigRead s₀ d ((s₀.devices d).msix.capabilityOffset + 4) 4
  pba : pciConfigRead s d ((s.devices d).msix.capabilityOffset + 8) 4 =
    pciConfigRead s₀ d ((s₀.devices d).msix.capabilityOffset + 8) 4

/-- The capability area of a function, and what locates the MSI-X capability in it. -/
def PciDevice.capView (dev : PciDevice) : Store × Nat × Nat × Bool :=
  (fun x => if x < pciCapabilityStart then 0 else dev.configSpace x, dev.msix.capabilityOffset,
    dev.msix.vectorCount, dev.msix.configured)

theorem capView_of_msixView {dev dev' : PciDevice} (h : dev'.msixView = dev.msixView) :
    dev'.capView = dev.capView :=
  (congrArg (fun v => (v.configSpace, v.msix.capabilityOffset, v.msix.vectorCount,
    v.msix.configured)) h :)

theorem capView_updateDevice (s : PciState) (d e : Nat) {f : PciDevice → PciDevice}
    (h : (f (s.devices d)).capView = (s.devices d).capView) :
    ((s.updateDevice d f).devices e).capView = (s.devices e).capView :=
  congrFun (map_update_eq PciDevice.capView s.devices d _ h) e

theorem capView_pciMsixUpdateControl (sink : Sink) (s : PciState) (d e : Nat) :
    ((pciMsixUpdateControl sink s d).devices e).capView = (s.devices e).capView := by
  unfold pciMsixUpdateControl
  dsimp only
  split
  · rfl
  · have hflush := (deliverSame_pciMsixFlushPending sink (s.updateMsix d fun msix => { msix with
      enabled := (s.devices d).msixControlEnabled
      functionMask := (s.devices d).msixControlMasked }) d).device e
    exact (congrArg PciDevice.capView hflush :).trans (capView_updateDevice s d e rfl)

/-- A write below the capability area. -/
theorem capView_store_low (s : PciState) (d e : Nat) {offset size : Nat} (value : Nat)
    (h : offset + size ≤ pciCapabilityStart) :
    ((s.updateDevice d (pciConfigStore · offset size value)).devices e).capView =
      (s.devices e).capView :=
  capView_updateDevice s d e (capView_of_msixView (msixView_pciConfigStore value h))

theorem capView_of_keep {s t : PciState} (h : MsixKeep (fun _ => False) s t) (e : Nat) :
    (t.devices e).capView = (s.devices e).capView :=
  capView_of_msixView ((h.view e).resolve_right fun hfresh => hfresh.1)

theorem capView_pciGenericConfigWrite (sink : Sink) (s : PciState) (d e offset size value : Nat) :
    ((pciGenericConfigWrite sink s d offset size value).1.devices e).capView =
      ((s.updateDevice d (pciConfigStore · offset size value)).devices e).capView := by
  unfold pciGenericConfigWrite
  dsimp only
  generalize s.updateDevice d (pciConfigStore · offset size value) = t
  have hwritten : ((if offset < 0x06 ∧ offset + size > 0x04 then
      pciCommandWritten t d ((s.devices d).configLoad 0x04 2) else (t, .ok ())).1.devices
        e).capView = (t.devices e).capView := by
    split
    · exact capView_of_keep (pciCommandWritten_msix t d _).1 e
    · rfl
  split
  · rename_i u err hu
    rw [hu] at hwritten
    exact hwritten
  · rename_i u ok hu
    rw [hu] at hwritten
    exact (capView_pciMsixUpdateControl sink u d e).trans hwritten

/-- Whatever path a configuration write takes, for the capability area it stores its bytes. -/
theorem capView_pciConfigWrite (sink : Sink) (s : PciState) (d e offset size value : Nat) :
    ((pciConfigWrite sink s d offset size value).1.devices e).capView =
      ((s.updateDevice d (pciConfigStore · offset size value)).devices e).capView := by
  unfold pciConfigWrite
  split
  · -- A BAR register.
    rename_i index high hbar
    split at hbar
    · rename_i hfour
      have hlow : offset + size ≤ pciCapabilityStart := by
        unfold pciBarFromOffset at hbar
        split at hbar
        · cases hbar
        · simp only [pciCapabilityStart]
          omega
      obtain ⟨hi, himpl⟩ := pciBarFromOffset_some hbar
      rw [capView_store_low s d e value hlow]
      exact capView_of_keep (.of_mapSame (mapStep_pciBarWrite _ high hi himpl).same) e
    · cases hbar
  split
  · -- A register of the bridge.
    rename_i r hr
    cases hsec : (s.devices d).secondaryBus with
    | none => rw [hsec] at hr; cases hr
    | some child =>
      rw [hsec] at hr
      have hlow : offset + size ≤ pciCapabilityStart := by
        have hsome : pciBridgeConfigWrite s d child offset size value = some r := hr
        unfold pciBridgeConfigWrite at hsome
        simp only [pciCapabilityStart]
        split at hsome
        · split at hsome
          · omega
          · split at hsome
            · omega
            · cases hsome
        · omega
      rw [capView_store_low s d e value hlow]
      exact capView_of_keep (msixKeep_pciBridgeConfigWrite hr) e
  · exact capView_pciGenericConfigWrite sink s d e offset size value

/-- The control register after a reset. -/
def PciDevice.resetControl (dev : PciDevice) : PciDevice :=
  if dev.msix.configured then
    { dev with configSpace := dev.configSpace.write (dev.msix.capabilityOffset + 2) [0, 0] }
  else dev

theorem capView_write_low {dev : PciDevice} {offset : Nat} {bytes : List UInt8}
    (h : offset + bytes.length ≤ pciCapabilityStart) :
    ({ dev with configSpace := dev.configSpace.write offset bytes } : PciDevice).capView =
      dev.capView := by
  refine capView_of_msixView (msixView_of_config fun x hx => ?_)
  exact Store.write_out _ (by omega)

theorem capView_resetControl {dev dev' : PciDevice} (h : dev'.capView = dev.capView) :
    dev'.resetControl.capView = dev.resetControl.capView := by
  have hconfigured : dev'.msix.configured = dev.msix.configured := congrArg (·.2.2.2) h
  have hoffset : dev'.msix.capabilityOffset = dev.msix.capabilityOffset := congrArg (·.2.1) h
  unfold PciDevice.resetControl
  rw [hconfigured]
  split
  · refine Prod.ext (funext fun x => ?_) (congrArg (·.2) h)
    have hx : (if x < pciCapabilityStart then 0 else dev'.configSpace x) =
        if x < pciCapabilityStart then 0 else dev.configSpace x := congrFun (congrArg (·.1) h) x
    simp only [PciDevice.capView, Store.write, hoffset]
    split
    · rfl
    · rename_i hge
      rw [if_neg hge, if_neg hge] at hx
      rw [hx]
  · exact h

theorem capView_pciDeviceResetInternal (sink : Sink) (s : PciState) (d e : Nat) :
    ((pciDeviceResetInternal sink s d).devices e).capView =
      if e = d then (s.devices d).resetControl.capView else (s.devices e).capView := by
  have hbefore : ∀ e, ((pciIntxDeassert sink (pciDeviceDisableMemory s d) d).devices e).capView =
      (s.devices e).capView := fun e =>
    (capView_of_keep (msixKeep_pciIntxDeassert _ sink _ d) e).trans
      (capView_of_keep (.of_mapSame (mapStep_pciDeviceDisableMemory s d).same) e)
  unfold pciDeviceResetInternal
  dsimp only
  rw [updateDevice_devices, Function.update_apply]
  split
  · rw [← capView_resetControl (hbefore d)]
    generalize (pciIntxDeassert sink (pciDeviceDisableMemory s d) d).devices d = dev
    have hcommand : ({ dev with configSpace := dev.configSpace.write 0x04 [0, 0] } :
        PciDevice).capView = dev.capView := capView_write_low (by decide)
    rw [← capView_resetControl hcommand]
    unfold PciDevice.resetControl
    dsimp only
    split <;> rfl
  · exact hbefore e

/-! ## The bits that nobody may write -/

/-- Byte `i` of the MSI-X capability. -/
def PciDevice.capByte (dev : PciDevice) (i : Nat) : UInt8 :=
  dev.configSpace (dev.msix.capabilityOffset + i)

/-- The ID, the link and the vector count are the same. -/
structure SameFixed (dev dev' : PciDevice) : Prop where
  id : dev'.capByte 0 = dev.capByte 0
  next : dev'.capByte 1 = dev.capByte 1
  low : dev'.capByte 2 = dev.capByte 2
  high : dev'.capByte 3 &&& 0x07 = dev.capByte 3 &&& 0x07

theorem capByte_of_capView {dev dev' : PciDevice} (h : dev'.capView = dev.capView)
    (hcap : pciCapabilityStart ≤ dev.msix.capabilityOffset) (i : Nat) :
    dev'.capByte i = dev.capByte i := by
  have hoffset : dev'.msix.capabilityOffset = dev.msix.capabilityOffset := congrArg (·.2.1) h
  have hx := congrFun (congrArg (·.1) h) (dev.msix.capabilityOffset + i)
  have hge : ¬ dev.msix.capabilityOffset + i < pciCapabilityStart := by omega
  simp only [PciDevice.capView, if_neg hge] at hx
  rw [PciDevice.capByte, PciDevice.capByte, hoffset, hx]

/-- What is the same in state `s` as in state `s₀`, in every run. -/
structure MsixPlaced (s₀ : PciState) (d : Nat) (s : PciState) : Prop where
  inv : MsixInv s
  configured : (s.devices d).msix.configured = true
  offset : (s.devices d).msix.capabilityOffset = (s₀.devices d).msix.capabilityOffset
  count : (s.devices d).msix.vectorCount = (s₀.devices d).msix.vectorCount
  protect : ∀ i, 4 ≤ i → i < 12 → (s.devices d).capByte i = (s₀.devices d).capByte i

namespace MsixPlaced

variable {s₀ s t : PciState} {d : Nat}

theorem cap_ge (h : MsixPlaced s₀ d s) :
    pciCapabilityStart ≤ (s.devices d).msix.capabilityOffset :=
  ((h.inv.base d).layout h.configured).cap_ge

theorem read (h : MsixPlaced s₀ d s) (i size : Nat) :
    pciConfigRead s d ((s.devices d).msix.capabilityOffset + i) size =
      (s.devices d).configLoad ((s.devices d).msix.capabilityOffset + i) size :=
  pciConfigRead_capability s d size (Nat.le_add_right_of_le h.cap_ge)

/-- The dwords that the guest cannot write. -/
theorem read_protected (h : MsixPlaced s₀ d s) {i : Nat} (hi : 4 ≤ i) (hi' : i + 4 ≤ 12) :
    pciConfigRead s d ((s.devices d).msix.capabilityOffset + i) 4 =
      pciConfigRead s₀ d ((s₀.devices d).msix.capabilityOffset + i) 4 := by
  have hcap := h.cap_ge
  rw [h.offset] at hcap
  rw [h.read, pciConfigRead_capability s₀ d 4 (Nat.le_add_right_of_le hcap), h.offset]
  unfold PciDevice.configLoad
  refine congrArg loadLe (Store.read_congr fun x hx hx' => ?_)
  have hbyte := h.protect (x - (s₀.devices d).msix.capabilityOffset) (by omega) (by omega)
  unfold PciDevice.capByte at hbyte
  rwa [h.offset, Nat.add_sub_cancel' (by omega)] at hbyte

theorem kept (h : MsixPlaced s₀ d s) : MsixKept s₀ d s := by
  obtain ⟨henabled, hmask⟩ := h.inv.flags d h.configured
  refine ⟨?_, ?_, h.read_protected (by omega) (by omega), h.read_protected (by omega) (by omega)⟩
  · rw [henabled, h.read]
    exact (bne_iff_ne (a := (s.devices d).msixControl &&& 0x8000)).symm
  · rw [hmask, h.read]
    exact (bne_iff_ne (a := (s.devices d).msixControl &&& 0x4000)).symm

/-- A call that makes the capability area of the function that of `dev`. -/
theorem step (hs : MsixPlaced s₀ d s) (hinv : MsixInv t) {dev : PciDevice}
    (hview : (t.devices d).capView = dev.capView) (hmsix : dev.msix = (s.devices d).msix)
    (hprotect : ∀ i, 4 ≤ i → i < 12 → dev.capByte i = (s.devices d).capByte i) :
    MsixPlaced s₀ d t ∧
      (SameFixed (s.devices d) (t.devices d) ↔ SameFixed (s.devices d) dev) := by
  have hcap : pciCapabilityStart ≤ dev.msix.capabilityOffset := by
    rw [hmsix]
    exact hs.cap_ge
  have hbytes := capByte_of_capView hview hcap
  have hconfigured : (t.devices d).msix.configured = dev.msix.configured :=
    congrArg (·.2.2.2) hview
  have hoffset : (t.devices d).msix.capabilityOffset = dev.msix.capabilityOffset :=
    congrArg (·.2.1) hview
  have hcount : (t.devices d).msix.vectorCount = dev.msix.vectorCount := congrArg (·.2.2.1) hview
  rw [hmsix] at hconfigured hoffset hcount
  refine ⟨⟨hinv, hconfigured.trans hs.configured, hoffset.trans hs.offset, hcount.trans hs.count,
    fun i hi hi' => ?_⟩, ?_⟩
  · rw [hbytes, hprotect i hi hi', hs.protect i hi hi']
  · constructor <;> rintro ⟨hid, hnext, hlow, hhigh⟩
    · exact ⟨hbytes 0 ▸ hid, hbytes 1 ▸ hnext, hbytes 2 ▸ hlow, hbytes 3 ▸ hhigh⟩
    · exact ⟨(hbytes 0).trans hid, (hbytes 1).trans hnext, (hbytes 2).trans hlow,
        (congrArg (· &&& 0x07) (hbytes 3)).trans hhigh⟩

end MsixPlaced

theorem SameFixed.refl (dev : PciDevice) : SameFixed dev dev := ⟨rfl, rfl, rfl, rfl⟩

theorem capByte_pciConfigStore {dev : PciDevice} (hconfigured : dev.msix.configured = true)
    (offset size value : Nat) {i : Nat} (hi : 4 ≤ i) (hi' : i < 12) :
    (pciConfigStore dev offset size value).capByte i = dev.capByte i := by
  have hreadonly : pciMsixConfigReadonly dev (dev.msix.capabilityOffset + i) = true := by
    unfold pciMsixConfigReadonly
    rw [hconfigured, decide_eq_true (by omega), decide_eq_true (by omega)]
    rfl
  refine if_neg fun hstored => ?_
  exact Bool.false_ne_true (hstored.2.2.symm.trans hreadonly)

theorem capByte_resetControl {dev : PciDevice} (hconfigured : dev.msix.configured = true) (i : Nat) :
    dev.resetControl.capByte i = if i = 2 ∨ i = 3 then 0 else dev.capByte i := by
  unfold PciDevice.resetControl PciDevice.capByte
  rw [if_pos hconfigured]
  dsimp only [Store.write]
  by_cases hi : i = 2 ∨ i = 3
  · rw [if_pos hi, if_pos (by simp only [List.length_cons, List.length_nil]; omega)]
    rcases hi with rfl | rfl
    · simp
    · simp
  · rw [if_neg hi, if_neg (by simp only [List.length_cons, List.length_nil]; omega)]

/-- Guest writes to the configuration space, and resets. -/
def PciOp.OnConfig : PciOp → Prop
  | .ecamWrite .. | .reset _ => True
  | _ => False

/-- What a call makes of the capability area of function `d`. -/
def PciOp.capWritten (d : Nat) (s : PciState) : PciOp → PciDevice
  | .ecamWrite offset size value =>
    match pciEcamLookup s offset size.bytes with
    | none => s.devices d
    | some (e, register) =>
      if e = d then pciConfigStore (s.devices d) register size.bytes (value % 256 ^ size.bytes)
      else s.devices d
  | .reset e =>
    if e = d ∧ (s.devices d).parent.realized = true then (s.devices d).resetControl
    else s.devices d
  | _ => s.devices d

theorem capView_pciStep (sink : Sink) (s : PciState) (d : Nat) {op : PciOp} (hop : op.OnConfig) :
    ((pciStep sink s op).devices d).capView = (op.capWritten d s).capView := by
  cases op with
  | ecamWrite offset size value =>
    simp only [pciStep, pciEcamWrite, PciOp.capWritten]
    cases pciEcamLookup s offset size.bytes with
    | none => rfl
    | some r =>
      obtain ⟨e, register⟩ := r
      dsimp only
      rw [capView_pciConfigWrite, updateDevice_devices, Function.update_apply]
      by_cases he : e = d
      · subst he
        rw [if_pos rfl]
      · rw [if_neg (Ne.symm he), if_neg he]
  | reset e =>
    simp only [pciStep, pciDeviceReset, PciOp.capWritten]
    cases hrealized : (s.devices e).parent.realized with
    | false =>
      have hother : ¬ (e = d ∧ (s.devices d).parent.realized = true) := by
        rintro ⟨rfl, htrue⟩
        exact Bool.false_ne_true (hrealized.symm.trans htrue)
      rw [if_neg hother]
      rfl
    | true =>
      simp only [Bool.not_true, Bool.false_eq_true, if_false]
      rw [capView_pciDeviceResetInternal]
      by_cases he : e = d
      · subst he
        rw [if_pos rfl, if_pos ⟨rfl, hrealized⟩]
      · rw [if_neg (Ne.symm he), if_neg fun h => he h.1]
  | _ => exact hop.elim

/-- No call moves the capability or writes to its last two dwords. -/
theorem capWritten_protects {s : PciState} {d : Nat}
    (hconfigured : (s.devices d).msix.configured = true) (op : PciOp) :
    (op.capWritten d s).msix = (s.devices d).msix ∧
      ∀ i, 4 ≤ i → i < 12 → (op.capWritten d s).capByte i = (s.devices d).capByte i := by
  have hsame : (s.devices d).msix = (s.devices d).msix ∧
      ∀ i, 4 ≤ i → i < 12 → (s.devices d).capByte i = (s.devices d).capByte i :=
    ⟨rfl, fun _ _ _ => rfl⟩
  cases op with
  | ecamWrite offset size value =>
    simp only [PciOp.capWritten]
    split
    · exact hsame
    · split
      · exact ⟨rfl, fun i hi hi' => capByte_pciConfigStore hconfigured _ _ _ hi hi'⟩
      · exact hsame
  | reset e =>
    simp only [PciOp.capWritten]
    split
    · refine ⟨?_, fun i hi hi' => ?_⟩
      · unfold PciDevice.resetControl
        split <;> rfl
      · rw [capByte_resetControl hconfigured, if_neg (by omega)]
    · exact hsame
  | _ => exact hsame

theorem MsixPlaced.pciStep {s₀ s : PciState} {d : Nat} (hs : MsixPlaced s₀ d s) (sink : Sink)
    {op : PciOp} (hop : op.OnConfig) :
    MsixPlaced s₀ d (pciStep sink s op) ∧
      (SameFixed (s.devices d) ((Vart.pciStep sink s op).devices d) ↔
        SameFixed (s.devices d) (op.capWritten d s)) := by
  have hvalid : op.Valid s := by
    cases op with
    | ecamWrite => trivial
    | reset => trivial
    | _ => exact hop.elim
  obtain ⟨hmsix, hprotect⟩ := capWritten_protects hs.configured op
  exact hs.step (msixInv_pciStep sink hs.inv hvalid) (capView_pciStep sink s d hop) hmsix hprotect

end Vart
