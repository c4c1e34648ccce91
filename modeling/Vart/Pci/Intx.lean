import Vart.Pci.Frame
import Vart.Pci.Machine

/-!
# Shared INTx lines

Functions may be connected to the same line. `vart_pci_device_set_intx`, reset and unrealize see
one function only: they set the level of the line to the level of that function.

* `PciOp.drives`: which function sets which line to which level,
* `WiredOr`: the line is high exactly if a function that is connected to it asserts its pin,
* `intx_wiredOr_iff`: a run keeps `WiredOr` exactly if none of its steps lowers a line that another
  function asserts.
-/

namespace Vart

open Lib

/-! ## The line and the functions -/

/-- What a function knows of its INTx line. -/
def PciDevice.pin (dev : PciDevice) : Option Nat × Bool := (dev.intxIrq, dev.intxAsserted)

def PciState.pins (s : PciState) : Nat → Option Nat × Bool := fun d => (s.devices d).pin

/-- Function `d` is connected to line `irq` and asserts its pin. -/
def Asserts (s : PciState) (irq d : Nat) : Prop := s.pins d = (some irq, true)

def WiredOr (irq : Nat) (s : PciState) : Prop := s.irq.level irq = true ↔ ∃ d, Asserts s irq d

/-- The calls that change the level of an INTx line. -/
def PciOp.OnIntx : PciOp → Prop
  | .setIntx .. | .reset _ | .unrealize _ => True
  | _ => False

/-- What a function sets to a level: itself, its line and the level. -/
def PciState.drives (s : PciState) (d : Nat) (level : Bool) : Option (Nat × Nat × Bool) :=
  (s.devices d).intxIrq.map fun irq => (d, irq, level)

/-- The function, the line and the level that a call sets. -/
def PciOp.drives (s : PciState) : PciOp → Option (Nat × Nat × Bool)
  | .setIntx d level => s.drives d level
  | .reset d | .unrealize d =>
    if (s.devices d).parent.realized && (s.devices d).intxAsserted then s.drives d false else none
  | _ => none

/-- The call lowers line `irq` for one function while another one asserts it. -/
def PciOp.Steals (irq : Nat) (s : PciState) (op : PciOp) : Prop :=
  ∃ d e, op.drives s = some (d, irq, false) ∧ e ≠ d ∧ Asserts s irq e

/-! ## What a call does -/

/-- Function `d` sets line `irq` to `level`. -/
structure Driven (s : PciState) (d irq : Nat) (level : Bool) (t : PciState) : Prop where
  connected : (s.pins d).1 = some irq
  line : t.irq.level = Function.update s.irq.level irq level
  pins : t.pins = Function.update s.pins d (some irq, level)

/-- No line and no pin changes. -/
def IntxSame (s t : PciState) : Prop := t.irq = s.irq ∧ t.pins = s.pins

/-- What the calls do, in terms of what they set. -/
def IntxEffect (s t : PciState) : Option (Nat × Nat × Bool) → Prop
  | none => IntxSame s t
  | some (d, irq, level) => Driven s d irq level t

theorem IntxSame.trans {s t u : PciState} (h : IntxSame s t) (h' : IntxSame t u) : IntxSame s u :=
  ⟨h'.1.trans h.1, h'.2.trans h.2⟩

theorem Driven.same_left {s t u : PciState} {d irq : Nat} {level : Bool} (h : IntxSame s t)
    (h' : Driven t d irq level u) : Driven s d irq level u := by
  obtain ⟨hirq, hpins⟩ := h
  exact ⟨hpins ▸ h'.connected, hirq ▸ h'.line, hpins ▸ h'.pins⟩

theorem Driven.same_right {s t u : PciState} {d irq : Nat} {level : Bool}
    (h : Driven s d irq level t) (h' : IntxSame t u) : Driven s d irq level u :=
  ⟨h.connected, h'.1 ▸ h.line, h'.2.trans h.pins⟩

theorem irqSet_reliable {sink : Sink} (hs : sink.Reliable) (st : IrqState) (irq : Nat)
    (level : Bool) :
    (irqSet sink st irq level).2 = .ok () ∧
      (irqSet sink st irq level).1.level = Function.update st.level irq level := by
  unfold irqSet
  split
  · rename_i hlevel
    exact ⟨rfl, by rw [← hlevel, Function.update_eq_self]⟩
  · simp only [irqCallback, hs _, and_self]

theorem pins_updateDevice (s : PciState) (d : Nat) (f : PciDevice → PciDevice) :
    (s.updateDevice d f).pins = Function.update s.pins d (f (s.devices d)).pin := by
  funext e
  by_cases he : e = d
  · subst he
    simp only [PciState.pins, PciState.updateDevice, Function.update_self]
  · simp only [PciState.pins, PciState.updateDevice, Function.update_of_ne he]

theorem pins_updateDevice_same (s : PciState) (d : Nat) {f : PciDevice → PciDevice}
    (hf : (f (s.devices d)).pin = (s.devices d).pin) : (s.updateDevice d f).pins = s.pins := by
  rw [pins_updateDevice, hf]
  exact Function.update_eq_self d s.pins

theorem MapSame.intxSame {s t : PciState} (h : MapSame s t) : IntxSame s t :=
  ⟨(congrArg PciState.irq h :), funext fun d => (congrArg PciDevice.pin (h.device d) :)⟩

theorem intxEffect_pciDeviceSetIntx {sink : Sink} (hs : sink.Reliable) (s : PciState) (d : Nat)
    (level : Bool) : IntxEffect s (pciDeviceSetIntx sink s d level).1 (s.drives d level) := by
  unfold pciDeviceSetIntx PciState.drives
  cases hirq : (s.devices d).intxIrq with
  | none => exact ⟨rfl, rfl⟩
  | some irq =>
    obtain ⟨hok, hlevel⟩ := irqSet_reliable hs s.irq irq level
    dsimp only
    generalize irqSet sink s.irq irq level = r at hok hlevel
    obtain ⟨st, ret⟩ := r
    cases hok
    refine ⟨hirq, hlevel, ?_⟩
    dsimp only
    rw [pins_updateDevice, PciDevice.pin]
    dsimp only
    rw [hirq]
    rfl

/-- A function that asserts its pin lowers its line. -/
theorem intxEffect_pciIntxDeassert {sink : Sink} (hs : sink.Reliable) (s : PciState) (d : Nat) :
    IntxEffect s (pciIntxDeassert sink s d)
      (if (s.devices d).intxAsserted then s.drives d false else none) := by
  unfold pciIntxDeassert PciState.drives
  cases hirq : (s.devices d).intxIrq with
  | none =>
    rw [Option.map_none, ite_self]
    exact ⟨rfl, rfl⟩
  | some irq =>
    obtain ⟨-, hlevel⟩ := irqSet_reliable hs s.irq irq false
    dsimp only
    split
    · refine ⟨hirq, hlevel, ?_⟩
      rw [pins_updateDevice, PciDevice.pin]
      dsimp only
      rw [hirq]
      rfl
    · exact ⟨rfl, rfl⟩

/-- The same between calls that change no pin. -/
theorem intxEffect_deassert_between {sink : Sink} (hs : sink.Reliable) {s s₁ t : PciState} {d : Nat}
    (hbefore : IntxSame s s₁) (hafter : IntxSame (pciIntxDeassert sink s₁ d) t) :
    IntxEffect s t (if (s.devices d).intxAsserted then s.drives d false else none) := by
  have heffect := intxEffect_pciIntxDeassert hs s₁ d
  have hpin : (s₁.devices d).pin = (s.devices d).pin := congrFun hbefore.2 d
  have hasserted : (s₁.devices d).intxAsserted = (s.devices d).intxAsserted :=
    congrArg Prod.snd hpin
  have hdrives : s₁.drives d false = s.drives d false := by
    unfold PciState.drives
    rw [show (s₁.devices d).intxIrq = (s.devices d).intxIrq from congrArg Prod.fst hpin]
  rw [hasserted, hdrives] at heffect
  generalize (if (s.devices d).intxAsserted then s.drives d false else none) = r at heffect ⊢
  cases r with
  | none => exact hbefore.trans (heffect.trans hafter)
  | some x => exact (Driven.same_left hbefore heffect).same_right hafter

theorem intxSame_resetConfig (s : PciState) (d : Nat) {f : PciDevice → PciDevice}
    (hf : ∀ dev, (f dev).pin = dev.pin) (log : List MsixEvent) :
    IntxSame s { s.updateDevice d f with log } :=
  ⟨rfl, pins_updateDevice_same s d (hf _)⟩

theorem intxEffect_pciDeviceReset {sink : Sink} (hs : sink.Reliable) (s : PciState) (d : Nat) :
    IntxEffect s (pciDeviceReset sink s d).1 ((PciOp.reset d).drives s) := by
  unfold pciDeviceReset PciOp.drives
  dsimp only
  cases (s.devices d).parent.realized with
  | false => exact ⟨rfl, rfl⟩
  | true =>
    simp only [Bool.not_true, Bool.false_eq_true, if_false, Bool.true_and]
    refine intxEffect_deassert_between hs (mapStep_pciDeviceDisableMemory s d).same.intxSame ?_
    refine intxSame_resetConfig _ d (fun dev => ?_) _
    dsimp only
    split <;> rfl

theorem intxEffect_pciDeviceUnrealize {sink : Sink} (hs : sink.Reliable) (s : PciState) (d : Nat) :
    IntxEffect s (pciDeviceUnrealize sink s d) ((PciOp.unrealize d).drives s) := by
  unfold pciDeviceUnrealize PciOp.drives
  dsimp only
  cases (s.devices d).parent.realized with
  | false => exact ⟨rfl, rfl⟩
  | true =>
    simp only [if_true, Bool.true_and]
    refine intxEffect_deassert_between hs ⟨rfl, rfl⟩ ?_
    exact (mapStep_pciDeviceDisableMemory _ d).same.intxSame.trans
      ⟨rfl, pins_updateDevice_same _ d rfl⟩

theorem intxEffect_pciStep {sink : Sink} (hs : sink.Reliable) (s : PciState) {op : PciOp}
    (hop : op.OnIntx) : IntxEffect s (pciStep sink s op) (op.drives s) := by
  cases op with
  | setIntx d level => exact intxEffect_pciDeviceSetIntx hs s d level
  | reset d => exact intxEffect_pciDeviceReset hs s d
  | unrealize d => exact intxEffect_pciDeviceUnrealize hs s d
  | _ => exact hop.elim

/-! ## The wired OR -/

theorem IntxSame.wiredOr {s t : PciState} (h : IntxSame s t) (irq : Nat) :
    WiredOr irq t ↔ WiredOr irq s := by
  unfold WiredOr Asserts
  rw [h.1, h.2]

/-- A function that lowers its line breaks the wired OR exactly if another one asserts the line. -/
theorem Driven.wiredOr_iff {s t : PciState} {d line irq : Nat} {level : Bool}
    (h : Driven s d line level t) (hs : WiredOr irq s) :
    WiredOr irq t ↔ ¬ (line = irq ∧ level = false ∧ ∃ e, e ≠ d ∧ Asserts s irq e) := by
  have hothers : ∀ e, e ≠ d → (Asserts t irq e ↔ Asserts s irq e) := fun e he => by
    unfold Asserts
    rw [h.pins, Function.update_of_ne he]
  have hself : Asserts t irq d ↔ line = irq ∧ level = true := by
    unfold Asserts
    rw [h.pins, Function.update_self, Prod.mk.injEq, Option.some.injEq]
  by_cases hline : line = irq
  · subst hline
    have hlevel : t.irq.level line = level := by rw [h.line, Function.update_self]
    cases level with
    | true =>
      refine iff_of_true (iff_of_true hlevel ⟨d, hself.mpr ⟨rfl, rfl⟩⟩) ?_
      rintro ⟨-, hfalse, -⟩
      cases hfalse
    | false =>
      have hlow : WiredOr line t ↔ ¬ ∃ e, Asserts t line e := by
        unfold WiredOr
        rw [hlevel]
        exact ⟨fun hw he => Bool.false_ne_true (hw.mpr he), fun hn =>
          ⟨fun hf => absurd hf Bool.false_ne_true, fun he => absurd he hn⟩⟩
      rw [hlow, not_iff_not]
      constructor
      · rintro ⟨e, he⟩
        have hne : e ≠ d := by
          rintro rfl
          exact Bool.false_ne_true (hself.mp he).2
        exact ⟨rfl, rfl, e, hne, (hothers e hne).mp he⟩
      · rintro ⟨-, -, e, hne, he⟩
        exact ⟨e, (hothers e hne).mpr he⟩
  · refine iff_of_true ?_ fun hsteal => hline hsteal.1
    -- The line is another one, and neither its level nor its functions change.
    have hd : ¬ Asserts s irq d := fun hd =>
      hline (Option.some.inj (h.connected.symm.trans (congrArg Prod.fst hd)))
    have hasserts : ∀ e, Asserts t irq e ↔ Asserts s irq e := fun e => by
      by_cases he : e = d
      · subst he
        exact iff_of_false (fun hr => hline (hself.mp hr).1) hd
      · exact hothers e he
    unfold WiredOr
    simp only [hasserts]
    rw [h.line, Function.update_of_ne (Ne.symm hline)]
    exact hs

theorem wiredOr_pciStep_iff {sink : Sink} (hsink : sink.Reliable) {s : PciState} {irq : Nat}
    (hs : WiredOr irq s) {op : PciOp} (hop : op.OnIntx) :
    WiredOr irq (pciStep sink s op) ↔ ¬ op.Steals irq s := by
  have heffect := intxEffect_pciStep hsink s hop
  unfold PciOp.Steals
  cases hdrives : op.drives s with
  | none =>
    rw [hdrives] at heffect
    refine iff_of_true ((heffect.wiredOr irq).mpr hs) ?_
    rintro ⟨d, e, hsome, -⟩
    cases hsome
  | some x =>
    obtain ⟨d, line, level⟩ := x
    rw [hdrives] at heffect
    rw [heffect.wiredOr_iff hs, not_iff_not]
    constructor
    · rintro ⟨rfl, rfl, e, he⟩
      exact ⟨d, e, rfl, he⟩
    · rintro ⟨d', e, hsome, he⟩
      cases hsome
      exact ⟨rfl, rfl, e, he⟩

/-- With a sink that never fails, a line is the wired OR of its functions throughout a run exactly
if no step of the run lowers it for one function while another one asserts it. -/
theorem intx_wiredOr_iff {sink : Sink} (hsink : sink.Reliable) {s : PciState} {irq : Nat}
    (hs : WiredOr irq s) {ops : List PciOp} (hops : ∀ op ∈ ops, op.OnIntx) :
    Throughout (pciStep sink) (WiredOr irq) s ops ↔
      Allowed (pciStep sink) (fun s op => ¬ op.Steals irq s) s ops := by
  exact throughout_iff_allowed (I := fun _ => True) (fun _ _ _ _ _ => trivial)
    (fun s op _ hP hop => wiredOr_pciStep_iff hsink hP hop) trivial hs (.of_forall hops s)

/-- Two functions on line `0`. -/
def sharedLine : PciState :=
  runFrom (pciStep fun _ => .ok ()) (.init ramAtDram)
    [.deviceInit 0 0x1b36 0x0001 0 0 0 0, .deviceInit 1 0x1b36 0x0002 0 0 0 0,
      .connectIntx 0 1 0 32, .connectIntx 1 1 0 32]

theorem pins_sharedLine (d : Nat) : (sharedLine.pins d).2 = false := by
  rcases d with _ | _ | d <;> rfl

theorem not_asserts_sharedLine (irq d : Nat) : ¬ Asserts sharedLine irq d := fun h =>
  Bool.false_ne_true ((pins_sharedLine d).symm.trans (congrArg Prod.snd h))

theorem wiredOr_sharedLine : WiredOr 0 sharedLine :=
  iff_of_false (by decide +kernel) fun ⟨d, hd⟩ => not_asserts_sharedLine 0 d hd

/-- Both functions assert the line, and then one of them lowers it. -/
theorem sharedLine_stolen :
    let s := runFrom (pciStep fun _ => .ok ()) sharedLine
      [.setIntx 0 true, .setIntx 1 true, .setIntx 0 false]
    WiredOr 0 sharedLine ∧ s.irq.level 0 = false ∧ Asserts s 0 1 ∧ ¬ WiredOr 0 s := by
  extract_lets s
  have hlow : s.irq.level 0 = false := by decide +kernel
  have hasserts : s.pins 1 = (some 0, true) := by decide +kernel
  refine ⟨wiredOr_sharedLine, hlow, hasserts, fun h => ?_⟩
  exact Bool.false_ne_true (hlow.symm.trans (h.mpr ⟨1, hasserts⟩))

/-- One function after the other. -/
theorem sharedLine_inTurn :
    Throughout (pciStep fun _ => .ok ()) (WiredOr 0) sharedLine
      [.setIntx 0 true, .setIntx 0 false, .setIntx 1 true] := by
  refine (intx_wiredOr_iff (fun _ => rfl) wiredOr_sharedLine ?_).mpr ⟨?_, ?_, ?_, trivial⟩
  · simp [PciOp.OnIntx]
  · rintro ⟨d, e, hdrives, -⟩
    cases hdrives
  · rintro ⟨d, e, hdrives, hne, he⟩
    cases hdrives
    have hraised : Driven sharedLine 0 0 true
        (pciStep (fun _ => .ok ()) sharedLine (.setIntx 0 true)) :=
      intxEffect_pciDeviceSetIntx (fun _ => rfl) sharedLine 0 true
    unfold Asserts at he
    rw [hraised.pins, Function.update_of_ne hne] at he
    exact not_asserts_sharedLine 0 e he
  · rintro ⟨d, e, hdrives, -⟩
    cases hdrives

end Vart
