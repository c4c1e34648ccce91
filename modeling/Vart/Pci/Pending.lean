import Vart.Pci.Frame

/-!
# Pending bits, the delivery log and the flush loop

* `pending_setPending`, `pending_clearPending`: the pending bits are a set of vectors.
* `pendingIn log d v`: what the log says about a pending bit. `deliveries log d v` counts the
  messages sent.
* `DeliverOutcome`: what one call of `pciMsixDeliver` does. `pciMsixFlushVectors_spec` is the
  closed form of the loop for a sink that did not fail.
-/

namespace Vart

open Lib

/-! ## Pending bits -/

namespace PciMsix

theorem pending_eq_testBit (msix : PciMsix) (v : Nat) :
    msix.pending v = (msix.pba (v / 8)).toNat.testBit (v % 8) := by
  rw [pending, Nat.one_shiftLeft, Nat.and_two_pow]
  cases (msix.pba (v / 8)).toNat.testBit (v % 8) <;> simp

/-- A bit of a byte that was stored back. -/
theorem testBit_toNat_ofNat (n v : Nat) :
    (UInt8.ofNat n).toNat.testBit (v % 8) = n.testBit (v % 8) := by
  rw [UInt8.toNat_ofNat', Nat.testBit_mod_two_pow]
  simp [Nat.mod_lt]

theorem pending_setPending (msix : PciMsix) (v w : Nat) :
    (msix.setPending v).pending w = (msix.pending w || decide (v = w)) := by
  rw [pending_eq_testBit, pending_eq_testBit, setPending]
  by_cases hbyte : w / 8 = v / 8
  · simp only [hbyte, Function.update_self]
    rw [testBit_toNat_ofNat, Nat.testBit_or, Nat.one_shiftLeft, Nat.testBit_two_pow]
    congr 2
    exact propext (by omega)
  · simp only [Function.update_of_ne hbyte]
    have hne : v ≠ w := by rintro rfl; exact hbyte rfl
    simp [hne]

theorem pending_clearPending (msix : PciMsix) (v w : Nat) :
    (msix.clearPending v).pending w = (msix.pending w && decide (v ≠ w)) := by
  rw [pending_eq_testBit, pending_eq_testBit, clearPending]
  by_cases hbyte : w / 8 = v / 8
  · simp only [hbyte, Function.update_self]
    rw [testBit_toNat_ofNat, testBit_andNot, Nat.one_shiftLeft, Nat.testBit_two_pow]
    rw [← decide_not]
    congr 2
    exact propext (by omega)
  · simp only [Function.update_of_ne hbyte]
    have hne : v ≠ w := by rintro rfl; exact hbyte rfl
    simp [hne]

theorem pending_of_pba_zero {msix : PciMsix} {v : Nat} (h : msix.pba (v / 8) = 0) :
    msix.pending v = false := by
  rw [pending_eq_testBit, h]
  exact Nat.zero_testBit _

end PciMsix

/-! ## The log -/

/-- The log, newest event first, says that vector `v` of device `d` was raised since its last
successful delivery or reset. -/
def pendingIn : List MsixEvent → (d v : Nat) → Bool
  | [], _, _ => false
  | .raised d' v' :: log, d, v => (d' == d && v' == v) || pendingIn log d v
  | .attempted d' v' _ _ _ _ ok :: log, d, v =>
    !(ok && d' == d && v' == v) && pendingIn log d v
  | .reset d' :: log, d, v => !(d' == d) && pendingIn log d v

/-- The event is a message of vector `v` of device `d` that the sink took. -/
def MsixEvent.delivers (d v : Nat) : MsixEvent → Bool
  | .attempted d' v' _ _ _ _ ok => ok && d' == d && v' == v
  | _ => false

/-- The number of messages of a vector that the sink took. -/
def deliveries (log : List MsixEvent) (d v : Nat) : Nat := log.countP (·.delivers d v)

/-- The event takes away the pending bit of vector `v` of device `d`. -/
def MsixEvent.clears (d v : Nat) (e : MsixEvent) : Bool := e.delivers d v || decide (e = .reset d)

theorem pendingIn_cons (e : MsixEvent) (log : List MsixEvent) (d v : Nat) :
    pendingIn (e :: log) d v =
      (decide (e = .raised d v) || (!e.clears d v && pendingIn log d v)) := by
  cases e <;> simp [pendingIn, MsixEvent.clears, MsixEvent.delivers, Bool.beq_eq_decide_eq]

/-- `pendingIn` finds a raise and nothing after it that took the bit away. -/
theorem pendingIn_iff {log : List MsixEvent} {d v : Nat} :
    pendingIn log d v = true ↔ ∃ later earlier, log = later ++ .raised d v :: earlier ∧
      ∀ e ∈ later, e.clears d v = false := by
  induction log with
  | nil => simp [pendingIn]
  | cons e log ih =>
    rw [pendingIn_cons, Bool.or_eq_true, Bool.and_eq_true, Bool.not_eq_true', decide_eq_true_eq, ih]
    constructor
    · rintro (rfl | ⟨hc, later, earlier, rfl, hl⟩)
      · exact ⟨[], log, rfl, fun _ he => nomatch he⟩
      · refine ⟨e :: later, earlier, rfl, fun e' he' => ?_⟩
        rcases List.mem_cons.mp he' with rfl | he'
        · exact hc
        · exact hl e' he'
    · rintro ⟨later, earlier, hlog, hl⟩
      cases later with
      | nil => exact .inl (List.cons.inj hlog).1
      | cons e' later =>
        obtain ⟨rfl, rfl⟩ := List.cons.inj hlog
        exact .inr ⟨hl e List.mem_cons_self, later, earlier, rfl,
          fun e' he' => hl e' (List.mem_cons_of_mem _ he')⟩

/-- The event is a call of the sink for device `d` that failed. -/
def MsixEvent.failed (d : Nat) : MsixEvent → Bool
  | .attempted d' _ _ _ _ _ ok => !ok && d' == d
  | _ => false

/-- No call of the sink for device `d` failed. -/
def NeverFailed (log : List MsixEvent) (d : Nat) : Prop := ∀ e ∈ log, e.failed d = false

/-- The sink is called only for a vector that is pending, with MSI-X on and nothing masked. -/
def MsixEvent.Proper : MsixEvent → Prop
  | .attempted _ _ pending enabled functionMask masked _ =>
    pending = true ∧ enabled = true ∧ functionMask = false ∧ masked = false
  | _ => True

/-- The function that the event is about. -/
def MsixEvent.device : MsixEvent → Nat
  | .raised d _ | .attempted d .. | .reset d => d

theorem pendingIn_cons_of_ne {e : MsixEvent} {d : Nat} (h : e.device ≠ d) (log : List MsixEvent)
    (v : Nat) : pendingIn (e :: log) d v = pendingIn log d v := by
  cases e <;> simp only [MsixEvent.device] at h <;> simp [pendingIn, h]

theorem deliveries_cons_of_ne {e : MsixEvent} {d : Nat} (h : e.device ≠ d) (log : List MsixEvent)
    (v : Nat) : deliveries (e :: log) d v = deliveries log d v := by
  refine List.countP_cons_of_neg ?_
  cases e <;> simp only [MsixEvent.device] at h <;> simp [MsixEvent.delivers, h]

theorem NeverFailed.of_suffix {log log' : List MsixEvent} {d : Nat} (h : NeverFailed log' d)
    (hs : log <:+ log') : NeverFailed log d :=
  fun e he => h e (hs.subset he)

/-! ## One delivery -/

/-- What `pciMsixDeliver` leaves behind: nothing happened, or the sink was called and the pending
bit is gone if the call succeeded. -/
inductive DeliverOutcome (s : PciState) (d v : Nat) (t : PciState) : Prop
  /-- The vector may not send a message, or has no sink. -/
  | idle (h : (s.devices d).msix.deliverable v = false ∨ (s.devices d).msix.connected v = false)
      (ht : t = s)
  | failed (hd : (s.devices d).msix.deliverable v = true) (irq : IrqState) (e : Errno)
      (ht : t = s.sinkCalled d v irq (.error e))
  | sent (hd : (s.devices d).msix.deliverable v = true) (irq : IrqState)
      (ht : t = (s.sinkCalled d v irq (.ok ())).updateMsix d (·.clearPending v))

theorem pciMsixDeliver_outcome (sink : Sink) (s : PciState) (d v : Nat) :
    DeliverOutcome s d v (pciMsixDeliver sink s d v).1 := by
  unfold pciMsixDeliver
  simp only
  split
  · rename_i h
    refine .idle (.inl ?_) rfl
    unfold PciMsix.deliverable
    cases hen : (s.devices d).msix.enabled <;> cases hfm : (s.devices d).msix.functionMask <;>
      simp_all
  rename_i hon
  split
  · rename_i h
    refine .idle (.inl ?_) rfl
    simp [PciMsix.deliverable, h]
  rename_i hmask
  have hd : (s.devices d).msix.deliverable v = true := by
    simp only [Bool.or_eq_true, Bool.not_eq_true', not_or, Bool.not_eq_false,
      Bool.not_eq_true] at hon
    simp [PciMsix.deliverable, hon, hmask]
  split
  · rename_i hcall
    refine .idle (.inr ?_) rfl
    unfold msixSinkCall at hcall
    split at hcall
    · cases hcall
    · rename_i hroute
      split at hcall
      · cases hcall
      · rename_i hinject
        simp [PciMsix.connected, hroute, hinject]
  · rename_i irq e hcall
    exact .failed hd irq e rfl
  · rename_i irq u hcall
    exact .sent hd irq rfl

theorem pciMsixDeliver_log (sink : Sink) (s : PciState) (d v : Nat) :
    s.log <:+ (pciMsixDeliver sink s d v).1.log := by
  rcases pciMsixDeliver_outcome sink s d v with ⟨-, ht⟩ | ⟨-, irq, e, ht⟩ | ⟨-, irq, ht⟩
  · simp only [ht, List.suffix_refl]
  · rw [ht]
    exact List.suffix_cons _ _
  · rw [ht]
    exact List.suffix_cons _ _

/-- A delivery for one function does not touch another one. -/
theorem pciMsixDeliver_other (sink : Sink) (s : PciState) {d d' : Nat} (h : d' ≠ d) (v : Nat) :
    (pciMsixDeliver sink s d v).1.devices d' = s.devices d' ∧
      ∀ w, deliveries (pciMsixDeliver sink s d v).1.log d' w = deliveries s.log d' w := by
  rcases pciMsixDeliver_outcome sink s d v with ⟨-, ht⟩ | ⟨-, irq, e, ht⟩ | ⟨-, irq, ht⟩ <;> rw [ht]
  · exact ⟨rfl, fun w => rfl⟩
  · exact ⟨rfl, deliveries_cons_of_ne (Ne.symm h) _⟩
  · exact ⟨Function.update_of_ne h _ _, deliveries_cons_of_ne (Ne.symm h) _⟩

/-! ## The loop -/

theorem pciMsixFlushVectors_log (sink : Sink) (s : PciState) (d : Nat) (vs : List Nat) :
    s.log <:+ (pciMsixFlushVectors sink s d vs).log := by
  induction vs generalizing s with
  | nil => exact List.suffix_refl _
  | cons v vs ih =>
    unfold pciMsixFlushVectors
    split
    · exact (pciMsixDeliver_log sink s d v).trans (ih _)
    · exact ih s

theorem DeliverSame.deliverable {s t : PciState} (h : DeliverSame s t) (d v : Nat) :
    (t.devices d).msix.deliverable v = (s.devices d).msix.deliverable v := by
  have hm := congrArg PciDevice.msix (h.device d)
  unfold PciMsix.deliverable PciMsix.masked
  rw [show (t.devices d).msix.enabled = (s.devices d).msix.enabled from
      (congrArg PciMsix.enabled hm :),
    show (t.devices d).msix.functionMask = (s.devices d).msix.functionMask from
      (congrArg PciMsix.functionMask hm :),
    show (t.devices d).msix.table = (s.devices d).msix.table from (congrArg PciMsix.table hm :)]

theorem DeliverSame.connected {s t : PciState} (h : DeliverSame s t) (d v : Nat) :
    (t.devices d).msix.connected v = (s.devices d).msix.connected v := by
  have hm := congrArg PciDevice.msix (h.device d)
  unfold PciMsix.connected
  rw [show (t.devices d).msix.irqRoutes = (s.devices d).msix.irqRoutes from
      (congrArg PciMsix.irqRoutes hm :),
    show (t.devices d).msix.inject = (s.devices d).msix.inject from (congrArg PciMsix.inject hm :)]

/-- A sink that did not fail: each pending vector of the list that may send a message sends one and
is no longer pending, and nothing else happens. -/
theorem pciMsixFlushVectors_spec {sink : Sink} {s : PciState} {d : Nat} {vs : List Nat}
    (hnd : vs.Nodup) (hconn : ∀ v ∈ vs, (s.devices d).msix.connected v = true)
    (hok : NeverFailed (pciMsixFlushVectors sink s d vs).log d) :
    (∀ w, ((pciMsixFlushVectors sink s d vs).devices d).msix.pending w =
      ((s.devices d).msix.pending w && !(decide (w ∈ vs) && (s.devices d).msix.deliverable w))) ∧
    ∀ w, deliveries (pciMsixFlushVectors sink s d vs).log d w = deliveries s.log d w +
      if w ∈ vs ∧ (s.devices d).msix.pending w = true ∧ (s.devices d).msix.deliverable w = true
      then 1 else 0 := by
  induction vs generalizing s with
  | nil => simp [pciMsixFlushVectors]
  | cons v vs ih =>
    obtain ⟨hv, hnd⟩ := List.nodup_cons.mp hnd
    unfold pciMsixFlushVectors at hok ⊢
    split
    · rename_i hpend
      rw [if_pos hpend] at hok
      have hsame := deliverSame_pciMsixDeliver sink s d v
      have hih := ih (s := (pciMsixDeliver sink s d v).1) hnd
        (fun w hw => (hsame.connected d w).trans (hconn w (List.mem_cons_of_mem _ hw))) hok
      simp only [hsame.deliverable d] at hih
      rcases pciMsixDeliver_outcome sink s d v with ⟨hidle, ht⟩ | ⟨hd, irq, e, ht⟩ | ⟨hd, irq, ht⟩
      · have hnot : (s.devices d).msix.deliverable v = false :=
          hidle.resolve_right (by rw [hconn v List.mem_cons_self]; decide)
        rw [ht] at hih ⊢
        refine ⟨fun w => ?_, fun w => ?_⟩
        · rw [hih.1 w]
          by_cases hw : w = v
          · subst hw; simp [hnot]
          · simp [hw]
        · rw [hih.2 w]
          by_cases hw : w = v
          · subst hw; simp [hnot]
          · simp [hw]
      · -- The failed call is in the log.
        have hfail := (hok.of_suffix (pciMsixFlushVectors_log ..)) (.attempted d v _ _ _ _ false)
          (by rw [ht]; exact List.mem_cons_self)
        simp [MsixEvent.failed] at hfail
      · have hpba : ∀ w, (((pciMsixDeliver sink s d v).1).devices d).msix.pending w =
            ((s.devices d).msix.pending w && decide (v ≠ w)) := by
          intro w
          rw [ht, ← PciMsix.pending_clearPending]
          simp [PciState.updateMsix, PciState.sinkCalled]
        have hlog : ∀ w, deliveries (pciMsixDeliver sink s d v).1.log d w =
            deliveries s.log d w + if v = w then 1 else 0 := by
          intro w
          rw [ht]
          simp [deliveries, PciState.updateMsix, PciState.sinkCalled, MsixEvent.delivers,
            List.countP_cons, Status.isOk]
        refine ⟨fun w => ?_, fun w => ?_⟩
        · rw [hih.1 w, hpba w]
          by_cases hw : v = w
          · subst hw; simp [hd]
          · simp [hw, Ne.symm hw]
        · rw [hih.2 w, hpba w, hlog w]
          by_cases hw : v = w
          · subst hw; simp [hpend, hd, hv]
          · simp [hw, Ne.symm hw]
    · rename_i hpend
      rw [if_neg hpend] at hok
      have hih := ih hnd (fun w hw => hconn w (List.mem_cons_of_mem _ hw)) hok
      refine ⟨fun w => ?_, fun w => ?_⟩
      · rw [hih.1 w]
        by_cases hw : w = v
        · subst hw; simp [hpend]
        · simp [hw]
      · rw [hih.2 w]
        by_cases hw : w = v
        · subst hw; simp [hpend]
        · simp [hw]

/-- A flush of one function does not touch another one. -/
theorem pciMsixFlushVectors_other (sink : Sink) (s : PciState) {d d' : Nat} (h : d' ≠ d)
    (vs : List Nat) : (pciMsixFlushVectors sink s d vs).devices d' = s.devices d' ∧
      ∀ v, deliveries (pciMsixFlushVectors sink s d vs).log d' v = deliveries s.log d' v := by
  induction vs generalizing s with
  | nil => exact ⟨rfl, fun v => rfl⟩
  | cons v vs ih =>
    unfold pciMsixFlushVectors
    split
    · obtain ⟨hdev, hlog⟩ := pciMsixDeliver_other sink s h v
      exact ⟨(ih _).1.trans hdev, fun w => ((ih _).2 w).trans (hlog w)⟩
    · exact ih s

theorem pciMsixFlushPending_other (sink : Sink) (s : PciState) {d d' : Nat} (h : d' ≠ d) :
    (pciMsixFlushPending sink s d).devices d' = s.devices d' ∧
      ∀ v, deliveries (pciMsixFlushPending sink s d).log d' v = deliveries s.log d' v := by
  unfold pciMsixFlushPending
  simp only
  split
  · exact ⟨rfl, fun v => rfl⟩
  · exact pciMsixFlushVectors_other sink s h _

end Vart
