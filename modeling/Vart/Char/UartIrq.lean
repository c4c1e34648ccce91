import Vart.Char.Uart
import Vart.Lib.Reach

/-!
# The interrupt of the UART

After its interrupt line is connected, the UART keeps the line at the level that its registers ask
for. An access changes registers first and takes the change back if the line cannot follow. The line
is only called when its level has to change, so a failure means that the access changed something,
and what is taken back is exactly that.

* `InStep irq b`: the line and the identification register follow the other registers.
* `uartUpdateIrq_cases`: the line follows, or it stays and the level was another one.
* `uartStep_transactional`: an access keeps `InStep`, or fails and leaves registers and levels.
* `uart_interrupt_state`: every state of a run.
-/

namespace Vart

open Lib

/-- What the guest and the input of the user do to the UART. -/
inductive UartOp where
  | read (offset size : Nat)
  | write (offset size : Nat) (value : UInt64)
  | receive (value : UInt8)

def uartStep (sink : Sink) (b : UartBoard) : UartOp → UartBoard × Status
  | .read offset size =>
    let r := uartRead sink b offset size
    (r.1, r.2.map fun _ => ())
  | .write offset size value => uartWrite sink b offset size value
  | .receive value => uart16550Receive sink b value

/-- The level that the registers ask for. -/
def Uart16550.interrupt (u : Uart16550) : Bool := u.receivePending || u.transmitPending

/-- The line and the identification register follow the other registers. -/
structure InStep (irq : Nat) (b : UartBoard) : Prop where
  connected : b.uart.irq = some irq
  level : b.irqs.level irq = b.uart.interrupt
  iir : b.uart.iir = b.uart.identification

variable {sink : Sink} {b : UartBoard} {irq : Nat}

/-- The line follows the registers, or the call of its sink fails and changes nothing. -/
theorem uartUpdateIrq_cases (sink : Sink) (hirq : b.uart.irq = some irq) :
    (∃ c, uartUpdateIrq sink b = (c, .ok ()) ∧ InStep irq c) ∨
    ∃ irqs e, uartUpdateIrq sink b = ({ b with irqs }, .error e) ∧ irqs.level = b.irqs.level ∧
      b.irqs.level irq ≠ b.uart.interrupt := by
  have hset : (b.irqs.level irq = b.uart.interrupt ∧
        irqSet sink b.irqs irq b.uart.interrupt = (b.irqs, .ok ())) ∨
      (b.irqs.level irq ≠ b.uart.interrupt ∧ ∃ irqs ret,
        irqSet sink b.irqs irq b.uart.interrupt = (irqs, ret) ∧
        (ret = .ok () ∧ irqs.level irq = b.uart.interrupt ∨
          (∃ e, ret = .error e) ∧ irqs.level = b.irqs.level)) := by
    unfold irqSet irqCallback
    split
    · exact .inl ⟨‹_›, rfl⟩
    refine .inr ⟨‹_›, ?_⟩
    cases hsink : sink b.irqs.calls with
    | error e => exact ⟨_, _, rfl, .inr ⟨⟨e, rfl⟩, rfl⟩⟩
    | ok u => exact ⟨_, _, rfl, .inl ⟨rfl, Function.update_self ..⟩⟩
  have hline : b.uart.irq.elim (b.irqs, .ok ()) (irqSet sink b.irqs · (b.uart.receivePending ||
      b.uart.transmitPending)) = irqSet sink b.irqs irq b.uart.interrupt := by
    rw [hirq]
    rfl
  unfold uartUpdateIrq
  dsimp only
  rw [hline]
  obtain ⟨hlevel, heq⟩ | ⟨hne, irqs, ret, heq, ⟨rfl, hlevel⟩ | ⟨⟨e, rfl⟩, hlevel⟩⟩ := hset
  · rw [heq]
    exact .inl ⟨_, rfl, hirq, hlevel, rfl⟩
  · rw [heq]
    exact .inl ⟨_, rfl, hirq, hlevel, rfl⟩
  · rw [heq]
    exact .inr ⟨irqs, e, rfl, hlevel, hne⟩

/-- An access that succeeds, or that fails and leaves the registers and the levels. -/
def Transactional (irq : Nat) (b : UartBoard) (r : UartBoard × Status) : Prop :=
  (r.2 = .ok () ∧ InStep irq r.1) ∨
    ((∃ e, r.2 = .error e) ∧ r.1.uart = b.uart ∧ r.1.irqs.level = b.irqs.level)

theorem Transactional.same {b : UartBoard} {e : Errno} : Transactional irq b (b, .error e) :=
  .inr ⟨⟨e, rfl⟩, rfl, rfl⟩

theorem Transactional.inStep {r : UartBoard × Status} (h : Transactional irq b r)
    (hb : InStep irq b) : InStep irq r.1 := by
  obtain ⟨-, hr⟩ | ⟨-, huart, hlevel⟩ := h
  · exact hr
  · exact ⟨huart ▸ hb.connected, by rw [huart, hlevel]; exact hb.level, by rw [huart]; exact hb.iir⟩

/-- Registers change that the interrupt does not depend on. -/
theorem InStep.update (h : InStep irq b) (f : Uart16550 → Uart16550)
    (hf : (f b.uart).irq = b.uart.irq ∧ (f b.uart).ier = b.uart.ier ∧
      (f b.uart).lsr = b.uart.lsr ∧ (f b.uart).iir = b.uart.iir) :
    Transactional irq b (b.update f) := by
  obtain ⟨hirq, hier, hlsr, hiir⟩ := hf
  have hreceive : (f b.uart).receivePending = b.uart.receivePending := by
    rw [Uart16550.receivePending, hier, hlsr, ← Uart16550.receivePending]
  have htransmit : (f b.uart).transmitPending = b.uart.transmitPending := by
    rw [Uart16550.transmitPending, hier, ← Uart16550.transmitPending]
  refine .inl ⟨rfl, hirq.trans h.connected, ?_, ?_⟩
  · show b.irqs.level irq = ((f b.uart).receivePending || (f b.uart).transmitPending)
    rw [hreceive, htransmit]
    exact h.level
  · show (f b.uart).iir = (f b.uart).identification
    rw [Uart16550.identification, hreceive, htransmit, hiir]
    exact h.iir

/-! ## Accesses -/

/-- The bit `DR` is taken from the status and put back. -/
theorem clear_or_dr {lsr : UInt8} (h : lsr &&& lsrDr ≠ 0) : lsr &&& ~~~lsrDr ||| lsrDr = lsr := by
  obtain ⟨x⟩ := lsr
  revert x
  decide +kernel

theorem clear_dr {lsr : UInt8} (h : lsr &&& lsrDr = 0) : lsr &&& ~~~lsrDr = lsr := by
  obtain ⟨x⟩ := lsr
  revert x
  decide +kernel

theorem or_clear_dr {lsr : UInt8} (h : lsr &&& lsrDr = 0) :
    (lsr ||| lsrDr) &&& ~~~lsrDr = lsr := by
  obtain ⟨x⟩ := lsr
  revert x
  decide +kernel

/-- A read of `RBR`. It fails only if there was a byte to take. -/
theorem uartReadRbr_transactional (sink : Sink) (h : InStep irq b) :
    Transactional irq b ((uartReadRbr sink b).1, (uartReadRbr sink b).2.map fun _ => ()) := by
  unfold uartReadRbr
  dsimp only
  obtain ⟨c, hupdate, hc⟩ | ⟨irqs, e, hupdate, hlevel, hne⟩ := uartUpdateIrq_cases sink
    (b := { b with uart := { b.uart with lsr := b.uart.lsr &&& ~~~lsrDr } }) h.connected
  · rw [hupdate]
    exact .inl ⟨rfl, hc⟩
  · rw [hupdate]
    have hdr : b.uart.lsr &&& lsrDr ≠ 0 := by
      intro hnone
      rw [clear_dr hnone] at hne
      exact hne h.level
    refine .inr ⟨⟨e, rfl⟩, ?_, hlevel⟩
    dsimp only
    rw [clear_or_dr hdr]

theorem uartRead_transactional (sink : Sink) (h : InStep irq b) (offset size : Nat) :
    Transactional irq b (uartStep sink b (.read offset size)) := by
  unfold uartStep
  dsimp only
  by_cases hrbr : b.ReadsRbr offset size
  · rw [uartRead_of_readsRbr sink hrbr]
    exact uartReadRbr_transactional sink h
  · rw [uartRead_of_not_readsRbr sink hrbr]
    generalize (uartRead sink b offset size).2 = r
    cases r with
    | error e => exact .same
    | ok value => exact .inl ⟨rfl, h⟩

theorem uartWriteIer_transactional (sink : Sink) (h : InStep irq b) (value : UInt64) :
    Transactional irq b (uartWriteIer sink b value) := by
  unfold uartWriteIer
  dsimp only
  obtain ⟨c, hupdate, hc⟩ | ⟨irqs, e, hupdate, hlevel, -⟩ := uartUpdateIrq_cases sink
    (b := { b with uart := { b.uart with ier := value.toUInt8 &&& 0x0f } }) h.connected
  · rw [hupdate]
    exact .inl ⟨rfl, hc⟩
  · rw [hupdate]
    exact .inr ⟨⟨e, rfl⟩, rfl, hlevel⟩

theorem uartWrite_transactional (sink : Sink) (h : InStep irq b) (offset size : Nat)
    (value : UInt64) : Transactional irq b (uartWrite sink b offset size value) := by
  have hsame : Transactional irq b (b, .ok ()) := .inl ⟨rfl, h⟩
  unfold uartWrite
  split
  · exact .same
  split
  · split
    · exact h.update _ ⟨rfl, rfl, rfl, rfl⟩
    split
    · exact .inl ⟨rfl, h.connected, h.level, h.iir⟩
    · exact hsame
  · split
    · exact h.update _ ⟨rfl, rfl, rfl, rfl⟩
    · exact uartWriteIer_transactional sink h value
  · exact h.update _ ⟨rfl, rfl, rfl, rfl⟩
  · exact h.update _ ⟨rfl, rfl, rfl, rfl⟩
  · exact h.update _ ⟨rfl, rfl, rfl, rfl⟩
  · exact hsame
  · exact hsame
  · exact h.update _ ⟨rfl, rfl, rfl, rfl⟩
  · exact .same

theorem uart16550Receive_transactional (sink : Sink) (h : InStep irq b) (value : UInt8) :
    Transactional irq b (uart16550Receive sink b value) := by
  unfold uart16550Receive
  split
  · exact .same
  rename_i hdr
  dsimp only
  obtain ⟨c, hupdate, hc⟩ | ⟨irqs, e, hupdate, hlevel, -⟩ := uartUpdateIrq_cases sink
    (b := { b with uart := { b.uart with rbr := value, lsr := b.uart.lsr ||| lsrDr } }) h.connected
  · rw [hupdate]
    exact .inl ⟨rfl, hc⟩
  · rw [hupdate]
    refine .inr ⟨⟨e, rfl⟩, ?_, hlevel⟩
    dsimp only
    rw [or_clear_dr (not_not.1 hdr)]

theorem uartStep_transactional (sink : Sink) (h : InStep irq b) (op : UartOp) :
    Transactional irq b (uartStep sink b op) := by
  cases op with
  | read offset size => exact uartRead_transactional sink h offset size
  | write offset size value => exact uartWrite_transactional sink h offset size value
  | receive value => exact uart16550Receive_transactional sink h value

/-! ## Runs -/

/-- The board after its line was connected. -/
def UartConnected (sink : Sink) (irq : Nat) (b : UartBoard) : Prop :=
  ∃ b₀, uart16550ConnectIrq sink b₀ irq = (b, .ok ())

theorem UartConnected.inStep (h : UartConnected sink irq b) : InStep irq b := by
  obtain ⟨b₀, hconnect⟩ := h
  unfold uart16550ConnectIrq at hconnect
  obtain ⟨c, hupdate, hc⟩ | ⟨irqs, e, hupdate, -⟩ := uartUpdateIrq_cases sink
    (b := { b₀ with uart := { b₀.uart with irq := some irq } }) rfl
  · rw [hupdate] at hconnect
    cases hconnect
    exact hc
  · rw [hupdate] at hconnect
    cases hconnect

/-- After the line was connected, whatever the guest reads and writes, whatever is received and
whichever calls of the sink fail: the line has the level that `IER` and `LSR` ask for, `IIR` reports
received data first and then the empty transmitter, and an operation that fails changes neither the
registers nor a level. -/
theorem uart_interrupt_state (h : Reach (fun b op => (uartStep sink b op).1) (UartConnected sink irq)
    (fun _ _ => True) b) :
    b.irqs.level irq = (b.uart.ier &&& ierRdi != 0 && b.uart.lsr &&& lsrDr != 0 ||
      b.uart.ier &&& ierThri != 0) ∧
    (uartRead sink b 2 1).2 = .ok (
      if b.uart.ier &&& ierRdi ≠ 0 ∧ b.uart.lsr &&& lsrDr ≠ 0 then 0x04
      else if b.uart.ier &&& ierThri ≠ 0 then 0x02 else 0x01) ∧
    ∀ op e, (uartStep sink b op).2 = .error e →
      (uartStep sink b op).1.uart = b.uart ∧ (uartStep sink b op).1.irqs.level = b.irqs.level := by
  have hb : InStep irq b := h.invariant (I := InStep irq) (fun _ hi => hi.inStep)
    fun c op hc _ => (uartStep_transactional sink hc op).inStep hc
  refine ⟨hb.level, ?_, fun op e herror => ?_⟩
  · show Except.ok b.uart.iir = _
    rw [hb.iir, Uart16550.identification, Uart16550.receivePending, Uart16550.transmitPending]
    simp only [Bool.and_eq_true, bne_iff_ne, ne_eq]
  · obtain ⟨hok, -⟩ | ⟨-, hsame⟩ := uartStep_transactional sink hb op
    · rw [hok] at herror
      cases herror
    · exact hsame

/-- A UART on line 0 with the receive interrupt on. -/
def uartListening : UartBoard where
  uart := ⟨0x01, iirNoInt, 0, 0, 0, lsrIdle, 0, 0, 0, 0, some 0, true⟩
  irqs := .init
  transmitted := []

/-- The first call of the sink fails: the byte is refused. -/
theorem uartListening_refuses :
    (uartStep (fun _ => .error .eio) uartListening (.receive 0x41)).2 = .error .eio ∧
      (uartStep (fun _ => .error .eio) uartListening (.receive 0x41)).1.uart = uartListening.uart ∧
      uartListening.irqs.level 0 = false := by
  have hconnect : UartConnected (fun _ => .error .eio) 0 uartListening :=
    ⟨{ uartListening with uart := { uartListening.uart with irq := none } }, rfl⟩
  obtain ⟨hlevel, -, herror⟩ := uart_interrupt_state (.start hconnect)
  have hfails : (uartStep (fun _ => .error .eio) uartListening (.receive 0x41)).2 = .error .eio := by
    decide
  exact ⟨hfails, (herror _ _ hfails).1, hlevel.trans (by decide)⟩

end Vart
