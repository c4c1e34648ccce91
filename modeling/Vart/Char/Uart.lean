import Vart.Core.Irq

/-!
# The 16550 UART (`hw/char/uart16550.c`)

A UART without FIFOs: a received byte waits in `rbr`, and `LSR.DR` says that one is there. Every
change that the interrupt depends on is followed by `uartUpdateIrq`; if the interrupt line fails,
the change is taken back.

* `UartBoard.received`: the byte that waits.
* `uart16550Receive_cases`: a byte is taken exactly if the call succeeds.
* `uartReadRbr_cases`: a byte leaves exactly if the read succeeds.
* `uartRead_of_not_readsRbr`, `uartWrite_received`: no other access touches it.
-/

namespace Vart

/-- `VART_UART16550_LSR_DR`. -/
abbrev lsrDr : UInt8 := 0x01

/-- `VART_UART16550_LSR_THRE | VART_UART16550_LSR_TEMT`. -/
abbrev lsrIdle : UInt8 := 0x60

/-- `VART_UART16550_IER_RDI`. -/
abbrev ierRdi : UInt8 := 0x01

/-- `UART_IER_THRI`. -/
abbrev ierThri : UInt8 := 0x02

/-- `UART_LCR_DLAB`. -/
abbrev lcrDlab : UInt8 := 0x80

/-- `UART_IIR_NO_INT`, `UART_IIR_RDI` and `UART_IIR_THRI`. -/
abbrev iirNoInt : UInt8 := 0x01

@[inherit_doc iirNoInt] abbrev iirRdi : UInt8 := 0x04

@[inherit_doc iirNoInt] abbrev iirThri : UInt8 := 0x02

/-- `VartUart16550` without its place in the machine. -/
structure Uart16550 where
  ier : UInt8
  iir : UInt8
  fcr : UInt8
  lcr : UInt8
  mcr : UInt8
  lsr : UInt8
  msr : UInt8
  scr : UInt8
  rbr : UInt8
  divisor : UInt16
  /-- The interrupt line, if it is connected. -/
  irq : Option Nat
  /-- `output` is not `NULL`. -/
  output : Bool
deriving DecidableEq, Repr

/-- The UART with its surroundings: the interrupt lines and the bytes that went to `output`. -/
structure UartBoard where
  uart : Uart16550
  irqs : IrqState
  transmitted : List UInt8

/-! ## Functions -/

/-- A received byte waits and its interrupt is on. -/
def Uart16550.receivePending (u : Uart16550) : Bool :=
  u.ier &&& ierRdi != 0 && u.lsr &&& lsrDr != 0

/-- The interrupt for an empty transmitter, which is always empty, is on. -/
def Uart16550.transmitPending (u : Uart16550) : Bool := u.ier &&& ierThri != 0

/-- The interrupt identification of the pending interrupts. -/
def Uart16550.identification (u : Uart16550) : UInt8 :=
  if u.receivePending then iirRdi else if u.transmitPending then iirThri else iirNoInt

/-- `uart_update_irq`. -/
def uartUpdateIrq (sink : Sink) (b : UartBoard) : UartBoard × Status :=
  let pending := b.uart.receivePending || b.uart.transmitPending
  match b.uart.irq.elim (b.irqs, .ok ()) (irqSet sink b.irqs · pending) with
  | (irqs, .ok _) => ({ b with irqs, uart := { b.uart with iir := b.uart.identification } }, .ok ())
  | (irqs, .error e) => ({ b with irqs }, .error e)

/-- A read of `RBR`: case 0 of `uart_read` with `DLAB` clear. -/
def uartReadRbr (sink : Sink) (b : UartBoard) : UartBoard × Except Errno UInt8 :=
  let value := b.uart.rbr
  let b := { b with uart := { b.uart with lsr := b.uart.lsr &&& ~~~lsrDr } }
  match uartUpdateIrq sink b with
  | (b, .ok _) => (b, .ok value)
  | (b, .error e) => ({ b with uart := { b.uart with lsr := b.uart.lsr ||| lsrDr } }, .error e)

/-- `uart_read`. -/
def uartRead (sink : Sink) (b : UartBoard) (offset size : Nat) :
    UartBoard × Except Errno UInt8 :=
  if size ≠ 1 ∨ offset ≥ 8 then (b, .error .einval)
  else match offset with
  | 0 => if b.uart.lcr &&& lcrDlab ≠ 0 then (b, .ok b.uart.divisor.toUInt8) else uartReadRbr sink b
  | 1 => (b, .ok (if b.uart.lcr &&& lcrDlab ≠ 0 then (b.uart.divisor >>> 8).toUInt8
      else b.uart.ier))
  | 2 => (b, .ok b.uart.iir)
  | 3 => (b, .ok b.uart.lcr)
  | 4 => (b, .ok b.uart.mcr)
  | 5 => (b, .ok b.uart.lsr)
  | 6 => (b, .ok b.uart.msr)
  | 7 => (b, .ok b.uart.scr)
  | _ => (b, .error .einval)

/-- A write of `IER`: case 1 of `uart_write` with `DLAB` clear. -/
def uartWriteIer (sink : Sink) (b : UartBoard) (value : UInt64) : UartBoard × Status :=
  let oldIer := b.uart.ier
  match uartUpdateIrq sink { b with uart := { b.uart with ier := value.toUInt8 &&& 0x0f } } with
  | (b, .ok _) => (b, .ok ())
  | (b, .error e) => ({ b with uart := { b.uart with ier := oldIer } }, .error e)

/-- A change of registers that nothing else depends on. -/
def UartBoard.update (b : UartBoard) (f : Uart16550 → Uart16550) : UartBoard × Status :=
  ({ b with uart := f b.uart }, .ok ())

/-- `uart_write`. -/
def uartWrite (sink : Sink) (b : UartBoard) (offset size : Nat) (value : UInt64) :
    UartBoard × Status :=
  if size ≠ 1 ∨ offset ≥ 8 then (b, .error .einval)
  else match offset with
  | 0 =>
    if b.uart.lcr &&& lcrDlab ≠ 0 then
      b.update fun u => { u with divisor := (u.divisor &&& (0xff00 : UInt16)) ||| value.toUInt16 }
    else if b.uart.output then
      ({ b with transmitted := b.transmitted ++ [value.toUInt8] }, .ok ())
    else (b, .ok ())
  | 1 =>
    if b.uart.lcr &&& lcrDlab ≠ 0 then
      b.update fun u => { u with divisor := (u.divisor &&& (0x00ff : UInt16)) ||| (value <<< 8).toUInt16 }
    else uartWriteIer sink b value
  | 2 => b.update fun u => { u with fcr := value.toUInt8 &&& 0xc9 }
  | 3 => b.update fun u => { u with lcr := value.toUInt8 }
  | 4 => b.update fun u => { u with mcr := value.toUInt8 &&& 0x1f }
  | 5 => (b, .ok ())
  | 6 => (b, .ok ())
  | 7 => b.update fun u => { u with scr := value.toUInt8 }
  | _ => (b, .error .einval)

/-- `vart_uart16550_reset`. The lowering of the line may fail, which nobody looks at. -/
def uart16550Reset (sink : Sink) (b : UartBoard) : UartBoard where
  irqs := match b.uart.irq with
    | none => b.irqs
    | some irq => (irqLower sink b.irqs irq).1
  transmitted := b.transmitted
  uart :=
    { b.uart with
      ier := 0, iir := iirNoInt, fcr := 0, lcr := 0, mcr := 0, lsr := lsrIdle, msr := 0, scr := 0,
      rbr := 0, divisor := 0 }

/-- `vart_uart16550_connect_irq`. -/
def uart16550ConnectIrq (sink : Sink) (b : UartBoard) (irq : Nat) : UartBoard × Status :=
  match uartUpdateIrq sink { b with uart := { b.uart with irq := some irq } } with
  | (b, .ok _) => (b, .ok ())
  | (b, .error e) => ({ b with uart := { b.uart with irq := none } }, .error e)

/-- `vart_uart16550_receive`. -/
def uart16550Receive (sink : Sink) (b : UartBoard) (value : UInt8) : UartBoard × Status :=
  if b.uart.lsr &&& lsrDr ≠ 0 then (b, .error .eagain)
  else
    let oldRbr := b.uart.rbr
    let b := { b with uart := { b.uart with rbr := value, lsr := b.uart.lsr ||| lsrDr } }
    match uartUpdateIrq sink b with
    | (b, .ok _) => (b, .ok ())
    | (b, .error e) =>
      ({ b with uart := { b.uart with lsr := b.uart.lsr &&& ~~~lsrDr, rbr := oldRbr } }, .error e)

/-! ## The byte that waits -/

/-- The received byte that the guest has not read. -/
def UartBoard.received (b : UartBoard) : List UInt8 :=
  if b.uart.lsr &&& lsrDr ≠ 0 then [b.uart.rbr] else []

theorem received_of_dr {b : UartBoard} (h : b.uart.lsr &&& lsrDr ≠ 0) :
    b.received = [b.uart.rbr] := if_pos h

theorem received_of_not_dr {b : UartBoard} (h : b.uart.lsr &&& lsrDr = 0) : b.received = [] :=
  if_neg (not_not_intro h)

theorem received_congr {b b' : UartBoard} (hlsr : b'.uart.lsr = b.uart.lsr)
    (hrbr : b'.uart.rbr = b.uart.rbr) : b'.received = b.received := by
  rw [UartBoard.received, UartBoard.received, hlsr, hrbr]

theorem or_dr_and_dr (lsr : UInt8) : (lsr ||| lsrDr) &&& lsrDr ≠ 0 := by
  intro h
  have hbit := congrArg (fun x => x.toBitVec.getLsbD 0) h
  simp at hbit

theorem and_not_dr_and_dr (lsr : UInt8) : lsr &&& ~~~lsrDr &&& lsrDr = 0 := by
  rw [UInt8.and_assoc]
  simp

/-- The update touches neither the byte nor its status. -/
theorem uartUpdateIrq_keeps {sink : Sink} {b b' : UartBoard} {ret : Status}
    (h : uartUpdateIrq sink b = (b', ret)) :
    b'.uart.lsr = b.uart.lsr ∧ b'.uart.rbr = b.uart.rbr := by
  simp only [uartUpdateIrq] at h
  split at h <;> cases h <;> exact ⟨rfl, rfl⟩

/-- A byte is taken exactly if the call succeeds, and then none was waiting. -/
theorem uart16550Receive_cases (sink : Sink) (b : UartBoard) (value : UInt8) :
    (∃ b' e, uart16550Receive sink b value = (b', .error e) ∧ b'.received = b.received) ∨
    ∃ b', uart16550Receive sink b value = (b', .ok ()) ∧ b.received = [] ∧
      b'.received = [value] := by
  unfold uart16550Receive
  split
  · exact .inl ⟨b, .eagain, rfl, rfl⟩
  rename_i hdr
  have hempty := received_of_not_dr (not_not.mp hdr)
  dsimp only
  generalize hset : { b with uart := { b.uart with rbr := value, lsr := b.uart.lsr ||| lsrDr } } = c
  have hrbr : c.uart.rbr = value := by rw [← hset]
  have hlsr : c.uart.lsr = b.uart.lsr ||| lsrDr := by rw [← hset]
  split <;> rename_i c' _ hupdate <;> obtain ⟨hlsr', hrbr'⟩ := uartUpdateIrq_keeps hupdate
  · refine .inr ⟨c', rfl, hempty, ?_⟩
    have hdr' : c'.uart.lsr &&& lsrDr ≠ 0 := by
      rw [hlsr', hlsr]
      exact or_dr_and_dr _
    rw [received_of_dr hdr', hrbr', hrbr]
  · refine .inl ⟨_, _, rfl, ?_⟩
    rw [hempty, received_of_not_dr]
    exact and_not_dr_and_dr _

/-- The byte that waits leaves exactly if the read succeeds, and is the value that is read. -/
theorem uartReadRbr_cases (sink : Sink) {b : UartBoard} (hdr : b.uart.lsr &&& lsrDr ≠ 0) :
    (∃ b' e, uartReadRbr sink b = (b', .error e) ∧ b'.received = b.received) ∨
    ∃ b' v, uartReadRbr sink b = (b', .ok v) ∧ b.received = [v] ∧ b'.received = [] := by
  unfold uartReadRbr
  dsimp only
  generalize hset : { b with uart := { b.uart with lsr := b.uart.lsr &&& ~~~lsrDr } } = c
  have hrbr : c.uart.rbr = b.uart.rbr := by rw [← hset]
  have hlsr : c.uart.lsr = b.uart.lsr &&& ~~~lsrDr := by rw [← hset]
  split <;> rename_i c' _ hupdate <;> obtain ⟨hlsr', hrbr'⟩ := uartUpdateIrq_keeps hupdate
  · refine .inr ⟨c', _, rfl, received_of_dr hdr, received_of_not_dr ?_⟩
    rw [hlsr', hlsr]
    exact and_not_dr_and_dr _
  · refine .inl ⟨_, _, rfl, ?_⟩
    rw [received_of_dr hdr, received_of_dr (or_dr_and_dr _), ← hrbr, ← hrbr']

/-- The guest reads `RBR`. -/
def UartBoard.ReadsRbr (b : UartBoard) (offset size : Nat) : Prop :=
  offset = 0 ∧ size = 1 ∧ b.uart.lcr &&& lcrDlab = 0

instance UartBoard.ReadsRbr.decidable (b : UartBoard) (offset size : Nat) :
    Decidable (b.ReadsRbr offset size) :=
  inferInstanceAs (Decidable (_ ∧ _))

theorem uartRead_of_readsRbr (sink : Sink) {b : UartBoard} {offset size : Nat}
    (h : b.ReadsRbr offset size) : uartRead sink b offset size = uartReadRbr sink b := by
  obtain ⟨rfl, rfl, hdlab⟩ := h
  rw [uartRead, if_neg (by decide)]
  exact if_neg (not_not_intro hdlab)

/-- Every other read leaves the board as it is. -/
theorem uartRead_of_not_readsRbr (sink : Sink) {b : UartBoard} {offset size : Nat}
    (h : ¬ b.ReadsRbr offset size) : (uartRead sink b offset size).1 = b := by
  unfold uartRead
  split
  · rfl
  rename_i hvalid
  rw [not_or, not_not] at hvalid
  split
  · split
    · rfl
    · rename_i hdlab
      exact absurd ⟨rfl, hvalid.1, not_not.mp hdlab⟩ h
  all_goals rfl

theorem uartWriteIer_received (sink : Sink) (b : UartBoard) (value : UInt64) :
    (uartWriteIer sink b value).1.received = b.received := by
  unfold uartWriteIer
  dsimp only
  generalize hset : { b with uart := { b.uart with ier := value.toUInt8 &&& 0x0f } } = c
  have hc : c.received = b.received := by rw [← hset]; rfl
  split <;> rename_i c' _ hupdate <;> obtain ⟨hlsr, hrbr⟩ := uartUpdateIrq_keeps hupdate <;>
    exact (received_congr hlsr hrbr).trans hc

/-- No write of the guest touches the byte that waits. -/
theorem uartWrite_received (sink : Sink) (b : UartBoard) (offset size : Nat) (value : UInt64) :
    (uartWrite sink b offset size value).1.received = b.received := by
  unfold uartWrite
  split
  · rfl
  split
  · split
    · rfl
    · split <;> rfl
  · split
    · rfl
    · exact uartWriteIer_received sink b value
  all_goals rfl

theorem uart16550ConnectIrq_received (sink : Sink) (b : UartBoard) (irq : Nat) :
    (uart16550ConnectIrq sink b irq).1.received = b.received := by
  unfold uart16550ConnectIrq
  generalize hset : { b with uart := { b.uart with irq := some irq } } = c
  have hc : c.received = b.received := by rw [← hset]; rfl
  split <;> rename_i c' _ hupdate <;> obtain ⟨hlsr, hrbr⟩ := uartUpdateIrq_keeps hupdate <;>
    exact (received_congr hlsr hrbr).trans hc

end Vart
