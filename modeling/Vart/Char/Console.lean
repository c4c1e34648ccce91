import Vart.Char.Uart
import Vart.Lib.Reach
import Vart.Lib.Ring

/-!
# Console input (`hw/char/console.c`)

Input of the user waits in a ring of 4096 bytes until the UART takes it, one byte at a time.

* `Console.content`: the bytes in the ring. `consoleQueueInput_cases` and
  `consoleDrainLoop_pending` say what the two calls do to it.
* `ConsoleMachine`: the console, the UART, what was accepted and what the guest has read.
* `console_input_fifo`: along every run, what was accepted is what the guest has read, then the
  byte in the UART, then the ring.
-/

namespace Vart

open Lib

/-- `VART_CONSOLE_INPUT_CAPACITY`. -/
abbrev consoleInputCapacity : Nat := 4096

/-- `VartConsole`. -/
structure Console where
  input : Nat → UInt8
  inputHead : Nat
  inputCount : Nat
  head_lt : inputHead < consoleInputCapacity
  count_le : inputCount ≤ consoleInputCapacity

namespace Console

/-- `vart_console_init`. -/
def init : Console where
  input := fun _ => 0
  inputHead := 0
  inputCount := 0
  head_lt := Nat.zero_lt_succ _
  count_le := Nat.zero_le _

/-- The bytes in the ring, the oldest first. -/
def content (c : Console) : List UInt8 :=
  ringContent c.input consoleInputCapacity c.inputHead c.inputCount

/-- The oldest byte leaves the ring. -/
def advance (c : Console) : Console where
  input := c.input
  inputHead := (c.inputHead + 1) % consoleInputCapacity
  inputCount := c.inputCount - 1
  head_lt := Nat.mod_lt _ (Nat.zero_lt_succ _)
  count_le := Nat.le_trans (Nat.sub_le _ _) c.count_le

/-- `size` more bytes are in the array. -/
def extend (c : Console) (input : Nat → UInt8) (size : Nat)
    (h : size ≤ consoleInputCapacity - c.inputCount) : Console where
  input := input
  inputHead := c.inputHead
  inputCount := c.inputCount + size
  head_lt := c.head_lt
  count_le := by
    have := c.count_le
    omega

end Console

/-! ## Functions -/

/-- `vart_console_queue_input`: as much of `data` as there is space for. -/
def consoleQueueInput (c : Console) (data : List UInt8) : Console × Except Errno Nat :=
  if data.length = 0 then (c, .ok 0)
  else
    let space := consoleInputCapacity - c.inputCount
    if space = 0 then (c, .error .eagain)
    else
      let size := min data.length space
      let tail := (c.inputHead + c.inputCount) % consoleInputCapacity
      let first := min size (consoleInputCapacity - tail)
      let input := copyAt c.input tail (data.take first)
      let input := copyAt input 0 ((data.drop first).take (size - first))
      (c.extend input size (Nat.min_le_right _ _), .ok size)

/-- The loop of `vart_console_drain_input`; `n` is `input_count`. -/
def consoleDrainLoop (sink : Sink) :
    (n delivered : Nat) → Console → UartBoard → Console × UartBoard × Except Errno Nat
  | 0, delivered, c, b => (c, b, .ok delivered)
  | n + 1, delivered, c, b =>
    match uart16550Receive sink b (c.input c.inputHead) with
    | (b, .error .eagain) => (c, b, .ok delivered)
    | (b, .error e) => (c, b, .error e)
    | (b, .ok _) => consoleDrainLoop sink n (delivered + 1) c.advance b

/-- `vart_console_drain_input`. -/
def consoleDrainInput (sink : Sink) (c : Console) (b : UartBoard) :
    Console × UartBoard × Except Errno Nat :=
  consoleDrainLoop sink c.inputCount 0 c b

/-! ## One call -/

theorem content_extend (c : Console) (input : Nat → UInt8) {size : Nat}
    (h : size ≤ consoleInputCapacity - c.inputCount) : (c.extend input size h).content =
      ringContent input consoleInputCapacity c.inputHead (c.inputCount + size) := rfl

/-- The bytes that a call accepts are the start of its data and join the ring at its end. -/
theorem consoleQueueInput_cases (c : Console) (data : List UInt8) :
    (∃ e, consoleQueueInput c data = (c, .error e) ∧ c.inputCount = consoleInputCapacity) ∨
    ∃ c', consoleQueueInput c data =
        (c', .ok (min data.length (consoleInputCapacity - c.inputCount))) ∧
      c'.content = c.content ++ data.take (consoleInputCapacity - c.inputCount) := by
  have hle := c.count_le
  unfold consoleQueueInput
  split
  · rename_i hnil
    rw [List.eq_nil_of_length_eq_zero hnil]
    exact .inr ⟨c, by simp, by simp⟩
  dsimp only
  split
  · rename_i hfull
    exact .inl ⟨.eagain, rfl, by omega⟩
  refine .inr ⟨_, rfl, ?_⟩
  -- The two copies are those of the accepted prefix.
  generalize hacc : data.take (consoleInputCapacity - c.inputCount) = acc
  have hlen : min data.length (consoleInputCapacity - c.inputCount) = acc.length := by
    rw [← hacc, List.length_take, Nat.min_comm]
  generalize hfirst : min (min data.length (consoleInputCapacity - c.inputCount))
    (consoleInputCapacity - (c.inputHead + c.inputCount) % consoleInputCapacity) = first
  have htake : data.take first = acc.take first := by
    rw [← hacc, List.take_take, Nat.min_eq_left (by omega)]
  have hdrop : (data.drop first).take (acc.length - first) = acc.drop first := by
    rw [← hlen, ← hacc, List.drop_take, List.take_eq_take_iff, List.length_drop]
    omega
  rw [content_extend, hlen, htake, hdrop]
  exact ringContent_copies c.input c.head_lt (by omega) (by omega)

theorem count_advance {c : Console} {n : Nat} (h : c.inputCount = n + 1) :
    c.advance.inputCount = n :=
  Nat.sub_eq_of_eq_add h

theorem content_eq_cons {c : Console} {n : Nat} (h : c.inputCount = n + 1) :
    c.content = c.input c.inputHead :: c.advance.content := by
  rw [Console.content, h, ringContent_succ _ c.head_lt, Console.content, count_advance h]
  rfl

/-- Draining moves bytes from the ring to the UART and loses none. -/
theorem consoleDrainLoop_pending (sink : Sink) {n : Nat} (delivered : Nat) {c : Console}
    (b : UartBoard) (hn : c.inputCount = n) {c' : Console} {b' : UartBoard}
    {ret : Except Errno Nat} (h : consoleDrainLoop sink n delivered c b = (c', b', ret)) :
    b'.received ++ c'.content = b.received ++ c.content := by
  induction n generalizing delivered c b with
  | zero =>
    cases h
    rfl
  | succ n ih =>
    rw [consoleDrainLoop] at h
    obtain ⟨b₁, e, heq, hkept⟩ | ⟨b₁, heq, hempty, hbyte⟩ :=
      uart16550Receive_cases sink b (c.input c.inputHead)
    · rw [heq] at h
      -- Both error cases leave the loop with the ring as it is.
      have hend : (c', b') = (c, b₁) := by
        cases e <;> cases h <;> rfl
      cases hend
      rw [hkept]
    · rw [heq] at h
      rw [ih _ _ (count_advance hn) h, hbyte, hempty, content_eq_cons hn]
      rfl

/-! ## Runs -/

/-- The console and its UART. Two fields are not part of the program: the bytes that
`vart_console_queue_input` accepted and the bytes that reads of `RBR` returned. -/
structure ConsoleMachine where
  console : Console
  board : UartBoard
  accepted : List UInt8
  returned : List UInt8

/-- A call of the host or an access of the guest. -/
inductive ConsoleOp where
  | queueInput (data : List UInt8)
  | drainInput
  | connectIrq (irq : Nat)
  | read (offset size : Nat)
  | write (offset size : Nat) (value : UInt64)
deriving DecidableEq

/-- The result of `vart_console_queue_input`, in the record of what was accepted. -/
def ConsoleMachine.accept (s : ConsoleMachine) (data : List UInt8) :
    Console × Except Errno Nat → ConsoleMachine
  | (console, .ok size) => { s with console, accepted := s.accepted ++ data.take size }
  | (console, .error _) => { s with console }

/-- The result of a read of `RBR`, in the record of what was returned. -/
def ConsoleMachine.deliver (s : ConsoleMachine) : UartBoard × Except Errno UInt8 → ConsoleMachine
  | (board, .ok value) => { s with board, returned := s.returned ++ [value] }
  | (board, .error _) => { s with board }

def consoleStep (sink : Sink) (s : ConsoleMachine) : ConsoleOp → ConsoleMachine
  | .queueInput data => s.accept data (consoleQueueInput s.console data)
  | .drainInput =>
    let (console, board, _) := consoleDrainInput sink s.console s.board
    { s with console, board }
  | .connectIrq irq => { s with board := (uart16550ConnectIrq sink s.board irq).1 }
  | .read offset size =>
    if s.board.ReadsRbr offset size then s.deliver (uartRead sink s.board offset size)
    else { s with board := (uartRead sink s.board offset size).1 }
  | .write offset size value => { s with board := (uartWrite sink s.board offset size value).1 }

/-- A new console on a UART that holds no byte. -/
def ConsoleMachine.Initial (s : ConsoleMachine) : Prop :=
  s.console = .init ∧ s.board.received = [] ∧ s.accepted = [] ∧ s.returned = []

/-- The guest reads `RBR` only while `LSR.DR` is set. -/
def ConsoleMachine.Ready (s : ConsoleMachine) : ConsoleOp → Prop
  | .read offset size => s.board.ReadsRbr offset size → s.board.uart.lsr &&& lsrDr ≠ 0
  | _ => True

instance ConsoleMachine.Ready.decidable (s : ConsoleMachine) : (op : ConsoleOp) →
    Decidable (s.Ready op)
  | .queueInput _ => .isTrue trivial
  | .drainInput => .isTrue trivial
  | .connectIrq _ => .isTrue trivial
  | .read _ _ => inferInstanceAs (Decidable (_ → _))
  | .write _ _ _ => .isTrue trivial

/-- What was accepted and the guest has not read. -/
def ConsoleMachine.pending (s : ConsoleMachine) : List UInt8 :=
  s.board.received ++ s.console.content

/-- One step keeps the bytes in order: it adds what it accepts at the end and takes what it
returns from the front. -/
theorem consoleStep_fifo (sink : Sink) {s : ConsoleMachine} {op : ConsoleOp}
    (h : s.accepted = s.returned ++ s.pending) (hop : s.Ready op) :
    (consoleStep sink s op).accepted =
      (consoleStep sink s op).returned ++ (consoleStep sink s op).pending := by
  cases op with
  | queueInput data =>
    obtain ⟨e, heq, -⟩ | ⟨c', heq, hcontent⟩ := consoleQueueInput_cases s.console data
    · rw [consoleStep, heq]
      exact h
    · have htake : data.take (min data.length (consoleInputCapacity - s.console.inputCount)) =
          data.take (consoleInputCapacity - s.console.inputCount) := by
        rw [List.take_eq_take_iff]
        omega
      rw [consoleStep, heq, ConsoleMachine.accept, htake]
      simp only [h, ConsoleMachine.pending, hcontent, List.append_assoc]
  | drainInput =>
    have hpending := consoleDrainLoop_pending sink 0 s.board (c := s.console) rfl rfl
    show s.accepted = s.returned ++ _
    rw [h, ConsoleMachine.pending, ← hpending]
    rfl
  | connectIrq irq =>
    show s.accepted = s.returned ++
      ((uart16550ConnectIrq sink s.board irq).1.received ++ s.console.content)
    rw [uart16550ConnectIrq_received]
    exact h
  | read offset size =>
    rw [consoleStep]
    split
    · rename_i hrbr
      rw [uartRead_of_readsRbr sink hrbr]
      obtain ⟨b', e, heq, hkept⟩ | ⟨b', v, heq, hbyte, hempty⟩ :=
        uartReadRbr_cases sink (hop hrbr)
      · rw [heq]
        show s.accepted = s.returned ++ (b'.received ++ s.console.content)
        rw [hkept]
        exact h
      · rw [heq]
        show s.accepted = (s.returned ++ [v]) ++ (b'.received ++ s.console.content)
        rw [h, ConsoleMachine.pending, hbyte, hempty]
        simp
    · rename_i hrbr
      rw [uartRead_of_not_readsRbr sink hrbr]
      exact h
  | write offset size value =>
    show s.accepted = s.returned ++
      ((uartWrite sink s.board offset size value).1.received ++ s.console.content)
    rw [uartWrite_received]
    exact h

/-- Console input is a lossless queue. Whatever the interrupt line does, the bytes that the guest
has read, the byte that waits in the UART and the ring together are the accepted input, in
order. -/
theorem console_input_fifo (sink : Sink) {s : ConsoleMachine}
    (h : Reach (consoleStep sink) ConsoleMachine.Initial ConsoleMachine.Ready s) :
    s.accepted = s.returned ++ ((if s.board.uart.lsr &&& lsrDr ≠ 0 then [s.board.uart.rbr] else [])
      ++ s.console.content) := by
  refine h.invariant (I := fun s => s.accepted = s.returned ++ s.pending) ?_ ?_
  · rintro s ⟨hconsole, hreceived, haccepted, hreturned⟩
    rw [haccepted, hreturned, ConsoleMachine.pending, hreceived, hconsole]
    rfl
  · intro s op hs hop
    exact consoleStep_fifo sink hs hop

/-- A console on a UART after a reset, with its interrupt on line 10. -/
def freshConsole : ConsoleMachine where
  console := .init
  board := uart16550Reset (fun _ => .ok ())
    { uart := ⟨0, 0, 0, 0, 0, 0, 0, 0, 0, 0, some 10, true⟩, irqs := .init, transmitted := [] }
  accepted := []
  returned := []

/-- The third callback of the interrupt line fails. -/
def failsThird : Sink := fun n => if n = 2 then .error .eio else .ok ()

/-- The guest turns the receive interrupt on and reads two bytes; the interrupt line fails once. -/
def typedAbc : List ConsoleOp :=
  [.write 1 1 1, .queueInput [97, 98, 99], .drainInput, .read 0 1, .drainInput, .drainInput,
    .read 0 1]

theorem freshConsole_reach :
    Reach (consoleStep failsThird) ConsoleMachine.Initial ConsoleMachine.Ready freshConsole :=
  .start ⟨rfl, rfl, rfl, rfl⟩

theorem typedAbc_fifo :
    (runFrom (consoleStep failsThird) freshConsole typedAbc).returned = [97, 98] ∧
    (runFrom (consoleStep failsThird) freshConsole typedAbc).accepted =
      (runFrom (consoleStep failsThird) freshConsole typedAbc).returned ++
        ((if (runFrom (consoleStep failsThird) freshConsole typedAbc).board.uart.lsr &&& lsrDr ≠ 0
          then [(runFrom (consoleStep failsThird) freshConsole typedAbc).board.uart.rbr] else [])
        ++ (runFrom (consoleStep failsThird) freshConsole typedAbc).console.content) :=
  ⟨by decide +kernel,
    console_input_fifo failsThird (freshConsole_reach.runFrom (by decide +kernel))⟩

end Vart
