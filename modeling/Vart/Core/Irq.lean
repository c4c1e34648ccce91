import Mathlib.Logic.Function.Basic
import Vart.Core.Errno

/-!
# Interrupt lines (`core/irq.c`)

A line remembers its level and calls its `set` callback when the level changes. The callback
belongs to the interrupt controller and may fail, so a `Sink` says what each callback returns: the
`n`-th one returns `sink n`. MSI-X injection is a callback of the same kind.
-/

namespace Vart

/-- What the interrupt callbacks return, in the order they are called. -/
abbrev Sink := Nat → Status

/-- The levels of the lines and the number of callbacks made. -/
structure IrqState where
  level : Nat → Bool
  calls : Nat

def IrqState.init : IrqState := ⟨fun _ => false, 0⟩

/-- One callback. -/
def irqCallback (sink : Sink) (st : IrqState) : IrqState × Status :=
  ({ st with calls := st.calls + 1 }, sink st.calls)

/-- `vart_irq_set`. -/
def irqSet (sink : Sink) (st : IrqState) (irq : Nat) (level : Bool) : IrqState × Status :=
  if st.level irq = level then (st, .ok ())
  else match irqCallback sink st with
  | (st, .error e) => (st, .error e)
  | (st, .ok _) => ({ st with level := Function.update st.level irq level }, .ok ())

def irqRaise (sink : Sink) (st : IrqState) (irq : Nat) : IrqState × Status := irqSet sink st irq true

def irqLower (sink : Sink) (st : IrqState) (irq : Nat) : IrqState × Status := irqSet sink st irq false

/-- `vart_irq_pulse`. -/
def irqPulse (sink : Sink) (st : IrqState) (irq : Nat) : IrqState × Status :=
  if st.level irq then (st, .error .einval)
  else match irqRaise sink st irq with
  | (st, .error e) => (st, .error e)
  | (st, .ok _) => irqLower sink st irq

/-- A sink that never fails. -/
def Sink.Reliable (sink : Sink) : Prop := ∀ n, sink n = .ok ()

end Vart
