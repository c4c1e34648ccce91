/-!
# Outcomes of functions that return at the first error

A function takes a state and leaves a state with a result behind, also when it fails.

* `andThen r f`: the next part of a function that returns at the first error.
* `Outcome r ok fail`: a postcondition, `ok` after a success and `fail` after an error.
  `Outcome.andThen` is the rule for sequences, `Outcome.mono` the rule of consequence.
-/

namespace Lib

variable {σ ε : Type}

def andThen (r : σ × Except ε Unit) (f : σ → σ × Except ε Unit) : σ × Except ε Unit :=
  match r with
  | (s, .error e) => (s, .error e)
  | (s, .ok _) => f s

/-- The state after a success meets `ok`, the state after an error meets `fail`. -/
def Outcome (r : σ × Except ε Unit) (ok fail : σ → Prop) : Prop :=
  match r with
  | (s, .ok _) => ok s
  | (s, .error _) => fail s

theorem Outcome.andThen {r : σ × Except ε Unit} {f : σ → σ × Except ε Unit}
    {mid ok fail : σ → Prop} (hr : Outcome r mid fail) (hf : ∀ s, mid s → Outcome (f s) ok fail) :
    Outcome (andThen r f) ok fail := by
  obtain ⟨s, e | _⟩ := r
  · exact hr
  · exact hf s hr

theorem Outcome.mono {r : σ × Except ε Unit} {ok fail ok' fail' : σ → Prop}
    (h : Outcome r ok fail) (hok : ∀ s, ok s → ok' s) (hfail : ∀ s, fail s → fail' s) :
    Outcome r ok' fail' := by
  obtain ⟨s, e | _⟩ := r
  · exact hfail s h
  · exact hok s h

/-- What holds either way holds of the state that is left behind. -/
theorem Outcome.state {r : σ × Except ε Unit} {P : σ → Prop} (h : Outcome r P P) : P r.1 := by
  obtain ⟨s, e | _⟩ := r <;> exact h

end Lib
