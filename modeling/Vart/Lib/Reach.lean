/-!
# Runs of a machine and their invariants

A machine is a step function `step : σ → α → σ` on states `σ` and operations `α`; `allowed s a`
says which operations may come next. `Reach` is the set of states that a run reaches.

* `Reach.invariant`: a property that holds initially and that every allowed step keeps holds in
  every reached state.
* `Reach.mono`: a run that meets a stronger condition at each step is also a run of the weaker
  machine.
* `runFrom`: the state after a list of operations, and `Allowed`: each of them was allowed where
  it was taken.
* `Throughout`: a property of every state of a run, and `throughout_iff_allowed`: which runs have it.
-/

namespace Lib

variable {σ α : Type} {step : σ → α → σ} {init : σ → Prop} {allowed : σ → α → Prop}

/-- The states that a run of allowed operations reaches from an initial state. -/
inductive Reach (step : σ → α → σ) (init : σ → Prop) (allowed : σ → α → Prop) : σ → Prop
  | start {s : σ} : init s → Reach step init allowed s
  | next {s : σ} {a : α} : Reach step init allowed s → allowed s a →
      Reach step init allowed (step s a)

theorem Reach.invariant {I : σ → Prop} (h0 : ∀ s, init s → I s)
    (hstep : ∀ s a, I s → allowed s a → I (step s a)) {s : σ} (h : Reach step init allowed s) :
    I s := by
  induction h with
  | start hi => exact h0 _ hi
  | next _ ha ih => exact hstep _ _ ih ha

theorem Reach.mono {allowed' : σ → α → Prop} (hle : ∀ s a, allowed s a → allowed' s a) {s : σ}
    (h : Reach step init allowed s) : Reach step init allowed' s := by
  induction h with
  | start hi => exact .start hi
  | next _ ha ih => exact .next ih (hle _ _ ha)

/-- The state after the operations `as`, the first one first. -/
def runFrom (step : σ → α → σ) (s : σ) (as : List α) : σ := as.foldl step s

@[simp] theorem runFrom_nil (s : σ) : runFrom step s [] = s := rfl

@[simp] theorem runFrom_cons (s : σ) (a : α) (as : List α) :
    runFrom step s (a :: as) = runFrom step (step s a) as := rfl

/-- Every operation of `as` is allowed in the state it is taken in. -/
def Allowed (step : σ → α → σ) (allowed : σ → α → Prop) : σ → List α → Prop
  | _, [] => True
  | s, a :: as => allowed s a ∧ Allowed step allowed (step s a) as

/-- A condition on the operations alone. -/
theorem Allowed.of_forall {good : α → Prop} {as : List α} (h : ∀ a ∈ as, good a) (s : σ) :
    Allowed step (fun _ a => good a) s as := by
  induction as generalizing s with
  | nil => trivial
  | cons a as ih =>
    exact ⟨h a List.mem_cons_self, ih (fun b hb => h b (List.mem_cons_of_mem _ hb)) (step s a)⟩

/-- Two conditions on the operations that agree where an invariant holds. -/
theorem allowed_congr {I : σ → Prop} {good good' : σ → α → Prop} (hI : ∀ s a, I s → I (step s a))
    (h : ∀ s a, I s → (good s a ↔ good' s a)) {s : σ} (hs : I s) (as : List α) :
    Allowed step good s as ↔ Allowed step good' s as := by
  induction as generalizing s with
  | nil => exact Iff.rfl
  | cons a as ih => exact and_congr (h s a hs) (ih (hI s a hs))

instance Allowed.decidable [∀ s a, Decidable (allowed s a)] :
    (s : σ) → (as : List α) → Decidable (Allowed step allowed s as)
  | _, [] => .isTrue trivial
  | s, a :: as =>
    have := Allowed.decidable (step s a) as
    inferInstanceAs (Decidable (allowed s a ∧ Allowed step allowed (step s a) as))

/-- `P` holds in every state of a run, the first and the last one included. -/
def Throughout (step : σ → α → σ) (P : σ → Prop) : σ → List α → Prop
  | s, [] => P s
  | s, a :: as => P s ∧ Throughout step P (step s a) as

/-- What follows from an invariant holds throughout a run. -/
theorem Throughout.of_invariant {I P : σ → Prop} (hI : ∀ s a, I s → allowed s a → I (step s a))
    (hP : ∀ s, I s → P s) {s : σ} {as : List α} (hs : I s) (ha : Allowed step allowed s as) :
    Throughout step P s as := by
  induction as generalizing s with
  | nil => exact hP s hs
  | cons a as ih => exact ⟨hP s hs, ih (hI s a hs ha.1) ha.2⟩

/-- If a step keeps `P` exactly if it is `good`, then `P` holds in a run exactly if all of its steps
are. -/
theorem throughout_iff_allowed {I P : σ → Prop} {good : σ → α → Prop}
    (hI : ∀ s a, I s → P s → allowed s a → I (step s a))
    (hstep : ∀ s a, I s → P s → allowed s a → (P (step s a) ↔ good s a)) {s : σ} {as : List α}
    (hs : I s) (hP : P s) (ha : Allowed step allowed s as) :
    Throughout step P s as ↔ Allowed step good s as := by
  induction as generalizing s with
  | nil => exact iff_of_true hP trivial
  | cons a as ih =>
    have hgood := hstep s a hs hP ha.1
    constructor
    · rintro ⟨-, hrest⟩
      have hP' : P (step s a) := by
        cases as with
        | nil => exact hrest
        | cons b bs => exact hrest.1
      exact ⟨hgood.mp hP', (ih (hI s a hs hP ha.1) hP' ha.2).mp hrest⟩
    · rintro ⟨hg, hrest⟩
      have hP' := hgood.mpr hg
      exact ⟨hP, (ih (hI s a hs hP ha.1) hP' ha.2).mpr hrest⟩

theorem Reach.runFrom {s : σ} (h : Reach step init allowed s) {as : List α}
    (ha : Allowed step allowed s as) : Reach step init allowed (runFrom step s as) := by
  induction as generalizing s with
  | nil => exact h
  | cons a as ih => exact ih (.next h ha.1) ha.2

end Lib
