import Mathlib.Data.List.Basic

/-!
# Loops that empty a queue

A handler takes items until there are none, works on each one, and tells the other side at the end
that it has done some. `Drain` is such a loop with its three calls; the first call that fails ends
it. `Drain.run` counts the rounds, because the other side may add items for ever.

`Drain.Traced` gives the calls a log. `Drain.complete_iff` says when the loop does what the other
side waits for (`Complete`): every item that was taken is done, in order, and announced. It does
so exactly if every item can be served and then be announced (`Conditions.Clean`), or if the very
first call fails. What it takes to serve and to announce is up to the user of the loop: it is a
parameter, and `Drain.Meets` says that the calls agree with it.
-/

namespace Lib

/-- What a handler did. -/
inductive DrainEvent (ι : Type) where
  | taken (i : ι)
  | done (i : ι)
  | announced
deriving DecidableEq, Repr

namespace DrainEvent

variable {ι : Type}

def taken? : DrainEvent ι → Option ι
  | .taken i => some i
  | _ => none

def done? : DrainEvent ι → Option ι
  | .done i => some i
  | _ => none

/-- A call that succeeds is an event; one that fails is none. -/
def ofResult {ε α : Type} (event : α → DrainEvent ι) : Except ε α → List (DrainEvent ι)
  | .ok a => [event a]
  | .error _ => []

end DrainEvent

/-- The calls of a handler. `empty e` says that the error `e` of `take` means that there is no
item. -/
structure Drain (σ κ ε : Type) where
  take : σ → σ × Except ε κ
  empty : ε → Bool
  handle : σ → κ → σ × Except ε Unit
  announce : σ → σ × Except ε Unit

/-- What the environment of a handler allows: an item `k` can be taken, there is none left, an item
can be served, the served ones can be announced. The last argument of the first three is the state
afterwards. -/
structure Conditions (σ κ : Type) where
  taken : σ → κ → σ → Prop
  drained : σ → σ → Prop
  served : σ → κ → σ → Prop
  ready : σ → Prop

namespace Conditions

variable {σ κ : Type} (C : Conditions σ κ)

/-- From `s` on, every item that is taken can be served, until there is none left, and the done
ones can be announced. -/
inductive Clean : Bool → σ → Prop
  | stop {completed : Bool} {s t : σ} (drained : C.drained s t)
      (announce : completed = true → C.ready t) : Clean completed s
  | next {completed : Bool} {s t u : σ} {k : κ} (take : C.taken s k t) (serve : C.served t k u)
      (rest : Clean true u) : Clean completed s

/-- No item can be taken, for another reason than that there is none. -/
def Refused (s : σ) : Prop := (∀ k t, ¬ C.taken s k t) ∧ ∀ t, ¬ C.drained s t

end Conditions

namespace Drain

variable {σ κ ε ι : Type} (d : Drain σ κ ε)

/-- The loop. `completed`: an item was done before. `none`: the loop is still running after `fuel`
rounds. -/
def run : (fuel : Nat) → (completed : Bool) → σ → Option (σ × Except ε Unit)
  | 0, _, _ => none
  | fuel + 1, completed, s =>
    match d.take s with
    | (s, .error e) =>
      if d.empty e then
        if completed then some (d.announce s) else some (s, .ok ())
      else some (s, .error e)
    | (s, .ok k) =>
      match d.handle s k with
      | (s, .error e) => some (s, .error e)
      | (s, .ok _) => run fuel true s

/-- The calls succeed exactly under the conditions. -/
structure Meets (C : Conditions σ κ) : Prop where
  take : ∀ s k t, d.take s = (t, .ok k) ↔ C.taken s k t
  drained : ∀ s t, (∃ e, d.take s = (t, .error e) ∧ d.empty e = true) ↔ C.drained s t
  handle : ∀ s k u, d.handle s k = (u, .ok ()) ↔ C.served s k u
  announce : ∀ s, (d.announce s).2 = .ok () ↔ C.ready s

/-- A log that the calls write. -/
structure Traced (key : κ → ι) where
  log : σ → List (DrainEvent ι)
  take : ∀ {s t r}, d.take s = (t, r) →
    log t = log s ++ DrainEvent.ofResult (fun k => .taken (key k)) r
  handle : ∀ {s t k r}, d.handle s k = (t, r) →
    log t = log s ++ DrainEvent.ofResult (fun _ => .done (key k)) r
  announce : ∀ {s t r}, d.announce s = (t, r) →
    log t = log s ++ DrainEvent.ofResult (fun _ => .announced) r

end Drain

/-- Every item taken is done, in the same order, and the last thing is to announce them. -/
structure Complete {ι : Type} (events : List (DrainEvent ι)) : Prop where
  order : events.filterMap DrainEvent.taken? = events.filterMap DrainEvent.done?
  announced : events.filterMap DrainEvent.done? ≠ [] → events.getLast? = some .announced

namespace Drain

variable {σ κ ε ι : Type} {d : Drain σ κ ε} {key : κ → ι} {C : Conditions σ κ}

/-- `Complete` for a loop that may have done items before: then there must be an announcement. -/
def CompleteFrom (completed : Bool) (events : List (DrainEvent ι)) : Prop :=
  events.filterMap DrainEvent.taken? = events.filterMap DrainEvent.done? ∧
    (completed = true ∨ events.filterMap DrainEvent.done? ≠ [] →
      events.getLast? = some .announced)

theorem completeFrom_false {events : List (DrainEvent ι)} :
    CompleteFrom false events ↔ Complete events := by
  simp only [CompleteFrom, Bool.false_eq_true, false_or]
  exact ⟨fun ⟨h, h'⟩ => ⟨h, h'⟩, fun ⟨h, h'⟩ => ⟨h, h'⟩⟩

theorem completeFrom_nil {completed : Bool} :
    CompleteFrom completed ([] : List (DrainEvent ι)) ↔ completed = false := by
  simp [CompleteFrom]

theorem completeFrom_announced {completed : Bool} :
    CompleteFrom completed ([.announced] : List (DrainEvent ι)) := by
  refine ⟨rfl, fun _ => rfl⟩

theorem not_completeFrom_taken {completed : Bool} (i : ι) :
    ¬ CompleteFrom completed [.taken i] := fun h => by cases h.1

/-- A whole round in front: what follows has something to announce. -/
theorem completeFrom_round {completed : Bool} {i : ι} {events : List (DrainEvent ι)} :
    CompleteFrom completed (.taken i :: .done i :: events) ↔ CompleteFrom true events := by
  have htaken : (DrainEvent.taken i :: .done i :: events).filterMap DrainEvent.taken? =
      i :: events.filterMap DrainEvent.taken? := rfl
  have hdone : (DrainEvent.taken i :: .done i :: events).filterMap DrainEvent.done? =
      i :: events.filterMap DrainEvent.done? := rfl
  have hlast : (DrainEvent.taken i :: .done i :: events).getLast? = some .announced ↔
      events.getLast? = some .announced := by
    cases events with
    | nil => simp
    | cons x xs => simp
  unfold CompleteFrom
  rw [htaken, hdone, hlast]
  simp

namespace Meets

variable (M : d.Meets C)
include M

theorem drained_iff {s t u : σ} {e : ε} (htake : d.take s = (t, .error e)) :
    C.drained s u ↔ u = t ∧ d.empty e = true := by
  rw [← M.drained, htake]
  constructor
  · rintro ⟨e', h, hempty⟩
    cases h
    exact ⟨rfl, hempty⟩
  · rintro ⟨rfl, hempty⟩
    exact ⟨e, rfl, hempty⟩

theorem not_taken {s t u : σ} {e : ε} {k : κ} (htake : d.take s = (t, .error e)) :
    ¬ C.taken s k u := by
  rw [← M.take, htake]
  exact fun h => nomatch h

theorem taken_iff {s t u : σ} {k k' : κ} (htake : d.take s = (t, .ok k)) :
    C.taken s k' u ↔ u = t ∧ k' = k := by
  rw [← M.take, htake, Prod.mk.injEq, Except.ok.injEq, eq_comm, eq_comm (b := k')]

theorem not_drained {s t u : σ} {k : κ} (htake : d.take s = (t, .ok k)) : ¬ C.drained s u := by
  rw [← M.drained, htake]
  rintro ⟨e, h, -⟩
  cases h

theorem clean_of_take_error {completed : Bool} {s t : σ} {e : ε}
    (htake : d.take s = (t, .error e)) :
    C.Clean completed s ↔ d.empty e = true ∧ (completed = true → C.ready t) := by
  constructor
  · rintro (⟨hdrained, hannounce⟩ | ⟨htaken, -, -⟩)
    · obtain ⟨rfl, hempty⟩ := (M.drained_iff htake).mp hdrained
      exact ⟨hempty, hannounce⟩
    · exact absurd htaken (M.not_taken htake)
  · rintro ⟨hempty, hannounce⟩
    exact .stop ((M.drained_iff htake).mpr ⟨rfl, hempty⟩) hannounce

theorem clean_of_take_ok {completed : Bool} {s t : σ} {k : κ} (htake : d.take s = (t, .ok k)) :
    C.Clean completed s ↔ ∃ u, C.served t k u ∧ C.Clean true u := by
  constructor
  · rintro (⟨hdrained, -⟩ | ⟨htaken, hserve, hrest⟩)
    · exact absurd hdrained (M.not_drained htake)
    · obtain ⟨rfl, rfl⟩ := (M.taken_iff htake).mp htaken
      exact ⟨_, hserve, hrest⟩
  · rintro ⟨u, hserve, hrest⟩
    exact .next ((M.take _ _ _).mp htake) hserve hrest

theorem refused_of_take_error {s t : σ} {e : ε} (htake : d.take s = (t, .error e)) :
    C.Refused s ↔ d.empty e = false := by
  simp only [Conditions.Refused, M.not_taken htake, M.drained_iff htake, not_false_eq_true,
    implies_true, true_and, not_and, Bool.not_eq_true]
  exact ⟨fun h => h t rfl, fun h _ _ => h⟩

theorem not_refused_of_take_ok {s t : σ} {k : κ} (htake : d.take s = (t, .ok k)) :
    ¬ C.Refused s := fun h => h.1 k t ((M.take s k t).mp htake)

/-- A loop that succeeds has found every item clean. -/
theorem clean_of_run_ok {fuel : Nat} {completed : Bool} {s t : σ}
    (h : d.run fuel completed s = some (t, .ok ())) : C.Clean completed s := by
  induction fuel generalizing completed s with
  | zero => cases h
  | succ fuel ih =>
    unfold run at h
    split at h
    · rename_i u e htake
      split at h
      · rename_i hempty
        refine (M.clean_of_take_error htake).mpr ⟨hempty, fun hcompleted => ?_⟩
        rw [if_pos hcompleted] at h
        exact (M.announce u).mp (by rw [Option.some.inj h])
      · cases h
    · rename_i htake
      split at h
      · cases h
      · rename_i hhandle
        exact (M.clean_of_take_ok htake).mpr ⟨_, (M.handle _ _ _).mp hhandle, ih h⟩

end Meets

theorem run_completeFrom (T : d.Traced key) (M : d.Meets C) {fuel : Nat} {completed : Bool}
    {s t : σ} {r : Except ε Unit} (h : d.run fuel completed s = some (t, r)) :
    ∃ new, T.log t = T.log s ++ new ∧
      (CompleteFrom completed new ↔
        C.Clean completed s ∨ (completed = false ∧ C.Refused s)) := by
  induction fuel generalizing completed s with
  | zero => cases h
  | succ fuel ih =>
    unfold run at h
    split at h
    · rename_i u e htake
      have hlog : T.log u = T.log s := (T.take htake).trans (List.append_nil _)
      rw [M.clean_of_take_error htake, M.refused_of_take_error htake]
      cases hempty : d.empty e with
      | false =>
        simp only [hempty, Bool.false_eq_true, if_false] at h
        cases h
        exact ⟨[], by rw [hlog, List.append_nil], completeFrom_nil.trans (by simp)⟩
      | true =>
        rw [hempty, if_pos rfl] at h
        cases completed with
        | false =>
          cases h
          exact ⟨[], by rw [hlog, List.append_nil], completeFrom_nil.trans (by simp)⟩
        | true =>
          -- The items done before count only if the announcement succeeds.
          have hannounce : d.announce u = (t, r) := Option.some.inj h
          rw [← M.announce, hannounce]
          cases r with
          | ok _ =>
            refine ⟨[.announced], by rw [T.announce hannounce, hlog]; rfl, ?_⟩
            simp [completeFrom_announced]
          | error e' =>
            refine ⟨[], by rw [T.announce hannounce, hlog]; rfl,
              completeFrom_nil.trans (by simp)⟩
    · rename_i u k htake
      have hlog : T.log u = T.log s ++ [.taken (key k)] := T.take htake
      rw [M.clean_of_take_ok htake, or_iff_left fun hr => M.not_refused_of_take_ok htake hr.2]
      split at h
      · rename_i w e hhandle
        cases h
        refine ⟨[.taken (key k)], ?_, ?_⟩
        · rw [T.handle hhandle, hlog]
          exact List.append_nil _
        · simp [not_completeFrom_taken, ← M.handle, hhandle]
      · rename_i w _ hhandle
        obtain ⟨new, hnew, hiff⟩ := ih h
        refine ⟨.taken (key k) :: .done (key k) :: new, ?_,
          completeFrom_round.trans (hiff.trans ?_)⟩
        · rw [hnew, T.handle hhandle, hlog]
          simp [DrainEvent.ofResult]
        · simp [← M.handle, hhandle]

theorem complete_iff (T : d.Traced key) (M : d.Meets C) {fuel : Nat} {s t : σ}
    {r : Except ε Unit} (h : d.run fuel false s = some (t, r)) :
    ∃ new, T.log t = T.log s ++ new ∧
      (Complete new ↔ C.Clean false s ∨ C.Refused s) := by
  obtain ⟨new, hnew, hiff⟩ := run_completeFrom T M h
  refine ⟨new, hnew, completeFrom_false.symm.trans (hiff.trans ?_)⟩
  simp

end Drain

end Lib
