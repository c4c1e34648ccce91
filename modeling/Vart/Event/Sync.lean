import Mathlib.Logic.Function.Basic
import Mathlib.Data.Set.Basic
import Mathlib.Data.List.Induction
import Vart.Lib.Reach

/-!
# Debug locks (`event/sync.c` with `CONFIG_DEBUG_LOCKS`)

A thread keeps the mutexes it holds on a stack. `lockdep_acquire` refuses a ranked mutex whose rank
is not above the rank of the mutex on top of the stack; `lockdep_release` refuses any mutex but the
one on top. A refusal aborts the process.

`threadStep` is one step of one thread. `vart_cond_wait` is two steps, `sleep` until the mutex is
released and `wake` for the return, and other threads run in between. `processStep` interleaves
the steps of any number of threads, where a thread that wants a mutex of another one is blocked.

* `threadStep_increase`: a step keeps the ranks of the held mutexes increasing exactly if it does
  not acquire a ranked mutex above an unclassified one that covers a ranked one of no lower rank.
* `Tracks`: in a run of programs that do not abort alone, each thread holds what it would hold if it
  ran alone, and the owner fields and the stacks agree.
* `lock_order_iff`: for such programs the ranks increase at every moment and there is no deadlock
  on ranked mutexes exactly if no acquisition hides an inversion under an unclassified mutex.
-/

namespace Vart

open Lib

/-- `VartLockRank`. -/
inductive LockRank where
  | unclassified
  | vm
  | addressSpace
  | device
  | queue
deriving DecidableEq, Repr

def LockRank.value : LockRank → Nat
  | unclassified => 0
  | vm => 10
  | addressSpace => 20
  | device => 30
  | queue => 40

theorem LockRank.value_le (r : LockRank) : r.value ≤ 40 := by
  cases r <;> decide

/-- `VART_LOCK_DEPTH_MAX`. -/
def lockDepthMax : Nat := 16

/-- The reasons that `lock_abort` is called with. -/
inductive LockAbort where
  /-- "lock nesting is too deep" -/
  | tooDeep
  /-- "lock order inversion" -/
  | orderInversion
  /-- "non-LIFO unlock" -/
  | nonLifoUnlock
  /-- "recursive lock" -/
  | recursiveLock
  /-- "unlock by non-owner" -/
  | unlockByNonOwner
  /-- "condition wait without mutex" -/
  | waitWithoutMutex
deriving DecidableEq, Repr

/-- The calls of a thread. -/
inductive LockOp (μ : Type) where
  | lock (m : μ)
  | unlock (m : μ)
  | condWait (m : μ)
deriving DecidableEq, Repr

/-- The parts of the calls between which other threads may run. -/
inductive LockStep (μ : Type) where
  | lock (m : μ)
  | unlock (m : μ)
  /-- `vart_cond_wait` until `pthread_cond_wait` has released the mutex. -/
  | sleep (m : μ)
  /-- The rest of `vart_cond_wait`, from where `pthread_cond_wait` wants the mutex back. -/
  | wake (m : μ)
deriving DecidableEq, Repr

def LockOp.steps {μ : Type} : LockOp μ → List (LockStep μ)
  | lock m => [.lock m]
  | unlock m => [.unlock m]
  | condWait m => [.sleep m, .wake m]

/-- The steps of a program. -/
def stepsOf {μ : Type} (program : List (LockOp μ)) : List (LockStep μ) :=
  program.flatMap LockOp.steps

namespace LockStep

variable {μ : Type}

def mutex : LockStep μ → μ
  | lock m | unlock m | sleep m | wake m => m

/-- The mutex that the step has to get from pthreads. -/
def acquires : LockStep μ → Option μ
  | lock m | wake m => some m
  | unlock _ | sleep _ => none

end LockStep

section Thread

variable {μ : Type} [DecidableEq μ] (rank : μ → LockRank)

def Ranked (m : μ) : Prop := rank m ≠ .unclassified

instance (m : μ) : Decidable (Ranked rank m) := inferInstanceAs (Decidable (_ ≠ _))

/-- `held` is `held_locks`, the top of the stack first. -/
def lockdepAcquire (held : List μ) (m : μ) : Except LockAbort (List μ) :=
  if held.length = lockDepthMax then .error .tooDeep
  else match held with
    | [] => .ok [m]
    | parent :: below =>
      if rank m ≠ .unclassified ∧ rank parent ≠ .unclassified ∧
          (rank m).value ≤ (rank parent).value then .error .orderInversion
      else .ok (m :: parent :: below)

def lockdepRelease (held : List μ) (m : μ) : Except LockAbort (List μ) :=
  match held with
  | [] => .error .nonLifoUnlock
  | top :: below => if top ≠ m then .error .nonLifoUnlock else .ok below

/-- What a step does to the stack of its thread; `owned` is `lock_is_owned`. -/
def heldStep (owned : Bool) (held : List μ) : LockStep μ → Except LockAbort (List μ)
  | .lock m => if owned then .error .recursiveLock else lockdepAcquire rank held m
  | .unlock m => if !owned then .error .unlockByNonOwner else lockdepRelease held m
  | .sleep m => if !owned then .error .waitWithoutMutex else lockdepRelease held m
  | .wake m => lockdepAcquire rank held m

/-- A step of a thread that owns the mutexes on its stack. -/
def threadStep (held : List μ) (a : LockStep μ) : Except LockAbort (List μ) :=
  heldStep rank (a.mutex ∈ held) held a

/-- The stack of a thread that runs alone. -/
def threadRun (steps : List (LockStep μ)) : Except LockAbort (List μ) :=
  steps.foldlM (threadStep rank) []

/-- The ranks of the ranked mutexes are strictly increasing in acquisition order. -/
def RanksIncrease (held : List μ) : Prop :=
  ((held.reverse.filter (Ranked rank ·)).map (fun m => (rank m).value)).Pairwise (· < ·)

/-- The step does not acquire a ranked mutex above an unclassified one that covers a ranked one of
the same or a higher rank. -/
def InOrder (held : List μ) (a : LockStep μ) : Prop :=
  ∀ m top below, a.acquires = some m → held = top :: below → Ranked rank m → ¬ Ranked rank top →
    ∀ k ∈ below, Ranked rank k → (rank k).value < (rank m).value

variable {rank} {held held' : List μ} {m : μ} {a : LockStep μ} {owned : Bool}

/-! ## One thread -/

omit [DecidableEq μ] in
/-- An accepted mutex is put on top, and the old top, if both are ranked, is of lower rank. -/
theorem lockdepAcquire_ok (h : lockdepAcquire rank held m = .ok held') :
    held' = m :: held ∧ ∀ parent below, held = parent :: below → Ranked rank m →
      Ranked rank parent → (rank parent).value < (rank m).value := by
  unfold lockdepAcquire at h
  split at h
  · cases h
  · split at h
    · cases h
      exact ⟨rfl, by simp⟩
    · rename_i parent below
      split at h
      · cases h
      · rename_i hrank
        cases h
        refine ⟨rfl, ?_⟩
        rintro _ _ ⟨rfl, rfl⟩ hm hparent
        by_contra hle
        exact hrank ⟨hm, hparent, by omega⟩

theorem lockdepRelease_ok (h : lockdepRelease held m = .ok held') : held = m :: held' := by
  unfold lockdepRelease at h
  split at h
  · cases h
  · split at h
    · cases h
    · rename_i htop
      cases h
      simp only [ne_eq, not_not] at htop
      rw [htop]

/-- What a step does if it does not abort: it puts the mutex it acquires on the stack, or it takes
its mutex from the top. -/
theorem heldStep_cases (h : heldStep rank owned held a = .ok held') :
    (∃ m, a.acquires = some m ∧ a.mutex = m ∧ lockdepAcquire rank held m = .ok held' ∧
      (a = .lock m → owned = false)) ∨
    (a.acquires = none ∧ owned = true ∧ held = a.mutex :: held') := by
  cases a with
  | lock m =>
    cases owned with
    | true => cases h
    | false => exact .inl ⟨m, rfl, rfl, h, fun _ => rfl⟩
  | unlock m =>
    cases owned with
    | true => exact .inr ⟨rfl, rfl, lockdepRelease_ok h⟩
    | false => cases h
  | sleep m =>
    cases owned with
    | true => exact .inr ⟨rfl, rfl, lockdepRelease_ok h⟩
    | false => cases h
  | wake m => exact .inl ⟨m, rfl, rfl, h, fun he => nomatch he⟩

omit [DecidableEq μ] in
theorem ranksIncrease_nil : RanksIncrease rank ([] : List μ) := List.Pairwise.nil

omit [DecidableEq μ] in
theorem ranksIncrease_cons :
    RanksIncrease rank (m :: held) ↔ RanksIncrease rank held ∧
      (Ranked rank m → ∀ k ∈ held, Ranked rank k → (rank k).value < (rank m).value) := by
  unfold RanksIncrease
  by_cases hm : Ranked rank m
  · have hall : (∀ r, ∀ k ∈ held, Ranked rank k → (rank k).value = r → r < (rank m).value) ↔
        ∀ k ∈ held, Ranked rank k → (rank k).value < (rank m).value :=
      ⟨fun h k hk hr => h _ k hk hr rfl, fun h r k hk hr he => he ▸ h k hk hr⟩
    simp [List.filter_append, List.pairwise_append, hm, hall]
  · simp [List.filter_append, hm]

/-- Step lemma: a step that does not abort keeps the ranks increasing exactly if it is in order.
The code compares with the top only, which is enough if the top is ranked. -/
theorem threadStep_increase (hinc : RanksIncrease rank held)
    (h : threadStep rank held a = .ok held') : RanksIncrease rank held' ↔ InOrder rank held a := by
  obtain ⟨m, ha, -, hacq, -⟩ | ⟨ha, -, rfl⟩ := heldStep_cases h
  · obtain ⟨rfl, hparent⟩ := lockdepAcquire_ok hacq
    rw [ranksIncrease_cons, and_iff_right hinc]
    constructor
    · rintro hbelow m' top below hm' rfl hranked - k hk
      obtain rfl : m = m' := Option.some.inj (ha ▸ hm')
      exact hbelow hranked k (List.mem_cons_of_mem _ hk)
    · intro horder hm k hk hkr
      cases held with
      | nil => cases hk
      | cons top below =>
        by_cases htop : Ranked rank top
        · have hlt := hparent top below rfl hm htop
          rcases List.mem_cons.mp hk with rfl | hk
          · exact hlt
          · exact ((ranksIncrease_cons.mp hinc).2 htop k hk hkr).trans hlt
        · rcases List.mem_cons.mp hk with rfl | hk
          · exact absurd hkr htop
          · exact horder m top below ha rfl hm htop k hk hkr
  · refine iff_of_true (ranksIncrease_cons.mp hinc).1 ?_
    intro m top below hm
    rw [ha] at hm
    cases hm

/-- Every acquisition of a program is in order. -/
def ProgramInOrder (rank : μ → LockRank) (steps : List (LockStep μ)) : Prop :=
  ∀ pre a post held, steps = pre ++ a :: post → threadRun rank pre = .ok held →
    InOrder rank held a

/-- The ranks increase at every moment of a program. -/
def AlwaysIncrease (rank : μ → LockRank) (steps : List (LockStep μ)) : Prop :=
  ∀ pre post held, steps = pre ++ post → threadRun rank pre = .ok held → RanksIncrease rank held

theorem threadRun_append_singleton (pre : List (LockStep μ)) (a : LockStep μ) :
    threadRun rank (pre ++ [a]) = threadRun rank pre >>= fun held => threadStep rank held a := by
  simp [threadRun, List.foldlM_append]

/-- A program that does not abort does not abort in any beginning of it. -/
theorem threadRun_prefix {pre post : List (LockStep μ)} {held : List μ}
    (h : threadRun rank (pre ++ post) = .ok held) : ∃ held', threadRun rank pre = .ok held' := by
  unfold threadRun at h ⊢
  rw [List.foldlM_append] at h
  cases hpre : pre.foldlM (threadStep rank) [] with
  | error e => rw [hpre] at h; cases h
  | ok held' => exact ⟨held', rfl⟩

/-- Run lemma: a program that does not abort keeps the ranks increasing at every moment exactly if
all of its acquisitions are in order. -/
theorem alwaysIncrease_iff {steps : List (LockStep μ)} {last : List μ}
    (hrun : threadRun rank steps = .ok last) :
    AlwaysIncrease rank steps ↔ ProgramInOrder rank steps := by
  constructor
  · rintro hinc pre a post held rfl hheld
    obtain ⟨held', hstep⟩ := threadRun_prefix (show threadRun rank ((pre ++ [a]) ++ post) = .ok last from
      by rw [List.append_assoc]; exact hrun)
    have hafter := hinc (pre ++ [a]) post held' (by simp) hstep
    rw [threadRun_append_singleton, hheld] at hstep
    exact (threadStep_increase (hinc pre (a :: post) held rfl hheld) hstep).mp hafter
  · -- Induction on the beginning of the program, from its end.
    intro horder pre
    induction pre using List.reverseRecOn with
    | nil =>
      intro post held _ hheld
      cases hheld
      exact ranksIncrease_nil
    | append_singleton pre a ih =>
      intro post held' hsteps hheld'
      have hsplit : steps = pre ++ a :: post := by simpa using hsteps
      obtain ⟨held, hheld⟩ := threadRun_prefix hheld'
      rw [threadRun_append_singleton, hheld] at hheld'
      exact (threadStep_increase (ih (a :: post) held hsplit hheld) hheld').mpr
        (horder pre a post held hsplit hheld)

end Thread

/-! ## Many threads -/

section Process

variable {ι μ : Type} [DecidableEq ι] [DecidableEq μ] (rank : μ → LockRank)

/-- The process: the owners of the mutexes, the stacks of the threads, what each thread has yet to
do, and how the process was aborted. The owner field of a mutex and its pthread mutex change
together here; between the two no other thread reads what would differ. -/
structure Process (ι μ : Type) where
  owner : μ → Option ι
  held : ι → List μ
  rest : ι → List (LockStep μ)
  aborted : Option LockAbort

/-- Every thread is at the beginning of its program and no mutex is held. -/
def Process.start (program : ι → List (LockOp μ)) : Process ι μ where
  owner _ := none
  held _ := []
  rest t := stepsOf (program t)
  aborted := none

/-- Thread `t` cannot take the step `a` now: it needs a mutex that is owned. A recursive lock is
not such a wait, it aborts. -/
def Process.Blocked (s : Process ι μ) (t : ι) : LockStep μ → Prop
  | .lock m => s.owner m ≠ none ∧ s.owner m ≠ some t
  | .wake m => s.owner m ≠ none
  | .unlock _ | .sleep _ => False

instance (s : Process ι μ) (t : ι) (a : LockStep μ) : Decidable (s.Blocked t a) := by
  cases a <;> unfold Process.Blocked <;> infer_instance

/-- The step that thread `t` takes if it is its turn. It takes none if its program is over, if it
is blocked, or if the process was aborted. -/
def processStep (s : Process ι μ) (t : ι) : Process ι μ :=
  match s.aborted, s.rest t with
  | none, a :: post =>
    if s.Blocked t a then s
    else match heldStep rank (s.owner a.mutex = some t) (s.held t) a with
      | .error e => { s with aborted := some e }
      | .ok held =>
        { s with
          owner := Function.update s.owner a.mutex (if a.acquires.isSome then some t else none)
          held := Function.update s.held t held
          rest := Function.update s.rest t post }
  | _, _ => s

/-- Thread `t` is blocked, and the mutex `m` that it wants is owned by thread `u`. -/
def Process.WaitsFor (s : Process ι μ) (t : ι) (m : μ) (u : ι) : Prop :=
  ∃ a post, s.rest t = a :: post ∧ s.Blocked t a ∧ a.acquires = some m ∧ s.owner m = some u

/-- The states that an interleaving of the programs reaches. -/
def ProcessReach (program : ι → List (LockOp μ)) : Process ι μ → Prop :=
  Reach (processStep rank) (· = Process.start program) (fun _ _ => True)

/-- A set of threads each of which waits for a ranked mutex that one of them owns. -/
def RankedDeadlock (s : Process ι μ) : Prop :=
  s.aborted = none ∧ ∃ threads : Set ι, threads.Nonempty ∧
    ∀ t ∈ threads, ∃ m, ∃ u ∈ threads, Ranked rank m ∧ s.WaitsFor t m u

variable {rank} {program : ι → List (LockOp μ)} {s : Process ι μ} {t : ι}

/-- Where a run of programs that do not abort alone is: each thread has done a beginning of its
program, holds what it would hold if it ran alone, and owns what it holds. -/
structure Tracks (rank : μ → LockRank) (program : ι → List (LockOp μ)) (s : Process ι μ) :
    Prop where
  running : s.aborted = none
  alone : ∀ t, ∃ done, stepsOf (program t) = done ++ s.rest t ∧
    threadRun rank done = .ok (s.held t)
  owned : ∀ t m, s.owner m = some t ↔ m ∈ s.held t
  nodup : ∀ t, (s.held t).Nodup

omit [DecidableEq ι] in
theorem tracks_start : Tracks rank program (Process.start program) where
  running := rfl
  alone t := ⟨[], rfl, rfl⟩
  owned t m := by simp [Process.start]
  nodup t := List.nodup_nil

/-- The next step of a thread is the one it would take alone, so it does not abort. -/
theorem Tracks.next (h : Tracks rank program s) {last : List μ}
    (hlast : threadRun rank (stepsOf (program t)) = .ok last) {a : LockStep μ}
    {post : List (LockStep μ)} (hrest : s.rest t = a :: post) :
    ∃ done held, stepsOf (program t) = done ++ a :: post ∧ threadRun rank done = .ok (s.held t) ∧
      threadRun rank (done ++ [a]) = .ok held ∧
      heldStep rank (s.owner a.mutex = some t) (s.held t) a = .ok held := by
  obtain ⟨done, hdone, hheld⟩ := h.alone t
  rw [hrest] at hdone
  have hsplit : stepsOf (program t) = (done ++ [a]) ++ post := by simp [hdone]
  obtain ⟨held, hstep⟩ := threadRun_prefix (hsplit ▸ hlast)
  refine ⟨done, held, hdone, hheld, hstep, ?_⟩
  rw [threadRun_append_singleton, hheld] at hstep
  simp only [h.owned]
  exact hstep

/-- The stack of `t` and the owners after a step of `t` that neither blocks nor aborts. -/
theorem Tracks.taken (h : Tracks rank program s) {a : LockStep μ} {held : List μ}
    (hfree : ¬ s.Blocked t a)
    (hstep : heldStep rank (s.owner a.mutex = some t) (s.held t) a = .ok held) :
    held.Nodup ∧ ∀ u m,
      Function.update s.owner a.mutex (if a.acquires.isSome then some t else none) m = some u ↔
        m ∈ Function.update s.held t held u := by
  have hnodup := h.nodup t
  obtain ⟨m, ha, rfl, hacq, hlock⟩ | ⟨ha, -, hheld⟩ := heldStep_cases hstep
  · obtain ⟨rfl, -⟩ := lockdepAcquire_ok hacq
    have hnone : s.owner a.mutex = none := by
      cases a with
      | lock m =>
        by_contra hn
        exact hfree ⟨hn, of_decide_eq_false (hlock rfl)⟩
      | wake m => exact not_not.mp hfree
      | unlock m | sleep m => cases ha
    have hnew : ∀ u, a.mutex ∉ s.held u := by
      intro u hu
      rw [← h.owned, hnone] at hu
      cases hu
    refine ⟨List.nodup_cons.mpr ⟨hnew t, hnodup⟩, fun u m => ?_⟩
    have howned := h.owned u m
    rw [ha, Option.isSome_some, if_pos rfl]
    obtain rfl | hm := eq_or_ne m a.mutex
    · rw [Function.update_self]
      obtain rfl | hu := eq_or_ne u t
      · simp
      · rw [Function.update_of_ne hu]
        exact iff_of_false (fun he => hu (Option.some.inj he).symm) (hnew u)
    · rw [Function.update_of_ne hm, howned]
      obtain rfl | hu := eq_or_ne u t
      · simp [hm]
      · rw [Function.update_of_ne hu]
  · rw [hheld] at hnodup
    obtain ⟨hnotin, htail⟩ := List.nodup_cons.mp hnodup
    refine ⟨htail, fun u m => ?_⟩
    have howned := h.owned u m
    rw [ha, Option.isSome_none, if_neg Bool.false_ne_true]
    obtain rfl | hm := eq_or_ne m a.mutex
    · rw [Function.update_self]
      refine iff_of_false (fun he => nomatch he) ?_
      obtain rfl | hu := eq_or_ne u t
      · rw [Function.update_self]
        exact hnotin
      · rw [Function.update_of_ne hu, ← howned,
          (h.owned t a.mutex).mpr (hheld ▸ List.mem_cons_self)]
        exact fun he => hu (Option.some.inj he).symm
    · rw [Function.update_of_ne hm, howned]
      obtain rfl | hu := eq_or_ne u t
      · simp [hheld, hm]
      · rw [Function.update_of_ne hu]

/-- Step lemma: programs that do not abort alone do not abort together. -/
theorem Tracks.step (h : Tracks rank program s)
    (hprogram : ∀ t, ∃ last, threadRun rank (stepsOf (program t)) = .ok last) (t : ι) :
    Tracks rank program (processStep rank s t) := by
  obtain ⟨last, hlast⟩ := hprogram t
  unfold processStep
  rw [h.running]
  cases hrest : s.rest t with
  | nil => exact h
  | cons a post =>
    obtain ⟨done, held, hdone, -, hrun, hheld⟩ := h.next hlast hrest
    dsimp only
    split
    · exact h
    · rename_i hfree
      rw [hheld]
      dsimp only
      obtain ⟨hnodup, howned⟩ := h.taken hfree hheld
      refine ⟨rfl, fun u => ?_, howned, fun u => ?_⟩
      · obtain rfl | hu := eq_or_ne u t
        · exact ⟨done ++ [a], by simp [hdone], by simpa using hrun⟩
        · simpa [Function.update_of_ne hu] using h.alone u
      · obtain rfl | hu := eq_or_ne u t
        · simpa using hnodup
        · simpa [Function.update_of_ne hu] using h.nodup u

/-- Run lemma. -/
theorem processReach_tracks
    (hprogram : ∀ t, ∃ last, threadRun rank (stepsOf (program t)) = .ok last)
    (h : ProcessReach rank program s) : Tracks rank program s := by
  refine Reach.invariant (I := Tracks rank program) ?_ ?_ h
  · rintro _ rfl
    exact tracks_start
  · exact fun s t hs _ => hs.step hprogram t

/-- If the acquisitions of all threads are in order, a thread that waits for a ranked mutex of a
thread that waits itself wants the lower rank of the two. -/
theorem Tracks.waits_lt (h : Tracks rank program s)
    (hprogram : ∀ t, ∃ last, threadRun rank (stepsOf (program t)) = .ok last)
    (horder : ∀ t, ProgramInOrder rank (stepsOf (program t))) {t u v : ι} {m k : μ}
    (hm : Ranked rank m) (hk : Ranked rank k) (htu : s.WaitsFor t m u) (huv : s.WaitsFor u k v) :
    (rank m).value < (rank k).value := by
  obtain ⟨-, -, -, -, -, howner⟩ := htu
  obtain ⟨a, post, hrest, -, hacq, -⟩ := huv
  obtain ⟨last, hlast⟩ := hprogram u
  obtain ⟨done, held, hdone, -, hrun, hstep⟩ := h.next hlast hrest
  have hinc := (alwaysIncrease_iff hlast).mpr (horder u) (done ++ [a]) post held
    (by simp [hdone]) hrun
  obtain ⟨k', hk', -, hlockdep, -⟩ | ⟨hnone, -⟩ := heldStep_cases hstep
  · obtain rfl : k' = k := Option.some.inj (hk' ▸ hacq)
    obtain ⟨rfl, -⟩ := lockdepAcquire_ok hlockdep
    exact (ranksIncrease_cons.mp hinc).2 hk m ((h.owned u m).mp howner) hm
  · rw [hnone] at hacq
    cases hacq

/-- Around a deadlock the wanted ranks would increase forever. -/
theorem Tracks.no_rankedDeadlock (h : Tracks rank program s)
    (hprogram : ∀ t, ∃ last, threadRun rank (stepsOf (program t)) = .ok last)
    (horder : ∀ t, ProgramInOrder rank (stepsOf (program t))) : ¬ RankedDeadlock rank s := by
  rintro ⟨-, threads, ⟨t, ht⟩, hall⟩
  have hclimb : ∀ n, ∃ t ∈ threads, ∃ m, ∃ u ∈ threads, Ranked rank m ∧ s.WaitsFor t m u ∧
      n ≤ (rank m).value := by
    intro n
    induction n with
    | zero =>
      obtain ⟨m, u, hu, hm, hwait⟩ := hall t ht
      exact ⟨t, ht, m, u, hu, hm, hwait, Nat.zero_le _⟩
    | succ n ih =>
      obtain ⟨t, -, m, u, hu, hm, hwait, hn⟩ := ih
      obtain ⟨k, v, hv, hk, hwait'⟩ := hall u hu
      exact ⟨u, hu, k, v, hv, hk, hwait',
        hn.trans_lt (h.waits_lt hprogram horder hm hk hwait hwait')⟩
  obtain ⟨-, -, m, -, -, -, -, hm⟩ := hclimb 41
  exact absurd (hm.trans (rank m).value_le) (by decide)

/-- For any threads whose calls do not abort: the ranks of the ranked mutexes that a thread holds
increase at every moment and no interleaving deadlocks on ranked mutexes exactly if no thread
acquires a ranked mutex above an unclassified one that covers a ranked one of no lower rank. -/
theorem lock_order_iff (rank : μ → LockRank) (program : ι → List (LockOp μ))
    (hprogram : ∀ t, ∃ last, threadRun rank (stepsOf (program t)) = .ok last) :
    ((∀ t, AlwaysIncrease rank (stepsOf (program t))) ∧
      ∀ s, ProcessReach rank program s → ¬ RankedDeadlock rank s) ↔
    ∀ t, ProgramInOrder rank (stepsOf (program t)) := by
  constructor
  · rintro ⟨hinc, -⟩ t
    obtain ⟨last, hlast⟩ := hprogram t
    exact (alwaysIncrease_iff hlast).mp (hinc t)
  · intro horder
    refine ⟨fun t => ?_, fun s hs => ?_⟩
    · obtain ⟨last, hlast⟩ := hprogram t
      exact (alwaysIncrease_iff hlast).mpr (horder t)
    · exact (processReach_tracks hprogram hs).no_rankedDeadlock hprogram horder

end Process

/-- A device mutex, and the queue mutex taken under it. -/
def deviceQueueRank : Bool → LockRank
  | true => .device
  | false => .queue

def deviceQueueProgram (_ : Bool) : List (LockOp Bool) :=
  [.lock true, .condWait true, .lock false, .unlock false, .unlock true]

/-- Two threads that wait under the device mutex and take the queue mutex after it. -/
theorem deviceQueue_ordered :
    (∀ t, AlwaysIncrease deviceQueueRank (stepsOf (deviceQueueProgram t))) ∧
      ∀ s, ProcessReach deviceQueueRank deviceQueueProgram s →
        ¬ RankedDeadlock deviceQueueRank s := by
  refine (lock_order_iff deviceQueueRank deviceQueueProgram (fun t => ⟨[], rfl⟩)).mpr ?_
  intro t pre a post held _ _ m top below _ _ _ htop
  cases top <;> exact absurd (by decide) htop

/-- The address-space mutex, an unclassified one, and the VM mutex. -/
def coveredRank : Fin 3 → LockRank
  | 0 => .addressSpace
  | 1 => .unclassified
  | 2 => .vm

/-- One thread takes the VM mutex under the address-space mutex, covered by the unclassified one;
the other takes them in the documented order. -/
def coveredProgram : Bool → List (LockOp (Fin 3))
  | true => [.lock 0, .lock 1, .lock 2]
  | false => [.lock 2, .lock 0]

/-- Neither thread aborts, but the first one holds decreasing ranks, and the two can deadlock. -/
theorem covered_inversion_deadlocks :
    (∀ t, ∃ last, threadRun coveredRank (stepsOf (coveredProgram t)) = .ok last) ∧
      ¬ AlwaysIncrease coveredRank (stepsOf (coveredProgram true)) ∧
      ∃ s, ProcessReach coveredRank coveredProgram s ∧ RankedDeadlock coveredRank s := by
  refine ⟨fun t => ?_, fun hinc => ?_, ?_⟩
  · cases t
    · exact ⟨[0, 2], rfl⟩
    · exact ⟨[2, 1, 0], rfl⟩
  · have h := hinc [.lock 0, .lock 1, .lock 2] [] [2, 1, 0] rfl rfl
    exact absurd h (by unfold RanksIncrease; decide)
  · have hstart : ProcessReach coveredRank coveredProgram (Process.start coveredProgram) :=
      .start rfl
    have hrun : ProcessReach coveredRank coveredProgram
        (runFrom (processStep coveredRank) (Process.start coveredProgram) [true, true, false]) :=
      hstart.runFrom (Allowed.of_forall (fun _ _ => trivial) _)
    refine ⟨_, hrun, rfl, Set.univ, ⟨true, trivial⟩, ?_⟩
    rintro (_ | _) -
    · exact ⟨0, true, trivial, by decide, .lock 0, [], rfl, by decide, rfl, rfl⟩
    · exact ⟨2, false, trivial, by decide, .lock 2, [], rfl, by decide, rfl, rfl⟩

end Vart
