import Mathlib.Logic.Function.Basic
import Mathlib.Data.Nat.Bitwise
import Vart.Core.Errno
import Vart.Lib.Reach

/-!
# The event loop (`event/event-loop.c`, `event/eventfd.c`)

`vart_event_loop_run_once` takes a snapshot of the sources of a loop, polls, and calls the
callbacks of the ready ones. A callback may change any source in between; an entry of the
snapshot is skipped if the generation of its source is another one than in the snapshot.

The machine `eventStep` takes one part of such a call at a time: the snapshot and the poll
(`runOnce`), the next entry (`dispatch`), the return of a callback (`callbackReturn`), and the
calls that a callback makes (`EventCall`). Two ghosts say what happened: `history` counts, for
each source, the changes of its registration and its initialisations, and `calls` is the log of
the callbacks.

* `SourceStep`: what a call can do to a source. It leaves it alone, it changes it and
  counts its generation up, or it initialises it and the generation starts again at zero.
* `Tracked`: what the generation of a source still says about an entry of the snapshot.
* `event_dispatch_fresh`: a callback gets the readiness of its current registration exactly if
  its source was not initialised again since the snapshot and changed less than `2 ^ 64` times.
-/

namespace Vart

open Lib

/-! ## Sources and loops -/

def eventRead : UInt32 := 1
def eventWrite : UInt32 := 2
def eventError : UInt32 := 4
def eventHangup : UInt32 := 8

/-- `VART_EVENT_INTERESTS`. -/
def eventInterests : UInt32 := eventRead ||| eventWrite

def pollIn : UInt16 := 0x1
def pollOut : UInt16 := 0x4
def pollErr : UInt16 := 0x8
def pollHup : UInt16 := 0x10
def pollNval : UInt16 := 0x20

def eventsToPoll (events : UInt32) : UInt16 :=
  (if events &&& eventRead ≠ 0 then pollIn else 0) |||
    if events &&& eventWrite ≠ 0 then pollOut else 0

def eventsFromPoll (events : UInt16) : UInt32 :=
  (if events &&& pollIn ≠ 0 then eventRead else 0) |||
  (if events &&& pollOut ≠ 0 then eventWrite else 0) |||
  (if events &&& (pollErr ||| pollNval) ≠ 0 then eventError else 0) |||
    if events &&& pollHup ≠ 0 then eventHangup else 0

/-- `VartEventSource`. `callback` stands for the function and its argument. -/
structure EventSource where
  loop : Option Nat
  callback : Option Nat
  generation : UInt64
  fd : Int
  events : UInt32
  registered : Bool
deriving DecidableEq, Repr

/-- `vart_event_source_init`. -/
def eventSourceInit : EventSource := ⟨none, none, 0, -1, 0, false⟩

/-- The source that `vart_event_add` leaves. -/
def EventSource.attach (source : EventSource) (loop : Nat) (fd : Int) (events : UInt32)
    (callback : Nat) : EventSource :=
  { loop := some loop, callback := some callback, fd, events, registered := true,
    generation := source.generation + 1 }

/-- The source that `vart_event_remove` leaves. -/
def EventSource.detach (source : EventSource) : EventSource :=
  { source with loop := none, registered := false, generation := source.generation + 1 }

/-- `vart_event_modify`. -/
def eventModify (source : EventSource) (events : UInt32) : EventSource × Status :=
  if !source.registered || decide (events &&& ~~~eventInterests ≠ 0) then (source, .error .einval)
  else ({ source with events, generation := source.generation + 1 }, .ok ())

/-- `VartEventLoop`. -/
structure EventLoop where
  sources : List Nat
  initialised : Bool

/-- How often the registration of a source was changed, and how often it was initialised. -/
structure SourceHistory where
  changes : Nat
  inits : Nat
deriving DecidableEq, Repr

/-- A `VartPollEntry` and its `pollfd`. `seen` and `history` are the source when the snapshot was
taken. -/
structure PollEntry where
  source : Nat
  generation : UInt64
  pollFd : Int
  pollEvents : UInt16
  revents : UInt16
  seen : EventSource
  history : SourceHistory
deriving DecidableEq, Repr

/-- A call of a callback, with the source as it was at that time. -/
structure Invocation where
  entry : PollEntry
  events : UInt32
  source : EventSource
  history : SourceHistory
deriving DecidableEq, Repr

/-- A `vart_event_loop_run_once` that has polled: the entries that it did not look at yet. -/
structure EventRun where
  loop : Nat
  pending : List PollEntry
  callbacks : Nat
  inCallback : Bool

structure EventState where
  sources : Nat → EventSource
  loops : Nat → EventLoop
  run : Option EventRun
  history : Nat → SourceHistory
  calls : List Invocation

namespace EventState

/-- A change of the registration of source `x`. -/
def change (s : EventState) (x : Nat) (source : EventSource) : EventState :=
  { s with
    sources := Function.update s.sources x source
    history := Function.update s.history x
      { s.history x with changes := (s.history x).changes + 1 } }

def setLoop (s : EventState) (l : Nat) (loop : EventLoop) : EventState :=
  { s with loops := Function.update s.loops l loop }

/-- `vart_event_source_init` of source `x`. -/
def sourceInit (s : EventState) (x : Nat) : EventState :=
  { s with
    sources := Function.update s.sources x eventSourceInit
    history := Function.update s.history x
      { s.history x with inits := (s.history x).inits + 1 } }

/-- `vart_event_add`. `grow` is the result of making room in the source list. -/
def add (s : EventState) (l x : Nat) (fd : Int) (events : UInt32) (callback : Option Nat)
    (grow : Status) : EventState × Status :=
  match callback with
  | none => (s, .error .einval)
  | some callback =>
    if !(s.loops l).initialised || decide (fd < 0) ||
        decide (events &&& ~~~eventInterests ≠ 0) then (s, .error .einval)
    else if (s.sources x).registered then (s, .error .eexist)
    else match grow with
      | .error e => (s, .error e)
      | .ok _ =>
        let s' := s.change x ((s.sources x).attach l fd events callback)
        (s'.setLoop l { s.loops l with sources := (s.loops l).sources ++ [x] }, .ok ())

/-- `vart_event_modify` of source `x`. -/
def modify (s : EventState) (x : Nat) (events : UInt32) : EventState × Status :=
  match eventModify (s.sources x) events with
  | (_, .error e) => (s, .error e)
  | (source, .ok _) => (s.change x source, .ok ())

/-- `vart_event_remove`. -/
def remove (s : EventState) (x : Nat) : EventState × Status :=
  if !(s.sources x).registered then (s, .error .einval)
  else match (s.sources x).loop with
    | none => (s, .error .einval)
    | some l =>
      if x ∈ (s.loops l).sources then
        let s' := s.change x (s.sources x).detach
        (s'.setLoop l { s.loops l with sources := (s.loops l).sources.erase x }, .ok ())
      else (s, .error .enoent)

/-- `vart_event_loop_init`, with a wake descriptor. -/
def loopInit (s : EventState) (l : Nat) : EventState := s.setLoop l ⟨[], true⟩

/-- `vart_event_loop_destroy`. -/
def loopDestroy (s : EventState) (l : Nat) : EventState :=
  let detached := if (s.loops l).initialised then (s.loops l).sources else []
  { s with
    sources := fun x => if x ∈ detached then (s.sources x).detach else s.sources x
    history := fun x => if x ∈ detached then
      { s.history x with changes := (s.history x).changes + 1 } else s.history x
    loops := Function.update s.loops l ⟨[], false⟩ }

/-- `vart_event_notifier_source_add`; `fd` is the descriptor of the notifier. -/
def notifierSourceAdd (s : EventState) (l x : Nat) (fd : Int) (callback : Nat) (grow : Status) :
    EventState × Status :=
  if (s.sources x).registered then (s, .error .einval)
  else if fd < 0 then (s, .error .einval)
  else (s.sourceInit x).add l x fd eventRead (some callback) grow

/-- `vart_event_notifier_source_remove`. -/
def notifierSourceRemove (s : EventState) (x : Nat) : EventState × Status :=
  if !(s.sources x).registered then (s, .error .einval) else s.remove x

/-- `vart_virtio_net_attach_event_loop`; `fd` is `backend_fd`. -/
def netAttachEventLoop (s : EventState) (l x : Nat) (fd : Int) (callback : Nat) (grow : Status) :
    EventState × Status :=
  if !(s.loops l).initialised || decide (fd < 0) then (s, .error .einval)
  else if (s.sources x).registered then (s, .error .ebusy)
  else (s.sourceInit x).add l x fd eventRead (some callback) grow

/-- `vart_virtio_net_detach_event_loop`. -/
def netDetachEventLoop (s : EventState) (x : Nat) : EventState × Status :=
  if (s.sources x).registered then s.remove x else (s, .ok ())

/-- The snapshot of source `x`, for which poll reports `revents`. -/
def snapshot (s : EventState) (x : Nat) (revents : UInt16) : PollEntry where
  source := x
  generation := (s.sources x).generation
  pollFd := if (s.sources x).events = 0 then -1 else (s.sources x).fd
  pollEvents := eventsToPoll (s.sources x).events
  revents := revents
  seen := s.sources x
  history := s.history x

end EventState

/-! ## One call of the loop -/

/-- What `poll` reports: `revents` of the wake descriptor and of each source, and the result of
draining the wake descriptor. -/
structure PollResult where
  wake : UInt16
  drain : Status
  revents : List UInt16

/-- `event_loop_drain_wake`, if the wake descriptor is readable. -/
def PollResult.wakeStatus (r : PollResult) : Status :=
  if r.wake &&& (pollErr ||| pollHup ||| pollNval) ≠ 0 then .error .eio
  else if r.wake &&& pollIn ≠ 0 then r.drain
  else .ok ()

namespace EventState

/-- `vart_event_loop_run_once` up to the first entry. `alloc`: there is memory for the snapshot. -/
def runOnce (s : EventState) (l : Nat) (timeout : Int) (alloc : Bool)
    (poll : Except Errno PollResult) : EventState × Status :=
  if !(s.loops l).initialised || decide (timeout < -1) then (s, .error .einval)
  else if !alloc then (s, .error .enomem)
  else match poll with
    | .error e => (s, .error e)
    | .ok r =>
      match r.wakeStatus with
      | .error e => (s, .error e)
      | .ok _ =>
        let pending := (s.loops l).sources.zipWith s.snapshot r.revents
        ({ s with run := some { loop := l, pending, callbacks := 0, inCallback := false } },
          .ok ())

/-- The checks of `vart_event_loop_run_once` before it calls the callback of an entry. -/
def ready (s : EventState) (l : Nat) (e : PollEntry) : Bool :=
  let source := s.sources e.source
  decide (e.revents ≠ 0) && source.registered && decide (source.loop = some l) &&
    decide (source.generation = e.generation) && decide (eventsFromPoll e.revents ≠ 0)

/-- The next entry: skip it, or call the callback of its source. After the last one the call
returns. -/
def dispatch (s : EventState) : EventState :=
  match s.run with
  | none => s
  | some run =>
    if run.inCallback then s
    else match run.pending with
      | [] => { s with run := none }
      | e :: pending =>
        if s.ready run.loop e then
          { s with
            run := some { run with pending, inCallback := true }
            calls := s.calls ++ [⟨e, eventsFromPoll e.revents, s.sources e.source,
              s.history e.source⟩] }
        else { s with run := some { run with pending } }

/-- A callback returns. A negative result ends the call. -/
def callbackReturn (s : EventState) (ret : Int) : EventState :=
  match s.run with
  | none => s
  | some run =>
    if !run.inCallback then s
    else if ret < 0 then { s with run := none }
    else { s with run := some { run with callbacks := run.callbacks + 1, inCallback := false } }

/-- The entries that the running call did not look at yet. -/
def pending (s : EventState) : List PollEntry :=
  match s.run with
  | none => []
  | some run => run.pending

end EventState

/-- A call that a callback makes, or anyone else while no callback runs. -/
inductive EventCall where
  | sourceInit (x : Nat)
  | add (l x : Nat) (fd : Int) (events : UInt32) (callback : Option Nat) (grow : Status)
  | modify (x : Nat) (events : UInt32)
  | remove (x : Nat)
  | loopInit (l : Nat)
  | loopDestroy (l : Nat)
  | notifierSourceAdd (l x : Nat) (fd : Int) (callback : Nat) (grow : Status)
  | notifierSourceRemove (x : Nat)
  | netAttachEventLoop (l x : Nat) (fd : Int) (callback : Nat) (grow : Status)
  | netDetachEventLoop (x : Nat)

def EventCall.run (s : EventState) : EventCall → EventState
  | .sourceInit x => s.sourceInit x
  | .add l x fd events callback grow => (s.add l x fd events callback grow).1
  | .modify x events => (s.modify x events).1
  | .remove x => (s.remove x).1
  | .loopInit l => s.loopInit l
  | .loopDestroy l => s.loopDestroy l
  | .notifierSourceAdd l x fd callback grow => (s.notifierSourceAdd l x fd callback grow).1
  | .notifierSourceRemove x => (s.notifierSourceRemove x).1
  | .netAttachEventLoop l x fd callback grow => (s.netAttachEventLoop l x fd callback grow).1
  | .netDetachEventLoop x => (s.netDetachEventLoop x).1

inductive EventOp where
  | call (c : EventCall)
  | runOnce (l : Nat) (timeout : Int) (alloc : Bool) (poll : Except Errno PollResult)
  | dispatch
  | callbackReturn (ret : Int)

def eventStep (s : EventState) : EventOp → EventState
  | .call c => c.run s
  | .runOnce l timeout alloc poll => (s.runOnce l timeout alloc poll).1
  | .dispatch => s.dispatch
  | .callbackReturn ret => s.callbackReturn ret

/-- `poll` leaves out a negative descriptor, and reports only what was asked for, errors and
hangups. -/
def PollEntry.Possible (e : PollEntry) : Prop :=
  (e.pollFd < 0 → e.revents = 0) ∧
    e.revents &&& ~~~(e.pollEvents ||| pollErr ||| pollHup ||| pollNval) = 0

instance (e : PollEntry) : Decidable e.Possible :=
  inferInstanceAs (Decidable ((_ → _) ∧ _ = _))

/-- Code other than the loop runs: there is no running call, or a callback of it runs. -/
def EventState.mayCall (s : EventState) : Bool :=
  match s.run with
  | none => true
  | some run => run.inCallback

/-- The loop has one thread: while it dispatches, only a callback makes calls. A source is
initialised while it is not registered, a loop before it is used, and no callback runs the loop. -/
def EventOp.Valid (s : EventState) : EventOp → Prop
  | .call (.sourceInit x) => s.mayCall = true ∧ (s.sources x).registered = false
  | .call (.loopInit l) => s.mayCall = true ∧ (s.loops l).initialised = false
  | .call _ => s.mayCall = true
  | .runOnce l timeout alloc (.ok r) => s.run.isNone = true ∧
    r.revents.length = (s.loops l).sources.length ∧
    ∀ e ∈ (s.runOnce l timeout alloc (.ok r)).1.pending, e.Possible
  | .runOnce _ _ _ (.error _) => s.run.isNone = true
  | _ => True

instance (s : EventState) : (op : EventOp) → Decidable (op.Valid s)
  | .call (.sourceInit _) | .call (.loopInit _) => inferInstanceAs (Decidable (_ ∧ _))
  | .call (.add ..) | .call (.modify ..) | .call (.remove _) | .call (.loopDestroy _)
  | .call (.notifierSourceAdd ..) | .call (.notifierSourceRemove _)
  | .call (.netAttachEventLoop ..) | .call (.netDetachEventLoop _) =>
    inferInstanceAs (Decidable (s.mayCall = true))
  | .runOnce l timeout alloc (.ok r) => inferInstanceAs (Decidable (s.run.isNone = true ∧
    r.revents.length = (s.loops l).sources.length ∧
    ∀ e ∈ (s.runOnce l timeout alloc (.ok r)).1.pending, e.Possible))
  | .runOnce _ _ _ (.error _) => inferInstanceAs (Decidable (s.run.isNone = true))
  | .dispatch | .callbackReturn _ => inferInstanceAs (Decidable True)

/-- No source is registered, no loop is initialised and no callback was called. -/
structure EventState.Initial (s : EventState) : Prop where
  sources : ∀ x, s.sources x = eventSourceInit
  loops : ∀ l, s.loops l = ⟨[], false⟩
  run : s.run = none
  calls : s.calls = []

/-! ## What a call does to a source -/

/-- What a call does to the source `x`. -/
inductive SourceStep (s s' : EventState) (x : Nat) : Prop
  | same (source : s'.sources x = s.sources x) (history : s'.history x = s.history x)
  | changed (generation : (s'.sources x).generation = (s.sources x).generation + 1)
      (history : s'.history x = { s.history x with changes := (s.history x).changes + 1 })
  | initialised (inits : (s.history x).inits < (s'.history x).inits)

/-- Calls leave the running call of the loop and the log alone. -/
structure CallFrame (s s' : EventState) : Prop where
  run : s'.run = s.run
  calls : s'.calls = s.calls
  source : ∀ x, SourceStep s s' x

variable {s s' : EventState}

theorem CallFrame.refl (s : EventState) : CallFrame s s := ⟨rfl, rfl, fun _ => .same rfl rfl⟩

theorem CallFrame.change {x : Nat} {source : EventSource}
    (h : source.generation = (s.sources x).generation + 1) : CallFrame s (s.change x source) := by
  refine ⟨rfl, rfl, fun y => ?_⟩
  by_cases hy : y = x
  · subst hy
    exact .changed (by simp [EventState.change, h]) (by simp [EventState.change])
  · exact .same (Function.update_of_ne hy ..) (Function.update_of_ne hy ..)

theorem CallFrame.setLoop {l : Nat} {loop : EventLoop} (h : CallFrame s s') :
    CallFrame s (s'.setLoop l loop) := by
  refine ⟨h.run, h.calls, fun x => ?_⟩
  cases h.source x with
  | same hs hh => exact .same hs hh
  | changed hg hh => exact .changed hg hh
  | initialised hi => exact .initialised hi

theorem CallFrame.sourceInit (s : EventState) (x : Nat) : CallFrame s (s.sourceInit x) := by
  refine ⟨rfl, rfl, fun y => ?_⟩
  by_cases hy : y = x
  · subst hy
    exact .initialised (by simp [EventState.sourceInit])
  · exact .same (Function.update_of_ne hy ..) (Function.update_of_ne hy ..)

/-- A call after an initialisation of `x` that leaves the other sources alone, as a whole. -/
theorem CallFrame.after_sourceInit {x : Nat} (h : CallFrame (s.sourceInit x) s')
    (hother : ∀ y, y ≠ x → s'.sources y = s.sources y ∧ s'.history y = s.history y) :
    CallFrame s s' := by
  refine ⟨h.run, h.calls, fun y => ?_⟩
  by_cases hy : y = x
  · subst hy
    refine .initialised ?_
    have hi : ((s.sourceInit y).history y).inits = (s.history y).inits + 1 := by
      simp [EventState.sourceInit]
    cases h.source y with
    | same _ hh => rw [hh, hi]; omega
    | changed _ hh => rw [hh]; show _ < ((s.sourceInit y).history y).inits; omega
    | initialised hlt => omega
  · exact .same (hother y hy).1 (hother y hy).2

namespace EventState

/-- `vart_event_add` changes no other source. -/
theorem add_other (s : EventState) (l x : Nat) (fd : Int) (events : UInt32)
    (callback : Option Nat) (grow : Status) {y : Nat} (hy : y ≠ x) :
    (s.add l x fd events callback grow).1.sources y = s.sources y ∧
      (s.add l x fd events callback grow).1.history y = s.history y := by
  unfold add
  cases callback with
  | none => exact ⟨rfl, rfl⟩
  | some callback =>
    dsimp only
    split
    · exact ⟨rfl, rfl⟩
    · split
      · exact ⟨rfl, rfl⟩
      · cases grow with
        | error e => exact ⟨rfl, rfl⟩
        | ok u => exact ⟨Function.update_of_ne hy .., Function.update_of_ne hy ..⟩

theorem add_frame (s : EventState) (l x : Nat) (fd : Int) (events : UInt32)
    (callback : Option Nat) (grow : Status) :
    CallFrame s (s.add l x fd events callback grow).1 := by
  unfold add
  cases callback with
  | none => exact .refl s
  | some callback =>
    dsimp only
    split
    · exact .refl s
    · split
      · exact .refl s
      · cases grow with
        | error e => exact .refl s
        | ok u => exact (CallFrame.change rfl).setLoop

theorem modify_frame (s : EventState) (x : Nat) (events : UInt32) :
    CallFrame s (s.modify x events).1 := by
  unfold modify eventModify
  split
  · exact .refl s
  · rename_i source u h
    split at h
    · cases h
    · cases h
      exact .change rfl

theorem remove_frame (s : EventState) (x : Nat) : CallFrame s (s.remove x).1 := by
  unfold remove
  split
  · exact .refl s
  · split
    · exact .refl s
    · split
      · exact (CallFrame.change rfl).setLoop
      · exact .refl s

theorem loopDestroy_frame (s : EventState) (l : Nat) : CallFrame s (s.loopDestroy l) := by
  refine ⟨rfl, rfl, fun x => ?_⟩
  unfold loopDestroy
  extract_lets detached
  by_cases hx : x ∈ detached
  · exact .changed (by simp [hx, EventSource.detach]) (by simp [hx])
  · exact .same (by simp [hx]) (by simp [hx])

/-- The initialisation and the registration that two of the calls end with. -/
theorem sourceInit_add_frame (s : EventState) (l x : Nat) (fd : Int) (events : UInt32)
    (callback : Option Nat) (grow : Status) :
    CallFrame s ((s.sourceInit x).add l x fd events callback grow).1 := by
  refine (add_frame ..).after_sourceInit fun y hy => ?_
  obtain ⟨hs, hh⟩ := (s.sourceInit x).add_other l x fd events callback grow hy
  exact ⟨hs.trans (Function.update_of_ne hy ..), hh.trans (Function.update_of_ne hy ..)⟩

end EventState

theorem EventCall.frame (c : EventCall) (s : EventState) : CallFrame s (c.run s) := by
  cases c with
  | sourceInit x => exact .sourceInit s x
  | add l x fd events callback grow => exact s.add_frame ..
  | modify x events => exact s.modify_frame x events
  | remove x => exact s.remove_frame x
  | loopInit l => exact (CallFrame.refl s).setLoop
  | loopDestroy l => exact s.loopDestroy_frame l
  | notifierSourceAdd l x fd callback grow =>
    show CallFrame s (s.notifierSourceAdd l x fd callback grow).1
    unfold EventState.notifierSourceAdd
    split
    · exact .refl s
    · split
      · exact .refl s
      · exact s.sourceInit_add_frame ..
  | notifierSourceRemove x =>
    show CallFrame s (s.notifierSourceRemove x).1
    unfold EventState.notifierSourceRemove
    split
    · exact .refl s
    · exact s.remove_frame x
  | netAttachEventLoop l x fd callback grow =>
    show CallFrame s (s.netAttachEventLoop l x fd callback grow).1
    unfold EventState.netAttachEventLoop
    split
    · exact .refl s
    · split
      · exact .refl s
      · exact s.sourceInit_add_frame ..
  | netDetachEventLoop x =>
    show CallFrame s (s.netDetachEventLoop x).1
    unfold EventState.netDetachEventLoop
    split
    · exact s.remove_frame x
    · exact .refl s

/-! ## Entries of the snapshot -/

/-- What was polled is the descriptor and the interest of the source in the snapshot. -/
structure PollEntry.Polled (e : PollEntry) : Prop where
  fd : e.pollFd = if e.seen.events = 0 then -1 else e.seen.fd
  events : e.pollEvents = eventsToPoll e.seen.events

/-- What the source of an entry can have become since the snapshot. As long as it was not
initialised again, its generation counts the changes, and without a change it is as it was. -/
structure Tracked (s : EventState) (e : PollEntry) : Prop where
  polled : e.Polled
  inits_le : e.history.inits ≤ (s.history e.source).inits
  counted : (s.history e.source).inits = e.history.inits →
    ∃ n, (s.history e.source).changes = e.history.changes + n ∧
      (s.sources e.source).generation = e.generation + UInt64.ofNat n ∧
      (n = 0 → s.sources e.source = e.seen)

theorem Tracked.snapshot (s : EventState) (x : Nat) (revents : UInt16) :
    Tracked s (s.snapshot x revents) :=
  ⟨⟨rfl, rfl⟩, le_refl _, fun _ => ⟨0, rfl, by simp [EventState.snapshot], fun _ => rfl⟩⟩

theorem Tracked.step {e : PollEntry} (h : Tracked s e) (hf : SourceStep s s' e.source) :
    Tracked s' e := by
  obtain ⟨hpolled, hle, hcount⟩ := h
  cases hf with
  | same hs hh =>
    rw [← hh] at hle hcount
    rw [← hs] at hcount
    exact ⟨hpolled, hle, hcount⟩
  | changed hg hh =>
    refine ⟨hpolled, by rw [hh]; exact hle, fun hi => ?_⟩
    rw [hh] at hi
    obtain ⟨n, hn, hgn, -⟩ := hcount hi
    refine ⟨n + 1, by rw [hh]; show _ + 1 = _; omega, ?_, fun h0 => by omega⟩
    rw [hg, hgn, UInt64.ofNat_add, UInt64.add_assoc]
    rfl
  | initialised hi => exact ⟨hpolled, by omega, fun he => absurd he (by omega)⟩

namespace Invocation

/-- The source is as it was in the snapshot: it has the descriptor, the interest and the
registration that were polled. -/
structure Fresh (c : Invocation) : Prop where
  source : c.source = c.entry.seen
  history : c.history = c.entry.history

/-- The bits are those that poll reported for the snapshot of the source. -/
structure Reported (c : Invocation) : Prop where
  polled : c.entry.Polled
  events : c.events = eventsFromPoll c.entry.revents

/-- `vart_event_source_init` ran on the source since the snapshot. -/
def Reinitialised (c : Invocation) : Prop := c.history.inits ≠ c.entry.history.inits

/-- The changes of the source since the snapshot. -/
def changes (c : Invocation) : Nat := c.history.changes - c.entry.history.changes

end Invocation

/-- The log entry for the callback of `e`. -/
def EventState.invocation (s : EventState) (e : PollEntry) : Invocation :=
  ⟨e, eventsFromPoll e.revents, s.sources e.source, s.history e.source⟩

/-- A generation that is back at its value in the snapshot was left alone, initialised, or
counted around. -/
theorem Tracked.fresh_iff {e : PollEntry} (h : Tracked s e)
    (hgen : (s.sources e.source).generation = e.generation) :
    (s.invocation e).Fresh ↔
      ¬ (s.invocation e).Reinitialised ∧ (s.invocation e).changes < 2 ^ 64 := by
  obtain ⟨-, -, hcount⟩ := h
  constructor
  · rintro ⟨hs, hh⟩
    replace hh : s.history e.source = e.history := hh
    refine ⟨not_not.mpr (congrArg SourceHistory.inits hh), ?_⟩
    show (s.history e.source).changes - e.history.changes < 2 ^ 64
    rw [hh]
    omega
  · rintro ⟨hi, hlt⟩
    obtain ⟨n, hn, hgn, hseen⟩ := hcount (not_not.mp hi)
    replace hlt : (s.history e.source).changes - e.history.changes < 2 ^ 64 := hlt
    have h0 : UInt64.ofNat n = 0 := by
      rw [hgen] at hgn
      exact UInt64.left_eq_add.mp hgn
    have hn0 : n = 0 := by
      have := congrArg UInt64.toNat h0
      rw [UInt64.toNat_ofNat', Nat.mod_eq_of_lt (by omega)] at this
      exact this
    refine ⟨hseen hn0, ?_⟩
    show s.history e.source = e.history
    rw [hn0] at hn
    cases hq : s.history e.source
    cases hr : e.history
    simp_all [Invocation.Reinitialised, EventState.invocation]

/-! ## Runs -/

/-- What one step of the machine can do: to each source, to the entries still to be looked at, and
to the log. -/
structure StepFrame (s s' : EventState) : Prop where
  source : ∀ x, SourceStep s s' x
  pending : ∀ e ∈ s'.pending, e ∈ s.pending ∨ ∃ x revents, e = s'.snapshot x revents
  calls : ∀ c ∈ s'.calls, c ∈ s.calls ∨ ∃ e ∈ s.pending,
    (s.sources e.source).generation = e.generation ∧ c = s.invocation e

theorem StepFrame.refl (s : EventState) : StepFrame s s :=
  ⟨fun _ => .same rfl rfl, fun _ he => .inl he, fun _ hc => .inl hc⟩

theorem CallFrame.stepFrame (h : CallFrame s s') : StepFrame s s' where
  source := h.source
  pending e he := by
    unfold EventState.pending at he ⊢
    rw [h.run] at he
    exact .inl he
  calls c hc := .inl (h.calls ▸ hc)

theorem EventState.pending_of_run {run : EventRun} (h : s.run = some run) :
    s.pending = run.pending := by
  rw [EventState.pending, h]

theorem runOnce_frame (s : EventState) (l : Nat) (timeout : Int) (alloc : Bool)
    (poll : Except Errno PollResult) : StepFrame s (s.runOnce l timeout alloc poll).1 := by
  unfold EventState.runOnce
  split
  · exact .refl s
  · split
    · exact .refl s
    · cases poll with
      | error e => exact .refl s
      | ok r =>
        dsimp only
        split
        · exact .refl s
        · refine ⟨fun _ => .same rfl rfl, fun e he => .inr ?_, fun _ hc => .inl hc⟩
          replace he : e ∈ (s.loops l).sources.zipWith s.snapshot r.revents := he
          obtain ⟨i, hi, rfl⟩ := List.mem_iff_getElem.mp he
          rw [List.getElem_zipWith]
          exact ⟨_, _, rfl⟩

theorem dispatch_frame (s : EventState) : StepFrame s s.dispatch := by
  unfold EventState.dispatch
  split
  · exact .refl s
  · rename_i run hrun
    have hpend := EventState.pending_of_run hrun
    split
    · exact .refl s
    · split
      · exact ⟨fun _ => .same rfl rfl, fun e he => (List.not_mem_nil he).elim,
          fun _ hc => .inl hc⟩
      · rename_i e pending hp
        rw [hp] at hpend
        have htail : ∀ e' ∈ pending, e' ∈ s.pending := fun e' he' =>
          hpend ▸ List.mem_cons_of_mem _ he'
        split
        · rename_i hready
          refine ⟨fun _ => .same rfl rfl, fun e' he' => .inl (htail e' he'), fun c hc => ?_⟩
          simp only [EventState.ready, Bool.and_eq_true, decide_eq_true_iff] at hready
          rcases List.mem_append.mp hc with hc | hc
          · exact .inl hc
          · exact .inr ⟨e, hpend ▸ List.mem_cons_self, hready.1.2, List.mem_singleton.mp hc⟩
        · exact ⟨fun _ => .same rfl rfl, fun e' he' => .inl (htail e' he'), fun _ hc => .inl hc⟩

theorem callbackReturn_frame (s : EventState) (ret : Int) :
    StepFrame s (s.callbackReturn ret) := by
  unfold EventState.callbackReturn
  split
  · exact .refl s
  · rename_i run hrun
    split
    · exact .refl s
    · split
      · exact ⟨fun _ => .same rfl rfl, fun e he => (List.not_mem_nil he).elim,
          fun _ hc => .inl hc⟩
      · exact ⟨fun _ => .same rfl rfl,
          fun e he => .inl (EventState.pending_of_run hrun ▸ he), fun _ hc => .inl hc⟩

theorem eventStep_frame (s : EventState) (op : EventOp) : StepFrame s (eventStep s op) := by
  cases op with
  | call c => exact (c.frame s).stepFrame
  | runOnce l timeout alloc poll => exact runOnce_frame s l timeout alloc poll
  | dispatch => exact dispatch_frame s
  | callbackReturn ret => exact callbackReturn_frame s ret

structure EventInv (s : EventState) : Prop where
  pending : ∀ e ∈ s.pending, Tracked s e
  reported : ∀ c ∈ s.calls, c.Reported
  calls : ∀ c ∈ s.calls, c.Fresh ↔ ¬ c.Reinitialised ∧ c.changes < 2 ^ 64

theorem EventState.Initial.pending_eq_nil (h : s.Initial) : s.pending = [] := by
  rw [EventState.pending, h.run]

theorem EventState.Initial.inv (h : s.Initial) : EventInv s where
  pending e he := by
    rw [h.pending_eq_nil] at he
    exact (List.not_mem_nil he).elim
  reported c hc := by
    rw [h.calls] at hc
    exact (List.not_mem_nil hc).elim
  calls c hc := by
    rw [h.calls] at hc
    exact (List.not_mem_nil hc).elim

theorem StepFrame.inv (hf : StepFrame s s') (h : EventInv s) : EventInv s' where
  pending e he := by
    rcases hf.pending e he with hold | ⟨x, revents, rfl⟩
    · exact (h.pending e hold).step (hf.source e.source)
    · exact Tracked.snapshot s' x revents
  reported c hc := by
    rcases hf.calls c hc with hold | ⟨e, he, -, rfl⟩
    · exact h.reported c hold
    · exact ⟨(h.pending e he).polled, rfl⟩
  calls c hc := by
    rcases hf.calls c hc with hold | ⟨e, he, hgen, rfl⟩
    · exact h.calls c hold
    · exact (h.pending e he).fresh_iff hgen

/-- The operation initialises no source of the snapshot that is still to be looked at, and such a
source changes less than `2 ^ 64` times. -/
def EventOp.Safe (s : EventState) (op : EventOp) : Prop :=
  ∀ e ∈ s.pending, ((eventStep s op).history e.source).inits = (s.history e.source).inits ∧
    ((eventStep s op).history e.source).changes < e.history.changes + 2 ^ 64

instance (s : EventState) (op : EventOp) : Decidable (op.Safe s) :=
  inferInstanceAs (Decidable (∀ e ∈ s.pending, _ ∧ _))

/-- No source still to be looked at was initialised or counted around since the snapshot. -/
structure SafeInv (s : EventState) : Prop extends EventInv s where
  kept : ∀ e ∈ s.pending, (s.history e.source).inits = e.history.inits ∧
    (s.history e.source).changes < e.history.changes + 2 ^ 64
  fresh : ∀ c ∈ s.calls, c.Fresh

theorem EventState.Initial.safeInv (h : s.Initial) : SafeInv s where
  toEventInv := h.inv
  kept e he := by
    rw [h.pending_eq_nil] at he
    exact (List.not_mem_nil he).elim
  fresh c hc := by
    rw [h.calls] at hc
    exact (List.not_mem_nil hc).elim

theorem eventStep_safeInv (h : SafeInv s) {op : EventOp} (hs : op.Safe s) :
    SafeInv (eventStep s op) := by
  have hf := eventStep_frame s op
  refine ⟨hf.inv h.toEventInv, fun e he => ?_, fun c hc => ?_⟩
  · rcases hf.pending e he with hold | ⟨x, revents, rfl⟩
    · exact ⟨(hs e hold).1.trans (h.kept e hold).1, (hs e hold).2⟩
    · exact ⟨rfl, Nat.lt_add_of_pos_right (by decide)⟩
  · rcases hf.calls c hc with hold | ⟨e, he, hgen, rfl⟩
    · exact h.fresh c hold
    · obtain ⟨hi, hc⟩ := h.kept e he
      refine ((h.pending e he).fresh_iff hgen).mpr ⟨not_not.mpr hi, ?_⟩
      show (s.history e.source).changes - e.history.changes < 2 ^ 64
      omega

/-- In every run, a callback gets the readiness of the current registration of its source exactly
if the source was not initialised since the snapshot and changed less than `2 ^ 64` times. If all
operations of a run respect that, every callback does. -/
theorem event_dispatch_fresh (h : Reach eventStep EventState.Initial (fun s op => op.Valid s) s) :
    (∀ c ∈ s.calls, c.Reported ∧ (c.Fresh ↔ ¬ c.Reinitialised ∧ c.changes < 2 ^ 64)) ∧
    (Reach eventStep EventState.Initial (fun s op => op.Valid s ∧ op.Safe s) s →
      ∀ c ∈ s.calls, c.Fresh) := by
  refine ⟨?_, fun hsafe => ?_⟩
  · have hinv : EventInv s := h.invariant (fun _ => EventState.Initial.inv)
      fun s op hi _ => (eventStep_frame s op).inv hi
    exact fun c hc => ⟨hinv.reported c hc, hinv.calls c hc⟩
  · have hinv : SafeInv s := hsafe.invariant (fun _ => EventState.Initial.safeInv)
      fun _ _ hi ha => eventStep_safeInv hi ha.2
    exact hinv.fresh

/-- Nothing is initialised yet. -/
def EventState.zero : EventState where
  sources _ := eventSourceInit
  loops _ := ⟨[], false⟩
  run := none
  history _ := ⟨0, 0⟩
  calls := []

theorem EventState.zero_initial : EventState.zero.Initial :=
  ⟨fun _ => rfl, fun _ => rfl, rfl, rfl⟩

/-- Two notifiers, with the descriptors 3 and 4, are ready, and the callback of the first runs. -/
def twoReady : List EventOp :=
  [.call (.loopInit 0), .call (.notifierSourceAdd 0 0 3 10 (.ok ())),
    .call (.notifierSourceAdd 0 1 4 11 (.ok ())), .runOnce 0 (-1) true (.ok ⟨0, .ok (), [1, 1]⟩),
    .dispatch]

/-- The first callback switches the interest of the second source off, which is not called. -/
theorem switchedOff_fresh :
    (runFrom eventStep EventState.zero
      (twoReady ++ [.call (.modify 1 0), .callbackReturn 0, .dispatch])).calls.length = 1 ∧
    ∀ c ∈ (runFrom eventStep EventState.zero
      (twoReady ++ [.call (.modify 1 0), .callbackReturn 0, .dispatch])).calls, c.Fresh := by
  have hrun : Allowed eventStep (fun s op => op.Valid s ∧ op.Safe s) EventState.zero
      (twoReady ++ [.call (.modify 1 0), .callbackReturn 0, .dispatch]) := by decide
  have hsafe := (Reach.start EventState.zero_initial).runFrom hrun
  exact ⟨by decide, (event_dispatch_fresh (hsafe.mono fun _ _ h => h.1)).2 hsafe⟩

/-- The first callback removes the second source and adds it again for another notifier, with the
descriptor 5. Its generation is 1 again, and the new callback is called with the readiness of
descriptor 4. -/
theorem addedAgain_stale :
    Reach eventStep EventState.Initial (fun s op => op.Valid s)
      (runFrom eventStep EventState.zero (twoReady ++ [.call (.notifierSourceRemove 1),
        .call (.notifierSourceAdd 0 1 5 12 (.ok ())), .callbackReturn 0, .dispatch])) ∧
    ∃ c ∈ (runFrom eventStep EventState.zero (twoReady ++ [.call (.notifierSourceRemove 1),
        .call (.notifierSourceAdd 0 1 5 12 (.ok ())), .callbackReturn 0, .dispatch])).calls,
      c.entry.pollFd = 4 ∧ c.source.fd = 5 ∧ c.source.callback = some 12 ∧ c.events = eventRead ∧
        ¬ c.Fresh := by
  refine ⟨(Reach.start EventState.zero_initial).runFrom (by decide), ?_⟩
  · refine ⟨⟨⟨1, 1, 4, 1, 1, ⟨some 0, some 11, 1, 4, 1, true⟩, ⟨1, 1⟩⟩, 1,
      ⟨some 0, some 12, 1, 5, 1, true⟩, ⟨3, 2⟩⟩, by decide, rfl, rfl, rfl, rfl, fun h => ?_⟩
    exact absurd h.source (by decide)

end Vart
