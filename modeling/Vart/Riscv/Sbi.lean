import Vart.Core.Errno
import Vart.Kvm.Vcpu
import Vart.Lib.Ranges
import Vart.Lib.Reach

/-!
# SBI calls (`arch/riscv/riscv-sbi.c`)

A dispatcher holds a list of handlers, each for a range of extension IDs. The list is intrusive: a
handler has its own `next` link. Here the list is that of the handlers' addresses, so the link of a
handler is what follows it (`nextHandler`). A handler that `vart_riscv_sbi_handler_init` prepared and
that is on no list has none.

A callback works on a state of its own kind `σ`, which nothing else changes.

* `riscvSbiAddHandler`, `riscvSbiDispatch`, `vcpuCompleteSbi`: the functions.
* `Registered.inv`: the list stays ordered (`Lib.Ordered`).
* `sbi_dispatch_sound`: what registration refuses, and which handler a call reaches.
-/

namespace Vart

open Lib

/-! ## Calls -/

/-- An exit to the dispatcher: `VartVcpuExit` with its `sbi` part. -/
structure SbiExit where
  type : ExitType
  extensionId : Nat
  functionId : Nat
  args : Fin 6 → Nat

structure SbiResponse where
  error : Int
  value : Nat
deriving DecidableEq

def sbiErrNotSupported : Int := -2

/-- The SBI call of a vCPU: whether it waits for its completion, and `riscv_sbi.ret`. -/
structure VcpuSbi where
  sbiPending : Bool
  ret : Nat × Nat
deriving DecidableEq

/-- `-errno`. -/
def Errno.ret (e : Errno) : Int := -e.code

/-- `vart_vcpu_complete_sbi`. -/
def vcpuCompleteSbi (vcpu : VcpuSbi) (error : Int) (value : Nat) : VcpuSbi × Int :=
  if !vcpu.sbiPending then (vcpu, Errno.einval.ret)
  else (⟨false, (error % 2 ^ 64).toNat, value % 2 ^ 64⟩, 0)

/-! ## Handlers -/

structure SbiHandler (σ : Type) where
  extensionStart : Nat
  extensionEnd : Nat
  callback : Option (SbiExit → SbiResponse → Nat → σ → σ × SbiResponse × Int)
  /-- The `opaque` argument of the callback. -/
  context : Nat

/-- The handlers of a dispatcher, by their addresses, the first one first. -/
structure SbiDispatcher where
  handlers : List Nat
deriving DecidableEq

/-- `vart_riscv_sbi_dispatcher_init`. -/
def SbiDispatcher.init : SbiDispatcher := ⟨[]⟩

/-- The `next` link of the handler at address `h`. -/
def nextHandler (h : Nat) : List Nat → Option Nat
  | [] => none
  | g :: l => if g = h then l.head? else nextHandler h l

variable {σ : Type} (handler : Nat → SbiHandler σ)

/-- The bounds of the handlers. -/
def sbiStart (h : Nat) : Nat := (handler h).extensionStart

def sbiEnd (h : Nat) : Nat := (handler h).extensionEnd

/-- The arguments that `vart_riscv_sbi_add_handler` accepts. -/
structure SbiDispatcher.Accepts (d : SbiDispatcher) (h : Nat) : Prop where
  callback : (handler h).callback.isSome = true
  range : sbiStart handler h ≤ sbiEnd handler h
  next : nextHandler h d.handlers = none

instance (d : SbiDispatcher) (h : Nat) : Decidable (d.Accepts handler h) :=
  decidable_of_iff ((handler h).callback.isSome = true ∧ sbiStart handler h ≤ sbiEnd handler h ∧
      nextHandler h d.handlers = none)
    ⟨fun ⟨h1, h2, h3⟩ => ⟨h1, h2, h3⟩, fun ⟨h1, h2, h3⟩ => ⟨h1, h2, h3⟩⟩

/-- `vart_riscv_sbi_add_handler`. -/
def riscvSbiAddHandler (d : SbiDispatcher) (h : Nat) : SbiDispatcher × Status :=
  if d.Accepts handler h then
    match insertRange (sbiStart handler) (sbiEnd handler) h d.handlers with
    | none => (d, .error .eexist)
    | some handlers => (⟨handlers⟩, .ok ())
  else (d, .error .einval)

/-- `vart_riscv_sbi_dispatch`: the state of the callbacks, the vCPU and the result. -/
def riscvSbiDispatch (d : SbiDispatcher) (exit : SbiExit) (w : σ) (vcpu : VcpuSbi) :
    σ × VcpuSbi × Int :=
  let response : SbiResponse := ⟨sbiErrNotSupported, 0⟩
  if exit.type ≠ .riscvSbi then (w, vcpu, Errno.einval.ret)
  else
    match findRange (sbiStart handler) (sbiEnd handler) exit.extensionId d.handlers with
    | none => (w, vcpuCompleteSbi vcpu response.error response.value)
    | some h =>
      match (handler h).callback with
      -- a handler on the list has a callback
      | none => (w, vcpu, Errno.efault.ret)
      | some callback =>
        let (w, response, ret) := callback exit response (handler h).context w
        if ret < 0 then (w, vcpu, ret)
        else (w, vcpuCompleteSbi vcpu response.error response.value)

/-! ## The list -/

/-- A dispatcher after some registrations, accepted or not. -/
def Registered (d : SbiDispatcher) : Prop :=
  Reach (fun d h => (riscvSbiAddHandler handler d h).1) (· = .init) (fun _ _ => True) d

variable {handler} {d e : SbiDispatcher} {h : Nat}

theorem registered_runFrom (handler : Nat → SbiHandler σ) (hs : List Nat) :
    Registered handler (runFrom (fun d h => (riscvSbiAddHandler handler d h).1) .init hs) := by
  have hstart : Registered handler .init := .start rfl
  exact Reach.runFrom hstart (.of_forall (fun _ _ => trivial) _)

/-- The outcomes of a registration. -/
theorem riscvSbiAddHandler_cases (handler : Nat → SbiHandler σ) (d : SbiDispatcher) (h : Nat) :
    (∃ err, riscvSbiAddHandler handler d h = (d, .error err)) ∨
    (d.Accepts handler h ∧ ∃ l, riscvSbiAddHandler handler d h = (⟨l⟩, .ok ()) ∧
      insertRange (sbiStart handler) (sbiEnd handler) h d.handlers = some l) := by
  unfold riscvSbiAddHandler
  split
  · rename_i haccepts
    split
    · exact .inl ⟨_, rfl⟩
    · rename_i l hl
      exact .inr ⟨haccepts, l, rfl, hl⟩
  · exact .inl ⟨_, rfl⟩

/-- The list is ordered, and every handler on it has a callback. -/
structure SbiDispatcher.Inv (handler : Nat → SbiHandler σ) (d : SbiDispatcher) : Prop where
  ordered : Ordered (sbiStart handler) (sbiEnd handler) d.handlers
  callback : ∀ h ∈ d.handlers, (handler h).callback.isSome = true

theorem SbiDispatcher.Inv.add (hd : d.Inv handler) (h : Nat) :
    (riscvSbiAddHandler handler d h).1.Inv handler := by
  obtain ⟨err, heq⟩ | ⟨haccepts, l, heq, hl⟩ := riscvSbiAddHandler_cases handler d h
  · rw [heq]
    exact hd
  · rw [heq]
    refine ⟨hd.ordered.insertRange haccepts.range hl, fun g hg => ?_⟩
    obtain rfl | hg := List.mem_cons.1 ((insertRange_perm hl).subset hg)
    · exact haccepts.callback
    · exact hd.callback g hg

theorem Registered.inv (hd : Registered handler d) : d.Inv handler :=
  hd.invariant (fun _ hi => hi ▸ ⟨.nil, fun _ hg => absurd hg List.not_mem_nil⟩)
    fun _ h hi _ => hi.add h

/-- A registration that fails leaves the list, and one that succeeds adds the handler. -/
theorem riscvSbiAddHandler_mem (handler : Nat → SbiHandler σ) (d : SbiDispatcher) (h : Nat) :
    (riscvSbiAddHandler handler d h).2 = .ok () ∧
      (∀ g, g ∈ (riscvSbiAddHandler handler d h).1.handlers ↔ g = h ∨ g ∈ d.handlers) ∨
    (∃ err, riscvSbiAddHandler handler d h = (d, .error err)) := by
  obtain hfail | ⟨-, l, heq, hl⟩ := riscvSbiAddHandler_cases handler d h
  · exact .inr hfail
  · rw [heq]
    exact .inl ⟨rfl, fun g => (insertRange_perm hl).mem_iff.trans List.mem_cons⟩

/-- An otherwise valid handler is refused exactly if its range meets one that is registered. -/
theorem SbiDispatcher.Inv.refused_iff (hd : d.Inv handler) (haccepts : d.Accepts handler h) :
    riscvSbiAddHandler handler d h = (d, .error .eexist) ↔
      ∃ g ∈ d.handlers, Meets (sbiStart handler) (sbiEnd handler) h g := by
  rw [← insertRange_eq_none_iff hd.ordered]
  unfold riscvSbiAddHandler
  rw [if_pos haccepts]
  split
  · rename_i hnone
    exact iff_of_true rfl hnone
  · rename_i l hl
    refine iff_of_false (fun heq => ?_) (by rw [hl]; simp)
    cases (congrArg Prod.snd heq : (.ok () : Status) = .error .eexist)

/-! ## Dispatch -/

/-- The call reaches the handler that covers its extension. -/
theorem SbiDispatcher.Inv.dispatch_handler (hd : d.Inv handler) {exit : SbiExit}
    (htype : exit.type = .riscvSbi) (hh : h ∈ d.handlers)
    (hcovers : Covers (sbiStart handler) (sbiEnd handler) h exit.extensionId) :
    ∃ callback, (handler h).callback = some callback ∧ ∀ w vcpu,
      riscvSbiDispatch handler d exit w vcpu =
        (let r := callback exit ⟨sbiErrNotSupported, 0⟩ (handler h).context w
        (r.1, if r.2.2 < 0 then (vcpu, r.2.2)
          else vcpuCompleteSbi vcpu r.2.1.error r.2.1.value)) := by
  obtain ⟨callback, hcallback⟩ := Option.isSome_iff_exists.1 (hd.callback h hh)
  refine ⟨callback, hcallback, fun w vcpu => ?_⟩
  have hfind := (findRange_eq_some_iff hd.ordered).2 ⟨hh, hcovers⟩
  unfold riscvSbiDispatch
  dsimp only
  rw [if_neg (by simp [htype]), hfind]
  dsimp only
  rw [hcallback]
  dsimp only
  split <;> rfl

/-- A call that no handler covers. -/
theorem SbiDispatcher.Inv.dispatch_none (hd : d.Inv handler) {exit : SbiExit}
    (htype : exit.type = .riscvSbi)
    (hnone : ∀ h ∈ d.handlers, ¬ Covers (sbiStart handler) (sbiEnd handler) h exit.extensionId)
    (w : σ) (vcpu : VcpuSbi) :
    riscvSbiDispatch handler d exit w vcpu = (w, vcpuCompleteSbi vcpu sbiErrNotSupported 0) := by
  unfold riscvSbiDispatch
  dsimp only
  rw [if_neg (by simp [htype]), (findRange_eq_none_iff hd.ordered).2 hnone]

theorem vcpuCompleteSbi_pending {vcpu : VcpuSbi} (h : vcpu.sbiPending = true) (error : Int)
    (value : Nat) : vcpuCompleteSbi vcpu error value =
      (⟨false, (error % 2 ^ 64).toNat, value % 2 ^ 64⟩, 0) :=
  if_neg (by simp [h])

/-- The list of a dispatcher is sorted, with disjoint ranges. An otherwise valid handler is refused
exactly if its range meets a registered one. A pending call reaches the one handler that covers its
extension, and is completed with the response of the callback or left with its error; without such
a handler it is completed with `NOT_SUPPORTED`. The order of the registrations does not matter. -/
theorem sbi_dispatch_sound (hd : Registered handler d) :
    Ordered (sbiStart handler) (sbiEnd handler) d.handlers ∧
    (∀ h, d.Accepts handler h →
      ((∃ g ∈ d.handlers, Meets (sbiStart handler) (sbiEnd handler) h g) ∧
        riscvSbiAddHandler handler d h = (d, .error .eexist)) ∨
      ((∀ g ∈ d.handlers, ¬ Meets (sbiStart handler) (sbiEnd handler) h g) ∧
        (riscvSbiAddHandler handler d h).2 = .ok () ∧
        ∀ g, g ∈ (riscvSbiAddHandler handler d h).1.handlers ↔ g = h ∨ g ∈ d.handlers)) ∧
    (∀ exit w vcpu, exit.type = .riscvSbi → vcpu.sbiPending = true →
      (∃ h ∈ d.handlers, Covers (sbiStart handler) (sbiEnd handler) h exit.extensionId ∧
        (∀ g ∈ d.handlers, Covers (sbiStart handler) (sbiEnd handler) g exit.extensionId → g = h) ∧
        ∃ callback, (handler h).callback = some callback ∧
          riscvSbiDispatch handler d exit w vcpu =
            (let r := callback exit ⟨sbiErrNotSupported, 0⟩ (handler h).context w
            (r.1, if r.2.2 < 0 then (vcpu, r.2.2)
              else (⟨false, (r.2.1.error % 2 ^ 64).toNat, r.2.1.value % 2 ^ 64⟩, 0)))) ∨
      ((∀ h ∈ d.handlers, ¬ Covers (sbiStart handler) (sbiEnd handler) h exit.extensionId) ∧
        riscvSbiDispatch handler d exit w vcpu = (w, ⟨false, 2 ^ 64 - 2, 0⟩, 0))) ∧
    (∀ e, Registered handler e → (∀ h, h ∈ e.handlers ↔ h ∈ d.handlers) →
      ∀ exit w vcpu, riscvSbiDispatch handler e exit w vcpu =
        riscvSbiDispatch handler d exit w vcpu) := by
  have hinv := hd.inv
  refine ⟨hinv.ordered, fun h haccepts => ?_, fun exit w vcpu htype hpending => ?_,
    fun e he hmem exit w vcpu => ?_⟩
  · by_cases hmeets : ∃ g ∈ d.handlers, Meets (sbiStart handler) (sbiEnd handler) h g
    · exact .inl ⟨hmeets, (hinv.refused_iff haccepts).2 hmeets⟩
    · refine .inr ⟨fun g hg hm => hmeets ⟨g, hg, hm⟩, ?_⟩
      obtain hok | ⟨err, hfail⟩ := riscvSbiAddHandler_mem handler d h
      · exact hok
      -- the only error of an accepted handler is `EEXIST`
      · have hexist : err = .eexist := by
          unfold riscvSbiAddHandler at hfail
          rw [if_pos haccepts] at hfail
          split at hfail <;> cases hfail
          rfl
        exact absurd ((hinv.refused_iff haccepts).1 (hexist ▸ hfail)) hmeets
  · by_cases hcovered : ∃ h ∈ d.handlers,
        Covers (sbiStart handler) (sbiEnd handler) h exit.extensionId
    · obtain ⟨h, hh, hcovers⟩ := hcovered
      obtain ⟨callback, hcallback, hdispatch⟩ := hinv.dispatch_handler htype hh hcovers
      refine .inl ⟨h, hh, hcovers, fun g hg hg' => hinv.ordered.unique hg hh hg' hcovers, callback,
        hcallback, ?_⟩
      rw [hdispatch]
      dsimp only
      rw [vcpuCompleteSbi_pending hpending]
    · have hnone : ∀ h ∈ d.handlers,
          ¬ Covers (sbiStart handler) (sbiEnd handler) h exit.extensionId :=
        fun h hh hc => hcovered ⟨h, hh, hc⟩
      refine .inr ⟨hnone, ?_⟩
      rw [hinv.dispatch_none htype hnone, vcpuCompleteSbi_pending hpending]
      rfl
  · have hsame : e = d := congrArg SbiDispatcher.mk (he.inv.ordered.ext hinv.ordered hmem)
    rw [hsame]

/-- Two handlers, for `[0x10, 0x1f]` and for `0x54494d45`. Their callbacks count the calls; the
second one fails. -/
def timerAndBase (h : Nat) : SbiHandler Nat where
  extensionStart := if h = 0 then 0x54494d45 else 0x10
  extensionEnd := if h = 0 then 0x54494d45 else 0x1f
  callback := some fun _ _ context n => (n + 1, ⟨0, context⟩, if h = 0 then -5 else 0)
  context := 7

theorem timerAndBase_dispatch :
    riscvSbiDispatch timerAndBase ⟨[1, 0]⟩ ⟨.riscvSbi, 0x12, 0, fun _ => 0⟩ 3 ⟨true, 0, 0⟩ =
      (4, ⟨false, 0, 7⟩, 0) ∧
    riscvSbiAddHandler timerAndBase ⟨[1, 0]⟩ 2 = (⟨[1, 0]⟩, .error .eexist) := by
  have hreach : Registered timerAndBase ⟨[1, 0]⟩ := registered_runFrom timerAndBase [0, 1]
  obtain ⟨-, hadd, hdispatch, -⟩ := sbi_dispatch_sound hreach
  refine ⟨?_, ?_⟩
  · obtain ⟨h, hh, hcovers, -, callback, hcallback, heq⟩ | ⟨hnone, -⟩ :=
      hdispatch ⟨.riscvSbi, 0x12, 0, fun _ => 0⟩ 3 ⟨true, 0, 0⟩ rfl rfl
    · rw [heq]
      obtain rfl | rfl : h = 1 ∨ h = 0 := by simpa using hh
      · cases hcallback
        rfl
      · exact absurd hcovers (by simp [Covers, sbiStart, timerAndBase])
    · exact absurd ⟨by decide, by decide⟩ (hnone 1 (by decide))
  · obtain ⟨-, hrefused⟩ | ⟨hfree, -⟩ := hadd 2 ⟨rfl, by decide, by decide⟩
    · exact hrefused
    · exact absurd ⟨by decide, by decide⟩ (hfree 1 (by decide))

end Vart
