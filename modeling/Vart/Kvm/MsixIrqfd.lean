import Mathlib.Logic.Function.Basic
import Mathlib.Data.List.Nodup
import Vart.Core.Errno
import Vart.Lib.Reach

/-!
# MSI-X vectors through irqfds (`hw/pci/pci-msix-irqfd.c`, `kvm/kvm-irq-routing.c`)

A backend gives each MSI-X vector of a function a GSI and an eventfd. The first message of a vector
adds a route to a table that all backends share, commits the table to KVM, and assigns the eventfd
to the GSI; then, and for every later message, the eventfd is signalled. Destroying a backend takes
its routes out of the table and commits it.

`routeStep` makes these calls one at a time. Each call to the kernel, the allocations and the
remapping of the message may fail: what they return is part of the call (`InjectHost`,
`DestroyHost`). `RouteState.kvm` is the last table that KVM accepted.

* `routeVector_cases`: an inject adds a route at the end and commits it, or leaves the table alone.
* `destroyLoop_routes`: the loop of a destroy removes the routes of its backend.
* `RouteInv`: the flags of the backends, the table and KVM's copy agree.
* `route_table_consistent`: so it is after any calls, whatever failed.
-/

namespace Vart

open Lib

/-! ## The table -/

/-- `VartKvmMsiRoute`. -/
structure MsiRoute where
  gsi : Nat
  address : Nat
  data : Nat
  devid : Nat
deriving DecidableEq

/-- `struct kvm_irq_routing_entry` of the type `KVM_IRQ_ROUTING_MSI`. -/
structure RoutingEntry where
  gsi : Nat
  addressLo : Nat
  addressHi : Nat
  data : Nat
  devid : Nat
deriving DecidableEq

def MsiRoute.entry (r : MsiRoute) : RoutingEntry :=
  ⟨r.gsi, r.address % 2 ^ 32, (r.address >>> 32) % 2 ^ 32, r.data, r.devid⟩

/-- `VartKvmIrqRouting`; `count` is the length of the list. -/
structure IrqRouting where
  routes : List MsiRoute
  capacity : Nat
deriving DecidableEq

/-- `vart_kvm_irq_routing_reserve`; `memory` says that `realloc` succeeds. -/
def irqRoutingReserve (r : IrqRouting) (memory : Bool) : Except Errno IrqRouting :=
  let capacity := if r.capacity = 0 then 8 else r.capacity * 2 % 2 ^ 64
  if r.routes.length < r.capacity then .ok r
  else if capacity < r.capacity ∨ capacity > uint64Max / 24 then .error .eoverflow
  else if !memory then .error .enomem
  else .ok { r with capacity }

/-- `vart_kvm_irq_routing_add_msi`. -/
def irqRoutingAddMsi (r : IrqRouting) (gsi address data devid : Nat) (memory : Bool) :
    IrqRouting × Status :=
  if gsi ∈ r.routes.map MsiRoute.gsi then (r, .error .eexist)
  else match irqRoutingReserve r memory with
    | .error e => (r, .error e)
    | .ok r => ({ r with routes := r.routes ++ [⟨gsi, address, data, devid⟩] }, .ok ())

/-- `vart_kvm_irq_routing_remove_msi`. -/
def irqRoutingRemoveMsi (r : IrqRouting) (gsi : Nat) : IrqRouting × Status :=
  if gsi ∈ r.routes.map MsiRoute.gsi then
    ({ r with routes := r.routes.eraseP (·.gsi = gsi) }, .ok ())
  else (r, .error .enoent)

/-! ## Backends -/

/-- `VartPciMsixIrqfd`. The device is named by a number. -/
structure MsixIrqfd where
  device : Nat
  routeAdded : Nat → Bool
  assigned : Nat → Bool
  firstGsi : Nat
  vectorCount : Nat
  connected : Bool

def MsixIrqfd.zero : MsixIrqfd := ⟨0, fun _ => false, fun _ => false, 0, 0, false⟩

/-- `backend->first_gsi + vector`. -/
def MsixIrqfd.gsi (k : MsixIrqfd) (vector : Nat) : Nat := (k.firstGsi + vector) % 2 ^ 32

/-- `vart_pci_msix_irqfd_init` for a function with `vectorCount` vectors, with memory and eventfds
for them. -/
def pciMsixIrqfdInit (device vectorCount firstGsi : Nat) : Except Errno MsixIrqfd :=
  if vectorCount = 0 ∨ firstGsi > uint32Max - vectorCount + 1 then .error .einval
  else .ok ⟨device, fun _ => false, fun _ => false, firstGsi, vectorCount, true⟩

structure RouteState where
  routing : IrqRouting
  /-- The last table that `KVM_SET_GSI_ROUTING` accepted. -/
  kvm : List RoutingEntry
  /-- KVM has the eventfd of the vector of the backend assigned to its GSI. -/
  irqfds : Nat → Nat → Bool
  backends : Nat → MsixIrqfd
  /-- A commit that a destroy made has failed. -/
  destroyFailed : Bool

def RouteState.updateBackend (s : RouteState) (b : Nat) (f : MsixIrqfd → MsixIrqfd) : RouteState :=
  { s with backends := Function.update s.backends b (f (s.backends b)) }

def RouteState.setIrqfd (s : RouteState) (b vector : Nat) (assigned : Bool) : RouteState :=
  { s with irqfds := Function.update s.irqfds b (Function.update (s.irqfds b) vector assigned) }

/-- `vart_kvm_irq_routing_commit`; `ioctl` is what the allocation and the ioctl return. KVM takes
the whole table or nothing. -/
def irqRoutingCommit (s : RouteState) (ioctl : Status) : RouteState × Status :=
  if s.routing.routes.length > (uint64Max - 8) / 48 ∨ s.routing.routes.length > uint32Max then
    (s, .error .eoverflow)
  else match ioctl with
    | .error e => (s, .error e)
    | .ok _ => ({ s with kvm := s.routing.routes.map MsiRoute.entry }, .ok ())

/-! ## Injecting -/

/-- What the calls of an inject return. -/
structure InjectHost where
  /-- `vart_pci_device_remap_msix_message`: the address and the data. -/
  message : Except Errno (Nat × Nat)
  memory : Bool
  commit : Status
  assign : Status
  notify : Status

/-- The part of `pci_msix_irqfd_inject` that makes sure that the vector has a route. -/
def routeVector (s : RouteState) (b vector address data : Nat) (host : InjectHost) :
    RouteState × Status :=
  let gsi := (s.backends b).gsi vector
  if (s.backends b).routeAdded vector then (s, .ok ())
  else match irqRoutingAddMsi s.routing gsi address data 0 host.memory with
    | (routing, .error e) => ({ s with routing }, .error e)
    | (routing, .ok _) =>
      match irqRoutingCommit { s with routing } host.commit with
      | (s, .error e) => ({ s with routing := (irqRoutingRemoveMsi s.routing gsi).1 }, .error e)
      | (s, .ok _) =>
        (s.updateBackend b fun k =>
          { k with routeAdded := Function.update k.routeAdded vector true }, .ok ())

/-- The part of `pci_msix_irqfd_inject` that makes sure that the eventfd is assigned. -/
def assignVector (s : RouteState) (b vector : Nat) (host : InjectHost) : RouteState × Status :=
  if (s.backends b).assigned vector then (s, .ok ())
  else match host.assign with
    | .error e => (s, .error e)
    | .ok _ =>
      ((s.setIrqfd b vector true).updateBackend b fun k =>
        { k with assigned := Function.update k.assigned vector true }, .ok ())

/-- `pci_msix_irqfd_inject`, and whether it signals the eventfd of the vector. -/
def pciMsixIrqfdInject (s : RouteState) (b device vector : Nat) (host : InjectHost) :
    RouteState × Status × Bool :=
  if !(s.backends b).connected ∨ (s.backends b).device ≠ device ∨
      vector ≥ (s.backends b).vectorCount then (s, .error .einval, false)
  else match host.message with
    | .error e => (s, .error e, false)
    | .ok (address, data) =>
      if address = 0 then (s, .error .einval, false)
      else match routeVector s b vector address data host with
        | (s, .error e) => (s, .error e, false)
        | (s, .ok _) =>
          match assignVector s b vector host with
          | (s, .error e) => (s, .error e, false)
          | (s, .ok _) => (s, host.notify, true)

/-! ## Destroying -/

/-- What the calls of a destroy return. -/
structure DestroyHost where
  deassign : Nat → Status
  commit : Status

/-- The first error is kept. -/
def keepFirst (first next : Status) : Status :=
  match first with
  | .error e => .error e
  | .ok _ => next

/-- One round of the loop of `vart_pci_msix_irqfd_destroy`: the state, whether a route was removed,
and the first error. -/
def destroyVector (b : Nat) (host : DestroyHost) (acc : RouteState × Bool × Status) (i : Nat) :
    RouteState × Bool × Status :=
  let (s, changed, first) := acc
  let k := s.backends b
  let (s, first) :=
    if k.assigned i then
      match host.deassign i with
      | .ok _ => (s.setIrqfd b i false, first)
      | .error e => (s, keepFirst first (.error e))
    else (s, first)
  if k.routeAdded i then
    match irqRoutingRemoveMsi s.routing (k.gsi i) with
    | (routing, .ok _) => ({ s with routing }, true, first)
    | (_, .error e) => (s, changed, if e ≠ .enoent then keepFirst first (.error e) else first)
  else (s, changed, first)

def destroyLoop (b : Nat) (host : DestroyHost) (s : RouteState) (n : Nat) :
    RouteState × Bool × Status :=
  (List.range n).foldl (destroyVector b host) (s, false, .ok ())

/-- `vart_pci_msix_irqfd_destroy`. -/
def pciMsixIrqfdDestroy (s : RouteState) (b : Nat) (host : DestroyHost) : RouteState × Status :=
  if !(s.backends b).connected then (s, .ok ())
  else
    let (s, changed, first) := destroyLoop b host s (s.backends b).vectorCount
    let (s, first) :=
      if changed then
        match irqRoutingCommit s host.commit with
        | (s, .ok _) => (s, first)
        | (s, .error e) => ({ s with destroyFailed := true }, keepFirst first (.error e))
      else (s, first)
    (s.updateBackend b fun _ => .zero, first)

inductive RouteCall where
  | inject (b device vector : Nat) (host : InjectHost)
  | destroy (b : Nat) (host : DestroyHost)

def routeStep (s : RouteState) : RouteCall → RouteState
  | .inject b device vector host => (pciMsixIrqfdInject s b device vector host).1
  | .destroy b host => (pciMsixIrqfdDestroy s b host).1

/-! ## The invariant -/

/-- The GSIs of the live backends do not wrap around and are disjoint. -/
structure RangesApart (backends : Nat → MsixIrqfd) : Prop where
  fits : ∀ b, (backends b).connected = true →
    (backends b).firstGsi + (backends b).vectorCount ≤ 2 ^ 32
  apart : ∀ b b' v v', (backends b).connected = true → (backends b').connected = true →
    v < (backends b).vectorCount → v' < (backends b').vectorCount →
    (backends b).gsi v = (backends b').gsi v' → b = b'

structure RouteInv (s : RouteState) : Prop where
  /-- There is one route for a GSI at most. -/
  unique : (s.routing.routes.map MsiRoute.gsi).Nodup
  ranges : RangesApart s.backends
  added : ∀ b v, (s.backends b).connected = true → v < (s.backends b).vectorCount →
    ((s.backends b).routeAdded v = true ↔
      (s.backends b).gsi v ∈ s.routing.routes.map MsiRoute.gsi)
  committed : ∀ r ∈ s.routing.routes, r.entry ∈ s.kvm
  same : s.destroyFailed = false → s.kvm = s.routing.routes.map MsiRoute.entry
  assigned : ∀ b v, (s.backends b).connected = true → v < (s.backends b).vectorCount →
    (s.backends b).assigned v = true → (s.backends b).routeAdded v = true ∧ s.irqfds b v = true

/-- Backends as `vart_pci_msix_irqfd_init` makes them, with disjoint ranges, and a table without
routes for them that KVM has accepted. -/
structure RouteStart (s : RouteState) : Prop where
  unique : (s.routing.routes.map MsiRoute.gsi).Nodup
  backend : ∀ b, (s.backends b).connected = true → ∃ device vectorCount firstGsi,
    vectorCount < 2 ^ 32 ∧ pciMsixIrqfdInit device vectorCount firstGsi = .ok (s.backends b)
  apart : ∀ b b' v v', (s.backends b).connected = true → (s.backends b').connected = true →
    v < (s.backends b).vectorCount → v' < (s.backends b').vectorCount →
    (s.backends b).gsi v = (s.backends b').gsi v' → b = b'
  free : ∀ b v, (s.backends b).connected = true → v < (s.backends b).vectorCount →
    (s.backends b).gsi v ∉ s.routing.routes.map MsiRoute.gsi
  same : s.kvm = s.routing.routes.map MsiRoute.entry
  failed : s.destroyFailed = false

theorem pciMsixIrqfdInit_ok {device vectorCount firstGsi : Nat} {k : MsixIrqfd}
    (hcount : vectorCount < 2 ^ 32)
    (h : pciMsixIrqfdInit device vectorCount firstGsi = .ok k) :
    k.firstGsi + k.vectorCount ≤ 2 ^ 32 ∧ (∀ v, k.routeAdded v = false) ∧
      ∀ v, k.assigned v = false := by
  unfold pciMsixIrqfdInit at h
  split at h
  · cases h
  rename_i hargs
  cases h
  simp only [uint32Max, not_or] at hargs
  exact ⟨by dsimp only; omega, fun _ => rfl, fun _ => rfl⟩

variable {s t : RouteState} {b v : Nat}

theorem RouteStart.inv (h : RouteStart s) : RouteInv s where
  unique := h.unique
  ranges := by
    refine ⟨fun b hb => ?_, h.apart⟩
    obtain ⟨_, _, _, hcount, hinit⟩ := h.backend b hb
    exact (pciMsixIrqfdInit_ok hcount hinit).1
  added b v hb hv := by
    obtain ⟨_, _, _, hcount, hinit⟩ := h.backend b hb
    simp [(pciMsixIrqfdInit_ok hcount hinit).2.1 v, h.free b v hb hv]
  committed r hr := by
    rw [h.same]
    exact List.mem_map_of_mem hr
  same _ := h.same
  assigned b v hb hv ha := by
    obtain ⟨_, _, _, hcount, hinit⟩ := h.backend b hb
    rw [(pciMsixIrqfdInit_ok hcount hinit).2.2 v] at ha
    cases ha

/-! ## One inject -/

/-- Everything but the capacity of the table is the same. -/
structure RouteSame (s t : RouteState) : Prop where
  routes : t.routing.routes = s.routing.routes
  kvm : t.kvm = s.kvm
  irqfds : t.irqfds = s.irqfds
  backends : t.backends = s.backends
  destroyFailed : t.destroyFailed = s.destroyFailed

/-- The vector got the route `r`, and KVM has it. -/
structure VectorRouted (s : RouteState) (b v : Nat) (r : MsiRoute) (t : RouteState) : Prop where
  gsi : r.gsi = (s.backends b).gsi v
  fresh : r.gsi ∉ s.routing.routes.map MsiRoute.gsi
  routes : t.routing.routes = s.routing.routes ++ [r]
  kvm : t.kvm = t.routing.routes.map MsiRoute.entry
  irqfds : t.irqfds = s.irqfds
  backends : t.backends = Function.update s.backends b
    { s.backends b with routeAdded := Function.update (s.backends b).routeAdded v true }
  destroyFailed : t.destroyFailed = s.destroyFailed

theorem irqRoutingAddMsi_cases (r : IrqRouting) (gsi address data devid : Nat) (memory : Bool) :
    (∃ e r', irqRoutingAddMsi r gsi address data devid memory = (r', .error e) ∧
      r'.routes = r.routes) ∨
    ∃ r', irqRoutingAddMsi r gsi address data devid memory = (r', .ok ()) ∧
      r'.routes = r.routes ++ [⟨gsi, address, data, devid⟩] ∧
      gsi ∉ r.routes.map MsiRoute.gsi := by
  unfold irqRoutingAddMsi
  split
  · exact .inl ⟨_, _, rfl, rfl⟩
  rename_i hfresh
  have hreserve : ∀ r', irqRoutingReserve r memory = .ok r' → r'.routes = r.routes := by
    intro r' h
    unfold irqRoutingReserve at h
    dsimp only at h
    repeat' split at h
    all_goals cases h
    all_goals rfl
  cases hr : irqRoutingReserve r memory with
  | error e => exact .inl ⟨_, _, rfl, rfl⟩
  | ok r' =>
    refine .inr ⟨_, rfl, ?_, hfresh⟩
    dsimp only
    rw [hreserve r' hr]

theorem irqRoutingCommit_cases (s : RouteState) (ioctl : Status) :
    (∃ e, irqRoutingCommit s ioctl = (s, .error e)) ∨
      irqRoutingCommit s ioctl =
        ({ s with kvm := s.routing.routes.map MsiRoute.entry }, .ok ()) := by
  unfold irqRoutingCommit
  split
  · exact .inl ⟨_, rfl⟩
  cases ioctl with
  | error e => exact .inl ⟨e, rfl⟩
  | ok u => exact .inr rfl

/-- Removing the route that was just added gives the old table. -/
theorem routes_removeMsi_append {r : IrqRouting} {routes : List MsiRoute} {new : MsiRoute}
    (hr : r.routes = routes ++ [new]) (hfresh : new.gsi ∉ routes.map MsiRoute.gsi) :
    (irqRoutingRemoveMsi r new.gsi).1.routes = routes := by
  have hnot : ∀ q ∈ routes, ¬ (q.gsi = new.gsi) := by
    intro q hq he
    exact hfresh (he ▸ List.mem_map_of_mem hq)
  rw [irqRoutingRemoveMsi, if_pos (by rw [hr]; simp)]
  dsimp only
  rw [hr, List.eraseP_append_right _ (by simpa using hnot)]
  simp

theorem routeVector_cases (s : RouteState) (b v address data : Nat) (host : InjectHost) :
    (∃ e t, routeVector s b v address data host = (t, .error e) ∧ RouteSame s t) ∨
    (routeVector s b v address data host = (s, .ok ()) ∧ (s.backends b).routeAdded v = true) ∨
    ∃ r t, routeVector s b v address data host = (t, .ok ()) ∧ VectorRouted s b v r t := by
  unfold routeVector
  dsimp only
  split
  · rename_i hadded
    exact .inr (.inl ⟨rfl, hadded⟩)
  obtain ⟨e, r', hadd, hroutes⟩ | ⟨r', hadd, hroutes, hfresh⟩ :=
    irqRoutingAddMsi_cases s.routing ((s.backends b).gsi v) address data 0 host.memory
  · rw [hadd]
    exact .inl ⟨e, _, rfl, hroutes, rfl, rfl, rfl, rfl⟩
  rw [hadd]
  dsimp only
  obtain ⟨e, hcommit⟩ | hcommit := irqRoutingCommit_cases { s with routing := r' } host.commit
  · rw [hcommit]
    exact .inl ⟨e, _, rfl, routes_removeMsi_append hroutes hfresh, rfl, rfl, rfl, rfl⟩
  · rw [hcommit]
    exact .inr (.inr ⟨_, _, rfl, rfl, hfresh, hroutes, rfl, rfl, rfl, rfl⟩)

theorem RouteInv.congr (h : RouteInv s) (hs : RouteSame s t) : RouteInv t where
  unique := by rw [hs.routes]; exact h.unique
  ranges := by rw [hs.backends]; exact h.ranges
  added := by rw [hs.backends, hs.routes]; exact h.added
  committed := by rw [hs.routes, hs.kvm]; exact h.committed
  same := by rw [hs.routes, hs.kvm, hs.destroyFailed]; exact h.same
  assigned := by rw [hs.backends, hs.irqfds]; exact h.assigned

theorem MsixIrqfd.gsi_eq {k : MsixIrqfd} (hfits : k.firstGsi + k.vectorCount ≤ 2 ^ 32)
    (hv : v < k.vectorCount) : k.gsi v = k.firstGsi + v :=
  Nat.mod_eq_of_lt (by omega)

/-- Two backend records with the same range of GSIs. -/
structure SameRange (k k' : MsixIrqfd) : Prop where
  connected : k'.connected = k.connected
  firstGsi : k'.firstGsi = k.firstGsi
  vectorCount : k'.vectorCount = k.vectorCount

theorem SameRange.gsi {k k' : MsixIrqfd} (h : SameRange k k') (v : Nat) : k'.gsi v = k.gsi v := by
  rw [MsixIrqfd.gsi, MsixIrqfd.gsi, h.firstGsi]

/-- Fewer live backends with the same ranges. -/
theorem RangesApart.mono {ks ks' : Nat → MsixIrqfd} (h : RangesApart ks)
    (hk : ∀ b, (ks' b).connected = true → SameRange (ks b) (ks' b)) : RangesApart ks' where
  fits b hb := by
    have hsame := hk b hb
    rw [hsame.firstGsi, hsame.vectorCount]
    exact h.fits b (hsame.connected ▸ hb)
  apart b b' v v' hb hb' hv hv' he := by
    have hsame := hk b hb
    have hsame' := hk b' hb'
    rw [hsame.vectorCount] at hv
    rw [hsame'.vectorCount] at hv'
    rw [hsame.gsi, hsame'.gsi] at he
    exact h.apart b b' v v' (hsame.connected ▸ hb) (hsame'.connected ▸ hb') hv hv' he

/-- Two vectors of live backends with one GSI are the same. -/
theorem RangesApart.gsi_inj {ks : Nat → MsixIrqfd} (h : RangesApart ks) {b b' v v' : Nat}
    (hb : (ks b).connected = true) (hb' : (ks b').connected = true)
    (hv : v < (ks b).vectorCount) (hv' : v' < (ks b').vectorCount)
    (he : (ks b).gsi v = (ks b').gsi v') : b = b' ∧ v = v' := by
  obtain rfl := h.apart b b' v v' hb hb' hv hv' he
  rw [MsixIrqfd.gsi_eq (h.fits b hb) hv, MsixIrqfd.gsi_eq (h.fits b hb) hv'] at he
  exact ⟨rfl, by omega⟩

/-- Setting the flag of one vector in a family of flags. -/
theorem setFlag_apply (f : Nat → Nat → Bool) (b v c w : Nat) :
    Function.update f b (Function.update (f b) v true) c w =
      if c = b ∧ w = v then true else f c w := by
  obtain rfl | hne := eq_or_ne c b
  · rw [Function.update_self, Function.update_apply]
    simp
  · rw [Function.update_of_ne hne]
    simp [hne]

/-- One backend changes: the flags `g` of vector `v`, and neither its range nor the flags `f`. -/
theorem setFlag_backends {backends backends' : Nat → MsixIrqfd} {x : MsixIrqfd}
    (h : backends' = Function.update backends b x) (hrange : SameRange (backends b) x) (f g : MsixIrqfd → Nat → Bool) (hf : f x = f (backends b))
    (hg : g x = Function.update (g (backends b)) v true) (c : Nat) :
    SameRange (backends c) (backends' c) ∧ f (backends' c) = f (backends c) ∧
      ∀ w, g (backends' c) w = if c = b ∧ w = v then true else g (backends c) w := by
  subst h
  obtain rfl | hne := eq_or_ne c b
  · rw [Function.update_self]
    refine ⟨hrange, hf, fun w => ?_⟩
    rw [hg, Function.update_apply]
    simp
  · rw [Function.update_of_ne hne]
    exact ⟨⟨rfl, rfl, rfl⟩, rfl, fun w => by simp [hne]⟩

/-- A committed route for the vector `v` of backend `b`. -/
theorem RouteInv.routed (h : RouteInv s) (hb : (s.backends b).connected = true)
    (hv : v < (s.backends b).vectorCount) {r : MsiRoute} (hr : VectorRouted s b v r t) : RouteInv t := by
  have hsame := setFlag_backends hr.backends ⟨rfl, rfl, rfl⟩ (·.assigned) (·.routeAdded) rfl rfl
  refine ⟨?_, h.ranges.mono fun c _ => (hsame c).1, fun c w hc hw => ?_, fun q hq => ?_,
    fun _ => hr.kvm, fun c w hc hw ha => ?_⟩
  · rw [hr.routes, List.map_append, List.nodup_append_comm]
    exact List.nodup_cons.mpr ⟨hr.fresh, h.unique⟩
  · obtain ⟨hrange, -, hflag⟩ := hsame c
    rw [hrange.connected] at hc
    rw [hrange.vectorCount] at hw
    rw [hflag, hrange.gsi, hr.routes, List.map_append, List.mem_append, List.map_singleton,
      List.mem_singleton, ← h.added c w hc hw, hr.gsi]
    split
    · rename_i hcw
      rw [hcw.1, hcw.2]
      simp
    · rename_i hcw
      rw [iff_self_or]
      exact fun he => absurd (h.ranges.gsi_inj hc hb hw hv he) hcw
  · rw [hr.kvm]
    exact List.mem_map_of_mem hq
  · obtain ⟨hrange, hassigned, hflag⟩ := hsame c
    rw [hrange.connected] at hc
    rw [hrange.vectorCount] at hw
    rw [hassigned] at ha
    obtain ⟨hadded, hirqfd⟩ := h.assigned c w hc hw ha
    rw [hflag, hr.irqfds, hadded]
    exact ⟨by simp, hirqfd⟩

/-- The eventfd of the vector was assigned. -/
structure Assigned (s : RouteState) (b v : Nat) (t : RouteState) : Prop where
  routes : t.routing.routes = s.routing.routes
  kvm : t.kvm = s.kvm
  irqfds : t.irqfds = Function.update s.irqfds b (Function.update (s.irqfds b) v true)
  backends : t.backends = Function.update s.backends b
    { s.backends b with assigned := Function.update (s.backends b).assigned v true }
  destroyFailed : t.destroyFailed = s.destroyFailed

theorem assignVector_cases (s : RouteState) (b v : Nat) (host : InjectHost) :
    (∃ e, assignVector s b v host = (s, .error e)) ∨
    (assignVector s b v host = (s, .ok ()) ∧ (s.backends b).assigned v = true) ∨
    ∃ t, assignVector s b v host = (t, .ok ()) ∧ Assigned s b v t := by
  unfold assignVector
  split
  · rename_i hassigned
    exact .inr (.inl ⟨rfl, hassigned⟩)
  cases host.assign with
  | error e => exact .inl ⟨e, rfl⟩
  | ok u => exact .inr (.inr ⟨_, rfl, rfl, rfl, rfl, rfl, rfl⟩)

theorem RouteInv.assign (h : RouteInv s) (hadded : (s.backends b).routeAdded v = true)
    (ha : Assigned s b v t) : RouteInv t := by
  have hsame := setFlag_backends ha.backends ⟨rfl, rfl, rfl⟩ (·.routeAdded) (·.assigned) rfl rfl
  have hirqfds : ∀ c w, t.irqfds c w = if c = b ∧ w = v then true else s.irqfds c w :=
    fun c w => ha.irqfds ▸ setFlag_apply s.irqfds b v c w
  refine ⟨by rw [ha.routes]; exact h.unique, h.ranges.mono fun c _ => (hsame c).1,
    fun c w hc hw => ?_, ?_, ?_, fun c w hc hw hass => ?_⟩
  · obtain ⟨hrange, hflag, -⟩ := hsame c
    rw [hflag, hrange.gsi, ha.routes]
    exact h.added c w (hrange.connected ▸ hc) (hrange.vectorCount ▸ hw)
  · rw [ha.routes, ha.kvm]
    exact h.committed
  · rw [ha.routes, ha.kvm, ha.destroyFailed]
    exact h.same
  · obtain ⟨hrange, hflag, hassigned⟩ := hsame c
    rw [hassigned] at hass
    rw [hflag, hirqfds]
    split at hass
    · rename_i hcw
      rw [if_pos hcw, hcw.1, hcw.2]
      exact ⟨hadded, rfl⟩
    · rename_i hcw
      rw [if_neg hcw]
      exact h.assigned c w (hrange.connected ▸ hc) (hrange.vectorCount ▸ hw) hass

/-- The vector `v` of backend `b` can be signalled: KVM has a route for its GSI, and its eventfd. -/
def Deliverable (s : RouteState) (b v : Nat) : Prop :=
  (∃ r ∈ s.routing.routes, r.gsi = (s.backends b).gsi v ∧ r.entry ∈ s.kvm) ∧ s.irqfds b v = true

theorem RouteInv.deliverable (h : RouteInv s) (hb : (s.backends b).connected = true)
    (hv : v < (s.backends b).vectorCount) (ha : (s.backends b).assigned v = true) :
    Deliverable s b v := by
  obtain ⟨hadded, hirqfd⟩ := h.assigned b v hb hv ha
  obtain ⟨r, hr, hgsi⟩ := List.mem_map.mp ((h.added b v hb hv).mp hadded)
  exact ⟨⟨r, hr, hgsi, h.committed r hr⟩, hirqfd⟩

/-- The route of a vector is there, or the call has failed without a trace. -/
theorem RouteInv.routeVector (h : RouteInv s) (hb : (s.backends b).connected = true)
    (hv : v < (s.backends b).vectorCount) (address data : Nat) (host : InjectHost) :
    ∃ t st, routeVector s b v address data host = (t, st) ∧ RouteInv t ∧
      SameRange (s.backends b) (t.backends b) ∧
      (st = .ok () → (t.backends b).routeAdded v = true) := by
  obtain ⟨e, t, hroute, hsame⟩ | ⟨hroute, hadded⟩ | ⟨r, t, hroute, hrouted⟩ :=
    routeVector_cases s b v address data host
  · exact ⟨t, _, hroute, h.congr hsame, by rw [hsame.backends]; exact ⟨rfl, rfl, rfl⟩, nofun⟩
  · exact ⟨s, _, hroute, h, ⟨rfl, rfl, rfl⟩, fun _ => hadded⟩
  · refine ⟨t, _, hroute, h.routed hb hv hrouted, ?_, fun _ => ?_⟩
    · rw [hrouted.backends, Function.update_self]
      exact ⟨rfl, rfl, rfl⟩
    · rw [hrouted.backends, Function.update_self]
      exact Function.update_self ..

theorem RouteInv.assignVector (h : RouteInv s) (hadded : (s.backends b).routeAdded v = true)
    (host : InjectHost) :
    ∃ t st, assignVector s b v host = (t, st) ∧ RouteInv t ∧
      SameRange (s.backends b) (t.backends b) ∧
      (st = .ok () → (t.backends b).assigned v = true) := by
  obtain ⟨e, hassign⟩ | ⟨hassign, ha⟩ | ⟨t, hassign, ha⟩ := assignVector_cases s b v host
  · exact ⟨s, _, hassign, h, ⟨rfl, rfl, rfl⟩, nofun⟩
  · exact ⟨s, _, hassign, h, ⟨rfl, rfl, rfl⟩, fun _ => ha⟩
  · refine ⟨t, _, hassign, h.assign hadded ha, ?_, fun _ => ?_⟩
    · rw [ha.backends, Function.update_self]
      exact ⟨rfl, rfl, rfl⟩
    · rw [ha.backends, Function.update_self]
      exact Function.update_self ..

/-- Step lemma for injects: the eventfd is signalled for a vector that can be signalled only. -/
theorem RouteInv.inject (h : RouteInv s) (b device v : Nat) (host : InjectHost) :
    RouteInv (pciMsixIrqfdInject s b device v host).1 ∧
      ((pciMsixIrqfdInject s b device v host).2.2 = true →
        Deliverable (pciMsixIrqfdInject s b device v host).1 b v) := by
  unfold pciMsixIrqfdInject
  split
  · exact ⟨h, nofun⟩
  rename_i hargs
  simp only [Bool.not_eq_true', not_or, Bool.not_eq_false, ge_iff_le, not_le] at hargs
  obtain ⟨hb, -, hv⟩ := hargs
  cases host.message with
  | error e => exact ⟨h, nofun⟩
  | ok message =>
    obtain ⟨address, data⟩ := message
    dsimp only
    split
    · exact ⟨h, nofun⟩
    obtain ⟨t, st, hroute, ht, hrange, hadded⟩ := h.routeVector hb hv address data host
    rw [hroute]
    cases st with
    | error e => exact ⟨ht, nofun⟩
    | ok _ =>
      obtain ⟨u, st, hassign, hu, hrange', hassigned⟩ := ht.assignVector (hadded rfl) host
      dsimp only
      rw [hassign]
      cases st with
      | error e => exact ⟨hu, nofun⟩
      | ok _ =>
        refine ⟨hu, fun _ => hu.deliverable ?_ ?_ (hassigned rfl)⟩
        · rw [hrange'.connected, hrange.connected, hb]
        · rw [hrange'.vectorCount, hrange.vectorCount]
          exact hv

/-! ## One destroy -/

/-- Where the values of `f` differ, erasing the first element with a value erases them all. -/
theorem eraseP_eq_filter {α β : Type} [DecidableEq β] {f : α → β} {l : List α}
    (h : (l.map f).Nodup) (k : β) : l.eraseP (f · = k) = l.filter (f · ≠ k) := by
  induction l with
  | nil => rfl
  | cons a l ih =>
    obtain ⟨hnot, hrest⟩ := List.nodup_cons.mp h
    obtain rfl | hne := eq_or_ne (f a) k
    · have hother : ∀ x ∈ l, f x ≠ f a := fun x hx he => hnot (he ▸ List.mem_map_of_mem hx)
      rw [List.eraseP_cons_of_pos (by simp), List.filter_cons_of_neg (by simp),
        List.filter_eq_self.mpr (by simpa using hother)]
    · rw [List.eraseP_cons_of_neg (by simpa using hne), List.filter_cons_of_pos (by simpa using hne),
        ih hrest]

theorem irqRoutingRemoveMsi_cases {r : IrqRouting} (hr : (r.routes.map MsiRoute.gsi).Nodup)
    (gsi : Nat) :
    (irqRoutingRemoveMsi r gsi = (r, .error .enoent) ∧
      r.routes.filter (fun q => q.gsi ≠ gsi) = r.routes) ∨
    ∃ r', irqRoutingRemoveMsi r gsi = (r', .ok ()) ∧
      r'.routes = r.routes.filter (fun q => q.gsi ≠ gsi) := by
  unfold irqRoutingRemoveMsi
  split
  · exact .inr ⟨_, rfl, eraseP_eq_filter hr gsi⟩
  · rename_i hnot
    refine .inl ⟨rfl, List.filter_eq_self.mpr fun q hq => ?_⟩
    simp only [ne_eq, decide_not, Bool.not_eq_eq_eq_not, Bool.not_true, decide_eq_false_iff_not]
    exact fun he => hnot (he ▸ List.mem_map_of_mem hq)

/-- What the loop of a destroy leaves alone. -/
structure DestroyFrame (b : Nat) (s t : RouteState) : Prop where
  backends : t.backends = s.backends
  kvm : t.kvm = s.kvm
  irqfds : ∀ c, c ≠ b → t.irqfds c = s.irqfds c
  destroyFailed : t.destroyFailed = s.destroyFailed

theorem DestroyFrame.trans {b : Nat} {s t u : RouteState} (h : DestroyFrame b s t)
    (h' : DestroyFrame b t u) : DestroyFrame b s u where
  backends := h'.backends.trans h.backends
  kvm := h'.kvm.trans h.kvm
  irqfds c hc := (h'.irqfds c hc).trans (h.irqfds c hc)
  destroyFailed := h'.destroyFailed.trans h.destroyFailed

/-- One round: the route of the vector is gone, and the flag tells whether the table changed. -/
theorem destroyVector_routes (b : Nat) (host : DestroyHost) {s : RouteState} (changed : Bool)
    (first : Status) (i : Nat) (hs : (s.routing.routes.map MsiRoute.gsi).Nodup) :
    ∃ t changed' first', destroyVector b host (s, changed, first) i = (t, changed', first') ∧
      DestroyFrame b s t ∧
      t.routing.routes = s.routing.routes.filter (fun q =>
        (s.backends b).routeAdded i = true → q.gsi ≠ (s.backends b).gsi i) ∧
      (changed' = false → changed = false ∧ t.routing.routes = s.routing.routes) := by
  have hdeassign : ∃ t first',
      (if (s.backends b).assigned i = true then
        match host.deassign i with
        | .ok _ => (s.setIrqfd b i false, first)
        | .error e => (s, keepFirst first (.error e))
      else (s, first)) = (t, first') ∧ t.routing = s.routing ∧ DestroyFrame b s t := by
    split
    · split
      · exact ⟨_, _, rfl, rfl, rfl, rfl, fun c hc => Function.update_of_ne hc _ _, rfl⟩
      · exact ⟨_, _, rfl, rfl, rfl, rfl, fun _ _ => rfl, rfl⟩
    · exact ⟨_, _, rfl, rfl, rfl, rfl, fun _ _ => rfl, rfl⟩
  obtain ⟨t, first', hpair, hrouting, hframe⟩ := hdeassign
  unfold destroyVector
  dsimp only
  rw [hpair]
  dsimp only
  rw [hrouting]
  split
  · rename_i hadded
    simp only [hadded, forall_const]
    obtain ⟨hremove, hfilter⟩ | ⟨r', hremove, hfilter⟩ :=
      irqRoutingRemoveMsi_cases hs ((s.backends b).gsi i)
    · rw [hremove]
      refine ⟨t, _, _, rfl, hframe, ?_, fun hc => ⟨hc, by rw [hrouting]⟩⟩
      rw [hrouting, hfilter]
    · rw [hremove]
      exact ⟨_, _, _, rfl, ⟨hframe.backends, hframe.kvm, hframe.irqfds, hframe.destroyFailed⟩,
        hfilter, nofun⟩
  · rename_i hadded
    refine ⟨t, _, _, rfl, hframe, ?_, fun hc => ⟨hc, by rw [hrouting]⟩⟩
    rw [hrouting]
    simp [hadded]

/-- Run lemma for the loop. -/
theorem destroyLoop_routes (b : Nat) (host : DestroyHost) {s : RouteState}
    (hs : (s.routing.routes.map MsiRoute.gsi).Nodup) (n : Nat) :
    ∃ t changed first, destroyLoop b host s n = (t, changed, first) ∧ DestroyFrame b s t ∧
      t.routing.routes = s.routing.routes.filter (fun q =>
        ∀ i < n, (s.backends b).routeAdded i = true → q.gsi ≠ (s.backends b).gsi i) ∧
      (changed = false → t.routing.routes = s.routing.routes) := by
  induction n with
  | zero => exact ⟨s, false, .ok (), rfl, ⟨rfl, rfl, fun _ _ => rfl, rfl⟩, by simp, fun _ => rfl⟩
  | succ n ih =>
    obtain ⟨t, changed, first, hloop, hframe, hroutes, hsame⟩ := ih
    have hnodup : (t.routing.routes.map MsiRoute.gsi).Nodup := by
      rw [hroutes]
      exact hs.sublist (List.filter_sublist.map _)
    obtain ⟨u, changed', first', hround, hframe', hroutes', hsame'⟩ :=
      destroyVector_routes b host changed first n hnodup
    refine ⟨u, changed', first', ?_, hframe.trans hframe', ?_, fun hc => ?_⟩
    · rw [destroyLoop, List.range_succ, List.foldl_append, ← destroyLoop, hloop]
      exact hround
    · rw [hroutes', hroutes, List.filter_filter, hframe.backends]
      refine List.filter_congr fun q _ => ?_
      rw [← Bool.decide_and, decide_eq_decide, Nat.forall_lt_succ_right, and_comm]
    · rw [(hsame' hc).2, hsame (hsame' hc).1]

/-- The routes that are not for a GSI of backend `b`. -/
def RouteState.otherRoutes (s : RouteState) (b : Nat) : List MsiRoute :=
  s.routing.routes.filter fun q =>
    ∀ v < (s.backends b).vectorCount, q.gsi ≠ (s.backends b).gsi v

/-- What a destroy of a live backend does. -/
structure Destroyed (s : RouteState) (b : Nat) (t : RouteState) : Prop where
  routes : t.routing.routes = s.otherRoutes b
  backends : t.backends = Function.update s.backends b .zero
  irqfds : ∀ c, c ≠ b → t.irqfds c = s.irqfds c
  /-- KVM kept its table, or it has the new one. -/
  kvm : t.kvm = s.kvm ∨ t.kvm = t.routing.routes.map MsiRoute.entry
  /-- If all commits of destroys went well so far, this one did, or there was none to make. -/
  failed : t.destroyFailed = false → s.destroyFailed = false ∧
    (t.kvm = t.routing.routes.map MsiRoute.entry ∨
      t.kvm = s.kvm ∧ t.routing.routes = s.routing.routes)

theorem RouteInv.destroyed (h : RouteInv s) (hb : (s.backends b).connected = true)
    (host : DestroyHost) : Destroyed s b (pciMsixIrqfdDestroy s b host).1 := by
  obtain ⟨t, changed, first, hloop, hframe, hroutes, hsame⟩ :=
    destroyLoop_routes b host h.unique (s.backends b).vectorCount
  have hother : t.routing.routes = s.otherRoutes b := by
    rw [hroutes]
    refine List.filter_congr fun q hq => ?_
    rw [decide_eq_decide]
    refine forall_congr' fun v => forall_congr' fun hv => ⟨fun hne he => ?_, fun hne _ => hne⟩
    exact hne ((h.added b v hb hv).mpr (he ▸ List.mem_map_of_mem hq)) he
  unfold pciMsixIrqfdDestroy
  rw [if_neg (by simp [hb]), hloop]
  dsimp only
  cases changed with
  | false =>
    exact ⟨hother, congrArg (Function.update · b _) hframe.backends, hframe.irqfds,
      .inl hframe.kvm, fun hf => ⟨hframe.destroyFailed ▸ hf, .inr ⟨hframe.kvm, hsame rfl⟩⟩⟩
  | true =>
    rw [if_pos rfl]
    obtain ⟨e, hcommit⟩ | hcommit := irqRoutingCommit_cases t host.commit
    · rw [hcommit]
      exact ⟨hother, congrArg (Function.update · b _) hframe.backends, hframe.irqfds,
        .inl hframe.kvm, nofun⟩
    · rw [hcommit]
      exact ⟨hother, congrArg (Function.update · b _) hframe.backends, hframe.irqfds, .inr rfl,
        fun hf => ⟨hframe.destroyFailed ▸ hf, .inl rfl⟩⟩

/-- Step lemma for destroys. -/
theorem RouteInv.destroy (h : RouteInv s) (b : Nat) (host : DestroyHost) :
    RouteInv (pciMsixIrqfdDestroy s b host).1 := by
  by_cases hb : (s.backends b).connected = true
  · have hd := h.destroyed hb host
    generalize (pciMsixIrqfdDestroy s b host).1 = t at hd
    have hsub : t.routing.routes.Sublist s.routing.routes := by
      rw [hd.routes]
      exact List.filter_sublist
    have hlive : ∀ c, (t.backends c).connected = true → c ≠ b ∧ t.backends c = s.backends c := by
      intro c hc
      rw [hd.backends] at hc ⊢
      obtain rfl | hne := eq_or_ne c b
      · rw [Function.update_self] at hc
        cases hc
      · exact ⟨hne, Function.update_of_ne hne _ _⟩
    refine ⟨h.unique.sublist (hsub.map _), ?_, fun c v hc hv => ?_, fun r hr => ?_, fun hf => ?_,
      fun c v hc hv ha => ?_⟩
    · refine h.ranges.mono fun c hc => ?_
      rw [(hlive c hc).2]
      exact ⟨rfl, rfl, rfl⟩
    · obtain ⟨hne, hsame⟩ := hlive c hc
      rw [hsame] at hc hv ⊢
      rw [h.added c v hc hv, hd.routes]
      -- A route of another backend is not one that was removed.
      simp only [List.mem_map, RouteState.otherRoutes, List.mem_filter, decide_eq_true_eq]
      refine exists_congr fun r => ⟨fun hr => ⟨⟨hr.1, fun w hw he => ?_⟩, hr.2⟩,
        fun hr => ⟨hr.1.1, hr.2⟩⟩
      exact hne (h.ranges.apart c b v w hc hb hv hw (hr.2.symm.trans he))
    · rcases hd.kvm with hkvm | hkvm
      · rw [hkvm]
        exact h.committed r (hsub.subset hr)
      · rw [hkvm]
        exact List.mem_map_of_mem hr
    · obtain ⟨hf', hkvm | ⟨hkvm, hroutes⟩⟩ := hd.failed hf
      · exact hkvm
      · rw [hkvm, hroutes]
        exact h.same hf'
    · obtain ⟨hne, hsame⟩ := hlive c hc
      rw [hsame] at hc hv ha ⊢
      rw [hd.irqfds c hne]
      exact h.assigned c v hc hv ha
  · unfold pciMsixIrqfdDestroy
    rw [if_pos (by simpa using hb)]
    exact h

/-! ## Any calls -/

theorem RouteInv.step (h : RouteInv s) (call : RouteCall) : RouteInv (routeStep s call) := by
  cases call with
  | inject b device v host => exact (h.inject b device v host).1
  | destroy b host => exact h.destroy b host

/-- Run lemma. -/
theorem RouteInv.run (h : RouteInv s) (calls : List RouteCall) :
    RouteInv (runFrom routeStep s calls) := by
  induction calls generalizing s with
  | nil => exact h
  | cons call calls ih => exact ih (h.step call)

/-- After any injects and destroys, whatever failed in them: there is one route for a GSI at most;
the flags of the live backends say which of their GSIs have one; the table is the one that KVM
accepted last, if no commit of a destroy has failed; an inject signals the eventfd of a vector only
if KVM has the route of the vector and its eventfd; and a destroy takes out the routes of its
backend and keeps the others in order. -/
theorem route_table_consistent (hstart : RouteStart s) (calls : List RouteCall) :
    let t := runFrom routeStep s calls
    (t.routing.routes.map MsiRoute.gsi).Nodup ∧
    (∀ b v, (t.backends b).connected = true → v < (t.backends b).vectorCount →
      ((t.backends b).routeAdded v = true ↔
        (t.backends b).gsi v ∈ t.routing.routes.map MsiRoute.gsi)) ∧
    (t.destroyFailed = false → t.kvm = t.routing.routes.map MsiRoute.entry) ∧
    (∀ b device v host, (pciMsixIrqfdInject t b device v host).2.2 = true →
      Deliverable (pciMsixIrqfdInject t b device v host).1 b v) ∧
    ∀ b host, (t.backends b).connected = true →
      (pciMsixIrqfdDestroy t b host).1.routing.routes = t.otherRoutes b := by
  intro t
  have h : RouteInv t := hstart.inv.run calls
  exact ⟨h.unique, h.added, h.same, fun b device v host => (h.inject b device v host).2,
    fun b host hb => (h.destroyed hb host).routes⟩

/-- Two backends with two vectors each, and an empty table. -/
def twoBackends : RouteState where
  routing := ⟨[], 0⟩
  kvm := []
  irqfds _ _ := false
  backends b := if b < 2 then ⟨b, fun _ => false, fun _ => false, 24 + 2 * b, 2, true⟩ else .zero
  destroyFailed := false

theorem twoBackends_start : RouteStart twoBackends where
  unique := List.nodup_nil
  backend b hb := by
    by_cases hlt : b < 2
    · refine ⟨b, 2, 24 + 2 * b, by decide, ?_⟩
      simp only [twoBackends, if_pos hlt, pciMsixIrqfdInit, uint32Max]
      rw [if_neg (by omega)]
    · rw [show twoBackends.backends b = .zero from if_neg hlt] at hb
      cases hb
  apart b b' v v' hb hb' hv hv' he := by
    have hlive : ∀ c, (twoBackends.backends c).connected = true → c < 2 := by
      intro c hc
      by_contra hge
      rw [show twoBackends.backends c = .zero from if_neg hge] at hc
      cases hc
    have h2 := hlive b hb
    have h2' := hlive b' hb'
    simp only [twoBackends, if_pos h2, if_pos h2', MsixIrqfd.gsi] at hv hv' he
    omega
  free _ _ _ _ := List.not_mem_nil
  same := rfl
  failed := rfl

/-- A host on which everything works, and one that refuses to set routes. -/
def workingInject : InjectHost := ⟨.ok (0x28000000, 7), true, .ok (), .ok (), .ok ()⟩

def refusedInject : InjectHost := { workingInject with commit := .error .einval }

/-- Both backends route a vector, a second vector is refused, and the first backend is destroyed. -/
def twoBackendCalls : List RouteCall :=
  [.inject 0 0 1 workingInject, .inject 1 1 0 workingInject, .inject 1 1 1 refusedInject,
    .destroy 0 ⟨fun _ => .ok (), .ok ()⟩]

theorem twoBackends_routed :
    let t := runFrom routeStep twoBackends twoBackendCalls
    t.routing.routes = [⟨26, 0x28000000, 7, 0⟩] ∧
      t.kvm = t.routing.routes.map MsiRoute.entry ∧
      (t.backends 1).routeAdded 0 = true := by
  intro t
  have hroutes : t.routing.routes = [⟨26, 0x28000000, 7, 0⟩] := by decide +kernel
  obtain ⟨-, hadded, hsame, -⟩ := route_table_consistent twoBackends_start twoBackendCalls
  refine ⟨hroutes, hsame (by decide +kernel), (hadded 1 0 ?_ ?_).mpr ?_⟩
  · decide +kernel
  · decide +kernel
  · decide +kernel

end Vart
