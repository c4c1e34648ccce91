import Mathlib.Data.List.Pairwise
import Vart.Lib.Links
import Vart.Lib.Reach
import Vart.Pci.Delivery

/-!
# The capability list of a function (`hw/pci/pci.c`)

`vart_pci_device_add_capability` puts a capability behind the ones that are there and links it to
the last one; `vart_pci_device_init_msix` adds the MSI-X capability.

`capabilityStep` makes one of these calls on a function that is not on a bus, and keeps the list of
the capabilities that were accepted. The tables of MSI-X are allocated before the capability is
added, so a refusal that comes later has to give them back (`PciMsix.withoutTables`).

* `pciDeviceAddCapability_bytes`: the bytes that an accepted call writes, and those it keeps.
* `CapabilityInv`: the configuration space holds exactly the accepted capabilities.
* `capability_list_wellFormed`: so it is after any calls, and a refused call changes nothing.
-/

namespace Vart

open Lib

/-! ## Calls -/

/-- An accepted capability: where it is, its ID and its body. -/
structure Capability where
  offset : Nat
  id : UInt8
  data : List UInt8
deriving DecidableEq

/-- The end of a capability: the body comes behind the ID and the link. -/
def Capability.limit (c : Capability) : Nat := c.offset + 2 + c.data.length

inductive CapabilityCall where
  | addCapability (id : UInt8) (data : List UInt8)
  /-- `memory` says that the three allocations of the call succeed. -/
  | initMsix (memory : Bool) (vectorCount tableBar tableOffset pbaBar pbaOffset : Nat)

/-- The body of the MSI-X capability. -/
def msixCapabilityBody (vectorCount tableBar tableOffset pbaBar pbaOffset : Nat) : List UInt8 :=
  storeLe 2 ((vectorCount - 1) &&& 0x07ff) ++ storeLe 4 (tableOffset ||| tableBar) ++
    storeLe 4 (pbaOffset ||| pbaBar)

/-- The pointers to the tables are set to `NULL`. -/
def PciMsix.withoutTables (msix : PciMsix) : PciMsix :=
  { msix with table := fun _ => 0, pba := fun _ => 0, irqRoutes := fun _ => none }

/-- The function after a call, and the capability if the call was accepted. -/
def capabilityCall (dev : PciDevice) : CapabilityCall → PciDevice × Except Errno Capability
  | .addCapability id data =>
    match pciDeviceAddCapability dev id data with
    | .ok (dev', offset) => (dev', .ok ⟨offset, id, data⟩)
    | .error e => (dev, .error e)
  | .initMsix memory vectorCount tableBar tableOffset pbaBar pbaOffset =>
    match pciDeviceInitMsix dev vectorCount tableBar tableOffset pbaBar pbaOffset with
    | .ok dev' =>
      if memory then (dev', .ok ⟨dev'.msix.capabilityOffset, UInt8.ofNat pciCapIdMsix,
        msixCapabilityBody vectorCount tableBar tableOffset pbaBar pbaOffset⟩)
      else ({ dev with msix := dev.msix.withoutTables }, .error .enomem)
    -- There is no room for the capability; the other checks come before the allocations.
    | .error .enospc =>
      ({ dev with msix := dev.msix.withoutTables }, .error (if memory then .enospc else .enomem))
    | .error e => (dev, .error e)

/-- A function and the capabilities that were accepted, in the order of the calls. -/
abbrev CapabilityState := PciDevice × List Capability

def capabilityStep (s : CapabilityState) (call : CapabilityCall) : CapabilityState :=
  match capabilityCall s.1 call with
  | (dev, .ok c) => (dev, s.2 ++ [c])
  | (dev, .error _) => (dev, s.2)

/-- The Capabilities bit of the Status register. -/
def PciDevice.HasCapabilities (dev : PciDevice) : Prop :=
  dev.configLoad 0x06 2 &&& pciStatusCapabilities ≠ 0

/-- A function that is not on a bus and has no capability yet. -/
structure NoCapability (dev : PciDevice) : Prop where
  realized : dev.parent.realized = false
  pciBus : dev.pciBus = none
  next : dev.capabilityNext = pciCapabilityStart
  tail : dev.capabilityTail = 0
  list : dev.configSpace pciCapabilityListOffset = 0
  status : ¬ dev.HasCapabilities
  configured : dev.msix.configured = false
  tables : dev.msix.withoutTables = dev.msix

theorem noCapability_pciDeviceInit (vendorId deviceId : UInt16)
    (revision progIf subclass classCode : UInt8) :
    NoCapability (pciDeviceInit vendorId deviceId revision progIf subclass classCode) where
  realized := rfl
  pciBus := rfl
  next := rfl
  tail := rfl
  list := rfl
  status := by
    have hread : (pciDeviceInit vendorId deviceId revision progIf subclass classCode).configSpace.read
        0x06 2 = [0, 0] := rfl
    rw [PciDevice.HasCapabilities, PciDevice.configLoad, hread, not_not]
    rfl
  configured := rfl
  tables := rfl

/-! ## One accepted call -/

/-- The byte that has to point to the next capability. -/
def PciDevice.capabilityLink (dev : PciDevice) : Nat :=
  if dev.capabilityTail = 0 then pciCapabilityListOffset else dev.capabilityTail + 1

theorem hasCapabilities_configStoreLe (dev : PciDevice) (v : Nat) :
    (dev.configStoreLe 0x06 2 (v ||| pciStatusCapabilities)).HasCapabilities := by
  have hread := Store.read_write_same dev.configSpace 0x06 (storeLe 2 (v ||| pciStatusCapabilities))
  rw [length_storeLe] at hread
  rw [PciDevice.HasCapabilities, PciDevice.configLoad, PciDevice.configStoreLe, hread,
    loadLe_storeLe]
  intro h
  have hbit := congrArg (Nat.testBit · 4) h
  rw [show 256 ^ 2 = 2 ^ 16 from rfl] at hbit
  simp only [Nat.testBit_and, Nat.testBit_mod_two_pow, Nat.testBit_or,
    show pciStatusCapabilities.testBit 4 = true from rfl, Bool.or_true] at hbit
  cases hbit

/-- What an accepted `vart_pci_device_add_capability` stores, if the link lies below the new
capability. -/
structure CapabilityBytes (dev dev' : PciDevice) (id : UInt8) (offset : Nat) : Prop where
  parent : dev'.parent = dev.parent
  pciBus : dev'.pciBus = dev.pciBus
  aligned : 4 ∣ dev.capabilityNext → 4 ∣ dev'.capabilityNext
  link : (dev'.configSpace dev.capabilityLink).toNat = offset
  id : dev'.configSpace offset = id
  ends : dev'.configSpace (offset + 1) = 0
  below : ∀ x, 8 ≤ x → x < offset → x ≠ dev.capabilityLink → dev'.configSpace x = dev.configSpace x
  status : dev'.HasCapabilities

theorem pciDeviceAddCapability_bytes {dev dev' : PciDevice} {id : UInt8} {data : List UInt8}
    {offset : Nat} (h : pciDeviceAddCapability dev id data = .ok (dev', offset))
    (hlink : 8 ≤ dev.capabilityLink) (hbelow : dev.capabilityLink < dev.capabilityNext) :
    CapabilityBytes dev dev' id offset := by
  have halloc : andNot (data.length + 2 + 3) 3 = data.length + 5 - (data.length + 5) % 4 :=
    andNot_mask (data.length + 5) 2
  unfold pciDeviceAddCapability at h
  simp only at h
  rw [halloc] at h
  split at h
  · cases h
  split at h
  · cases h
  split at h
  · cases h
  rename_i hspace
  simp only [pciCapabilityStart, pciCapabilityEnd, not_or, Nat.not_lt, Nat.not_le,
    ge_iff_le, gt_iff_lt] at hspace
  obtain ⟨hge, hlt, hfit⟩ := hspace
  have hmod : dev.capabilityNext % 2 ^ 8 = dev.capabilityNext := Nat.mod_eq_of_lt (by omega)
  rw [← PciDevice.capabilityLink, hmod] at h
  generalize PciDevice.configLoad _ 0x06 2 = status at h
  cases h
  -- The Status register lies below every other byte that is written.
  have hout : ∀ (config : Store) (x : Nat), 8 ≤ x → config.write 0x06
      (storeLe 2 (status ||| pciStatusCapabilities)) x = config x := fun config x hx =>
    Store.write_out _ (.inr (by rw [length_storeLe]; omega))
  refine ⟨rfl, rfl, fun h4 => ?_, ?_, ?_, ?_, fun x hx hxlt hne => ?_,
    hasCapabilities_configStoreLe _ _⟩
  all_goals dsimp only [PciDevice.configStoreLe]
  · omega
  · rw [hout _ _ hlink, Store.write_in _ le_rfl (by simp), Nat.sub_self]
    simpa using hmod
  · rw [hout _ _ (by omega), Store.write_out _ (by rw [List.length_singleton]; omega),
      Store.write_out _ (by omega), Store.write_in _ le_rfl (by simp), Nat.sub_self]
    rfl
  · rw [hout _ _ (by omega), Store.write_out _ (by rw [List.length_singleton]; omega),
      Store.write_out _ (by omega), Store.write_out _ (by rw [List.length_singleton]; omega),
      Store.write_in _ (by omega) (by rw [List.length_replicate]; omega)]
    simp
  · rw [hout _ _ hx, Store.write_out _ (by rw [List.length_singleton]; omega),
      Store.write_out _ (by omega), Store.write_out _ (by rw [List.length_singleton]; omega),
      Store.write_out _ (by omega)]

/-- An accepted `vart_pci_device_init_msix` has added one capability and set up `msix`. -/
theorem pciDeviceInitMsix_added {dev dev' : PciDevice}
    {vectorCount tableBar tableOffset pbaBar pbaOffset : Nat}
    (h : pciDeviceInitMsix dev vectorCount tableBar tableOffset pbaBar pbaOffset = .ok dev') :
    ∃ added msix, pciDeviceAddCapability dev (UInt8.ofNat pciCapIdMsix)
        (msixCapabilityBody vectorCount tableBar tableOffset pbaBar pbaOffset) =
          .ok (added, msix.capabilityOffset) ∧
      dev' = { added with msix } ∧ msix.configured = true := by
  unfold pciDeviceInitMsix at h
  split at h
  · cases h
  split at h
  · cases h
  split at h
  · cases h
  simp only at h
  split at h
  · cases h
  rename_i added offset hadd
  cases h
  exact ⟨added, { added.msix with
    table := fun _ => 0
    pba := fun _ => 0
    irqRoutes := fun _ => none
    tableOffset, pbaOffset, tableBar, pbaBar, vectorCount
    capabilityOffset := offset
    configured := true }, hadd, rfl, rfl⟩

/-- A function with MSI-X is refused before anything is allocated. -/
theorem pciDeviceInitMsix_configured {dev : PciDevice} (hc : dev.msix.configured = true)
    (vectorCount tableBar tableOffset pbaBar pbaOffset : Nat) :
    ∃ e, pciDeviceInitMsix dev vectorCount tableBar tableOffset pbaBar pbaOffset = .error e ∧
      e ≠ .enospc := by
  unfold pciDeviceInitMsix
  split
  · exact ⟨_, rfl, by decide⟩
  split
  · exact ⟨_, rfl, by decide⟩
  · exact ⟨_, rfl, by decide⟩

/-- What a call can do: it adds a capability and may set up `msix`, it is refused, or it is refused
after the tables were allocated. -/
theorem capabilityCall_cases (dev : PciDevice) (call : CapabilityCall) :
    (∃ c added msix, capabilityCall dev call = ({ added with msix }, .ok c) ∧
      pciDeviceAddCapability dev c.id c.data = .ok (added, c.offset) ∧
      (msix = added.msix ∨ msix.configured = true)) ∨
    (∃ e, capabilityCall dev call = (dev, .error e)) ∨
    (∃ e, capabilityCall dev call = ({ dev with msix := dev.msix.withoutTables }, .error e) ∧
      dev.msix.configured = false) := by
  cases call with
  | addCapability id data =>
    rw [capabilityCall]
    cases hadd : pciDeviceAddCapability dev id data with
    | error e => exact .inr (.inl ⟨e, rfl⟩)
    | ok r => exact .inl ⟨⟨r.2, id, data⟩, r.1, r.1.msix, rfl, hadd, .inl rfl⟩
  | initMsix memory vectorCount tableBar tableOffset pbaBar pbaOffset =>
    rw [capabilityCall]
    have hconfigured := fun hc : dev.msix.configured = true =>
      pciDeviceInitMsix_configured hc vectorCount tableBar tableOffset pbaBar pbaOffset
    cases hinit : pciDeviceInitMsix dev vectorCount tableBar tableOffset pbaBar pbaOffset with
    | ok dev' =>
      cases memory with
      | true =>
        obtain ⟨added, msix, hadd, rfl, hc⟩ := pciDeviceInitMsix_added hinit
        exact .inl ⟨_, added, msix, rfl, hadd, .inr hc⟩
      | false =>
        refine .inr (.inr ⟨_, rfl, Bool.eq_false_iff.mpr fun hc => ?_⟩)
        obtain ⟨e, he, -⟩ := hconfigured hc
        rw [hinit] at he
        cases he
    | error e =>
      by_cases he : e = .enospc
      · subst he
        refine .inr (.inr ⟨_, rfl, Bool.eq_false_iff.mpr fun hc => ?_⟩)
        obtain ⟨e, he, hne⟩ := hconfigured hc
        rw [hinit] at he
        cases he
        exact hne rfl
      · refine .inr (.inl ⟨e, ?_⟩)
        cases e <;> first | rfl | exact absurd rfl he

/-! ## Any calls -/

/-- The accepted capability `c` is in the configuration space. -/
structure CapabilityAt (dev : PciDevice) (c : Capability) : Prop where
  aligned : 4 ∣ c.offset
  start_le : pciCapabilityStart ≤ c.offset
  id : dev.configSpace c.offset = c.id
  data : dev.configSpace.read (c.offset + 2) c.data.length = c.data

/-- The configuration space holds exactly the accepted capabilities. -/
structure CapabilityInv (s : CapabilityState) : Prop where
  realized : s.1.parent.realized = false
  pciBus : s.1.pciBus = none
  next_ge : pciCapabilityStart ≤ s.1.capabilityNext
  next_le : s.1.capabilityNext ≤ pciCapabilityEnd
  aligned : 4 ∣ s.1.capabilityNext
  link : lastCell 1 pciCapabilityListOffset (s.2.map Capability.offset) = s.1.capabilityLink
  linked : Linked s.1.configSpace 1 pciCapabilityListOffset (s.2.map Capability.offset)
  placed : ∀ c ∈ s.2, CapabilityAt s.1 c
  below : ∀ c ∈ s.2, c.limit ≤ s.1.capabilityNext
  apart : s.2.Pairwise fun a b => a.limit ≤ b.offset
  status : s.1.HasCapabilities ↔ s.2 ≠ []
  tables : s.1.msix.configured = false → s.1.msix.withoutTables = s.1.msix

theorem NoCapability.inv {dev : PciDevice} (h : NoCapability dev) : CapabilityInv (dev, []) where
  realized := h.realized
  pciBus := h.pciBus
  next_ge := h.next.ge
  next_le := h.next.trans_le (by decide)
  aligned := by rw [h.next]; decide
  link := by simp [PciDevice.capabilityLink, h.tail, lastCell]
  linked := h.list
  placed _ hc := nomatch hc
  below _ hc := nomatch hc
  apart := List.Pairwise.nil
  status := by simp [h.status]
  tables _ := h.tables

variable {s : CapabilityState}

/-- Two accepted capabilities are the same or apart. -/
theorem CapabilityInv.disjoint (h : CapabilityInv s) {a b : Capability} (ha : a ∈ s.2)
    (hb : b ∈ s.2) (hne : a ≠ b) : a.limit ≤ b.offset ∨ b.limit ≤ a.offset := by
  have hsymm : Std.Symm fun a b : Capability => a.limit ≤ b.offset ∨ b.limit ≤ a.offset :=
    ⟨fun _ _ => Or.symm⟩
  have heither : s.2.Pairwise fun a b => a.limit ≤ b.offset ∨ b.limit ≤ a.offset :=
    h.apart.imp Or.inl
  exact heither.forall ha hb hne

/-- The pointers of the list lie in bytes of their own: the head, and the second byte of each
capability. -/
theorem CapabilityInv.cells (h : CapabilityInv s) :
    (linkCells 1 pciCapabilityListOffset (s.2.map Capability.offset)).Nodup ∧
      ∀ x ∈ linkCells 1 pciCapabilityListOffset (s.2.map Capability.offset),
        8 ≤ x ∧ x < s.1.capabilityNext ∧ ∀ c ∈ s.2, x ≠ c.offset ∧ (x < c.offset + 2 ∨ c.limit ≤ x) := by
  have hinc : (s.2.map Capability.offset).Pairwise (· < ·) := by
    rw [List.pairwise_map]
    refine h.apart.imp fun {a b} hab => ?_
    rw [Capability.limit] at hab
    omega
  constructor
  · refine List.nodup_cons.mpr ⟨?_, ?_⟩
    · simp only [List.map_map, List.mem_map, Function.comp_apply, not_exists, not_and]
      intro c hc he
      have hstart := (h.placed c hc).start_le
      simp only [pciCapabilityListOffset, pciCapabilityStart] at he hstart
      omega
    · exact List.Pairwise.map _ (fun a b hab => (Nat.add_lt_add_right hab 1).ne) hinc
  · intro x hx
    rcases List.mem_cons.mp hx with rfl | hx
    · have hnext := h.next_ge
      refine ⟨by decide, lt_of_lt_of_le (by decide) hnext, fun c hc => ?_⟩
      have hstart := (h.placed c hc).start_le
      simp only [pciCapabilityListOffset, pciCapabilityStart] at hstart ⊢
      omega
    · simp only [List.map_map, List.mem_map, Function.comp_apply] at hx
      obtain ⟨b, hb, rfl⟩ := hx
      have hstart := (h.placed b hb).start_le
      have hbelow := h.below b hb
      simp only [Capability.limit, pciCapabilityStart] at hstart hbelow ⊢
      refine ⟨by omega, by omega, fun c hc => ?_⟩
      obtain rfl | hne := eq_or_ne b c
      · omega
      · rcases h.disjoint hb hc hne with hle | hle
        · rw [Capability.limit] at hle
          omega
        · rw [Capability.limit] at hle
          omega

/-- Step lemma: an accepted capability comes behind the others, and they stay as they are. -/
theorem CapabilityInv.add (h : CapabilityInv s) {dev' : PciDevice} {c : Capability}
    (hadd : pciDeviceAddCapability s.1 c.id c.data = .ok (dev', c.offset)) :
    CapabilityInv (dev', s.2 ++ [c]) := by
  have hadded := pciDeviceAddCapability_ok hadd
  obtain ⟨hnodup, hcells⟩ := h.cells
  have hlast := hcells _ (lastCell_mem _ _)
  rw [h.link] at hlast
  have hbytes := pciDeviceAddCapability_bytes hadd hlast.1 hlast.2.1
  have hoffset := hadded.offset_eq
  have hstart := hadded.offset_ge
  have hne : c.offset ≠ 0 := by
    simp only [pciCapabilityStart] at hstart
    omega
  have htail : s.1.capabilityTail + 1 < s.1.capabilityNext := by
    have hlink := hlast.2.1
    unfold PciDevice.capabilityLink at hlink
    split at hlink
    · simp only [pciCapabilityListOffset] at hlink
      omega
    · exact hlink
  have hlimit : c.limit ≤ dev'.capabilityNext := by
    have := hadded.next_ge
    rw [Capability.limit]
    omega
  have hkept : ∀ b ∈ s.2, CapabilityAt dev' b := by
    intro b hb
    have hat := h.placed b hb
    have hbelow := h.below b hb
    have hapart := hlast.2.2 b hb
    have hge := hat.start_le
    simp only [Capability.limit, pciCapabilityStart] at hbelow hapart hge
    refine ⟨hat.aligned, hat.start_le, ?_, ?_⟩
    · rw [hbytes.below _ (by omega) (by omega) hapart.1.symm, hat.id]
    · refine (Store.read_congr fun x hx hx' => ?_).trans hat.data
      exact hbytes.below x (by omega) (by omega) (by omega)
  have hnew : CapabilityAt dev' c := by
    refine ⟨hoffset ▸ h.aligned, hoffset ▸ hstart, hbytes.id, ?_⟩
    refine List.ext_getElem (by simp) fun i hi hi' => ?_
    have hbody := hadded.body htail i hi'
    rw [← hoffset, List.getD_eq_getElem _ _ hi'] at hbody
    simpa [Store.read] using hbody
  exact {
    realized := by rw [hbytes.parent]; exact h.realized
    pciBus := hbytes.pciBus.trans h.pciBus
    next_ge := by
      have := hadded.next_gt
      dsimp only
      omega
    next_le := hadded.next_le
    aligned := hbytes.aligned h.aligned
    link := by
      rw [List.map_append, List.map_singleton, lastCell_append, PciDevice.capabilityLink,
        hadded.tail_eq, ← hoffset, if_neg hne]
    linked := by
      rw [List.map_append, List.map_singleton]
      refine h.linked.append hnodup (fun x hx hxlast => ?_) ?_ hne hbytes.ends
      · obtain ⟨hx8, hxlt, -⟩ := hcells x hx
        rw [h.link] at hxlast
        exact hbytes.below x hx8 (hoffset ▸ hxlt) hxlast
      · rw [h.link]
        exact hbytes.link
    placed := by
      intro b hb
      rcases List.mem_append.mp hb with hb | hb
      · exact hkept b hb
      · exact List.mem_singleton.mp hb ▸ hnew
    below := by
      intro b hb
      rcases List.mem_append.mp hb with hb | hb
      · have := h.below b hb
        have := hadded.next_gt
        dsimp only
        omega
      · exact List.mem_singleton.mp hb ▸ hlimit
    apart := by
      refine List.pairwise_append.mpr ⟨h.apart, List.pairwise_singleton _ _, fun b hb b' hb' => ?_⟩
      rw [List.mem_singleton.mp hb', hoffset]
      exact h.below b hb
    status := iff_of_true hbytes.status (by simp)
    tables := by rw [hadded.msix]; exact h.tables }

/-- A refused call changes nothing. -/
theorem CapabilityInv.refused (h : CapabilityInv s) {call : CapabilityCall} {e : Errno}
    (he : (capabilityCall s.1 call).2 = .error e) : (capabilityCall s.1 call).1 = s.1 := by
  obtain ⟨c, added, msix, hcall, -⟩ | ⟨e', hcall⟩ | ⟨e', hcall, hc⟩ :=
    capabilityCall_cases s.1 call
  · rw [hcall] at he
    cases he
  · rw [hcall]
  · rw [hcall, h.tables hc]

theorem CapabilityInv.setMsix (h : CapabilityInv s) {msix : PciMsix}
    (hmsix : msix = s.1.msix ∨ msix.configured = true) :
    CapabilityInv ({ s.1 with msix }, s.2) :=
  { h with
    placed := fun c hc => { h.placed c hc with }
    tables := by
      rcases hmsix with rfl | hc
      · exact h.tables
      · exact fun hnot => absurd hc (Bool.eq_false_iff.mp hnot) }

theorem CapabilityInv.step (h : CapabilityInv s) (call : CapabilityCall) :
    CapabilityInv (capabilityStep s call) := by
  unfold capabilityStep
  obtain ⟨c, added, msix, hcall, hadd, hmsix⟩ | ⟨e, hcall⟩ | ⟨e, hcall, hc⟩ :=
    capabilityCall_cases s.1 call
  · rw [hcall]
    exact (h.add hadd).setMsix hmsix
  · rw [hcall]
    exact h
  · rw [hcall, h.tables hc]
    exact h

/-- Run lemma. -/
theorem CapabilityInv.run (h : CapabilityInv s) (calls : List CapabilityCall) :
    CapabilityInv (runFrom capabilityStep s calls) := by
  induction calls generalizing s with
  | nil => exact h
  | cons call calls ih => exact ih (h.step call)

/-- After any calls on a function that is not on a bus, accepted or refused, the pointers from the
byte `0x34` on visit the accepted capabilities in the order of the calls and end with `0`; the
capabilities are aligned, apart and inside `[0x40, 0x100)`, and hold their IDs and bodies; the
Status bit says whether there is one; and a further call that is refused changes nothing. -/
theorem capability_list_wellFormed {dev : PciDevice} (hnone : NoCapability dev)
    (calls : List CapabilityCall) :
    let s := runFrom capabilityStep (dev, []) calls
    (∀ l, Linked s.1.configSpace 1 pciCapabilityListOffset l ↔ l = s.2.map Capability.offset) ∧
    (∀ c ∈ s.2, 4 ∣ c.offset ∧ pciCapabilityStart ≤ c.offset ∧ c.limit ≤ pciCapabilityEnd ∧
      s.1.configSpace c.offset = c.id ∧
      s.1.configSpace.read (c.offset + 2) c.data.length = c.data) ∧
    s.2.Pairwise (fun a b => a.limit ≤ b.offset) ∧
    (s.1.HasCapabilities ↔ s.2 ≠ []) ∧
    ∀ call e, (capabilityCall s.1 call).2 = .error e → (capabilityCall s.1 call).1 = s.1 := by
  intro s
  have h : CapabilityInv s := hnone.inv.run calls
  refine ⟨fun l => ⟨fun hl => hl.unique h.linked, fun hl => hl ▸ h.linked⟩, fun c hc => ?_,
    h.apart, h.status, fun call e => h.refused⟩
  have hat := h.placed c hc
  exact ⟨hat.aligned, hat.start_le, (h.below c hc).trans h.next_le, hat.id, hat.data⟩

/-- A vendor capability with three bytes, MSI-X with two vectors, a second MSI-X that is refused,
and a capability without a body. -/
def vendorMsixCalls : List CapabilityCall :=
  [.addCapability 9 [1, 2, 3], .initMsix true 2 0 0 0 0x800, .initMsix true 2 0 0 0 0x800,
    .addCapability 5 []]

theorem vendorMsix_visited :
    let s := runFrom capabilityStep (pciDeviceInit 0x1af4 0x1042 1 0 0 1, []) vendorMsixCalls
    s.2.map Capability.offset = [0x40, 0x48, 0x54] ∧ s.1.HasCapabilities ∧
      Linked s.1.configSpace 1 pciCapabilityListOffset [0x40, 0x48, 0x54] := by
  intro s
  have hoffsets : s.2.map Capability.offset = [0x40, 0x48, 0x54] := by decide +kernel
  obtain ⟨hlinked, -, -, hstatus, -⟩ :=
    capability_list_wellFormed (noCapability_pciDeviceInit 0x1af4 0x1042 1 0 0 1) vendorMsixCalls
  refine ⟨hoffsets, hstatus.mpr fun hnil => ?_, (hlinked _).mpr hoffsets.symm⟩
  rw [show s.2 = [] from hnil] at hoffsets
  cases hoffsets

end Vart
