import Vart.Riscv.Contexts

/-!
# The device directory

The guest writes the device directory into memory: a tree of one to three levels, indexed by the
fields of the device ID, with a device context of 32 bytes at the leaf. `Reference` states the walk
of the tree from the layout of the tables; a context is then put into the state that the walk gives
(`DdtState.put`).

* `iommuApplyDdtBinding_eq`: the code, which shifts the whole ID and has one exit for all errors,
  gives the state of the reference walk.
* `ddt_reference_walk`: so it is for every context that a write to `DDTP` or an IODIR command
  reaches.
-/

namespace Vart

open Lib

/-! ## The reference walk -/

/-- What the device directory says about a device. -/
inductive DdtState where
  | fault
  | identity
  | sv39 (rootPpn : Nat)
deriving DecidableEq, Repr

/-- A context in this state, with an empty cache. -/
def DdtState.put (w : DdtState) (c : IommuContext) : IommuContext :=
  iommuCacheFlush (match w with
    | .fault => { c with mode := .fault }
    | .identity => { c with mode := .identity }
    | .sv39 rootPpn => { c with mode := .sv39, rootPpn, rootValid := true, updateAd := false })

namespace Reference

/-- The field `DDI[level]` of a device ID: 7, 9 and 8 bits. -/
def ddi (id : Nat) : (level : Nat) → Nat
  | 0 => id % 2 ^ 7
  | 1 => id / 2 ^ 7 % 2 ^ 9
  | _ => id / 2 ^ 16 % 2 ^ 8

/-- The page that bits 10 to 49 name. -/
def pageOf (word : Nat) : Nat := word / 2 ^ 10 % 2 ^ 40 * 2 ^ 12

/-- A non-leaf entry that is valid and has no other bit outside its page number. -/
def EntryOk (dte : Nat) : Prop :=
  dte.testBit 0 = true ∧ ∀ i < 64, dte.testBit i = true → i = 0 ∨ 10 ≤ i ∧ i < 50

instance (dte : Nat) : Decidable (EntryOk dte) := inferInstanceAs (Decidable (_ ∧ _))

/-- The next table. -/
def nonLeaf (m : GuestMemory) (table index : Nat) : Option Nat :=
  match iommuReadGuest64 m (table + index * 8) with
  | .error _ => none
  | .ok dte => if EntryOk dte then some (pageOf dte) else none

/-- The device context at `dc`, of which the walk uses `tc` and `fsc`. -/
def deviceContext (m : GuestMemory) (dc : Nat) : DdtState :=
  match iommuReadGuest64 m dc, iommuReadGuest64 m (dc + 24) with
  | .ok tc, .ok fsc =>
    if tc.testBit 0 = false then .fault
    else if fsc / 2 ^ 60 = 0 then .identity
    else if fsc / 2 ^ 60 = 8 then .sv39 (fsc % 2 ^ 44)
    else .fault
  | _, _ => .fault

/-- The walk from a table at `level`. -/
def walk (m : GuestMemory) (id : Nat) : (level : Nat) → (table : Nat) → DdtState
  | 0, table => deviceContext m (table + ddi id 0 * 32)
  | level + 1, table =>
    match nonLeaf m table (ddi id (level + 1)) with
    | none => .fault
    | some table => walk m id level table

/-- The walk from `DDTP`. -/
def ddt (m : GuestMemory) (ddtp id : Nat) : DdtState :=
  match ddtp % 2 ^ 4 with
  | 0 => .fault
  | 1 => .identity
  | 2 => if id < 2 ^ 7 then walk m id 0 (pageOf ddtp) else .fault
  | 3 => walk m id 1 (pageOf ddtp)
  | 4 => walk m id 2 (pageOf ddtp)
  | _ => .fault

end Reference

open Reference

/-! ## Fields of words -/

theorem pageOf_eq (word : Nat) : ((word &&& ddtePpnMask) >>> 10) <<< 12 = pageOf word := by
  have hmask : ddtePpnMask = (2 ^ 40 - 1) <<< 10 := by decide
  rw [hmask, and_field, Nat.shiftLeft_eq, pageOf]

theorem pageOf_lt (word : Nat) : pageOf word < 2 ^ 52 := by
  unfold pageOf
  omega

theorem iommuReadGuest64_lt {m : GuestMemory} {address value : Nat}
    (h : iommuReadGuest64 m address = .ok value) : value < 2 ^ 64 := by
  unfold iommuReadGuest64 at h
  split at h
  · cases h
  · rename_i data hread
    cases h
    have := loadLe_lt data
    rwa [GuestMemory.readBuffer_length hread] at this

theorem and_one_eq_zero_iff (a : Nat) : a &&& 1 = 0 ↔ a.testBit 0 = false :=
  and_two_pow_eq_zero_iff a 0

/-- Bits of the mask that a non-leaf entry may have. -/
theorem testBit_entryMask (i : Nat) : (ddtePpnMask ||| ddteValid).testBit i =
    decide (i = 0 ∨ 10 ≤ i ∧ i < 50) := by
  have hmask : ddtePpnMask = (2 ^ 40 - 1) <<< 10 := by decide
  have hvalid : ddteValid = 2 ^ 0 := rfl
  rw [Nat.testBit_or, hmask, hvalid, Nat.testBit_shiftLeft, Nat.testBit_two_pow_sub_one,
    Nat.testBit_two_pow, Bool.eq_iff_iff]
  simp only [Bool.or_eq_true, Bool.and_eq_true, decide_eq_true_eq]
  omega

theorem entryOk_iff {dte : Nat} (h : dte < 2 ^ 64) :
    EntryOk dte ↔
      ¬ (dte &&& ddteValid = 0 ∨ andNot dte (ddtePpnMask ||| ddteValid) ≠ 0) := by
  have hreserved : andNot dte (ddtePpnMask ||| ddteValid) = 0 ↔
      ∀ i < 64, dte.testBit i = true → i = 0 ∨ 10 ≤ i ∧ i < 50 := by
    constructor
    · intro hz i _ hi
      have := testBit_andNot dte (ddtePpnMask ||| ddteValid) i
      rw [hz, Nat.zero_testBit, hi, testBit_entryMask, Bool.true_and] at this
      by_contra hn
      rw [decide_eq_false hn] at this
      cases this
    · intro hall
      refine Nat.eq_of_testBit_eq fun i => ?_
      rw [testBit_andNot, testBit_entryMask, Nat.zero_testBit]
      by_cases hi : dte.testBit i = true
      · have hlt : i < 64 := by
          by_contra hge
          rw [Nat.testBit_lt_two_pow (h.trans_le (Nat.pow_le_pow_right (by omega) (by omega)))] at hi
          cases hi
        simp [hall i hlt hi]
      · simp [hi]
  rw [EntryOk, not_or, not_not, hreserved, and_one_eq_zero_iff, Bool.not_eq_false]

/-! ## The code -/

/-- The shifted ID is the field of the level: an ID has 16 bits, so nothing is above `DDI[1]`. -/
theorem ddi_index {id depth : Nat} (hid : id < 2 ^ 16) (hdepth : depth < 2) :
    (id >>> (depth * 9 + 6 + 1)) <<< 3 = ddi id (depth + 1) * 8 ∧ ddi id (depth + 1) * 8 ≤ 0xff8 := by
  rw [Nat.shiftLeft_eq, Nat.shiftRight_eq_div_pow]
  obtain rfl | rfl : depth = 0 ∨ depth = 1 := by omega
  · simp only [ddi]
    omega
  · simp only [ddi]
    omega

/-- The loop over the non-leaf levels follows the reference walk. -/
theorem iommuDdtLevels_spec (m : GuestMemory) {id : Nat} (hid : id < 2 ^ 16) {depth base : Nat}
    (hdepth : depth ≤ 2) (hbase : base < 2 ^ 52) :
    match iommuDdtLevels m true id depth base with
    | none => walk m id depth base = .fault
    | some table =>
      table < 2 ^ 52 ∧ walk m id depth base = deviceContext m (table + ddi id 0 * 32) := by
  induction depth generalizing base with
  | zero => exact ⟨hbase, rfl⟩
  | succ depth ih =>
    obtain ⟨hindex, hle⟩ := ddi_index hid (show depth < 2 by omega)
    have hfits : ¬ (ddi id (depth + 1) * 8 > uint64Max - base ∨ ddi id (depth + 1) * 8 > 0xff8) := by
      simp only [uint64Max]
      omega
    simp only [iommuDdtLevels, Bool.toNat_true, hindex, if_neg hfits, walk, nonLeaf]
    cases hread : iommuReadGuest64 m (base + ddi id (depth + 1) * 8) with
    | error e => rfl
    | ok dte =>
      have hok := entryOk_iff (iommuReadGuest64_lt hread)
      simp only
      by_cases hentry : EntryOk dte
      · rw [if_neg (hok.mp hentry), if_pos hentry, pageOf_eq]
        exact ih (by omega) (pageOf_lt dte)
      · rw [if_pos (by rwa [hok, not_not] at hentry), if_neg hentry]

theorem setMode_fault {c : IommuContext} (h : c.downstream = true) :
    (iommuContextSetMode c .fault).1 = DdtState.put .fault c := by
  simp [iommuContextSetMode, h, DdtState.put]

theorem setMode_identity {c : IommuContext} (h : c.downstream = true) :
    (iommuContextSetMode c .identity).1 = DdtState.put .identity c := by
  simp [iommuContextSetMode, h, DdtState.put]

theorem setSv39_put {c : IommuContext} (h : c.downstream = true) {rootPpn : Nat}
    (hroot : rootPpn < 2 ^ 44) :
    (iommuContextSetSv39 c rootPpn false).1 = DdtState.put (.sv39 rootPpn) c := by
  have hfits : ¬ rootPpn > uint64Max >>> pageShift := by
    have : uint64Max >>> pageShift = 2 ^ 52 - 1 := by decide
    omega
  simp [iommuContextSetSv39, iommuContextSetSv39Mode, h, hfits, DdtState.put]

theorem iommuLoadDeviceContext_eq (m : GuestMemory) {c : IommuContext} (h : c.downstream = true)
    {dc : Nat} (hdc : dc < 2 ^ 53) :
    (iommuLoadDeviceContext m dc c).1 = (deviceContext m dc).put c := by
  have hinvalid : (iommuDdtInvalid c).1 = DdtState.put .fault c := setMode_fault h
  have hnext : (dc + 24) % 2 ^ 64 = dc + 24 := Nat.mod_eq_of_lt (by omega)
  unfold iommuLoadDeviceContext deviceContext
  rw [hnext]
  cases htc : iommuReadGuest64 m dc with
  | error e => exact hinvalid
  | ok tc =>
    simp only [and_one_eq_zero_iff]
    cases hfsc : iommuReadGuest64 m (dc + 24) with
    | error e => simp only [ite_self]; exact hinvalid
    | ok fsc =>
      have hmode : (fsc &&& dcFscModeMask) >>> 60 = fsc / 2 ^ 60 := by
        have hlt := iommuReadGuest64_lt hfsc
        have hmask : dcFscModeMask = (2 ^ 4 - 1) <<< 60 := by decide
        rw [hmask, and_field]
        omega
      have hppn : fsc &&& dcFscPpnMask = fsc % 2 ^ 44 := Nat.and_two_pow_sub_one_eq_mod fsc 44
      simp only [hmode, hppn]
      split
      · exact hinvalid
      split
      · exact setMode_identity h
      split
      · exact setSv39_put h (Nat.mod_lt _ (by omega))
      · exact hinvalid

/-- `iommu_apply_ddt_binding` gives the state of the reference walk. -/
theorem iommuApplyDdtBinding_eq {iommu : RiscvIommu} (hformat : iommu.cap &&& capMsiFlat = 0)
    (m : GuestMemory) (requesterId : UInt16) {c : IommuContext} (h : c.downstream = true) :
    (iommuApplyDdtBinding iommu m requesterId c).1 =
      (ddt m iommu.ddtp requesterId.toNat).put c := by
  have hinvalid : (iommuDdtInvalid c).1 = DdtState.put .fault c := setMode_fault h
  have hid : requesterId.toNat < 2 ^ 16 := requesterId.toNat_lt
  have hmode : iommu.ddtp &&& ddtpModeMask = iommu.ddtp % 2 ^ 4 :=
    Nat.and_two_pow_sub_one_eq_mod iommu.ddtp 4
  have hleaf : requesterId.toNat * 32 &&& 0xfff = ddi requesterId.toNat 0 * 32 := by
    rw [show 0xfff = 2 ^ 12 - 1 from rfl, Nat.and_two_pow_sub_one_eq_mod]
    simp only [ddi]
    omega
  -- A walk of `depth` non-leaf levels, and the device context behind it.
  have hwalk : ∀ depth ≤ 2, (match iommuDdtLevels m true requesterId.toNat depth
        (pageOf iommu.ddtp) with
      | none => iommuDdtInvalid c
      | some base =>
        if requesterId.toNat > (uint64Max - base) / 32 then iommuDdtInvalid c
        else iommuLoadDeviceContext m (base + ddi requesterId.toNat 0 * 32) c).1 =
      (walk m requesterId.toNat depth (pageOf iommu.ddtp)).put c := by
    intro depth hdepth
    have hlevels := iommuDdtLevels_spec m hid hdepth (pageOf_lt iommu.ddtp)
    cases hres : iommuDdtLevels m true requesterId.toNat depth (pageOf iommu.ddtp) with
    | none => rw [hres] at hlevels; rw [hlevels]; exact hinvalid
    | some table =>
      rw [hres] at hlevels
      obtain ⟨hlt, hstate⟩ := hlevels
      have hfits : ¬ requesterId.toNat > (uint64Max - table) / 32 := by
        simp only [uint64Max]
        omega
      have hddi : ddi requesterId.toNat 0 < 2 ^ 7 := Nat.mod_lt _ (by omega)
      simp only [if_neg hfits]
      rw [hstate]
      exact iommuLoadDeviceContext_eq m h (by omega)
  have hformat' : (iommu.cap &&& capMsiFlat == 0) = true := by rw [hformat]; rfl
  unfold iommuApplyDdtBinding ddt
  simp only [hformat', hmode, if_true, hleaf, pageOf_eq]
  have hlt : iommu.ddtp % 2 ^ 4 < 16 := Nat.mod_lt _ (by omega)
  generalize iommu.ddtp % 2 ^ 4 = mode at hlt
  match mode, hlt with
  | 0, _ => exact setMode_fault h
  | 1, _ => exact setMode_identity h
  | 2, _ =>
    rw [if_neg (by decide), if_neg (by decide), if_neg (by decide)]
    by_cases hwide : requesterId.toNat < 2 ^ 7
    · rw [if_neg (fun hcut => absurd hcut.2 (Nat.not_le.mpr hwide)), if_pos hwide]
      exact hwalk 0 (by omega)
    · rw [if_pos ⟨by decide, Nat.not_lt.mp hwide⟩, if_neg hwide]
      exact hinvalid
  | 3, _ =>
    rw [if_neg (by decide), if_neg (by decide), if_neg (by decide),
      if_neg (fun hcut => absurd hcut.1 (by decide))]
    exact hwalk 1 (by omega)
  | 4, _ =>
    rw [if_neg (by decide), if_neg (by decide), if_neg (by decide),
      if_neg (fun hcut => absurd hcut.1 (by decide))]
    exact hwalk 2 (by omega)
  | n + 5, _ =>
    rw [if_neg (by omega), if_neg (by omega), if_pos (by omega)]
    exact hinvalid

/-! ## Register writes and commands -/

/-- The IODIR command. -/
def IsIodir (dword0 : Nat) : Prop := dword0 &&& 0x7f = cmdIodir ∧ (dword0 >>> 7) &&& 0x7 = 0

/-- The binding that an IODIR command with a device ID reaches: the first one whose device has the
ID. -/
def IommuSystem.named (s : IommuSystem) (dword0 : Nat) : Option Binding :=
  s.iommu.bindings.list.find? fun b => (s.pci.devices b.device).requesterId.toNat ==
    (dword0 >>> cmdIodirDidShift) &&& 0xffffff

/-- The context of `b` is as the reference walk of the memory of `s` says, and its cache is
empty. -/
def Walked (s t : IommuSystem) (ddtp : Nat) (b : Binding) : Prop :=
  t.contexts b.context =
      (ddt s.memory ddtp (s.pci.devices b.device).requesterId.toNat).put (s.contexts b.context) ∧
    (t.contexts b.context).entries = []

/-- All bound contexts are as the reference walk says, and no other context changed. -/
def AllWalked (s t : IommuSystem) (ddtp : Nat) : Prop :=
  (∀ b ∈ s.iommu.bindings.list, Walked s t ddtp b) ∧
    ∀ n, n ∉ s.iommu.bindings.list.map (·.context) → t.contexts n = s.contexts n

theorem entries_put (w : DdtState) (c : IommuContext) : (w.put c).entries = [] := by
  cases w <;> rfl

/-- The register keeps the mode and the page number of the written value. -/
theorem ddt_masked (m : GuestMemory) (value id : Nat) :
    ddt m (value &&& (ddtpPpnMask ||| ddtpModeMask)) id = ddt m value id := by
  have hmode : (value &&& (ddtpPpnMask ||| ddtpModeMask)) % 2 ^ 4 = value % 2 ^ 4 := by
    have hmask : (ddtpPpnMask ||| ddtpModeMask) &&& (2 ^ 4 - 1) = 2 ^ 4 - 1 := by decide
    rw [← Nat.and_two_pow_sub_one_eq_mod, Nat.and_assoc, hmask, Nat.and_two_pow_sub_one_eq_mod]
  have hpage : pageOf (value &&& (ddtpPpnMask ||| ddtpModeMask)) = pageOf value := by
    have hmask : (ddtpPpnMask ||| ddtpModeMask) &&& ddtePpnMask = ddtePpnMask := by decide
    rw [← pageOf_eq, Nat.and_assoc, hmask, pageOf_eq]
  unfold ddt
  rw [hmode, hpage]

theorem allWalked_iommuApplyDdt {s : IommuSystem} (hs : s.Wired) :
    AllWalked s (iommuApplyDdt s) s.iommu.ddtp := by
  rw [iommuApplyDdt, foldl_applyBinding]
  refine ⟨fun b hb => ?_, fun n hn => mapBound_of_not_mem _ s hn⟩
  have happly := iommuApplyDdtBinding_eq hs.baseFormat s.memory
    (s.pci.devices b.device).requesterId (hs.downstream b.context)
  have hput := (mapBound_of_mem (fun b c => (iommuApplyDdtBinding s.iommu s.memory
    (s.pci.devices b.device).requesterId c).1) s s.iommu.bindings.contexts_nodup hb).trans happly
  exact ⟨hput, by rw [hput]; exact entries_put ..⟩

theorem iommuMmioWrite_regDdtp (sink : Sink) (s : IommuSystem) {value : Nat}
    (h : value &&& ddtpModeMask ≤ 4) :
    (iommuMmioWrite sink s regDdtp 8 value).1 = iommuApplyDdt (s.updateIommu fun iommu =>
      { iommu with ddtp := value &&& (ddtpPpnMask ||| ddtpModeMask) }) := by
  unfold iommuMmioWrite
  rw [if_neg (by decide), if_pos rfl, if_neg (by omega)]

theorem iommuInvalidateCommand_iodir (s : IommuSystem) {dword0 : Nat} (h : IsIodir dword0)
    (dword1 : Nat) : (iommuInvalidateCommand s dword0 dword1).1 = iommuIodir s dword0 := by
  unfold iommuInvalidateCommand
  simp only
  rw [if_pos ⟨h.1, h.2⟩]

theorem walked_applyBinding {s : IommuSystem} (hs : s.Wired) (b : Binding) :
    Walked s (s.applyBinding b) s.iommu.ddtp b := by
  have hput : (s.applyBinding b).contexts b.context = _ :=
    (Function.update_self ..).trans (iommuApplyDdtBinding_eq hs.baseFormat s.memory
      (s.pci.devices b.device).requesterId (hs.downstream b.context))
  exact ⟨hput, by rw [hput]; exact entries_put ..⟩

/-- With device contexts in the base format, every context that a write to `DDTP` or an IODIR
command reaches is in the state of the reference walk, with an empty cache. -/
theorem ddt_reference_walk {s : IommuSystem} (hs : s.Wired) :
    (∀ (sink : Sink) (value : Nat), value &&& ddtpModeMask ≤ 4 →
      AllWalked s (iommuMmioWrite sink s regDdtp 8 value).1 value) ∧
    (∀ dword0 dword1 : Nat, IsIodir dword0 → dword0 &&& cmdIodirDv = 0 →
      AllWalked s (iommuInvalidateCommand s dword0 dword1).1 s.iommu.ddtp) ∧
    ∀ dword0 dword1 : Nat, IsIodir dword0 → dword0 &&& cmdIodirDv ≠ 0 →
      let t := (iommuInvalidateCommand s dword0 dword1).1
      ∀ b, s.named dword0 = some b →
        Walked s t s.iommu.ddtp b ∧ ∀ n, n ≠ b.context → t.contexts n = s.contexts n := by
  refine ⟨fun sink value hvalue => ?_, fun dword0 dword1 hcmd hdv => ?_,
    fun dword0 dword1 hcmd hdv => ?_⟩
  · have hwalked := allWalked_iommuApplyDdt (s := s.updateIommu fun iommu =>
      { iommu with ddtp := value &&& (ddtpPpnMask ||| ddtpModeMask) })
      ⟨hs.baseFormat, hs.downstream⟩
    rw [iommuMmioWrite_regDdtp sink s hvalue]
    refine ⟨fun b hb => ?_, hwalked.2⟩
    obtain ⟨hput, hempty⟩ := hwalked.1 b hb
    exact ⟨hput.trans (congrArg (DdtState.put · _) (ddt_masked ..)), hempty⟩
  · rw [iommuInvalidateCommand_iodir s hcmd, iommuIodir, if_pos hdv]
    exact allWalked_iommuApplyDdt hs
  · intro t b hb
    have ht : t = s.applyBinding b := by
      simp only [t]
      rw [iommuInvalidateCommand_iodir s hcmd, iommuIodir, if_neg hdv]
      simp only [IommuSystem.named] at hb
      simp only [hb]
    rw [ht]
    exact ⟨walked_applyBinding hs b, fun n hn => Function.update_of_ne hn _ _⟩

/-- The bound device has ID `0`; a directory of one page, whose first device context has an Sv39
table at page `5`. -/
def directoryOfOne : IommuSystem :=
  deviceBound { ramAtDram with ram := fun _ offset =>
    if offset = 0 then 1 else if offset = 24 then 5 else if offset = 31 then 0x80 else 0 }

theorem directoryOfOne_walked :
    let t := (iommuMmioWrite (fun _ => .ok ()) directoryOfOne regDdtp 8 (0x80000 <<< 10 ||| 2)).1
    directoryOfOne.iommu.bindings.list = [⟨1, 0⟩] ∧ (t.contexts 0).mode = .sv39 ∧
      (t.contexts 0).rootPpn = 5 ∧ (t.contexts 0).entries = [] := by
  have hbound : directoryOfOne.iommu.bindings.list = [⟨1, 0⟩] := by decide +kernel
  have hwalk : ddt directoryOfOne.memory (0x80000 <<< 10 ||| 2)
      (directoryOfOne.pci.devices 1).requesterId.toNat = .sv39 5 := by decide +kernel
  have hwired : directoryOfOne.Wired := IommuSystem.wired (deviceBound_reach (by decide))
  obtain ⟨hput, hempty⟩ := ((ddt_reference_walk hwired).1 (fun _ => .ok ())
    (0x80000 <<< 10 ||| 2) (by decide)).1 ⟨1, 0⟩ (by rw [hbound]; exact List.mem_singleton_self _)
  refine ⟨hbound, ?_, ?_, hempty⟩ <;> rw [hput, hwalk] <;> rfl

end Vart
