import Mathlib.Order.CompletePartialOrder
import Mathlib.Order.Interval.Set.Disjoint
import Vart.Machine.VirtFdtRoom

/-!
# The boot loader of the virt machine (`machine/virt-loader.c`)

* `virtBootLayout`: where the kernel, the initrd and the devicetree go.
* `virtBootLoad`: `vart_virt_boot_load` on RAM, with the devicetree of `virtFdtBuild`.
* `LayoutSafe`: the places are in RAM, disjoint and aligned. All ranges are checked before the first
  write, so that a call that fails has written nothing (`virtBootLoad_cases`).
-/

namespace Vart

open Lib

/-! ## Model -/

abbrev virtBootAlign : Nat := 0x200000
abbrev virtInitrdMaxOffset : Nat := 0x20000000
abbrev virtFdtMaxSize : Nat := 0x200000

/-- `add_u64`. -/
def addU64 (left right : Nat) : Except Errno Nat :=
  if left > uint64Max - right then .error .eoverflow else .ok (left + right)

/-- `align_up`, for an alignment that is a power of two. -/
def alignUp (value alignment : Nat) : Except Errno Nat :=
  if value > uint64Max - (alignment - 1) then .error .eoverflow
  else .ok ((value + (alignment - 1)) / alignment * alignment)

/-- `VartVirtBootLayoutConfig`. -/
structure VirtBootLayoutConfig where
  ramBase : UInt64
  ramSize : UInt64
  kernelSize : UInt64
  initrdSize : UInt64

/-- `VartVirtBootLayout`. -/
structure VirtBootLayout where
  kernelStart : Nat
  kernelEnd : Nat
  initrdStart : Nat
  initrdEnd : Nat
  fdtStart : Nat
  deriving DecidableEq

/-- `vart_virt_boot_layout`. -/
def virtBootLayout (config : VirtBootLayoutConfig) : Except Errno VirtBootLayout :=
  if config.ramSize = 0 ∨ config.kernelSize = 0 then .error .einval
  else do
    let ramEnd ← addU64 config.ramBase.toNat config.ramSize.toNat
    if config.ramSize.toNat < virtFdtMaxSize then .error .enospc
    else do
      let kernelStart ← alignUp config.ramBase.toNat virtBootAlign
      let kernelEnd ← addU64 kernelStart config.kernelSize.toNat
      let fdtFloor := ramEnd - virtFdtMaxSize
      let fdtStart := fdtFloor / virtBootAlign * virtBootAlign
      if kernelEnd > fdtStart then .error .enospc
      else if config.initrdSize = 0 then .ok ⟨kernelStart, kernelEnd, 0, 0, fdtStart⟩
      else do
        let initrdOffset := min (config.ramSize.toNat / 2) virtInitrdMaxOffset
        let initrdStart ← addU64 kernelStart initrdOffset
        let initrdEnd ← addU64 initrdStart config.initrdSize.toNat
        if kernelEnd > initrdStart ∨ initrdEnd > fdtStart then .error .enospc
        else .ok ⟨kernelStart, kernelEnd, initrdStart, initrdEnd, fdtStart⟩

/-- `VartMemoryRegion`, as far as the loader uses it. -/
structure MemoryRegion where
  /-- `host_addr` is not `NULL`. -/
  mapped : Bool
  /-- The bytes at `host_addr`. -/
  host : Store
  guestAddr : UInt64
  size : UInt64

/-- `vart_memory_region_write` of data that is not `NULL`. -/
def memoryRegionWrite (region : MemoryRegion) (guestAddr : Nat) (data : List UInt8) :
    MemoryRegion × Status :=
  if !region.mapped ∨ guestAddr < region.guestAddr.toNat then (region, .error .erange)
  else
    let offset := guestAddr - region.guestAddr.toNat
    if offset > region.size.toNat ∨ data.length > region.size.toNat - offset then
      (region, .error .erange)
    else if data.length = 0 then (region, .ok ())
    else ({ region with host := region.host.write offset data }, .ok ())

/-- A pointer and a size. -/
structure Image where
  null : Bool
  bytes : List UInt8
  fits : bytes.length < 2 ^ 64

def Image.size (i : Image) : UInt64 := UInt64.ofNat i.bytes.length

theorem Image.toNat_size (i : Image) : i.size.toNat = i.bytes.length := by
  rw [Image.size, UInt64.toNat_ofNat_of_lt' i.fits]

/-- `VartVirtBootConfig`. -/
structure VirtBootConfig where
  kernel : Image
  initrd : Image
  cpus : List VirtFdtCpu
  timebaseFrequency : UInt32
  bootargs : Option CString
  fdtDumpPath : Option CString
  enableRiscvIommu : Bool

/-- `VartRiscvBootInfo`. -/
structure RiscvBootInfo where
  entry : Nat
  fdtAddr : Nat

/-- What the loader meets outside: which allocations succeed, and what `vart_fdt_dump` returns. -/
structure BootHost where
  alloc : Nat → Bool
  dump : List UInt8 → CString → Status

/-- The layout that `vart_virt_boot_load` asks for. -/
def bootLayoutConfig (ram : MemoryRegion) (config : VirtBootConfig) : VirtBootLayoutConfig :=
  ⟨ram.guestAddr, ram.size, config.kernel.size, config.initrd.size⟩

/-- The devicetree that `vart_virt_boot_load` asks for. -/
def bootFdtConfig (ram : MemoryRegion) (config : VirtBootConfig) (layout : VirtBootLayout) :
    VirtFdtConfig where
  cpus := config.cpus
  timebaseFrequency := config.timebaseFrequency
  ramBase := ram.guestAddr
  ramSize := ram.size
  bootargs := config.bootargs
  initrdStart := UInt64.ofNat layout.initrdStart
  initrdSize := config.initrd.size
  enableRiscvIommu := config.enableRiscvIommu

/-- The writes of `vart_virt_boot_load`. -/
def bootWrite (ram : MemoryRegion) (config : VirtBootConfig) (boot : RiscvBootInfo)
    (layout : VirtBootLayout) (fdt : List UInt8) : MemoryRegion × RiscvBootInfo × Status :=
  match memoryRegionWrite ram layout.kernelStart config.kernel.bytes with
  | (ram, .error e) => (ram, boot, .error e)
  | (ram, .ok ()) =>
    match (if config.initrd.size ≠ 0 then
        memoryRegionWrite ram layout.initrdStart config.initrd.bytes else (ram, .ok ())) with
    | (ram, .error e) => (ram, boot, .error e)
    | (ram, .ok ()) =>
      match memoryRegionWrite ram layout.fdtStart fdt with
      | (ram, .error e) => (ram, boot, .error e)
      | (ram, .ok ()) => (ram, ⟨layout.kernelStart, layout.fdtStart⟩, .ok ())

/-- `vart_virt_boot_load`. -/
def virtBootLoad (ram : MemoryRegion) (config : VirtBootConfig) (boot : RiscvBootInfo)
    (host : BootHost) : MemoryRegion × RiscvBootInfo × Status :=
  if !ram.mapped ∨ config.kernel.null ∨ config.kernel.size = 0 ∨
      (config.initrd.size ≠ 0 ∧ config.initrd.null) then (ram, boot, .error .einval)
  else
    match virtBootLayout (bootLayoutConfig ram config) with
    | .error e => (ram, boot, .error e)
    | .ok layout =>
      match virtFdtBuild (bootFdtConfig ram config layout) host.alloc with
      | .error e => (ram, boot, .error e)
      | .ok fdt =>
        if fdt.length > virtFdtMaxSize then (ram, boot, .error .efbig)
        else
          match (match config.fdtDumpPath with
            | some path => host.dump fdt path
            | none => .ok ()) with
          | .error e => (ram, boot, .error e)
          | .ok () => bootWrite ram config boot layout fdt

/-! ## Layout -/

/-- The places are inside RAM without a wrap, disjoint, and aligned. -/
structure LayoutSafe (config : VirtBootLayoutConfig) (layout : VirtBootLayout) : Prop where
  noWrap : config.ramBase.toNat + config.ramSize.toNat < 2 ^ 64
  kernelSize : layout.kernelEnd = layout.kernelStart + config.kernelSize.toNat
  kernel : Set.Ico layout.kernelStart layout.kernelEnd ⊆
    Set.Ico config.ramBase.toNat (config.ramBase.toNat + config.ramSize.toNat)
  initrdSize : config.initrdSize ≠ 0 →
    layout.initrdEnd = layout.initrdStart + config.initrdSize.toNat
  initrd : Set.Ico layout.initrdStart layout.initrdEnd ⊆
    Set.Ico config.ramBase.toNat (config.ramBase.toNat + config.ramSize.toNat)
  fdt : Set.Ico layout.fdtStart (layout.fdtStart + virtFdtMaxSize) ⊆
    Set.Ico config.ramBase.toNat (config.ramBase.toNat + config.ramSize.toNat)
  kernelInitrd : Disjoint (Set.Ico layout.kernelStart layout.kernelEnd)
    (Set.Ico layout.initrdStart layout.initrdEnd)
  kernelFdt : Disjoint (Set.Ico layout.kernelStart layout.kernelEnd)
    (Set.Ico layout.fdtStart (layout.fdtStart + virtFdtMaxSize))
  initrdFdt : Disjoint (Set.Ico layout.initrdStart layout.initrdEnd)
    (Set.Ico layout.fdtStart (layout.fdtStart + virtFdtMaxSize))
  kernelAligned : virtBootAlign ∣ layout.kernelStart
  fdtAligned : virtBootAlign ∣ layout.fdtStart

theorem addU64_ok {left right result : Nat} (h : addU64 left right = .ok result) :
    result = left + right ∧ (right ≤ uint64Max → left + right ≤ uint64Max) := by
  unfold addU64 at h
  split at h
  · cases h
  · cases h
    exact ⟨rfl, fun _ => by omega⟩

theorem alignUp_ok {value alignment result : Nat} (h : alignUp value alignment = .ok result) :
    result = (value + (alignment - 1)) / alignment * alignment := by
  unfold alignUp at h
  split at h
  · cases h
  · cases h
    rfl

theorem bind_eq_ok {α β : Type} {x : Except Errno α} {f : α → Except Errno β} {b : β}
    (h : x >>= f = .ok b) : ∃ a, x = .ok a ∧ f a = .ok b := by
  cases x with
  | error e => cases h
  | ok a => exact ⟨a, rfl, h⟩

/-- A layout, in the order of the checks. -/
theorem virtBootLayout_ok {config : VirtBootLayoutConfig} {layout : VirtBootLayout}
    (h : virtBootLayout config = .ok layout) :
    config.ramBase.toNat + config.ramSize.toNat ≤ uint64Max ∧
    virtFdtMaxSize ≤ config.ramSize.toNat ∧
    layout.kernelStart =
      (config.ramBase.toNat + (virtBootAlign - 1)) / virtBootAlign * virtBootAlign ∧
    layout.kernelEnd = layout.kernelStart + config.kernelSize.toNat ∧
    layout.fdtStart = (config.ramBase.toNat + config.ramSize.toNat - virtFdtMaxSize) /
      virtBootAlign * virtBootAlign ∧
    layout.kernelEnd ≤ layout.fdtStart ∧
    (config.initrdSize = 0 ∧ layout.initrdStart = 0 ∧ layout.initrdEnd = 0 ∨
      config.initrdSize ≠ 0 ∧ layout.kernelEnd ≤ layout.initrdStart ∧
      layout.initrdEnd = layout.initrdStart + config.initrdSize.toNat ∧
      layout.initrdEnd ≤ layout.fdtStart) := by
  have hsize : config.ramSize.toNat ≤ uint64Max := Nat.le_of_lt_succ config.ramSize.toNat_lt
  unfold virtBootLayout at h
  split at h
  · cases h
  obtain ⟨ramEnd, hend, h⟩ := bind_eq_ok h
  obtain ⟨rfl, hwrap⟩ := addU64_ok hend
  split at h
  · cases h
  rename_i hslot
  obtain ⟨kernelStart, hstart, h⟩ := bind_eq_ok h
  obtain rfl := alignUp_ok hstart
  obtain ⟨kernelEnd, hkernel, h⟩ := bind_eq_ok h
  obtain ⟨rfl, -⟩ := addU64_ok hkernel
  extract_lets fdtFloor fdtStart initrdOffset at h
  split at h
  · cases h
  rename_i hroom
  split at h
  · rename_i hzero
    cases h
    exact ⟨hwrap hsize, Nat.not_lt.mp hslot, rfl, rfl, rfl, Nat.not_lt.mp hroom,
      .inl ⟨hzero, rfl, rfl⟩⟩
  rename_i hne
  obtain ⟨initrdStart, hinitrd, h⟩ := bind_eq_ok h
  obtain ⟨initrdEnd, hstop, h⟩ := bind_eq_ok h
  obtain ⟨rfl, -⟩ := addU64_ok hstop
  split at h
  · cases h
  · rename_i hplaced
    cases h
    rw [not_or] at hplaced
    exact ⟨hwrap hsize, Nat.not_lt.mp hslot, rfl, rfl, rfl, Nat.not_lt.mp hroom,
      .inr ⟨hne, Nat.not_lt.mp hplaced.1, rfl, Nat.not_lt.mp hplaced.2⟩⟩

/-- The order of the places: RAM, kernel, initrd, devicetree slot, end of RAM. -/
theorem virtBootLayout_order {config : VirtBootLayoutConfig} {layout : VirtBootLayout}
    (h : virtBootLayout config = .ok layout) :
    config.ramBase.toNat ≤ layout.kernelStart ∧
    layout.fdtStart + virtFdtMaxSize ≤ config.ramBase.toNat + config.ramSize.toNat := by
  obtain ⟨-, hslot, hkernel, -, hfdt, -⟩ := virtBootLayout_ok h
  have halign : virtBootAlign = 0x200000 := rfl
  have hslotSize : virtFdtMaxSize = 0x200000 := rfl
  rw [hkernel, hfdt, halign]
  omega

theorem layout_safe {config : VirtBootLayoutConfig} {layout : VirtBootLayout}
    (h : virtBootLayout config = .ok layout) : LayoutSafe config layout := by
  obtain ⟨hwrap, hslot, hkernel, hkernelEnd, hfdt, hkernelFdt, hinitrd⟩ := virtBootLayout_ok h
  obtain ⟨hbase, htop⟩ := virtBootLayout_order h
  have hmax : uint64Max = 2 ^ 64 - 1 := rfl
  have hkernelAligned : virtBootAlign ∣ layout.kernelStart := ⟨_, by rw [hkernel, Nat.mul_comm]⟩
  have hfdtAligned : virtBootAlign ∣ layout.fdtStart := ⟨_, by rw [hfdt, Nat.mul_comm]⟩
  clear hkernel hfdt
  rcases hinitrd with ⟨hzero, hstart, hstop⟩ | ⟨hne, hstart, hstop, hbelow⟩
  · refine ⟨by omega, hkernelEnd, Set.Ico_subset_Ico (by omega) (by omega),
      fun hne => absurd hzero hne, ?_, Set.Ico_subset_Ico (by omega) (by omega), ?_, ?_, ?_,
      hkernelAligned, hfdtAligned⟩
    · simp [hstart, hstop]
    · simp [hstart, hstop]
    · rw [Set.Ico_disjoint_Ico]
      omega
    · simp [hstart, hstop]
  · refine ⟨by omega, hkernelEnd, Set.Ico_subset_Ico (by omega) (by omega), fun _ => hstop,
      Set.Ico_subset_Ico (by omega) (by omega), Set.Ico_subset_Ico (by omega) (by omega),
      ?_, ?_, ?_, hkernelAligned, hfdtAligned⟩
    all_goals
      rw [Set.Ico_disjoint_Ico]
      omega

/-! ## Load -/

/-- The byte that the guest sees at an address of the region. -/
def MemoryRegion.byteAt (region : MemoryRegion) (address : Nat) : UInt8 :=
  region.host (address - region.guestAddr.toNat)

/-- The bytes that the guest sees from an address of the region on. -/
def MemoryRegion.bytesAt (region : MemoryRegion) (address n : Nat) : List UInt8 :=
  region.host.read (address - region.guestAddr.toNat) n

/-- `ram'` is `ram` with the three images at their places. -/
structure BootLoaded (ram ram' : MemoryRegion) (config : VirtBootConfig) (layout : VirtBootLayout)
    (blob : List UInt8) : Prop where
  region : ram'.mapped = ram.mapped ∧ ram'.guestAddr = ram.guestAddr ∧ ram'.size = ram.size
  kernel : ram'.bytesAt layout.kernelStart config.kernel.bytes.length = config.kernel.bytes
  initrd : ram'.bytesAt layout.initrdStart config.initrd.bytes.length = config.initrd.bytes
  fdtFits : blob.length ≤ virtFdtMaxSize
  fdt : ram'.bytesAt layout.fdtStart blob.length = blob
  frame : ∀ address, ram.guestAddr.toNat ≤ address →
    address ∉ Set.Ico layout.kernelStart layout.kernelEnd →
    address ∉ Set.Ico layout.initrdStart layout.initrdEnd →
    address ∉ Set.Ico layout.fdtStart (layout.fdtStart + blob.length) →
    ram'.byteAt address = ram.byteAt address

/-- The region with `data` from an address on. -/
def MemoryRegion.put (region : MemoryRegion) (address : Nat) (data : List UInt8) : MemoryRegion :=
  { region with host := region.host.write (address - region.guestAddr.toNat) data }

section Put

variable (region : MemoryRegion) (address : Nat) (data : List UInt8)

@[simp] theorem put_mapped : (region.put address data).mapped = region.mapped := rfl

@[simp] theorem put_guestAddr : (region.put address data).guestAddr = region.guestAddr := rfl

@[simp] theorem put_size : (region.put address data).size = region.size := rfl

@[simp] theorem put_nil : region.put address [] = region := by
  have hsame : region.host.write (address - region.guestAddr.toNat) [] = region.host :=
    funext fun x => Store.write_out _ (by simp only [List.length_nil]; omega)
  rw [MemoryRegion.put, hsame]

theorem bytesAt_put_same : (region.put address data).bytesAt address data.length = data :=
  Store.read_write_same _ _ _

variable {address data}

theorem bytesAt_put_disjoint {start n : Nat} (hbase : region.guestAddr.toNat ≤ start)
    (haddress : region.guestAddr.toNat ≤ address)
    (h : address + data.length ≤ start ∨ start + n ≤ address) :
    (region.put address data).bytesAt start n = region.bytesAt start n := by
  rw [MemoryRegion.bytesAt, put_guestAddr]
  exact Store.read_write_disjoint _ (by omega)

theorem byteAt_put_out {x : Nat} (hbase : region.guestAddr.toNat ≤ x)
    (haddress : region.guestAddr.toNat ≤ address) (h : x ∉ Set.Ico address (address + data.length)) :
    (region.put address data).byteAt x = region.byteAt x := by
  rw [Set.mem_Ico] at h
  rw [MemoryRegion.byteAt, put_guestAddr]
  exact Store.write_out _ (by omega)

variable {region}

/-- A write inside of a mapped region succeeds. -/
theorem memoryRegionWrite_inside (hmapped : region.mapped = true)
    (hbase : region.guestAddr.toNat ≤ address)
    (hend : address + data.length ≤ region.guestAddr.toNat + region.size.toNat) :
    memoryRegionWrite region address data = (region.put address data, .ok ()) := by
  unfold memoryRegionWrite
  rw [if_neg (by simp [hmapped]; omega)]
  dsimp only
  rw [if_neg (by omega)]
  split
  · rename_i hempty
    rw [List.eq_nil_of_length_eq_zero hempty, put_nil]
  · rfl

end Put

/-- What the three writes leave behind. -/
def bootedRam (ram : MemoryRegion) (config : VirtBootConfig) (layout : VirtBootLayout)
    (blob : List UInt8) : MemoryRegion :=
  ((ram.put layout.kernelStart config.kernel.bytes).put layout.initrdStart
    config.initrd.bytes).put layout.fdtStart blob

section Load

variable {ram : MemoryRegion} {config : VirtBootConfig} {layout : VirtBootLayout}
  {blob : List UInt8}

/-- The layout of a load, in the lengths of the images. -/
theorem bootLayout_order (hlayout : virtBootLayout (bootLayoutConfig ram config) = .ok layout) :
    ram.guestAddr.toNat ≤ layout.kernelStart ∧
    layout.kernelEnd = layout.kernelStart + config.kernel.bytes.length ∧
    layout.kernelEnd ≤ layout.fdtStart ∧
    layout.fdtStart + virtFdtMaxSize ≤ ram.guestAddr.toNat + ram.size.toNat ∧
    (config.initrd.bytes = [] ∧ config.initrd.size = 0 ∧
        layout.initrdStart = 0 ∧ layout.initrdEnd = 0 ∨
      config.initrd.size ≠ 0 ∧ layout.kernelEnd ≤ layout.initrdStart ∧
        layout.initrdEnd = layout.initrdStart + config.initrd.bytes.length ∧
        layout.initrdEnd ≤ layout.fdtStart) := by
  obtain ⟨-, -, -, hkernelEnd, -, hkernelFdt, hinitrd⟩ := virtBootLayout_ok hlayout
  obtain ⟨hbase, htop⟩ := virtBootLayout_order hlayout
  simp only [bootLayoutConfig, Image.toNat_size] at hkernelEnd hinitrd hbase htop
  refine ⟨hbase, hkernelEnd, hkernelFdt, htop, hinitrd.imp ?_ id⟩
  rintro ⟨hzero, hstart, hstop⟩
  have hempty : config.initrd.bytes.length = 0 := by
    rw [← Image.toNat_size, hzero]
    rfl
  exact ⟨List.eq_nil_of_length_eq_zero hempty, hzero, hstart, hstop⟩

/-- All ranges were checked: none of the writes fails. -/
theorem bootWrite_ok (boot : RiscvBootInfo) (hmapped : ram.mapped = true)
    (hlayout : virtBootLayout (bootLayoutConfig ram config) = .ok layout)
    (hfits : blob.length ≤ virtFdtMaxSize) :
    bootWrite ram config boot layout blob =
      (bootedRam ram config layout blob, ⟨layout.kernelStart, layout.fdtStart⟩, .ok ()) := by
  obtain ⟨hbase, hkernelEnd, hkernelFdt, htop, hinitrd⟩ := bootLayout_order hlayout
  have hfdt : ∀ region : MemoryRegion, region.mapped = true → region.guestAddr = ram.guestAddr →
      region.size = ram.size → memoryRegionWrite region layout.fdtStart blob =
        (region.put layout.fdtStart blob, .ok ()) := by
    intro region hm hg hs
    exact memoryRegionWrite_inside hm (by rw [hg]; omega) (by rw [hg, hs]; omega)
  unfold bootWrite bootedRam
  rw [memoryRegionWrite_inside hmapped hbase (by omega)]
  dsimp only
  rcases hinitrd with ⟨hempty, hzero, -, -⟩ | ⟨hne, hstart, hstop, hbelow⟩
  · rw [if_neg (not_not.mpr hzero), hempty, put_nil]
    dsimp only
    rw [hfdt (ram.put _ _) hmapped rfl rfl]
  · have hwrite : memoryRegionWrite (ram.put layout.kernelStart config.kernel.bytes)
        layout.initrdStart config.initrd.bytes = (_, .ok ()) :=
      memoryRegionWrite_inside hmapped (by rw [put_guestAddr]; omega)
        (by rw [put_guestAddr, put_size]; omega)
    rw [if_pos hne, hwrite]
    dsimp only
    rw [hfdt ((ram.put _ _).put _ _) hmapped rfl rfl]

theorem bootedRam_loaded (hlayout : virtBootLayout (bootLayoutConfig ram config) = .ok layout)
    (hfits : blob.length ≤ virtFdtMaxSize) :
    BootLoaded ram (bootedRam ram config layout blob) config layout blob := by
  obtain ⟨hbase, hkernelEnd, hkernelFdt, htop, hinitrd⟩ := bootLayout_order hlayout
  have hfdtBase : ram.guestAddr.toNat ≤ layout.fdtStart := by omega
  unfold bootedRam
  rcases hinitrd with ⟨hempty, -, hstart, hstop⟩ | ⟨-, hstart, hstop, hbelow⟩
  · refine ⟨⟨rfl, rfl, rfl⟩, ?_, ?_, hfits, bytesAt_put_same _ _ _, ?_⟩
    · rw [hempty, put_nil, bytesAt_put_disjoint (ram.put _ _) hbase hfdtBase (by omega),
        bytesAt_put_same]
    · rw [hempty]
      rfl
    · intro address haddress hkernel _ hfdt
      rw [hkernelEnd] at hkernel
      rw [hempty, put_nil, byteAt_put_out (ram.put _ _) haddress hfdtBase hfdt,
        byteAt_put_out ram haddress hbase hkernel]
  · have hinitrdBase : ram.guestAddr.toNat ≤ layout.initrdStart := by omega
    refine ⟨⟨rfl, rfl, rfl⟩, ?_, ?_, hfits, bytesAt_put_same _ _ _, ?_⟩
    · rw [bytesAt_put_disjoint ((ram.put _ _).put _ _) hbase hfdtBase (by omega),
        bytesAt_put_disjoint (ram.put _ _) hbase hinitrdBase (by omega), bytesAt_put_same]
    · rw [bytesAt_put_disjoint ((ram.put _ _).put _ _) hinitrdBase hfdtBase (by omega),
        bytesAt_put_same]
    · intro address haddress hkernel hinitrd hfdt
      rw [hkernelEnd] at hkernel
      rw [hstop] at hinitrd
      rw [byteAt_put_out ((ram.put _ _).put _ _) haddress hfdtBase hfdt,
        byteAt_put_out (ram.put _ _) haddress hinitrdBase hinitrd,
        byteAt_put_out ram haddress hbase hkernel]

/-- A tree that was built is far smaller than its slot: `-EFBIG` is never returned. -/
theorem virtFdtBuild_length {config : VirtFdtConfig} {alloc : Nat → Bool}
    (hbuild : virtFdtBuild config alloc = .ok blob) : blob.length ≤ virtFdtMaxSize := by
  unfold virtFdtBuild at hbuild
  obtain ⟨-, -, hbuild⟩ := bind_eq_ok hbuild
  obtain ⟨fdt, hinit, hbuild⟩ := bind_eq_ok hbuild
  obtain ⟨r, hactions, hbuild⟩ := bind_eq_ok hbuild
  have hinit' : fdtInit virtFdtStructureCapacity virtFdtStringsCapacity true = .ok fdt := by
    cases halloc : alloc 0 with
    | false => rw [halloc] at hinit; cases hinit
    | true => rwa [halloc] at hinit
  have htree : fdtBuild fdt (actionOps (virtFdtScript config)) (alloc r.2) = .ok blob := by
    rw [fdtBuild, fdtCalls_of_actions hactions]
    exact hbuild
  have hlength := fdtBuild_length hinit' htree
  have hslot : 60 + virtFdtStructureCapacity + virtFdtStringsCapacity ≤ virtFdtMaxSize := by decide
  omega

/-- A load either fails before its first write, or it does them all. -/
theorem virtBootLoad_cases (ram : MemoryRegion) (config : VirtBootConfig) (boot : RiscvBootInfo)
    (host : BootHost) :
    (∃ e, virtBootLoad ram config boot host = (ram, boot, .error e)) ∨
    ∃ layout blob, virtBootLayout (bootLayoutConfig ram config) = .ok layout ∧
      virtFdtBuild (bootFdtConfig ram config layout) host.alloc = .ok blob ∧
      virtBootLoad ram config boot host =
        (bootedRam ram config layout blob, ⟨layout.kernelStart, layout.fdtStart⟩, .ok ()) := by
  unfold virtBootLoad
  split
  · exact .inl ⟨_, rfl⟩
  rename_i hvalid
  have hmapped : ram.mapped = true := by simpa using (not_or.mp hvalid).1
  split
  · exact .inl ⟨_, rfl⟩
  rename_i layout hlayout
  split
  · exact .inl ⟨_, rfl⟩
  rename_i blob hbuild
  have hfits := virtFdtBuild_length hbuild
  rw [if_neg (Nat.not_lt.mpr hfits)]
  split
  · exact .inl ⟨_, rfl⟩
  · exact .inr ⟨layout, blob, hlayout, hbuild, bootWrite_ok boot hmapped hlayout hfits⟩

/-- With all arguments in place nothing is in the way of a load. -/
theorem virtBootLoad_of_built {boot : RiscvBootInfo} {host : BootHost}
    (hargs : ram.mapped = true ∧ config.kernel.null = false ∧ config.kernel.size ≠ 0 ∧
      (config.initrd.size ≠ 0 → config.initrd.null = false))
    (hlayout : virtBootLayout (bootLayoutConfig ram config) = .ok layout)
    (hbuild : virtFdtBuild (bootFdtConfig ram config layout) host.alloc = .ok blob)
    (hdump : ∀ path, config.fdtDumpPath = some path → host.dump blob path = .ok ()) :
    virtBootLoad ram config boot host =
      (bootedRam ram config layout blob, ⟨layout.kernelStart, layout.fdtStart⟩, .ok ()) := by
  obtain ⟨hmapped, hkernel, hsize, hinitrd⟩ := hargs
  have hfits := virtFdtBuild_length hbuild
  unfold virtBootLoad
  rw [if_neg (by simp [hmapped, hkernel, hsize]; exact hinitrd), hlayout]
  dsimp only
  rw [hbuild]
  dsimp only
  rw [if_neg (Nat.not_lt.mpr hfits)]
  cases hpath : config.fdtDumpPath with
  | none => exact bootWrite_ok boot hmapped hlayout hfits
  | some path =>
    dsimp only
    rw [hdump path hpath]
    exact bootWrite_ok boot hmapped hlayout hfits

end Load

/-- A layout is safe. A load that succeeds puts the three images at the places of the layout,
changes nothing else and names two of them; one that fails changes nothing. -/
theorem boot_placement :
    (∀ config layout, virtBootLayout config = .ok layout → LayoutSafe config layout) ∧
    ∀ ram config boot host ram' boot' status,
      virtBootLoad ram config boot host = (ram', boot', status) →
      (status = .ok () → ∃ layout blob,
        virtBootLayout (bootLayoutConfig ram config) = .ok layout ∧
        virtFdtBuild (bootFdtConfig ram config layout) host.alloc = .ok blob ∧
        BootLoaded ram ram' config layout blob ∧
        boot' = ⟨layout.kernelStart, layout.fdtStart⟩) ∧
      (status ≠ .ok () → ram' = ram ∧ boot' = boot) := by
  refine ⟨fun _ _ => layout_safe, ?_⟩
  intro ram config boot host ram' boot' status hload
  obtain ⟨e, hcase⟩ | ⟨layout, blob, hlayout, hbuild, hcase⟩ :=
    virtBootLoad_cases ram config boot host
  · obtain ⟨rfl, rfl, rfl⟩ : ram' = ram ∧ boot' = boot ∧ status = .error e := by
      simpa using hload.symm.trans hcase
    exact ⟨nofun, fun _ => ⟨rfl, rfl⟩⟩
  · obtain ⟨rfl, rfl, rfl⟩ : ram' = bootedRam ram config layout blob ∧
        boot' = ⟨layout.kernelStart, layout.fdtStart⟩ ∧ status = .ok () := by
      simpa using hload.symm.trans hcase
    exact ⟨fun _ => ⟨layout, blob, hlayout, hbuild,
      bootedRam_loaded hlayout (virtFdtBuild_length hbuild), rfl⟩, fun h => absurd rfl h⟩

/-! ### A load -/

def plainRam : MemoryRegion where
  mapped := true
  host := Store.zero
  guestAddr := 0x80000000
  size := 0x10000000

/-- One CPU, a kernel of four bytes and an initrd of three. -/
def plainBoot : VirtBootConfig where
  kernel := ⟨false, [0x13, 0, 0, 0], by decide⟩
  initrd := ⟨false, [0x30, 0x37, 0x30], by decide⟩
  cpus := (plainConfig 1).cpus
  timebaseFrequency := 10000000
  bootargs := none
  fdtDumpPath := none
  enableRiscvIommu := false

def plainHost : BootHost := ⟨fun _ => true, fun _ _ => .ok ()⟩

theorem plainLayout :
    virtBootLayout (bootLayoutConfig plainRam plainBoot) =
      .ok ⟨0x80000000, 0x80000004, 0x88000000, 0x88000003, 0x8fe00000⟩ := by
  decide +kernel

/-- The kernel is at the start of RAM, the initrd in its middle, and the devicetree in its last
2 MiB. -/
theorem plainBoot_loaded :
    ∃ blob, LayoutSafe (bootLayoutConfig plainRam plainBoot)
        ⟨0x80000000, 0x80000004, 0x88000000, 0x88000003, 0x8fe00000⟩ ∧
      BootLoaded plainRam (virtBootLoad plainRam plainBoot ⟨0, 0⟩ plainHost).1 plainBoot
        ⟨0x80000000, 0x80000004, 0x88000000, 0x88000003, 0x8fe00000⟩ blob ∧
      (virtBootLoad plainRam plainBoot ⟨0, 0⟩ plainHost).2 =
        (⟨0x80000000, 0x8fe00000⟩, .ok ()) := by
  have hvalid : (bootFdtConfig plainRam plainBoot
      ⟨0x80000000, 0x80000004, 0x88000000, 0x88000003, 0x8fe00000⟩).Valid :=
    (validateConfig_ok_iff _).mp (by decide +kernel)
  have hshort := plainConfig_short 1
  obtain ⟨blob, hbuild⟩ := fdt_room hvalid
    ⟨hshort.isa, hshort.isaBase, hshort.isaExtensions, hshort.mmuType, nofun⟩ (by decide)
  have hload := @virtBootLoad_of_built _ _ _ _ ⟨0, 0⟩ plainHost (by decide) plainLayout hbuild nofun
  obtain ⟨layout, blob', hlayout, -, hloaded, -⟩ :=
    (boot_placement.2 plainRam plainBoot ⟨0, 0⟩ plainHost _ _ _ hload).1 rfl
  rw [plainLayout] at hlayout
  cases hlayout
  rw [hload]
  exact ⟨blob', boot_placement.1 _ _ plainLayout, hloaded, rfl⟩

end Vart
