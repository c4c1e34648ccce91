import Vart.Machine.VirtLoader

/-!
# Boot files (`machine/virt-machine-loader.c`)

`read_boot_file` reads a regular file whole, with `read` calls that may return fewer bytes than
asked for or be interrupted. `vart_virt_machine_load_boot_files` reads the kernel and the initrd with
it and hands them to `vart_virt_boot_load`.

* `boot_load_iff_fits`: the loader succeeds on exactly the images RAM has room for.
* `readLoop_ok`, `readLoop_done`: the loop returns the bytes of the file, however the calls split
  them, and returns if enough calls make progress.
* `readBootFile_whole`: so a regular file within the limit is read whole.
-/

namespace Vart

open Lib

/-! ## Which images fit -/

/-- The start of RAM, rounded up. -/
def kernelPlace (config : VirtBootLayoutConfig) : Nat :=
  (config.ramBase.toNat + (virtBootAlign - 1)) / virtBootAlign * virtBootAlign

/-- The last 2 MiB of RAM, rounded down. -/
def fdtPlace (config : VirtBootLayoutConfig) : Nat :=
  (config.ramBase.toNat + config.ramSize.toNat - virtFdtMaxSize) / virtBootAlign * virtBootAlign

/-- Half of RAM or 512 MiB behind the kernel. -/
def initrdPlace (config : VirtBootLayoutConfig) : Nat :=
  kernelPlace config + min (config.ramSize.toNat / 2) virtInitrdMaxOffset

/-- RAM has room for the kernel, the initrd if there is one, and the devicetree in this order. -/
structure BootFits (config : VirtBootLayoutConfig) : Prop where
  kernelSize : config.kernelSize ≠ 0
  ramEnd : config.ramBase.toNat + config.ramSize.toNat < 2 ^ 64
  ramSize : virtFdtMaxSize ≤ config.ramSize.toNat
  kernel : kernelPlace config + config.kernelSize.toNat ≤ fdtPlace config
  initrd : config.initrdSize ≠ 0 →
    kernelPlace config + config.kernelSize.toNat ≤ initrdPlace config ∧
    initrdPlace config + config.initrdSize.toNat ≤ fdtPlace config

theorem addU64_eq {left right : Nat} (h : left + right < 2 ^ 64) :
    addU64 left right = .ok (left + right) := if_neg (by simp only [uint64Max]; omega)

theorem ok_bind {α β : Type} (a : α) (f : α → Except Errno β) : (.ok a >>= f) = f a := rfl

theorem BootFits.of_layout {config : VirtBootLayoutConfig} {layout : VirtBootLayout}
    (h : virtBootLayout config = .ok layout) : BootFits config := by
  unfold virtBootLayout at h
  split at h
  · cases h
  rename_i hsizes
  obtain ⟨ramEnd, hend, h⟩ := bind_eq_ok h
  obtain ⟨rfl, hwrap⟩ := addU64_ok hend
  have hsize := config.ramSize.toNat_lt
  replace hwrap := hwrap (by simp only [uint64Max]; omega)
  split at h
  · cases h
  rename_i hslot
  obtain ⟨kernelStart, hstart, h⟩ := bind_eq_ok h
  obtain rfl := alignUp_ok hstart
  obtain ⟨kernelEnd, hkernel, h⟩ := bind_eq_ok h
  obtain ⟨rfl, -⟩ := addU64_ok hkernel
  extract_lets fdtFloor fdtStart initrdOffset at h
  split at h
  · cases h
  rename_i hroom
  have hram : config.ramBase.toNat + config.ramSize.toNat < 2 ^ 64 := by
    simp only [uint64Max] at hwrap
    omega
  refine ⟨fun h => hsizes (.inr h), hram, Nat.not_lt.mp hslot, Nat.not_lt.mp hroom, fun hne => ?_⟩
  rw [if_neg hne] at h
  obtain ⟨initrdStart, hinitrd, h⟩ := bind_eq_ok h
  obtain ⟨rfl, -⟩ := addU64_ok hinitrd
  obtain ⟨initrdEnd, hstop, h⟩ := bind_eq_ok h
  obtain ⟨rfl, -⟩ := addU64_ok hstop
  split at h
  · cases h
  · rename_i hplaced
    rw [not_or] at hplaced
    exact ⟨Nat.not_lt.mp hplaced.1, Nat.not_lt.mp hplaced.2⟩

theorem virtBootLayout_of_fits {config : VirtBootLayoutConfig} (h : BootFits config) :
    ∃ layout, virtBootLayout config = .ok layout := by
  obtain ⟨hkernel, hend, hslot, hroom, hinitrd⟩ := h
  have hsizes : ¬ (config.ramSize = 0 ∨ config.kernelSize = 0) := by
    rintro (hzero | hzero)
    · rw [hzero] at hslot
      exact absurd hslot (by decide)
    · exact hkernel hzero
  have hstart : alignUp config.ramBase.toNat virtBootAlign = .ok (kernelPlace config) :=
    if_neg (by simp only [uint64Max, virtFdtMaxSize, virtBootAlign] at hslot ⊢; omega)
  have htop : fdtPlace config < 2 ^ 64 :=
    (Nat.div_mul_le_self _ _).trans_lt (by omega)
  -- The sums stay below the devicetree, so that none of them overflows.
  have hunfold : virtBootLayout config =
      if config.initrdSize = 0 then .ok ⟨kernelPlace config,
        kernelPlace config + config.kernelSize.toNat, 0, 0, fdtPlace config⟩
      else addU64 (kernelPlace config) (min (config.ramSize.toNat / 2) virtInitrdMaxOffset) >>=
        fun initrdStart => addU64 initrdStart config.initrdSize.toNat >>= fun initrdEnd =>
          if kernelPlace config + config.kernelSize.toNat > initrdStart ∨
              initrdEnd > fdtPlace config then .error .enospc
          else .ok ⟨kernelPlace config, kernelPlace config + config.kernelSize.toNat, initrdStart,
            initrdEnd, fdtPlace config⟩ := by
    unfold virtBootLayout
    rw [if_neg hsizes, addU64_eq hend]
    refine (if_neg (Nat.not_lt.mpr hslot)).trans ?_
    rw [hstart, ok_bind, @addU64_eq (kernelPlace config) config.kernelSize.toNat (by omega),
      ok_bind]
    exact if_neg (Nat.not_lt.mpr hroom)
  rw [hunfold]
  by_cases hzero : config.initrdSize = 0
  · exact ⟨_, if_pos hzero⟩
  · obtain ⟨hbelow, habove⟩ := hinitrd hzero
    rw [if_neg hzero, addU64_eq (show initrdPlace config < 2 ^ 64 by omega), ok_bind,
      ← initrdPlace,
      addU64_eq (show initrdPlace config + config.initrdSize.toNat < 2 ^ 64 by omega), ok_bind]
    exact ⟨_, if_neg (by omega)⟩

/-- What `validate_config` checks of the CPUs, with strings of ordinary length. -/
structure CpusReady (config : VirtBootConfig) : Prop where
  count : 0 < config.cpus.length ∧ config.cpus.length ≤ 26
  timebase : config.timebaseFrequency ≠ 0
  strings : ∀ cpu ∈ config.cpus, cpu.isa.bytes ≠ [] ∧ cpu.isaBase.bytes ≠ [] ∧
    cpu.isaExtensions ≠ [] ∧ cpu.mmuType.bytes ≠ [] ∧
    ∀ extension ∈ cpu.isaExtensions, extension.bytes ≠ []
  hartids : (config.cpus.map VirtFdtCpu.hartid).Nodup
  short : ∀ ram layout, (bootFdtConfig ram config layout).Short

/-- The initrd of a layout is inside RAM; without one, its start is zero. -/
theorem initrd_inside {ram : MemoryRegion} {config : VirtBootConfig} {layout : VirtBootLayout}
    (hlayout : virtBootLayout (bootLayoutConfig ram config) = .ok layout) :
    layout.initrdStart + config.initrd.size.toNat < 2 ^ 64 ∧
      (config.initrd.size = 0 → layout.initrdStart = 0) ∧
      (config.initrd.size ≠ 0 → ram.guestAddr.toNat ≤ layout.initrdStart ∧
        layout.initrdStart + config.initrd.size.toNat ≤ ram.guestAddr.toNat + ram.size.toNat) := by
  have hend := (BootFits.of_layout hlayout).ramEnd
  obtain ⟨-, -, -, hkernelEnd, -, -, hinitrd⟩ := virtBootLayout_ok hlayout
  obtain ⟨hbase, htop⟩ := virtBootLayout_order hlayout
  simp only [bootLayoutConfig] at hinitrd hend hbase htop
  rcases hinitrd with ⟨hzero, hstart, -⟩ | ⟨hne, hfirst, hlast, hroom⟩
  · exact ⟨by rw [hstart, hzero]; decide, fun _ => hstart, fun hne => absurd hzero hne⟩
  · exact ⟨by omega, fun hzero => absurd hzero hne, fun _ => by omega⟩

/-- The devicetree of a layout passes `validate_config`. -/
theorem bootFdtConfig_valid {ram : MemoryRegion} {config : VirtBootConfig} {layout : VirtBootLayout}
    (hready : CpusReady config)
    (hlayout : virtBootLayout (bootLayoutConfig ram config) = .ok layout) :
    (bootFdtConfig ram config layout).Valid := by
  obtain ⟨-, hend, hslot, -, -⟩ := BootFits.of_layout hlayout
  obtain ⟨hbelow, hzero, hinside⟩ := initrd_inside hlayout
  have hmax : config.cpus.length ≤ virtMaxCpus := hready.count.2.trans (by decide)
  have hram : ram.size ≠ 0 := by
    intro hnone
    simp only [bootLayoutConfig, hnone] at hslot
    exact absurd hslot (by decide)
  have hnat : (UInt64.ofNat layout.initrdStart).toNat = layout.initrdStart :=
    UInt64.toNat_ofNat_of_lt' ((Nat.le_add_right _ _).trans_lt hbelow)
  refine ⟨hready.count.1, hmax, hready.timebase, hram, hend, fun hnone => ?_, ?_, fun hne => ?_,
    hready.strings, hready.hartids⟩
  · simp only [bootFdtConfig, hzero hnone]
    rfl
  · simpa only [bootFdtConfig, hnat] using hbelow
  · simpa only [bootFdtConfig, hnat] using hinside hne

/-- With a kernel, ready CPUs and enough host memory, a load succeeds exactly if the images fit. -/
theorem boot_load_iff_fits {ram : MemoryRegion} {config : VirtBootConfig} (boot : RiscvBootInfo)
    {host : BootHost} (hmapped : ram.mapped = true) (hkernel : config.kernel.null = false)
    (hinitrd : config.initrd.size ≠ 0 → config.initrd.null = false) (hready : CpusReady config)
    (halloc : host.alloc = fun _ => true) (hdump : config.fdtDumpPath = none) :
    (virtBootLoad ram config boot host).2.2 = .ok () ↔
      BootFits (bootLayoutConfig ram config) := by
  constructor
  · intro h
    rcases virtBootLoad_cases ram config boot host with ⟨e, hcase⟩ | ⟨layout, blob, hlayout, -⟩
    · rw [hcase] at h
      cases h
    · exact .of_layout hlayout
  · intro hfits
    obtain ⟨layout, hlayout⟩ := virtBootLayout_of_fits hfits
    obtain ⟨blob, hbuild⟩ := fdt_room (bootFdtConfig_valid hready hlayout)
      (hready.short ram layout) hready.count.2
    rw [virtBootLoad_of_built ⟨hmapped, hkernel, hfits.kernelSize, hinitrd⟩ hlayout
      (halloc ▸ hbuild) (by simp [hdump])]

theorem plainBoot_ready : CpusReady plainBoot where
  count := by decide
  timebase := by decide
  strings := by decide +kernel
  hartids := by decide
  short ram layout := ⟨(plainConfig_short 1).isa, (plainConfig_short 1).isaBase,
    (plainConfig_short 1).isaExtensions, (plainConfig_short 1).mmuType, nofun⟩

theorem plainBoot_fits :
    (virtBootLoad plainRam plainBoot ⟨0, 0⟩ plainHost).2.2 = .ok () ∧
      BootFits (bootLayoutConfig plainRam plainBoot) := by
  have hfits := BootFits.of_layout plainLayout
  exact ⟨(boot_load_iff_fits ⟨0, 0⟩ rfl rfl (by decide) plainBoot_ready rfl rfl).mpr hfits, hfits⟩

/-! ## Reading a file -/

/-- The answer of a `read` call: at most `count` bytes are there at once. -/
inductive ReadAnswer where
  | interrupted
  | error (e : Errno)
  | bytes (count : Nat)

/-- A file as the calls on it show it; `stat` is whether it is regular and `st_size`. -/
structure BootFile where
  content : List UInt8
  opened : Status
  stat : Except Errno (Bool × Int)
  reads : List ReadAnswer

/-- The loop of `read_boot_file` with `buffer` read so far. It has not returned if the answers are
used up. -/
def readLoop (content : List UInt8) (length : Nat) :
    List ReadAnswer → (buffer : List UInt8) → Option (Except Errno (List UInt8))
  | answers, buffer =>
    if buffer.length ≥ length then some (.ok buffer)
    else match answers with
    | [] => none
    | .interrupted :: answers => readLoop content length answers buffer
    | .error e :: _ => some (.error e)
    | .bytes count :: answers =>
      let data := (content.drop buffer.length).take (min count (length - buffer.length))
      if data = [] then some (.error .eio) else readLoop content length answers (buffer ++ data)

/-- `read_boot_file`. -/
def readBootFile (file : BootFile) (limit : UInt64) (alloc : Bool) :
    Option (Except Errno (List UInt8)) :=
  if limit = 0 then some (.error .einval)
  else match file.opened, file.stat with
  | .error e, _ => some (.error e)
  | .ok _, .error e => some (.error e)
  | .ok _, .ok (regular, size) =>
    if !regular ∨ size ≤ 0 then some (.error .einval)
    else if size > uint64Max ∨ size > limit.toNat then some (.error .efbig)
    else if !alloc then some (.error .enomem)
    else readLoop file.content size.toNat file.reads []

/-- What is read is the start of the file. -/
theorem readLoop_ok {content : List UInt8} {length : Nat} {answers : List ReadAnswer}
    {buffer data : List UInt8} (hbuffer : buffer = content.take buffer.length)
    (hle : buffer.length ≤ length) (h : readLoop content length answers buffer = some (.ok data)) :
    data = content.take length ∧ data.length = length := by
  induction answers generalizing buffer with
  | nil =>
    unfold readLoop at h
    split at h
    · cases h
      have heq : data.length = length := by omega
      exact ⟨heq ▸ hbuffer, heq⟩
    · cases h
  | cons answer answers ih =>
    unfold readLoop at h
    split at h
    · cases h
      have heq : data.length = length := by omega
      exact ⟨heq ▸ hbuffer, heq⟩
    cases answer with
    | interrupted => exact ih hbuffer hle h
    | error e => cases h
    | bytes count =>
      dsimp only at h
      split at h
      · cases h
      · refine ih ?_ ?_ h
        · -- The bytes come right behind those that are there.
          rw [List.length_append]
          nth_rewrite 1 [hbuffer]
          rw [List.take_add, List.append_cancel_left_eq, List.length_take, List.length_drop]
          exact (List.take_eq_take_min ..).trans (by rw [List.length_drop])
        · simp only [List.length_append, List.length_take]
          omega

/-- The bytes that the calls have to offer. -/
def progress : List ReadAnswer → Nat
  | [] => 0
  | .bytes count :: answers => progress answers + count
  | _ :: answers => progress answers

/-- A file that is as long as `st_size` says is read in any pieces, if no call fails. -/
theorem readLoop_done {content : List UInt8} {length : Nat} {answers : List ReadAnswer}
    {buffer : List UInt8} (hcontent : length ≤ content.length)
    (hanswers : ∀ a ∈ answers, a = .interrupted ∨ ∃ count, a = .bytes (count + 1))
    (hprogress : length ≤ buffer.length + progress answers) :
    ∃ data, readLoop content length answers buffer = some (.ok data) := by
  induction answers generalizing buffer with
  | nil => exact ⟨buffer, by unfold readLoop; exact if_pos hprogress⟩
  | cons answer answers ih =>
    have hrest := fun a ha => hanswers a (List.mem_cons_of_mem _ ha)
    unfold readLoop
    split
    · exact ⟨buffer, rfl⟩
    rename_i hmore
    rcases hanswers answer List.mem_cons_self with rfl | ⟨count, rfl⟩
    · exact ih hrest hprogress
    · dsimp only
      have hlength : ((content.drop buffer.length).take
          (min (count + 1) (length - buffer.length))).length =
          min (count + 1) (length - buffer.length) := by
        simp only [List.length_take, List.length_drop]
        omega
      rw [if_neg (fun hnil => by simp [hnil] at hlength; omega)]
      refine ih hrest ?_
      rw [progress] at hprogress
      rw [List.length_append, hlength]
      omega

/-- A regular file within the limit is read whole, in whatever pieces the calls return it. -/
theorem readBootFile_whole {file : BootFile} {limit : UInt64} {size : Int}
    (hopen : file.opened = .ok ()) (hstat : file.stat = .ok (true, size)) (hpos : 0 < size)
    (hlimit : size ≤ limit.toNat) (hcontent : size.toNat ≤ file.content.length)
    (hanswers : ∀ a ∈ file.reads, a = .interrupted ∨ ∃ count, a = .bytes (count + 1))
    (hprogress : size.toNat ≤ progress file.reads) :
    readBootFile file limit true = some (.ok (file.content.take size.toNat)) := by
  have hmax := limit.toNat_lt
  obtain ⟨data, hdata⟩ := @readLoop_done _ _ _ [] hcontent hanswers (by simpa using hprogress)
  have hzero : limit ≠ 0 := by
    rintro rfl
    simp at hlimit
    omega
  unfold readBootFile
  simp only [hopen, hstat, hzero, if_false, Bool.not_true, Bool.false_eq_true, false_or,
    Int.not_le.mpr hpos]
  rw [if_neg (by simp only [uint64Max]; omega), hdata]
  rw [(readLoop_ok rfl (Nat.zero_le _) hdata).1]

/-- A kernel of four bytes that is read in two pieces, with an interruption between them. -/
def plainKernel : BootFile :=
  ⟨[0x13, 0, 0, 0], .ok (), .ok (true, 4), [.bytes 1, .interrupted, .bytes 9]⟩

theorem plainKernel_read :
    readBootFile plainKernel plainRam.size true = some (.ok [0x13, 0, 0, 0]) :=
  @readBootFile_whole plainKernel plainRam.size 4 rfl rfl (by decide) (by decide) (by decide)
    (by simp [plainKernel]) (by decide)

end Vart
