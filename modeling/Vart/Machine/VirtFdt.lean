import Mathlib.Data.List.TakeWhile
import Vart.Boot.FdtTree
import Vart.Lib.Hex
import Vart.Pci.Device

/-!
# The devicetree of the virt machine (`machine/virt-fdt.c`)

* `virtFdtBuild`: `vart_virt_fdt_build`, as a script of calls of the builder.
* `virtTree`: the tree it builds, and `virtFdtScript_ops`: the script makes the calls for that tree.
-/

namespace Vart

open Lib

/-! ## Configuration -/

abbrev virtMaxCpus : Nat := 512
abbrev virtUartBase : Nat := 0x10000000
abbrev virtFdtStructureCapacity : Nat := 16384
abbrev virtFdtStringsCapacity : Nat := 2048
abbrev riscvIrqSExt : Nat := 9
abbrev irqTypeLevelHigh : Nat := 4
abbrev fdtPciRangeIoport : Nat := 0x01000000
abbrev fdtPciRangeMmio : Nat := 0x02000000
abbrev fdtPciAddrCells : Nat := 3
abbrev fdtPciIntCells : Nat := 1
abbrev virtUartSize : Nat := 0x100
abbrev virtUartIrq : Nat := 10
abbrev virtUartClockHz : Nat := 3686400
abbrev virtPciePioBase : Nat := 0x03000000
abbrev virtPciePioSize : Nat := 0x00010000
abbrev virtPcieIrqBase : Nat := 32
abbrev virtAplicSBase : Nat := 0x0d000000
abbrev virtAplicSize : Nat := 0x00008000
abbrev virtAplicNumSources : Nat := 96
abbrev virtImsicSBase : Nat := 0x28000000
abbrev virtImsicGroupSize : Nat := 0x01000000
abbrev virtImsicFileSize : Nat := 0x00001000
abbrev virtImsicNumIds : Nat := 255

/-- `VartVirtFdtCpu`. -/
structure VirtFdtCpu where
  hartid : UInt32
  isa : CString
  isaBase : CString
  isaExtensions : List CString
  mmuType : CString

/-- `VartVirtFdtConfig`. -/
structure VirtFdtConfig where
  cpus : List VirtFdtCpu
  timebaseFrequency : UInt32
  ramBase : UInt64
  ramSize : UInt64
  bootargs : Option CString
  initrdStart : UInt64
  initrdSize : UInt64
  enableRiscvIommu : Bool

/-- The loop of `validate_config` over the CPUs, `before` being those it has passed. -/
def validateCpus (before : List VirtFdtCpu) : List VirtFdtCpu → Status
  | [] => .ok ()
  | cpu :: cpus =>
    if cpu.isa.bytes = [] ∨ cpu.isaBase.bytes = [] ∨ cpu.isaExtensions = [] ∨
        cpu.mmuType.bytes = [] then .error .einval
    else if ∃ extension ∈ cpu.isaExtensions, extension.bytes = [] then .error .einval
    else if ∃ other ∈ before, other.hartid = cpu.hartid then .error .einval
    else validateCpus (before ++ [cpu]) cpus

/-- `validate_config`. -/
def validateConfig (config : VirtFdtConfig) : Status :=
  let initrdEnd := config.initrdStart.toNat + config.initrdSize.toNat
  let ramEnd := config.ramBase.toNat + config.ramSize.toNat
  if config.cpus.length = 0 ∨ config.cpus.length > virtMaxCpus ∨
      config.cpus.length > virtImsicGroupSize / virtImsicFileSize ∨
      config.timebaseFrequency = 0 ∨ config.ramSize = 0 ∨
      config.ramBase.toNat > uint64Max - config.ramSize.toNat then .error .einval
  else if (config.initrdSize = 0 ∧ config.initrdStart ≠ 0) ∨
      config.initrdStart.toNat > uint64Max - config.initrdSize.toNat then .error .einval
  else if config.initrdSize ≠ 0 ∧
      (config.initrdStart.toNat < config.ramBase.toNat ∨ initrdEnd > ramEnd) then .error .einval
  else validateCpus [] config.cpus

/-- The configurations that `validate_config` takes, one field for each of its checks. -/
structure VirtFdtConfig.Valid (config : VirtFdtConfig) : Prop where
  cpus : 0 < config.cpus.length
  cpusMax : config.cpus.length ≤ virtMaxCpus
  timebase : config.timebaseFrequency ≠ 0
  ram : config.ramSize ≠ 0
  ramEnd : config.ramBase.toNat + config.ramSize.toNat < 2 ^ 64
  noInitrd : config.initrdSize = 0 → config.initrdStart = 0
  initrdEnd : config.initrdStart.toNat + config.initrdSize.toNat < 2 ^ 64
  initrd : config.initrdSize ≠ 0 → config.ramBase.toNat ≤ config.initrdStart.toNat ∧
    config.initrdStart.toNat + config.initrdSize.toNat ≤
      config.ramBase.toNat + config.ramSize.toNat
  strings : ∀ cpu ∈ config.cpus, cpu.isa.bytes ≠ [] ∧ cpu.isaBase.bytes ≠ [] ∧
    cpu.isaExtensions ≠ [] ∧ cpu.mmuType.bytes ≠ [] ∧
    ∀ extension ∈ cpu.isaExtensions, extension.bytes ≠ []
  hartids : (config.cpus.map VirtFdtCpu.hartid).Nodup

theorem validateCpus_ok_iff (before cpus : List VirtFdtCpu) : validateCpus before cpus = .ok () ↔
    (∀ cpu ∈ cpus, (cpu.isa.bytes ≠ [] ∧ cpu.isaBase.bytes ≠ [] ∧ cpu.isaExtensions ≠ [] ∧
      cpu.mmuType.bytes ≠ [] ∧ ∀ extension ∈ cpu.isaExtensions, extension.bytes ≠ []) ∧
      ∀ other ∈ before, other.hartid ≠ cpu.hartid) ∧
    (cpus.map VirtFdtCpu.hartid).Nodup := by
  induction cpus generalizing before with
  | nil => simp [validateCpus]
  | cons cpu cpus ih =>
    rw [validateCpus]
    split
    · rename_i h
      refine iff_of_false (by simp) fun hall => ?_
      have := (hall.1 cpu List.mem_cons_self).1
      tauto
    split
    · rename_i h
      refine iff_of_false (by simp) fun hall => ?_
      obtain ⟨extension, hmem, hempty⟩ := h
      exact (hall.1 cpu List.mem_cons_self).1.2.2.2.2 extension hmem hempty
    split
    · rename_i h
      refine iff_of_false (by simp) fun hall => ?_
      obtain ⟨other, hmem, hsame⟩ := h
      exact (hall.1 cpu List.mem_cons_self).2 other hmem hsame
    · rename_i hstrings hextensions hother
      -- The CPUs behind this one are compared with it later, when it is among those before.
      rw [ih]
      simp only [List.mem_append, List.mem_singleton, List.forall_mem_cons, List.map_cons,
        List.nodup_cons, List.mem_map, not_exists, not_and]
      push Not at hstrings hextensions hother
      constructor
      · rintro ⟨hcpus, hnodup⟩
        refine ⟨⟨⟨⟨hstrings.1, hstrings.2.1, hstrings.2.2.1, hstrings.2.2.2, hextensions⟩,
          hother⟩, fun other hmem => ⟨(hcpus other hmem).1, fun old hold =>
            (hcpus other hmem).2 old (.inl hold)⟩⟩, fun other hmem hsame =>
            (hcpus other hmem).2 cpu (.inr rfl) hsame.symm, hnodup⟩
      · rintro ⟨⟨-, hcpus⟩, hnew, hnodup⟩
        refine ⟨fun other hmem => ⟨(hcpus other hmem).1, fun old hold => ?_⟩, hnodup⟩
        rcases hold with hold | rfl
        · exact (hcpus other hmem).2 old hold
        · exact fun hsame => hnew other hmem hsame.symm

theorem validateConfig_ok_iff (config : VirtFdtConfig) :
    validateConfig config = .ok () ↔ config.Valid := by
  have hmax : uint64Max = 2 ^ 64 - 1 := rfl
  have hram := config.ramSize.toNat_lt
  have hinitrd := config.initrdSize.toNat_lt
  have hgroup : virtImsicGroupSize / virtImsicFileSize = 4096 := rfl
  have hcpus : virtMaxCpus = 512 := rfl
  unfold validateConfig
  extract_lets initrdEnd ramEnd
  split
  · rename_i h
    refine iff_of_false (by simp) fun hvalid => ?_
    have := hvalid.cpus
    have := hvalid.cpusMax
    have := hvalid.ramEnd
    rcases h with h | h | h | h | h | h
    · omega
    · omega
    · omega
    · exact hvalid.timebase h
    · exact hvalid.ram h
    · omega
  split
  · rename_i h
    refine iff_of_false (by simp) fun hvalid => ?_
    have := hvalid.initrdEnd
    rcases h with h | h
    · exact h.2 (hvalid.noInitrd h.1)
    · omega
  split
  · rename_i h
    refine iff_of_false (by simp) fun hvalid => ?_
    have := hvalid.initrd h.1
    omega
  · rename_i h₁ h₂ h₃
    push Not at h₁ h₂ h₃
    rw [validateCpus_ok_iff]
    constructor
    · rintro ⟨hstrings, hnodup⟩
      exact ⟨by omega, by omega, h₁.2.2.2.1, h₁.2.2.2.2.1, by omega, h₂.1, by omega, h₃,
        fun cpu hmem => (hstrings cpu hmem).1, hnodup⟩
    · intro hvalid
      exact ⟨fun cpu hmem => ⟨hvalid.strings cpu hmem, by simp⟩, hvalid.hartids⟩

/-! ## The script -/

/-- A string literal of the program. -/
def text (s : String) : CString where
  bytes := (literal s).takeWhile (· != 0)
  nonzero := fun _ hb => by simpa using List.mem_takeWhile_imp hb

/-- What `snprintf` makes of a format that ends in `%x`. The buffers are large enough for it. -/
def textHex (s : String) (n : Nat) : CString where
  bytes := (text s).bytes ++ hexDigits n
  nonzero := by
    intro b hb
    rcases List.mem_append.mp hb with hb | hb
    · exact (text s).nonzero b hb
    · rintro rfl
      have := hexDigits_safe n 0 hb
      revert this
      decide

/-- The first loop of `add_string_list`. -/
def stringListSize (size : Nat) : List CString → Except Errno Nat
  | [] => .ok size
  | value :: values =>
    if value.size > uint32Max - size then .error .eoverflow
    else stringListSize (size + value.size) values

/-- `add_string_list`. -/
def addStringList (name : CString) (values : List CString) : List FdtAction :=
  [.require ((stringListSize 0 values).map fun _ => ()), .allocate,
    .call (.property name (values.flatMap CString.terminated))]

/-- Two 64-bit values as cells. -/
def regCells (base size : Nat) : List Nat :=
  [base >>> 32, base % 2 ^ 32, size >>> 32, size % 2 ^ 32]

/-- `add_cpu`. -/
def addCpu (cpu : VirtFdtCpu) (intcPhandle : Nat) : List FdtAction :=
  List.flatten [
    [.call (.beginNode (textHex "cpu@" cpu.hartid.toNat))],
    propertyString (text "device_type") (text "cpu"),
    propertyU32 (text "reg") cpu.hartid.toNat,
    propertyString (text "status") (text "okay"),
    propertyString (text "compatible") (text "riscv"),
    propertyString (text "riscv,isa") cpu.isa,
    propertyString (text "riscv,isa-base") cpu.isaBase,
    addStringList (text "riscv,isa-extensions") cpu.isaExtensions,
    propertyString (text "mmu-type") cpu.mmuType,
    [.call (.beginNode (text "interrupt-controller"))],
    propertyString (text "compatible") (text "riscv,cpu-intc"),
    [.call (.property (text "interrupt-controller") [])],
    propertyU32 (text "#interrupt-cells") 1,
    propertyU32 (text "phandle") intcPhandle,
    [.call .endNode],
    [.call .endNode]]

/-- `add_cpus`. -/
def addCpus (config : VirtFdtConfig) : List FdtAction :=
  List.flatten [
    [.call (.beginNode (text "cpus"))],
    propertyU32 (text "#address-cells") 1,
    propertyU32 (text "#size-cells") 0,
    propertyU32 (text "timebase-frequency") config.timebaseFrequency.toNat,
    config.cpus.zipIdx.flatMap (fun (cpu, i) => addCpu cpu (i + 1)),
    [.call .endNode]]

/-- `add_memory`. -/
def addMemory (base size : Nat) : List FdtAction :=
  List.flatten [
    [.call (.beginNode (textHex "memory@" base))],
    propertyString (text "device_type") (text "memory"),
    propertyCells (text "reg") (regCells base size),
    [.call .endNode]]

/-- `uart_path` of `vart_virt_fdt_build`. -/
def uartPath : CString := textHex "/soc/serial@" virtUartBase

/-- `add_chosen`. -/
def addChosen (config : VirtFdtConfig) (uartPath : CString) : List FdtAction :=
  List.flatten [
    [.call (.beginNode (text "chosen"))],
    (match config.bootargs with
      | some bootargs =>
        if bootargs.bytes ≠ [] then propertyString (text "bootargs") bootargs else []
      | none => []),
    (if config.initrdSize ≠ 0 then
      propertyU64 (text "linux,initrd-start") config.initrdStart.toNat else []),
    (if config.initrdSize ≠ 0 then
      propertyU64 (text "linux,initrd-end")
        (config.initrdStart + config.initrdSize).toNat else []),
    propertyString (text "stdout-path") uartPath,
    [.call .endNode]]

/-- `add_aliases`. -/
def addAliases (uartPath : CString) : List FdtAction :=
  List.flatten [
    [.call (.beginNode (text "aliases"))],
    propertyString (text "serial0") uartPath,
    [.call .endNode]]

/-- `add_uart`. -/
def addUart (aplicPhandle : Nat) : List FdtAction :=
  List.flatten [
    [.call (.beginNode (textHex "serial@" virtUartBase))],
    propertyString (text "compatible") (text "ns16550a"),
    propertyCells (text "reg") (regCells virtUartBase virtUartSize),
    propertyU32 (text "clock-frequency") virtUartClockHz,
    propertyU32 (text "interrupt-parent") aplicPhandle,
    propertyCells (text "interrupts") [virtUartIrq, irqTypeLevelHigh],
    [.call .endNode]]

/-- The loops of `add_pcie` that fill `interrupt_map`. -/
def interruptMap (aplicPhandle : Nat) : List Nat :=
  (List.range 4).flatMap fun dev =>
    (List.range 4).flatMap fun pin =>
      [(dev * 8) <<< 8, 0, 0, pin + 1, aplicPhandle, virtPcieIrqBase + (pin + dev) % 4,
        irqTypeLevelHigh]

/-- `add_pcie`. -/
def addPcie (imsicPhandle aplicPhandle : Nat) (enableRiscvIommu : Bool) : List FdtAction :=
  List.flatten [
    [.call (.beginNode (textHex "pci@" virtPcieEcamBase))],
    propertyU32 (text "#address-cells") fdtPciAddrCells,
    propertyU32 (text "#interrupt-cells") fdtPciIntCells,
    propertyU32 (text "#size-cells") 2,
    propertyString (text "compatible") (text "pci-host-ecam-generic"),
    propertyString (text "device_type") (text "pci"),
    propertyU32 (text "linux,pci-domain") 0,
    propertyCells (text "bus-range") [0, virtPcieEcamSize / 0x100000 - 1],
    [.call (.property (text "dma-coherent") [])],
    propertyU32 (text "msi-parent") imsicPhandle,
    propertyCells (text "reg") (regCells virtPcieEcamBase virtPcieEcamSize),
    propertyCells (text "ranges")
      [fdtPciRangeIoport, 0, 0, 0, virtPciePioBase, 0, virtPciePioSize,
        fdtPciRangeMmio, 0, virtPcieMmioBase, 0, virtPcieMmioBase, 0, virtPcieMmioSize],
    propertyCells (text "interrupt-map") (interruptMap aplicPhandle),
    propertyCells (text "interrupt-map-mask") [0x1800, 0, 0, 0x7],
    (if enableRiscvIommu then
      propertyCells (text "iommu-map") [0, aplicPhandle + 1, 0, 0x10000] else []),
    (if enableRiscvIommu then List.flatten [
      [.call (.beginNode (text "iommu@0"))],
      propertyString (text "compatible") (text "riscv,pci-iommu"),
      propertyU32 (text "#iommu-cells") 1,
      propertyCells (text "reg") [0, 0, 0, 0, 0],
      propertyU32 (text "phandle") (aplicPhandle + 1),
      [.call .endNode]] else []),
    [.call .endNode]]

/-- `add_imsic`. -/
def addImsic (cpuCount imsicPhandle : Nat) : List FdtAction :=
  List.flatten [
    [.allocate],
    [.call (.beginNode (textHex "interrupt-controller@" virtImsicSBase))],
    addStringList (text "compatible") [text "qemu,imsics", text "riscv,imsics"],
    propertyU32 (text "#interrupt-cells") 0,
    [.call (.property (text "interrupt-controller") [])],
    [.call (.property (text "msi-controller") [])],
    propertyU32 (text "#msi-cells") 0,
    propertyCells (text "interrupts-extended")
      ((List.range cpuCount).flatMap fun i => [i + 1, riscvIrqSExt]),
    propertyCells (text "reg") (regCells virtImsicSBase (cpuCount * virtImsicFileSize)),
    propertyU32 (text "riscv,num-ids") virtImsicNumIds,
    propertyU32 (text "phandle") imsicPhandle,
    [.call .endNode]]

/-- `add_aplic`. -/
def addAplic (imsicPhandle aplicPhandle : Nat) : List FdtAction :=
  List.flatten [
    [.call (.beginNode (textHex "interrupt-controller@" virtAplicSBase))],
    addStringList (text "compatible") [text "qemu,aplic", text "riscv,aplic"],
    propertyU32 (text "#address-cells") 0,
    propertyU32 (text "#interrupt-cells") 2,
    [.call (.property (text "interrupt-controller") [])],
    propertyU32 (text "msi-parent") imsicPhandle,
    propertyCells (text "reg") (regCells virtAplicSBase virtAplicSize),
    propertyU32 (text "riscv,num-sources") virtAplicNumSources,
    propertyU32 (text "phandle") aplicPhandle,
    [.call .endNode]]

/-- `add_soc`. -/
def addSoc (cpuCount imsicPhandle aplicPhandle : Nat) (enableRiscvIommu : Bool) :
    List FdtAction :=
  List.flatten [
    [.call (.beginNode (text "soc"))],
    propertyU32 (text "#address-cells") 2,
    propertyU32 (text "#size-cells") 2,
    propertyString (text "compatible") (text "simple-bus"),
    [.call (.property (text "ranges") [])],
    addImsic cpuCount imsicPhandle,
    addAplic imsicPhandle aplicPhandle,
    addUart aplicPhandle,
    addPcie imsicPhandle aplicPhandle enableRiscvIommu,
    [.call .endNode]]

/-- `vart_virt_fdt_build` between `vart_fdt_init` and `vart_fdt_finish`. -/
def virtFdtScript (config : VirtFdtConfig) : List FdtAction :=
  let imsicPhandle := config.cpus.length + 1
  let aplicPhandle := imsicPhandle + 1
  List.flatten [
    [.call (.beginNode (text ""))],
    propertyString (text "model") (text "VART RISC-V virtual machine"),
    propertyString (text "compatible") (text "riscv-virtio"),
    propertyU32 (text "#address-cells") 2,
    propertyU32 (text "#size-cells") 2,
    addCpus config,
    addMemory config.ramBase.toNat config.ramSize.toNat,
    addChosen config uartPath,
    addAliases uartPath,
    addSoc config.cpus.length imsicPhandle aplicPhandle config.enableRiscvIommu,
    [.call .endNode]]

/-- `vart_virt_fdt_build`. The result is the blob; `alloc` says which allocations succeed. -/
def virtFdtBuild (config : VirtFdtConfig) (alloc : Nat → Bool) : Except Errno (List UInt8) := do
  validateConfig config
  let fdt ← fdtInit virtFdtStructureCapacity virtFdtStringsCapacity (alloc 0)
  let (fdt, n) ← fdtActions alloc fdt 1 (virtFdtScript config)
  (fdtFinish fdt (alloc n)).2

/-! ## The tree -/

/-- Properties with their names as C strings. -/
def named (properties : List (String × List UInt8)) : List (CString × List UInt8) :=
  properties.map fun p => (text p.1, p.2)

def cpuProperties (cpu : VirtFdtCpu) : List (String × List UInt8) :=
  [("device_type", (text "cpu").terminated),
    ("reg", writeBe32 cpu.hartid.toNat),
    ("status", (text "okay").terminated),
    ("compatible", (text "riscv").terminated),
    ("riscv,isa", cpu.isa.terminated),
    ("riscv,isa-base", cpu.isaBase.terminated),
    ("riscv,isa-extensions", cpu.isaExtensions.flatMap CString.terminated),
    ("mmu-type", cpu.mmuType.terminated)]

def intcProperties (intcPhandle : Nat) : List (String × List UInt8) :=
  [("compatible", (text "riscv,cpu-intc").terminated),
    ("interrupt-controller", []),
    ("#interrupt-cells", writeBe32 1),
    ("phandle", writeBe32 intcPhandle)]

/-- The node of a CPU. -/
def cpuTree (cpu : VirtFdtCpu) (intcPhandle : Nat) : DtForest CString :=
  .single (textHex "cpu@" cpu.hartid.toNat) (named (cpuProperties cpu))
    (.single (text "interrupt-controller") (named (intcProperties intcPhandle)) .nil)

/-- The nodes of the CPUs, the first of them with the index `first`. -/
def cpuTrees (first : Nat) : List VirtFdtCpu → DtForest CString
  | [] => .nil
  | cpu :: cpus => cpuTree cpu (first + 1) ++ cpuTrees (first + 1) cpus

def cpusProperties (config : VirtFdtConfig) : List (String × List UInt8) :=
  [("#address-cells", writeBe32 1),
    ("#size-cells", writeBe32 0),
    ("timebase-frequency", writeBe32 config.timebaseFrequency.toNat)]

def cpusTree (config : VirtFdtConfig) : DtForest CString :=
  .single (text "cpus") (named (cpusProperties config)) (cpuTrees 0 config.cpus)

def memoryProperties (config : VirtFdtConfig) : List (String × List UInt8) :=
  [("device_type", (text "memory").terminated),
    ("reg", (regCells config.ramBase.toNat config.ramSize.toNat).flatMap writeBe32)]

def memoryTree (config : VirtFdtConfig) : DtForest CString :=
  .single (textHex "memory@" config.ramBase.toNat) (named (memoryProperties config)) .nil

/-- The properties of `/chosen` that depend on the boot images. -/
def bootProperties (config : VirtFdtConfig) : List (String × List UInt8) :=
  (match config.bootargs with
    | some bootargs => if bootargs.bytes ≠ [] then [("bootargs", bootargs.terminated)] else []
    | none => []) ++
  (if config.initrdSize ≠ 0 then
    [("linux,initrd-start", writeBe64 config.initrdStart.toNat),
      ("linux,initrd-end", writeBe64 (config.initrdStart + config.initrdSize).toNat)]
    else [])

def chosenProperties (config : VirtFdtConfig) : List (String × List UInt8) :=
  bootProperties config ++ [("stdout-path", uartPath.terminated)]

def chosenTree (config : VirtFdtConfig) : DtForest CString :=
  .single (text "chosen") (named (chosenProperties config)) .nil

def aliasesProperties : List (String × List UInt8) := [("serial0", uartPath.terminated)]

def aliasesTree : DtForest CString := .single (text "aliases") (named aliasesProperties) .nil

def imsicProperties (cpuCount : Nat) : List (String × List UInt8) :=
  [("compatible", [text "qemu,imsics", text "riscv,imsics"].flatMap CString.terminated),
    ("#interrupt-cells", writeBe32 0),
    ("interrupt-controller", []),
    ("msi-controller", []),
    ("#msi-cells", writeBe32 0),
    ("interrupts-extended",
      ((List.range cpuCount).flatMap fun i => [i + 1, riscvIrqSExt]).flatMap writeBe32),
    ("reg", (regCells virtImsicSBase (cpuCount * virtImsicFileSize)).flatMap writeBe32),
    ("riscv,num-ids", writeBe32 virtImsicNumIds),
    ("phandle", writeBe32 (cpuCount + 1))]

def imsicTree (cpuCount : Nat) : DtForest CString :=
  .single (textHex "interrupt-controller@" virtImsicSBase) (named (imsicProperties cpuCount)) .nil

def aplicProperties (cpuCount : Nat) : List (String × List UInt8) :=
  [("compatible", [text "qemu,aplic", text "riscv,aplic"].flatMap CString.terminated),
    ("#address-cells", writeBe32 0),
    ("#interrupt-cells", writeBe32 2),
    ("interrupt-controller", []),
    ("msi-parent", writeBe32 (cpuCount + 1)),
    ("reg", (regCells virtAplicSBase virtAplicSize).flatMap writeBe32),
    ("riscv,num-sources", writeBe32 virtAplicNumSources),
    ("phandle", writeBe32 (cpuCount + 2))]

def aplicTree (cpuCount : Nat) : DtForest CString :=
  .single (textHex "interrupt-controller@" virtAplicSBase) (named (aplicProperties cpuCount)) .nil

def uartProperties (cpuCount : Nat) : List (String × List UInt8) :=
  [("compatible", (text "ns16550a").terminated),
    ("reg", (regCells virtUartBase virtUartSize).flatMap writeBe32),
    ("clock-frequency", writeBe32 virtUartClockHz),
    ("interrupt-parent", writeBe32 (cpuCount + 2)),
    ("interrupts", [virtUartIrq, irqTypeLevelHigh].flatMap writeBe32)]

def uartTree (cpuCount : Nat) : DtForest CString :=
  .single (textHex "serial@" virtUartBase) (named (uartProperties cpuCount)) .nil

def iommuProperties (cpuCount : Nat) : List (String × List UInt8) :=
  [("compatible", (text "riscv,pci-iommu").terminated),
    ("#iommu-cells", writeBe32 1),
    ("reg", [0, 0, 0, 0, 0].flatMap writeBe32),
    ("phandle", writeBe32 (cpuCount + 3))]

def iommuTree (cpuCount : Nat) : DtForest CString :=
  .single (text "iommu@0") (named (iommuProperties cpuCount)) .nil

def pcieProperties (cpuCount : Nat) (enableRiscvIommu : Bool) : List (String × List UInt8) :=
  [("#address-cells", writeBe32 fdtPciAddrCells),
    ("#interrupt-cells", writeBe32 fdtPciIntCells),
    ("#size-cells", writeBe32 2),
    ("compatible", (text "pci-host-ecam-generic").terminated),
    ("device_type", (text "pci").terminated),
    ("linux,pci-domain", writeBe32 0),
    ("bus-range", [0, virtPcieEcamSize / 0x100000 - 1].flatMap writeBe32),
    ("dma-coherent", []),
    ("msi-parent", writeBe32 (cpuCount + 1)),
    ("reg", (regCells virtPcieEcamBase virtPcieEcamSize).flatMap writeBe32),
    ("ranges", [fdtPciRangeIoport, 0, 0, 0, virtPciePioBase, 0, virtPciePioSize,
      fdtPciRangeMmio, 0, virtPcieMmioBase, 0, virtPcieMmioBase, 0,
      virtPcieMmioSize].flatMap writeBe32),
    ("interrupt-map", (interruptMap (cpuCount + 2)).flatMap writeBe32),
    ("interrupt-map-mask", [0x1800, 0, 0, 0x7].flatMap writeBe32)] ++
  if enableRiscvIommu then
    [("iommu-map", [0, cpuCount + 3, 0, 0x10000].flatMap writeBe32)] else []

def pcieTree (cpuCount : Nat) (enableRiscvIommu : Bool) : DtForest CString :=
  .single (textHex "pci@" virtPcieEcamBase) (named (pcieProperties cpuCount enableRiscvIommu))
    (if enableRiscvIommu then iommuTree cpuCount else .nil)

def socProperties : List (String × List UInt8) :=
  [("#address-cells", writeBe32 2),
    ("#size-cells", writeBe32 2),
    ("compatible", (text "simple-bus").terminated),
    ("ranges", [])]

def socTree (cpuCount : Nat) (enableRiscvIommu : Bool) : DtForest CString :=
  .single (text "soc") (named socProperties)
    (imsicTree cpuCount ++ (aplicTree cpuCount ++
      (uartTree cpuCount ++ pcieTree cpuCount enableRiscvIommu)))

def virtRootProperties : List (String × List UInt8) :=
  [("model", (text "VART RISC-V virtual machine").terminated),
    ("compatible", (text "riscv-virtio").terminated),
    ("#address-cells", writeBe32 2),
    ("#size-cells", writeBe32 2)]

def virtChildren (config : VirtFdtConfig) : DtForest CString :=
  cpusTree config ++ (memoryTree config ++ (chosenTree config ++ (aliasesTree ++
    socTree config.cpus.length config.enableRiscvIommu)))

/-- The tree of a machine. -/
def virtTree (config : VirtFdtConfig) : DtForest CString :=
  .single (text "") (named virtRootProperties) (virtChildren config)

/-! ## The script makes the calls for the tree -/

@[simp] theorem forestOps_append (f g : DtForest CString) :
    forestOps (f ++ g) = forestOps f ++ forestOps g := by
  induction f with
  | nil => rfl
  | node name properties children siblings _ ih => simp [forestOps, ih]

@[simp] theorem actionOps_addStringList (name : CString) (values : List CString) :
    actionOps (addStringList name values) =
      [.property name (values.flatMap CString.terminated)] := rfl

theorem addCpu_ops (cpu : VirtFdtCpu) (phandle : Nat) :
    actionOps (addCpu cpu phandle) = forestOps (cpuTree cpu phandle) := rfl

theorem addCpus_ops (config : VirtFdtConfig) :
    actionOps (addCpus config) = forestOps (cpusTree config) := by
  have hcpus : ∀ (cpus : List VirtFdtCpu) (first : Nat),
      actionOps ((cpus.zipIdx first).flatMap fun (cpu, i) => addCpu cpu (i + 1)) =
        forestOps (cpuTrees first cpus) := by
    intro cpus
    induction cpus with
    | nil => exact fun _ => rfl
    | cons cpu cpus ih =>
      intro first
      simp [cpuTrees, List.zipIdx_cons, addCpu_ops, ih]
  simp [addCpus, cpusTree, cpusProperties, named, DtForest.single, forestOps, hcpus]

theorem addMemory_ops (config : VirtFdtConfig) :
    actionOps (addMemory config.ramBase.toNat config.ramSize.toNat) =
      forestOps (memoryTree config) := rfl

theorem addChosen_ops (config : VirtFdtConfig) :
    actionOps (addChosen config uartPath) = forestOps (chosenTree config) := by
  unfold addChosen chosenTree chosenProperties bootProperties named
  cases config.bootargs with
  | none => by_cases hinitrd : config.initrdSize = 0 <;> simp [hinitrd, forestOps, DtForest.single]
  | some bootargs =>
    by_cases hinitrd : config.initrdSize = 0 <;> by_cases hargs : bootargs.bytes = [] <;>
      simp [hinitrd, hargs, forestOps, DtForest.single]

theorem addImsic_ops (cpuCount : Nat) :
    actionOps (addImsic cpuCount (cpuCount + 1)) = forestOps (imsicTree cpuCount) := by
  simp [addImsic, imsicTree, imsicProperties, named, forestOps, DtForest.single]

theorem addPcie_ops (cpuCount : Nat) (enableRiscvIommu : Bool) :
    actionOps (addPcie (cpuCount + 1) (cpuCount + 2) enableRiscvIommu) =
      forestOps (pcieTree cpuCount enableRiscvIommu) := by
  cases enableRiscvIommu <;> rfl

theorem addSoc_ops (cpuCount : Nat) (enableRiscvIommu : Bool) :
    actionOps (addSoc cpuCount (cpuCount + 1) (cpuCount + 2) enableRiscvIommu) =
      forestOps (socTree cpuCount enableRiscvIommu) := by
  have haplic : actionOps (addAplic (cpuCount + 1) (cpuCount + 2)) =
      forestOps (aplicTree cpuCount) := rfl
  have huart : actionOps (addUart (cpuCount + 2)) = forestOps (uartTree cpuCount) := rfl
  simp [addSoc, socTree, socProperties, named, forestOps, DtForest.single, addImsic_ops, haplic,
    huart, addPcie_ops]

theorem virtFdtScript_ops (config : VirtFdtConfig) :
    actionOps (virtFdtScript config) = forestOps (virtTree config) := by
  have haliases : actionOps (addAliases uartPath) = forestOps aliasesTree := rfl
  simp [virtFdtScript, virtTree, virtChildren, virtRootProperties, named, forestOps,
    DtForest.single, addCpus_ops, addMemory_ops, addChosen_ops, haliases, addSoc_ops]

end Vart
