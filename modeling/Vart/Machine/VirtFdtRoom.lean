import Vart.Machine.VirtFdt

/-!
# Room for the devicetree of the virt machine

`vart_virt_fdt_build` has 16384 bytes for the structure block and 2048 for the names of properties.
The names are always the same and fit, but each CPU takes at least 264 bytes of the structure block.

* `virtStructureSize`: the size of the structure block.
* `fdt_fits_iff`: the build does not fail with `-ENOSPC` exactly if that is at most 16384.
* `fdt_full`: it fails for 56 CPUs and more, whatever their strings are, and `fdt_room`: it never
  does for 26 CPUs and less.
-/

namespace Vart

open Lib

/-! ## Literals -/

/-- The sizes of the strings in the tree. -/
theorem literal_sizes :
    namesSize [text "qemu,imsics", text "riscv,imsics"] = 25 ∧
    namesSize [text "qemu,aplic", text "riscv,aplic"] = 23 ∧
    (text "").size = 1 ∧ (text "cpu").size = 4 ∧ (text "pci").size = 4 ∧ (text "soc").size = 4 ∧
    (text "cpu@").size = 5 ∧ (text "cpus").size = 5 ∧ (text "okay").size = 5 ∧
    (text "riscv").size = 6 ∧ (text "chosen").size = 7 ∧ (text "memory").size = 7 ∧
    (text "memory@").size = 8 ∧ (text "aliases").size = 8 ∧ (text "iommu@0").size = 8 ∧
    (text "ns16550a").size = 9 ∧ (text "simple-bus").size = 11 ∧ (text "riscv-virtio").size = 13 ∧
    (text "riscv,cpu-intc").size = 15 ∧ (text "riscv,pci-iommu").size = 16 ∧
    (text "interrupt-controller").size = 21 ∧ (text "pci-host-ecam-generic").size = 22 ∧
    (text "VART RISC-V virtual machine").size = 28 ∧ uartPath.size = 21 ∧
    (textHex "pci@" virtPcieEcamBase).size = 13 ∧ (textHex "serial@" virtUartBase).size = 16 ∧
    (textHex "interrupt-controller@" virtAplicSBase).size = 29 ∧
    (textHex "interrupt-controller@" virtImsicSBase).size = 30 ∧
    (text "qemu,imsics").size = 12 ∧ (text "riscv,imsics").size = 13 ∧
    (text "qemu,aplic").size = 11 ∧ (text "riscv,aplic").size = 12 ∧ (text "rv64i").size = 6 ∧
    (text "i").size = 2 ∧ (text "riscv,sv39").size = 11 := by
  decide +kernel

/-- The names of nodes, up to a number. -/
abbrev nodeNames : List String :=
  ["cpu@", "interrupt-controller", "interrupt-controller@", "pci@", "iommu@0", "serial@", "soc",
    "cpus", "memory@", "chosen", "aliases"]

theorem nodeNames_valid : ∀ s ∈ nodeNames, (text s).bytes ≠ [] ∧ slash ∉ (text s).bytes ∧
    (text s).size ≤ 64 := by
  decide +kernel

/-! ## Checks -/

/-- No check of the script fails. -/
def ChecksPass (actions : List FdtAction) : Prop :=
  ∀ status, .require status ∈ actions → status = .ok ()

section Checks

variable (name : CString)

@[simp] theorem checksPass_nil : ChecksPass [] := by simp [ChecksPass]

@[simp] theorem checksPass_call (op : FdtOp) (actions : List FdtAction) :
    ChecksPass (.call op :: actions) ↔ ChecksPass actions := by simp [ChecksPass]

@[simp] theorem checksPass_allocate (actions : List FdtAction) :
    ChecksPass (.allocate :: actions) ↔ ChecksPass actions := by simp [ChecksPass]

@[simp] theorem checksPass_append (actions more : List FdtAction) :
    ChecksPass (actions ++ more) ↔ ChecksPass actions ∧ ChecksPass more := by
  simp only [ChecksPass, List.mem_append]
  exact ⟨fun h => ⟨fun s hs => h s (.inl hs), fun s hs => h s (.inr hs)⟩,
    fun h s hs => hs.elim (h.1 s) (h.2 s)⟩

@[simp] theorem checksPass_propertyString (value : CString) :
    ChecksPass (propertyString name value) := by simp [propertyString]

@[simp] theorem checksPass_propertyU32 (value : Nat) : ChecksPass (propertyU32 name value) := by
  simp [propertyU32]

@[simp] theorem checksPass_propertyU64 (value : Nat) : ChecksPass (propertyU64 name value) := by
  simp [propertyU64]

@[simp] theorem checksPass_propertyCells (cells : List Nat) :
    ChecksPass (propertyCells name cells) ↔ cells.length ≤ uint32Max / 4 := by
  unfold propertyCells ChecksPass
  split <;> split <;> simp <;> omega

theorem stringListSize_ok {values : List CString} {size : Nat}
    (h : size + namesSize values ≤ uint32Max) :
    stringListSize size values = .ok (size + namesSize values) := by
  induction values generalizing size with
  | nil => rfl
  | cons value values ih =>
    have hsize : namesSize (value :: values) = value.size + namesSize values := by
      simp [namesSize]
    rw [stringListSize, if_neg (by omega), ih (by omega), hsize, Nat.add_assoc]

theorem checksPass_addStringList {values : List CString} (h : namesSize values ≤ uint32Max) :
    ChecksPass (addStringList name values) := by
  intro status hmem
  have hsize := @stringListSize_ok values 0 (by omega)
  simpa [addStringList, hsize, Except.map] using hmem

end Checks

/-- The ISA, ISA-base and MMU strings and the extension lists take at most 64 bytes, and the boot
arguments at most 1 KiB. -/
structure VirtFdtConfig.Short (config : VirtFdtConfig) : Prop where
  isa : ∀ cpu ∈ config.cpus, cpu.isa.size ≤ 64
  isaBase : ∀ cpu ∈ config.cpus, cpu.isaBase.size ≤ 64
  isaExtensions : ∀ cpu ∈ config.cpus, namesSize cpu.isaExtensions ≤ 64
  mmuType : ∀ cpu ∈ config.cpus, cpu.mmuType.size ≤ 64
  bootargs : ∀ bootargs, config.bootargs = some bootargs → bootargs.size ≤ 1024

variable {config : VirtFdtConfig}

theorem addCpu_checksPass {cpu : VirtFdtCpu} (h : namesSize cpu.isaExtensions ≤ uint32Max)
    (phandle : Nat) : ChecksPass (addCpu cpu phandle) := by
  simp [addCpu, checksPass_addStringList _ h]

theorem virtFdtScript_checksPass (hvalid : config.Valid) (hshort : config.Short) :
    ChecksPass (virtFdtScript config) := by
  have hmax : uint32Max = 2 ^ 32 - 1 := rfl
  have hmany : config.cpus.length * 2 ≤ uint32Max / 4 := by
    have hle : config.cpus.length ≤ 512 := hvalid.cpusMax
    omega
  have hcpus : ChecksPass (config.cpus.zipIdx.flatMap fun x => addCpu x.1 (x.2 + 1)) := by
    intro status hmem
    obtain ⟨⟨cpu, i⟩, hcpu, hstatus⟩ := List.mem_flatMap.mp hmem
    have hsize := hshort.isaExtensions cpu (List.fst_mem_of_mem_zipIdx hcpu)
    exact addCpu_checksPass (Nat.le_trans hsize (by decide)) (i + 1) status hstatus
  have himsic := checksPass_addStringList (text "compatible")
    (show namesSize [text "qemu,imsics", text "riscv,imsics"] ≤ uint32Max by
      rw [literal_sizes.1]; decide)
  have haplic := checksPass_addStringList (text "compatible")
    (show namesSize [text "qemu,aplic", text "riscv,aplic"] ≤ uint32Max by
      rw [literal_sizes.2.1]; decide)
  have hchosen : ChecksPass (addChosen config uartPath) := by
    unfold addChosen
    cases config.bootargs with
    | none => by_cases hinitrd : config.initrdSize = 0 <;> simp [hinitrd]
    | some bootargs =>
      by_cases hinitrd : config.initrdSize = 0 <;> by_cases hargs : bootargs.bytes = [] <;>
        simp [hinitrd, hargs]
  have hpcie : ∀ imsic aplic, ChecksPass (addPcie imsic aplic config.enableRiscvIommu) := by
    intro imsic aplic
    cases config.enableRiscvIommu <;> simp [addPcie, interruptMap, regCells, hmax]
  rw [hmax] at hmany
  simp [virtFdtScript, addCpus, hcpus, addMemory, regCells, hchosen, addAliases, addSoc, addImsic,
    himsic, addAplic, haplic, addUart, hpcie, hmax]
  omega

/-! ## Names -/

/-- The names of all properties. -/
abbrev propertyNames : List String :=
  ["model", "compatible", "#address-cells", "#size-cells", "timebase-frequency", "device_type",
    "reg", "status", "riscv,isa", "riscv,isa-base", "riscv,isa-extensions", "mmu-type",
    "interrupt-controller", "#interrupt-cells", "phandle", "bootargs", "linux,initrd-start",
    "linux,initrd-end", "stdout-path", "serial0", "ranges", "msi-controller", "#msi-cells",
    "interrupts-extended", "riscv,num-ids", "msi-parent", "riscv,num-sources", "clock-frequency",
    "interrupt-parent", "interrupts", "linux,pci-domain", "bus-range", "dma-coherent",
    "interrupt-map", "interrupt-map-mask", "iommu-map", "#iommu-cells"]

/-- The names are among those. -/
def Known (properties : List (String × List UInt8)) : Prop :=
  ∀ p ∈ properties, p.1 ∈ propertyNames

section Known

variable (config : VirtFdtConfig) (cpuCount : Nat)

theorem cpuProperties_known (cpu : VirtFdtCpu) : Known (cpuProperties cpu) := by
  simp [Known, cpuProperties]

theorem intcProperties_known (phandle : Nat) : Known (intcProperties phandle) := by
  simp [Known, intcProperties]

theorem cpusProperties_known : Known (cpusProperties config) := by
  simp [Known, cpusProperties]

theorem memoryProperties_known : Known (memoryProperties config) := by
  simp [Known, memoryProperties]

theorem chosenProperties_known : Known (chosenProperties config) := by
  unfold Known chosenProperties bootProperties
  cases config.bootargs with
  | none => by_cases hinitrd : config.initrdSize = 0 <;> simp [hinitrd]
  | some bootargs =>
    by_cases hinitrd : config.initrdSize = 0 <;> by_cases hempty : bootargs.bytes = [] <;>
      simp [hinitrd, hempty]

theorem aliasesProperties_known : Known aliasesProperties := by simp [Known, aliasesProperties]

theorem imsicProperties_known : Known (imsicProperties cpuCount) := by
  simp [Known, imsicProperties]

theorem aplicProperties_known : Known (aplicProperties cpuCount) := by
  simp [Known, aplicProperties]

theorem uartProperties_known : Known (uartProperties cpuCount) := by
  simp [Known, uartProperties]

theorem iommuProperties_known : Known (iommuProperties cpuCount) := by
  simp [Known, iommuProperties]

theorem pcieProperties_known (enableRiscvIommu : Bool) :
    Known (pcieProperties cpuCount enableRiscvIommu) := by
  cases enableRiscvIommu <;> simp [Known, pcieProperties]

theorem socProperties_known : Known socProperties := by simp [Known, socProperties]

theorem virtRootProperties_known : Known virtRootProperties := by simp [Known, virtRootProperties]

end Known

/-- The names as they are in the strings block. -/
def virtNames : List CString := propertyNames.map text

theorem virtNames_fit : namesSize virtNames ≤ virtFdtStringsCapacity := by decide +kernel

theorem virtNames_nonempty : ∀ name ∈ virtNames, name.bytes ≠ [] := by decide +kernel

theorem propertiesValid_of {properties : List (String × List UInt8)} (hknown : Known properties)
    (hdata : ∀ p ∈ properties, p.2.length ≤ uint32Max) :
    PropertiesValid virtNames (named properties) := by
  intro p hp
  obtain ⟨q, hq, rfl⟩ := List.mem_map.mp hp
  have hname : text q.1 ∈ virtNames := List.mem_map_of_mem (hknown q hq)
  exact ⟨hname, virtNames_nonempty _ hname, hdata q hq⟩

/-- Properties whose values have at most 1 KiB. -/
theorem propertiesValid_of_small {properties : List (String × List UInt8)}
    (hknown : Known properties) (hdata : ∀ p ∈ properties, p.2.length ≤ 1024) :
    PropertiesValid virtNames (named properties) :=
  propertiesValid_of hknown fun p hp => Nat.le_trans (hdata p hp) (by decide)

@[simp] theorem length_writeBe32 (value : Nat) : (writeBe32 value).length = 4 := rfl

@[simp] theorem length_writeBe64 (value : Nat) : (writeBe64 value).length = 8 := rfl

@[simp] theorem length_cells (cells : List Nat) :
    (cells.flatMap writeBe32).length = 4 * cells.length := by
  induction cells with
  | nil => rfl
  | cons cell cells ih =>
    rw [List.flatMap_cons, List.length_append, ih, length_writeBe32, List.length_cons]
    omega

theorem text_name {s : String} (hs : s ∈ nodeNames) :
    (text s).bytes ≠ [] ∧ slash ∉ (text s).bytes ∧ (text s).size ≤ 2 ^ 32 := by
  obtain ⟨hne, hslash, hsize⟩ := nodeNames_valid s hs
  exact ⟨hne, hslash, by omega⟩

theorem textHex_name {s : String} (hs : s ∈ nodeNames) {n : Nat} (hn : n < 16 ^ 16) :
    (textHex s n).bytes ≠ [] ∧ slash ∉ (textHex s n).bytes ∧ (textHex s n).size ≤ 2 ^ 32 := by
  obtain ⟨hne, hslash, hsize⟩ := nodeNames_valid s hs
  refine ⟨by simp [textHex, hne], ?_, ?_⟩
  · intro hmem
    rcases List.mem_append.mp hmem with hmem | hmem
    · exact hslash hmem
    · exact absurd (hexDigits_safe n slash hmem) (by decide)
  · have hlen := (length_hexDigits_le (by decide)).mpr hn
    have hcat : (textHex s n).size = (text s).size + (hexDigits n).length := by
      simp only [CString.size, textHex, List.length_append]
      omega
    omega

theorem cpuTree_valid {cpu : VirtFdtCpu} (phandle : Nat) (hisa : cpu.isa.size ≤ 64)
    (hbase : cpu.isaBase.size ≤ 64) (hexts : namesSize cpu.isaExtensions ≤ 64)
    (hmmu : cpu.mmuType.size ≤ 64) : ForestValid virtNames (cpuTree cpu phandle) := by
  have hhart := cpu.hartid.toNat_lt
  refine ⟨textHex_name (by simp) (by omega),
    propertiesValid_of_small (cpuProperties_known cpu) ?_,
    ⟨text_name (by simp), propertiesValid_of_small (intcProperties_known phandle) ?_, trivial,
      trivial⟩, trivial⟩
  · have hlist : (cpu.isaExtensions.map fun extension => extension.size).sum ≤ 64 := hexts
    simp [literal_sizes, cpuProperties]
    omega
  · simp [literal_sizes, intcProperties, literal_sizes]

theorem cpuTrees_valid {cpus : List VirtFdtCpu} (hisa : ∀ cpu ∈ cpus, cpu.isa.size ≤ 64)
    (hbase : ∀ cpu ∈ cpus, cpu.isaBase.size ≤ 64)
    (hexts : ∀ cpu ∈ cpus, namesSize cpu.isaExtensions ≤ 64)
    (hmmu : ∀ cpu ∈ cpus, cpu.mmuType.size ≤ 64) (first : Nat) :
    ForestValid virtNames (cpuTrees first cpus) := by
  induction cpus generalizing first with
  | nil => trivial
  | cons cpu cpus ih =>
    rw [List.forall_mem_cons] at hisa hbase hexts hmmu
    obtain ⟨hname, hproperties, hchildren, -⟩ :=
      cpuTree_valid (first + 1) hisa.1 hbase.1 hexts.1 hmmu.1
    exact ⟨hname, hproperties, hchildren, ih hisa.2 hbase.2 hexts.2 hmmu.2 (first + 1)⟩

theorem chosenProperties_valid (hshort : config.Short) :
    PropertiesValid virtNames (named (chosenProperties config)) := by
  have hargs := hshort.bootargs
  refine propertiesValid_of_small (chosenProperties_known config) ?_
  unfold chosenProperties bootProperties
  cases hb : config.bootargs with
  | none => by_cases hinitrd : config.initrdSize = 0 <;> simp [hinitrd, literal_sizes]
  | some bootargs =>
    have hsize := hargs bootargs hb
    by_cases hinitrd : config.initrdSize = 0 <;> by_cases hempty : bootargs.bytes = [] <;>
      simp [hinitrd, hempty, literal_sizes] <;> omega

theorem forestValid_append {all : List CString} (f g : DtForest CString) :
    ForestValid all (f ++ g) ↔ ForestValid all f ∧ ForestValid all g := by
  induction f with
  | nil => simp [ForestValid]
  | node name properties children siblings _ ih =>
    simp only [DtForest.node_append, ForestValid, ih, and_assoc]

theorem pcieTree_valid (cpuCount : Nat) (enableRiscvIommu : Bool) :
    ForestValid virtNames (pcieTree cpuCount enableRiscvIommu) := by
  refine ⟨textHex_name (by simp) (by decide),
    propertiesValid_of_small (pcieProperties_known cpuCount enableRiscvIommu) ?_, ?_, trivial⟩
  · cases enableRiscvIommu <;> simp [literal_sizes, pcieProperties, regCells, interruptMap]
  · cases enableRiscvIommu
    · trivial
    · refine ⟨text_name (by simp), propertiesValid_of_small (iommuProperties_known cpuCount) ?_,
        trivial, trivial⟩
      simp [literal_sizes, iommuProperties]

theorem socTree_valid {cpuCount : Nat} (hcpus : cpuCount ≤ virtMaxCpus)
    (enableRiscvIommu : Bool) : ForestValid virtNames (socTree cpuCount enableRiscvIommu) := by
  have hcpus' : cpuCount ≤ 512 := hcpus
  have hmax : uint32Max = 2 ^ 32 - 1 := rfl
  have himsic : ForestValid virtNames (imsicTree cpuCount) := by
    refine ⟨textHex_name (by simp) (by decide),
      propertiesValid_of (imsicProperties_known cpuCount) ?_, trivial, trivial⟩
    simp [literal_sizes, imsicProperties, regCells]
    omega
  have haplic : ForestValid virtNames (aplicTree cpuCount) := by
    refine ⟨textHex_name (by simp) (by decide),
      propertiesValid_of_small (aplicProperties_known cpuCount) ?_, trivial, trivial⟩
    simp [literal_sizes, aplicProperties, regCells]
  have huart : ForestValid virtNames (uartTree cpuCount) := by
    refine ⟨textHex_name (by simp) (by decide),
      propertiesValid_of_small (uartProperties_known cpuCount) ?_, trivial, trivial⟩
    simp [literal_sizes, uartProperties, regCells]
  refine ⟨text_name (by simp), propertiesValid_of_small socProperties_known ?_, ?_, trivial⟩
  · simp [literal_sizes, socProperties]
  · simp only [forestValid_append]
    exact ⟨himsic, haplic, huart, pcieTree_valid cpuCount enableRiscvIommu⟩

theorem virtChildren_valid (hvalid : config.Valid) (hshort : config.Short) :
    ForestValid virtNames (virtChildren config) := by
  have hram := config.ramBase.toNat_lt
  simp only [virtChildren, forestValid_append]
  refine ⟨⟨text_name (by simp), propertiesValid_of_small (cpusProperties_known config) ?_,
    cpuTrees_valid hshort.isa hshort.isaBase hshort.isaExtensions hshort.mmuType 0, trivial⟩,
    ⟨textHex_name (by simp) (by omega),
      propertiesValid_of_small (memoryProperties_known config) ?_, trivial, trivial⟩,
    ⟨text_name (by simp), chosenProperties_valid hshort, trivial, trivial⟩,
    ⟨text_name (by simp), propertiesValid_of_small aliasesProperties_known ?_, trivial, trivial⟩,
    socTree_valid hvalid.cpusMax _⟩
  · simp [cpusProperties]
  · simp [literal_sizes, memoryProperties, regCells]
  · simp [literal_sizes, aliasesProperties]

/-! ## Sizes -/

/-- What a CPU takes of the structure block: its node, and a pair in `interrupts-extended`. -/
def virtCpuSize (cpu : VirtFdtCpu) : Nat :=
  188 + padded (9 + (hexDigits cpu.hartid.toNat).length) + padded (12 + cpu.isa.size) +
    padded (12 + cpu.isaBase.size) + padded (12 + namesSize cpu.isaExtensions) +
    padded (12 + cpu.mmuType.size)

/-- What the boot arguments take. -/
def bootargsSize : Option CString → Nat
  | some bootargs => if bootargs.bytes = [] then 0 else padded (12 + bootargs.size)
  | none => 0

/-- The size of the structure block. -/
def virtStructureSize (config : VirtFdtConfig) : Nat :=
  1720 + (config.cpus.map virtCpuSize).sum +
    padded (12 + (hexDigits config.ramBase.toNat).length) + bootargsSize config.bootargs +
    (if config.initrdSize = 0 then 0 else 40) + if config.enableRiscvIommu then 136 else 0

theorem textHex_size (s : String) (n : Nat) :
    (textHex s n).size = (text s).size + (hexDigits n).length := by
  simp only [CString.size, textHex, List.length_append]
  omega

theorem opsCost_cpuTree (cpu : VirtFdtCpu) (phandle : Nat) :
    opsCost (forestOps (cpuTree cpu phandle)) + 8 = virtCpuSize cpu := by
  simp only [cpuTree, cpuProperties, intcProperties, named, DtForest.single, forestOps, List.map_cons, List.map_nil, List.cons_append,
    List.nil_append, opsCost_cons, opsCost_nil, FdtOp.cost, CString.length_terminated,
    length_writeBe32, length_flatMap_terminated, List.length_nil, textHex_size, virtCpuSize, literal_sizes, padded]
  omega

theorem opsCost_cpuTrees (cpus : List VirtFdtCpu) (first : Nat) :
    opsCost (forestOps (cpuTrees first cpus)) + 8 * cpus.length =
      (cpus.map virtCpuSize).sum := by
  induction cpus generalizing first with
  | nil => rfl
  | cons cpu cpus ih =>
    have hcpu := opsCost_cpuTree cpu (first + 1)
    have hcpus := ih (first + 1)
    rw [cpuTrees, forestOps_append, opsCost_append, List.length_cons, List.map_cons, List.sum_cons]
    omega

theorem opsCost_chosenTree (config : VirtFdtConfig) : opsCost (forestOps (chosenTree config)) =
    52 + bootargsSize config.bootargs + if config.initrdSize = 0 then 0 else 40 := by
  unfold chosenTree chosenProperties bootProperties bootargsSize named
  cases config.bootargs with
  | none =>
    by_cases hinitrd : config.initrdSize = 0 <;>
      simp [hinitrd, forestOps, DtForest.single, FdtOp.cost, literal_sizes, padded]
  | some bootargs =>
    by_cases hinitrd : config.initrdSize = 0 <;> by_cases hargs : bootargs.bytes = [] <;>
      simp [hinitrd, hargs, forestOps, DtForest.single, FdtOp.cost, literal_sizes, padded] <;>
      omega

theorem opsCost_imsicTree (cpuCount : Nat) :
    opsCost (forestOps (imsicTree cpuCount)) = 208 + 8 * cpuCount := by
  have hpairs : ((List.range cpuCount).flatMap fun i => [i + 1, riscvIrqSExt]).length =
      cpuCount * 2 := by simp
  simp only [imsicTree, imsicProperties, named, DtForest.single, forestOps, List.map_cons, List.map_nil, List.cons_append,
    List.nil_append, opsCost_cons, opsCost_nil, FdtOp.cost, length_writeBe32, length_cells,
    length_flatMap_terminated, List.length_nil, List.length_cons, regCells, hpairs, literal_sizes, padded]
  omega

theorem opsCost_pcieTree (cpuCount : Nat) (enableRiscvIommu : Bool) :
    opsCost (forestOps (pcieTree cpuCount enableRiscvIommu)) =
      772 + if enableRiscvIommu then 136 else 0 := by
  have hmap : (interruptMap (cpuCount + 2)).length = 112 := by simp [interruptMap]
  cases enableRiscvIommu <;>
    simp [pcieTree, pcieProperties, iommuTree, iommuProperties, named, DtForest.single, forestOps, FdtOp.cost, regCells, hmap, literal_sizes, padded]

theorem opsCost_socTree (cpuCount : Nat) (enableRiscvIommu : Bool) :
    opsCost (forestOps (socTree cpuCount enableRiscvIommu)) =
      1384 + 8 * cpuCount + if enableRiscvIommu then 136 else 0 := by
  have haplic : opsCost (forestOps (aplicTree cpuCount)) = 196 := by
    simp only [aplicTree, aplicProperties, named, DtForest.single, forestOps, List.map_cons, List.map_nil,
      List.cons_append, List.nil_append, opsCost_cons, opsCost_nil, FdtOp.cost, length_writeBe32,
      length_cells, length_flatMap_terminated, List.length_nil, List.length_cons, regCells, literal_sizes, padded]
  have huart : opsCost (forestOps (uartTree cpuCount)) = 128 := by
    simp [uartTree, uartProperties, named, DtForest.single, forestOps, FdtOp.cost, regCells, literal_sizes, padded]
  simp [socTree, socProperties, named, DtForest.single, forestOps, FdtOp.cost, opsCost_imsicTree, haplic, huart,
    opsCost_pcieTree, literal_sizes, padded]
  omega

theorem opsCost_virtTree (config : VirtFdtConfig) :
    opsCost (forestOps (virtTree config)) + 4 = virtStructureSize config := by
  have hcpus := opsCost_cpuTrees config.cpus 0
  simp only [virtTree, virtChildren, virtRootProperties, cpusTree, cpusProperties, memoryTree,
    memoryProperties, aliasesTree, aliasesProperties, named,
    forestOps_append, opsCost_append, opsCost_chosenTree, opsCost_socTree, DtForest.single,
    forestOps, List.map_cons, List.map_nil, List.cons_append, List.nil_append, opsCost_cons,
    opsCost_nil, FdtOp.cost, CString.length_terminated, length_writeBe32, length_cells,
    List.length_cons, List.length_nil, regCells, textHex_size, virtStructureSize, literal_sizes, padded]
  omega

/-! ## The build -/

/-- With memory for everything, the build is that of the tree. -/
theorem virtFdtBuild_eq (hvalid : config.Valid) (hshort : config.Short) :
    ∃ fdt, fdtInit virtFdtStructureCapacity virtFdtStringsCapacity true = .ok fdt ∧
      virtFdtBuild config (fun _ => true) = fdtBuild fdt (forestOps (virtTree config)) true := by
  obtain ⟨fdt, hinit⟩ :
      ∃ fdt, fdtInit virtFdtStructureCapacity virtFdtStringsCapacity true = .ok fdt := ⟨_, rfl⟩
  refine ⟨fdt, hinit, ?_⟩
  have hcalls := @fdtActions_eq fdt _ (virtFdtScript_checksPass hvalid hshort) 1
  rw [virtFdtScript_ops] at hcalls
  rw [virtFdtBuild, (validateConfig_ok_iff config).mpr hvalid, hinit, fdtBuild, ← hcalls]
  dsimp only [bind, Except.bind]
  cases fdtActions (fun _ => true) fdt 1 (virtFdtScript config) <;> rfl

theorem virtFdtBuild_result (hvalid : config.Valid) (hshort : config.Short) :
    (virtStructureSize config ≤ virtFdtStructureCapacity →
      ∃ blob, virtFdtBuild config (fun _ => true) = .ok blob) ∧
    (virtFdtStructureCapacity < virtStructureSize config →
      virtFdtBuild config (fun _ => true) = .error .enospc) := by
  obtain ⟨fdt, hinit, hbuild⟩ := virtFdtBuild_eq hvalid hshort
  have hroot : PropertiesValid virtNames (named virtRootProperties) := by
    refine propertiesValid_of_small virtRootProperties_known ?_
    simp [virtRootProperties, literal_sizes]
  rw [hbuild, ← opsCost_virtTree]
  exact fdtBuild_result hinit (by decide) (by decide) virtNames_fit hroot
    (virtChildren_valid hvalid hshort) rfl

/-- The tree does not fail to fit exactly if the structure block has room for it. -/
theorem fdt_fits_iff (hvalid : validateConfig config = .ok ()) (hshort : config.Short) :
    virtFdtBuild config (fun _ => true) ≠ .error .enospc ↔
      virtStructureSize config ≤ virtFdtStructureCapacity := by
  rw [validateConfig_ok_iff] at hvalid
  obtain ⟨hroom, hfull⟩ := virtFdtBuild_result hvalid hshort
  constructor
  · intro hne
    by_contra hsize
    exact hne (hfull (by omega))
  · intro hsize
    obtain ⟨blob, hok⟩ := hroom hsize
    rw [hok]
    exact fun h => nomatch h

theorem CString.two_le_size {c : CString} (h : c.bytes ≠ []) : 2 ≤ c.size :=
  Nat.succ_le_succ (List.length_pos_iff.mpr h)

theorem virtCpuSize_ge {cpu : VirtFdtCpu} (hisa : cpu.isa.bytes ≠ [])
    (hbase : cpu.isaBase.bytes ≠ []) (hmmu : cpu.mmuType.bytes ≠ [])
    (hexts : cpu.isaExtensions ≠ []) (hext : ∀ extension ∈ cpu.isaExtensions,
      extension.bytes ≠ []) : 264 ≤ virtCpuSize cpu := by
  have h₁ := CString.two_le_size hisa
  have h₂ := CString.two_le_size hbase
  have h₃ := CString.two_le_size hmmu
  have h₄ := length_hexDigits_pos cpu.hartid.toNat
  have h₅ : 2 ≤ namesSize cpu.isaExtensions := by
    obtain ⟨extension, rest, hcons⟩ := List.exists_cons_of_ne_nil hexts
    rw [hcons] at hext ⊢
    have := CString.two_le_size (hext extension List.mem_cons_self)
    simp only [namesSize, List.map_cons, List.sum_cons]
    omega
  simp only [virtCpuSize, padded]
  omega

/-- 56 CPUs and more never fit. -/
theorem fdt_full (hvalid : config.Valid) (hshort : config.Short) (hcpus : 56 ≤ config.cpus.length) :
    virtFdtBuild config (fun _ => true) = .error .enospc := by
  refine (virtFdtBuild_result hvalid hshort).2 ?_
  have hsum : config.cpus.length * 264 ≤ (config.cpus.map virtCpuSize).sum := by
    rw [← List.length_map virtCpuSize]
    refine List.card_nsmul_le_sum _ 264 fun size hmem => ?_
    obtain ⟨cpu, hcpu, rfl⟩ := List.mem_map.mp hmem
    obtain ⟨hisa, hbase, hexts, hmmu, hext⟩ := hvalid.strings cpu hcpu
    exact virtCpuSize_ge hisa hbase hmmu hexts hext
  rw [virtStructureSize]
  have hcap : virtFdtStructureCapacity = 16384 := rfl
  omega

/-- 26 CPUs always fit. -/
theorem fdt_room (hvalid : config.Valid) (hshort : config.Short) (hcpus : config.cpus.length ≤ 26) :
    ∃ blob, virtFdtBuild config (fun _ => true) = .ok blob := by
  refine (virtFdtBuild_result hvalid hshort).1 ?_
  have hsum : (config.cpus.map virtCpuSize).sum ≤ config.cpus.length * 512 := by
    rw [← List.length_map virtCpuSize]
    refine List.sum_le_card_nsmul _ 512 fun size hmem => ?_
    obtain ⟨cpu, hcpu, rfl⟩ := List.mem_map.mp hmem
    have h₁ := hshort.isa cpu hcpu
    have h₂ := hshort.isaBase cpu hcpu
    have h₃ := hshort.isaExtensions cpu hcpu
    have h₄ := hshort.mmuType cpu hcpu
    have h₅ : (hexDigits cpu.hartid.toNat).length ≤ 8 :=
      (length_hexDigits_le (by decide)).mpr cpu.hartid.toNat_lt
    simp only [virtCpuSize, padded]
    omega
  have hhex : (hexDigits config.ramBase.toNat).length ≤ 16 :=
    (length_hexDigits_le (by decide)).mpr config.ramBase.toNat_lt
  have hbootargs : bootargsSize config.bootargs ≤ 1036 := by
    unfold bootargsSize
    split
    · rename_i bootargs hb
      have := hshort.bootargs bootargs hb
      rw [padded]
      split <;> omega
    · omega
  rw [virtStructureSize, padded]
  have hcap : virtFdtStructureCapacity = 16384 := rfl
  split <;> split <;> omega

/-- A CPU as the program describes it, without extensions beyond the base. -/
def plainCpu (hartid : UInt32) : VirtFdtCpu :=
  ⟨hartid, text "rv64i", text "rv64i", [text "i"], text "riscv,sv39"⟩

def plainConfig (cpuCount : Nat) : VirtFdtConfig where
  cpus := (List.range cpuCount).map fun i => plainCpu (UInt32.ofNat i)
  timebaseFrequency := 10000000
  ramBase := 0x80000000
  ramSize := 0x10000000
  bootargs := none
  initrdStart := 0
  initrdSize := 0
  enableRiscvIommu := false

theorem plainConfig_short (cpuCount : Nat) : (plainConfig cpuCount).Short := by
  have hcpu : ∀ cpu ∈ (plainConfig cpuCount).cpus, cpu.isa.size ≤ 64 ∧ cpu.isaBase.size ≤ 64 ∧
      namesSize cpu.isaExtensions ≤ 64 ∧ cpu.mmuType.size ≤ 64 := by
    intro cpu hmem
    obtain ⟨i, -, rfl⟩ := List.mem_map.mp hmem
    exact ⟨show (text "rv64i").size ≤ 64 by simp [literal_sizes],
      show (text "rv64i").size ≤ 64 by simp [literal_sizes],
      show namesSize [text "i"] ≤ 64 by simp [namesSize, literal_sizes],
      show (text "riscv,sv39").size ≤ 64 by simp [literal_sizes]⟩
  exact ⟨fun cpu h => (hcpu cpu h).1, fun cpu h => (hcpu cpu h).2.1,
    fun cpu h => (hcpu cpu h).2.2.1, fun cpu h => (hcpu cpu h).2.2.2,
    fun _ h => absurd h (Option.some_ne_none _).symm⟩

theorem sixtyFourCpus_full :
    validateConfig (plainConfig 64) = .ok () ∧ (plainConfig 64).Short ∧
      virtFdtBuild (plainConfig 64) (fun _ => true) = .error .enospc := by
  have hvalid : validateConfig (plainConfig 64) = .ok () := by decide +kernel
  exact ⟨hvalid, plainConfig_short 64, fdt_full ((validateConfig_ok_iff _).mp hvalid)
    (plainConfig_short 64) (by decide)⟩

theorem oneCpu_fits :
    validateConfig (plainConfig 1) = .ok () ∧ (plainConfig 1).Short ∧
      virtFdtBuild (plainConfig 1) (fun _ => true) ≠ .error .enospc := by
  have hvalid : validateConfig (plainConfig 1) = .ok () := by decide +kernel
  exact ⟨hvalid, plainConfig_short 1, (fdt_fits_iff hvalid (plainConfig_short 1)).mpr
    (by decide +kernel)⟩

end Vart
