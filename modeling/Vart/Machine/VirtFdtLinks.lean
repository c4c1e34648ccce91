import Vart.Lib.DtLinks
import Vart.Machine.VirtFdtRoom

/-!
# The devicetree of the virt machine is consistent

What a blob of `vart_virt_fdt_build` says, once it is decoded.

* `FdtConsistent`: names and phandles are distinct, every reference is to a node of the right kind
  with the right number of arguments, and the CPUs, the memory and the initrd are those of the
  configuration.
* `fdt_consistent`: every blob that is built is consistent.
-/

namespace Vart

open Lib
open Lib.DtNode (Raw)

/-! ## What a tree should say -/

/-- The device is compatible with `strings`. -/
def CompatibleWith (n : Raw) (strings : List String) : Prop :=
  n.value "compatible" = some (dtStrings strings)

/-- The interrupt controller of a CPU. -/
structure IntcOf (cpu : VirtFdtCpu) (n : Raw) : Prop where
  path : n.path = [[], literal "cpus", literal "cpu@" ++ hexDigits cpu.hartid.toNat,
    literal "interrupt-controller"]
  compatible : CompatibleWith n ["riscv,cpu-intc"]

def IsImsic (n : Raw) : Prop := CompatibleWith n ["qemu,imsics", "riscv,imsics"]

def IsAplic (n : Raw) : Prop := CompatibleWith n ["qemu,aplic", "riscv,aplic"]

def IsIommu (n : Raw) : Prop := CompatibleWith n ["riscv,pci-iommu"]

/-- The cells in front of the phandle in `interrupt-map` of `n`: the address and the interrupt of a
device below it. -/
def mapBefore (n : Raw) : Nat :=
  (n.number "#address-cells").getD 0 + (n.number "#interrupt-cells").getD 0

/-- The cells behind the phandle in `interrupt-map`, for the interrupt parent. -/
def mapArgs (parent : Raw) : Option Nat := do
  let address ← parent.number "#address-cells"
  let interrupt ← parent.number "#interrupt-cells"
  some (address + interrupt)

/-- The tree `f` is consistent, and says what `config` does. -/
structure FdtConsistent (config : VirtFdtConfig) (f : DtForest (List UInt8)) : Prop where
  siblings : f.SiblingsDistinct
  phandles : ((f.nodes []).filterMap DtNode.phandle).Nodup
  interruptsExtended : ∀ n ∈ f.nodes [], (n.value "interrupts-extended").isSome →
    ∃ links, n.links (f.nodes []) "interrupts-extended" 0 (·.number "#interrupt-cells") 0 =
        some links ∧
      List.Forall₂ (fun cpu link => IntcOf cpu link.target ∧ link.args = [riscvIrqSExt])
        config.cpus links
  /-- The arguments for the interrupt parent stand in `interrupts`. -/
  interruptParent : ∀ n ∈ f.nodes [], (n.value "interrupt-parent").isSome →
    ∃ link, n.links (f.nodes []) "interrupt-parent" 0 (fun _ => some 0) 0 = some [link] ∧
      IsAplic link.target ∧
      ∃ cells, n.cells "interrupts" = some cells ∧
        link.target.number "#interrupt-cells" = some cells.length
  msiParent : ∀ n ∈ f.nodes [], (n.value "msi-parent").isSome →
    ∃ link, n.links (f.nodes []) "msi-parent" 0 (·.number "#msi-cells") 0 = some [link] ∧
      IsImsic link.target
  interruptMap : ∀ n ∈ f.nodes [], (n.value "interrupt-map").isSome →
    ∃ links, n.links (f.nodes []) "interrupt-map" (mapBefore n) mapArgs 0 = some links ∧
      links.length = 16 ∧ ∀ link ∈ links, IsAplic link.target
  /-- An entry is the first requester ID, the IOMMU with its arguments, and a length. -/
  iommuMap : ∀ n ∈ f.nodes [], (n.value "iommu-map").isSome →
    ∃ links, n.links (f.nodes []) "iommu-map" 1 (·.number "#iommu-cells") 1 = some links ∧
      ∀ link ∈ links, IsIommu link.target
  cpus : ((f.nodes []).filter fun n => n.value "device_type" == some (dtStrings ["cpu"])).map
    (dtReg (f.nodes [])) = config.cpus.map fun cpu => some (cpu.hartid.toNat, 0)
  memory : ((f.nodes []).filter fun n =>
    n.value "device_type" == some (dtStrings ["memory"])).map (dtReg (f.nodes [])) =
      [some (config.ramBase.toNat, config.ramSize.toNat)]
  chosen : ((f.nodes []).filter fun n => n.path == [[], literal "chosen"]).map
    (fun n => (n.number "linux,initrd-start", n.number "linux,initrd-end")) =
      [if config.initrdSize = 0 then (none, none)
        else (some config.initrdStart.toNat,
          some (config.initrdStart.toNat + config.initrdSize.toNat))]

/-! ## Properties -/

theorem text_bytes {s : String} (h : ∀ b ∈ literal s, b ≠ 0) : (text s).bytes = literal s := by
  refine List.takeWhile_eq_self_iff.mpr fun b hb => ?_
  simpa using h b hb

theorem text_terminated {s : String} (h : ∀ b ∈ literal s, b ≠ 0) :
    (text s).terminated = dtStrings [s] := by
  rw [CString.terminated, text_bytes h]
  simp [dtStrings]

theorem terminated_texts {strings : List String}
    (h : ∀ s ∈ strings, ∀ b ∈ literal s, b ≠ 0) :
    (strings.map text).flatMap CString.terminated = dtStrings strings := by
  rw [List.flatMap_map, dtStrings]
  refine List.flatMap_congr fun s hs => ?_
  rw [CString.terminated, text_bytes (h s hs)]

/-- No byte of the strings is zero. -/
theorem plain_of_all {strings : List String}
    (h : (strings.all fun s => (literal s).all (· != 0)) = true) :
    ∀ s ∈ strings, ∀ b ∈ literal s, b ≠ 0 := by
  simpa using h

theorem propertyNames_plain : ∀ s ∈ propertyNames, ∀ b ∈ literal s, b ≠ 0 :=
  plain_of_all (by decide +kernel)

/-- The other literals of the tree. -/
abbrev literals : List String :=
  ["cpu@", "interrupt-controller", "cpus", "chosen", "aliases", "soc", "riscv,cpu-intc",
    "qemu,imsics", "riscv,imsics", "qemu,aplic", "riscv,aplic", "riscv,pci-iommu", "cpu", "memory",
    "pci"]

theorem literals_plain : ∀ s ∈ literals, ∀ b ∈ literal s, b ≠ 0 := plain_of_all (by decide +kernel)

/-- A node of a blob with properties of the program. -/
def rawNode (path : List (List UInt8)) (properties : List (String × List UInt8)) : Raw :=
  ⟨path, (named properties).map fun p => (p.1.bytes, p.2)⟩

@[simp] theorem rawNode_path (path : List (List UInt8))
    (properties : List (String × List UInt8)) : (rawNode path properties).path = path := rfl

/-- A name that the program uses is found under that name and no other. -/
theorem rawNode_value {properties : List (String × List UInt8)} (h : Known properties)
    (path : List (List UInt8)) (s : String) :
    (rawNode path properties).value s = properties.lookup s := by
  induction properties with
  | nil => rfl
  | cons p properties ih =>
    obtain ⟨hname, hrest⟩ := List.forall_mem_cons.mp h
    have hvalue : (rawNode path (p :: properties)).value s = List.lookup (literal s)
        (((text p.1).bytes, p.2) :: (rawNode path properties).properties) := rfl
    have hrestValue : List.lookup (literal s) (rawNode path properties).properties =
        properties.lookup s := ih hrest
    rw [hvalue, List.lookup_cons, List.lookup_cons, hrestValue,
      text_bytes (propertyNames_plain p.1 hname)]
    by_cases hs : s = p.1
    · simp [hs]
    · have hne : (literal s == literal p.1) = false := by simpa using hs
      have hne' : (s == p.1) = false := by simpa using hs
      rw [hne, hne']

theorem lookup_property (s t : String) (data : List UInt8)
    (properties : List (String × List UInt8)) :
    ((t, data) :: properties).lookup s = if s = t then some data else properties.lookup s := by
  rw [List.lookup_cons]
  by_cases h : s = t
  · simp [h]
  · have hne : (s == t) = false := by simpa using h
    rw [if_neg h, hne]

theorem dtCells?_cells {cells : List Nat} (h : ∀ cell ∈ cells, cell < 2 ^ 32) :
    dtCells? (cells.flatMap writeBe32) = some cells := by
  have hencode : writeBe32 = storeBe 4 := funext writeBe32_eq
  rw [hencode]
  exact dtCells?_encode h

theorem dtCells?_writeBe32 {value : Nat} (h : value < 2 ^ 32) :
    dtCells? (writeBe32 value) = some [value] := by
  have hcells := @dtCells?_cells [value] (by simpa using h)
  simpa using hcells

theorem cell_of_value {n : Raw} {s : String} {value : Nat}
    (h : n.value s = some (writeBe32 value)) (hvalue : value < 2 ^ 32) :
    n.cells s = some [value] := by
  rw [DtNode.cells, h, Option.bind_some, dtCells?_writeBe32 hvalue]

theorem number_of_value {n : Raw} {s : String} {value : Nat}
    (h : n.value s = some (writeBe32 value)) (hvalue : value < 2 ^ 32) :
    n.number s = some value := by
  simp [DtNode.number, DtNode.cells, h, dtCells?_writeBe32 hvalue, dtNumber]

theorem number_of_none {n : Raw} {s : String} (h : n.value s = none) : n.number s = none := by
  simp [DtNode.number, DtNode.cells, h]

theorem cells_of_value {n : Raw} {s : String} {cells : List Nat}
    (h : n.value s = some (cells.flatMap writeBe32)) (hcells : ∀ cell ∈ cells, cell < 2 ^ 32) :
    n.cells s = some cells := by
  simp [DtNode.cells, h, dtCells?_cells hcells]

/-! ## Nodes -/

def rootNode : Raw := rawNode [[]] virtRootProperties

def cpusNode (config : VirtFdtConfig) : Raw :=
  rawNode [[], literal "cpus"] (cpusProperties config)

def cpuPath (cpu : VirtFdtCpu) : List (List UInt8) :=
  [[], literal "cpus", literal "cpu@" ++ hexDigits cpu.hartid.toNat]

def cpuNode (cpu : VirtFdtCpu) : Raw := rawNode (cpuPath cpu) (cpuProperties cpu)

def intcNode (cpu : VirtFdtCpu) (phandle : Nat) : Raw :=
  rawNode (cpuPath cpu ++ [literal "interrupt-controller"]) (intcProperties phandle)

/-- The nodes below `/cpus`. -/
def cpuNodes (first : Nat) (cpus : List VirtFdtCpu) : List Raw :=
  (cpus.zipIdx first).flatMap fun x => [cpuNode x.1, intcNode x.1 (x.2 + 1)]

def memoryNode (config : VirtFdtConfig) : Raw :=
  rawNode [[], (textHex "memory@" config.ramBase.toNat).bytes] (memoryProperties config)

def chosenNode (config : VirtFdtConfig) : Raw :=
  rawNode [[], literal "chosen"] (chosenProperties config)

def aliasesNode : Raw := rawNode [[], literal "aliases"] aliasesProperties

def socPath : List (List UInt8) := [[], literal "soc"]

def socNode : Raw := rawNode socPath socProperties

def imsicNode (cpuCount : Nat) : Raw :=
  rawNode (socPath ++ [(textHex "interrupt-controller@" virtImsicSBase).bytes])
    (imsicProperties cpuCount)

def aplicNode (cpuCount : Nat) : Raw :=
  rawNode (socPath ++ [(textHex "interrupt-controller@" virtAplicSBase).bytes])
    (aplicProperties cpuCount)

def uartNode (cpuCount : Nat) : Raw :=
  rawNode (socPath ++ [(textHex "serial@" virtUartBase).bytes]) (uartProperties cpuCount)

def pciePath : List (List UInt8) := socPath ++ [(textHex "pci@" virtPcieEcamBase).bytes]

def pcieNode (cpuCount : Nat) (enableRiscvIommu : Bool) : Raw :=
  rawNode pciePath (pcieProperties cpuCount enableRiscvIommu)

def iommuNode (cpuCount : Nat) : Raw :=
  rawNode (pciePath ++ [(text "iommu@0").bytes]) (iommuProperties cpuCount)

section Values

variable (config : VirtFdtConfig) (cpuCount : Nat) (s : String)

@[simp] theorem rootNode_value : rootNode.value s = virtRootProperties.lookup s :=
  rawNode_value virtRootProperties_known _ s

@[simp] theorem cpusNode_value : (cpusNode config).value s = (cpusProperties config).lookup s :=
  rawNode_value (cpusProperties_known config) _ s

@[simp] theorem cpuNode_value (cpu : VirtFdtCpu) :
    (cpuNode cpu).value s = (cpuProperties cpu).lookup s :=
  rawNode_value (cpuProperties_known cpu) _ s

@[simp] theorem intcNode_value (cpu : VirtFdtCpu) (phandle : Nat) :
    (intcNode cpu phandle).value s = (intcProperties phandle).lookup s :=
  rawNode_value (intcProperties_known phandle) _ s

@[simp] theorem memoryNode_value :
    (memoryNode config).value s = (memoryProperties config).lookup s :=
  rawNode_value (memoryProperties_known config) _ s

@[simp] theorem chosenNode_value :
    (chosenNode config).value s = (chosenProperties config).lookup s :=
  rawNode_value (chosenProperties_known config) _ s

@[simp] theorem aliasesNode_value : aliasesNode.value s = aliasesProperties.lookup s :=
  rawNode_value aliasesProperties_known _ s

@[simp] theorem socNode_value : socNode.value s = socProperties.lookup s :=
  rawNode_value socProperties_known _ s

@[simp] theorem imsicNode_value :
    (imsicNode cpuCount).value s = (imsicProperties cpuCount).lookup s :=
  rawNode_value (imsicProperties_known cpuCount) _ s

@[simp] theorem aplicNode_value :
    (aplicNode cpuCount).value s = (aplicProperties cpuCount).lookup s :=
  rawNode_value (aplicProperties_known cpuCount) _ s

@[simp] theorem uartNode_value :
    (uartNode cpuCount).value s = (uartProperties cpuCount).lookup s :=
  rawNode_value (uartProperties_known cpuCount) _ s

@[simp] theorem pcieNode_value (enableRiscvIommu : Bool) :
    (pcieNode cpuCount enableRiscvIommu).value s =
      (pcieProperties cpuCount enableRiscvIommu).lookup s :=
  rawNode_value (pcieProperties_known cpuCount enableRiscvIommu) _ s

@[simp] theorem iommuNode_value :
    (iommuNode cpuCount).value s = (iommuProperties cpuCount).lookup s :=
  rawNode_value (iommuProperties_known cpuCount) _ s

end Values

/-- The nodes outside `/cpus`. -/
def deviceNodes (config : VirtFdtConfig) : List Raw :=
  [memoryNode config, chosenNode config, aliasesNode, socNode, imsicNode config.cpus.length,
    aplicNode config.cpus.length, uartNode config.cpus.length,
    pcieNode config.cpus.length config.enableRiscvIommu] ++
  if config.enableRiscvIommu then [iommuNode config.cpus.length] else []

/-- All nodes. -/
def virtNodes (config : VirtFdtConfig) : List Raw :=
  rootNode :: cpusNode config :: (cpuNodes 0 config.cpus ++ deviceNodes config)

theorem nodes_cpuTrees (first : Nat) (cpus : List VirtFdtCpu) :
    ((cpuTrees first cpus).map CString.bytes).nodes [[], literal "cpus"] = cpuNodes first cpus := by
  have hcpu : (text "cpu@").bytes = literal "cpu@" := text_bytes (literals_plain _ (by simp))
  have hintc : (text "interrupt-controller").bytes = literal "interrupt-controller" :=
    text_bytes (literals_plain _ (by simp))
  induction cpus generalizing first with
  | nil => rfl
  | cons cpu cpus ih =>
    rw [cpuTrees, DtForest.map_append, DtForest.nodes_append, ih (first + 1)]
    simp [cpuNodes, List.zipIdx_cons, cpuTree, DtForest.single, DtForest.map, DtForest.nodes,
      cpuNode, intcNode, rawNode, cpuPath, textHex, hcpu, hintc]

theorem nodes_virtTree (config : VirtFdtConfig) :
    ((virtTree config).map CString.bytes).nodes [] = virtNodes config := by
  have hroot : (text "").bytes = [] := rfl
  have hcpus : (text "cpus").bytes = literal "cpus" := text_bytes (literals_plain _ (by simp))
  have hchosen : (text "chosen").bytes = literal "chosen" := text_bytes (literals_plain _ (by simp))
  have haliases : (text "aliases").bytes = literal "aliases" := text_bytes (literals_plain _ (by simp))
  have hsoc : (text "soc").bytes = literal "soc" := text_bytes (literals_plain _ (by simp))
  have hcpuNodes := nodes_cpuTrees 0 config.cpus
  cases hiommu : config.enableRiscvIommu <;>
    simp [virtTree, virtChildren, cpusTree, memoryTree, chosenTree, aliasesTree, socTree,
      imsicTree, aplicTree, uartTree, pcieTree, iommuTree, DtForest.single, DtForest.map,
      DtForest.nodes, virtNodes, deviceNodes, rootNode, cpusNode, memoryNode, chosenNode,
      aliasesNode, socNode, imsicNode, aplicNode, uartNode, pcieNode, iommuNode, pciePath, socPath,
      rawNode, hroot, hcpus, hchosen, haliases, hsoc, hcpuNodes, hiommu]

/-! ## Phandles -/

theorem intcNode_phandle {phandle : Nat} (h : phandle < 2 ^ 32) (cpu : VirtFdtCpu) :
    (intcNode cpu phandle).phandle = some phandle :=
  number_of_value (by simp [intcProperties, lookup_property]) h

theorem imsicNode_phandle {cpuCount : Nat} (h : cpuCount < 2 ^ 31) :
    (imsicNode cpuCount).phandle = some (cpuCount + 1) :=
  number_of_value (by simp [imsicProperties, lookup_property]) (by omega)

theorem aplicNode_phandle {cpuCount : Nat} (h : cpuCount < 2 ^ 31) :
    (aplicNode cpuCount).phandle = some (cpuCount + 2) :=
  number_of_value (by simp [aplicProperties, lookup_property]) (by omega)

theorem iommuNode_phandle {cpuCount : Nat} (h : cpuCount < 2 ^ 31) :
    (iommuNode cpuCount).phandle = some (cpuCount + 3) :=
  number_of_value (by simp [iommuProperties, lookup_property]) (by omega)

theorem cpuNodes_phandles {cpus : List VirtFdtCpu} {first : Nat}
    (h : first + cpus.length < 2 ^ 31) :
    (cpuNodes first cpus).filterMap DtNode.phandle = List.range' (first + 1) cpus.length := by
  induction cpus generalizing first with
  | nil => rfl
  | cons cpu cpus ih =>
    rw [List.length_cons] at h
    have hcpu : (cpuNode cpu).phandle = none :=
      number_of_none (by simp [cpuProperties, lookup_property])
    have hintc := @intcNode_phandle (first + 1) (by omega) cpu
    have hrest := @ih (first + 1) (by omega)
    rw [cpuNodes] at hrest ⊢
    simp [List.zipIdx_cons, hcpu, hintc, hrest, List.range'_succ]

/-- `/chosen` has nothing but the boot arguments, the initrd and the console. -/
theorem chosenProperties_none {s : String} (config : VirtFdtConfig)
    (h : s ∉ ["bootargs", "linux,initrd-start", "linux,initrd-end", "stdout-path"]) :
    (chosenProperties config).lookup s = none := by
  simp only [List.mem_cons, List.not_mem_nil, not_or] at h
  rw [List.lookup_eq_none_iff]
  unfold chosenProperties bootProperties
  cases config.bootargs with
  | none => by_cases hinitrd : config.initrdSize = 0 <;> simp [hinitrd, h]
  | some bootargs =>
    by_cases hinitrd : config.initrdSize = 0 <;> by_cases hargs : bootargs.bytes = [] <;>
      simp [hinitrd, hargs, h]

theorem virtNodes_phandles {config : VirtFdtConfig} (h : config.cpus.length < 2 ^ 31) :
    (virtNodes config).filterMap DtNode.phandle = List.range' 1
      (config.cpus.length + if config.enableRiscvIommu then 3 else 2) := by
  have hroot : rootNode.phandle = none :=
    number_of_none (by simp [virtRootProperties, lookup_property])
  have hcpus : (cpusNode config).phandle = none :=
    number_of_none (by simp [cpusProperties, lookup_property])
  have hmemory : (memoryNode config).phandle = none :=
    number_of_none (by simp [memoryProperties, lookup_property])
  have hchosen : (chosenNode config).phandle = none :=
    number_of_none (by simp [chosenProperties_none])
  have haliases : aliasesNode.phandle = none :=
    number_of_none (by simp [aliasesProperties, lookup_property])
  have hsoc : socNode.phandle = none := number_of_none (by simp [socProperties, lookup_property])
  have huart : (uartNode config.cpus.length).phandle = none :=
    number_of_none (by simp [uartProperties, lookup_property])
  have hpcie : (pcieNode config.cpus.length config.enableRiscvIommu).phandle = none :=
    number_of_none (by
      cases config.enableRiscvIommu <;> simp [pcieProperties, lookup_property])
  have hcpuNodes := @cpuNodes_phandles config.cpus 0 (by omega)
  have hlast : ∀ n, List.range' 1 (n + 1) = List.range' 1 n ++ [n + 1] := by
    intro n
    rw [List.range'_concat, Nat.one_mul, Nat.add_comm]
  cases hiommu : config.enableRiscvIommu <;> rw [hiommu] at hpcie <;>
    simp [virtNodes, deviceNodes, hroot, hcpus, hmemory, hchosen, haliases, hsoc, huart, hpcie,
      hcpuNodes, imsicNode_phandle h, aplicNode_phandle h, iommuNode_phandle h, hiommu, hlast]

/-! ## References -/

variable {config : VirtFdtConfig}

theorem forall_virtNodes {P : Raw → Prop} : (∀ n ∈ virtNodes config, P n) ↔
    P rootNode ∧ P (cpusNode config) ∧
    (∀ x ∈ config.cpus.zipIdx, P (cpuNode x.1) ∧ P (intcNode x.1 (x.2 + 1))) ∧
    P (memoryNode config) ∧ P (chosenNode config) ∧ P aliasesNode ∧ P socNode ∧
    P (imsicNode config.cpus.length) ∧ P (aplicNode config.cpus.length) ∧
    P (uartNode config.cpus.length) ∧ P (pcieNode config.cpus.length config.enableRiscvIommu) ∧
    (config.enableRiscvIommu = true → P (iommuNode config.cpus.length)) := by
  have hcpus : (∀ n ∈ cpuNodes 0 config.cpus, P n) ↔
      ∀ x ∈ config.cpus.zipIdx, P (cpuNode x.1) ∧ P (intcNode x.1 (x.2 + 1)) := by
    simp only [cpuNodes, List.mem_flatMap, List.mem_cons, List.not_mem_nil, or_false]
    constructor
    · exact fun h x hx => ⟨h _ ⟨x, hx, .inl rfl⟩, h _ ⟨x, hx, .inr rfl⟩⟩
    · rintro h n ⟨x, hx, rfl | rfl⟩
      · exact (h x hx).1
      · exact (h x hx).2
  simp only [virtNodes, deviceNodes, List.forall_mem_cons, List.forall_mem_append, hcpus]
  cases config.enableRiscvIommu <;> simp [and_assoc]

/-- The names of the properties that refer to other nodes, each with the nodes that have it. -/
def linkUsers (config : VirtFdtConfig) : List (String × List Raw) :=
  [("interrupts-extended", [imsicNode config.cpus.length]),
    ("interrupt-parent", [uartNode config.cpus.length]),
    ("msi-parent", [aplicNode config.cpus.length,
      pcieNode config.cpus.length config.enableRiscvIommu]),
    ("interrupt-map", [pcieNode config.cpus.length config.enableRiscvIommu]),
    ("iommu-map", if config.enableRiscvIommu then
      [pcieNode config.cpus.length config.enableRiscvIommu] else [])]

theorem linkUsers_complete : ∀ user ∈ linkUsers config, ∀ n ∈ virtNodes config,
    (n.value user.1).isSome → n ∈ user.2 := by
  simp only [linkUsers, List.forall_mem_cons, forall_virtNodes]
  cases config.enableRiscvIommu <;>
    simp [virtRootProperties, cpusProperties, cpuProperties, intcProperties, memoryProperties,
      chosenProperties_none, aliasesProperties, socProperties, imsicProperties, aplicProperties,
      uartProperties, pcieProperties, iommuProperties, lookup_property]

theorem intcNode_intcOf (cpu : VirtFdtCpu) (phandle : Nat) :
    IntcOf cpu (intcNode cpu phandle) := by
  refine ⟨rfl, ?_⟩
  have htext := text_terminated (literals_plain "riscv,cpu-intc" (by simp))
  simp [CompatibleWith, intcProperties, htext]

theorem imsicNode_isImsic (cpuCount : Nat) : IsImsic (imsicNode cpuCount) := by
  have htexts := @terminated_texts ["qemu,imsics", "riscv,imsics"] fun s hs => literals_plain s (by
    simp only [List.mem_cons, List.not_mem_nil, or_false] at hs ⊢
    tauto)
  simpa [IsImsic, CompatibleWith, imsicProperties, lookup_property] using htexts

theorem aplicNode_isAplic (cpuCount : Nat) : IsAplic (aplicNode cpuCount) := by
  have htexts := @terminated_texts ["qemu,aplic", "riscv,aplic"] fun s hs => literals_plain s (by
    simp only [List.mem_cons, List.not_mem_nil, or_false] at hs ⊢
    tauto)
  simpa [IsAplic, CompatibleWith, aplicProperties, lookup_property] using htexts

theorem iommuNode_isIommu (cpuCount : Nat) : IsIommu (iommuNode cpuCount) := by
  have htext := text_terminated (literals_plain "riscv,pci-iommu" (by simp))
  simp [IsIommu, CompatibleWith, iommuProperties, htext]

section Links

variable (h : config.cpus.length < 2 ^ 31)
include h

theorem virtNodes_distinct : ((virtNodes config).filterMap DtNode.phandle).Nodup := by
  rw [virtNodes_phandles h]
  exact List.nodup_range'

/-- `interrupts-extended` of the IMSIC names the controllers of the CPUs in their order. -/
theorem imsicNode_links : (imsicNode config.cpus.length).links (virtNodes config)
    "interrupts-extended" 0 (·.number "#interrupt-cells") 0 =
      some (config.cpus.zipIdx.map fun x => ⟨[], intcNode x.1 (x.2 + 1), [riscvIrqSExt], []⟩) := by
  have hindex : ∀ x ∈ config.cpus.zipIdx, x.2 < config.cpus.length := by
    intro x hx
    have := List.snd_lt_of_mem_zipIdx hx
    omega
  have hphandle : ∀ x ∈ config.cpus.zipIdx, (intcNode x.1 (x.2 + 1)).phandle = some (x.2 + 1) :=
    fun x hx => intcNode_phandle (by have := hindex x hx; omega) x.1
  have hcells : (List.range config.cpus.length).flatMap (fun i => [i + 1, riscvIrqSExt]) =
      (config.cpus.zipIdx.map fun x =>
        (⟨[], intcNode x.1 (x.2 + 1), [riscvIrqSExt], []⟩ : DtLink)).flatMap DtLink.encode := by
    have hrange : List.range config.cpus.length = config.cpus.zipIdx.map Prod.snd := by
      rw [List.zipIdx_map_snd, List.range_eq_range']
    rw [hrange, List.flatMap_map, List.flatMap_map]
    refine List.flatMap_congr fun x hx => ?_
    simp [DtLink.encode, hphandle x hx]
  refine DtNode.links_eq (virtNodes_distinct h) (cells_of_value ?_ ?_) ?_
  · rw [← hcells]
    simp [imsicProperties, lookup_property]
  · rw [← hcells]
    intro cell hcell
    obtain ⟨i, hi, hmem⟩ := List.mem_flatMap.mp hcell
    have hlt := List.mem_range.mp hi
    rcases List.mem_pair.mp hmem with rfl | rfl
    · omega
    · decide
  · intro l hl
    obtain ⟨x, hx, rfl⟩ := List.mem_map.mp hl
    refine ⟨rfl, ?_, by rw [hphandle x hx]; rfl, ?_, rfl⟩
    · simp only [virtNodes, cpuNodes, List.mem_cons, List.mem_append, List.mem_flatMap]
      exact .inr (.inr (.inl ⟨x, hx, .inr (.inl rfl)⟩))
    · exact @number_of_value _ _ 1 (by simp [intcProperties, lookup_property]) (by decide)

/-- A property that is one phandle. -/
theorem phandle_links {n target : Raw} {s : String} {p : Nat} (hp : p < 2 ^ 32)
    (hvalue : n.value s = some (writeBe32 p)) (htarget : target ∈ virtNodes config)
    (hphandle : target.phandle = some p) {args : Raw → Option Nat} (hargs : args target = some 0) :
    n.links (virtNodes config) s 0 args 0 = some [⟨[], target, [], []⟩] := by
  refine DtNode.links_eq (virtNodes_distinct h) ?_ ?_
  · simp [DtNode.cells, hvalue, dtCells?_writeBe32 hp, DtLink.encode, hphandle]
  · simp only [List.forall_mem_singleton]
    exact ⟨rfl, htarget, by rw [hphandle]; rfl, hargs, rfl⟩

theorem pcieNode_map_links :
    (pcieNode config.cpus.length config.enableRiscvIommu).links (virtNodes config)
      "interrupt-map" (mapBefore (pcieNode config.cpus.length config.enableRiscvIommu)) mapArgs 0 =
    some ((List.range 4).flatMap fun dev => (List.range 4).map fun pin =>
      ⟨[(dev * 8) <<< 8, 0, 0, pin + 1], aplicNode config.cpus.length,
        [virtPcieIrqBase + (pin + dev) % 4, irqTypeLevelHigh], []⟩) := by
  have haplic := aplicNode_phandle h
  have haddress : (aplicNode config.cpus.length).number "#address-cells" = some 0 :=
    number_of_value (by simp [aplicProperties, lookup_property]) (by decide)
  have hinterrupt : (aplicNode config.cpus.length).number "#interrupt-cells" = some 2 :=
    number_of_value (by simp [aplicProperties, lookup_property]) (by decide)
  have hbefore : mapBefore (pcieNode config.cpus.length config.enableRiscvIommu) = 4 := by
    have ha : (pcieNode config.cpus.length config.enableRiscvIommu).number "#address-cells" =
        some 3 := number_of_value (by simp [pcieProperties]) (by decide)
    have hi : (pcieNode config.cpus.length config.enableRiscvIommu).number "#interrupt-cells" =
        some 1 := number_of_value (by simp [pcieProperties, lookup_property]) (by decide)
    simp [mapBefore, ha, hi]
  rw [hbefore]
  have hcells : interruptMap (config.cpus.length + 2) =
      ((List.range 4).flatMap fun dev => (List.range 4).map fun pin =>
        (⟨[(dev * 8) <<< 8, 0, 0, pin + 1], aplicNode config.cpus.length,
          [virtPcieIrqBase + (pin + dev) % 4, irqTypeLevelHigh], []⟩ : DtLink)).flatMap
        DtLink.encode := by
    rw [List.flatMap_assoc, interruptMap]
    refine List.flatMap_congr fun dev _ => ?_
    rw [List.flatMap_map]
    refine List.flatMap_congr fun pin _ => ?_
    simp [DtLink.encode, haplic]
  refine DtNode.links_eq (virtNodes_distinct h) (cells_of_value ?_ ?_) ?_
  · rw [← hcells]
    cases config.enableRiscvIommu <;> simp [pcieProperties, lookup_property]
  · rw [← hcells]
    intro cell hcell
    simp only [interruptMap, List.mem_flatMap, List.mem_range, List.mem_cons, List.not_mem_nil,
      or_false] at hcell
    obtain ⟨dev, hdev, pin, hpin, hmem⟩ := hcell
    have hbase : virtPcieIrqBase = 32 := rfl
    have hlevel : irqTypeLevelHigh = 4 := rfl
    rw [Nat.shiftLeft_eq] at hmem
    omega
  · intro l hl
    obtain ⟨dev, hdev, hl⟩ := List.mem_flatMap.mp hl
    obtain ⟨pin, hpin, rfl⟩ := List.mem_map.mp hl
    refine ⟨rfl, by simp [virtNodes, deviceNodes], by rw [haplic]; rfl, ?_, rfl⟩
    simp [mapArgs, haddress, hinterrupt]

theorem pcieNode_iommu_links (hiommu : config.enableRiscvIommu = true) :
    (pcieNode config.cpus.length config.enableRiscvIommu).links (virtNodes config) "iommu-map" 1
      (·.number "#iommu-cells") 1 =
    some [⟨[0], iommuNode config.cpus.length, [0], [0x10000]⟩] := by
  have hphandle := iommuNode_phandle h
  refine DtNode.links_eq (virtNodes_distinct h) (cells_of_value ?_ ?_) ?_
  · simp [hiommu, pcieProperties, lookup_property, DtLink.encode, hphandle]
  · simp [DtLink.encode, hphandle]
    omega
  · simp only [List.forall_mem_singleton]
    refine ⟨rfl, by simp [virtNodes, deviceNodes, hiommu], by rw [hphandle]; rfl, ?_, rfl⟩
    exact @number_of_value _ _ 1 (by simp [iommuProperties, lookup_property]) (by decide)

end Links

/-! ## Names of siblings -/

theorem textHex_ne_text {s t : String} (h : ¬ (text s).bytes <+: (text t).bytes) (n : Nat) :
    textHex s n ≠ text t := by
  intro heq
  exact h (heq ▸ List.prefix_append _ _)

theorem textHex_injective {s : String} {m n : Nat} (h : textHex s m = textHex s n) : m = n :=
  hexDigits_injective (List.append_cancel_left (congrArg CString.bytes h))

theorem names_cpuTrees (first : Nat) (cpus : List VirtFdtCpu) :
    (cpuTrees first cpus).names = cpus.map fun cpu => textHex "cpu@" cpu.hartid.toNat := by
  induction cpus generalizing first with
  | nil => rfl
  | cons cpu cpus ih => simp [cpuTrees, cpuTree, DtForest.names, ih]

theorem cpuTrees_distinct {cpus : List VirtFdtCpu} (h : (cpus.map VirtFdtCpu.hartid).Nodup)
    (first : Nat) : (cpuTrees first cpus).SiblingsDistinct := by
  induction cpus generalizing first with
  | nil => trivial
  | cons cpu cpus ih =>
    obtain ⟨hnew, hrest⟩ := List.nodup_cons.mp h
    refine ⟨?_, ⟨List.not_mem_nil, trivial, trivial⟩, ih hrest (first + 1)⟩
    show _ ∉ (cpuTrees (first + 1) cpus).names
    rw [names_cpuTrees, List.mem_map]
    rintro ⟨other, hother, hsame⟩
    have hid : other.hartid = cpu.hartid := UInt32.toNat_inj.mp (textHex_injective hsame)
    exact hnew (hid ▸ List.mem_map_of_mem hother)

/-- Four siblings, with children below the last one. -/
theorem four_distinct {a b c d : CString} (h : [a, b, c, d].Nodup)
    {pa pb pc pd : List (CString × List UInt8)} {children : DtForest CString}
    (hchildren : children.SiblingsDistinct) :
    (DtForest.single a pa .nil ++ (DtForest.single b pb .nil ++ (DtForest.single c pc .nil ++
      DtForest.single d pd children))).SiblingsDistinct := by
  simp only [List.nodup_cons] at h
  obtain ⟨ha, hb, hc, -⟩ := h
  exact ⟨ha, trivial, hb, trivial, hc, trivial, List.not_mem_nil, hchildren, trivial⟩

theorem socTree_distinct (cpuCount : Nat) (enableRiscvIommu : Bool) :
    (socTree cpuCount enableRiscvIommu).SiblingsDistinct := by
  refine ⟨List.not_mem_nil, four_distinct ?_ ?_, trivial⟩
  · decide +kernel
  · cases enableRiscvIommu
    · trivial
    · exact ⟨List.not_mem_nil, trivial, trivial⟩

theorem virtTree_distinct (hids : (config.cpus.map VirtFdtCpu.hartid).Nodup) :
    (virtTree config).SiblingsDistinct := by
  have hmemory : ∀ t ∈ ["cpus", "chosen", "aliases", "soc"],
      textHex "memory@" config.ramBase.toNat ≠ text t := by
    intro t ht
    refine textHex_ne_text ?_ _
    revert t
    decide +kernel
  have hnames : [text "cpus", text "chosen", text "aliases", text "soc"].Nodup := by
    decide +kernel
  simp only [List.forall_mem_cons] at hmemory
  simp only [List.nodup_cons, List.mem_cons, List.not_mem_nil, or_false, not_or] at hnames
  obtain ⟨hm₁, hm₂, hm₃, hm₄, -⟩ := hmemory
  obtain ⟨⟨hc₁, hc₂, hc₃⟩, ⟨hd₁, hd₂⟩, he, -⟩ := hnames
  refine ⟨List.not_mem_nil, ⟨?_, cpuTrees_distinct hids 0, ?_, trivial, ?_, trivial, ?_, trivial,
    socTree_distinct _ _⟩, trivial⟩
  · show _ ∉ [_, _, _, _]
    simp only [List.mem_cons, List.not_mem_nil, or_false, not_or]
    exact ⟨hm₁.symm, hc₁, hc₂, hc₃⟩
  · show _ ∉ [_, _, _]
    simp only [List.mem_cons, List.not_mem_nil, or_false, not_or]
    exact ⟨hm₂, hm₃, hm₄⟩
  · show _ ∉ [_, _]
    simp only [List.mem_cons, List.not_mem_nil, or_false, not_or]
    exact ⟨hd₁, hd₂⟩
  · show _ ∉ [_]
    rw [List.mem_singleton]
    exact he

/-! ## What the nodes say -/

theorem dtNumber_reg (value : Nat) : dtNumber [value >>> 32, value % 2 ^ 32] = value := by
  simp only [dtNumber, List.foldl_cons, List.foldl_nil, Nat.shiftRight_eq_div_pow]
  omega

theorem cpuNode_reg {cpu : VirtFdtCpu} :
    dtReg (virtNodes config) (cpuNode cpu) = some (cpu.hartid.toNat, 0) := by
  have hparent : (virtNodes config).find? (fun m => m.path == (cpuNode cpu).path.dropLast) =
      some (cpusNode config) := by
    have hpath : (cpuNode cpu).path.dropLast = (cpusNode config).path := rfl
    have hroot : rootNode.path ≠ (cpusNode config).path := by simp [rootNode, cpusNode]
    rw [hpath, virtNodes, List.find?_cons_of_neg (by simpa using hroot),
      List.find?_cons_of_pos (by simp)]
  have haddress : (cpusNode config).number "#address-cells" = some 1 :=
    number_of_value (by simp [cpusProperties]) (by decide)
  have hsize : (cpusNode config).number "#size-cells" = some 0 :=
    number_of_value (by simp [cpusProperties, lookup_property]) (by decide)
  have hreg : (cpuNode cpu).cells "reg" = some [cpu.hartid.toNat] := by
    have hlookup : (cpuProperties cpu).lookup "reg" = some (writeBe32 cpu.hartid.toNat) := by
      simp [cpuProperties, lookup_property]
    exact cell_of_value ((cpuNode_value _ cpu).trans hlookup) cpu.hartid.toNat_lt
  rw [dtReg_eq hparent haddress hsize hreg rfl]
  simp [dtNumber]

theorem memoryNode_reg : dtReg (virtNodes config) (memoryNode config) =
    some (config.ramBase.toNat, config.ramSize.toNat) := by
  have hbase := config.ramBase.toNat_lt
  have hsize := config.ramSize.toNat_lt
  have hparent : (virtNodes config).find? (fun m => m.path == (memoryNode config).path.dropLast) =
      some rootNode := by
    simp [virtNodes, rootNode, memoryNode]
  have haddress : rootNode.number "#address-cells" = some 2 :=
    number_of_value (by simp [virtRootProperties, lookup_property]) (by decide)
  have hsizeCells : rootNode.number "#size-cells" = some 2 :=
    number_of_value (by simp [virtRootProperties, lookup_property]) (by decide)
  have hreg : (memoryNode config).cells "reg" =
      some (regCells config.ramBase.toNat config.ramSize.toNat) := by
    refine cells_of_value (by simp [memoryProperties, lookup_property]) ?_
    simp only [regCells, List.forall_mem_cons, Nat.shiftRight_eq_div_pow]
    refine ⟨by omega, by omega, by omega, by omega, by simp⟩
  rw [dtReg_eq hparent haddress hsizeCells hreg rfl]
  simp only [regCells, List.take_succ_cons, List.take_zero, List.drop_succ_cons, List.drop_zero,
    dtNumber_reg]

theorem cpuNodes_filter_type (first : Nat) (cpus : List VirtFdtCpu) (t : String) :
    (cpuNodes first cpus).filter (fun n => n.value "device_type" == some (dtStrings [t])) =
      if "cpu" = t then cpus.map cpuNode else [] := by
  have htype : ∀ cpu, (cpuNode cpu).value "device_type" = some (dtStrings ["cpu"]) := by
    intro cpu
    have htext := text_terminated (literals_plain "cpu" (by simp))
    simp [cpuProperties, htext]
  have hnone : ∀ cpu phandle, (intcNode cpu phandle).value "device_type" = none := by
    intro cpu phandle
    simp [intcProperties, lookup_property]
  induction cpus generalizing first with
  | nil => simp [cpuNodes]
  | cons cpu cpus ih =>
    have hrest := ih (first + 1)
    rw [cpuNodes] at hrest ⊢
    rw [List.zipIdx_cons, List.flatMap_cons, List.filter_append, hrest]
    by_cases ht : "cpu" = t
    · simp [htype, hnone, ht]
    · simp [htype, hnone, ht]

/-- The CPUs, the memory and the host bridge have a `device_type`. -/
theorem virtNodes_filter_type (t : String) :
    (virtNodes config).filter (fun n => n.value "device_type" == some (dtStrings [t])) =
      (if "cpu" = t then config.cpus.map cpuNode else []) ++
      ((if "memory" = t then [memoryNode config] else []) ++
      if "pci" = t then [pcieNode config.cpus.length config.enableRiscvIommu] else []) := by
  have hroot : rootNode.value "device_type" = none := by
    simp [virtRootProperties, lookup_property]
  have hcpus : (cpusNode config).value "device_type" = none := by
    simp [cpusProperties, lookup_property]
  have hmemory : (memoryNode config).value "device_type" = some (dtStrings ["memory"]) := by
    have htext := text_terminated (literals_plain "memory" (by simp))
    simp [memoryProperties, htext]
  have hchosen : (chosenNode config).value "device_type" = none := by
    simp [chosenProperties_none]
  have haliases : aliasesNode.value "device_type" = none := by
    simp [aliasesProperties, lookup_property]
  have hsoc : socNode.value "device_type" = none := by simp [socProperties, lookup_property]
  have himsic : (imsicNode config.cpus.length).value "device_type" = none := by
    simp [imsicProperties, lookup_property]
  have haplic : (aplicNode config.cpus.length).value "device_type" = none := by
    simp [aplicProperties, lookup_property]
  have huart : (uartNode config.cpus.length).value "device_type" = none := by
    simp [uartProperties, lookup_property]
  have hpcie : (pcieNode config.cpus.length config.enableRiscvIommu).value "device_type" =
      some (dtStrings ["pci"]) := by
    have htext := text_terminated (literals_plain "pci" (by simp))
    simp [pcieProperties, lookup_property, htext]
  have hiommu : (iommuNode config.cpus.length).value "device_type" = none := by
    simp [iommuProperties, lookup_property]
  have hlast : (if config.enableRiscvIommu = true then [iommuNode config.cpus.length]
      else []).filter (fun n => n.value "device_type" == some (dtStrings [t])) = [] := by
    split
    · simp only [List.filter_cons, List.filter_nil, hiommu]
      rfl
    · rfl
  simp only [virtNodes, deviceNodes, List.filter_cons, List.filter_append, List.filter_nil,
    cpuNodes_filter_type, hlast, hroot, hcpus, hmemory, hchosen, haliases, hsoc, himsic, haplic,
    huart, hpcie, beq_iff_eq, Option.some.injEq, dtStrings_singleton_inj, reduceCtorEq, if_false,
    List.append_nil]
  congr 1
  split <;> rfl

theorem virtNodes_filter_chosen :
    (virtNodes config).filter (fun n => n.path == [[], literal "chosen"]) =
      [chosenNode config] := by
  have hcpuNodes : (cpuNodes 0 config.cpus).filter (fun n => n.path == [[], literal "chosen"]) =
      [] := by
    rw [List.filter_eq_nil_iff]
    intro n hn
    obtain ⟨x, -, hx⟩ := List.mem_flatMap.mp hn
    rcases List.mem_pair.mp hx with rfl | rfl <;> simp [cpuNode, intcNode, cpuPath]
  have hmemory : (textHex "memory@" config.ramBase.toNat).bytes ≠ literal "chosen" := by
    have hchosen : (text "chosen").bytes = literal "chosen" := text_bytes (literals_plain _ (by simp))
    rw [← hchosen]
    exact fun h => textHex_ne_text (by decide +kernel) _ (CString.ext h)
  rw [virtNodes, deviceNodes]
  simp only [List.filter_cons, List.filter_append, hcpuNodes]
  cases config.enableRiscvIommu <;>
    simp [rootNode, cpusNode, memoryNode, hmemory, chosenNode, aliasesNode, socNode, socPath,
      imsicNode, aplicNode, uartNode, pcieNode, iommuNode, pciePath]

theorem number_of_writeBe64 {n : Raw} {s : String} {value : Nat}
    (h : n.value s = some (writeBe64 value)) (hvalue : value < 2 ^ 64) :
    n.number s = some value := by
  have hlow : writeBe32 (value % 2 ^ 32) = writeBe32 value := by
    simp only [writeBe32, List.cons.injEq, and_true, ← UInt8.toNat_inj, UInt8.toNat_ofNat',
      Nat.shiftRight_eq_div_pow]
    omega
  have hbytes : writeBe64 value = [value >>> 32, value % 2 ^ 32].flatMap writeBe32 := by
    rw [List.flatMap_cons, List.flatMap_singleton, hlow]
    rfl
  have hcells : n.cells s = some [value >>> 32, value % 2 ^ 32] := by
    refine cells_of_value (hbytes ▸ h) ?_
    simp only [List.forall_mem_cons, Nat.shiftRight_eq_div_pow]
    exact ⟨by omega, by omega, by simp⟩
  rw [DtNode.number, hcells, Option.map_some, dtNumber_reg]

theorem chosenProperties_initrd (config : VirtFdtConfig) :
    (chosenProperties config).lookup "linux,initrd-start" =
      (if config.initrdSize = 0 then none else some (writeBe64 config.initrdStart.toNat)) ∧
    (chosenProperties config).lookup "linux,initrd-end" =
      if config.initrdSize = 0 then none
      else some (writeBe64 (config.initrdStart + config.initrdSize).toNat) := by
  unfold chosenProperties bootProperties
  cases config.bootargs with
  | none => by_cases hinitrd : config.initrdSize = 0 <;> simp [hinitrd, lookup_property]
  | some bootargs =>
    by_cases hinitrd : config.initrdSize = 0 <;> by_cases hargs : bootargs.bytes = [] <;>
      simp [hinitrd, hargs, lookup_property]

theorem chosenNode_initrd (hend : config.initrdStart.toNat + config.initrdSize.toNat < 2 ^ 64) :
    ((chosenNode config).number "linux,initrd-start",
      (chosenNode config).number "linux,initrd-end") =
    if config.initrdSize = 0 then (none, none)
    else (some config.initrdStart.toNat,
      some (config.initrdStart.toNat + config.initrdSize.toNat)) := by
  obtain ⟨hstart, hstop⟩ := chosenProperties_initrd config
  rw [← chosenNode_value] at hstart hstop
  by_cases hinitrd : config.initrdSize = 0
  · rw [if_pos hinitrd] at hstart hstop ⊢
    rw [number_of_none hstart, number_of_none hstop]
  · rw [if_neg hinitrd] at hstart hstop ⊢
    have hsum : (config.initrdStart + config.initrdSize).toNat =
        config.initrdStart.toNat + config.initrdSize.toNat := by
      rw [UInt64.toNat_add, Nat.mod_eq_of_lt hend]
    rw [hsum] at hstop
    rw [number_of_writeBe64 hstart (by omega), number_of_writeBe64 hstop hend]

/-! ## The blob -/

theorem imsicNode_forall₂ : List.Forall₂
    (fun cpu (link : DtLink) => IntcOf cpu link.target ∧ link.args = [riscvIrqSExt]) config.cpus
    (config.cpus.zipIdx.map fun x => ⟨[], intcNode x.1 (x.2 + 1), [riscvIrqSExt], []⟩) := by
  have hcpus : ∀ (cpus : List VirtFdtCpu) (first : Nat), List.Forall₂
      (fun cpu (link : DtLink) => IntcOf cpu link.target ∧ link.args = [riscvIrqSExt]) cpus
      ((cpus.zipIdx first).map fun x =>
        ⟨[], intcNode x.1 (x.2 + 1), [riscvIrqSExt], []⟩) := by
    intro cpus
    induction cpus with
    | nil => exact fun _ => .nil
    | cons cpu cpus ih =>
      intro first
      exact .cons ⟨intcNode_intcOf cpu (first + 1), rfl⟩ (ih (first + 1))
  exact hcpus config.cpus 0

theorem uartNode_parent (h : config.cpus.length < 2 ^ 31) :
    ∃ link, (uartNode config.cpus.length).links (virtNodes config) "interrupt-parent" 0
        (fun _ => some 0) 0 = some [link] ∧ IsAplic link.target ∧
      ∃ cells, (uartNode config.cpus.length).cells "interrupts" = some cells ∧
        link.target.number "#interrupt-cells" = some cells.length := by
  have hvalue : (uartProperties config.cpus.length).lookup "interrupt-parent" =
      some (writeBe32 (config.cpus.length + 2)) := by simp [uartProperties, lookup_property]
  have hinterrupts : (uartProperties config.cpus.length).lookup "interrupts" =
      some ([virtUartIrq, irqTypeLevelHigh].flatMap writeBe32) := by
    simp [uartProperties, lookup_property]
  have hcells : (aplicProperties config.cpus.length).lookup "#interrupt-cells" =
      some (writeBe32 2) := by simp [aplicProperties, lookup_property]
  rw [← uartNode_value] at hvalue hinterrupts
  rw [← aplicNode_value] at hcells
  have hmem : aplicNode config.cpus.length ∈ virtNodes config := by simp [virtNodes, deviceNodes]
  exact ⟨_, phandle_links h (by omega) hvalue hmem (aplicNode_phandle h) rfl,
    aplicNode_isAplic _, _, cells_of_value hinterrupts (by decide),
    number_of_value hcells (by decide)⟩

theorem msiParent_link (h : config.cpus.length < 2 ^ 31) {n : Raw}
    (hvalue : n.value "msi-parent" = some (writeBe32 (config.cpus.length + 1))) :
    ∃ link, n.links (virtNodes config) "msi-parent" 0 (·.number "#msi-cells") 0 = some [link] ∧
      IsImsic link.target := by
  have hcells : (imsicProperties config.cpus.length).lookup "#msi-cells" =
      some (writeBe32 0) := by simp [imsicProperties, lookup_property]
  rw [← imsicNode_value] at hcells
  have hmem : imsicNode config.cpus.length ∈ virtNodes config := by simp [virtNodes, deviceNodes]
  exact ⟨_, phandle_links h (by omega) hvalue hmem (imsicNode_phandle h)
    (number_of_value hcells (by decide)), imsicNode_isImsic _⟩

theorem virtNodes_consistent (hvalid : config.Valid) :
    FdtConsistent config ((virtTree config).map CString.bytes) := by
  have hcount : config.cpus.length ≤ 512 := hvalid.cpusMax
  have h : config.cpus.length < 2 ^ 31 := by omega
  have husers := @linkUsers_complete config
  simp only [linkUsers, List.forall_mem_cons] at husers
  obtain ⟨hextended, hparent, hmsiParent, hmap, hiommuMap, -⟩ := husers
  have hinjective : Function.Injective CString.bytes := fun _ _ => CString.ext
  constructor
  case siblings => exact (virtTree_distinct hvalid.hartids).map hinjective
  all_goals rw [nodes_virtTree]
  case phandles => exact virtNodes_distinct h
  case interruptsExtended =>
    intro n hn hsome
    obtain rfl := List.mem_singleton.mp (hextended n hn hsome)
    exact ⟨_, imsicNode_links h, imsicNode_forall₂⟩
  case interruptParent =>
    intro n hn hsome
    obtain rfl := List.mem_singleton.mp (hparent n hn hsome)
    exact uartNode_parent h
  case msiParent =>
    intro n hn hsome
    refine msiParent_link h ?_
    rcases List.mem_pair.mp (hmsiParent n hn hsome) with rfl | rfl
    · simp [aplicProperties, lookup_property]
    · simp [pcieProperties, lookup_property]
  case interruptMap =>
    intro n hn hsome
    obtain rfl := List.mem_singleton.mp (hmap n hn hsome)
    refine ⟨_, pcieNode_map_links h, by simp, ?_⟩
    intro link hlink
    obtain ⟨dev, -, hlink⟩ := List.mem_flatMap.mp hlink
    obtain ⟨pin, -, rfl⟩ := List.mem_map.mp hlink
    exact aplicNode_isAplic _
  case iommuMap =>
    intro n hn hsome
    have hmem := hiommuMap n hn hsome
    split at hmem
    · rename_i hiommu
      obtain rfl := List.mem_singleton.mp hmem
      refine ⟨_, pcieNode_iommu_links h hiommu, ?_⟩
      simp only [List.forall_mem_singleton]
      exact iommuNode_isIommu _
    · cases hmem
  case cpus =>
    have hreg : dtReg (virtNodes config) ∘ cpuNode = fun cpu => some (cpu.hartid.toNat, 0) := by
      funext cpu
      rw [Function.comp_apply, cpuNode_reg]
    rw [virtNodes_filter_type, if_pos rfl, if_neg (by decide), if_neg (by decide),
      List.append_nil, List.append_nil, List.map_map, hreg]
  case memory =>
    rw [virtNodes_filter_type, if_neg (by decide), if_pos rfl, if_neg (by decide),
      List.append_nil, List.nil_append, List.map_singleton, memoryNode_reg]
  case chosen =>
    rw [virtNodes_filter_chosen, List.map_singleton, chosenNode_initrd hvalid.initrdEnd]

/-- A blob that was built is consistent, whatever the configuration. -/
theorem fdt_consistent {alloc : Nat → Bool} {blob : List UInt8}
    (hbuild : virtFdtBuild config alloc = .ok blob) :
    ∃ f, Dtb.tree blob = some f ∧ FdtConsistent config f := by
  rw [virtFdtBuild] at hbuild
  cases hvalidate : validateConfig config with
  | error e => rw [hvalidate] at hbuild; cases hbuild
  | ok u =>
    rw [hvalidate] at hbuild
    have hvalid := (validateConfig_ok_iff config).mp hvalidate
    cases halloc : alloc 0 with
    | false => rw [halloc] at hbuild; cases hbuild
    | true =>
      rw [halloc] at hbuild
      obtain ⟨fdt, hinit⟩ :
          ∃ fdt, fdtInit virtFdtStructureCapacity virtFdtStringsCapacity true = .ok fdt := ⟨_, rfl⟩
      rw [hinit] at hbuild
      dsimp only [bind, Except.bind] at hbuild
      cases hactions : fdtActions alloc fdt 1 (virtFdtScript config) with
      | error e => rw [hactions] at hbuild; cases hbuild
      | ok r =>
        rw [hactions] at hbuild
        have hcalls := fdtCalls_of_actions hactions
        rw [virtFdtScript_ops] at hcalls
        have htree : fdtBuild fdt (forestOps (virtTree config)) (alloc r.2) = .ok blob := by
          rw [fdtBuild, hcalls]
          exact hbuild
        exact ⟨_, fdtBuild_tree hinit htree, virtNodes_consistent hvalid⟩

/-- A machine with two CPUs has a blob, and that is consistent. -/
theorem twoCpus_consistent :
    ∃ blob f, virtFdtBuild (plainConfig 2) (fun _ => true) = .ok blob ∧
      Dtb.tree blob = some f ∧ FdtConsistent (plainConfig 2) f := by
  have hvalid : (plainConfig 2).Valid :=
    (validateConfig_ok_iff (plainConfig 2)).mp (by decide +kernel)
  obtain ⟨blob, hblob⟩ := fdt_room hvalid (plainConfig_short 2) (by decide)
  obtain ⟨f, htree, hconsistent⟩ := fdt_consistent hblob
  exact ⟨blob, f, hblob, htree, hconsistent⟩

end Vart
