import Vart.Boot.Fdt
import Vart.Lib.Strto
import Vart.Machine.VirtFdt

/-!
# The command line (`cli.c`)

`vart_cli_parse` goes through the arguments once. Numbers are read with `strtoull` and `strtol`, which
also accept white space and a sign in front of the digits (`Lib.scan`).

* `vartCliParse`: the parser, with `parseMemory`, `parseCount` and `parseFd`.
* `MemorySize text size`: the grammar of the argument of `--memory`, and the size it stands for.
* `Slips`: the texts with white space or a sign in front that are accepted all the same.
* `memory_option_iff`: the option follows its grammar exactly for the other texts.
-/

namespace Vart

open Lib

/-! ## The parser -/

/-- A check of the bytes in a list, not of all 256 bytes. -/
local instance (priority := 2000) decideBytes (l : List UInt8) (p : UInt8 → Prop)
    [DecidablePred p] : Decidable (∀ b ∈ l, p b) :=
  List.decidableBAll p l

inductive CliMode where
  | run | probe | help
deriving DecidableEq

/-- `VartCliOptions`. -/
structure CliOptions where
  mode : CliMode
  kernelPath : Option CString
  initrdPath : Option CString
  bootargs : CString
  fdtDumpPath : Option CString
  virtioBlkPath : Option CString
  virtioNetTap : Option CString
  virtioNetFd : Int
  virtioNetFdSet : Bool
  memorySize : Nat
  vcpuCount : Nat
  enableTestDevice : Bool
  enablePcieSwitch : Bool
  enableRiscvIommu : Bool
deriving DecidableEq

/-- `DEFAULT_BOOTARGS`. -/
def defaultBootargs : CString :=
  ⟨literal "console=ttyS0 earlycon=uart8250,mmio,0x10000000", by decide⟩

def CliOptions.default : CliOptions where
  mode := .run
  kernelPath := none
  initrdPath := none
  bootargs := defaultBootargs
  fdtDumpPath := none
  virtioBlkPath := none
  virtioNetTap := none
  virtioNetFd := -1
  virtioNetFdSet := false
  memorySize := 512 * 1024 * 1024
  vcpuCount := 1
  enableTestDevice := false
  enablePcieSwitch := false
  enableRiscvIommu := false

/-- `parse_count`: the value, the old one if the call fails. -/
def parseCount (text : CString) (maximum value : Nat) : Nat × Status :=
  let c := strtoull text.bytes
  if c.erange ∨ text.bytes = [] ∨ c.rest ≠ [] ∨ c.value = 0 ∨ c.value > maximum then
    (value, .error .einval)
  else (c.value, .ok ())

/-- The factor of a unit: `K`, `k`, `M`, `m`, `G` or `g`. -/
def memoryUnit (b : UInt8) : Option Nat :=
  if b = 75 ∨ b = 107 then some 1024
  else if b = 77 ∨ b = 109 then some (1024 * 1024)
  else if b = 71 ∨ b = 103 then some (1024 * 1024 * 1024)
  else none

/-- The multiplier for what follows the digits. -/
def memoryMultiplier : List UInt8 → Option Nat
  | [] => some 1
  | [b] => memoryUnit b
  | _ => none

/-- `parse_memory`: the value, which a call that fails may have changed. -/
def parseMemory (text : CString) (value : Nat) : Nat × Status :=
  let c := strtoull text.bytes
  if c.erange ∨ text.bytes = [] ∨ c.converted = false then (value, .error .einval)
  else match memoryMultiplier c.rest with
  | none => (value, .error .einval)
  | some multiplier =>
    if c.value = 0 ∨ c.value > sizeMax / multiplier then (value, .error .erange)
    else
      let value := c.value * multiplier % 2 ^ 64
      if value < 4 * 1024 * 1024 ∨ value &&& 4095 ≠ 0 then (value, .error .einval)
      else (value, .ok ())

/-- `parse_fd`. -/
def parseFd (text : CString) (value : Int) : Int × Status :=
  let c := strtol text.bytes
  if c.erange ∨ text.bytes = [] ∨ c.rest ≠ [] ∨ c.value < 0 ∨ c.value > 2 ^ 31 - 1 then
    (value, .error .einval)
  else (c.value, .ok ())

/-- An option with the value `value`; `none` if it is not one that takes a value. -/
def cliOption (result : CliOptions) (argument : List UInt8) (value : CString) :
    Option (CliOptions × Status) :=
  if argument = literal "--kernel" then some ({ result with kernelPath := some value }, .ok ())
  else if argument = literal "--initrd" then some ({ result with initrdPath := some value }, .ok ())
  else if argument = literal "--append" then some ({ result with bootargs := value }, .ok ())
  else if argument = literal "--dump-fdt" then
    some ({ result with fdtDumpPath := some value }, .ok ())
  else if argument = literal "--virtio-blk" then
    some ({ result with virtioBlkPath := some value }, .ok ())
  else if argument = literal "--virtio-net-tap" then
    some ({ result with virtioNetTap := some value }, .ok ())
  else if argument = literal "--virtio-net-fd" then
    let r := parseFd value result.virtioNetFd
    some ({ result with virtioNetFd := r.1, virtioNetFdSet := r.2.toBool }, r.2)
  else if argument = literal "--memory" then
    let r := parseMemory value result.memorySize
    some ({ result with memorySize := r.1 }, r.2)
  else if argument = literal "--cpus" then
    let r := parseCount value virtMaxCpus result.vcpuCount
    some ({ result with vcpuCount := r.1 }, r.2)
  else none

/-- The loop of `vart_cli_parse` over the arguments that are left. -/
def cliArguments (argc : Nat) (result : CliOptions) : List CString → Except Errno CliOptions
  | [] => .ok result
  | argument :: rest =>
    if argument.bytes = literal "--probe" then
      if argc ≠ 2 then .error .einval else cliArguments argc { result with mode := .probe } rest
    else if argument.bytes = literal "--help" ∨ argument.bytes = literal "-h" then
      if argc ≠ 2 then .error .einval else cliArguments argc { result with mode := .help } rest
    else if argument.bytes = literal "--test-device" then
      cliArguments argc { result with enableTestDevice := true } rest
    else if argument.bytes = literal "--pcie-switch" then
      cliArguments argc { result with enablePcieSwitch := true } rest
    else if argument.bytes = literal "--riscv-iommu" then
      cliArguments argc { result with enableRiscvIommu := true } rest
    else match rest with
    -- an option without its value, or an unknown argument
    | [] => .error .einval
    | value :: rest =>
      match cliOption result argument.bytes value with
      | none => .error .einval
      | some (_, .error e) => .error e
      | some (result, .ok _) => cliArguments argc result rest

/-- `vart_cli_parse`. -/
def vartCliParse (argv : List CString) : Except Errno CliOptions :=
  match argv with
  | [] => .error .einval
  | _ :: arguments =>
    match cliArguments argv.length .default arguments with
    | .error e => .error e
    | .ok result =>
      if result.mode = .run ∧ result.kernelPath = none then .error .einval else .ok result

/-! ## The grammar -/

/-- A size that the machine can have. -/
structure MemoryFits (size : Nat) : Prop where
  least : 4 * 1024 * 1024 ≤ size
  pages : size % 4096 = 0
  most : size ≤ sizeMax

/-- The text is one or more digits and at most one unit, and stands for the size. -/
def MemorySize (text : List UInt8) (size : Nat) : Prop :=
  ∃ digits unit multiplier, digits ≠ [] ∧ (∀ b ∈ digits, isDigit b = true) ∧
    memoryMultiplier unit = some multiplier ∧ text = digits ++ unit ∧
    size = digitsValue digits * multiplier ∧ MemoryFits size

/-- `--memory text` is accepted exactly if the text is in the grammar, wherever it stands on the
command line, and sets the size that the text stands for. -/
def FollowsGrammar (text : CString) : Prop :=
  ∀ argc result rest,
    (∀ size, MemorySize text.bytes size →
      cliArguments argc result (⟨literal "--memory", by decide⟩ :: text :: rest) =
        cliArguments argc { result with memorySize := size } rest) ∧
    ((∀ size, ¬ MemorySize text.bytes size) →
      ∃ e, cliArguments argc result (⟨literal "--memory", by decide⟩ :: text :: rest) = .error e)

/-- The parts of a text that `parse_memory` takes for the size. -/
structure Taken (space : List UInt8) (sign : Sign) (digits unit : List UInt8) (size : Nat) :
    Prop where
  numeral : IsNumeral space digits
  range : digitsValue digits < 2 ^ 64
  scaled : ∃ multiplier, memoryMultiplier unit = some multiplier ∧
    size = sign.apply (digitsValue digits) * multiplier
  fits : MemoryFits size

/-- The text starts with white space or a sign, and what `strtoull` makes of it fits. -/
def Slips (text : List UInt8) : Prop :=
  ∃ space sign digits unit size, Taken space sign digits unit size ∧
    text = space ++ (sign.text ++ (digits ++ unit)) ∧ (space ≠ [] ∨ sign ≠ .none)

/-! ## What is accepted -/

theorem memoryMultiplier_pos {unit : List UInt8} {multiplier : Nat}
    (h : memoryMultiplier unit = some multiplier) : 0 < multiplier := by
  unfold memoryMultiplier memoryUnit at h
  split at h
  · cases h
    decide
  · split_ifs at h <;> cases h <;> decide
  · cases h

/-- A unit is no digit. -/
theorem memoryMultiplier_head {unit : List UInt8} {multiplier : Nat}
    (h : memoryMultiplier unit = some multiplier) : ∀ b ∈ unit.head?, isDigit b = false := by
  unfold memoryMultiplier memoryUnit at h
  split at h
  · intro b hb
    cases hb
  · intro b hb
    cases hb
    split_ifs at h with h1 h2 h3
    · obtain rfl | rfl := h1 <;> decide
    · obtain rfl | rfl := h2 <;> decide
    · obtain rfl | rfl := h3 <;> decide
  · cases h

theorem memoryFits_iff {size : Nat} (h : size ≤ sizeMax) :
    MemoryFits size ↔ ¬ (size < 4 * 1024 * 1024 ∨ size &&& 4095 ≠ 0) := by
  have hpages : size &&& 4095 = size % 4096 := Nat.and_two_pow_sub_one_eq_mod size 12
  rw [hpages, not_or, not_lt, not_not]
  exact ⟨fun ⟨h1, h2, _⟩ => ⟨h1, h2⟩, fun ⟨h1, h2⟩ => ⟨h1, h2, h⟩⟩

/-- `parse_memory` accepts the texts that are taken, and no others. -/
theorem parseMemory_ok_iff {text : CString} {value size : Nat} :
    parseMemory text value = (size, .ok ()) ↔
      ∃ space sign digits unit, Taken space sign digits unit size ∧
        text.bytes = space ++ (sign.text ++ (digits ++ unit)) := by
  constructor
  · intro h
    unfold parseMemory at h
    dsimp only at h
    split at h
    · cases h
    rename_i hconverted
    rw [not_or, not_or, Bool.not_eq_true, Bool.not_eq_false] at hconverted
    split at h
    · cases h
    rename_i multiplier hmultiplier
    split at h
    · cases h
    rename_i hnumber
    split at h
    · cases h
    rename_i hfits
    cases h
    have hc : strtoull text.bytes =
        ⟨(strtoull text.bytes).value, (strtoull text.bytes).rest, true, false⟩ := by
      rw [← hconverted.1, ← hconverted.2.2]
    obtain ⟨space, sign, digits, hnumeral, htext, hrange, hvalue, -⟩ := strtoull_eq_iff.1 hc
    have hproduct : (strtoull text.bytes).value * multiplier ≤ sizeMax :=
      (Nat.le_div_iff_mul_le (memoryMultiplier_pos hmultiplier)).1
        (Nat.not_lt.1 fun hgt => hnumber (.inr hgt))
    have hmod : (strtoull text.bytes).value * multiplier % 2 ^ 64 =
        (strtoull text.bytes).value * multiplier := Nat.mod_eq_of_lt (by
      simp only [sizeMax, uint64Max] at hproduct
      omega)
    rw [hmod] at hfits ⊢
    refine ⟨space, sign, digits, _, ⟨hnumeral, hrange, ⟨multiplier, hmultiplier, ?_⟩,
      (memoryFits_iff hproduct).2 hfits⟩, htext⟩
    rw [hvalue]
  · rintro ⟨space, sign, digits, unit, ⟨hnumeral, hrange, ⟨multiplier, hmultiplier, rfl⟩, hfits⟩,
      htext⟩
    have hc : strtoull text.bytes = ⟨sign.apply (digitsValue digits), unit, true, false⟩ :=
      strtoull_eq_iff.2 ⟨space, sign, digits, hnumeral, htext, hrange, rfl,
        memoryMultiplier_head hmultiplier⟩
    have hpos := memoryMultiplier_pos hmultiplier
    have hnonempty : text.bytes ≠ [] := by
      rw [htext]
      simp [hnumeral.nonempty]
    have hmod : sign.apply (digitsValue digits) * multiplier % 2 ^ 64 =
        sign.apply (digitsValue digits) * multiplier := Nat.mod_eq_of_lt (by
      have hmost := hfits.most
      simp only [sizeMax, uint64Max] at hmost
      omega)
    have hzero : sign.apply (digitsValue digits) ≠ 0 := by
      rintro h0
      have hleast := hfits.least
      rw [h0] at hleast
      omega
    have hle : ¬ sign.apply (digitsValue digits) > sizeMax / multiplier :=
      Nat.not_lt.2 ((Nat.le_div_iff_mul_le hpos).2 hfits.most)
    unfold parseMemory
    dsimp only
    rw [hc]
    dsimp only
    rw [if_neg (by simp [hnonempty]), hmultiplier]
    dsimp only
    rw [if_neg (not_or.2 ⟨hzero, hle⟩), hmod, if_neg ((memoryFits_iff hfits.most).1 hfits)]

/-- A text with nothing in front of its digits is taken exactly if it is in the grammar. -/
theorem memorySize_iff {text : List UInt8} {size : Nat} :
    MemorySize text size ↔
      ∃ digits unit, Taken [] .none digits unit size ∧ text = digits ++ unit := by
  constructor
  · rintro ⟨digits, unit, multiplier, hne, hall, hmultiplier, htext, rfl, hfits⟩
    refine ⟨digits, unit, ⟨⟨fun _ hb => absurd hb List.not_mem_nil, hne, hall⟩, ?_,
      ⟨multiplier, hmultiplier, rfl⟩, hfits⟩, htext⟩
    -- the unit only makes the number larger
    have hmost := hfits.most
    have hle := Nat.le_mul_of_pos_right (digitsValue digits) (memoryMultiplier_pos hmultiplier)
    simp only [sizeMax, uint64Max] at hmost
    omega
  · rintro ⟨digits, unit, ⟨hnumeral, -, ⟨multiplier, hmultiplier, hsize⟩, hfits⟩, htext⟩
    exact ⟨digits, unit, multiplier, hnumeral.nonempty, hnumeral.digits, hmultiplier, htext, hsize,
      hfits⟩

/-- What stands in front of the digits is determined by the text. -/
theorem memorySize_lead {space digits unit text : List UInt8} {sign : Sign} {size : Nat}
    (h : Taken space sign digits unit size) (htext : text = space ++ (sign.text ++ (digits ++ unit)))
    (hlead : space ≠ [] ∨ sign ≠ .none) (size' : Nat) : ¬ MemorySize text size' := by
  rintro ⟨digits', unit', -, hne, hall, -, htext', -⟩
  obtain ⟨b, l, hcons⟩ := List.exists_cons_of_ne_nil hne
  obtain ⟨hspace, hminus, hplus⟩ := not_space_of_digit (hall b (by simp [hcons]))
  rw [htext', hcons, List.cons_append] at htext
  have hhead := congrArg List.head? htext
  cases space with
  | cons c space =>
    obtain rfl : b = c := Option.some.inj hhead
    rw [h.numeral.space b List.mem_cons_self] at hspace
    cases hspace
  | nil =>
    cases sign with
    | none => exact hlead.elim (fun h => h rfl) fun h => h rfl
    | plus => exact hplus (Option.some.inj hhead)
    | minus => exact hminus (Option.some.inj hhead)

/-- One `--memory` option on the command line. -/
theorem cliArguments_memory (argc : Nat) (result : CliOptions) (text : CString)
    (rest : List CString) :
    cliArguments argc result (⟨literal "--memory", by decide⟩ :: text :: rest) =
      match parseMemory text result.memorySize with
      | (_, .error e) => .error e
      | (size, .ok _) => cliArguments argc { result with memorySize := size } rest := by
  have hoption : cliOption result (literal "--memory") text =
      some ({ result with memorySize := (parseMemory text result.memorySize).1 },
        (parseMemory text result.memorySize).2) := by
    unfold cliOption
    iterate 7 rw [if_neg (by decide)]
    rw [if_pos rfl]
  rw [cliArguments]
  dsimp only
  rw [if_neg (by decide), if_neg (by decide), if_neg (by decide), if_neg (by decide),
    if_neg (by decide), hoption]
  generalize parseMemory text result.memorySize = r
  obtain ⟨size, e | _⟩ := r <;> rfl

/-- `--memory` follows its grammar for a text exactly if the text does not slip through with white
space or a sign in front of its digits. -/
theorem memory_option_iff (text : CString) : FollowsGrammar text ↔ ¬ Slips text.bytes := by
  constructor
  · rintro hfollows ⟨space, sign, digits, unit, size, htaken, htext, hlead⟩
    have hok : parseMemory text CliOptions.default.memorySize = (size, .ok ()) :=
      parseMemory_ok_iff.2 ⟨space, sign, digits, unit, htaken, htext⟩
    obtain ⟨e, herror⟩ := (hfollows 0 .default []).2 (memorySize_lead htaken htext hlead)
    rw [cliArguments_memory, hok] at herror
    cases herror
  · intro hslips argc result rest
    rw [cliArguments_memory]
    refine ⟨fun size hsize => ?_, fun hnone => ?_⟩
    · obtain ⟨digits, unit, htaken, htext⟩ := memorySize_iff.1 hsize
      have hok : parseMemory text result.memorySize = (size, .ok ()) :=
        parseMemory_ok_iff.2 ⟨[], .none, digits, unit, htaken, htext⟩
      rw [hok]
    · generalize hr : parseMemory text result.memorySize = r
      obtain ⟨size, e | u⟩ := r
      · exact ⟨e, rfl⟩
      -- an accepted text that does not slip has nothing in front
      · obtain ⟨space, sign, digits, unit, htaken, htext⟩ := parseMemory_ok_iff.1 hr
        by_cases hlead : space ≠ [] ∨ sign ≠ .none
        · exact absurd ⟨space, sign, digits, unit, size, htaken, htext, hlead⟩ hslips
        · rw [not_or, not_not, not_not] at hlead
          obtain ⟨rfl, rfl⟩ := hlead
          exact absurd (memorySize_iff.2 ⟨digits, unit, htaken, htext⟩) (hnone size)

/-- The option with a size in the grammar. -/
theorem memory_64M_follows : FollowsGrammar ⟨literal "64M", by decide⟩ := by
  refine (memory_option_iff _).2 ?_
  rintro ⟨space, sign, digits, unit, size, htaken, htext, hlead⟩
  refine memorySize_lead htaken htext hlead (64 * 1024 * 1024) ?_
  exact ⟨literal "64", literal "M", 1024 * 1024, by decide, by decide, by decide, by decide, by decide,
    by decide, by decide, by decide⟩

/-- The size that the command line `vart --kernel Image --memory text` configures. -/
def memoryOf (text : CString) : Except Errno Nat :=
  (vartCliParse [⟨literal "vart", by decide⟩, ⟨literal "--kernel", by decide⟩,
    ⟨literal "Image", by decide⟩, ⟨literal "--memory", by decide⟩, text]).map (·.memorySize)

/-- White space, a sign, and a negative number that wraps around to 64 MiB are accepted. -/
theorem memory_sign_accepted :
    memoryOf ⟨literal " 64M", by decide⟩ = .ok (64 * 1024 * 1024) ∧
    memoryOf ⟨literal "+64M", by decide⟩ = .ok (64 * 1024 * 1024) ∧
    memoryOf ⟨literal "-18446744073642442752", by decide⟩ = .ok (64 * 1024 * 1024) ∧
    (∀ size, ¬ MemorySize (literal "+64M") size) ∧ ¬ FollowsGrammar ⟨literal "+64M", by decide⟩ := by
  have htaken : Taken [] .plus (literal "64") (literal "M") (64 * 1024 * 1024) :=
    ⟨⟨by decide, by decide, by decide⟩, by decide, ⟨1024 * 1024, by decide, by decide⟩,
      ⟨by decide, by decide, by decide⟩⟩
  refine ⟨by decide +kernel, by decide +kernel, by decide +kernel,
    memorySize_lead htaken (by decide) (by decide), fun h => ?_⟩
  obtain ⟨e, he⟩ := (h 0 .default []).2 (memorySize_lead htaken (by decide) (by decide))
  rw [cliArguments_memory, parseMemory_ok_iff.2 ⟨[], .plus, _, _, htaken, by decide⟩] at he
  cases he

end Vart
