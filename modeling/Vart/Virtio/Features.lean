import Vart.Lib.Reach
import Vart.Virtio.Transport

/-!
# Feature negotiation (`hw/virtio/virtio-pci.c`)

The 64 feature bits of a device and those that the driver accepts are each seen through a window of
32 bits, placed by a select register.

* `FeaturesInv`: the driver never has a feature that the device does not offer.
* `FeatureWindows` keeps beside the device what the driver last wrote with the select register at
  `0` and at `1`.
* A select register above `1` names no window, yet `virtio_pci_read_common` and
  `virtio_pci_write_common` take it for the upper one. `featureWindows_iff` says which accesses
  show that.
-/

namespace Vart

open Lib

/-! ## Halves of a word -/

theorem writeHigh_eq (word value : Nat) :
    writeHigh word value = value % 2 ^ 32 * 2 ^ 32 + word % 2 ^ 32 := by
  have hmask : word &&& 0xffffffff = word % 2 ^ 32 := Nat.and_two_pow_sub_one_eq_mod word 32
  rw [writeHigh, hmask, or_shiftLeft_eq (Nat.mod_lt _ (by decide))]

theorem writeLow_eq {word : Nat} (hword : word < 2 ^ 64) (value : Nat) :
    writeLow word value = word / 2 ^ 32 * 2 ^ 32 + value % 2 ^ 32 := by
  have hmask : word &&& 0xffffffff00000000 = (word / 2 ^ 32 % 2 ^ 32) <<< 32 :=
    and_field_eq word 32 32
  have hhigh : word / 2 ^ 32 % 2 ^ 32 = word / 2 ^ 32 := Nat.mod_eq_of_lt (by omega)
  rw [writeLow, hmask, hhigh, Nat.or_comm, or_shiftLeft_eq (Nat.mod_lt _ (by decide))]

theorem testBit_writeHigh (word value i : Nat) :
    (writeHigh word value).testBit i =
      if i < 32 then word.testBit i else (value % 2 ^ 32).testBit (i - 32) := by
  have hmask : Nat.testBit 0xffffffff i = decide (i < 32) := Nat.testBit_two_pow_sub_one 32 i
  rw [writeHigh, Nat.testBit_or, Nat.testBit_and, hmask, Nat.testBit_shiftLeft]
  by_cases hi : i < 32
  · simp [hi]
  · simp [hi, Nat.le_of_not_lt hi]

/-- The upper half is accepted if the device offers its bits. -/
theorem andNot_writeHigh_iff {word offered : Nat} (hword : andNot word offered = 0) (value : Nat) :
    andNot (writeHigh word value) offered = 0 ↔
      andNot (value % 2 ^ 32) (offered / 2 ^ 32) = 0 := by
  simp only [andNot_eq_zero_iff, testBit_writeHigh, Nat.testBit_div_two_pow] at hword ⊢
  constructor
  · intro h i hi
    have hbit := h (i + 32)
    rw [if_neg (by omega), Nat.add_sub_cancel] at hbit
    exact hbit hi
  · intro h i hi
    split at hi
    · exact hword i hi
    · have hbit := h (i - 32) hi
      rwa [Nat.sub_add_cancel (by omega)] at hbit

/-! ## The features of the driver -/

/-- The driver has only features that the device offers. -/
def VirtioPciFunction.Offered (dev : VirtioPciFunction) : Prop :=
  andNot dev.virtio.driverFeatures dev.virtio.deviceFeatures = 0

/-- A device with 64 feature bits and a driver within them. -/
structure FeaturesInv (dev : VirtioPciFunction) : Prop where
  word : dev.virtio.deviceFeatures < 2 ^ 64
  offered : dev.Offered

theorem FeaturesInv.driver_lt {dev : VirtioPciFunction} (h : FeaturesInv dev) :
    dev.virtio.driverFeatures < 2 ^ 64 := by
  have hoffered := h.offered
  have hle : dev.virtio.driverFeatures &&& dev.virtio.deviceFeatures ≤ dev.virtio.deviceFeatures :=
    Nat.and_le_right
  have hword := h.word
  rw [VirtioPciFunction.Offered, andNot] at hoffered
  omega

theorem VirtioPciFunction.Fresh.featuresInv {dev : VirtioPciFunction} (h : dev.Fresh) :
    FeaturesInv dev ∧ dev.virtio.driverFeatures = 0 := by
  obtain ⟨deviceId, deviceFeatures, queueCount, hword, hinit⟩ := h
  unfold virtioPciFunctionInit virtioDeviceInit at hinit
  split_ifs at hinit
  cases hinit
  exact ⟨⟨hword, by simp [Offered, andNot]⟩, rfl⟩

theorem virtioDeviceSetFeatures_ok {dev u : VirtioDevice} {features : Nat}
    (h : virtioDeviceSetFeatures dev features = .ok u) :
    andNot features dev.deviceFeatures = 0 ∧ u = { dev with driverFeatures := features } := by
  unfold virtioDeviceSetFeatures at h
  split_ifs at h with hbits
  cases h
  exact ⟨Decidable.not_not.mp hbits, rfl⟩

theorem virtioDeviceSetStatus_ok {dev u : VirtioDevice} {status : Nat}
    (h : virtioDeviceSetStatus dev status = .ok u) :
    u.deviceId = dev.deviceId ∧ u.deviceFeatures = dev.deviceFeatures ∧
      u.queues.length = dev.queues.length ∧
      u.driverFeatures = if status = 0 then 0 else dev.driverFeatures := by
  unfold virtioDeviceSetStatus at h
  split_ifs at h with hmask hzero
  · cases h
    simp [hzero]
  · cases h
    simp [hzero]

theorem featuresInv_virtioPciStep {dev : VirtioPciFunction} (hinv : FeaturesInv dev)
    (op : VirtioPciOp) : FeaturesInv (virtioPciStep dev op) := by
  refine virtioPciStep_keeps (P := FeaturesInv) (fun u hsame => ?_)
    (fun offset size value r h => ?_) op
  · rw [hsame.eq]
    exact ⟨hinv.word, hinv.offered⟩
  · cases h with
    | features h hset =>
      obtain ⟨hbits, rfl⟩ := virtioDeviceSetFeatures_ok hset
      exact ⟨hinv.word, hbits⟩
    | status h hset hlength =>
      obtain ⟨-, hdevice, -, hdriver⟩ := virtioDeviceSetStatus_ok hset
      refine ⟨hdevice.trans_lt hinv.word, ?_⟩
      rw [VirtioPciFunction.Offered, hdevice, hdriver]
      split
      · simp [andNot]
      · exact hinv.offered
    | refused | deviceSelect | driverSelect | configVector | queueSelect | queueState | queue =>
      exact ⟨hinv.word, hinv.offered⟩

/-! ## The windows -/

/-- What the driver last wrote to the two windows and the device accepted. -/
structure FeatureWindows where
  low : Nat
  high : Nat

/-- The windows after an accepted write. A reset empties them, and a select register above `1` names
none of them. -/
def FeatureWindows.written (w : FeatureWindows) (dev : VirtioPciFunction)
    (offset size value : Nat) : FeatureWindows :=
  if size = 4 ∧ offset = 0x0c then
    if dev.driverFeatureSelect = 0 then { w with low := value % 2 ^ 32 }
    else if dev.driverFeatureSelect = 1 then { w with high := value % 2 ^ 32 }
    else w
  else if size = 1 ∧ offset = 0x14 ∧ value % 2 ^ 8 = 0 then ⟨0, 0⟩
  else w

/-- A step of the device and of the windows beside it. -/
def featureStep (s : VirtioPciFunction × FeatureWindows) (op : VirtioPciOp) :
    VirtioPciFunction × FeatureWindows :=
  (virtioPciStep s.1 op,
    match op with
    | .write calls offset size value =>
      match (virtioPciBarWrite calls s.1 offset size value).2 with
      | .ok _ => s.2.written s.1 offset size value
      | .error _ => s.2
    | _ => s.2)

/-- The halves of `driver_features` are what the windows hold. -/
def FeaturesShown (s : VirtioPciFunction × FeatureWindows) : Prop :=
  s.1.virtio.driverFeatures % 2 ^ 32 = s.2.low ∧ s.1.virtio.driverFeatures / 2 ^ 32 = s.2.high

/-- Beyond the two windows reads give zero and writes change nothing. -/
def UnusedSelects (dev : VirtioPciFunction) : VirtioPciOp → Prop
  | .read calls offset size =>
    size = 4 ∧ (offset = 0x04 ∧ 2 ≤ dev.deviceFeatureSelect ∨
      offset = 0x0c ∧ 2 ≤ dev.driverFeatureSelect) →
    (virtioPciBarRead calls dev offset size).2 = .ok 0
  | .write calls offset size value =>
    size = 4 ∧ offset = 0x0c ∧ 2 ≤ dev.driverFeatureSelect →
    (virtioPciBarWrite calls dev offset size value).1.virtio.driverFeatures =
      dev.virtio.driverFeatures
  | _ => True

/-- The access goes beyond the two windows and meets the upper half: it reads a bit of it, or writes
bits the device offers over others. -/
def HighAliased (dev : VirtioPciFunction) : VirtioPciOp → Prop
  | .read _ offset size =>
    size = 4 ∧
      (offset = 0x04 ∧ 2 ≤ dev.deviceFeatureSelect ∧ dev.virtio.deviceFeatures / 2 ^ 32 ≠ 0 ∨
        offset = 0x0c ∧ 2 ≤ dev.driverFeatureSelect ∧ dev.virtio.driverFeatures / 2 ^ 32 ≠ 0)
  | .write _ offset size value =>
    size = 4 ∧ offset = 0x0c ∧ 2 ≤ dev.driverFeatureSelect ∧
      andNot (value % 2 ^ 32) (dev.virtio.deviceFeatures / 2 ^ 32) = 0 ∧
      value % 2 ^ 32 ≠ dev.virtio.driverFeatures / 2 ^ 32
  | _ => False

section

variable {dev : VirtioPciFunction}

theorem ne_zero_of_two_le {select : UInt32} (h : 2 ≤ select) : select ≠ 0 := by
  rintro rfl
  exact absurd h (by decide)

theorem readWindow_high {select : UInt32} (h : 2 ≤ select) {word : Nat} (hword : word < 2 ^ 64) :
    readWindow select word = word / 2 ^ 32 := by
  rw [readWindow, if_neg (ne_zero_of_two_le h), Nat.shiftRight_eq_div_pow]
  exact Nat.mod_eq_of_lt (by omega)

theorem virtioPciReadCommon_deviceFeatures (dev : VirtioPciFunction) :
    virtioPciReadCommon dev 0x04 4 =
      .ok (readWindow dev.deviceFeatureSelect dev.virtio.deviceFeatures) := rfl

theorem virtioPciReadCommon_driverFeatures (dev : VirtioPciFunction) :
    virtioPciReadCommon dev 0x0c 4 =
      .ok (readWindow dev.driverFeatureSelect dev.virtio.driverFeatures) := rfl

/-- The function with another device, or as it was. -/
def VirtioPciFunction.orKeep (dev : VirtioPciFunction) :
    Except Errno VirtioDevice → VirtioPciFunction × Status
  | .error e => (dev, .error e)
  | .ok virtio => ({ dev with virtio }, .ok ())

/-- Beyond the windows, a write asks for a new upper half. -/
theorem driverFeatures_write_high (hinv : FeaturesInv dev) (h : dev.driverFeatureSelect ≠ 0)
    (value : Nat) :
    (virtioPciWriteCommon dev 0x0c 4 value).1.virtio.driverFeatures =
      if andNot (value % 2 ^ 32) (dev.virtio.deviceFeatures / 2 ^ 32) = 0 then
        writeHigh dev.virtio.driverFeatures value
      else dev.virtio.driverFeatures := by
  have hask : dev.askedFeatures value = writeHigh dev.virtio.driverFeatures value := if_neg h
  have haccept := andNot_writeHigh_iff hinv.offered value
  have hwrite : virtioPciWriteCommon dev 0x0c 4 value =
      dev.orKeep (virtioDeviceSetFeatures dev.virtio (dev.askedFeatures value)) := rfl
  rw [hwrite, hask, virtioDeviceSetFeatures]
  by_cases hbits : andNot (value % 2 ^ 32) (dev.virtio.deviceFeatures / 2 ^ 32) = 0
  · rw [if_neg (not_not.mpr (haccept.mpr hbits)), if_pos hbits]
    rfl
  · rw [if_pos (mt haccept.mp hbits), if_neg hbits]
    rfl

/-- An access behaves as if it were beyond the windows unless it meets the upper half. -/
theorem unusedSelects_iff (hinv : FeaturesInv dev) (op : VirtioPciOp) :
    UnusedSelects dev op ↔ ¬HighAliased dev op := by
  cases op with
  | read calls offset size =>
    have hdevice : 2 ≤ dev.deviceFeatureSelect →
        (virtioPciBarRead calls dev 0x04 4).2 = .ok (dev.virtio.deviceFeatures / 2 ^ 32) := by
      intro h
      rw [virtioPciBarRead_common (by decide), virtioPciReadCommon_deviceFeatures,
        readWindow_high h hinv.word]
    have hdriver : 2 ≤ dev.driverFeatureSelect →
        (virtioPciBarRead calls dev 0x0c 4).2 = .ok (dev.virtio.driverFeatures / 2 ^ 32) := by
      intro h
      rw [virtioPciBarRead_common (by decide), virtioPciReadCommon_driverFeatures,
        readWindow_high h hinv.driver_lt]
    constructor
    · rintro hunused ⟨rfl, ⟨rfl, hselect, hne⟩ | ⟨rfl, hselect, hne⟩⟩
      · exact hne (Except.ok.inj ((hdevice hselect).symm.trans
          (hunused ⟨rfl, .inl ⟨rfl, hselect⟩⟩)))
      · exact hne (Except.ok.inj ((hdriver hselect).symm.trans
          (hunused ⟨rfl, .inr ⟨rfl, hselect⟩⟩)))
    · rintro haliased ⟨rfl, ⟨rfl, hselect⟩ | ⟨rfl, hselect⟩⟩
      · have hzero : dev.virtio.deviceFeatures / 2 ^ 32 = 0 :=
          by_contra fun hne => haliased ⟨rfl, .inl ⟨rfl, hselect, hne⟩⟩
        rw [hdevice hselect, hzero]
      · have hzero : dev.virtio.driverFeatures / 2 ^ 32 = 0 :=
          by_contra fun hne => haliased ⟨rfl, .inr ⟨rfl, hselect, hne⟩⟩
        rw [hdriver hselect, hzero]
  | write calls offset size value =>
    have hwrite (h : 2 ≤ dev.driverFeatureSelect) :=
      driverFeatures_write_high hinv (ne_zero_of_two_le h) value
    have heq := writeHigh_eq dev.virtio.driverFeatures value
    constructor
    · rintro hunused ⟨rfl, rfl, hselect, hbits, hne⟩
      have hkept := hunused ⟨rfl, rfl, hselect⟩
      rw [virtioPciBarWrite_common (by decide), hwrite hselect, if_pos hbits, heq] at hkept
      omega
    · rintro haliased ⟨rfl, rfl, hselect⟩
      rw [virtioPciBarWrite_common (by decide), hwrite hselect]
      split
      · have hsame : value % 2 ^ 32 = dev.virtio.driverFeatures / 2 ^ 32 :=
          by_contra fun hne => haliased ⟨rfl, rfl, hselect, ‹_›, hne⟩
        rw [heq, hsame]
        omega
      · rfl
  | raiseQueue index => exact iff_of_true trivial id
  | raise configurationChange => exact iff_of_true trivial id

/-- Writes that do not meet the upper half beyond the windows keep the halves what the windows
hold. -/
theorem featuresShown_written {w : FeatureWindows} (hinv : FeaturesInv dev)
    (hshown : FeaturesShown (dev, w)) {calls : VirtioPciCallbacks} {offset size value : Nat}
    (haliased : ¬HighAliased dev (.write calls offset size value))
    {r : VirtioPciFunction × Status} (h : CommonWritten dev offset size value r) :
    FeaturesShown (r.1, match r.2 with
      | .ok _ => w.written dev offset size value
      | .error _ => w) := by
  obtain ⟨hlow, hhigh⟩ := hshown
  have hother (hfeatures : ¬(size = 4 ∧ offset = 0x0c))
      (hstatus : ¬(size = 1 ∧ offset = 0x14)) : w.written dev offset size value = w := by
    rw [FeatureWindows.written, if_neg hfeatures, if_neg fun h => hstatus ⟨h.1, h.2.1⟩]
  cases h with
  | refused e => exact ⟨hlow, hhigh⟩
  | features h hset =>
    obtain ⟨hbits, rfl⟩ := virtioDeviceSetFeatures_ok hset
    dsimp only
    rw [FeatureWindows.written, if_pos h]
    rw [VirtioPciFunction.askedFeatures] at hbits ⊢
    split
    · have heq := writeLow_eq hinv.driver_lt value
      constructor <;> dsimp only at * <;> omega
    · rename_i hselect
      rw [if_neg hselect] at hbits
      have heq := writeHigh_eq dev.virtio.driverFeatures value
      split
      · constructor <;> dsimp only at * <;> omega
      · rename_i hone
        have htwo : 2 ≤ dev.driverFeatureSelect := by
          rw [UInt32.le_iff_toNat_le]
          have h0 : dev.driverFeatureSelect.toNat ≠ 0 := fun h => hselect (UInt32.toNat_inj.mp h)
          have h1 : dev.driverFeatureSelect.toNat ≠ 1 := fun h => hone (UInt32.toNat_inj.mp h)
          have h2 : (2 : UInt32).toNat = 2 := rfl
          omega
        have hsame : value % 2 ^ 32 = dev.virtio.driverFeatures / 2 ^ 32 :=
          by_contra fun hne => haliased ⟨h.1, h.2, htwo,
            (andNot_writeHigh_iff hinv.offered value).mp hbits, hne⟩
        constructor <;> dsimp only at * <;> omega
  | status h hset hlength =>
    obtain ⟨-, -, -, hdriver⟩ := virtioDeviceSetStatus_ok hset
    rw [FeaturesShown]
    dsimp only
    rw [FeatureWindows.written, if_neg (by omega), hdriver]
    by_cases hzero : value % 2 ^ 8 = 0
    · rw [if_pos hzero, if_pos ⟨h.1, h.2, hzero⟩]
      exact ⟨rfl, rfl⟩
    · rw [if_neg hzero, if_neg fun h => hzero h.2.2]
      exact ⟨hlow, hhigh⟩
  | deviceSelect h | driverSelect h | configVector h | queueSelect h _ | queueState h _
  | queue _ h _ =>
    dsimp only
    rw [hother (by omega) (by omega)]
    exact ⟨hlow, hhigh⟩

theorem featuresShown_featureStep {s : VirtioPciFunction × FeatureWindows} {op : VirtioPciOp}
    (hinv : FeaturesInv s.1) (hshown : FeaturesShown s) (haliased : ¬HighAliased s.1 op) :
    FeaturesShown (featureStep s op) := by
  by_cases hop : op.CommonWrite
  · cases op with
    | write calls offset size value =>
      have hwritten := virtioPciWriteCommon_cases s.1 offset size value
      rw [← virtioPciBarWrite_common hop] at hwritten
      exact featuresShown_written hinv hshown haliased hwritten
    | read calls offset size => exact hop.elim
    | raiseQueue index => exact hop.elim
    | raise configurationChange => exact hop.elim
  · have hwindows : (featureStep s op).2 = s.2 := by
      cases op with
      | write calls offset size value =>
        rw [VirtioPciOp.CommonWrite, virtioPciCommonSize] at hop
        dsimp only [featureStep]
        split
        · rw [FeatureWindows.written, if_neg (by omega), if_neg (by omega)]
        · rfl
      | read calls offset size => rfl
      | raiseQueue index => rfl
      | raise configurationChange => rfl
    have hfeatures : (featureStep s op).1.virtio.driverFeatures = s.1.virtio.driverFeatures :=
      (congrArg (·.virtio.driverFeatures) (registersSame_virtioPciStep s.1 hop).eq :)
    rw [FeaturesShown, hwindows, hfeatures]
    exact hshown

end

/-- In every run the driver has only features that are offered. The two windows hold what was last
written to them, and nothing is beyond them, exactly if no access beyond them meets the upper
half. -/
theorem featureWindows_iff {dev : VirtioPciFunction} (hdev : dev.Fresh) (ops : List VirtioPciOp) :
    Throughout featureStep (fun s => s.1.Offered) (dev, ⟨0, 0⟩) ops ∧
      ((Throughout featureStep FeaturesShown (dev, ⟨0, 0⟩) ops ∧
          Allowed featureStep (fun s op => UnusedSelects s.1 op) (dev, ⟨0, 0⟩) ops) ↔
        Allowed featureStep (fun s op => ¬HighAliased s.1 op) (dev, ⟨0, 0⟩) ops) := by
  obtain ⟨hinv, hzero⟩ := hdev.featuresInv
  have hstep (s : VirtioPciFunction × FeatureWindows) (op : VirtioPciOp)
      (h : FeaturesInv s.1) : FeaturesInv (featureStep s op).1 := featuresInv_virtioPciStep h op
  have hstart : FeaturesShown (dev, ⟨0, 0⟩) := by
    rw [FeaturesShown, hzero]
    exact ⟨rfl, rfl⟩
  have hunused := allowed_congr hstep (fun s op h => unusedSelects_iff h op)
    (s := (dev, ⟨0, 0⟩)) hinv ops
  refine ⟨?_, fun h => hunused.mp h.2, fun h => ⟨?_, hunused.mpr h⟩⟩
  · have hany : Allowed featureStep (fun _ _ => True) (dev, ⟨0, 0⟩) ops :=
      .of_forall (fun _ _ => trivial) _
    exact Throughout.of_invariant (fun s op h _ => hstep s op h) (fun s h => h.offered) hinv hany
  · exact Throughout.of_invariant (I := fun s => FeaturesInv s.1 ∧ FeaturesShown s)
      (fun s op hs hop => ⟨hstep s op hs.1, featuresShown_featureStep hs.1 hs.2 hop⟩)
      (fun s hs => hs.2) ⟨hinv, hstart⟩ h

/-- A device without callbacks. -/
def VirtioPciCallbacks.none : VirtioPciCallbacks := ⟨.none, .none, .none⟩

/-- With `2` in the select registers of a block device, the device window shows
`VIRTIO_F_VERSION_1`, and a write to the driver window sets it. -/
theorem featureSelect_two_aliased :
    ∃ dev, virtioPciFunctionInit 2 0x100000246 1 = .ok dev ∧
      (virtioPciBarRead .none (virtioPciStep dev (.write .none 0x00 4 2)) 0x04 4).2 = .ok 1 ∧
      ¬FeaturesShown (runFrom featureStep (dev, ⟨0, 0⟩)
        [.write .none 0x08 4 2, .write .none 0x0c 4 1]) := by
  refine ⟨_, rfl, rfl, ?_⟩
  rintro ⟨-, hhigh⟩
  exact absurd hhigh (by decide)

/-- A driver that uses the two windows only. -/
theorem featureWindows_two :
    ∃ dev, virtioPciFunctionInit 2 0x100000246 1 = .ok dev ∧
      Throughout featureStep FeaturesShown (dev, ⟨0, 0⟩)
        [.write .none 0x0c 4 0x200, .write .none 0x08 4 1, .write .none 0x0c 4 1] := by
  refine ⟨_, rfl, ((featureWindows_iff ⟨2, _, 1, by decide, rfl⟩ _).2.mpr ?_).1⟩
  refine ⟨?_, ?_, ?_, trivial⟩
  · rintro ⟨-, -, hselect, -⟩
    exact absurd hselect (by decide)
  · rintro ⟨-, hoffset, -⟩
    exact absurd hoffset (by decide)
  · rintro ⟨-, -, hselect, -⟩
    exact absurd hselect (by decide)

end Vart
