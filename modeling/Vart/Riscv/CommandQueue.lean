import Vart.Lib.Ring
import Vart.Riscv.Frame

/-!
# The command queue

A write of `CQT` runs the commands from `CQH` on. The guest means the ring order: the commands
from the head up to the tail, with indices modulo the size of the queue (`RunsRing`).

* `iommuExecuteCommand_spec`: what one command does to the queue.
* `iommuCommandLoop_spec`: the loop runs as many commands as the 32-bit counter `CQH` is behind
  `CQT`, which is not the distance in the ring: `CQH` is compared with `CQT` and never reduced.
* `command_queue_ring_iff`: a tail is processed as the guest means it exactly if it is not below
  the head.
-/

namespace Vart

open Lib

/-! ## Commands in memory -/

/-- The command in a slot of the ring at `base`. -/
def commandAt (m : GuestMemory) (base slot : Nat) : Command :=
  match m.readBuffer (base + slot * 16) 16 with
  | .ok command => ⟨slot, loadLe (command.take 8), loadLe (command.drop 8)⟩
  | .error _ => ⟨slot, 0, 0⟩

/-- The `n` slots of the ring at `base` are readable. -/
def RingReadable (m : GuestMemory) (base n : Nat) : Prop :=
  ∀ slot < n, (m.readBuffer (base + slot * 16) 16).isOk = true

/-- The write of `tail` to `CQT` runs the commands from the head up to the tail, in ring order,
and stops there. -/
def RunsRing (sink : Sink) (s : IommuSystem) (n tail : Nat) : Prop :=
  let r := iommuMmioWrite sink s regCqt 4 tail
  r.1.commands = ((ringSlots n s.iommu.cqh (ringUsed n s.iommu.cqh tail)).map
    (commandAt s.memory (queueBase s.iommu.cqb))).reverse ++ s.commands ∧
  r.1.iommu.cqh = tail ∧ r.2 = .ok ()

/-! ## One command -/

/-- What the queue sees of a command: the head moves, and the command is logged. -/
structure CommandDone (s t : IommuSystem) (command : Command) : Prop where
  memory : t.memory = s.memory
  cqt : t.iommu.cqt = s.iommu.cqt
  cqh : t.iommu.cqh = (s.iommu.cqh + 1) % 2 ^ 32
  commands : t.commands = command :: s.commands

theorem iommuExecuteCommand_spec (sink : Sink) (s : IommuSystem) (index : Nat)
    (command : List UInt8) :
    CommandDone s (iommuExecuteCommand sink s index command)
      ⟨index, loadLe (command.take 8), loadLe (command.drop 8)⟩ := by
  have h := contextsOnly_iommuInvalidateCommand s (loadLe (command.take 8)) (loadLe (command.drop 8))
  simp only [iommuExecuteCommand]
  generalize iommuInvalidateCommand s _ _ = r at h
  obtain ⟨t, status⟩ := r
  obtain ⟨contexts, rfl⟩ := h
  cases status with
  | ok _ => exact ⟨rfl, rfl, rfl, rfl⟩
  | error _ => exact ⟨iommuRaiseMsix_memory .., rfl, rfl, rfl⟩

/-! ## The loop -/

/-- One round of the loop on a readable slot. -/
theorem iommuCommandLoop_succ (sink : Sink) {k base fuel : Nat} {s : IommuSystem}
    (hk : k ≤ maxQueueLog2) (hbase : base < 2 ^ 52) (hne : s.iommu.cqh ≠ s.iommu.cqt)
    (hring : RingReadable s.memory base (2 ^ k)) :
    ∃ t, CommandDone s t (commandAt s.memory base (s.iommu.cqh % 2 ^ k)) ∧
      iommuCommandLoop sink (2 ^ k) base (fuel + 1) s =
        iommuCommandLoop sink (2 ^ k) base fuel t := by
  have hsize : (2 : Nat) ^ k ≤ 2 ^ 13 := Nat.pow_le_pow_right (by omega) hk
  have hlt : s.iommu.cqh % 2 ^ k < 2 ^ k := Nat.mod_lt _ (Nat.two_pow_pos k)
  have hbound : ¬ s.iommu.cqh % 2 ^ k > (uint64Max - base - 16) / 16 := by
    simp only [uint64Max]
    omega
  have hslot := hring _ hlt
  rw [iommuCommandLoop, if_neg hne]
  simp only [Nat.and_two_pow_sub_one_eq_mod, if_neg hbound, commandAt]
  generalize s.memory.readBuffer _ 16 = r at hslot
  cases r with
  | error e => cases hslot
  | ok command => exact ⟨_, iommuExecuteCommand_spec sink s _ command, rfl⟩

/-- The loop runs one command for each step of the counter `cqh` up to `cqt`. -/
theorem iommuCommandLoop_spec (sink : Sink) {k base : Nat} (hk : k ≤ maxQueueLog2)
    (hbase : base < 2 ^ 52) (fuel : Nat) (s : IommuSystem) (hh : s.iommu.cqh < 2 ^ 32)
    (ht : s.iommu.cqt < 2 ^ 32) (hfuel : fuel = (s.iommu.cqt + 2 ^ 32 - s.iommu.cqh) % 2 ^ 32)
    (hring : RingReadable s.memory base (2 ^ k)) :
    let r := iommuCommandLoop sink (2 ^ k) base fuel s
    r.1.commands = ((ringSlots (2 ^ k) s.iommu.cqh fuel).map (commandAt s.memory base)).reverse ++
      s.commands ∧ r.1.iommu.cqh = s.iommu.cqt ∧ r.2 = .ok () := by
  induction fuel generalizing s with
  | zero =>
    refine ⟨by simp [ringSlots, iommuCommandLoop], ?_, rfl⟩
    simp only [iommuCommandLoop]
    omega
  | succ fuel ih =>
    have hne : s.iommu.cqh ≠ s.iommu.cqt := by
      intro h
      rw [h] at hfuel
      omega
    obtain ⟨t, hdone, hloop⟩ := iommuCommandLoop_succ sink hk hbase hne hring
    obtain ⟨hlog, hhead, hok⟩ := ih t (by rw [hdone.cqh]; exact Nat.mod_lt _ (by omega))
      (by rw [hdone.cqt]; exact ht) (by rw [hdone.cqh, hdone.cqt]; omega)
      (by rw [hdone.memory]; exact hring)
    rw [hloop]
    refine ⟨?_, hhead.trans hdone.cqt, hok⟩
    -- The counter wraps at `2 ^ 32`, a multiple of the size of the ring.
    have hwrap : t.iommu.cqh % 2 ^ k = (s.iommu.cqh + 1) % 2 ^ k := by
      rw [hdone.cqh]
      exact Nat.mod_mod_of_dvd _ (Nat.pow_dvd_pow 2 (by simp only [maxQueueLog2] at hk; omega))
    rw [hlog, hdone.commands, hdone.memory, ringSlots_congr hwrap, ringSlots_succ]
    simp

/-! ## The register -/

theorem iommuMmioWrite_regCqt (sink : Sink) (s : IommuSystem) (tail : Nat) :
    iommuMmioWrite sink s regCqt 4 tail = iommuProcessCommandQueue sink
      (s.updateIommu fun iommu => { iommu with cqt := tail % 2 ^ 32 }) := by
  unfold iommuMmioWrite
  rw [if_neg (by decide), if_neg (by decide), if_neg (by decide), if_neg (by decide),
    if_pos rfl, if_neg (by decide)]

/-- A write of `CQT` runs the commands of the distance from `cqh` to the tail, modulo `2 ^ 32`. -/
theorem iommuMmioWrite_cqt (sink : Sink) {s : IommuSystem} {k tail : Nat}
    (hk : 1 ≤ k ∧ k ≤ maxQueueLog2) (hsize : queueLog2sz s.iommu.cqb = k)
    (hon : s.iommu.cqcsr &&& cqcsrCqon ≠ 0) (hh : s.iommu.cqh < 2 ^ 32) (ht : tail < 2 ^ 32)
    (hring : RingReadable s.memory (queueBase s.iommu.cqb) (2 ^ k)) :
    let r := iommuMmioWrite sink s regCqt 4 tail
    r.1.commands = ((ringSlots (2 ^ k) s.iommu.cqh
      ((tail + 2 ^ 32 - s.iommu.cqh) % 2 ^ 32)).map
        (commandAt s.memory (queueBase s.iommu.cqb))).reverse ++ s.commands ∧
    r.1.iommu.cqh = tail ∧ r.2 = .ok () := by
  have hmod : tail % 2 ^ 32 = tail := Nat.mod_eq_of_lt ht
  have hwrite : iommuMmioWrite sink s regCqt 4 tail =
      iommuCommandLoop sink (2 ^ k) (queueBase s.iommu.cqb)
        ((tail + 2 ^ 32 - s.iommu.cqh) % 2 ^ 32)
        (s.updateIommu fun iommu => { iommu with cqt := tail }) := by
    have hvalid : ¬ (k = 0 ∨ k > maxQueueLog2) := by omega
    rw [iommuMmioWrite_regCqt, hmod, iommuProcessCommandQueue]
    simp only [IommuSystem.updateIommu, hsize, if_neg hon, if_neg hvalid]
    rw [Nat.one_shiftLeft]
  rw [hwrite]
  generalize hfuel : (tail + 2 ^ 32 - s.iommu.cqh) % 2 ^ 32 = fuel
  exact iommuCommandLoop_spec sink hk.2 (queueBase_lt _) fuel
    (s.updateIommu fun iommu => { iommu with cqt := tail }) hh ht hfuel.symm hring

/-- The distance of the counters is the distance in the ring unless the tail is below the head. -/
theorem counter_distance_eq_iff {k h t : Nat} (hk : k ≤ maxQueueLog2) (hh : h < 2 ^ k)
    (ht : t < 2 ^ k) : (t + 2 ^ 32 - h) % 2 ^ 32 = ringUsed (2 ^ k) h t ↔ h ≤ t := by
  have hsize : (2 : Nat) ^ k ≤ 2 ^ 13 := Nat.pow_le_pow_right (by omega) hk
  rw [ringUsed_eq hh ht]
  split <;> omega

/-- With the queue on and a readable ring of `2 ^ k` slots, a tail that the guest writes is
processed in ring order exactly if it is not below the head. -/
theorem command_queue_ring_iff (sink : Sink) {s : IommuSystem} {k tail : Nat}
    (hk : 1 ≤ k ∧ k ≤ maxQueueLog2) (hsize : queueLog2sz s.iommu.cqb = k)
    (hon : s.iommu.cqcsr &&& cqcsrCqon ≠ 0) (hh : s.iommu.cqh < 2 ^ k) (ht : tail < 2 ^ k)
    (hring : RingReadable s.memory (queueBase s.iommu.cqb) (2 ^ k)) :
    RunsRing sink s (2 ^ k) tail ↔ s.iommu.cqh ≤ tail := by
  have hword : (2 : Nat) ^ k ≤ 2 ^ 32 :=
    Nat.pow_le_pow_right (by omega) (by simp only [maxQueueLog2] at hk; omega)
  obtain ⟨hlog, hhead, hok⟩ :=
    iommuMmioWrite_cqt sink hk hsize hon (hh.trans_le hword) (ht.trans_le hword) hring
  have hiff := counter_distance_eq_iff hk.2 hh ht
  constructor
  · intro h
    -- The numbers of commands tell the two distances apart.
    have hlen := congrArg List.length (hlog.symm.trans h.1)
    simp only [List.length_append, List.length_reverse, List.length_map, length_ringSlots] at hlen
    exact hiff.mp (by omega)
  · intro hle
    refine ⟨?_, hhead, hok⟩
    rw [hlog, hiff.mpr hle]

/-- A queue of two slots, on, with both pointers at `0`. -/
def commandQueueOn : IommuSystem :=
  runFrom (iommuStep fun _ => .ok ()) (iommuAtReset ramAtDram)
    [.mmioWrite regCqb 8 (0x80000 <<< 10 ||| 1), .mmioWrite regCqcsr 4 1]

theorem commandQueueOn_runs : RunsRing (fun _ => .ok ()) commandQueueOn 2 1 :=
  (command_queue_ring_iff _ (k := 1) (by decide) (by decide +kernel) (by decide +kernel)
    (by decide +kernel) (by decide) (by unfold RingReadable; decide +kernel)).mpr (by decide +kernel)

/-- After its first command the queue of two slots is given the tail `0`: the guest means the
command in slot `1`, and `2 ^ 32 - 1` commands run. -/
theorem wrapped_tail_overruns :
    let s := iommuStep (fun _ => .ok ()) commandQueueOn (.mmioWrite regCqt 4 1)
    (queueLog2sz s.iommu.cqb = 1 ∧ s.iommu.cqcsr &&& cqcsrCqon ≠ 0 ∧ s.iommu.cqh = 1 ∧
      RingReadable s.memory (queueBase s.iommu.cqb) 2) ∧
    (iommuMmioWrite (fun _ => .ok ()) s regCqt 4 0).1.commands.length =
      s.commands.length + (2 ^ 32 - 1) ∧
    ¬ RunsRing (fun _ => .ok ()) s 2 0 := by
  intro s
  have hsize : queueLog2sz s.iommu.cqb = 1 := by decide +kernel
  have hon : s.iommu.cqcsr &&& cqcsrCqon ≠ 0 := by decide +kernel
  have hhead : s.iommu.cqh = 1 := by decide +kernel
  have hring : RingReadable s.memory (queueBase s.iommu.cqb) 2 := by
    unfold RingReadable
    decide +kernel
  obtain ⟨hlog, -, -⟩ := @iommuMmioWrite_cqt (fun _ => .ok ()) s 1 0 (by decide) hsize hon
    (by omega) (by decide) hring
  have hlen := congrArg List.length hlog
  simp only [List.length_append, List.length_reverse, List.length_map, length_ringSlots,
    hhead] at hlen
  refine ⟨⟨hsize, hon, hhead, hring⟩, by omega, fun h => ?_⟩
  have hlen' := congrArg List.length h.1
  simp only [List.length_append, List.length_reverse, List.length_map, length_ringSlots, hhead,
    ringUsed] at hlen'
  omega

end Vart
