import Mathlib.Algebra.Order.BigOperators.Group.List
import Mathlib.Algebra.Order.Group.Nat
import Mathlib.Data.List.Nodup
import Mathlib.Data.List.Perm.Subperm
import Vart.Boot.Fdt
import Vart.Lib.DtForest

/-!
# Building a devicetree

What the builder of `boot/fdt.c` does with the calls for a whole tree: they are accepted one after
the other until the structure block is full. With strings for the names of all properties, nothing
else can fail.

* `FdtOp.cost`: the bytes of the structure block that a call takes.
* `fdtIntern_fits`: a name out of a list that fits into the strings block has room there.
* `forest_calls`: the calls for a forest inside a node.
* `fdtBuild_tree`: a blob made from the calls for a tree has that tree.
* `fdtBuild_result`: the calls for a tree and `vart_fdt_finish` give a blob exactly if the structure
  block has room for all of it, and else `-ENOSPC`.
-/

namespace Vart

open Lib

/-! ## Calls in a row -/

/-- One call, as a step that may fail. -/
def fdtCall? (fdt : Fdt) (op : FdtOp) : Except Errno Fdt :=
  match fdtCall fdt op with
  | (fdt, .ok _) => .ok fdt
  | (_, .error e) => .error e

/-- `if (ret == 0) ret = …`: the calls one after the other, until one fails. -/
def fdtCalls (fdt : Fdt) : List FdtOp → Except Errno Fdt
  | [] => .ok fdt
  | op :: ops => do
    let fdt ← fdtCall? fdt op
    fdtCalls fdt ops

theorem fdtCalls_append (fdt : Fdt) (ops more : List FdtOp) :
    fdtCalls fdt (ops ++ more) = fdtCalls fdt ops >>= fun fdt => fdtCalls fdt more := by
  induction ops generalizing fdt with
  | nil => rfl
  | cons op ops ih =>
    rw [List.cons_append, fdtCalls, fdtCalls]
    cases fdtCall? fdt op with
    | error e => rfl
    | ok fdt' => exact ih fdt'

/-- `size` filled up to a multiple of four. -/
def padded (size : Nat) : Nat := (size + 3) / 4 * 4

/-- The bytes of the structure block that an accepted call takes. -/
def FdtOp.cost : FdtOp → Nat
  | .beginNode name => padded (4 + name.size)
  | .property _ data => padded (12 + data.length)
  | .endNode => 4
  | .finish _ => 4

/-- The calls for the nodes of a forest. -/
def forestOps : DtForest CString → List FdtOp
  | .nil => []
  | .node name properties children siblings =>
    .beginNode name :: (properties.map fun p => .property p.1 p.2) ++
      (forestOps children ++ .endNode :: forestOps siblings)

def opsCost (ops : List FdtOp) : Nat := (ops.map FdtOp.cost).sum

@[simp] theorem opsCost_nil : opsCost [] = 0 := rfl

@[simp] theorem opsCost_cons (op : FdtOp) (ops : List FdtOp) :
    opsCost (op :: ops) = op.cost + opsCost ops := by simp [opsCost]

@[simp] theorem opsCost_append (ops more : List FdtOp) :
    opsCost (ops ++ more) = opsCost ops + opsCost more := by simp [opsCost]

/-! ## Room in the strings block -/

/-- The size of the strings block with the names `names`. -/
def namesSize (names : List CString) : Nat := (names.map CString.size).sum

theorem length_flatMap_terminated (names : List CString) :
    (names.flatMap CString.terminated).length = namesSize names := by
  simp only [List.length_flatMap, CString.length_terminated, namesSize]

/-- Different names of a list take at most the size of the list. -/
theorem namesSize_le {names all : List CString} (hnodup : names.Nodup) (hsub : names ⊆ all) :
    namesSize names ≤ namesSize all := by
  obtain ⟨l, hperm, hl⟩ := List.subperm_of_subset hnodup hsub
  calc namesSize names = namesSize l := ((hperm.map _).sum_eq).symm
    _ ≤ namesSize all := (hl.map _).sum_le_sum fun _ _ => Nat.zero_le _

/-- A search that fails has looked at every name. -/
theorem Fdt.Interned.not_mem_of_findStringFrom {fdt : Fdt} {before after : List CString}
    (h : fdt.Interned (before ++ after)) {name : CString}
    (hfind : fdt.findStringFrom name.bytes (before.flatMap CString.terminated).length = none) :
    name ∉ after := by
  induction after generalizing before with
  | nil => exact List.not_mem_nil
  | cons c after ih =>
    have hsize := h.size
    simp only [List.flatMap_append, List.flatMap_cons, List.length_append,
      CString.length_terminated, CString.size] at hsize
    rw [Fdt.findStringFrom, h.stringAt, if_pos (by omega)] at hfind
    split at hfind
    · cases hfind
    · rename_i hne
      have hcat : before ++ c :: after = before ++ [c] ++ after := by simp
      rw [hcat] at h
      refine List.not_mem_cons_of_ne_of_not_mem (fun he => hne (he ▸ rfl)) (ih h ?_)
      rw [List.flatMap_append, List.length_append, List.flatMap_singleton,
        CString.length_terminated]
      exact hfind

/-- The strings block has some of the names `all`, each once, and room for the others. -/
structure Fdt.StringsFit (all : List CString) (fdt : Fdt) : Prop where
  interned : ∃ names, fdt.Interned names ∧ names.Nodup ∧ names ⊆ all
  room : namesSize all ≤ fdt.stringsCapacity

theorem fdtIntern_fits {all : List CString} {fdt : Fdt} (h : fdt.StringsFit all) {name : CString}
    (hname : name ∈ all) :
    ∃ fdt' offset, fdtIntern fdt name = (fdt', .ok offset) ∧ fdt'.StringsFit all := by
  obtain ⟨names, hnames, hnodup, hsub⟩ := h.interned
  unfold fdtIntern
  split
  · exact ⟨fdt, _, rfl, h⟩
  · rename_i hfind
    have hnew : name ∉ names := @Fdt.Interned.not_mem_of_findStringFrom _ [] _ hnames _ hfind
    have hnodup' : (names ++ [name]).Nodup := by
      rw [List.nodup_append_comm]
      exact List.nodup_cons.mpr ⟨hnew, hnodup⟩
    have hsub' : names ++ [name] ⊆ all := by
      intro c hc
      rcases List.mem_append.mp hc with hc | hc
      · exact hsub hc
      · exact List.mem_singleton.mp hc ▸ hname
    have hle := namesSize_le hnodup' hsub'
    have hsize := hnames.size
    have hroom := h.room
    rw [length_flatMap_terminated] at hsize
    have hsum : namesSize (names ++ [name]) = namesSize names + name.size := by simp [namesSize]
    rw [if_neg (by omega)]
    refine ⟨_, _, rfl, ⟨names ++ [name], ⟨?_, ?_, ?_⟩, hnodup', hsub'⟩, hroom⟩
    · rw [List.flatMap_append, List.flatMap_singleton]
      dsimp only
      rw [hnames.size]
      exact hnames.filled.write _
    · rw [length_flatMap_terminated, hsum]
      dsimp only
      rw [hsize]
    · dsimp only
      omega

/-! ## One call -/

/-- A tree under construction, whose properties have names in `all`. -/
structure Fdt.Open (all : List CString) (fdt : Fdt) (events : List DtbEvent) : Prop where
  holds : ∃ items names, fdt.Holds items names events
  strings : fdt.StringsFit all
  rootSeen : fdt.rootSeen = true ↔ fdt.depth ≠ 0
  rootClosed : fdt.rootClosed = false
  finished : fdt.finished = false

/-- The result of calls that take `cost` bytes of the structure block, if space is the only thing
they can lack. -/
structure Fdt.Answers (fdt : Fdt) (cost : Nat) (result : Except Errno Fdt) (after : Fdt → Prop) :
    Prop where
  taken : fdt.structureSize + cost ≤ fdt.structureCapacity →
    ∃ fdt', result = .ok fdt' ∧ fdt'.structureSize = fdt.structureSize + cost ∧
      fdt'.structureCapacity = fdt.structureCapacity ∧ after fdt'
  full : fdt.structureCapacity < fdt.structureSize + cost → result = .error .enospc

/-- Space is the only thing that `reserve_structure` can lack. -/
theorem Fdt.reserveStructure_eq {fdt : Fdt} {size : Nat} (hsize : size ≤ 2 ^ 33) :
    fdt.reserveStructure size =
      if fdt.structureCapacity - fdt.structureSize < padded size then .error .enospc
      else .ok () := by
  have hmax : sizeMax = 2 ^ 64 - 1 := rfl
  unfold Fdt.reserveStructure alignedSize
  rw [if_neg (by omega)]
  rfl

theorem Fdt.Holds.size_mod {fdt : Fdt} {items : List DtbItem} {names : List CString}
    {events : List DtbEvent} (h : fdt.Holds items names events) : fdt.structureSize % 4 = 0 := by
  rw [h.written.size]
  exact Dtb.length_items_mod items

theorem Fdt.enter_size {fdt : Fdt} (h : fdt.structureSize % 4 = 0) (name : CString) :
    (fdt.enter name).structureSize = fdt.structureSize + padded (4 + name.size) := by
  have hsize : (fdt.enter name).structureSize =
      (fdt.structureSize + 4 + name.terminated.length + 3) / 4 * 4 := rfl
  rw [hsize, CString.length_terminated, padded]
  omega

theorem Fdt.addProperty_size {fdt : Fdt} (h : fdt.structureSize % 4 = 0) (offset : Nat)
    (data : List UInt8) : (fdt.addProperty offset data).structureSize =
      fdt.structureSize + padded (12 + data.length) := by
  have hsize : (fdt.addProperty offset data).structureSize =
      (fdt.structureSize + 4 + 4 + 4 + data.length + 3) / 4 * 4 := rfl
  rw [hsize, padded]
  omega

variable {all : List CString} {fdt : Fdt} {events : List DtbEvent}

/-- A call that reserves `size` bytes and then only fills them. -/
theorem Fdt.answers_of_reserve {size : Nat} {result : Except Errno Fdt} {after : Fdt → Prop}
    (hsize : size ≤ 2 ^ 33) (hfits : fdt.structureSize ≤ fdt.structureCapacity)
    (hok : fdt.reserveStructure size = .ok () →
      ∃ fdt', result = .ok fdt' ∧ fdt'.structureSize = fdt.structureSize + padded size ∧
        fdt'.structureCapacity = fdt.structureCapacity ∧ after fdt')
    (herror : fdt.reserveStructure size = .error .enospc → result = .error .enospc) :
    fdt.Answers (padded size) result after := by
  have hreserve := fdt.reserveStructure_eq hsize
  constructor
  · intro hroom
    exact hok (by rw [hreserve, if_neg (by omega)])
  · intro hroom
    exact herror (by rw [hreserve, if_pos (by omega)])

/-- The first node has no name, and all others have one. -/
theorem Fdt.Open.beginNode (h : fdt.Open all events) {name : CString}
    (hname : name.bytes = [] ↔ fdt.depth = 0) (hslash : slash ∉ name.bytes)
    (hsize : name.size ≤ 2 ^ 32) :
    fdt.Answers (FdtOp.beginNode name).cost (fdtCall? fdt (.beginNode name)) fun fdt' =>
      fdt'.Open all (events ++ [.beginNode name.bytes]) ∧ fdt'.depth = fdt.depth + 1 ∧
        fdt'.childSeen fdt.depth = false := by
  obtain ⟨items, names, hholds⟩ := h.holds
  have hmax : sizeMax = 2 ^ 64 - 1 := rfl
  have hargs : ¬(fdt.finished = true ∨ fdt.rootClosed = true ∨
      ((!fdt.rootSeen) = true ∧ name.bytes ≠ []) ∨ (fdt.rootSeen = true ∧ name.bytes = []) ∨
      slash ∈ name.bytes) := by
    rw [Bool.not_eq_true', ← Bool.not_eq_true, h.rootSeen, h.finished, h.rootClosed]
    simp [hslash, hname]
  have hcall : fdtCall? fdt (.beginNode name) =
      fdt.reserveStructure (4 + name.size) >>= fun _ => .ok (fdt.enter name) := by
    rw [fdtCall?, fdtCall, fdtBeginNode, if_neg hargs, if_neg (Nat.not_le.mpr hholds.depth_lt),
      if_neg (show ¬ sizeMax - 4 < name.size by omega)]
    cases fdt.reserveStructure (4 + name.size) <;> rfl
  refine Fdt.answers_of_reserve (by omega) hholds.fits (fun hreserve => ?_) fun hreserve => ?_
  · have hdepth : (fdt.enter name).depth = fdt.depth + 1 := by
      have hnest := hholds.depth
      have hfits := hholds.fits
      have hcap := hholds.capacity
      have hmax32 : uint32Max = 2 ^ 32 - 1 := rfl
      show (fdt.depth + 1) % 2 ^ 32 = _
      rw [Nat.mod_eq_of_lt (by omega)]
    refine ⟨fdt.enter name, by rw [hcall, hreserve]; rfl, Fdt.enter_size hholds.size_mod name, rfl,
      ⟨⟨_, _, hholds.enter hreserve⟩, ?_, ?_, h.rootClosed, h.finished⟩, hdepth,
      Function.update_self ..⟩
    · obtain ⟨strs, hstrs, hnodup, hsub⟩ := h.strings.interned
      exact ⟨⟨strs, ⟨hstrs.filled, hstrs.size, hstrs.fits⟩, hnodup, hsub⟩, h.strings.room⟩
    · rw [hdepth]
      exact iff_of_true rfl (Nat.succ_ne_zero _)
  · rw [hcall, hreserve]
    rfl

/-- A property of a node without children yet. -/
theorem Fdt.Open.property (h : fdt.Open all events) (hdepth : fdt.depth ≠ 0)
    (hchild : fdt.childSeen (fdt.depth - 1) = false) {name : CString} (hname : name ∈ all)
    (hne : name.bytes ≠ []) {data : List UInt8} (hdata : data.length ≤ uint32Max) :
    fdt.Answers (FdtOp.property name data).cost (fdtCall? fdt (.property name data)) fun fdt' =>
      fdt'.Open all (events ++ [.property name.bytes data]) ∧ fdt'.depth = fdt.depth ∧
        fdt'.childSeen = fdt.childSeen := by
  obtain ⟨items, names, hholds⟩ := h.holds
  have hmax : sizeMax = 2 ^ 64 - 1 := rfl
  have hmax32 : uint32Max = 2 ^ 32 - 1 := rfl
  have hargs : ¬(name.bytes = [] ∨ fdt.finished = true ∨ fdt.depth = 0 ∨
      fdt.childSeen (fdt.depth - 1) = true) := by
    simp [hne, h.finished, hdepth, hchild]
  obtain ⟨fdt', offset, hintern, hstrings⟩ := fdtIntern_fits h.strings hname
  obtain ⟨hframe, -⟩ := fdtIntern_ok hintern hholds.interned
  have hcall : fdtCall? fdt (.property name data) =
      fdt.reserveStructure (12 + data.length) >>= fun _ => .ok (fdt'.addProperty offset data) := by
    rw [fdtCall?, fdtCall, fdtProperty, if_neg hargs,
      if_neg (show ¬ uint32Max < data.length by omega),
      if_neg (show ¬ sizeMax - 3 * 4 < data.length by omega), hintern]
    cases fdt.reserveStructure (12 + data.length) <;> rfl
  refine Fdt.answers_of_reserve (by omega) hholds.fits (fun hreserve => ?_) fun hreserve => ?_
  · have hsize : fdt'.structureSize = fdt.structureSize := by rw [hframe]
    have hgrow := Fdt.addProperty_size (hsize ▸ hholds.size_mod) offset data
    rw [hsize] at hgrow
    have hkept : (fdt'.addProperty offset data).depth = fdt.depth ∧
        (fdt'.addProperty offset data).childSeen = fdt.childSeen ∧
        (fdt'.addProperty offset data).structureCapacity = fdt.structureCapacity ∧
        (fdt'.addProperty offset data).rootSeen = fdt.rootSeen ∧
        (fdt'.addProperty offset data).rootClosed = fdt.rootClosed ∧
        (fdt'.addProperty offset data).finished = fdt.finished := by
      rw [hframe]
      exact ⟨rfl, rfl, rfl, rfl, rfl, rfl⟩
    obtain ⟨hdepth', hseen, hcap, hroot, hclosed, hfinished⟩ := hkept
    refine ⟨fdt'.addProperty offset data, by rw [hcall, hreserve]; rfl, hgrow, hcap,
      ⟨hholds.addProperty hdepth hchild hdata hreserve hintern, ?_, ?_,
        hclosed.trans h.rootClosed, hfinished.trans h.finished⟩, hdepth', hseen⟩
    · obtain ⟨strs, hstrs, hnodup, hsub⟩ := hstrings.interned
      exact ⟨⟨strs, ⟨hstrs.filled, hstrs.size, hstrs.fits⟩, hnodup, hsub⟩, hstrings.room⟩
    · rw [hroot, hdepth', h.rootSeen]
  · rw [hcall, hreserve]
    rfl

theorem Fdt.leave_eq (fdt : Fdt) : fdt.leave = { fdt.appendU32 Dtb.endNodeToken with
    depth := fdt.depth - 1
    rootClosed := if fdt.depth - 1 = 0 then true else fdt.rootClosed } := by
  unfold Fdt.leave
  extract_lets fdt₁ fdt₂
  have hdepth : fdt₂.depth = fdt.depth - 1 := rfl
  rw [hdepth]
  split <;> rfl

/-- The end of a node. The tree stays open, if the node was not the root. -/
theorem Fdt.Open.endNode (h : fdt.Open all events) (hdepth : fdt.depth ≠ 0) :
    fdt.Answers FdtOp.endNode.cost (fdtCall? fdt .endNode) fun fdt' =>
      (∃ items names, fdt'.Holds items names (events ++ [.endNode])) ∧
        fdt'.StringsFit all ∧ fdt'.depth = fdt.depth - 1 ∧ fdt'.rootSeen = true ∧
        fdt'.finished = false ∧
        fdt'.rootClosed = if fdt.depth - 1 = 0 then true else false := by
  obtain ⟨items, names, hholds⟩ := h.holds
  have hargs : ¬(fdt.finished = true ∨ fdt.depth = 0) := by simp [h.finished, hdepth]
  have hcall : fdtCall? fdt .endNode =
      fdt.reserveStructure 4 >>= fun _ => .ok fdt.leave := by
    rw [fdtCall?, fdtCall, fdtEndNode, if_neg hargs]
    cases fdt.reserveStructure 4 <;> rfl
  refine @Fdt.answers_of_reserve fdt 4 _ _ (by decide) hholds.fits (fun hreserve => ?_)
    fun hreserve => ?_
  · refine ⟨fdt.leave, by rw [hcall, hreserve]; rfl, ?_⟩
    have hleave := hholds.leave hdepth hreserve
    rw [Fdt.leave_eq] at hleave ⊢
    refine ⟨rfl, rfl, ⟨_, _, hleave⟩, ?_, rfl, h.rootSeen.mpr hdepth, h.finished, ?_⟩
    · obtain ⟨strs, hstrs, hnodup, hsub⟩ := h.strings.interned
      exact ⟨⟨strs, ⟨hstrs.filled, hstrs.size, hstrs.fits⟩, hnodup, hsub⟩, h.strings.room⟩
    · dsimp only
      rw [h.rootClosed]
  · rw [hcall, hreserve]
    rfl

/-! ## Calls for a tree -/

theorem Fdt.answers_nil {after : Fdt → Prop} (hfits : fdt.structureSize ≤ fdt.structureCapacity)
    (h : after fdt) : fdt.Answers (opsCost []) (fdtCalls fdt []) after :=
  ⟨fun _ => ⟨fdt, rfl, rfl, rfl, h⟩, fun hfull => absurd hfits (by simpa using hfull)⟩

theorem Fdt.Answers.bind {cost more : Nat} {result : Except Errno Fdt}
    {next : Fdt → Except Errno Fdt} {between after : Fdt → Prop}
    (h : fdt.Answers cost result between)
    (hnext : ∀ fdt', between fdt' → fdt'.Answers more (next fdt') after) :
    fdt.Answers (cost + more) (result >>= next) after := by
  constructor
  · intro hroom
    obtain ⟨fdt', rfl, hsize, hcap, hbetween⟩ := h.taken (by omega)
    obtain ⟨fdt'', hok, hsize', hcap', hafter⟩ := (hnext fdt' hbetween).taken (by omega)
    exact ⟨fdt'', hok, by omega, by omega, hafter⟩
  · intro hfull
    by_cases hroom : fdt.structureSize + cost ≤ fdt.structureCapacity
    · obtain ⟨fdt', rfl, hsize, hcap, hbetween⟩ := h.taken hroom
      exact (hnext fdt' hbetween).full (by omega)
    · rw [h.full (by omega)]
      rfl

theorem Fdt.Answers.cons {op : FdtOp} {ops : List FdtOp} {between after : Fdt → Prop}
    (h : fdt.Answers op.cost (fdtCall? fdt op) between)
    (hops : ∀ fdt', between fdt' → fdt'.Answers (opsCost ops) (fdtCalls fdt' ops) after) :
    fdt.Answers (opsCost (op :: ops)) (fdtCalls fdt (op :: ops)) after := by
  rw [opsCost_cons]
  exact h.bind hops

theorem Fdt.Answers.append {ops more : List FdtOp} {between after : Fdt → Prop}
    (h : fdt.Answers (opsCost ops) (fdtCalls fdt ops) between)
    (hmore : ∀ fdt', between fdt' → fdt'.Answers (opsCost more) (fdtCalls fdt' more) after) :
    fdt.Answers (opsCost (ops ++ more)) (fdtCalls fdt (ops ++ more)) after := by
  rw [opsCost_append, fdtCalls_append]
  exact h.bind hmore

theorem Fdt.Open.fits (h : fdt.Open all events) : fdt.structureSize ≤ fdt.structureCapacity := by
  obtain ⟨items, names, hholds⟩ := h.holds
  exact hholds.fits

/-- The builder takes the properties, space apart. -/
def PropertiesValid (all : List CString) (properties : List (CString × List UInt8)) : Prop :=
  ∀ p ∈ properties, p.1 ∈ all ∧ p.1.bytes ≠ [] ∧ p.2.length ≤ uint32Max

/-- The builder takes the nodes, space apart. -/
def ForestValid (all : List CString) : DtForest CString → Prop
  | .nil => True
  | .node name properties children siblings =>
    (name.bytes ≠ [] ∧ slash ∉ name.bytes ∧ name.size ≤ 2 ^ 32) ∧
      PropertiesValid all properties ∧ ForestValid all children ∧ ForestValid all siblings

theorem properties_calls {properties : List (CString × List UInt8)}
    (hvalid : PropertiesValid all properties) (h : fdt.Open all events) (hdepth : fdt.depth ≠ 0)
    (hchild : fdt.childSeen (fdt.depth - 1) = false) :
    fdt.Answers (opsCost (properties.map fun p => .property p.1 p.2))
      (fdtCalls fdt (properties.map fun p => .property p.1 p.2)) fun fdt' =>
        fdt'.Open all (events ++ properties.map fun p => .property p.1.bytes p.2) ∧
          fdt'.depth = fdt.depth := by
  induction properties generalizing fdt events with
  | nil => exact Fdt.answers_nil h.fits ⟨by simpa using h, rfl⟩
  | cons p properties ih =>
    obtain ⟨⟨hname, hne, hdata⟩, hrest⟩ := List.forall_mem_cons.mp hvalid
    refine (h.property hdepth hchild hname hne hdata).cons ?_
    rintro fdt' ⟨hopen, hdepth', hseen⟩
    have hcalls := ih hrest hopen (by rwa [hdepth']) (by rwa [hdepth', hseen])
    rwa [hdepth', List.append_assoc, List.singleton_append] at hcalls

/-- The calls for a forest inside a node. -/
theorem forest_calls {f : DtForest CString} (hvalid : ForestValid all f) (h : fdt.Open all events)
    (hdepth : fdt.depth ≠ 0) :
    fdt.Answers (opsCost (forestOps f)) (fdtCalls fdt (forestOps f)) fun fdt' =>
      fdt'.Open all (events ++ (f.map CString.bytes).events) ∧ fdt'.depth = fdt.depth := by
  induction f generalizing fdt events with
  | nil => exact Fdt.answers_nil h.fits ⟨by simpa [DtForest.map, DtForest.events] using h, rfl⟩
  | node name properties children siblings ihc ihs =>
    obtain ⟨⟨hname, hslash, hsize⟩, hprops, hchildren, hsiblings⟩ := hvalid
    have hbegin := h.beginNode (iff_of_false hname hdepth) hslash hsize
    rw [forestOps, List.cons_append]
    refine hbegin.cons ?_
    rintro fdt₁ ⟨hopen₁, hdepth₁, hchild₁⟩
    refine (properties_calls hprops hopen₁ (by omega) (by rwa [hdepth₁])).append ?_
    rintro fdt₂ ⟨hopen₂, hdepth₂⟩
    refine (ihc hchildren hopen₂ (by omega)).append ?_
    rintro fdt₃ ⟨hopen₃, hdepth₃⟩
    refine (hopen₃.endNode (by omega)).cons ?_
    rintro fdt₄ ⟨hholds₄, hstrings₄, hdepth₄, hroot₄, hfinished₄, hclosed₄⟩
    rw [if_neg (by omega)] at hclosed₄
    have hopen₄ : fdt₄.Open all _ :=
      ⟨hholds₄, hstrings₄, iff_of_true hroot₄ (by omega), hclosed₄, hfinished₄⟩
    have hrest := ihs hsiblings hopen₄ (by omega)
    have hback : fdt₄.depth = fdt.depth := by omega
    rw [hback] at hrest
    simpa [DtForest.map, DtForest.events, Function.comp_def] using hrest

/-! ## From the first call to the blob -/

/-- The calls `ops` and then `vart_fdt_finish`. -/
def fdtBuild (fdt : Fdt) (ops : List FdtOp) (alloc : Bool) : Except Errno (List UInt8) := do
  let fdt ← fdtCalls fdt ops
  (fdtFinish fdt alloc).2

/-- Calls that were all accepted keep the invariant of the builder. -/
theorem FdtRun.Inv.calls {ops : List FdtOp} {fdt' : Fdt} (h : (FdtRun.mk fdt events).Inv)
    (hcalls : fdtCalls fdt ops = .ok fdt') :
    (FdtRun.mk fdt' (events ++ ops.flatMap FdtOp.events)).Inv := by
  induction ops generalizing fdt events with
  | nil =>
    cases hcalls
    simpa using h
  | cons op ops ih =>
    rw [fdtCalls, fdtCall?] at hcalls
    have hstep := h.step op
    split at hcalls
    · rename_i fdt₁ u hcall
      rw [fdtStep_ok op hcall] at hstep
      simpa using ih hstep hcalls
    · cases hcalls

theorem flatMap_events_forestOps (f : DtForest CString) :
    (forestOps f).flatMap FdtOp.events = (f.map CString.bytes).events := by
  induction f with
  | nil => rfl
  | node name properties children siblings ihc ihs =>
    have hproperties : (properties.map fun p => FdtOp.property p.1 p.2).flatMap FdtOp.events =
        properties.map fun p => .property p.1.bytes p.2 := by
      rw [List.flatMap_map]
      exact List.map_eq_flatMap.symm
    simp [forestOps, DtForest.map, DtForest.events, ihc, ihs, FdtOp.events, hproperties]

/-- A blob made from the calls for a forest has that forest. -/
theorem fdtBuild_tree {structureCapacity stringsCapacity : Nat}
    (hinit : fdtInit structureCapacity stringsCapacity true = .ok fdt) {f : DtForest CString}
    {alloc : Bool} {blob : List UInt8} (hbuild : fdtBuild fdt (forestOps f) alloc = .ok blob) :
    Dtb.tree blob = some (f.map CString.bytes) := by
  have hinv : (FdtRun.mk fdt []).Inv := FdtRun.Initial.inv ⟨_, _, hinit, rfl⟩
  rw [fdtBuild] at hbuild
  cases hcalls : fdtCalls fdt (forestOps f) with
  | error e => rw [hcalls] at hbuild; cases hbuild
  | ok fdt' =>
    rw [hcalls] at hbuild
    have hdecode := (hinv.calls hcalls).decode_finish (Prod.ext rfl hbuild)
    rw [flatMap_events_forestOps] at hdecode
    exact Dtb.tree_eq hdecode

/-- `vart_fdt_finish` on a closed tree in small buffers. -/
theorem fdtFinish_closed (hcap : fdt.structureCapacity ≤ 2 ^ 30)
    (hfits : fdt.structureSize ≤ fdt.structureCapacity) (hstrings : fdt.stringsSize ≤ 2 ^ 30)
    (hroot : fdt.rootSeen = true) (hclosed : fdt.rootClosed = true) (hdepth : fdt.depth = 0)
    (hfinished : fdt.finished = false) :
    (fdt.structureSize + 4 ≤ fdt.structureCapacity → ∃ blob, (fdtFinish fdt true).2 = .ok blob) ∧
      (fdt.structureCapacity < fdt.structureSize + 4 →
        (fdtFinish fdt true).2 = .error .enospc) := by
  have hmax : sizeMax = 2 ^ 64 - 1 := rfl
  have hmax32 : uint32Max = 2 ^ 32 - 1 := rfl
  have hreserve := fdt.reserveStructure_eq (show 4 ≤ 2 ^ 33 by decide)
  have hpadded : padded 4 = 4 := rfl
  rw [hpadded] at hreserve
  unfold fdtFinish
  extract_lets structureOffset stringsOffset
  rw [if_neg (show ¬(fdt.finished = true ∨ (!fdt.rootSeen) = true ∨ (!fdt.rootClosed) = true ∨
    fdt.depth ≠ 0) by simp [hfinished, hroot, hclosed, hdepth])]
  constructor
  · intro hroom
    rw [hreserve, if_neg (show ¬ fdt.structureCapacity - fdt.structureSize < 4 by omega)]
    dsimp only
    rw [if_neg (show ¬ sizeMax - fdt.structureSize - 4 < structureOffset by omega),
      if_neg (show ¬(uint32Max < stringsOffset ∨ uint32Max - stringsOffset < fdt.stringsSize) by
        omega)]
    exact ⟨_, rfl⟩
  · intro hfull
    rw [hreserve, if_pos (by omega)]

theorem Fdt.open_of_init {structureCapacity stringsCapacity : Nat}
    (hinit : fdtInit structureCapacity stringsCapacity true = .ok fdt)
    (hnames : namesSize all ≤ stringsCapacity) :
    fdt.Open all [] ∧ fdt.structureSize = 0 ∧ fdt.structureCapacity = structureCapacity ∧
      fdt.depth = 0 := by
  unfold fdtInit at hinit
  split at hinit
  · cases hinit
  split at hinit
  · cases hinit
  cases hinit
  refine ⟨⟨⟨[], [], ⟨Store.filled_zero, rfl⟩, Nat.zero_le _, ?_,
    ⟨Store.filled_zero, rfl, Nat.zero_le _⟩, ?_, rfl, Nat.zero_le _, rfl, .nil⟩,
    ⟨⟨[], ⟨Store.filled_zero, rfl, Nat.zero_le _⟩, List.nodup_nil, List.nil_subset _⟩, hnames⟩,
    ?_, rfl, rfl⟩, rfl, rfl, rfl⟩
  · dsimp only
    omega
  · dsimp only
    omega
  · simp

/-- The calls for a tree and `vart_fdt_finish` give a blob exactly if the structure block has room
for all of it, and else `-ENOSPC`. -/
theorem fdtBuild_result {structureCapacity stringsCapacity : Nat}
    (hinit : fdtInit structureCapacity stringsCapacity true = .ok fdt)
    (hstructure : structureCapacity ≤ 2 ^ 30) (hstrings : stringsCapacity ≤ 2 ^ 30)
    (hnames : namesSize all ≤ stringsCapacity) {properties : List (CString × List UInt8)}
    {children : DtForest CString} (hproperties : PropertiesValid all properties)
    (hchildren : ForestValid all children) {root : CString} (hroot : root.bytes = []) :
    let ops := forestOps (.single root properties children)
    (opsCost ops + 4 ≤ structureCapacity → ∃ blob, fdtBuild fdt ops true = .ok blob) ∧
      (structureCapacity < opsCost ops + 4 → fdtBuild fdt ops true = .error .enospc) := by
  intro ops
  obtain ⟨hopen, hsize, hcap, hdepth⟩ := Fdt.open_of_init hinit hnames
  have hcalls : fdt.Answers (opsCost ops) (fdtCalls fdt ops) fun fdt' =>
      fdt'.StringsFit all ∧ fdt'.depth = 0 ∧ fdt'.rootSeen = true ∧ fdt'.finished = false ∧
        fdt'.rootClosed = true := by
    have hbegin := hopen.beginNode (iff_of_true hroot hdepth) (by simp [hroot])
      (by simp [CString.size, hroot])
    show fdt.Answers (opsCost (_ :: _ ++ (_ ++ [_]))) (fdtCalls fdt (_ :: _ ++ (_ ++ [_]))) _
    rw [List.cons_append]
    refine hbegin.cons ?_
    rintro fdt₁ ⟨hopen₁, hdepth₁, hchild₁⟩
    refine (properties_calls hproperties hopen₁ (by omega) (by rwa [hdepth₁])).append ?_
    rintro fdt₂ ⟨hopen₂, hdepth₂⟩
    refine (forest_calls hchildren hopen₂ (by omega)).append ?_
    rintro fdt₃ ⟨hopen₃, hdepth₃⟩
    refine (hopen₃.endNode (by omega)).cons ?_
    rintro fdt₄ ⟨⟨items, names, hholds₄⟩, hstrings₄, hdepth₄, hroot₄, hfinished₄, hclosed₄⟩
    rw [if_pos (by omega)] at hclosed₄
    exact Fdt.answers_nil hholds₄.fits ⟨hstrings₄, by omega, hroot₄, hfinished₄, hclosed₄⟩
  have hinterned : ∀ {fdt' : Fdt}, fdt'.StringsFit all → fdt'.stringsSize ≤ 2 ^ 30 := by
    intro fdt' h
    obtain ⟨names, hinterned, hnodup, hsub⟩ := h.interned
    have hle := namesSize_le hnodup hsub
    rw [hinterned.size, length_flatMap_terminated]
    omega
  constructor
  · intro hroom
    obtain ⟨fdt', hok, hsize', hcap', hstrings', hdepth', hroot', hfinished', hclosed'⟩ :=
      hcalls.taken (by omega)
    rw [fdtBuild, hok]
    exact (fdtFinish_closed (by omega) (by omega) (hinterned hstrings') hroot' hclosed' hdepth'
      hfinished').1 (by omega)
  · intro hfull
    by_cases hroom : opsCost ops ≤ structureCapacity
    · obtain ⟨fdt', hok, hsize', hcap', hstrings', hdepth', hroot', hfinished', hclosed'⟩ :=
        hcalls.taken (by omega)
      rw [fdtBuild, hok]
      exact (fdtFinish_closed (by omega) (by omega) (hinterned hstrings') hroot' hclosed' hdepth'
        hfinished').2 (by omega)
    · rw [fdtBuild, hcalls.full (by omega)]
      rfl

/-! ## The size of a blob -/

/-- The buffers are those of `fdt`. -/
def Fdt.SameRoom (fdt fdt' : Fdt) : Prop :=
  fdt'.structureCapacity = fdt.structureCapacity ∧ fdt'.stringsCapacity = fdt.stringsCapacity

theorem Fdt.sameRoom_leave (fdt : Fdt) : fdt.SameRoom fdt.leave := by
  unfold Fdt.leave
  dsimp only
  split <;> exact ⟨rfl, rfl⟩

theorem fdtIntern_sameRoom {fdt fdt' : Fdt} {name : CString} {result : Except Errno Nat}
    (h : fdtIntern fdt name = (fdt', result)) : fdt.SameRoom fdt' := by
  unfold fdtIntern at h
  split at h
  · cases h
    exact ⟨rfl, rfl⟩
  split at h
  all_goals
    cases h
    exact ⟨rfl, rfl⟩

/-- No call changes the buffers. -/
theorem fdtCall_sameRoom {fdt fdt' : Fdt} {op : FdtOp} (h : fdtCall fdt op = (fdt', .ok ())) :
    fdt.SameRoom fdt' := by
  cases op with
  | beginNode name =>
    rw [fdtCall] at h
    obtain ⟨e, hcall, -⟩ | ⟨-, -, hcall⟩ := fdtBeginNode_cases fdt name
    · cases (Prod.mk.inj (h.symm.trans hcall)).2
    · obtain ⟨rfl, -⟩ := Prod.mk.inj (h.symm.trans hcall)
      exact ⟨rfl, rfl⟩
  | property name data =>
    rw [fdtCall] at h
    obtain ⟨e, hcall⟩ | ⟨-, -, -, -, -, fdt₁, offset, hintern, hcall⟩ :=
      fdtProperty_cases fdt name data
    · cases (Prod.mk.inj (h.symm.trans hcall)).2
    · obtain ⟨rfl, -⟩ := Prod.mk.inj (h.symm.trans hcall)
      have hroom := fdtIntern_sameRoom hintern
      exact ⟨hroom.1, hroom.2⟩
  | endNode =>
    rw [fdtCall] at h
    obtain ⟨e, hcall⟩ | ⟨-, -, -, hcall⟩ := fdtEndNode_cases fdt
    · cases (Prod.mk.inj (h.symm.trans hcall)).2
    · obtain ⟨rfl, -⟩ := Prod.mk.inj (h.symm.trans hcall)
      exact fdt.sameRoom_leave
  | finish alloc =>
    rw [fdtCall] at h
    obtain ⟨e, hcall⟩ | ⟨-, -, -, hcall⟩ := fdtFinish_cases fdt alloc
    · rw [hcall] at h
      cases (Prod.mk.inj h).2
    · rw [hcall] at h
      obtain ⟨rfl, -⟩ := Prod.mk.inj h
      exact ⟨rfl, rfl⟩

theorem fdtCalls_sameRoom {ops : List FdtOp} {fdt' : Fdt} (h : fdtCalls fdt ops = .ok fdt') :
    fdt.SameRoom fdt' := by
  induction ops generalizing fdt with
  | nil =>
    cases h
    exact ⟨rfl, rfl⟩
  | cons op ops ih =>
    rw [fdtCalls, fdtCall?] at h
    split at h
    · rename_i hcall
      have hfirst := fdtCall_sameRoom hcall
      have hrest := ih h
      exact ⟨hrest.1.trans hfirst.1, hrest.2.trans hfirst.2⟩
    · cases h

/-- A blob is its header and what the two buffers hold. -/
theorem fdtBuild_length {structureCapacity stringsCapacity : Nat}
    (hinit : fdtInit structureCapacity stringsCapacity true = .ok fdt) {ops : List FdtOp}
    {alloc : Bool} {blob : List UInt8} (hbuild : fdtBuild fdt ops alloc = .ok blob) :
    blob.length ≤ 60 + structureCapacity + stringsCapacity := by
  have hinv : (FdtRun.mk fdt []).Inv := FdtRun.Initial.inv ⟨_, _, hinit, rfl⟩
  have hroom : fdt.structureCapacity = structureCapacity ∧
      fdt.stringsCapacity = stringsCapacity := by
    unfold fdtInit at hinit
    split at hinit
    · cases hinit
    split at hinit
    · cases hinit
    cases hinit
    exact ⟨rfl, rfl⟩
  rw [fdtBuild] at hbuild
  cases hcalls : fdtCalls fdt ops with
  | error e => rw [hcalls] at hbuild; cases hbuild
  | ok fdt' =>
    rw [hcalls] at hbuild
    replace hbuild : (fdtFinish fdt' alloc).2 = .ok blob := hbuild
    have hsame := fdtCalls_sameRoom hcalls
    obtain ⟨e, hcall⟩ | ⟨hopen, -, -, hcall⟩ := fdtFinish_cases fdt' alloc
    · rw [hcall] at hbuild
      cases hbuild
    · cases hinv.calls hcalls with
      | building holds =>
        have hstructure := holds.fits
        have hstrings := holds.interned.fits
        rw [hcall] at hbuild
        cases hbuild
        rw [Fdt.assemble, Store.length_read]
        dsimp only at hstructure hstrings
        rw [hsame.1, hroom.1] at hstructure
        rw [hsame.2, hroom.2] at hstrings
        omega
      | finished hfinished =>
        rw [hfinished] at hopen
        cases hopen

/-! ## Scripts

What builds a tree in the program also allocates memory and checks sizes. Each step is done only if
those before it succeeded. -/

inductive FdtAction where
  | call (op : FdtOp)
  | allocate
  | require (status : Status)

/-- The allocation `n` succeeds if `alloc n`. The result has the number of those made. -/
def fdtActions (alloc : Nat → Bool) (fdt : Fdt) (n : Nat) :
    List FdtAction → Except Errno (Fdt × Nat)
  | [] => .ok (fdt, n)
  | .call op :: actions => do
    let fdt ← fdtCall? fdt op
    fdtActions alloc fdt n actions
  | .allocate :: actions =>
    if alloc n then fdtActions alloc fdt (n + 1) actions else .error .enomem
  | .require status :: actions => do
    status
    fdtActions alloc fdt n actions

/-- `write_be64`. -/
def writeBe64 (value : Nat) : List UInt8 := writeBe32 (value >>> 32) ++ writeBe32 value

/-- `vart_fdt_property_string`. -/
def propertyString (name value : CString) : List FdtAction :=
  [.call (.property name value.terminated)]

/-- `vart_fdt_property_u32`. -/
def propertyU32 (name : CString) (value : Nat) : List FdtAction :=
  [.call (.property name (writeBe32 value))]

/-- `vart_fdt_property_u64`. -/
def propertyU64 (name : CString) (value : Nat) : List FdtAction :=
  [.call (.property name (writeBe64 value))]

/-- `vart_fdt_property_cells`. -/
def propertyCells (name : CString) (cells : List Nat) : List FdtAction :=
  .require (if uint32Max / 4 < cells.length then .error .eoverflow else .ok ()) ::
    (if cells.length = 0 then [] else [.allocate]) ++
    [.call (.property name (cells.flatMap writeBe32))]

/-- The calls of the builder in a script. -/
def actionOps (actions : List FdtAction) : List FdtOp :=
  actions.flatMap fun
    | .call op => [op]
    | _ => []

section Actions

variable (alloc : Nat → Bool) (op : FdtOp) (actions more : List FdtAction)

@[simp] theorem actionOps_nil : actionOps [] = [] := rfl

@[simp] theorem actionOps_call : actionOps (.call op :: actions) = op :: actionOps actions := rfl

@[simp] theorem actionOps_allocate : actionOps (.allocate :: actions) = actionOps actions := rfl

@[simp] theorem actionOps_require (status : Status) :
    actionOps (.require status :: actions) = actionOps actions := rfl

@[simp] theorem actionOps_append : actionOps (actions ++ more) = actionOps actions ++ actionOps more :=
  List.flatMap_append

@[simp] theorem actionOps_propertyString (name value : CString) :
    actionOps (propertyString name value) = [.property name value.terminated] := rfl

@[simp] theorem actionOps_propertyU32 (name : CString) (value : Nat) :
    actionOps (propertyU32 name value) = [.property name (writeBe32 value)] := rfl

@[simp] theorem actionOps_propertyU64 (name : CString) (value : Nat) :
    actionOps (propertyU64 name value) = [.property name (writeBe64 value)] := rfl

@[simp] theorem actionOps_propertyCells (name : CString) (cells : List Nat) :
    actionOps (propertyCells name cells) = [.property name (cells.flatMap writeBe32)] := by
  unfold propertyCells
  rw [List.cons_append, actionOps_require]
  split <;> rfl

end Actions

/-- A script that succeeds has made all its calls. -/
theorem fdtCalls_of_actions {alloc : Nat → Bool} {actions : List FdtAction} {n : Nat}
    {r : Fdt × Nat} (h : fdtActions alloc fdt n actions = .ok r) :
    fdtCalls fdt (actionOps actions) = .ok r.1 := by
  induction actions generalizing fdt n with
  | nil =>
    cases h
    rfl
  | cons action actions ih =>
    cases action with
    | call op =>
      rw [fdtActions] at h
      rw [actionOps_call, fdtCalls]
      cases hcall : fdtCall? fdt op with
      | error e => rw [hcall] at h; cases h
      | ok fdt' =>
        rw [hcall] at h
        exact ih h
    | allocate =>
      rw [fdtActions] at h
      split at h
      · exact ih h
      · cases h
    | require status =>
      rw [fdtActions] at h
      cases status with
      | error e => cases h
      | ok u => exact ih h

/-- With memory for everything and sizes that are no problem, a script is its calls. -/
theorem fdtActions_eq {actions : List FdtAction}
    (h : ∀ status, .require status ∈ actions → status = .ok ()) (n : Nat) :
    (fdtActions (fun _ => true) fdt n actions).map Prod.fst =
      fdtCalls fdt (actionOps actions) := by
  induction actions generalizing fdt n with
  | nil => rfl
  | cons action actions ih =>
    have hrest : ∀ status, .require status ∈ actions → status = .ok () :=
      fun status hmem => h status (List.mem_cons_of_mem _ hmem)
    cases action with
    | call op =>
      rw [fdtActions, actionOps_call, fdtCalls]
      cases fdtCall? fdt op with
      | error e => rfl
      | ok fdt' => exact ih hrest n
    | allocate => exact ih hrest (n + 1)
    | require status =>
      obtain rfl := h status List.mem_cons_self
      exact ih hrest n

end Vart
