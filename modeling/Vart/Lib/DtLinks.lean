import Vart.Lib.DtForest

/-!
# References in a devicetree

A node with a property `phandle` can be named by others. A reference is a list of cells: a phandle
and as many arguments as a property of the named node says, possibly with cells of its own around
them.

* `DtNode.value`, `DtNode.cells`, `DtNode.number`: a property as bytes, as cells, and as one number.
* `dtResolve`: the node with a phandle (`dtResolve_eq`, if phandles are distinct).
* `dtLinks`: the references in a list of cells, and `dtLinks_encode`, which reads them back.
* `dtReg`: `reg` of a node, with the cells that the parent has for addresses and sizes.
-/

namespace Lib

/-- A value that is a list of strings. -/
def dtStrings (strings : List String) : List UInt8 := strings.flatMap fun s => literal s ++ [0]

@[simp] theorem dtStrings_singleton_inj {s t : String} :
    dtStrings [s] = dtStrings [t] ↔ s = t := by
  simp [dtStrings]

/-- A value that is a list of 32-bit cells. -/
def dtCells? (bytes : List UInt8) : Option (List Nat) :=
  if bytes.length % 4 = 0 then words? (bytes.length / 4) bytes else none

theorem length_flatMap_storeBe (cells : List Nat) :
    (cells.flatMap (storeBe 4)).length = 4 * cells.length := by
  induction cells with
  | nil => rfl
  | cons cell cells ih =>
    rw [List.flatMap_cons, List.length_append, ih, length_storeBe, List.length_cons]
    omega

theorem dtCells?_encode {cells : List Nat} (h : ∀ cell ∈ cells, cell < 2 ^ 32) :
    dtCells? (cells.flatMap (storeBe 4)) = some cells := by
  have hwords := words?_append cells h []
  rw [List.append_nil] at hwords
  rw [dtCells?, length_flatMap_storeBe, if_pos (by omega), Nat.mul_div_cancel_left _ (by decide),
    hwords]

/-- The number in a list of cells, the highest one first. -/
def dtNumber (cells : List Nat) : Nat := cells.foldl (fun n cell => n * 2 ^ 32 + cell) 0

namespace DtNode

/-- A node of a blob. -/
abbrev Raw := DtNode (List UInt8)

def value (n : Raw) (s : String) : Option (List UInt8) := n.properties.lookup (literal s)

def cells (n : Raw) (s : String) : Option (List Nat) := (n.value s).bind dtCells?

def number (n : Raw) (s : String) : Option Nat := (n.cells s).map dtNumber

def phandle (n : Raw) : Option Nat := n.number "phandle"

end DtNode

open DtNode (Raw)

/-- The node with the phandle `p`. -/
def dtResolve (nodes : List Raw) (p : Nat) : Option Raw := nodes.find? fun n => n.phandle == some p

theorem dtResolve_eq {nodes : List Raw} (hdistinct : (nodes.filterMap DtNode.phandle).Nodup)
    {n : Raw} (hn : n ∈ nodes) {p : Nat} (hp : n.phandle = some p) :
    dtResolve nodes p = some n := by
  induction nodes with
  | nil => cases hn
  | cons m nodes ih =>
    rw [dtResolve, List.find?_cons]
    rcases List.mem_cons.mp hn with rfl | hn
    · rw [hp]
      simp
    · have htail : (nodes.filterMap DtNode.phandle).Nodup := by
        cases hm : m.phandle with
        | none => rwa [List.filterMap_cons_none hm] at hdistinct
        | some q =>
          rw [List.filterMap_cons_some hm] at hdistinct
          exact (List.nodup_cons.mp hdistinct).2
      have hne : (m.phandle == some p) = false := by
        rw [beq_eq_false_iff_ne]
        intro hm
        rw [List.filterMap_cons_some hm] at hdistinct
        exact (List.nodup_cons.mp hdistinct).1 (List.mem_filterMap.mpr ⟨n, hn, hp⟩)
      rw [hne]
      exact ih htail hn

/-- A reference: `before`, the phandle of `target`, `args`, `after`. -/
structure DtLink where
  before : List Nat
  target : Raw
  args : List Nat
  after : List Nat

def DtLink.encode (l : DtLink) : List Nat :=
  l.before ++ (l.target.phandle.getD 0 :: (l.args ++ l.after))

/-- The first `n` cells, if there are so many. -/
def takeCells? (n : Nat) (cells : List Nat) : Option (List Nat × List Nat) :=
  if cells.length < n then none else some (cells.take n, cells.drop n)

theorem takeCells?_append (cells rest : List Nat) :
    takeCells? cells.length (cells ++ rest) = some (cells, rest) := by
  rw [takeCells?, if_neg (by simp), List.take_left, List.drop_left]

/-- The references in `cells`: each has `before` cells, a phandle, the arguments that `args` says
for its node, and `after` cells. -/
def dtLinks (nodes : List Raw) (before : Nat) (args : Raw → Option Nat) (after : Nat) :
    (fuel : Nat) → (cells : List Nat) → Option (List DtLink)
  | _, [] => some []
  | 0, _ :: _ => none
  | fuel + 1, cell :: cells => do
    let (first, rest) ← takeCells? before (cell :: cells)
    let p ← rest.head?
    let target ← dtResolve nodes p
    let count ← args target
    let (arguments, rest) ← takeCells? count rest.tail
    let (last, rest) ← takeCells? after rest
    let links ← dtLinks nodes before args after fuel rest
    some (⟨first, target, arguments, last⟩ :: links)

section Links

variable {nodes : List Raw} {before after : Nat} {args : Raw → Option Nat}

/-- A reference to a node of the tree with the right number of cells. -/
structure DtLink.Good (nodes : List Raw) (before : Nat) (args : Raw → Option Nat) (after : Nat)
    (l : DtLink) : Prop where
  before : l.before.length = before
  target : l.target ∈ nodes
  phandle : l.target.phandle.isSome
  args : args l.target = some l.args.length
  after : l.after.length = after

theorem dtLinks_encode (hdistinct : (nodes.filterMap DtNode.phandle).Nodup) {links : List DtLink}
    (hgood : ∀ l ∈ links, l.Good nodes before args after) {fuel : Nat}
    (hfuel : links.length ≤ fuel) :
    dtLinks nodes before args after fuel (links.flatMap DtLink.encode) = some links := by
  induction links generalizing fuel with
  | nil => cases fuel <;> rfl
  | cons l links ih =>
    obtain ⟨hl, hlinks⟩ := List.forall_mem_cons.mp hgood
    cases fuel with
    | zero => cases hfuel
    | succ fuel =>
      have hrest := ih hlinks (Nat.le_of_succ_le_succ hfuel)
      obtain ⟨p, hp⟩ := Option.isSome_iff_exists.mp hl.phandle
      have hresolve := dtResolve_eq hdistinct hl.target hp
      have hcells : (l :: links).flatMap DtLink.encode =
          l.before ++ (p :: (l.args ++ (l.after ++ links.flatMap DtLink.encode))) := by
        simp [DtLink.encode, hp]
      have hne : ∃ cell cells, l.before ++ (p :: (l.args ++ (l.after ++
          links.flatMap DtLink.encode))) = cell :: cells := by
        cases l.before with
        | nil => exact ⟨_, _, rfl⟩
        | cons cell cells => exact ⟨_, _, rfl⟩
      obtain ⟨cell, cells, hcons⟩ := hne
      rw [hcells, hcons, dtLinks, ← hcons, ← hl.before, takeCells?_append]
      simp only [Option.bind_eq_bind, Option.bind_some, List.head?_cons, List.tail_cons, hresolve,
        hl.args, takeCells?_append]
      rw [← hl.after, takeCells?_append, Option.bind_some, hl.after, hl.before, hrest]
      rfl

end Links

/-- The references in a property of `n`. -/
def DtNode.links (nodes : List Raw) (n : Raw) (s : String) (before : Nat)
    (args : Raw → Option Nat) (after : Nat) : Option (List DtLink) := do
  let cells ← n.cells s
  dtLinks nodes before args after cells.length cells

theorem DtNode.links_eq {nodes : List Raw} (hdistinct : (nodes.filterMap DtNode.phandle).Nodup)
    {n : Raw} {s : String} {links : List DtLink}
    (hcells : n.cells s = some (links.flatMap DtLink.encode)) {before after : Nat}
    {args : Raw → Option Nat} (hgood : ∀ l ∈ links, l.Good nodes before args after) :
    n.links nodes s before args after = some links := by
  have hfuel : links.length ≤ (links.flatMap DtLink.encode).length := by
    clear hcells hgood
    induction links with
    | nil => exact Nat.le_refl _
    | cons l links ih =>
      simp only [List.flatMap_cons, List.length_append, List.length_cons, DtLink.encode] at ih ⊢
      omega
  rw [DtNode.links, hcells]
  exact dtLinks_encode hdistinct hgood hfuel

/-- `reg` of a node, if it is one address and one size. The parent has the numbers of their
cells. -/
def dtReg (nodes : List Raw) (n : Raw) : Option (Nat × Nat) := do
  let parent ← nodes.find? fun m => m.path == n.path.dropLast
  let addressCells ← parent.number "#address-cells"
  let sizeCells ← parent.number "#size-cells"
  let cells ← n.cells "reg"
  if cells.length = addressCells + sizeCells then
    some (dtNumber (cells.take addressCells), dtNumber (cells.drop addressCells))
  else none

theorem dtReg_eq {nodes : List Raw} {n parent : Raw} {addressCells sizeCells : Nat}
    {cells : List Nat} (hparent : (nodes.find? fun m => m.path == n.path.dropLast) = some parent)
    (haddress : parent.number "#address-cells" = some addressCells)
    (hsize : parent.number "#size-cells" = some sizeCells) (hcells : n.cells "reg" = some cells)
    (hlength : cells.length = addressCells + sizeCells) :
    dtReg nodes n =
      some (dtNumber (cells.take addressCells), dtNumber (cells.drop addressCells)) := by
  simp [dtReg, hparent, haddress, hsize, hcells, hlength]

end Lib
