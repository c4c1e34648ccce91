import Vart.Lib.Dtb

/-!
# Devicetrees

The nodes of a devicetree as a forest: a node has properties, the forest of its children, and the
forest of the siblings behind it. A blob has the tree as a list of events (`Dtb.decode`).

* `DtForest.events`: the events of a forest, and `DtForest.parse`, which reads them back
  (`DtForest.parse_events`).
* `Dtb.tree`: the forest of a blob, with the root as its one node.
* `DtForest.nodes`: all nodes, each with its path.
* `DtForest.SiblingsDistinct`: no two children of a node have one name.
-/

namespace Lib

/-- A list of nodes, the first one first. -/
inductive DtForest (ν : Type) where
  | nil
  | node (name : ν) (properties : List (ν × List UInt8)) (children siblings : DtForest ν)
deriving DecidableEq

/-- A node with the names on the way to it. -/
structure DtNode (ν : Type) where
  path : List ν
  properties : List (ν × List UInt8)
deriving DecidableEq

namespace DtForest

variable {ν μ : Type}

/-- The nodes of `f` and then those of `g`. -/
def append : DtForest ν → DtForest ν → DtForest ν
  | nil, g => g
  | node name properties children siblings, g =>
    node name properties children (siblings.append g)

instance : Append (DtForest ν) := ⟨append⟩

/-- One node. -/
def single (name : ν) (properties : List (ν × List UInt8)) (children : DtForest ν) : DtForest ν :=
  node name properties children nil

def map (g : ν → μ) : DtForest ν → DtForest μ
  | nil => nil
  | node name properties children siblings =>
    node (g name) (properties.map fun p => (g p.1, p.2)) (children.map g) (siblings.map g)

/-- The names of the nodes at the top. -/
def names : DtForest ν → List ν
  | nil => []
  | node name _ _ siblings => name :: siblings.names

/-- No two children of a node have one name, and no two nodes at the top. -/
def SiblingsDistinct : DtForest ν → Prop
  | nil => True
  | node name _ children siblings =>
    name ∉ siblings.names ∧ children.SiblingsDistinct ∧ siblings.SiblingsDistinct

/-- All nodes below `path`, a node before its children. -/
def nodes (path : List ν) : DtForest ν → List (DtNode ν)
  | nil => []
  | node name properties children siblings =>
    ⟨path ++ [name], properties⟩ :: (children.nodes (path ++ [name]) ++ siblings.nodes path)

def events : DtForest (List UInt8) → List DtbEvent
  | nil => []
  | node name properties children siblings =>
    .beginNode name :: (properties.map fun p => .property p.1 p.2) ++
      (children.events ++ .endNode :: siblings.events)

/-! ## Appending -/

section Append

variable (f g : DtForest ν)

@[simp] theorem nil_append : (nil : DtForest ν) ++ g = g := rfl

@[simp] theorem node_append (name : ν) (properties : List (ν × List UInt8))
    (children siblings : DtForest ν) :
    node name properties children siblings ++ g = node name properties children (siblings ++ g) :=
  rfl

@[simp] theorem single_append (name : ν) (properties : List (ν × List UInt8))
    (children : DtForest ν) : single name properties children ++ g =
      node name properties children g := rfl

@[simp] theorem names_append : (f ++ g).names = f.names ++ g.names := by
  induction f with
  | nil => rfl
  | node name properties children siblings _ ih => simp [names, ih]

@[simp] theorem nodes_append (path : List ν) :
    (f ++ g).nodes path = f.nodes path ++ g.nodes path := by
  induction f with
  | nil => rfl
  | node name properties children siblings _ ih => simp [nodes, ih]

@[simp] theorem map_append (h : ν → μ) : (f ++ g).map h = f.map h ++ g.map h := by
  induction f with
  | nil => rfl
  | node name properties children siblings _ ih => simp [map, ih]

end Append

@[simp] theorem names_map (g : ν → μ) (f : DtForest ν) : (f.map g).names = f.names.map g := by
  induction f with
  | nil => rfl
  | node name properties children siblings _ ih => simp [map, names, ih]

/-- Distinct names stay distinct under an injective map. -/
theorem SiblingsDistinct.map {g : ν → μ} (hg : Function.Injective g) {f : DtForest ν}
    (h : f.SiblingsDistinct) : (f.map g).SiblingsDistinct := by
  induction f with
  | nil => trivial
  | node name properties children siblings ihc ihs =>
    obtain ⟨hname, hchildren, hsiblings⟩ := h
    refine ⟨?_, ihc hchildren, ihs hsiblings⟩
    rw [names_map, List.mem_map]
    rintro ⟨other, hother, hsame⟩
    exact hname (hg hsame ▸ hother)

@[simp] theorem events_append (f g : DtForest (List UInt8)) :
    (f ++ g).events = f.events ++ g.events := by
  induction f with
  | nil => rfl
  | node name properties children siblings _ ih => simp [events, ih]

/-! ## Reading events -/

/-- The properties in front of other events. -/
def takeProperties : List DtbEvent → List (List UInt8 × List UInt8) × List DtbEvent
  | .property name value :: es => ((name, value) :: (takeProperties es).1, (takeProperties es).2)
  | es => ([], es)

/-- The forest in front of other events. -/
def parse : (fuel : Nat) → List DtbEvent → Option (DtForest (List UInt8) × List DtbEvent)
  | 0, _ => none
  | fuel + 1, .beginNode name :: es => do
    let (children, es') ← parse fuel (takeProperties es).2
    match es' with
    | .endNode :: es'' =>
      let (siblings, rest) ← parse fuel es''
      some (node name (takeProperties es).1 children siblings, rest)
    | _ => none
  | _ + 1, es => some (nil, es)

theorem takeProperties_append (properties : List (List UInt8 × List UInt8)) {es : List DtbEvent}
    (hes : ∀ name value, es.head? ≠ some (.property name value)) :
    takeProperties ((properties.map fun p => .property p.1 p.2) ++ es) = (properties, es) := by
  induction properties with
  | nil =>
    cases es with
    | nil => rfl
    | cons e es =>
      cases e with
      | property name value => exact absurd rfl (hes name value)
      | beginNode name => rfl
      | endNode => rfl
  | cons p properties ih =>
    rw [List.map_cons, List.cons_append, takeProperties, ih]

/-- The number of nodes. -/
def size : DtForest ν → Nat
  | nil => 0
  | node _ _ children siblings => children.size + siblings.size + 1

theorem size_le_length_events (f : DtForest (List UInt8)) : f.size ≤ f.events.length := by
  induction f with
  | nil => exact Nat.le_refl _
  | node name properties children siblings ihc ihs =>
    simp only [size, events, List.cons_append, List.length_cons, List.length_append]
    omega

/-- A forest does not begin with a property. -/
theorem head?_events (f : DtForest (List UInt8)) (es : List DtbEvent)
    (hes : ∀ name value, es.head? ≠ some (.property name value)) (name value : List UInt8) :
    (f.events ++ es).head? ≠ some (.property name value) := by
  cases f with
  | nil => exact hes name value
  | node name' properties children siblings => simp [events]

/-- The events of a forest are read back, in front of what does not begin another node. -/
theorem parse_events (f : DtForest (List UInt8)) {fuel : Nat} (hfuel : f.size < fuel)
    {rest : List DtbEvent} (hnode : ∀ name, rest.head? ≠ some (.beginNode name))
    (hproperty : ∀ name value, rest.head? ≠ some (.property name value)) :
    parse fuel (f.events ++ rest) = some (f, rest) := by
  induction f generalizing fuel rest with
  | nil =>
    cases fuel with
    | zero => cases hfuel
    | succ fuel =>
      cases rest with
      | nil => rfl
      | cons e es =>
        cases e with
        | beginNode name => exact absurd rfl (hnode name)
        | property name value => rfl
        | endNode => rfl
  | node name properties children siblings ihc ihs =>
    cases fuel with
    | zero => cases hfuel
    | succ fuel =>
      rw [size] at hfuel
      have htake : takeProperties ((properties.map fun p => DtbEvent.property p.1 p.2) ++
          (children.events ++ .endNode :: (siblings.events ++ rest))) =
          (properties, children.events ++ .endNode :: (siblings.events ++ rest)) :=
        takeProperties_append properties fun n v =>
          head?_events children _ (fun _ _ => by simp) n v
      have hchildren : parse fuel (children.events ++ .endNode :: (siblings.events ++ rest)) =
          some (children, .endNode :: (siblings.events ++ rest)) :=
        ihc (by omega) (by simp) (by simp)
      have hsiblings : parse fuel (siblings.events ++ rest) = some (siblings, rest) :=
        ihs (by omega) hnode hproperty
      simp only [events, List.cons_append, List.append_assoc, parse, htake, hchildren,
        Option.bind_eq_bind, Option.bind_some, hsiblings]

end DtForest

/-- The forest in a blob. -/
def Dtb.tree (blob : List UInt8) : Option (DtForest (List UInt8)) := do
  let events ← Dtb.decode blob
  let (f, rest) ← DtForest.parse (events.length + 1) events
  if rest = [] then some f else none

theorem Dtb.tree_eq {blob : List UInt8} {f : DtForest (List UInt8)}
    (h : Dtb.decode blob = some f.events) : Dtb.tree blob = some f := by
  have hparse : DtForest.parse (f.events.length + 1) (f.events ++ []) = some (f, []) :=
    f.parse_events (Nat.lt_succ_of_le f.size_le_length_events) (by simp) (by simp)
  rw [List.append_nil] at hparse
  rw [Dtb.tree, h]
  simp [hparse]

end Lib
