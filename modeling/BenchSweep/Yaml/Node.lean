import BenchSweep.Yaml.Token

/-! # Documents as trees

    A document is a tree of mappings, sequences and scalars in which a node may
    also stand for another one.  Every node knows where it begins: at its anchor
    or tag, if it has one. -/

namespace BenchSweep.Yaml

/-- A node of a document. -/
inductive Node where
  | scalar (mark : Mark) (tag? : Option Tag) (style : Style) (text : String)
  | sequence (mark : Mark) (tag? : Option Tag) (items : List Node)
  | mapping (mark : Mark) (tag? : Option Tag) (entries : List (Node × Node))
  | alias (mark : Mark) (target : Nat)

/-- Where a node begins. -/
def Node.mark : Node → Mark
  | .scalar m ..   => m
  | .sequence m .. => m
  | .mapping m ..  => m
  | .alias m _     => m

mutual

/-- The size of a node: a scalar or an alias counts once, a collection twice and
    what is in it besides. -/
def Node.size : Node → Nat
  | .scalar ..            => 1
  | .alias ..             => 1
  | .sequence _ _ items   => sizeOfItems items + 2
  | .mapping _ _ entries  => sizeOfEntries entries + 2

/-- The size of some nodes. -/
def sizeOfItems : List Node → Nat
  | []           => 0
  | item :: rest => item.size + sizeOfItems rest

/-- The size of some keys and values. -/
def sizeOfEntries : List (Node × Node) → Nat
  | []                   => 0
  | (key, value) :: rest => key.size + value.size + sizeOfEntries rest

end

/-- A node that aliases can stand for.  `target` is what an alias names and
    `order` counts the anchors up to this one. -/
structure Anchored where
  target : Nat
  order  : Nat
  node   : Node

/-- A document: its tree, which a stream without documents lacks, and the nodes
    that have anchors. -/
structure Document where
  root?    : Option Node
  anchored : List Anchored

/-- The size of a document. -/
def Document.size (d : Document) : Nat :=
  (d.root?.map Node.size).getD 1

/-- How many times aliases may be followed while a document is read: as often as
    reading it a hundred times over could take. -/
def Document.aliasLimit (d : Document) : Nat := 100 * d.size

/-- The later of two anchored nodes. -/
def Anchored.later (a : Anchored) : Option Anchored → Option Anchored
  | none   => some a
  | some b => if a.order < b.order then some b else some a

/-- The node that an alias stands for: the last one that was given its target.
    Every other node stands for itself. -/
def Document.look (d : Document) : Node → Node
  | .alias m target =>
      match (d.anchored.filter fun a => a.target == target).foldr Anchored.later none with
      | some a => a.node
      | none   => .alias m target
  | node => node

end BenchSweep.Yaml
