import Pagewright.Document.Node

/-!
A pool of nodes that share children. Nodes refer to each other by their number in the pool, so a node
may stand in several places and every change shows in all of them. A node of the pool unfolds into a
tree; a node below itself unfolds into nothing.
-/

namespace Pagewright.Document

/-- A node whose children are numbers of other nodes. -/
structure SharedNode where
  kind : Kind
  settings : Table Value
  children : List Nat
  widgetType : Value
  id : Value

/-- A shared node with trees for children. -/
def SharedNode.withElements (shared : SharedNode) (elements : List Node) : Node :=
  ⟨shared.kind, shared.settings, elements, shared.widgetType, shared.id⟩

/-- Nodes by number. -/
abbrev Pool := List SharedNode

namespace Pool

mutual

/-- A tree as nodes of a pool that holds `size` nodes already: the nodes below it and its root. -/
def flatten (size : Nat) : Node → List SharedNode × SharedNode
  | ⟨kind, settings, elements, widgetType, id⟩ =>
    let (below, children) := flattenAll size elements
    (below, ⟨kind, settings, children, widgetType, id⟩)

def flattenAll (size : Nat) : List Node → List SharedNode × List Nat
  | [] => ([], [])
  | node :: rest =>
    let (below, root) := flatten size node
    let here := size + below.length
    let (more, numbers) := flattenAll (here + 1) rest
    (below ++ root :: more, here :: numbers)

end

/-- A pool with a tree added; its root is the last node. -/
def insert (pool : Pool) (node : Node) : Pool :=
  let (below, root) := flatten pool.length node
  pool ++ below ++ [root]

/-- The node with a number. -/
def node (pool : Pool) (number : Nat) : Except Fault SharedNode :=
  match pool[number]? with
  | some shared => .ok shared
  | none => .error (.missingKey (toString number))

/-- The tree under a node, as far as `fuel` levels reach. -/
def unfoldWithin (pool : Pool) : Nat → Nat → Except Fault Node
  | 0, _ => .error .tooDeep
  | fuel + 1, number => do
    let shared ← pool.node number
    return shared.withElements (← shared.children.mapM (unfoldWithin pool fuel))

/-- The tree under a node. -/
def unfold (pool : Pool) (number : Nat) : Except Fault Node :=
  unfoldWithin pool (pool.length + 1) number

/-- A pool in which `parent` has one more child, if the kinds allow it. -/
def add (pool : Pool) (parent child : Nat) : Except Fault Pool := do
  let above ← pool.node parent
  let below ← pool.node child
  checkNesting above.kind below.kind
  return pool.set parent { above with children := above.children ++ [child] }

/-- The tree under a node without what lies more than the given number of levels below it. -/
def outline (pool : Pool) : Nat → Nat → Except Fault Node
  | 0, number => do return (← pool.node number).withElements []
  | levels + 1, number => do
    let shared ← pool.node number
    return shared.withElements (← shared.children.mapM (pool.outline levels))

/-- Whether the trees under the given nodes are a well formed document. Nothing below the children of
widgets matters for that, so that nodes below themselves can be checked too. -/
def validateAt (pool : Pool) (numbers : List Nat) : Except Fault Unit := do
  validate (← numbers.mapM (pool.outline 3))

end Pool

end Pagewright.Document
