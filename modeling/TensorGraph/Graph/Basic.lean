import Std.Data.HashMap
import Std.Data.HashSet
import TensorGraph.Core.Fault
import TensorGraph.Core.Value

/-!
# Expression graphs

An expression graph alternates variables and application nodes. A variable has a type and, unless it
is an input or a constant, an owner: the node of which it is the `index`-th result. A node applies an
operator to variables. Variables and nodes live in an `Arena` and refer to each other by number.

A `FunctionGraph` is a part of the arena between inputs and outputs, with the set of its nodes and
variables and, for each variable, the list of its clients: the places that read it. A feature is
told of every change of the graph it is attached to.
-/

namespace TensorGraph

structure OrdSet (α : Type) [BEq α] [Hashable α] where
  stamps : Std.HashMap α Nat := ∅
  next : Nat := 0

namespace OrdSet

variable {α : Type} [BEq α] [Hashable α] (s : OrdSet α) (a : α)

def empty : OrdSet α := {}
def contains : Bool := s.stamps.contains a

def insert : OrdSet α :=
  if s.stamps.contains a then s else ⟨s.stamps.insert a s.next, s.next + 1⟩

def erase : OrdSet α := { s with stamps := s.stamps.erase a }
def size : Nat := s.stamps.size
def isEmpty : Bool := s.stamps.isEmpty
def toList : List α := (s.stamps.toList.mergeSort fun a b => a.2 <= b.2).map (·.1)

end OrdSet

/-! ## Association lists -/

/-- How the keys of an association list behave. -/
structure Keying (κ : Type) where
  hashable : κ -> Bool
  eq : κ -> κ -> Bool

/-- A map in two parts. -/
structure AssocList (κ β : Type) where
  hashed : List (κ × β) := []
  listed : List (κ × β) := []

namespace AssocList

variable {κ β : Type} (key : Keying κ)

def put (new : κ -> κ) (k : κ) (v : β) : List (κ × β) -> List (κ × β)
  | [] => [(k, v)]
  | (k', w) :: l => if key.eq k' k then (new k', v) :: l else (k', w) :: put new k v l

variable (m : AssocList κ β) (k : κ)

def set (v : β) : AssocList κ β :=
  if key.hashable k then { m with hashed := put key id k v m.hashed }
  else { m with listed := put key (fun _ => k) k v m.listed }

def find? (l : List (κ × β)) : Option β := (l.find? fun e => key.eq e.1 k).map (·.2)

def get? : Option β :=
  ((if key.hashable k then find? key k m.hashed else none)).or (find? key k m.listed)

def isHashed : Bool := key.hashable k && (find? key k m.hashed).isSome

def discard : AssocList κ β :=
  if m.isHashed key k then { m with hashed := m.hashed.eraseP fun e => key.eq e.1 k }
  else { m with listed := m.listed.eraseP fun e => key.eq e.1 k }

def remove? : Option (AssocList κ β) :=
  if m.isHashed key k then some (m.discard key k)
  else match m.listed with
    | [] => some m
    | (k', _) :: rest => if key.eq k' k then some { m with listed := rest } else none

end AssocList

abbrev VarMap := Std.HashMap VarId

/-- What a variable stands for besides being a result. -/
inductive Role
  | plain
  | constant (data : Value)
  | shared (box : BoxId)

structure Variable where
  type : Ty
  owner : Option NodeId := none
  index : Nat := 0
  name : Option String := none
  role : Role := .plain
  tag : Table Value := []
  attrs : Table Value := []
deriving Inhabited

/-- What a copy keeps: of the attributes only the class. -/
def Variable.copied (x : Variable) : Variable := { x with attrs := x.attrs.filter (·.1 == "class") }

structure Node where
  op : Op
  (inputs outputs : Array VarId)
  tag : Table Value := []
deriving Inhabited

structure Arena where
  vars : Array Variable := #[]
  nodes : Array Node := #[]
  /-- nodes, operands and results so far -/
  links : Nat := 0

namespace Arena

variable (a : Arena) (n : NodeId) (v : VarId)

def var : Variable := a.vars.getD v.idx default
def node : Node := a.nodes.getD n.idx default

def owner : Option NodeId := (a.var v).owner
def typeOf : Ty := (a.var v).type
def op : Op := (a.node n).op
def inputs : Vars := (a.node n).inputs.toList
def outputs : Vars := (a.node n).outputs.toList
def isConstant : Bool := if let .constant _ := (a.var v).role then true else false
def isShared : Bool := if let .shared _ := (a.var v).role then true else false
def constant? : Option Value := if let .constant d := (a.var v).role then some d else none
def push (v : Variable) : Arena × VarId := ({ a with vars := a.vars.push v }, ⟨a.vars.size⟩)

/-- Adds a node with fresh results of the given types. -/
def pushNode (o : Op) (ins : Vars) (outs : List Ty) : Arena × NodeId :=
  let n := ⟨a.nodes.size⟩
  let base := a.vars.size
  let vars := outs.zipIdx.foldl (fun vs (t, i) =>
    vs.push { type := t, owner := some n, index := i }) a.vars
  let ids := ((List.range outs.length).map fun i => (⟨base + i⟩ : VarId)).toArray
  ({ vars, nodes := a.nodes.push { op := o, inputs := ins.toArray, outputs := ids },
     links := a.links + 2 + ins.length + outs.length }, n)

/-- Adds a copy of a node, with fresh results, on other operands. -/
def pushCopy (ins : Vars) : Arena × NodeId :=
  let nd := a.node n
  let m := ⟨a.nodes.size⟩
  let outs := nd.outputs.mapIdx fun i o => { (a.var o).copied with owner := some m, index := i }
  let ids := outs.mapIdx fun i _ => (⟨a.vars.size + i⟩ : VarId)
  ({ vars := a.vars ++ outs, nodes := a.nodes.push { nd with inputs := ins.toArray, outputs := ids },
     links := a.links + 2 + ins.length + outs.size }, m)

def modifyVar (f : Variable -> Variable) : Arena := { a with vars := a.vars.modify v.idx f }
def modifyNode (f : Node -> Node) : Arena := { a with nodes := a.nodes.modify n.idx f }

end Arena

/-- Who reads a variable: an input of a node, or an output of the graph. -/
inductive Client
  | node (n : NodeId)
  | output
deriving DecidableEq

structure FunctionGraph where
  inputs : Vars := []
  outputs : Vars := []
  nodes : OrdSet NodeId := {}
  vars : OrdSet VarId := {}
  clients : VarMap (List (Client × Nat)) := ∅
  features : List FeatureId := []
  /-- the features that were ever there, and whether each has been told of a change -/
  told : List (FeatureId × Bool) := []
  /-- abilities that features lend to the graph, with the feature that lent them -/
  abilities : Table FeatureId := []
  /-- number of the last checkpoint -/
  checkpoints : Nat := 0
  disowned : Bool := false
  /-- outputs that are the new value of an input: output number and input number -/
  updates : List (Nat × Nat) := []
  attrs : Table Value := []
deriving Inhabited

/-- What happens to a graph. Reasons are texts. -/
inductive Event
  | imported (n : NodeId) (reason : String)
  | pruned (n : NodeId) (reason : String)
  | changed (c : Client) (i : Nat) (old new : VarId) (reason : String)
  | validate
  /-- the feature itself is put on the graph, or taken off it -/
  | attached (f : FeatureId)
  | detached (f : FeatureId)

/-- One change to undo: at a place, the variable that stood there. -/
structure Undo where
  client : Client
  index : Nat
  var : VarId
  reason : String

/-- How a memory handler looks for cycles. -/
inductive CycleCheck
  | regular
  | fast
deriving DecidableEq

/-- Who overwrites what. `viewOf` sends a view to what it views, `viewers` is its inverse, `root` is
the variable whose memory a destroyed variable shares, `impact` all that share it. -/
structure MemoryState where
  graph : Option GraphId := none
  importOnAttach : Bool := true
  check : CycleCheck := .regular
  root : VarPairs := []
  impact : List (VarId × Vars) := []
  rootDestroyer : List (VarId × NodeId) := []
  destroyers : OrdSet NodeId := {}
  viewOf : VarMap VarId := ∅
  viewers : VarMap Vars := ∅
  clients : VarMap (List (NodeId × Nat)) := ∅
  stale : Bool := true
  seen : Std.HashMap NodeId Unit := ∅
  failed : List (NodeId × Fault) := []
  /-- detached: what it knew is gone -/
  gone : Bool := false

structure MergeState where
  seenConstants : VarMap Unit := ∅
  /-- constants that represent their value, newest first -/
  constants : Vars := []
  seenNodes : Std.HashMap NodeId Unit := ∅
  noInputNodes : OrdSet NodeId := {}
  /-- work to do, last in first out -/
  scheduled : List (List VarPairs) := []
  blacklist : List (Option NodeId × Option NodeId) := []

/-- What is known of the shapes of variables: a tuple of scalar variables, or nothing. -/
structure ShapeState where
  graph : Option GraphId := none
  /-- the length of dimensions that stretch -/
  one : VarId := default
  shapes : VarMap (Option Vars) := ∅
  /-- nodes that ask for a length of a variable that was replaced, with the replacement -/
  scheduled : Std.HashMap NodeId VarId := ∅
  /-- the variables in whose shapes a variable stands -/
  usedBy : VarMap (Std.HashSet VarId) := ∅

inductive Feature
  | history (undo : List (GraphId × Option (List Undo)))
  | validator
  /-- history, validation, and the nodes that must not come back -/
  | replaceValidate (undo : List (GraphId × Option (List Undo))) (removed : List NodeId) (failed : Bool)
  | nodeFinder (graph : Option GraphId) (table : List (Op × List NodeId))
  | printListener (active : Bool)
  | preserveNames
  | preserveAttributes
  | noOutputFromInplace (first : Int) (last : Option Int)
  | memory (s : MemoryState)
  | merge (s : MergeState)
  | shapes (s : ShapeState)
  /-- inputs that must not be overwritten -/
  | supervisor (guarded : Vars)
  /-- work queue of a running pass: nodes that came in or changed -/
  | queue (name : Option String) (current : Option NodeId) (onImport onChange : Bool)
      (arrived : List NodeId)
  | changeTracker (changed : Bool) (imported : Nat)
  | traceCheck
  /-- variables that replaced one another, with reasons and the graphs at the time -/
  | equivalences (pairs : List (VarId × VarId × String))
  /-- one that does only what its attributes say -/
  | plain (attrs : List (String × Value))
deriving Inhabited

def Feature.className : Feature -> String
  | history _ => "History"
  | validator => "Validator"
  | replaceValidate .. => "ReplaceValidate"
  | nodeFinder .. => "NodeFinder"
  | printListener _ => "PrintListener"
  | preserveNames => "PreserveNames"
  | preserveAttributes => "PreserveVariableAttributes"
  | noOutputFromInplace .. => "NoOutputFromInplace"
  | memory _ => "DestroyHandler"
  | merge _ => "MergeFeature"
  | shapes _ => "ShapeFeature"
  | supervisor _ => "Supervisor"
  | queue .. => "Updater"
  | changeTracker .. => "ChangeTracker"
  | traceCheck => "CheckStackTraceFeature"
  | equivalences _ => "_VariableEquivalenceTracker"
  | plain _ => "Feature"

/-!
# Walks through expression graphs

Ancestors, the part of a graph between variables, and topological orders. Every walk keeps a work
list and a set of what it has seen. Fuel bounds how often a walk goes on from an item: no more often
than there are items, or edges, in the arena.
-/

variable (a : Arena) (ins : Std.HashSet VarId) (outs : Vars)

def Arena.weight : Nat := a.vars.size + a.links + 1

def walkStack [BEq α] [Hashable α] (expand : α -> List α) (fuel : Nat) (todo : List α) (seen : Std.HashSet α)
    (acc : List α) : List α :=
  match todo with
  | [] => acc.reverse
  | x :: todo =>
    if seen.contains x then walkStack expand fuel todo seen acc
    else match fuel with
      | 0 => acc.reverse
      | fuel + 1 => walkStack expand fuel ((expand x).reverse ++ todo) (seen.insert x) (x :: acc)
termination_by (fuel, todo)

/-- Breadth-first walk with a queue in two halves. -/
def walkQueue [BEq α] [Hashable α] (expand : α -> List α) :
    Nat -> List α -> List α -> Std.HashSet α -> List α -> List α
  | 0, _, _, _, acc => acc.reverse
  | fuel + 1, [], back, seen, acc =>
    if back.isEmpty then acc.reverse else walkQueue expand fuel back.reverse [] seen acc
  | fuel + 1, x :: front, back, seen, acc =>
    if seen.contains x then walkQueue expand fuel front back seen acc
    else walkQueue expand fuel front ((expand x).reverse ++ back) (seen.insert x) (x :: acc)

namespace Arena

def ancestors (vs : Vars) (blockers : Vars := []) : Vars :=
  let expand v :=
    match a.owner v with
    | some n => if blockers.contains v then [] else (a.inputs n).reverse
    | none => []
  walkStack expand (2 * a.weight + vs.length) vs.reverse {} []

def graphInputs (vs : Vars) (blockers : Vars := []) : Vars :=
  (a.ancestors vs blockers).filter fun v => (a.owner v).isNone

def varsBetween : Vars :=
  let expand v :=
    match a.owner v with
    | some n => if ins.contains v then [] else (a.inputs n ++ a.outputs n).reverse
    | none => []
  walkQueue expand (4 * a.weight + 2 * outs.length) outs [] {} []

def orphansBetween : Vars :=
  (a.varsBetween ins outs).filter fun v => (a.owner v).isNone && !ins.contains v

def appliesBetween : Nodes :=
  (a.varsBetween ins outs).filterMap fun v => if ins.contains v then none else a.owner v

/-- The order by dependence: a node whose inputs are known is finished, any other waits below the owners of its
inputs. A node that would wait for itself is never finished: there is no order once the fuel is used up. -/
def topoLoop (a : Arena) (given : VarId -> Bool) (fuel : Nat) (todo : Nodes) (known : Std.HashSet VarId)
    (order : Nodes) : Option Nodes :=
  match todo with
  | [] => some order.reverse
  | n :: todo =>
    let have_ v := known.contains v || given v
    if have_ ((a.outputs n).headD default) then topoLoop a given fuel todo known order
    else if (a.inputs n).all fun v => have_ v || (a.owner v).isNone then
      topoLoop a given fuel todo ((a.outputs n).foldl (·.insert ·) known) (n :: order)
    else match fuel with
      | 0 => none
      | fuel + 1 => topoLoop a given fuel (((a.inputs n).filterMap a.owner).reverse ++ n :: todo) known order
termination_by (fuel, todo)

def toposort (ins outs : Vars) : Option Nodes :=
  a.topoLoop (fun _ => false) a.nodes.size (outs.filterMap a.owner) (.ofList ins) []

def toposortBeyond (given : VarId -> Bool) (outs : Vars) : Option Nodes :=
  a.topoLoop given a.nodes.size (outs.filterMap a.owner) {} []

end Arena

/-- An item of a bipartite graph. -/
inductive Item
  | var (v : VarId)
  | node (n : NodeId)
deriving DecidableEq, Hashable

def Item.node? : Item -> Option NodeId
  | .node n => some n
  | .var _ => none

/-- An order under way: what each item still waits for, what was taken, newest first, and the items
that became sources since. -/
structure Drain (α : Type) [BEq α] [Hashable α] where
  waits : Std.HashMap α (List α)
  taken : Std.HashSet α := {}
  order : List α := []
  next : List α := []

section Sources

variable {α : Type} [BEq α] [Hashable α] (clients : Std.HashMap α (List α))

variable (x : α) (d : Drain α) (items : List α) (deps : α -> List α)

def Drain.settle (c : α) : Drain α :=
  let left := (d.waits.getD c []).filter fun y => !(y == x)
  { d with waits := d.waits.insert c left, next := if left.isEmpty then c :: d.next else d.next }

/-- Takes a source; a client whose last open dependency it was becomes one. -/
def Drain.take (x : α) : Drain α :=
  if d.taken.contains x then d
  else (clients.getD x []).foldl (settle x) { d with taken := d.taken.insert x, order := x :: d.order }

def drainSources : Nat -> List α -> Drain α -> List α
  | 0, _, d => d.order.reverse
  | fuel + 1, sources, d =>
    let d := sources.foldl (Drain.take clients) { d with next := [] }
    if d.next.isEmpty then d.order.reverse else drainSources fuel d.next.reverse d

/-- The items that depend on each item. -/
def dependentsOf (items : List α) : Std.HashMap α (List α) :=
  items.foldr (fun x m => (deps x).foldr (fun d m => m.insert d (x :: m.getD d [])) m) ∅

/-- The items on which the outputs depend, each after what it depends on; `none` when the
dependence is cyclic. -/
def generalToposort (fuel : Nat) (outputs : List α) (deps : α -> List α) : Option (List α) :=
  let found := walkStack deps fuel outputs.reverse {} []
  let waits := .ofList (found.map fun x => (x, deps x))
  let order := drainSources (dependentsOf deps found) (found.length + 1) (found.filter fun x => (deps x).isEmpty) { waits }
  if order.length == found.length then some order else none

/-- One dependency less for an item to wait for; an item that waits for none is free. -/
def countDown (s : List α × Std.HashMap α Nat) (c : α) : List α × Std.HashMap α Nat :=
  let left := s.2.getD c 0 - 1
  (if left == 0 then c :: s.1 else s.1, s.2.insert c left)

/-- The number of items that can be visited, each when it has become free. -/
def visitFree : Nat -> List α × Std.HashMap α Nat -> Nat -> Nat
  | 0, _, k | _, ([], _), k => k
  | fuel + 1, (x :: free, counts), k => visitFree fuel ((clients.getD x []).foldl countDown (free, counts)) (k + 1)

/-- Whether a dependence has a cycle among the items: some of them never become free. Dependencies count
as often as they are listed. -/
def hasCycle : Bool :=
  let free := items.filter fun x => (deps x).isEmpty
  let counts := .ofList (items.map fun x => (x, (deps x).length))
  visitFree (dependentsOf deps items) (items.length + 1) (free, counts) 0 != items.length

end Sources

namespace Arena

abbrev Orderings := List (NodeId × List NodeId)

/-- What an item depends on: a variable on its owner unless it is given, a node on its operands and on
what further must come before it. -/
def itemNeeds (known : Std.HashSet VarId) (table : Std.HashMap NodeId Nodes) : Item -> List Item
  | .var v => if known.contains v then [] else (a.owner v).toList.map .node
  | .node n => (a.inputs n).map .var ++ (table.getD n []).map .node

def prerequisites (orderings : Orderings) : Std.HashMap NodeId Nodes :=
  orderings.foldl (fun m (n, l) => m.insert n (m.getD n [] ++ l)) ∅

/-- Order by dependence together with further prerequisites of nodes. -/
def toposortWith (ins outs : Vars) (orderings : Orderings) : Option Nodes :=
  let deps := a.itemNeeds (.ofList ins) (prerequisites orderings)
  (generalToposort (a.vars.size + a.nodes.size + outs.length) (outs.map .var) deps).map
    (·.filterMap Item.node?)

end Arena

namespace Arena

def listOfNodes (ins outs : Vars) : Nodes :=
  let stop n := (a.outputs n).any ins.contains
  let expand n :=
    (a.inputs n).filterMap fun v => match a.owner v with
      | some m => if stop m then none else some m
      | none => none
  walkQueue expand (4 * a.weight) (outs.filterMap a.owner) [] {} []

def needs (n target : NodeId) : Bool :=
  let expand m := (a.inputs m).filterMap a.owner
  (walkStack expand (2 * a.weight) [n] {} []).contains target

end Arena

end TensorGraph

/-!
## Sorting by wishes

A schedule puts elements in an order that respects dependences and, as far as possible, the wishes of
comparators. An `Order` records for each element what comes before it and what comes after it. A wish is
granted unless the two elements are related already; the order stays transitively closed, so the final
sort meets no cycle.
-/

namespace TensorGraph.Schedule

variable {α : Type} [BEq α]

/-- What is known to come before and after each element. -/
structure Order (α : Type) where
  (before after : List (α × List α))

def Order.start (xs : List α) : Order α := ⟨xs.map (·, []), xs.map (·, [])⟩

variable (pick : List α -> α) (edges : List (α × List α)) (o : Order α) (a : α)

def Order.predecessors : List α := (o.before.lookup a).getD []
def Order.successors : List α := (o.after.lookup a).getD []

def extend (m : List (α × List α)) (these more : List α) : List (α × List α) :=
  m.map fun e => (e.1, if these.contains e.1 then e.2 ++ more.filter (!e.2.contains ·) else e.2)

/-- Puts `a` before `b`: what is at or before `a` then comes before what is at or after `b`. The old successors of `a` are
not handed on to what comes before `a`; in a closed order, as all that arise here, they are there already. -/
def Order.link (a b : α) : Order α :=
  let firsts := a :: o.predecessors a
  let lasts := b :: o.successors b
  ⟨extend o.before lasts firsts, extend o.after firsts lasts⟩

def Order.grant (a b : α) : Order α :=
  if (o.predecessors a).contains b || (o.successors a).contains b then o else o.link a b

def granted (xs : List α) (wishes : List (α × α)) : Order α := wishes.foldl (fun o w => o.grant w.1 w.2) (.start xs)

def reverse : List (α × List α) :=
  (edges.flatMap (·.2)).eraseDups.map fun v => (v, edges.flatMap fun e => (e.2.filter (· == v)).map fun _ => e.1)

/-- All that comes before an element is done. -/
def isFree (before : List (α × List α)) (done : List α) (v : α) : Bool := ((before.lookup v).getD []).all done.contains

/-- Takes a ready element, as `pick` chooses one, and makes ready what waited only for it. -/
def sortFrom (pick : List α -> α) (edges before : List (α × List α)) : Nat -> List α -> List α -> List α
  | 0, _, done | _, [], done => done
  | fuel + 1, r :: ready, done =>
    let n := pick (r :: ready)
    let free := ((edges.lookup n).getD []).filter (isFree before (done ++ [n]))
    sortFrom pick edges before fuel ((r :: ready).filter (· != n) ++ free) (done ++ [n])

def toposort : Option (List α) :=
  let before := reverse edges
  let all := edges.map (·.1)
  let done := sortFrom pick edges before (edges.length + before.length) (all.filter (isFree before [])) []
  if all.all (isFree before done) then some done else none

/-- The pairs that comparators want in order, those of earlier comparators first. -/
def wishes {m : Type -> Type} [Monad m] (xs : List α) (wants : List (α -> α -> m Bool)) : m (List (α × α)) :=
  wants.flatMapM fun w => (xs.flatMap fun a => xs.map (a, ·)).filterM fun p => w p.1 p.2

def posort {m : Type -> Type} [Monad m] (xs : List α) (wants : List (α -> α -> m Bool)) : m (Option (List α)) := do
  return toposort pick (granted xs (<- wishes xs wants)).after

end TensorGraph.Schedule

namespace TensorGraph

variable (a : Arena) (n m : NodeId)

def Arena.dependsOn : Bool :=
  (a.outputs m).any (a.ancestors (a.inputs n)).contains

def Arena.dependence : Int :=
  if a.dependsOn n m then 1 else if a.dependsOn m n then -1 else 0

end TensorGraph
