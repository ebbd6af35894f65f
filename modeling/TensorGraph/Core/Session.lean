import TensorGraph.Graph.Basic
import TensorGraph.Loop.Layout

/-!
# Sessions

A session holds everything that the steps of one program share: the arena, the graphs, the passes,
the storage behind shared variables, the compiled functions, the mutable collections and the
settings. Programs share nothing with one another.
-/

namespace TensorGraph

/-- What a local rule looks at: nodes of one operator, or of one class of operators. -/
inductive Track
  | op (o : Op)
  | cls (name : String)
deriving BEq

instance : Coe Op Track := ⟨.op⟩
instance : Coe String Track := ⟨.cls⟩

/-- What a pass does with an error of a part of it. -/
inductive OnFailure
  | raise | warn | warnInplace | ignore
  | call (f : Value)

/-- What a local rule proposes for a node: nothing (because it does not apply, or because the node is of
no concern to it), a variable for each result of the node (or none where nobody reads it), or replacements
of any variables together with what must then be gone. -/
inductive Proposal
  | none
  | no
  | outputs (vs : List (Option VarId))
  | pairs (ps : List (VarId × VarId)) (gone : List NodeId)
  | wrong (v : Value)

structure Equilibrium where
  rules : List PassId
  onFailure : OnFailure := .raise
  ignoreNewTrees : Bool := true
  tracksOnChange : Bool := false
  maxUseRatio : Option Float := none
  final : List PassId := []
  cleanup : List PassId := []

/-- A rule for expressions of one commutative operator, its inverse and its reciprocal: sums with
differences and negation, or products with quotients and inverses. -/
structure Canonizer where
  (main inverse reciprocal : Op)
  (sums useReciprocal : Bool)

def Canonizer.ops (c : Canonizer) : List Op := [c.main, c.inverse, c.reciprocal]

inductive PassBody
  | rule (name : String)
  | localFn (fn : Value) (tracks : Option (List Track)) (inplace : Bool)
  | opSub (a b : Op) (transferTags : Bool)
  | opRemove (o : Op)
  | pattern (input output : Value) (allowMultiple : Bool) (skip : Value) (tracks : List Track)
      (getNodes : Value)
  | group (rules : List PassId) (applyAll profile graphToDevice : Bool)
  | canonizer (c : Canonizer)
  | metaRule (cls : String) (rules : List (PassId × List String)) (verbose : Int := 0)
  | global (name cls : String)
  | globalFn (fn : Value) (inplace : Bool)
  | seq (passes : List PassId) (onFailure : OnFailure)
  | merge
  | topo (rule : PassId) (order : String) (ignoreNewTrees : Bool) (onFailure : OnFailure)
  | opKey (rule : PassId) (ignoreNewTrees : Bool) (onFailure : OnFailure)
  | equilibrium (e : Equilibrium)
  | fusion (rule : PassId)
  | addFeature (f : FeatureId)
  | printGraph (header : String)
deriving Inhabited

structure Pass where
  body : PassBody
  name : Option String := none
  label : Option String := none
  tally : List (PassId × Nat × Nat × Nat) := []
deriving Inhabited

abbrev PassReport := Value

/-- An entry of a database. -/
inductive DbEntry
  | pass (p : PassId)
  | db (d : DbId)
deriving DecidableEq

inductive DbKind
  | plain
  | equilibrium (ignoreNewTrees tracksOnChange : Bool)
  | sequence (onFailure : OnFailure)
  | localGroup (applyAll profile graphToDevice : Bool)
  | topo (db : DbId) (order : String) (ignoreNewTrees : Bool) (onFailure : OnFailure)
  | proxy (db : DbId)
deriving Inhabited

structure Database where
  kind : DbKind
  name : Option String := none
  table : List (String × List DbEntry) := []
  names : List String := []
  final : Table Bool := []
  cleanup : Table Bool := []
  positions : Table Float := []
deriving Inhabited

/-- A selection from a database: the words to include, to require and to exclude, other selections for
databases within it, a position from which on nothing is taken, and further passes with their
positions. -/
structure Query where
  (including requiring excluding : List String)
  subqueries : List (String × Query)
  cutoff : Float
  extra : List (PassId × Float)

def Query.words (including : List String) (excluding : List String := []) (cutoff : Float := floatInf) : Query :=
  ⟨including.eraseDups, [], excluding.eraseDups, [], cutoff, []⟩

/-- The contents of a mutable collection. -/
inductive Cell
  | seq (xs : Array Value)
  | map (xs : Array (Value × Value))
deriving Inhabited

/-- A record: the name of its class and its fields, in order. -/
structure Record where
  cls : String
  fields : Table Value
deriving Inhabited

/-- Storage of a variable: what it may hold, and what it holds. -/
structure Box where
  type : Ty
  value : Value := .null
  readonly : Bool := false
  strict : Bool := false
  allowDowncast : Option Bool := none
  name : Option String := none
deriving Inhabited

/-- A caller's function made into an operator. -/
structure FunctionOp where
  fn : Value
  (itypes otypes : List Ty)
  inferShape : Value
  name : String
  /-- what programs set on it -/
  attrs : Table Value := []
deriving Inhabited

/-- An expression of scalar operators that acts as one. -/
structure Composite where
  (inputs outputs : Vars)
  graph : GraphId
  (key name : String)
deriving Inhabited

/-- One formal input of a compiled function. -/
structure InputSpec where
  var : VarId
  name : Option String := none
  value : Value := .null
  hasValue : Bool := false
  update : Option VarId := none
  mutable : Bool := false
  borrow : Bool := false
  strict : Bool := false
  allowDowncast : Option Bool := none
  autoname : Bool := true
  implicit : Bool := false
  /-- filled from shared storage rather than by the caller -/
  sharedBox : Option BoxId := none
  cls : String := "In"

/-- One output of a compiled function. -/
structure OutputSpec where
  var : VarId
  borrow : Bool := false

/-- What a function does with one of its inputs from call to call. -/
structure InputDefault where
  /-- the caller gives it at every call -/
  required : Bool
  /-- the value is put back after every call -/
  refeed : Bool
  value : Value

/-- A function made from a graph. -/
structure CompiledFunction where
  name : Option String
  graph : GraphId
  inputs : List InputSpec
  /-- the objects that describe the inputs -/
  inputObjects : Values
  outputs : List OutputSpec
  /-- the storage of each input -/
  boxes : List BoxId
  defaults : List InputDefault
  /-- the variables by which callers know the inputs -/
  known : Vars
  /-- the results are a single value, nothing, a list, or keyed -/
  single : Bool
  silent : Bool
  keys : Option (List String)
  (mode linker : Value)
  order : Nodes
  acceptInplace : Bool
  profile : Value
  attrs : Table Value := []
deriving Inhabited

/-- A loop: its inner expressions, how the outer operands feed them, and how it is compiled. -/
structure Loop where
  (inputs outputs : Vars)
  layout : LoopLayout
  /-- how many steps a gradient goes back; all if negative -/
  truncate : Value := .int (-1)
  name : String := "scan_fn"
  /-- the mode that the caller asked for -/
  mode : Value := .null
  /-- the mode in which the inner function is compiled -/
  innerMode : Value := .null
  profile : Value := false
  allowGc : Value := true
  strict : Value := false
  /-- which results overwrite which operands -/
  destroys : List (Nat × List Nat) := []
  /-- further settings, in order -/
  extras : Table Value := []
  /-- the number of the class of equal loops -/
  cls : Nat := 0
  /-- the compiled inner function -/
  compiled : Option FuncId := none
deriving Inhabited

/-- The text of a loop: its kind, what it overwrites, and its name. -/
def Loop.text (l : Loop) : String :=
  let kind := if l.layout.asWhile then "do_while" else "for"
  let close := s!"cpu,{l.name}\x7d"
  let keys := l.destroys.map (·.1)
  if keys.isEmpty then s!"{kind}\x7b{close}"
  else if keys.length == l.layout.nStates && (List.range l.layout.nStates).all keys.contains then
    kind ++ "all_inplace," ++ close
  else kind ++ "\x7binplace\x7b" ++ .join (keys.map fun k => s!"{k},") ++ "\x7d," ++ close

/-- Expressions made into an operator. What programs give for its derivatives is kept apart from the operators
that compute them, which are made when they are needed. -/
structure GraphOp where
  /-- the variables of which it was made; its own are copies of them -/
  given : Vars × Vars := ([], [])
  inputs : Vars := []
  outputs : Vars := []
  /-- the shared variables that stand at the end of its inputs -/
  shared : Vars := []
  inline : Bool := false
  name : Option String := none
  /-- how the expressions are compiled -/
  settings : Table Value := []
  pattern : Value := .null
  pull : Value := "default"
  /-- what is given for the gradient does not ask for the outputs -/
  ofGrads : Bool := false
  push : Value := "default"
  pulled : Option (Nat × List (Option VarId)) := none
  pushed : Option (Nat × List (Option VarId)) := none
  compiled : Value := .null
deriving Inhabited

structure Session where
  arena : Arena := {}
  graphs : Array FunctionGraph := #[]
  features : Array Feature := #[]
  passes : Array Pass := #[]
  databases : Array Database := #[]
  cells : Array Cell := #[]
  records : Array Record := #[]
  boxes : Array Box := #[]
  functions : Array CompiledFunction := #[]
  functionOps : Array FunctionOp := #[]
  composites : Array Composite := #[]
  loops : Array Loop := #[]
  graphOps : Array GraphOp := #[]
  /-- settings that differ from their defaults -/
  settings : Table Value := []
  /-- old values of settings that routines put back -/
  held : Table Value := []
  /-- text printed by the current step -/
  printed : String := ""
  /-- names bound by the steps so far -/
  bindings : Table Value := []
  clock : Option Float := none

variable (s : Session) (p : PassId) (id : Nat)

def Session.scanText : String := (s.loops.getD id default).text

def Session.graphOpText : String :=
  let x := s.graphOps.getD id default
  x.name.getD "OpFromGraph" ++ (if x.inline then "\x7binline=True\x7d" else "\x7binline=False\x7d")

def Session.databaseClass (d : DbId) : String :=
  match (s.databases.getD d.idx default).kind with
  | .plain => "DB"
  | .equilibrium .. => "EquilibriumDB"
  | .sequence _ => "SequenceDB"
  | .localGroup .. => "LocalGroupDB"
  | .topo .. => "TopoDB"
  | .proxy _ => "ProxyDB"

def Session.passClass : String :=
  match (s.passes.getD p.idx default).body with
  | .rule _ | .localFn .. => "FromFunctionLocalOptimizer"
  | .opSub .. => "OpSub"
  | .opRemove _ => "OpRemove"
  | .pattern .. => "PatternSub"
  | .group _ _ _ device => if device then "GraphToGPULocalOptGroup" else "LocalOptGroup"
  | .canonizer .. => "Canonizer"
  | .metaRule cls .. | .global _ cls => cls
  | .globalFn .. => "FromFunctionOptimizer"
  | .seq .. => "SeqOptimizer"
  | .merge => "MergeOptimizer"
  | .topo .. => "TopoOptimizer"
  | .opKey .. => "OpKeyOptimizer"
  | .equilibrium _ => "EquilibriumOptimizer"
  | .fusion _ => "FusionOptimizer"
  | .addFeature _ => "AddFeatureOptimizer"
  | .printGraph _ => "PrintCurrentFunctionGraph"

def Session.shortPassText : String :=
  let x := s.passes.getD p.idx default
  match x.label, x.name with
  | some l, _ => l
  | none, some n => n
  | none, none => "<pass>"

/-!
# Reading and changing a session

Small computations on the parts of a session: variables and nodes of the arena, collections and
records, storage, settings, and the printed text.
-/

def Base (α : Type) : Type := Session -> EStateM.Result Fault Session α
abbrev Kw := Table Value
abbrev Shapes := List (Option Values)

/-- The functions that are chosen by the kind of what they are applied to. -/
structure Kit where
  /-- tells the features of a graph what happened -/
  notify : GraphId -> Event -> Base Unit
  /-- applies an operator to arguments -/
  makeNode : Op -> Values -> Kw -> Base NodeId
  /-- makes a node ready to run in a function -/
  prepare : NodeId -> Base Unit
  /-- computes the results of a node from the values of its inputs -/
  perform : NodeId -> Values -> Base Values
  /-- the gradients for the inputs of an operator, given its inputs, its outputs and the gradients of
  the outputs -/
  pullback : Op -> Vars -> Vars -> Vars -> Base Vars
  /-- the results of an operator along a direction, given its inputs and the directions of those -/
  pushforward : Op -> Vars -> List (Option VarId) -> Base (List (Option VarId))
  /-- which inputs of a node matter for which outputs, if its operator says so -/
  connections : NodeId -> Base (Option Links)
  /-- the shapes of the outputs of a node, given those of its inputs -/
  inferShape : Value -> NodeId -> List (Option Values) -> Base (List (Option Values))
  /-- an attribute of a value -/
  attr : Value -> String -> Base Value
  /-- calls a value -/
  call : Value -> Values -> Kw -> Base Value
  /-- puts on a graph the observers that a pass needs -/
  requirePass : PassId -> GraphId -> Base Unit
  /-- runs a pass on a graph -/
  applyPass : PassId -> GraphId -> Base PassReport
  /-- applies a local rule to a node -/
  runRule : PassId -> GraphId -> NodeId -> Base Proposal
  /-- a variable with another pattern of stretchable dimensions -/
  patternBroadcast : VarId -> List Bool -> Base VarId
  /-- tensors joined along a new first dimension -/
  stack : Values -> Base VarId
  /-- a value as a sparse matrix of a layout, with elements of a type if one is given -/
  toSparse : SparseFormat -> Option DType -> Value -> Base SparseMatrix

def Kit.empty : Kit :=
  let deep α : Base α := fun s => .error (.plain .recursion) s
  { notify := fun _ _ => deep _, makeNode := fun _ _ _ => deep _, prepare := fun _ => deep _, perform := fun _ _ => deep _,
    pullback := fun _ _ _ _ => deep _, pushforward := fun _ _ _ => deep _, connections := fun _ => deep _,
    inferShape := fun _ _ _ => deep _, attr := fun _ _ => deep _,
    call := fun _ _ _ => deep _, requirePass := fun _ _ => deep _, applyPass := fun _ _ => deep _, runRule := fun _ _ _ => deep _,
    patternBroadcast := fun _ _ => deep _, stack := fun _ => deep _, toSparse := fun _ _ _ => deep _ }

def M (α : Type) : Type := Kit -> Session -> EStateM.Result Fault Session α

namespace M

@[noinline] def pure (a : α) : M α := fun _ s => .ok a s

@[noinline] def bind (x : M α) (f : α -> M β) : M β := fun k s =>
  match x k s with
  | .ok a s => f a k s
  | .error e s => .error e s

instance : Monad M where
  pure := pure
  bind := bind

@[noinline] def get : M Session := fun _ s => .ok s s
@[noinline] def set (s : Session) : M Unit := fun _ _ => .ok () s
@[noinline] def modify (f : Session -> Session) : M Unit := fun _ s => .ok () (f s)

instance : MonadStateOf Session M where
  get := get
  set := set
  modifyGet f := fun _ s => let (a, s) := f s; .ok a s

@[noinline] def throw (e : Fault) : M α := fun _ s => .error e s
@[noinline] def tryCatch (x : M α) (h : Fault -> M α) : M α := fun k s =>
  match x k s with
  | .ok a s => .ok a s
  | .error e s => h e k s

instance : MonadExceptOf Fault M where
  throw := throw
  tryCatch := tryCatch

def ask (f : Kit -> Base α) : M α := f
def toBase (x : M α) (k : Kit) : Base α := x k

end M

variable (v : Value) (name : String) (args : Values)

def callValue (kw : Kw) : M Value := M.ask fun k => k.call v args kw
def attrOf : M Value := M.ask fun k => k.attr v name

def callMethod (kw : Kw := []) : M Value :=
  callValue (.method v name) args kw

@[noinline] def fail (k : FaultKind) (m : String) : M α := M.throw (.told' k m)

def failWith (k : FaultKind) (parts : List String) : M α := fail k (tupleText parts)

@[noinline] def cannot (m : String := "") : M α := fail .notImplemented m

@[noinline] def raise (k : FaultKind) : M α := M.throw (.plain k)

@[noinline] def badType : M α := raise .type
@[noinline] def badValue : M α := raise .value
@[noinline] def badIndex : M α := raise .index
@[noinline] def noAttr : M α := raise .attr
@[noinline] def badKey : M α := raise .key
@[noinline] def unmet : M α := raise .assertion
@[noinline] def outOfFuel : M α := raise .recursion
def failType : String -> M α := fail .type
def failValue : String -> M α := fail .value

def callSign : M Value :=
  try callMethod v name args catch e => if e.isA .attr && !e.told then badType else throw e

def check (b : Bool) : M Unit := if b then pure () else unmet

def attempt (x : M α) : M (Option α) := do
  try
    return some (<- x)
  catch _ => pure none

def ensuring (x : M α) (after : M Unit) : M α := fun k s =>
  match x k s with
  | .ok a s => match after k s with | .ok _ s => .ok a s | .error e s => .error e s
  | .error e s => match after k s with | .ok _ s => .error e s | .error e' s => .error e' s

/-! ## Arena -/

def getArena : M Arena := fun _ s => .ok s.arena s

variable (n : NodeId) (v : VarId) (key : String) (c : CellId) (r : RecordId) (xs : Values) (name : String) (f : FeatureId)

def varInfo : M Variable := fun _ s => .ok (s.arena.var v) s
def nodeInfo : M Node := fun _ s => .ok (s.arena.node n) s
def typeOf : M Ty := fun _ s => .ok (s.arena.var v).type s
def ownerOf : M (Option NodeId) := fun _ s => .ok (s.arena.var v).owner s
def nameOf : M (Option String) := fun _ s => .ok (s.arena.var v).name s
def opOf : M Op := fun _ s => .ok (s.arena.node n).op s
def insOf : M Vars := fun _ s => .ok (s.arena.inputs n) s
def outsOf : M Vars := fun _ s => .ok (s.arena.outputs n) s
def readNode : M (Op × Vars) := return (<- opOf n, <- insOf n)
def isConstant : M Bool := fun _ s => .ok (s.arena.isConstant v) s
def isShared : M Bool := fun _ s => .ok (s.arena.isShared v) s
def constant? : M (Option Value) := fun _ s => .ok (s.arena.constant? v) s

def made? : M (Option (Op × Vars)) := fun _ s =>
  match (s.arena.var v).owner with
  | none => .ok none s
  | some n => let nd := s.arena.node n; .ok (some (nd.op, nd.inputs.toList)) s

def madeBy? : M (Option Op) := fun _ s => .ok ((s.arena.var v).owner.map s.arena.op) s
def outOf : M VarId := fun _ s => .ok ((s.arena.node n).outputs.getD 0 default) s

def dtypeOf : M DType := do
  let some d := (<- typeOf v).dtype? | noAttr
  pure d

def bcastOf : M (List Bool) := do
  match <- typeOf v with
  | .tensor _ b _ => pure b
  | .scalar _ => pure []
  | .sparse .. => pure [false, false]
  | _ => noAttr

def ndimOf : M Nat := do
  let some n := (<- typeOf v).ndim? | noAttr
  pure n

def addVar (v : Variable) : M VarId := fun _ s =>
  .ok ⟨s.arena.vars.size⟩ { s with arena := { s.arena with vars := s.arena.vars.push v } }

def newVar (t : Ty) (name : Option String := none) : M VarId := addVar { type := t, name }

def newConstant (t : Ty) (data : Value) (name : Option String := none) : M VarId :=
  addVar { type := t, name, role := .constant data }

def newNode (o : Op) (ins : Vars) (outs : List Ty) : M NodeId := fun _ s =>
  let (a, n) := s.arena.pushNode o ins outs
  .ok n { s with arena := a }

def newNodeWith (o : Op) (ins outs : Vars) : M NodeId := fun _ s =>
  let n := ⟨s.arena.nodes.size⟩
  let nodes := s.arena.nodes.push { op := o, inputs := ins.toArray, outputs := outs.toArray }
  let vars := outs.zipIdx.foldl (fun vs (v, i) =>
    vs.modify v.idx fun x => { x with owner := some n, index := i }) s.arena.vars
  .ok n { s with arena := { nodes, vars, links := s.arena.links + 2 + ins.length + outs.length } }

def modifyVar (f : Variable -> Variable) : M Unit :=
  M.modify fun s => { s with arena := s.arena.modifyVar v f }

def modifyNode (f : Node -> Node) : M Unit := M.modify fun s => { s with arena := s.arena.modifyNode n f }
def setName (name : Option String) : M Unit := modifyVar v fun x => { x with name }

def setNodeInput (i : Nat) (v : VarId) : M Unit :=
  modifyNode n fun x => { x with inputs := x.inputs.setIfInBounds i v }

/-! ## Association lists -/

def alistSet [BEq α] (k : α) (v : β) : List (α × β) -> List (α × β)
  | [] => [(k, v)]
  | (k', v') :: r => if k' == k then (k', v) :: r else (k', v') :: alistSet k v r

def alistErase [BEq α] (k : α) (l : List (α × β)) : List (α × β) := l.filter fun p => !(p.1 == k)

/-! ## Tags -/

def tagOf : M (Option Value) := do return (<- varInfo v).tag.lookup key

def setTag (x : Value) : M Unit :=
  modifyVar v fun i => { i with tag := alistSet key x i.tag }

def nodeTag : M (Option Value) := do return (<- nodeInfo n).tag.lookup key

def setNodeTag (x : Value) : M Unit :=
  modifyNode n fun i => { i with tag := alistSet key x i.tag }

def copyTags (src dst : VarId) : M Unit := do
  let t := (<- varInfo src).tag
  modifyVar dst fun i => { i with tag := t.foldl (fun acc (k, x) => alistSet k x acc) i.tag }

/-! ## Collections -/

def newCell (c : Cell) : M CellId := fun _ s => .ok ⟨s.cells.size⟩ { s with cells := s.cells.push c }

def newList : M Value := do return .list (<- newCell (.seq xs.toArray))
def newSet : M Value := do return .set (<- newCell (.seq xs.toArray))
def newOrderedSet : M Value := do return .orderedSet (<- newCell (.seq xs.toArray))
def newDict (xs : Pairs) : M Value := do return .dict (<- newCell (.map xs.toArray))
def cell : M Cell := fun _ s => .ok (s.cells.getD c.idx default) s
def setCell (x : Cell) : M Unit := M.modify fun s => { s with cells := s.cells.setIfInBounds c.idx x }

def cellItems : M Values := do
  match <- cell c with
  | .seq xs => pure xs.toList
  | .map xs => return xs.toList.map (·.1)

def cellPairs : M Pairs := do
  match <- cell c with
  | .seq _ => pure []
  | .map xs => pure xs.toList

def itemsOf (v : Value) : M Values := do
  match v with
  | .tuple xs => pure xs
  | .list c | .set c | .orderedSet c | .dict c => cellItems c
  | _ => badType

def members? (v : Value) : M (Option Values) := do
  if v matches .list _ | .tuple _ then return some (<- itemsOf v) else pure none

def listOf [Coe α Value] (l : List α) : M Value := newList (valuesOf l)
def intArg (v : Value) : M Int := if let some i := v.int? then pure i else badType

def inOwnMemory (v : Value) : M Value := do
  let .array a := v | pure v
  return .array { a with region := (<- newCell default).idx + 1 }

/-! ## Records -/

def newRecord (cls : String) (fields : Table Value) : M Value := fun _ s =>
  .ok (.record ⟨s.records.size⟩) { s with records := s.records.push ⟨cls, fields⟩ }

def record : M Record := fun _ s => .ok (s.records.getD r.idx default) s

def mapping? (v : Value) : M (Option Pairs) := do
  match v with
  | .dict c => return some (<- cellPairs c)
  | .record r => if let some (.dict c) := (<- record r).fields.lookup "items" then return some (<- cellPairs c) else return none
  | _ => pure none

def pairsOf (v : Value) : M Pairs := do
  if v.isNull then return []
  if let some ps <- mapping? v then return ps
  (<- itemsOf v).mapM fun p => do
    let [a, b] <- itemsOf p | badValue
    return (a, b)

def field : M Value := do return ((<- record r).fields.lookup name).getD .null

def setField (v : Value) : M Unit :=
  M.modify fun s =>
    let upd x := { x with fields := alistSet name v x.fields }
    { s with records := s.records.modify r.idx upd }

/-! ## Graphs, features, storage -/

def graph (g : GraphId) : M FunctionGraph := fun _ s => .ok (s.graphs.getD g.idx default) s

def modifyGraph (g : GraphId) (f : FunctionGraph -> FunctionGraph) : M Unit :=
  M.modify fun s => { s with graphs := s.graphs.modify g.idx f }

def newGraph (f : FunctionGraph) : M GraphId := fun _ s => .ok ⟨s.graphs.size⟩ { s with graphs := s.graphs.push f }
def feature : M Feature := fun _ s => .ok (s.features.getD f.idx default) s

def setFeature (x : Feature) : M Unit :=
  M.modify fun s => { s with features := s.features.setIfInBounds f.idx x }

def newFeature (x : Feature) : M FeatureId := fun _ s => .ok ⟨s.features.size⟩ { s with features := s.features.push x }
def box (b : BoxId) : M Box := fun _ s => .ok (s.boxes.getD b.idx default) s

def setBox (b : BoxId) (v : Value) : M Unit :=
  M.modify fun s => { s with boxes := s.boxes.modify b.idx fun x => { x with value := v } }

def newBox (x : Box) : M BoxId := fun _ s => .ok ⟨s.boxes.size⟩ { s with boxes := s.boxes.push x }
def pass (p : PassId) : M Pass := fun _ s => .ok (s.passes.getD p.idx default) s
def newPass (p : Pass) : M PassId := fun _ s => .ok ⟨s.passes.size⟩ { s with passes := s.passes.push p }
def modifyPass (p : PassId) (f : Pass -> Pass) : M Unit := M.modify fun s => { s with passes := s.passes.modify p.idx f }

/-! ## Output, settings, numbers -/

def put (t : String) : M Unit := M.modify fun s => { s with printed := s.printed ++ t }
def putLine (t : String) : M Unit := put s!"{t}\n"
def mapIdxM (f : Nat -> α -> M β) (xs : List α) : M (List β) := xs.zipIdx.mapM fun (x, i) => f i x

end TensorGraph
