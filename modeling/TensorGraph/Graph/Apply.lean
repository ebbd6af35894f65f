import TensorGraph.Types.Filter

/-!
# Applying operators

Applying an operator makes a node; if the settings ask for it, the results get test values computed
from those of the inputs.
-/

namespace TensorGraph

def sameConstantData (ta tb : Ty) (a b : Value) : Bool :=
  ta == tb &&
  match a, b with
  | .array x, .array y => x.shape == y.shape && x.sameValues y
  | .number _ x, .number _ y => x == y
  | .sparse x, .sparse y => x.isClose y
  | a, b => a.isKey b

variable (a : Arena)

namespace Arena

def sameConstants (x y : VarId) : Bool :=
  match a.constant? x, a.constant? y with
  | some d, some e => sameConstantData (a.typeOf x) (a.typeOf y) d e
  | _, _ => false

/-- Pairs known to be equal, and pairs known to differ. -/
structure Compared where
  equal : Std.HashSet (VarId × VarId) := ∅
  different : Std.HashSet (VarId × VarId) := ∅

mutual

/-- Whether two nodes compute the same from what is known. -/
def sameNodes (a : Arena) : Nat -> NodeId -> NodeId -> Compared -> Bool × Compared
  | 0, _, _, c => (false, c)
  | fuel + 1, n, m, c =>
    let x := a.node n
    let y := a.node m
    if !(x.op == y.op) || x.inputs.size != y.inputs.size || x.outputs.size != y.outputs.size then (false, c)
    else
      let outs := (x.outputs.zip y.outputs).toList
      if outs.any c.different.contains then (false, c)
      else if outs.all c.equal.contains then (true, c)
      else
        match a.sameInputs fuel (x.inputs.zip y.inputs).toList c with
        | (true, c) => (true, { c with equal := c.equal.insertMany outs })
        | r => r

def sameInputs (a : Arena) : Nat -> VarPairs -> Compared -> Bool × Compared
  | 0, _, c => (false, c)
  | _, [], c => (true, c)
  | fuel + 1, (x, y) :: rest, c =>
    if c.equal.contains (x, y) then a.sameInputs fuel rest c
    else
      match a.owner x, a.owner y with
      | some n, some m =>
        if (a.var x).index != (a.var y).index then (false, c)
        else
          match a.sameNodes fuel n m c with
          | (true, c) => a.sameInputs fuel rest c
          | (false, c) => (false, { c with different := c.different.insert (x, y) })
      | none, none => if x == y || a.sameConstants x y then a.sameInputs fuel rest c else (false, c)
      | _, _ => (false, c)

end

/-- Whether variables pairwise denote the same computation, when `ins` and `ins'` are identified. -/
def equalComputations (xs ys ins ins' : Vars) : Bool :=
  let shapesFit := (xs.zip ys).all fun (x, y) =>
    let i := a.var x
    let j := a.var y
    (i.owner.isSome == j.owner.isSome) && (i.owner.isNone || i.index == j.index)
      && (ins.contains x || i.type == j.type)
  let common := .ofList (ins.zip ins')
  let leaves := (xs.zip ys).all fun (x, y) =>
    (a.owner x).isSome ||
      (if a.isConstant x && a.isConstant y then a.sameConstants x y
       else common.contains (x, y) || x == y)
  if !(shapesFit && ins.length == ins'.length
      && (ins.zip ins').all (fun (x, y) => a.typeOf x == a.typeOf y) && leaves) then false
  else
    let step st p :=
      match st.1, a.owner p.1, a.owner p.2 with
      | true, some n, some m => a.sameNodes (4 * a.weight) n m st.2
      | b, _, _ => (b, st.2)
    ((xs.zip ys).foldl step (true, { equal := common })).1

end Arena

def wholeEqual (x y : Value) : M Bool := do
  match <- numericArray? x, <- numericArray? y with
  | some a, some b => return a.equalValues b
  | _, _ => valuesEqual x y

/-- Whether values, variables or not, pairwise denote the same computation. -/
def equalComputations (xs ys : Values) (ins ins' : Vars := []) : M Bool := do
  if xs.length != ys.length then failValue "The number of graphs/Variables in each argument must match."
  let a <- getArena
  let rec scan : Pairs -> Vars -> Vars -> M Bool
    | [], vs, ws => return a.equalComputations vs.reverse ws.reverse ins ins'
    | (.var v, .var w) :: rest, vs, ws =>
      let i := a.var v
      let j := a.var w
      if i.owner.isSome != j.owner.isSome || (i.owner.isSome && i.index != j.index)
          || (!ins.contains v && !(i.type == j.type)) then return false
      else scan rest (v :: vs) (w :: ws)
    | (.var v, y) :: _, _, _ => if let some d := a.constant? v then wholeEqual d y else return false
    | (x, .var w) :: _, _, _ => if let some d := a.constant? w then wholeEqual d x else return false
    | (x, y) :: _, _, _ => wholeEqual x y
  scan (xs.zip ys) [] []

variable (v : VarId)

/-- The value a variable takes in tests: its own if it is a constant or shared, else the tagged one. -/
def testValue : M Value := do
  let i <- varInfo v
  match i.role with
  | .constant d => pure d
  | .shared b => return (<- box b).value
  | .plain =>
    let some x := i.tag.lookup "test_value" | fail .testValue s!"{<- varText v} has no test value "
    pure x

def setCheckedTag (key : String) (x : Value) : M Unit := do
  if key == "test_value" then setTag v key (<- (<- typeOf v).filter x)
  else setTag v key x

variable (o : Op) (args : Values) (n : NodeId) (ins : Vars)

def computeTestValue : M Unit := do
  let level <- settingText "compute_test_value"
  let ins <- insOf n
  let rec gather : Vars -> Nat -> M (Option Values)
    | [], _ => return some []
    | v :: vs, i => do
      let found <- try
          pure (some (<- testValue v))
        catch e => if e.kind == .testValue then pure none else throw e
      match found with
      | some x =>
        let some xs <- gather vs (i + 1) | return none
        return some (x :: xs)
      | none =>
        if level == "raise" then
          failValue s!"Cannot compute test value: input {i} ({<- varText v}) of Op {<- nodeText n} missing default value. "
        else return none
  let some vals <- gather ins 0 | return
  let res <- M.ask fun k => k.perform n vals
  for (o, x) in (<- outsOf n).zip res do setCheckedTag o "test_value" x

def applyNode (kw : Kw := []) : M NodeId := do
  let n <- M.ask fun k => k.makeNode o args kw
  if (<- settingText "compute_test_value") != "off" then computeTestValue n
  pure n

def applyAll (kw : Kw := []) : M Vars := do outsOf (<- applyNode o args kw)

def applyTo (kw : Kw := []) : M VarId := do
  return (<- outsOf (<- applyNode o args kw)).getD (o.defaultOutput.getD 0) default

def apply1 (args : Vars) : M VarId := applyTo o (valuesOf args)

/-- The results of an operator as a caller sees them: one result alone, several in a list. -/
def callOp (kw : Kw := []) : M Value := do
  let wantList <- if let some v := kw.lookup "return_list" then truthOf v else pure false
  let n <- applyNode o args (alistErase "return_list" kw)
  let outs <- outsOf n
  match o.defaultOutput with
  | some i =>
    let v := (outs.getD i default)
    if wantList then newList [v] else pure v
  | none =>
    match wantList, outs with
    | false, [v] => pure v
    | _, _ => listOf outs

/-- The result that a node stands for. -/
def defaultOutputOf : M VarId := do
  let nd <- nodeInfo n
  match nd.op.defaultOutput with
  | some i =>
    if i >= nd.outputs.size then failValue s!"{<- opText nd.op}.default_output is out of range."
    return nd.outputs.getD i default
  | none =>
    if nd.outputs.size == 1 then return nd.outputs.getD 0 default
    failValue s!"{<- opText nd.op}.default_output should be an output index."

def cloneVar : M VarId := do addVar { (<- varInfo v).copied with owner := none, index := 0 }

def copyNode : M NodeId := fun _ s =>
  let (a, m) := s.arena.pushCopy n ins
  .ok m { s with arena := a }

def refuseVariable (t : Ty) (v : VarId) : M α := do
  let (ut, vt, tt) := ((<- typeOf v).text, <- varText v, t.text)
  failType s!"Cannot convert Type {ut} (of Variable {vt}) into Type {tt}. You can try to manually convert {vt} into a {tt}."

/-- The rule by which a type takes over a variable of another type. -/
def filterVariable (t : Ty) (v : VarId) : M VarId := do
  let u <- typeOf v
  if u == t then return v
  match t, u with
  | .tensor d b _, .tensor d' b' _ =>
    if d == d' && b.length == b'.length && (b.zip b').all (fun (x, y) => x == y || y) then
      let w <- M.ask fun k => k.patternBroadcast v b
      if (<- typeOf w) == t then return w
  | _, _ => pure ()
  refuseVariable t v

/-- A copy of a node on other inputs. Inputs of another type are converted when `strict`, otherwise
the operator is applied anew. -/
def cloneWithInputs (strict : Bool := true) : M NodeId := do
  let nd <- nodeInfo n
  let old := nd.inputs.toList
  let rec go : Vars -> Vars -> M (Vars × Bool)
    | o :: os, i :: is => do
      let same := (<- typeOf o) == (<- typeOf i)
      let i' <- if same || !strict then pure i else filterVariable (<- typeOf o) i
      let (rest, remake) <- go os is
      return (i' :: rest, remake || (!same && !strict))
    | _, is => return (is, false)
  let (ins, remake) <- go old ins
  if remake then
    let m <- M.ask fun k => k.makeNode nd.op (valuesOf ins) []
    modifyNode m fun x => { x with tag := x.tag.foldl (fun acc (k, v) => alistSet k v acc) nd.tag }
    pure m
  else copyNode n ins

/-- What each variable and node became in a copy. -/
structure CloneMap where
  vars : VarMap VarId := ∅
  nodes : Std.HashMap NodeId NodeId := ∅

namespace CloneMap

def note (m : CloneMap) (v w : VarId) : CloneMap := if m.vars.contains v then m else { m with vars := m.vars.insert v w }
def notes (m : CloneMap) (vs ws : Vars) : CloneMap := (vs.zip ws).foldl (fun m (v, w) => m.note v w) m

/-- Copies, or keeps, the variables that are not known yet. -/
def cover (copy : Bool) (m : CloneMap) (v : VarId) : M CloneMap := do
  if m.vars.contains v then return m
  return m.note v (<- if copy then cloneVar v else pure v)

def addNode (copyOrphans : Bool) (m : CloneMap) (n : NodeId) : M CloneMap := do
  let m <- (a.inputs n).foldlM (cover copyOrphans) m
  let n' <- cloneWithInputs n ((a.inputs n).map fun i => m.vars.getD i i)
  let m := if m.nodes.contains n then m else { m with nodes := m.nodes.insert n n' }
  return m.notes (a.outputs n) (<- outsOf n')

end CloneMap

/-- The nodes between inputs and outputs, each after the owners of its operands. -/
def orderBetween (ins outs : Vars) : M Nodes := do
  if let some order := (<- getArena).toposort ins outs then pure order else outOfFuel

/-- Copies the graph between inputs and outputs. Inputs and variables without an owner are copied or
kept, as the flags say; `memo` holds what is known already. -/
def cloneGraph (ins outs : Vars) (copyInputs copyOrphans : Bool) (memo : CloneMap := {}) :
    M CloneMap := do
  let a <- getArena
  let order <- orderBetween ins outs
  let m <- ins.foldlM (fun m i => return m.note i (<- if copyInputs then cloneVar i else pure i)) memo
  let m <- order.foldlM (CloneMap.addNode a copyOrphans) m
  outs.foldlM (CloneMap.cover true) m

def cloneBetween (ins outs : Vars) (copyInputs : Bool := true) (copyOrphans : Option Bool := none) :
    M (Vars × Vars) := do
  let m <- cloneGraph ins outs copyInputs (copyOrphans.getD copyInputs)
  pure (ins.map fun i => m.vars.getD i i, outs.map fun o => m.vars.getD o o)

/-! ## Which inputs matter for which outputs -/

def connections? : M (Option Links) := M.ask fun k => k.connections n

def connectionsOf : M Links := do
  match <- connections? n with
  | some p => pure p
  | none => return .replicate (<- insOf n).length (.replicate (<- outsOf n).length true)

/-- A node as far as connections go: its inputs, its outputs and its pattern. -/
structure Connector (V : Type) where
  (inputs outputs : List V)
  pattern : Links

namespace Connector

variable {V : Type} [BEq V] (c : Connector V) (k : Nat) (known : List (V × List Bool))

/-- Adds to the marks of an output those of an input that is connected with it. -/
def join (o : Nat) (acc : List Bool) (p : V × List Bool) : List Bool :=
  if p.2.getD o false then (known.lookup p.1).elim acc (.zipWith (· || ·) acc) else acc

def row (o : Nat) : List Bool :=
  (c.inputs.zip c.pattern).foldl (join known o) (.replicate k false)

def extend (c : Connector V) : List (V × List Bool) :=
  (c.outputs.zipIdx.map fun p => (p.1, c.row k known p.2)).reverse ++ known

/-- Each input is connected with itself alone. -/
def start (ins : List V) : List (V × List Bool) :=
  (ins.zipIdx.map fun p => (p.1, (List.range ins.length).map (· == p.2))).reverse

/-- Whether the pattern lacks entries for an input that is known. -/
def short (known : V -> Bool) : Bool :=
  c.inputs.zipIdx.any fun p => known p.1 && (c.pattern.getD p.2 []).length < c.outputs.length

def table (nodes : List (Connector V)) (ins outs : List V) : Links :=
  let known := nodes.foldl (extend ins.length) (start ins)
  (List.range ins.length).map fun i => outs.map fun o => ((known.lookup o).getD []).getD i false

end Connector

def connectionsBetween (ins outs : Vars) : M Links := do
  let a <- getArena
  let nodes <- (<- orderBetween ins outs).mapM fun n => do
    let told <- try connections? n catch e => if e.kind == .attr then pure none else throw e
    let c := ⟨a.inputs n, a.outputs n,
      told.getD (.replicate (a.inputs n).length (.replicate (a.outputs n).length true))⟩
    if c.short fun v => ins.contains v || (a.owner v).isSome then badIndex
    pure c
  return Connector.table nodes ins outs

/-!
# Who overwrites what

A graph in which nodes overwrite their operands is valid only if every other reader of that memory
runs before. `MemoryState` follows views to the variable whose memory they share; from it come the
prerequisites of the nodes that overwrite, and a graph is consistent when data flow and prerequisites
together have no cycle.
-/

def positionsOf (v : Option Value) : M (List (Nat × List Nat)) := do
  let some (.dict c) := v | pure []
  (<- cellPairs c).mapM fun (k, is) => do
    let .list d := is | badType
    return ((k.int?.getD 0).toNat, (<- cellItems d).map fun i => (i.int?.getD 0).toNat)

variable (o : Op)

def destroysOf : M (List (Nat × List Nat)) := do
  match o with
  | .scan id _ => return ((<- get).loops.getD id default).destroys
  | .fromFunction id => positionsOf (((<- get).functionOps.getD id default).attrs.lookup "destroy_map")
  | o => pure o.destroyMap

def viewsOf : M (List (Nat × List Nat)) := do
  match o with
  | .breakpoint _ => pure []
  | .fromFunction id => positionsOf (((<- get).functionOps.getD id default).attrs.lookup "view_map")
  | o => pure o.viewMap

def nodeViews (n : NodeId) : M (List (Nat × List Nat)) := do
  match <- opOf n with
  | .breakpoint _ => return (List.range (<- outsOf n).length).map fun i => (i, [i + 1])
  | o => viewsOf o

def viewRoots : Nat -> VarId -> M Vars
  | 0, _ => outOfFuel
  | fuel + 1, v => do
    let some n <- ownerOf v | pure [v]
    let some is := (<- nodeViews n).lookup ((<- outsOf n).findIdx (· == v)) | pure [v]
    let ins <- insOf n
    return (<- is.mapM fun i => viewRoots fuel (ins.getD i default)).flatten

def atPosition (vs : Vars) (i : Nat) : M VarId := if let some v := vs[i]? then pure v else badIndex

def tolerances : List (Nat × Nat) × List (Nat × Nat) :=
  match o with
  | .symbolic s => (s.toleratesSame, s.toleratesAliased)
  | .incSubtensor _ _ _ t => ([], t)
  | _ => ([], [])

/-- What a variable is a view of in the end. Views in a circle have no end. -/
def memoryRoot (viewOf : VarMap VarId) : Nat -> VarId -> M VarId
  | 0, _ => outOfFuel
  | fuel + 1, v => if let some w := viewOf[v]? then memoryRoot viewOf fuel w else pure v

/-- All views of the variables that wait, and the views of these. -/
def allViews (viewers : VarMap Vars) : Nat -> Vars -> Vars -> M Vars
  | _, [], acc => pure acc
  | 0, _, _ => outOfFuel
  | fuel + 1, v :: todo, acc =>
    let next := viewers.getD v []
    allViews viewers fuel (todo ++ next) (next.foldl (fun a x => if a.contains x then a else a ++ [x]) acc)

namespace Memory

/-- Roots of destroyed memory, what shares it, and who destroys it. -/
structure Roots where
  root : VarPairs := []
  impact : List (VarId × Vars) := []
  destroyer : List (VarId × NodeId) := []

def Roots.add (r : Roots) (root : VarId) (views : Vars) (n : NodeId) : Roots :=
  { root := r.root ++ (root, root) :: views.map (·, root)
    impact := r.impact ++ [(root, views ++ [root])]
    destroyer := r.destroyer ++ [(root, n)] }

variable (gid : GraphId) (f : FeatureId) (s : MemoryState) (n : NodeId) (reason : String) (view base : VarId)

/-- The memory of an operand that a node overwrites, with all that shares it. -/
def addRoot (ins : Vars) (r : Roots) (is : List Nat) : M Roots := do
  let [i] := is | cannot
  let root <- memoryRoot s.viewOf (s.viewOf.size + 1) (<- atPosition ins i)
  if (r.root.lookup root).isSome then fail .inconsistency s!"Multiple destroyers of {<- varText root}"
  let views <- allViews s.viewers (s.viewers.size + s.viewOf.size + 2) [root] []
  check (views.all fun v => v != root && (r.root.lookup v).isNone)
  return r.add root views n

def buildRoots : M Roots :=
  s.destroyers.toList.foldlM (fun r n => do
    let ins <- insOf n
    (<- destroysOf (<- opOf n)).foldlM (fun r e => addRoot s n ins r e.2) r) {}

def refresh : M MemoryState := do
  if s.gone then noAttr
  if !s.stale then return s
  let r <- buildRoots s
  let s := { s with root := r.root, impact := r.impact, rootDestroyer := r.destroyer, stale := false }
  setFeature f (.memory s)
  pure s

def destroyerOf (v : VarId) : Option NodeId :=
  (s.root.lookup v).bind fun r => s.rootDestroyer.lookup r

/-- Whether a reader of the variable, or of a view of it, overwrites it. -/
def overwritten (g : FunctionGraph) : Nat -> VarId -> M Bool
  | 0, _ => outOfFuel
  | fuel + 1, v => do
    (g.clients.getD v []).anyM fun (c, i) => do
      match c with
      | .output => pure false
      | .node n =>
        let o <- opOf n
        if (<- destroysOf o).any fun (_, is) => is.contains i then return true
        let outs <- outsOf n
        (<- nodeViews n).anyM fun (k, is) => do
          if is.contains i then overwritten g fuel (outs.getD k default) else return false

/-- Whether some of the variables are overwritten. -/
def anyDestroyed (vs : Vars) : M Bool := do
  match s.check with
  | .regular =>
    let s <- refresh f s
    return vs.any fun v => (destroyerOf s v).isSome
  | .fast =>
    let g <- graph gid
    vs.anyM fun v => do
      if !g.clients.contains v then badKey
      overwritten g (g.nodes.size + 2) v

/-- The quick test of a node that overwrites: its operand must not be constant, nor be read by others,
nor itself be a view or an overwritten operand. -/
def quickCheck : M MemoryState := do
  let is := ((<- destroysOf (<- opOf n)).flatMap (·.2)).eraseDups.mergeSort (· <= ·)
  let ins <- insOf n
  let g <- graph gid
  let mut s := s
  for i in is do
    let x := ins.getD i default
    let record m s :=
      { s with failed := alistSet n (.told' .inconsistency m) s.failed }
    let fixed <- match <- tagOf x "indestructible" with
      | some v => pure (match v with | .bool false | .null => false | _ => true)
      | none => isConstant x
    if fixed then s := record s!"Attempting to destroy indestructible variables: {<- varText x}" s
    else if (g.clients.getD x []).length > 1 then
      s := record s!"Destroyed variable has more than one client. {reason}" s
    else
      match <- ownerOf x with
      | none => pure ()
      | some m =>
        let k := (<- varInfo x).index
        let v <- nodeViews m
        let d <- destroysOf (<- opOf m)
        if !v.isEmpty then
          if !((v.lookup k).getD []).isEmpty then s := record s!"Destroyed variable has view_map. {reason}" s
        else if !d.isEmpty then
          if !((d.lookup k).getD []).isEmpty then s := record s!"Destroyed variable has destroy_map. {reason}" s
  pure s

def bump (m : VarMap (List (NodeId × Nat))) (v : VarId) (n : NodeId) :
    VarMap (List (NodeId × Nat)) :=
  let l := m.getD v []
  m.insert v (alistSet n ((l.lookup n).getD 0 + 1) l)

def addView : MemoryState :=
  let l := s.viewers.getD base []
  { s with viewOf := s.viewOf.insert view base,
           viewers := s.viewers.insert base (if l.contains view then l else l ++ [view]) }

def dropViewer : M MemoryState := do
  let l := s.viewers.getD base []
  if !l.contains view then badKey
  let l := l.filter (· != view)
  return { s with viewers := if l.isEmpty then s.viewers.erase base else s.viewers.insert base l }

def onImport : M MemoryState := do
  if s.seen.contains n then fail .protocol "double import"
  let mut s := { s with seen := s.seen.insert n () }
  let ins <- insOf n
  let outs <- outsOf n
  if !(<- destroysOf (<- opOf n)).isEmpty then
    s := { s with destroyers := s.destroyers.insert n }
    if s.check == .fast then s <- quickCheck gid s n reason
  for (k, is) in <- nodeViews n do
    match is with
    | [] => badIndex
    | [i] => s := addView s (<- atPosition outs k) (<- atPosition ins i)
    | _ => cannot s!"('destroying this output invalidates multiple inputs', {<- opText (<- opOf n)})"
  for i in ins do s := { s with clients := bump s.clients i n }
  for o in outs do if !s.clients.contains o then s := { s with clients := s.clients.insert o [] }
  return { s with stale := true }

def onPrune : M MemoryState := do
  if !s.seen.contains n then fail .protocol "prune without import"
  let mut s := { s with seen := s.seen.erase n }
  let ins <- insOf n
  let outs <- outsOf n
  for i in ins.eraseDups do s := { s with clients := s.clients.insert i (alistErase n (s.clients.getD i [])) }
  if !(<- destroysOf (<- opOf n)).isEmpty then s := { s with destroyers := s.destroyers.erase n }
  for (k, is) in <- nodeViews n do
    let [i] := is | cannot
    let o <- atPosition outs k
    s := { s with viewOf := s.viewOf.erase o }
    s <- dropViewer s o (<- atPosition ins i)
  return { s with stale := true, failed := alistErase n s.failed }

def onChange (c : Client) (i : Nat) (old new : VarId) (reason : String) :
    M MemoryState := do
  match c with
  | .output => return { s with stale := true }
  | .node n =>
    if !s.seen.contains n then fail .protocol "change without import"
    let l := s.clients.getD old []
    let left := (l.lookup n).getD 0 - 1
    let mut s := { s with
      clients := s.clients.insert old (if left == 0 then alistErase n l else alistSet n left l) }
    s := { s with clients := bump s.clients new n }
    let ins <- insOf n
    let outs <- outsOf n
    for (k, is) in <- nodeViews n do
      let [j] := is | cannot
      if j == i then
        let o <- atPosition outs k
        if (<- atPosition ins j) != new then fail .protocol "wrong new_r on change"
        s := { s with viewOf := s.viewOf.insert o new }
        s <- dropViewer s o old
        s := addView s o new
    if s.check == .fast then
      s := { s with failed := alistErase n s.failed }
      s <- quickCheck gid s n reason
    return { s with stale := true }

/-- Whether a variable may not be overwritten: it is marked so, or constant. -/
def fixedVar (a : Arena) (v : VarId) : Bool :=
  match (a.var v).tag.lookup "indestructible" with
  | none | some (.bool false) | some .null => a.isConstant v
  | some _ => true

/-- Adds the readers of memory that a node overwrites. The node itself may read it only as the operand
that it overwrites, or where its operator tolerates that. -/
def addReaders (o : Op) (ins : Vars) (readers : Nodes) (d : Nat) : M Nodes := do
  let x := ins.getD d default
  let some root := s.root.lookup x | badKey
  let shared := (s.impact.lookup root).getD []
  let (same, aliased) := tolerances o
  let tolerated := d :: (same.filter (·.1 == d)).map (·.2)
  let ignored := (aliased.filter (·.1 == d)).map (·.2)
  let clash := ins.zipIdx.find? fun (y, i) =>
    !ignored.contains i && shared.contains y && (!tolerated.contains i || y != x)
  if let some (_, i) := clash then fail .inconsistency s!"Input aliasing: {<- nodeText n} ({d}, {i})"
  return (shared.flatMap fun v => (s.clients.getD v []).map (·.1)).foldl
    (fun l m => if l.contains m then l else l ++ [m]) readers

/-- What must run before each node that overwrites: the other readers of that memory. -/
def orderings : M Arena.Orderings := do
  if s.gone then noAttr
  if s.destroyers.isEmpty then return []
  let s <- refresh f s
  let illegal := (s.root.map (·.1)).filter (fixedVar (<- getArena))
  if !illegal.isEmpty then
    fail .inconsistency ("Attempting to destroy indestructible variables: [" ++ commaList (<- illegal.mapM varText) ++ "]")
  s.destroyers.toList.foldlM (fun out n => do
    let o <- opOf n
    let ins <- insOf n
    let readers <- (<- destroysOf o).foldlM (fun l e => addReaders s n o ins l (e.2.headD 0)) []
    if !readers.contains n then badKey
    let others := readers.filter (· != n)
    return if others.isEmpty then out else out ++ [(n, others)]) []

def cyclic (ords : Arena.Orderings) : M Bool := do
  let g <- graph gid
  let a <- getArena
  return hasCycle (g.vars.toList.map .var ++ g.nodes.toList.map .node) (a.itemNeeds {} (Arena.prerequisites ords))

def validate (gid : GraphId) (f : FeatureId) (s : MemoryState) : M Unit := do
  if s.destroyers.isEmpty then return
  match s.check with
  | .regular =>
    let ords <- orderings f s
    if <- cyclic gid ords then fail .inconsistency "Dependency graph contains cycles"
  | .fast =>
    if s.failed.isEmpty then return
    let pairs := s.failed
    let g <- graph gid
    let mut t := { s with failed := [] }
    for (n, _) in pairs do if g.nodes.contains n then t <- quickCheck gid t n "validate"
    if t.failed.isEmpty then setFeature f (.memory t)
    else
      setFeature f (.memory { t with failed := pairs })
      let some (_, e) := pairs.getLast? | pure ()
      throw e

end Memory

end TensorGraph
