import TensorGraph.Compile.Inputs

/-!
# Evaluating a graph

The nodes of a graph are evaluated in order, or on demand; cells that nobody reads any more are cleared.
-/

namespace TensorGraph

abbrev ValueMap := VarMap Value

/-- How a graph is evaluated. -/
inductive Machine
  | ordered (vm gc : Bool)
  /-- `reuse`: scalars may take over the cells of dead ones -/
  | stack (callback callbackInput : Value) (gc reuse : Bool)
  | wrapped (wrapper : Value)
  | checked (finite : Bool)

def Machine.className : Machine -> String
  | .ordered true true => "LoopGC"
  | .ordered true false => "Loop"
  | .stack .. => "Stack"
  | _ => "function"

def Op.isLazy (o : Op) : Bool := o matches .ifElse ..

def machineFor (linker : Value) (order : Nodes) : M Machine := do
  let .record r := linker | return .ordered false true
  match (<- record r).cls with
  | "VMLinker" =>
    let callback <- field r "callback"
    let callbackInput <- field r "callback_input"
    let measured <- do
      if (<- settingFlag "profile") || (<- settingFlag "print_global_stats") then settingFlag "profile_memory" else pure false
    let partialEval := (<- truthOf (<- field r "allow_partial_eval")) && !(<- truthOf (<- field r "use_cloop"))
    let gc <- truthOf (<- field r "allow_gc")
    let asked <- match <- field r "lazy" with
      | .null => setting "vm__lazy"
      | v => pure v
    let lazy <- match asked with
      | .null => order.anyM fun n => do return (<- opOf n).isLazy
      | v => truthOf v
    let watched := !callback.isNull || !callbackInput.isNull || measured
    if watched || partialEval then return .stack callback callbackInput gc !(watched || lazy)
    return if lazy then .stack .null .null gc false else .ordered true gc
  | "PerformLinker" => return .ordered false (<- truthOf (<- field r "allow_gc"))
  | "WrapLinker" => return .wrapped (<- field r "wrapper")
  | "_DummyLinker" => return .checked (<- truthOf (<- field r "finite"))
  | _ => return .ordered false true

/-- What a run computed, and which nodes it ran. -/
structure Run where
  values : ValueMap := {}
  executed : Nodes := []

variable (m : ValueMap) (vs : Vars)

def ValueMap.read (v : VarId) : M Value := do
  let some x := m[v]? | return (<- constant? v).getD .null
  pure x

def ValueMap.put (xs : Values) : ValueMap := (vs.zip xs).foldl (fun m (v, x) => m.insert v x) m
def ValueMap.clear : ValueMap := vs.foldl (·.insert · .null) m
def performNode (n : NodeId) (ins : Values) : M Values := M.ask fun k => k.perform n ins

variable (g : GraphId) (order : Nodes) (v : Value) (a : Arena)

def storedVariables : M Vars := do
  let x <- graph g
  let a <- getArena
  let met := x.inputs ++ (order.flatMap fun n => a.inputs n ++ a.outputs n) ++ x.outputs.filter a.isConstant
  let (l, _) := met.foldl (fun ((l, seen) : Vars × Std.HashSet VarId) v =>
    if seen.contains v then (l, seen) else (v :: l, seen.insert v)) ([], {})
  pure l.reverse

/-! ## Programs -/

/-- An instruction: a node, the cells that it reads and writes, and those to clear after it. -/
structure Thunk where
  node : NodeId
  (reads writes old : Vars)

namespace Arena

variable (a : Arena) (order : Nodes)

/-- What stands in the cell of a variable. -/
def content (cells : ValueMap) (v : VarId) : Value := cells.getD v ((a.constant? v).getD .null)

def computedBy : Std.HashSet VarId := .ofList (order.flatMap a.outputs)

/-- The last of the nodes to read each variable. -/
def lastUser : VarMap NodeId := order.foldl (fun m n => (a.inputs n).foldl (·.insert · n) m) ∅

def thunks (outputs : Vars) (gc : Bool) : List Thunk :=
  let computed := a.computedBy order
  let last := a.lastUser order
  let dead n v := gc && computed.contains v && !outputs.contains v && last[v]? == some n
  order.map fun n => ⟨n, a.inputs n, a.outputs n, (a.inputs n).filter (dead n)⟩

end Arena

def runThunk (cells : ValueMap) (t : Thunk) : M ValueMap := do
  return (cells.put t.writes (<- performNode t.node (t.reads.map (a.content cells)))).clear t.old

def streamline (thunks : List Thunk) (cells : ValueMap) : M ValueMap := thunks.foldlM (runThunk a) cells

def runOrdered (gc : Bool) (r : Run) : M Run := do
  let a <- getArena
  return { values := <- streamline a (a.thunks order (<- graph g).outputs gc) r.values, executed := order }

/-! ## Guards -/

def isNumeric : M Bool := do
  match v with
  | .null | .slice .. => pure false
  | .array a => return shapeSize a.shape != 0
  | .number .. => pure true
  | .record r => if (<- record r).cls == "RandomState" then return false else noAttr
  | .sparse m => return !m.data.isEmpty
  | _ => noAttr

def elementsOf : Option (DType × List Elem) :=
  match v with
  | .array a => some (a.dtype, a.data.toList)
  | .number d e => some (d, [e])
  | .sparse m => some (m.dtype, m.data.toList)
  | _ => none

def containsFloat (test : Float -> Bool) : M Bool := do
  if !(<- isNumeric v) then return false
  let some (d, es) := elementsOf v | pure false
  return !d.isDiscrete && es.any fun e => match e with
  | .cpx re im => test re || test im
  | e => test e.toFloat

def containsNan : M Bool := containsFloat v Float.isNaN
def containsInf : M Bool := containsFloat v Float.isInf

def containsBig : M Bool := do
  if !(<- isNumeric v) then return false
  let some (_, es) := elementsOf v | pure false
  let sizes := es.map fun e => match e with
    | .cpx re im => .sqrt (re * re + im * im)
    | e => e.toFloat.abs
  return !sizes.any Float.isNaN && sizes.any (· > 1e10)

def guardValue (guard : RecordId) (v : Value) : M Unit := do
  let mut found := []
  for (flag, test, message) in [("nan", containsNan, "NaN detected"), ("inf", containsInf, "Inf detected"),
      ("big", containsBig, "Big value detected")] do
    if <- truthOf (<- field guard flag) then
      if <- test v then found := found ++ [message]
  if !found.isEmpty && (<- settingText "NanGuardMode__action") == "raise" then
    fail .assertion ("\n".intercalate found ++ "\n")

def guardOf? (callback : Value) : M (Option RecordId) := do
  let .record r := callback | pure none
  return if (<- record r).cls == "NumberGuard" then some r else none

def isGuarded (v : VarId) : M Bool := do
  let some x <- tagOf v "nan_guard_mode_check" | pure true
  truthOf x

/-! ## Stacks of wanted nodes -/

/-- What a run from a stack has to know. -/
structure StackContext where
  graph : GraphId
  order : Nodes
  before : Std.HashMap NodeId Vars
  callback : Value
  gc : Bool
  outputs : Vars
  /-- what is computed from a variable directly -/
  readers : VarId -> Vars
  /-- the variables whose cells others take over -/
  cells : VarMap VarId

def StackContext.cellOf (x : StackContext) (v : VarId) : VarId := x.cells.getD v v

structure StackState extends Run where
  computed : Std.HashSet VarId

/-- The scalars that take over the cell of a scalar that nothing reads any more, each after it. -/
def reallocated (x : FunctionGraph) (readers : VarId -> Vars) : M VarPairs := do
  let a <- getArena
  let isScalar v := (a.typeOf v).ndim? == some 0
  let mut computed := Std.HashSet.ofList x.inputs
  let mut viewed : VarPairs := []
  let mut held := []
  let mut taken := []
  for (n, i) in order.zipIdx do
    let (ins, outs) := (a.inputs n, a.outputs n)
    computed := outs.foldl (·.insert ·) computed
    let maps := (<- destroysOf (a.op n)) ++ (<- viewsOf (a.op n))
    for (o, j) in outs.zipIdx do
      let some (k :: _) := maps.lookup j | pure ()
      let v := ins.getD k default
      let root := (viewed.lookup v).getD v
      viewed := (o, root) :: viewed
      held := (root, o) :: held
    for v in ins do
      let known := computed
      if isScalar v && (a.owner v).isSome && !x.outputs.contains v && (readers v).all known.contains && !taken.any (·.1 == v) then
        let root := (viewed.lookup v).getD v
        held := held.filter (· != (root, v))
        if !held.any (·.1 == root) && !x.inputs.contains root && !a.isConstant root then
          let used := taken
          if let some o := ((order.drop (i + 1)).flatMap a.outputs).find? fun o =>
              isScalar o && !used.any (·.2 == o) && a.typeOf v == a.typeOf o then
            taken := taken ++ [(v, o)]
  pure taken

/-- Clears what a node read and nothing is left to read. -/
def StackContext.release (x : StackContext) (a : Arena) (ins : Vars) (s : StackState) : StackState :=
  let dead v := x.gc && (a.owner v).isSome && !x.outputs.contains v && !(x.readers v).isEmpty
    && (x.readers v).all s.computed.contains
  { s with values := s.values.clear ((ins.filter dead).map x.cellOf) }

def lazyNeeds (x : StackContext) (o : Op) (ins : Vars) (s : StackState) : M (List Nat) := do
  let (.ifElse n .., cond :: branches) := (o, ins) | pure []
  if !s.computed.contains cond then return [0]
  let yes <- match <- s.values.read (x.cellOf cond) with
    | .array a => pure (a.data.any (·.truthy))
    | v => truthOf v
  let wanted := (List.range n).map fun i => if yes then i else n + i
  return (wanted.filter fun i => branches[i]?.any (!s.computed.contains ·)).map (· + 1)

def afterNode (x : StackContext) (n : NodeId) (s : StackState) : M Unit := do
  if x.callback.isNull then return
  match <- guardOf? x.callback with
  | some g =>
    for o in <- outsOf n do if s.computed.contains o && (<- isGuarded o) then guardValue g (<- s.values.read o)
  | none =>
    let thunk <- newRecord "function" [("node", n)]
    let stored <- storedVariables x.graph x.order
    let storage <- stored.mapM fun v => do return (.var v, <- newList [<- s.values.read v])
    let flags <- stored.mapM fun v => do return (.var v, <- newList [(s.computed.contains v)])
    let _ <- callValue x.callback [] [("node", n), ("thunk", thunk), ("storage_map", <- newDict storage),
      ("compute_map", <- newDict flags)]

def runStack (x : StackContext) : Nat -> Nodes -> StackState -> M StackState
  | 0, _, _ => outOfFuel
  | _, [], s => pure s
  | fuel + 1, n :: rest, s => do
    let o <- opOf n
    let ins <- insOf n
    let outs <- outsOf n
    let needed := ins ++ (x.before.getD n [])
    let a <- getArena
    -- a lazy node looks its cells up when it runs, any other had them before they were reassigned
    let at_ v := if o.isLazy then x.cellOf v else v
    let perform := do
      let results <- performNode n (<- ins.mapM fun v => s.values.read (at_ v))
      let s := { s with
        values := s.values.put (outs.map at_) results,
        computed := outs.foldl (·.insert ·) s.computed, executed := s.executed ++ [n] }
      afterNode x n s
      return x.release a ins s
    if outs.all s.computed.contains then runStack x fuel rest s
    else if !o.isLazy then
      if needed.all s.computed.contains then runStack x fuel rest (<- perform)
      else runStack x fuel ((needed.filterMap a.owner).reverse ++ n :: rest) s
    else
      let missing <- lazyNeeds x o ins s
      if missing.isEmpty then runStack x fuel rest (<- perform)
      else
        let s := { s with executed := s.executed ++ [n] }
        afterNode x n s
        let pushed := missing.flatMap fun i => n :: (ins[i]?.bind a.owner).toList
        runStack x fuel (pushed.reverse ++ rest) s

/-! ## Wrapped nodes -/

def runRecord (thunk : RecordId) : M Unit := do
  let .node n <- field thunk "node" | badType
  let ins <- (<- itemsOf (<- field thunk "inputs")).mapM fun c => do return (<- itemsOf c).headD .null
  let outs <- performNode n ins
  for (c, x) in (<- itemsOf (<- field thunk "outputs")).zip outs do
    let .list c := c | pure ()
    setCell c (.seq #[x])

def runWrapped (wrapper : Value) (r : Run) : M Run := do
  let stored <- storedVariables g order
  let mut cells : VarMap Value := {}
  for v in stored do cells := cells.insert v (<- newList [<- r.values.read v])
  let table := cells
  let cellsOf vs := newList (vs.map fun v => table.getD v .null)
  let mut i := 0
  for n in order do
    let thunk <- newRecord "function" [("node", n), ("inputs", <- cellsOf (<- insOf n)),
      ("outputs", <- cellsOf (<- outsOf n))]
    let args := [Value.graph g, .ofNat i, n, thunk]
    match wrapper, thunk with
    | .record w, .record t =>
      if (<- record w).cls == "Monitor" then
        let pre <- field w "pre_func"
        if !pre.isNull then let _ <- callValue pre args []
        runRecord t
        let post <- field w "post_func"
        if !post.isNull then let _ <- callValue post args []
      else let _ <- callValue wrapper args []
    | .list c, _ => for f in <- cellItems c do let _ <- callValue f args []
    | _, _ => let _ <- callValue wrapper args []
    i := i + 1
  let mut values := r.values
  for v in stored do
    let some (.list c) := table[v]? | pure ()
    values := values.insert v ((<- cellItems c).headD .null)
  return { values, executed := order }

def runChecked (finite : Bool) (r : Run) : M Run := do
  let valid v x := do
    let wild <- if let (true, .array _) := (finite, x) then pure ((<- containsNan x) || (<- containsInf x)) else pure false
    if wild || !(<- truthOf (<- callMethod (<- typeOf v) "is_valid_value" [x])) then
      fail .invalidValue "InvalidValueError"
  let mut values := r.values
  for v in (<- graph g).inputs do valid v (<- values.read v)
  for n in order do
    let read := do (<- insOf n).mapM fun v => do inOwnMemory (<- values.read v)
    let ins <- read
    let outs <- performNode n ins
    let vars <- outsOf n
    for (v, x) in vars.zip outs do valid v x
    let o <- opOf n
    if let .fromFunction _ := o then
      let known := (<- viewsOf o) ++ (<- destroysOf o)
      let regions xs := xs.map fun | .array a => a.region | _ => 0
      let ofOuts := regions outs
      let readers := (<- graph g).clients
      let used := vars.filter fun v => !(readers.getD v []).isEmpty
      for (k, i) in ofOuts.zipIdx do
        let from_ := (regions ins).zipIdx.filter (·.1 == k)
        let seen := known.flatMap fun (j, is) => if i == j then is else []
        let twins := (ofOuts.zip vars).zipIdx.filter fun ((l, v), j) => l == k && i != j && used.contains v
        if k != 0 && (from_.any (fun (_, j) => !seen.contains j)
            || from_.isEmpty && !twins.isEmpty && (vars[i]?.any used.contains)) then
          fail .badViewMap s!"  node: {<- textOf n}"
      for ((v, x), y) in (vars.zip outs).zip (<- performNode n (<- read)) do
        if !(<- truthOf (<- callMethod (<- typeOf v) "values_eq_approx" [x, y])) then
          fail .badThunkOutput "BadThunkOutput"
    for (v, x) in vars.zip outs do values := values.insert v x
  return { values, executed := order }

def evaluate (linker : Value) (start : List (VarId × Value))
    (updates : Nat) (subset : Option (List Int)) : M Run := do
  let values := start.foldl (fun m (v, x) => m.insert v x) {}
  let machine <- machineFor linker order
  if subset.isSome && !(machine matches .stack ..) then badType
  match machine with
  | .ordered _ gc => runOrdered g order gc { values }
  | .wrapped w => runWrapped g order w { values }
  | .checked finite => runChecked g order finite { values }
  | .stack callback callbackInput gc reuse =>
    let stored <- storedVariables g order
    let a <- getArena
    let given := stored.filter fun v => (a.owner v).isNone
    if !callbackInput.isNull then
      for v in given do
        let x <- values.read v
        match <- guardOf? callbackInput with
        | some r => if <- isGuarded v then guardValue r x
        | none => let _ <- callValue callbackInput [v, x] []
    let y <- graph g
    let outs := y.outputs
    let wanted <- match subset with
      | none => pure outs
      | some is =>
        let picked <- is.mapM fun i => do
          let some v := outs[(placeOf outs.length i).toNat]? | badIndex
          pure v
        pure (picked ++ outs.drop (outs.length - updates))
    let before := (<- graphOrderings g).foldl (fun m (n, ms) => m.insert n (ms.flatMap a.outputs)) {}
    let readers v := (y.clients.getD v []).flatMap fun (c, _) => if let .node n := c then a.outputs n else []
    let taken <- if reuse then reallocated order y readers else pure []
    let cells := taken.foldl (fun m (v, o) => m.insert o (m.getD v v)) ∅
    let s <- runStack { graph := g, order, before, callback, gc, outputs := outs, readers, cells }
      (1000 + 50 * (order.length + 1) * (order.length + 1)) (wanted.filterMap a.owner).reverse
      { values, computed := .ofList given }
    pure s.toRun

end TensorGraph
