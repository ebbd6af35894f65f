import TensorGraph.Graph.Apply

/-!
# Changing a function graph

A function graph keeps the set of its nodes and variables and the readers of each variable in step
with every change of an input. Observers are told of each node that comes in or goes and of each
change; a checkpoint marks a state to which the changes since can be undone.
-/

namespace TensorGraph

namespace FunctionGraph

variable (v : VarId) (c : Client × Nat) (x : FunctionGraph)

def readers (v : VarId) : List (Client × Nat) := x.clients.getD v []

def setup : FunctionGraph :=
  { x with clients := if x.clients.contains v then x.clients else x.clients.insert v [], vars := x.vars.insert v }

def note : FunctionGraph := { x with clients := x.clients.insert v (x.readers v ++ [c]) }
def strike : FunctionGraph := { x with clients := x.clients.insert v ((x.readers v).erase c) }
def forget : FunctionGraph := { x with vars := x.vars.erase v }

def enrol (a : Arena) (n : NodeId) : FunctionGraph :=
  (a.inputs n).zipIdx.foldl (fun x (v, i) => (if x.vars.contains v then x else x.setup v).note v (.node n, i))
    ((a.outputs n).foldl (fun x v => x.setup v) { x with nodes := x.nodes.insert n })

def drop (n : NodeId) (outs : Vars) : FunctionGraph :=
  { x with nodes := x.nodes.erase n, vars := outs.foldl (fun s o => s.erase o) x.vars }

end FunctionGraph

variable (a : Arena) (x : FunctionGraph)

def Arena.declares (v : VarId) : Bool :=
  (a.owner v).isSome || a.isConstant v || x.inputs.contains v

def Arena.undeclared? (ns : Nodes) : Option (NodeId × VarId) :=
  ns.findSome? fun n => ((a.inputs n).find? fun v => !a.declares x v).map (n, ·)

variable (g : GraphId) (pairs : VarPairs) (v : VarId) (reason : String) (names : List String) (c : Client × Nat) (f : Feature)

def tellGraph (e : Event) : M Unit := M.ask fun k => k.notify g e

/-! ## Abilities lent by features -/

def ability? (name : String) : M (Option FeatureId) := do return (<- graph g).abilities.lookup name

def lend (f : FeatureId) : M Unit :=
  modifyGraph g fun x => { x with abilities := names.foldl (fun l n => alistSet n f l) x.abilities }

def withdraw : M Unit :=
  modifyGraph g fun x => { x with abilities := x.abilities.filter fun p => !names.contains p.1 }

def memoryOf? : M (Option (FeatureId × MemoryState)) := do
  let some f <- ability? g "destroy_handler" | pure none
  let .memory s <- feature f | pure none
  return some (f, s)

/-- Prerequisites as a dictionary gives them. -/
def readOrderings (strict : Bool) (v : Value) : M (List (NodeId × Nodes)) := do
  let .dict c := v | badType
  (<- cellPairs c).filterMapM fun (k, l) => do
    let .node n := k | return none
    if strict && !(l matches .list _ | .orderedSet _) then
      failType "prereqs must be a type with a deterministic iteration order, or toposort  will be non-deterministic."
    return some (n, (<- itemsOf l).filterMap fun | .node m => some m | _ => none)

/-- What further must come before each node. -/
def graphOrderings : M (List (NodeId × Nodes)) := do
  let all <- ((<- graph g).features).mapM fun f => do
    match <- feature f with
    | .memory s => Memory.orderings f s
    | .plain l => if let some h := l.lookup "orderings" then readOrderings true (<- callValue h [g] []) else pure []
    | _ => pure []
  match all.filter (!·.isEmpty) with
  | [o] => pure o
  | os => return os.flatten.foldl (fun l (n, ps) => alistSet n ((l.lookup n).getD [] ++ ps) l) []

/-- The nodes of the graph in an order in which they can run. -/
def graphToposort : M Nodes := do
  let x <- graph g
  if x.nodes.size < 2 then return x.nodes.toList
  let ords <- graphOrderings g
  if ords.isEmpty then return <- orderBetween x.inputs x.outputs
  let some l := (<- getArena).toposortWith x.inputs x.outputs ords | failValue "graph contains cycles"
  pure l

def timeOn : M Value := do
  return if ((<- graph g).attrs.lookup "profile").all (·.isNull) then .null else .float 0

def observerTimes : M Pairs := do
  if (<- timeOn g).isNull then return []
  return (<- graph g).told.map fun (f, told) => (f, if told then .float 0 else 0)

/-! ## Growing and shrinking -/

def setupVar : M Unit := modifyGraph g (·.setup v)

def addClient : M Unit := do
  if !(<- graph g).clients.contains v then badKey
  modifyGraph g (·.note v c)

def noteReason (n : NodeId) (key reason : String) : M Unit :=
  modifyNode n fun x =>
    let old := if let some (.tuple l) := x.tag.lookup key then l else []
    { x with tag := alistSet key (.tuple (old ++ [.str reason])) x.tag }

def importNode (n : NodeId) (reason : String) (checked : Bool := true) : M Unit := do
  let a <- getArena
  let given := ((<- graph g).vars).contains
  -- an expression that reads itself has no order: looking for one takes all the memory there is
  let some new := a.toposortBeyond given (a.outputs n) | raise .memory
  if checked then
    if let some (m, v) := a.undeclared? (<- graph g) new then
      fail .missingInput ("Input " ++ toString ((a.inputs m).findIdx (· == v))
        ++ " of the graph (indices start from 0), used to compute " ++ (<- nodeText m)
        ++ ", was not provided and not given a value. Use the Theano flag "
        ++ "exception_verbosity='high', for more information on this error.")
  for m in new do
    check (!(<- graph g).nodes.contains m)
    modifyGraph g (·.enrol (<- getArena) m)
    noteReason m "imported_by" reason
    tellGraph g (.imported m reason)

def importVar : M Unit := do
  match <- ownerOf v with
  | some n => if !(<- graph g).nodes.contains n then importNode g n reason
  | none =>
    if !(<- getArena).declares (<- graph g) v then
      let .null why <- typeOf v | fail .missingInput "Undeclared input"
      failType s!"Computation graph contains a NaN. {why}"
  setupVar g v

/-- Removes readers; variables and nodes that nobody reads any more go too. -/
def removeClients (g : GraphId) (reason : String) : Nat -> List (VarId × Client × Nat) -> M Unit
  | _, [] => pure ()
  | 0, _ => outOfFuel
  | fuel + 1, (v, c) :: todo => do
    let x <- graph g
    let some l := x.clients[v]? | badKey
    modifyGraph g (·.strike v c)
    if l.contains c && !(l.erase c).isEmpty then removeClients g reason fuel todo
    else
      match <- ownerOf v with
      | none =>
        if !(<- graph g).vars.contains v then badKey
        modifyGraph g (·.forget v)
        removeClients g reason fuel todo
      | some n =>
        let outs <- outsOf n
        let x <- graph g
        if !outs.all x.clients.contains then badKey
        if outs.any fun o => !(x.readers o).isEmpty then removeClients g reason fuel todo
        else
          noteReason n "removed_by" reason
          if !x.nodes.contains n then badKey
          modifyGraph g (·.drop n outs)
          tellGraph g (.pruned n reason)
          removeClients g reason fuel (((<- insOf n).zipIdx.map fun (i, k) => (i, Client.node n, k)).reverse ++ todo)

def removeClient (reason : String) : M Unit := do
  removeClients g reason (2 * (<- getArena).weight + 2) [(v, c)]

/-- What a reader reads. -/
def readBy (c : Client) : M Vars := do
  match c with
  | .output => return (<- graph g).outputs
  | .node n => insOf n

/-- Lets a reader read another variable. -/
def changeInput (c : Client) (i : Nat) (new : VarId) (reason : String) : M Unit := do
  let some old := (<- readBy g c)[i]? | badIndex
  if (<- typeOf old) != (<- typeOf new) then
    failType s!"('The type of the replacement must be the same as the type of the original Variable.', {<- varText old}, {<- varText new})"
  match c with
  | .output => modifyGraph g fun x => { x with outputs := x.outputs.set i new }
  | .node n => setNodeInput n i new
  if old == new then return
  importVar g new reason
  addClient g new (c, i)
  removeClient g old (c, i) reason
  tellGraph g (.changed c i old new reason)

def badReplacement : M α := M.throw (.told' .badOptimization "BadOptimization Error")

def convertReplacement (v new : VarId) : M VarId := do
  let t <- typeOf v
  if (<- typeOf new) == t then return new
  match <- attempt (filterVariable t new) with
  | some w => if (<- typeOf w) == t then return w else badReplacement
  | none => badReplacement

def verbosity (verbose : Option Bool) : M Bool := if let some b := verbose then pure b else settingFlag "optimizer_verbose"

/-- Refuses a replacement whose test value has another shape. -/
def compareTestValues (v new : VarId) : M Unit := do
  if (<- settingText "compute_test_value") == "off" then return
  let shapes <- try
      pure (some ((<- testValue v), <- testValue new))
    catch e => if e.isA .testValue then pure none else throw e
  let some (t, u) := shapes | pure ()
  let sh x := match x with
    | .array a => shapeText a.shape
    | .number .. => "()"
    | .sparse m => shapeText [m.rows, m.cols]
    | _ => "None"
  if sh t != sh u then
    fail .assertion
      s!"The replacement variable has a test value with a shape different from the original variable's test value. Original: {sh t}, new: {sh u}"

/-- Lets all readers of a variable read another. -/
def redirect (v new : VarId) (reason : String) : M Unit := do
  for (c, i) in (<- graph g).readers v do
    check ((<- readBy g c).getD i default == v)
    changeInput g c i new reason

/-- Replaces a variable by another, which is converted if need be. -/
def replaceVar (v new : VarId) (reason : String) (verbose : Option Bool := none) : M Unit := do
  if <- verbosity verbose then putLine s!"{reason} {<- varText v} {<- varText new}"
  let new <- convertReplacement v new
  if !(<- graph g).vars.contains v then return
  compareTestValues v new
  redirect g v new reason

def replaceAll (verbose : Option Bool := none) : M Unit := do
  for (v, new) in pairs do replaceVar g v new reason verbose

/-! ## Checkpoints -/

def histories : List (GraphId × Option (List Undo)) :=
  match f with
  | .history h | .replaceValidate h .. => h
  | _ => []

def withHistories (h : List (GraphId × Option (List Undo))) : Feature :=
  match f with
  | .history _ => .history h
  | .replaceValidate _ r b => .replaceValidate h r b
  | f => f

def setHistory (f : FeatureId) (h : Option (List Undo)) : M Unit := do
  let x <- feature f
  setFeature f (withHistories x (alistSet g h (histories x)))

def checkpoint (g : GraphId) : M Nat := do
  let some f <- ability? g "checkpoint" | noAttr
  setHistory g f (some [])
  modifyGraph g fun y => { y with checkpoints := y.checkpoints + 1 }
  return (<- graph g).checkpoints

def revertReason : String :=
  if reason == "None" then "('Revert', None)" else s!"('Revert', {quoted reason})"

/-- Undoes the changes since a checkpoint, which must be the last one. -/
def revert (g : GraphId) (mark : Int) : M Unit := do
  let some f <- ability? g "revert" | noAttr
  let some h := (histories (<- feature f)).lookup g | badKey
  setHistory g f none
  check (((<- graph g).checkpoints : Int) == mark)
  let some l := h | pure ()
  for u in l do changeInput g u.client u.index u.var (revertReason u.reason)
  setHistory g f (some [])

def validateGraph : M Unit := do
  if (<- ability? g "validate").isNone then noAttr
  tellGraph g .validate

def isConsistent : M Bool := do return (<- attempt (validateGraph g)).isSome

/-- Makes replacements and validates the graph; on failure all of them are undone. -/
def replaceAllValidate (verbose : Option Bool := none) : M Nat := do
  if (<- ability? g "replace_all_validate").isNone then noAttr
  let mark <- checkpoint g
  let verbose <- verbosity verbose
  try
    replaceAll g pairs reason (some false)
  catch e =>
    -- what nested too deep would nest too deep again
    if e.kind == .recursion then throw e
    revert g mark
    throw e
  let (v, new) := pairs.getLastD default
  try
    validateGraph g
  catch e =>
    revert g mark
    if verbose then putLine s!"validate failed on node {<- varText v}.\n Reason: {reason}, {e.message}"
    throw e
  if verbose && !pairs.isEmpty then putLine s!"{reason} {<- varText v} {<- varText new}"
  pure mark

def replaceAllValidateRemove (gone : List Item) (reason : String) (warn : Bool := true) : M Unit := do
  let some f <- ability? g "replace_all_validate_remove" | noAttr
  let mark <- replaceAllValidate g pairs reason
  if let .replaceValidate h r b <- feature f then setFeature f (.replaceValidate h (r ++ gone.filterMap Item.node?) b)
  for x in gone do
    let y <- graph g
    let there := match x with
      | .node n => y.nodes.contains n
      | .var v => y.vars.contains v
    if there then
      revert g mark
      if warn then badType else fail .replacementKept ""

/-! ## Making graphs -/

def importOutputs (outs : Vars) : M Unit := do
  for o in outs do importVar g o "init"
  for (o, i) in outs.zipIdx do addClient g o (.output, i)

def addInput (checked : Bool := true) : M Unit := do
  if checked && (<- graph g).inputs.contains v then return
  modifyGraph g fun x => { x with inputs := x.inputs ++ [v] }
  setupVar g v

/-!
# What observers do

How each kind of observer answers an event: histories note what to undo, the memory observer keeps
track of views, a finder keeps nodes by operator, a listener prints. Observers that lend abilities to
the graph refuse to be attached twice.
-/

def historyAbilities : List String := ["checkpoint", "revert"]
def validatorAbilities : List String := ["validate", "consistent"]
def replaceAbilities : List String := ["replace_validate", "replace_all_validate", "replace_all_validate_remove"]

variable (g : GraphId) (f : FeatureId) (s : MemoryState) (n : NodeId) (ins outs : Vars)

def refuseIfThere (names : List String) (what : String) : M Unit := do
  for n in names do
    if (<- ability? g n).isSome then fail .alreadyThere s!"{what} is already present or in conflict with another plugin."

def attachHistory : M Unit := do
  refuseIfThere g historyAbilities "History feature"
  setHistory g f (some [])
  modifyGraph g fun y => { y with checkpoints := 0 }
  lend g historyAbilities f

def attachValidator : M Unit := do
  refuseIfThere g ["validate", "validate_time"] "Validator feature"
  lend g validatorAbilities f

def forNodes (act : NodeId -> M Unit) : M Unit := do
  let x <- graph g
  for n in <- orderBetween x.inputs x.outputs do act n

def attachMemory : M Unit := do
  if s.graph.isSome then fail .generic "A DestroyHandler instance can only serve one FunctionGraph. (Matthew 6:24)"
  refuseIfThere g ["destroyers", "destroy_handler"] "DestroyHandler feature"
  lend g ["destroyers", "has_destroyers", "destroy_handler"] f
  setFeature f (.memory { importOnAttach := s.importOnAttach, check := s.check, graph := some g,
                          root := s.root, impact := s.impact, rootDestroyer := s.rootDestroyer, failed := s.failed })
  if s.importOnAttach then
    forNodes g fun n => do
      let .memory s <- feature f | pure ()
      setFeature f (.memory (<- Memory.onImport g s n "on_attach"))

def detachMemory : M Unit := do
  if s.graph != some g then fail .generic s!"('detaching wrong fgraph', {<- functionGraphText g})"
  setFeature f (.memory { s with gone := true })
  noAttr

/-- Adds a value to those filed under a key. -/
def alistAppend [BEq α] (k : α) (v : β) (l : List (α × List β)) : List (α × List β) :=
  if (l.lookup k).isSome then l.map fun (p, vs) => (p, if p == k then vs ++ [v] else vs) else l ++ [(k, [v])]

def finderAdd : M Unit := do
  let .nodeFinder g t <- feature f | pure ()
  let o <- opOf n
  setFeature f (.nodeFinder g (alistAppend o n t))

def finderDrop : M Unit := do
  let .nodeFinder g t <- feature f | pure ()
  let o <- opOf n
  let some l := t.lookup o | badKey
  if !l.contains n then badValue
  let t := t.filterMap fun (p, l) =>
    if p == o then let l := l.erase n; if l.isEmpty then none else some (p, l) else some (p, l)
  setFeature f (.nodeFinder g t)

def finderQuery (o : Op) : M Nodes := do
  let .nodeFinder _ t <- feature f | pure []
  return (t.lookup o).getD []

/-- Protected variables must not be overwritten. -/
def superviseGraph (guarded : Vars) : M Unit := do
  let some (f, s) <- memoryOf? g | pure ()
  if (<- settingText "cycle_detection") == "fast" && (<- ability? g "has_destroyers").isSome then
    if <- Memory.anyDestroyed g f s guarded then fail .inconsistency "Trying to destroy a protectedVariable."
  else if s.gone || !s.destroyers.isEmpty then
    for v in guarded ++ (<- graph g).outputs do
      if (Memory.destroyerOf (<- Memory.refresh f s) v).isSome then
        failWith .inconsistency ["'Trying to destroy a protectedVariable.'", <- varText v]

/-- Outputs in a range must not be computed in place. -/
def forbidInplaceOutputs (first : Int) (last : Option Int) : M Unit := do
  if (<- ability? g "destroyers").isNone then return
  let outs := (<- graph g).outputs
  let n := outs.length
  let place i := (max 0 (min (n : Int) (placeOf n i))).toNat
  for o in (outs.take ((last.map place).getD n)).drop (place first) do
    let some n <- ownerOf o | pure ()
    let k := (<- outsOf n).findIdx (· == o)
    if ((<- destroysOf (<- opOf n)).lookup k).isSome then
      fail .inconsistency ("A function graph Feature has requested that outputs of the graph be prevented from "
        ++ "being the result of in-place operations. This has prevented the output " ++ (<- varText o)
        ++ " from being computed by modifying another variable in-place.")

def clientText (c : Client) : M String := do
  match c with
  | .output => pure "output"
  | .node n => nodeText n

/-- How an observer of the common kinds answers an event. -/
def observe (e : Event) : M Unit := do
  match <- feature f, e with
  -- attaching
  | .history _, .attached _ => attachHistory g f
  | .validator, .attached _ => attachValidator g f
  | .replaceValidate h .., .attached _ =>
    refuseIfThere g replaceAbilities "ReplaceValidate feature"
    setFeature f (.replaceValidate h [] false)
    attachHistory g f
    attachValidator g f
    lend g replaceAbilities f
  | .nodeFinder owner t, .attached _ =>
    if owner.isSome then fail .generic "A NodeFinder instance can only serve one FunctionGraph."
    refuseIfThere g ["get_nodes"] "NodeFinder"
    setFeature f (.nodeFinder (some g) t)
    lend g ["get_nodes"] f
    forNodes g (finderAdd f)
  | .printListener true, .attached _ => putLine s!"-- attaching to:  {<- functionGraphText g}"
  | .memory s, .attached _ => attachMemory g f s
  -- detaching
  | x@(.history h), .detached _ =>
    withdraw g historyAbilities
    setFeature f (withHistories x (alistErase g h))
  | .validator, .detached _ => withdraw g validatorAbilities
  | x@(.replaceValidate h ..), .detached _ =>
    withdraw g (historyAbilities ++ validatorAbilities ++ replaceAbilities)
    setFeature f (withHistories x (alistErase g h))
  | .nodeFinder owner t, .detached _ =>
    if owner != some g then fail .generic "This NodeFinder instance was not attached to the provided fgraph."
    setFeature f (.nodeFinder none t)
    withdraw g ["get_nodes"]
    forNodes g (finderDrop f)
  | .printListener true, .detached _ => putLine s!"-- detaching from:  {<- functionGraphText g}"
  | .memory s, .detached _ => detachMemory g f s
  -- nodes coming and going
  | .replaceValidate h r _, .imported n _ => if r.contains n then setFeature f (.replaceValidate h r true)
  | .nodeFinder .., .imported n _ => finderAdd f n
  | .nodeFinder .., .pruned n _ => finderDrop f n
  | .printListener true, .imported n r => putLine ("-- importing: " ++ (<- nodeText n) ++ ", reason: " ++ r)
  | .printListener true, .pruned n r => putLine ("-- pruning: " ++ (<- nodeText n) ++ ", reason: " ++ r)
  | .memory s, .imported n r => setFeature f (.memory (<- Memory.onImport g s n r))
  | .memory s, .pruned n _ => setFeature f (.memory (<- Memory.onPrune s n))
  -- changes
  | .history h, .changed c i old _ r | .replaceValidate h .., .changed c i old _ r =>
    let some l := h.lookup g | badKey
    let some l := l | pure ()
    setHistory g f (some (⟨c, i, old, r⟩ :: l))
  | .printListener true, .changed c i old new _ =>
    putLine s!"-- changing ({<- clientText c}.inputs[{i}]) from {<- varText old} to {<- varText new}"
  | .preserveNames, .changed _ _ old new _ => keepName old new
  | .preserveAttributes, .changed _ _ old new _ =>
    keepName old new
    match <- tagOf old "nan_guard_mode_check", <- tagOf new "nan_guard_mode_check" with
    | some v, none | some v, some (.bool false) =>
      if !(v matches .bool false | .null) then setTag new "nan_guard_mode_check" v
    | _, _ => pure ()
  | .memory s, .changed c i old new r => setFeature f (.memory (<- Memory.onChange g s c i old new r))
  -- validation
  | .replaceValidate h r true, .validate =>
    setFeature f (.replaceValidate h r false)
    fail .inconsistency "Trying to reintroduce a removed node"
  | .noOutputFromInplace a b, .validate => forbidInplaceOutputs g a b
  | .memory s, .validate => Memory.validate g f s
  | .supervisor vs, .validate => superviseGraph g vs
  | _, _ => pure ()
where
  keepName (old new : VarId) : M Unit := do
    let (some s, none) := (<- nameOf old, <- nameOf new) | pure ()
    setName new (some s)

/-! ## Attaching and making graphs -/

def attachFeature : M Unit := do
  if (<- graph g).features.contains f then return
  try
    tellGraph g (.attached f)
    modifyGraph g fun x => { x with
      features := x.features ++ [f], told := if (x.told.lookup f).isSome then x.told else x.told ++ [(f, false)] }
  catch e => if e.kind == .alreadyThere then pure () else throw e

def removeFeature : M Unit := do
  if !(<- graph g).features.contains f then return
  modifyGraph g fun x => { x with features := x.features.erase f }
  tellGraph g (.detached f)

/-- Declares the inputs of a graph and brings in what its outputs need. -/
def fillGraph : M Unit := do
  for i in ins do
    if (<- ownerOf i).isSome then
      failValue ("One of the provided inputs is the output of an already existing node. If that is okay, either "
        ++ "discard that input's owner or use graph.clone.")
    addInput g i false
  importOutputs g outs

def makeGraphOn (features : List FeatureId := []) (updates : List (Nat × Nat) := []) : M GraphId := do
  let g <- newGraph { outputs := outs }
  for f in features do attachFeature g f
  attachFeature g (<- newFeature (.replaceValidate [] [] false))
  fillGraph g ins outs
  modifyGraph g fun x => { x with updates }
  pure g

def makeGraph (clone : Bool := true) (features : List FeatureId := [])
    (updates : List (Nat × Nat) := []) : M GraphId := do
  let (ins, outs) <- if clone then cloneBetween ins outs else pure (ins, outs)
  makeGraphOn ins outs features updates

/-- Leaves the graph empty; of the observers, every other one is taken off. -/
def disownGraph : M Unit := do
  let rec go : Nat -> Nat -> M Unit
    | 0, _ => outOfFuel
    | fuel + 1, k => do
      let some f := (<- graph g).features[k]? | pure ()
      removeFeature g f
      go fuel (k + 1)
  go ((<- graph g).features.length + 1) 0
  modifyGraph g fun x =>
    { x with clients := ∅, nodes := {}, vars := {}, inputs := [], outputs := [], disowned := true, updates := [] }

/-! ## Integrity -/

def setTextOf (xs : List String) : String := if xs.isEmpty then "set()" else braced (commaList xs)

def checkCached [BEq α] [Hashable α] (what : String) (found : List α) (held : OrdSet α) (text : α -> M String) : M Unit := do
  let missing := found.filter (!held.contains ·)
  let excess := held.toList.filter (!found.contains ·)
  if !missing.isEmpty || !excess.isEmpty then
    fail .generic ("('The " ++ what ++ " are inappropriately cached. missing, in excess: ', "
      ++ setTextOf (<- missing.mapM text) ++ ", " ++ setTextOf (<- excess.mapM text) ++ ")")

/-- Fails unless nodes, variables and readers are what the outputs say. -/
def checkIntegrity : M Unit := do
  let x <- graph g
  let a <- getArena
  let ins := .ofList x.inputs
  let nodes := (a.appliesBetween ins x.outputs).eraseDups
  checkCached "nodes" nodes x.nodes nodeText
  for n in nodes do
    for (v, i) in (a.inputs n).zipIdx do
      let some l := x.clients[v]? | badKey
      if !l.contains (.node n, i) then
        fail .generic s!"Inconsistent clients list ({<- nodeText n}, {i}) in {<- clientsText l}"
  let vars := a.varsBetween ins x.outputs
  checkCached "variables" vars x.vars varText
  for v in vars do
    if (a.owner v).isNone && !ins.contains v && !a.isConstant v then fail .generic s!"Undeclared input: {<- varText v}"
    let some l := x.clients[v]? | badKey
    for (c, i) in l do
      let read <- match c with
        | .output => pure x.outputs
        | .node n =>
          if !nodes.contains n then fail .generic s!"Client not in FunctionGraph: {<- varText v}, ({<- nodeText n}, {i})"
          pure (a.inputs n)
      let w := read.getD i default
      if w != v then fail .generic s!"Inconsistent clients list: {<- varText v}, {<- varText w}"
where
  clientsText (l : List (Client × Nat)) : M String := do
    let parts <- l.mapM fun (c, i) => do
      let s <- match c with
        | .output => pure "'output'"
        | .node n => nodeText n
      return s!"({s}, {i})"
    return s!"[{commaList parts}]"

/-- A copy of a graph, with what each variable became. -/
def cloneFunctionGraph (checked attach : Bool) : M (GraphId × CloneMap) := do
  let x <- graph g
  let m <- cloneGraph x.inputs x.outputs true true
  if checked then checkIntegrity g
  let e <- makeGraphOn (x.inputs.map fun v => m.vars.getD v v) (x.outputs.map fun v => m.vars.getD v v)
  if checked then checkIntegrity e
  if attach then for f in x.features do attachFeature e f
  pure (e, m)

end TensorGraph
