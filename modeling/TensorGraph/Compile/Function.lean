import TensorGraph.Compile.Evaluate

/-! # Functions -/

namespace TensorGraph

def compiled (f : FuncId) : M CompiledFunction := do return (<- get).functions.getD f.idx default

def modifyCompiled (f : FuncId) (change : CompiledFunction -> CompiledFunction) : M Unit :=
  modify fun s => { s with functions := s.functions.modify f.idx change }

variable (inputs : List InputSpec) (f : CompiledFunction) (item : Value) (outputs : List OutputSpec) (id : FuncId) (args : Values)

def addCompiled : M FuncId := do
  let id := ⟨(<- get).functions.size⟩
  modify fun s => { s with functions := s.functions.push f }
  pure id

/-! ## Aliases -/

def aliasRoot : Nat -> VarId -> M VarId
  | 0, _ => outOfFuel
  | fuel + 1, v => do
    let some n <- ownerOf v | pure v
    let o <- opOf n
    let pos := (<- outsOf n).idxOf v
    let at_ m := (m.lookup pos).getD []
    match at_ (<- viewsOf o) ++ at_ (<- destroysOf o) with
    | [] => pure v
    | [i] =>
      let some w := (<- insOf n)[i]? | badIndex
      aliasRoot fuel w
    | _ => cannot ((<- varText v) ++ " is a view/destroyed version of more then one inputs. Currently, we only "
        ++ "support the case where an output is a view or a destroyed version of one input.")

def aliasesOf (g : GraphId) : Nat -> VarId -> Std.HashSet VarId -> M (Std.HashSet VarId)
  | 0, _, _ => outOfFuel
  | fuel + 1, v, s => do
    let mut s := s.insert v
    let some cs := (<- graph g).clients[v]? | badKey
    for (c, i) in cs do
      let .node n := c | pure ()
      let o <- opOf n
      let outs <- outsOf n
      for (opos, is) in (<- viewsOf o) ++ (<- destroysOf o) do
        if is.contains i then
          let some w := outs[opos]? | badIndex
          if !s.contains w then s <- aliasesOf g fuel w s
    pure s

def separateOutputs (g : GraphId) (inputs : List InputSpec) (outputs : List OutputSpec) : M Unit := do
  let x <- graph g
  let updated := (inputs.zip x.inputs).filterMap fun (i, v) => if i.update.isSome then some v else none
  let leaves := (<- getArena).graphInputs x.outputs
  let fuel <- walkFuel
  for i in List.range x.outputs.length do
    let outs := (<- graph g).outputs
    let some o := outs[i]? | pure ()
    let views <- aliasesOf g fuel (<- aliasRoot fuel o) {}
    let lends j := (outputs[j]?).any (·.borrow)
    let replaceBy borrowed := do
      changeInput g .output i (<- apply1 (if borrowed then .view else .deepCopy) [o]) "insert_deepcopy"
    if let some j := (List.range outs.length).find? fun j => j > i && (outs[j]?).any views.contains then
      replaceBy (lends i && lends j)
    else
      let some v <- (leaves.filter fun v => !updated.contains v && views.contains v).findM? (fun v => do
        let some (f, s) <- memoryOf? g | return true
        return !(<- Memory.anyDestroyed g f s [v])) | pure ()
      replaceBy (lends i && (((<- graph g).inputs.idxOf? v).all fun j => (inputs[j]?).any (·.borrow)))

/-! ## Making functions -/

def checkUnused (policy : Value) : M Unit := do
  let policy <- if policy.isNull then setting "on_unused_input" else pure policy
  if policy.str? == some "ignore" then return
  let a <- getArena
  let used := Std.HashSet.ofList (a.ancestors (outputs.map (·.var) ++ inputs.filterMap (·.update)) (inputs.map (·.var)))
  for (i, k) in inputs.zipIdx do
    if !used.contains i.var && i.update.isNone then
      match policy with
      | .str "warn" => pure ()
      | .str "raise" =>
        fail .unusedInput ("theano.function was asked to create a function computing outputs given certain inputs, but the "
          ++ "provided input variable at index " ++ toString k ++ " is not part of the computational graph needed to compute "
          ++ s!"the outputs: {<- varText i.var}" ++ ".\nTo make this error into a warning, you can pass the parameter "
          ++ "on_unused_input='warn' to theano.function. To disable it completely, use on_unused_input='ignore'.")
      | p =>
        failValue s!"Invalid value for keyword on_unused_input of theano.function: '{<- textOf p}'.\nValid values are 'raise', 'warn', and 'ignore'."

def functionGraph (acceptInplace : Bool) : M GraphId := do
  let withUpdate := (inputs.zipIdx).filter fun (i, _) => i.update.isSome
  let updates := (withUpdate.zipIdx).map fun ((_, i), k) => (outputs.length + k, i)
  let g <- makeGraph (inputs.map (·.var)) (outputs.map (·.var) ++ inputs.filterMap (·.update)) true [] updates
  if let some n <- (<- graph g).nodes.toList.findM? fun n => do return !(<- destroysOf (<- opOf n)).isEmpty then
    if !acceptInplace then
      failWith .type ["'Graph must not contain inplace operations'", <- reprOf n, <- reprOf (<- opOf n)]
    attachMemoryObserver g
  let guarded <- (inputs.zip (<- graph g).inputs).filterMapM fun (i, v) => do
    if i.mutable then return none
    let some (f, s) <- memoryOf? g | return some v
    return if <- Memory.anyDestroyed g f s [v] then none else some v
  attachFeature g (<- newFeature (.supervisor guarded))
  attachFeature g (<- newFeature .preserveAttributes)
  pure g

/-- What is asked for when a function is made. -/
structure FunctionRequest where
  (inputs outputs : Values)
  single : Bool := false
  silent : Bool := false
  keys : Option (List String) := none
  mode : Value
  acceptInplace : Bool := false
  name : Option String := none
  profile : Value := .null
  onUnused : Value := .null
  graph : Option GraphId := none

/-- A plan to make functions: the graph is rewritten and the linker bound to it. -/
structure FunctionPlan where
  request : FunctionRequest
  inputs : List InputSpec
  outputs : List OutputSpec
  graph : GraphId
  linker : Value

def rewriteGraph (g : GraphId) (p : Value) (inputs : List InputSpec) (outputs : List OutputSpec) : M Unit := do
  let testing <- setting "compute_test_value_opt"
  withSettings [("compute_test_value", testing)] do
    match p with
    | .pass p => let _ <- optimize p g
    | f => let _ <- callValue f [g] []
    separateOutputs g inputs (outputs ++ inputs.filterMap fun i => i.update.map fun u => { var := u })

def planFunction (r : FunctionRequest) : M FunctionPlan := do
  let .record mode := r.mode | noAttr
  let inputs <- r.inputs.mapM inputSpec
  let outputs <- r.outputs.mapM outputSpec
  checkUnused inputs outputs r.onUnused
  let g <- if let some g := r.graph then pure g else functionGraph inputs outputs r.acceptInplace
  let p <- modePass mode
  let linker <- cloneLinker (<- field mode "linker")
  if r.graph.isNone then rewriteGraph g p inputs outputs
  let linker <- acceptGraph linker g
  modifyGraph g fun x => { x with attrs := alistSet "name" (.ofName r.name) x.attrs }
  if inputs.any (·.cls == "SymbolicInput") then noAttr
  return { request := r, inputs, outputs, graph := g, linker }

def fillInput (i : Nat) (v : Value) : M Unit := do
  let (some b, some spec, some x) := (f.boxes[i]?, f.inputs[i]?, (<- graph f.graph).inputs[i]?) | badIndex
  setBox b (<- containerFilter (<- typeOf x) v spec.strict spec.allowDowncast (<- nameOf x))

def inputBox (spec : InputSpec) (value : Value) (x : VarId) : M BoxId := do
  if (<- sharedBox? value).isSome then noAttr
  if let some b <- containerBox? value then return b
  newBox { type := <- typeOf x, value, strict := spec.strict, allowDowncast := spec.allowDowncast, name := <- nameOf x }

def inputDefault (object : Option Value) (spec : InputSpec) (value : Value) (b : BoxId) : M InputDefault := do
  let refeed := spec.hasValue && spec.sharedBox.isNone && spec.update.isNone
  let shared <- if let some (.record r) := object then truthOf (<- field r "shared") else pure false
  if shared then check (spec.hasValue && !refeed)
  let e := { required := !spec.hasValue, refeed, value := .null }
  if shared || !spec.hasValue then return e
  return { e with value := <- if (<- containerBox? value).isSome then do pure (<- box b).value else pure value }

def Arena.isFixed (a : Arena) (v : VarId) : Bool := (a.owner v).isNone && a.isConstant v

/-- What has storage once nodes run in an order: each reads what was stored before it, or constants. -/
def Arena.mapStorage (a : Arena) : Nodes -> Std.HashSet VarId -> Option (Std.HashSet VarId)
  | [], stored => some stored
  | n :: order, stored =>
    if (a.inputs n).all fun v => stored.contains v || a.isFixed v then
      a.mapStorage order ((a.outputs n).foldl (·.insert ·) stored)
    else none

def checkStorage (g : GraphId) (order : Nodes) : M Unit := do
  let x <- graph g
  let a <- getArena
  let some stored := a.mapStorage order (.ofList x.inputs) | unmet
  if !x.outputs.all fun v => stored.contains v || a.isFixed v then badKey

def createFunction (p : FunctionPlan) (storage : Values) : M FuncId := do
  let given := ((p.inputs.zip storage).zip (<- graph p.graph).inputs).zipIdx
  let (boxes, defaults) := (<- given.mapM fun (((spec, value), x), i) => do
    let b <- inputBox spec value x
    return (b, <- inputDefault p.request.inputs[i]? spec value b)).unzip
  let order <- graphToposort p.graph
  checkStorage p.graph order
  for n in order do M.ask fun k => k.prepare n
  let f := {
    name := p.request.name, graph := p.graph, inputs := p.inputs, inputObjects := p.request.inputs, outputs := p.outputs,
    boxes, defaults, known := p.inputs.map (·.var), single := p.request.single, silent := p.request.silent,
    keys := p.request.keys, mode := p.request.mode, linker := p.linker, order, acceptInplace := p.request.acceptInplace,
    profile := p.request.profile }
  let id <- addCompiled f
  for ((spec, d), i) in (f.inputs.zip defaults).zipIdx do
    if !d.value.isNull && spec.sharedBox.isNone then fillInput f i d.value
  pure id

def makeFunction (inputs : Values) (outputs mode : Value) (acceptInplace : Bool) (name : Option String)
    (profile onUnused : Value) (keys : Option (List String)) : M FuncId := do
  let mode <- findMode mode
  let inputs <- inputs.mapM convertInput
  let (outs, single, silent) <- wrapOutputs outputs
  if mode matches .list _ | .tuple _ then fail .generic "We do not support the passing of multiple modes"
  let plan <- planFunction { inputs, outputs := outs, single, silent, keys, mode, acceptInplace, name, profile, onUnused }
  let values <- inputs.mapM fun
    | .record r => field r "value"
    | _ => pure .null
  withoutTests (createFunction plan values)

def parameterInput (p allow : Value) : M Value := do
  if let .var v := p then
    if <- isConstant v then failWith .type ["'Constants not allowed in param list'", <- reprOf p]
    return <- newInput { subject := p, allowDowncast := allow, implicit := .null } .null .null
  if (<- recordClass? p) == some "In" then return p
  failType s!"Unknown parameter type: {<- classTextOf p}"

/-- What a caller asks for when a function is made from expressions. -/
structure UserRequest where
  inputs : Values
  outputs : Value := .null
  mode : Value := .null
  updates : Value := .null
  givens : Value := .null
  noDefaults : Value := false
  acceptInplace : Bool := false
  name : Option String := none
  strict : Bool := true
  allowDowncast : Value := .null
  profile : Value := .null
  onUnused : Value := .null
  keys : Option (List String) := none

def functionOf (r : UserRequest) : M FuncId := do
  let keep <- match r.noDefaults with
    | .bool b => pure (if b then .all else .none)
    | .list c => do pure (.these ((<- cellItems c).filterMap Value.var?))
    | _ => failType "no_default_update should be either a boolean or a list"
  if !(r.updates matches .dict _ | .null) then
    if (<- itemsOf r.updates).any (·.var?.isSome) then
      failValue "The updates parameter must be an OrderedDict/dict or a list of lists/tuples with 2 elements"
  let inputs <- r.inputs.mapM fun p => parameterInput p r.allowDowncast
  let specs <- inputs.mapM inputSpec
  let vars := specs.map (·.var)
  for (v, i) in vars.zipIdx do
    let some (_, j) := (vars.zipIdx).find? fun (w, j) => w == v && j > i | pure ()
    fail .unusedInput (s!"Variable {<- varText v}" ++ " is used twice in inputs to theano.function, at indices "
      ++ toString i ++ " and " ++ toString j ++ ".  This would result in values provided for it being ignored. Please do not "
      ++ "duplicate variables in the inputs list.")
  let givens <- pairsOf r.givens
  for (x, _) in givens do
    let .var v := x | pure ()
    if vars.contains v then
      fail .runtime ("You are trying to replace variable '" ++ (<- varText v) ++ "' through the `givens` parameter, but this "
        ++ "variable is an input to your function. Replacing inputs is currently forbidden because it has no effect. One way "
        ++ "to modify an input `x` to a function evaluating f(x) is to define a new input `y` and use "
        ++ "`theano.function([y], f(x), givens=\x7bx: g(y)\x7d)`. Another solution consists in using `theano.clone`, e.g. like "
        ++ "this: `theano.function([x], theano.clone(f(x), replace=\x7bx: g(x)\x7d))`.")
  let outs <- match r.outputs with
    | .null => pure []
    | .list _ | .tuple _ => itemsOf r.outputs
    | o => pure [o]
  let updated := specs.filterMap (·.update)
  let updates <- pairsOf r.updates
  let (ins, copies, st) <- rebuild { strict := r.strict, keepInputs := true, keep } (outs ++ valuesOf updated) vars givens updates
  for ((i, spec), v) in (inputs.zip specs).zip ins do
    let .record x := i | pure ()
    setField x "variable" v
    let some u := spec.update | pure ()
    setField x "update" ((st.find? u).getD u)
  let shared <- st.shared.mapM fun v => do
    let .shared b := (<- varInfo v).role | noAttr
    let value <- containerOf b
    let update := st.updates.lookup v
    newInput { subject := v, mutable := update.isSome, update := .ofOption .var update, implicit := .null } value
      true true
  let copied := copies.take outs.length
  let outputs <- match r.outputs with
    | .null | .list _ | .tuple _ => newList copied
    | _ => pure (copied.headD .null)
  makeFunction (inputs ++ shared) outputs r.mode r.acceptInplace r.name r.profile r.onUnused r.keys

/-! ## Calling functions -/

/-- Where a caller's key leads: to an input, or to several. -/
inductive InputKey
  | one (i : Nat)
  | several

def findInput? : Option InputKey :=
  let named n :=
    match (f.inputs.zipIdx).filter fun (s, _) => s.name == n with
    | [] => none
    | [(_, i)] => some (.one i)
    | _ => some .several
  match item with
  | .str s => named (some s)
  | .null => named none
  | .var v => (f.known.idxOf? v).map .one
  | v => v.int?.bind fun i => if 0 <= i && i < f.inputs.length then some (.one i.toNat) else none

def inputAt (more : String) : M Nat := do
  match findInput? f item with
  | none => failType s!"Unknown input or state: {<- textOf item}{more}"
  | some .several =>
    failType s!"Ambiguous name: {<- textOf item} - please check the names of the inputs of your function for duplicates."
  | some (.one i) => pure i

def readInput : M Value := do
  let some b := f.boxes[<- inputAt f item ""]? | badIndex
  return (<- box b).value

def writeInput (item value : Value) : M Nat := do
  let named := f.inputs.filterMap (·.name)
  let i <- inputAt f item s!". {inputsText named (f.inputs.length - named.length)}"
  fillInput f i value
  pure i

def restoreDefaults : M Unit := do
  for (d, i) in f.defaults.zipIdx do if d.refeed then let _ <- writeInput f i d.value

def takeArgument (i : Nat) (arg : Value) : M Unit := do
  let (some b, some spec, some x) := (f.boxes[i]?, f.inputs[i]?, (<- graph f.graph).inputs[i]?) | badIndex
  if arg.isNull then return (<- setBox b arg)
  setBox b (<- try (<- typeOf x).filter arg spec.strict spec.allowDowncast
    catch e =>
      let named s := if s.getD "" == "" then "" else " with name \"" ++ s.getD "" ++ "\""
      let argName <- if let .var v := arg then nameOf v else pure none
      restoreDefaults f
      throw (e.withFirst s!"Bad input argument{named argName} to theano function{named f.name} at index {i} (0-based). "))

def checkProvided (provided : List Nat) : M Unit := do
  for ((spec, d), k) in (f.inputs.zip f.defaults).zipIdx do
    let times := provided.count k
    let refuse text := do
      restoreDefaults f
      failType (text ++ (<- varText ((f.known[k]?).getD spec.var)))
    if d.required && times == 0 then refuse "Missing required input: "
    if times > 1 then refuse "Multiple values for input: "
    if spec.implicit && times > 0 then refuse "Tried to provide value for implicit input: "

def takeArguments (kw : Kw) : M Unit := do
  if args.length + kw.length > f.inputs.length then failType "Too many parameter passed to theano function"
  for (arg, i) in args.zipIdx do takeArgument f i arg
  checkProvided f (.range args.length ++ (<- kw.mapM fun (k, arg) => writeInput f k arg))

/-- The values a run leaves: those of the outputs, then those of the updates. -/
def runFunction (subset : Option (List Int)) : M Values := do
  let x <- graph f.graph
  let start <- (x.inputs.zip f.boxes).mapM fun (v, b) => do return (v, (<- box b).value)
  let run <- evaluate f.graph f.order f.linker start (f.inputs.filter (·.update.isSome)).length subset
  x.outputs.mapM run.values.read

def askedSubset (kw : Kw) : M (Option (List Int)) := do
  match kw.lookup "output_subset" with
  | none | some .null => pure none
  | some v =>
    let items <- itemsOf v
    let some keys := f.keys | return some (items.filterMap Value.int?)
    some <$> items.mapM fun k => do
      let some i := k.str?.bind keys.idxOf? | badValue
      pure (i : Int)

/-- What a call returns of the values of the outputs. -/
def deliver (outs : Values) (subset : Option (List Int)) : M Value := do
  if f.silent then return .null
  if let (true, [o], none) := (f.single, outs, subset) then return o
  match f.keys, subset with
  | some keys, none =>
    check (keys.length == outs.length)
    newDict ((keys.zip outs).map fun (k, o) => (k, o))
  | some keys, some is =>
    newDict (is.filterMap fun i => do return (.str (<- keys[i.toNat]?), <- outs[i.toNat]?))
  | none, none => newList outs
  | none, some is =>
    newList (<- is.mapM fun i => do
      if let some o := outs[(placeOf outs.length i).toNat]? then pure o
      else badIndex)

def callFunction (kw : Kw) : M Value := do
  let f <- compiled id
  let subset <- askedSubset f kw
  takeArguments f args (kw.filter fun (k, _) => k != "output_subset")
  let outs <- try runFunction f subset
    catch e =>
      restoreDefaults f
      throw e
  for (d, b) in f.defaults.zip f.boxes do if d.required then setBox b .null
  let updated := (f.inputs.zipIdx).filter fun (s, _) => s.update.isSome
  let split := outs.length - updated.length
  for ((_, i), v) in (updated.zip (outs.drop split)).reverse do fillInput f i v
  restoreDefaults f
  deliver f (outs.take split) subset

/-! ## Copies of functions -/

def copyFunction (swap : Option Pairs) (deleteUpdates : Bool) (name : Option String)
    (profile : Value) : M FuncId := do
  let f <- compiled id
  let g <- graph f.graph
  let ins <- f.inputObjects.mapM fun
    | .record r => copyRecord r
    | _ => noAttr
  let outVars := if deleteUpdates then g.outputs.take f.outputs.length else g.outputs
  let memo <- cloneGraph g.inputs outVars true true
  let new v := (memo.vars[v]?).getD v
  let c <- makeGraph (g.inputs.map new) (outVars.map new) false
  let outs <- ((outVars.map new).zip f.outputs).mapM fun (v, o) => newOutput v o.borrow
  let swapped (v : VarId) := lookupKey v (swap.getD [])
  for (sv, _) in swap.getD [] do
    if !f.known.any fun v => sv.isKey v then
      let .var v := sv | noAttr
      failValue ("SharedVariable: " ++ (<- nameOf v).getD "None" ++ " not found")
  for ((i, v), k) in (ins.zip f.known).zipIdx do
    let some s := swapped v | pure ()
    let (some b, .var x) := (<- sharedBox? s, s) | unmet
    if (<- sharedBox? v).isNone || (<- typeOf x) != (<- typeOf v) then unmet
    setField i "value" (<- containerOf b)
    let fresh <- addVar { type := <- typeOf x, name := <- nameOf x, role := .shared b }
    let some old := (<- graph c).inputs[k]? | pure ()
    modifyGraph c fun x => { x with inputs := x.inputs.set k fresh }
    replaceVar c old fresh "Swap SV"
  let cx <- graph c
  let mut u := f.outputs.length
  for (i, v) in ins.zip cx.inputs do
    setField i "variable" v
    if !deleteUpdates && !(<- field i "update").isNull then
      setField i "update" (.ofOption .var cx.outputs[u]?)
      u := u + 1
    else setField i "update" .null
  let name := if name.getD "" == "" then f.name.map (· ++ " copy") else name
  let plan <- planFunction { inputs := ins.map .record, outputs := outs, mode := f.mode, acceptInplace := true, profile := profile,
                             onUnused := "ignore", graph := some c }
  let id' <- createFunction plan (<- ins.mapM fun i => field i "value")
  let f' <- compiled id'
  for (((spec, v), b), b') in ((f.inputs.zip f.known).zip f.boxes).zip f'.boxes do
    if !spec.mutable && (swapped v).isNone then
      setBox b' (<- box b).value
  modifyCompiled id' fun x => { x with
    name, known := f.known.map fun v => ((swapped v).bind Value.var?).getD v }
  modifyGraph c fun x => { x with attrs := alistSet "name" (.ofName name) x.attrs }
  return id'

def replica (v : Value) : M Value := do
  match v with
  | .var v =>
    let ins := (<- getArena).graphInputs [v]
    let m <- cloneGraph ins [v] true true
    for i in ins.filterMap (m.vars[·]?) do
      if let some b <- sharedBox? (.var i) then
        let b <- newBox (<- box b)
        modifyVar i fun x => { x with role := .shared b }
    pure (m.vars.getD v v)
  | .function f =>
    let f <- compiled f
    let new <- f.boxes.mapM fun b => do pure (b, <- newBox (<- box b))
    let own b := (new.lookup b).getD b
    return (<- addCompiled { f with
      boxes := f.boxes.map own, inputs := f.inputs.map fun s => { s with sharedBox := s.sharedBox.map own } })
  | .graph g => return (<- cloneFunctionGraph g true true).1
  | .record r => copyRecord r
  | v => deepCopy 50 v

end TensorGraph
