import TensorGraph.Catalog.Passes

/-! # Functions in programs -/

namespace TensorGraph

def namelessFunction : String := "<driver>"
def optBool (v : Value) : Option Bool := if let .bool b := v then some b else none

def functionEntry (vs : Values) : M FuncId := do
  let [inputs, outputs, mode, updates, givens, noDefaults, acceptInplace, name, strict, allow, profile, onUnused] := vs
    | badType
  let (outputs, keys) <- match outputs with
    | .dict c => do
      let pairs <- cellPairs c
      if pairs.any fun (k, _) => k.str?.isNone then unmet
      let sorted := (pairs.filterMap fun (k, v) => k.str?.map fun s => (s, v)).mergeSort fun a b => a.1 <= b.1
      pure (<- newList (sorted.map (·.2)), some (sorted.map (·.1)))
    | o => pure (o, none)
  let some ins <- members? inputs
    | fail .generic "Input variables of a Theano function should be contained in a list, even when there is a single input."
  let name := some (name.str?.getD namelessFunction)
  let accept <- truthOf acceptInplace
  if ins.any (· matches .list _ | .tuple _) then
    if <- truthOf profile then cannot "profiling not supported in old-style function"
    if (<- truthOf updates) || (<- truthOf givens) then
      cannot "In() instances and tuple inputs trigger the old semantics, which disallow using updates and givens"
    return <- makeFunction ins outputs mode accept name .null .null none
  let updates <- if updates.isNull then newList [] else pure updates
  if !(updates matches .dict _ | .list _ | .tuple _) then badType
  functionOf { inputs := ins, outputs, mode, updates, givens, noDefaults, acceptInplace := accept, name,
               strict := <- truthOf strict, allowDowncast := allow, profile, onUnused, keys }

def functionFormals : String :=
  "inputs, outputs=None, mode=None, updates=None, givens=None, no_default_updates=False, accept_inplace=False, name=None, "
    ++ "rebuild_strict=True, allow_input_downcast=None, profile=None, on_unused_input=None"

def sharedEntry (value : Value) (n : Option String) (strict : Bool) (allow kw : Value) : M VarId := do
  if let .var _ := value then failType "Shared variable constructor needs numeric values and not symbolic variables."
  let kw := kw.pairs
  let given := kw.map (·.1)
  let allow := optBool allow
  let pattern <- arg ((kw.lookup "broadcastable").getD .null)
  let only names := given.all names.contains
  let (fits, pattern) <- match value with
    | .array _ => pure (only ["borrow", "broadcastable", "target"] && (kw.lookup "target").all (·.isKey "cpu"), pattern)
    | .sparse _ => pure (only ["borrow", "format"], none)
    | .record r => do pure ((<- record r).cls == "RandomState" && only ["borrow"], none)
    | v => pure (v.elem?.isSome && only ["borrow", "target"], none)
  if fits then
    if let some v <- attemptType (sharedFrom value n strict allow pattern) then return v
  if given.isEmpty then
    if let some v <- attemptType (newShared .generic value n strict allow) then return v
  let shown <- newDict (kw.map fun (k, v) => (k, v))
  failType ("No suitable SharedVariable constructor could be found. Are you sure all kwargs are supported? We do not "
    ++ "support the parameter dtype or type. value=\"" ++ (<- textOf value) ++ "\". parameters=\"" ++ (<- textOf shown) ++ "\"")
where
  attemptType (x : M VarId) : M (Option VarId) := do
    try
      return some (<- x)
    catch e => if e.isA .type then return none else throw e

def rebuildEntry (outputs : Value) (inputs : Option Vars) (replace updates : Value) (strict keepInputs : Bool)
    (noDefaults : Value) : M Value := do
  let keep <- match noDefaults with
    | .bool false => pure .none
    | .list c => do pure (.these ((<- cellItems c).filterMap Value.var?))
    | _ => pure .all
  let outs <- match outputs with
    | .list _ | .tuple _ => itemsOf outputs
    | .null => pure []
    | o =>
      if (<- outputVariable? o).isNone then
        failWith .type ["'output must be a theano Variable or Out instance (or list of them)'", <- reprOf o]
      pure [o]
  let ins := inputs.getD []
  let (news, copies, st) <- rebuild { strict, keepInputs, keep } outs ins (<- pairsOf replace) (<- pairsOf updates)
  let cloned <- match outputs with
    | .list _ | .tuple _ | .null => newList copies
    | _ => pure (copies.headD .null)
  let pairs l := l.map fun (a, b) => (a, b)
  let ends := (<- outs.filterMapM outputVariable?) ++ st.given.map (·.2)
  let stuff <- newList [<- clonePairs st.map ins ends, <- newDict (pairs st.updates),
    <- newList ((pairs st.given).map fun (a, b) => .tuple [a, b]), <- listOf st.shared]
  return .tuple [<- listOf news, cloned, stuff]

def flatItems : Nat -> Value -> M Values
  | 0, _ => outOfFuel
  | fuel + 1, v => do
    if v matches .list _ | .tuple _ then return (<- (<- itemsOf v).mapM (flatItems fuel)).flatten else pure [v]

def testResult (v : Value) (r : Bool) : M Value := do
  let tested <- do if <- isNumeric v then pure ((elementsOf v).any fun (d, _) => !d.isDiscrete) else pure false
  return if tested then .ofTest r else r

def callLinked (f : RecordId) (args : Values) : M Value := do
  let .graph g <- field f "graph" | badType
  let x <- graph g
  if args.length != x.inputs.length then
    failType s!"Function call takes exactly {x.inputs.length} args ({args.length} given)"
  let start <- (x.inputs.zip args).mapM fun (v, a) => do
    let w <- if a.isNull then pure a else
      try (<- typeOf v).filter a false none
      catch e => throw (e.withLast ("Container name \"" ++ ((<- nameOf v).getD "None") ++ "\""))
    return (v, w)
  let run <- evaluate g (<- graphToposort g) (<- field f "linker") start 0 none
  match <- x.outputs.mapM run.values.read with
  | [o] => pure o
  | os => newList os

instance : Arg GraphOp := ⟨fun v => if let .op (.fromGraph id) := v then graphOp id else noAttr⟩

def graphOpEntry (vs : Values) : M Value := do
  let [ins, outs, inline, lop, grad, rop, pattern, name, kw] := vs | badType
  let .list os := outs | failType s!"outputs must be list, got {<- classTextOf outs}"
  let .list is := ins | badType
  let vars c := do
    (<- cellItems c).mapM fun
      | .var v => pure v
      | v => do failWith .type ["'inputs and outputs must be Variable instances'", <- reprOf v]
  let (is, os) := (<- vars is, <- vars os)
  let settings := kw.pairs
  if settings.any fun (k, _) => k == "updates" || k == "givens" then failType "updates and givens are not allowed here"
  let usual (v : Value) := v matches .str "default"
  if !usual lop && !usual grad then failValue "lop_overrides and grad_overrides are mutually exclusive"
  if !name.isNull && name.str?.isNone then unmet
  return .op (.fromGraph (<- newGraphOp is os { inline := <- truthOf inline, name := name.str?, settings, pattern, push := rop,
                                                pull := if usual lop then grad else lop, ofGrads := !usual grad }))

def derivativeOf (name : String) (made : Nat -> M DerivativeOp) : MethodRow :=
  meth s!"OpFromGraph.get_{name}_op" "" fun
    | [.op (.fromGraph id)] => do return Op.fromGraph (<- made id).1
    | _ => badType

def derivativeSetter (name : String) (set : Value -> GraphOp -> GraphOp) : MethodRow :=
  meth s!"OpFromGraph.set_{name}_overrides" (name ++ "_overrides") fun
    | [.op (.fromGraph id), x] => do
      modifyGraphOp id (set x)
      pure .null
    | _ => badType

def inputRequest (subject name update mutable strict allowDowncast auto implicit : Value) : M InputRequest := do
  return { subject, name, update, mutable, strict, allowDowncast, autoname := <- truthOf auto, implicit }

def functionEntries : Table ApiEntry := under "compile" [
  cls "OpFromGraph" ("inputs, outputs, inline=False, lop_overrides='default', grad_overrides='default', "
    ++ "rop_overrides='default', connection_pattern=None, name=None, **kwargs") graphOpEntry,
  fn "rebuild_collect_shared"
    "outputs, inputs=None, replace=None, updates=None, rebuild_strict=True, copy_inputs_over=True, no_default_updates=False"
    <| of7 rebuildEntry,
  cls "In" ("variable, name=None, value=None, update=None, mutable=None, strict=False, allow_downcast=None, "
      ++ "autoname=True, implicit=None, borrow=None, shared=False") fun
    | [v, n, x, u, m, s, a, auto, i, b, sh] => do
      newInput (<- inputRequest v n u m s a auto i) x b sh
    | _ => badType,
  cls "SymbolicInput" ("variable, name=None, update=None, mutable=None, strict=False, allow_downcast=None, "
      ++ "autoname=True, implicit=False") fun
    | [v, n, u, m, s, a, auto, i] => do symbolicInput (<- inputRequest v n u m s a auto i)
    | _ => badType,
  cls2 "Out" "variable, borrow=False" (newOutput · ·),
  cls2 "SymbolicOutput" "variable, borrow=False" (newOutput · ·),
  fn1 "convert_function_input" "input" convertInput,
  fn1 "FunctionMaker.wrap_in" "input" wrapInput,
  fn1 "FunctionMaker.wrap_out" "output" wrapOutput,
  fn "FunctionMaker" ("inputs, outputs, mode=None, accept_inplace=False, function_builder=None, profile=None, "
      ++ "on_unused_input=None, fgraph=None, output_keys=None, name=None") fun
    | [ins, outs, mode, accept, _, profile, unused, g, keys, name] => do
      let mode <- findMode mode
      let inputs <- ((<- members? ins).getD [ins]).mapM wrapInput
      let (outputs, single, silent) <- wrapOutputs outs
      let keys <- if keys.isNull then pure none else do pure (some ((<- iterate keys).filterMap Value.str?))
      let graph := if let .graph g := g then some g else none
      let plan <- planFunction { inputs, outputs, single, silent, keys, mode, acceptInplace := <- truthOf accept, name := name.str?,
                                 profile, onUnused := unused, graph }
      newRecord "FunctionMaker" [("fgraph", plan.graph), ("mode", mode), ("inputs", <- newList inputs),
        ("outputs", <- newList outputs), ("linker", plan.linker)]
    | _ => badType,
  fn2 "get_info_on_inputs" "named_inputs, n_unnamed_inputs" fun names n => return inputsText names n,
  fn2 "check_equal" "x, y" fun x y => do
    match x, y with
    | .array a, .array b => return .ofTest (a.sameNumbers b)
    | .array _, _ | _, .array _ => pure false
    | x, y => return (<- valuesEqual x y),
  -- modes
  cls2 "Mode" "linker=None, optimizer='default'" (newMode "Mode"),
  fn1 "get_mode" "orig_string" findMode,
  fn "get_default_mode" "" fun _ => findMode .null,
  fn2 "register_mode" "name, mode" (fileUnder modeTable "Mode"),
  fn2 "register_linker" "name, linker" (fileUnder linkerTable "Linker"),
  fn2 "register_optimizer" "name, opt" (fileUnder optimizerTable "Optimizer"),
  val "mode.predefined_modes" (.dict modeTable),
  cls "MonitorMode" "pre_func=None, post_func=None, optimizer='default', linker=None" <| of4 fun a b o l => do
    if !l.isNull then noAttr
    monitorMode a b o,
  fn4 "detect_nan" "fgraph, i, node, fn" fun _ _ n f => do
    let cellsOf name : M Values := do
      let .record r := f | noAttr
      (<- itemsOf (<- field r name)).mapM fun c => do return (<- itemsOf c).headD .null
    let outs <- cellsOf "outputs"
    let bad <- outs.anyM fun o => match elementsOf o with
      | some (d, es) => pure (!d.isDiscrete && es.any (·.toFloat.isNaN))
      | none => pure false
    if bad then
      putLine "*** NaN detected ***"
      put (<- showValue {} n)
      putLine ("Inputs : " ++ (<- textOf (<- newList (<- cellsOf "inputs"))))
      putLine s!"Outputs: {<- textOf (<- newList outs)}"
    return .null,
  cls "NanGuardMode" "nan_is_error=None, inf_is_error=None, big_is_error=None, optimizer='default', linker=None"
    <| of5 fun n i b o _ => guardMode n i b o,
  cls "debugmode.DebugMode" ("optimizer='fast_run', stability_patience=None, check_c_code=None, check_py_code=None, "
      ++ "check_isfinite=None, check_preallocated_output=None, require_matching_strides=None, linker=None") fun
    | [o, patience, c, py, finite, before, strides, l] =>
      checkingMode o [("stability_patience", 10, patience), ("check_c_code", false, c),
        ("check_py_code", true, py), ("check_isfinite", true, finite),
        ("check_preallocated_output", .tuple [""], before), ("require_matching_strides", 0, strides)] l
    | _ => badType,
  fn3 "contains_nan" "arr, node=None, var=None" fun v _ _ => do testResult v (<- containsNan v),
  fn3 "contains_inf" "arr, node=None, var=None" fun v _ _ => do testResult v (<- containsInf v),
  fn1 "nanguardmode.flatten" "l" fun v => do newList (<- flatItems 100 v) ]
  ++ under "link" [
  -- linkers
  cls2 "PerformLinker" "allow_gc=None, schedule=None" (orderedLinker · ·),
  cls "VMLinker" ("allow_gc=None, use_cloop=False, callback=None, callback_input=None, lazy=None, schedule=None, "
      ++ "c_thunks=None, allow_partial_eval=None") fun
    | [gc, loop, c, ci, lazy, s, t, p] =>
      machineLinker { allowGc := gc, useLoop := loop, callback := c, callbackInput := ci, lazy, schedule := s, thunks := t,
                      partialEval := p }
    | _ => badType,
  cls2 "WrapLinker" "linkers, wrapper" wrapLinker,
  fn2 "WrapLinkerMany" "linkers, wrappers" wrapLinker,
  cls "Container" "r, storage, *, readonly=False, strict=False, allow_downcast=None, name=None" <|
    of6 fun r (storage : Value) readonly strict allow (name : Value) => do
    let x :: _ <- if let .list c := storage then cellItems c else pure [] | failType "storage must be a list of length at least one"
    let (t, n) <- match r with
      | Value.type t => pure (t, none)
      | .var v => do pure (<- typeOf v, <- nameOf v)
      | _ => noAttr
    containerOf (<- newBox { type := t, value := x, readonly, strict, allowDowncast := optBool allow, name := (name.str?).or n }),
  fn1 "gc_helper" "node_list" fun nodes => do
    let a <- getArena
    let last := a.lastUser nodes
    return .tuple [<- newSet (valuesOf (nodes.flatMap a.outputs).eraseDups),
      <- newDict ((nodes.flatMap a.inputs).eraseDups.map fun (v : VarId) => (v, last.getD v default))],
  fn5 "map_storage" "fgraph, order, input_storage, output_storage, storage_map=None" fun g (nodes : Nodes) ins outs _ => do
    let x <- graph g
    let a <- getArena
    let fresh vs : M Values := vs.mapM fun _ => newList [.null]
    let inputCells <- if ins.isNull then fresh x.inputs else iterate ins
    check (inputCells.length == x.inputs.length)
    let mut table := []
    for (v, c) in x.inputs.zip inputCells do table := alistSet v c table
    if !outs.isNull then
      let cells <- iterate outs
      check (cells.length == x.outputs.length)
      for (v, c) in x.outputs.zip cells do if (table.lookup v).isNone then table := alistSet v c table
    for n in nodes do
      for v in a.inputs n do
        if (table.lookup v).isNone then
          let some d := a.constant? v | unmet
          table := alistSet v (<- newList [d]) table
      for v in a.outputs n do if (table.lookup v).isNone then table := alistSet v (<- newList [.null]) table
    for v in x.outputs do
      let some d := a.constant? v | pure ()
      if (table.lookup v).isNone then table := alistSet v (<- newList [d]) table
    let final := table
    let outCells <- if outs.isNull then x.outputs.mapM fun v => do
          if let some c := final.lookup v then pure c else badKey
      else iterate outs
    return .tuple [<- newList inputCells, <- newList outCells, <- newDict (final.map fun (v, c) => (v, c))],
  fn "streamline" "fgraph, thunks, order, post_thunk_old_storage=None, no_recycling=None, nice_errors=True" <|
    of6 fun _ (thunks order : Values) old _ _ => do
    let match_ l (what : String) := do
      if thunks.length != l.length then
        failWith .value [s!"'Length of thunks and {what} must match'", tupleText [toString thunks.length, toString l.length]]
    match_ order "order"
    if <- truthOf old then match_ (<- iterate old) "post_thunk_old_storage"
    newRecord "function" [] ]
  ++ [
  fn "function" functionFormals fun vs => do return (<- functionEntry vs),
  fn1 "pickled" "v" replica,
  fn1 "deepcopy" "v" replica,
  fn1 "copy" "v" fun
    | .function f => copyFunction f none false none .null
    | .list c => do newList (<- cellItems c)
    | .var v => pure v
    | v => replica v,
  fn "tensor._shared" "value, name=None, strict=False, allow_downcast=None, borrow=False, broadcastable=None, target='cpu'" <|
    of7 fun (x : Value) n s a _ p (t : Value) => do
    if !t.isKey "cpu" then failType "not for cpu"
    let .array _ := x | failType ""
    sharedFrom x n s (optBool a) p,
  fn4 "scalar.shared" "value, name=None, strict=False, allow_downcast=None" fun (x : Value) n s a => do
    let some (d, _) := x.elem? | failType ""
    newShared (.scalar d) x n s (optBool a),
  fn5 "shared" "value, name=None, strict=False, allow_downcast=None, **kwargs" sharedEntry ]

def ofFunction (read : CompiledFunction -> M Value) (f : FuncId) : M Value := do read (<- compiled f)

instance : Arg BoxId := ⟨fun v => do
  if let some b := (<- sharedBox? v) <|> (<- containerBox? v) then return b else noAttr⟩

def functionAttributes : Table (Value -> M Value) := [
  attr_ "OpFromGraph.is_inline" fun (x : GraphOp) => return x.inline,
  attr_ "OpFromGraph.inputs" fun (x : GraphOp) => listOf x.given.1,
  attr_ "OpFromGraph.outputs" fun (x : GraphOp) => listOf x.given.2,
  attr_ "OpFromGraph.shared_inputs" fun (x : GraphOp) => listOf x.shared,
  attr_ "OpFromGraph.kwargs" fun (x : GraphOp) => do newDict (x.settings.map fun (k, v) => (k, v)),
  attr_ "function.name" (ofFunction fun f => return .ofName f.name),
  attr_ "function.value" (fun v => newRecord "ValueAttribute" [("function", v)]),
  attr_ "function.container" (fun v => newRecord "ContainerAttribute" [("function", v)]),
  attr_ "function.fn" (ofFunction fun f => do
    newRecord (<- machineFor f.linker f.order).className [("fgraph", f.graph)]),
  attr_ "function.maker" (ofFunction fun f => do
    newRecord "FunctionMaker" [("fgraph", f.graph), ("mode", f.mode), ("inputs", <- newList f.inputObjects),
      ("linker", f.linker)]),
  attr_ "shared.value" (fun _ => fail .generic ("sharedvar.value does not exist anymore. Use sharedvar.get_value() or "
    ++ "sharedvar.set_value() instead.")),
  attr_ "shared.container" containerOf,
  attr_ "Container.data" readContainer, attr_ "Container.value" readContainer,
  attr_ "Container.name" fun b => do return (<- box b).name, attr_ "Container.type" fun b => do return (<- box b).type,
  attr_ "Container.storage" fun b => do newList [<- readContainer b] ]
  ++ modeClasses.map fun c => attr_ s!"{c}.optimizer" modePass
where
  readContainer (b : BoxId) : M Value := do return (<- box b).value

def inputMethods [Arg α] (kind : String) (read : α -> M CompiledFunction) : Table Callable := [
  meth2 s!"{kind}.__getitem__" "item" fun f i => do readInput (<- read f) i,
  meth3 s!"{kind}.__setitem__" "item, value" fun f i v => do discard <| writeInput (<- read f) i v,
  meth2 s!"{kind}.__contains__" "item" fun f i => do return (findInput? (<- read f) i).isSome ]

def functionMethods : Table Callable := inputMethods "function" compiled ++ inputMethods "ValueAttribute" behind ++ [
  derivativeSetter "lop" fun pull x => { x with pull, pulled := none, ofGrads := false },
  derivativeSetter "grad" fun pull x => { x with pull, pulled := none, ofGrads := true },
  derivativeSetter "rop" fun push x => { x with push, pushed := none },
  derivativeOf "lop" pullOperator, derivativeOf "rop" pushOperator,
  meth "function.__call__" "*args, **kwargs" fun
    | [.function f, .tuple args, kw] => callFunction f args kw.pairs
    | [.record r, .tuple args, _] => do
      let fields := (<- record r).fields
      if (fields.lookup "graph").isSome then return <- callLinked r args
      if (fields.lookup "node").isSome then runRecord r
      return .null
    | _ => badType,
  meth "function.copy" "share_memory=False, swap=None, delete_updates=False, name=None, profile=None" <|
    of6 fun f _ swap del name profile => do
    let swap <- match swap with
      | .null => pure none
      | .dict c => do pure (some (<- cellPairs c))
      | _ => noAttr
    copyFunction f swap del name.str? profile,
  meth1 "function.__copy__" "" fun f => copyFunction f none false none .null,
  meth "function.free" "" fun _ => return .null,
  meth "function.sync_shared" "" fun _ => return .null,
  meth1 "function.get_shared" "" fun f => do
    let x <- compiled f
    return (x.inputs.zip x.known).filterMap fun (s, v) => if s.implicit then some v else none,
  meth2 "ContainerAttribute.__getitem__" "item" fun r i => do
    let f <- behind r
    match findInput? f i with
    | some (.one k) =>
      let some b := f.boxes[k]? | badKey
      containerOf b
    | some .several => newList ["DUPLICATE"]
    | none => badKey,
  meth2 "ContainerAttribute.__contains__" "item" fun r i => do return (findInput? (<- behind r) i).isSome,
  meth3 "shared.get_value" "borrow=False, return_internal_type=False" fun b _ _ => do deepCopy 50 (<- box b).value,
  meth3 "shared.set_value" "new_value, borrow=False" fun b x _ => do fillBox b (<- deepCopy 50 x),
  meth1 "shared.get_test_value" "" fun b => do return (<- box b).value,
  meth2 "shared.zero" "borrow=False" fun b (borrow : Bool) => do
    let x := (<- box b).value
    if borrow then
      let .array a := x | badType
      setBox b (.array { a with data := a.data.map fun _ => .zero a.dtype })
    else fillBox b (<- operate .mul 0 x),
  meth2 "shared.__getitem__" "*args" fun b _ => do
    let ofType d := "a Numpy array with dtype: '" ++ d ++ "'. This data type is not currently recognized by "
      ++ "Theano tensors: please cast your data into a supported numeric type if you need Theano tensor functionalities."
    let what <- match (<- box b).value with
      | .array a => pure (ofType a.dtype.name)
      | .objects _ xs => pure (ofType s!"<U{(xs.map (·.str?.elim 0 String.length)).max?.getD 0}")
      | x => do pure s!"an object of type: {<- classTextOf x}. Did you forget to cast it into a Numpy array before calling theano.shared()?"
    failType s!"The generic 'SharedVariable' object is not subscriptable. This shared variable contains {what}" ]
  ++ modeClasses.flatMap modeMethods
  ++ ["PerformLinker", "VMLinker", "WrapLinker", "CLinker", "OpWiseCLinker"].flatMap linkerMethods
where
  behind (r : RecordId) : M CompiledFunction := do
    let .function f <- field r "function" | noAttr
    compiled f
  modeMethods (c : String) : Table Callable :=
    let part name kind := meth2 s!"{c}.{name}" "*tags" (extendMode · kind)
    [ part "including" "include", part "excluding" "exclude", part "requiring" "require", part "register" "extra_optimizations",
      meth4 s!"{c}.clone" "link_kwargs=None, optimizer='', **kwargs" fun r lk o _ => do
        let options <- match lk with
          | .dict d => do pure ((<- cellPairs d).filterMap fun (k, v) => k.str?.map fun s => (s, v))
          | _ => pure []
        cloneMode r options o ]
  linkerMethods (c : String) : Table Callable :=
    [ meth4 s!"{c}.accept" "fgraph, no_recycling=None, profile=None" fun l g _ _ => acceptGraph l g,
      meth2 s!"{c}.clone" "allow_gc=None" (cloneLinker · ·),
      meth3 s!"{c}.make_function" "unpack_single=True, **kwargs" fun r _ _ =>
        do newRecord "function" [("graph", <- field r "fgraph"), ("linker", r)] ]

/-! ## Printing by name -/

/-! ## Streams -/

def newStream (cls text : String) : M Value := newRecord cls [("written", text)]

def itemNamesArg (v : Value) : M ItemNames :=
  match v with
  | .str "CHAR" => pure .letters
  | .str "int" => pure .numbers
  | _ => pure .none

def storedText (v : VarId) : M String := do
  let held <- match (<- varInfo v).role with
    | .constant d => pure d
    | .shared b => pure (<- box b).value
    | .plain => pure .null
  return s!"[{<- reprOf held}]"

def storageOf (f : FuncId) : M (VarId -> Option String) := do
  let g := ((<- get).functions.getD f.idx default).graph
  let table <- ((<- graph g).vars.toList).mapM fun v => do return (v, <- storedText v)
  return fun v => table.lookup v

def listingOf (style : ListingStyle) (storage : Bool) (v : Value) : M String := do
  let items <- if v matches .list _ | .set _ | .tuple _ then itemsOf v else pure [v]
  let mut head := ""
  let mut roots := []
  for x in items do
    match x with
    | .int _ | .float _ | .bool _ | .array _ => head := s!"{head}{<- textOf x}\n"
    | .record r =>
      if (<- isInput x) || (<- isOutput x) then roots := roots ++ (<- listingRoots 2 (<- field r "variable"))
      else roots := roots ++ (<- listingRoots 1 x)
    | .tuple _ | .list _ => failType s!"('debugprint cannot print an object of this type', {<- reprOf x})"
    | .function f =>
      let rs <- listingRoots 2 x
      let rs <- if storage then do
          let s <- storageOf f
          pure (rs.map fun (v, facts) => (v, { facts with stored := some s }))
        else pure rs
      roots := roots ++ rs
    | x => roots := roots ++ (<- listingRoots 2 x)
  return head ++ (<- listGraphs style loopGraph roots).text

/-! ## Formulas -/

def sharedPrinter : M Value := newRecord "PPrinter" []

def formulaOf (v : Value) : M Value := do
  match v with
  | .var x => prettyText x
  | .list _ | .dict _ | .set _ => badType
  | _ => noAttr

def callPrinter (args : Values) : M Value := do
  let refuse := failType "Not enough arguments to call."
  match args with
  | [x] | [x, .dict _] => formulaOf x
  | [x, .record q] => if (<- record q).cls == "PrinterState" then formulaOf x else refuse
  | [] | [_, _] => refuse
  | _ => badType

/-! ## Descriptions -/

/-- The tags given so far. -/
structure Tags where
  vars : List (VarId × String) := []
  count : Nat := 0

def Tags.next (t : Tags) (v : Option VarId) : Tags × String :=
  let tag := lettersOf t.count
  ({ vars := if let some v := v then (v, tag) :: t.vars else t.vars
     count := t.count + 1 }, tag)

def outlineOf : Nat -> Nat -> VarId -> Tags -> M (String × Tags)
  | 0, _, _, _ => outOfFuel
  | fuel + 1, level, v, t => do
    let indent := .ofList (.replicate level ' ')
    match t.vars.lookup v with
    | some tag => pure (indent ++ s!"<{tag}>", t)
    | none =>
      let (t, tag) := t.next (some v)
      let (name, t) <- match <- nameOf v, <- made? v with
        | some n, _ => pure (n, t)
        | none, some (o, ins) =>
          ins.foldlM (fun (s, t) x => do
            let (r, t) <- outlineOf fuel (level + 1) x t
            return (s ++ "\n" ++ r, t)) (<- opText o, t)
        | none, none => do pure (<- varText v, t)
      pure (indent ++ tag ++ ". " ++ name, t)

def descriptorOf : Nat -> VarId -> Tags -> M (String × Tags)
  | 0, _, _ => outOfFuel
  | fuel + 1, v, t => do
    match t.vars.lookup v with
    | some tag => pure (s!"<{tag}>", t)
    | none =>
      let (t, tag) := t.next (some v)
      let (name, t) <- match <- made? v, <- nameOf v with
        | some (o, ins), _ => do
          let (parts, t) <- ins.foldlM (fun (acc, t) x => do
            let (r, t) <- descriptorOf fuel x t
            return (acc ++ [r], t)) ([], t)
          pure ((<- opText o) ++ "(" ++ .intercalate "," parts ++ ")", t)
        | none, some n => pure (n, t)
        | none, none => do pure (<- varText v, t)
      pure (tag ++ "=" ++ name, t)

def printingEntries : Table ApiEntry := under "printing" [
  fn "debugprint" ("obj, depth=-1, print_type=False, file=None, ids='CHAR', stop_on_name=False, done=None, "
    ++ "print_storage=False, used_ids=None") fun
    | [v, d, t, f, i, s, _, st, _] => do
      let depth <- match d with
        | .int k => pure k
        | .bool b => pure b.toInt
        | _ => fail (.named "Exception") "depth parameter must be an int"
      let style := { depth, types := <- truthOf t, names := <- itemNamesArg i, stopOnName := <- truthOf s }
      let text <- listingOf style (<- truthOf st) v
      -- to the output, into a text that is returned, or to a stream
      match f with
      | .null =>
        put text
        pure .null
      | .str "str" => pure text
      | .record r =>
        writeTo r text
        pure f
      | _ => noAttr
    | _ => badType,
  fn "pprint.clone" "" fun _ => sharedPrinter,
  fn2 "pprint.process" "r, pstate=None" fun x _ => formulaOf x,
  fn "pprint.process_graph" "inputs, outputs, updates=None, display_inputs=False" fun _ => badType,
  cls2 "PrinterState" "props=None, **more" fun p m => do
    let given <- match p with
      | .dict c => (<- cellPairs c).mapM fun (k, v) => do return (<- strArg k, v)
      | .record r => pure (<- record r).fields
      | _ => pure []
    newRecord "PrinterState" (m.pairs ++ given),
  cls3 "Print" "message='', attrs=None, global_fn=None" fun m (a : Option (List String)) _ =>
    return Op.print m (a.getD ["__str__"]) 0,
  cls "_TagGenerator" "" fun _ => newRecord "_TagGenerator" [("cur_tag_number", 0)],
  fn "min_informative_str" "obj, indent_level=0" fun
    | [.var v, k] => do return (<- outlineOf 10000 (<- intArg k).toNat v {}).1
    | [x, k] => do
      let name <- if x matches .array _ | .number .. then pure "<ndarray>" else textOf x
      return .ofList (.replicate (<- intArg k).toNat ' ') ++ "A. " ++ name
    | _ => badType,
  fn "var_descriptor" "obj" fun
    | [.var v] => do return (<- descriptorOf 10000 v {}).1
    | [x] => do return s!"A={<- textOf x}"
    | _ => badType,
  fn "position_independent_str" "obj" fun
    | [.var v] => do return "theano_var" ++ braced s!"type={<- typeText v}"
    | _ => cannot,
  fn "pydotprint" "fct, *args, **kw" fun _ =>
    fail .runtime ("('Failed to import pydot. You must install graphviz and either pydot or pydot-ng for `pydotprint` "
      ++ "to work.', 'Install the python package pydot or pydot-ng. Install graphviz.')") ]
  ++ [
  fn1 "show" "v" (listingOf { types := true } false),
  fn1 "stringio" "text=''" (newStream "StringIO"),
  fn "bytesio" "" fun _ => newStream "BytesIO" "",
  fn1 "compile.debugmode.char_from_number" "number" fun (n : Int) => return lettersOf n.toNat,
  fn "graph.utils.get_variable_trace_string" "v" fun _ => return "" ]
  ++ ["pp", "pprint", "printing.pp", "printing.pprint"].map (·, .value sharedPrinter)

def printingMethods : Table Callable := [
  meth1 "StringIO.getvalue" "" fun r => field r "written",
  meth1 "BytesIO.getvalue" "" fun r => field r "written",
  meth2 "PPrinter.__call__" "*args" fun _ => callPrinter,
  meth3 "PPrinter.process" "r, pstate=None" fun _ x _ => formulaOf x,
  meth "PPrinter.process_graph" "inputs, outputs, updates=None, display_inputs=False" fun _ => badType,
  meth1 "PPrinter.clone" "" fun _ => sharedPrinter,
  meth1 "_TagGenerator.get_tag" "" fun r => do
    let n <- intArg (<- field r "cur_tag_number")
    setField r "cur_tag_number" (.int (n + 1))
    return lettersOf n.toNat ]

end TensorGraph
