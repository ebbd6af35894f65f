import TensorGraph.Catalog.Builtins
import TensorGraph.Rewrite.Registry

/-! # Passes and databases of passes -/

namespace TensorGraph

def writeTo (stream : Value) (t : String) : M Unit := do
  match stream with
  | .record r =>
    let .str s <- field r "written" | noAttr
    setField r "written" (s ++ t)
  | .null | .str _ => put t
  | _ => noAttr

variable (d : DbId) (tags : Values) (v : Value) (p : PassId) (kw : Value) (o : Op) (name : String)

def trackOf? : Option Track :=
  match v with
  | .op o => some o
  | .api path =>
    let parts := path.splitOn "."
    let name := parts.getLastD ""
    let place := parts.headD ""
    if !(name.toList.headD ' ').isUpper then none
    else some (.cls (if ["scalar", "sparse", "typed_list"].contains place then s!"{place}.{name}" else name))
  | _ => none

def Op.isOf : Bool := o.family == name || o.className == name

def Op.isGiven (v : Value) : Bool := match trackOf? v with
  | some (.op q) => o == q
  | some (.cls name) => o.isOf name
  | none => false

def Track.toValue : Track -> Value
  | .op o => o
  | .cls name => .cls ((name.splitOn ".").getLastD "")

def tracksArg : M (Option (List Track)) := do
  let vs : Option Values <- arg v
  return vs.map (·.filterMap trackOf?)

def failureArg : OnFailure :=
  match v with
  | .null => .raise
  | .api path =>
    if path.endsWith ".warn_inplace" then .warnInplace
    else if path.endsWith ".warn_ignore" then .ignore
    else if path.endsWith ".warn" then .warn
    else .call v
  | v => .call v

def spreadPasses (rest : Value) : M (List PassId) := do
  match <- iterate rest with
  | [.pass p] => pure [p]
  | [v] => arg v
  | vs => vs.mapM arg

def Proposal.toValue : Proposal -> M Value
  | .none => pure .null
  | .no => pure false
  | .outputs vs => newList (vs.map fun v => (v.map .var).getD .null)
  | .pairs ps gone => do
    let ps := ps.map fun (a, b) => (a, b)
    if gone.isEmpty then newDict ps
    else newDict (("remove", <- listOf gone) :: ps)
  | .wrong v => pure v

def graphOrNone : M GraphId :=
  match v with
  | .graph g => pure g
  | .null => pure Rules.noGraph
  | _ => noAttr

/-! ## Queries -/

def queryFromArgs : M (Query × Float) := do
  if let first :: more := tags then
    if (<- classNameOf first) == "Query" then
      if !more.isEmpty || !kw.pairs.isEmpty then
        failWith .type ["'If the first argument to query is a Query, there should be no other arguments.'",
          <- reprOf (.tuple tags), <- reprOf (<- newDict (kw.pairs.map fun (k, v) => (k, v)))]
      let q <- queryOf 50 first
      return (q, q.cutoff)
  let words <- tags.mapM strArg
  let starting c :=
    words.filterMap fun w => if w.startsWith c then some (w.drop 1).toString else none
  let inc := starting "+"
  let req := starting "&"
  let exc := starting "-"
  if inc.length + req.length + exc.length < words.length then
    failWith .value ["\"All tags must start with one of the following characters: '+', '&' or '-'\"",
      <- reprOf (.tuple tags)]
  let subs <- kw.pairs.filterMapM fun (k, v) => do
    if k == "position_cutoff" then return none
    return some (k, <- queryOf 50 v)
  let cutoff <- if let some v := kw.pairs.lookup "position_cutoff" then pure ((v.float?).getD 0)
    else defaultCutoff
  return (.mk inc.eraseDups req.eraseDups exc.eraseDups subs floatInf [], cutoff)

def queryDatabase : M Value := do
  let (q, cutoff) <- queryFromArgs tags kw
  match (<- database d).kind with
  | .plain => do newOrderedSet ((<- selectEntries queryFuel d q).map DbEntry.toValue)
  | .sequence _ =>
    let p <- queryPass queryFuel d q cutoff
    if tags.isEmpty then badIndex
    pure p
  | _ => queryPass queryFuel d q cutoff

def positionArg : M (Option Float) := do
  match v with
  | .str "last" => pure none
  | .int i => return some (floatOfInt i)
  | .float x => return some x
  | _ => unmet

def registerIn (n : String) (obj : Value) (tags : Values) (kw : Value) : M Unit := do
  let some entry := DbEntry.ofValue? obj
    | failWith .type ["'Object cannot be registered in OptDB'", <- reprOf obj]
  let flag k := do
    let some v := kw.pairs.lookup k | return false
    truthOf v
  let words l := l.filterMap Value.str?
  let bare := (kw.pairs.lookup "use_db_name_as_tag").isSome
  match (<- database d).kind with
  | .sequence _ =>
    let at_ :: tags := tags | badType
    registerBasic d n entry (words tags)
    let place <- positionArg at_
    modifyDatabase d fun x => { x with positions := alistSet n (place.getD x.lastPosition) x.positions }
  | .localGroup .. =>
    let place <- if let some v := kw.pairs.lookup "position" then positionArg v else pure none
    registerEntry d n entry place (words tags)
  | .equilibrium .. =>
    let final <- flag "final_opt"
    let cleanup <- flag "cleanup"
    check (!(final && cleanup))
    registerEntry d n entry none (words tags) bare final cleanup
  | _ => registerEntry d n entry none (words tags) bare

def databaseItem : M Value := do
  match (<- askWords d [name]).at_ name with
  | [] => fail .key (quoted s!"Nothing registered for '{name}'")
  | [e] => pure e.toValue
  | _ => failValue s!"More than one match for {name} (please use query)"

/-! ## Making passes -/

def makePass (body : PassBody) (label : Option String := none) : M PassId := newPass { body, label }

def navigator (order : String) (rules : List PassId) (given : Option String) (ignoreNew : Bool) : M PassId := do
  let named := given.filter (!·.isEmpty)
  let (rule, label) <- match rules with
    | [r] =>
      let some l := named <|> (<- pass r).label | noAttr
      pure (r, some l)
    | [] => badValue
    | rs => do pure (<- makePass (.group rs false false false), named)
  makePass (.topo rule order ignoreNew .warnInplace) label

def chainEnd : Nat -> VarId -> Values -> M (Option VarId)
  | 0, _, _ => pure none
  | _, v, [] => return some v
  | fuel + 1, v, c :: cs => do
    match <- ownerOf v, c with
    | some _, .null | none, _ => if c.isNull then noAttr else pure none
    | some n, c =>
      if !(<- opOf n).isGiven c then return none
      let some w := (<- insOf n)[0]? | badIndex
      chainEnd fuel w cs

def passEntries : Table ApiEntry := under "graph.optdb" [
  cls "DB" "" <| of0 (newDatabase { kind := .plain }),
  cls2 "EquilibriumDB" "ignore_newtrees=True, tracks_on_change_inputs=False" fun i t =>
    newDatabase { kind := .equilibrium i t },
  cls1 "SequenceDB" "failure_callback=warn" fun h =>
    newDatabase { kind := .sequence (if h matches .str _ then .warn else failureArg h) },
  cls3 "LocalGroupDB" "apply_all_opts=False, profile=False, local_opt=None" fun a p l =>
    newDatabase { kind := .localGroup a p (if let .api path := l then path.endsWith "GraphToGPULocalOptGroup" else false) },
  cls "TopoDB" "db, order='in_to_out', ignore_newtrees=False, failure_callback=None" <| of4 fun d o i h =>
    newDatabase { kind := .topo d o i (failureArg h) },
  cls1 "ProxyDB" "db" fun d => newDatabase { kind := .proxy d },
  cls "Query" "include, require=None, exclude=None, subquery=None, position_cutoff=inf, extra_optimizations=None"
    <| of6 fun (i r e : Option Values) s c (x : Option Values) => do
    let subs <- if s.isNull then newDict [] else pure s
    queryValue (i.getD []) (r.getD []) (e.getD []) subs (if c matches .str _ then Value.float floatInf else c) (x.getD []) ]
  ++ under "graph.opt" [
  cls "MergeOptimizer" "" <| of0 (makePass .merge),
  cls2 "FromFunctionOptimizer" "fn, requirements=()" fun f _ => makePass (.globalFn f false),
  fn1 "optimizer" "f" fun f => makePass (.globalFn f false) (some "<lambda>"),
  fn1 "inplace_optimizer" "f" fun f => makePass (.globalFn f true) (some "<lambda>"),
  cls2 "SeqOptimizer" "*opts, failure_callback=None" fun o h =>
    do makePass (.seq (<- spreadPasses o) (failureArg h)),
  cls3 "LocalOptGroup" "*optimizers, apply_all_opts=False, profile=False" fun o a p =>
    do makePass (.group (<- spreadPasses o) a p false),
  cls3 "GraphToGPULocalOptGroup" "*optimizers, apply_all_opts=False, profile=False" fun o a p => do
    check !a
    makePass (.group (<- spreadPasses o) a p true),
  cls3 "OpSub" "op1, op2, transfer_tags=True" fun a b t => makePass (.opSub a b t),
  cls1 "OpRemove" "op" fun o => makePass (.opRemove o),
  cls "PatternSub"
    ("in_pattern, out_pattern, allow_multiple_clients=False, skip_identities_fn=None, name=None, pdb=False, tracks=(), "
      ++ "get_nodes=None, values_eq_approx=None")
    fun
    | [i, o, m, s, n, _, t, g, _] => do
      if !(i matches .tuple _ | .list _ | .dict _) then
        failType "The pattern to search for must start with a specific Op instance."
      let _ <- partOf (<- if i matches .dict _ then partOf i "pattern" else pure i) 0
      let ts := (<- iterate t).filterMap trackOf?
      if !ts.isEmpty then check !g.isNull
      makePass (.pattern i o (<- truthOf m) s ts g) (<- arg n)
    | _ => badType,
  cls3 "FromFunctionLocalOptimizer" "fn, tracks=None, requirements=()" fun f t _ =>
    do makePass (.localFn f (<- tracksArg t) false),
  fn3 "local_optimizer" "tracks, inplace=False, requirements=()" fun t i _ =>
    return Value.method (.tuple [t, i]) "as_rule",
  cls "LocalMetaOptimizer" "" <| of0 (makePass (.metaRule "LocalMetaOptimizer" [])),
  cls "TopoOptimizer" "local_opt, order='in_to_out', ignore_newtrees=False, failure_callback=None" <| of4 fun r o i h => do
    let o := (o.str?).getD ""
    if o != "out_to_in" && o != "in_to_out" then failValue "order must be 'out_to_in' or 'in_to_out'"
    makePass (.topo r o i (failureArg h)),
  cls3 "OpKeyOptimizer" "local_opt, ignore_newtrees=False, failure_callback=None" fun r i h => do
    let Value.pass p := r | noKey
    if !((<- pass p).body matches .opSub .. | .opRemove _ | .pattern ..) then noKey
    makePass (.opKey p i (failureArg h)),
  cls "EquilibriumOptimizer"
    ("optimizers, failure_callback=None, ignore_newtrees=True, tracks_on_change_inputs=False, "
      ++ "max_use_ratio=None, final_optimizers=None, cleanup_optimizers=None")
    <| of7 fun o h i t m (f c : Option (List PassId)) => do
    check m.float?.isSome
    makePass (.equilibrium { rules := o, onFailure := failureArg h, ignoreNewTrees := i, tracksOnChange := t,
                             maxUseRatio := m.float?, final := f.getD [], cleanup := c.getD [] }),
  fn3 "in2out" "*local_opts, name=None, ignore_newtrees=False" (navigator "in_to_out"),
  fn3 "out2in" "*local_opts, name=None, ignore_newtrees=False" (navigator "out_to_in"),
  fn "NavigatorOptimizer.warn_inplace" "exc, nav, repl_pairs, local_opt, node" fun _ => return Value.null,
  fn "NavigatorOptimizer.warn_ignore" "exc, nav, repl_pairs, local_opt, node" fun _ => return Value.null,
  fn "SeqOptimizer.warn" "exc, self, optimizer" fun _ => return Value.null,
  fn2 "copy_stack_trace" "from_var, to_var" fun _ t => return t,
  fn2 "check_chain" "r, *chain" fun r (c : Values) => do
    let v :: _ <- if let Value.node n := r then outsOf n else do pure [<- varArg r] | badIndex
    if c.isEmpty then badType
    return (<- chainEnd 100 v c).isSome,
  fn2 "merge_dict" "d1, d2" Merge.joinCounts,
  fn2 "pre_constant_merge" "fgraph, variables" fun (_ : GraphId) (l : Vars) => return l ]
  ++ ([("compile", "AddDestroyHandler"), ("compile.mode", "AddDestroyHandler"), ("ifelse", "CondMerge"), ("tensor.blas", "GemmOptimizer"),
      ("tensor.opt", "ShapeOptimizer"), ("scan.opt", "PushOutDot1"), ("graph.opt", "CheckStackTraceOptimization")].map
    fun (path, c) => cls s!"{path}.{c}" "" <| of0 (makePass (.global c c)))
  ++ [
  cls1 "compile.mode.AddFeatureOptimizer" "feature" fun f => makePass (.addFeature f),
  cls1 "compile.mode.PrintCurrentFunctionGraph" "header" fun h => makePass (.printGraph h),
  cls1 "tensor.opt.InplaceElemwiseOptimizer" "op" fun _ =>
    makePass (.global "InplaceElemwiseOptimizer" "InplaceElemwiseOptimizer"),
  cls1 "tensor.opt.FusionOptimizer" "local_optimizer" fun p => makePass (.fusion p),
  fn4 "rewrite" "inputs, outputs, include, exclude=()" fun i o inc exc => do
    let g <- makeGraph i o
    let _ <- optimize (<- queryPass queryFuel mainDatabase (Query.words inc exc)) g
    return g ]
where
  noKey {α : Type} : M α := failType "LocalOptimizer for OpKeyOptimizer must have an 'op_key' method."

def registryEntries : Table ApiEntry :=
  (rulePaths.flatMap fun (path, rules) => if path.isEmpty then [] else rules.filterMap fun r =>
    (rulePass? r.name).map fun p => val s!"{path}.{r.name}" p)
  ++ library.2.map fun (name, v) => val name v

def canonizerMethods : Table Callable :=
  let sides s := do return Value.tuple [<- listOf s.1, <- listOf s.2]
  let own (v : Value) := do
    let .pass p := v | badType
    if let .canonizer c := (<- pass p).body then return c else noAttr
  let typed v := match v with
    | Value.type t => t.dtype?.getD .float64
    | _ => .float64
  [ meth2 "Canonizer.get_num_denum" "inp" fun c v => do sides (<- (<- own c).membersOf v),
    meth3 "Canonizer.merge_num_denum" "num, denum" fun c n d => do (<- own c).rebuild n d,
    meth3 "Canonizer.simplify_factors" "num, denum" fun _ n d => sides (Canonizer.cancel n d),
    meth4 "Canonizer.simplify_constants" "orig_num, orig_denum, out_type=None" fun c n d t =>
      do sides (<- (<- own c).combineConstants n d (typed t)),
    meth4 "Canonizer.simplify" "num, denum, out_type" fun c n d t =>
      do sides (<- (<- own c).simplify n d (typed t)),
    meth2 "Canonizer.get_constant" "v" fun _ (v : Value) =>
      do if let .var x := v then return (<- Canonizer.number? x).getD .null else return v ]

def rulesFor (n : NodeId) : M (List (PassId × Int)) := do
  let .metaRule _ rules v := (<- pass p).body | noAttr
  let o <- opOf n
  let fit <- rules.filterM fun (q, _) => do
    return ((<- tracksOf ruleBook q).getD []).any fun
      | .cls c => o.isOf c
      | .op _ => false
  return fit.map fun (q, _) => (q, v)

def tryRules (g : Value) (n : NodeId) : M Value := do
  let o <- opOf n
  match ((<- tracksOf ruleBook p).getD []).find? fun
    | .op _ => true
    | .cls c => o.isOf c with
  | none => return .null
  | some (.op _) => badType
  | some (.cls _) => pure ()
  let mut givens := []
  for v in <- insOf n do
    if !(<- isShared v) then
      let some x <- tagOf v "test_value" | cannot
      givens := givens ++ [(.var v, <- callValue (.api "shared") [<- (<- typeOf v).filter x, .ofName (<- nameOf v)]
        [("broadcastable", .ofBools (<- bcastOf v)), ("borrow", true)])]
  let mut best := .null
  for (q, verbose) in <- rulesFor p n do
    let tell s := do if verbose > 0 then putLine s!"* {<- passText q}: {s}"
    let outs <- callMethod q "transform" [g, n]
    if !(<- truthOf outs) then tell "not applicable"
    else
      let trial <- try
          let f <- callValue (.api "function") [<- newList [], outs] [("givens", <- newDict givens), ("on_unused_input", "ignore")]
          let _ <- callValue f [] []
          pure none
        catch e => pure (some e)
      if let some e := trial then tell s!"exception {e.message}" else if best.isNull then best := outs
  pure best

def passMethods : Table Callable := canonizerMethods ++ [
  meth "globalPass.optimize" "fgraph, *args, **kwargs" fun
    | .pass p :: g :: _ => do optimize p (<- graphArg g)
    | _ => badType,
  meth2 "globalPass.apply" "fgraph" applyPass,
  meth2 "globalPass.__call__" "fgraph" optimize,
  meth2 "pass.add_requirements" "fgraph" requirePass,
  meth "localPass.transform" "fgraph, node, *args, **kwargs" fun
    | .pass p :: g :: .node n :: _ => do (<- runRule p (<- graphOrNone g) n).toValue
    | _ => noAttr,
  meth1 "localPass.tracks" "" fun p => do
    let some ts <- tracksOf ruleBook p | pure .null
    newList (ts.map Track.toValue),
  meth3 "LocalMetaOptimizer.register" "optimizer, tag_list" fun p q tags => changeBody p fun
    | .metaRule c l v => .metaRule c (l ++ [(q, tags)]) v
    | b => b,
  meth "LocalMetaOptimizer.transform" "fgraph, node, *args, **kwargs" <| of5 fun p g n _ _ => tryRules p g n,
  meth2 "LocalMetaOptimizer.get_opts" "node" fun p n => do return (<- rulesFor p n).map (·.1),
  meth "LocalMetaOptimizer.provide_inputs" "node, inputs" fun _ => cannot,
  meth2 "SeqOptimizer.append" "item" fun p q => extend p [q], meth2 "SeqOptimizer.extend" "items" extend,
  meth "db.register" "name, obj, *tags, **kwargs" <| of5 registerIn,
  meth3 "db.query" "*tags, **kwtags" queryDatabase,
  meth3 "db.add_tags" "name, *tags" addTags, meth3 "db.remove_tags" "name, *tags" removeTags,
  meth2 "db.__getitem__" "name" databaseItem,
  meth2 "tuple.as_rule" "f" fun (x : Value × Bool) f => do
    let (t, i) := x
    if !t.isNull then
      let ts <- iterate t
      let told m := failWith .value [quoted m, "'__main__'", "'<lambda>'"]
      if ts.isEmpty then told "Use None instead of an empty list to apply to all nodes."
      for x in ts do
        match x with
        | .op _ => pure ()
        | .api _ | .cls _ => if (trackOf? x).isNone then told "Tracks are op classes or instances"
        | _ => badType
    makePass (.localFn f (<- tracksArg t) i) (some "<lambda>"),
  meth1 "SeqOptimizer.__len__" "" fun p => do lengthOf (<- attrOf p "data"),
  meth1 "SeqOptimizer.__iter__" "" fun p => attrOf p "data",
  meth2 "SeqOptimizer.__getitem__" "i" fun p i => do itemOf (<- attrOf p "data") i,
  meth1 "EquilibriumOptimizer.get_local_optimizers" "" fun p => do
    let .equilibrium e := (<- pass p).body | noAttr
    listOf (<- e.rules.filterM fun q => do return (<- pass q).body.isLocal),
  meth "db.__contains__" "name" fun
    | [.database d, .str n] => return ((<- database d).table.any (·.1 == n))
    | _ => return false,
  meth2 "db.print_summary" "stream=None" fun d s => do
    let .sequence _ := (<- database d).kind | pure .null
    writeTo s s!"{<- classNameOf d} (id 0)\n"
    badType,
  meth4 "pass.print_summary" "stream=None, level=0, depth=-1" fun p s (l : Int) _ => do
    let cls <- classNameOf (.pass p)
    let start := .ofList (.replicate l.toNat ' ')
    let bound m := writeTo s s!"{start}<bound method {cls}.{m}> id=0\n"
    match (<- pass p).body with
    | .rule _ | .localFn .. => bound "transform"
    | .globalFn .. => bound "apply"
    | .merge | .global .. | .fusion _ | .addFeature _ | .printGraph _ =>
      writeTo s (start ++ cls ++ " " ++ (((<- pass p).name).getD "None") ++ " id=0\n")
    | _ => noAttr,
  meth2 "Query.including" "*tags" (extendQuery · "include"),
  meth2 "Query.excluding" "*tags" (extendQuery · "exclude"),
  meth2 "Query.requiring" "*tags" (extendQuery · "require"),
  meth2 "Query.register" "*optimizations" (extendQuery · "extra_optimizations"),
  meth "StringIO.read" "" fun _ => return "",
  meth2 "StringIO.write" "s" fun r (s : String) => do
    writeTo r s
    return s.length ]
  ++ ["OpSub", "OpRemove", "PatternSub"].map fun c => meth1 s!"{c}.op_key" "" ruleKey
where
  changeBody (p : PassId) (f : PassBody -> PassBody) : M Unit := modifyPass p fun x => { x with body := f x.body }
  extend (p : PassId) (qs : List PassId) : M Unit := changeBody p fun
    | .seq ps h => .seq (ps ++ qs) h
    | b => b

def passAttributes : Table (Value -> M Value) :=
  let ofPass read p := do read (<- pass p)
  let ofBody read := ofPass (read ·.body)
  let known (n : Option String) : M Value := if let some n := n then return n else noAttr
  [ attr_ "pass.name" (ofPass (known ·.name)),
    attr_ "pass.__name__" (ofPass (known ·.label)),
    attr_ "pass.data" (ofBody fun
      | .seq ps _ => listOf ps
      | _ => noAttr),
    attr_ "pass.order" (ofBody fun
      | .topo _ o .. => pure o
      | _ => noAttr),
    attr_ "pass.final_optimizers" (ofBody fun
      | .equilibrium e => listOf e.final
      | _ => noAttr),
    attr_ "pass.cleanup_optimizers" (ofBody fun
      | .equilibrium e => listOf e.cleanup
      | _ => noAttr),
    attr_ "pass.op" (ofBody fun
      | .opRemove o => pure o
      | .pattern i .. => do
        let [.op o] <- patternHead i | noAttr
        pure o
      | _ => noAttr),
    attr_ "db.name" fun d => do return (<- database d).name,
    attr_ "db._names" fun d => do newSet (valuesOf (<- database d).names) ]

/-! ## Questions that rules ask -/

def readersOf (g : GraphId) (v : VarId) : M Nodes := do
  return (<- Rules.clientsOf g v).filterMap fun (c, _) => match c with
    | .node n => some n
    | .output => none

def combined (c : Canonizer) (num den asList type : Value) : M Value := do
  let num <- iterate num
  let den <- iterate den
  let wanted <- match type with
    | .null =>
      if c.sums || (num.isEmpty && den.isEmpty) then pure none
      else do
        let ds <- (num ++ den).mapM fun
          | .array a => pure a.dtype
          | .number d _ => pure d
          | _ => noAttr
        pure (some (<- commonType ds))
    | .type t => if t.dtype?.isNone then noAttr else pure t.dtype?
    | _ => noAttr
  let asList <- truthOf asList
  let out <- c.combine num den asList wanted
  if asList then newList out else return out.headD .null

def ruleToolEntries : Table ApiEntry := under "tensor.opt" [
  fn2 "get_clients" "fgraph, node" fun g n => do listOf (<- readersOf g (<- outOf n)),
  fn2 "get_clients2" "fgraph, node" fun g n => do
    let next <- (<- readersOf g (<- outOf n)).mapM fun r => do return (<- (<- outsOf r).mapM (readersOf g)).flatten
    listOf next.flatten,
  fn2 "is_an_upcast" "type1, type2" fun a b => do return Rules.isUpcast (<- named a) (<- named b),
  fn2 "encompasses_broadcastable" "b1, b2" fun a b =>
    do return Rules.encompasses (<- flags a) (<- flags b),
  fn1 "merge_broadcastables" "broadcastables" fun (v : Values) => do
    let rows <- v.mapM flags
    let n := (rows.map (·.length)).foldl min (rows.headD []).length
    newList ((List.range n).map fun i => rows.all fun r => r.getD i false),
  fn3 "scalarconsts_rest" "inputs, elemwise=True, only_process_constants=False" fun ins e o => do
    let (known, rest) := (<- (<- iterate ins).mapM fun v => do return (v, <- valueOf? v e o)).partition (·.2.isSome)
    return Value.tuple [<- newList (known.filterMap (·.2)), <- newList (known.map (·.1)), <- newList (rest.map (·.1))],
  fn4 "broadcast_like" "value, template, fgraph, dtype=None" fun v t g d => do
    let d <- if Value.isNull d then pure none else do pure (some (<- named d))
    return (<- Rules.broadcastLike g (<- asTensor v) t d),
  fn4 "mul_calculate" "num, denum, aslist=False, out_type=None" (combined products),
  fn4 "add_calculate" "num, denum, aslist=False, out_type=None" (combined sums) ]
where
  flags (v : Value) : M (List Bool) := do (<- iterate v).mapM truthOf
  named (v : Value) : M DType := do
    let some d := DType.ofName? (<- strArg v) | badKey
    pure d

/-! ## Products and linear algebra by name -/

def flagged (path param : String) (make : Bool -> BlasOp) : ApiRow :=
  cls path param <| of1 fun v => return Op.blas (make v)

def productEntries : Table ApiEntry := under "tensor.blas" (flagged "Ger" "destructive" .ger
    :: opsAndClasses [.blas .batchedDot] ++ opClasses [.blas .dot22]
    ++ ([("_dot22", .dot22), ("_dot22scalar", .dot22Scalar), ("gemm", .gemm false), ("gemm_no_inplace", .gemm false),
      ("gemm_inplace", .gemm true), ("gemv", .gemv false),
    ("gemv_no_inplace", .gemv false), ("gemv_inplace", .gemv true), ("ger", .ger false),
    ("ger_destructive", .ger true)].map fun (n, o) => opEntry n (.blas o)))
  ++ [
  flagged "tensor.blas_c.CGer" "destructive" .cGer,
  flagged "tensor.blas_c.CGemv" "inplace" .cGemv,
  opEntry "tensor.blas_scipy.scipy_ger_no_inplace" (.blas (.scipyGer false)) ]

open Tensor

variable (v : Value)

def flagLit : M Lit := do
  if v matches .bool _ | .int _ then return v.toLit else return .bool (<- truthOf v)

def uploArg : M String := oneOf v ["L", "U"]

def linalgEntry (path : String) (l : LinalgOp) : ApiRow := opEntry path (.linalg l)

def matrixKinds : List String :=
  ["general", "symmetric", "lower_triangular", "upper_triangular", "hermitian", "banded", "diagonal", "toeplitz"]

def linalgEntries : Table ApiEntry := under "tensor.nlinalg" [
  linalgEntry "pinv" .matrixPinv,
  opEntry "extract_diag" (.extractDiag 0 0 1 false),
  fn "matrix_dot" "*args" fun
    | [.tuple (x :: xs)] => xs.foldlM (fun r a => do return (<- denseDot r a)) x
    | _ => badIndex,
  fn1 "diag" "x" Linalg.diag,
  fn1 "trace" "X" Linalg.trace,
  cls1 "Eigh" "UPLO='L'" fun u => do return Op.linalg (.eigh (<- uploArg u)),
  cls1 "EighGrad" "UPLO='L'" fun u => do return Op.linalg (.eighGrad (<- uploArg u)),
  fn2 "eigh" "a, UPLO='L'" fun a u => do callOp (.linalg (.eigh (<- uploArg u))) [a],
  fn "qr" "a, mode='reduced'" fun
    | [a, .str m] => do
      if ["reduced", "complete", "raw", "full", "f"].contains m then callOp (.linalg (.qrFull m)) [a]
      else if ["r", "economic", "e"].contains m then callOp (.linalg (.qrIncomplete m)) [a]
      else badValue
    | _ => badValue,
  cls2 "SVD" "full_matrices=True, compute_uv=True" fun f c =>
    do return Op.linalg (.svd (<- flagLit f) (<- flagLit c)),
  fn3 "svd" "a, full_matrices=1, compute_uv=1" fun a f c =>
    do callOp (.linalg (.svd (<- flagLit f) (<- flagLit c))) [a],
  fn2 "matrix_power" "M, n" fun m n => do
    match m with
    | .var v => result (Linalg.power v n)
    | m => result do Linalg.power (<- asTensor m) n,
  fn2 "norm" "x, ord" Linalg.norm,
  cls1 "TensorInv" "ind=2" fun i => return Op.linalg (.tensorInv i),
  fn2 "tensorinv" "a, ind=2" fun a i => callOp (.linalg (.tensorInv i)) [a],
  fn3 "tensorsolve" "a, b, axes=None" fun a b (x : Option (List Int)) =>
    callOp (.linalg (.tensorSolve (x.elim .none .ofInts))) [a, b] ]
  ++ under "tensor.nlinalg" (opsAndClasses ([.matrixInverse, .allocDiag, .det].map .linalg)
    ++ opClasses [.linalg .matrixPinv, .linalg .lstsq])
  ++ under "tensor.slinalg" [
  -- factors and systems
  cls2 "Cholesky" "lower=True, on_error='raise'" fun (l : Bool) (e : Value) => do
    return Op.linalg (.cholesky l false
      (<- oneOf e ["raise", "nan"] (failValue "on_error must be one of \"raise\" or \"\"nan\""))),
  linalgEntry "cholesky" (.cholesky true false "raise"),
  cls1 "CholeskyGrad" "lower=True" fun l => return Op.linalg (.choleskyGrad l false),
  cls "Solve" "A_structure='general', lower=False, overwrite_A=False, overwrite_b=False" <| of4 fun s l a b => do
    return Op.linalg (.solve (<- oneOf s matrixKinds do
      failWith .value [quoted "Invalid matrix structure argument", <- reprOf s]) l a b),
  linalgEntry "solve" (.solve "general" false false false),
  linalgEntry "solve_lower_triangular" (.solve "lower_triangular" true false false),
  linalgEntry "solve_upper_triangular" (.solve "upper_triangular" false false false),
  linalgEntry "solve_symmetric" (.solve "symmetric" false false false),
  fn2 "kron" "a, b" Linalg.kron,
  opClass "ExpmGrad" (.linalg .expmGrad) ]
  ++ under "tensor.slinalg" (opsAndClasses [.linalg .expm])
  ++ under "sandbox.linalg.ops" [
  -- hints
  cls1 "Hint" "**kwargs" fun kw =>
    return Value.op (.linalg (.hint ((Value.pairs kw).map fun (k, v) => (k, v.toLit)))),
  fn1 "hints" "variable" fun v =>
    do newDict ((<- Linalg.hintsOf v).map fun (k, l) => (k, l.toValue)),
  fn1 "psd" "v" Linalg.psd,
  fn1 "is_psd" "v" fun v => do return (<- Linalg.hintOf v "psd").toValue,
  fn1 "is_symmetric" "v" fun v => do return (<- Linalg.hintOf v "symmetric").toValue,
  fn1 "is_positive" "v" Linalg.isPositive,
  fn2 "spectral_radius_bound" "X, log2_exponent" Linalg.spectralRadiusBound ]

end TensorGraph
