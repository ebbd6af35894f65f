import TensorGraph.Catalog.Builtins

/-! # Loops by name -/

namespace TensorGraph

open Gradient

/-- Whether several values were given, and how. -/
inductive Packing
  | one | list | tuple

def unpack (v : Value) : M (Packing × Values) := do
  match v with
  | .list c => pure (.list, <- cellItems c)
  | .tuple xs => pure (.tuple, xs)
  | v => pure (.one, [v])

def repack (p : Packing) (vs : Values) : M Value := do
  match p with
  | .list => newList vs
  | .tuple => return .tuple vs
  | .one => if let [v] := vs then return v else unmet

def constantsArg (v : Value) : M Vars := do
  if v.isNull then return []
  let items <- try iterate v
    catch e => if v matches .var _ then throw e else failType s!"consider_constant must be an iterable collection, got {<- classTextOf v}"
  items.mapM fun
    | .var y => pure y
    | x => do failType s!"Elements of consider_constant must be variables, but got {<- classTextOf x}"

variable (cost : Option VarId) (vs : Values) (f : Value)

def knownPairs (pairs : Pairs) : M VarPairs :=
  pairs.mapM fun (a, b) => do
    match a, b with
    | .var x, .var y => pure (x, y)
    | .var x, y =>
      if cost == some x then noAttr
      failType
        s!"output grads must be theano variables.Ambiguous whether {<- classTextOf y} should be made into tensor or sparse theano variable"
    | _, _ => noAttr

def knownArg (v : Value) : M VarPairs := do
  if v.isNull then return []
  let some ps <- mapping? v | noAttr
  check (ps.length <= 1 || v matches .record _)
  knownPairs cost ps

def wrtArg : M Vars :=
  vs.mapM fun
    | .var v => pure v
    | x => do failType s!"Expected Variable, got {<- textOf x} of type {<- classTextOf x}"

def gradValue (cost wrt constants disconnected names known returned nulls : Value) : M Value := do
  let cost <- match cost with
    | .null =>
      if known.isNull then fail .assertion "cost and known_grads can't both be None."
      pure none
    | .var v => pure (some v)
    | _ => noAttr
  checkCost { cost, wrt := [] }
  if wrt matches .set _ then
    failType "wrt must not be a set. sets have no defined iteration order, so we can't return gradients in a  matching order."
  let (p, ws) <- unpack wrt
  let rs <- run
    { cost, wrt := <- wrtArg ws, constants := <- constantsArg constants, disconnected := <- strArg disconnected
      addNames := <- truthOf names, known := <- knownArg cost known, returned := <- strArg returned, nulls := <- strArg nulls }
  repack p (rs.map (.ofOption .var))

def lopValue (f wrt points constants disconnected : Value) : M Value := do
  let (_, es) <- unpack points
  let (p, ws) <- unpack wrt
  let (_, fs) <- unpack f
  check (fs.length == es.length)
  let known <- knownPairs none (fs.zip es)
  let rs <- run { cost := none, wrt := <- wrtArg ws, constants := <- constantsArg constants
                  disconnected := <- strArg disconnected, known }
  repack p (rs.map (.ofOption .var))

def nullGradient (op pos x comment : Value) : M Value := do
  result (newVar (.null ("This variable is Null because the grad method for input " ++ (<- textOf pos) ++ " ("
    ++ (<- textOf x) ++ s!") of the {<- textOf op}" ++ " op is not implemented. " ++ (<- textOf comment))))

def marked (name : String) (o : Op) : ApiRow := fn1 name "x" fun x => applyTo o [x]

def gradientEntries : Table ApiEntry := under "gradient" [
  fn3 "format_as" "use_list, use_tuple, outputs" fun l t o => do
    check (!(l && t))
    let (_, xs) <- unpack o
    repack (if l then .list else if t then .tuple else .one) xs,
  fn4 "grad_undefined" "op, x_pos, x, comment=''" nullGradient,
  fn4 "grad_not_implemented" "op, x_pos, x, comment=''" nullGradient,
  val "disconnected_type" (.type .disconnected),
  cls "DisconnectedType" "" fun _ => return .type .disconnected,
  fn "disconnected_type.may_share_memory" "b" fun _ => return false,
  fn "_is_zero" "x" fun
    | [.var v] => do return (<- isZero v).text
    | [x] => do
      let some a <- operandArray? x | return .ofTest false
      return .ofTest (a.data.all (· == .int 0))
    | _ => badType,
  fn1 "_float_zeros_like" "x" floatZeros,
  fn1 "_float_ones_like" "x" floatOnes,
  marked "consider_constant" .considerConstant,
  fn3 "grad_clip" "x, lower_bound, upper_bound" fun x a b => do
    check ((<- compareValues 40 b a) != .lt)
    applyTo (.gradClip a.toLit b.toLit) [x],
  fn2 "grad_scale" "x, multiplier" fun x k => applyTo (.gradScale k.toLit) [x],
  marked "zero_grad" .zeroGrad,
  marked "undefined_grad" .undefinedGrad,
  marked "disconnected_grad" .disconnectedGrad,
  fn "mode_not_slow" "mode" fun
    | [.str "FAST_COMPILE"] => findMode "FAST_RUN"
    | [m] => do
      let m <- findMode m
      if (<- recordClass? m) == some "DebugMode" then if let .record r := m then return <- newMode "Mode" .null (<- modePass r)
      pure m
    | _ => badType ]
  ++ [
  cls1 "graph.null_type.NullType" "why_null='(no explanation given)'" fun s => do return .type (.null (<- textOf s)),
  fn1 "graph.op.get_test_value" "v" fun v => do testValue (<- asVariable v),
  fn1 "graph.op.get_test_values" "*args" fun (vs : Values) => do
    let some xs <- testValues (<- vs.mapM asVariable) | newList []
    newList [if let [x] := xs then x else .tuple xs],
  fn1 "graph.op.missing_test_message" "msg" fun s => do
    if (<- settingText "compute_test_value") == "raise" then fail .testValue (<- textOf s),
  fn "grad" ("cost, wrt, consider_constant=None, disconnected_inputs='raise', add_names=True, known_grads=None, "
    ++ "return_disconnected='zero', null_gradients='raise'") fun
    | [c, w, k, d, n, g, r, z] => gradValue c w k d n g r z
    | _ => badType,
  fn5 "Lop" "f, wrt, eval_points, consider_constant=None, disconnected_inputs='raise'" lopValue,
  fn5 "Rop" "f, wrt, eval_points, disconnected_outputs='raise', return_disconnected='zero'" fun f w e d r => do
    let (_, ws) <- unpack w
    let (_, es) <- unpack e
    let (p, fs) <- unpack f
    check (ws.length == es.length)
    let ws <- ws.mapM asVariable
    repack p (<- along (<- fs.mapM varArg) ws es d r) ]

def stepOf (args : Values) : M Value := callValue f args []

def loopRequest : M LoopRequest := do
  let [f, seqs, states, others, steps, truncate, back, mode, name, profile, gc, strict, asList] := vs | badType
  return { fn := stepOf f, sequences := seqs, states, others, steps, truncate,
           backwards := <- truthOf back, mode, name := name.str?, profile, allowGc := gc, strict := <- truthOf strict,
           returnList := asList }

def loopResults (r : LoopRequest) : M Value := do
  let (outs, updates) <- buildLoop r
  return .tuple [outs, updates]

def replacePairs (v : Value) : M (List (VarId × Value)) := do
  if (<- mapping? v).isNone && !(v matches .list _ | .tuple _ | .null) then
    failValue s!"replace is neither a dictionary, list, tuple or None ! The value provided is {<- textOf v},of type {<- classTextOf v}"
  (<- pairsOf v).mapM fun (x, y) => do pure (<- varArg x, y)

def cloneEntry : M Value := do
  let [out, replace, strict, share] := vs | badType
  let pairs <- replacePairs replace
  let go outs := do substituteValues outs pairs (<- truthOf strict) (<- truthOf share)
  match out with
  | .list _ | .tuple _ => newList (<- go (<- itemsOf out))
  | .null => newList []
  | o => return (<- go [o]).headD .null

def combinedHash : Nat -> Value -> M Int
  | 0, _ => outOfFuel
  | fuel + 1, v => do
    let join xs := do return (<- xs.mapM (combinedHash fuel)).foldl xorInt 0
    match v with
    | .dict c => join ((<- cellPairs c).flatMap fun (k, x) => [k, x])
    | .list _ | .tuple _ => do join (<- itemsOf v)
    | .set _ | .orderedSet _ | .array _ => badType
    | v =>
      match v.int? with
      | some i => return if i == -1 then -2 else i
      | none =>
        let text <- textOf v
        return (text.foldl (fun h c => (h ^^^ UInt64.ofNat c.toNat) * 1099511628211) 14695981039346656037).toInt64.toInt
where
  xorInt (a b : Int) : Int := (Int64.ofInt a ^^^ Int64.ofInt b).toInt

variable (r : RecordId) (name : String) (v : VarId)

def validatorOf : M Validator := do
  let vars name := do return (<- iterate (<- field r name)).filterMap Value.var?
  let pairs <- if let .dict c := <- field r "valid_equivalent" then cellPairs c else pure []
  return Validator.start (<- vars "valid") (<- vars "invalid")
    (pairs.filterMap fun (a, b) => do return (<- a.var?, <- b.var?))

def storeValidator (x : Validator) : M Unit := do
  setField r "valid" (<- newSet (valuesOf x.valid.toList))
  setField r "invalid" (<- newSet (valuesOf x.invalid.toList))
  setField r "valid_equivalent" (<- newDict (x.equivalents.toList.map fun (a, b) => (a, b)))

/-! ## Replacing variables, also in the steps of loops -/

def notesIn : M Values := do itemsOf (<- field r name)

def noteIn (v : Value) : M Unit := do setField r name (.tuple (v :: (<- notesIn r name)))

def pairsIn : M VarPairs := do
  return (<- notesIn r name).filterMap fun
    | .tuple [.var a, .var b] => some (a, b)
    | _ => none

def mappedVar : M VarId := do
  if (<- notesIn r "seen").any (·.isKey v) then return v
  let .var w <- callValue (<- field r "replacer") [v] [] | noAttr
  noteIn r "seen" w
  pure w

def mapVariables (outs more : Vars) : M Vars := do
  let .record r <- newRecord "VariableMap" [("replacer", f), ("seen", .tuple []), ("nodes", .tuple [])] | noAttr
  let free outs := return ((<- getArena).graphInputs outs ++ more).eraseDups
  let swaps <- (<- free outs).mapM fun v => do return (v, <- mappedVar r v)
  let outs <- substitute outs (swaps.filter fun (v, w) => v != w)
  let g <- makeGraph (<- free outs) outs false
  let rule <- newPass { body := .localFn (.method r "transform") none false }
  let _ <- optimize (<- newPass { body := .topo rule "out_to_in" false .raise }) g
  let outs := (<- graph g).outputs
  disownGraph g
  pure outs

def mapNode (g : GraphId) (n : NodeId) : M Value := do
  if (<- notesIn r "nodes").any (·.isKey n) then return false
  let remade ins outs make := do
    let outer <- insOf n
    let .record i <- newRecord "InnerMap" [("map", .record r), ("extra", .tuple []), ("op", <- opOf n),
      ("pairs", .tuple ((outer.zip ins).map fun (a, b) => .tuple [a, b]))] | noAttr
    let outs <- mapVariables (.method i "__call__") outs []
    let extra := (<- pairsIn i "extra").reverse
    let m <- applyNode (<- make (ins ++ extra.map (·.2)) outs) (valuesOf (outer ++ extra.map (·.1)))
    noteIn r "nodes" m
    listOf (<- outsOf m)
  match <- opOf n with
  | .scan id _ =>
    let l <- loopAt id
    remade l.inputs l.outputs fun inputs outputs => newLoop { l with inputs, outputs, compiled := none }
  | .fromGraph id =>
    let x <- graphOp id
    remade x.given.1 x.given.2 fun ins outs => do return .fromGraph (<- newGraphOp ins outs { settings := x.settings })
  | _ =>
    noteIn r "nodes" n
    let outs <- (<- outsOf n).mapM (mappedVar r)
    for v in (<- getArena).graphInputs outs do addInput g v
    listOf outs

def mapInner : M Value := do
  let .record map <- field r "map" | noAttr
  let w <- mappedVar map v
  let (constants, others) <- ((<- getArena).graphInputs [w]).partitionM fun v => isConstant v
  let known <- pairsIn r "pairs"
  let foreign := others.filter fun v => !known.any (·.2 == v)
  if constants.isEmpty && foreign.isEmpty then return w
  let copies <- constants.mapM fun c => do
    let d <- cloneVar c
    setName d (some ((<- nameOf c).getD "None" ++ "_copied"))
    return (c, d)
  for v in foreign do
    if !known.any (·.1 == v) then
      let pair := .tuple [v, <- freshLike v "_copy"]
      noteIn r "pairs" pair
      noteIn r "extra" pair
  substitute1 w (copies ++ (<- pairsIn r "pairs"))

def loopParams : String :=
  "fn, sequences=None, outputs_info=None, non_sequences=None, n_steps=None, truncate_gradient=-1, go_backwards=False, "
    ++ "mode=None, name=None, profile=False, allow_gc=None, strict=False, return_list=False"

def loopEntries : Table ApiEntry := under "scan.utils" [
  clone,
  fn3 "safe_new" "x, tag='', dtype=None" fun x tag d =>
    result do freshLike (<- asVariable x) tag d,
  cls1 "until" "condition" newUntil,
  fn5 "traverse" "out, x, x_copy, d, visited=None" fun out x _ d _ => do
    check (!((<- getArena).ancestors [out]).contains x)
    return d,
  fn1 "hash_listsDictsTuples" "x" fun x => do return (<- combinedHash 50 x),
  fn1 "get_updates_and_outputs" "ls" fun x => do
    let r <- sortStepResult x
    let c := if let some c := r.condition then c else .null
    return .tuple [c, <- listOf r.outputs, <- newDict r.updates],
  fn "isNaN_or_Inf_or_None" "x" fun
    | [.null] => pure true
    | [x] => do
      if !(<- givesNoNumber x) then return false
      if let .var v := x then if (<- constant? v) matches some (.str _) then return true
      return .ofTest true
    | _ => badType,
  fn2 "expand_empty" "tensor_var, size" fun x size => do
    if size.int? == some 0 then return .var x
    result (expandEmpty x size),
  cls3 "Validator" "valid=None, invalid=None, valid_equivalent=None" fun a b e => do
    let members v := if v.isNull then pure [] else iterate v
    let pairs := (<- mapping? e).getD []
    newRecord "Validator" [("valid", <- newSet ((<- members a) ++ pairs.map (·.2))),
      ("invalid", <- newSet ((<- members b) ++ pairs.map (·.1))), ("valid_equivalent", <- newDict pairs)],
  fn3 "reconstruct_graph" "inputs, outputs, tag=None" fun ins outs tag => do
    let (a, b) <- reconstruct ins outs (tag.str?.getD "")
    return .tuple [<- listOf a, <- listOf b],
  fn3 "map_variables" "replacer, graphs, additional_inputs=None" fun f (outs : Vars) (more : Option Vars) => do
    listOf (<- mapVariables f outs (more.getD [])),
  fn "forced_replace" "out, x, y" fun
    | [.null, _, _] => pure .null
    | [.var out, .var x, .var y] => result (forcedReplace out x y)
    | _ => badType ]
  ++ [
  fn "scan" loopParams fun vs => do loopResults (<- loopRequest vs),
  fn "map" "fn, sequences, non_sequences=None, truncate_gradient=-1, go_backwards=False, mode=None, name=None"
    <| of7 fun f seqs others truncate back mode name => do
    loopResults { fn := stepOf f, sequences := seqs, states := <- newList [], others, truncate,
                  backwards := <- truthOf back, mode, name := name.str? },
  fn "reduce" "fn, sequences, outputs_info, non_sequences=None, go_backwards=False, mode=None, name=None"
    <| of7 reduced,
  fold "foldl" false,
  fold "foldr" true,
  clone,
  fn "scan.checkpoints.scan_checkpoints"
    ("fn, sequences=None, outputs_info=None, non_sequences=None, name='checkpointscan_fn', n_steps=None, save_every_N=10, "
      ++ "padding=True") fun
    | [f, seqs, states, others, name, steps, every, padding] => do
      checkpointLoop (stepOf f) seqs states others (<- strArg name) steps every (<- truthOf padding)
    | _ => badType,
  fn4 "ifelse.ifelse" "condition, then_branch, else_branch, name=None" fun c t f name => do
    let (p, ts) <- unpack t
    let (_, fs) <- unpack f
    repack p (valuesOf (<- Choice.ofBranches c ts fs name.str?)),
  cls "ifelse.IfElse" "n_outs, as_view=False, gpu=False, name=None" <| of4 fun (n : Int) v d name => do
    return Op.ifElse n.toNat v d name.str?,
  fn4 "jacobian" "expression, wrt, consider_constant=None, disconnected_inputs='raise'" fun e wrt constants off => do
    let .var e := e | unmet
    check ((<- ndimOf e) < 2)
    let (p, xs) <- unpack wrt
    let xs <- xs.mapM varArg
    let constants <- constantsArg constants
    if (<- ndimOf e) == 0 then repack p (<- xs.mapM fun x => result (Gradient.ofCost e x constants off))
    else
      let outs <- rowDerivatives e xs constants off
      repack p ((<- members? outs).getD [outs]),
  fn4 "hessian" "cost, wrt, consider_constant=None, disconnected_inputs='raise'" fun c wrt constants off => do
    let .var c := c | unmet
    check ((<- ndimOf c) == 0)
    let (p, xs) <- unpack wrt
    let constants <- constantsArg constants
    let rows <- xs.mapM fun x => do
      let .var x := x | unmet
      check ((<- ndimOf x) == 1)
      rowDerivatives (<- Gradient.ofCost c x constants off) [x] constants "ignore"
    repack p rows ]
where
  clone : ApiRow := fn "clone" "output, replace=None, strict=True, share_inputs=True" cloneEntry
  fold (name : String) (back : Bool) : ApiRow :=
    fn name "fn, sequences, outputs_info, non_sequences=None, mode=None, name=None" <| of6 fun f seqs states others =>
      reduced f seqs states others back
  reduced (f seqs states others : Value) (backwards : Bool) (mode name : Value) : M Value :=
    lastValues { fn := stepOf f, sequences := seqs, states, others, backwards, mode, name := name.str? }

/-! ## Parts of loops -/

instance : Arg Loop := ⟨fun v => if let .op (.scan id _) := v then loopAt id else noAttr⟩

/-- A part of the operands or results of a loop, which may be those of a node if they are outer ones. -/
def loopPart : String × (LoopLayout -> Values -> Values) -> MethodRow := fun (name, part) =>
  let outs := name.endsWith "_outs"
  meth2 ("Scan." ++ name) (if outs then "list_outputs" else "list_inputs") fun (l : Loop) v => do
    let part := part l.layout
    match v with
    | .list c => newList (part (<- cellItems c))
    | .tuple vs => return .tuple (part vs)
    | .node n =>
      if name.startsWith "inner" then badType
      -- the results are asked for by a wrong name
      if name == "outer_mitmot_outs" then noAttr
      newList (part (valuesOf (<- if outs then outsOf n else insOf n)))
    | _ => badType

def loopTables (l : Loop) : M Value := do
  let sides := [("outer_inp", LoopLayout.Side.outerIn), ("inner_inp", .innerIn), ("inner_out", .innerOut), ("outer_out", .outerOut)]
  let ps := l.layout.places l.inputs.length
  let tables <- (sides.rotateRight 1).mapM fun (x, s) => (sides.filter (·.1 != x)).mapM fun (y, t) => do
    let rows <- (LoopLayout.table ps s t).mapM fun (i, js) => do
      return (.int i, <- if y.startsWith "outer" then pure (.int (js.head?.elim (-1) Int.ofNat)) else listOf js)
    return (.str s!"{y}_from_{x}", <- newDict rows)
  newDict tables.flatten

open LoopLayout in
def loopParts : Table (LoopLayout -> Values -> Values) :=
  [ ("inner_seqs", innerSeqs), ("outer_seqs", outerSeqs), ("inner_mitmot", innerMitMot), ("outer_mitmot", outerMitMot),
    ("inner_mitmot_outs", innerMitMotOuts), ("outer_mitmot_outs", outerMitMotOuts), ("inner_mitsot", innerMitSot),
    ("outer_mitsot", outerMitSot), ("inner_mitsot_outs", innerMitSotOuts), ("outer_mitsot_outs", outerMitSotOuts),
    ("inner_sitsot", innerSitSot), ("outer_sitsot", outerSitSot), ("inner_sitsot_outs", innerSitSotOuts),
    ("outer_sitsot_outs", outerSitSotOuts), ("outer_nitsot", outerNitSot), ("inner_nitsot_outs", innerNitSotOuts),
    ("outer_nitsot_outs", outerNitSotOuts), ("inner_shared", innerShared), ("outer_shared", outerShared),
    ("inner_shared_outs", innerSharedOuts), ("outer_shared_outs", outerSharedOuts), ("inner_non_seqs", innerOthers),
    ("outer_non_seqs", outerOthers) ]

def loopMethods : Table Callable := loopParts.map loopPart ++ [
  meth1 "Scan.mitmot_taps" "" fun (l : Loop) => return l.layout.mitMotTaps,
  meth1 "Scan.mitmot_out_taps" "" fun (l : Loop) => return l.layout.mitMotOutTaps,
  meth1 "Scan.mitsot_taps" "" fun (l : Loop) => return l.layout.mitSotTaps,
  meth1 "Scan.get_oinp_iinp_iout_oout_mappings" "" loopTables,
  meth3 "VariableMap.transform" "fgraph, node" mapNode,
  meth2 "InnerMap.__call__" "graph" mapInner,
  meth2 "Validator.check" "out" fun r v => do
    let (found, x) <- (<- validatorOf r).check v
    storeValidator r x
    let some (w, same) := found | pure .null
    return .tuple [w, same] ]

end TensorGraph
