import TensorGraph.CText.Scalar
import TensorGraph.Catalog.Tensor
import TensorGraph.Rewrite.Rules.Reduce

/-! # Scalars by name -/

namespace TensorGraph

def scalarTypeNames : List DType :=
  [.bool, .int8, .int16, .int32, .int64, .uint8, .uint16, .uint32, .uint64, .float16, .float32, .float64,
    .complex64, .complex128]

def namedRules : Table OutRule :=
  [("upcast_out", .upcast), ("upcast_out_nobool", .upcastNoBool), ("upcast_out_min8", .upcastMin8),
    ("upcast_out_no_complex", .upcastNoComplex), ("upgrade_to_float", .upgradeToFloat),
    ("upgrade_to_float64", .upgradeToFloat64), ("upgrade_to_float_no_complex", .upgradeToFloatNoComplex),
    ("same_out", .same), ("same_out_nobool", .sameNoBool), ("same_out_min8", .sameMin8),
    ("same_out_float_only", .sameFloatOnly), ("same_out_nocomplex", .sameNoComplex), ("int_out", .int64),
    ("float_out", .float64), ("int_out_nocomplex", .int64NoComplex), ("float_out_nocomplex", .float64NoComplex),
    ("real_out", .realPart)]

variable (v spec : Value)

def scalarTypeArg : M DType :=
  if let .type t := v then if let some d := t.dtype? then pure d else noAttr else noAttr

def scalarTypeNamed : M Value := do
  let name <- typeName (<- textOf v)
  let some d := DType.ofName? name | failType s!"Unsupported dtype for Scalar: {name}"
  return .type (.scalar d)

def scalarTypes (ds : List DType) : Value := .tuple (ds.map fun d => .type (.scalar d))

def transferEntries : M (List TransferEntry) := do
  (<- iterate spec).mapM fun
    | .int i => pure (.input i)
    | .null => pure .common
    | .str s => pure (.text s)
    | _ => badType

def lookupTable : M (List (List DType × List DType)) := do
  let .dict c := spec | noAttr
  (<- cellPairs c).mapM fun (k, v) => do
    return (<- (if let .tuple ks := k then ks else [k]).mapM scalarTypeArg, [<- scalarTypeArg v])

def ruleArg (className : String) (v : Value) : M (Option OutRule) := do
  let refuse := do
    failType s!"Expected a callable for the 'output_types_preference' argument to <class '{className}'>. (got: {<- textOf v})"
  match v with
  | .null => pure none
  | .api p =>
    if let some r := namedRules.lookup ((p.splitOn ".").getLastD p) then return some r
    return some (.caller (<- register v))
  | .record r =>
    match (<- record r).cls with
    | "transfer_type" => return some (.transfer (<- transferEntries (<- field r "transfer")))
    | "specific_out" => return some (.specific (<- (<- iterate (<- field r "spec")).mapM scalarTypeArg))
    | "unary_out_lookup" => return some (.lookup (<- lookupTable (<- field r "tbl")))
    | _ => refuse
  | .lambda .. => return some (.caller (<- register v))
  | _ => refuse
where
  register (v : Value) : M Nat := do
    let s <- get
    set { s with functionOps := s.functionOps.push ⟨v, [], [], .null, "", []⟩ }
    pure s.functionOps.size

def scalarClasses : Table ScalarKind :=
  ([.lt, .gt, .le, .ge, .eq, .neq, .isnan, .isinf, .switch, .or, .xor, .and, .invert, .maximum, .minimum, .add, .mul,
    .sub, .trueDiv, .intDiv, .mod, .pow, .clip, .second, .identity, .abs, .sgn, .ceil, .floor, .trunc, .roundHalfEven,
    .roundHalfAway, .neg, .inv, .log, .log2, .log10, .log1p, .exp, .exp2, .expm1, .sqr, .sqrt, .deg2rad, .rad2deg,
    .cos, .arccos, .sin, .arcsin, .tan, .arctan, .arctan2, .cosh, .arccosh, .sinh, .arcsinh, .tanh, .arctanh, .real,
    .imag, .angle, .complex, .conj, .complexFromPolar, .erf, .erfc, .erfcx, .erfinv, .erfcinv, .gamma, .gammaln, .psi,
    .trigamma, .chi2sf, .gammainc, .gammaincc, .gammau, .gammal, .jv, .j1, .j0, .iv, .i1, .i0] : List ScalarKind).map
    fun k => (k.className, k)

def scalarOnlyOps : Table ScalarOp :=
  ([("scalar_maximum", .maximum), ("scalar_minimum", .minimum), ("floor_div", .intDiv), ("inopenrange", .inOpenRange),
    ("inclosedrange", .inClosedRange), ("identity", .identity), ("second", .second)] : Table ScalarOp)
  ++ scalarTypeNames.map fun d => ("convert_to_" ++ d.name, .cast d)

def scalarCastTo : Value -> Value -> M VarId := castNamed asScalar .scalar

def autocast (isInt : Bool) (x : Value) : M Value := do
  let pick i f := do
    if isInt then return (<- autocastInt i) else autocastFloat f
  match x with
  | .int i => pick i (.ofInt i)
  | .bool b => pick b.toInt (.ofInt b.toInt)
  | .float f =>
    if !isInt then return (<- autocastFloat f)
    if f.abs >= 9223372036854775808.0 then raise .overflow
    let d := ([.int8, .int16, .int32].find? fun d => (d.fit (.flt f)).toFloat == f).getD .int64
    return .array (.ofElem d (d.fit (.flt f)))
  | .array a => if a.ndim == 0 then pick a.item.toInt a.item.toFloat else unmet
  | .number _ e => pick e.toInt e.toFloat
  | _ => unmet

def scalarEntries : Table ApiEntry :=
  scalarTypeNames.map (fun d => val s!"scalar.{d.name}" (.type (.scalar d)))
  ++ [ val "scalar.int_types" (scalarTypes [.int8, .int16, .int32, .int64]),
    fn1 "scalar.get_scalar_type" "dtype" scalarTypeNamed,
    cls1 "scalar.Scalar" "dtype" scalarTypeNamed,
    fn2 "scalar.upcast" "dtype, *dtypes" fun d ds => do
      return (<- commonType (<- (d :: ds).mapM fun v => do
        if v matches .str _ | .dtype _ then if let some d <- dtypeArg v then return d
        badType)).name,
    fn2 "scalar.as_scalar" "x, name=None" fun x _ => asScalar x,
    fn3 "scalar.constant" "x, name=None, dtype=None" (scalarConstant · · ·),
    fn2 "scalar.convert" "x, dtype=None" fun x d => do if let .inl a <- convert x d then return .array a else return x,
    fn1 "scalar.autocast_int" "x" (autocast true),
    fn1 "scalar.autocast_float" "x" (autocast false),
    fn1 "scalar.as_common_dtype" "*vars" fun (xs : Values) => do
      let d <- commonType (<- xs.mapM fun x => do dtypeOf (<- varArg x))
      newList (<- xs.mapM fun x => result (scalarCastTo x d.name)),
    fn2 "scalar.cast" "x, dtype" scalarCastTo,
    fn2 "scalar.mod_check" "x, y" fun x y => do
      if (<- dtypeOf (<- asScalar x)).isComplex || (<- dtypeOf (<- asScalar y)).isComplex then
        fail .complex complexModulo
      callOp (.scalar .mod) [x, y],
    cls2 "scalar.Composite" "inputs, outputs" fun i o => do return Op.scalar (<- makeComposite i o),
    cls2 "scalar.InRange" "openlow, openhi" fun a b => return Op.scalar { kind := .inRange a b },
    cls "scalar.Cast" "o_type, name=None" fun
      | [.type (.scalar d), n] => do return Op.scalar ⟨.cast d, some (.specific [d]), (<- arg n)⟩
      | [t, _] => do failType (<- textOf t)
      | _ => badType,
    cls1 "scalar.transfer_type" "*transfer" fun (xs : Values) => do
      if !xs.all (· matches .int _ | .null | .str _) then unmet
      newRecord "transfer_type" [("transfer", .tuple xs), ("text", s!"transfer_type{<- textOf (.tuple xs)}")],
    cls1 "scalar.specific_out" "*spec" fun xs => newRecord "specific_out" [("spec", .tuple xs)],
    cls1 "scalar.unary_out_lookup" "type_table" fun t => newRecord "unary_out_lookup" [("tbl", t)] ]
  ++ namedRules.map (fun (n, r) => fn1 s!"scalar.{n}" "*types" fun (ts : Values) => do
      return scalarTypes (<- r.apply (<- ts.mapM scalarTypeArg)))
  ++ scalarClasses.map (fun (n, k) => cls2 s!"scalar.{n}" "output_types_preference=None, name=None" fun p nm => do
      return Value.op (.scalar ⟨k, <- ruleArg s!"theano.{k.modulePath}.{n}" p, <- arg nm⟩))
  ++ (tensorOps ++ scalarOnlyOps).map (fun (n, s) => opEntry s!"scalar.{n}" (.scalar s))
  ++ [("ints", .int64), ("floats", .float64), ("complexs", .complex128), ("complexs64", .complex64),
      ("complexs128", .complex128)].map fun (n, d) =>
        fn1 s!"scalar.{n}" "*names" (makeSeveral fun x => do return (<- makeVariable (.scalar d) x))

def recordCall (name : String) (run : RecordId -> Values -> M Value) : MethodRow :=
  meth2 s!"{name}.__call__" "*types" run

def scalarMethods : Table Callable := [
  recordCall "transfer_type" fun r ts => do
    newList (<- (<- iterate (<- field r "transfer")).mapM fun
      | .null => do return scalarTypes (<- OutRule.upcast.apply (<- ts.mapM scalarTypeArg))
      | .int i => elementAt ts i
      | .str s => return s
      | _ => badType),
  recordCall "specific_out" fun r _ => field r "spec",
  recordCall "unary_out_lookup" fun r ts => do
    let key := if let [t] := ts then t else .tuple ts
    let .dict c <- field r "tbl" | badType
    match lookupKey key (<- cellPairs c) with
    | some (.tuple xs) => newList xs
    | some v => newList [v]
    | none => failType (<- textOf key),
  meth "Scalar.dtype_specs" "" fun
    | [.type (.scalar d)] => return .tuple [.cls d.className, (CText.cName d), (CText.pyName d)]
    | _ => badType,
  meth "TensorType.dtype_specs" "" fun
    | [.type (.tensor d ..)] =>
      let kind := if d == .bool then "bool" else if d.isInteger then "int" else if d.isComplex then "complex" else "float"
      return .tuple [.cls kind, (CText.cName d), s!"NPY_{d.name.toUpper}"]
    | _ => badType,
  meth "Scalar.upcast" "*others" fun
    | [.type (.scalar d), .tuple ts] => do return scalarTypes (<- OutRule.upcast.apply (d :: (<- ts.mapM scalarTypeArg)))
    | _ => badType,
  meth4 "Scalar.values_eq_approx" "a, b, tolerance=1e-4" fun _ a b t => do
    let x <- floatValue a
    let y <- floatValue b
    return x == y || (x - y).abs <= (<- floatValue t) * (x.abs + y.abs),
  meth "Scalar.may_share_memory" "a, b" fun _ => return false,
  meth2 "scalar.zeros_like" "dtype=None" (ScalarExpr.zerosLike · ·),
  meth2 "scalar.ones_like" "dtype=None" (ScalarExpr.onesLike · ·),
  meth2 "scalar.astype" "dtype" scalarCastTo,
  meth1 "scalarOp.c_code_cache_version" "" fun (s : ScalarOp) => do return .tuple (<- CText.scalarVersion 100 s.kind),
  meth "scalarOp.c_support_code_apply" "node, name" fun _ => return "",
  meth "scalarOp.c_code" "node, name, inputs, outputs, sub" <| of6 fun s (n : Option NodeId) node xs zs sub => do
    let types f := n.elim (pure []) fun n => do (<- f n).mapM dtypeOf
    let fail <- textOf (((<- mapping? sub).bind (lookupKey "fail")).getD "")
    CText.scalarCode 100 s { ins := <- types insOf, outs := <- types outsOf, xs, zs, fail, node },
  meth3 "scalarOp.supports_c_code" "inputs, outputs" fun (s : ScalarOp) (ins : Vars) (_ : Value) => do
    let ds <- ins.mapM dtypeOf
    CText.hasCode s ds (<- s.outputTypes ds),
  meth "scalarOp.c_code_contiguous" "node, name, inputs, outputs, sub" fun _ => fail .methodNotDefined "",
  meth "scalarOp.c_code_contiguous_raw" "dtype, n, i, o" fun _ => fail .methodNotDefined "",
  meth2 "InRange.get_grad" "elem" fun _ v => ScalarExpr.rangeGrad v,
  meth2 "scalarOp.output_types" "types" fun (s : ScalarOp) ts => do
    let ds <- s.outputTypes (<- (<- iterate ts).mapM scalarTypeArg)
    if s.kind matches .composite _ then return scalarTypes ds else newList (ds.map fun d => .type (.scalar d)),
  meth2 "scalarOp.impl" "*inputs" fun (s : ScalarOp) xs => do
    if s.kind matches .composite _ then noAttr
    match <- s.impl xs with
    | [v] => pure v
    | vs => newList vs ]

/-! ## Methods of operators -/

variable (o : Op)

def gradientsAreTuple (outs : Vars) : M Bool := do
  let continuous := do
    let v :: _ := outs | return true
    let some d := (<- typeOf v).dtype? | return true
    return !d.isDiscrete
  match o with
  | .scalar s =>
    match s.kind with
    | .switch | .second | .identity => pure true
    | .lt | .gt | .le | .ge | .eq | .neq | .isnan | .isinf | .inRange .. | .invert | .or | .xor | .and | .add | .mul
    | .intDiv | .mod | .clip | .cast _ | .sgn | .ceil | .floor | .trunc | .roundHalfEven | .roundHalfAway
    | .log1p | .arctan2 | .real | .imag | .angle | .complex | .complexFromPolar | .gammaln | .psi | .jv | .j1 | .j0
    | .iv | .i1 | .i0 => pure false
    | _ => continuous
  | .rebroadcast _ | .blas .batchedDot => pure true
  | .sparse s =>
    return (s matches .sparseFromDense _ | .transpose | .neg | .addSS | .addSD | .structuredAddSV | .mulSS | .mulSD | .mulSV)
  | .net n => return (n matches .softmaxWithBias | .softmaxGrad | .prependScalar | .abstractConv ..)
  | _ => pure false

def needsOutputs : Bool :=
  match o with
  | .scalar s => !(s.kind matches .or | .xor | .and | .invert | .mul | .trueDiv | .intDiv | .second | .identity | .cast _
      | .sgn | .ceil | .floor | .trunc | .roundHalfEven | .roundHalfAway | .real | .imag | .angle | .complex
      | .complexFromPolar | .composite _ | .trigamma | .jv | .j1 | .j0 | .iv | .i1 | .i0 | .sigmoid | .softplus
      | .softsign | .xlogx | .xlogy0)
  | .elemwise .. | .arange _ | .scan .. | .fromGraph _ => true
  | .reduce r => r.cls == .sum || r.cls == .prod
  | .linalg (.cholesky ..) | .linalg (.solve ..) | .linalg .matrixPinv => true
  | .net (.pool ..) | .net (.ctc _) | .net .softmaxWithBias | .net .softmax => true
  | _ => false

def countsConnections : Op -> Bool
  | .assert _ | .net (.pool ..) | .net (.abstractConv ..) => true
  | _ => false

def listsShapes : Op -> Bool
  | .net (.abstractConv .forward _) => false
  | .net (.abstractConv ..) | .fromGraph _ => true
  | _ => false

def gradientsValue (outs gs : Vars) : M Value := do
  let paired <- if let .maxAndArgmax _ := o then pure (gs.length == 1) else gradientsAreTuple o outs
  if paired then return .tuple (valuesOf gs)
  listOf gs

def storeResults (storage : Value) (results : Values) : M Unit := do
  for (c, r) in (<- iterate storage).zip results do setItem c 0 r

def opMethods : Table Callable := [
  meth3 "op.make_node" "*args, **kw" fun o args kw => do return (<- M.ask fun k => k.makeNode o args kw.pairs),
  meth4 "op.L_op" "inputs, outputs, output_gradients" fun o i u g => do
    let outs <- varsArg u
    gradientsValue o outs (<- opPullback o i outs g),
  meth "Elemwise.get_output_info" "dim_shuffle, *inputs" fun
    | [.op (.elemwise s inplace _), _, .tuple vs] => do
      let (ds, bs, vs) <- elemwiseInfo s inplace (<- vs.mapM varArg)
      let rows <- bs.mapM fun b => newList (b.map .bool)
      return .tuple [<- newList (ds.map (·.name)), <- newList rows, <- listOf vs]
    | _ => badType,
  meth "Subtensor.get_constant_idx" "inputs, allow_partial=False, only_process_constants=False, elemwise=True" fun
    | [.op (.subtensor entries), ins, partly, direct, through] => do
      let one (v : Value) := do
        if v.isNull then return v
        try callValue (.api "tensor.get_scalar_constant_value") [v] [("elemwise", through), ("only_process_constants", direct)]
        catch e => if (<- truthOf partly) && e.isA .notScalarConstant then return v else throw e
      newList (<- (<- iterate (indexItems (<- varsArg ins) entries)).mapM fun
        | .slice a b c => do return .slice (<- one a) (<- one b) (<- one c)
        | v => one v)
    | _ => badType,
  meth3 "op.R_op" "inputs, eval_points" fun o (i : Values) points => do
    newList ((<- M.ask fun k => k.pushforward o (i.map (·.var?.getD default)) points).map (.ofOption .var)),
  meth3 "op.grad" "inputs, output_gradients" fun o i g => do
    if needsOutputs o then if o matches .scalar _ then noGradient o else cannot
    match o, <- varsArg g with
    | .net (.prependScalarConstant _), [g] => return .var (<- Net.tailColumns g)
    | _, gs => gradientsValue o [] (<- opPullback o (<- varsArg i) [] gs),
  meth "op.perform" "node, inputs, output_storage, params=None" <| of5 fun o n i s _ => do
    storeResults s (<- runNode (<- nodeFor o n) i),
  meth4 "op.infer_shape" "fgraph, node, shapes" fun o g n shapes => do
    if n.isNull && (o matches .maxAndArgmax _ | .sparse .constructFromList) then noAttr
    let n <- nodeFor o n
    let rs <- M.ask fun k => k.inferShape g n shapes
    newList (<- rs.mapM fun r => r.elim (pure .null) (if listsShapes o then (newList ·) else pure ∘ .tuple)),
  meth "op.do_constant_folding" "fgraph, node" fun
    | [.op _, .graph g, .node n] => Rules.foldable g n
    | [.op o, _, n] => return (<- Rules.foldable Rules.noGraph (<- nodeFor o n))
    | _ => badType,
  meth2 "op.connection_pattern" "node" fun (_ : Op) n => do
    let some rows <- opConnections? n | noAttr
    let counts := countsConnections (<- opOf n)
    newList (<- rows.mapM fun row => newList (row.map fun (b : Bool) => if counts then b.toInt else b)) ]
where
  /- a node for an operator: the one given, or one without inputs -/
  nodeFor (o : Op) (v : Value) : M NodeId := do
    match v with
    | .node n =>
      if (<- opOf n) == o then return n
      newNode o (<- insOf n) (<- (<- outsOf n).mapM typeOf)
    | .null => newNode o [] []
    | _ => noAttr
  runNode (n : NodeId) (args : Values) : M Values := M.ask fun k => k.perform n args

end TensorGraph
