import TensorGraph.Catalog.Tensor

/-! # Attributes and methods of variables -/

namespace TensorGraph

open Tensor

def tensorMethod (name params : String) : MethodRow :=
  let formals := parseFormals params
  ("tensor." ++ name, ⟨params, fun
    | self :: rest => callValue (.api s!"tensor.{name}") [self] ((formals.map (·.name)).zip rest)
    | [] => badType⟩)

def normOf (self l axis keep : Value) : M Value := do
  let x <- varArg self
  if let .bool true <- operate .eq l 0 then cannot
  if (<- floatValue l).isInf then cannot
  let axes <- reductionAxes axis
  let y <- pow (<- sum (<- pow (<- abs x) l) axes) (<- operate .trueDiv (.float 1.0) l)
  if <- truthOf keep then result (keepDims x y axes) else pure y

def tensorMethods : Table Callable :=
  (.flatMap (fun (names, params) => (names.splitOn " ").map (tensorMethod · params))
  [ ("arccos arccosh arcsin arcsinh arctan arctanh ceil cos cosh deg2rad exp exp2 expm1 floor log log10 log1p log2 rad2deg sin "
      ++ "sinh sqrt tan tanh trunc conj nonzero_values squeeze get_scalar_constant_value", ""),
    ("any all min max argmin argmax", "axis=None, keepdims=False"),
    ("sum prod mean", "axis=None, dtype=None, keepdims=False, acc_dtype=None"),
    ("var std", "axis=None, ddof=0, keepdims=False, corrected=False"), ("nonzero", "return_matrix=False"),
    ("repeat", "repeats, axis=None"), ("round", "mode=None"),
    ("flatten", "ndim=1"), ("diagonal", "offset=0, axis1=0, axis2=1"), ("transfer", "target"),
    ("zeros_like ones_like", "dtype=None"), ("cumsum cumprod ptp", "axis=None"),
    ("swapaxes", "axis1, axis2"), ("take", "indices, axis=None, mode='raise'") ]) ++
  [ ("ravel", "", "flatten"), ("astype", "dtype", "cast"), ("fill", "value", "fill"), ("trace", "", "nlinalg.trace"),
    ("clip", "a_min, a_max", "clip"), ("dot", "right", "dense_dot"), ("__dot__", "right", "dense_dot") ].map
    (fun (name, params, f) => meth s!"tensor.{name}" params fun vs => callValue (.api s!"tensor.{f}") vs []) ++
  [
    meth3 "tensor.compress" "a, axis=None" fun self a x =>
      callValue (.api "tensor.extra_ops.compress") [self, a] [("axis", x)],
    meth4 "tensor.norm" "L, axis=None, keepdims=False" normOf,
    meth2 "tensor.__rdot__" "left" fun self l => callValue (.api "tensor.dense_dot") [l, self] [],
    meth3 "tensor.reshape" "shape, ndim=None" fun self s n => do
      if n matches .null | .int _ | .bool _ then callValue (.api "tensor.reshape") [self, s, n] []
      else failValue s!"Expected ndim to be an integer, is {<- classTextOf n}",
    meth2 "tensor.dimshuffle" "*pattern" fun self ps => shuffleBy self (spread ps),
    meth2 "tensor.transpose" "*axes" fun self ps => transposeBy self (if ps matches [] then .null else spread ps),
    meth2 "tensor.copy" "name=None" fun self n => do
      let v <- applyTo (bareOp .identity) [self]
      setName v n
      return v,
    meth2 "tensor.__getitem__" "i" (getItem 40),
    meth2 "_nd_grid.__getitem__" "i" fun r i => do gridOf (<- truthOf (<- field r "sparse")) i,
    meth "tuple.as_op" "fn" fun
      | [.tuple [i, o, s], f] => callValue (.api "compile.FromFunctionOp") [f, i, o, s] []
      | _ => badType ]

where
  /- a sequence alone stands for its elements -/
  spread : Values -> Value
    | [.list c] => .list c
    | [.tuple xs] | xs => .tuple xs

def constantSignature (v : VarId) : M Value := do return .tuple [<- typeOf v, (<- constant? v).getD .null]

def constantEquals (a : VarId) (b : Value) : M Value := do
  let b <- if b matches .array _ | .int _ | .float _ | .bool _ && (<- typeOf a).isTensor then result (tensorConstant b) else pure b
  let .var w := b | pure false
  let some y <- constant? w | pure false
  if (<- varInfo a).isBare then
    if (<- typeOf a) != (<- typeOf w) then return false
    return (<- truthOf (<- operate .eq ((<- constant? a).getD .null) y))
  operate .eq (<- constantSignature a) (<- constantSignature w)

def variableMethods : Table Callable := [
  meth1 "var.clone" "" cloneVar,
  meth1 "var.get_parents" "" fun self => do newList ((<- ownerOf self).toList.map .node),
  meth1 "var.get_test_value" "" testValue,
  meth1 "SliceConstant.signature" "" fun self => do
    let some (.slice a b c) <- constant? self | noAttr
    return .tuple [.cls "SliceConstant", a, b, c],
  meth1 "constant.signature" "" constantSignature,
  meth2 "constant.equals" "other" constantEquals,
  meth2 "var.eval" "inputs_to_values=None" fun self d => do
    let pairs <- match d with
      | .null => pure []
      | .dict c => cellPairs c
      | _ => noAttr
    callValue (<- callValue (.api "function") [.tuple (pairs.map (·.1)), self] []) (pairs.map (·.2)) [],
  meth1 "node.clone" "" fun self => return (<- copyNode self (<- insOf self)),
  meth3 "node.clone_with_new_inputs" "inputs, strict=True" fun self i s => do
    check (i matches .list _ | .tuple _)
    return (<- cloneWithInputs self (<- varsArg i) s),
  meth1 "node.get_parents" "" insOf,
  meth1 "node.default_output" "" defaultOutputOf]

def variableAttributes : Table (Value -> M Value) := [
  attr_ "var.type" typeOf,
  attr_ "var.name" nameOf,
  attr_ "var.owner" ownerOf,
  attr_ "var.index" fun v => do
    let i <- varInfo v
    return if i.owner.isSome then .ofNat i.index else .null,
  attr_ "var.tag" fun v => return .tag (.var v),
  attr_ "constant.data" constant?,
  attr_ "constant.value" constant?,
  attr_ "tensor.dtype" dtypeAttr,
  attr_ "tensor.ndim" ndimOf,
  attr_ "tensor.broadcastable" fun v => do return .ofBools (<- bcastOf v),
  attr_ "tensor.shape" shape,
  attr_ "tensor.size" fun x => do if (<- ndimOf x) == 1 then shapeAt x 0 else prod (<- shape x),
  attr_ "tensor.T" fun v => transposeBy v .null,
  attr_ "tensor.real" real,
  attr_ "tensor.imag" imag,
  attr_ "scalar.dtype" dtypeAttr,
  attr_ "scalar.ndim" fun _ => return 0,
  attr_ "sparse.dtype" dtypeAttr,
  attr_ "sparse.ndim" fun _ => return 2,
  attr_ "node.op" opOf,
  attr_ "node.inputs" insOf,
  attr_ "node.outputs" outsOf,
  attr_ "node.nin" fun v => do return (<- insOf v).length,
  attr_ "node.nout" fun v => do return (<- outsOf v).length,
  attr_ "node.out" defaultOutputOf,
  attr_ "node.tag" fun v => return .tag (.node v),
  attr_ "slice.start" fun
    | .slice a .. => pure a
    | _ => noAttr,
  attr_ "slice.stop" fun
    | .slice _ b _ => pure b
    | _ => noAttr,
  attr_ "array.dtype" fun (v : NdArray) => return .dtype v.dtype.name,
  attr_ "array.shape" fun (v : NdArray) => return .tuple (valuesOf v.shape),
  attr_ "array.ndim" fun (v : NdArray) => return v.ndim,
  attr_ "array.size" fun (v : NdArray) => return v.size,
  attr_ "array.T" fun (a : NdArray) => return a.transpose (List.range a.ndim).reverse ]

def setAttribute (o : Value) (name : String) (v : Value) : M Unit := do
  match o with
  | .var x =>
    let keep := modifyVar x fun i => { i with attrs := alistSet name v i.attrs }
    match name, v with
    | "name", .str s => setName x (some s)
    | "name", .null => setName x none
    | "owner", .null => modifyVar x fun i => { i with owner := none }
    | "owner", .node n =>
      if <- isConstant x then failValue "Constant instances cannot have an owner."
      modifyVar x fun i => { i with owner := some n }
    | "index", .int k => modifyVar x fun i => { i with index := k.toNat }
    | "type", .type t => modifyVar x fun i => { i with type := t }
    | "data", v =>
      if <- isConstant x then modifyVar x fun i => { i with role := .constant v } else keep
    | "tag", .tag (.var y) => copyTags y x
    | "value", _ =>
      if <- isShared x then
        fail .generic "sharedvar.value does not exist anymore. Use sharedvar.get_value() or sharedvar.set_value() instead."
      keep
    | _, _ => keep
  | .tag (.var x) => setCheckedTag x name v
  | .tag (.node n) => setNodeTag n name v
  | .node n =>
    match name, v with
    | "op", .op q => modifyNode n fun i => { i with op := q }
    | "inputs", l => do
      let vs <- varsArg l
      modifyNode n fun i => { i with inputs := vs.toArray }
    | _, _ => pure ()
  | .record r =>
    let x <- record r
    let v <- if x.cls == "ValidatingScratchpad" && (x.fields.lookup "attr").any (·.isKey name) then
        callValue (<- field r "attr_filter") [v] []
      else pure v
    if let some b <- containerBox? o then if name == "data" || name == "value" then return <- fillBox b v
    setField r name v
  | .graph g => modifyGraph g fun x => { x with attrs := alistSet name v x.attrs }
  | .function f =>
    modify fun s => { s with functions := s.functions.modify f.idx fun x => { x with attrs := alistSet name v x.attrs } }
  | .feature f =>
    let .plain l <- feature f | pure ()
    setFeature f (.plain (alistSet name v l))
  | .op (.fromFunction id) =>
    modify fun s => { s with functionOps := s.functionOps.modify id fun x => { x with attrs := alistSet name v x.attrs } }
  | .pass p => modifyPass p fun x => match name, x.body with
    | "name", _ => { x with name := v.str? }
    | "verbose", .metaRule c ps _ => { x with body := .metaRule c ps (v.int?.getD 0) }
    | _, _ => x
  | .op _ | .database _ => pure ()
  | _ => noAttr

def variableEntries : Table ApiEntry := [
  fn3 "setattr" "o, name, v" setAttribute,
  cls1 "breakpoint.PdbBreakpoint" "name" fun n => return Op.breakpoint n,
  cls2 "raise_op.Raise" "msg='', exc=None" fun m (e : Value) => do
    return Op.raise m (if let .cls n := e then n else "NotImplementedError"),
  cls "graph.basic.Variable" "type, owner=None, index=None, name=None" <| of4 fun t o i n => do
    if !(o matches .null | .node _) then failType s!"('owner must be an Apply instance', {<- reprOf o})"
    if !(i matches .null | .int _ | .bool _) then failType s!"('index must be an int', {<- reprOf i})"
    let v <- makeVariable t n
    if let .node m := o then modifyVar v fun x => { x with owner := some m, index := (i.int?.getD 0).toNat }
    return v,
  cls3 "graph.basic.Constant" "type, data, name=None" fun t d n => do
    let v <- newConstant t (<- t.filter d) n
    modifyVar v fun i => { i with attrs := [("class", "Constant")] }
    return v,
  cls3 "tensor.SliceConstant" "type, data, name=None" fun (t : Ty) (d : Value) n => do
    let .slice a b c := d | unmet
    let whole x := do
      check (x.shape.isEmpty && x.dtype.isDiscrete)
      return x.item.toInt
    let d <- match a, b, c with
      | .array x, _, _ => do pure (.slice (<- whole x) b c)
      | _, .array x, _ => do pure (.slice a (<- whole x) c)
      | _, _, _ => pure d
    newConstant t (<- t.filter d) n,
  cls3 "graph.basic.Apply" "op, inputs, outputs" fun o i u => do
    let some is <- members? i | failType "The inputs of an Apply must be a list or tuple"
    let some us <- members? u | failType "The output of an Apply must be a list or tuple"
    let is <- is.mapM fun
      | .var x => pure x
      | v => notVariable v
    let us <- us.mapM fun
      | .var x => do
        if (<- ownerOf x).isSome then failValue "All output variables passed to Apply must belong to it."
        if <- isConstant x then failValue "Constant instances cannot have an owner."
        pure x
      | v => do
        failType s!"The 'outputs' argument to Apply must contain Variable instances with no owner, not {<- textOf v}"
    return .node (<- newNodeWith (<- match o with
      | .op p => pure p
      | v => do pure (.symbolic { name := <- textOf v })) is us),
  fn2 "tvar" "name, label=''" fun n l => makeVariable (.plain l) n,
  fn "top" "name, nout=1, dmap=(), vmap=(), same=(), aliased=()" <| of6 fun n k d v s a =>
    return Op.symbolic ⟨n, k, d, v, s, a⟩,
  ("tensor.NoneConst", .value (pure (.var ⟨0⟩))),
  val "tensor.none_type_t" (.type .noneType), val "tensor.slicetype" (.type .slice),
  val "graph.type.generic" (.type .generic), val "generic" (.type .generic),
  cls "graph.type.Generic" "" fun _ => return .type .generic ]

/-! ## Methods of arrays -/

def heldArray (v : Value) : M NdArray := do
  let some a <- operandArray? v | noAttr
  pure a

def arrayAxes (a : NdArray) (axis : Value) : M (List Nat) := do
  if axis.isNull then return .range a.ndim
  (<- (if let .tuple xs := axis then xs else [axis]).mapM intArg).mapM fun i => do
    let j := placeOf a.ndim i
    if j < 0 || j >= a.ndim then raise (.named "AxisError")
    pure j.toNat

def reduced (k : ScalarOp) (acc : DType -> DType) (v axis : Value) : M Value := do
  let a <- heldArray v
  return (<- reduceArray k (<- arrayAxes a axis) (acc a.dtype) a).toValue

def arrayMethods : Table Callable := [
  meth2 "array.astype" "dtype" fun v d => do return ((<- heldArray v).cast d).toValue,
  meth2 "array.sum" "axis=None" (reduced .add .widened),
  meth2 "array.prod" "axis=None" (reduced .mul .widened),
  meth2 "array.max" "axis=None" (reduced .maximum id),
  meth2 "array.min" "axis=None" (reduced .minimum id),
  meth2 "array.all" "axis=None" (reduced .and fun _ => .bool),
  meth2 "array.any" "axis=None" (reduced .or fun _ => .bool),
  meth2 "array.mean" "axis=None" fun v x => do
    let a <- heldArray v
    let axes <- arrayAxes a x
    let n := axes.foldl (fun n i => n * a.shape.getD i 1) 1
    binary .trueDiv (<- reduceArray .add axes (if a.dtype.isContinuous then a.dtype else .float64) a).toValue n,
  meth2 "array.argmax" "axis=None" fun v x => do
    let a <- heldArray v
    return (<- maxAndArgmaxOf a (<- arrayAxes a x)).2.toValue,
  meth2 "array.reshape" "*shape" fun v (s : Values) => do
    let s <- if let [x] := s then (·.getD s) <$> members? x else pure s
    (<- heldArray v).reshape (<- s.mapM intArg),
  meth1 "array.flatten" "" flat,
  meth1 "array.ravel" "" flat,
  meth1 "array.copy" "" fun v => do return (<- heldArray v).fresh,
  meth2 "array.transpose" "*axes" fun v (axes : Values) => do
    let a <- heldArray v
    if axes.isEmpty then return a.transpose (List.range a.ndim).reverse
    return a.transpose ((<- (if let [.tuple xs] := axes then xs else axes).mapM intArg).map Int.toNat),
  meth1 "array.__str__" "" textOf,
  meth "list.append" "x" fun
    | [.list c, x] => do
      setCell c (.seq ((<- cellItems c) ++ [x]).toArray)
      pure .null
    | _ => badType,
  meth "dict.get" "key, default=None" fun
    | [.dict c, k, d] => do return (lookupKey k (<- cellPairs c)).getD d
    | _ => badType,
  meth "list.pop" "" fun
    | [.list c] => do
      let some x := (<- cellItems c).getLast? | badIndex
      setCell c (.seq (<- cellItems c).dropLast.toArray)
      pure x
    | _ => badType,
  meth1 "array.item" "" fun v => do
    let a <- heldArray v
    if a.size != 1 then badValue
    return a.item.plain a.dtype ]
where
  flat (v : Value) : M Value := do
    let a <- heldArray v
    return .array { a with shape := [a.size], region := 0 }

end TensorGraph
