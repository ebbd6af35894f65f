import TensorGraph.Catalog.Builtins

/-! # Functions on tensors -/

namespace TensorGraph

open Tensor

def stretchedAxis (v : Value) : M Nat := do
  match v with
  | .int i => pure i.toNat
  | .bool c => pure c.toNat
  | .number d e => if d.isInteger then pure e.toInt.toNat else bad v
  | v => bad v
where
  bad (v : Value) : M Nat := do failType s!"Rebroadcast needs integer axes. Got {<- textOf v}"

def elementwiseEntries : Table ApiEntry :=
  (tensorOps.filterMap fun (n, s) =>
    if ["isnan", "isinf", "scalar_maximum", "scalar_minimum"].contains n then none
    else some (opEntry s!"tensor.{n}" (tensorOp n s)))
  ++ [ opEntry "tensor.maximum" (tensorOp "scalar_maximum" .maximum),
    opEntry "tensor.minimum" (tensorOp "scalar_minimum" .minimum),
    opEntry "tensor.where" (tensorOp "switch" .switch), opEntry "tensor.bitwise_and" (tensorOp "and_" .and),
    opEntry "tensor.fill" fillOp, opEntry "tensor.floor_div" intDivOp,
    opEntry "tensor.tensor_copy" (bareOp .identity) ]
  -- the same, overwriting the first operand
  ++ tensorOps.map fun (n, s) =>
    opEntry ("tensor.inplace." ++ n.replace "scalar_m" "m" ++ "_inplace")
      (.elemwise { kind := s.kind, rule := some (.transfer [.input 0]) } [(0, 0)]
        (some ("Elemwise" ++ braced s!"{n}_inplace,inplace")))

/-- Casts to the type with a name, after reading the operand as a variable of a kind. -/
def castNamed (read : Value -> M VarId) (op : ScalarOp -> Op) (x dtype : Value) : M VarId := do
  let name <- match dtype with
    | .str s => typeName s
    | .dtype s => pure s
    | _ => badKey
  let v <- read x
  let d <- dtypeOf v
  if d.name == name then return v
  ScalarExpr.checkCast d (name.startsWith "complex")
  let some t := DType.ofName? name | badKey
  applyTo (op (.cast t)) [x]

def castTo : Value -> Value -> M VarId := castNamed asTensor bareOp

def isClose (a b rtol atol : Value) (equalNaN : Bool) : M Value := do
  let diff <- operateUnary .abs (<- operate .sub a b)
  let near <- le diff (<- operate .add atol (<- operate .mul rtol (<- operateUnary .abs b)))
  let an <- floatTest "isnan" .isnan a
  let bn <- floatTest "isnan" .isnan b
  let nans <- or an bn
  let ai <- floatTest "isinf" .isinf a
  let bi <- floatTest "isinf" .isinf b
  let odd <- or nans (<- or ai bi)
  let close <- and near (<- invert odd)
  let infEq <- and (<- and ai bi) (<- eq (<- operate .mul ai (<- sgn a)) (<- operate .mul bi (<- sgn b)))
  let r <- or close infEq
  if equalNaN then return (<- or r (<- and an bn)) else pure r

def shapeArgs (shape : Value) : M Values := do
  match shape with
  | .array _ | .tuple _ | .list _ | .str _ => iterate shape
  | .var v => if (<- typeOf v).isTensor && !(<- isConstant v) && !(<- isShared v) then iterate shape else pure [shape]
  | s => pure [s]

variable (e : DType -> Elem) (a : Value)

def filled (shape dtype : Value) : M VarId := do
  let dims <- shapeArgs shape
  let d <- dtypeOrFloatX dtype
  alloc (.array (.ofElem d (e d))) dims

def filledLike (model dtype opt : Value) : M VarId := do
  let v <- varArg model
  let d <- if dtype.isNull then do pure (some (<- dtypeOf v)) else dtypeArg dtype
  fullLike e v d (<- truthOf opt)

def nonzeroFn (matrix : Bool) : M Value := do
  let rs <- nonzeroOf a
  if !matrix then return .tuple (valuesOf rs)
  if let [r] := rs then result (padLeft r 1) else stack (valuesOf rs) 0

def flatNonzero : M VarId := do
  let v <- varArg a
  if (<- ndimOf v) == 0 then failValue "Nonzero only supports non-scalar arrays."
  let r :: _ <- nonzeroOf (<- flattenTo v) | badIndex
  pure r

def transposeBy (x axes : Value) : M VarId := do
  let v <- varArg x
  let back := (List.range (<- ndimOf v)).reverse
  let order <- if axes.isNull then listOf back else pure axes
  let r <- shuffleBy v order
  let isBack <- if let .list c := order then do valuesEqual (.tuple (<- cellItems c)) (.tuple (valuesOf back)) else pure false
  if let some s <- nameOf v then if isBack && !s.isEmpty then setName r (some s!"{s}.T")
  pure r

def rollBy : Nat -> VarId -> Value -> Value -> M Value
  | 0, _, _, _ => outOfFuel
  | fuel + 1, x, shift, axis => do
    let n <- ndimOf x
    if axis.isNull then
      if n <= 1 then return <- rollBy fuel x shift 0
      let .var r <- rollBy fuel (<- flattenTo x) shift 0 | badType
      return <- result (reshapeTo r (<- shape x) none)
    let a := placeOf n (<- intArg axis)
    let s <- operate .mod shift (<- shapeAt x a)
    let k := a.toNat
    let part a b := getItem 40 x (.tuple (.replicate k .whole ++ .slice a b .null :: .replicate (n - k - 1) .whole))
    join a [<- part (<- operateUnary .neg s) .null, <- part 0 (<- operateUnary .neg s)]

def gridOf (sparse : Bool) (index : Value) : M Value := do
  let orElse v d : M Value := do if <- truthOf v then return v else return d
  let rangeFor a b c : M VarId := do arange (<- orElse a 0) b (<- orElse c 1) none
  if let .slice a b c := index then return <- rangeFor a b c
  let parts <- (<- iterate index).mapM fun
    | .slice a b c => pure (a, b, c)
    | _ => noAttr
  let n := parts.length
  if parts.any (·.2.2 matches .complex ..) then cannot "Not implemented for slices whose step is complex"
  let ranges <- parts.mapM fun (a, b, c) => rangeFor a b c
  let ranges <- ranges.zipIdx.mapM fun (r, j) => do
    reshapeTo r (.tuple ((List.replicate n 1).set j (<- shapeAt r 0))) none
  if sparse then return <- listOf ranges
  let ones <- ranges.mapM onesLike
  newList (<- (List.range n).mapM fun i =>
    (ranges.zip ones).zipIdx.foldlM (fun (g : Value) ((r, o), j) => operate .mul g (if j == i then r else o)) 1)

def covariance (m y rowvar bias ddof fweights aweights : Value) : M Value := do
  if !fweights.isNull then cannot "fweights are not implemented"
  if !aweights.isNull then cannot "aweights are not implemented"
  let m <- varArg m
  let rows <- truthOf rowvar
  let byRow v := if rows then pure v else transpose v
  let m <- byRow m
  let m <- if y.isNull then pure m else do
    let .var v <- join 0 [m, <- byRow (<- varArg y)] | badType
    pure v
  let ddof <- if ddof.isNull then do pure (.int (if <- truthOf bias then 0 else 1)) else pure ddof
  let fact <- operate .sub (<- shapeAt m 1) ddof
  let m <- sub m (<- meanOf m 1 none true)
  let c <- denseDot m (<- transpose m)
  let one <- tensorConstant 1
  callMethod (<- operate .mul c (<- operate .trueDiv one fact)) "squeeze" []

def IndexEntry.toValue : IndexEntry -> Value
  | .pos d => .type (.scalar d)
  | .slice a b c =>
    let opt d := .ofOption (fun d => .type (.scalar d)) d
    .slice (opt a) (opt b) (opt c)

def templateArg (idx : Value) : M (List IndexEntry) := do (<- iterate idx).mapM indexEntry

def tensorFunctionEntries : Table ApiEntry := under "tensor" [
  fn3 "as_tensor_variable" "x, name=None, ndim=None" (asTensor · · ·),
  fn4 "constant" "x, name=None, ndim=None, dtype=None" (tensorConstant · · · ·),
  fn1 "_obj_is_wrappable_as_tensor" "x" fun x => do
    try
      let _ <- tensorConstant x
      pure true
    catch e => if e.isA .type then return false else throw e,
  fn4 "get_scalar_constant_value" "orig_v, elemwise=True, only_process_constants=False, max_recur=10"
    fun x e o (k : Int) => constantValue x e o k.toNat,
  fn3 "extract_constant" "x, elemwise=True, only_process_constants=False" (extractConstant · · ·),
  fn2 "cast" "x, dtype" castTo,
  fn3 "max_and_argmax" "a, axis=None, keepdims=False" fun x a k => do
    let (m, i) <- maxAndArgmax x a k
    listOf [m, i],
  fn3 "max" "x, axis=None, keepdims=False" (maxOf · · ·),
  fn3 "min" "x, axis=None, keepdims=False" (minOf · · ·),
  fn3 "argmax" "x, axis=None, keepdims=False" (argmaxOf · · ·),
  fn3 "argmin" "x, axis=None, keepdims=False" (argminOf · · ·),
  fn "smallest" "*args" (extreme .lt (minOf · 0)), fn "largest" "*args" (extreme .gt (maxOf · 0)),
  fn1 "isnan" "a" (floatTest "isnan" .isnan),
  fn1 "isinf" "a" (floatTest "isinf" .isinf),
  fn5 "isclose" "a, b, rtol=1.0e-5, atol=1.0e-8, equal_nan=False" isClose,
  fn5 "allclose" "a, b, rtol=1.0e-5, atol=1.0e-8, equal_nan=False" fun a b r t n =>
    do all (<- isClose a b r t n),
  fn2 "round" "a, mode=None" roundBy,
  fn2 "iround" "a, mode=None" fun a m => do castTo (<- roundBy a m) "int64",
  fn "cov" "m, y=None, rowvar=True, bias=False, ddof=None, fweights=None, aweights=None" <| of7 covariance,
  fn3 "ones_like" "model, dtype=None, opt=False" (filledLike .one),
  fn3 "zeros_like" "model, dtype=None, opt=False" (filledLike .zero),
  fn2 "zeros" "shape, dtype=None" (filled .zero),
  fn2 "ones" "shape, dtype=None" (filled .one),
  fn2 "nonzero" "a, return_matrix=False" nonzeroFn,
  fn1 "flatnonzero" "a" flatNonzero,
  fn1 "nonzero_values" "a" fun a => do getItem 40 (<- flattenTo (<- varArg a)) (<- flatNonzero a),
  fn4 "tri" "N, M=None, k=0, dtype=None" fun n m k d =>
    do tri n (if m.isNull then n else m) k (<- dtypeOrFloatX d),
  fn2 "tril" "m, k=0" fun m k => triangle m k false,
  fn2 "triu" "m, k=0" fun m k => triangle m k true,
  fn4 "eye" "n, m=None, k=0, dtype=None" fun n m k d =>
    do eye n (if m.isNull then n else m) k (<- dtypeOrFloatX d),
  fn1 "identity_like" "x" identityLike,
  fn2 "transfer" "var, target" fun v t => do
    if let .str "cpu" := t then asTensor v else failValue s!"Can't transfer to target {<- textOf t}",
  fn5 "sum" "input, axis=None, dtype=None, keepdims=False, acc_dtype=None" fun x a d k c => do
    sum x (<- reductionAxes a) d k c,
  fn "prod" "input, axis=None, dtype=None, keepdims=False, acc_dtype=None, no_zeros_in_input=False"
    <| of6 fun x a d k c z => do
    prod x (<- reductionAxes a) d k c z,
  fn "mean" "input, axis=None, dtype=None, op=False, keepdims=False, acc_dtype=None" <| of6 averageOf,
  fn5 "var" "input, axis=None, ddof=0, keepdims=False, corrected=False" fun x a d k c => do
    checkDdof d
    varOf x a d k c,
  fn5 "std" "input, axis=None, ddof=0, keepdims=False, corrected=False" fun x a d k c => do
    checkDdof d
    stdOf x a d k c,
  fn3 "any" "x, axis=None, keepdims=False" (test (any · ·)), fn3 "all" "x, axis=None, keepdims=False" (test (all · ·)),
  fn2 "ptp" "a, axis=None" fun a x => do
    let v <- asTensor a
    operate .sub (<- maxOf v x) (<- minOf v x),
  fn2 "power" "x, y" (operate .pow),
  fn2 "divmod" "x, y" fun x y => return .tuple [(<- intDiv x y), (<- modChecked x y)],
  fn2 "ceil_intdiv" "a, b" ceilIntDiv,
  fn2 "mod_check" "x, y" modChecked,
  fn2 "transpose" "x, axes=None" transposeBy,
  fn2 "batched_dot" "a, b" batchedDot,
  fn3 "batched_tensordot" "x, y, axes=2" fun x y a => tensordot x y a true,
  fn4 "split" "x, splits_size, n_splits, axis=0" fun x s n a =>
    do callOp (.split (<- intValue n).toNat) [x, a, s],
  fn2 "addbroadcast" "x, *axes" fun x a => changeBroadcast x a true,
  fn2 "unbroadcast" "x, *axes" fun x a => changeBroadcast x a false,
  fn2 "patternbroadcast" "x, broadcastable" fun x b => do
    let axes <- (<- iterate b).zipIdx.mapM fun (b, i) => match b with
      | .bool b => pure (i, b)
      | v => do failType s!"Rebroadcast needs bool for new broadcast pattern. Got {<- textOf v}"
    rebroadcast (<- asTensor x) axes,
  fn2 "join" "axis, *tensors_list" join,
  fn3 "roll" "x, shift, axis=None" (rollBy 4),
  fn2 "shape_padleft" "t, n_ones=1" fun t (n : Int) => do padLeft (<- asTensor t) n.toNat,
  fn2 "shape_padright" "t, n_ones=1" fun t (n : Int) => padRight t n.toNat,
  fn2 "shape_padaxis" "t, axis" padAxis,
  (("stack", .raw fun args kw => do
    if args.isEmpty && kw.isEmpty then
      fail .generic "theano.tensor.stack(tensors, axis) must have at least one parameter"
    if kw.isEmpty && !(args.headD .null matches .list _ | .tuple _) then return <- stack args 0
    let axis := (kw.lookup "axis").getD 0
    match kw.lookup "tensors", args with
    | some t, _ | none, [t] | none, t :: _ :: _ :: _ => do stack (<- iterate t) axis
    | none, [t, a] => do stack (<- iterate t) a
    | none, [] => badIndex) : ApiRow),
  fn2 "concatenate" "tensor_list, axis=0" fun t a => do
    if let some l <- members? t then join a l
    else failWith .type ["\"The 'tensors' argument must be either a tuple or a list, make sure you did not forget () or [] around arguments of concatenate.\"",
      <- reprOf t],
  fn1 "get_vector_length" "v" fun v => return (<- vectorLength v),
  fn1 "horizontal_stack" "*args" (joinMatrices 1), fn1 "vertical_stack" "*args" (joinMatrices 0),
  fn3 "reshape" "x, newshape, ndim=None" reshapeTo,
  fn3 "is_flat" "var, ndim=None, outdim=None" fun v n o => do
    let k <- if n.isNull then pure (if o.isNull then 1 else o) else if o.isNull then pure n
      else failValue "You should only specify ndim"
    operate .eq (<- ndimOf (<- varArg v)) k,
  fn2 "flatten" "x, ndim=1" fun x (n : Option Int) => flattenTo x (n.getD 1),
  fn3 "tile" "x, reps, ndim=None" tileOf,
  fn4 "arange" "start, stop=None, step=1, dtype=None" fun a b c d => do
    if b.isNull then result (arange 0 a c d) else result (arange a b c d),
  fn3 "permute_row_elements" "x, y, inverse=0" fun x y i => callOp .permuteRowElements [x, y, i],
  fn1 "inverse_permutation" "perm" fun p => do
    let v <- varArg p
    callOp .permuteRowElements [<- arange 0 (<- shapeAt v (-1)) 1 (some (<- dtypeOf v)), p, true],
  fn2 "dot" "l, r" dotOf,
  fn2 "dense_dot" "a, b" denseDot,
  fn3 "tensordot" "a, b, axes=2" (tensordot · · ·),
  fn2 "outer" "x, y" outer,
  fn4 "diagonal" "a, offset=0, axis1=0, axis2=1" fun a o x y => callOp (.extractDiag o x y false) [a],
  fn2 "diag" "v, k=0" fun v k => do
    match <- ndimOf (<- varArg v) with
    | 0 => failValue "Input must has v.ndim >= 1."
    | 1 => callOp (.allocDiag k 0 1) [v]
    | _ => callOp (.extractDiag k 0 1 false) [v],
  fn1 "stacklists" "arg" (stackLists 20),
  fn3 "swapaxes" "y, axis1, axis2" swapAxes,
  ("mgrid", .value (newRecord "_nd_grid" [("sparse", false)])),
  ("ogrid", .value (newRecord "_nd_grid" [("sparse", true)])),
  -- parts of tensors
  fn5 "inc_subtensor" "x, y, inplace=False, set_instead_of_inc=False, tolerate_inplace_aliasing=False" (incSubtensor 40),
  fn4 "set_subtensor" "x, y, inplace=False, tolerate_inplace_aliasing=False" fun x y i t =>
    incSubtensor 40 x y i true t,
  fn4 "take" "a, indices, axis=None, mode='raise'" (takeFrom 4),
  fn "get_canonical_form_slice" "theslice, length" fun
    | [.slice a b c, n] => do
      let (s, d) <- canonicalSlice a b c n
      return .tuple [.slice s.start s.stop s.step, d]
    | [i, n] => return .tuple [<- canonicalPosition i n, 1]
    | _ => badType,
  fn "range_len" "slc" fun
    | [.slice a b c] => result (rangeLength ⟨a, b, c⟩)
    | _ => noAttr,
  fn "slice_len" "slc, n" fun
    | [.slice a b c, n] => result (sliceLength a b c n)
    | _ => noAttr,
  fn3 "indexed_result_shape" "array_shape, indices, indices_are_shapes=False" indexedResultShape,
  fn1 "is_basic_idx" "idx" fun i => isBasicIndex i,
  fn1 "as_index_constant" "a" asIndexConstant,
  fn1 "as_index_variable" "idx" asIndexVariable,
  fn3 "get_idx_list" "inputs, idx_list, get_count=False" fun ins (idx : Values) _ => do
    let ins <- varsArg ins
    if ins.length == 1 then return .tuple idx
    return indexItems ins (<- idx.mapM indexEntry),
  fn2 "Subtensor.convert" "entry, slice_ok=True" fun e _ => return (<- indexEntry e).toValue ]
where
  extreme (o : BinOp) (of : Value -> M VarId) : Values -> M Value
    | [.tuple [a, b]] => do result (switch (<- operate o a b) a b)
    | [.tuple xs] => do result (of (<- stack xs 0))
    | _ => badType
  kept (x : Value) (keep : Bool) (axes : Axes) (r : VarId) : M VarId := if keep then keepDims x r axes else pure r
  test (of : Value -> Axes -> M VarId) (x axis : Value) (keep : Bool) : M VarId := do
    let axes <- reductionAxes axis
    kept x keep axes (<- of x axes)
  roundBy (a mode : Value) : M Value := do
    match mode with
    | .str "half_away_from_zero" => result (ew "round_half_away_from_zero" .roundHalfAway [a])
    | .null | .str "half_to_even" => result (ew "round_half_to_even" .roundHalfEven [a])
    | m => fail .generic s!"round mode {<- textOf m} is not implemented."
  averageOf (x axis dtype : Value) (op keep : Bool) (acc : Value) : M Value := do
    if op then
      let refuse what := do
        cannot ("('The Mean op does not support the " ++ what ++ " argument, and will always use float64. "
          ++ "If you want to specify " ++ (if what == "dtype" then "the dtype" else "acc_dtype")
          ++ ", call tensor.mean(..., op=False).', " ++ (<- reprOf dtype) ++ ")")
      let fits v := v.isNull || v.isKey "float64"
      if !fits dtype then refuse "dtype"
      if !fits acc then refuse "acc_dtype"
      let axes <- reductionAxes axis
      let v <- asTensor x
      check ((axes.map List.length).getD 1 == 1)
      kept v keep axes (<- applyTo (.reduce { cls := .mean, scalar := .add, axis := axes }) [v])
    else result (meanOf x axis (<- dtypeArg dtype) keep (<- dtypeArg acc))
  checkDdof (d : Value) : M Unit := do
    let .bool _ := d | pure ()
    failValue s!"Parameter keepdims is now at index 3: (input, {blanks 26}axis=None, ddof=0, keepdims=False, corrected=False)"
  changeBroadcast (x axes : Value) (b : Bool) : M Value := do
    let is <- (<- iterate axes).mapM stretchedAxis
    result (rebroadcast (<- varArg x) (is.map fun i => (i, b)))
  joinMatrices (axis : Int) (xs : Values) : M Value := do
    check (xs.length >= 2)
    for x in xs do check ((<- ndimOf (<- varArg x)) == 2)
    join axis xs
  dotOf (l r : Value) : M Value := do
    let l <- asVariable l
    let r <- asVariable r
    if (<- typeOf l).isSparse then return <- callMethod l "__dot__" [r]
    try result (denseDot l r)
    catch e =>
      if (e.isA .notImplemented || e.isA .attr || e.isA .type) && (<- typeOf r).isSparse then callMethod r "__rdot__" [l]
      else throw e
  stackLists : Nat -> Value -> M Value
    | 0, _ => outOfFuel
    | fuel + 1, v => do
      let some xs <- members? v | pure v
      stack (<- xs.mapM (stackLists fuel)) 0
  swapAxes (y a b : Value) : M Value := do
    let v <- asTensor y
    let n <- ndimOf v
    let at_ x := do positionOf n (<- intArg x)
    let i <- at_ a
    let j <- at_ b
    result (shuffleDims v (((List.range n).set i j).set j i))

/-! ## Tensor operators by class -/

def scalarOpArg (v : Value) : M ScalarOp := if let .op (.scalar s) := v then pure s else noAttr
instance : Arg ScalarOp := ⟨scalarOpArg⟩

def positionsArg (v : Value) : M (List (Nat × Nat)) := do
  if v.isNull then return []
  let some ps <- mapping? v | noAttr
  ps.mapM fun (k, x) => do pure (<- arg k, <- arg x)

def makeReduction (cls : ReduceClass) (scalar : ScalarOp) (axis dtype acc : Value) : M Reduction := do
  let axis <- reductionAxes axis
  if cls matches .mean then check ((axis.map List.length).getD 1 == 1)
  checkReducer scalar
  return { cls, scalar, axis, dtype := <- dtypeArg dtype, accDType := <- dtypeArg acc }

def reduceClass (path params : String) (kind : ReduceClass) (scalar : Option ScalarOp) : ApiRow :=
  cls path params fun vs => do
    let (scalar, vs) <- match scalar, vs with
      | none, s :: vs => pure (<- scalarOpArg s, vs)
      | s, vs => pure (s.getD .add, vs)
    let at_ i := vs.getD i .null
    return Op.reduce { <- makeReduction kind scalar (at_ 0) (at_ 1) (at_ 2) with noZeros := <- truthOf (at_ 3) }

def sized (path : String) (f : DType -> Op) : ApiRow :=
  cls path "dtype=None" <| of1 fun d => do return f (<- dtypeOrFloatX d)

def tensorOpEntries : Table ApiEntry := under "tensor" [
  cls "Elemwise" "scalar_op, inplace_pattern=None, name=None, nfunc_spec=None, openmp=None" <| of5 fun s p n _ _ =>
    do return Op.elemwise (<- scalarOpArg s) (<- positionsArg p) n,
  cls3 "DimShuffle" "input_broadcastable, new_order, inplace=True" fun b o i => do
    let bs <- (<- iterate b).mapM truthOf
    if let .bool true := i then pure ()
    else failValue "DimShuffle is inplace by default and hence the inplace for DimShuffle must be true"
    let tupled := b matches .tuple _
    let (places, shown) <- placesArg bs o tupled
    return (<- dimShuffleOp bs places shown tupled),
  reduceClass "CAReduce" "scalar_op, axis=None" .plain none,
  reduceClass "All" "axis=None" .all (some .and), reduceClass "Any" "axis=None" .any (some .or),
  reduceClass "Max" "axis" .max (some .maximum), reduceClass "Min" "axis" .min (some .minimum),
  reduceClass "Mean" "axis=None" .mean (some .add),
  reduceClass "CAReduceDtype" "scalar_op, axis=None, dtype=None, acc_dtype=None" .typed none,
  reduceClass "Sum" "axis=None, dtype=None, acc_dtype=None" .sum (some .add),
  reduceClass "Prod" "axis=None, dtype=None, acc_dtype=None, no_zeros_in_input=False" .prod (some .mul),
  reduceClass "ProdWithoutZeros" "axis=None, dtype=None, acc_dtype=None" .prodWithoutZeros (some .mulWithoutZeros),
  cls "MaxAndArgmax" "axis" fun
    | [.list c] => do return Op.maxAndArgmax (<- (<- cellItems c).mapM intArg)
    | _ => unmet,
  cls1 "Argmax" "axis" fun a => return Op.argmax (some a),
  opClass "Nonzero" .nonzero, opEntry "_nonzero" .nonzero,
  sized "Tri" .tri, sized "Eye" .eye,
  cls1 "AllocEmpty" "dtype" fun s => do
    let .str s := s | unmet
    return Op.allocEmpty (<- arg s.toLower),
  opEntry "setdefault" .default,
  cls1 "Split" "len_splits" fun n => do return Op.split (<- intValue n).toNat,
  cls1 "Join" "view=-1" fun n => return Op.join n,
  cls2 "Reshape" "ndim, name=None" fun n name => do
    let k <- intValue n
    if k < 0 then failValue "The output dimensions after reshape must be 0 or greater"
    check name.isNull
    return Op.reshape k.toNat none,
  cls1 "Flatten" "ndim=1" fun n => do return Op.flatten (<- intValue n).toNat,
  cls1 "Tile" "ndim" fun (n : Int) => return Op.tile n.toNat,
  cls1 "ARange" "dtype" fun d => do return Op.arange (<- dtypeOrFloatX d),
  opClass "PermuteRowElements" .permuteRowElements,
  opClass "Dot" .dot, opEntry "_dot" .dot,
  cls "ExtractDiag" "offset=0, axis1=0, axis2=1, view=False" <| of4 fun o a b v =>
    return Op.extractDiag o a b v,
  cls3 "AllocDiag" "offset=0, axis1=0, axis2=1" fun o a b => return Op.allocDiag o a b,
  cls1 "MakeVector" "dtype='int64'" fun d => do return Op.makeVector (<- dtypeOrFloatX d),
  opEntry "make_vector" (.makeVector .int64),
  cls1 "Assert" "msg='Theano Assert failed!'" fun m => return Op.assert m,
  opEntry "assert_op" (.assert "Theano Assert failed!"), opEntry "assert_" (.assert "Theano Assert failed!"),
  cls1 "Subtensor" "idx_list" fun i => do return Op.subtensor (<- templateArg i),
  cls "IncSubtensor" "idx_list, inplace=False, set_instead_of_inc=False, destroyhandler_tolerate_aliased=None"
    <| of4 fun i p s (t : Option (List (Nat × Nat))) => do return Op.incSubtensor (<- templateArg i) p s (t.getD []),
  cls1 "AdvancedSubtensor1" "sparse_grad=False" fun s => return Op.advSubtensor1 s,
  opEntry "advanced_subtensor1" (.advSubtensor1 false),
  cls2 "AdvancedIncSubtensor1" "inplace=False, set_instead_of_inc=False" fun i s =>
    return Op.advIncSubtensor1 i s,
  opEntry "advanced_inc_subtensor1" (.advIncSubtensor1 false false),
  cls "AdvancedIncSubtensor" "inplace=False, set_instead_of_inc=False" fun
    | [.bool i, s] => do
      if i then cannot "In place computation is not implemented"
      return Op.advIncSubtensor false (<- truthOf s)
    | _ => unmet, opEntry "shape" .shape,
  opEntry "specify_shape" .specifyShape ]
  ++ under "tensor" (opsAndClasses [.tensorFromScalar, .scalarFromTensor, .alloc, .default, .makeSlice, .advSubtensor])
  -- views, copies and shapes
  ++ under "compile" (opsAndClasses [.view, .deepCopy, .shape, .specifyShape])
  ++ under "compile" [
  opClass "OutputGuard" .outputGuard, opEntry "_output_guard" .outputGuard,
  cls1 "Shape_i" "i" fun i => do
    let k <- intValue i
    match <- operate .eq i k with
    | .bool true => pure ()
    | r => check (<- truthOf r)
    return Op.shapeI k.toNat,
  fn1 "shape_i_op" "i" fun (i : Int) => return Op.shapeI i.toNat,
  cls1 "Rebroadcast" "*axis" fun (pairs : Pairs) => do
    let axes <- pairs.mapM fun (a, b) => do
      let i <- stretchedAxis a
      match b with
      | .bool b => return (i, b)
      | .number .bool e => return (i, e.truthy)
      | b => failType s!"Rebroadcast needs bool for new broadcast pattern. Got {<- textOf b}"
    let sorted := axes.mergeSort fun a b => a.1 < b.1 || (a.1 == b.1 && (!a.2 || b.2))
    return Op.rebroadcast (sorted.foldl (fun acc (a, b) => alistSet a b acc) []),
  cls "FromFunctionOp" "fn, itypes, otypes, infer_shape" (of4 functionOp),
  fn3 "as_op" "itypes, otypes, infer_shape=None" fun i o s => do
    let typesOf v what := do
      let xs <- members? v
      if (xs.getD [v]).any (·.type?.isNone) then failType s!"{what} has to be a list of Theano types"
      if xs.isSome then return v else newList [v]
    let i <- typesOf i "itypes"
    let o <- typesOf o "otypes"
    if !(s matches .null | .lambda .. | .api _ | .method ..) then failType "infer_shape needs to be a callable"
    return .method (.tuple [i, o, s]) "as_op" ]
where
  functionOp (f : Value) (its ots : List Ty) (s : Value) : M Value := do
    let name := if let .api p := f then (p.splitOn ".").getLastD p else "<lambda>"
    let id := (<- get).functionOps.size
    modify fun st => { st with functionOps := st.functionOps.push ⟨f, its, ots, s, name, []⟩ }
    return Op.fromFunction id

def positionMap (m : List (Nat × List Nat)) : M Value := do
  newDict (<- m.mapM fun (k, l) => do return (k, <- listOf l))

def opAttributes : Table (Value -> M Value) := [
  attr_ "op.destroy_map" fun o => do positionMap (<- destroysOf o),
  attr_ "op.default_output" fun (o : Op) => return o.defaultOutput,
  attr_ "scalarOp.nin" fun (s : ScalarOp) => do return if let some n := <- s.arity then n else .int (-1),
  attr_ "scalarOp.nout" fun (s : ScalarOp) => do return .ofNat (<- s.resultCount),
  attr_ "Elemwise.name" fun
    | Value.op (.elemwise _ _ n) => return Value.ofName n
    | _ => noAttr,
  attr_ "Subtensor.idx_list" fun
    | Value.op (.subtensor i) => return Value.tuple (i.map IndexEntry.toValue)
    | _ => noAttr,
  attr_ "IncSubtensor.idx_list" fun
    | Value.op (.incSubtensor i ..) => newList (i.map IndexEntry.toValue)
    | _ => noAttr ]
  ++ (["CAReduce", "All", "Any", "Max", "Min", "Mean", "CAReduceDtype", "Sum", "Prod", "ProdWithoutZeros"].flatMap fun c =>
    let attr name (read : Reduction -> M Value) := attr_ s!"{c}.{name}" fun
      | Value.op (.reduce r) => read r
      | _ => noAttr
    let typed (r : Reduction) d := if r.cls.isTyped then return .ofName (d.map DType.name) else noAttr
    [ attr "axis" fun r => return .ofOption (fun l => .tuple (valuesOf l)) r.axis,
      attr "scalar_op" fun r => return Op.scalar r.scalar,
      attr "dtype" fun r => typed r r.dtype, attr "acc_dtype" fun r => typed r r.accDType ])

/-! ## Random numbers, running sums and repetitions by name -/

open Random

def drawRequest (size ndim dtype streams kw : Value) : M DrawRequest := do
  return { size, ndim, dtype := <- dtypeArg dtype, streams, more := kw.pairs }

def randomEntries : Table ApiEntry := under "sandbox.rng_mrg" [
  cls1 "MRG_RandomStream" "seed=12345" newSource,
  cls "mrg_uniform" "output_type, inplace=False" fun
    | [.type (.tensor d b _), i] => do return Op.mrgUniform d b (<- truthOf i)
    | _ => noAttr,
  opClass "DotModulo" .dotModulo,
  fn2 "guess_n_streams" "size, warn=False" fun s _ => return Value.int (<- countFor s),
  fn1 "_check_size" "size" checkedSize,
  fn3 "matVecModM" "A, s, m" fun A s m => return Value.array (<- matVecModulo A s m) ]
  ++ [
  cls1 "sandbox.MultinomialFromUniform" "odtype" fun d => return Op.multinomialFromUniform d,
  cls2 "sandbox.ChoiceFromUniform" "odtype, replace=False" fun d r => return Op.choiceFromUniform d r,
  cls "tensor.random.type.RandomStateType" "" fun _ => newRecord "RandomStateType" [],
  val "tensor.random.type.random_state_type" (.type .randomState),
  jump "ff_2p134" beyondStreams, jump "ff_2p72" toNextStream ]
where
  jump (name : String) (j : Jump) : ApiRow :=
    fn1 s!"sandbox.rng_mrg.{name}" "rstate" fun (s : NdArray) => do
      let l := s.toInts
      if l.length != 6 then badValue
      return Value.array (.ofInts .int32 (j.ints l))

def randomMethods : Table Callable := [
  source "uniform" "size, low=0.0, high=1.0, ndim=None, dtype=None, nstreams=None, **kwargs" fun r => of7 fun s low high n d k kw =>
    do result (uniform r (<- drawRequest s n d k kw) low high),
  source "binomial" "size=None, n=1, p=0.5, ndim=None, dtype='int64', nstreams=None, **kwargs" fun r =>
    of7 fun s (n p _ : Value) d k kw => do
      if n.float? != some 1 then cannot "MRG_RandomStream.binomial with n > 1"
      let p <- undefinedBelow (<- asTensor p)
      let x <- callMethod r "uniform" [] ([("size", s), ("nstreams", k)] ++ kw.pairs)
      result (Tensor.cast (<- Tensor.lt x p) ((<- dtypeArg d).getD .int64)),
  source "multinomial" "size=None, n=1, pvals=None, ndim=None, dtype='int64', nstreams=None, **kwargs" fun r =>
    of7 fun s n p dims d k kw => do
      if p.isNull then failType "You have to specify pvals"
      let p <- undefinedBelow (<- asTensor p)
      if !s.isNull then
        if (<- iterate s).any fun i => (i.int?.getD 1) <= 0 then
          failWith .value ["'The specified size contains a dimension with value <= 0'", <- reprOf s]
        failValue "Provided a size argument to MRG_RandomStream.multinomial, which does not use the size argument."
      if !dims.isNull then
        failValue "Provided an ndim argument to MRG_RandomStream.multinomial, which does not use the ndim argument."
      if (<- ndimOf p) != 2 then cannot "MRG_RandomStream.multinomial only implemented for pvals.ndim = 2"
      let u <- drawsFor r (<- drawRequest .null .null .null k kw) p n
      result (applyTo (.multinomialFromUniform (<- strArg d)) [p, u, <- asTensor n]),
  source "choice" "size=1, a=None, replace=True, p=None, ndim=None, dtype='int64', nstreams=None, **kwargs" fun
    | r, [s, a, again, p, dims, d, k, kw] => do
      if <- truthOf again then cannot "MRG_RandomStream.choice only works without replacement for now."
      chosen r s a p dims d k kw
    | _, _ => badType,
  source "multinomial_wo_replacement" "size=None, n=1, pvals=None, ndim=None, dtype='int64', nstreams=None, **kwargs" fun r =>
    of7 fun s n p dims d k kw => do
      check s.isNull
      chosen r n .null p dims d k kw,
  source "normal" "size, avg=0.0, std=1.0, ndim=None, dtype=None, nstreams=None, truncate=False, **kwargs" fun
    | r, [s, avg, std, n, d, k, t, kw] => do result (normal r (<- drawRequest s n d k kw) avg std (<- truthOf t))
    | _, _ => badType,
  source "truncated_normal" "size, avg=0.0, std=1.0, ndim=None, dtype=None, nstreams=None, **kwargs" fun r =>
    of7 fun s avg std n d k kw => do
      let std <- operate .trueDiv std (<- asTensor (.float 0.87962566103423978))
      result (normal r (<- drawRequest s n d k kw) avg std true),
  source "updates" "" fun r _ => do newList (<- iterate (<- field r "state_updates")),
  source "n_streams" "size" fun _ => of1 fun s => return (<- countFor s),
  source "seed" "seed=None" fun r => of1 (reseed r),
  source "set_rstate" "seed" fun r => of1 fun s => do
    setField r "rstate" (<- sourceSeed s),
  source "inc_rstate" "" fun r => of0 (skipAhead r),
  source "get_substream_rstates" "n_streams, dtype, inc_rstate=True" fun r => of3 fun n d i => do
    check d.str?.isSome
    substreams r n (<- truthOf i),
  meth "RandomStateType.is_valid_value" "a" fun
    | [_, .record r] => do return ((<- record r).cls == "RandomState")
    | _ => return false ]
where
  source (name sig : String) (f : RecordId -> Values -> M Value) : MethodRow :=
    meth s!"MRG_RandomStream.{name}" sig fun
      | .record r :: vs => f r vs
      | _ => badType
  chosen (r : RecordId) (n a p dims d k kw : Value) : M Value := do
    if !a.isNull then
      failType "For now, a has to be None in MRG_RandomStream.choice. Sampled values are between 0 and p.shape[1]-1"
    if p.isNull then failType "For now, p has to be specified in MRG_RandomStream.choice."
    let p <- undefinedBelow (<- asTensor p)
    if !dims.isNull then failValue "ndim argument to MRG_RandomStream.choice is not used."
    if (<- ndimOf p) != 2 then cannot "MRG_RandomStream.choice is only implemented for p.ndim = 2"
    let u <- drawsFor r (<- drawRequest .null .null .null k kw) p n
    result (applyTo (.choiceFromUniform (<- strArg d) false) [p, u, <- asTensor n])

open Tensor

def cumOf (axis : Value) (mode : String) (x : Value) : M VarId := do applyTo (.cumOp (<- arg axis) mode) [x]

def sequenceEntries : Table ApiEntry := under "tensor" (opsAndClasses [.contiguous]
  ++ opClasses [.fillDiagonal, .fillDiagonalOffset] ++ [
  -- distinct elements
  cls "Unique" "return_index=False, return_inverse=False, return_counts=False, axis=None" <| of4 fun i v c axis =>
    return Op.unique i v c axis,
  -- running sums
  cls2 "CumOp" "axis=None, mode='add'" fun (axis : Option Int) mode => do
    return Op.cumOp axis (<- oneOf mode ["add", "mul"] do failValue s!"CumOp: Unknown mode \"{<- textOf mode}\""),
  cls "CumsumOp" "*args, **kwargs" fun _ => noAttr,
  cls "CumprodOp" "*args, **kwargs" fun _ => noAttr,
  fn2 "cumsum" "x, axis=None" fun x axis => cumOf axis "add" x,
  fn2 "cumprod" "x, axis=None" fun x axis => cumOf axis "mul" x,
  -- repetitions
  cls1 "RepeatOp" "axis=None" fun axis => return Op.repeatOp axis,
  fn3 "repeat" "x, repeats, axis=None" fun x r axis => do
    let r <- asTensor r
    if (<- ndimOf r) > 1 then failValue "The dimension of repeats should not exceed 1."
    repeatOf x r axis,
  fn2 "squeeze" "x, axis=None" fun x axis => do
    let v <- varArg x
    let b <- bcastOf v
    let axes : Axes <- if let Value.int k := axis then pure (some [k]) else arg axis
    shuffleDims v (b.zipIdx.filterMap fun (one, i) => if one && axes.all (·.contains (i : Int)) then none else some i),
  fn3 "extra_ops.compress" "condition, x, axis=None" fun c x axis => do
    callMethod x "take" [<- callValue (.api "tensor.flatnonzero") [c] []] [("axis", axis)],
  -- diagonals
  applied .fillDiagonal "a, val", applied .fillDiagonalOffset "a, val, offset",
  fn3 "to_one_hot" "y, nb_class, dtype=None" fun y n d => do oneHot y n (<- dtypeOrFloatX d),
  stretched "broadcast_shape" "*arrays", stretched "broadcast_shape_iter" "arrays" ])
where
  applied (o : Op) params := fn (nameFor o) params fun vs => result (applyTo o vs)
  stretched name arrays := fn2 name (arrays ++ ", arrays_are_shapes=False") fun xs s => do
    return Value.tuple (<- stretchedShape xs s)

end TensorGraph
