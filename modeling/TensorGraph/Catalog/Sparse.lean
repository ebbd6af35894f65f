import TensorGraph.Catalog.Scalar

/-! # Sparse matrices by name -/

namespace TensorGraph

open SparseExpr

variable (v : Value) (make : SparseFormat -> DType -> SparseOp) (name : String) (f d : Value)

def formatArg : M SparseFormat := do
  let .str s := v | unmet
  let some f := SparseFormat.ofName? s
    | cannot (tupleText [quoted s!"unsupported format \"{s}\" not in list", "['csr', 'csc', 'bsr']"])
  pure f

instance : Arg SparseFormat := ⟨formatArg⟩

def sparseTypeOf : M Ty := do
  if let some d <- dtypeArg d then sparseType (<- formatArg f) d
  else cannot (tupleText [quoted s!"unsupported dtype \"{<- textOf d}\" not in list",
    "[" ++ commaList (elementTypes.map fun d => quoted d.name) ++ "]"])

def sparseVariable (f name dtype : Value) : M Value := do
  let d <- if dtype.isNull then do pure (.str (<- floatX).name) else pure dtype
  newVar (<- sparseTypeOf f d) (<- arg name)

def onStored (args : Values) : M Value := do
  let x :: rest := args | badIndex
  let v <- asSparse x
  compressible (<- formatOf v)
  let xs <- rest.mapM fun a => callValue (.api "scalar.as_scalar") [a] []
  let [d, ind, ptr, shp] <- properties v | badValue
  let d <- callValue f (d :: xs) []
  result (applyTo (op (.csm (<- formatOf v))) [d, ind, ptr, shp])

def storedFn (elementwise : String := name) : ApiRow :=
  fn1 s!"sparse.{name}" "*args" fun args => onStored (.api s!"tensor.{elementwise}") args

def noMap : M Unit := do if !v.isNull then fail .generic "Do not use kmap, it is removed"

def blockOp : M Value := do
  if d.isNull then failValue "The output dtype must be specified."
  let f <- if f.isNull then pure .csc else formatArg f
  return op (make f (<- arg d))

def joinBlocks (blocks f d : Value) : M Value := do
  let vs <- (<- iterate blocks).mapM asSparse
  if d.isNull && vs.isEmpty then badType
  let d <- if d.isNull then do pure (.str (<- commonType (<- vs.mapM dtypeOf)).name) else pure d
  callValue (<- blockOp make f d) (valuesOf vs) []

def binaryFn (f : Value -> Value -> M VarId) : ApiRow :=
  fn2 s!"sparse.{name}" "x, y" f

def unaryFn (name param : String) (f : Value -> M VarId) : ApiRow :=
  fn s!"sparse.{name}" param <| of1 f

def flagCls (name params : String) (make : Bool -> SparseOp) : ApiRow :=
  cls s!"sparse.{name}" params <| of1 fun v => return op (make v)

def kindFn (f : VarId -> M Bool) : ApiRow :=
  fn1 s!"sparse.{name}" "x" fun x => do f (<- variableOnly x)

def sparseEntries : Table ApiEntry := [
  cls2 "sparse.SparseType" "format, dtype" fun f d => do return (<- sparseTypeOf f d),
  fn3 "sparse.matrix" "format, name=None, dtype=None" sparseVariable ]
  ++ ([.csc, .csr, .bsr].flatMap fun f =>
    [fn2 s!"sparse.{f.name}_matrix" "name=None, dtype=None" (sparseVariable f.name),
      val s!"sparse.{f.name}_dmatrix" (.type (.sparse f .float64)), val s!"sparse.{f.name}_fmatrix" (.type (.sparse f .float32))])
  ++ [ unaryFn "csm_data" "csm" data, unaryFn "csm_indices" "csm" indices, unaryFn "csm_indptr" "csm" indptr,
  unaryFn "csm_shape" "csm" shape,
  fn2 "sparse.as_sparse_variable" "x, name=None" (asSparse · ·),
  fn2 "sparse.as_sparse_or_tensor_variable" "x, name=None" (asSparseOrTensor · ·),
  fn2 "sparse.constant" "x, name=None" (SparseExpr.constant · ·),
  unaryFn "sp_ones_like" "x" fun x => do onesLike (<- asSparse x),
  unaryFn "sp_zeros_like" "x" fun x => do SparseExpr.zerosLike (<- asSparse x),
  fn2 "sparse.cast" "variable, dtype" SparseExpr.cast,
  fn2 "sparse.col_scale" "x, s" fun x s => do colScale (<- needVar x) s,
  fn2 "sparse.row_scale" "x, s" fun x s => do rowScale (<- needVar x) s,
  fn3 "sparse.sp_sum" "x, axis=None, sparse_grad=False" fun x a g =>
    do callValue (<- callValue (.api "sparse.SpSum") [a, g] []) [x] [],
  unaryFn "clean" "x" fun x => do apply1 (op (.ensureSortedIndices false)) [<- applyTo (op (.remove0 false)) [x]],
  binaryFn "add" SparseExpr.add, binaryFn "sub" SparseExpr.sub, binaryFn "mul" SparseExpr.mul,
  binaryFn "eq" (compare .equal), binaryFn "neq" (compare .notEqual), binaryFn "lt" (compare .lessThan),
  binaryFn "gt" (compare .greaterThan), binaryFn "le" (compare .lessEqual), binaryFn "ge" (compare .greaterEqual),
  binaryFn "structured_dot" structuredDot, binaryFn "dot" SparseExpr.dot,
  fn3 "sparse.hstack" "blocks, format=None, dtype=None" (joinBlocks .hstack),
  fn3 "sparse.vstack" "blocks, format=None, dtype=None" (joinBlocks .vstack),
  storedFn "structured_sigmoid" "nnet.sigmoid", storedFn "rint" "round_half_to_even",
  fn1 "sparse.structured_monoid" "tensor_op" fun o => return .method (.tuple [o]) "on_stored",
  kindFn "_is_sparse_variable" isSparse, kindFn "_is_dense_variable" isDense,
  fn "sparse._is_dense" "x" fun
    | [.array _] => pure true
    | [.sparse _] => pure false
    | [x] => do cannot (tupleText ["'this function should only be called on sparse.scipy.sparse.spmatrix or numpy.ndarray, not,'",
        <- reprOf x])
    | _ => badType,
  cls "sparse.CSMProperties" "kmap=None" fun vs => do noMap (vs.headD .null); return op .csmProperties,
  cls2 "sparse.CSM" "format, kmap=None" fun f k => do
    match f with
    | Value.str "csr" | .str "csc" => noMap k; return op (.csm (<- formatArg f))
    | f => failWith .value ["\"format must be one of: 'csr', 'csc'\"", <- reprOf f],
  cls "sparse.CSMGrad" "kmap=None" fun vs => do noMap (vs.headD .null); return op .csmGrad,
  cls1 "sparse.Cast" "out_type" fun d => return op (.cast d),
  flagCls "DenseFromSparse" "structured=True" .denseFromSparse,
  cls1 "sparse.SparseFromDense" "format" fun f => return op (.sparseFromDense f),
  cls2 "sparse.SpSum" "axis=None, sparse_grad=True" fun a g => do
    let axis := a.int?
    if !a.isNull && axis != some 0 && axis != some 1 then failValue "Illegal value for self.axis."
    return op (.spSum axis g),
  flagCls "EnsureSortedIndices" "inplace" .ensureSortedIndices, flagCls "Remove0" "inplace=False" .remove0,
  cls2 "sparse.HStack" "format=None, dtype=None" (blockOp .hstack),
  cls2 "sparse.VStack" "format=None, dtype=None" (blockOp .vstack),
  cls2 "sparse.opt.AddSD_ccode" "format, inplace=False" fun f i => return op (.addSDCode f i),
  flagCls "opt.UsmmCscDense" "inplace" .usmmCscDense ]
  ++ (["exp", "log", "pow", "minimum", "maximum", "add"].map fun n => storedFn s!"structured_{n}" n)
  ++ (["sin", "tan", "arcsin", "arctan", "sinh", "arcsinh", "tanh", "arctanh", "sgn", "ceil", "floor", "log1p", "expm1",
    "deg2rad", "rad2deg", "trunc", "sqr", "sqrt", "conj"].map storedFn)
  ++ under "sparse" (opClasses ([.getItem2Lists, .getItem2d, .colScaleCSC, .rowScaleCSC, .structuredDot,
    .structuredDotGradCSC, .structuredDotGradCSR, .dot].map op))
  ++ under "sparse" (opsAndClasses ([.getItemList, .getItemScalar, .transpose, .neg, .diag, .squareDiagonal, .addSS,
    .addSSData, .addSD, .structuredAddSV, .mulSS, .mulSD, .mulSV, .samplingDot, .usmm, .constructFromList].map op))
  ++ under "sparse.opt" (opClasses ([.structuredDotCSC, .structuredDotCSR, .csmGradC, .mulSDCSC, .mulSDCSR, .mulSVCSR,
    .structuredAddSVCSR, .samplingDotCSR].map op))
  ++ under "sparse" ([("csm_properties", .csmProperties), ("CSC", .csm .csc), ("CSR", .csm .csr),
    ("dense_from_sparse", .denseFromSparse true), ("csr_from_dense", .sparseFromDense .csr),
    ("csc_from_dense", .sparseFromDense .csc), ("get_item_list_grad", .getItemListGrad), ("get_item_2lists", .getItem2Lists),
    ("get_item_2lists_grad", .getItem2ListsGrad), ("get_item_2d", .getItem2d),
    ("ensure_sorted_indices", .ensureSortedIndices false), ("remove0", .remove0 false), ("_structured_dot", .structuredDot),
    ("sdg_csc", .structuredDotGradCSC), ("sdg_csr", .structuredDotGradCSR), ("_dot", .dot),
    ("opt.sd_csc", .structuredDotCSC), ("opt.sd_csr", .structuredDotCSR),
    ("opt.usmm_csc_dense", .usmmCscDense false), ("opt.usmm_csc_dense_inplace", .usmmCscDense true),
    ("opt.csm_grad_c", .csmGradC), ("opt.mul_s_d_csc", .mulSDCSC), ("opt.mul_s_d_csr", .mulSDCSR),
    ("opt.mul_s_v_csr", .mulSVCSR), ("opt.structured_add_s_v_csr", .structuredAddSVCSR),
    ("opt.sampling_dot_csr", .samplingDotCSR)].map fun (n, s) => opEntry n (op s))

def isSingleIndex : M Bool := do
  if let .var x := v then return (<- typeOf x) == .ofTensor .int32 [] else return isSingle v

def sparseItem (x index : Value) : M Value := do
  let args := if let .tuple xs := index then xs else [index]
  let whole := result (applyTo (op .getItem2d) [x, .tuple args])
  match args with
  | [a, b] =>
    if (<- isSingleIndex a) && (<- isSingleIndex b) then result (applyTo (op .getItemScalar) [x, .tuple args])
    else if let .list _ := a then result (applyTo (op .getItem2Lists) [x, a, b]) else whole
  | .list c :: _ => result (applyTo (op .getItemList) [x, .list c])
  | [] => badIndex
  | _ => whole

def sparseAttributes : Table (Value -> M Value) := [
  attr_ "sparse.T" transposed,
  attr_ "sparse.format" fun v => do return (<- formatOf v).name,
  attr_ "sparse.shape" denseShape,
  attr_ "sparse.size" fun v => do attrOf (<- data v) "size",
  attr_ "matrix.dtype" fun v => do return .dtype (<- matrixOf v).dtype.name,
  attr_ "matrix.shape" fun v => do
    let m <- matrixOf v
    return .tuple [m.rows, m.cols],
  attr_ "matrix.ndim" fun _ => return 2,
  attr_ "matrix.format" fun v => do return (<- matrixOf v).format.name,
  attr_ "matrix.size" fun v => do return (<- matrixOf v).data.size,
  attr_ "matrix.T" fun v => do return .sparse (<- matrixOf v).transpose,
  attr_ "matrix.data" fun v => do return (<- matrixOf v).dataArray,
  attr_ "matrix.indptr" fun v => do
    return .array (.ofInts .int32 ((<- matrixOf v).indptr.toList.map fun (k : Nat) => (k : Int))) ]
where
  matrixOf : Value -> M SparseMatrix
    | .sparse m => pure m
    | _ => noAttr

def sparseMethods : Table Callable := [
  meth "SparseType.values_eq" "a, b" fun
    | [_, .sparse a, .sparse b] => do
      if a.rows != b.rows || a.cols != b.cols then badValue
      return .ofTest (a.distance b == 0)
    | [_, _, _] => pure false
    | _ => badType,
  meth "SparseType.values_eq_approx" "a, b, eps=1e-6" fun
    | [_, .sparse a, .sparse b, eps] => do
      if a.rows != b.rows || a.cols != b.cols then badValue
      let e <- floatValue eps
      let sizes := a.differences b
      if sizes.isEmpty then return true else return .ofTest (sizes.all (· < e))
    | [_, _, _, _] => pure false
    | _ => badType,
  meth "SparseType.may_share_memory" "a, b" fun _ => return false,
  meth "SparseType.get_size" "shape_info" fun
    | [.type (.sparse _ d), i] => do
      let _ :: a :: b :: c :: _ <- iterate i | badIndex
      return ((<- intArg a) * d.itemSize + ((<- intArg b) + (<- intArg c)) * 4)
    | _ => badType,
  meth "sparse.astype" "dtype" fun vs => callValue (.api "sparse.cast") vs [],
  meth1 "sparse.toarray" "" toDense,
  meth1 "sparse.zeros_like" "" (SparseExpr.zerosLike ·),
  structuredDot "dot", structuredDot "__dot__",
  meth2 "sparse.__rdot__" "left" fun x y => callValue (.api "sparse.structured_dot") [y, x] [],
  meth2 "sparse.__getitem__" "args" sparseItem,
  meth "tuple.on_stored" "f" fun
    | [.tuple [o], _] => return .method (.tuple [o]) "apply_to_stored"
    | _ => badType,
  meth "tuple.apply_to_stored" "*args" fun
    | [.tuple [o], .tuple args] => onStored o args
    | _ => badType,
  meth "matrix.toarray" "" fun
    | [.sparse m] => pure m.toArray
    | _ => badType,
  meth1 "matrix.copy" "" fun m => return m ]
where
  structuredDot name := meth s!"sparse.{name}" "right" fun vs => callValue (.api "sparse.structured_dot") vs []

end TensorGraph
