import TensorGraph.Tensor.ConstantValue

/-! # Applying operators on sparse matrices -/

namespace TensorGraph.SparseExpr

open Tensor (atPos minimum)

variable (x : Value) (s : SparseOp) (args : Values)

def compressed : M VarId := do
  let v <- asSparse x
  compressible (<- formatOf v)
  pure v

def compressedPair (x y : Value) : M (VarId × VarId) := do
  let a <- asSparse x
  let b <- asSparse y
  compressible (<- formatOf a)
  compressible (<- formatOf b)
  pure (a, b)

def needVar : M VarId := if let .var v := x then pure v else noAttr

def asIndices : M Value := do
  if let .var _ := x then return x
  let some a <- numericArray? x | badValue
  let b := a.cast .int32
  check (a.equalValues b)
  pure b

def vectorOf (d : DType) : Ty := .ofTensor d [false]

def needIndices (what : String) (v : VarId) : M Unit := do
  let d <- dtypeOf v
  if (<- ndimOf v) != 1 || !(d.isInteger && elementTypes.contains d) then
    failWith .type [quoted what, <- varText v, <- typeText v]

def csmNode (f : SparseFormat) (args : Values) : M NodeId := do
  let d :: rest := args | badType
  let d <- asTensor d
  let [ind, ptr, shp] <- (<- rest.mapM asIndices).mapM fun x => asTensor x | badType
  if (<- ndimOf d) != 1 then
    failWith .type ["'data argument must be a vector'", <- typeText d, toString (<- ndimOf d)]
  needIndices "indices must be vector of integers" ind
  needIndices "indices must be vector of integers" ptr
  needIndices "n_rows must be integer type" shp
  newNode (op (.csm f)) [d, ind, ptr, shp] [<- sparseType f (<- dtypeOf d)]

def noBound : VarId := ⟨1⟩

def boundVar (name : String) (x : Value) : M VarId := do
  if x.isNull then return noBound
  let v <- asVariable x
  let d <- dtypeOf v
  if (<- ndimOf v) != 0 || !d.isDiscrete then
    failWith .value [quoted s!"Impossible to index into a sparse matrix with slice where {name}={<- varText v}",
      toString (<- ndimOf v), quoted d.name]
  pure v

def isSingle (v : Value) : Bool := v matches .int _ | .float _ | .bool _ | .complex .. | .str _ | .bytes _ | .number ..

def itemParts : M (VarId × Values) := do
  let [x, index] := args | badType
  let v <- compressed x
  let some parts <- members? index | badType
  pure (v, parts)

def getItem2dNode : M NodeId := do
  let (v, parts) <- itemParts args
  check (parts.length == 1 || parts.length == 2)
  let bounds <- parts.flatMapM fun i => do
    let .slice a b c := i
      | let isScalarVar <- if let .var w := i then do pure ((<- typeOf w) matches .tensor _ [] _) else pure false
        if isScalarVar || isSingle i then noVector
        failValue s!"Advanced indexing is not implemented for sparse matrices. Argument not supported: {<- textOf i}"
    let step <- if !(c matches .null | .var _) && (<- truthOf (<- operate .eq c 1)) then pure noBound
      else boundVar "step" c
    return [<- boundVar "start" a, <- boundVar "stop" b, step]
  let rest := if parts.length == 1 then [noBound, noBound, noBound] else []
  newNode (op .getItem2d) (v :: bounds ++ rest) [<- typeOf v]

def getItemScalarNode : M NodeId := do
  let (v, parts) <- itemParts args
  check (parts.length == 2)
  let ins <- parts.mapM fun i => do
    match i with
    | .slice .. => fail (.named "Exception") "GetItemScalar called with a slice as index!"
    | .int _ | .bool _ => asTensor i
    | .var w => if (<- ndimOf w) == 0 then return w else cannot
    | .number .. => notVariable i
    | _ => noAttr
  newNode (op .getItemScalar) (v :: ins) [.ofTensor (<- dtypeOf v) []]

def dotNode : M NodeId := do
  let [x, y] := args | badType
  let a <- needVar (<- adopt x)
  let b <- needVar (<- adopt y)
  let d <- commonType [<- dtypeOf a, <- dtypeOf b]
  let sa <- isSparse a
  let sb <- isSparse b
  if !sa && !sb then
    failType ("Sparse dot product should have at least one sparse variable as inputs, but the inputs are "
      ++ (<- varText a) ++ s!" ({<- typeText a}" ++ ") and " ++ (<- varText b) ++ s!" ({<- typeText b}).")
  let side v other sparse text := do
    if sparse then return [false, false]
    compressible (<- formatOf other)
    let n <- ndimOf v
    if n != 1 && n != 2 then failType s!"theano.sparse.Dot: input {text} must have ndim of 1 or 2, {n} given."
    bcastOf v
  let bx <- side a b sa "0 (0-indexed)"
  newNode (op .dot) [a, b] [.ofTensor d (bx.dropLast ++ (<- side b a sb "1 (1-indexed)").drop 1)]

def usmmNode : M NodeId := do
  let [alpha, x, y, z] <- args.mapM needVar | badType
  if !(<- isSparse x) && !(<- isSparse y) then failType (<- varText x)
  let d <- commonType [<- dtypeOf alpha, <- dtypeOf x, <- dtypeOf y, <- dtypeOf z]
  let alpha <- asTensor alpha
  let z <- asTensor z
  check ((<- ndimOf z) == 2)
  check ((<- bcastOf alpha).all id)
  let dense v other := do
    if <- isSparse v then return v
    let v <- asTensor v
    compressible (<- formatOf other)
    check ((<- ndimOf v) == 2)
    return v
  let x <- dense x y
  newNode (op .usmm) [alpha, x, <- dense y x, z] [.ofTensor d [false, false]]

def usmmCscDenseNode (inplace : Bool) (args : Values) : M NodeId := do
  let [alpha, val, ind, ptr, rows, y, z] <- tensors args | badType
  for v in [ind, ptr, rows] do check ((<- dtypeOf v) == .int32)
  check ((<- bcastOf alpha) == [true, true])
  check ((<- ndimOf val) == 1)
  check ((<- ndimOf y) == 2)
  check ((<- ndimOf z) == 2)
  let d <- commonType [<- dtypeOf alpha, <- dtypeOf val, <- dtypeOf y, <- dtypeOf z]
  if d != .float32 && d != .float64 then cannot "only float types are supported in operands"
  if inplace then check ((<- dtypeOf z) == d)
  let fit v := Tensor.cast v d
  let y <- fit y
  newNode (op (.usmmCscDense inplace)) [<- fit alpha, <- fit val, ind, ptr, rows, y, <- fit z]
    [.ofTensor d [false, (<- bcastOf y).getD 1 false]]

def samplingDotCSRNode : M NodeId := do
  let [x, y, val, ind, ptr, cols] <- tensors args | badType
  check ((<- dtypeOf cols) == .int32)
  let d <- commonType [<- dtypeOf x, <- dtypeOf y, <- dtypeOf val]
  let e <- commonType [<- dtypeOf x, <- dtypeOf y]
  newNode (op .samplingDotCSR) [<- Tensor.cast x e, <- Tensor.cast y e, val, ind, ptr, cols]
    [vectorOf d, vectorOf (<- dtypeOf ind), vectorOf (<- dtypeOf ptr)]

def constructFromListNode : M NodeId := do
  let [x, values, ilist] := args | badType
  let v <- asTensor x
  let vals <- asTensor values
  let il <- asTensor ilist
  if !(<- dtypeOf il).isInteger then failType "index must be integers"
  if (<- ndimOf il) != 1 then failType "index must be vector"
  if (<- ndimOf v) != 2 then failType s!"cannot create a sparse matrix with {<- ndimOf v} dimensions"
  if (<- ndimOf vals) != 2 then failType s!"cannot create a sparse matrix from values with {<- ndimOf vals} ndim"
  newNode (op .constructFromList) [<- Tensor.shape v, vals, il] [<- sparseType .csc (<- dtypeOf (<- needVar x))]

def indexedNode : M NodeId := do
  let index vector x := do
    let i <- asTensor x
    if vector then check ((<- ndimOf i) == 1)
    check (<- dtypeOf i).isInteger
    return i
  match s, args with
  | .getItemList, [x, i] =>
    let v <- compressed x
    newNode (op s) [v, <- index true i] [<- typeOf v]
  | .getItemListGrad, [x, i, g] =>
    let (v, w) <- compressedPair x g
    newNode (op s) [v, <- index true i, w] [<- typeOf v]
  | .getItem2Lists, [x, i, j] =>
    let v <- compressed x
    newNode (op s) [v, <- index false i, <- index false j] [vectorOf (<- floatX)]
  | .getItem2ListsGrad, [x, i, j, g] =>
    let v <- compressed x
    newNode (op s) [v, <- index true i, <- index true j, <- needVar g] [<- typeOf v]
  | _, _ => badType

def pairNode (x y : Value) : M NodeId := do
  let shared a b := do commonType [<- dtypeOf a, <- dtypeOf b]
  match s with
  | .addSS | .mulSS =>
    let (a, b) <- compressedPair x y
    newNode (op s) [a, b] [<- sparseType (<- formatOf a) (<- shared a b)]
  | .addSSData =>
    let (a, b) <- compressedPair x y
    if (<- dtypeOf a) != (<- dtypeOf b) || (<- formatOf a) != (<- formatOf b) then cannot
    newNode (op s) [a, b] [<- typeOf a]
  | .addSD | .mulSD =>
    let a <- asSparse x
    let b <- asTensor y
    compressible (<- formatOf a)
    let d <- shared a b
    let n <- ndimOf b
    check (n == 2 || (s == .mulSD && n == 0))
    newNode (op s) [a, b] [<- if s == .mulSD then do sparseType (<- formatOf a) d else do pure (.ofTensor d (<- bcastOf b))]
  | .structuredAddSV | .mulSV =>
    let a <- compressed x
    let b <- asTensor y
    check ((<- ndimOf b) == 1)
    if (<- dtypeOf a) != (<- dtypeOf b) then
      if s == .structuredAddSV then cannot
      cannot s!"MulSV not implemented for differing dtypes.Got {(<- dtypeOf a).name} and {(<- dtypeOf b).name}."
    newNode (op s) [a, b] [<- typeOf a]
  | .compareSS _ =>
    let a <- asSparse x
    let b <- asSparse y
    if (<- formatOf a) != (<- formatOf b) then cannot
    newNode (op s) [a, b] [<- sparseType (<- formatOf a) .uint8]
  | .compareSD _ =>
    let a <- asSparse x
    let b <- asTensor y
    check ((<- ndimOf b) == 2)
    newNode (op s) [a, b] [.ofTensor .uint8 [false, false]]
  | .colScaleCSC =>
    let a <- needVar x
    if (<- formatOf a) != .csc then failValue "x was not a csc matrix"
    newNode (op s) [a, <- needVar y] [<- typeOf a]
  | .rowScaleCSC =>
    let a <- compressed x
    newNode (op s) [a, <- needVar y] [<- typeOf a]
  | .structuredDot =>
    let a <- asSparse x
    let b <- needVar y
    let d <- shared a b
    if (<- ndimOf b) != 2 then cannot "non-matrix b"
    newNode (op s) [a, b] [<- if <- isSparse b then do sparseType (<- formatOf a) d
      else do pure (.ofTensor d [false, (<- bcastOf b).getD 1 false])]
  | _ => badType

def partsNode : M NodeId := do
  match s, args with
  | .mulSDCSC, [a, i, p, b] | .mulSDCSR, [a, i, p, b] | .mulSVCSR, [a, i, p, b] =>
    let b <- needVar b
    check ((<- ndimOf b) == if s == .mulSVCSR then 1 else 2)
    newNode (op s) [<- needVar a, <- needVar i, <- needVar p, b] [vectorOf (<- dtypeOf b)]
  | .structuredAddSVCSR, [a, i, p, b] =>
    let b <- asTensor b
    let vs := (<- tensors [a, i, p]) ++ [b]
    for v in vs do check ((<- ndimOf v) == 1)
    newNode (op s) vs [vectorOf (<- dtypeOf b)]
  | .structuredDotGradCSC, [_, _, _, g] | .structuredDotGradCSR, [_, _, g, _] =>
    newNode (op s) (<- args.mapM needVar) [vectorOf (<- dtypeOf (<- needVar g))]
  | .structuredDotCSC, [a, _, _, _, b] | .structuredDotCSR, [a, _, _, b] =>
    let a <- needVar a
    let b <- needVar b
    let d <- commonType [<- dtypeOf a, <- dtypeOf b]
    let some c := (<- bcastOf b)[1]? | badIndex
    newNode (op s) (<- args.mapM needVar) [.ofTensor d [false, c]]
  | .csmGrad, [_, _, _, _, g, _, _, _] | .csmGradC, [_, _, _, _, g, _, _, _] =>
    newNode (op s) (<- args.mapM needVar) [<- typeOf (<- needVar g)]
  | _, _ => badType

def opNode : M NodeId := do
  let o := op s
  match s, args with
  | .csm f, _ => csmNode f args
  | .denseFromSparse _, [x] =>
    let v <- asSparse x
    newNode o [v] [.ofTensor (<- dtypeOf v) [false, false]]
  | .sparseFromDense f, [x] =>
    let v <- asTensor x
    let v <- match <- ndimOf v with
      | 0 => dimshuffle v [.new, .new]
      | 1 => dimshuffle v [.new, .dim 0]
      | 2 => pure v
      | n => failType s!"Theano does not have sparse tensor types with more than 2 dimensions, but {<- varText v}.ndim = {n}"
    newNode o [v] [<- sparseType f (<- dtypeOf v)]
  | .getItem2d, _ => getItem2dNode args
  | .getItemScalar, _ => getItemScalarNode args
  | .squareDiagonal, [x] =>
    let v <- asTensor x
    if (<- ndimOf v) != 1 then failWith .type ["'data argument must be a vector'", <- typeText v]
    newNode o [v] [<- sparseType .csc (<- dtypeOf v)]
  | .hstack f d, xs | .vstack f d, xs =>
    if xs.isEmpty then failValue "Cannot join an empty list of sparses."
    let vs <- xs.mapM asSparse
    for v in vs do compressible (<- formatOf v)
    newNode o vs [<- sparseType f d]
  | .samplingDot, [x, y, p] =>
    let a <- asTensor x
    let b <- asTensor y
    let q <- compressed p
    newNode o [a, b, q] [<- typeOf q]
  | .dot, _ => dotNode args
  | .usmm, _ => usmmNode args
  | .usmmCscDense i, _ => usmmCscDenseNode i args
  | .samplingDotCSR, _ => samplingDotCSRNode args
  | .constructFromList, _ => constructFromListNode args
  | .addSDCode f inplace, [x, y] =>
    let a <- asSparse x
    let b <- asTensor y
    let d <- commonType [<- dtypeOf a, <- dtypeOf b]
    if inplace then check (d == (<- dtypeOf b))
    let ind <- indices a
    let ptr <- indptr a
    let val <- data a
    check ((<- formatOf a) == f)
    check ((<- ndimOf b) == 2)
    newNode o [val, ind, ptr, b] [.ofTensor d (<- bcastOf b)]
  | .getItemList, _ | .getItemListGrad, _ | .getItem2Lists, _ | .getItem2ListsGrad, _ => indexedNode s args
  | _, [x, y] => pairNode s x y
  | .csmProperties, [x] | .cast _, [x] | .transpose, [x] | .neg, [x] | .ensureSortedIndices _, [x] | .remove0 _, [x]
  | .spSum .., [x] | .diag, [x] =>
    let v <- compressed x
    let d <- dtypeOf v
    let types <- match s with
      | .csmProperties => pure (vectorOf d :: .replicate 3 (vectorOf .int32))
      | .cast e => do pure [<- sparseType (<- formatOf v) e]
      | .transpose => do pure [.sparse (if (<- formatOf v) == .csc then .csr else .csc) d]
      | .spSum axis _ => pure [.ofTensor d (if axis.isSome then [false] else [])]
      | .diag => pure [vectorOf d]
      | _ => do pure [<- typeOf v]
    newNode o [v] types
  | _, _ => partsNode s args

/-! ## Shapes -/

def opShapes (n : NodeId) (shapes : Shapes) : M Shapes := do
  let ins <- insOf n
  let at_ k := if let some l := shapes.getD k none then pure l else badType
  let dim k i := do
    let some d := (<- at_ k)[i]? | badIndex
    return d
  let read k := do
    let v := ins.getD k default
    return [some [(<- atPos v 0), (<- atPos v 1)]]
  let total (i : Nat) := do
    (<- (List.range shapes.length).mapM fun k => dim k i).foldlM (operate .add) 0
  match s with
  | .csm _ => read 3
  | .constructFromList => read 0
  | .csmGrad | .addSD => pure [shapes.getD 1 none]
  | .addSDCode .. => pure [shapes.getD 3 none]
  | .samplingDot => pure [shapes.getD 2 none]
  | .cast _ | .ensureSortedIndices _ | .remove0 _ => pure shapes
  | .getItemList => return [some [<- dim 1 0, <- dim 0 1]]
  | .getItemScalar => return [some []]
  | .transpose => pure [some (<- at_ 0).reverse]
  | .spSum none _ => return [some []]
  | .spSum (some k) _ => return [some [<- dim 0 (if k == 0 then 1 else 0)]]
  | .diag =>
    let [a, b] <- at_ 0 | badType
    return [some [(<- minimum a b)]]
  | .squareDiagonal => return [some [<- dim 0 0, <- dim 0 0]]
  | .hstack .. => return [some [<- dim 0 0, <- total 1]]
  | .vstack .. => return [some [<- total 0, <- dim 0 1]]
  | .structuredDot => return [some [<- dim 0 0, <- dim 1 1]]
  | .dot =>
    match <- ndimOf (ins.getD 0 default), <- ndimOf (ins.getD 1 default) with
    | 2, 2 => return [some [<- dim 0 0, <- dim 1 1]]
    | 1, 2 => return [some [<- dim 1 1]]
    | 2, 1 => return [some [<- dim 0 0]]
    | _, _ => return [some []]
  | _ => pure [shapes.getD 0 none]

end TensorGraph.SparseExpr
