import TensorGraph.Tensor.Arrange

/-!
# Products

Products are reduced to those of matrices; some update a matrix or a vector. Views and stated shapes follow.
-/

namespace TensorGraph

open Tensor

variable (args : Values)

/-- The product of two tensors of one or two dimensions. -/
def dotNode : M NodeId := do
  match <- tensors args with
  | [x, y] =>
    let bx <- bcastOf x
    let by_ <- bcastOf y
    for (b, i) in [bx, by_].zipIdx do
      if !(b.length == 1 || b.length == 2) then
        failType
          s!"theano.tensor.Dot: input {i} (0-indexed) must have ndim of 1 or 2, {b.length} given. Consider calling theano.tensor.dot instead."
    newNode .dot [x, y] [.ofTensor (<- commonType [<- dtypeOf x, <- dtypeOf y]) (bx.dropLast ++ by_.drop 1)]
  | vs => failType s!"theano.tensor.Dot: 2 arguments required, {vs.length} given "

/-- The entries of a product of matrices, row by row. -/
def matMul (d : DType) (rows inner cols : Nat) (x y : Nat -> Nat -> Elem) : Checked (Array Elem) := do
  let out <- (List.range rows).mapM fun i => (List.range cols).mapM fun j =>
    (List.range inner).foldlM (fun acc k => do
      ScalarKind.add.eval d [acc, <- ScalarKind.mul.eval d [x i k, y k j]]) (.zero d)
  pure out.flatten.toArray

/-- The product of two arrays of at most two dimensions; a single number scales the other. -/
def dotArrays (x y : NdArray) : Checked NdArray := do
  let d := x.dtype.promote y.dtype
  let a := x.cast d
  let b := y.cast d
  match a.shape, b.shape with
  | [], _ | _, [] => applyPromoted .mul none [a, b]
  | s, m :: cs =>
    let n := s.getLastD 0
    if s.length > 2 || cs.length > 1 || n != m then throw .value
    let c := cs.headD 1
    let data <- matMul d (s.dropLast.headD 1) n c (fun i k => a.at' (i * n + k)) fun k j => b.at' (k * c + j)
    return ⟨d, s.dropLast ++ cs, data, 0⟩

def dotPerform : M Value := do
  let [x, y] <- args.mapM arrayOf | badValue
  dotArrays x y

/-- The lengths over which a product does not sum. -/
def dotShape (n : NodeId) (shapes : Shapes) : M Values := do
  let ([x, y], [some xs, some ys]) := (<- insOf n, shapes) | badType
  match <- ndimOf x, <- ndimOf y with
  | 1, 1 => pure []
  | 2, 1 => pure xs.dropLast
  | 1, 2 => return ys.drop (ys.length - 1)
  | 2, 2 => return xs.dropLast ++ ys.drop (ys.length - 1)
  | _, _ => cannot

mutual

/-- A product of any ranks; above two, the last axis of `a` meets the last but one of `b`. -/
def denseDotAt : Nat -> VarId -> VarId -> M VarId
  | 0, _, _ => outOfFuel
  | fuel + 1, a, b => do
    let an <- ndimOf a
    let bn <- ndimOf b
    if an == 0 || bn == 0 then
      let .var v <- operate .mul a b | badType
      pure v
    else if an > 2 || bn > 2 then tensordotAt fuel false a b (.inr ([(an : Int) - 1], [((bn - 2 : Nat) : Int)]))
    else apply1 .dot [a, b]

/-- Sums over the last axes of `a` and the first of `b`, as a product of matrices; listed axes are moved there first. -/
def tensordotAt : Nat -> Bool -> VarId -> VarId -> Int ⊕ (List Int × List Int) -> M VarId
  | 0, _, _, _, _ => outOfFuel
  | fuel + 1, batched, a, b, .inl axes => do
    let an <- ndimOf a
    let bn <- ndimOf b
    for (name, n) in [("a", an), ("b", bn)] do
      if axes > n then
        failValue s!"axes can not be larger than the dimension of {name} ({name}.ndim={n}, axes={axes})"
      if batched && axes == n then
        failValue s!"axes to sum over must not include the batch axis of {name} ({name}.ndim={n}, axes={axes})"
    let k := axes.toNat
    let batch := if batched then 1 else 0
    let sa <- shape a
    let sb <- shape b
    let range (lo hi : Nat) := .slice lo hi .null
    let outShape <- join 0 [<- getItem 3 sa (range 0 (an - k)), <- getItem 3 sb (range (batch + k) bn)]
    let outBcast := ((<- bcastOf a).take (an - k)) ++ ((<- bcastOf b).drop (batch + k))
    let mut a1 := 1
    let mut b0 := 1
    for i in List.range k do
      a1 <- operate .mul a1 (<- shapeAt a (-((i : Int) + 1)))
      b0 <- operate .mul b0 (<- shapeAt b (batch + i : Nat))
    let mut a0 := 1
    for i in List.range (an - k - batch) do a0 <- operate .mul a0 (<- shapeAt a (batch + i : Nat))
    let mut b1 := 1
    for i in List.range (bn - k - batch) do b1 <- operate .mul b1 (<- shapeAt b (-((i : Int) + 1)))
    let head v := do if batched then return [.var (<- shapeAt v 0)] else return []
    let ar <- reshapeTo a (<- newList ((<- head a) ++ [a0, a1])) none
    let br <- reshapeTo b (<- newList ((<- head b) ++ [b0, b1])) none
    let out <- if batched then batchedDotAt fuel ar br else denseDotAt fuel ar br
    patternBroadcast (<- reshapeTo out outShape (some outBcast.length)) outBcast
  | fuel + 1, batched, a, b, .inr (ax, bx) => do
    if ax.length != bx.length then failValue "Axes elements must have the same length."
    let an <- ndimOf a
    let bn <- ndimOf b
    for (i, name, n, l) in [(0, "a", an, ax), (1, "b", bn, bx)] do
      if l.length > n then
        failValue ("axes[" ++ toString (i : Nat) ++ "] should be array_like with length less than the dimensions of "
          ++ name ++ " (" ++ name ++ ".ndim=" ++ toString n ++ ", len(axes[0])=" ++ toString l.length ++ ").")
      let top := l.foldl max (l.headD 0)
      if !l.isEmpty && top >= n then
        failValue s!"axes[{i}] contains dimensions greater than or equal to {name}.ndim ({name}.ndim={n}, max(axes[0])={top})."
      if batched && l.contains 0 then
        failValue s!"axes to sum over must not contain the batch axis (axes[{i}]=[{commaList (l.map toString)}])"
    let batch := if batched then [0] else []
    let others n l :=
      ((List.range n).map Int.ofNat).filter fun d => !l.contains d && !batch.contains d
    let shuffle v l := do
      let shown := s!"[{commaList (l.map toString)}]"
      let places <- l.mapM fun d => do
        if d < 0 then badIndex
        return .dim d.toNat
      applyTo (<- dimShuffleOp (<- bcastOf v) places shown) [v]
    let a' <- shuffle a (batch ++ others an ax ++ ax)
    tensordotAt fuel batched a' (<- shuffle b (batch ++ bx ++ others bn bx)) (.inl ax.length)

/-- The products of the parts along a common first axis. -/
def batchedDotAt : Nat -> VarId -> VarId -> M VarId
  | 0, _, _ => outOfFuel
  | fuel + 1, a, b => do
    let an <- ndimOf a
    let bn <- ndimOf b
    let spread v n := dimshuffle v (.dim 0 :: .replicate (n - 1) .new)
    if an == 0 then failType "a must have at least one (batch) axis"
    else if bn == 0 then failType "b must have at least one (batch) axis"
    else if an == 1 then mul (<- spread a bn) b
    else if bn == 1 then mul a (<- spread b an)
    else if an > 3 || bn > 3 then tensordotAt fuel true a b (.inr ([(an : Int) - 1], [((max 1 (bn - 2) : Nat) : Int)]))
    else apply1 (.blas .batchedDot) [a, b]

end

namespace Tensor

variable (a b axes : Value)

def denseDot : M VarId := do denseDotAt 10 (<- asTensor a) (<- asTensor b)
def batchedDot : M VarId := do batchedDotAt 10 (<- asTensor a) (<- asTensor b)

/-- The axes that are asked for: how many, or which of either operand. -/
def productAxes : M (Int ⊕ (List Int × List Int)) := do
  match <- members? axes with
  | none =>
    match axes with
    | .float f => return .inl ((truncFloat f).getD 0)
    | a => return .inl (<- intArg a)
  | some [p, q] =>
    let ints v := do ((<- members? v).getD [v]).mapM intArg
    return .inr (<- ints p, <- ints q)
  | some _ => failValue "Axes should be an integer or a list/tuple of len 2 (\x7baxes\x7d was provided)"

/-- The sum over axes; the first axis of both may number a batch. -/
def tensordot (batched : Bool := false) : M VarId := do
  let a <- asTensor a
  tensordotAt 10 batched a (<- asTensor b) (<- productAxes axes)

def outer (x y : VarId) : M VarId := do
  let x <- if (<- ndimOf x) != 1 then flattenTo x else pure x
  let y <- if (<- ndimOf y) != 1 then flattenTo y else pure y
  denseDot (<- dimshuffle x [.dim 0, .new]) (<- dimshuffle y [.new, .dim 0])

end Tensor

/-- A gradient with the flags of the variable that it belongs to. -/
def fitted (g x : VarId) : M VarId := do
  if (<- bcastOf g) == (<- bcastOf x) then return g
  patternBroadcast g (<- bcastOf x)

/-- The gradients of a product by its factors. -/
def dotGrad (x y gz : VarId) : M Vars := do
  let (gx, gy) <- match <- ndimOf x, <- ndimOf y, <- ndimOf gz with
    | _, _, 0 => do pure (<- mul gz y, <- mul gz x)
    | 1, 2, _ => do pure (<- denseDot gz (<- transpose y), <- outer (<- transpose x) gz)
    | 2, 1, _ => do pure (<- outer gz (<- transpose y), <- denseDot (<- transpose x) gz)
    | 2, 2, _ => do pure (<- denseDot gz (<- transpose y), <- denseDot (<- transpose x) gz)
    | _, _, _ => raise .runtime
  let gx <- fitted gx x
  let gy <- fitted gy y
  for g in [gx, gy] do check (<- dtypeOf g).isFloat
  pure [gx, gy]

end TensorGraph

/-! ## Products that update -/

namespace TensorGraph.Blas

open Tensor

/-- Refuses, and names what the refusal is about. -/
def complain (k : FaultKind) (m about : String) : M α := fail k (tupleText [quoted m, about])
def dtypesText (ds : List DType) : String := tupleText (ds.map fun d => quoted d.name)
/-- The types for which there are routines for products. -/
def isNative (d : DType) : Bool := d == .float32 || d == .float64 || d == .complex64 || d == .complex128
def isInexact (d : DType) : Bool := d.isFloat || d.isComplex

/-! ## Application -/

variable (b : BlasOp) (o : Op) (args : Values) (a : NdArray) (x y : NdArray)

/-- All operands have the same type. -/
def checkTypes (vs : Vars) (what : String) : M Unit := do
  let ds <- vs.mapM dtypeOf
  if ds.eraseDups.length != 1 then complain .type (what ++ " requires matching dtypes") (dtypesText ds)

/-- An operand has the rank that is wanted. -/
def checkRank (k : Nat) (shown : VarId -> M String) (what : String) (v : VarId) : M Unit := do
  if (<- ndimOf v) != k then complain .type what (<- shown v)

/-- `beta * y + alpha * dot(a, x)` for vectors `x` and `y`. -/
def gemvNode : M NodeId := do
  let [y, alpha, a, x, beta] <- tensors args | badType
  checkTypes [y, a, x] "Gemv"
  checkRank 2 typeText "gemv requires matrix for A" a
  checkRank 1 typeText "gemv requires vector for x" x
  checkRank 1 typeText "gemv requires vector for y" y
  newNode o [y, alpha, a, x, beta] [<- typeOf y]

/-- `a + alpha * outer(x, y)`. -/
def gerNode : M NodeId := do
  let [a, alpha, x, y] <- tensors args | badType
  checkTypes [a, alpha, x, y] "ger"
  checkRank 0 typeText "ger requires scalar alpha" alpha
  checkRank 2 typeText "ger requires matrix for A" a
  checkRank 1 typeText "ger requires vector for x" x
  checkRank 1 typeText "ger requires vector for y" y
  let d <- dtypeOf x
  if !isNative d then complain .type "only float and complex types supported" (quoted d.name)
  newNode o [a, alpha, x, y] [<- typeOf a]

/-- `b * z + a * dot(x, y)`. What is written over may not be seen through `x` or `y`. -/
def gemmNode (inplace : Bool) (args : Values) : M NodeId := do
  match <- tensors args with
  | [z, a, x, y, b] =>
    if inplace then
      let roots <- viewRoots 1000 z
      for w in [x, y] do
        if (<- viewRoots 1000 w).any roots.contains then
          complain .inconsistency "argument z aliased to x or y" (tupleText [<- varText z, <- varText w])
    [z, x, y].forM (checkRank 2 varText "gemm only works for rank 2")
    [a, b].forM (checkRank 0 varText "gemm requires scalar argument")
    checkTypes [z, a, x, y, b] "gemm"
    let d <- dtypeOf z
    if !isInexact d then complain .type "gemm requires floating-point dtypes" (quoted d.name)
    newNode o [z, a, x, y, b] [<- typeOf z]
  | vs => failType s!"Wrong number of inputs for {<- opText o} (expected 5, got {vs.length})"

def refuse (v : VarId) : M α := do failType (<- varText v)

/-- The product of two matrices of the same inexact type. -/
def dot22Node : M NodeId := do
  let [x, y] <- tensors args | badType
  for v in [x, y] do if (<- ndimOf v) != 2 || !isInexact (<- dtypeOf v) then refuse v
  if (<- dtypeOf x) != (<- dtypeOf y) then failType "dtype mismatch to Dot22"
  newNode o [x, y] [.ofTensor (<- dtypeOf x) ((<- bcastOf x).take 1 ++ (<- bcastOf y).drop 1)]

/-- The same product times a number. -/
def dot22ScalarNode : M NodeId := do
  match args with
  | [.var x, .var y, .var a] =>
    checkRank 0 varText "gemm requires scalar argument" a
    [x, y].forM (checkRank 2 varText "gemm only works for rank 2")
    checkTypes [a, x, y] "Dot22Scalar"
    let d <- dtypeOf a
    if !isInexact d then complain .type "Dot22Scalar requires float or complex args" (quoted d.name)
    newNode o [x, y, a] [.ofTensor (<- dtypeOf x) ((<- bcastOf x).take 1 ++ (<- bcastOf y).drop 1)]
  | [_, _, _] => noAttr
  | _ => badType

/-- Products of as many matrices, or vectors, as the first axis has entries. -/
def batchedDotNode : M NodeId := do
  match <- tensors args with
  | [x, y] =>
    for (v, i) in [x, y].zipIdx do
      let k <- ndimOf v
      if k != 2 && k != 3 then
        failType ("theano.tensor.blas.BatchedDot: input " ++ toString i ++ " (0-indexed) must have ndim of 2 or 3, "
          ++ toString k ++ " given. Consider calling theano.tensor.batched_dot instead.")
    let d <- commonType [<- dtypeOf x, <- dtypeOf y]
    let bx <- bcastOf x
    let by_ <- bcastOf y
    let ins <- [x, y].mapM fun v => cast (.var v) d
    newNode o ins [.ofTensor d ((bx.headD false || by_.headD false) :: ((bx.drop 1).dropLast ++ by_.drop 2))]
  | vs => failType s!"theano.tensor.blas.BatchedDot: 2 arguments required, {vs.length} given "

/-- An update applied to its operands. -/
def opNode : M NodeId :=
  let o := .blas b
  match b with
  | .gemv _ | .cGemv _ => gemvNode o args
  | .ger _ | .cGer _ | .scipyGer _ => gerNode o args
  | .gemm inplace => gemmNode o inplace args
  | .dot22 => dot22Node o args
  | .dot22Scalar => dot22ScalarNode o args
  | .batchedDot => batchedDotNode o args

/-! ## Evaluation -/

def isOne : Bool := a.item == .int 1
def isNil : Bool := a.item == .int 0

def times (a b : NdArray) : Checked NdArray := applyPromoted .mul none [a, b]
def plus (a b : NdArray) : Checked NdArray := applyPromoted .add none [a, b]

/-- A sum that is written over its first operand, whose shape it must have. -/
def plusOver (a b : NdArray) : Checked NdArray := do
  let s <- plus a b
  if s.shape != a.shape then throw .value
  return { (s.cast a.dtype) with region := a.region }

def shapeText : String := tupleText (a.shape.map toString)

/-- Evaluates the update of a vector; factors of one and zero are not multiplied. -/
def gemv (y alpha a x beta : NdArray) : M NdArray := do
  if y.shape.headD 0 != 0 && x.shape.headD 0 != 0 && isNative y.dtype then
    if a.shape != [y.shape.headD 0, x.shape.headD 0] then
      failValue s!"Incompatible shapes for gemv (beta * y + alpha * dot(A, x)). y: {shapeText y}, A: {shapeText a}, x: {shapeText x}"
  liftFault do
    let out <- dotArrays a x
    let out <- if isOne alpha then pure out else times out alpha
    let out <- if isNil beta then pure out
      else plusOver out (<- if isOne beta then pure y else times beta y)
    return (out.cast y.dtype).fresh

def outer : Checked NdArray :=
  times { x with shape := [x.size, 1] } { y with shape := [1, y.size] }

def ger (a alpha x y : NdArray) : Checked NdArray := do
  let o <- outer x y
  plusOver a (<- if isOne alpha then pure o else times alpha o)

/-- Evaluates the update of a matrix. -/
def gemm (z a x y b : NdArray) : Checked NdArray := do
  let scaled <- if isOne b then pure z else times z b
  let p <- dotArrays x y
  let p <- if isOne a then pure p else times a p
  if isNil b then
    let some s := broadcastShapes [z.shape, p.shape] | throw .value
    if s != z.shape then throw .value else return (p.broadcastTo s).cast z.dtype
  else plusOver scaled p

/-- The products of the parts of two arrays, which must have as many. -/
def batchedDot : M NdArray := do
  let n := x.shape.headD 0
  if n != (y.shape.headD 0) then
    let shown a := toString (a.shape.headD 0)
    failType ("theano.tensor.blas.BatchedDot: inputs [" ++ commaList [x.text, y.text]
      ++ "] must have the same size in axis 0, but have sizes [" ++ commaList [shown x, shown y] ++ "].")
  liftFault do
    let part a i :=
      let k := shapeSize (a.shape.drop 1)
      ⟨a.dtype, a.shape.drop 1, a.data.extract (i * k) (i * k + k), 0⟩
    let parts <- (List.range n).mapM fun i => dotArrays (part x i) (part y i)
    return ⟨x.dtype.promote y.dtype, n :: ((x.shape.drop 1).dropLast ++ y.shape.drop 2),
      parts.foldl (fun acc p => acc ++ p.data) #[], 0⟩

/-- Evaluates an update; in place, the result keeps the memory of what it replaces. -/
def opPerform : M Values := do
  let placed inplace old new := [.array { new with region := if inplace then old.region else 0 }]
  match b, <- args.mapM arrayOf with
  | .gemv inplace, [y, alpha, a, x, beta] | .cGemv inplace, [y, alpha, a, x, beta] =>
    return placed inplace y (<- gemv y alpha a x beta)
  | .ger inplace, [a, alpha, x, y] | .cGer inplace, [a, alpha, x, y] | .scipyGer inplace, [a, alpha, x, y] =>
    return placed inplace a (<- ger a alpha x y)
  | .gemm inplace, [z, a, x, y, b] =>
    if !(a.shape.isEmpty && b.shape.isEmpty) then unmet
    return placed inplace z (<- gemm z a x y b)
  | .dot22, [x, y] => pure [<- dotArrays x y]
  | .dot22Scalar, [x, y, a] => pure [<- liftFault do (times (<- dotArrays x y) a)]
  | .batchedDot, [x, y] => pure [<- batchedDot x y]
  | _, _ => badValue

/-! ## Shapes -/

/-- The shape of the result: that of the first operand, but for plain products. -/
def opShapes (shapes : Shapes) : M Shapes := do
  match b, shapes with
  | .dot22, some x :: some y :: _ | .dot22Scalar, some x :: some y :: _ => pure [some (x.take 1 ++ (y.drop 1).take 1)]
  | .batchedDot, [some x, some y] =>
    if !([x, y].all fun s => s.length == 2 || s.length == 3) then cannot
    pure [some (x.dropLast ++ y.drop 2)]
  | _, s :: _ => pure [s]
  | _, [] => badIndex

/-! ## Gradients -/

/-- The gradients of batched products, by the ranks of the factors. -/
def batchedDotGrad (x y g : VarId) : M Vars := do
  let dims l := l.map fun i => if i < 0 then .new else .dim i.toNat
  let at_ v l := dimshuffle v (dims l)
  let product a b := batchedDotAt 10 a b
  let (gx, gy) <- match <- ndimOf g, <- ndimOf x, <- ndimOf y with
    | 1, _, _ => do pure (<- mul (<- at_ g [0, -1]) y, <- mul (<- at_ g [0, -1]) x)
    | _, 3, 2 => do pure (<- mul (<- at_ g [0, 1, -1]) (<- at_ y [0, -1, 1]), <- product (<- at_ x [0, 2, 1]) g)
    | _, 2, 3 => do pure (<- product g (<- at_ y [0, 2, 1]), <- mul (<- at_ x [0, 1, -1]) (<- at_ g [0, -1, 1]))
    | _, 3, 3 => do pure (<- product g (<- at_ y [0, 2, 1]), <- product (<- at_ x [0, 2, 1]) g)
    | _, _, _ => raise .unboundLocal
  pure [<- fitted gx x, <- fitted gy y]

end TensorGraph.Blas

/-! ## Views, copies and shapes -/

namespace TensorGraph

open Tensor

variable (o : Op) (axes : List (Nat × Bool)) (args : Values) (id : Nat) (n : NodeId) (xshape : Values) (x : Value) (i : Nat)

/-- The only argument, a variable. -/
def oneVar : M VarId := do
  match args with
  | [.var v] => pure v
  | [_] => noAttr
  | _ => badType

def sameTypeNode : M NodeId := do
  let v <- oneVar args
  newNode o [v] [<- typeOf v]

/-- A copy that shares no memory with the value. -/
def copyValue : Nat -> Value -> M Value
  | 0, _ => outOfFuel
  | fuel + 1, v => do
    match v with
    | .array a => pure a.fresh
    | .list c => do newList (<- (<- cellItems c).mapM (copyValue fuel))
    | v => pure v

/-! ## Shapes -/

def shapeNode : M NodeId := do
  let [x] := args | badType
  newNode .shape [<- asVariable x] [.ofTensor .int64 [false]]

/-- The lengths of anything that has a shape. -/
def lengthsOf : M (List Nat) := do
  match x with
  | .array a => pure a.shape
  | .sparse m => pure [m.rows, m.cols]
  | .objects s _ => pure s
  | .list _ | .tuple _ =>
    let some a <- numericArray? x | badValue
    pure a.shape
  | _ => pure []

def shapePerform : M Value := do return .array (.ofInts .int64 ((<- lengthsOf x).map .ofNat))

/-- The length of one dimension. -/
def shapeINode (args : Values) : M NodeId := do
  match args with
  | [.var v] =>
    let some n := (<- typeOf v).ndim? | noAttr
    if n <= i then failType s!"('x has too few dimensions for Shape_i', ({<- varText v}, {i}))"
    newNode o [v] [.ofTensor .int64 []]
  | [x] => failType s!"('x must be Variable with ndim attribute', {<- reprOf x})"
  | _ => badType

def shapeIPerform (x : Value) : M Value := do
  let some n := (<- lengthsOf x)[i]? | badIndex
  return .array (.ofElem .int64 (.int n))

/-! ## Stretchable dimensions -/

/-- Changes which dimensions are known to have length one. -/
def rebroadcastNode : M NodeId := do
  let v <- oneVar args
  let t <- typeOf v
  let some n := t.ndim? | noAttr
  if axes.any (·.1 >= n) then failValue "Trying to rebroadcast non-existent dimension"
  let .tensor d b _ := t | badType
  newNode o [v] [.ofTensor d (b.zipIdx.map fun (x, i) => (axes.lookup i).getD x)]

/-- A dimension that is said to have length one must have it. -/
def rebroadcastPerform : M Value := do
  let .array a := x | noAttr
  for (i, b) in axes do
    let n := a.shape.getD i 0
    if b && n != 1 then failValue s!"Dimension {i} in Rebroadcast's input was supposed to be 1 (got {n} instead)"
  pure x

/-- Gradients get the flags back that the variable had. -/
def rebroadcastGrad (x gz : VarId) : M Vars := do
  let b <- bcastOf x
  pure [<- rebroadcastRaw gz (axes.map fun (i, _) => (i, b.getD i false))]

def rebroadcastShape : M Values := do
  let one <- tensorConstant 1
  return xshape.zipIdx.map fun (d, i) => if (axes.lookup i).getD false then one else d

/-! ## Stated shapes -/

/-- States the shape of a variable; a constant must have an entry for each dimension. -/
def specifyShapeNode : M NodeId := do
  let [x, s] := args | badType
  let v <- asVariable x
  let s <- asTensor s
  check ((<- ndimOf s) == 1)
  check (<- dtypeOf s).isInteger
  match <- constant? s with
  | some (.array a) =>
    let some n := (<- typeOf v).ndim? | noAttr
    check (a.size == n)
  | _ => pure ()
  newNode .specifyShape [v, s] [<- typeOf v]

/-- Fails unless the value has the shape that was stated. -/
def specifyShapePerform (x s : Value) : M Value := do
  let want := (<- arrayOf s).toInts
  let have_ <- lengthsOf x
  check (have_.length == want.length)
  check (have_.map .ofNat == want)
  pure x

def specifyShapeShape : M Values := do
  let [x, s] <- insOf n | badValue
  let out <- (List.range (<- ndimOf x)).mapM fun (i : Nat) => do
    let some c <- valueOf? (<- atPos s i) | return .var (<- atPos s i)
    return .var (<- asTensor c)
  check (out.length == xshape.length)
  pure out

/-! ## Callers' functions -/

/-- Applies a function of the caller, whose operands must have the types that were declared. -/
def functionOpNode (args : Values) : M NodeId := do
  let f := (<- get).functionOps.getD id default
  if args.length != f.itypes.length then failValue s!"We expected {f.itypes.length} inputs but got {args.length}."
  let vs <- args.mapM fun
    | .var v => pure v
    | _ => noAttr
  let types <- vs.mapM typeOf
  if types != f.itypes then
    failType s!"We expected inputs of types '[{commaList (f.itypes.map Ty.text)}]' but got types '[{commaList (types.map Ty.text)}]'"
  newNode (.fromFunction id) vs f.otypes

/-- Calls the function, and makes a list of what it returns. -/
def functionOpPerform (args : Values) : M Values := do
  let f := (<- get).functionOps.getD id default
  let r <- M.ask fun k => k.call f.fn args []
  let outs <- match r with
    | .tuple xs => pure xs
    | .list c => cellItems c
    | x => pure [x]
  check (outs.length == (<- outsOf n).length)
  pure outs

/-- The gradients that the caller gave for the function, if any. -/
def functionOpPullback (ins gs : Vars) : M Vars := do
  let f := (<- get).functionOps.getD id default
  let some grad := f.attrs.lookup "grad" | cannot
  let name <- opText (.fromFunction id)
  let items <- match <- callValue grad [<- listOf ins, <- listOf gs] [] with
    | .tuple xs => pure xs
    | .list c => cellItems c
    | v => do failType s!"{name}.grad returned {<- classNameOf v}, expected iterable."
  if items.length != ins.length then failValue s!"{name} returned the wrong number of gradient terms."
  items.mapM fun
    | .var v => pure v
    | .null => noGradientTerm name
    | _ => noAttr

/-- Which operands the caller says that each result depends on. -/
def functionOpConnections : M (Option Links) := do
  let f := (<- get).functionOps.getD id default
  let some pattern := f.attrs.lookup "connection_pattern" | pure none
  let name <- opText (.fromFunction id)
  match <- callValue pattern [n] [] with
  | .list c =>
    let rows <- cellItems c
    let k := (<- insOf n).length
    if rows.length != k then failValue s!"{name}.connection_pattern should have {k} rows but has {rows.length}."
    return some (<- rows.zipIdx.mapM fun (row, i) => do
      let .list d := row | failType (s!"{name}.connection_pattern should return a list of lists, but element {i} is "
        ++ s!"{<- textOf row} of type {<- classTextOf row}.")
      (<- cellItems d).mapM truthOf)
  | v =>
    failType (s!"Op.connection_pattern should return list of list of bool, but for Op={name}got {<- textOf v} with type "
      ++ s!"{<- classTextOf v}.")

/-! ## Printing -/

/-- Writes what is asked of a value, and returns the value. -/
def printPerform (message : String) (attrs : List String) (x : Value) : M Value := do
  for a in attrs do
    let v <- M.ask fun k => k.attr x a
    let v <- match v with
      | .method .. | .lambda .. | .api _ => M.ask fun k => k.call v [] []
      | v => pure v
    putLine s!"{message} {a} = {<- textOf v}"
  pure x

end TensorGraph
