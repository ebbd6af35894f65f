import TensorGraph.Tensor.Reduce

/-! # Softmax and cross-entropy -/

namespace TensorGraph.Net

open Tensor

variable (o : NetOp) (x : NdArray) (a : NdArray) (v : VarId)

def op : Op := .net o
def arr (k : ScalarKind) (ins : List NdArray) : M NdArray := applyPromoted k none ins
def column : NdArray := { a with shape := a.shape ++ [1] }

def isFloatTensor (ndims : List Nat) : M Bool := do
  return ndims.contains (<- ndimOf v) && (<- dtypeOf v).isFloat

/-! ## Application -/

def rowsVar (x : Value) : M VarId := do
  let v <- asTensor x
  if !(<- isFloatTensor v [1, 2]) then failValue s!"x must be 1-d or 2-d tensor of floats. Got {<- typeText v}"
  if (<- ndimOf v) == 1 then padLeft v 1 else pure v

def refuseShape (what : String) (v : VarId) : M α := do failWith .value [quoted what, <- typeText v]

def checkLabels : M Unit := do
  if (<- ndimOf v) != 1 || !(<- dtypeOf v).isDiscrete then refuseShape "y_idx must be 1-d tensor of [u]ints" v

def softmaxNode (args : Values) : M NodeId := do
  match o, args with
  | .softmax, [x] | .logSoftmax, [x] =>
    let v <- rowsVar x
    newNode (op o) [v] [<- typeOf v]
  | .softmaxWithBias, [x, b] =>
    let v <- asTensor x
    let w <- asTensor b
    if !(<- isFloatTensor v [2]) then failValue "x must be 2-d tensor of floats"
    if !(<- isFloatTensor w [1]) then failValue "b must be 1-d tensor of floats"
    newNode (op o) [v, w] [<- typeOf v]
  | .softmaxGrad, [dy, sm] =>
    let d <- asTensor dy
    let s <- asTensor sm
    if !(<- isFloatTensor d [1, 2]) then
      refuseShape "dy must be 1-d or 2-d tensor of floats. Got " d
    let d <- if (<- ndimOf d) == 1 then padLeft d 1 else pure d
    let s <- if (<- ndimOf s) == 1 then padLeft s 1 else pure s
    newNode (op o) [d, s] [<- typeOf s]
  | .xentSoftmaxArgmax, [x, b, y] =>
    let v <- asTensor x
    let w <- asTensor b
    let i <- asTensor y
    if !(<- isFloatTensor v [2]) then refuseShape "x must be 2-d tensor of floats" v
    if (<- ndimOf w) != 1 then refuseShape "b must be 1-d tensor of floats" w
    checkLabels i
    newNode (op o) [v, w, i] [.ofTensor (<- dtypeOf v) (<- bcastOf i), <- typeOf v, <- typeOf i]
  | .xentSoftmaxDx, [dy, sm, y] =>
    let d <- asTensor dy
    let s <- asTensor sm
    let i <- asTensor y
    if !(<- isFloatTensor d [0, 1]) then refuseShape ("dy must be " ++ braced "0,1" ++ "-d tensor of floats") d
    if !(<- isFloatTensor s [2]) then refuseShape "sm must be 2-d tensor of floats" s
    checkLabels i
    newNode (op o) [d, s, i] [<- typeOf s]
  | .xentCategoricalGrad, [g, c, t] =>
    let (.var g, .var c, .var t) := (g, c, t) | noAttr
    newNode (op o) [g, c, t] [<- typeOf c]
  | .xentCategorical, [c, t] =>
    let v <- asTensor c
    let i <- asTensor t
    if (<- ndimOf v) != 2 then failType "matrix required for argument: coding_dist"
    let ti <- typeOf i
    if ti != .ofTensor .int64 [false] && ti != .ofTensor .int32 [false] then
      failType s!"integer vector required for argument: true_one_of_n(got type: {ti.text} instead of: TensorType(int64, vector))"
    newNode (op o) [v, i] [.ofTensor (<- dtypeOf v) [false]]
  | .prependScalarConstant v, [m] =>
    match m with
    | .var mat =>
      let _ <- asTensor mat
      if (<- bcastOf mat) != [false, false] then failType "Expected a matrix as input"
      match v with
      | .word s | .str s => let _ <- asTensor s
      | _ => pure ()
      newNode (op o) [mat] [<- typeOf mat]
    | m => do
      let _ <- asTensor m
      noAttr
  | .prependScalar, [v, m] =>
    let _ <- asTensor m
    let val <- match v with
      | .float x => pure (.var (<- newConstant (.scalar .float64) (.number .float64 (.flt x))))
      | v => pure v
    let .var mat := m | noAttr
    if (<- bcastOf mat) != [false, false] then failType "Expected a matrix as input"
    let y <- asTensor val
    check ((<- ndimOf y) == 0)
    match val with
    | .var w => newNode (op o) [w, mat] [<- typeOf mat]
    | v => notVariable v
  | _, _ => badType

/-! ## Computation -/

def shiftedRows : M NdArray := do
  if x.shape.getD 1 0 == 0 then badValue
  let (top, _) <- maxAndArgmaxOf x [1]
  arr .sub [x, column top]

def softmaxRows : M NdArray := do
  let e <- arr .exp [<- shiftedRows x]
  arr .trueDiv [e, column (<- reduceArray .add [1] e.dtype e)]

variable (dy sm b y : NdArray)

def biasedSoftmax : M NdArray := do
  if b.shape.getD 0 0 != x.shape.getD 1 0 then failValue "b must have same number of columns as x"
  if x.size == 0 then return .zeros x.dtype x.shape
  let z := if x.dtype == .float16 then x.cast .float32 else x
  let e <- arr .exp [<- shiftedRows (<- arr .add [z, { b with shape := 1 :: b.shape }])]
  let scale <- arr .trueDiv [.ofElem .float64 (.flt 1), column (<- reduceArray .add [1] e.dtype e)]
  return (<- arr .mul [e, scale]).cast x.dtype

def logSoftmaxRows : M NdArray := do
  let d <- shiftedRows x
  let e <- arr .exp [d]
  arr .sub [d, <- arr .log [column (<- reduceArray .add [1] e.dtype e)]]

def rowOf (i : Nat) : M NdArray := a.select [.pos i]

def ofRows (d : DType) (shape : List Nat) (rows : List NdArray) : NdArray :=
  ⟨d, shape, rows.foldl (fun acc r => acc ++ (r.cast d).data) #[], 0⟩

def softmaxGradRows : M NdArray := do
  let rows <- (List.range (sm.shape.getD 0 0)).mapM fun i => do
    let s <- rowOf sm i
    let p <- arr .mul [<- rowOf dy i, s]
    arr .sub [p, <- arr .mul [.ofElem .float64 (.flt (p.data.foldl (fun acc e => acc + e.toFloat) 0)), s]]
  return ofRows sm.dtype sm.shape rows

def classesInRange : M Unit := do
  if y.data.any fun e => e.toInt < 0 then failValue "y_i value out of bounds"

def xentRows (out : DType) (x b y : NdArray) : M (List NdArray) := do
  if b.shape.getD 0 0 != x.shape.getD 1 0 then failValue "b must have same number of columns as x"
  if y.shape.getD 0 0 != x.shape.getD 0 0 then failValue "y_idx must have same number of rows as x"
  classesInRange y
  let rows <- (List.range (x.shape.getD 0 0)).mapM fun i => do
    let row <- arr .add [<- rowOf x i, b]
    if row.size == 0 then badValue
    let at_ := greatestAt row.data.toList
    let top := .ofElem row.dtype (row.at' at_)
    let e := (<- arr .exp [<- arr .sub [row, top]]).cast x.dtype
    let total <- reduceArray .add [0] e.dtype e
    let weights := (<- arr .mul [e, <- arr .trueDiv [.ofElem .float64 (.flt 1), total]]).cast x.dtype
    let pos <- positionOf row.size (y.at' i).toInt
    let nll <- arr .add [<- arr .add [<- arr .neg [.ofElem row.dtype (row.at' pos)], top], <- arr .log [total]]
    return (nll, weights, at_)
  return [ofRows out [rows.length] (rows.map (·.1)), ofRows x.dtype x.shape (rows.map (·.2.1)),
    ⟨y.dtype, y.shape, (rows.map fun r => .int r.2.2).toArray, 0⟩]

def xentDxRows : M NdArray := do
  classesInRange y
  let dy := if dy.shape.isEmpty then { dy with shape := [1] } else dy
  let step := if dy.shape.getD 0 0 > 1 then 1 else 0
  let rows <- (List.range (sm.shape.getD 0 0)).mapM fun i => do
    let g <- rowOf dy (i * step)
    let r := (<- arr .mul [g, <- rowOf sm i]).cast sm.dtype
    let pos <- positionOf r.size (<- rowOf y i).item.toInt
    return { r with data := r.data.set! pos ((<- arr .sub [.ofElem r.dtype (r.at' pos), g]).cast sm.dtype).item }
  return ofRows sm.dtype sm.shape rows

def softmaxPerform (n : NodeId) (args : Values) : M Values := do
  let one x := do return [<- x]
  let prepend e mat : NdArray :=
    let rows := mat.shape.getD 0 0
    let cols := mat.shape.getD 1 0
    ⟨mat.dtype, [rows, cols + 1], (List.range rows).foldl (fun acc i =>
      acc.push (mat.dtype.fit e) ++ mat.data.extract (i * cols) ((i + 1) * cols)) #[], 0⟩
  match o, args with
  | .softmax, [x] => one do softmaxRows (<- arrayOf x)
  | .logSoftmax, [x] => one do logSoftmaxRows (<- arrayOf x)
  | .softmaxWithBias, [x, b] => one do biasedSoftmax (<- arrayOf x) (<- arrayOf b)
  | .softmaxGrad, [d, s] => one do softmaxGradRows (<- arrayOf d) (<- arrayOf s)
  | .xentSoftmaxArgmax, [x, b, y] =>
    let out <- dtypeOf ((<- outsOf n).headD default)
    return valuesOf (<- xentRows out (<- arrayOf x) (<- arrayOf b) (<- arrayOf y))
  | .xentSoftmaxDx, [d, s, y] =>
    one do xentDxRows (<- arrayOf d) (<- arrayOf s) (<- arrayOf y)
  | .xentCategoricalGrad, [g, c, t] =>
    let g <- arrayOf g
    let c <- arrayOf c
    let t <- arrayOf t
    let mut out := NdArray.zeros c.dtype c.shape
    for i in List.range (g.shape.getD 0 0) do
      let gi <- arr .neg [<- rowOf g i]
      let at_ := [.pos i, .pos (<- rowOf t i).item.toInt]
      let q <- arr .trueDiv [gi, <- c.select at_]
      out <- out.assign at_ q
    pure [out]
  | .xentCategorical, [c, t] =>
    let c <- arrayOf c
    let t <- arrayOf t
    let ys <- (List.range (c.shape.getD 0 0)).mapM fun i => do
      arr .neg [<- arr .log [<- c.select [.pos i, .pos (<- rowOf t i).item.toInt]]]
    return [(ofRows c.dtype [ys.length] ys)]
  | .prependScalarConstant (.named _ (.float v)), [m] => pure [(prepend (.flt v) (<- arrayOf m))]
  | .prependScalarConstant _, _ => noAttr
  | .prependScalar, [v, m] => pure [(prepend (<- arrayOf v).item (<- arrayOf m))]
  | _, _ => badValue

/-! ## Gradients -/

def sumTerms (ts : Vars) : M VarId := do
  match ts with
  | [] => disconnectedVar
  | t :: rest => rest.foldlM (fun (a b : VarId) => add a b) t

def xentWithBias (x b y : Value) : M Vars := applyAll (op .xentSoftmaxArgmax) [x, b, y]

def softmaxWithBiasGrad (sm g : VarId) : M Vars := do
  let dx <- apply1 (op .softmaxGrad) [g, sm]
  return [dx, <- sum dx (some [0])]

def tailColumns (g : VarId) : M VarId := do
  let .var v <- getItem 40 g (.tuple [.whole, .slice 1 .null .null]) | badType
  pure v

def softmaxGrad (ins outs gs : Vars) : M Vars := do
  let isOff g := do return (<- typeOf g) == .disconnected
  let out := outs.headD default
  match o, ins, gs with
  | .softmax, [_], [g] => return [<- apply1 (op .softmaxGrad) [g, out]]
  | .softmaxWithBias, _, [g] =>
    if <- isOff g then return [<- disconnectedVar, <- disconnectedVar]
    softmaxWithBiasGrad out g
  | .softmaxGrad, [dy, sm], [g] =>
    let rowSum a b := do dimshuffle (<- sum (<- mul a b) (some [1])) [.dim 0, .new]
    let tmp <- add g (<- neg (<- rowSum g sm))
    let gdy <- mul tmp sm
    let tmp2 <- rowSum dy sm
    pure [gdy, <- sub (<- mul tmp dy) (<- mul g tmp2)]
  | .logSoftmax, [x], [g] =>
    let sm <- apply1 (op .softmax) [x]
    let total <- keepDims g (<- sum g (some [1])) (some [1])
    pure [<- sub g (<- mul total sm)]
  | .xentSoftmaxArgmax, [x, b, y], [gn, gs, ga] =>
    let mut dx := []
    let mut db := []
    let mut dy := []
    if !(<- isOff gn) then
      let d <- apply1 (op .xentSoftmaxDx) [gn, (<- xentWithBias x b y).getD 1 default, y]
      dx := dx ++ [d]
      db := db ++ [<- sum d (some [0])]
    if !(<- isOff gs) then
      let [d, e] <- softmaxWithBiasGrad (<- apply1 (op .softmaxWithBias) [x, b]) gs | pure ()
      dx := dx ++ [d]
      db := db ++ [e]
    if !(<- isOff ga) then
      dx := dx ++ [<- zerosLike x]
      db := db ++ [<- zerosLike b]
      dy := dy ++ [<- zerosLike y]
    pure [<- sumTerms dx, <- sumTerms db, <- sumTerms dy]
  | .xentSoftmaxDx, [dy, sm, y], [g] =>
    let rows <- arange 0 (<- shapeAt y 0) 1 none
    let marked <- apply1 (.advIncSubtensor false false) [sm, <- fill dy (.int (-1)), rows, y]
    let gdy <- sum (<- mul g marked) (some [1])
    return [gdy, <- mul (<- dimshuffle dy [.dim 0, .new]) g, <- gradMissing (<- opText (op o)) 2 y]
  | .xentCategorical, [c, t], [g] =>
    return [<- apply1 (op .xentCategoricalGrad) [g, c, t], <- gradMissing (<- opText (op o)) 1 t]
  | .prependScalarConstant _, _, _ => badType
  | .prependScalar, _, [g] =>
    let .var h <- getItem 40 g (.tuple [.whole, 0]) | badType
    pure [h, <- tailColumns g]
  | _, _, _ => cannot

/-! ## Shapes -/

def softmaxShapes (shapes : Shapes) : M Shapes := do
  let at_ k := shapes.getD k none
  let wider k := do
    let some [r, c] := at_ k | badType
    return [some [r, <- operate .add c 1]]
  match o with
  | .softmax | .logSoftmax => pure shapes
  | .softmaxWithBias => pure [at_ 0]
  | .xentSoftmaxArgmax => pure [(at_ 0).map (·.take 1), at_ 0, at_ 2]
  | .xentCategorical => pure [(at_ 0).map (·.take 1)]
  | .prependScalarConstant _ => wider 0
  | .prependScalar => wider 1
  | _ => pure [at_ 1]

end TensorGraph.Net
