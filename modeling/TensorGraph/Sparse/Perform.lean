import TensorGraph.Tensor.Product

/-!
# What operators on sparse matrices compute
-/

namespace TensorGraph.SparseExpr

def denseShape (x : VarId) : M VarId := do Tensor.shape (<- toDense x)
def discreteZeros : M α := badType

def sumGrad (axis : Option Int) (structured : Bool) (x g : VarId) : M VarId := do
  if (<- dtypeOf x).isDiscrete then discreteZeros
  if structured then
    match axis with
    | none => mul (<- onesLike x) g
    | some 0 => colScale (<- onesLike x) g
    | some _ => rowScale (<- onesLike x) g
  else
    let f <- formatOf x
    let x <- toDense x
    let g <- if <- isSparse g then toDense g else pure g
    let r <- match axis with
      | none => Tensor.fill x g
      | some k => do
        let ones <- Tensor.onesLike x
        let (order, at_) := if k == 0 then ([.new, .dim 0], 0) else ([.dim 0, .new], 1)
        Tensor.mul (<- Tensor.addBroadcast (<- dimshuffle g order) [at_]) ones
    apply1 (op (.sparseFromDense f)) [r]

def castGrad (x g : VarId) : M VarId := do
  let dg <- dtypeOf g
  let dx <- dtypeOf x
  if dg.isComplex || dx.isComplex then cannot "grad not implemented for complex types"
  if dg.isDiscrete then
    if dx.isDiscrete then discreteZeros else zerosLike x
  else if dx.isDiscrete then pure g
  else cast g dx

variable (s : SparseOp)

def widened (x y : VarId) : M (VarId × VarId) := do
  match <- dtypeOf x, <- dtypeOf y with
  | .float32, .float64 => return (<- cast x .float64, y)
  | .float64, .float32 => return (x, <- Tensor.cast y .float64)
  | _, _ => return (x, y)

def needContinuous (ins : Vars) : M Unit := do
  if <- ins.anyM fun v => do return (<- dtypeOf v).isDiscrete then noGradientTerm (<- opText (op s))

def stackGrad (f : SparseFormat) (axis : Nat) (ins : Vars) (g : VarId) : M Vars := do
  let g <- if <- isSparse g then toDense g else pure g
  let sizes <- ins.mapM fun x => do return .var (<- Tensor.atPos (<- denseShape x) axis)
  let parts <- applyAll (.split ins.length) [g, axis, <- Tensor.stack sizes 0]
  let gs <- parts.mapM fun p => apply1 (op (.sparseFromDense f)) [p]
  needContinuous s ins
  pure gs

def opGrad (ins gs : Vars) : M Vars := do
  let unknown k pos comment := do
    gradMissing (<- opText (op s)) pos (ins.getD k default) comment
  let off := disconnectedVar
  match s, ins, gs with
  | .csmProperties, [x], g :: _ =>
    if (<- typeOf g) == .disconnected then return [<- zerosLike x]
    pure [<- withPlaces x g]
  | .csm _, [d, i, p, shp], [g] =>
    let gs <- properties g
    return [<- apply1 (op .csmGrad) ([d, i, p, shp] ++ gs), <- off, <- off, <- off]
  | .cast _, [x], [g] => pure [<- castGrad x g]
  | .denseFromSparse structured, [x], [g] =>
    if structured then
      let (left, g) <- widened (<- onesLike x) g
      pure [<- mul left g]
    else return [<- apply1 (op (.sparseFromDense (<- formatOf x))) [g]]
  | .sparseFromDense _, [x], [g] => pure [<- Tensor.patternBroadcast (<- toDense g) (<- bcastOf x)]
  | .getItemList, [x, i], [g] =>
    return [<- apply1 (op .getItemListGrad) [x, i, g], <- unknown 1 1 "No gradient for this input"]
  | .getItem2Lists, [x, i, j], [g] =>
    return [<- apply1 (op .getItem2ListsGrad) [x, i, j, g], <- unknown 1 1 "No gradient for this input",
      <- unknown 2 1 "No gradient for this input"]
  | .transpose, _, [g] => check (<- isSparse g); pure [<- transposed g]
  | .neg, _, [g] => check (<- isSparse g); pure [<- neg g]
  | .colScaleCSC, [x, s], [g] => pure [<- colScale g s, <- sum (<- mul x g) (some 0) false]
  | .rowScaleCSC, [x, s], [g] => pure [<- rowScale g s, <- sum (<- mul x g) (some 1) false]
  | .spSum axis structured, [x], [g] => pure [<- sumGrad axis structured x g]
  | .diag, _, [g] => return [<- apply1 (op .squareDiagonal) [g]]
  | .squareDiagonal, _, [g] => return [<- apply1 (op .diag) [g]]
  | .ensureSortedIndices _, _, [g] | .remove0 _, _, [g] => pure [g]
  | .addSS, _, [g] => check (<- isSparse g); pure [g, g]
  | .addSSData, ins, [g] => needContinuous s ins; pure [g, g]
  | .addSD, [x, _], [g] =>
    check (!(<- isSparse g))
    pure [<- mul (<- onesLike x) g, g]
  | .structuredAddSV, _, [g] => check (<- isSparse g); pure [g, <- sum g (some 0) true]
  | .mulSS, [x, y], [g] => pure [<- mul y g, <- mul x g]
  | .mulSD, [x, y], [g] =>
    check (<- isSparse g)
    pure [<- mul g y, <- toDense (<- mul x g)]
  | .mulSV, [x, y], [g] =>
    check (<- isSparse g)
    let (g, y) <- widened g y
    return [<- apply1 (op .mulSV) [g, y], <- sum (<- mul x g) (some 0) true]
  | .hstack f _, ins, [g] => stackGrad s f 1 ins g
  | .vstack f _, ins, [g] => stackGrad s f 0 ins g
  | .samplingDot, [x, y, p], [g] =>
    let left <- dot (<- mul p g) y
    pure [left, <- dot (<- transposed (<- mul p g)) x, <- unknown 2 2 ""]
  | .dot, [x, y], [g] =>
    let gx <- if <- isSparse y then do dot g (<- transposed y) else do Tensor.denseDot g (<- transposed y)
    let gy <- if <- isSparse x then do dot (<- transposed x) g else do Tensor.denseDot (<- transposed x) g
    pure [gx, gy]
  | .constructFromList, [_, _, i], [g] => return [g, <- apply1 (.advSubtensor1 false) [g, i], <- off]
  | _, _, _ => cannot

def connections : SparseOp -> Option Links
  | .csm _ => some [[true], [false], [false], [false]]
  | .constructFromList => some [[true], [true], [false]]
  | _ => none

end TensorGraph.SparseExpr

namespace TensorGraph

variable (s : SparseOp) (m : SparseMatrix) (f : SparseFormat)

namespace SparseMatrix

def ofParts (data indices indptr : NdArray) (rows cols : Nat) : Checked SparseMatrix := do
  let places := indices.data.map (·.toInt.toNat)
  let ends := indptr.data.map (·.toInt.toNat)
  let last := ends.back?.getD 0
  if ends.size != (if f == .csc then cols else rows) + 1 || ends.getD 0 0 != 0 || places.size != data.data.size
      || last > places.size then
    throw .value
  return ⟨f, data.dtype, rows, cols, data.data.extract 0 last, places.extract 0 last, ends⟩

variable (a : NdArray)

def timesArray? : Checked NdArray :=
  match a.shape with
  | [] => applyPromoted .mul none [m.toArray, a]
  | n :: _ => if n == m.cols then .ok (m.timesArray a) else .error .value

def arrayTimes? (m : SparseMatrix) : Checked NdArray := do
  let flipped x := x.transpose (List.range x.ndim).reverse
  return flipped (<- m.transpose.timesArray? (flipped a))

def timesPlaces : Checked SparseMatrix := do
  let d := m.dtype.promote a.dtype
  let a := a.cast d
  if a.size == 1 then return m.mapEntries d fun _ _ e => times d e (a.at' 0)
  if m.rows == 1 && m.cols == 1 then
    let one := m.toArray.cast d
    return ofArray m.format { a with data := a.data.map fun e => times d (one.at' 0) e }
  if a.shape != [m.rows, m.cols] then throw .value
  let es := (m.cast d).entries.map fun (i, j, e) => (i, j, times d e (a.at' (i * m.cols + j)))
  return ofEntries m.format d m.rows m.cols es

def write (i j : Nat) (e : Elem) : SparseMatrix :=
  let (o, k) := if m.byColumn then (j, i) else (i, j)
  m.withLines (m.lines.zipIdx.map fun (l, p) => if p == o then insertSorted (fun _ e => e) k e l else l)

def empty (d : DType) (rows cols : Nat) : SparseMatrix :=
  ofLines f d rows cols (.replicate (if f == .csc then cols else rows) [])

def gatherPlaces (width : Nat) (xInd xPtr : Array Nat) (g : NdArray) (gInd gPtr : Array Nat) (out : DType) : NdArray :=
  let d := g.dtype
  let span ptr i := (List.range (ptr.getD (i + 1) 0 - ptr.getD i 0)).map (· + ptr.getD i 0)
  let data := (List.range (xPtr.size - 1)).foldl (fun acc i =>
    let row := (span gPtr i).foldl (fun (r : Array Elem) k => r.modify (gInd.getD k 0) fun x => plus d x (g.at' k))
      (.replicate width (.zero d))
    (span xPtr i).foldl (fun acc k => acc.set! k (row.getD (xInd.getD k 0) (.zero d))) acc)
    (.replicate xInd.size (.zero d))
  (NdArray.mk d [xInd.size] data 0).cast out

end SparseMatrix

namespace SparseExpr

variable (x : Value) (byColumn : Bool) (out : DType) (len : Nat)

def promoted (k : ScalarKind) (xs : List NdArray) : M NdArray := applyPromoted k none xs
def matrixValue : M SparseMatrix := if let .sparse m := x then pure m else noAttr
def natValues : M (Array Nat) := do return (<- arrayOf x).data.map (·.toInt.toNat)

def convert (d : Option DType) (x : Value) : M SparseMatrix := do
  let typed m := (d.map m.cast).getD m
  match x with
  | .sparse m => return typed (m.toFormat f)
  | .tuple [.int r, .int c] => return .empty f (d.getD .float64) r.toNat c.toNat
  | x =>
    let some a <- numericArray? x | badType
    if a.ndim > 2 then badType
    return typed (.ofArray f { a with shape := .replicate (2 - a.ndim) 1 ++ a.shape })

def multiplied (x y : Value) : M Value := do
  match x, y with
  | .sparse a, y => a.timesArray? (<- arrayOf y)
  | x, .sparse b => SparseMatrix.arrayTimes? (<- arrayOf x) b
  | _, _ => badType

def denseValue : M NdArray := if let .sparse m := x then return m.toArray else arrayOf x

def comparisonKind : SparseCmp -> ScalarKind
  | .equal => .eq | .notEqual => .neq | .lessThan => .lt | .greaterThan => .gt | .lessEqual => .le | .greaterEqual => .ge

def rangePositions (bounds : Values) : M (List Nat) := do
  let read k : M (Option Int) := do
    let v := bounds.getD k .null
    if v.isNull then return none else return some (<- arrayOf v).item.toInt
  let (a, n, st) <- rangeOf len (<- read 0) (<- read 1) (<- read 2)
  return (List.range n).map fun (k : Nat) => (a + (k : Int) * st).toNat

def positions (x : Value) : M (List Nat) := do
  (<- arrayOf x).data.toList.mapM fun e => positionOf len e.toInt

def blankLike (x : SparseMatrix) : SparseMatrix :=
  .empty (if x.format == .csr then .csr else .csc) .float64 x.rows x.cols

def scatterRows (x g : SparseMatrix) (rows : List Nat) : SparseMatrix :=
  rows.zipIdx.foldl (fun m (i, a) =>
    let cleared := m.mapEntries m.dtype fun r _ e => if r == i then .zero m.dtype else e
    ((g.cast m.dtype).entries.filter fun (r, _, _) => r == a).foldl (fun m (_, j, e) => m.write i j e) cleared)
    (blankLike x)

def csmPerform (data ind ptr shp : Value) : M Value := do
  let d <- arrayOf data
  let i <- arrayOf ind
  let p <- arrayOf ptr
  let [r, c] := (<- arrayOf shp).data.toList | failValue "Shape should be an array of length 2"
  if d.shape != i.shape then
    failValue s!"Data (shape {shapeText d.shape} must have the same number of elements as indices (shape{shapeText i.shape})"
  return .sparse (<- SparseMatrix.ofParts f d i p r.toInt.toNat c.toInt.toNat)

def usmmPerform (alpha x y z : Value) : M Value := do
  let p <- denseValue (<- multiplied x y)
  let a <- arrayOf alpha
  let z <- arrayOf z
  let fit q r := if q.dtype == r.dtype then some q.dtype else none
  let scaled <- applyPromoted .mul (fit p a) [p, a]
  applyPromoted .add (fit scaled z) [scaled, z]

def scalePerform (x : SparseMatrix) (s : NdArray) : M Value := do
  check (x.format == .csc)
  check (s.shape == [if byColumn then x.cols else x.rows])
  let d := x.dtype.promote s.dtype
  if byColumn && s.dtype.kindRank > x.dtype.kindRank && x.cols > 0 then badType
  let y := x.mapEntries d fun i j e => SparseMatrix.times d e ((s.cast d).at' (if byColumn then j else i))
  return .sparse (y.cast x.dtype)

def mulSDPerform (x : SparseMatrix) (y : NdArray) : M Value := do
  let y := y.cast out
  match y.shape with
  | [] => return .sparse (x.mapEntries out fun _ _ e => SparseMatrix.times out e y.item)
  | [r, c] =>
    check (x.rows == r && x.cols == c)
    return .sparse (x.mapEntries out fun i j e => SparseMatrix.times out e (y.at' (i * c + j)))
  | _ => cannot

def indexedPerform (args : Values) : M Value := do
  match s, args with
  | .getItemList, [x, i] =>
    let m <- matrixValue x
    return .sparse (m.select (<- positions m.rows i) (.range m.cols))
  | .getItemListGrad, [x, i, g] =>
    let m <- matrixValue x
    return .sparse (scatterRows m (<- matrixValue g) (<- positions m.rows i))
  | .getItem2Lists, [x, i, j] =>
    let m <- matrixValue x
    let a <- arrayOf i
    let b <- arrayOf j
    if a.shape.isEmpty != b.shape.isEmpty then
      return .objects [1] [.sparse (m.select (<- positions m.rows i) (<- positions m.cols j))]
    let some s := broadcastShapes [a.shape, b.shape] | badIndex
    let rows <- positions m.rows (a.broadcastTo s)
    let cols <- positions m.cols (b.broadcastTo s)
    return .array ⟨m.dtype, [rows.length], ((rows.zip cols).map fun (i, j) => m.at_ i j).toArray, 0⟩
  | .getItem2ListsGrad, [x, i, j, g] =>
    let m <- matrixValue x
    let a <- arrayOf g
    let rows <- positions m.rows i
    let cols <- positions m.cols j
    return .sparse ((rows.zip cols).zipIdx.foldl (fun m ((i, j), k) => m.write i j ((a.cast .float64).at' k)) (blankLike m))
  | .getItem2d, x :: bounds =>
    let m <- matrixValue x
    return .sparse (m.select (<- rangePositions m.rows (bounds.take 3)) (<- rangePositions m.cols (bounds.drop 3)))
  | .getItemScalar, [x, i, j] =>
    let m <- matrixValue x
    return .array (.ofElem m.dtype (m.at_ ((<- positions m.rows i).headD 0) ((<- positions m.cols j).headD 0)))
  | _, _ => badValue

def pairPerform (x y : Value) : M Value := do
  let a <- matrixValue x
  let other := do
    let b <- matrixValue y
    check (a.rows == b.rows && a.cols == b.cols)
    return b
  match s with
  | .addSS => return .sparse (a.add (<- other))
  | .mulSS => return .sparse (a.multiply (<- other))
  | .addSSData =>
    let b <- other
    check (a.data.size == b.data.size)
    return .sparse (a.withData (<- promoted .add [a.dataArray, b.dataArray]))
  | .addSD =>
    let b <- arrayOf y
    let some s := broadcastShapes [[a.rows, a.cols], b.shape] | badValue
    if s != [a.rows, a.cols] then badValue
    return (<- promoted .add [a.toArray, b]).cast out
  | .mulSD => mulSDPerform out a (<- arrayOf y)
  | .structuredAddSV | .mulSV =>
    let b <- arrayOf y
    check (b.shape == [a.cols])
    let d := a.toArray
    let r <- if s == .mulSV then promoted .mul [d, b]
      else do
        let mask := { d with dtype := .bool, data := d.data.map fun e => .int (if e.truthy then 1 else 0) }
        promoted .add [d, <- promoted .mul [mask, b]]
    return .sparse (.ofArray a.format r)
  | .compareSS c =>
    let b <- other
    let r := match c with
      | .equal => (a.compare .neq b).complement
      | .lessEqual => (a.compare .gt b).complement
      | .greaterEqual => (a.compare .lt b).complement
      | c => a.compare (comparisonKind c) b
    return .sparse (r.cast .uint8)
  | .compareSD c =>
    let b <- arrayOf y
    check (b.shape == [a.rows, a.cols])
    return (<- promoted (comparisonKind c) [a.toArray, b]).cast .uint8
  | .colScaleCSC => scalePerform true a (<- arrayOf y)
  | .rowScaleCSC => scalePerform false a (<- arrayOf y)
  | _ => badValue

def opPerform (n : NodeId) (args : Values) : M Values := do
  let out <- dtypeOf (<- outOf n)
  let ints a := .array (.ofInts .int32 (a.toList.map fun (k : Nat) => (k : Int)))
  match s, args with
  | .csmProperties, [x] =>
    let m <- matrixValue x
    return [m.dataArray, ints m.indices, ints m.indptr, ints #[m.rows, m.cols]]
  | .csm f, [d, i, p, shp] => pure [<- csmPerform f d i p shp]
  | .csmGrad, [xd, xi, xp, xs, gd, gi, gp, _] =>
    let dims <- natValues xs
    let ends <- natValues xp
    let width := if ends.size == dims.getD 0 0 + 1 then dims.getD 1 0 else dims.getD 0 0
    let r := SparseMatrix.gatherPlaces width (<- natValues xi) ends (<- arrayOf gd) (<- natValues gi) (<- natValues gp) out
    pure [.array { r with shape := (<- arrayOf xd).shape }]
  | .cast d, [x] => pure [.sparse ((<- matrixValue x).cast d)]
  | .denseFromSparse _, [x] => pure [<- denseValue x]
  | .sparseFromDense f, [x] => pure [.sparse (.ofArray f (<- arrayOf x))]
  | .transpose, [x] => pure [.sparse (<- matrixValue x).transpose]
  | .neg, [x] =>
    let m <- matrixValue x
    return [.sparse (m.withData (<- promoted .neg [m.dataArray]))]
  | .spSum axis _, [x] =>
    let m <- matrixValue x
    pure [(if let some k := axis then m.sumAlong (k == 0) else m.sumAll)]
  | .diag, [x] =>
    let m <- matrixValue x
    if m.rows != m.cols then failValue "Diag only apply on square matrix"
    pure [m.diagonal]
  | .squareDiagonal, [x] =>
    let a <- arrayOf x
    if a.size == 0 then badValue
    return [.sparse (.ofLines .csc a.dtype a.size a.size (a.data.toList.zipIdx.map fun (e, i) => [(i, e)]))]
  | .ensureSortedIndices inplace, [x] => if inplace then return [.null] else pure [.sparse (<- matrixValue x).sorted]
  | .remove0 _, [x] => pure [.sparse (<- matrixValue x).dropZeros]
  | .hstack f d, xs | .vstack f d, xs =>
    let ms <- xs.mapM matrixValue
    let beside := s matches .hstack ..
    let side m := if beside then m.rows else m.cols
    if ms.any fun m => some (side m) != ms.head?.map side then badValue
    pure [.sparse (if beside then .beside f d ms else .above f d ms)]
  | .samplingDot, [x, y, p] =>
    let b <- arrayOf y
    let prod <- dotArrays (<- arrayOf x) (b.transpose (List.range b.ndim).reverse)
    pure [.sparse (<- (<- matrixValue p).timesPlaces prod)]
  | .dot, [x, y] => pure [((<- denseValue (<- multiplied x y)).cast out)]
  | .usmm, [alpha, x, y, z] => pure [<- usmmPerform alpha x y z]
  | .constructFromList, [shp, values, il] =>
    let v <- arrayOf values
    let idx <- arrayOf il
    let ([rows, cols], [r, c]) := (v.shape, (<- arrayOf shp).data.toList) | badValue
    check (rows == idx.size)
    let ends := .ofInts .int64 ((List.range (cols + 1)).map fun k => ((k * rows : Nat) : Int))
    let places := ⟨idx.dtype, [cols * rows], (List.replicate cols idx.data.toList).flatten.toArray, 0⟩
    let column := { v.transpose [1, 0] with shape := [rows * cols] }
    return [.sparse (<- SparseMatrix.ofParts .csc column places ends r.toInt.toNat c.toInt.toNat)]
  | .structuredDotCSC, [d, i, p, rows, b] =>
    let a <- arrayOf b
    let m <- SparseMatrix.ofParts .csc (<- arrayOf d) (<- arrayOf i) (<- arrayOf p)
      (<- arrayOf rows).item.toInt.toNat (a.shape.headD 0)
    pure [((<- m.timesArray? a).cast out)]
  | .structuredDotCSR, [d, i, p, b] =>
    let a <- arrayOf b
    let ends <- arrayOf p
    let m <- SparseMatrix.ofParts .csr (<- arrayOf d) (<- arrayOf i) ends (ends.size - 1) (a.shape.headD 0)
    pure [<- m.timesArray? a]
  | .addSDCode .., _ | .usmmCscDense _, _ | .csmGradC, _ | .mulSDCSC, _ | .mulSDCSR, _ | .mulSVCSR, _
  | .structuredAddSVCSR, _ | .samplingDotCSR, _ => cannot "No Python implementation is provided by this COp."
  | .getItemList, _ | .getItemListGrad, _ | .getItem2Lists, _ | .getItem2ListsGrad, _ | .getItem2d, _ | .getItemScalar, _ =>
    pure [<- indexedPerform s args]
  | s, [x, y] => pure [<- pairPerform s out x y]
  | _, _ => raise (.named "Unsupported")

end SparseExpr

end TensorGraph
