import TensorGraph.Tensor.Reduce
import TensorGraph.Tensor.Product

/-! # Operators of linear algebra -/

namespace TensorGraph

structure Matrix where
  (rows cols : Nat)
  data : Array Float

namespace Matrix

variable (a : Matrix) (n : Nat) (i j : Nat)

def get : Float := a.data.getD (i * a.cols + j) 0
def set (x : Float) : Matrix := { a with data := a.data.setIfInBounds (i * a.cols + j) x }

def build (rows cols : Nat) (f : Nat -> Nat -> Float) : Matrix :=
  ⟨rows, cols, (Array.range (rows * cols)).map fun p => f (p / cols) (p % cols)⟩

def sumTo (f : Nat -> Float) : Float := (List.range n).foldl (fun s k => s + f k) 0
def after (k n : Nat) : List Nat := .range' (k + 1) (n - k - 1)
def identity : Matrix := build n n fun i j => if i == j then 1 else 0
def transpose : Matrix := build a.cols a.rows fun i j => a.get j i
def swapRows : Matrix :=
  if i == j then a else
    build a.rows a.cols fun r c => if r == i then a.get j c else if r == j then a.get i c else a.get r c

/-! ## Elimination -/

/-- The two triangular factors in one matrix, the order of rows, and whether the rows were exchanged an odd number of
times. -/
structure Factors where
  lu : Matrix
  order : List Nat
  odd : Bool

def factor : Factors := Id.run do
  let n := min a.rows a.cols
  let mut lu := a
  let mut order := .range a.rows
  let mut odd := false
  for k in List.range n do
    let mut p := k
    for i in after k a.rows do if (lu.get i k).abs > (lu.get p k).abs then p := i
    if p != k then
      lu := lu.swapRows p k
      order := (order.set k (order.getD p 0)).set p (order.getD k 0)
      odd := !odd
    let pivot := lu.get k k
    if pivot != 0 then
      for i in after k a.rows do
        let l := lu.get i k / pivot
        lu := lu.set i k l
        for j in after k a.cols do lu := lu.set i j (lu.get i j - l * lu.get k j)
  return ⟨lu, order, odd⟩

def pivots : List Float := (List.range a.rows).map fun i => a.get i i

def det : Float :=
  let f := a.factor
  let ps := f.lu.pivots
  if ps.any (· == 0) then 0 else
    let negative := (ps.filter (· < 0)).length + (if f.odd then 1 else 0)
    let size := (ps.foldl (fun s (p : Float) => s + p.abs.log) 0).exp
    if negative % 2 == 1 then -size else size

variable (b : Matrix)

def solveTriangular (below : Bool) (unit : Bool := false) : Option Matrix := Id.run do
  let n := a.rows
  if !unit && a.pivots.any (· == 0) then return none
  let mut x := b
  for k in (if below then .range n else (List.range n).reverse) do
    for j in List.range b.cols do
      let v := if unit then x.get k j else x.get k j / a.get k k
      x := x.set k j v
      for i in (if below then after k n else .range k) do
        x := x.set i j (x.get i j - a.get i k * v)
  return some x

def solve : Option Matrix := do
  let f := a.factor
  let moved := build b.rows b.cols fun i j => b.get (f.order.getD i 0) j
  solveTriangular f.lu (<- solveTriangular f.lu moved true true) false

def inverse : Option Matrix := a.solve (identity a.rows)

def cholesky : Option Matrix := Id.run do
  let n := a.rows
  let mut l := build n n fun _ _ => 0
  for j in List.range n do
    let d := a.get j j - dot l j j j
    if !(d > 0) then return none
    let root := d.sqrt
    l := l.set j j root
    for i in after j n do l := l.set i j ((a.get i j - dot l j i j) / root)
  return some l
where
  dot (l : Matrix) (n i j : Nat) : Float := sumTo n fun k => l.get i k * l.get j k

end Matrix

def Matrix.toArray (m : Matrix) (d : DType) : NdArray := ⟨d, [m.rows, m.cols], m.data.map fun x => d.fit (.flt x), 0⟩

def Lit.holds : Lit -> Bool
  | .bool b => b
  | .int i => i != 0
  | .none => false
  | _ => true

namespace Linalg

open Tensor

variable (a : NdArray) (lower : Bool) (l : LinalgOp) (d : DType) (args : Values)

def op : Op := .linalg l

/-! ## Values -/

def workType : M DType := do
  match d with
  | .float32 => pure .float32
  | .float16 => badType
  | _ => if d.isComplex then raise (.named "Unsupported") else pure .float64

def matrixOf : M Matrix := do
  let [r, c] := a.shape | raise .linAlg
  let _ <- workType a.dtype
  return ⟨r, c, a.data.map Elem.toFloat⟩

def squareOf : M Matrix := do
  let m <- matrixOf a
  if m.rows != m.cols then raise .linAlg
  pure m

def orSingular (x : Option α) : M α := if let some a := x then pure a else raise .linAlg
def checkFinite : M Unit := do if a.data.any fun e => e.isNaN || e.isInf then badValue

def finiteSquare : M Matrix := do
  let m <- matrixOf a
  if m.rows != m.cols then badValue
  checkFinite a
  pure m

def rightSide (rows : Nat) (b : NdArray) : M Matrix := do
  if b.shape.headD 0 != rows then badValue
  return ⟨rows, shapeSize (b.shape.drop 1), b.data.map Elem.toFloat⟩

/-! ## Application -/

def matrixArg (x : Value) : M VarId := do
  let x <- asTensor x
  check ((<- ndimOf x) == 2)
  pure x

def matrixTy : Ty := .ofTensor d [false, false]
def vectorTy : Ty := .ofTensor d [false]

def upcastAll (vs : Vars) : M DType := do
  let ds <- vs.mapM dtypeOf
  return ds.foldl .promote (ds.headD .float64)

def solutionType (a b : DType) : DType :=
  let work d := if d.isDiscrete then .float64 else if d == .float16 then .float32 else d
  .promote (work a) (work b)

def opNode : M NodeId := do
  let o := op l
  match l, args with
  | .allocDiag, [x] =>
    let v <- asTensor x
    if (<- ndimOf v) != 1 then failWith .type [quoted "AllocDiag only works on vectors", <- reprOf x]
    newNode o [v] [matrixTy (<- dtypeOf v)]
  | .expmGrad, [a, .var g] =>
    let a <- matrixArg a
    newNode o [a, g] [matrixTy (<- dtypeOf a)]
  | .hint _, [.var x] => newNode o [x] [<- typeOf x]
  | .hint _, [_] | .expmGrad, [_, _] => noAttr
  | _, _ =>
  let vs <- tensors args
  let x :: _ := vs | badType
  let d <- dtypeOf x
  let all <- upcastAll vs
  let ranked ranks types := do
    check ((<- vs.mapM ndimOf) == ranks)
    return types
  let types <- match l, vs with
    | .matrixPinv, [_] | .matrixInverse, [_] | .cholesky .., [_] => do ranked [2] [<- typeOf x]
    | .det, [_] => ranked [2] [.ofTensor d []]
    | .eig, [_] => ranked [2] [vectorTy d, matrixTy d]
    | .eigh _, [_] => do
      let _ <- ranked [2] []
      pure [vectorTy (<- workType d), matrixTy d]
    | .eighGrad _, _ => ranked [2, 1, 2, 1, 2] [matrixTy all]
    | .qrFull mode, [_] => ranked [2] [matrixTy d, if mode == "raw" then vectorTy d else matrixTy d]
    | .qrIncomplete _, [_] | .expm, [_] => ranked [2] [matrixTy d]
    | .svd _ uv, [_] => ranked [2] (if uv.holds then [matrixTy d, vectorTy d, matrixTy d] else [vectorTy d])
    | .lstsq, [_, _, _] => do pure [matrixTy (<- floatX), vectorTy .float64, .ofTensor .int64 [], vectorTy .float64]
    | .tensorInv _, [_] => do pure [<- typeOf x]
    | .tensorSolve _, [_, _] => pure [matrixTy all]
    | .choleskyGrad lower _, [_, c, _] => do
      let types <- ranked [2, 2, 2] [<- typeOf x]
      match <- madeBy? c with
      | some (.linalg (.cholesky b ..)) | some (.linalg (.choleskyGrad b ..))
      | some (.linalg (.solve _ b ..)) => check (b == lower)
      | _ => noAttr
      pure types
    | .solve .., [_, b] => do
      ranked [2, if (<- ndimOf b) == 1 then 1 else 2] [.ofTensor (solutionType d (<- dtypeOf b)) (<- bcastOf b)]
    | _, _ => badType
  newNode o vs types

/-! ## Evaluation -/

def opPerform : M Values := do
  match l, args with
  | .hint _, [x] => pure [x]
  | .eig, _ | .eigh _, _ | .eighGrad _, _ | .qrFull _, _ | .qrIncomplete _, _
  | .expm, _ | .expmGrad, _ | .matrixPinv, _ | .svd .., _ | .lstsq, _ | .choleskyGrad .., _ => raise (.named "Unsupported")
  | _, _ =>
  match l, (<- args.mapM arrayOf) with
  | .matrixInverse, [x] =>
    let m <- squareOf x
    pure [((<- orSingular m.inverse).toArray x.dtype)]
  | .allocDiag, [x] => return [.array (.build x.dtype [x.size, x.size] fun i =>
      if i.getD 0 0 == i.getD 1 0 then x.at' (i.getD 0 0) else .zero x.dtype)]
  | .det, [x] =>
    if let some m <- attempt (squareOf x) then return [.array (.ofElem x.dtype (x.dtype.fit (.flt m.det)))]
    putLine s!"Failed to compute determinant {x.text}"
    raise .linAlg
  | .tensorInv ind, [a] =>
    if ind <= 0 then badValue
    let k := min ind.toNat a.ndim
    let rows := shapeSize (a.shape.drop k)
    if rows == 0 || a.size % rows != 0 then badValue
    let r := (<- orSingular (<- squareOf { a with shape := [rows, a.size / rows] }).inverse).toArray (<- workType a.dtype)
    pure [.array { r with shape := a.shape.drop k ++ a.shape.take k }]
  | .tensorSolve axes, [a, b] =>
    let moved := match axes with
      | .tuple xs | .list xs => xs.filterMap fun
        | .int i => some (placeOf a.ndim i).toNat
        | _ => none
      | _ => []
    let a := a.transpose ((List.range a.ndim).filter (!moved.contains ·) ++ moved)
    let shape := a.shape.drop b.ndim
    let rows := shapeSize shape
    if a.size != rows * rows then raise .linAlg
    let m <- squareOf { a with shape := [rows, rows] }
    if b.size != rows then badValue
    let r := (<- orSingular (m.solve ⟨rows, 1, b.data.map Elem.toFloat⟩)).toArray
      (.promote (<- workType a.dtype) (<- workType b.dtype))
    pure [.array { r with shape }]
  | .cholesky lower _ onError, [x] =>
    let m <- finiteSquare x
    if let some c := (if lower then m else m.transpose).cholesky then
      return [((if lower then c else c.transpose).toArray x.dtype)]
    if onError == "raise" then raise .linAlg
    pure [.array (.full x.dtype x.shape (x.dtype.fit (.flt floatNaN)))]
  | .solve kind .., [a, b] =>
    let m <- finiteSquare a
    checkFinite b
    let right <- rightSide m.rows b
    let x <- match kind with
      | "lower_triangular" => orSingular (m.solveTriangular right true)
      | "upper_triangular" => orSingular (m.solveTriangular right false)
      | _ => orSingular (m.solve right)
    pure [.array { x.toArray (solutionType a.dtype b.dtype) with shape := b.shape }]
  | _, _ => badType

/-! ## Gradients -/

def products : Vars -> M VarId
  | [] => badIndex
  | v :: vs => vs.foldlM (fun (r a : VarId) => denseDot r a) v

def var (v : M Value) : M VarId := do variableOf (<- v)

def diagonalOf (m : Value) : M VarId := applyTo (.extractDiag 0 0 1 false) [m]
def diagonalMatrix (v : Value) : M VarId := applyTo (.allocDiag 0 0 1) [v]
def solveWith (kind : String) (lower : Bool) (a b : VarId) : M VarId := apply1 (op (.solve kind lower false false)) [a, b]

def choleskyPullback (onError : String) (out g : VarId) : M Vars := do
  let guard <- if onError == "nan" then do pure (some (<- invert (<- any (<- floatTest "isnan" .isnan out)))) else pure none
  let whereOk v := if let some ok := guard then switch ok v 1 else pure v
  let c <- whereOk out
  let dz <- whereOk g
  let c <- if lower then pure c else transpose c
  let dz <- if lower then pure dz else transpose dz
  let m <- denseDot (<- transpose c) dz
  let below <- triangle m 0 false
  let half <- operate .trueDiv (<- diagonalOf m) (.float 2)
  let inner <- var (operate .sub below (<- diagonalMatrix half))
  let upperSolve a b := solveWith "upper_triangular" false a b
  let ct <- transpose c
  let ct' <- transpose c
  let s <- upperSolve ct (<- transpose (<- upperSolve ct' (<- transpose inner)))
  let sum <- var (operate .add s (<- transpose s))
  let grad <- operate .sub (<- triangle sum 0 (!lower)) (<- diagonalMatrix (<- diagonalOf s))
  pure [<- if let some ok := guard then switch ok grad (.float floatNaN) else var (pure grad)]

def pullback (ins outs gs : Vars) : M Vars := do
  let o := op l
  match l, ins, gs with
  | .matrixPinv, [x], [g] =>
    let z := outs.headD default
    let xz <- denseDot x z
    let zx <- denseDot z x
    let first <- neg (<- products [z, <- transpose g, z])
    let second <- products [z, <- transpose z, g, <- var do operate .sub (<- identityLike xz) xz]
    let third <- products [<- var do operate .sub (<- identityLike zx) zx, g, <- transpose z, z]
    pure [<- transpose (<- var do operate .add (<- operate .add first second) third)]
  | .matrixInverse, [x], [g] =>
    let xi <- apply1 o [x]
    return [<- neg (<- transpose (<- products [xi, <- transpose g, xi]))]
  | .allocDiag, _, [g] => pure [<- diagonalOf g]
  | .det, [x], [g] =>
    let d <- operate .mul g (<- apply1 o [x])
    return [<- var do operate .mul d (<- transpose (<- apply1 (op .matrixInverse) [x]))]
  | .eigh uplo, [x], [gw, gv] =>
    let [w, v] <- applyAll o [x] | badValue
    let known y g := do if (<- typeOf g) == .disconnected then zerosLike y else return g
    return [<- apply1 (op (.eighGrad uplo)) [x, w, v, <- known w gw, <- known v gv]]
  | .cholesky lower _ onError, _, [g] => choleskyPullback lower onError (outs.headD default) g
  | .solve kind lower .., [a, _], [g] =>
    let c := outs.headD default
    let flipped := match kind with
      | "lower_triangular" => "upper_triangular"
      | "upper_triangular" => "lower_triangular"
      | k => k
    let gb <- solveWith flipped (!lower) (<- transpose a) g
    let ga <- if (<- ndimOf c) == 1 then do neg (<- outer gb c) else do neg (<- denseDot gb (<- transpose c))
    let ga <- match kind with
      | "lower_triangular" => var (triangle ga 0 false)
      | "upper_triangular" => var (triangle ga 0 true)
      | _ => pure ga
    pure [ga, gb]
  | .expm, [a], [g] => return [<- apply1 (op .expmGrad) [a, g]]
  | .hint _, _, gs => pure gs
  | _, _, _ => cannot

def pushforward (ins : Vars) (points : List (Option VarId)) : M (List (Option VarId)) := do
  let (.matrixInverse, [x], [p]) := (l, ins, points) | cannot
  let xi <- apply1 (op l) [x]
  let some e := p | pure [none]
  return [some (<- neg (<- products [xi, e, xi]))]

/-! ## Shapes -/

def shapes (ss : Shapes) : M Shapes := do
  let first := ss.headD none
  let at_ i s := do
    let some d := (s.getD [])[i]? | badIndex
    return d
  match l with
  | .matrixInverse => pure ss
  | .det => return [some []]
  | .allocDiag => do
    let d <- at_ 0 first
    return [some [d, d]]
  | .eig | .eigh _ => do
    let d <- at_ 0 first
    return [some [d], some [d, d]]
  | .eighGrad _ | .cholesky .. | .choleskyGrad .. | .expm | .expmGrad => pure [first]
  | .svd full uv => do
    let some [m, k] := first | badValue
    let small := (<- minimum m k)
    if !uv.holds then return [some [small]]
    if full.holds then return [some [m, m], some [small], some [k, k]]
    return [some [m, small], some [small], some [small, k]]
  | .tensorInv ind => do
    let s := first.getD []
    let k := (placeOf s.length ind).toNat
    pure [some (s.drop k ++ s.take k)]
  | .solve .. => do
    let b := (ss.getD 1 none).getD []
    let rows <- at_ 1 first
    if b.length == 1 then return [some [rows]] else return [some [rows, <- at_ 1 (some b)]]
  | _ => noAttr

/-! ## Functions -/

def trace (x : Value) : M VarId := do sum (<- diagonalOf x)

def diag (x : Value) : M VarId := do
  let v <- asTensor x
  match <- ndimOf v with
  | 1 => apply1 (op .allocDiag) [v]
  | 2 => diagonalOf v
  | _ => failWith .type [quoted "diag requires vector or matrix argument", <- reprOf x]

def squarings : Nat -> VarId -> Nat -> Option VarId -> M VarId
  | 0, z, _, _ => pure z
  | fuel + 1, z, n, acc => do
    let acc <- if n % 2 == 1 then do
        let some r := acc | pure (some z)
        pure (some (<- denseDot r z))
      else pure acc
    if n / 2 == 0 then return acc.getD z
    squarings fuel (<- denseDot z z) (n / 2) acc

def power (m : VarId) (n : Int) : M VarId := do
  let m <- if n < 0 then apply1 (op .matrixPinv) [m] else pure m
  match n.natAbs with
  | 0 =>
    let rows <- variableOf (<- getItem 40 (<- shape m) (.int (-2)))
    eye rows rows 0 (<- floatX)
  | 1 => pure m
  | 2 => denseDot m m
  | 3 => denseDot (<- denseDot m m) m
  | k => squarings 70 m k none

def isOrder (ord wanted : Value) : M Bool := do
  match ord, wanted with
  | .str a, .str b => return a == b
  | .str _, _ | _, .str _ | .null, _ | .var _, _ => pure false
  | a, b => truthOf (<- operate .eq a b)

def norm (x ord : Value) : M Value := do
  let v <- asTensor x
  let size y := operateUnary .abs y
  let root s := operate .pow s (.float 0.5)
  match <- ndimOf v with
  | 0 => failValue "'axis' entry is out of bounds."
  | 1 =>
    if ord.isNull then return <- root (<- sum (<- operate .pow v 2))
    if <- isOrder ord "inf" then return <- maxOf (<- size v)
    if <- isOrder ord "-inf" then return <- minOf (<- size v)
    if <- isOrder ord 0 then
      let places <- nonzeroOf v
      let kept <- variableOf (<- getItem 40 v (.tuple (valuesOf places)))
      return <- shapeAt kept 0
    try
      operate .pow (<- sum (<- size (<- operate .pow v ord))) (<- operate .trueDiv (.float 1) ord)
    catch e => if e.isA .type then failValue "Invalid norm order for vectors." else throw e
  | 2 =>
    if ord.isNull || (<- isOrder ord "fro") then return <- root (<- sum (<- size (<- operate .pow v 2)))
    let sums (axis : Int) := do sum (<- size v) (some [axis])
    if <- isOrder ord "inf" then return <- maxOf (<- sums 1)
    if <- isOrder ord "-inf" then return <- minOf (<- sums 1)
    if <- isOrder ord 1 then return <- maxOf (<- sums 0)
    if <- isOrder ord (.int (-1)) then return <- minOf (<- sums 0)
    failValue "0"
  | _ => cannot "We don't support norm with ndim > 2"

def kron (a b : Value) : M VarId := do
  let a <- asTensor a
  let b <- asTensor b
  let (m, n) := (<- ndimOf a, <- ndimOf b)
  if m + n <= 2 then failType s!"kron: inputs dimensions must sum to 3 or more. You passed {m} and {n}."
  let o <- outer a b
  let o <- reshapeTo o (<- join 0 [<- shape a, <- shape b]) (some (m + n))
  let turned <- shuffleDims o ([0, 2, 1] ++ .range' 3 (m + n - 3))
  if m + n == 3 then flattenTo (<- shuffleDims o [1, 0, 2])
  else
    let len (i : Nat) := do shapeAt o i
    let rows <- operate .mul (<- len 0) (<- len 2)
    let cols <- operate .mul (<- len 1) (<- len 3)
    reshapeTo turned (.tuple ([rows, cols] ++ (<- (List.range' 4 (m + n - 4)).mapM len))) none

def spectralRadiusBound (x : VarId) (exponent : Value) : M VarId := do
  if (<- ndimOf x) != 2 then
    failWith .type [quoted "spectral_radius_bound requires a matrix argument", <- varText x]
  let k <- match exponent with
    | .int k => pure k
    | .bool b => pure (if b then 1 else 0)
    | v => failWith .type [quoted "spectral_radius_bound requires an integer exponent", <- reprOf v]
  if k <= 0 then
    failWith .value [quoted "spectral_radius_bound requires a strictly positive exponent", <- reprOf exponent]
  let mut y := x
  for _ in List.range k.toNat do y <- denseDot y y
  pow (<- trace y) (.float (1 / (2 : Float) ^ k.toNat.toFloat))

/-! ## Hints -/

variable (v : VarId)

def hintsOf : M (Table Lit) := do
  let some (.linalg (.hint hs)) <- madeBy? v | pure []
  pure hs

def hintOf (name : String) : M Lit := do return ((<- hintsOf v).lookup name).getD (.bool false)
def psd : M VarId := apply1 (op (.hint [("psd", .bool true), ("symmetric", .bool true)])) [v]

def isPositive : M Bool := do
  if (<- hintOf v "positive").holds then return true
  let some (o, [_, e]) <- made? v | pure false
  if o != powOp then return false
  let some c <- valueOf? e | pure false
  truthOf (<- operate .eq 0 (<- operate .mod c 2))

end Linalg

end TensorGraph
