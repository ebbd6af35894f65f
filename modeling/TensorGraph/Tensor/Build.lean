import TensorGraph.Scalar.Node

/-! # Building tensor expressions -/

namespace TensorGraph

variable (sym : String) (s : ScalarOp) (v : VarId)

def tensorOp : Op := .elemwise s [] (some ("Elemwise" ++ braced s!"{sym},no_inplace"))

def mulOp := tensorOp "mul" .mul
def addOp := tensorOp "add" .add
def subOp := tensorOp "sub" .sub
def trueDivOp := tensorOp "true_div" .trueDiv
def expOp := tensorOp "exp" .exp
def negOp := tensorOp "neg" .neg
def logOp := tensorOp "log" .log
def powOp := tensorOp "pow" .pow
def invOp := tensorOp "inv" .inv
def intDivOp := tensorOp "int_div" .intDiv
def fillOp := tensorOp "second" .second
def erfcOp := tensorOp "erfc" .erfc
def absOp := tensorOp "abs_" .abs
def bareOp : Op := .elemwise s [] none

def tensorOps : Table ScalarOp :=
  ([ ("lt", .lt), ("gt", .gt), ("le", .le), ("ge", .ge), ("eq", .eq), ("neq", .neq), ("isnan", .isnan),
    ("isinf", .isinf), ("switch", .switch), ("and_", .and), ("or_", .or), ("xor", .xor), ("invert", .invert), ("abs_", .abs),
    ("round_half_to_even", .roundHalfEven), ("round_half_away_from_zero", .roundHalfAway),
    ("scalar_maximum", .maximum), ("scalar_minimum", .minimum) ] : Table ScalarOp)
  -- those that go by their own names
  ++ ([.exp, .exp2, .expm1, .neg, .inv, .log, .log2, .log10, .log1p, .sgn, .ceil, .floor, .trunc, .sqr, .sqrt, .deg2rad,
    .rad2deg, .cos, .arccos, .sin, .arcsin, .tan, .arctan, .arctan2, .cosh, .arccosh, .sinh, .arcsinh, .tanh, .arctanh,
    .erf, .erfc, .erfcx, .erfinv, .erfcinv, .gamma, .gammaln, .psi, .trigamma, .chi2sf, .gammainc, .gammaincc, .gammau,
    .gammal, .j0, .j1, .jv, .i0, .i1, .iv, .real, .imag, .angle, .complex, .conj, .complexFromPolar, .second, .add, .sub,
    .mul, .trueDiv, .intDiv, .mod, .pow, .clip] : List ScalarOp).filterMap fun s => s.name.map (·, s)

namespace Tensor

def ew (args : Values) : M VarId := applyTo (tensorOp sym s) args

variable (xs : Values) (axis a : Value)

def unary : M VarId := ew sym s [a]
def binary (a b : Value) : M VarId := ew sym s [a, b]

def add := binary "add" .add
def sub := binary "sub" .sub
def mul := binary "mul" .mul
def div := binary "true_div" .trueDiv
def intDiv := binary "int_div" .intDiv
def mod := binary "mod" .mod
def pow := binary "pow" .pow
def maximum := binary "scalar_maximum" .maximum
def minimum := binary "scalar_minimum" .minimum
def lt := binary "lt" .lt
def gt := binary "gt" .gt
def le := binary "le" .le
def ge := binary "ge" .ge
def eq := binary "eq" .eq
def neq := binary "neq" .neq
def and := binary "and_" .and
def or := binary "or_" .or
def invert := unary "invert" .invert
def switch (c a b : Value) : M VarId := ew "switch" .switch [c, a, b]
def clip (x a b : Value) : M VarId := ew "clip" .clip [x, a, b]
def neg := unary "neg" .neg
def abs := unary "abs_" .abs
def sgn := unary "sgn" .sgn
def exp := unary "exp" .exp
def log := unary "log" .log
def log1p := unary "log1p" .log1p
def sqr := unary "sqr" .sqr
def sqrt := unary "sqrt" .sqrt
def ceil := unary "ceil" .ceil
def real := unary "real" .real
def imag := unary "imag" .imag
def fill := binary "second" .second

variable (x : Value) (axes : List (Nat × Bool)) (d : DType) (i : Int)

def cast : M VarId := do
  let v <- asTensor x
  let e <- dtypeOf v
  if e == d then return v
  ScalarExpr.checkCast e d.isComplex
  applyTo (bareOp (.cast d)) [x]

def fullLike (e : DType -> Elem) (v : VarId) (d : Option DType) (keep : Bool := false) : M VarId := do
  let d <- if let some d := d then pure d else dtypeOf v
  let c <- elemConstant d (e d)
  if keep && (<- typeOf c) == (<- typeOf v) then return c
  fill v c

def zerosLike (d : Option DType := none) : M VarId := fullLike .zero v d
def onesLike (d : Option DType := none) : M VarId := fullLike .one v d
def floatZerosLike : M VarId := do zerosLike v (some (<- floatX))

def keepPlaces (ndim : Nat) (axis : Nat -> Bool) : List Place :=
  ((List.range ndim).foldl (fun (acc, k) j =>
    if axis j then (.new :: acc, k) else (.dim k :: acc, k + 1)) ([], 0)).1.reverse

def keepDims (x y : Value) (axis : Axes) : M VarId := do
  let x <- asTensor x
  let y <- asTensor y
  let n <- ndimOf x
  let axes := (axis.map (·.map (placeOf n))).getD ((List.range n).map Int.ofNat)
  dimshuffle y (keepPlaces n fun j => axes.contains j)

def sum (axis : Axes := none) (dtype : Option DType := none)
    (keep : Bool := false) (acc : Option DType := none) : M VarId := do
  let out <- applyTo (.reduce { cls := .sum, scalar := .add, axis, dtype, accDType := acc }) [x]
  if keep then keepDims x out axis else pure out

def sumAxes (axes : List Nat) (keep : Bool := false) : M VarId :=
  sum x (some (axes.map .ofNat)) none keep

def prod (axis : Axes := none) (dtype : Option DType := none)
    (keep : Bool := false) (acc : Option DType := none) (noZeros : Bool := false) : M VarId := do
  let out <- applyTo (.reduce { cls := .prod, scalar := .mul, axis, dtype, accDType := acc, noZeros }) [x]
  if keep then keepDims x out axis else pure out

def all (axis : Axes := none) : M VarId :=
  applyTo (.reduce { cls := .all, scalar := .and, axis }) [x]

def any (axis : Axes := none) : M VarId :=
  applyTo (.reduce { cls := .any, scalar := .or, axis }) [x]

def shape : M VarId := applyTo .shape [x]
def indexConstant : M VarId := newConstant (.scalar .int64) (.number .int64 (.int i))
def atPos : M VarId := do apply1 (.subtensor [.pos .int64]) [v, <- indexConstant i]
def shapeAt (x : VarId) (i : Int) : M VarId := do atPos (<- shape x) i
def shapeList (x : VarId) : M Vars := do (List.range (<- ndimOf x)).mapM fun (i : Nat) => shapeAt x i
def dimsOf (x : VarId) : M Values := do return valuesOf (<- shapeList x)

def tensorFromScalar : M VarId := apply1 .tensorFromScalar [v]
def scalarFromTensor : M VarId := apply1 .scalarFromTensor [v]
def alloc (v : Value) (dims : Values) : M VarId := applyTo .alloc (v :: dims)

def floatTest (n : String) (s : ScalarOp) (x : Value) : M VarId := do
  let v <- asTensor x
  if (<- dtypeOf v).isDiscrete then alloc (.array (.ofElem .bool (.int 0))) (<- dimsOf v)
  else ew n s [v]

def zeros (dims : Values) : M VarId := alloc (.array (.ofElem d (.zero d))) dims

def transpose : M VarId := do
  let r <- shuffleDims v (List.range (<- ndimOf v)).reverse
  let s := (<- nameOf v).getD ""
  if s != "" then setName r (some s!"{s}.T")
  pure r

def join (xs : Values) : M Value := do
  if let [x] := xs then return x else applyTo (.join (-1)) (axis :: xs)

def padAxis (axis : Int) : M VarId := do
  let v <- asTensor x
  let n <- ndimOf v
  let a := placeOf (n + 1) axis
  if a < 0 || a > n then fail .index s!"axis {axis} is out of bounds [-{n + 1}, {n + 1})"
  dimshuffle v (((List.range n).map .dim).insertIdx a.toNat .new)

def padRight (k : Nat := 1) : M VarId := do
  let v <- asTensor x
  dimshuffle v ((List.range (<- ndimOf v)).map .dim ++ .replicate k .new)

def stack : M Value := do
  if xs.isEmpty then
    fail .generic ("tensors is empty. You should at least provide one tensor to "
      ++ "theano.tensor.stack(tensors, axis).")
  let flat <- xs.allM fun
    | .int _ | .float _ | .complex .. | .bool _ => pure true
    | .number d _ => pure (d != .bool)
    | .var v => do pure ((<- typeOf v) matches .tensor _ [] _)
    | _ => pure false
  if flat then
    let vs <- xs.mapM asTensor
    return <- apply1 (.makeVector (<- commonType (<- vs.mapM dtypeOf))) vs
  let some a := axis.int? | badType
  join axis (<- xs.mapM fun x => do return .var (<- padAxis x a))

def rebroadcastRaw : M VarId :=
  apply1 (.rebroadcast (axes.mergeSort fun a b => a.1 <= b.1)) [v]

def simplifyRebroadcast : Nat -> VarId -> M VarId
  | 0, _ => outOfFuel
  | fuel + 1, v => do
    let some (.rebroadcast axes, x :: _) <- made? v | pure v
    let xb <- bcastOf x
    let useful := axes.filter fun (d, b) => xb.getD d false != b
    if xb == (<- bcastOf v) then return <- simplifyRebroadcast fuel x
    match <- made? x with
    | some (.elemwise .., [_]) => noAttr
    | some (.rebroadcast inner, y :: _) =>
      simplifyRebroadcast fuel (<- rebroadcastRaw y (useful.foldl (fun acc (d, b) => alistSet d b acc) inner))
    | _ => if useful == axes then return v else simplifyRebroadcast fuel (<- rebroadcastRaw x useful)

def rebroadcast : M VarId := do simplifyRebroadcast 100 (<- rebroadcastRaw v axes)
def patternBroadcast (bs : List Bool) : M VarId := rebroadcast v (bs.zipIdx.map fun (b, i) => (i, b))
def addBroadcast (axes : List Nat) : M VarId := rebroadcast v (axes.map (·, true))
def unbroadcast (axes : List Nat) : M VarId := rebroadcast v (axes.map (·, false))

def assertThat (v : Value) (conds : Values) (msg : String := "Theano Assert failed!") : M VarId :=
  applyTo (.assert msg) (v :: conds)

end Tensor

end TensorGraph

/-! ## Choosing between branches -/

namespace TensorGraph.Choice

open Tensor

def split (n : Nat) (ins : List α) : Option (α × List α × List α) :=
  match ins with
  | c :: rest => some (c, rest.take n, rest.drop n)
  | [] => none

def taken (yes : Bool) (n : Nat) (rest : List α) : List α := if yes then rest.take n else rest.drop n

def opNode (o : Op) (n : Nat) (args : Values) : M NodeId := do
  let some (c, ts, fs) := split n args | badType
  check (args.length == 2 * n + 1)
  let c <- asTensor c
  let ts <- ts.mapM asVariable
  let fs <- fs.mapM asVariable
  for (t, f) in ts.zip fs do
    if (<- typeOf t) != (<- typeOf f) then
      failWith .type ["'IfElse requires same types for true and false return values'", <- varText t, <- varText f,
        <- typeText t, <- typeText f]
  if (<- ndimOf c) > 0 then
    failType "Condition given to the op has to be a scalar with 0 standing for False, anything else for True"
  newNode o (c :: ts ++ fs) (<- ts.mapM typeOf)

def perform (n : Nat) (args : Values) : M Values := do
  let c :: rest := args | badIndex
  return taken (<- truthOf c) n rest

def among (c : VarId) (name : Option String) (ts fs : Values) : M Vars :=
  applyAll (.ifElse ts.length false false name) (.var c :: ts ++ fs)

def shapes (n : Nat) (name : Option String) (node : NodeId) (shapes : Shapes) :
    M Shapes := do
  let some (_, ts, fs) := split n shapes | badIndex
  let (some ts, some fs) := (ts.mapM id, fs.mapM id) | return .replicate n none
  let (ts, fs) := (ts.flatten, fs.flatten)
  check (ts.length == fs.length)
  let c := (<- insOf node).headD default
  let lengths <- if ts.isEmpty then pure [] else among c (some ("shape" ++ (name.map ("_" ++ ·)).getD "")) ts fs
  let mut rest := lengths
  let mut out := []
  for o in <- outsOf node do
    let k <- ndimOf o
    out := out ++ [some ((rest.take k).map .var)]
    rest := rest.drop k
  pure out

def pullback (n : Nat) (view device : Bool) (name : Option String) (ins gs : Vars) : M Vars := do
  let some (c, ts, fs) := split n ins | badIndex
  let op tail := .ifElse n view device (name.map (· ++ tail))
  let zeros xs := (xs.zip gs).mapM fun (x, g) => do zerosLike x (some (<- dtypeOf g))
  let noT <- zeros ts
  let noF <- zeros fs
  return (<- cast (<- zerosLike c) (<- floatX)) :: (<- applyAll (op "_grad_t") (valuesOf (c :: gs ++ noT)))
    ++ (<- applyAll (op "_grad_f") (valuesOf (c :: noF ++ gs)))

def matched (t f : Value) : M (VarId × VarId) := do
  let mut t <- asVariable t
  let mut f <- asVariable f
  let isTensor v := do return (<- typeOf v).isTensor
  if (<- typeOf t) != (<- typeOf f) then
    if (<- isTensor t) && !(<- isTensor f) then f <- filterVariable (<- typeOf t) f
    else if (<- isTensor f) && !(<- isTensor t) then t <- filterVariable (<- typeOf f) t
    if (<- typeOf t) != (<- typeOf f) then
      failType ("The two branches should have identical types, but they are " ++ (<- typeText t) ++ " and " ++ (<- typeText f)
        ++ " respectively. This error could be raised if for example you provided a one element list on the \x60then\x60 "
        ++ "branch but a tensor on the \x60else\x60 branch.")
  pure (t, f)

def ofBranches (c : Value) (ts fs : Values) (name : Option String) : M Vars := do
  let pairs <- (ts.zip fs).mapM fun (t, f) => matched t f
  if ts.length != fs.length then
    failValue ("The number of values on the \x60then\x60 branch should have the same number of variables as the \x60else\x60 "
      ++ "branch : (variables on \x60then\x60 " ++ toString ts.length ++ ", variables on \x60else\x60 " ++ toString fs.length ++ ")")
  applyAll (.ifElse ts.length false false name) (c :: pairs.map (.var ·.1) ++ pairs.map (.var ·.2))

end TensorGraph.Choice

/-! ## Elementwise operators and dimension shuffles -/

namespace TensorGraph

open Tensor

/-! ## Dimension shuffles -/

variable (input : List Bool) (order : List Place) (s : ScalarOp) (inplace : List (Nat × Nat)) (arrays : List NdArray) (n : NodeId)

variable (o : Op) (d : DType) (v : Value) (shown : String) (bs : List (List Bool))

def droppedText (tupled : Bool) : String :=
  let flags := input.map boolText
  "('You cannot drop a non-broadcastable dimension.', ("
    ++ (if tupled then tupleText flags else s!"[{commaList flags}]") ++ s!", {shown}))"

def dimShuffleOp (tupled : Bool := false) : M Op := do
  for (p, i) in order.zipIdx do
    match p with
    | .new => pure ()
    | .dim j =>
      if j >= input.length then failValue s!"new_order[{i}] is {j}, but the input only has {input.length} axes."
      if (order.drop (i + 1)).contains (.dim j) then
        failValue s!"('The same input dimension may not appear twice in the list of output dimensions', {shown})"
  for (b, i) in input.zipIdx do
    if !order.contains (.dim i) && !b then failValue (droppedText input shown tupled)
  return .dimShuffle input order true

def dimShuffleNode (input : List Bool) (order : List Place) (args : Values) : M NodeId := do
  let [v] <- tensors args | badType
  let ib <- bcastOf v
  let pair := s!"Expected {tupleText (input.map boolText)}, got {tupleText (ib.map boolText)}."
  if ib.length != input.length then
    failType s!"The number of dimensions of the input is incorrect for this op. {pair}"
  if (input.zip ib).any fun (e, b) => e && !b then
    failType s!"The broadcastable pattern of the input is incorrect for this op. {pair}"
  let ob := order.map fun
    | .dim i => ib.getD i false
    | .new => true
  newNode o [v] [.ofTensor (<- dtypeOf v) ob]

def NdArray.transpose (a : NdArray) (perm : List Nat) : NdArray :=
  let shape := perm.map fun i => a.shape.getD i 1
  let st := rowStrides a.shape
  let strides := perm.map fun i => st.getD i 0
  ⟨a.dtype, shape, (Array.range (shapeSize shape)).map fun k => a.at' (flatIndex strides (unflatten shape k)), a.region⟩

def insertOnes (one : α) : List α -> List α :=
  fun dims => (order.foldl (fun (acc, rest) p =>
    match p, rest with
    | .new, rest => (one :: acc, rest)
    | .dim _, d :: rest => (d :: acc, rest)
    | .dim _, [] => (acc, [])) (([] : List α), dims)).1.reverse

def shufflePerform (x : Value) : M Value := do
  match x with
  | .array a =>
    let kept := order.filterMap fun
      | .dim i => some i
      | .new => none
    let t := if kept == .range a.ndim then a else a.transpose (kept ++ (List.range a.ndim).filter (!kept.contains ·))
    let shape := insertOnes order 1 (t.shape.take kept.length)
    if shapeSize shape != t.size then badValue
    return .array { t with shape }
  | x => failType (<- textOf x)

def shuffleGrad (x gz : VarId) : M Vars := do
  let n <- ndimOf x
  if (<- dtypeOf x).isDiscrete then return [<- floatZerosLike x]
  let back := (List.range n).map fun j => if let some i := order.findIdx? (· == .dim j) then .dim i else .new
  let g <- applyTo (bareOp .identity) [gz]
  return [<- apply1 (.dimShuffle (<- bcastOf gz) back true) [g]]

/-! ## Elementwise operators -/

def elemwiseInfo (vs : Vars) :
    M (List DType × List (List Bool) × Vars) := do
  let ds <- vs.mapM dtypeOf
  let outs <- s.typesFor (ds.map fun d => s!"<{d.name}>") ds
  let ndims <- vs.mapM ndimOf
  if vs.isEmpty then badType
  let n := ndims.foldl .max 0
  let vs <- vs.mapM fun v => do
    let k <- ndimOf v
    if k == n then pure v else padLeft v (n - k)
  let bs <- vs.mapM bcastOf
  let ob := (List.range n).map fun i => bs.all fun b => b.getD i false
  for (_, i) in inplace do
    if ((bs.getD i []).zip ob).any fun (ib, o) => ib && !o then
      failValue "Operation cannot be done inplace on an input with broadcasted dimensions."
  if inplace.any fun (o, i) => ds[i]? != outs[o]? then
    let names l := "[" ++ commaList (l.map fun d => quoted d.name) ++ "]"
    failType ("('Cannot do an inplace operation on incompatible data types.', (" ++ names ds ++ ", "
      ++ names outs ++ ", <frozendict " ++ braced (commaList (inplace.map fun (o, i) =>
        toString o ++ s!": {i}")) ++ ">))")
  pure (outs, outs.map fun _ => ob, vs)

def elemwiseNode (s : ScalarOp) (inplace : List (Nat × Nat)) (args : Values) : M NodeId := do
  let vs <- args.mapM asTensor
  let (ds, bs, vs) <- elemwiseInfo s inplace vs
  newNode o vs ((ds.zip bs).map fun (d, b) => .ofTensor d b)

def ScalarKind.arrayFunction? : ScalarKind -> Option (Nat × Bool)
  | .switch => some (3, false)
  | .roundHalfEven | .imag | .angle => some (1, false)
  | .chi2sf => some (2, false)
  | .add | .mul => some (2, true)
  | .inRange .. | .clip | .second | .identity | .cast _ | .roundHalfAway | .real | .complex
  | .complexFromPolar | .trigamma | .gammau | .gammal | .softplus | .softsign | .xlogx | .xlogy0
  | .mulWithoutZeros | .composite _ => none
  | k => k.arity.map (·, true)

def Elem.plain : Elem -> Value
  | .int i => if d == .bool then i != 0 else i
  | .flt x => .float x
  | .cpx re im => .complex re im

def arrayOf : M NdArray := do
  match v with
  | .array a => pure a
  | v =>
    let some (d, e) := v.elem? | noAttr
    return .ofElem d e

def elemOfResult : M Elem := do return (<- arrayAs d v).item

/-- The lengths of the operands in a dimension, each with its flag. -/
def lengthsAt (i : Nat) : List (Nat × Bool) :=
  arrays.zip bs |>.map fun (a, b) => (a.shape.getD i 1, b.getD i false)

def longest (col : List (Nat × Bool)) : Nat := col.foldl (fun m d => max m d.1) 0

def checkStretch : M Unit := do
  let cols := (List.range (arrays.headD default).ndim).map (lengthsAt arrays bs)
  if cols.any fun col => longest col != 1 && col.contains (1, false) then
    let one a b :=
      "(" ++ commaList ((a.shape.zip b).map fun (d, s) => if s then "*" else toString d) ++ ")"
    failValue ("Dimension mismatch; shapes are " ++ commaList ((arrays.zip bs).map fun (a, b) => one a b))
  check (cols.all fun col => longest col <= 1 || col.all (·.1 != 0))

def elemwiseArrays (outs : List DType) (arrays : List NdArray) : M (List NdArray) := do
  let byElement := do
    let some shape := broadcastShapes (arrays.map (·.shape)) | badValue
    let cols := arrays.map fun a => (a.dtype, a.stretched shape)
    let mut acc := outs.map fun _ => #[]
    for k in List.range (shapeSize shape) do
      let rs <- s.impl (cols.map fun (d, c) => (c.getD k (.int 0)).plain d)
      acc := (acc.zip (<- (outs.zip rs).mapM fun (d, r) => elemOfResult d r)).map fun (a, e) => a.push e
    return (outs.zip acc).map fun (d, a) => ⟨d, shape, a, 0⟩
  match s.kind.arrayFunction? with
  | some (n, typed) =>
    if arrays.length == n then
      let out := outs.getD 0 .float64
      let wanted := if typed && out.isFloat && (arrays.headD default).dtype.isDiscrete then some out else none
      pure [(<- applyKind s.kind wanted arrays).cast out]
    else byElement
  | none => byElement

def elemwisePerform (args : Values) :
    M Values := do
  let nd <- nodeInfo n
  let arrays <- args.mapM arrayOf
  checkStretch arrays (<- nd.inputs.toList.mapM bcastOf)
  return (<- elemwiseArrays s (<- nd.outputs.toList.mapM dtypeOf) arrays).zipIdx.map fun (r, k) =>
    match inplace.lookup k with
    | some i =>
      let old := arrays.getD i default
      .array { (r.cast old.dtype).broadcastTo old.shape with region := old.region }
    | none => r

def liftScalar : Nat -> VarPairs -> Nat -> VarId -> M VarId
  | 0, _, _, _ => outOfFuel
  | fuel + 1, known, nd, r => do
    match <- typeOf r with
    | .null _ | .disconnected => pure r
    | _ =>
    match known.lookup r with
    | some v => pure v
    | none =>
      let i <- varInfo r
      match i.owner with
      | none =>
        let .constant (.number d e) := i.role | noAttr
        apply1 (.dimShuffle [] (.replicate nd .new) true) [<- arrayConstant (.ofElem d e)]
      | some n =>
        let ins <- (<- insOf n).mapM (liftScalar fuel known nd)
        let .scalar s <- opOf n | noAttr
        apply1 (bareOp s) ins

def elemwiseBackward (ins outs gs : Vars) : M Vars := do
  let (known, grads) <- withoutTests do
    let standIn v := do
      match <- typeOf v with
      | .null _ | .disconnected => return v
      | t =>
        let some d := t.dtype? | noAttr
        newVar (.scalar d)
    let si <- ins.mapM standIn
    let sg <- gs.mapM standIn
    let shadow <- ins.mapM fun v => do newVar (.scalar (<- dtypeOf v))
    let so <- outsOf (<- M.ask fun k => k.makeNode (.scalar s) (valuesOf shadow) [])
    pure (si.zip ins ++ so.zip outs ++ sg.zip gs, <- M.ask fun k => k.pullback (.scalar s) si so sg)
  grads.mapM (liftScalar 400 known (<- ndimOf (ins.headD default)))

def isNullOrDisconnected (v : VarId) : M Bool := do
  match <- typeOf v with
  | .null _ | .disconnected => pure true
  | _ => pure false

def elemwiseGrad (ins outs gs : Vars) : M Vars := do
  let rs <- elemwiseBackward s ins outs gs
  if (<- outs.mapM dtypeOf).any fun d => !d.isContinuous then
    (rs.zip ins).mapM fun (r, i) => do
      if <- isNullOrDisconnected r then return r
      let z <- zerosLike i
      if (<- dtypeOf z).isContinuous then return z
      cast z (<- floatX)
  else
    let ob <- bcastOf (outs.headD default)
    (rs.zip ins).mapM fun (r, i) => do
      if <- isNullOrDisconnected r then return r
      let ib <- bcastOf i
      let axes := (List.range ib.length).filter fun j => ib.getD j false && !ob.getD j false
      if axes.isEmpty then return r
      sumAxes r axes true

def elemwiseShapes (shapes : Shapes) : M Shapes := do
  let nd <- nodeInfo n
  let bs <- nd.inputs.toList.mapM fun v => do
    let .tensor _ b _ <- typeOf v | pure none
    pure (some b)
  nd.outputs.toList.mapM fun o => do
    let ob <- bcastOf o
    let dims <- mapIdxM (fun i b => do
      if b then return 1
      let mut found := .null
      for (ib, sh) in bs.zip shapes do
        match ib, sh with
        | some ib, some sh =>
          if found.isNull && !ib.getD i false then
            match sh[i]? with
            | some (.int 0) | none => pure ()
            | some d => found := d
        | some _, none => badType
        | none, _ => pure ()
      return found) ob
    return some dims

end TensorGraph
