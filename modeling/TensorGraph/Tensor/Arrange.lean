import TensorGraph.Tensor.Index

/-! # Making and rearranging tensors -/

namespace TensorGraph

open Tensor

variable (v : Value) (d : DType) (args : Values) (o : Op)

def dtypeArg : M (Option DType) := do
  match v with
  | .null => pure none
  | .str s | .dtype s | .cls s =>
    let some d := DType.ofName? (<- typeName s) | badType
    return some d
  | _ => badType

def dtypeOrFloatX : M DType := do if let some d <- dtypeArg v then return d else floatX

/-! ## Scalars and tensors without dimensions -/

def tensorFromScalarNode : M NodeId := do
  match args with
  | [.var v] =>
    let .scalar d <- typeOf v | unmet
    newNode .tensorFromScalar [v] [.ofTensor d []]
  | [_] => noAttr
  | _ => badType

def tensorFromScalarGrad (s dt : VarId) : M Vars := do
  let d <- dtypeOf s
  if d.isFloat then
    check (<- dtypeOf dt).isFloat
    return [<- scalarFromTensor dt]
  if d.isDiscrete then return [<- ScalarExpr.floatZeros s]
  cannot "grad not implemented for complex dtypes"

def scalarFromTensorNode : M NodeId := do
  match args with
  | [.var v] =>
    let .tensor d b _ <- typeOf v | unmet
    check b.isEmpty
    newNode .scalarFromTensor [v] [.scalar d]
  | [_] => noAttr
  | _ => badType

/-! ## Positions of nonzero elements -/

def nonzeroNode : M NodeId := do
  let [v] <- tensors args | badType
  let n <- ndimOf v
  if n == 0 then failValue "Nonzero only supports non-scalar arrays."
  newNode .nonzero [v] (.replicate n (.ofTensor .int64 [false]))

def nonzeroOf (a : Value) : M Vars := applyAll .nonzero [a]

/-! ## Triangles and identities -/

def sizedNode (scalarOnly : Bool) (d : DType) (args : Values) : M NodeId := do
  let [n, m, k] := args | badType
  let vs <- tensors [n, m, k]
  if scalarOnly then for v in vs do check ((<- ndimOf v) == 0)
  newNode o vs [.ofTensor d [false, false]]

def sizeValue : M Int := do
  let a <- arrayOf v
  if a.size == 1 && a.dtype.isDiscrete then return a.item.toInt else badType

def triPerform (below : Bool) (args : Values) : M Value := do
  let [n, m, k] <- args.mapM sizeValue | badType
  if n < 0 || m < 0 then
    if below then return .array (.zeros d [n.toNat, m.toNat]) else badValue
  return .array (.build d [n.toNat, m.toNat] fun idx =>
    match idx with
    | [i, j] =>
      let gap := (j : Int) - i
      if (if below then decide (gap <= k) else decide (gap = k)) then .one d else .zero d
    | _ => .zero d)

namespace Tensor

def tri (n m k : Value) (d : DType) : M VarId := applyTo (.tri d) [n, if m.isNull then n else m, k]
def eye (n m k : Value) (d : DType) : M VarId := applyTo (.eye d) [n, if m.isNull then n else m, k]
def identityLike (v : VarId) : M VarId := do eye (<- shapeAt v 0) (<- shapeAt v 1) 0 (<- dtypeOf v)

def triangle (m : VarId) (k : Value) (upper : Bool) : M Value := do
  let d <- dtypeOf m
  let rows <- shapeAt m 0
  let cols <- shapeAt m 1
  if upper then
    let one <- elemConstant d (.int 1)
    let t <- tri rows cols (<- operate .sub k 1) d
    operate .mul m (<- operate .sub one t)
  else operate .mul m (<- tri rows cols k d)

end Tensor

/-! ## Constants spread over a shape -/

variable (dims : Values)

def shapeOperands : M (Vars × List Bool) := do
  let vs <- tensors dims
  let out <- vs.zipIdx.mapM fun (v, i) => do
    let shown := do
      if (<- settingText "exception_verbosity") == "high" then return ""
      else varText v
    if !(<- dtypeOf v).isInteger then
      failType s!"Shape arguments to Alloc must be integers, but argument {i} is not for apply node: {<- shown}"
    let n <- ndimOf v
    if n != 0 then
      let rest := s!"but dimension {i} have {n} dimensions for apply node: {<- shown}"
      failType s!"('Each shape dimension to Alloc must be a scalar, ', {quoted rest})"
    let some c <- valueOf? v | return false
    Slice.isNum c 1
  pure (vs, out)

def allocNode : M NodeId := do
  let x :: dims := args | badType
  let v <- asTensor x
  let (sh, b) <- shapeOperands dims
  let n <- ndimOf v
  if n > sh.length then
    failType s!"('The Alloc value to use has more dimensions than the specified dimensions', {n}, {sh.length})"
  newNode .alloc (v :: sh) [.ofTensor (<- dtypeOf v) b]

def shapeValues : M (List Nat) := do
  dims.mapM fun d => do
    let i := (<- arrayOf d).item.toInt
    if i < 0 then badValue else pure i.toNat

def allocPerform : M Value := do
  let a <- arrayOf v
  let sh <- shapeValues dims
  if a.size == 1 && !a.item.truthy then return .array (.zeros a.dtype sh)
  return .array ⟨a.dtype, sh, <- a.forAssignment sh, 0⟩

def allocGrad (ins : Vars) (gz : VarId) : M Vars := do
  let x :: dims := ins | pure []
  let xb <- bcastOf x
  let gb <- bcastOf gz
  let extra := gb.length - xb.length
  -- the last dimensions of the gradient; all of them when the operand has none
  let tail := if xb.isEmpty then gb else gb.drop extra
  let pairs := (xb.zip tail).zipIdx
  let stretched := (pairs.filter fun ((ib, g), _) => ib && !g).map (·.2)
  let kept := (pairs.filter fun ((ib, g), _) => !(ib && !g)).map (·.2)
  let gx <- sumAxes gz (.range extra ++ stretched.map (· + extra))
  let gx <- if stretched.isEmpty then pure gx else do
    let order := kept.zipIdx.foldl (fun l (a, i) => l.set a (.dim i))
      (.replicate xb.length .new)
    dimshuffle gx order
  return gx :: (<- disconnectedList dims.length)

def allocEmptyNode : M NodeId := do
  let (sh, b) <- shapeOperands args
  let out <- newVar (.ofTensor d b)
  setTag out "values_eq_approx" (.api "theano.tensor.type.values_eq_approx_always_true")
  setTag out "nan_guard_mode_check" false
  newNodeWith (.allocEmpty d) sh [out]

/-! ## Vectors of scalars -/

def makeVectorNode : M NodeId := do
  let vs <- tensors args
  let types <- vs.mapM typeOf
  let ds <- vs.mapM dtypeOf
  let uniform := types.all fun t => some t == types.head?
  let vs <- if !uniform || (ds.head?.map (· != d)).getD false then do
      check ((<- commonType (d :: ds)) == d)
      vs.mapM fun (v : VarId) => cast v d
    else pure vs
  for v in vs do check ((<- dtypeOf v) == d)
  for v in vs do check ((<- ndimOf v) == 0)
  newNode (.makeVector d) vs [.ofTensor d [false]]

def makeVectorPerform : M Value := do
  let xs <- args.mapM arrayOf
  return .array ⟨d, [xs.length], (xs.map fun a => d.fit a.item).toArray, 0⟩

/-! ## Ranges -/

def arangeNode : M NodeId := do
  let [a, b, c] := args | badType
  let vs <- tensors [a, b, c]
  for v in vs do check ((<- ndimOf v) == 0)
  newNode (.arange d) vs [.ofTensor d [false]]

def arangePerform : M Value := do
  let [a, b, c] <- args.mapM arrayOf | badType
  let start := a.item
  let stop := b.item
  let step := c.item
  let isInt := a.dtype.isDiscrete && b.dtype.isDiscrete && c.dtype.isDiscrete
  if !step.truthy then raise .zeroDivision
  let count :=
    if isInt then
      let gap := stop.toInt - start.toInt
      let s := step.toInt
      (if s > 0 then if gap > 0 then (gap + s - 1) / s else 0
        else if gap < 0 then (-gap + -s - 1) / (-s) else 0).toNat
    else
      let q := ((stop.toFloat - start.toFloat) / step.toFloat).ceil
      if q.isNaN || q <= 0 then 0 else q.toUInt64.toNat
  let first := d.fit start
  let second <- ScalarKind.add.eval
    (if isInt then .int64 else .float64) [if isInt then start else .flt start.toFloat,
      if isInt then step else .flt step.toFloat]
  let second := d.fit second
  let delta <- ScalarKind.sub.eval d [second, first]
  let xs <- (List.range count).mapM fun (i : Nat) => do
    if i == 0 then return first
    if i == 1 then return second
    ScalarKind.add.eval d [first, <- ScalarKind.mul.eval d [d.fit (.int i), delta]]
  return .array ⟨d, [count], xs.toArray, 0⟩

def widenIndex (v : VarId) : M VarId := do
  let d <- dtypeOf v
  if d.isInteger && (<- commonType [d, .int64]) == .int64 then cast v .int64 else pure v

def arangeShape (n : NodeId) : M Values := do
  let [start, stop, step] <- insOf n | badValue
  let isNumber v k := do
    let some c <- valueOf? v | return false
    Slice.isNum c k
  if <- isNumber step 1 then
    if <- isNumber start 0 then return [<- cast stop .int64]
    let stop <- widenIndex stop
    let start <- widenIndex start
    return [<- maximum (<- cast (<- operate .sub stop start) .int64) 0]
  let stop <- widenIndex stop
  let start <- widenIndex start
  let q <- operate .trueDiv (<- cast (<- operate .sub stop start) .float64) step
  pure [<- maximum (<- cast (<- ceil q) .int64) 0]

def Tensor.arange (start stop step : Value) (dtype : Option DType) : M VarId := do
  let (start, stop) := if stop.isNull then (0, start) else (start, stop)
  let vs <- tensors [start, stop, step]
  let d <- match dtype with
    | some d => pure d
    | none => do
      let ds <- vs.mapM dtypeOf
      let d <- commonType ds
      let d := if d.isSigned then .int64 else if d.isUnsigned then .uint64 else d
      let policy <- settingText "cast_policy"
      if policy == "numpy" || policy == "numpy+floatX" then
        let n := ds.foldl .promote (ds.headD .int64)
        let n := if n == .bool || n == .int8 || n == .int16 || n == .int32 then .int64 else n
        if n != d then
          if policy == "numpy+floatX" && (<- floatX) == .float32 && n == .float64 && ds.all (· != .float64) then
            check (d != .float64)
            pure .float32
          else pure n
        else pure d
      else pure d
  apply1 (.arange d) vs

def arangeGrad (start step out gz : VarId) : M Vars := do
  if d.isDiscrete then return [<- floatZerosLike start, <- disconnectedVar, <- floatZerosLike step]
  let count <- shapeAt out 0
  let first <- sum gz
  let k <- Tensor.arange count .null 1 (some d)
  pure [first, <- disconnectedVar, <- sum (<- mul gz k)]

/-! ## Defaults -/

def defaultNode : M NodeId := do
  let [x, y] <- tensors args | badType
  let t <- typeOf y
  if (<- typeOf x) != t then
    failType s!"('Both default() arguments must have same type', {<- varText x}, {<- varText y})"
  newNode .default [x, y] [t]

/-! ## Checked values -/

def assertNode (args : Values) : M NodeId := do
  let x :: conds := args | badType
  let v <- asVariable x
  let cs <- tensors conds
  for c in cs do check ((<- ndimOf c) == 0)
  newNode o (v :: cs) [<- typeOf v]

def assertPerform (x : Value) (conds : Values) : M Value := do
  for c in conds do
    match c with
    | .array a => check (a.data.all Elem.truthy)
    | c => check (<- truthOf c)
  pure x

/-! ## Rearranging tensors -/

def isIndexScalar (t : Ty) : Bool := if let .tensor d [] _ := t then d.isSigned else false

/-! ## Cutting -/

variable (o : Op) (k : Nat) (offset axis1 axis2 : Int) (args : Values) (xshape : Values) (n : NodeId) (size : VarId) (a : NdArray)

def splitNode : M NodeId := do
  let [x, axis, sizes] := args | badType
  let x <- asTensor x
  let a <- asTensor axis
  let s <- asTensor sizes
  let t <- typeOf s
  let ok := if let .tensor d [false] _ := t then d.isSigned else false
  if !ok then failType s!"('splits must have type tensor.lvector', {t.text})"
  let t <- typeOf a
  if !isIndexScalar t then failType s!"('axis must have type lscalar', {t.text})"
  newNode o [x, a, s] (.replicate k (<- typeOf x))

def splitPerform : M Values := do
  let [x, axis, sizes] <- args.mapM arrayOf | badValue
  let a := axis.item.toInt
  let j := placeOf x.ndim a
  if j < 0 || j >= x.ndim then failValue s!"Split.perform() with axis=({a}) is invalid for x.shape==({shapeText x.shape})"
  let j := j.toNat
  let len := x.shape.getD j 0
  let ss := sizes.toInts
  if ss.length != k then failValue s!"('In Split.perform(), len(splits) != len_splits.', ({ss.length}, {k}))"
  let sum l := DType.int64.wrap (l.foldl (· + ·) 0)
  let total := sum ss
  if total != (len : Int) then failValue s!"The splits sum to {total}, expected {len}"
  if ss.any (· < 0) then failValue "Split: you tried to make an ndarray with a negative number of elements."
  (List.range k).mapM fun i => do
    let key := .replicate j (.range none none none) ++ [.range (some (sum (ss.take i))) (some (sum (ss.take (i + 1)))) none]
    return .array { (<- x.select key) with region := 0 }

def splitShapes (xshape : Values) : M Shapes := do
  let [_, axis, sizes] <- insOf n | badValue
  (List.range k).mapM fun (i : Nat) => do
    let t <- setSubtensor (<- getItem 3 (<- asTensor (.tuple xshape)) axis) (<- atPos sizes i)
    return some (<- (List.range xshape.length).mapM fun (j : Nat) => do return .var (<- atPos t j))

/-! ## Joining -/

def joinNode : M NodeId := do
  let axis :: parts := args | badIndex
  if parts.isEmpty then failValue "Cannot join an empty list of tensors"
  let vs <- tensors parts
  let d <- commonType (<- vs.mapM dtypeOf)
  let bs <- vs.mapM bcastOf
  if bs.any List.isEmpty then
    failType "Join cannot handle arguments of dimension 0. For joining scalar values, see @stack"
  let n := (bs.headD []).length
  let (b, axis) <- if let [b] := bs then pure (b, axis) else do
    let k <- if let some i := axis.int? then pure (some i) else do
      let some c <- valueOf? axis | pure none
      match c, c.elem? with
      | _, some (_, e) => pure (some e.toInt)
      | .array x, _ => pure (some x.item.toInt)
      | _, _ => badType
    let some k := k | pure (.replicate n false, axis)
    if k < -(n : Int) then fail .index s!"Join axis {k} out of bounds [0, {n})"
    let j := placeOf n k
    if bs.any fun x => (x.zipIdx.drop n).any fun (flag, i) => flag && (i : Int) != j then badIndex
    if j >= n then failValue "Join argument \"axis\" is out of range (given input dimensions)"
    pure ((List.range n).map fun (i : Nat) => (i : Int) != j && bs.any (·.getD i false), j)
  if (bs.drop 1).any (·.length != n) then failType "Join() can only join tensors with the same number of dimensions."
  let a <- asTensor axis
  let t <- typeOf a
  if !isIndexScalar t then
    failType ("('Axis could not be cast to an integer type', " ++ (<- reprOf axis) ++ ", "
      ++ t.text ++ ", (TensorType(int8, scalar), TensorType(int16, scalar), TensorType(int32, scalar), "
      ++ "TensorType(int64, scalar)))")
  newNode o (a :: vs) [.ofTensor d b]

def joinPerform (view : Int) (n : NodeId) (args : Values) : M Value := do
  let axis :: xs <- args.mapM arrayOf | badIndex
  let a := axis.item.toInt
  let nd := (xs.headD default).ndim
  let k := placeOf nd a
  if view != -1 then
    let rest <- (xs.eraseIdx view.toNat).allM fun x => do
      return x.shape.getD (<- positionOf x.ndim a) 0 == 0
    if rest then
      let some x := xs[view.toNat]? | badIndex
      return x
  if a < -(nd : Int) then fail .index s!"Join axis {a} out of bounds [0, {nd})"
  if k >= nd then raise .axis
  return ((<- NdArray.concat xs k.toNat).cast (<- dtypeOf (<- outOf n)))

def joinGrad (o : String) (axis : VarId) (xs : Vars) (gz : VarId) : M Vars := do
  let first <- gradMissing o 0 axis
  let d <- commonType (<- xs.mapM dtypeOf)
  if !d.isContinuous then return first :: (<- xs.mapM floatZerosLike)
  let sizes <- xs.mapM fun (x : VarId) => do getItem 3 (<- shape x) axis
  let gs <- applyAll (.split xs.length) [gz, axis, <- stack sizes 0]
  return first :: (<- (xs.zip gs).mapM fun (t, g) => do patternBroadcast g (<- bcastOf t))

def joinShape (shapes : Shapes) : M Values := do
  check (shapes.length > 1)
  let some (l :: ls) := (shapes.drop 1).mapM id | badType
  let k := l.length
  check (ls.all (·.length == k))
  let axis := (<- insOf n).headD default
  let dim <- switch (<- ge axis 0) axis (<- operate .add axis k)
  mapIdxM (fun i f => do
    let t <- ls.foldlM (fun t l => operate .add t (l.getD i .null)) f
    return (<- switch (<- eq i dim) t f)) l

/-! ## New shapes -/

def reshapeNode : M NodeId := do
  let [x, shp] := args | badType
  let v <- asTensor x
  let s <- asTensor shp none (some 1)
  let d <- dtypeOf s
  let data? <- do
    let some (.array a) <- constant? s | pure none
    pure (some a)
  if !(d.isSigned || data?.any (·.size == 0)) then failType s!"('Shape must be integers', {<- varText s}, '{d.name}')"
  check ((<- ndimOf s) == 1)
  let b <- if let some a := data? then pure (a.toInts.map (· == 1)) else
    (List.range k).mapM fun (i : Nat) => do
      let whole <- match shp with
        | .var w => do pure ((<- typeOf w).ndim? == some 0)
        | .array a => pure (a.ndim == 0)
        | _ => pure false
      let y <- if whole then (if i == 0 || shp matches .array _ then pure shp else badIndex)
        else itemOf shp i
      let some c <- valueOf? (<- asTensor y) | return false
      Slice.isNum c 1
  newNode o [v, s] [.ofTensor (<- dtypeOf v) b]

def reshapePerform (x shp : Value) : M Value := do
  let a <- arrayOf x
  let s <- arrayOf shp
  if s.size != k then
    failValue s!"('shape argument to Reshape.perform has incorrect length {s.size}, should be {k}', {s.expression})"
  match a.reshape s.toInts with
  | .ok r => pure r
  | .error _ => failValue s!"Cannot reshape input of shape {shapeText a.shape} to shape {s.text}"

def reshapeGrad (x g : VarId) : M Vars := do
  return [<- applyTo (.reshape (<- ndimOf x) none) [g, <- shape x], <- disconnectedVar]

def productOf (xs : Values) : M VarId := ew "mul" .mul xs

/-- The lengths of a constant shape, of which one may be left open. -/
def constantLengths (shape : NdArray) : M Values := do
  let want := shape.toInts
  let known := want.filter (· != -1)
  let num i := .number shape.dtype (.int i)
  match want.length - known.length with
  | 0 => return want.map num
  | 1 =>
    if known.isEmpty then return [size]
    let missing <- operate .floorDiv size (<- productOf (known.map num))
    return want.map fun i => if i == -1 then missing else num i
  | _ => failValue "shape argument to Reshape.perform must have at most one entry equal to -1"

def openLength (lengths : Vars) : M Value := do
  let rest <- neg (<- productOf (valuesOf lengths))
  operate .floorDiv size (<- maximum rest 1)

def givenLengths (size shape : VarId) : M Values := do
  let rs <- (List.range k).mapM fun (i : Nat) => atPos shape i
  if k == 0 then return []
  let rest <- openLength size rs
  rs.mapM fun (r : VarId) => do switch (<- eq r (.int (-1))) rest r

def reshapeShape (xshape : Values) : M Values := do
  if xshape.isEmpty then return .replicate k 1
  let size <- productOf xshape
  let shape := (<- insOf n).getD 1 default
  if let some (.array a) <- constant? shape then constantLengths size a else givenLengths k size shape

def reshapeTo (x newShape : Value) (ndim : Option Int) : M VarId := do
  let (s, k) <- match ndim with
    | some k => pure (newShape, k)
    | none => do
      let s <- asTensor newShape
      if (<- ndimOf s) != 1 then
        failType s!"New shape in reshape must be a vector or a list/tuple of scalar. Got {<- varText s} after conversion to a vector."
      let k <- try vectorLength s
        catch e =>
          if e.isA .value then
            failValue ("The length of the provided shape (" ++ (<- varText s) ++ ") cannot be automatically "
              ++ "determined, so Theano is not able to know what the number of dimensions of the reshaped variable "
              ++ "will be. You can provide the 'ndim' keyword argument to 'reshape' to avoid this problem.")
          else throw e
      pure (s, (k : Int))
  if k < 0 then failValue "The output dimensions after reshape must be 0 or greater"
  applyTo (.reshape k.toNat none) [x, s]

def flattenNode : M NodeId := do
  match args with
  | [.var v] =>
    let b <- bcastOf v
    if k < 1 || (!b.isEmpty && k > b.length) then
      failValue s!"invalid output ndimensions ({k}) for tensor of rank {b.length}"
    newNode o [v] [.ofTensor (<- dtypeOf v) (b.take (k - 1) ++ [(b.drop (k - 1)).all id])]
  | [_] => noAttr
  | _ => badType

def flattenPerform (x : Value) : M Value := do
  let a <- arrayOf x
  if k == 1 then return .array { a with shape := [a.size] }
  if k == a.ndim then return a
  return .array { a with shape := a.shape.take (k - 1) ++ [shapeSize (a.shape.drop (k - 1))] }

def flattenShape : M Values := do
  let head := xshape.take (k - 1)
  match xshape.drop (k - 1) with
  | [] =>
    if xshape.isEmpty && k == 1 then return [1]
    failValue s!"invalid output ndimensions ({k}) for tensor of rank {xshape.length}"
  | [d] => return head ++ [d]
  | ds => return head ++ [.var (<- prod (.tuple ds) none (some .int64))]

/-! ## Tiling -/

def tileNode : M NodeId := do
  let [x, reps] := args | badType
  let v <- asTensor x
  newNode o [v, <- asTensor reps] [.ofTensor (<- dtypeOf v) (.replicate k false)]

def tileArray (reps : List Nat) : NdArray :=
  let n := max a.ndim reps.length
  let shape := .replicate (n - a.ndim) 1 ++ a.shape
  let reps := .replicate (n - reps.length) 1 ++ reps
  let src := { a with shape }
  .build a.dtype (.zipWith (· * ·) shape reps) fun idx => src.get (.zipWith (· % ·) idx shape)

def tilePerform (x reps : Value) : M Value := do
  let a <- arrayOf x
  let res := tileArray a ((<- arrayOf reps).toInts.map Int.toNat)
  if res.ndim != k then failValue "Tile.perform produced incorrect number of dimensions"
  pure res

variable (x gz : VarId)

def tileOf (reps : Value) (ndim : Option Int) : M VarId := do
  let n <- ndimOf x
  if ndim.any (· < (n : Int)) then failValue "ndim should be equal or larger than x.ndim"
  let reps : Values <- match <- members? reps with
    | none => do
      let r <- asTensor reps
      if !(<- dtypeOf r).isDiscrete then failValue "elements of reps must be integer dtype"
      match <- ndimOf r with
      | 0 => pure [reps]
      | 1 =>
        let some k := ndim | failValue "if reps is tensor.vector, you should specify the ndim"
        let .var rv := reps | noAttr
        let off <- operate .sub k (<- shapeAt rv 0)
        let off <- assertThat off [(<- ge off 0)]
        (List.range k.toNat).mapM fun (i : Nat) => do
          let c <- operate .lt i off
          let j <- operate .sub i off
          return (<- switch c 1 (<- getItem 3 rv j))
      | _ => failValue "the dimension of reps should not exceed 1"
    | some xs => do
      if ndim.any (· < (xs.length : Int)) then failValue "len(reps) should be equal or less than ndim"
      let ok <- xs.allM fun
        | .int _ | .bool _ => pure true
        | .var v => do
          let .tensor d _ _ <- typeOf v | pure false
          pure (d.isDiscrete && !(<- isConstant v) && !(<- isShared v))
        | _ => pure false
      if !ok then failValue "elements of reps must be scalars of integer dtype"
      pure xs
  let k := if let some k := ndim then k.toNat else max reps.length n
  let reps := .replicate (k - reps.length) 1 ++ reps
  let shape := .replicate (k - n) 1 ++ (<- dimsOf x)
  let y <- shuffleDims (<- alloc x (reps ++ shape)) ((List.range k).flatMap fun i => [i, k + i])
  reshapeTo y (<- newList (<- (shape.zip reps).mapM fun (s, r) => operate .mul s r)) none

/-! ## Permuted rows -/

def permuteRowsNode : M NodeId := do
  let [x, y, inverse] := args | badType
  let x <- asTensor x
  let y <- asTensor y
  let i <- asTensor (.int (if <- truthOf inverse then 1 else 0))
  check (<- dtypeOf y).isInteger
  let xn <- ndimOf x
  let yn <- ndimOf y
  let y <- if xn > yn then padLeft y (xn - yn) else pure y
  let x <- if xn < yn then padLeft x (yn - xn) else pure x
  newNode .permuteRowElements [x, y, i] [.ofTensor (<- dtypeOf x) (.zipWith (· && ·) (<- bcastOf x) (<- bcastOf y))]

def permuteRows (inverse : Bool) (xb yb : List Bool) : List Nat -> List Nat -> NdArray -> NdArray -> Except String (List Elem)
  | [n], [_], x, y =>
    let pos := y.toInts.map fun i => placeOf n i
    if pos.any (fun i => i < 0 || i >= n) then .error "index"
    else if inverse then
      .ok ((pos.zipIdx.foldl (fun (out : Array Elem) (p, k) => out.setIfInBounds p.toNat (x.at' k))
        (.replicate n (.zero x.dtype))).toList)
    else .ok (pos.map fun p => x.at' p.toNat)
  | n :: xs, m :: ys, x, y =>
    let part a rest i :=
      let w := shapeSize rest
      ⟨a.dtype, rest, a.data.extract (i * w) (i * w + w), 0⟩
    let rows k fx fy := do
      let ls <- (List.range k).mapM fun i => permuteRows inverse (xb.drop 1) (yb.drop 1) xs ys
        (part x xs (fx i)) (part y ys (fy i))
      return ls.flatten
    if n == m then rows n id id
    else if m == 1 && yb.headD false then rows n id fun _ => 0
    else if n == 1 && xb.headD false then rows m (fun _ => 0) id
    else .error s!"Dimension mismatch: {n}, {m}"
  | _, _, _, _ => .error "index"

def permuteRowsPerform (args : Values) : M Value := do
  let ([x, y, inv], [xv, yv, _]) := (<- args.mapM arrayOf, <- insOf n) | badValue
  check (x.ndim == y.ndim)
  let shape <- (x.shape.zip y.shape).mapM fun (a, b) => do
    if a == b then return a
    if a == 1 then return b
    if b == 1 then return a
    failValue s!"Dimension mismatch: {a}, {b}"
  match permuteRows inv.item.truthy (<- bcastOf xv) (<- bcastOf yv) x.shape y.shape x y with
  | .ok l => return .array ⟨x.dtype, shape, l.toArray, 0⟩
  | .error "index" => badIndex
  | .error m => failValue m

def permuteRowsGrad (x y inv gz : VarId) : M Vars := do
  let gx <- applyTo .permuteRowElements [gz, y, <- eq inv 0]
  let xb <- bcastOf x
  let gb <- bcastOf gz
  let stretched := (xb.zip gb).zipIdx.filterMap fun ((a, b), i) => if a && !b then some i else none
  let gx <- sumAxes gx stretched
  let order := (List.range gb.length).map fun i =>
    if stretched.contains i then .new else .dim (i - (stretched.filter (· < i)).length)
  let gx <- dimshuffle gx order
  check ((<- bcastOf gx) == xb)
  let gx <- if (<- dtypeOf x).isDiscrete then zerosLike x else pure gx
  let o <- opText .permuteRowElements
  pure [gx, <- gradMissing o 1 y, <- gradMissing o 1 inv]

/-! ## Diagonals -/

def extractDiagNode : M NodeId := do
  let [v] <- tensors args | badType
  let n <- ndimOf v
  if n < 2 then failValue s!"('ExtractDiag needs an input with 2 or more dimensions', {<- varText v})"
  newNode o [v] [.ofTensor (<- dtypeOf v) (.replicate (n - 1) false)]

def diagonalOf (offset axis1 axis2 : Int) : M NdArray := do
  let norm k := if let .ok j := positionOf a.ndim k then return j else raise .axis
  let p <- norm axis1
  let q <- norm axis2
  if p == q then badValue
  let keep := (List.range a.ndim).filter fun i => i != p && i != q
  let r0 := (-offset).toNat
  let c0 := offset.toNat
  let len := min (a.shape.getD p 0 - r0) (a.shape.getD q 0 - c0)
  let shape := keep.map (fun i => a.shape.getD i 1) ++ [len]
  return { NdArray.build a.dtype shape fun idx =>
    let k := idx.getD keep.length 0
    a.get ((List.range a.ndim).map fun i =>
      if i == p then k + r0 else if i == q then k + c0 else idx.getD (keep.idxOf i) 0) with region := a.region }

def extractDiagPerform (view : Bool) (x : Value) : M Value := do
  let r <- diagonalOf (<- arrayOf x) offset axis1 axis2
  return .array (if view then r else { r with region := 0 })

def extractDiagGrad : M Vars := do
  if (<- ndimOf x) != 2 then return [<- gradMissing (<- opText o) 0 x]
  let z <- zerosLike x
  let d <- apply1 (.allocDiag offset 0 1) [gz]
  let upTo (i : Nat) := do return .slice .null (<- shapeAt d i) .null
  return [<- setSubtensor (<- getItem 3 z (.tuple [<- upTo 0, <- upTo 1])) d]

def extractDiagShape : M Values := do
  let at_ k := do return xshape.getD (<- positionOf xshape.length k) .null
  let d1 <- at_ axis1
  let d2 <- at_ axis2
  let rest := xshape.zipIdx.filterMap fun (d, i) => if (i : Int) == axis1 || (i : Int) == axis2 then none else some d
  let len <- if offset > 0 then clip (<- operate .sub d2 offset) 0 d1
    else if offset < 0 then clip (<- operate .add d1 offset) 0 d2
    else minimum d1 d2
  return rest ++ [.var len]

def allocDiagNode : M NodeId := do
  let [v] <- tensors args | badType
  let n <- ndimOf v
  if n < 1 then failValue ("('AllocDiag needs an input with 1 or more dimensions', " ++ (<- typeOf v).text ++ ")")
  newNode o [v] [.ofTensor (<- dtypeOf v) (.replicate (n + 1) false)]

def insertTwo (axis1 axis2 : Int) (l : List α) (x y : α) : List α :=
  let cut k l := (if k < 0 then max 0 (k + l.length) else k).toNat
  let a := min axis1 axis2
  let b := max axis1 axis2
  let l := l.take (cut a l) ++ [x] ++ l.drop (cut a l)
  l.take (cut b l) ++ [y] ++ l.drop (cut b l)

def allocDiagPerform (x : Value) : M Value := do
  let a <- arrayOf x
  let n := a.shape.getLastD 0
  let lead := a.shape.dropLast
  let size := n + offset.natAbs
  let r0 := (-offset).toNat
  let c0 := offset.toNat
  let k := lead.length
  let full := NdArray.build a.dtype (lead ++ [size, size]) fun idx =>
    let i := idx.getD k 0
    let j := idx.getD (k + 1) 0
    if i >= r0 && j >= c0 && i - r0 == j - c0 && i - r0 < n then a.get (idx.take k ++ [i - r0]) else .zero a.dtype
  return if k == 0 then full else full.transpose (insertTwo axis1 axis2 (.range k) k (k + 1))

def allocDiagShape : M Values := do
  let some n := xshape.getLast? | badIndex
  let d <- operate .add n offset.natAbs
  return insertTwo axis1 axis2 xshape.dropLast d d

end TensorGraph
