import TensorGraph.Tensor.Arrange

/-! # Reductions -/

namespace TensorGraph

open Tensor

variable (x : Value) (r : Reduction) (d : DType) (a : NdArray) (s : ScalarOp) (axis : Nat)

def axisInt : M Int := do
  match x with
  | .float f => if let some i := truncFloat f then pure i else badValue
  | .str s => if let some i := s.toInt? then pure i else badValue
  | x => if let some (_, e) := x.elem? then pure e.toInt else badType

def givenAxes (axis : Value) : M Axes := do
  match axis, axis.elem? with
  | .null, _ => pure none
  | _, some (d, e) => if d.isDiscrete || axis matches .array _ then return some [e.toInt] else badType
  | _, none => return some (<- (<- iterate axis).mapM axisInt)

def reductionAxes (axis : Value) : M Axes := do
  return (<- givenAxes axis).map fun is => is.eraseDups.mergeSort (fun a b => decide (a <= b))

def checkReducer : M Unit := do
  let k <- if s.kind matches .add | .mul then pure none else s.arity
  if k.any (· != 2) || (<- s.resultCount) != 1 then
    cannot "CAReduce only supports binary functions with a single output."

def DType.widened : DType :=
  match d with
  | .bool | .int8 | .int16 | .int32 => .int64
  | .uint8 | .uint16 | .uint32 => .uint64
  | d => d

def DType.accumulated : DType :=
  match d with
  | .float16 => .float32
  | .float32 => .float64
  | .complex64 => .complex128
  | d => d.widened

def accumulator : M DType := do
  let some a := r.accDType | pure d.accumulated
  if a.isContinuous && d.isDiscrete then return a
  let u <- commonType [d, a]
  if a != u then
    failType ("Cannot build " ++ (<- opText (.reduce r)) ++ " node with input dtype " ++ d.name
      ++ " and acc_dtype " ++ a.name ++ ", as precision would be lost. To correct this error, you can:")
  pure a

def reduceNode (args : Values) : M NodeId := do
  let [v] <- tensors args | badType
  let test := r.cls matches .all | .any
  let v <- if test && (<- dtypeOf v) != .bool then neq v 0 else pure v
  let d <- dtypeOf v
  let (r, out) <- match r.cls with
    | .typed | .sum | .prod | .prodWithoutZeros =>
      let out := r.dtype.getD d.widened
      pure ({ r with dtype := some out, accDType := some (<- accumulator r d) }, out)
    | .mean => pure (r, .float64)
    | _ => pure (r, if test then .bool else d)
  let b <- bcastOf v
  for a in r.axis.getD [] do
    let j := placeOf b.length a
    if j < 0 || j >= b.length then failValue s!"Not enough dimensions on {<- varText v} to reduce on axis {a}"
  let r := { r with axis := r.axis.map (·.map (placeOf b.length)) }
  newNode (.reduce r) [v] [.ofTensor out (if let some l := r.axis then dropAxes l b else [])]

def ScalarKind.neutral? : ScalarKind -> Option Elem
  | .lt | .gt | .le | .ge | .eq | .neq | .add | .or | .xor => some (.int 0)
  | .mul => some (.int 1)
  | .and => some (.int (-1))
  | .mulWithoutZeros => some (.flt 0)
  | _ => none

variable (o : Op) (v : VarId) (n : NodeId) (axes : List Nat) (f : Elem -> Elem -> M Elem)

def NdArray.foldAxis : M NdArray := do
  let ls <- (a.lanes axis).mapM fun
    | [] => badValue
    | x :: xs => xs.foldlM f x
  return ⟨a.dtype, a.shape.eraseIdx axis, ls.toArray, 0⟩

def laneSum (f : Elem -> Elem -> M Elem) (xs : List Elem) : M Elem := do
  if xs.length < 8 then xs.foldlM f (.flt 0)
  else if xs.length <= 128 then
    let whole := xs.length - xs.length % 8
    let mut r := (xs.take 8).toArray
    for (x, i) in ((xs.take whole).drop 8).zipIdx do r := r.set! (i % 8) (<- f (r.getD (i % 8) default) x)
    let pair (i j : Nat) := f (r.getD i default) (r.getD j default)
    let low <- f (<- pair 0 1) (<- pair 2 3)
    let high <- f (<- pair 4 5) (<- pair 6 7)
    (xs.drop whole).foldlM f (<- f low high)
  else
    let half := xs.length / 2 - xs.length / 2 % 8
    f (<- laneSum f (xs.take half)) (<- laneSum f (xs.drop half))
termination_by xs.length
decreasing_by all_goals simp_wf; omega

def NdArray.sumAxis : M NdArray := do
  let inner := (a.shape.drop (axis + 1)).all (· == 1)
  let ls <- (a.lanes axis).mapM fun l => do if inner then f (.flt 0) (<- laneSum f l) else l.foldlM f (.flt 0)
  return ⟨a.dtype, a.shape.eraseIdx axis, ls.toArray, 0⟩

def ScalarKind.foldsDirectly : ScalarKind -> Bool
  | .add | .mul | .maximum | .minimum | .and | .or | .xor => true
  | _ => false

def reduceArray (acc : DType) (a : NdArray) : M NdArray := do
  let mut a := a
  for k in (axes.mergeSort (· <= ·)).reverse do
    if a.shape.getD k 1 == 0 then
      match s.kind.neutral? with
      | some e => a := .full acc (a.shape.eraseIdx k) (acc.fit e)
      | none =>
        failValue s!"Input ({a.text}) has zero-size on axis {k}, but self.scalar_op ({<- opText (.scalar s)}) has no attribute 'identity'"
    else if s.kind.foldsDirectly then
      let f x y : M Elem := s.kind.eval acc [x, y]
      a <- if s.kind == .add && acc.isFloat then (a.cast acc).sumAxis k f else (a.cast acc).foldAxis k f
    else
      let d := a.dtype
      a <- a.foldAxis k fun x y => do
        -- Nothing makes the inner expression of a composite ready here.
        if s.kind matches .composite _ then noAttr
        elemOfResult acc ((<- s.impl [x.plain d, y.plain d]).headD .null)
      a := { a with dtype := acc }
  pure a

def reducePerform (x : Value) : M Value := do
  let a <- arrayOf x
  let out <- dtypeOf (<- outOf n)
  let axes := if let some l := r.axis then l.map Int.toNat else .range a.ndim
  match r.cls with
  | .mean =>
    let s <- reduceArray .add axes .float64 (a.cast .float64)
    let count := axes.foldl (fun n k => n * a.shape.getD k 1) 1
    return s.map (fun e => .flt (e.toFloat / .ofNat count)) .float64
  | _ =>
    let acc := (if r.cls.isTyped then r.accDType else none).getD out
    return .array { (<- reduceArray r.scalar axes acc a).cast out with region := 0 }

def Reduction.reduces (j : Nat) : Bool := if let some l := r.axis then l.contains (j : Int) else true

def reduceGrad (ins outs gs : Vars) : M Vars := do
  let x := ins.headD default
  let g := gs.headD default
  let outType := dtypeOf (outs.headD default)
  let places := do return keepPlaces (<- ndimOf x) r.reduces
  match r.cls with
  | .all | .any => pure [<- floatZerosLike x]
  | .sum =>
    if !(<- outType).isContinuous then return [<- floatZerosLike x]
    let gz <- asTensor g
    if r.axis == some [] then return [gz]
    return [<- apply1 (bareOp .second) [x, <- dimshuffle gz (<- places)]]
  | .prod =>
    if (<- outType).isDiscrete || r.accDType.any DType.isDiscrete then return [<- floatZerosLike x]
    let gz <- asTensor g
    if r.axis == some [] then return [gz]
    let ps <- places
    let p <- dimshuffle (<- applyTo (.reduce r) [x]) ps
    let gz <- dimshuffle gz ps
    let plain <- div (<- mul gz p) x
    if r.noZeros then return [plain]
    let zero <- eq x (.float 0)
    let count <- sum zero r.axis
    let single <- dimshuffle (<- eq count 1) ps
    let here <- mul single zero
    let rest <- mul (<- mul single (<- neq gz (.float 0))) x
    let pw <- applyTo (.reduce { cls := .prodWithoutZeros, scalar := .mulWithoutZeros, axis := r.axis }) [rest]
    let pw <- dimshuffle pw ps
    let none_ <- dimshuffle (<- eq count 0) ps
    pure [<- switch none_ plain (<- mul (<- switch here pw (.float 0)) gz)]
  | .prodWithoutZeros =>
    return [<- gradMissing (<- opText (.reduce r)) 0 x
      ("2nd derivatives of `product(a)` is not currently supported.If `a` is guaranteed to contains no zeros, "
        ++ "use `product(a, no_zeros_in_input=True)`.")]
  | _ => noGradient (.reduce r)

def reduceShape (shape : Values) : M Values := do
  let some l := r.axis | pure []
  let k <- ndimOf ((<- insOf n).headD default)
  if shape.length < k then badIndex
  return dropAxes l (shape.take k)

/-! ## Extrema -/

def normalizeAxes (axis : Value) : M (List Nat) := do
  let v <- asTensor x
  let wrong := do
    failType s!"Axis must be an integer, tuple, list of integers or a TensorVariable. Got {<- textOf axis}"
  let axes <- match axis with
    | .null => pure []
    | .tuple _ | .list _ => do (<- itemsOf axis).mapM axisInt
    | .array a => pure (a.data.toList.map Elem.toInt)
    | .var w =>
      match <- constant? w, <- typeOf w with
      | some .null, .noneType => pure []
      | some (.array a), .tensor d .. => do
        check d.isInteger
        pure (a.data.toList.map Elem.toInt)
      | _, _ => failType s!"Computation needs a constant axis. Got {<- varText w}"
    | .int i => pure [i]
    | .bool b => pure [b.toInt]
    | .number d e => if d.isInteger then pure [e.toInt] else wrong
    | _ => wrong
  let n <- ndimOf v
  let out <- axes.mapM fun a => do
    let a := placeOf n a
    if a < 0 || a >= n then failValue s!"Computation needs a valid axis number for {n}-D tensor. Got {a}"
    return a.toNat
  return out.eraseDups.mergeSort (· <= ·)

def maxAndArgmaxNode (axis : List Int) (args : Values) : M NodeId := do
  let [v] <- tensors args | badType
  let b := dropAxes axis (<- bcastOf v)
  let a <- newVar (.ofTensor (<- dtypeOf v) b) (some "max")
  newNodeWith o [v] [a, <- newVar (.ofTensor .int64 b) (some "argmax")]

def argmaxNode (axis : Axes) (args : Values) : M NodeId := do
  match args with
  | [x] | [x, _] =>
    let v <- asTensor x
    let b <- if let some l := axis then do pure (dropAxes l (<- bcastOf v)) else pure []
    newNodeWith o [v] [<- newVar (.ofTensor .int64 b) (some "argmax")]
  | _ => badType

def greatestAt (l : List Elem) : Nat :=
  match l with
  | [] => 0
  | x :: xs =>
    (xs.zipIdx.foldl (fun (best, at_) (y, i) =>
      if best.isNaN then (best, at_)
      else if y.isNaN || best.lt y then (y, i + 1) else (best, at_)) (x, 0)).2

def maxAndArgmaxOf : M (NdArray × NdArray) := do
  let keep := (List.range a.ndim).filter (!axes.contains ·)
  if axes.any (· >= a.ndim) then raise .axis
  let t := a.transpose (keep ++ axes)
  let kshape := keep.map fun i => a.shape.getD i 1
  let len := shapeSize (axes.map fun i => a.shape.getD i 1)
  if len == 0 then badValue
  let pick := (List.range (shapeSize kshape)).map fun o =>
    let l := (List.range len).map fun k => t.at' (o * len + k)
    let i := greatestAt l
    (l.getD i (.int 0), i)
  return (⟨a.dtype, kshape, (pick.map (·.1)).toArray, 0⟩,
    ⟨.int64, kshape, (pick.map fun p => .int (p.2 : Nat)).toArray, 0⟩)

def maxAndArgmax (x axis : Value) (keep : Bool := false) : M (VarId × VarId) := do
  let v <- asTensor x
  let axes <- normalizeAxes v axis
  let axes <- if axes.isEmpty then do pure (.range (<- ndimOf v)) else pure axes
  let is := axes.map .ofNat
  let [m, i] <- applyAll (.maxAndArgmax is) [v] | badValue
  if keep then return (<- keepDims v m (some is), <- keepDims v i (some is))
  pure (m, i)

def maxOf (axis : Value := .null) (keep : Bool := false) : M VarId := do
  let out <- try
      pure (<- maxAndArgmax x axis).1
    catch _ => do applyTo (.reduce { cls := .max, scalar := .maximum, axis := <- reductionAxes axis }) [x]
  if keep then keepDims x out (<- reductionAxes axis) else pure out

def argmaxOf (axis : Value := .null) (keep : Bool := false) : M VarId := do
  let out := (<- maxAndArgmax x axis).2
  if keep then keepDims x out (<- reductionAxes axis) else pure out

def topOf : Value := .array (.ofElem d (.int d.range.2))

def minOf (axis : Value := .null) (keep : Bool := false) : M VarId := do
  let v <- asTensor x
  let d <- dtypeOf v
  if d.isFloat || d.isSigned then neg (<- maxOf (<- neg v) axis keep)
  else if d.isUnsigned then sub (topOf d) (<- maxOf (<- sub (topOf d) v) axis keep)
  else if d == .bool then invert (<- maxOf (<- invert v) axis keep)
  else cannot

def argminOf (axis : Value := .null) (keep : Bool := false) : M VarId := do
  let v <- asTensor x
  let d <- dtypeOf v
  if d.isFloat || d.isSigned then argmaxOf (<- neg v) axis keep
  else if d.isUnsigned then argmaxOf (<- sub d.range.2 v) axis keep
  else if d == .bool then argmaxOf (<- invert v) axis keep
  else cannot

def maxAndArgmaxGrad (axis : List Int) (x gmax gidx : VarId) : M Vars := do
  let isOff v := do return (<- typeOf v) == .disconnected
  let axisVar <- asTensor (.tuple (valuesOf axis))
  if <- isOff gmax then
    if <- isOff gidx then return [<- disconnectedVar, <- disconnectedVar]
    return [<- zerosLike x]
  let m <- maxOf x axisVar
  let ps := keepPlaces (<- ndimOf x) fun j => axis.contains (j : Int)
  let g <- dimshuffle gmax ps
  pure [<- mul (<- eq (<- dimshuffle m ps) x) g]

/-! ## Averages -/

def axisList (ndim : Nat) (axis : Value) : M (List Int) := do
  return (<- givenAxes axis).getD ((List.range ndim).map Int.ofNat)

def meanOf (axis : Value := .null) (dtype : Option DType := none) (keep : Bool := false)
    (acc : Option DType := none) : M VarId := do
  let v <- asTensor x
  let d <- dtypeOf v
  let mut s <- sum v (<- reductionAxes axis) (dtype <|> if d == .float16 then some .float32 else none) keep acc
  let sd <- dtypeOf s
  let fd := if sd == .float16 || sd == .float32 || sd == .complex64 then .float32 else .float64
  let shp <- cast (<- shape v) fd
  for i in <- axisList (<- ndimOf v) axis do s <- div s (<- atPos shp i)
  if (<- dtypeOf s) != fd && (<- dtypeOf s).isDiscrete then s <- cast s fd
  if dtype == some .float16 || (dtype.isNone && d == .float16) then s <- cast s .float16
  setName s (some "mean")
  pure s

def varOf (axis : Value := .null) (ddof : Value := 0) (keep : Bool := false)
    (corrected : Bool := false) : M VarId := do
  let axes <- axisList (<- ndimOf v) axis
  let axisV := .tuple (valuesOf axes)
  let centered <- sub v (<- meanOf v axisV none true)
  let two <- elemConstant (<- dtypeOf centered) (.int 2)
  let plain <- valuesEqual ddof 0
  let divided s by_ := axes.foldlM (fun s i => do div s (<- by_ i)) s
  let mut r <- if plain then meanOf (<- pow centered two) axisV none keep
    else do
      let shp <- sub (<- shape v) ddof
      divided (<- sum (<- pow centered two) (<- reductionAxes axisV) none keep) (atPos shp)
  if corrected then
    let err <- if plain then do pow (<- meanOf centered axisV none keep) 2
      else do
        let shp <- sub (<- shape v) ddof
        let full <- shape v
        let e <- pow (<- sum centered (<- reductionAxes axisV) none keep) 2
        divided e fun i => do mul (<- atPos shp i) (<- atPos full i)
    r <- sub r err
  setName r (some "var")
  pure r

def stdOf (axis : Value := .null) (ddof : Value := 0) (keep : Bool := false)
    (corrected : Bool := false) : M VarId := do
  let r <- sqrt (<- varOf v axis ddof keep corrected)
  setName r (some "std")
  pure r

def reversal (ndim axis : Nat) : Value :=
  .tuple ((List.range ndim).map fun i => .slice .null .null (if i == axis then .int (-1) else .null))

def variableOf (v : Value) : M VarId := if let .var x := v then pure x else badType

/-! ## Running sums and products -/

variable (o : Op) (axis : Option Int) (args : Values) (name : String) (mode : String) (a : NdArray) (ins : Vars) (x : VarId)

def cumNode : M NodeId := do
  let [x] <- tensors args | badType
  let some k := axis | newNode o [x] [.ofTensor (<- dtypeOf x) [false]]
  let n : Int := <- ndimOf x
  if k >= n || k < -n then failValue s!"axis(={k}) out of bounds"
  newNode o [x] [<- typeOf x]

def laneAxis (axis : Option Int) : M (NdArray × Nat) := do
  if let some k := axis then return (a, <- axisOf a.ndim k) else return ({ a with shape := [a.size] }, 0)

def running (f : Elem -> Elem -> Checked Elem) : List Elem -> Checked (List Elem)
  | [] => .ok []
  | x :: xs => do
    let (_, out) <- xs.foldlM (fun (acc, out) y => do let z <- f acc y; return (z, z :: out)) (x, [x])
    pure out.reverse

def cumPerform (x : Value) : M Value := do
  let (a, k) <- laneAxis (<- arrayOf x) axis
  let d := if a.dtype.isDiscrete then if a.dtype.isUnsigned then .uint64 else .int64 else a.dtype
  let f := ScalarKind.eval (if mode == "add" then .add else .mul) d
  let ls <- liftFault (((a.cast d).lanes k).mapM (running fun x y => f [x, y]))
  return .array (.ofLanes d a.shape k (a.shape.getD k 1) ls)

variable (g : VarId)

def cumGrad : M Vars := do
  let flip v : M VarId := do
    let whole <- if let some k := axis then do pure (reversal (<- ndimOf g) (k.fmod (<- ndimOf x)).toNat)
      else pure (.slice .null .null (.int (-1)))
    variableOf (<- getItem 10 (<- variableOf v) whole)
  let back v : M VarId := do
    let r <- flip (<- applyTo (.cumOp axis "add") [(<- flip v)])
    if axis.isSome then return r else reshapeTo r (<- shape x) none
  if mode == "add" then return [<- back g]
  let r <- back (<- operate .mul (<- applyTo (.cumOp axis "mul") [x]) g)
  pure [<- variableOf (<- operate .trueDiv r x)]

def cumShapes (shapes : Shapes) : M Shapes := do
  let (none, [some x]) := (axis, shapes) | pure shapes
  return [some [<- prod (.tuple x)]]

/-! ## Repetitions -/

def repeatNode : M NodeId := do
  let [x, r] <- tensors args | badType
  let d <- dtypeOf r
  if !d.isInteger then failType "repeats.dtype must be an integer."
  if d == .uint64 then
    failWith .type [quoted "dtypes ('uint64',) are not supported by numpy.repeat for the 'repeats' parameter, ",
      quoted "uint64"]
  let b <- if let some k := axis then do
      let b <- bcastOf x
      if <- isConstantNumber r 1 then pure b else do pure (b.set (<- positionOf b.length k) false)
    else pure [false]
  newNode o [x, r] [.ofTensor (<- dtypeOf x) b]

def repeatPerform (x r : Value) : M Value := do
  let (a, k) <- laneAxis (<- arrayOf x) axis
  let r <- arrayOf r
  if r.ndim > 1 then badValue
  let len := a.shape.getD k 0
  let counts := if r.size == 1 then .replicate len r.item.toInt else r.toInts
  if counts.length != len || counts.any (· < 0) then badValue
  let ls := (a.lanes k).map fun l => (l.zip counts).flatMap fun (e, c) => .replicate c.toNat e
  return .array (.ofLanes a.dtype a.shape k (counts.foldl (· + ·) 0).toNat ls)

def repeatGrad (x r g : VarId) : M Vars := do
  match <- ndimOf r with
  | 0 =>
    let n <- ndimOf x
    let k := if let some k := axis then (placeOf n k + 1).toNat else n
    let wide <- reshapeTo g (.tuple ((<- dimsOf x).insertIdx k r)) (some (n + 1))
    return [<- sum wide (some [(k : Int)]), <- disconnectedVar]
  | 1 => cannot
  | _ => failValue ""

def repeatShape (n : NodeId) (x : Values) : M Values := do
  let r := (<- insOf n).getD 1 default
  let d <- dtypeOf r
  let total := do
    sum r none (if [.uint8, .uint16, .uint32].contains d then some .int64 else none)
  let plain := (<- ndimOf r) == 0
  if let some k := axis then
    let at_ <- positionOf x.length k
    return x.set at_ (<- if plain then operate .mul (x.getD at_ .null) r else total)
  if !plain then return [<- total]
  if x.isEmpty then return [r]
  pure [<- operate .mul (<- x.foldlM (operate .mul) 1) r]

def repeatOf (repeats : Value) (axis : Option Int) : M VarId := do
  let r <- asTensor repeats
  let rn <- ndimOf r
  if rn > 1 then failValue "The dimension of repeats should not exceed 1."
  if rn == 1 && (<- bcastOf r) == [false] then return <- applyTo (.repeatOp axis) [x, r]
  let r <- if rn == 1 then do variableOf (<- getItem 10 r 0) else pure r
  if (<- dtypeOf x) == .uint64 then failType "theano.tensor.repeat don't support dtype uint64"
  let (x, k) <- if let some k := axis then do
      let n <- ndimOf x
      if k >= n then failValue "Axis should not exceed x.ndim-1."
      pure (x, (placeOf n k).toNat)
    else do pure (<- flattenTo x, 0)
  let dims <- dimsOf x
  let wide := dims.insertIdx (k + 1) r
  let places := ((List.range dims.length).map .dim).insertIdx (k + 1) .new
  let dims := dims.set k (<- operate .mul (dims.getD k .null) r)
  reshapeTo (<- alloc (<- dimshuffle x places) wide) (.tuple dims) none

/-! ## Diagonals -/

def fillDiagonalNode (offset : Bool) (args : Values) : M NodeId := do
  if args.length != (if offset then 3 else 2) then badType
  let vs <- tensors args
  let a :: v :: rest := vs | badType
  let n <- ndimOf a
  if offset && n != 2 then failType s!"{name}: first parameter must have exactly two dimensions"
  if n < 2 then failType s!"{name}: first parameter must have at least two dimensions"
  if (<- ndimOf v) != 0 then failType s!"{name}: second parameter must be a scalar"
  for k in rest do if (<- ndimOf k) != 0 then failType s!"{name}: third parameter must be a scalar"
  let d <- dtypeOf a
  let v <- cast v (.promote d (<- dtypeOf v))
  if (<- dtypeOf v) != d then failType s!"{name}: type of second parameter must be the same as the first's"
  for k in rest do
    if !(<- dtypeOf k).isInteger then
      failType s!"{name}: type of third parameter must be as integer use theano.tensor.cast( input, 'int32/int64')"
  newNode o (a :: v :: rest) [<- typeOf a]

def NdArray.fillEvery (start stop step : Int) (e : Elem) : Checked NdArray := do
  let (first, count, by_) <- rangeOf a.size (some start) (some stop) (some step)
  let places := (List.range count).map fun (i : Nat) => (first + (i : Int) * by_).toNat
  return { a with data := places.foldl (fun d p => d.setIfInBounds p e) a.data, region := 0 }

def fillDiagonalPerform : M Value := do
  match <- args.mapM fun v => arrayOf v with
  | [a, v] =>
    let e := a.dtype.fit v.item
    match a.shape with
    | [_, w] => a.fillEvery 0 (w * w) (w + 1) e
    | s =>
      if s.any (· != s.headD 0) then badValue
      let step := ((List.range s.length).map fun i => Nat.pow (s.headD 0) i).foldl (· + ·) 0
      a.fillEvery 0 a.size (step : Nat) e
  | [a, v, k] =>
    let [h, w] := a.shape | badValue
    let (height, width) : Int × Int := (h, w)
    let k := k.item.toInt
    let start := if k >= 0 then k else -k * width
    let count := if k >= 0 then min (min width height) (width - k) else min (min width height) (height + k)
    return (<- a.fillEvery start (start + (width + 1) * count) (width + 1) (a.dtype.fit v.item))
  | _ => badType

def fillDiagonalGrad : M Vars := do
  match ins with
  | [a, _] =>
    if (<- dtypeOf a).isComplex then cannot
    if (<- ndimOf a) > 2 then cannot s!"{name}: gradient is currently implemented for matrices only"
    return [<- applyTo o [g, 0], <- sum (<- applyTo (.extractDiag 0 0 1 false) [g])]
  | [a, _, k] =>
    let [height, width] <- iterate (<- shape g) | badValue
    let ga <- applyTo o [g, 0, k]
    let size <- abs k
    let up <- ge k 0
    let down <- lt k 0
    let least <- minimum width height
    let start <- operate .add (<- operate .mul k up) (<- operate .mul (<- operate .mul size width) down)
    let across <- operate .add (<- operate .mul width up) (<- operate .mul height down)
    let count <- minimum least (<- operate .sub across size)
    let step <- operate .add (<- shapeAt a 1) 1
    let stop <- operate .add start (<- operate .mul step count)
    let start <- cast start .int32
    let step <- cast step .int32
    let gv <- sum (<- variableOf (<- getItem 10 (<- flattenTo g) (.slice start (<- cast stop .int32) step)))
    return [ga, gv, <- gradMissing (<- opText o) 2 k
      "offset is not defined for non-integer offset so fill_diagonal_offset(a,val,offset+eps) is undefined"]
  | _ => badType

/-! ## Shapes of stretched tensors -/

def stretchedShape (arrays : Values) (areShapes : Bool) : M Values := do
  let one <- indexConstant 1
  let length? (d : Value) : M (Option Value) := do
    let known <- match d with
      | .var x => pure ((<- constant? x).getD 0)
      | d => pure d
    if <- truthOf (<- operate .eq known 1) then return none else return some d
  let lists <- arrays.mapM fun a => do if areShapes then (<- iterate a).mapM length? else stretchShape (<- variableOf a)
  return (<- broadcastShapeOf lists).map fun d => d.getD one

def oneHot (y : VarId) (count : Value) (d : DType) : M VarId := do
  let rows <- zeros d [<- shapeAt y 0, count]
  let here <- Tensor.arange 0 (<- shapeAt y 0) 1 none
  setSubtensor (<- getItem 10 rows (.tuple [here, y])) 1

/-! ## Distinct elements -/

def uniqueNode (index inverse counts : Bool) (axis : Option Int) (args : Values) : M NodeId := do
  let [x] <- tensors args | badType
  let b <- bcastOf x
  let bcast <- match axis with
    | none => pure [false]
    | some k => do
      let j := placeOf b.length k
      if j < 0 || j >= b.length then fail .runtime s!"Unique axis \x60{k}\x60 is outside of input ndim = {b.length}."
      pure (b.set j.toNat false)
  let more := ([index, inverse, counts].filter id).map fun _ => .ofTensor .int64 [false]
  newNode o [x] (.ofTensor (<- dtypeOf x) bcast :: more)

end TensorGraph
