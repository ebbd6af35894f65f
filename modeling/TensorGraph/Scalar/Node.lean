import TensorGraph.Graph.Apply

/-!
# Constants and scalar expressions

What may stand for a tensor or a scalar, what scalar operators do with single values, and their gradients.
-/

namespace TensorGraph

/-- The narrowest type that holds an integer, unless the policy asks for the default one. -/
def autocastInt (i : Int) : M NdArray := do
  let inRange d := let (lo, hi) := d.range; lo <= i && i <= hi
  if (<- settingText "cast_policy") == "numpy+floatX" then
    let some d := intDType i | unmet
    return .ofElem d (.int i)
  match [.int8, .int16, .int32, .int64].find? inRange with
  | some d => return .ofElem d (.int i)
  | none => if inRange .uint64 then return .ofElem .uint64 (.int i) else raise .overflow

/-- Single precision where it loses nothing, unless the policy asks for the default type. -/
def autocastFloat (x : Float) : M NdArray := do
  let fx <- floatX
  if (<- settingText "cast_policy") == "numpy+floatX" then return .ofElem fx (fx.fit (.flt x))
  if fx == .float32 || fx == .float16 then return .ofElem fx (fx.fit (.flt x))
  if DType.float32.roundFloat x == x then return .ofElem .float32 (.flt x)
  return .ofElem .float64 (.flt x)

/-- The name of the type of an array that holds no numbers. -/
def oddType : Nat -> Value -> M String
  | 0, _ => outOfFuel
  | fuel + 1, v => do
    match v with
    | .str s => return s!"<U{max s.length 1}"
    | .bytes b => return s!"|S{max b.length 1}"
    | v =>
      let ts <- ((<- members? v).getD []).mapM (oddType fuel)
      if ts.isEmpty || !ts.all (·.startsWith "<U") then return "object"
      return s!"<U{ts.foldl (fun m t => max m ((t.drop 2).toNat?.getD 0)) 0}"

variable (x : Value) (v : VarId) (k : ScalarKind) (d : DType)

/-- A value as an array, or the name of its type if that holds no numbers. -/
def convert (dtype : Option DType) : M (NdArray ⊕ String) := do
  match dtype with
  | some d => return .inl (<- arrayAs d x)
  | none =>
    match x with
    | .bool b => return .inl (<- autocastInt (if b then 1 else 0))
    | .int i => return .inl (<- autocastInt i)
    | .float f => return .inl (<- autocastFloat f)
    | .array a => return .inl a
    | x =>
      let some a <- numericArray? x | return .inr (<- oddType 20 x)
      if a.size == 0 && (x matches .list _ | .tuple _) then return .inl ⟨<- floatX, a.shape, #[], 0⟩
      return .inl a

/-- A constant; its dimensions of length one can be stretched. -/
def arrayConstant (a : NdArray) (name : Option String := none) : M VarId :=
  newConstant (.tensor a.dtype (a.shape.map (· == 1)) none) a name

def elemConstant (e : Elem) : M VarId := arrayConstant (.ofElem d (d.fit e))

/-- A constant of a name, a rank and a type; one that has them already is taken as it is. -/
def tensorConstant (name : Option String := none) (ndim : Option Nat := none)
    (dtype : Option DType := none) : M VarId := do
  let x <- match x with
    | .var v =>
      match <- constant? v, <- typeOf v with
      | some d, .tensor e b _ =>
        if (name.isNone || (<- nameOf v) == name) && (ndim.isNone || ndim == some b.length)
            && (dtype.isNone || dtype == some e) then
          return v
        pure d
      | _, _ => pure x
    | x => pure x
  match <- convert x dtype with
  | .inr t => failType s!"Unsupported dtype for TensorType: {t}"
  | .inl a =>
    let a <- match ndim with
      | none => pure a
      | some n =>
        if a.ndim < n then pure { a with shape := .replicate (n - a.ndim) 1 ++ a.shape }
        else if a.ndim > n then
          if (a.shape.take (a.ndim - n)).all (· == 1) then pure { a with shape := a.shape.drop (a.ndim - n) }
          else badValue
        else pure a
    arrayConstant a name

def dimshuffle (order : List Place) : M VarId := do apply1 (.dimShuffle (<- bcastOf v) order true) [v]
def shuffleDims (dims : List Nat) : M VarId := dimshuffle v (dims.map .dim)

def padLeft (n : Nat) : M VarId := do
  dimshuffle v (.replicate n .new ++ (List.range (<- ndimOf v)).map .dim)

/-- Anything that can stand for a tensor as a variable: constants, scalars, lists of either, nodes with one result. -/
def asTensorDepth : Nat -> Value -> Option String -> Option Nat -> M VarId
  | 0, _, _, _ => outOfFuel
  | fuel + 1, x, name, ndim => do
    let early <- match x with
      | .var v =>
        match <- typeOf v with
        | .tensor _ b _ =>
          let sameName <- if let some _ := name then do pure ((<- nameOf v) == name) else pure true
          pure (if sameName && (ndim.isNone || ndim == some b.length) then some v else none)
        | _ => pure none
      | _ => pure none
    if let some v := early then return v
    let x <- match x with
      | .node n =>
        if (<- opOf n).defaultOutput.isNone && (<- outsOf n).length != 1 then
          failType "Multi-output Op encountered. Retry using only one of the outputs directly."
        pure (.var (<- defaultOutputOf n))
      | .record r =>
        if let some w := (<- record r).fields.lookup "_as_TensorVariable" then pure w else pure x
      | x => pure x
    match x with
    | .var v =>
      if let some d <- constant? v then asTensorDepth fuel d name ndim
      else
      let v <- if (<- typeOf v).isScalar then apply1 .tensorFromScalar [v] else pure v
      match <- typeOf v with
      | .tensor _ b _ =>
        let some n := ndim | pure v
        if b.length > n then
          let some (_, i) := b.zipIdx.find? fun (x, _) => !x | badIndex
          let v <- shuffleDims v ((List.range b.length).drop i)
          if (<- ndimOf v) > n then
            failValue s!"Tensor of type {<- typeText v} could not be cast to have {n} dimensions"
          pure v
        else if b.length < n then padLeft v (n - b.length)
        else pure v
      | t => failType s!"Tensor type field must be a TensorType; found <class '{t.classPath}'>."
    | .list _ | .tuple _ => sequence (<- itemsOf x) name ndim
    | .str s => sequence (s.toList.map fun c => String.singleton c) name ndim
    | .bool _ => failType ("Cannot cast True or False as a tensor variable. Please use np.array(True) or "
        ++ "np.array(False) if you need these constants. This error might be caused by using the == operator on "
        ++ "Variables. v == w does not do what you think it does, use theano.tensor.eq(v, w) instead.")
    | x => tensorConstant x name ndim
where
  sequence (xs : Values) (name : Option String) (ndim : Option Nat) : M VarId := do
    let data <- xs.mapM fun x => match x with
      | .var v => constant? v
      | x => pure (some x)
    match data.mapM id with
    | some ds => tensorConstant (<- newList ds) name ndim
    | none =>
      let rank0 <- xs.allM fun
        | .var v => do pure ((<- typeOf v).ndim? == some 0)
        | .number .. => pure true
        | .array a => pure a.shape.isEmpty
        | _ => pure false
      if rank0 && (ndim.isNone || ndim == some 1) then
        let ds <- xs.mapM fun
          | .var v => dtypeOf v
          | .number d _ => pure d
          | .array a => pure a.dtype
          | _ => noAttr
        applyTo (.makeVector (<- commonType ds)) xs
      else
        M.ask fun k => k.stack xs

def asTensor (name : Option String := none) (ndim : Option Nat := none) : M VarId :=
  asTensorDepth 20 x name ndim

def tensors (xs : Values) : M Vars := xs.mapM asTensor
/-- A variable as it is, anything else as a tensor. -/
def asVariable : M VarId := if let .var v := x then pure v else asTensor x

def scalarConstant (name : Option String := none) (dtype : Option DType := none) : M VarId := do
  match <- convert x dtype with
  | .inr t => failType s!"Unsupported dtype for Scalar: {t}"
  | .inl a =>
    check a.shape.isEmpty
    newConstant (.scalar a.dtype) (.number a.dtype a.item) name

/-- A scalar, the entry of a tensor without dimensions, or a constant. -/
def asScalar : M VarId := do
  let x <- match x with
    | .node n =>
      if let [o] <- outsOf n then pure (.var o)
      else manyOutputs n
    | x => pure x
  match x with
  | .var v =>
    match <- typeOf v with
    | .scalar _ => pure v
    | .tensor _ [] _ => apply1 .scalarFromTensor [v]
    | t => failType s!"('Variable type field must be a Scalar.', {<- varText v}, {t.text})"
  | x =>
    try
      scalarConstant x
    catch e =>
      if e.isA .type then
        failType ("(" ++ quoted s!"Cannot convert {<- textOf x} to Scalar" ++ ", "
          ++ (<- classTextOf x) ++ ")")
      else throw e

/-- An operator on plain values. -/
def elementwise (wanted : Option DType) (args : Values) : M Value := do
  let as <- args.mapM fun v => do
    let some a <- operandArray? v | badType
    pure a
  return (<- applyPromoted k wanted as).toValue

/-- A function of floats; for integers of 8 bits it is computed in single precision. -/
def narrowFunction (x : Value) (args : Values := [x]) : M Value :=
  elementwise k (if x matches .number .int8 _ | .number .uint8 _ then some .float32 else none) args

def asFloat (v : Value) : M Float := do
  match v.elem? with
  | some (_, .cpx ..) => badType
  | some (_, e) => pure e.toFloat
  | none => badType

/-- A value in another type, as plain numbers are converted. -/
def castNumber (x : Value) : M Value := do
  match x, d with
  | x, .bool => truthOf x
  | .array a, d => return (a.cast d).toValue
  | x, d =>
    match x.elem? with
    | some (s, e) =>
      if s.isComplex && !d.isComplex && (x matches .complex ..) then badType
      if let .float f := x then
        if d.isInteger && f.isNaN then badValue
        if d.isInteger && f.isInf then raise .overflow
      return .number d (d.fit e)
    | none =>
      let .int i := x | badType
      if d.isContinuous then return .number d (d.fit (.flt (floatOfInt i))) else raise .overflow

def asComplex (v : Value) : M Cx := do
  let some (_, e) := v.elem? | badType
  let (re, im) := e.toComplex; return ⟨re, im⟩

/-- A sigmoid made of a fraction and two lines. -/
def fastSigmoid (x : Float) : Float :=
  let x := 0.5 * x
  let arm x :=
    if x < 1.7 then 1.5 * x / (1 + x)
    else if x < 3 then 0.935409070603099 + 0.0458812946797165 * (x - 1.7)
    else 0.99505475368673
  let z := if x >= 0 then arm x else -(arm (-x))
  0.5 * (z + 1.0)

def complexModulo : String :=
  "Theano does not support the mod operator (%) on complex numbers, since numpy deprecated it."

/-- What an operator does with single values. This is not always what it does with arrays: sums start from zero, products are
taken in 64 bits, and narrow integers meet functions of floats in single precision. -/
def ScalarKind.impl (inner : Nat -> Values -> M Values) (k : ScalarKind) (args : Values) :
    M Values := do
  let one v := do return [<- v]
  match k, args with
  | .composite id, args => inner id args
  | .add, args =>
    let mut acc := 0
    for a in args do acc <- binary .add acc a
    pure [acc]
  | .mul, args =>
    let ins <- args.mapM fun v => do
      let some p := v.elem? | badType
      pure p
    let d := match ins with
      | [] => .float64
      | (d, _) :: r => r.foldl (fun d p => d.promote p.1) d
    let acc := if d.isSigned || d == .bool then .int64 else if d.isUnsigned then .uint64 else d
    let step x p := do
      ScalarKind.mul.eval acc [<- x, acc.fit p.2]
    pure [.number acc (<- liftFault (ins.foldl step (.ok (.one acc))))]
  | .eq, [x, y] => one (binary .eq x y)
  | .neq, [x, y] => one (binary .ne x y)
  | .inRange openLow openHigh, [x, lo, hi] =>
    if <- truthOf (<- binary (if openLow then .le else .lt) x lo) then return [false]
    if <- truthOf (<- binary (if openHigh then .ge else .gt) x hi) then return [false]
    pure [true]
  | .switch, [c, a, b] => pure [if <- truthOf c then a else b]
  | .or, [x, y] => one (binary .or x y)
  | .xor, [x, y] => one (binary .xor x y)
  | .and, [x, y] => one (binary .and x y)
  | .invert, [x] => one (unary .invert x)
  | .sub, [x, y] => one (binary .sub x y)
  | .trueDiv, [x, y] =>
    match x.elem?, y.elem? with
    | some (dx, ex), some (dy, ey) =>
      if dx.isDiscrete && dy.isDiscrete then
        let r <- elementwise .trueDiv none [.number .float64 (.flt ex.toFloat), .number dy ey]
        pure [<- castNumber (<- floatX) r]
      else one (elementwise .trueDiv none [.number dx ex, .number dy ey])
    | _, _ => badType
  | .intDiv, [x, y] => one (binary .floorDiv x y)
  | .mod, [x, y] =>
    let isComplex v := v matches .complex .. | .number .complex128 _
    if isComplex x || isComplex y then fail .complex complexModulo
    one (binary .mod x y)
  | .pow, [x, y] => one (binary .pow x y)
  | .clip, [x, lo, hi] =>
    if <- truthOf (<- binary .lt x lo) then return [lo]
    if <- truthOf (<- binary .gt x hi) then return [hi]
    pure [x]
  | .second, [_, y] => pure [y]
  | .identity, [x] => pure [x]
  | .cast d, [x] => one (castNumber d x)
  | .sqr, [x] => one (binary .mul x x)
  | .neg, [x] => one (unary .neg x)
  | .inv, [x] => one (binary .trueDiv (.number .float32 (.flt 1)) x)
  | .arctan2, [y, x] => one (narrowFunction .arctan2 x [y, x])
  | .roundHalfAway, [x] =>
    let f <- asFloat x
    let r := if f > 0 then (f + 0.5).floor else (f - 0.5).ceil
    pure [.number (if x matches .number .float32 _ then .float32 else .float64) (.flt r)]
  | .real, [x] =>
    match x with
    | .complex re _ => pure [.float re]
    | .number .complex64 (.cpx re _) => pure [.number .float32 (.flt re)]
    | .number .complex128 (.cpx re _) => pure [.number .float64 (.flt re)]
    | x => pure [x]
  | .imag, [x] =>
    match x with
    | .complex _ im => pure [.float im]
    | .number .complex64 (.cpx _ im) => pure [.number .float32 (.flt im)]
    | .number .complex128 (.cpx _ im) => pure [.number .float64 (.flt im)]
    | .number d _ => pure [.number d (.zero d)]
    | .bool _ | .int _ => pure [0]
    | .float _ => pure [.float 0]
    | _ => badType
  | .complex, [x, y] =>
    let a <- asComplex x
    let b <- asComplex y
    let z := a.add ⟨-b.im, b.re⟩
    pure [.complex z.re z.im]
  | .complexFromPolar, [r, t] =>
    if <- truthOf (<- binary .lt r 0) then
      failValue s!"('polar radius must be non-negative', {<- reprOf r})"
    let x <- binary .mul r (<- elementwise .cos none [t])
    let y <- binary .mul r (<- elementwise .sin none [t])
    let (fx, fy) := (<- asFloat x, <- asFloat y)
    if let .number .float32 _ := x then return [.number .complex64 (DType.complex64.fit (.cpx fx fy))]
    else pure [.number .complex128 (.cpx fx fy)]
  | .sigmoid, [x] =>
    let f <- asFloat x
    if f < -30 then return [.float 0]
    if f > 30 then return [.float 1]
    let e <- narrowFunction .exp (<- unary .neg x)
    one do binary .trueDiv (.float 1) (<- binary .add (.float 1) e)
  | .ultraFastSigmoid, [x] => pure [.float (fastSigmoid (<- asFloat x))]
  | .softplus, [x] =>
    -- for narrow integers the computation is done in 32 bits
    let f <- asFloat x
    if f < -37 then one (narrowFunction .exp x)
    else if f < 18 then one (elementwise .log1p none [<- narrowFunction .exp x])
    else if f < 33.3 then one (binary .add x (<- narrowFunction .exp (<- unary .neg x)))
    else pure [x]
  | .softsign, [x] => one do binary .trueDiv x (<- binary .add (.float 1) (<- unary .abs x))
  | .xlogx, [x] =>
    if <- truthOf (<- binary .eq x (.float 0)) then return [.float 0]
    one do binary .mul x (<- elementwise .log none [x])
  | .xlogy0, [x, y] =>
    if <- truthOf (<- binary .eq x (.float 0)) then return [.float 0]
    one do binary .mul x (<- elementwise .log none [y])
  | .mulWithoutZeros, [x, y] =>
    if <- truthOf (<- binary .eq x 0) then return [y]
    if <- truthOf (<- binary .eq y 0) then return [x]
    one (binary .mul x y)
  -- the complement swaps its operands when it is computed on single values
  | .gammaincc, [a, x] => one (elementwise .gammaincc none [x, a])
  | k, [x] =>
    match k with
    | .abs | .sgn | .ceil | .floor | .trunc | .roundHalfEven | .conj | .isnan | .isinf | .angle => one (elementwise k none [x])
    | k => one (narrowFunction k x)
  | k, [x, y] => one (elementwise k none [x, y])
  | _, _ => badType

variable (v : VarId) (s : ScalarOp) (args : Values)

/-- An operator applied to scalars. -/
def scalarNode : M NodeId := do
  let shown <- args.mapM reprOf
  s.checkArity shown
  let ins <- args.mapM asScalar
  newNode (.scalar s) ins ((<- s.typesFor shown (<- ins.mapM dtypeOf)).map .scalar)

namespace ScalarExpr

def op : M VarId := applyTo (.scalar s) args

variable (a b : VarId)

def un : M VarId := op s [a]
def bin : M VarId := op s [a, b]
def mul : M VarId := bin .mul a b
def div : M VarId := bin .trueDiv a b
def neg : M VarId := un .neg a

/-- A constant that depends on a variable in name only. -/
def fullLike (e : DType -> Elem) (d : Option DType) : M VarId := do
  let d <- if let some d := d then pure d else dtypeOf v
  bin .second v (<- newConstant (.scalar d) (.number d (e d)))

def zerosLike (d : Option DType := none) : M VarId := fullLike v .zero d
def onesLike (d : Option DType := none) : M VarId := fullLike v .one d

variable (d : DType)

/-- No cast drops an imaginary part. -/
def checkCast (toComplex : Bool) : M Unit := do
  if d.isComplex && !toComplex then
    failType "Casting from complex to real is ambiguous: consider real(), imag(), angle() or abs()"

def castTo : M VarId := do
  let e <- dtypeOf v
  if e == d then return v
  checkCast e d.isComplex
  un (.cast d) v

def floatZeros : M VarId := do castTo (<- zerosLike v) (<- floatX)

/-- A test of a range has no slope. -/
def rangeGrad : M VarId := do
  let d <- dtypeOf v
  if d.isComplex then cannot "No gradient implemented for complex numbers in class scalar.basic.InRange"
  if d.isDiscrete then floatZeros v else zerosLike v

def dtypedZeros : M VarId := do zerosLike v (some (<- floatX))
/-- No gradient; floats for integers. -/
def discreteZeros : M VarId := do if (<- dtypeOf v).isDiscrete then dtypedZeros v else zerosLike v

/-- An integer as a literal for a type. -/
def plainOf (i : Int) : Value :=
  if d.isDiscrete then i else if d.isComplex then .complex (floatOfInt i) 0 else .float (floatOfInt i)

def number (x : Float) : Value := .array (.ofElem d (d.fit (.flt x)))

end ScalarExpr

open ScalarExpr

def noGradient (o : Op) : M α := fail .methodNotDefined s!"('grad', <class '{o.classPath}'>, '{o.className}')"

/-- A gradient that nobody wrote; it only fails where it is used. -/
def gradMissing (op : String) (pos : Nat) (v : VarId) (comment : String := "") : M VarId := do
  newVar (.null
    s!"This variable is Null because the grad method for input {pos} ({<- varText v}) of the {op} op is not implemented. {comment}")

/-- A gradient where no change comes through. -/
def disconnectedVar : M VarId := newVar .disconnected

private def refuse (b : Bool) : M Unit := if b then cannot else pure ()

/-- The derivative of a function of one variable, times the gradient of its result. -/
def unaryDerivative (x gz : VarId) : M VarId := do
  let d <- dtypeOf x
  let one := plainOf d 1
  let sqrX := un .sqr x
  match k with
  | .inv => div (<- neg gz) (<- mul x x)
  | .log => div gz x
  | .log2 => div gz (<- op .mul [x, number d (2.0 : Float).log])
  | .log10 => div gz (<- op .mul [x, .number .float64 (.flt (10.0 : Float).log)])
  | .log1p => div gz (<- op .add [1, x])
  | .exp | .expm1 => mul gz (<- un .exp x)
  | .exp2 => mul (<- mul gz (<- un .exp2 x)) (<- op .log [number d 2])
  | .sqr => op .mul [<- mul gz x, 2]
  | .sqrt => div (<- op .mul [gz, .float 0.5]) (<- un .sqrt x)
  | .deg2rad => op .mul [gz, number (<- dtypeOf gz) (pi / 180)]
  | .rad2deg => op .mul [gz, number (<- dtypeOf gz) (180.0 / pi)]
  | .cos => mul (<- neg gz) (<- un .sin x)
  | .arccos => div (<- neg gz) (<- un .sqrt (<- op .sub [one, <- sqrX]))
  | .sin => mul gz (<- un .cos x)
  | .arcsin => div gz (<- un .sqrt (<- op .sub [one, <- sqrX]))
  | .tan => div gz (<- un .sqr (<- un .cos x))
  | .arctan => div gz (<- op .add [one, <- sqrX])
  | .cosh => mul gz (<- un .sinh x)
  | .arccosh => div gz (<- un .sqrt (<- op .sub [<- sqrX, number d 1]))
  | .sinh => mul gz (<- un .cosh x)
  | .arcsinh => div gz (<- un .sqrt (<- op .add [<- sqrX, number d 1]))
  | .tanh => mul gz (<- op .sub [1, <- un .sqr (<- un .tanh x)])
  | .arctanh => div gz (<- op .sub [one, <- sqrX])
  | .erf | .erfc =>
    let c := number (<- commonType [d, <- dtypeOf gz]) (2.0 / pi.sqrt)
    let g <- if k == .erf then pure gz else neg gz
    mul (<- op .mul [g, c]) (<- un .exp (<- mul (<- neg x) x))
  | .erfcx =>
    let c := (<- commonType [d, <- dtypeOf gz]).roundFloat (2.0 / pi.sqrt)
    let inner <- mul (<- op .mul [.float 2.0, x]) (<- un .erfcx x)
    mul gz (<- op .add [.float (-c), inner])
  | .erfinv | .erfcinv =>
    let c := number (<- commonType [d, <- dtypeOf gz]) (pi.sqrt / 2.0)
    let (g, f) <- if k == .erfinv then pure (gz, .erfinv) else do pure (<- neg gz, .erfcinv)
    mul (<- op .mul [g, c]) (<- un .exp (<- op .pow [<- un f x, 2]))
  | .gamma => mul (<- mul gz (<- un .gamma x)) (<- un .psi x)
  | .gammaln => mul gz (<- un .psi x)
  | .psi => mul gz (<- un .trigamma x)
  | k => noGradient (.scalar { kind := k })

/-- Bessel functions of the orders before and after. -/
def besselNeighbours (f combine : ScalarOp) (v x : VarId) : M VarId := do
  let lo <- bin f (<- op .sub [v, 1]) x
  bin combine lo (<- bin f (<- op .add [v, 1]) x)

/-- The gradients of the operands, given that of the result. Integers have none; what is not written for complex numbers
refuses them. -/
def scalarPullback (ins outs gs : Vars) : M Vars := do
  let k := s.kind
  let gz := gs.getD 0 default
  let halved e := do op .trueDiv [<- mul gz e, .float 2]
  let outType := dtypeOf (outs.getD 0 default)
  let gzComplex := do return (<- dtypeOf gz).isComplex
  let unlessDiscrete terms := do
    refuse (<- gzComplex)
    if (<- outType).isDiscrete then ins.mapM floatZeros else terms
  match k, ins with
  | .lt, _ | .gt, _ | .le, _ | .ge, _ | .eq, _ | .neq, _ | .isnan, _ | .isinf, _ =>
    check ((<- outType) == .bool)
    ins.mapM floatZeros
  | .inRange .., ins => ins.mapM rangeGrad
  | .switch, [c, _, _] =>
    let a <- op .switch [c, gz, .float 0]
    let b <- op .switch [c, .float 0, gz]
    pure [<- floatZeros c, a, b]
  | .invert, _ | .or, _ | .xor, _ | .and, _ | .trunc, _ => ins.mapM floatZeros
  | .maximum, [x, _] | .minimum, [x, _] => unlessDiscrete do
    let e <- bin .eq (outs.getD 0 default) x
    let gx <- mul e gz
    let one <- scalarConstant 1 none (some (<- dtypeOf gz))
    pure [gx, <- mul (<- bin .sub one e) gz]
  | .add, ins => unlessDiscrete do return ins.map fun _ => gz
  | .mul, ins =>
    let out := (<- s.outputTypes (<- ins.mapM dtypeOf)).getD 0 default
    let gd <- dtypeOf gz
    if out.isComplex && !gd.isComplex then
      failType s!"Mul with output_type {out.name} expected gz type to be complex, got gz with type {gd.name}"
    if out.isDiscrete then return <- ins.mapM floatZeros
    ins.mapM fun v => do
      let others := ins.filter (· != v)
      if gd.isComplex then
        let p <- op .mul (valuesOf others)
        let yr <- un .real p
        let yi <- un .imag p
        let re := do bin .add (<- mul yr (<- un .real gz)) (<- mul yi (<- un .imag gz))
        if (<- dtypeOf v).isComplex then
          bin .complex (<- re) (<- bin .sub (<- mul yr (<- un .imag gz)) (<- mul yi (<- un .real gz)))
        else re
      else op .mul (gz :: valuesOf others)
  | .sub, [_, _] => unlessDiscrete do pure [gz, <- neg gz]
  | .trueDiv, [x, y] =>
    refuse (<- dtypeOf x).isComplex
    let a <- div gz y
    refuse (<- dtypeOf y).isComplex
    pure [a, <- div (<- neg (<- mul gz x)) (<- mul y y)]
  | .intDiv, _ | .angle, _ => ins.mapM dtypedZeros
  | .mod, [x, y] => pure [gz, <- mul (<- neg (<- bin .intDiv x y)) gz]
  | .pow, [x, y] => unlessDiscrete do
    let a <- mul (<- mul gz y) (<- bin .pow x (<- op .sub [y, 1]))
    let b <- mul (<- mul gz (<- un .log x)) (<- bin .pow x y)
    return [a, <- op .switch [<- op .eq [x, 0], 0, b]]
  | .clip, [x, mn, mx] =>
    check (!(<- gzComplex))
    let gx <- mul (<- bin .and (<- bin .ge x mn) (<- bin .le x mx)) gz
    let gmn <- mul (<- bin .lt x mn) gz
    let gmx <- mul (<- bin .gt x mx) gz
    let isInt := (<- outType).isSigned
    [gx, gmn, gmx].mapM fun v => if isInt then floatZeros v else pure v
  | .second, [_, y] =>
    if (<- dtypeOf y).isContinuous then return [<- disconnectedVar, gz]
    pure [<- disconnectedVar, <- zerosLike y]
  | .identity, [x] => if (<- dtypeOf x).isContinuous then return [gz] else pure [<- dtypedZeros x]
  | .cast d, [x] => if d.isContinuous then return [gz] else pure [<- floatZeros x]
  | .abs, [x] =>
    if (<- outType).isDiscrete then return [<- discreteZeros x]
    if (<- dtypeOf x).isFloat then return [<- mul gz (<- un .sgn x)]
    pure [<- div (<- mul gz x) (<- un .abs x)]
  | .sgn, [x] | .ceil, [x] | .floor, [x] | .roundHalfEven, [x] | .roundHalfAway, [x] => pure [<- zerosLike x]
  | .neg, [x] => if (<- outType).isDiscrete then return [<- discreteZeros x] else pure [<- neg gz]
  | .arctan2, [y, x] =>
    refuse (<- gzComplex)
    if (<- outType).isDiscrete then return [<- discreteZeros x, <- discreteZeros y]
    let den := do bin .add (<- un .sqr x) (<- un .sqr y)
    pure [<- div (<- mul gz x) (<- den), <- div (<- mul gz (<- neg y)) (<- den)]
  | .real, [_] => return [<- op .complex [gz, 0]]
  | .imag, [x] =>
    let d <- dtypeOf x
    if d.isComplex then return [<- op .complex [0, gz]]
    if d.isFloat then return [<- op .second [x, 0]]
    pure [<- dtypedZeros x]
  | .complex, [x, y] => pure [<- castTo (<- un .real gz) (<- dtypeOf x), <- castTo (<- un .imag gz) (<- dtypeOf y)]
  | .complexFromPolar, [r, t] =>
    return [<- mul gz (<- op .complexFromPolar [1, t]),
      <- mul gz (<- bin .complexFromPolar r (<- neg t))]
  | .composite _, _ => cannot "grad is not implemented for Composite"
  | .trigamma, _ => cannot
  | .jv, [v, x] =>
    pure [<- gradMissing "jv" 0 v, <- halved (<- besselNeighbours .jv .sub v x)]
  | .iv, [v, x] =>
    pure [<- gradMissing "iv" 0 v, <- halved (<- besselNeighbours .iv .add v x)]
  | .jv, _ | .iv, _ => badValue
  | .j1, [x] => return [<- halved (<- bin .sub (<- un .j0 x) (<- op .jv [2, x]))]
  | .j0, [x] => return [<- mul (<- op .mul [gz, .int (-1)]) (<- un .j1 x)]
  | .i1, [x] => return [<- halved (<- bin .add (<- un .i0 x) (<- op .iv [2, x]))]
  | .i0, [x] => pure [<- mul gz (<- un .i1 x)]
  | .sigmoid, [x] =>
    let y <- un .sigmoid x
    let r <- mul (<- mul gz y) (<- op .sub [.float 1, y])
    check (<- dtypeOf r).isFloat
    pure [r]
  | .softplus, [x] => pure [<- mul gz (<- un .sigmoid x)]
  | .softsign, [x] =>
    if !(<- dtypeOf x).isFloat then badType
    let den <- op .add [.float 1, <- un .abs x]
    return [<- div gz (<- mul den den)]
  | .xlogx, [x] => return [<- mul gz (<- op .add [1, <- un .log x])]
  | .xlogy0, [x, y] => pure [<- mul gz (<- un .log y), <- div (<- mul gz x) y]
  | .conj, _ | .chi2sf, _ | .gammainc, _ | .gammaincc, _ | .gammau, _ | .gammal, _
  | .ultraFastSigmoid, _ | .mulWithoutZeros, _ => noGradient (.scalar s)
  | k, [x] =>
    match k with
    | .log1p | .sqr | .sqrt | .deg2rad | .rad2deg | .cos | .arccos | .arcsin | .arctan => refuse (<- gzComplex)
    | _ => refuse (<- dtypeOf x).isComplex
    if (<- outType).isDiscrete then return [<- discreteZeros x]
    pure [<- unaryDerivative k x gz]
  | _, _ => badValue

/-! ## Evaluating expressions of scalar operators -/

mutual

/-- Evaluates the expression of a composite operator. -/
def evalComposite : Nat -> Nat -> Values -> M Values
  | 0, _, _ => outOfFuel
  | fuel + 1, id, args => do
    let c <- compositeOf id
    c.outputs.mapM (evalScalarVar fuel (c.inputs.zip args))

/-- Evaluates a variable of such an expression, given its operands. -/
def evalScalarVar : Nat -> List (VarId × Value) -> VarId -> M Value
  | 0, _, _ => outOfFuel
  | fuel + 1, env, v => do
    match env.lookup v with
    | some x => pure x
    | none =>
      let i <- varInfo v
      match i.owner with
      | none =>
        let .constant d := i.role | noAttr
        pure d
      | some n =>
        let nd <- nodeInfo n
        let args <- nd.inputs.toList.mapM (evalScalarVar fuel env)
        let .scalar s := nd.op | noAttr
        match <- s.kind.impl (evalComposite fuel) args with
        | [x] => pure x
        | xs => pure (.tuple xs)

end

def ScalarOp.impl : M Values := s.kind.impl (evalComposite 400) args
def scalarPerform : M Values := s.impl args

end TensorGraph
