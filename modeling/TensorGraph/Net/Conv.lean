import TensorGraph.Net.Pool
import TensorGraph.Net.Softmax
import TensorGraph.Tensor.Product

/-!
# Convolutions

The shapes of images, kernels and results follow from each other. Operators state them and check what is known of them.
-/

namespace TensorGraph.Net

open Tensor

/-! ## Shapes -/

def PadAmount.value : PadAmount -> Value
  | .both n => n
  | .sides a b => .tuple [a, b]

def BorderMode.value : BorderMode -> Value
  | .valid => "valid"
  | .half => "half"
  | .full => "full"
  | .pads xs => .tuple (xs.map PadAmount.value)

variable (v : Value) (role : ConvRole) (c : ConvSpec) (dims : Nat) (args : Values) (l : Values) (ins : Vars) (shapes : Shapes)

def axisBorder : M (Option (AxisBorder Value)) := do
  match v with
  | .null => pure none
  | .str "half" => return some .half
  | .str "full" => return some .full
  | .str "valid" => return some .valid
  | .tuple [a, b] => return some (.pad a b)
  | .tuple _ => badValue
  | v => return some (.pad v v)

variable (a b : VarId) (gs : Vars) (what : String) (i n : Nat)

def known : Option Value := if v.isNull then none else some v
def entryAt : M Value := if let some v := l[i]? then pure v else badIndex

def convAxes (first second : Values) (border subsample dilation : Value) : M (List (ConvAxis Value)) := do
  let steps <- iterate subsample
  let dilations <- if dilation.isNull then pure (steps.map fun _ => .number .int64 (.int 1)) else iterate dilation
  mapIdxM (fun i step => do
    let b <- if let .tuple bs := border then entryAt bs i else pure border
    return { first := known (<- entryAt first i), second := known (<- entryAt second i), border := <- axisBorder b,
             step := known step, dilation := known (<- entryAt dilations i) }) steps

def shapeEntry : M (Option Value) := do return known (<- entryAt l i)
def shapeValues (l : List (Option Value)) : Values := l.map fun v => v.getD .null
def lastDims : Values := if n == 0 then l else l.drop (l.length - n)

def resultShape (image kernel : Values) (border subsample dilation : Value) : M Values := do
  let batch <- shapeEntry image 0
  let kernels <- shapeEntry kernel 0
  let axes <- convAxes (image.drop 2) (lastDims kernel (image.length - 2)) border subsample dilation
  return shapeValues (<- valueLengths.resultShape batch kernels axes)

def kernelShape (image top : Values) (border subsample dilation groups : Value) (unshared : Bool) :
    M Values := do
  let channels <- shapeEntry image 1
  let kernels <- shapeEntry top 1
  let axes <- convAxes (image.drop 2) (top.drop 2) border subsample dilation
  let spread := if unshared then some ((top.drop 2).map known) else none
  return shapeValues (<- valueLengths.kernelShape (operate .trueDiv) channels kernels groups spread axes)

def imageShape (kernel top : Values) (border subsample dilation groups : Value) : M Values := do
  let batch <- shapeEntry top 0
  let channels <- shapeEntry kernel 1
  let axes <- convAxes (lastDims kernel (top.length - 2)) (top.drop 2) border subsample dilation
  return shapeValues (<- valueLengths.imageShape batch channels groups axes)

def intsValue (l : List Int) : Value := .tuple (valuesOf l)

def overlay (fixed : List (Option Int)) (l : Values) (n : Nat) : M Values :=
  (List.range n).mapM fun i => match fixed[i]? with
    | some (some k) => pure (.int k)
    | some none => entryAt l i
    | none => badIndex

/-! ## Construction -/

def isPlainInt : Bool := v matches .int _ | .bool _
def nonnegative : Bool := isPlainInt v && v.int?.getD 0 >= 0

def fixedShape : M (List (Option Int)) := do
  if !(<- truthOf v) then return .replicate n none
  (<- iterate v).mapM fun x => do
    if x.isNull then return none
    let some c <- valueOf? x true true
      | failValue s!"{what} should be None or a tuple of constant int values"
    match c with
    | .array a => return some a.item.toInt
    | c => if let some (_, e) := c.elem? then return some e.toInt else return none

def stepsArg : M (List Int) := do
  let xs <- iterate v
  if xs.length != n then failValue s!"{what} must have {n} elements"
  xs.mapM fun x => match x.int? with
    | some i => pure i
    | none => if let some f := x.float? then pure (truncFloat f |>.getD 0) else badType

def namedBorder? : Value -> Option BorderMode
  | .str "valid" => some .valid
  | .str "full" => some .full
  | .str "half" => some .half
  | _ => none

def badBorder (v : Value) (wanted : String) : M α := do
  failValue s!"invalid border_mode {<- textOf v}, which must be {wanted}"

def abstractBorder (v : Value) : M BorderMode := do
  if let some b := namedBorder? v then return b
  let simple xs := if xs.all (· == .both 0) then .valid else .pads xs
  match v with
  | .tuple ms =>
    if ms.length != dims then badBorder v s!"a tuple of length {dims}"
    let xs <- ms.mapM fun m => do
      if nonnegative m then return .both (m.int?.getD 0)
      let bad := do
        failValue s!"invalid border mode {<- textOf v}. The tuple can only contain integers  or pairs of integers"
      let .tuple [a, b] := m | bad
      if !(nonnegative a && nonnegative b) then return <- bad
      if dims != 2 then cannot s!"Asymmetric padding not implemented for {dims}D"
      let (x, y) := (a.int?.getD 0, b.int?.getD 0)
      return if x == y then .both x else .sides x y
    return simple xs
  | v =>
    if isPlainInt v then
      if !nonnegative v then badBorder v "a non-negative integer"
      return simple (.replicate dims (.both (v.int?.getD 0)))
    badBorder v s!"either \"valid\", \"full\", \"half\", an integer or a tuple of length {dims}"

def abstractSpec (image kernel border subsample flip dilation groups unshared : Value) : M ConvSpec := do
  let ones := intsValue (.replicate dims 1)
  let border <- abstractBorder dims border
  let unshared <- truthOf unshared
  let image <- fixedShape image "imshp" (2 + dims)
  let kernel <- fixedShape kernel "kshp" (if unshared then 2 + 2 * dims else 2 + dims)
  let subsample <- stepsArg (if subsample.isNull then ones else subsample) "subsample" dims
  let dilation <- stepsArg (if dilation.isNull then ones else dilation) "filter_dilation" dims
  if <- truthOf (<- operate .lt groups 1) then failValue "num_groups must have value greater than zero"
  if unshared && dims != 2 then cannot s!"Unshared convolution not implemented for {dims}D"
  return { dims, border, subsample, flip := <- truthOf flip, imageShape := image, kernelShape := kernel,
           dilation, groups := groups.int?.getD 1, unshared }

def openmpArg : M Bool := if v.isNull then settingFlag "openmp" else truthOf v

/-! ## Application of abstract convolutions -/

def assertShape (x : VarId) (expected : List (Option Value)) (message : String) : M VarId := do
  if !(<- settingFlag "conv__assert_shape") then return x
  let dims <- shape x
  let tests <- (List.range (<- ndimOf x)).filterMapM fun (i : Nat) => do
    match expected[i]? with
    | some (some k) => return some (.var (<- eq (<- atPos dims i) k))
    | some none => return none
    | none => badIndex
  if tests.isEmpty then return x
  assertThat x tests message

def fixedValues (l : List (Option Int)) : List (Option Value) := l.map fun v => v.map .int

def inputNames : ConvRole -> String × String
  | .forward => ("img", "kern")
  | .gradWeights => ("img", "topgrad")
  | .gradInputs => ("kern", "topgrad")

def kernelDims : Nat := if c.unshared then 2 + 2 * c.dims else 2 + c.dims

def checkInputs : M Unit := do
  let (m, n) := inputNames role
  for (v, name) in [(a, m), (b, n)] do
    let (dims, note) := if name == "kern" && c.unshared then (2 + 2 * c.dims, " for unshared convolution") else (2 + c.dims, "")
    if (<- ndimOf v) != dims then failType s!"{name} must be {dims}D tensor{note}"

def flagAt (v : VarId) (i : Nat) : M Bool := do return (<- bcastOf v).getD i false

def convType : M Ty := do
  let free := .replicate c.dims false
  let flags <- match role with
    | .forward => do pure ([<- flagAt a 0, <- flagAt b 0] ++ free)
    | .gradWeights => do
      let (kernels, channels) := (<- flagAt b 1, <- flagAt a 1)
      pure (if c.unshared then kernels :: free ++ channels :: free else kernels :: channels :: free)
    | .gradInputs => do
      let channels <- if c.groups > 1 then pure false else flagAt a ((<- ndimOf a) - c.dims - 1)
      pure ([<- flagAt b 0, channels] ++ free)
  return .ofTensor (<- dtypeOf a) flags

def abstractNode (kw : Kw) : M NodeId := do
  let (m, n) := inputNames role
  let more := if role == .forward then [] else ["shape", "add_assert_shape"]
  let a :: b :: more <- placed ([m, n] ++ more) args kw | badType
  let a <- asVariable a
  let b <- asVariable b
  checkInputs role c a b
  let guarded := more.getD 1 .null
  let guarded <- if guarded.isNull then pure true else truthOf guarded
  let asserted v name := do
    if name == "topgrad" || !guarded then return v
    let (fixed, what) := if name == "img" then (c.imageShape, "image does not match given imshp.")
      else (c.kernelShape, "filters does not match given kshp.")
    assertShape v (fixedValues fixed) s!"AbstractConv{role.ending} shape mismatch: shape of {what}"
  let a <- asserted a m
  let b <- asserted b n
  newNode (.net (.abstractConv role c)) ([a, b] ++ (<- tensors (more.take 1))) [<- convType role c a b]

/-! ## Gradients -/

def lastLengths (v : VarId) (n : Nat) : M Value := do getItem 40 (<- shape v) (.slice (.int (-(n : Int))) .null .null)

def asTypeOf (g v : VarId) : M VarId := do
  let g <- patternBroadcast g (<- bcastOf v)
  filterVariable (<- typeOf v) g

def convGrad (o : ConvRole -> Op) (ins gs : Vars) (kw : Kw) : M Vars := do
  let image x k top := do applyTo (o .gradInputs) [k, top, <- lastLengths x dims] kw
  let kernel x k top := do applyTo (o .gradWeights) [x, top, <- lastLengths k dims] kw
  match role, ins, gs with
  | .forward, [x, k], [top] => pure [<- image x k top, <- kernel x k top]
  | .gradWeights, x :: top :: _, [k] => return [<- image x k top, <- apply1 (o .forward) [x, k]]
  | .gradInputs, k :: top :: _, [x] => return [<- kernel x k top, <- apply1 (o .forward) [x, k]]
  | _, _, _ => cannot

def abstractGrad : M Vars := do
  let kw : Kw := if c.dims == 2 && role == .forward then [("add_assert_shape", false)] else []
  let gs <- convGrad role c.dims (fun r => .net (.abstractConv r c)) ins gs kw
  return (<- (gs.zip ins).mapM fun (g, v) => asTypeOf g v) ++ (<- disconnectedList (ins.length - 2))

def abstractShapes : M Shapes := do
  let given k := if let some l := shapes.getD k none then pure l else badType
  let asked := do (List.range c.dims).mapM fun (i : Nat) => getItem 40 (ins.getD 2 default) i
  let a <- given 0
  let b <- given 1
  match role with
  | .forward =>
    let image <- overlay c.imageShape a (2 + c.dims)
    let kernel <- overlay c.kernelShape b (kernelDims c)
    pure [some (<- resultShape image kernel (BorderMode.value c.border) (intsValue c.subsample) (intsValue c.dilation))]
  | .gradWeights =>
    let channels <- operate .floorDiv (<- entryAt a 1) c.groups
    let kernels <- entryAt b 1
    let fallback := if c.unshared then (b.drop 1).take 3 ++ [channels] else [kernels, channels]
    pure [some (<- overlay c.kernelShape (fallback ++ (<- asked)) (kernelDims c))]
  | .gradInputs =>
    let channels <- entryAt a (a.length - c.dims - 1)
    let channels <- if c.groups > 1 then operate .mul channels c.groups else pure channels
    return [some (<- overlay c.imageShape ([<- entryAt b 0, channels] ++ (<- asked)) (2 + c.dims))]

def convConnections (n : NodeId) : M (Option Links) := do
  let .forward := role | return some ((List.range (<- insOf n).length).map fun i => [i < 2])
  pure none

/-! ## Layers of convolutions -/

variable (o : NetOp) (n : NodeId) (args : Values) (x : Value) (ins : Vars) (c : Value)

def opNode (kw : Kw) : M NodeId := do
  match o with
  | .abstractConv r c => abstractNode r c args kw
  | .pool r p => poolNode r p args kw
  | .ctc _ => badType
  | _ => softmaxNode o args

def noRoutine : M α := cannot "AbstractConv perform requires the python package for scipy.signal to be installed."

def opPerform : M Values := do
  match o with
  | .abstractConv .. => noRoutine
  | .pool r p => poolPerform r p args
  | .ctc _ => badType
  | _ => softmaxPerform o n args

def opGrad (ins outs gs : Vars) : M Vars := do
  match o with
  | .abstractConv r c => abstractGrad r c ins gs
  | .pool r p => poolGrad r p ins outs gs
  | .ctc _ => badType
  | _ => softmaxGrad o ins outs gs

def opShapes (shapes : Shapes) :
    M Shapes := do
  match o with
  | .abstractConv r c => abstractShapes r c ins shapes
  | .pool r p => poolShapes r p n shapes
  | .ctc _ => noAttr
  | _ => softmaxShapes o shapes

def opPushforward (points : List (Option VarId)) : M (List (Option VarId)) := do
  match o, points with
  | .softmax, ps =>
    let some ds := ps.mapM id | pure [none]
    return (<- softmaxGrad o ins (<- applyAll (op o) (valuesOf ins)) ds).map some
  | .logSoftmax, ps =>
    let some ds := ps.mapM id | pure [none]
    return (<- softmaxGrad o ins [] ds).map some
  | .pool .forward p, _ => poolPushforward p ins points
  | _, _ => cannot

def connections : M (Option Links) := do
  match o with
  | .abstractConv r _ => convConnections r n
  | .pool r _ => return poolConnections r
  | .xentSoftmaxArgmax => return some [[true, true, true], [true, true, true], [false, false, true]]
  | _ => pure none

open Tensor

def absOf : M Value := callValue (.api "abs") [x] []

def softmaxOf : M VarId := do
  let v <- asTensor c
  if (<- ndimOf v) == 0 then badIndex
  apply1 (op .softmax) [v]

def softmaxGraph : M VarId := do
  let top <- ew "exp" .exp [c]
  let below <- ew "exp" .exp [c]
  div top (<- sum below (some [-1]) none true)

def relu (x alpha : Value) : M Value := do
  let cuts <- match alpha with
    | .var _ => pure false
    | a => valuesEqual a 0
  if cuts then operate .mul (.float 0.5) (<- operate .add x (<- absOf x))
  else
    let a <- asTensor alpha
    let f1 <- operate .mul (.float 0.5) (<- operate .add 1 a)
    let f2 <- operate .mul (.float 0.5) (<- operate .sub 1 a)
    operate .add (<- operate .mul f1 x) (<- operate .mul f2 (<- absOf x))

def elu (x alpha : Value) : M Value := do
  let positive <- operate .gt x 0
  switch positive x (<- operate .mul alpha (<- ew "expm1" .expm1 [x]))

def selu : M Value := do
  operate .mul (.float 1.0507009873554804934193349852946) (<- elu x (.float 1.6732632423543772848170429916717))

/-! ## Losses -/

def binaryCrossentropy (output target : Value) : M Value := do
  let logOf x := ew "log" .log [x]
  let hit <- operate .mul target (<- logOf output)
  let miss <- operate .mul (<- operate .sub (.float 1) target) (<- logOf (<- operate .sub (.float 1) output))
  callValue (.api "neg") [<- operate .add hit miss] []

def ndimAttr (v : Value) : M Int := do
  let some n := (<- attrOf v "ndim").int? | noAttr
  pure n

def categoricalCrossentropy (coding truth : Value) : M Value := do
  let n <- ndimAttr coding
  let k <- ndimAttr truth
  if n == k then
    let p <- operate .mul truth (<- ew "log" .log [coding])
    neg (<- sum (<- asTensor p) (some [n - 1]))
  else if k == n - 1 then applyTo (op .xentCategorical) [coding, truth]
  else failType "rank mismatch between coding and true distributions"

def zeroBias : M VarId := do
  let row <- itemOf x (.tuple [0, .whole])
  zerosLike (<- asTensor row)

def xentSoftmax (x b y : Value) : M Values := do return valuesOf ((<- xentWithBias x b y).take 2)

def xentWithMax (x b y : Value) : M Values := do
  let [loss, sm] <- xentSoftmax x b y | badValue
  let (top, at_) <- maxAndArgmax sm (.int (-1))
  pure [loss, sm, top, at_]

/-- The options of a convolution. -/
structure ConvOptions where
  border : Value := "valid"
  subsample : Value := .null
  flip : Value := true
  dilation : Value := .null
  groups : Value := 1
  unshared : Value := false

def ConvOptions.spec (c : ConvOptions) (dims : Nat) (image kernel : Value) : M ConvSpec :=
  abstractSpec dims image kernel c.border c.subsample c.flip c.dilation c.groups c.unshared

variable (x : VarId) (dims : Nat) (v : Value) (shape : Value) (ratio : Value) (normalize : Bool)

def convolve (input filters image kernel : Value) (c : ConvOptions) : M VarId := do
  let x <- asTensor input
  let k <- asTensor filters
  applyTo (op (.abstractConv .forward (<- c.spec dims image kernel))) [x, k]

end TensorGraph.Net
