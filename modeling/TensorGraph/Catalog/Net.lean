import TensorGraph.Catalog.Scalar
import TensorGraph.Rewrite.Rules.Softmax

/-! # Networks by name -/

namespace TensorGraph

open Net

def roles : List ConvRole := [.forward, .gradWeights, .gradInputs]
def netOp (o : NetOp) : Value := .op (.net o)
def tupleOf (l : M Values) : M Value := do return .tuple (<- l)

def abstractClass (dims : Nat) (role : ConvRole) : ApiRow :=
  let more := if dims == 2 then ", unshared=False" else ""
  cls s!"tensor.nnet.abstract_conv.AbstractConv{dims}d{role.ending}"
    s!"imshp=None, kshp=None, border_mode='valid', subsample=None, filter_flip=True, filter_dilation=None, num_groups=1{more}"
    fun
    | i :: k :: b :: s :: f :: d :: g :: u => do
      return netOp (.abstractConv role (<- abstractSpec dims i k b s f d g (u.headD false)))
    | _ => badType

variable (role : ConvRole)

def optionsOf (b s f d : Value) (g : Value := 1) (u : Value := false) : ConvOptions :=
  { border := b, subsample := s, flip := f, dilation := d, groups := g, unshared := u }

def ones (dims : Nat) : String := (Lit.ofInts (.replicate dims 1)).text

variable (path : String) (v : Value)

def convolveEntry (dims : Nat) : ApiRow :=
  fn path ("input, filters, input_shape=None, filter_shape=None, border_mode='valid', subsample=" ++ ones dims
      ++ ", filter_flip=True, filter_dilation=" ++ ones dims ++ ", num_groups=1" ++ if dims == 2 then ", unshared=False" else "") fun
    | x :: k :: i :: j :: b :: s :: f :: d :: g :: u => result (convolve dims x k i j (optionsOf b s f d g (u.headD false)))
    | _ => badType

def convolve2Entry : ApiRow :=
  fn "tensor.nnet.conv2d" ("input, filters, input_shape=None, filter_shape=None, border_mode='valid', subsample=(1, 1), "
      ++ "filter_flip=True, image_shape=None, filter_dilation=(1, 1), num_groups=1, unshared=False, **kwargs") fun
    | [x, k, i, ks, b, s, f, old, d, g, u, kw] => do
      if kw.pairs.any fun (n, _) => n == "imshp_logical" || n == "kshp_logical" then
        failValue ("Keyword arguments 'imshp_logical' and 'kshp_logical' for conv2d are not supported anymore (and have not been a reliable way to "
          ++ "perform upsampling). That feature is still available by calling theano.tensor.nnet.conv.conv2d() for the time being.")
      let i <- if old.isNull then pure i else do
        if !i.isNull then failValue "input_shape and image_shape should not be provided at the same time."
        pure old
      result (convolve 2 x k i ks (optionsOf b s f d g u))
    | _ => badType

def lengthAlong (f : Value -> Value -> AxisBorder Value -> Value -> Value -> M (Option Value))
    (a b border step dilation : Value) : M Value := do
  let border <- axisBorder border
  let axis : ConvAxis Value := { first := known a, second := known b, border, step := known step, dilation := known dilation }
  return (<- axis.follow f).getD .null

def convolvedAlong (a b border step dilation : Value) : M Value :=
  lengthAlong (fun a b border s d => do return some (<- valueLengths.convolved a b border s d)) a b border step dilation

def convEntries : Table ApiEntry := under "tensor.nnet.abstract_conv" [
  cls "BaseAbstractConv" "*args, **kwargs" fun _ => badType,
  convolveEntry "conv2d" 2,
  fn3 "assert_shape" "x, expected_shape, msg='Unexpected shape.'" fun x e m => do
    if e.isNull then return x
    result (assertShape (<- varArg x) ((<- iterate e).map known) m),
  fn5 "get_conv_output_shape" "image_shape, kernel_shape, border_mode, subsample, filter_dilation=None"
    fun i k b s d => tupleOf (resultShape i k b s d),
  fn "get_conv_gradweights_shape"
    "image_shape, top_shape, border_mode, subsample, filter_dilation=None, num_groups=1, unshared=False" <| of7 fun i t b s d g u =>
    tupleOf (kernelShape i t b s d g u),
  fn "get_conv_gradinputs_shape"
    "kernel_shape, top_shape, border_mode, subsample, filter_dilation=None, num_groups=1" <| of6 fun k t b s d g =>
    tupleOf (imageShape k t b s d g),
  fn5 "get_conv_shape_1axis" "image_shape, kernel_shape, border_mode, subsample, dilation=1" convolvedAlong,
  fn5 "get_conv_gradweights_shape_1axis" "image_shape, top_shape, border_mode, subsample, dilation"
    (lengthAlong (valueLengths.kernelOf (operate .trueDiv))),
  fn5 "get_conv_gradinputs_shape_1axis" "kernel_shape, top_shape, border_mode, subsample, dilation" (lengthAlong valueLengths.imageOf) ]
  ++ under "tensor.nnet" [
  convolveEntry "conv3d" 3 ]
  ++ roles.flatMap (fun r => [abstractClass 2 r, abstractClass 3 r])
  ++ [ convolve2Entry ]

/-! ## What can be asked of convolutions -/

def convMethods : Table Callable := roles.flatMap fun r => ["2d", "3d"].map fun d =>
  meth s!"AbstractConv{d}{r.ending}.conv" "img, kern, mode='valid', dilation=1, num_groups=1, unshared=False, direction='forward'" fun _ => noRoutine

/-! ## Poolings -/

def poolMode (mode : Value) : M String := do
  if let .str "max_deterministic" := mode then return "max"
  oneOf mode ["max", "average_inc_pad", "average_exc_pad", "sum"] do
    failValue s!"Pool mode parameter only support 'max', 'sum', 'average_inc_pad' and 'average_exc_pad'. Got {<- textOf mode}"

def poolOp (role : PoolRole) (ignore : Value) (mode : String) (ndim openmp : Value) : M Value := do
  return netOp (.pool role { ignoreBorder := <- truthOf ignore, mode, ndim := (<- intArg ndim).toNat, openmp := <- openmpArg openmp })

def poolEntry (dims : Nat) : ApiRow :=
  let zero := (Lit.ofInts (.replicate dims 0)).text
  fn path s!"input, ws=None, ignore_border=None, stride=None, pad={zero}, mode='max', ds=None, st=None, padding=None"
    fun
    | [x, ws, ib, st, pad, m, ds, oldSt, oldPad] => do
      let ws <- eitherWindow ws ds
      let st <- eitherStride st oldSt
      let pad <- eitherPad pad oldPad (some (intsValue (.replicate dims 0)))
      if (<- ndimAttr x) < dims then cannot s!"pool_{dims}d requires a dimension >= {dims}"
      let ib := if ib.isNull then .bool false else ib
      let .op o <- poolOp .forward ib (<- poolMode m) dims .null | badType
      result (applyTo o [x, ws, st, pad])
    | _ => badType

def outShapeEntry (shortcut : Bool) : ApiRow :=
  fn path "imgshape, ws=None, ignore_border=False, stride=None, pad=None, ndim=2, ds=None, st=None, padding=None"
    fun
    | [i, ws, ib, st, pad, n, ds, oldSt, oldPad] => do
      let ws <- eitherWindow ws ds
      let st <- eitherStride st oldSt
      let k := (n.int?).getD 2
      let pad <- eitherPad pad oldPad (if shortcut then some (intsValue (.replicate k.toNat 0)) else none)
      check (k > 0)
      newList (<- pooledShape i ws (<- truthOf ib) st pad k shortcut)
    | _ => badType

def poolEntries : Table ApiEntry := under "tensor.signal.pool" [
  cls "Pool" "ignore_border=False, mode='max', ndim=2, openmp=None" <| of4 fun i m n o =>
  do poolOp .forward i (<- poolMode m) n o,
  cls "PoolGrad" "ignore_border, mode='max', ndim=2, openmp=None" fun _ => badType,
  cls3 "MaxPoolGrad" "ignore_border, ndim=2, openmp=None" fun i n o =>
    poolOp .maxGrad i "max" n o,
  cls3 "AveragePoolGrad" "ignore_border, mode='average_inc_pad', ndim=2" fun i m n => do
    let .str s := m | unmet
    check (["sum", "average_inc_pad", "average_exc_pad"].contains s)
    poolOp .averageGrad i s n .null,
  cls "DownsampleFactorMaxGradGrad" "ignore_border, mode='max', ndim=2, openmp=None" <| of4 (ofMax .maxGradGrad),
  cls "MaxPoolRop" "ignore_border=False, mode='max', ndim=2, openmp=None" <| of4 (ofMax .maxRop),
  poolEntry "pool_2d" 2, poolEntry "pool_3d" 3,
  outShapeEntry "Pool.out_shape" true, outShapeEntry "PoolGrad.out_shape" false,
  fn2 "max_pool_2d_same_size" "input, patch_size" fun x p => do
    let spec := { ignoreBorder := true, openmp := <- settingFlag "openmp" }
    let out <- applyTo (op (.pool .forward spec)) [x, p]
    applyTo (op (.pool .maxGrad spec)) [x, out, out, p] ]
where
  ofMax (role : PoolRole) (i m n o : Value) : M Value := do
    check (<- valuesEqual m "max")
    poolOp role i "max" n o

/-! ## Activations and losses -/

def elementwiseOp (s : ScalarOp) (name : String) : Op := .elemwise s [] (some name)

def netEntries : Table ApiEntry := under "tensor.nnet" [
  opEntry "sigmoid" Rules.sigmoidOp, opEntry "softplus" Rules.softplusOp,
  opEntry "ultra_fast_sigmoid" Rules.ultraFastSigmoidOp,
  opEntry "softsign" (elementwiseOp .softsign "softsign"),
  opEntry "scalar_softsign" (.scalar .softsign), opEntry "scalar_sigmoid" (.scalar .sigmoid),
  opEntry "softmax_op" (op .softmax), opEntry "logsoftmax_op" (op .logSoftmax),
  opEntry "softmax_with_bias" (op .softmaxWithBias), opEntry "softmax_grad" (op .softmaxGrad),
  opEntry "crossentropy_softmax_argmax_1hot_with_bias" (op .xentSoftmaxArgmax),
  opEntry "crossentropy_softmax_1hot_with_bias_dx" (op .xentSoftmaxDx),
  opEntry "crossentropy_categorical_1hot" (op .xentCategorical),
  opEntry "crossentropy_categorical_1hot_grad" (op .xentCategoricalGrad),
  opEntry "prepend_scalar_to_each_row" (op .prependScalar),
  opEntry "prepend_0_to_each_row" (op (.prependScalarConstant (.named "Constant\x7b0.0\x7d" (.float 0)))),
  opEntry "prepend_1_to_each_row" (op (.prependScalarConstant (.named "Constant\x7b1.0\x7d" (.float 1)))),
  cls2 "nnet.ScalarSoftsign" "output_types_preference=None, name=None" fun p n =>
    do return Op.scalar ⟨.softsign, <- ruleArg "theano.tensor.nnet.nnet.ScalarSoftsign" p, <- arg n⟩,
  fn1 "hard_sigmoid" "x" Rules.hardSigmoid,
  fn1 "softmax" "c" softmaxOf,
  fn1 "softmax_graph" "c" softmaxGraph,
  fn "logsoftmax" "c" fun vs => result (applyTo (op .logSoftmax) vs),
  fn2 "relu" "x, alpha=0" relu,
  fn2 "elu" "x, alpha=1" elu,
  fn1 "selu" "x" selu,
  fn2 "binary_crossentropy" "output, target" binaryCrossentropy,
  fn2 "sigmoid_binary_crossentropy" "output, target" fun x y => do
    let soft <- callOp Rules.softplusOp [<- operateUnary .neg (<- operateUnary .abs x)]
    let out <- operate .add soft (<- operate .mul x (<- operate .sub (<- operate .gt x 0) y))
    let o <- callValue (.api "compile.OpFromGraph") [<- newList [x, y], <- newList [out], true]
      [("grad_overrides", .api "tensor.nnet.sigmoid_binary_crossentropy.grad"), ("name", "sigmoid_binary_crossentropy")]
    callValue o [x, y] [],
  fn2 "sigmoid_binary_crossentropy.grad" "inputs, out_grads" fun ins gs => do
    let ([x, y], [g]) := (<- itemsOf ins, <- itemsOf gs) | badValue
    newList [<- operate .mul g (<- operate .sub (<- callOp Rules.sigmoidOp [x]) y), <- operate .mul g (<- operateUnary .neg x)],
  fn2 "categorical_crossentropy" "coding_dist, true_dist" categoricalCrossentropy,
  fn3 "crossentropy_softmax_1hot_with_bias" "x, b, y_idx" fun x b y =>
    do newList (<- xentSoftmax x b y),
  fn2 "crossentropy_softmax_1hot" "x, y_idx" fun x y => do newList (<- xentSoftmax x (<- zeroBias x) y),
  fn3 "crossentropy_softmax_max_and_argmax_1hot_with_bias" "x, b, y_idx" fun x b y =>
    do return .tuple (<- xentWithMax x b y),
  fn2 "crossentropy_softmax_max_and_argmax_1hot" "x, y_idx" fun x y =>
    do return .tuple (<- xentWithMax x (<- zeroBias x) y),
  fn3 "nnet._is_const" "z, val, approx=False" fun z v (approx : Bool) => do
    let some c <- valueOf? z | return .bool false
    if approx then
      let some k := v.float? | badType
      return .bool (Rules.closeTo c k)
    return .ofTest ((<- arrayOf (<- operate .eq c v)).data.all (·.toInt != 0)) ]
  ++ [
  opEntry "tensor.xlogx.xlogx" (elementwiseOp .xlogx "xlogx"),
  opEntry "tensor.xlogx.xlogy0" (elementwiseOp .xlogy0 "xlogy0") ]

end TensorGraph
