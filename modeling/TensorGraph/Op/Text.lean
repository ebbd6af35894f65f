import TensorGraph.Op.Basic

/-! # The text of operators -/

namespace TensorGraph

/-- The texts of what operators refer to by number. -/
structure OpNames where
  composite : Nat -> String := fun _ => "Composite"
  fromFunction : Nat -> String := fun _ => "<lambda>"
  scan : Nat -> String := fun _ => "for"
  fromGraph : Nat -> String := fun _ => "OpFromGraph"

def braced (s : String) : String := s!"\x7b{s}\x7d"

variable (names : OpNames) (role : ConvRole)

def ScalarOp.text (s : ScalarOp) : String :=
  match s.kind, s.name with
  | .cast d, _ => "Cast" ++ braced d.name
  | _, some n => n
  | k, none =>
    match k with
    | .composite id => names.composite id
    | .inRange lo hi => "InRange" ++ braced s!"openlow={boolText lo}, openhi={boolText hi}"
    | k => k.className

def Place.text : Place -> String
  | .dim i => toString i
  | .new => "x"

def IndexEntry.text : IndexEntry -> String
  | .pos d => d.name
  | .slice a b c =>
    let one x := (x.map DType.name).getD ""
    one a ++ ":" ++ one b ++ ":" ++ one c

def BorderMode.lit : BorderMode -> Lit
  | .valid => .str "valid"
  | .half => .str "half"
  | .full => .str "full"
  | .pads xs => .tuple (xs.map fun
    | .both n => .int n
    | .sides a b => .tuple [.int a, .int b])

def ConvRole.ending : ConvRole -> String
  | .forward => ""
  | .gradWeights => "_gradWeights"
  | .gradInputs => "_gradInputs"

def ConvSpec.className (c : ConvSpec) : String :=
  s!"AbstractConv{c.dims}d{role.ending}"

def shapeLit (l : List (Option Int)) : Lit := .tuple (l.map (.ofOption .int))

def NetOp.className : NetOp -> String
  | softmaxWithBias => "SoftmaxWithBias" | softmaxGrad => "SoftmaxGrad" | softmax => "Softmax"
  | logSoftmax => "LogSoftmax"
  | xentSoftmaxArgmax => "CrossentropySoftmaxArgmax1HotWithBias"
  | xentSoftmaxDx => "CrossentropySoftmax1HotWithBiasDx"
  | xentCategoricalGrad => "CrossentropyCategorical1HotGrad"
  | xentCategorical => "CrossentropyCategorical1Hot"
  | prependScalarConstant _ => "Prepend_scalar_constant_to_each_row"
  | prependScalar => "Prepend_scalar_to_each_row"
  | abstractConv r c => c.className r
  | ctc _ => "ConnectionistTemporalClassification"
  | pool r _ => match r with
    | .forward => "Pool" | .maxGrad => "MaxPoolGrad" | .averageGrad => "AveragePoolGrad"
    | .maxGradGrad => "DownsampleFactorMaxGradGrad" | .maxRop => "MaxPoolRop"

def BlasOp.className : BlasOp -> String
  | gemv _ => "Gemv" | ger _ => "Ger" | gemm _ => "Gemm" | dot22 => "Dot22"
  | dot22Scalar => "Dot22Scalar" | batchedDot => "BatchedDot" | cGer _ => "CGer"
  | cGemv _ => "CGemv" | scipyGer _ => "ScipyGer"

def LinalgOp.className : LinalgOp -> String
  | matrixPinv => "MatrixPinv" | matrixInverse => "MatrixInverse" | allocDiag => "AllocDiag"
  | det => "Det" | eig => "Eig" | eigh _ => "Eigh" | eighGrad _ => "EighGrad" | qrFull _ => "QRFull"
  | qrIncomplete _ => "QRIncomplete" | svd .. => "SVD" | lstsq => "lstsq" | tensorInv _ => "TensorInv"
  | tensorSolve _ => "TensorSolve" | cholesky .. => "Cholesky" | choleskyGrad .. => "CholeskyGrad"
  | solve .. => "Solve"
  | expm => "Expm" | expmGrad => "ExpmGrad" | hint _ => "Hint"

def SparseCmp.word : SparseCmp -> String
  | equal => "Equal" | notEqual => "NotEqual" | lessThan => "LessThan"
  | greaterThan => "GreaterThan" | lessEqual => "LessEqual" | greaterEqual => "GreaterEqual"

def SparseOp.className : SparseOp -> String
  | csmProperties => "CSMProperties" | csm _ => "CSM" | csmGrad => "CSMGrad" | cast _ => "Cast"
  | denseFromSparse _ => "DenseFromSparse" | sparseFromDense _ => "SparseFromDense"
  | getItemList => "GetItemList" | getItemListGrad => "GetItemListGrad"
  | getItem2Lists => "GetItem2Lists" | getItem2ListsGrad => "GetItem2ListsGrad"
  | getItem2d => "GetItem2d" | getItemScalar => "GetItemScalar" | transpose => "Transpose"
  | neg => "Neg" | colScaleCSC => "ColScaleCSC" | rowScaleCSC => "RowScaleCSC"
  | spSum .. => "SpSum" | diag => "Diag" | squareDiagonal => "SquareDiagonal"
  | ensureSortedIndices _ => "EnsureSortedIndices" | addSS => "AddSS" | addSSData => "AddSSData"
  | addSD => "AddSD" | structuredAddSV => "StructuredAddSV" | mulSS => "MulSS" | mulSD => "MulSD"
  | mulSV => "MulSV" | compareSS c => c.word ++ "SS" | compareSD c => c.word ++ "SD"
  | hstack .. => "HStack" | vstack .. => "VStack" | remove0 _ => "Remove0"
  | structuredDot => "StructuredDot" | structuredDotGradCSC => "StructuredDotGradCSC"
  | structuredDotGradCSR => "StructuredDotGradCSR" | samplingDot => "SamplingDot" | dot => "Dot"
  | usmm => "Usmm" | constructFromList => "ConstructSparseFromList"
  | addSDCode .. => "AddSD_ccode" | structuredDotCSC => "StructuredDotCSC"
  | structuredDotCSR => "StructuredDotCSR" | usmmCscDense _ => "UsmmCscDense"
  | csmGradC => "CSMGradC" | mulSDCSC => "MulSDCSC" | mulSDCSR => "MulSDCSR"
  | mulSVCSR => "MulSVCSR" | structuredAddSVCSR => "StructuredAddSVCSR"
  | samplingDotCSR => "SamplingDotCSR"

def ReduceClass.className : ReduceClass -> String
  | plain => "CAReduce" | all => "All" | any => "Any" | max => "Max" | min => "Min" | mean => "Mean"
  | typed => "CAReduceDtype" | sum => "Sum" | prod => "Prod" | prodWithoutZeros => "ProdWithoutZeros"

def DeviceOp.className : DeviceOp -> String
  | reduce .. => "GpuCAReduceCuda" | portableReduce _ => "GpuCAReduceCPY"
  | erfinv c _ => if c then "GpuErfcinv" else "GpuErfinv"
  | solve .. => "GpuCusolverSolve" | triangularSolve .. => "GpuCublasTriangularSolve"
  | softmax b => if b then "GpuSoftmaxWithBias" else "GpuSoftmax"

def Op.className : Op -> String
  | scalar s => s.kind.className
  | elemwise .. => "Elemwise" | dimShuffle .. => "DimShuffle" | reduce r => r.cls.className
  | view => "ViewOp" | outputGuard => "OutputGuard" | deepCopy => "DeepCopyOp" | shape => "Shape"
  | shapeI _ => "Shape_i" | rebroadcast _ => "Rebroadcast" | specifyShape => "SpecifyShape"
  | fromFunction _ => "FromFunctionOp" | considerConstant => "ConsiderConstant"
  | zeroGrad => "ZeroGrad" | undefinedGrad => "UndefinedGrad"
  | disconnectedGrad => "DisconnectedGrad" | gradClip .. => "GradClip" | gradScale .. => "GradScale"
  | print .. => "Print" | raise .. => "Raise" | breakpoint _ => "PdbBreakpoint"
  | tensorFromScalar => "TensorFromScalar" | scalarFromTensor => "ScalarFromTensor"
  | maxAndArgmax _ => "MaxAndArgmax" | argmax _ => "Argmax" | nonzero => "Nonzero" | tri _ => "Tri"
  | eye _ => "Eye" | alloc => "Alloc" | allocEmpty _ => "AllocEmpty" | default => "Default"
  | split _ => "Split" | join _ => "Join" | reshape .. => "Reshape" | flatten _ => "Flatten"
  | tile _ => "Tile" | arange _ => "ARange" | permuteRowElements => "PermuteRowElements"
  | dot => "Dot" | extractDiag .. => "ExtractDiag" | allocDiag .. => "AllocDiag"
  | makeVector _ => "MakeVector" | assert _ => "Assert"
  | makeSlice => "MakeSlice" | subtensor _ => "Subtensor" | incSubtensor .. => "IncSubtensor"
  | advSubtensor1 _ => "AdvancedSubtensor1" | advIncSubtensor1 .. => "AdvancedIncSubtensor1"
  | advSubtensor => "AdvancedSubtensor" | advIncSubtensor .. => "AdvancedIncSubtensor"
  | contiguous => "CpuContiguous" | cumOp .. => "CumOp"
  | repeatOp _ => "RepeatOp"
  | fillDiagonal => "FillDiagonal" | fillDiagonalOffset => "FillDiagonalOffset"
  | unique .. => "Unique"
  | loadFromDisk .. => "LoadFromDisk"
  | blas b => b.className | linalg l => l.className | net n => n.className | sparse s => s.className
  | multinomialFromUniform _ => "MultinomialFromUniform" | choiceFromUniform .. => "ChoiceFromUniform"
  | multinomialWOReplacement .. => "MultinomialWOReplacementFromUniform"
  | dotModulo => "DotModulo" | mrgUniform .. => "mrg_uniform" | minimal => "Minimal"
  | ifElse .. => "IfElse" | scan .. => "Scan" | fromGraph _ => "OpFromGraph"
  | symbolic _ => "Top" | device d => d.className

def Op.family : Op -> String
  | scalar s => "scalar." ++ s.kind.className
  | sparse s => "sparse." ++ s.className
  | linalg .allocDiag => "linalg.AllocDiag"
  | o => o.className

def Op.params : Op -> List (String × Lit)
  | reduce r =>
    let dt d := .ofOption (fun d => .str d.name) d
    [("axis", .ofOption .ofInts r.axis), ("dtype", dt r.dtype), ("acc_dtype", dt r.accDType)]
  | maxAndArgmax a => [("axis", .ofInts a)]
  | argmax a => [("axis", .ofOption .ofInts a)]
  | tri d | eye d | allocEmpty d | arange d | makeVector d => [("dtype", .str d.name)]
  | extractDiag o a b v => [("offset", .int o), ("axis1", .int a), ("axis2", .int b), ("view", .bool v)]
  | allocDiag o a b => [("offset", .int o), ("axis1", .int a), ("axis2", .int b)]
  | assert m => [("msg", .str m)]
  | repeatOp a => [("axis", .ofOption .int a)]
  | unique i v c a => [("return_index", .bool i), ("return_inverse", .bool v),
      ("return_counts", .bool c), ("axis", .ofOption .int a)]
  | breakpoint n => [("name", .str n)]
  | choiceFromUniform o r | multinomialWOReplacement o r => [("odtype", .str o), ("replace", .bool r)]
  | linalg l => match l with
    | .eigh u | .eighGrad u => [("UPLO", .str u)]
    | .qrFull m | .qrIncomplete m => [("mode", .str m)]
    | .svd f c => [("full_matrices", f), ("compute_uv", c)]
    | .tensorInv i => [("ind", .int i)]
    | .tensorSolve a => [("axes", a)]
    | .cholesky l d e => [("lower", .bool l), ("destructive", .bool d), ("on_error", .str e)]
    | .choleskyGrad l d => [("lower", .bool l), ("destructive", .bool d)]
    | .solve s l a b => [("A_structure", .str s), ("lower", .bool l), ("overwrite_A", .bool a),
        ("overwrite_b", .bool b)]
    | .hint hs => [("hints", .tuple (hs.map fun (k, v) => .tuple [.str k, v]))]
    | _ => []
  | net n => match n with
    | .abstractConv _ c => [("convdim", .int c.dims), ("border_mode", c.border.lit),
        ("subsample", .ofInts c.subsample), ("filter_flip", .bool c.flip),
        ("imshp", shapeLit c.imageShape), ("kshp", shapeLit c.kernelShape),
        ("filter_dilation", .ofInts c.dilation), ("num_groups", .int c.groups),
        ("unshared", .bool c.unshared)]
    | .ctc g => [("compute_grad", .bool g)]
    | .pool _ p => [("ignore_border", .bool p.ignoreBorder), ("mode", .str p.mode), ("ndim", .int p.ndim)]
    | _ => []
  | sparse (.csm f) => [("format", .str f.name)]
  | device (.solve s t i) => [("A_structure", .str s), ("trans", .str t), ("inplace", .bool i)]
  | device (.triangularSolve t l) => [("trans", .str t), ("lower", .bool l)]
  | _ => []

def classText (cls : String) (params : List (String × Lit)) : String :=
  if params.isEmpty then cls
  else cls ++ braced (commaList (params.map fun (k, v) => s!"{k}={v.text}"))

def inplaceWord (b : Bool) : String := if b then "inplace" else "no_inplace"

def Lit.bare : Lit -> String
  | .str s => s
  | l => l.text

def Op.detail? : Op -> Option String
  | shapeI i => toString i
  | rebroadcast axes =>
    ",".intercalate ((List.range (axes.foldl (fun m (k, _) => max m (k + 1)) 0)).map fun i =>
      match axes.lookup i with
      | some b => if b then "1" else "0"
      | none => "?")
  | fromFunction id => names.fromFunction id
  | raise m k => s!"<class '{k}'>({m})"
  | reshape n _ | flatten n => toString n
  | tile n => s!"ndim={n}"
  | subtensor idx => commaList (idx.map IndexEntry.text)
  | incSubtensor idx inplace set _ =>
    (if inplace then "Inplace" else "") ++ (if set then "Set;" else "Inc;") ++ commaList (idx.map IndexEntry.text)
  | advIncSubtensor1 i s => inplaceWord i ++ if s then ",set" else ",inc"
  | advIncSubtensor i s => s!"inplace={boolText i},  set_instead_of_inc={boolText s}"
  | cumOp a m => (Lit.ofOption .int a).text ++ ", " ++ m
  | blas (.gemv i) | blas (.cGemv i) | blas (.gemm i) | sparse (.ensureSortedIndices i) | sparse (.usmmCscDense i) => inplaceWord i
  | blas (.ger d) | blas (.cGer d) | blas (.scipyGer d) => if d then "destructive" else "non-destructive"
  | net (.prependScalarConstant v) => v.bare
  | multinomialFromUniform m => m
  | sparse (.denseFromSparse g) => s!"structured_grad={boolText g}"
  | sparse (.sparseFromDense f) => f.name
  | sparse (.spSum a _) => "axis=" ++ (Lit.ofOption .int a).text
  | sparse (.remove0 i) => if i then "inplace" else ""
  | sparse .usmm => "no_inplace"
  | sparse (.addSDCode f i) => f.name ++ if i then ",inplace" else ""
  | mrgUniform d b i => s!"{(Ty.tensor d b none).text},{inplaceWord i}"
  | _ => none

def Reduction.axesText (r : Reduction) : String := (r.axis.map fun l => braced (commaList (l.map toString))).getD ""

def Op.text : Op -> String
  | scalar s => s.text names
  | elemwise _ _ (some n) => n
  | elemwise s inplace none =>
    let items := inplace.mergeSort fun a b => a.1 <= b.1
    "Elemwise" ++ braced (s.text names) ++
      if items.isEmpty then "" else s!"[{commaList (items.map fun (a, b) => tupleText [toString a, toString b])}]"
  | dimShuffle _ order inplace =>
    (if inplace then "InplaceDimShuffle" else "DimShuffle") ++ braced (",".intercalate (order.map Place.text))
  | reduce r =>
    let axes := r.axis.map fun l => s!"axis=[{commaList (l.map toString)}], "
    let typed := braced (axes.getD "" ++ "acc_dtype=" ++ (r.accDType.map DType.name).getD "None")
    match r.cls with
    | .plain | .max | .min => "Reduce" ++ braced (r.scalar.text names) ++ r.axesText
    | .all | .any | .mean => r.cls.className ++ r.axesText
    | .typed => "('ReduceDtype" ++ braced (r.scalar.text names) ++ "',)" ++ typed
    | .sum => "Sum" ++ typed
    | .prod | .prodWithoutZeros => classText r.cls.className (Op.params (reduce r))
  | print m attrs _ => classText "Print" [("message", .str m), ("attrs", .tuple (attrs.map .str)),
      ("global_fn", .word "<function _print_fn>")]
  | split _ => "\x7bself.__class__.__name__ \x7d\x7b\x7b\x7bself.len_splits\x7d\x7d\x7d"
  | join v => if v == -1 then "Join" else classText "Join" [("view", .int v)]
  | dot => "dot"
  | loadFromDisk d b m => "Load" ++ braced s!"dtype: {d.name}, broadcastable: {(Lit.ofBools b).text}, mmep: {m.bare}"
  | sparse (.cast d) => s!"Cast({d.name})"
  | sparse .transpose => "SparseTranspose"
  | sparse .neg => "SparseNeg"
  | sparse .dot => "SparseDot"
  | sparse (.hstack f d) => s!"HStack({f.name},{d.name})"
  | sparse (.vstack f d) => s!"VStack({f.name},{d.name})"
  | ifElse .. => "if\x7b\x7b\x7b','.join(args)\x7d\x7d\x7d"
  | scan id _ => names.scan id
  | fromGraph id => names.fromGraph id
  | symbolic s => s.name
  | device (.reduce r _ pre) =>
    "GpuCAReduceCuda" ++ braced ((pre.elim "" fun p => s!"pre={p.text names},red=") ++ r.scalar.text names) ++ r.axesText
  | device (.portableReduce r) => "GpuReduce" ++ braced (r.scalar.text names) ++ r.axesText
  | device (.erfinv _ (some n)) => n
  | o => if let some d := o.detail? names then o.className ++ braced d else classText o.className o.params

/-! ## Full names of operator classes -/

def ScalarKind.modulePath : ScalarKind -> String
  | .erf | .erfc | .erfcx | .erfinv | .erfcinv | .gamma | .gammaln | .psi | .trigamma | .chi2sf
  | .gammainc | .gammaincc | .gammau | .gammal | .jv | .j1 | .j0 | .iv | .i1 | .i0 => "scalar.basic_scipy"
  | .sigmoid | .ultraFastSigmoid | .softplus => "tensor.nnet.sigm"
  | .softsign => "tensor.nnet.nnet"
  | .xlogx | .xlogy0 => "tensor.xlogx"
  | .mulWithoutZeros => "tensor.elemwise"
  | _ => "scalar.basic"

def Op.modulePath : Op -> String
  | scalar s => s.kind.modulePath
  | elemwise .. | dimShuffle .. => "tensor.elemwise"
  | reduce r => match r.cls with
    | .max | .min | .mean => "tensor.basic"
    | _ => "tensor.elemwise"
  | view | outputGuard | deepCopy | shape | shapeI _ | rebroadcast _ | specifyShape | fromFunction _ =>
    "compile.ops"
  | considerConstant | zeroGrad | undefinedGrad | disconnectedGrad | gradClip .. | gradScale .. => "gradient"
  | print .. => "printing"
  | raise .. => "raise_op"
  | breakpoint _ => "breakpoint"
  | makeVector _ | assert _ => "tensor.opt"
  | makeSlice => "tensor.type_other"
  | subtensor _ | incSubtensor .. | advSubtensor1 _ | advIncSubtensor1 .. | advSubtensor
  | advIncSubtensor .. => "tensor.subtensor"
  | contiguous | cumOp .. | repeatOp _ | fillDiagonal
  | fillDiagonalOffset | unique .. => "tensor.extra_ops"
  | loadFromDisk .. => "tensor.io"
  | blas b => match b with
    | .cGer _ | .cGemv _ => "tensor.blas_c"
    | .scipyGer _ => "tensor.blas_scipy"
    | _ => "tensor.blas"
  | linalg l => match l with
    | .cholesky .. | .choleskyGrad .. | .expm | .expmGrad | .solve .. =>
      "tensor.slinalg"
    | .hint _ => "sandbox.linalg.ops"
    | _ => "tensor.nlinalg"
  | net n => match n with
    | .abstractConv .. => "tensor.nnet.abstract_conv"
    | .ctc _ => "tensor.nnet.ctc"
    | .pool .. => "tensor.signal.pool"
    | _ => "tensor.nnet.nnet"
  | sparse s => match s with
    | .addSDCode .. | .csmGradC | .mulSDCSC | .mulSDCSR | .mulSVCSR | .samplingDotCSR
    | .structuredAddSVCSR | .structuredDotCSC | .structuredDotCSR | .usmmCscDense _ => "sparse.opt"
    | _ => "sparse.basic"
  | multinomialFromUniform _ | choiceFromUniform .. | multinomialWOReplacement .. => "sandbox.multinomial"
  | dotModulo | mrgUniform .. => "sandbox.rng_mrg"
  | minimal => "sandbox.minimal"
  | ifElse .. => "ifelse"
  | scan .. => "scan.op"
  | fromGraph _ => "compile.builders"
  | symbolic _ | device _ => ""
  | _ => "tensor.basic"

def Op.classPath (o : Op) : String :=
  if o.modulePath.isEmpty then o.className else s!"theano.{o.modulePath}.{o.className}"

end TensorGraph
