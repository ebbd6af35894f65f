import TensorGraph.Core.NdArray

/-! # Operators -/

namespace TensorGraph

/-- One entry of a `transfer` rule: the type of an input, or the common type of all inputs. -/
inductive TransferEntry
  | input (i : Int)
  | common
  | text (s : String)
deriving BEq

/-- How the element types of the results follow from those of the operands. -/
inductive OutRule
  | upcast | upcastNoBool | upcastMin8 | upcastNoComplex
  | upgradeToFloat | upgradeToFloat64 | upgradeToFloatNoComplex
  | same | sameNoBool | sameMin8 | sameFloatOnly | sameNoComplex
  | int64 | float64 | int64NoComplex | float64NoComplex
  | realPart
  | transfer (entries : List TransferEntry)
  | specific (types : List DType)
  | lookup (table : List (List DType × List DType))
  | sign
  | complexOfReals
  | caller (id : Nat)
deriving BEq

/-- What a scalar operator computes. -/
inductive ScalarKind
  | lt | gt | le | ge | eq | neq | isnan | isinf
  | inRange (openLow openHigh : Bool)
  | switch | or | xor | and | invert | maximum | minimum | add | mul | sub | trueDiv | intDiv | mod
  | pow | clip | second | identity | cast (d : DType) | abs | sgn | ceil | floor | trunc
  | roundHalfEven | roundHalfAway | neg | inv | log | log2 | log10 | log1p | exp | exp2
  | expm1 | sqr | sqrt | deg2rad | rad2deg | cos | arccos | sin | arcsin | tan | arctan | arctan2
  | cosh | arccosh | sinh | arcsinh | tanh | arctanh | real | imag | angle | complex | conj
  | complexFromPolar
  | erf | erfc | erfcx | erfinv | erfcinv | gamma | gammaln | psi | trigamma | chi2sf | gammainc
  | gammaincc | gammau | gammal | jv | j1 | j0 | iv | i1 | i0
  | sigmoid | ultraFastSigmoid | softplus | softsign | xlogx | xlogy0 | mulWithoutZeros
  | composite (id : Nat)
deriving BEq, Repr, Inhabited

def ScalarKind.className : ScalarKind -> String
  | lt => "LT" | gt => "GT" | le => "LE" | ge => "GE" | eq => "EQ" | neq => "NEQ"
  | isnan => "IsNan" | isinf => "IsInf" | inRange .. => "InRange" | switch => "Switch"
  | or => "OR" | xor => "XOR" | and => "AND" | invert => "Invert"
  | maximum => "ScalarMaximum" | minimum => "ScalarMinimum" | add => "Add" | mul => "Mul"
  | sub => "Sub" | trueDiv => "TrueDiv" | intDiv => "IntDiv" | mod => "Mod" | pow => "Pow"
  | clip => "Clip" | second => "Second" | identity => "Identity" | cast _ => "Cast"
  | abs => "Abs" | sgn => "Sgn" | ceil => "Ceil" | floor => "Floor" | trunc => "Trunc"
  | roundHalfEven => "RoundHalfToEven" | roundHalfAway => "RoundHalfAwayFromZero"
  | neg => "Neg" | inv => "Inv" | log => "Log" | log2 => "Log2" | log10 => "Log10"
  | log1p => "Log1p" | exp => "Exp" | exp2 => "Exp2" | expm1 => "Expm1" | sqr => "Sqr"
  | sqrt => "Sqrt" | deg2rad => "Deg2Rad" | rad2deg => "Rad2Deg" | cos => "Cos"
  | arccos => "ArcCos" | sin => "Sin" | arcsin => "ArcSin" | tan => "Tan" | arctan => "ArcTan"
  | arctan2 => "ArcTan2" | cosh => "Cosh" | arccosh => "ArcCosh" | sinh => "Sinh"
  | arcsinh => "ArcSinh" | tanh => "Tanh" | arctanh => "ArcTanh" | real => "Real"
  | imag => "Imag" | angle => "Angle" | complex => "Complex" | conj => "Conj"
  | complexFromPolar => "ComplexFromPolar"
  | erf => "Erf" | erfc => "Erfc" | erfcx => "Erfcx" | erfinv => "Erfinv" | erfcinv => "Erfcinv"
  | gamma => "Gamma" | gammaln => "GammaLn" | psi => "Psi" | trigamma => "TriGamma"
  | chi2sf => "Chi2SF" | gammainc => "GammaInc" | gammaincc => "GammaIncC" | gammau => "GammaU"
  | gammal => "GammaL" | jv => "Jv" | j1 => "J1" | j0 => "J0" | iv => "Iv" | i1 => "I1"
  | i0 => "I0" | sigmoid => "ScalarSigmoid" | ultraFastSigmoid => "UltraFastScalarSigmoid"
  | softplus => "ScalarSoftplus" | softsign => "ScalarSoftsign" | xlogx => "XlogX"
  | xlogy0 => "XlogY0" | mulWithoutZeros => "MulWithoutZeros" | composite _ => "Composite"

def ScalarKind.arity : ScalarKind -> Option Nat
  | add | mul | composite _ => none
  | inRange .. | switch | clip => some 3
  | lt | gt | le | ge | eq | neq | or | xor | and | maximum | minimum | sub | trueDiv | intDiv
  | mod | pow | second | arctan2 | complex | complexFromPolar | chi2sf | gammainc | gammaincc
  | gammau | gammal | jv | iv | xlogy0 | mulWithoutZeros => some 2
  | _ => some 1

def ScalarKind.isLogical : ScalarKind -> Bool
  | lt | gt | le | ge | eq | neq | isnan | isinf | inRange .. => true
  | _ => false

structure ScalarOp where
  kind : ScalarKind
  rule : Option OutRule := none
  name : Option String := none
deriving Inhabited

def ScalarOp.same (a b : ScalarOp) : Bool :=
  a.rule == b.rule &&
  match a.kind, b.kind with
  | .inRange .., .inRange .. => true
  | x, y => x == y

instance : BEq ScalarOp := ⟨ScalarOp.same⟩

namespace ScalarOp

variable (k : ScalarKind)

def plain : ScalarOp := { kind := k }
def named (r : OutRule) (n : String) : ScalarOp := ⟨k, some r, some n⟩

def lt := plain .lt
def gt := plain .gt
def le := plain .le
def ge := plain .ge
def eq := plain .eq
def neq := plain .neq
def isnan := plain .isnan
def isinf := plain .isinf
def inOpenRange := plain (.inRange true true)
def inClosedRange := plain (.inRange false false)
def switch := plain .switch
def or := plain .or
def xor := plain .xor
def and := plain .and
def invert := plain .invert
def maximum := named .maximum .upcast "maximum"
def minimum := named .minimum .upcast "minimum"
def add := named .add .upcast "add"
def mul := named .mul .upcast "mul"
def sub := named .sub .upcastNoBool "sub"
def trueDiv := named .trueDiv .upcast "true_div"
def intDiv := named .intDiv .upcast "int_div"
def mod := named .mod .upcast "mod"
def pow := named .pow .upcastMin8 "pow"
def clip := named .clip .upcastNoComplex "clip"
def second := named .second (.transfer [.input 1]) "second"
def identity := named .identity .same "identity"
def cast (d : DType) : ScalarOp := ⟨.cast d, some (.specific [d]), some s!"convert_to_{d.name}"⟩
def abs : ScalarOp := ⟨.abs, some .same, none⟩
def sgn : ScalarOp := ⟨.sgn, none, some "sgn"⟩
def ceil := named .ceil .upgradeToFloatNoComplex "ceil"
def floor := named .floor .upgradeToFloatNoComplex "floor"
def trunc := named .trunc .upgradeToFloatNoComplex "trunc"
def roundHalfEven : ScalarOp := ⟨.roundHalfEven, some .sameFloatOnly, none⟩
def roundHalfAway : ScalarOp := ⟨.roundHalfAway, some .sameFloatOnly, none⟩
def neg := named .neg .sameNoBool "neg"
def toFloatOp := named k .upgradeToFloat

def inv := toFloatOp .inv "inv"
def log := toFloatOp .log "log"
def log2 := toFloatOp .log2 "log2"
def log10 := toFloatOp .log10 "log10"
def log1p := toFloatOp .log1p "log1p"
def exp := toFloatOp .exp "exp"
def exp2 := toFloatOp .exp2 "exp2"
def expm1 := toFloatOp .expm1 "expm1"
def sqr := named .sqr .same "sqr"
def sqrt := toFloatOp .sqrt "sqrt"
def deg2rad := toFloatOp .deg2rad "deg2rad"
def rad2deg := toFloatOp .rad2deg "rad2deg"
def cos := toFloatOp .cos "cos"
def arccos := toFloatOp .arccos "arccos"
def sin := toFloatOp .sin "sin"
def arcsin := toFloatOp .arcsin "arcsin"
def tan := toFloatOp .tan "tan"
def arctan := toFloatOp .arctan "arctan"
def arctan2 := toFloatOp .arctan2 "arctan2"
def cosh := toFloatOp .cosh "cosh"
def arccosh := toFloatOp .arccosh "arccosh"
def sinh := toFloatOp .sinh "sinh"
def arcsinh := toFloatOp .arcsinh "arcsinh"
def tanh := toFloatOp .tanh "tanh"
def arctanh := toFloatOp .arctanh "arctanh"
def real := named .real .realPart "real"
def imag := named .imag .realPart "imag"
def angle := named .angle (.specific [.float64]) "angle"
def complex : ScalarOp := ⟨.complex, none, some "complex"⟩
def conj := named .conj .sameMin8 "conj"
def complexFromPolar : ScalarOp := ⟨.complexFromPolar, none, some "complex_from_polar"⟩
def toRealFloatOp := named k .upgradeToFloatNoComplex

def erf := toFloatOp .erf "erf"
def erfc := toRealFloatOp .erfc "erfc"
def erfcx := toRealFloatOp .erfcx "erfcx"
def erfinv := toRealFloatOp .erfinv "erfinv"
def erfcinv := toRealFloatOp .erfcinv "erfcinv"
def gamma := toFloatOp .gamma "gamma"
def gammaln := toFloatOp .gammaln "gammaln"
def psi := toFloatOp .psi "psi"
def trigamma := toFloatOp .trigamma "tri_gamma"
def chi2sf := named .chi2sf .upgradeToFloat64 "chi2sf"
def gammainc := toFloatOp .gammainc "gammainc"
def gammaincc := toFloatOp .gammaincc "gammaincc"
def gammau := toFloatOp .gammau "gammau"
def gammal := toFloatOp .gammal "gammal"
def jv := toFloatOp .jv "jv"
def j1 := toFloatOp .j1 "j1"
def j0 := toFloatOp .j0 "j0"
def iv := toFloatOp .iv "iv"
def i1 := toFloatOp .i1 "i1"
def i0 := toFloatOp .i0 "i0"
def sigmoid := toFloatOp .sigmoid "scalar_sigmoid"
def ultraFastSigmoid := toFloatOp .ultraFastSigmoid "ultra_fast_scalar_sigmoid"
def softplus := toFloatOp .softplus "scalar_softplus"
def softsign := toFloatOp .softsign "scalar_softsign"
def xlogx := toFloatOp .xlogx "scalar_xlogx"
def xlogy0 := toFloatOp .xlogy0 "scalar_xlogy0"
def mulWithoutZeros := named .mulWithoutZeros .upcast "mul_without_zeros"

end ScalarOp

/-! ## Operators -/

/-- One place of an index template: a position, or a slice whose present bounds are read from
further operands. The element types are those of the operands. -/
inductive IndexEntry
  | pos (d : DType)
  | slice (start stop step : Option DType)
deriving BEq

/-- The family of a reduction: what its parameters are and how it prints. -/
inductive ReduceClass
  | plain | all | any | max | min | mean | typed | sum | prod | prodWithoutZeros
deriving BEq

abbrev Axes := Option (List Int)

/-- A reduction of some axes (all of them when `axis` is absent) by a binary scalar operator. -/
structure Reduction where
  cls : ReduceClass
  scalar : ScalarOp
  axis : Axes := none
  dtype : Option DType := none
  accDType : Option DType := none
  noZeros : Bool := false

def ReduceClass.isTyped : ReduceClass -> Bool
  | typed | sum | prod | prodWithoutZeros => true
  | _ => false

instance : BEq Reduction where
  beq a b := a.cls == b.cls && a.axis == b.axis &&
    (match a.cls with
     | .plain | .max | .min | .mean => a.scalar == b.scalar
     | .typed => a.scalar == b.scalar && a.dtype == b.dtype && a.accDType == b.accDType
     | .sum | .prod | .prodWithoutZeros => a.dtype == b.dtype && a.accDType == b.accDType
     | .all | .any => true)

/-- Padding of one dimension: the same on both sides, or an amount for each. -/
inductive PadAmount
  | both (n : Int)
  | sides (before after : Int)
deriving BEq

/-- Padding of a convolution: a rule, or amounts for each dimension. -/
inductive BorderMode
  | valid | half | full
  | pads (xs : List PadAmount)
deriving BEq

/-- Which of the three convolutions: the forward one, or the adjoint for the weights or the
images. -/
inductive ConvRole
  | forward | gradWeights | gradInputs
deriving BEq

/-- The description of a convolution. -/
structure ConvSpec where
  dims : Nat
  border : BorderMode
  subsample : List Int
  flip : Bool := true
  imageShape : List (Option Int) := []
  kernelShape : List (Option Int) := []
  dilation : List Int
  groups : Int := 1
  unshared : Bool := false
deriving BEq

/-- Pooling itself, its gradients, and its derivative along a direction. -/
inductive PoolRole
  | forward | maxGrad | averageGrad | maxGradGrad | maxRop
deriving BEq

/-- The description of a pooling over the last dimensions. -/
structure PoolSpec where
  ignoreBorder : Bool := false
  mode : String := "max"
  ndim : Nat := 2
  openmp : Bool := false
deriving BEq

/-- Operators of neural networks. -/
inductive NetOp
  | softmaxWithBias | softmaxGrad | softmax | logSoftmax
  | xentSoftmaxArgmax | xentSoftmaxDx
  | xentCategoricalGrad | xentCategorical
  | prependScalarConstant (v : Lit) | prependScalar
  | abstractConv (role : ConvRole) (c : ConvSpec)
  | ctc (computeGrad : Bool)
  | pool (role : PoolRole) (p : PoolSpec)
deriving BEq

/-- Products of matrices and vectors. -/
inductive BlasOp
  | gemv (inplace : Bool) | ger (destructive : Bool) | gemm (inplace : Bool)
  | dot22 | dot22Scalar | batchedDot
  | cGer (destructive : Bool) | cGemv (inplace : Bool) | scipyGer (destructive : Bool)
deriving BEq

/-- Linear algebra. -/
inductive LinalgOp
  | matrixPinv | matrixInverse | allocDiag | det | eig | eigh (uplo : String)
  | eighGrad (uplo : String) | qrFull (mode : String) | qrIncomplete (mode : String)
  | svd (full computeUV : Lit) | lstsq | tensorInv (ind : Int) | tensorSolve (axes : Lit)
  | cholesky (lower destructive : Bool) (onError : String)
  | choleskyGrad (lower destructive : Bool)
  | solve (structure_ : String) (lower overwriteA overwriteB : Bool)
  | expm | expmGrad | hint (hints : List (String × Lit))
deriving BEq

/-- The layouts of sparse matrices. -/
inductive SparseFormat
  | csr | csc | bsr | coo
deriving DecidableEq

def SparseFormat.name : SparseFormat -> String
  | csr => "csr" | csc => "csc" | bsr => "bsr" | coo => "coo"

def SparseFormat.ofName? : String -> Option SparseFormat
  | "csr" => some csr | "csc" => some csc | "bsr" => some bsr | "coo" => some coo
  | _ => none

/-- Comparisons of sparse matrices. -/
inductive SparseCmp
  | equal | notEqual | lessThan | greaterThan | lessEqual | greaterEqual
deriving DecidableEq

/-- Operators on sparse matrices. -/
inductive SparseOp
  | csmProperties | csm (format : SparseFormat) | csmGrad
  | cast (d : DType) | denseFromSparse (structured : Bool) | sparseFromDense (format : SparseFormat)
  | getItemList | getItemListGrad | getItem2Lists | getItem2ListsGrad | getItem2d | getItemScalar
  | transpose | neg | colScaleCSC | rowScaleCSC | spSum (axis : Option Int) (sparseGrad : Bool)
  | diag | squareDiagonal | ensureSortedIndices (inplace : Bool)
  | addSS | addSSData | addSD | structuredAddSV | mulSS | mulSD | mulSV
  | compareSS (c : SparseCmp) | compareSD (c : SparseCmp)
  | hstack (format : SparseFormat) (d : DType) | vstack (format : SparseFormat) (d : DType)
  | remove0 (inplace : Bool) | structuredDot
  | structuredDotGradCSC | structuredDotGradCSR | samplingDot | dot | usmm
  | constructFromList
  | addSDCode (format : SparseFormat) (inplace : Bool) | structuredDotCSC | structuredDotCSR
  | usmmCscDense (inplace : Bool) | csmGradC | mulSDCSC | mulSDCSR | mulSVCSR
  | structuredAddSVCSR | samplingDotCSR
deriving BEq

/-- Operators of an accelerator: reductions (with a mask of axes, and an operator that comes first), inverses of the
error function, solvers of linear systems, and softmax. -/
inductive DeviceOp
  | reduce (r : Reduction) (mask : Option (List Int)) (pre : Option ScalarOp)
  | portableReduce (r : Reduction)
  | erfinv (complement : Bool) (name : Option String)
  | solve (structure_ trans : String) (inplace : Bool)
  | triangularSolve (trans : String) (lower : Bool)
  | softmax (bias : Bool)
deriving BEq

/-- A plain symbolic operator: a name, a number of results, and what it claims about memory. -/
structure SymbolicOp where
  name : String
  nout : Nat := 1
  destroys : List (Nat × List Nat) := []
  views : List (Nat × List Nat) := []
  toleratesSame : List (Nat × Nat) := []
  toleratesAliased : List (Nat × Nat) := []
deriving BEq

/-- A place of a dimension shuffle: a dimension of the operand, or a new one of length one. -/
inductive Place
  | dim (i : Nat)
  | new
deriving BEq

/-- The operators. -/
inductive Op
  | scalar (s : ScalarOp)
  | elemwise (s : ScalarOp) (inplace : List (Nat × Nat)) (name : Option String)
  | dimShuffle (input : List Bool) (order : List Place) (inplace : Bool)
  | reduce (r : Reduction)
  -- views, copies and shapes
  | view | outputGuard | deepCopy | shape | shapeI (i : Nat)
  | rebroadcast (axes : List (Nat × Bool)) | specifyShape
  | fromFunction (id : Nat)
  | considerConstant | zeroGrad | undefinedGrad | disconnectedGrad
  | gradClip (low high : Lit) | gradScale (k : Lit)
  | print (message : String) (attrs : List String) (fn : Nat)
  | raise (message kind : String)
  | breakpoint (name : String)
  -- building and taking apart tensors
  | tensorFromScalar | scalarFromTensor
  | maxAndArgmax (axis : List Int) | argmax (axis : Axes)
  | nonzero | tri (d : DType) | eye (d : DType) | alloc | allocEmpty (d : DType) | default
  | split (n : Nat) | join (view : Int) | reshape (ndim : Nat) (name : Option String)
  | flatten (ndim : Nat) | tile (ndim : Nat) | arange (d : DType) | permuteRowElements | dot
  | extractDiag (offset axis1 axis2 : Int) (view : Bool) | allocDiag (offset axis1 axis2 : Int)
  | makeVector (d : DType) | assert (msg : String) | makeSlice
  -- indexing
  | subtensor (idx : List IndexEntry)
  | incSubtensor (idx : List IndexEntry) (inplace set : Bool) (tolerate : List (Nat × Nat))
  | advSubtensor1 (sparseGrad : Bool) | advIncSubtensor1 (inplace set : Bool)
  | advSubtensor | advIncSubtensor (inplace set : Bool)
  -- sums along an axis, and the like
  | contiguous | cumOp (axis : Option Int) (mode : String)
  | repeatOp (axis : Option Int) | fillDiagonal | fillDiagonalOffset
  | unique (index inverse counts : Bool) (axis : Option Int)
  | loadFromDisk (d : DType) (bcast : List Bool) (mmap : Lit)
  -- families
  | blas (b : BlasOp) | linalg (l : LinalgOp) | net (n : NetOp) | sparse (s : SparseOp)
  | multinomialFromUniform (odtype : String) | choiceFromUniform (odtype : String) (replace : Bool)
  | multinomialWOReplacement (odtype : String) (replace : Bool)
  | dotModulo | mrgUniform (d : DType) (bcast : List Bool) (inplace : Bool)
  | minimal
  -- control
  | ifElse (n : Nat) (asView gpu : Bool) (name : Option String)
  | scan (id cls : Nat)
  | fromGraph (id : Nat)
  | symbolic (s : SymbolicOp)
  | device (d : DeviceOp)
deriving Inhabited

/-! ## When two operators are the same -/

deriving instance BEq for Op

def Op.key : Op -> Op
  | .elemwise s i _ => .elemwise s i none
  | .incSubtensor i p s _ => .incSubtensor i p s []
  | .advSubtensor1 _ => .advSubtensor1 false
  | .gradClip .. => .gradClip .none .none
  | .gradScale .. => .gradScale .none
  | .reshape n _ => .reshape n none
  | .scan _ c => .scan 0 c
  | .ifElse n v d _ => .ifElse n v d none
  | .sparse (.spSum a _) => .sparse (.spSum a true)
  | .sparse (.denseFromSparse _) => .sparse (.denseFromSparse true)
  | .sparse (.sparseFromDense _) => .sparse (.sparseFromDense .csr)
  | .net (.pool r p) => .net (.pool r { p with openmp := false })
  | .net (.prependScalarConstant _) => .net (.prependScalarConstant .none)
  | o => o

instance (priority := high) opBEq : BEq Op := ⟨fun a b => instBEqOp.beq a.key b.key⟩

/-! ## What operators do to memory -/

def Op.destroyMap : Op -> List (Nat × List Nat)
  | .elemwise _ ps _ => ps.map fun (o, i) => (o, [i])
  | .incSubtensor _ true .. | .advIncSubtensor1 true _ | .mrgUniform _ _ true | .outputGuard => [(0, [0])]
  | .blas b =>
    match b with
    | .gemv true | .cGemv true | .gemm true | .ger true | .cGer true | .scipyGer true => [(0, [0])]
    | _ => []
  | .sparse s =>
    match s with
    | .remove0 true => [(0, [0])]
    | .addSDCode _ true => [(0, [3])]
    | .usmmCscDense true => [(0, [6])]
    | _ => []
  | .symbolic s => s.destroys
  | _ => []

def Op.viewMap : Op -> List (Nat × List Nat)
  | .dimShuffle _ _ true => [(0, [0])]
  | .view | .outputGuard | .rebroadcast _ | .specifyShape | .disconnectedGrad
  | .considerConstant | .zeroGrad | .undefinedGrad | .gradClip .. | .gradScale .. | .print .. | .assert _ | .reshape ..
  | .flatten _ | .subtensor _ | .extractDiag _ _ _ true | .contiguous | .default
  | .linalg (.hint _) => [(0, [0])]
  | .join v => if v == -1 then [] else [(0, [(1 + v).toNat])]
  | .sparse s =>
    match s with
    | .csmProperties => [(0, [0]), (1, [0]), (2, [0])]
    | .csm _ | .transpose | .ensureSortedIndices true | .rowScaleCSC => [(0, [0])]
    | _ => []
  | .ifElse n true .. => (List.range n).map fun i => (i, [i + 1])
  | .symbolic s => s.views
  | _ => []

/-!
## Types of variables

A variable's type fixes which values it may take. Tensors carry an element type and, for each
dimension, whether its length is known to be one (`broadcastable`); such dimensions stretch.
-/

/-- What compiled code is built with. -/
structure BuildSpec where
  (headers headerDirs libraries libDirs compileArgs : List String := [])
deriving BEq

/-- A pointer type of compiled code. -/
structure CDataSpec extends BuildSpec where
  ctype : String
  freefunc : Option String := none
  extraSupportCode : String := ""
  version : Lit := .none
deriving BEq

inductive Ty
  | tensor (dtype : DType) (bcast : List Bool) (name : Option String)
  | scalar (dtype : DType)
  | sparse (format : SparseFormat) (dtype : DType)
  | generic | noneType | slice | randomState | disconnected
  | null (why : String)
  | cdata (s : CDataSpec)
  /-- a type that accepts every value, known by a label -/
  | plain (label : String)
deriving Inhabited

namespace Ty

/-- Equality of types. Names of tensor types and the reason of a null type do not count. -/
def same : Ty -> Ty -> Bool
  | tensor d b _, tensor d' b' _ => d == d' && b == b'
  | scalar d, scalar d' => d == d'
  | sparse f d, sparse f' d' => f == f' && d == d'
  | generic, generic | noneType, noneType | slice, slice | randomState, randomState
  | disconnected, disconnected | null _, null _ => true
  | cdata a, cdata b | plain a, plain b => a == b
  | _, _ => false

instance : BEq Ty := ⟨fun t u => same t u && same u t⟩

def dtype? : Ty -> Option DType
  | tensor d _ _ | scalar d | sparse _ d => some d
  | _ => none

def bcast? : Ty -> Option (List Bool)
  | tensor _ b _ => some b
  | _ => none

def ndim? : Ty -> Option Nat
  | tensor _ b _ => some b.length
  | scalar _ => some 0
  | sparse .. => some 2
  | _ => none

def isTensor : Ty -> Bool
  | tensor .. => true
  | _ => false

def isScalar : Ty -> Bool
  | scalar _ => true
  | _ => false

def isSparse : Ty -> Bool
  | sparse .. => true
  | _ => false

def ofTensor (d : DType) (b : List Bool) : Ty := tensor d b none

end Ty

/-- The name of a broadcastable pattern. -/
def bcastName (b : List Bool) : String :=
  match b with
  | [] => "scalar"
  | [false] => "vector"
  | [false, true] => "col"
  | [true, false] => "row"
  | [false, false] => "matrix"
  | b => if b.any id then tupleText (b.map boolText) else s!"{b.length}D"

def Ty.text : Ty -> String
  | .tensor d b n =>
    match n with
    | some s => if s.isEmpty then s!"TensorType({d.name}, {bcastName b})" else s
    | none => s!"TensorType({d.name}, {bcastName b})"
  | .scalar d => d.name
  | .sparse f d => s!"Sparse[{d.name}, {f.name}]"
  | .generic => "Generic"
  | .noneType => "NoneTypeT"
  | .slice => "slice"
  | .randomState => "RandomStateType"
  | .disconnected => "DisconnectedType"
  | .null _ => "NullType"
  | .cdata s => s!"CDataType\x7b{s.ctype}\x7d"
  | .plain l => "T" ++ l

end TensorGraph
