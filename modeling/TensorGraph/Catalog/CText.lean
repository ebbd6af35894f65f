import TensorGraph.CText.Scalar
import TensorGraph.Catalog.Variable

/-! # The names of generated text -/

namespace TensorGraph

/-- A pair of element types: of the data, and in which is computed. -/
structure Precision where
  (data compute : String)

namespace Precision

variable (p : Precision)

def half : Bool := p.data == "float16" && p.compute == "float16"
def pseudoHalf : Bool := p.data == "float16" && p.compute == "float32"
def single : Bool := p.data == "float32" && p.compute == "float32"
def double : Bool := p.data == "float64" && p.compute == "float64"

def supports (version : Nat) (role : ConvRole) (algorithm : String) (p : Precision) (ndim : Int) : M Bool := do
  if p.half && role != .forward && version == 5 then return false
  let known := match role with
    | .forward => ["small", "large", "fft_tiling", "winograd"]
    | .gradWeights => ["deterministic", "small"] ++ if version == 5 then [] else ["fft_tiling"]
    | .gradInputs => ["deterministic", "fft_tiling", "winograd"]
  if !(["none", "fft", "winograd_non_fused"] ++ known).contains algorithm then badKey
  let flat := ndim == 2
  let narrow := p.pseudoHalf || p.single
  let allowed := match algorithm with
    | "none" | "small" => true
    | "deterministic" => flat || role == .gradInputs
    | "large" => flat
    | "fft" | "winograd" => flat && narrow
    | "fft_tiling" => flat && (narrow || version != 5 && p.double) || ndim == 3 && role != .gradWeights
    | _ => flat && !p.double
  return allowed && (!p.half || role == .forward && flat && ["small", "winograd_non_fused"].contains algorithm)

end Precision

def deviceEntries : Table ApiEntry := under "gpuarray" [
  cls "elemwise.GpuCAReduceCuda" "scalar_op, axis=None, reduce_mask=None, dtype=None, acc_dtype=None, pre_scalar_op=None"
    <| of6 fun s a m d c (p : Option Value) => do
    let pre <- p.mapM scalarOpArg
    let r <- makeReduction .typed (<- scalarOpArg s) a d c
    if let some p := pre then check ((<- p.arity) == some 1)
    return Op.device (.reduce r m pre),
  cls "elemwise.GpuCAReduceCPY" "scalar_op, axis=None, dtype=None, acc_dtype=None" <| of4 fun s a d c => do
    let s <- scalarOpArg s
    if s.kind.neutral?.isNone then failValue "No identity on scalar op"
    return Op.device (.portableReduce (<- makeReduction .typed s a d c)),
  inverse "GpuErfinv" false, inverse "GpuErfcinv" true,
  cls3 "linalg.GpuCusolverSolve" "A_structure='general', trans='N', inplace=False" fun s t i => do
    check (["general", "symmetric"].contains s)
    return Op.device (.solve s t i),
  cls2 "linalg.GpuCublasTriangularSolve" "lower=True, trans='N'" fun l t => return Op.device (.triangularSolve t l),
  opClass "nnet.GpuSoftmax" (.device (.softmax false)), opClass "nnet.GpuSoftmaxWithBias" (.device (.softmax true)),
  test "true_half" (·.half), test "pseudo_half" (·.pseudoHalf), test "float" (·.single), test "double" (·.double),
  fn1 "cudnn_defs.get_definitions" "cudnn_version=None" fun (v : Option Int) =>
    let k := v.getD 0 / 1000
    let k := if k == 5 || k == 6 then k else 7
    newRecord (if k == 5 then "CuDNNV51" else s!"CuDNNV{k}") [("version", k)] ]
where
  test (name : String) (f : Precision -> Bool) : ApiRow :=
    fn2 s!"cudnn_defs.is_{name}_config" "dtype, precision" fun d p => return f ⟨d, p⟩
  inverse (name : String) (complement : Bool) : ApiRow :=
    cls2 s!"elemwise.{name}" "output_types_preference=None, name=None" fun _ n => return Op.device (.erfinv complement n)

def reductionArg (o : Op) : M Reduction :=
  match o with
  | .device (.reduce r ..) | .device (.portableReduce r) => pure r
  | _ => noAttr

def deviceAttributes : Table (Value -> M Value) := ["GpuCAReduceCuda", "GpuCAReduceCPY"].map fun c =>
  attr_ s!"{c}.axis" fun v => do return .ofOption (fun l => .tuple (valuesOf l)) (<- reductionArg (<- arg v)).axis

def deviceMethods : Table Callable := ["GpuCAReduceCuda", "GpuCAReduceCPY"].flatMap fun c => under c [
  meth2 "_acc_dtype" "idtype" fun o (d : Option DType) => do
    return (<- accumulator (<- reductionArg o) (d.getD default)).name,
  meth2 "_output_dtype" "idtype" fun o (d : Option DType) => do
    return ((<- reductionArg o).dtype.getD (d.getD default).widened).name,
  meth2 "supports_c_code" "inputs" fun (o : Op) (_ : Value) => do
    let .device (.reduce _ (some mask) _) := o | badType
    if mask.isEmpty || mask.any fun k => k != 0 && k != 1 then return false
    noAttr ]
  ++ ["CuDNNV51", "CuDNNV6", "CuDNNV7"].flatMap fun c => under c [
  meth2 "get_supported_dtype_configs" "check_runtime=None" fun _ f => do
    let half <- if f.isNull then pure true else truthOf (<- callValue f ["float16", "float16"] [])
    return .tuple ((if half then [both "float16"] else []) ++ [.tuple ["float16", "float32"], both "float32", both "float64"]),
  convolves "fwd" .forward, convolves "bwd_filter" .gradWeights, convolves "bwd_data" .gradInputs ]
where
  both (d : String) : Value := .tuple [d, d]
  convolves (name : String) (role : ConvRole) : MethodRow :=
    meth s!"{name}_algo_supports_dtype_config" "algo, dtype, precision, ndim" <| of5 fun r a d p n => do
      Precision.supports (<- arg (<- field r "version")) role a ⟨d, p⟩ n

open CText

def faultPairs (e : Fault) : M Value :=
  newDict (("error", e.kind.name) :: (e.shown?.toList.map fun m => ("message", .str m)))

def partsOf (n : NodeId) (only : Option Values) : M Value := do
  let ins <- insOf n
  let text :=
    { ins := ins.map fun v => (v, "i" ++ toString (ins.idxOf v))
      outs := (<- outsOf n).zipIdx.map fun (v, k) => (v, s!"o{k}"), fail := "\x7bFAIL\x7d" }
  let names := partNames.filter fun p => only.all (·.any (·.str? == some p))
  let o <- opOf n
  newDict (<- names.filterMapM fun p => do
    try
      let v <- part o text p
      if <- truthOf v then return some (.str p, v) else return none
    catch e => if e.isA .methodNotDefined then return none else return some (.str p, <- faultPairs e))

def subText (sub : Value) (name : String) : M String := do
  let some v := lookupKey name (<- pairsOf sub) | badKey
  textOf v

def fillAbout (name sub : Value) (template : String) : M Value := do
  let fail <- if (template.splitOn "$F").length > 1 then subText sub "fail" else pure ""
  return about (<- strArg name) fail template

def textEntries : Table ApiEntry := [
  cls "graph.type.CDataType" ("ctype, freefunc=None, headers=(), header_dirs=(), libraries=(), lib_dirs=(), compile_args=(), "
      ++ "extra_support_code='', version=None") fun
    | [c, f, hs, hds, ls, lds, args, extra, v] => do
      let some ctype := c.str? | unmet
      if !f.isNull && f.str?.isNone then unmet
      return .type (.cdata { ctype, freefunc := f.str?, headers := <- arg hs, headerDirs := <- arg hds, libraries := <- arg ls,
                             libDirs := <- arg lds, compileArgs := <- arg args, extraSupportCode := <- strArg extra,
                             version := v.toLit })
    | _ => badType,
  fn2 "c_parts" "node, only=None" fun v only => do
    let n <- match v with
      | .var x => do
        let some n <- ownerOf x | noAttr
        pure n
      | v => arg v
    partsOf n only ]

variable (name params : String)

def typeMethod (f : TypeText -> Values -> M Value) : MethodRow :=
  meth s!"type.{name}" params fun
    | .type t :: args => do
      let some t := typeText? t | noAttr
      f t args
    | _ => badType

def typeTemplate (f : TypeText -> Bool -> M String) : MethodRow :=
  typeMethod name ("name, sub" ++ params) fun t args => do
    fillAbout (args.getD 0 .null) (args.getD 1 .null) (<- f t (<- truthOf (args.getD 2 .null)))

def typeList (f : TypeText -> List String) : MethodRow :=
  meth2 s!"type.{name}" "**kwargs" fun t _ => do
    let some x := typeText? t | noAttr
    if t matches .cdata _ then return .tuple (valuesOf (f x)) else listOf (f x)

def textMethods : Table Callable := [
  typeTemplate "c_declare" ", check_input=True" fun t c => return t.declare c,
  typeTemplate "c_init" "" fun t _ => return t.init,
  typeTemplate "c_extract" ", check_input=True, **kwargs" fun t c => t.extract c,
  typeTemplate "c_extract_out" ", check_input=True, **kwargs" fun t c => t.extractOut c,
  typeTemplate "c_cleanup" "" fun t _ => return t.cleanup,
  typeTemplate "c_sync" "" fun t _ => t.sync,
  typeMethod "c_support_code" "**kwargs" fun t _ => return t.support,
  typeMethod "c_init_code" "**kwargs" fun t _ => listOf t.start,
  typeList "c_headers" (·.headers), typeList "c_libraries" (·.libraries), typeList "c_compile_args" (·.compileArgs),
  typeList "c_header_dirs" (·.headerDirs), typeList "c_lib_dirs" (·.libDirs),
  typeMethod "c_is_simple" "" fun _ _ => return false,
  typeMethod "c_element_type" "" fun t _ => return t.element,
  typeMethod "c_code_cache_version" "" fun t _ => return .tuple t.version,
  meth2 "type.c_literal" "data" fun t v => do
    let .type (.scalar d) := t | pure ""
    if d.isComplex then return .null
    if d == .bool then return if <- truthOf v then "1" else "0"
    return (<- textOf v) ]

end TensorGraph
