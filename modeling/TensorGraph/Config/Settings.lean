import TensorGraph.Core.Session

/-! # Settings -/

namespace TensorGraph

/-- What a parameter accepts. -/
inductive ParamKind
  | choice (options : List String)
  | text
  | int
  | positive
  | natural
  | float
  | bool
  | device
  | contexts
  | mode
  | lazy

structure Param where
  name : String
  kind : ParamKind
  value : Value
  mutable : Bool := true

variable (name : String)

/-- Parameters of one kind with one default, by name. -/
def alike (kind : ParamKind) (v : Value) (names : List String) (mutable : Bool := true) : List Param :=
  names.map (⟨·, kind, v, mutable⟩)

/-- Parameters with the same options, the first of which is the default. -/
def choices (names options : List String) : List Param := alike (.choice options) (options.headD "") names

def parameters : List Param :=
  let chosen := ["guess_once", "guess_on_shape_change", "time_once", "time_on_shape_change"]
  choices ["floatX"] ["float64", "float32", "float16"]
  ++ choices ["compute_test_value", "compute_test_value_opt"] ["off", "ignore", "warn", "raise", "pdb"]
  ++ choices ["cast_policy"] ["custom", "numpy+floatX"]
  ++ choices ["warn_float64", "assert_no_cpu_op"] ["ignore", "warn", "raise", "pdb"]
  ++ choices ["deterministic"] ["default", "more"]
  ++ choices ["gpuarray__sched"] ["default", "multi", "single"]
  ++ choices ["dnn__conv__algo_fwd"] (["small", "none", "large", "fft", "fft_tiling", "winograd", "winograd_non_fused"] ++ chosen)
  ++ choices ["dnn__conv__algo_bwd_data"] (["none", "deterministic", "fft", "fft_tiling", "winograd", "winograd_non_fused"] ++ chosen)
  ++ choices ["dnn__conv__algo_bwd_filter"] (["none", "deterministic", "fft", "small", "winograd_non_fused", "fft_tiling"] ++ chosen)
  ++ choices ["dnn__conv__precision"] ["as_input_f32", "as_input", "float16", "float32", "float64"]
  ++ choices ["dnn__enabled"] ["auto", "True", "False", "no_check"]
  ++ choices ["optimizer"] ["o4", "o3", "o2", "o1", "unsafe", "fast_run", "fast_compile", "merge", "None"]
  ++ choices ["on_opt_error"] ["warn", "raise", "pdb", "ignore"]
  ++ choices ["on_unused_input"] ["raise", "warn", "ignore"]
  ++ choices ["exception_verbosity"] ["low", "high"]
  ++ choices ["NanGuardMode__action"] ["raise", "warn", "pdb"]
  ++ choices ["on_shape_error"] ["warn", "raise"]
  ++ choices ["cycle_detection"] ["regular", "fast"]
  ++ choices ["check_stack_trace"] ["off", "log", "warn", "raise"]
  ++ choices ["linker"] ["vm", "py", "vm_nogc"]
  ++ alike .bool true
    ["pickle_test_value", "gpuarray__single_stream", "unpickle_function", "allow_gc", "tensor__local_elemwise_fusion",
      "experimental__local_alloc_elemwise", "experimental__local_alloc_elemwise_assert", "check_input",
      "NanGuardMode__nan_is_error", "NanGuardMode__inf_is_error", "NanGuardMode__big_is_error", "DebugMode__check_py",
      "DebugMode__check_finite", "DebugMode__warn_input_not_reused", "profiling__time_thunks", "gpu__local_elemwise_fusion",
      "gpuelemwise__sync", "warn__inc_subtensor1_opt", "scan__allow_output_prealloc", "blas__check_openmp"]
  ++ alike .bool false
    ["conv__assert_shape", "print_global_stats", "reoptimize_unpickled_function", "magma__enabled", "optimizer_verbose",
      "nocleanup", "cmodule__warn_no_version", "cmodule__remove_gxx_opt", "cmodule__compilation_warning", "cmodule__debug",
      "lib__amblibm", "experimental__unpickle_gpu_on_cpu", "print_test_value", "DebugMode__check_c",
      "profiling__min_peak_memory", "profiling__debugprint", "profiling__ignore_first_call", "openmp", "profile",
      "profile_optimizer", "profile_memory", "cache_optimizations", "warn__identify_1pexp_bug", "warn__argmax_pushdown_bug",
      "warn__gpusum_01_011_0111_bug", "warn__sum_sum_bug", "warn__sum_div_dimshuffle_bug", "warn__subtensor_merge_bug",
      "warn__gpu_set_subtensor1", "warn__vm_gc_bug", "warn__signal_conv2d_interface", "warn__reduce_join",
      "warn__inc_set_subtensor1", "warn__round", "scan__allow_gc", "scan__debug"]
  ++ alike .text ""
    ["cuda__root", "cuda__include_path", "dnn__base_path", "dnn__include_path", "dnn__library_path", "dnn__bin_path",
      "magma__include_path", "magma__library_path", "cxx", "gcc__cxxflags", "DebugMode__check_preallocated_output",
      "metaopt__optimizer_excluding", "metaopt__optimizer_including", "blas__ldflags"]
  ++ alike .int 0 ["traceback__limit", "traceback__compile_limit", "DebugMode__check_strides", "metaopt__verbose"]
  ++ alike .positive 20 ["profiling__n_apply", "profiling__n_ops"]
  -- those that are fixed once the library is loaded
  ++ alike .bool false ["force_device", "cmodule__preload_cache"] false
  ++ alike .text "" ["ctc__root", "optimizer_excluding", "optimizer_including", "optimizer_requiring"] false
  ++ [ ⟨"device", .device, "cpu", false⟩,
    ⟨"init_gpu_device", .device, "", false⟩,
    ⟨"contexts", .contexts, "", false⟩,
    ⟨"print_active_device", .bool, true, false⟩,
    ⟨"gpuarray__preallocate", .float, .float 0, false⟩,
    ⟨"cmodule__age_thresh_use", .int, 2073600, false⟩,
    ⟨"compile__wait", .positive, 5, false⟩,
    ⟨"compile__timeout", .natural, 120, false⟩,
    ⟨"tensor__cmp_sloppy", .int, 0, false⟩,
    ⟨"warn__ignore_bug_before", .choice ["0.9", "None", "all", "0.3", "0.4", "0.4.1", "0.5", "0.6",
      "0.7", "0.8", "0.8.1", "0.8.2", "0.10", "1.0", "1.0.1", "1.0.2", "1.0.3", "1.0.4", "1.0.5"],
      "0.9", false⟩,
    ⟨"mode", .mode, "Mode", true⟩,
    ⟨"tensor__insert_inplace_optimizer_validate_nb", .int, (-1 : Int), true⟩,
    ⟨"openmp_elemwise_minsize", .int, 200000, true⟩,
    ⟨"DebugMode__patience", .positive, 10, true⟩,
    ⟨"DebugMode__check_preallocated_output_ndim", .positive, 4, true⟩,
    ⟨"profiling__output_line_width", .positive, 512, true⟩,
    ⟨"profiling__min_memory_size", .natural, 1024, true⟩,
    ⟨"profiling__destination", .text, "stderr", true⟩,
    ⟨"unittests__rseed", .text, "666", true⟩,
    ⟨"optdb__position_cutoff", .float, .float floatInf, true⟩,
    ⟨"optdb__max_use_ratio", .float, .float 8, true⟩,
    ⟨"vm__lazy", .lazy, .null, true⟩ ]

def parameter? : Option Param := parameters.find? (·.name == name)

def setting : M Value := fun _ s =>
  .ok ((s.settings.lookup name).getD (((parameter? name).map (·.value)).getD .null)) s

def settingText : M String := do return ((<- setting name).str?).getD ""

def settingFlag : M Bool := do
  let .bool b <- setting name | pure false
  pure b

def settingInt : M Int := do return ((<- setting name).int?).getD 0

def settingFloat : M Float := do
  match <- setting name with
  | .float x => pure x
  | .int i => return floatOfInt i
  | _ => pure 0

def floatX : M DType := fun _ s =>
  match s.settings.lookup "floatX" with
  | some (.str "float32") => .ok .float32 s
  | some (.str "float16") => .ok .float16 s
  | _ => .ok .float64 s

def typeName (s : String) : M String := do
  if s == "floatX" then return (<- floatX).name else return s

def setSetting (v : Value) : M Unit :=
  M.modify fun s => { s with settings := alistSet name v s.settings }

def withSettings (changes : Table Value) (x : M α) : M α := do
  let old := (<- (M.get : M Session)).settings
  for (k, v) in changes do setSetting k v
  ensuring x (M.modify fun s => { s with settings := old })

def withoutTests (x : M α) : M α := withSettings [("compute_test_value", "off")] x

/-- The routine holds one old value, which a run inside a run replaces. -/
def routineWithoutTests (x : M α) : M α := do
  let old <- setting "compute_test_value"
  M.modify fun s => { s with held := alistSet name old s.held }
  setSetting "compute_test_value" "off"
  ensuring x do setSetting "compute_test_value" (((<- (M.get : M Session)).held.lookup name).getD "off")

end TensorGraph
