import TensorGraph.Rewrite.Rules

/-! # The library's database of passes -/

namespace TensorGraph

/-- The databases of local rules. -/
inductive Shelf
  | useless | canonical | stable | special | uncanonical | device
deriving DecidableEq

/-- How an entry is filed on a shelf. -/
structure Filing where
  shelf : Shelf
  tags : List String
  bare : Bool := false
  final : Bool := false

variable (s : Shelf) (tags : List String)

def in_ (tags : List String := []) : Filing := { shelf := s, tags := "fast_run" :: tags }
def last : Filing := { shelf := s, tags := "fast_run" :: tags, final := true }
def bare : Filing := { shelf := s, tags, bare := true }
def untagged : Filing := { shelf := s, tags := [] }

def filings : List (String × List Filing) :=
  let c := in_ .canonical
  let s := in_ .special
  let t := in_ .stable
  let u := in_ .useless
  let n := in_ .uncanonical
  let gpu := ["fast_compile_gpu"]
  let fast := ["fast_compile"]
  let cf := in_ .canonical fast
  let g := in_ .special gpu
  let x := in_ .special ["cxx_only"]
  [ ("local_0_dot_x", [t, c]),
    ("local_useless_dimshuffle_in_reshape local_lift_transpose_through_dot", [c]),
    ("local_dimshuffle_lift", [c, s]),
    ("local_tensor_scalar_tensor local_scalar_tensor_scalar", [s, c]),
    ("local_elemwise_alloc", [in_ .special ["local_alloc_elemwise"]]),
    ("local_fill_sink", [c]),
    ("local_fill_to_alloc", [t, s]),
    ("local_useless_fill", [u, cf]),
    ("local_useless_alloc", [u, c, t, s]),
    ("local_canonicalize_alloc", [c, t, s]),
    ("local_shape_to_shape_i local_track_shape_i local_subtensor_inc_subtensor", [c, s]),
    ("local_subtensor_remove_broadcastable_index", [c, s]),
    ("local_subtensor_make_vector", [u, in_ .canonical gpu, s]),
    ("local_useless_elemwise", [s, cf, u]),
    ("local_alloc_unary", [s]),
    ("local_cast_cast local_func_inv", [s, c]),
    ("local_remove_useless_assert", [s]),
    ("local_remove_all_assert", [bare .canonical ["unsafe"], bare .stable ["unsafe"], bare .special ["unsafe"]]),
    ("local_upcast_elemwise_constant_inputs", [c]),
    ("local_useless_inc_subtensor", [s, c, u]),
    ("local_set_to_inc_subtensor", [c]),
    ("local_useless_slice", [s, c, u]),
    ("local_useless_subtensor", [s, c]),
    ("local_subtensor_lift", [cf]),
    ("local_subtensor_merge", [s, c]),
    ("local_subtensor_of_alloc", [s, c, u]),
    ("local_subtensor_of_dot", [s, t, c]),
    ("local_IncSubtensor_serialize", [c]),
    ("local_incsubtensor_of_zeros", [in_ .stable ["local_incsubtensor_of_allocs"], in_ .canonical ["local_incsubtensor_of_allocs"]]),
    ("local_incsubtensor_of_zeros_to_setsubtensor", [s, c]),
    ("local_setsubtensor_of_constants", [in_ .stable ["local_setsubtensor_of_allocs"], in_ .canonical ["local_setsubtensor_of_allocs"]]),
    ("local_adv_sub1_adv_inc_sub1", [t, c]),
    ("local_useless_inc_subtensor_alloc", [u, c, t, s]),
    ("local_useless_rebroadcast", [s, c, u]),
    ("local_rebroadcast_lift", [s, c]),
    ("local_join_1", [u, c, s]),
    ("local_join_empty", [c, s, u]),
    ("local_join_make_vector", [u, c, s]),
    ("local_sumsqr2dot", [s, c]),
    ("local_expm1", [c, s, t]),
    ("local_useless_switch", [s, in_ .canonical ["fast_compile", "local_remove_switch_const_cond"],
      in_ .useless ["local_remove_switch_const_cond"]]),
    ("local_mul_switch_sink", [c, s]),
    ("local_div_switch_sink local_merge_switch_same_cond", [c]),
    ("local_useless_tile", [t, c, u]),
    ("local_useless_split", [s, c, u]),
    ("local_flatten_lift", [t, c]),
    ("local_reshape_chain", [c]),
    ("local_useless_reshape", [t, c, u]),
    ("local_reshape_to_dimshuffle", [c]),
    ("local_reshape_lift", [t, c]),
    ("remove_tensor_copy local_mul_canonizer local_neg_to_mul", [c]),
    ("local_sum_prod_mul_by_scalar local_elemwise_sub_zeros", [s]),
    ("local_useless_elemwise_comparison", [c, t, s, u]),
    ("local_sum_prod_div_dimshuffle", [s, c]),
    ("local_sum_prod_all_to_none local_op_of_op", [c]),
    ("local_reduce_join", [n, c]),
    ("local_useless_reduce", [in_ .useless ["local_cut_useless_reduce"], in_ .canonical ["fast_compile", "local_cut_useless_reduce"]]),
    ("local_reduce_broadcastable", [s, n, c]),
    ("local_opt_alloc local_neg_neg local_neg_div_neg", [s]),
    ("local_mul_zero", [c]),
    ("local_div_to_inv", [s]),
    ("local_inv_canon local_pow_canonicalize", [c]),
    ("local_mul_to_sqr", [s]),
    ("local_intdiv_by_one", [c]),
    ("local_zero_div", [s, c]),
    ("local_pow_specialize", [s]),
    ("local_pow_specialize_device", [in_ .device]),
    ("local_mul_specialize local_add_specialize", [s]),
    ("local_abs_lift", [c]),
    ("local_abs_merge", [s]),
    ("local_log1p local_log_add", [s, t]),
    ("local_add_canonizer", [c]),
    ("local_greedy_distributor", [t, c]),
    ("topo_constant_folding", [last .canonical fast, last .uncanonical fast, last .stable fast, last .special fast]),
    ("local_one_plus_erf local_one_minus_erf local_one_minus_erf2 local_one_plus_neg_erf local_erf_minus_one", [c, t, s]),
    ("local_one_minus_erfc local_one_minus_erfc2 local_one_minus_erfc3 local_one_add_neg_erfc local_erf_neg_minus_one", [c, t, s]),
    ("local_erf_neg_minus_one2", [c, t, s]),
    ("local_log_erfc local_grad_log_erfc_neg", [s, t]),
    ("local_useless_composite", [c]),
    ("local_view_op", [in_ .useless fast, cf]),
    ("local_merge_alloc", [s, t, c, u]),
    ("local_useless_topk", [in_ .useless fast]),
    ("conv_opts batchnorm_opts", [in_ .device ["fast_compile", "fast_run"]]),
    ("local_ultra_fast_sigmoid local_hard_sigmoid", [untagged .uncanonical]),
    ("logsigm_to_softplus log1msigm_to_softplus log1pexp_to_softplus log1p_neg_sigmoid, local_exp_over_1_plus_exp", [t]),
    ("local_sigm_times_exp local_inv_1_plus_exp", [t]),
    ("local_logsoftmax local_logsoftmax_grad", [in_ .special ["stabilize", "fast_compile"]]),
    ("local_softmax_with_bias", [g]),
    ("crossentropy_to_crossentropy_with_softmax_with_bias", [g, in_ .stable gpu]),
    ("local_softmax_grad_to_crossentropy_with_softmax_grad",
      [in_ .special ["fast_compile_gpu", "local_crossentropy_to_crossentropy_with_softmax_grad"]]),
    ("local_argmax_pushdown local_advanced_indexing_crossentropy_onehot", [g]),
    ("local_advanced_indexing_crossentropy_onehot_grad graph_merge_softmax_with_crossentropy_softmax", [g]),
    ("local_useless_crossentropy_softmax_1hot_with_bias_dx_alloc", [c, t, s]),
    ("local_max_and_argmax local_max_to_min local_alloc_dimshuffle local_reshape_dimshuffle local_dimshuffle_alloc", [n]),
    ("local_dimshuffle_subtensor", [n]),
    ("local_csm_properties_csm", [s]),
    ("local_dense_from_sparse_sparse_from_dense", [s, cf]),
    ("local_usmm", [s]),
    ("local_usmm_csc_dense_inplace", [in_ .special ["cxx_only", "inplace"]]),
    ("local_usmm_csx local_mul_s_d local_mul_s_v local_structured_add_s_v local_sampling_dot_csr", [x]),
    ("remove_hint_nodes transinv_to_invtrans", [c]),
    ("inv_as_solve", [t]),
    ("tag_solve_triangular", [c, t]),
    ("no_transpose_symmetric", [s, t, c]),
    ("psd_solve_with_chol", [t]),
    ("local_det_chol", [s, t]),
    ("local_log_prod_sqr local_log_pow", [s, t, c]) ].flatMap fun (names, fs) => (names.splitOn " ").map (·, fs)

def ruleNumbers : Std.HashMap String Nat :=
  allRules.zipIdx.foldl (fun m (r, i) => if m.contains r.name then m else m.insert r.name i) ∅

def rulePass? (name : String) : Option PassId := ruleNumbers[name]?.map fun i => ⟨i⟩

/-- A pattern rule of the library. -/
structure PatternRule where
  name : String
  (input output : Value)
  tracks : List Op := []
  getNodes : Value := .null
  skip : Value := .null
  multiple : Bool := true

def app (o : Op) (args : Values) : Value := .tuple (o :: args)

def erfPatterns : List PatternRule :=
  let erfOp := tensorOp "erf" .erf
  let add a b := app addOp [a, b]
  let sub b := app subOp [1, b]
  let neg a := app negOp [a]
  let minus a := app mulOp [.int (-1), a]
  let erf a := app erfOp [a]
  let erfc a := app erfcOp [a]
  let x := "x"
  let readers := .api "tensor.opt.get_clients"
  let secondReaders := .api "tensor.opt.get_clients2"
  [ ("local_one_plus_erf", add 1 (erf x), erfc (neg x), [erfOp], readers),
    ("local_one_minus_erf", sub (erf x), erfc x, [], .null),
    ("local_one_minus_erf2", add 1 (minus (erf x)), erfc x, [], .null),
    ("local_one_plus_neg_erf", add 1 (neg (erf x)), erfc x, [erfOp], secondReaders),
    ("local_erf_minus_one", add (.int (-1)) (erf x), neg (erfc x), [erfOp], readers),
    ("local_one_minus_erfc", sub (erfc x), erf x, [erfcOp], readers),
    ("local_one_minus_erfc2", add 1 (neg (erfc x)), erf x, [erfcOp], secondReaders),
    ("local_one_minus_erfc3", add 1 (minus (erfc x)), erf x, [erfcOp], secondReaders),
    ("local_one_add_neg_erfc", add 1 (neg (erfc x)), erf x, [erfcOp], secondReaders),
    ("local_erf_neg_minus_one", add (.int (-1)) (erfc (neg x)), erf x, [erfcOp], readers),
    ("local_erf_neg_minus_one2", add (.int (-1)) (erfc (minus x)), erf x, [erfcOp], readers) ].map
    fun (name, input, output, tracks, getNodes) => { name, input, output, tracks, getNodes }

def sigmoidPatterns (one : Value) : List PatternRule :=
  let log a := app logOp [a]
  let log1p a := app (tensorOp "log1p" .log1p) [a]
  let neg a := app negOp [a]
  let sigmoid := app Rules.sigmoidOp ["x"]
  let softplus a := app Rules.softplusOp [a]
  let skip := .api "tensor.nnet.sigm._skip_mul_1"
  [ ("logsigm_to_softplus", log sigmoid, neg (softplus (neg "x")), skip),
    ("log1msigm_to_softplus", log (app subOp [one, sigmoid]), neg (softplus "x"), skip),
    ("log1pexp_to_softplus", log1p (app expOp ["x"]), softplus "x", .null),
    ("log1p_neg_sigmoid,", log1p (neg sigmoid), neg (softplus "x"), .null) ].map
    fun (name, input, output, skip) => { name, input, output, skip }

def updatePattern (scale : Value) : PatternRule :=
  { name := "local_usmm", input := app subOp ["z", app mulOp [scale, app (.sparse .dot) ["x", "y"]]],
    output := app (.sparse .usmm) [app negOp ["alpha"], "x", "y", "z"], multiple := false }

def PatternRule.pass (r : PatternRule) (label : Option String) : Pass :=
  { body := .pattern r.input r.output r.multiple r.skip (r.tracks.map .op) r.getNodes, label }

def topoPass (rule : PassId) (label : Option String) (ignoreNew : Bool := false) : M PassId :=
  newPass { body := .topo rule "in_to_out" ignoreNew .warnInplace, label }

abbrev RegistryNames := List (String × Value)

def buildRegistry : M RegistryNames := do
  openTables
  for r in allRules do
    let _ <- newPass { body := .rule r.name, label := some (r.label.getD r.name) }
  let sequence := newDatabase { kind := .sequence .warn }
  let equilibrium ignoreNew := newDatabase { kind := .equilibrium ignoreNew false }
  let group := newDatabase { kind := .localGroup false false false }
  let pass p := .pass <$> newPass p
  let merge := pass { body := .merge }
  let global rule (label : Option String := none) :=
    pass { body := .global rule ((ruleBook.globals[rule]?.map (·.cls)).getD rule), label }
  let rule name := (rulePass? name).getD ⟨0⟩
  let topo name (ignoreNew : Bool := false) : M DbEntry := .pass <$> topoPass (rule name) (some name) ignoreNew
  let silent name := .pass <$> topoPass (rule name) none
  let topos rules (label : Option String) := do
    return .pass (<- topoPass (<- newPass { body := .group (rules.map rule) false false false }) label)
  let db d := return .db d
  let file d (rows : List (String × Float × List String × M DbEntry)) : M Unit :=
    for (name, at_, tags, e) in rows do registerEntry d name (<- e) (some at_) tags
  let run := ["fast_run"]
  let fast := ["fast_run", "fast_compile"]
  let inplace := ["fast_run", "inplace"]
  let merging := ["fast_run", "merge"]
  let scan := ["fast_run", "scan"]
  let main <- sequence
  let useless <- newDatabase { kind := .localGroup true true false }
  let canonical <- equilibrium false
  let [stable, special, uncanonical, device, scan1, scan2] <- (List.replicate 6 true).mapM equilibrium | pure []
  let [fusion, blas, scanSeq] <- (List.replicate 3 ()).mapM fun _ => sequence | pure []
  let conv <- group
  let norm <- group
  -- entries that a database has before it is filed are not filed under its name
  file fusion [
    ("local_add_mul_fusion", 0, ["fast_run", "fusion"], pass { body := .fusion (rule "local_add_mul_fusion") }),
    ("composite_elemwise_fusion", 1, ["fast_run", "fusion"], pass { body := .fusion (rule "local_elemwise_fusion") }) ]
  file main [
    ("merge1", 0, "fast_compile" :: merging, merge),
    ("useless", 0.6, fast, .db <$> newDatabase { kind := .topo useless "in_to_out" false .warnInplace }),
    ("merge1.1", 0.65, "fast_compile" :: merging, merge),
    ("canonicalize", 1, "canonicalize_db" :: fast, db canonical),
    ("merge1.2", 1.2, "fast_compile" :: merging, merge),
    ("Print1.21", 1.21, [], pass { body := .printGraph "Post-canonicalize" }),
    ("stabilize", 1.5, run, db stable),
    ("Print1.51", 1.51, [], pass { body := .printGraph "Post-stabilize" }),
    ("specialize", 2, ["fast_run", "fast_compile_gpu"], db special),
    ("uncanonicalize", 3, run, db uncanonical),
    ("specialize_device", 48.6, fast, db device),
    ("merge2", 49, merging, merge),
    ("add_destroy_handler", 49.5, inplace, global "AddDestroyHandler"),
    ("merge3", 100, merging, merge),
    ("inline_ofg_expansion", -0.01, fast, topo "inline_ofg_expansion"),
    ("CheckStackTrace", -1, [], global "CheckStackTraceOptimization"),
    ("inplace_elemwise_opt", 75, ["inplace_opt", "inplace_elemwise_optimizer", "fast_run", "inplace"],
      global "InplaceElemwiseOptimizer"),
    ("ShapeOpt", 0.1, fast, global "ShapeOptimizer"),
    ("UnShapeOpt", 10, [], global "UnShapeOptimizer"),
    ("local_fill_to_alloc", 1.51, run, topo "local_fill_to_alloc"),
    ("local_elemwise_alloc", 1.52, run, topo "local_elemwise_alloc"),
    ("local_alloc_empty_to_zeros", 49.3, ["alloc_empty_to_zeros"], topo "local_alloc_empty_to_zeros"),
    ("pre_local_IncSubtensor_serialize", 0.99, run, topo "local_IncSubtensor_serialize"),
    ("local_log_sum_exp", 1.6, run, topo "local_log_sum_exp" true),
    ("elemwise_fusion", 49, ["fast_run", "fusion", "local_elemwise_fusion", "FusionOptimizer"], db fusion),
    -- products of matrices
    ("BlasOpt", 1.7, fast, db blas),
    ("InplaceBlasOpt", 70, "blas_opt_inplace" :: inplace,
      topos ["local_inplace_gemm", "local_inplace_gemv", "local_inplace_ger"] (some "blas_opt_inplace")),
    -- networks
    ("AbstractConvCheck", 48.7, fast, .pass <$> topoPass (rule "local_abstractconv_check") (some "AbstractConvCheck")),
    ("crossentropy_to_crossentropy_with_softmax", 2.01, ["fast_run", "xent", "fast_compile_gpu"],
      global "crossentropy_to_crossentropy_with_softmax"),
    ("c_blas_destructive", 70, "c_blas" :: inplace,
      topos ["make_c_ger_destructive", "make_c_gemv_destructive"] (some "c_blas_destructive")),
    ("make_scipy_blas_destructive", 70, inplace, topo "make_ger_destructive"),
    ("random_make_inplace", 99, inplace, topo "random_make_inplace" true),
    -- loops
    ("scan_eqopt1", 0.05, scan, db scan1),
    ("scan_eqopt2", 1.6, scan, db scan2),
    ("scanOp_save_mem", 1.61, scan, global "ScanSaveMem"),
    ("scanOp_make_inplace", 75, "inplace" :: scan, global "ScanInplaceOptimizer"),
    -- sparse matrices, lists, random numbers, choices
    ("local_addsd_ccode", 61, run, pass { body := .topo (rule "local_addsd_ccode") "in_to_out" false .raise }),
    ("HintsOpt", -1, fast, global "HintsOptimizer"),
    ("random_make_inplace_mrg", 99, inplace, topo "mrg_random_make_inplace" true),
    ("cond_make_inplace", 95, inplace, topo "cond_make_inplace" true) ]
  file main (["local_inplace_setsubtensor", "local_inplace_incsubtensor1", "local_inplace_sparse_block_gemv",
    "local_inplace_sparse_block_outer", "local_inplace_remove0", "local_inplace_addsd_ccode", "typed_list_inplace_opt"].map
    fun name => (name, 60, inplace, silent name))
  registerEntry canonical "merge" (<- merge) none fast false false true
  let toVectors := ["local_gemm_to_gemv", "local_gemm_to_ger", "local_dot22_to_ger_or_gemv", "local_dimshuffle_lift"].map rule
  file blas [
    ("local_dot_to_dot22", 0, fast, topo "local_dot_to_dot22"),
    ("gemm_optimizer", 10, run, global "GemmOptimizer"),
    ("local_gemm_to_gemv", 15, run,
      pass { body := .equilibrium { rules := toVectors, ignoreNewTrees := false, maxUseRatio := some 5 } }),
    ("local_dot22_to_dot22scalar", 11, run, topo "local_dot22_to_dot22scalar"),
    ("use_c_blas", 20, ["fast_run", "c_blas"], topos ["use_c_ger", "use_c_gemv"] none),
    ("scipy_blas", 100, run, topo "use_scipy_ger") ]
  let unused := "remove_constants_and_unused_inputs_scan"
  file scan1 [("all_pushout_opt", 1, scan, db scanSeq)]
  file scanSeq [
    ("scanOp_remove_constants_and_unused_inputs0", 1, unused :: scan, topo unused true),
    ("scanOp_pushout_nonseqs_ops", 2, scan, global "PushOutNonSeqScan"),
    ("scanOp_pushout_seqs_ops", 3, scan, global "PushOutSeqScan"),
    ("scan_pushout_dot1", 4, "more_mem" :: scan, global "PushOutDot1"),
    ("scanOp_pushout_output", 5, "more_mem" :: scan, global "PushOutScanOutput") ]
  file scan2 [
    ("constant_folding_for_scan2", 1, scan, topo "constant_folding" true),
    ("scanOp_remove_constants_and_unused_inputs1", 2, unused :: scan, topo unused true),
    ("scanOp_merge", 4, scan, global "ScanMerge"),
    ("scanop_remove_constants_and_unused_inputs2", 5, unused :: scan, topo unused true),
    ("scanOp_merge_inouts", 6, "scan_merge_inouts" :: scan, topo "scan_merge_inouts" true),
    ("scanOp_remove_constants_and_unused_inputs3", 8, unused :: scan, topo unused true) ]
  -- the shelves
  let matching (name test : String) := newDict [("pattern", name), ("constraint", .api test)]
  let one <- matching "y" "tensor.nnet.sigm._is_1"
  let scale <- matching "alpha" "sparse.opt._is_scale"
  let patterns path (named : Bool) (rs : List PatternRule) := rs.mapM fun r => do
    return (path, r.name, <- pass (r.pass (if named then some r.name else none)))
  let written := (<- patterns "tensor.opt." true erfPatterns) ++ (<- patterns "tensor.nnet.sigm." false (sigmoidPatterns one))
    ++ (<- patterns "sparse.opt." false [updatePattern scale])
  let mulCanonizer <- newPass { body := .canonizer products }
  let addCanonizer <- newPass { body := .canonizer sums }
  let softmax := "crossentropy_to_crossentropy_with_softmax_with_bias"
  let specials := written.map (·.2) ++ [("conv_opts", .db conv), ("batchnorm_opts", .db norm),
    ("remove_tensor_copy", <- pass { body := .opRemove (bareOp .identity) }),
    ("local_mul_canonizer", .pass mulCanonizer), ("local_add_canonizer", .pass addCanonizer),
    ("topo_constant_folding", .pass (<- topoPass (rule "constant_folding") (some "topo_constant_folding") true)),
    (softmax, <- global softmax (some softmax))]
  let shelf : Shelf -> DbId
    | .useless => useless
    | .canonical => canonical
    | .stable => stable
    | .special => special
    | .uncanonical => uncanonical
    | .device => device
  for (name, fs) in filings do
    let some e := specials.lookup name <|> (rulePass? name).map .pass | pure ()
    for f in fs do
      registerEntry (shelf f.shelf) name e none (if f.shelf == .useless then "last" :: f.tags else f.tags) f.bare f.final
  let fileRules d (tags rules : List String) := for name in rules do
    registerEntry d name (.pass (rule name)) none (tags ++ ["fast_compile", "fast_run"])
  fileRules conv ["conv_gemm"] ["local_abstractconv_gemm", "local_abstractconv_gradweight_gemm",
    "local_abstractconv_gradinputs_gemm", "local_abstractconv3d_gemm", "local_abstractconv3d_gradweight_gemm",
    "local_abstractconv3d_gradinputs_gemm"]
  fileRules conv [] ["local_conv2d_cpu", "local_conv2d_gradweight_cpu", "local_conv2d_gradinputs_cpu"]
  fileRules norm [] ["local_abstract_batch_norm_train", "local_abstract_batch_norm_train_grad",
    "local_abstract_batch_norm_inference"]
  -- groups that callers may use
  let grouped canonizer (label : String) : M Value := do
    topoPass (<- newPass { body := .group [canonizer, rule "local_fill_sink"] true false false }) (some label)
  return [("compile.mode.optdb", .database main), ("compile.optdb", .database main),
    ("compile.mode.local_useless", .database useless),
    ("tensor.opt.local_mul_canonizer", .pass mulCanonizer), ("tensor.opt.local_add_canonizer", .pass addCanonizer),
    ("tensor.opt.mul_canonizer", <- grouped mulCanonizer "mul_canonizer_groups"),
    ("tensor.opt.add_canonizer", <- grouped addCanonizer "add_canonizer_group"),
    ("tensor.nnet.opt.conv_groupopt", conv), ("tensor.nnet.bn.bn_groupopt", norm),
    ("tensor.blas.blas_optdb", blas), ("scan.opt.scan_eqopt1", scan1),
    ("scan.opt.scan_seqopt1", scanSeq), ("scan.opt.scan_eqopt2", scan2)]
    ++ written.map fun (path, n, e) => (path ++ (n.dropEndWhile (· == ',')).toString, e.toValue)

def library : Session × RegistryNames :=
  let (a, _) := ({} : Arena).push { type := .noneType, name := some "NoneConst", role := .constant .null }
  let (a, _) := a.push { type := .generic, role := .constant .null }
  match buildRegistry .empty { arena := a } with
  | .ok names s => (s, names)
  | .error _ s => (s, [])

end TensorGraph
