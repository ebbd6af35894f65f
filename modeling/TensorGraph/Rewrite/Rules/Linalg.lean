import TensorGraph.Linalg.Ops
import TensorGraph.Rewrite.Rules.Basic

/-! # Rules for linear algebra -/

namespace TensorGraph.Rules

open SparseExpr

variable (g : GraphId) (n : NodeId)

def partsOfAssembled : Offer := do
  let (.sparse .csmProperties, [x]) <- readNode n | deny
  let some (.sparse (.csm _), parts) <- made? x | deny
  proposeAll ((parts.zip (<- outsOf n)).mapM fun (p, o) => do Tensor.patternBroadcast p (<- bcastOf o))

def remove0Over : Offer := do
  let .sparse (.remove0 false) <- opOf n | deny
  propose (apply1 (op (.remove0 true)) (<- insOf n))

def compiledSum (inplace : Bool) : Rule := fun _ n => do
  let (.sparse .addSD, [x, y]) <- readNode n | deny
  if (<- settingText "cxx") == "" then return .no
  if inplace then
    if (<- commonType [<- dtypeOf x, <- dtypeOf y]) != (<- dtypeOf y) then return .none
  propose (apply1 (op (.addSDCode (<- formatOf x) inplace)) [x, y])

def denseOfDense : Offer := do
  let (.sparse (.denseFromSparse _), [x]) <- readNode n | skip
  let some (.sparse (.sparseFromDense _), ins) <- made? x | skip
  return .all ins

def structuredDotParts : Offer := do
  let (.sparse .structuredDot, [a, b]) <- readNode n | deny
  match <- formatOf a with
  | .csc =>
    let [d, i, p, s] <- properties a | deny
    propose do apply1 (op .structuredDotCSC) [d, i, p, <- Tensor.atPos s 0, b]
  | .csr =>
    let [d, i, p, _] <- properties a | deny
    propose (apply1 (op .structuredDotCSR) [d, i, p, b])
  | _ => deny

def updateOver : Offer := do
  let .sparse (.usmmCscDense false) <- opOf n | skip
  propose (apply1 (op (.usmmCscDense true)) (<- insOf n))

def updateParts : Offer := do
  let (.sparse .usmm, [alpha, x, y, z]) <- readNode n | deny
  if !(<- isSparse x) || (<- isSparse y) then return .no
  if (<- formatOf x) != .csc then return .no
  let [d, i, p, s] <- properties x | deny
  let rows <- Tensor.atPos s 0
  let out <- commonType [<- dtypeOf alpha, <- dtypeOf x, <- dtypeOf y, <- dtypeOf z]
  if out != .float32 && out != .float64 then return .no
  if (<- dtypeOf y) != out then return .no
  propose (apply1 (op (.usmmCscDense false)) [alpha, d, i, p, rows, y, z])

def compiledPlaces : Offer := do
  let .sparse .csmGrad <- opOf n | deny
  propose (apply1 (op .csmGradC) (<- insOf n))

def sparseFirst (x y : VarId) : M (VarId × VarId) := do if <- isSparse x then return (x, y) else return (y, x)

def productParts : Offer := do
  let (.sparse .mulSD, [x, y]) <- readNode n | deny
  let (s, d) <- sparseFirst x y
  if (<- ndimOf d) != 2 then return .no
  let (f, o) <- match <- formatOf s with
    | .csc => pure (.csc, op .mulSDCSC)
    | .csr => pure (.csr, op .mulSDCSR)
    | _ => raise .notImplemented
  if (<- dtypeOf x) != (<- dtypeOf y) then return .none
  let r <- apply1 o [<- data s, <- indices s, <- indptr s, d]
  propose do apply1 (op (.csm f)) [r, <- indices s, <- indptr s, <- shape s]

def vectorParts (old new : SparseOp) : Rule := fun _ n => do
  let (.sparse o, [x, y]) <- readNode n | deny
  if o != old then return .no
  let (s, d) <- sparseFirst x y
  if (<- ndimOf d) != 1 || (<- formatOf s) != .csr then return .no
  let [v, i, p, shp] <- properties s | deny
  propose do apply1 (op (.csm .csr)) [<- apply1 (op new) [v, i, p, d], i, p, shp]

def samplingDotParts : Offer := do
  if (<- settingText "blas__ldflags") == "" then return .none
  let (.sparse .samplingDot, [x, y, p]) <- readNode n | deny
  if (<- formatOf p) != .csr then return .no
  let [d, i, ptr, shp] <- properties p | deny
  let [zd, zi, zp] <- applyAll (op .samplingDotCSR) [x, y, d, i, ptr, <- Tensor.atPos shp 1]
    | return .no
  propose (apply1 (op (.csm .csr)) [zd, zi, zp, shp])

def sparseRules : List LocalRule :=
  [ rule "local_csm_properties_csm" [op .csmProperties] partsOfAssembled,
    rule "local_inplace_remove0" ["sparse.Remove0"] remove0Over,
    rule "local_inplace_addsd_ccode" ["sparse.AddSD"] (compiledSum true),
    rule "local_dense_from_sparse_sparse_from_dense" ["sparse.DenseFromSparse"] denseOfDense,
    rule "local_addsd_ccode" ["sparse.AddSD"] (compiledSum false),
    rule "local_structured_dot" [op .structuredDot] structuredDotParts,
    rule "local_usmm_csc_dense_inplace" [op (.usmmCscDense false)] updateOver,
    rule "local_usmm_csx" [op .usmm] updateParts,
    rule "local_csm_grad_c" [op .csmGrad] compiledPlaces,
    rule "local_mul_s_d" [op .mulSD] productParts,
    rule "local_mul_s_v" [op .mulSV] (vectorParts .mulSV .mulSVCSR),
    rule "local_structured_add_s_v" [op .structuredAddSV] (vectorParts .structuredAddSV .structuredAddSVCSR),
    rule "local_sampling_dot_csr" [op .samplingDot] samplingDotParts ]

open Tensor

def inverseOf? (v : VarId) : M (Option VarId) := do
  let some (.linalg .matrixInverse, [x]) <- made? v | pure none
  return some x

def isTransposition (order : List Place) : Bool := order == [.dim 1, .dim 0]

def transposedInverse : Offer := do
  let (.dimShuffle b order i, [a]) <- readNode n | skip
  if !isTransposition order then return .none
  let some x <- inverseOf? a | skip
  propose do apply1 (.linalg .matrixInverse) [<- apply1 (.dimShuffle b order i) [x]]

def inverseAsSolution : Offer := do
  match <- opOf n, <- insOf n with
  | .dot, [l, r] | .blas .dot22, [l, r] =>
    let solve a b := Linalg.solveWith "general" false a b
    if let some x <- inverseOf? l then return <- propose (solve x r)
    let some x <- inverseOf? r | skip
    let x <- if (<- Linalg.hintOf x "symmetric").holds then pure x else transpose x
    propose do transpose (<- solve x (<- transpose l))
  | _, _ => skip

def generalSolve : Op := .linalg (.solve "general" false false false)

def triangularSystem : Offer := do
  let some [a, b] <- inputsIf generalSolve n | skip
  let kind lower := if lower then "lower_triangular" else "upper_triangular"
  match <- made? a with
  | some (.linalg (.cholesky lower ..), _) => propose (Linalg.solveWith (kind lower) false a b)
  | some (.dimShuffle _ order _, [t]) =>
    if !isTransposition order then return .none
    let some (.linalg (.cholesky lower ..)) <- madeBy? t | skip
    propose (Linalg.solveWith (kind (!lower)) false a b)
  | _ => skip

def definiteSystem : Offer := do
  let some [a, b] <- inputsIf generalSolve n | skip
  if !(<- Linalg.hintOf a "psd").holds then return .none
  let c <- apply1 (.linalg (.cholesky true false "raise")) [a]
  let y <- Linalg.solveWith "lower_triangular" false c b
  propose do Linalg.solveWith "upper_triangular" false (<- transpose c) y

def determinantByFactor : Offer := do
  let (.linalg .det, [x]) <- readNode n | skip
  for (c, _) in <- clientsOf g x do
    let .node m := c | noAttr
    let .linalg (.cholesky ..) <- opOf m | pure ()
    let d <- Linalg.diagonalOf (<- outOf m)
    return .one (<- prod (<- operate .pow d 2))
  skip

def logOfProduct : Offer := do
  let some [x] <- inputsIf logOp n | skip
  let some (.reduce r, p :: _) <- made? x | skip
  if r.cls != .prod || !(<- Linalg.isPositive p) then return .none
  propose do sum (<- log p) r.axis

def logOfPower : Offer := do
  let some [x] <- inputsIf logOp n | skip
  let some [base, exponent] <- madeWith? x powOp | skip
  let .var v <- operate .mul exponent (<- log base) | skip
  return .one v

def linalgRules : List LocalRule :=
  [ rule "remove_hint_nodes" ["Hint"] fun _ _ => skip,
    rule "transinv_to_invtrans" ["DimShuffle"] transposedInverse,
    rule "inv_as_solve" ["Dot", "Dot22"] inverseAsSolution,
    rule "tag_solve_triangular" ["Solve"] triangularSystem,
    rule "no_transpose_symmetric" ["DimShuffle"] fun _ _ => skip,
    anyRule "psd_solve_with_chol" definiteSystem,
    anyRule "local_det_chol" determinantByFactor,
    rule "local_log_prod_sqr" [logOp] logOfProduct,
    rule "local_log_pow" [logOp] logOfPower ]

end TensorGraph.Rules
